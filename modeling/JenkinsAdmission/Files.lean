import JenkinsAdmission.Breakdown
import JenkinsAdmission.Unicode.Utf8

/-!
# Files

What stands at a path: nothing, bytes, or something that cannot be read.

To the system a path is a sequence of bytes, cut into **steps** at its slashes. A `FileSystem` knows
what stands at the end of some lists of steps from the root, and a place that steps to such an entry
pass through is a directory. A path is followed step by step, from the root if it starts with a
slash and from the working directory otherwise. Only a directory has steps below it, and two dots
lead back to the directory above.
-/

namespace JenkinsAdmission

/-- Why there are no bytes at a path. -/
inductive ReadFailure
  /-- a directory stands there -/
  | directory
  /-- a step leads through something that is no directory -/
  | notDirectory
  /-- the path or one of its steps is longer than any name -/
  | nameTooLong
  deriving DecidableEq

/-- The wording of a failure, with the number of the system in front. -/
def ReadFailure.message : ReadFailure → Text
  | directory => "[Errno 21] Is a directory"
  | notDirectory => "[Errno 20] Not a directory"
  | nameTooLong => "[Errno 36] File name too long"

/-- What stands at a path. -/
inductive FileState
  /-- nothing -/
  | missing
  /-- something that cannot be read -/
  | unreadable (why : ReadFailure)
  /-- a file with its bytes -/
  | bytes (b : Bytes)
  deriving DecidableEq

namespace Path

/-- The bytes of a path. A byte that is no part of a character is written as a surrogate, `DC80` for
the byte `80` and so on, and no other surrogate has a byte. -/
def bytes? (path : Text) : Option Bytes :=
  List.flatten <$> path.mapM fun
    | .scalar c => some (String.utf8EncodeChar c)
    | .surrogate s =>
      if 0x480 ≤ s.val ∧ s.val < 0x500 then some [UInt8.ofNat (s.val - 0x400)] else none

/-- A path for the eye, with a replacement character for bytes that are no character. -/
def shown (path : Text) : Text :=
  match bytes? path with
  | some bytes => Text.ofChars (Utf8.decodeLossy bytes)
  | none => path

/-- Why the system refuses even to look for a path. -/
def breakdown? (path : Text) : Option Breakdown :=
  if (bytes? path).isNone then some .unencodablePath
  else if path.contains (.scalar '\x00') then some .nullInPath
  else none

/-- A slash. -/
def slash : UInt8 := 0x2F

/-- A single dot, which leads nowhere. -/
def here : Bytes := [0x2E]

/-- Two dots, which lead to the directory above. -/
def above : Bytes := [0x2E, 0x2E]

/-- The steps of a path. Empty steps and single dots lead nowhere. -/
def steps (path : Bytes) : List Bytes :=
  (path.splitOn slash).filter fun s => !s.isEmpty && s != here

/-- Whether a path starts at the root. -/
def isAbsolute (path : Bytes) : Bool :=
  path.head? == some slash

/-- Whether a path insists on a directory, by a slash at its end or a dot after it. -/
def wantsDirectory (path : Bytes) : Bool :=
  match (path.splitOn slash).getLast? with
  | some last => last.isEmpty || last == here
  | none => false

/-- The number of bytes that no path reaches. -/
def limit : Nat := 4096

/-- The number of bytes of the longest step. -/
def stepLimit : Nat := 255

end Path

/-- What stands somewhere in a file system. -/
inductive FileEntry
  /-- a directory -/
  | directory
  /-- a file with its bytes -/
  | file (b : Bytes)
  deriving DecidableEq

/-- Files and directories. -/
structure FileSystem where
  /-- what stands at the end of the steps from the root -/
  entries : List (List Bytes × FileEntry)
  /-- the steps to the working directory -/
  workingDirectory : List Bytes

namespace FileSystem

/-- What stands at a place. The working directory exists, and so does what lies on the way to
something. -/
def entry? (fs : FileSystem) (place : List Bytes) : Option FileEntry :=
  match fs.entries.lookup place with
  | some entry => some entry
  | none =>
    if (fs.workingDirectory :: fs.entries.map Prod.fst).any place.isPrefixOf then some .directory
    else none

/-- What stands behind further steps from a place. -/
def follow (fs : FileSystem) (wantsDirectory : Bool) (place : List Bytes) :
    List Bytes → FileState
  | [] =>
    match fs.entry? place with
    | none => .missing
    | some .directory => .unreadable .directory
    | some (.file b) => if wantsDirectory then .unreadable .notDirectory else .bytes b
  | step :: rest =>
    match fs.entry? place with
    | none => .missing
    | some (.file _) => .unreadable .notDirectory
    | some .directory =>
      if step = Path.above then fs.follow wantsDirectory place.dropLast rest
      else if step.length > Path.stepLimit then .unreadable .nameTooLong
      else fs.follow wantsDirectory (place ++ [step]) rest

/-- What stands at a path. -/
def state (fs : FileSystem) (path : Text) : FileState :=
  match Path.bytes? path with
  | none => .missing
  | some [] => .missing
  | some bytes =>
    if bytes.length ≥ Path.limit then .unreadable .nameTooLong
    else
      fs.follow (Path.wantsDirectory bytes)
        (if Path.isAbsolute bytes then [] else fs.workingDirectory) (Path.steps bytes)

/-- The directories below the root of any system. -/
def topDirectories : List String :=
  ["bin", "boot", "dev", "etc", "home", "lib", "lib64", "media", "mnt", "opt", "proc", "root", "run",
    "sbin", "srv", "sys", "tmp", "usr", "var"]

/-- What any system has: its directories, and a file that is always empty. -/
def standardEntries : List (List Bytes × FileEntry) :=
  topDirectories.map (fun name => ([Bytes.ofString name], .directory))
    ++ [([Bytes.ofString "dev", Bytes.ofString "null"], .file [])]

/-- A system with nothing but some entries in a fresh directory for temporary files, the working
directory. -/
def temporary (entries : List (List Bytes × FileEntry)) : FileSystem :=
  let directory := [Bytes.ofString "tmp", Bytes.ofString "work"]
  { entries := entries.map (fun (steps, entry) => (directory ++ steps, entry)) ++ standardEntries
    workingDirectory := directory }

end FileSystem

end JenkinsAdmission
