import JenkinsAdmission.Markup

/-!
# Console output

What is shown to a person: messages of five levels, a spinner while a check runs, and a panel that
sums up the verdict. Every message starts with the symbol of its level between tags.

Names that others have chosen are put in highlighted or escaped. `Markup.IsOwn` is what this aims
at: a markup with no live tags but those of this library.
-/

namespace JenkinsAdmission

/-- The level of a message. -/
inductive Level
  /-- for information -/
  | info
  /-- all went well -/
  | success
  /-- something to look into -/
  | warning
  /-- something failed -/
  | error
  /-- something starts -/
  | action
  deriving DecidableEq

namespace Level

/-- The name of the tag of a level. -/
def tag : Level → Text
  | info => "info"
  | success => "success"
  | warning => "warning"
  | error => "error"
  | action => "info"

/-- The symbol of a level. -/
def symbol : Level → Text
  | info => "ℹ"
  | success => "✓"
  | warning => "⚠"
  | error => "✗"
  | action => "→"

end Level

/-- A text between the tags of a name. -/
def tagged (name t : Text) : Text :=
  "[" ++ name ++ "]" ++ t ++ "[/" ++ name ++ "]"

/-- A verdict with the facts behind it. -/
structure Panel where
  /-- the title -/
  title : Text
  /-- labels and values -/
  rows : List (Text × Text)
  /-- whether the verdict is good -/
  ok : Bool
  deriving DecidableEq

namespace Panel

/-- The title as markup. -/
def heading (p : Panel) : Text := tagged "bold" p.title

/-- The colour of the border. -/
def border (p : Panel) : Text := if p.ok then "green" else "red"

/-- The rows as markup. -/
def cells (p : Panel) : List (Text × Text) :=
  p.rows.map fun (label, value) => (label ++ ":", Markup.escape value)

end Panel

/-- Something shown on the console. -/
inductive Display
  /-- a message -/
  | message (level : Level) (body : Text)
  /-- a spinner -/
  | spinner (body : Text)
  /-- a panel -/
  | panel (p : Panel)
  deriving DecidableEq

/-- The markup of a message. -/
def Level.line (level : Level) (body : Text) : Text :=
  tagged level.tag level.symbol ++ " " ++ body

/-- The markup of the text beside a spinner. -/
def spinnerStatus (body : Text) : Text := tagged "info" body

/-- The shape of the spinner. -/
def spinnerShape : Text := "dots"

/-- The markup in something that is shown. -/
def Display.markups : Display → List Text
  | message level body => [level.line body]
  | spinner body => [spinnerStatus body]
  | panel p => p.heading :: p.cells.flatMap fun cell => [cell.1, cell.2]

/-! ## Tags of our own -/

namespace Markup

/-- The tags that this library writes. -/
def ownTags : List Text :=
  [("[info]" : Text), "[/info]", "[success]", "[/success]", "[warning]", "[/warning]", "[error]",
    "[/error]", "[highlight]", "[/highlight]", "[bold]", "[/bold]"]

/-- A markup with our own tags only, which leaves what is open around it alone. -/
structure IsOwn (t : Text) : Prop where
  /-- no tags but our own are live -/
  own : ∀ tag ∈ liveTags t, tag ∈ ownTags
  /-- it closes nothing that it has not opened -/
  settles : ∀ opened, ∃ more, settle opened (liveTags t) = some (more ++ opened)

end Markup

end JenkinsAdmission
