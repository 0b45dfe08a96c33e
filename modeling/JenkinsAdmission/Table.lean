/-!
# Tables

A finite map as a list of entries in the order of first insertion. Writing under a key that is
already there keeps its place and replaces its value. Three equations say everything about the
values of a table: `get?_insert`, `get?_erase` and `get?_nil`.
-/

namespace JenkinsAdmission

/-- A finite map in the order of first insertion. -/
abbrev Table (κ α : Type) := List (κ × α)

namespace Table

variable {κ α : Type} [DecidableEq κ]

/-- The value under a key. -/
def get? (t : Table κ α) (k : κ) : Option α :=
  match t with
  | [] => none
  | (l, a) :: rest => if l = k then some a else get? rest k

/-- A table with a value written under a key. -/
def insert (t : Table κ α) (k : κ) (a : α) : Table κ α :=
  match t with
  | [] => [(k, a)]
  | (l, b) :: rest => if l = k then (l, a) :: rest else (l, b) :: insert rest k a

/-- A table without a key. -/
def erase (t : Table κ α) (k : κ) : Table κ α :=
  t.filter fun e => decide (e.1 ≠ k)

/-- The table of a list of writes, of which later ones win. -/
def ofWrites (writes : List (κ × α)) : Table κ α :=
  writes.foldl (fun t e => t.insert e.1 e.2) []

@[simp] theorem get?_nil (k : κ) : get? ([] : Table κ α) k = none := rfl

theorem get?_insert (t : Table κ α) (k l : κ) (a : α) :
    (t.insert k a).get? l = if k = l then some a else t.get? l := by
  induction t with
  | nil => simp [insert, get?]
  | cons e rest ih =>
    obtain ⟨m, b⟩ := e
    by_cases h : m = k
    · subst h; simp only [insert, get?, ↓reduceIte]; split <;> rfl
    · by_cases hl : m = l
      · subst hl; simp [insert, get?, h, Ne.symm h]
      · simp [insert, get?, h, hl, ih]

theorem get?_erase (t : Table κ α) (k l : κ) :
    (t.erase k).get? l = if k = l then none else t.get? l := by
  induction t with
  | nil => simp [erase, get?]
  | cons e rest ih =>
    obtain ⟨m, b⟩ := e
    simp only [erase] at ih
    by_cases h : m = k
    · subst h
      by_cases hl : m = l <;> simp_all [erase, get?]
    · by_cases hl : m = l
      · subst hl; simp [erase, get?, h, Ne.symm h]
      · simpa [erase, get?, h, hl] using ih

end Table

end JenkinsAdmission
