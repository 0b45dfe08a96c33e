import JenkinsAdmission.Proofs.Outcome
import JenkinsAdmission.Yaml.Lexer

/-!
# What stops the lexer

The lexer goes through the characters of a source until it is at their end or comes to a fault.
Which faults are there? It may find a rule broken, it may come to where the source is cut off, or to
one of two things that are well formed and mean nothing (`Source.Stops`): an escape by the number of
no code point, and a version with too many digits.

Every reader leaves the cursor in the source that it was in (`Cursor.In`), so what it comes to
stands in that source. `Yaml.stops_of_tokenize` is what follows for the tokens as a whole.
-/

namespace JenkinsAdmission.Yaml

/-- The cursor is at a place in a source. -/
structure Cursor.In (c : Cursor) (s : Source) : Prop where
  /-- what is left is left of the source -/
  suffix : c.rest <:+ s.chars
  /-- it is cut off by the same fault -/
  fault : c.fault = s.fault

/-- What stops a reader in a source. -/
inductive Source.Stops (s : Source) : Fault → Prop
  /-- a broken rule -/
  | rule (rule : Malformation) : s.Stops (.malformed rule)
  /-- the fault that cuts the source off -/
  | cut {fault : Fault} (h : s.fault = some fault) : s.Stops fault
  /-- an escape by a number, without a code point of this number -/
  | escape {letter : Char} {digits : List Char} {values : List Nat} {fault : Fault}
    (hescape : '\\' :: letter :: digits <:+: s.chars)
    (hletter : escapeWidth? letter = some digits.length)
    (hdigits : digits.mapM Cursor.hexValue? = some values)
    (hnumber : Cursor.codePoint (Cursor.hexadecimal values) = .error fault) : s.Stops fault
  /-- a number with too many digits -/
  | version {digits : List Char} (hdigits : digits <:+: s.chars)
    (hdigit : digits.all Char.isDigit = true) (hlong : Numeral.maxDigits < digits.length) :
    s.Stops (.broken .badNumeral)

theorem ends_refuse {α : Type} {P : α → Prop} {s : Source} (rule : Malformation) :
    Ends s.Stops P (refuse rule) :=
  .error (.rule rule)

namespace Cursor.In

variable {s : Source} {c : Cursor}

/-! ## Steps -/

/-- Asking for more characters than there are comes to where the source is cut off. -/
theorem reach (h : c.In s) (n : Nat) : Ends s.Stops (fun _ => True) (c.reach n) := by
  rw [Cursor.reach]
  split
  · next fault hfault =>
    split
    · exact .error (.cut (h.fault ▸ hfault))
    · exact .ok trivial
  · exact .ok trivial

/-- What is looked at is what stands there. -/
theorem peekAt (h : c.In s) (n : Nat) : Ends s.Stops (· = c.rest[n]?) (c.peekAt n) :=
  .bind (h.reach _) fun _ _ => .ok rfl

/-- A step takes one character off. -/
theorem after (h : c.In s) : c.after.In s ∧ c.after.rest = c.rest.tail := by
  obtain ⟨rest, fault, index, line, column⟩ := c
  cases rest with
  | nil => exact ⟨h, rfl⟩
  | cons ch rest =>
    have hrest : rest <:+ s.chars := (List.suffix_cons ch rest).trans h.suffix
    simp only [Cursor.after]
    split <;> exact ⟨⟨hrest, h.fault⟩, rfl⟩

/-- Several steps take as many off. -/
theorem repeat_after (h : c.In s) (n : Nat) :
    (n.repeat Cursor.after c).In s ∧ (n.repeat Cursor.after c).rest = c.rest.drop n := by
  induction n with
  | zero => exact ⟨h, rfl⟩
  | succ n ih =>
    obtain ⟨hin, hrest⟩ := ih.1.after
    refine ⟨hin, ?_⟩
    rw [Nat.repeat, hrest, ih.2, List.tail_drop]

/-- Passing characters stays in the source, behind what was passed. -/
theorem forward_rest (h : c.In s) (n : Nat) :
    Ends s.Stops (fun d => d.In s ∧ d.rest = c.rest.drop n) (c.forward n) :=
  .bind (h.reach _) fun _ _ => .ok (h.repeat_after n)

theorem forward (h : c.In s) (n : Nat) : Ends s.Stops (·.In s) (c.forward n) :=
  (h.forward_rest n).imp fun _ hd => hd.1

theorem advance (h : c.In s) : Ends s.Stops (·.In s) c.advance := h.forward 1

theorem skip (h : c.In s) (among : Char → Bool) : Ends s.Stops (·.In s) (c.skip among) :=
  h.forward _

theorem skipSpaces (h : c.In s) : Ends s.Stops (·.In s) c.skipSpaces := h.skip _

theorem skipLine (h : c.In s) : Ends s.Stops (·.In s) c.skipLine := h.skip _

/-- A line end may be made of two characters. -/
theorem lineEnd? (h : c.In s) : Ends s.Stops (∀ p ∈ ·, p.2.In s) c.lineEnd? := by
  rw [Cursor.lineEnd?]
  split
  · split
    · refine .bind h.advance fun d hd => .ok ?_
      rintro _ ⟨⟩
      exact hd
    · exact .ok nofun
  · exact .ok nofun

theorem skipComment (h : c.In s) : Ends s.Stops (·.In s) c.skipComment := by
  rw [Cursor.skipComment]
  split
  · exact h.skipLine
  · exact .ok h

theorem finishLine (h : c.In s) (rule : Malformation) :
    Ends s.Stops (·.In s) (c.finishLine rule) := by
  refine .bind h.skipSpaces fun c h => .bind h.skipComment fun c h => ?_
  split
  · exact h.advance
  · exact ends_refuse rule

theorem atMarker (h : c.In s) (ch : Char) : Ends s.Stops (fun _ => True) (c.atMarker ch) := by
  refine .bind (h.reach 3) fun _ _ => ?_
  split
  · exact .bind (h.peekAt 3) fun _ _ => .ok trivial
  · exact .ok trivial

theorem atDocumentMarker (h : c.In s) : Ends s.Stops (fun _ => True) c.atDocumentMarker := by
  refine .bind (h.atMarker '-') fun _ _ => ?_
  split
  · exact .ok trivial
  · exact h.atMarker '.'

/-! ## Names -/

theorem anchorName (h : c.In s) : Ends s.Stops (·.2.In s) c.anchorName := by
  refine .bind h.advance fun c h => .bind (h.forward _) fun after hafter => ?_
  split
  · exact ends_refuse _
  · split
    · exact .ok hafter
    · exact ends_refuse _

/-- The values of digits are those of the characters at their place. -/
theorem hexDigits (h : c.In s) (rule : Malformation) (i n : Nat) :
    Ends s.Stops (fun values => ((c.rest.drop i).take n).mapM hexValue? = some values ∧
      ((c.rest.drop i).take n).length = n) (c.hexDigits rule i n) := by
  induction n generalizing i with
  | zero => exact .ok ⟨rfl, rfl⟩
  | succ n ih =>
    refine .bind (h.peekAt i) ?_
    rintro _ rfl
    split
    · next digit hdigit =>
      refine .bind (ih (i + 1)) fun values hvalues => .ok ?_
      obtain ⟨ch, hch, hvalue⟩ := Option.bind_eq_some_iff.mp hdigit
      obtain ⟨hi, rfl⟩ := List.getElem?_eq_some_iff.mp hch
      rw [List.drop_eq_getElem_cons hi, List.take_succ_cons, List.mapM_cons, hvalue, hvalues.1]
      exact ⟨rfl, congrArg (· + 1) hvalues.2⟩
    · exact ends_refuse rule

/-- The digits of a number are those that stand there, as many as are asked for. -/
theorem hexNumber (h : c.In s) (width : Nat) (rule : Malformation) :
    Ends s.Stops (fun n => ∃ values, (c.rest.take width).mapM hexValue? = some values ∧
      (c.rest.take width).length = width ∧ n = hexadecimal values) (c.hexNumber width rule) :=
  .bind (h.hexDigits rule 0 width) fun values hvalues => .ok ⟨values, hvalues.1, hvalues.2, rfl⟩

/-- Escaped bytes are read to the last of a row, since they are decoded together. -/
theorem escapedBytes (h : c.In s) (fuel : Nat) :
    Ends s.Stops (·.2.In s) (c.escapedBytes fuel) := by
  induction fuel generalizing c with
  | zero => exact .ok h
  | succ fuel ih =>
    rw [Cursor.escapedBytes]
    split
    · refine .bind h.advance fun c h => .bind (h.hexNumber 2 .badTag) fun n _ => ?_
      refine .bind (h.forward 2) fun c h => .bind (ih h) ?_
      rintro ⟨bytes, c⟩ h
      exact .ok h
    · exact .ok h

theorem tagText (h : c.In s) (fuel : Nat) : Ends s.Stops (·.2.In s) (c.tagText fuel) := by
  induction fuel generalizing c with
  | zero => exact .ok h
  | succ fuel ih =>
    rw [Cursor.tagText]
    split
    · exact .ok h
    · split
      · refine .bind h.advance fun c h => .bind (ih h) ?_
        rintro ⟨text, c⟩ h
        exact .ok h
      · -- escaped bytes are taken together, up to the first other character
        split
        · refine .bind (h.escapedBytes _) ?_
          rintro ⟨bytes, c⟩ h
          simp only
          split
          · exact ends_refuse _
          · refine .bind (ih h) ?_
            rintro ⟨text, c⟩ h
            exact .ok h
        · exact .ok h

theorem tagSuffix (h : c.In s) : Ends s.Stops (·.2.In s) c.tagSuffix := by
  refine .bind (h.tagText _) ?_
  rintro ⟨text, after⟩ hafter
  simp only
  split
  · exact ends_refuse _
  · exact .ok hafter

theorem tagHandle (h : c.In s) (rule : Malformation) :
    Ends s.Stops (·.2.In s) (c.tagHandle rule) := by
  rw [Cursor.tagHandle]
  split
  · exact ends_refuse rule
  · refine .bind (h.peekAt 1) fun _ _ => ?_
    split
    · exact .bind h.advance fun c h => .ok h
    · refine .bind (h.forward _) fun mark hmark => ?_
      split
      · exact .bind hmark.advance fun c h => .ok h
      · exact ends_refuse rule

theorem hasHandle (h : c.In s) : Ends s.Stops (fun _ => True) c.hasHandle := by
  rw [Cursor.hasHandle]
  split
  · exact .ok trivial
  · exact .bind (h.reach _) fun _ _ => .ok trivial

theorem openTagName (h : c.In s) : Ends s.Stops (·.2.In s) c.openTagName := by
  refine .bind (h.peekAt 1) fun next _ => ?_
  split
  · refine .bind (h.forward 2) fun c h => .bind h.tagSuffix ?_
    rintro ⟨suffix, c⟩ h
    simp only
    split
    · exact .bind h.advance fun c h => .ok h
    · exact ends_refuse _
  · -- a handle has a second mark, and an exclamation mark alone has none
    split
    · exact .bind h.advance fun c h => .ok h
    · refine .bind h.hasHandle fun _ _ => ?_
      split
      · refine .bind (h.tagHandle _) ?_
        rintro ⟨handle, c⟩ h
        refine .bind h.tagSuffix ?_
        rintro ⟨suffix, c⟩ h
        exact .ok h
      · refine .bind h.advance fun c h => .bind h.tagSuffix ?_
        rintro ⟨suffix, c⟩ h
        exact .ok h

theorem tagName (h : c.In s) : Ends s.Stops (·.2.In s) c.tagName := by
  refine .bind h.openTagName ?_
  rintro ⟨name, c⟩ h
  simp only
  split
  · exact .ok h
  · exact ends_refuse _

/-! ## Directives -/

theorem word_isPrefix (c : Cursor) (among : Char → Bool) : c.word among <+: c.rest :=
  List.takeWhile_prefix among

/-- A number with too many digits stands in the source. -/
theorem versionNumber (h : c.In s) : Ends s.Stops (·.2.In s) c.versionNumber := by
  refine .bind (h.forward _) fun after hafter => ?_
  split
  · exact ends_refuse _
  · split
    · next hlong =>
      have hdigits : c.word Char.isDigit <:+: s.chars :=
        (word_isPrefix c _).isInfix.trans h.suffix.isInfix
      exact .error (.version hdigits List.all_takeWhile hlong)
    · exact .ok hafter

theorem version (h : c.In s) : Ends s.Stops (·.2.In s) c.version := by
  refine .bind h.skipSpaces fun c h => .bind h.versionNumber ?_
  rintro ⟨major, c⟩ h
  simp only
  split
  · exact ends_refuse _
  · refine .bind h.advance fun c h => .bind h.versionNumber ?_
    rintro ⟨minor, c⟩ h
    simp only
    split
    · exact .ok h
    · exact ends_refuse _

theorem handleDefinition (h : c.In s) : Ends s.Stops (·.2.In s) c.handleDefinition := by
  refine .bind h.skipSpaces fun c h => .bind (h.tagHandle _) ?_
  rintro ⟨name, c⟩ h
  simp only
  split
  · exact ends_refuse _
  · refine .bind h.skipSpaces fun c h => .bind h.tagSuffix ?_
    rintro ⟨start, c⟩ h
    simp only
    split
    · exact .ok h
    · exact ends_refuse _

theorem directiveOf (h : c.In s) (name : List Char) :
    Ends s.Stops (·.2.In s) (c.directiveOf name) := by
  rw [Cursor.directiveOf]
  split
  · exact h.version
  · split
    · exact h.handleDefinition
    · exact .bind h.skipLine fun c h => .ok h

theorem directive (h : c.In s) : Ends s.Stops (·.2.In s) c.directive := by
  refine .bind h.advance fun c h => .bind (h.forward _) fun c h => ?_
  split
  · exact ends_refuse _
  · refine .bind (h.directiveOf _) ?_
    rintro ⟨d, c⟩ h
    exact .bind (h.finishLine _) fun c h => .ok h

/-! ## Block scalars -/

/-- An increment is one digit, if it is given. -/
theorem increment? (h : c.In s) : Ends s.Stops (·.2.In s) c.increment? := by
  rw [Cursor.increment?]
  split
  · split
    · exact ends_refuse _
    · split
      · exact .bind h.advance fun c h => .ok h
      · exact .ok h
  · exact .ok h

theorem indicators (h : c.In s) : Ends s.Stops (·.2.In s) c.indicators := by
  rw [Cursor.indicators]
  split
  · refine .bind h.advance fun c h => .bind h.increment? ?_
    rintro ⟨increment, c⟩ h
    exact .ok h
  · refine .bind h.increment? ?_
    rintro ⟨increment, c⟩ h
    simp only
    split
    · exact .bind h.advance fun c h => .ok h
    · exact .ok h

theorem blockHeader (h : c.In s) : Ends s.Stops (·.2.In s) c.blockHeader := by
  refine .bind h.advance fun c h => .bind h.indicators ?_
  rintro ⟨header, c⟩ h
  simp only
  split
  · exact ends_refuse _
  · exact .bind (h.finishLine _) fun c h => .ok h

theorem leadingLines (h : c.In s) (deepest fuel : Nat) :
    Ends s.Stops (·.2.2.In s) (c.leadingLines deepest fuel) := by
  induction fuel generalizing c deepest with
  | zero => exact .ok h
  | succ fuel ih =>
    refine .bind h.skipSpaces fun c h => .bind h.lineEnd? fun lineEnd hend => ?_
    cases lineEnd with
    | none => exact .ok h
    | some p =>
      refine .bind (ih (hend p rfl) _) ?_
      rintro ⟨others, deepest, c⟩ h
      exact .ok h

theorem skipIndent (h : c.In s) (indent : Nat) : Ends s.Stops (·.In s) (c.skipIndent indent) :=
  h.forward _

theorem blockBreaks (h : c.In s) (indent fuel : Nat) :
    Ends s.Stops (·.2.In s) (c.blockBreaks indent fuel) := by
  induction fuel generalizing c with
  | zero => exact .ok h
  | succ fuel ih =>
    refine .bind (h.skipIndent indent) fun c h => .bind h.lineEnd? fun lineEnd hend => ?_
    cases lineEnd with
    | none => exact .ok h
    | some p =>
      refine .bind (ih (hend p rfl)) ?_
      rintro ⟨others, c⟩ h
      exact .ok h

theorem wholeLine (h : c.In s) : Ends s.Stops (·.2.2.In s) c.wholeLine := by
  refine .bind (h.forward _) fun c h => .bind h.lineEnd? fun lineEnd hend => ?_
  cases lineEnd with
  | none => exact .ok h
  | some p => exact .ok (hend p rfl)

/-- A line of a block scalar is read to its end, and then the next one. -/
theorem blockLines (h : c.In s) (folded : Bool) (chomping : Chomping) (indent : Nat)
    (breaks : List Char) (fuel : Nat) :
    Ends s.Stops (·.2.In s) (c.blockLines folded chomping indent breaks fuel) := by
  induction fuel generalizing c breaks with
  | zero => exact .ok h
  | succ fuel ih =>
    rw [Cursor.blockLines]
    split
    · exact .ok h
    · refine .bind h.wholeLine ?_
      rintro ⟨line, lineEnd, next⟩ hnext
      refine .bind (hnext.blockBreaks _ _) ?_
      rintro ⟨others, next⟩ hnext
      simp only
      split
      · refine .bind (ih hnext _) ?_
        rintro ⟨more, after⟩ hafter
        exact .ok hafter
      · exact .ok hnext

theorem blockScalar (h : c.In s) (folded : Bool) (surrounding : Int) :
    Ends s.Stops (·.2.In s) (c.blockScalar folded surrounding) := by
  refine .bind h.blockHeader ?_
  rintro ⟨⟨chomping, increment⟩, c⟩ h
  cases increment with
  | none =>
    refine .bind (h.leadingLines _ _) ?_
    rintro ⟨breaks, deepest, c⟩ h
    exact h.blockLines ..
  | some n =>
    refine .bind (h.blockBreaks _ _) ?_
    rintro ⟨breaks, c⟩ h
    exact h.blockLines ..

/-! ## Plain scalars -/

theorem plainWord (h : c.In s) (inFlow : Bool) :
    Ends s.Stops (fun _ => True) (c.plainWord inFlow) := by
  refine .bind (h.peekAt _) fun next _ => ?_
  split
  · exact .bind (h.reach _) fun _ _ => .ok trivial
  · exact .ok trivial

theorem blankLines (h : c.In s) (fuel : Nat) : Ends s.Stops (·.2.In s) (c.blankLines fuel) := by
  induction fuel generalizing c with
  | zero => exact .ok h
  | succ fuel ih =>
    refine .bind h.skipSpaces fun c h => .bind h.lineEnd? fun lineEnd hend => ?_
    cases lineEnd with
    | none => exact .ok h
    | some p =>
      have hp := hend p rfl
      refine .bind hp.atDocumentMarker fun _ _ => ?_
      split
      · exact .ok hp
      · refine .bind (ih hp) ?_
        rintro ⟨others, c⟩ h
        exact .ok h

/-- The gap between two words may go over several lines. -/
theorem gap (h : c.In s) : Ends s.Stops (·.after.In s) c.gap := by
  refine .bind (h.forward _) fun c h => .bind h.lineEnd? fun lineEnd hend => ?_
  cases lineEnd with
  | none => exact .ok h
  | some p =>
    have hp := hend p rfl
    refine .bind hp.atDocumentMarker fun _ _ => ?_
    split
    · exact .ok hp
    · refine .bind (hp.blankLines _) ?_
      rintro ⟨others, c⟩ h
      cases others <;> exact .ok h

theorem plainWords (h : c.In s) (inFlow : Bool) (indent : Int) (overLine : Bool) (fuel : Nat) :
    Ends s.Stops (·.after.In s) (c.plainWords inFlow indent overLine fuel) := by
  induction fuel generalizing c overLine with
  | zero => exact .ok h
  | succ fuel ih =>
    refine .bind (h.plainWord inFlow) fun word _ => ?_
    split
    · exact .ok h
    · refine .bind (h.forward _) fun c h => .bind h.gap fun gap hgap => ?_
      split
      · exact .ok hgap
      · refine .bind (ih hgap _) fun more hmore => ?_
        split <;> exact .ok hmore

theorem plainScalar (h : c.In s) (inFlow : Bool) (indent : Int) :
    Ends s.Stops (·.after.In s) (c.plainScalar inFlow indent) :=
  h.plainWords ..

/-! ## Quoted scalars -/

theorem foldedBreaks (h : c.In s) (fuel : Nat) :
    Ends s.Stops (·.2.In s) (c.foldedBreaks fuel) := by
  induction fuel generalizing c with
  | zero => exact ends_refuse _
  | succ fuel ih =>
    refine .bind h.atDocumentMarker fun _ _ => ?_
    split
    · exact ends_refuse _
    · refine .bind (h.skip _) fun c h => .bind h.lineEnd? fun lineEnd hend => ?_
      cases lineEnd with
      | none => exact .ok h
      | some p =>
        refine .bind (ih (hend p rfl)) ?_
        rintro ⟨others, c⟩ h
        exact .ok h

theorem quotedSpace (h : c.In s) : Ends s.Stops (·.2.In s) c.quotedSpace := by
  refine .bind (h.forward _) fun c h => .bind h.lineEnd? fun lineEnd hend => ?_
  cases lineEnd with
  | none => exact .ok h
  | some p =>
    refine .bind ((hend p rfl).foldedBreaks _) ?_
    rintro ⟨others, c⟩ h
    exact .ok h

/-- An escape is read to its end, or stops at a number without a code point. -/
theorem escape (h : c.In s) {front : List Char} (hescape : front ++ '\\' :: c.rest = s.chars) :
    Ends s.Stops (·.2.In s) c.escape := by
  rw [Cursor.escape]
  split
  · exact ends_refuse _
  · next ch hpeek =>
    split
    · exact .bind h.advance fun c h => .ok h
    · next width _ hwidth =>
      refine .bind (h.forward_rest 1) ?_
      rintro d ⟨hd, hrest⟩
      refine .bind (hd.hexNumber _ _) ?_
      rintro _ ⟨values, hvalues, hlength, rfl⟩
      cases hcode : codePoint (hexadecimal values) with
      | ok p =>
        rw [Except.ok_bind]
        exact .bind (hd.forward _) fun c h => .ok h
      | error fault =>
        refine .error (.escape ?_ (hlength ▸ hwidth) hvalues hcode)
        -- the letter and the digits are the next characters
        obtain ⟨after, hafter⟩ : ∃ after, c.rest = ch :: after := by
          rw [Cursor.peek, List.head?_eq_some_iff] at hpeek
          exact hpeek
        rw [hafter, List.drop_one, List.tail_cons] at hrest
        refine ⟨front, d.rest.drop width, ?_⟩
        rw [← hescape, hafter, ← hrest]
        simp [List.append_assoc]
    · split
      · refine .bind h.advance fun c h => .bind (h.foldedBreaks _) ?_
        rintro ⟨others, c⟩ h
        exact .ok h
      · exact ends_refuse _

theorem isDoubled (h : c.In s) (quote : Char) :
    Ends s.Stops (fun _ => True) (c.isDoubled quote) := by
  rw [Cursor.isDoubled]
  split
  · exact .bind (h.peekAt 1) fun _ _ => .ok trivial
  · exact .ok trivial

/-- A quoted text ends at its quote, or at what stops an escape or the end of the source. -/
theorem quotedText (h : c.In s) (quote : Char) (fuel : Nat) :
    Ends s.Stops (·.2.In s) (c.quotedText quote fuel) := by
  induction fuel generalizing c with
  | zero => exact ends_refuse _
  | succ fuel ih =>
    rw [Cursor.quotedText]
    split
    · exact ends_refuse _
    · next ch hpeek =>
      split
      · refine .bind (h.isDoubled quote) fun doubled _ => ?_
        split
        · refine .bind (h.forward 2) fun c h => .bind (ih h) ?_
          rintro ⟨t, c⟩ h
          exact .ok h
        · exact .bind h.advance fun c h => .ok h
      · split
        · next hescape =>
          -- the backslash stands before the escape
          obtain ⟨front, hfront⟩ := h.suffix
          obtain ⟨after, hafter⟩ := List.head?_eq_some_iff.mp hpeek
          refine .bind (h.forward_rest 1) ?_
          rintro d ⟨hd, hrest⟩
          rw [hafter, List.drop_one, List.tail_cons] at hrest
          rw [hafter, hescape.2, ← hrest] at hfront
          refine .bind (hd.escape hfront) ?_
          rintro ⟨e, c⟩ h
          refine .bind (ih h) ?_
          rintro ⟨t, c⟩ h
          exact .ok h
        · split
          · refine .bind h.quotedSpace ?_
            rintro ⟨space, c⟩ h
            refine .bind (ih h) ?_
            rintro ⟨t, c⟩ h
            exact .ok h
          · refine .bind h.advance fun c h => .bind (ih h) ?_
            rintro ⟨t, c⟩ h
            exact .ok h

theorem quotedScalar (h : c.In s) (quote : Char) : Ends s.Stops (·.2.In s) (c.quotedScalar quote) :=
  .bind h.advance fun _ h => h.quotedText ..

end Cursor.In

end JenkinsAdmission.Yaml
