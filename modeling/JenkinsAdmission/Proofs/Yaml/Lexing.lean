import JenkinsAdmission.Proofs.Yaml.Scanning

/-!
# What stops the tokens of a source

Most of what the lexer does is about its other parts and leaves its cursor alone, and the rest goes
through the readers of lexemes and scalars. So the lexer stays in its source too, and its tokens are
cut off by nothing but what stops a reader there (`Yaml.stops_of_tokenize`).
-/

namespace JenkinsAdmission.Yaml

namespace Lexer

variable {s : Source} {l : Lexer}

/-! ## Steps that leave the cursor alone -/

@[simp] theorem cursor_emit (l : Lexer) (t : Token) : (l.emit t).cursor = l.cursor := rfl

@[simp] theorem cursor_forget (l : Lexer) : l.forget.cursor = l.cursor := rfl

@[simp] theorem cursor_insertAt (l : Lexer) (position : Nat) (t : Token) :
    (l.insertAt position t).cursor = l.cursor := rfl

@[simp] theorem cursor_open? (l : Lexer) (column : Int) : (l.open? column).2.cursor = l.cursor := by
  rw [Lexer.open?]
  split <;> rfl

@[simp] theorem cursor_openHere (l : Lexer) (t : Token) : (l.openHere t).cursor = l.cursor := by
  have hopen := cursor_open? l l.column
  rw [openHere]
  split
  · next heq =>
    rw [heq] at hopen
    exact hopen
  · next heq =>
    rw [heq] at hopen
    exact hopen

@[simp] theorem cursor_unwind (l : Lexer) (column : Int) : (l.unwind column).cursor = l.cursor := by
  have go : ∀ outer (l : Lexer), (unwind.go column l outer).cursor = l.cursor := by
    intro outer
    induction outer with
    | nil => exact fun l => rfl
    | cons i rest ih =>
      intro l
      rw [unwind.go]
      split
      · exact ih _
      · rfl
  rw [unwind]
  split
  · rfl
  · exact go _ l

/-- The lexer is at a place in a source. -/
def In (l : Lexer) (s : Source) : Prop := l.cursor.In s

namespace In

/-- Only the cursor counts for where the lexer is. -/
theorem of_cursor_eq {l' : Lexer} (h : l.In s) (hcursor : l'.cursor = l.cursor) : l'.In s := by
  rw [In, hcursor]
  exact h

/-! ## Candidates -/

/-- A candidate that has to be a key cannot be dropped. -/
theorem dropCandidate (h : l.In s) : Ends s.Stops (·.In s) l.dropCandidate := by
  rw [Lexer.dropCandidate]
  split
  · split
    · exact ends_refuse _
    · exact .ok h
  · exact .ok h

theorem saveCandidate (h : l.In s) : Ends s.Stops (·.In s) l.saveCandidate := by
  rw [Lexer.saveCandidate]
  split
  · exact .ok h
  · exact .bind h.dropCandidate fun l h => .ok h

theorem dropStale (h : l.In s) : Ends s.Stops (·.In s) l.dropStale := by
  rw [Lexer.dropStale]
  split
  · exact ends_refuse _
  · exact .ok h

/-! ## Tokens -/

theorem emitOver (h : l.In s) (n : Nat) (t : Token) : Ends s.Stops (·.In s) (l.emitOver n t) :=
  .bind (Cursor.In.forward h n) fun _ hc => .ok hc

theorem skipBlank (h : l.In s) (fuel : Nat) : Ends s.Stops (·.In s) (l.skipBlank fuel) := by
  induction fuel generalizing l with
  | zero => exact .ok h
  | succ fuel ih =>
    refine .bind (Cursor.In.skipSpaces h) fun c hc => .bind hc.skipComment fun c hc => ?_
    refine .bind hc.lineEnd? fun lineEnd hend => ?_
    cases lineEnd with
    | none => exact .ok hc
    | some p => exact ih (hend p rfl)

theorem skipMark (h : l.In s) : Ends s.Stops (·.In s) l.skipMark := by
  rw [Lexer.skipMark]
  split
  · exact .bind (Cursor.In.advance h) fun _ hc => .ok hc
  · exact .ok h

theorem closeAll (h : l.In s) : Ends s.Stops (·.In s) l.closeAll :=
  .bind (h.of_cursor_eq (cursor_unwind l (-1))).dropCandidate fun _ h => .ok h

theorem streamEnd (h : l.In s) : Ends s.Stops (·.In s) l.streamEnd :=
  .bind h.closeAll fun _ h => .ok h

theorem directive (h : l.In s) : Ends s.Stops (·.In s) l.directive := by
  refine .bind h.closeAll fun l h => .bind (Cursor.In.directive h) ?_
  rintro ⟨d, c⟩ hc
  exact .ok hc

theorem documentMarker (h : l.In s) (t : Token) : Ends s.Stops (·.In s) (l.documentMarker t) :=
  .bind h.closeAll fun _ h => h.emitOver 3 t

theorem openBracket (h : l.In s) (t : Token) : Ends s.Stops (·.In s) (l.openBracket t) := by
  refine .bind h.saveCandidate fun l h => ?_
  apply emitOver
  exact h

theorem closeBracket (h : l.In s) (t : Token) : Ends s.Stops (·.In s) (l.closeBracket t) := by
  refine .bind h.dropCandidate fun l h => ?_
  apply emitOver
  exact h

theorem comma (h : l.In s) : Ends s.Stops (·.In s) l.comma :=
  .bind (dropCandidate (of_cursor_eq h rfl)) fun _ h => h.emitOver 1 _

theorem openAtIndicator (h : l.In s) (t : Token) :
    Ends s.Stops (·.In s) (l.openAtIndicator t) := by
  rw [Lexer.openAtIndicator]
  split
  · exact .ok h
  · split
    · exact ends_refuse _
    · exact .ok (h.of_cursor_eq (cursor_openHere l t))

theorem blockEntry (h : l.In s) : Ends s.Stops (·.In s) l.blockEntry :=
  .bind (h.openAtIndicator _) fun _ h => .bind (dropCandidate (of_cursor_eq h rfl)) fun _ h =>
    h.emitOver 1 _

theorem explicitKey (h : l.In s) : Ends s.Stops (·.In s) l.explicitKey :=
  .bind (h.openAtIndicator _) fun _ h => .bind (dropCandidate (of_cursor_eq h rfl)) fun _ h =>
    h.emitOver 1 _

/-- A candidate becomes a key where it stands. -/
theorem valueOf (h : l.In s) (k : Candidate) : Ends s.Stops (·.In s) (l.valueOf k) := by
  rw [Lexer.valueOf]
  generalize hkey : insertAt _ k.position Token.key = keyed
  have hkeyed : keyed.In s := hkey ▸ h
  split
  next opened l' heq =>
    have hl : l'.In s := by
      split at heq
      · cases heq
        exact hkeyed
      · have hcursor := cursor_open? keyed k.column
        rw [heq] at hcursor
        exact hkeyed.of_cursor_eq hcursor
    apply emitOver
    split
    · exact hl
    · exact hl

theorem value (h : l.In s) : Ends s.Stops (·.In s) l.value := by
  rw [Lexer.value]
  split
  · exact h.valueOf _
  · exact .bind (h.openAtIndicator _) fun _ h => .bind (dropCandidate (of_cursor_eq h rfl))
      fun _ h => h.emitOver 1 _

/-- A token for a node is what a reader finds, if the reader stays in the source. -/
theorem nodeToken (h : l.In s) {α : Type} {read : Cursor → Except Fault (α × Cursor)}
    (hread : ∀ c : Cursor, c.In s → Ends s.Stops (·.2.In s) (read c)) (token : α → Token) :
    Ends s.Stops (·.In s) (l.nodeToken read token) := by
  refine .bind h.saveCandidate fun l h => .bind (hread l.cursor h) ?_
  rintro ⟨a, c⟩ hc
  exact .ok hc

theorem blockScalar (h : l.In s) (folded : Bool) :
    Ends s.Stops (·.In s) (l.blockScalar folded) := by
  refine .bind (dropCandidate (of_cursor_eq h rfl)) fun l h => ?_
  refine .bind (Cursor.In.blockScalar h _ _) ?_
  rintro ⟨text, c⟩ hc
  exact .ok hc

theorem plainScalar (h : l.In s) : Ends s.Stops (·.In s) l.plainScalar :=
  .bind h.saveCandidate fun _ h => .bind (Cursor.In.plainScalar h _ _) fun _ hc => .ok hc

theorem isMarker (h : l.In s) (ch mark : Char) :
    Ends s.Stops (fun _ => True) (l.isMarker ch mark) := by
  rw [Lexer.isMarker]
  split
  · exact Cursor.In.atMarker h mark
  · exact .ok trivial

theorem isIndicator (h : l.In s) (ch indicator : Char) (free : Bool) :
    Ends s.Stops (fun _ => True) (l.isIndicator ch indicator free) := by
  rw [Lexer.isIndicator]
  split
  · exact .ok trivial
  · split
    · exact .ok trivial
    · exact .bind (Cursor.In.peekAt h 1) fun _ _ => .ok trivial

theorem startsPlain (h : l.In s) (ch : Char) :
    Ends s.Stops (fun _ => True) (l.startsPlain ch) := by
  rw [Lexer.startsPlain]
  split
  · exact .ok trivial
  · exact .bind (Cursor.In.peekAt h 1) fun _ _ => .ok trivial

/-- Every token is read in the source. -/
theorem tokenAt (h : l.In s) (ch : Char) : Ends s.Stops (·.In s) (l.tokenAt ch) := by
  rw [Lexer.tokenAt]
  refine .ite (fun _ => h.directive) fun _ => ?_
  refine .bind (h.isMarker ch '-') fun _ _ => .ite (fun _ => h.documentMarker _) fun _ => ?_
  refine .bind (h.isMarker ch '.') fun _ _ => .ite (fun _ => h.documentMarker _) fun _ => ?_
  refine .ite (fun _ => h.openBracket _) fun _ => .ite (fun _ => h.openBracket _) fun _ => ?_
  refine .ite (fun _ => h.closeBracket _) fun _ => .ite (fun _ => h.closeBracket _) fun _ => ?_
  refine .ite (fun _ => h.comma) fun _ => ?_
  refine .bind (h.isIndicator ch '-' _) fun _ _ => .ite (fun _ => h.blockEntry) fun _ => ?_
  refine .bind (h.isIndicator ch '?' _) fun _ _ => .ite (fun _ => h.explicitKey) fun _ => ?_
  refine .bind (h.isIndicator ch ':' _) fun _ _ => .ite (fun _ => h.value) fun _ => ?_
  refine .ite (fun _ => h.nodeToken (fun c hc => hc.anchorName) _) fun _ => ?_
  refine .ite (fun _ => h.nodeToken (fun c hc => hc.anchorName) _) fun _ => ?_
  refine .ite (fun _ => h.nodeToken (fun c hc => hc.tagName) _) fun _ => ?_
  refine .ite (fun _ => h.blockScalar _) fun _ => ?_
  refine .ite (fun _ => h.nodeToken (fun c hc => hc.quotedScalar ch) _) fun _ => ?_
  refine .bind (h.startsPlain ch) fun _ _ => .ite (fun _ => h.plainScalar) fun _ => ?_
  exact ends_refuse _

/-- One step stays in the source. -/
theorem next (h : l.In s) : Ends s.Stops (·.2.In s) l.next := by
  refine .bind h.skipMark fun l h => .bind (h.skipBlank _) fun l h => ?_
  refine .bind h.dropStale fun l h => ?_
  have hunwound := h.of_cursor_eq (cursor_unwind l l.column)
  simp only
  split
  · exact .bind hunwound.streamEnd fun _ h => .ok h
  · exact .bind (hunwound.tokenAt _) fun _ h => .ok h

end In

/-- Tokens are cut off only by what stops a reader in their source. -/
theorem stops_of_run (h : l.In s) {fuel : Nat} {fault : Fault}
    (hfault : (l.run fuel).fault = some fault) : s.Stops fault := by
  induction fuel generalizing l with
  | zero =>
    cases hfault
    exact .rule _
  | succ fuel ih =>
    rw [run] at hfault
    have hfresh := h.dropStale
    -- a step first drops the candidates that are out of date
    cases hstale : l.dropStale with
    | error stop =>
      rw [hstale] at hfault hfresh
      cases hfault
      exact hfresh.fault rfl
    | ok fresh =>
      rw [hstale] at hfault hfresh
      cases hfresh with
      | ok hin =>
        have hstep := hin.next
        simp only at hfault
        cases hnext : fresh.next with
        | error stop =>
          rw [hnext] at hfault hstep
          cases hfault
          exact hstep.fault rfl
        | ok step =>
          rw [hnext] at hfault hstep
          obtain ⟨last, l'⟩ := step
          cases hstep with
          | ok hin' =>
            cases last with
            | true => cases hfault
            | false => exact ih hin' hfault

end Lexer

/-- **The tokens of a source** are cut off only by what stops a reader there. -/
theorem stops_of_tokenize {s : Source} {fault : Fault} (h : (tokenize s).fault = some fault) :
    s.Stops fault := by
  have hstart : (Lexer.start s).In s := ⟨List.suffix_rfl, rfl⟩
  rw [tokenize] at h
  split at h
  · next hcut => exact .cut (hcut.trans h)
  · exact Lexer.stops_of_run hstart h

end JenkinsAdmission.Yaml
