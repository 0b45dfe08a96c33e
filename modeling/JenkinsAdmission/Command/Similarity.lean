import JenkinsAdmission.Unicode.CodePoint

/-!
# Similar words

How much two words have in common, for a guess at what somebody meant. The longest block that is in
both is matched, and then what stands before it in the one word is compared with what stands before
it in the other, and what stands behind it with what stands behind it. Two words are **similar**
when at least three fifths of their code points are matched.
-/

namespace JenkinsAdmission.Similarity

/-- The ends of a word, each with the place where it starts. -/
def ends (start : Nat) : Text → List (Nat × Text)
  | [] => []
  | c :: rest => (start, c :: rest) :: ends (start + 1) rest

/-- The length of what two texts start with. -/
def commonStart : Text → Text → Nat
  | a :: s, b :: t => if a = b then commonStart s t + 1 else 0
  | _, _ => 0

/-- A block that is in two words. -/
structure Block where
  /-- where it starts in the first word -/
  first : Nat
  /-- where it starts in the second word -/
  second : Nat
  /-- its length -/
  length : Nat

/-- The blocks of two words, for each pair of places the longest that starts there. -/
def blocks (s t : Text) : List Block :=
  (ends 0 s).flatMap fun (i, u) => (ends 0 t).map fun (j, v) => ⟨i, j, commonStart u v⟩

/-- The longest of some blocks, and of several the first. -/
def longest : List Block → Option Block
  | [] => none
  | b :: rest =>
    match longest rest with
    | none => some b
    | some c => some (if b.length < c.length then c else b)

/-- The longest of some blocks is one of them. -/
theorem mem_of_longest {bs : List Block} {b : Block} (h : longest bs = some b) : b ∈ bs := by
  induction bs generalizing b with
  | nil => simp [longest] at h
  | cons c rest ih =>
    simp only [longest] at h
    split at h
    · simp_all
    · next d hd =>
      split at h
      · exact List.mem_cons_of_mem _ (ih (hd.trans h))
      · simp_all

/-- An end of a word starts within the word. -/
theorem lt_of_mem_ends {s u : Text} {start i : Nat} (h : (i, u) ∈ ends start s) :
    i < start + s.length := by
  induction s generalizing start with
  | nil => simp [ends] at h
  | cons c rest ih =>
    simp only [ends, List.mem_cons, Prod.mk.injEq] at h
    rcases h with ⟨rfl, _⟩ | h
    · simp
    · have := ih h
      simp only [List.length_cons]
      omega

/-- A block starts within the first word. -/
theorem first_lt_of_mem_blocks {s t : Text} {b : Block} (h : b ∈ blocks s t) :
    b.first < s.length := by
  simp only [blocks, List.mem_flatMap, List.mem_map] at h
  obtain ⟨⟨i, u⟩, hu, ⟨j, v⟩, _, rfl⟩ := h
  simpa using lt_of_mem_ends hu

/-- The number of code points of the first word that are matched in the second. -/
def matched (s t : Text) : Nat :=
  match h : longest (blocks s t) with
  | none => 0
  | some b =>
    if b.length = 0 then 0
    else
      have := first_lt_of_mem_blocks (mem_of_longest h)
      matched (s.take b.first) (t.take b.second) + b.length
        + matched (s.drop (b.first + b.length)) (t.drop (b.second + b.length))
termination_by s.length

/-- Whether at least three fifths of two words are matched. -/
def areSimilar (s t : Text) : Bool :=
  decide (3 * (s.length + t.length) ≤ 10 * matched s t)

/-- Whether `s` is at least as similar to a word as `t` is. Of two that are equally similar the
greater comes first. -/
def precedes (word s t : Text) : Bool :=
  let left := matched s word * (t.length + word.length)
  let right := matched t word * (s.length + word.length)
  decide (right < left) || (left == right && t.le s)

/-- The candidates that are similar to a word, at most three, in the order of an index. -/
def suggestions (candidates : List Text) (word : Text) : List Text :=
  let similar := candidates.filter fun c => areSimilar c word
  ((similar.mergeSort (precedes word)).take 3).mergeSort Text.le

end JenkinsAdmission.Similarity
