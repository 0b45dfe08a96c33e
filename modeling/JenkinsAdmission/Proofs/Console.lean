import JenkinsAdmission.Run
import JenkinsAdmission.Proofs.Markup.Highlight

/-!
# Markup of our own

A markup of our own has no live tags but those of this library, and closes no tag that it has not
opened. Every console can draw it (`Display.isDrawn_of_isOwn`).

It is put together from plain texts (`Markup.IsPlain.isOwn_append`), from texts between tags
(`Markup.isOwn_tagged_append`) and from highlighted names (`Markup.isOwn_highlight_append`). With a
name that ends in backslashes the closing tag of the highlight may be literal. Then the highlight
stays open, which does no harm to a console.
-/

namespace JenkinsAdmission

namespace Markup

variable {s t : Text} {opened tags : List Text}

/-! ## Accounts of open tags -/

/-- The names of the tags that this library writes. -/
def ownNames : List Text := ["info", "success", "warning", "error", "highlight", "bold"]

/-- A name with its opening and its closing tag. -/
structure IsName (name : Text) : Prop where
  /-- the opening tag is a tag -/
  opening : tag? ("[" ++ name ++ "]" : Text) = some (("[" ++ name ++ "]" : Text), [])
  /-- the closing tag is a tag -/
  closing : tag? ("[/" ++ name ++ "]" : Text) = some (("[/" ++ name ++ "]" : Text), [])
  /-- the opening tag has the name -/
  tagName_opening : tagName ("[" ++ name ++ "]" : Text) = name
  /-- the opening tag closes nothing -/
  closedBy?_opening : closedBy? ("[" ++ name ++ "]" : Text) = none
  /-- the closing tag closes the opening one -/
  closedBy?_closing : closedBy? ("[/" ++ name ++ "]" : Text) = some name
  /-- there is a name -/
  ne_nil : name ≠ []

theorem isName_of_mem {name : Text} (h : name ∈ ownNames) : IsName name := by
  have hall : ∀ name ∈ ownNames,
      tag? ("[" ++ name ++ "]" : Text) = some (("[" ++ name ++ "]" : Text), []) ∧
      tag? ("[/" ++ name ++ "]" : Text) = some (("[/" ++ name ++ "]" : Text), []) ∧
      tagName ("[" ++ name ++ "]" : Text) = name ∧
      closedBy? ("[" ++ name ++ "]" : Text) = none ∧
      closedBy? ("[/" ++ name ++ "]" : Text) = some name ∧ name ≠ [] := by decide
  obtain ⟨h₁, h₂, h₃, h₄, h₅, h₆⟩ := hall name h
  exact ⟨h₁, h₂, h₃, h₄, h₅, h₆⟩

theorem mem_ownTags {name : Text} (h : name ∈ ownNames) :
    ("[" ++ name ++ "]" : Text) ∈ ownTags ∧ ("[/" ++ name ++ "]" : Text) ∈ ownTags := by
  have hall : ∀ name ∈ ownNames,
      ("[" ++ name ++ "]" : Text) ∈ ownTags ∧ ("[/" ++ name ++ "]" : Text) ∈ ownTags := by decide
  exact hall name h

/-- An opening tag puts its name on the account. -/
theorem IsName.settle_opening {name : Text} (h : IsName name) :
    settle opened (("[" ++ name ++ "]" : Text) :: tags) = settle (name :: opened) tags := by
  rw [settle, h.closedBy?_opening, h.tagName_opening]

/-- A closing tag takes the name from the account that was put there last. -/
theorem IsName.settle_closing {name : Text} (h : IsName name) :
    settle (name :: opened) (("[/" ++ name ++ "]" : Text) :: tags) = settle opened tags := by
  rw [settle, h.closedBy?_closing]
  obtain ⟨c, rest, rfl⟩ := List.exists_cons_of_ne_nil h.ne_nil
  simp

/-! ## Parts of a markup -/

theorem IsPlain.append (hs : IsPlain s) (ht : IsPlain t) : IsPlain (s ++ t) :=
  List.forall_mem_append.mpr ⟨hs, ht⟩

/-- A text without live tags. -/
theorem IsOwn.of_liveTags_eq_nil (h : liveTags t = []) : IsOwn t where
  own tag htag := by
    rw [h] at htag
    cases htag
  settles opened := ⟨[], by rw [h]; rfl⟩

/-- Whether a markup is our own shows in its live tags. -/
theorem IsOwn.congr (h : liveTags s = liveTags t) (ht : IsOwn t) : IsOwn s where
  own := by rw [h]; exact ht.own
  settles := by rw [h]; exact ht.settles

/-- An escaped text is our own markup, since it has no live tags. -/
theorem isOwn_escape (t : Text) : IsOwn (escape t) :=
  .of_liveTags_eq_nil (liveTags_escape t)

/-- A plain text has no tags. -/
theorem IsPlain.liveTags_eq_nil (hs : IsPlain s) : liveTags s = [] := by
  rw [← List.append_nil s, liveTags_append_of_plain hs, liveTags_nil]

theorem IsPlain.isOwn (hs : IsPlain s) : IsOwn s :=
  .of_liveTags_eq_nil hs.liveTags_eq_nil

theorem IsPlain.isOwn_append (hs : IsPlain s) (ht : IsOwn t) : IsOwn (s ++ t) :=
  .congr (liveTags_append_of_plain hs t) ht

/-- A pair of our own tags around a plain text adds nothing to the account. -/
theorem isOwn_tagged_append {name : Text} (hname : name ∈ ownNames) (ht : IsPlain t)
    (hs : IsOwn s) : IsOwn (tagged name t ++ s) := by
  have h := isName_of_mem hname
  have htags : liveTags (tagged name t ++ s) =
      ("[" ++ name ++ "]" : Text) :: ("[/" ++ name ++ "]" : Text) :: liveTags s := by
    have hparts : tagged name t ++ s = ("[" ++ name ++ "]" : Text) ++
        (t ++ (("[/" ++ name ++ "]" : Text) ++ s)) := by simp only [tagged, List.append_assoc]
    rw [hparts, liveTags_tag_append h.opening, liveTags_append_of_plain ht,
      liveTags_tag_append h.closing]
  refine ⟨?_, fun opened => ?_⟩
  · rw [htags]
    exact List.forall_mem_cons.mpr ⟨(mem_ownTags hname).1,
      List.forall_mem_cons.mpr ⟨(mem_ownTags hname).2, hs.own⟩⟩
  · rw [htags, h.settle_opening, h.settle_closing]
    exact hs.settles opened

/-- A plain text in one of our own tags is our own markup. -/
theorem isOwn_tagged {name : Text} (hname : name ∈ ownNames) (ht : IsPlain t) :
    IsOwn (tagged name t) := by
  have h := isOwn_tagged_append hname ht (.of_liveTags_eq_nil liveTags_nil)
  rwa [List.append_nil] at h

/-- A highlighted name may leave the highlight open, and closes nothing else. -/
theorem isOwn_highlight_append (t : Text) (hs : IsOwn s) : IsOwn (highlight t ++ s) := by
  have hname : ("highlight" : Text) ∈ ownNames := by decide
  have h := isName_of_mem hname
  have htags := liveTags_highlight_append t s
  refine ⟨?_, fun opened => ?_⟩
  · rw [htags]
    refine List.forall_mem_cons.mpr ⟨(mem_ownTags hname).1, List.forall_mem_append.mpr ⟨?_, hs.own⟩⟩
    split
    · exact List.forall_mem_nil _
    · exact List.forall_mem_singleton.mpr (mem_ownTags hname).2
  · have hopening : settle opened (liveTags (highlight t ++ s)) = settle ("highlight" :: opened)
        ((if DisarmsClosing t then [] else [("[/highlight]" : Text)]) ++ liveTags s) := by
      rw [htags]
      exact h.settle_opening
    rw [hopening]
    -- the closing tag is there unless the text disarms it
    split
    · obtain ⟨more, hmore⟩ := hs.settles ("highlight" :: opened)
      exact ⟨more ++ [("highlight" : Text)], by rw [List.nil_append, hmore, List.append_assoc]; rfl⟩
    · have hclosing : settle ("highlight" :: opened)
          ([("[/highlight]" : Text)] ++ liveTags s) = settle opened (liveTags s) :=
        h.settle_closing
      rw [hclosing]
      exact hs.settles opened

/-- A name between other words. -/
theorem isOwn_naming {before after : Text} (hbefore : IsPlain before) (name : Text)
    (hafter : IsOwn after) : IsOwn (before ++ (highlight name ++ after)) :=
  hbefore.isOwn_append (isOwn_highlight_append name hafter)

/-- Whatever is highlighted, the markup is our own. -/
theorem isOwn_highlight (t : Text) : IsOwn (highlight t) := by
  have h := isOwn_highlight_append t (.of_liveTags_eq_nil liveTags_nil)
  rwa [List.append_nil] at h

end Markup

/-! ## What is shown -/

/-- A message has the tags of its level besides those of its body. -/
theorem Level.isOwn_line (level : Level) {body : Text} (h : Markup.IsOwn body) :
    Markup.IsOwn (level.line body) := by
  have hname : level.tag ∈ Markup.ownNames := by cases level <;> decide
  have hsymbol : Markup.IsPlain level.symbol := by cases level <;> decide
  rw [Level.line, List.append_assoc]
  exact Markup.isOwn_tagged_append hname hsymbol (Markup.IsPlain.isOwn_append (by decide) h)

/-- Values in a panel are escaped, so its labels are all that has to be looked at. -/
theorem Panel.isOwn_cells {p : Panel} (h : ∀ row ∈ p.rows, Markup.IsPlain row.1) :
    ∀ cell ∈ p.cells, Markup.IsOwn cell.1 ∧ Markup.IsOwn cell.2 := by
  intro cell hcell
  obtain ⟨row, hrow, rfl⟩ := List.mem_map.mp hcell
  exact ⟨((h row hrow).append (by decide)).isOwn, Markup.isOwn_escape row.2⟩

/-- Something is shown with our own tags. -/
def Display.IsOwn (d : Display) : Prop :=
  ∀ markup ∈ d.markups, Markup.IsOwn markup

/-- A message is as good as its body: the tags of its level are our own. -/
theorem Display.isOwn_message (level : Level) {body : Text} (h : Markup.IsOwn body) :
    (Display.message level body).IsOwn := by
  intro markup hmarkup
  rw [List.mem_singleton.mp hmarkup]
  exact level.isOwn_line h

theorem Display.isOwn_spinner {body : Text} (h : Markup.IsPlain body) :
    (Display.spinner body).IsOwn := by
  intro markup hmarkup
  rw [List.mem_singleton.mp hmarkup]
  exact Markup.isOwn_tagged (by decide) h

/-- A panel is our own if its title and the names of its rows are plain. -/
theorem Display.isOwn_panel {p : Panel} (htitle : Markup.IsPlain p.title)
    (hrows : ∀ row ∈ p.rows, Markup.IsPlain row.1) : (Display.panel p).IsOwn := by
  refine List.forall_mem_cons.mpr ⟨Markup.isOwn_tagged (by decide) htitle, ?_⟩
  intro markup hmarkup
  obtain ⟨cell, hcell, hmarkup⟩ := List.mem_flatMap.mp hmarkup
  obtain ⟨hlabel, hvalue⟩ := Panel.isOwn_cells hrows cell hcell
  rcases List.mem_cons.mp hmarkup with rfl | hmarkup
  · exact hlabel
  · rw [List.mem_singleton.mp hmarkup]
    exact hvalue

/-- Every console can draw what has our own tags only. -/
theorem Display.isDrawn_of_isOwn [Platform] {d : Display} (h : d.IsOwn) : d.isDrawn = true :=
  List.all_eq_true.mpr fun markup hmarkup => Platform.draws_own markup (h markup hmarkup)

namespace Run

variable [Platform] {ε : Type} [BreaksDown ε]

/-- Showing what has our own tags only succeeds. -/
theorem display_of_isOwn {d : Display} (h : d.IsOwn) :
    display (ε := ε) d = ⟨.ok (), [.displayed d]⟩ := by
  rw [display, Display.isDrawn_of_isOwn h, if_pos rfl]

/-- Our own markup can be drawn on every platform. -/
theorem say_of_isOwn (level : Level) {body : Text} (h : Markup.IsOwn body) :
    say (ε := ε) level body = ⟨.ok (), [.displayed (.message level body)]⟩ :=
  display_of_isOwn (Display.isOwn_message level h)

end Run

end JenkinsAdmission
