import Notebook.Proofs.Draft.Command
import Notebook.Proofs.Draft.Residue
import Notebook.Proofs.Tag.Grammar

/-!
# Drafts are well-formed (specification §3, invariants)

Whatever a command says, and whatever the default title is, the draft that it makes can be stored
and its tags can be managed: the grammar of tags knows every name that a flag can spell.

- `ManageableTag` — a tag name that may be renamed to and that the grammar of tags reads;
  `IsTag.manageable` — every name behind a number sign is one;
- `hiddenTag_mem_tags_iff` — the reserved tag cannot be written as a flag;
- `IsFontName` — the names of fonts that are read; `FontFound.isFontName` — the reader gives one;
- `Draft.WellFormed` — all of it; `Draft.wellFormed_of_ofCommand?` — every draft has it.
-/

namespace Notebook

open Text WrittenNote

/-! ### Tags -/

/-- A tag name that tags can be given and that the grammar of tags can work with: it may be the new
name of a tag, and a tag of that name can be deleted. -/
structure ManageableTag (name : Text) : Prop where
  is_tag : IsTag name
  valid : validateName name = .ok ()
  deleted : Command.read ("@grey-".toList ++ name ++ "/delete".toList) =
    .ok (some (.tag (.delete .grey name)))

/-- The characters of tag names are letters, digits, the underscore and the hyphen. -/
theorem isTagChar_cases {c : Char} (h : isTagChar c = true) :
    c.isAlphanum = true ∨ c = '_' ∨ c = '-' := by
  rw [isTagChar, Bool.or_eq_true, Bool.or_eq_true, beq_iff_eq, beq_iff_eq] at h
  rcases h with (h | h) | h
  · exact Or.inl h
  · exact Or.inr (Or.inl h)
  · exact Or.inr (Or.inr h)

theorem isNameChar_of_isTagChar {c : Char} (h : isTagChar c = true) : isNameChar c = true := by
  rcases isTagChar_cases h with halnum | rfl | rfl
  · rw [isNameChar, halnum, Bool.true_or, Bool.true_or, Bool.true_or]
  · decide
  · decide

theorem not_isBlank_of_isTagChar {c : Char} (h : isTagChar c = true) : isBlank c = false := by
  rcases isTagChar_cases h with halnum | rfl | rfl
  · exact not_isBlank_of_isAlphanum halnum
  · decide
  · decide

namespace WrittenNote.IsTag

variable {name : Text}

theorem not_empty (h : IsTag name) : name ≠ [] := by
  obtain ⟨c, more, rfl, -, -⟩ := h
  exact List.cons_ne_nil c more

theorem chars (h : IsTag name) : ∀ c ∈ name, isTagChar c = true := by
  obtain ⟨first, more, rfl, hfirst, hmore⟩ := h
  intro c hc
  rcases List.mem_cons.mp hc with rfl | hc
  · rcases Bool.or_eq_true_iff.mp hfirst with halpha | hline
    · exact isTagChar_of_isAlpha halpha
    · rw [beq_iff_eq.mp hline]
      decide
  · exact hmore c hc

theorem bare (h : IsTag name) : Bare name where
  head := fun c hc => not_isBlank_of_isTagChar (h.chars c (List.mem_of_mem_head? hc))
  last := fun c hc => not_isBlank_of_isTagChar (h.chars c (List.mem_of_getLast? hc))

/-- There is no slash in a tag name to end it early. -/
theorem tagName (h : IsTag name) : TagName name where
  no_slash := fun hslash => absurd (h.chars '/' hslash) (by decide)
  not_blank := by
    rw [trim_eq_self_iff.mpr h.bare]
    exact h.not_empty

/-- **Every name that a flag can spell is manageable.** -/
theorem manageable (h : IsTag name) : ManageableTag name where
  is_tag := h
  valid := by
    rw [validateName_eq_ok_iff, trim_eq_self_iff.mpr h.bare]
    exact ⟨h.not_empty, fun c hc => isNameChar_of_isTagChar (h.chars c hc)⟩
  deleted := by
    have hphrase : Bare (TagPhrase.render ⟨.grey, name, "delete".toList⟩) :=
      TagPhrase.bare_render_word (by decide) (by decide)
    have hwritten := Command.Written.delete (t := .grey) (by decide) h.tagName
    rw [trim_eq_self_iff.mpr h.bare] at hwritten
    have htext : "@grey-".toList ++ name ++ "/delete".toList =
        TagPhrase.render ⟨.grey, name, "delete".toList⟩ := rfl
    rw [htext]
    refine Command.read_of_written ?_
    rw [trim_eq_self_iff.mpr hphrase]
    exact hwritten

end WrittenNote.IsTag

/-- The names of the tags that are taken out are tag names. -/
theorem isTag_of_mem_takeOut {body name : Text} (h : name ∈ (takeOut readTag body).2) :
    IsTag name := by
  obtain ⟨b, u, f, hf, rfl⟩ := exists_of_mem_found h
  obtain ⟨c, more, rest, -, hc, hmore, -, rfl⟩ := readTag_eq_some_iff.mp hf
  exact ⟨c, more, rfl, hc, hmore⟩

/-- **The reserved tag cannot be written as a flag**: it is there exactly for a hidden note. -/
theorem hiddenTag_mem_tags_iff (body : Text) :
    hiddenTag ∈ (Attributes.extract body).2.tags ↔
      (Attributes.extract body).2.isHidden = true := by
  have hreserved : ¬IsTag hiddenTag := by decide
  rw [mem_extract_tags, eq_self_iff_true, true_and]
  exact or_iff_right fun h => hreserved (isTag_of_mem_takeOut h)

theorem isTag_of_mem_tags {body name : Text} (h : name ∈ (Attributes.extract body).2.tags)
    (hne : name ≠ hiddenTag) : IsTag name := by
  rcases mem_extract_tags.mp h with hname | ⟨heq, -⟩
  · exact isTag_of_mem_takeOut hname
  · exact absurd heq hne

/-! ### Fonts -/

/-- A font name: letters, digits and spaces, with none of these at its ends. -/
structure IsFontName (name : Text) : Prop where
  not_empty : name ≠ []
  bare : Bare name
  chars : ∀ c ∈ name, foldsToAlphanumeric c = true ∨ c = ' '

/-- What is left of a run of such characters is a font name, if it starts with a letter or digit. -/
theorem isFontName_trim {run : Text} (hhead : run.head?.any foldsToAlphanumeric = true)
    (hrun : ∀ c ∈ run, isFontChar c = true) : IsFontName (trim run) where
  not_empty := by
    intro hnil
    cases run with
    | nil => cases hhead
    | cons c run =>
      have hblank := trim_eq_nil_iff.mp hnil c List.mem_cons_self
      rw [not_isBlank_of_isWord (isWord_of_foldsToAlphanumeric hhead)] at hblank
      cases hblank
  bare := bare_trim run
  chars := by
    intro c hc
    rcases Bool.or_eq_true_iff.mp (hrun c (mem_of_mem_trim hc)) with h | h
    · exact Or.inl h
    · exact Or.inr (beq_iff_eq.mp h)

theorem FontFound.isFontName {t : Text} {f : Found Text} (h : FontFound t f) :
    IsFontName f.value := by
  cases h with
  | whole _ hrun _ => exact isFontName_trim hrun.head hrun.chars
  | handedBack _ hhead hname _ => exact isFontName_trim hhead hname

theorem isFontName_of_extract {body name : Text}
    (h : (Attributes.extract body).2.fontFamily = some name) : IsFontName name := by
  rw [extract_fontFamily] at h
  obtain ⟨b, u, f, hf, rfl⟩ := exists_of_mem_found (List.mem_of_mem_head? h)
  exact (readFont_eq_some_iff.mp hf).2.isFontName

/-! ### Drafts -/

/-- What holds of every draft: it has a title without white space around it, it carries the reserved
tag exactly if it is hidden, its other tags can be managed, and its font has a name. -/
structure Draft.WellFormed (draft : Draft) : Prop where
  title_not_empty : draft.title ≠ []
  title_bare : Bare draft.title
  hidden_iff : draft.attributes.isHidden = true ↔ hiddenTag ∈ draft.attributes.tags
  tags : ∀ name ∈ draft.attributes.tags, name ≠ hiddenTag → ManageableTag name
  font : ∀ name, draft.attributes.fontFamily = some name → IsFontName name

/-- A title is what is left of it without white space, or the one for notes without a title. -/
theorem Draft.bare_title (title content : Text) :
    (Draft.bare title content).title ≠ [] ∧ Bare (Draft.bare title content).title := by
  have huntitled : Bare untitled := trim_eq_self_iff.mp (by decide)
  unfold Draft.bare
  by_cases hempty : (trim title).isEmpty = true
  · simp only [hempty, if_true]
    exact ⟨by decide, huntitled⟩
  · simp only [hempty, Bool.false_eq_true, if_false]
    exact ⟨fun hnil => hempty (List.isEmpty_iff.mpr hnil), bare_trim title⟩

/-- **Every draft is well-formed.** -/
theorem Draft.wellFormed_of_ofCommand? {defaultTitle input : Text} {draft : Draft}
    (h : Draft.ofCommand? defaultTitle input = some draft) : draft.WellFormed := by
  rw [Draft.ofCommand?_eq] at h
  obtain ⟨rest, -, rfl⟩ := Option.map_eq_some_iff.mp h
  obtain ⟨hne, hbare⟩ := Draft.bare_title ((cutTitle rest).1.getD defaultTitle)
    (tidyBody (Attributes.extract (cutTitle rest).2).1)
  exact
    { title_not_empty := hne
      title_bare := hbare
      hidden_iff := (hiddenTag_mem_tags_iff _).symm
      tags := fun _ hname hother => (isTag_of_mem_tags hname hother).manageable
      font := fun _ hname => isFontName_of_extract hname }

/-- A note with a blank title and a blank default, hidden, with tags and a font that hands back the
key behind it. -/
theorem Draft.wellFormed_of_ofCommand?_hidden :
    ∃ draft, Draft.ofCommand? " ".toList
        "@new- || text ##to-do ##@hide ##_9 f:Open Sans is:hide".toList = some draft ∧
      draft.title = untitled ∧ draft.attributes.fontFamily = some "Open Sans".toList ∧
      draft.attributes.tags.names = ["@hide".toList, "_9".toList, "to-do".toList] ∧
      draft.WellFormed := by
  have hdraft : ∃ draft, Draft.ofCommand? " ".toList
      "@new- || text ##to-do ##@hide ##_9 f:Open Sans is:hide".toList = some draft ∧
      draft.title = untitled ∧ draft.attributes.fontFamily = some "Open Sans".toList ∧
      draft.attributes.tags.names = ["@hide".toList, "_9".toList, "to-do".toList] :=
    ⟨_, rfl, by decide, by decide, by decide⟩
  obtain ⟨draft, hdraft, htitle, hfont, htags⟩ := hdraft
  exact ⟨draft, hdraft, htitle, hfont, htags, Draft.wellFormed_of_ofCommand? hdraft⟩

end Notebook
