import Mathlib.Data.Bool.Basic
import Notebook.Proofs.Tag.Exclusion
import Notebook.Proofs.Text.Lines
import Notebook.Tag.Completion

/-!
# The stages of typing a tag (specification §4.1)

A tag that is being typed is completed in three stages, and then it may become a command. Each stage
is recognised by a function of its own, with guards of its own; what keeps them apart is the hyphen
behind the type and the slash behind the name:

- `TagType.mem_completions_iff` — a part of a type has no hyphen, whatever the guard says;
- `HalfTypedTag.ofText?_eq_some_iff` — the beginning of a name stands behind the hyphen and has no
  slash;
- `Command.read_of_no_slash` — a command has a slash;
- `TagType.alone?_eq_some_iff` — the type alone, with the hyphen or without;
- `TagType.typing_stages` — a tag goes through the stages in order, and no text is in two of them.
-/

namespace Notebook

open Text

namespace TagType

/-! ### A part of a type -/

/-- What may be part of a type has nothing in it that ends one. -/
theorem not_ended_of_part {t : TagType} {typed : Text} (h : typed <+: t.keyword) :
    (typed.any fun c => c = '-' || c = '/' || isBlank c) = false := by
  have hkeyword : (t.keyword.any fun c => c = '-' || c = '/' || isBlank c) = false := by
    cases t <;> decide
  rw [List.any_eq_false] at hkeyword ⊢
  exact fun c hc => hkeyword c (h.subset hc)

/-- What is offered has the part in front, with or without the guard. -/
theorem completions_eq {text typed : Text} (h : trim text = '@' :: typed) :
    completions text = all.filter (typed.isPrefixOf ·.keyword) := by
  have hguarded : completions text =
      if typed.any fun c => c = '-' || c = '/' || isBlank c then []
      else all.filter (typed.isPrefixOf ·.keyword) := by
    unfold completions
    split
    · rename_i typed' htext
      obtain ⟨-, rfl⟩ := List.cons.inj (h.symm.trans htext)
      rfl
    · rename_i hno
      exact absurd h (hno typed)
  rw [hguarded]
  split
  · rename_i hended
    -- What has been typed past a type begins no type, so the filter is empty as well.
    symm
    rw [List.filter_eq_nil_iff]
    intro t _ hprefix
    rw [not_ended_of_part (List.isPrefixOf_iff_prefix.mp hprefix)] at hended
    cases hended
  · rfl

theorem mem_completions_iff {text : Text} {t : TagType} :
    t ∈ completions text ↔ ∃ typed, trim text = '@' :: typed ∧ typed <+: t.keyword := by
  constructor
  · intro h
    obtain ⟨typed, htext⟩ : ∃ typed, trim text = '@' :: typed := by
      unfold completions at h
      split at h
      · rename_i typed htext
        exact ⟨typed, htext⟩
      · cases h
    rw [completions_eq htext, List.mem_filter, List.isPrefixOf_iff_prefix] at h
    exact ⟨typed, htext, h.2⟩
  · rintro ⟨typed, htext, hprefix⟩
    rw [completions_eq htext, List.mem_filter, List.isPrefixOf_iff_prefix]
    exact ⟨mem_all t, hprefix⟩

/-- The types are offered in the order they have. -/
theorem completions_sublist (text : Text) : (completions text).Sublist all := by
  unfold completions
  split
  · split
    · exact List.nil_sublist _
    · exact List.filter_sublist
  · exact List.nil_sublist _

/-- What follows the at sign as part of a type stands on its own. -/
theorem trim_at_prefix {t : TagType} {typed : Text} (h : typed <+: t.keyword) :
    trim ('@' :: typed) = '@' :: typed := by
  refine trim_eq_self_iff.mpr ⟨fun c hc => ?_, fun c hc => ?_⟩
  · obtain rfl := Option.some.inj hc
    decide
  · rcases List.mem_cons.mp (List.mem_of_getLast? hc) with rfl | hmem
    · decide
    · have hplain := List.any_eq_false.mp (not_ended_of_part h) c hmem
      simp only [Bool.or_eq_true, not_or] at hplain
      exact Bool.eq_false_of_not_eq_true hplain.2

/-! ### A type and the beginning of a name -/

theorem not_isBlank_of_mem_opening {t : TagType} {c : Char} (h : c ∈ t.opening) :
    isBlank c = false := by
  have hall : t.opening.all (!isBlank ·) = true := by cases t <;> decide
  simpa using List.all_eq_true.mp hall c h

/-- White space behind the hyphen belongs to the name, unless nothing follows it. -/
theorem trim_opening_append (t : TagType) (name : Text) :
    trim (t.opening ++ name) = t.opening ++ trimEnd name := by
  have hstart : trimStart (t.opening ++ name) = t.opening ++ name := by
    refine trimStart_eq_self fun c hc => ?_
    obtain rfl := Option.some.inj hc
    decide
  rw [trim, hstart, trimEnd_append_solid fun c hc => not_isBlank_of_mem_opening hc]

end TagType

theorem HalfTypedTag.ofText?_eq_some_iff {text : Text} {half : HalfTypedTag} :
    ofText? text = some half ↔
      trim text = half.tagType.opening ++ half.typed ∧ '/' ∉ half.typed := by
  obtain ⟨t, typed⟩ := half
  unfold ofText?
  constructor
  · intro h
    split at h
    · rename_i s rest hopening
      split at h
      · cases h
      · rename_i hslash
        cases h
        exact ⟨TagType.afterOpening?_eq_some_iff.mp hopening, hslash⟩
    · cases h
  · rintro ⟨htext, hslash⟩
    rw [TagType.afterOpening?_eq_some_iff.mpr htext]
    exact if_neg hslash

/-- What is half typed has a hyphen, so it is no part of a type any more. -/
theorem HalfTypedTag.completions_eq_nil {text : Text} (h : (ofText? text).isSome = true) :
    TagType.completions text = [] := by
  obtain ⟨half, hhalf⟩ := Option.isSome_iff_exists.mp h
  obtain ⟨htext, -⟩ := ofText?_eq_some_iff.mp hhalf
  rw [List.eq_nil_iff_forall_not_mem]
  intro t ht
  obtain ⟨typed, htyped, hprefix⟩ := TagType.mem_completions_iff.mp ht
  have hhyphen : '-' ∈ typed := by
    rw [htyped] at htext
    have hopening : half.tagType.opening ++ half.typed =
        '@' :: (half.tagType.keyword ++ '-' :: half.typed) := by simp [TagType.opening]
    rw [(List.cons.inj (htext.trans hopening)).2]
    exact List.mem_append_right _ List.mem_cons_self
  have hplain := List.any_eq_false.mp (TagType.not_ended_of_part hprefix) '-' hhyphen
  exact hplain rfl

/-! ### A command -/

/-- Every command has a slash, in front of its action. -/
theorem Command.read_of_no_slash {text : Text} (h : '/' ∉ trim text) :
    Command.read text = .ok none := by
  have hphrase : TagPhrase.ofText? (trim text) = none := by
    rw [Option.eq_none_iff_forall_not_mem]
    intro p hp
    rw [(TagPhrase.ofText?_eq_some_iff.mp hp).1] at h
    exact h (List.mem_append_right _ List.mem_cons_self)
  have haction : GroupAction.ofKeyword? (trim text) = none := by
    rw [Option.eq_none_iff_forall_not_mem]
    intro kind hkind
    have htext : kind.keyword = trim text := by simpa using List.find?_some hkind
    rw [← htext] at h
    revert h
    cases kind <;> decide
  obtain ⟨htag, hgroup⟩ := read_of_passed (passed_of_no_phrase hphrase haction)
  exact Command.read_of_ok htag hgroup

theorem TagType.no_slash_of_mem_completions {text : Text} {t : TagType}
    (h : t ∈ completions text) : '/' ∉ trim text := by
  obtain ⟨typed, htext, hprefix⟩ := mem_completions_iff.mp h
  rw [htext]
  intro hslash
  rcases List.mem_cons.mp hslash with hat | hslash
  · exact absurd hat (by decide)
  · have hplain := List.any_eq_false.mp (not_ended_of_part hprefix) '/' hslash
    exact hplain rfl

theorem HalfTypedTag.no_slash {text : Text} (h : (ofText? text).isSome = true) :
    '/' ∉ trim text := by
  obtain ⟨half, hhalf⟩ := Option.isSome_iff_exists.mp h
  obtain ⟨htext, hname⟩ := ofText?_eq_some_iff.mp hhalf
  have hopening : '/' ∉ half.tagType.opening := by cases half.tagType <;> decide
  rw [htext, List.mem_append, not_or]
  exact ⟨hopening, hname⟩

/-! ### The type alone -/

theorem TagType.alone?_eq_some_iff {text : Text} {t : TagType} :
    alone? text = some t ↔ trim text = '@' :: t.keyword ∨ trim text = t.opening := by
  constructor
  · intro h
    simpa using List.find?_some h
  · intro h
    unfold alone?
    rcases h with h | h <;> rw [h] <;> cases t <;> decide

/-! ### The stages -/

/-- No type of tags begins with the letter n. -/
theorem TagType.not_isNewNote_opening (t : TagType) (name : Text) :
    isNewNote (t.opening ++ name) = false := by
  by_contra hnote
  obtain ⟨first, second, rest, hstart, -, hsecond⟩ :=
    exists_of_isNewNote (Bool.eq_true_of_not_eq_false hnote)
  have hkeyword : ∃ d more, t.opening ++ name = '@' :: d :: more ∧ d.toLower ≠ 'n' := by
    cases t <;> exact ⟨_, _, rfl, by decide⟩
  obtain ⟨d, more, hopening, hd⟩ := hkeyword
  have hsolid : trimStart ('@' :: d :: more) = '@' :: d :: more := rfl
  rw [hopening, hsolid] at hstart
  obtain ⟨-, htail⟩ := List.cons.inj hstart
  rw [(List.cons.inj htail).1] at hd
  exact hd hsecond

/-- **A tag that is typed goes through the stages in order, and no text is in two of them.** Behind
the hyphen the beginning of a name is recognised, and nothing else, until a slash is typed. In front
of it the types are offered that begin with what is typed, in their order. The type alone is what
stands at the border: with no hyphen yet, or with no name yet. -/
theorem TagType.typing_stages :
    (∀ (t : TagType) (name : Text), '/' ∉ name →
      HalfTypedTag.ofText? (t.opening ++ name) = some ⟨t, trimEnd name⟩ ∧
      Command.read (t.opening ++ name) = .ok none ∧ isNewNote (t.opening ++ name) = false ∧
      completions (t.opening ++ name) = []) ∧
    (∀ (t : TagType) (typed : Text), typed <+: t.keyword →
      (completions ('@' :: typed)).Sublist all ∧
      ∀ s, s ∈ completions ('@' :: typed) ↔ typed <+: s.keyword) ∧
    (∀ text, [completions text ≠ [], (HalfTypedTag.ofText? text).isSome = true,
      Command.read text ≠ .ok none].Pairwise fun stage other => ¬(stage ∧ other)) ∧
    ∀ text t, alone? text = some t ↔
      trim text = '@' :: t.keyword ∨ HalfTypedTag.ofText? text = some ⟨t, []⟩ := by
  refine ⟨fun t name hname => ?_, fun t typed hprefix => ⟨completions_sublist _, fun s => ?_⟩,
    fun text => ?_, fun text t => ?_⟩
  · have hhalf : HalfTypedTag.ofText? (t.opening ++ name) = some ⟨t, trimEnd name⟩ :=
      HalfTypedTag.ofText?_eq_some_iff.mpr ⟨trim_opening_append t name, not_mem_trimEnd hname⟩
    have hsome : (HalfTypedTag.ofText? (t.opening ++ name)).isSome = true := by
      rw [hhalf, Option.isSome_some]
    exact ⟨hhalf, Command.read_of_no_slash (HalfTypedTag.no_slash hsome),
      not_isNewNote_opening t name, HalfTypedTag.completions_eq_nil hsome⟩
  · rw [mem_completions_iff, trim_at_prefix hprefix]
    simp
  · -- A command has a slash, and neither of the other stages has one.
    have hcommand : '/' ∉ trim text → ¬Command.read text ≠ .ok none := fun hslash hread =>
      hread (Command.read_of_no_slash hslash)
    simp only [List.pairwise_cons, List.forall_mem_cons, List.Pairwise.nil, and_true, not_and]
    refine ⟨⟨fun hoffered hhalf => hoffered (HalfTypedTag.completions_eq_nil hhalf),
      fun hoffered => ?_, nofun⟩, ⟨fun hhalf => hcommand (HalfTypedTag.no_slash hhalf), nofun⟩,
      nofun⟩
    obtain ⟨t, ht⟩ := List.exists_mem_of_ne_nil _ hoffered
    exact hcommand (no_slash_of_mem_completions ht)
  · rw [alone?_eq_some_iff, HalfTypedTag.ofText?_eq_some_iff]
    simp

/-- A name with white space around it keeps the white space behind the hyphen, and two types begin
with the same letters. -/
theorem TagType.typing_stages_grey :
    ('/' ∉ " wo rk ".toList ∧
      HalfTypedTag.ofText? "@grey- wo rk ".toList = some ⟨.grey, " wo rk".toList⟩) ∧
    "gr".toList <+: grey.keyword ∧ green ∈ completions "@gr".toList ∧
      blue ∉ completions "@gr".toList := by
  obtain ⟨hname, hpart, -, -⟩ := typing_stages
  have hslash : '/' ∉ " wo rk ".toList := by decide
  have hprefix : "gr".toList <+: grey.keyword := ⟨"ey".toList, rfl⟩
  obtain ⟨-, hoffered⟩ := hpart grey "gr".toList hprefix
  exact ⟨⟨hslash, (hname grey _ hslash).1⟩, hprefix, (hoffered green).mpr ⟨"een".toList, rfl⟩,
    fun hblue => absurd ((hoffered blue).mp hblue) (by decide)⟩

end Notebook
