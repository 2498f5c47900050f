import Notebook.Proofs.Tag.Exclusion
import Notebook.Proofs.Tag.Grammar

/-!
# What becomes of a rename (specification §4.1, §7)

A phrase `@type-old/edit-new` with two names that are not blank asks for a rename, and the new name
decides whether it is one or is refused. What is a new name is decided twice: the grammar takes it
from a single line, and `validateName` looks at its characters. So there is a third way:

- `validateName_eq_error_iff` — a refusal names the first foreign character;
- `Command.renaming` — what a rename should come to, by its names alone;
- `TagPhrase.rename?_edit` — a phrase that edits comes to that, on a single line;
- `Settings.interpret_rename` — it comes to that if what is trimmed at the end of the new name has
  no line feed, and is plain text if it has one.
-/

namespace Notebook

/-! ### Why a new name is refused -/

/-- The first character of a name that no new name may have. -/
def IsFirstForeign (c : Char) (name : Text) : Prop :=
  isNameChar c = false ∧ ∃ front back, name = front ++ c :: back ∧
    ∀ d ∈ front, isNameChar d = true

/-- A name that is not blank is refused for its first foreign character and for nothing else. -/
theorem validateName_eq_error_iff {name : Text} (h : Text.trim name ≠ []) {reason : NameError} :
    validateName name = .error reason ↔
      ∃ c, reason = .invalidCharacter c ∧ IsFirstForeign c (Text.trim name) := by
  have hne : (Text.trim name).isEmpty = false := by simpa using h
  have hfind : ∀ c, (Text.trim name).find? (!isNameChar ·) = some c ↔
      IsFirstForeign c (Text.trim name) := by
    intro c
    rw [List.find?_eq_some_iff_append, IsFirstForeign]
    simp
  simp only [validateName, hne, Bool.false_eq_true, if_false]
  constructor
  · intro herror
    cases hfound : (Text.trim name).find? (!isNameChar ·) with
    | none =>
      rw [hfound] at herror
      cases herror
    | some c =>
      rw [hfound] at herror
      exact ⟨c, (Except.error.inj herror).symm, (hfind c).mp hfound⟩
  · rintro ⟨c, rfl, hc⟩
    rw [(hfind c).mpr hc]

theorem validateName_trim (name : Text) : validateName (Text.trim name) = validateName name := by
  unfold validateName
  rw [Text.trim_trim]

/-! ### What a rename comes to -/

/-- What a rename comes to by its names: the command, or the refusal of the new name. -/
def Command.renaming (t : TagType) (old new : Text) : Except RefusedRename Command :=
  match validateName new with
  | .ok () => .ok (.ofRename t (Text.trim old) (Text.trim new))
  | .error reason => .error ⟨t, Text.trim old, Text.trim new, reason⟩

/-- What a line is meant as that is a rename. -/
def Intent.ofRenaming : Except RefusedRename Command → Intent
  | .ok renamed => .command renamed
  | .error refused => .invalidRename refused

/-- The names of a phrase that edits come to what they should, unless the new one goes on in another
line. -/
theorem TagPhrase.rename?_edit {t : TagType} {old new : Text} (hold : Text.trim old ≠ [])
    (hnew : Text.trim new ≠ []) :
    (TagPhrase.rename? ⟨t, old, "edit-".toList ++ new⟩).map
        (·.map fun (old, new) => Command.ofRename t old new) =
      if '\n' ∈ new then .ok none else (Command.renaming t old new).map some := by
  have hafter : Text.afterExact? "edit-".toList ("edit-".toList ++ new) = some new :=
    Text.afterExact?_eq_some_iff.mpr rfl
  unfold TagPhrase.rename? Command.renaming
  simp only [hafter, hold, hnew, or_false, validateName_trim]
  split
  · rfl
  · cases validateName new <;> rfl

/-! ### The line of a rename -/

/-- Trimming at the end leaves white space in front of what trimming leaves, and nothing else. -/
theorem Text.exists_trimEnd_eq (t : Text) :
    ∃ front, Text.trimEnd t = front ++ Text.trim t ∧ ∀ c ∈ front, isBlank c = true := by
  refine ⟨(Text.trimEnd t).takeWhile isBlank, ?_, fun c hc => List.mem_takeWhile_imp hc⟩
  rw [← Text.trimStart_trimEnd, Text.trimStart, List.takeWhile_append_dropWhile]

/-- A line that renames a tag. -/
def TagType.renameLine (t : TagType) (old new : Text) : Text :=
  TagPhrase.render ⟨t, old, "edit-".toList ++ new⟩

/-- Of the line of a rename, white space is trimmed off behind the new name only. -/
theorem TagType.trim_renameLine {t : TagType} {old new : Text} (hnew : Text.trim new ≠ []) :
    Text.trim (t.renameLine old new) = t.renameLine old (Text.trimEnd new) := by
  obtain ⟨front, hfront, -⟩ := Text.exists_trimEnd_eq new
  obtain ⟨back, hsplit, hback⟩ := Text.exists_trimEnd_split new
  have hbare : Text.Bare (t.renameLine old (Text.trimEnd new)) := by
    rw [hfront, renameLine, ← List.append_assoc]
    exact TagPhrase.bare_render (Text.bare_trim new) hnew
  have hline : t.renameLine old new = [] ++ (t.renameLine old (Text.trimEnd new) ++ back) := by
    conv => lhs; rw [hsplit]
    simp [renameLine, TagPhrase.render]
  rw [hline, Text.trim_blanks_append_blanks hbare (List.forall_mem_nil _) hback]

/-- A line that is a phrase is no command that makes a note. -/
theorem Settings.interpret_of_render (s : Settings) {text : Text} {p : TagPhrase}
    (h : Text.trim text = p.render) (hp : '/' ∉ p.name) :
    s.interpret text = Intent.ofReading text ((Command.read text).map (·.map .command)) := by
  have hdraft : Draft.ofCommand? s.defaultTitle text = none := by
    refine Option.eq_none_iff_forall_ne_some.mpr fun draft hdraft => ?_
    have hno := no_phrase_of_isNewNote (isNewNote_of_ofCommand? hdraft)
    rw [TagPhrase.ofText?_eq_some_iff.mpr ⟨h, hp⟩] at hno
    cases hno
  rw [Settings.interpret, hdraft]
  cases Command.read text with
  | error e => rfl
  | ok command => cases command <;> rfl

/-- **A rename comes to its command or to a refusal exactly if its new name stands on one line**,
apart from white space at its end. Else the line is no command at all, but plain text. A refusal
names the first foreign character of the new name. -/
theorem Settings.interpret_rename (s : Settings) (t : TagType) {old new : Text}
    (hold : TagName old) (hnew : Text.trim new ≠ []) :
    ('\n' ∉ Text.trimEnd new →
      Command.read (t.renameLine old new) = (Command.renaming t old new).map some ∧
      s.interpret (t.renameLine old new) = .ofRenaming (Command.renaming t old new)) ∧
    ('\n' ∈ Text.trimEnd new →
      Command.read (t.renameLine old new) = .ok none ∧
      s.interpret (t.renameLine old new) = .text (Text.trim (t.renameLine old new))) ∧
    ∀ reason, validateName new = .error reason →
      ∃ c, reason = .invalidCharacter c ∧ IsFirstForeign c (Text.trim new) := by
  have htrim : Text.trim (t.renameLine old new) =
      TagPhrase.render ⟨t, old, "edit-".toList ++ Text.trimEnd new⟩ := t.trim_renameLine hnew
  have hnew' : Text.trim (Text.trimEnd new) ≠ [] := by rwa [Text.trim_trimEnd]
  have hsame : Command.renaming t old (Text.trimEnd new) = Command.renaming t old new := by
    unfold Command.renaming
    rw [← validateName_trim, Text.trim_trimEnd, validateName_trim]
  have hread := Command.read_of_render_edit htrim hold rfl
  -- What counts is the new name as it is after the line has been trimmed.
  rw [TagPhrase.rename?_edit hold.not_blank hnew', hsame] at hread
  have hinterpret := s.interpret_of_render htrim hold.no_slash
  refine ⟨fun hline => ?_, fun hline => ?_, fun reason => (validateName_eq_error_iff hnew).mp⟩
  · rw [if_neg hline] at hread
    refine ⟨hread, ?_⟩
    rw [hinterpret, hread]
    cases Command.renaming t old new <;> rfl
  · rw [if_pos hline] at hread
    refine ⟨hread, ?_⟩
    rw [hinterpret, hread]
    rfl

/-- An old name of two lines is renamed, and a new name with a bar and an action of its own is
refused for the bar. -/
theorem Settings.interpret_rename_refused :
    let old := " home\nbase ".toList
    let new := "\tnew |/pin\n".toList
    TagName old ∧ Text.trim new ≠ [] ∧ '\n' ∉ Text.trimEnd new ∧
      Command.read (TagType.orange.renameLine old new) =
        .error ⟨.orange, "home\nbase".toList, "new |/pin".toList, .invalidCharacter '|'⟩ ∧
      Settings.interpret {} (TagType.orange.renameLine old new) =
        .invalidRename
          ⟨.orange, "home\nbase".toList, "new |/pin".toList, .invalidCharacter '|'⟩ := by
  intro old new
  have hold : TagName old := ⟨by decide, by decide⟩
  have hnew : Text.trim new ≠ [] := by decide
  have hline : '\n' ∉ Text.trimEnd new := by decide
  obtain ⟨hread, hinterpret⟩ := (Settings.interpret_rename {} .orange hold hnew).1 hline
  exact ⟨hold, hnew, hline, hread, hinterpret⟩

/-- A line feed in a new name that should be refused, and one in front of a new name that is good:
both lines are taken for plain text. -/
theorem Settings.line_feed_hides_rename :
    let refused := "a\nb".toList
    let good := "\nb".toList
    TagName "work".toList ∧ Text.trim refused ≠ [] ∧ Text.trim good ≠ [] ∧
      Command.renaming .grey "work".toList refused =
        .error ⟨.grey, "work".toList, refused, .invalidCharacter '\n'⟩ ∧
      Command.renaming .grey "work".toList good =
        .ok (.tag (.edit .grey "work".toList "b".toList)) ∧
      ∀ new ∈ [refused, good],
        Command.read (TagType.grey.renameLine "work".toList new) = .ok none ∧
        Settings.interpret {} (TagType.grey.renameLine "work".toList new) =
          .text ("@grey-work/edit-".toList ++ new) := by
  refine ⟨⟨by decide, by decide⟩, by decide, by decide, by decide, by decide, ?_⟩
  decide

end Notebook
