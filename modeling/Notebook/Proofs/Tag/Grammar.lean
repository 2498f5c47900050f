import Notebook.Proofs.Tag.Phrase

/-!
# The language of tag and group commands (specification §4.1)

The readers of `Notebook.Tag.Grammar` are tried in order, each with its own way to fail, and the
tag commands come before the group commands. This module says which texts they accept together:

- `Command.Written` — the grammar, one rule for each way to write a command;
- `Command.written_of_read`, `read_of_written` — reading yields a command exactly if the grammar
  has it;
- `Command.written_render` — what is read can be written again, without white space to spare.
-/

namespace Notebook

/-! ### The grammar -/

/-- The texts that ask for a command, without the white space around them. -/
inductive Command.Written : Text → Command → Prop
  | edit {t : TagType} {old new : Text} : t ≠ .orange → TagName old → NewName new →
      Written (TagPhrase.render ⟨t, old, "edit-".toList ++ new⟩)
        (.tag (.edit t (Text.trim old) (Text.trim new)))
  | rename {old new : Text} : TagName old → NewName new →
      Written (TagPhrase.render ⟨.orange, old, "edit-".toList ++ new⟩)
        (.group (.rename (Text.trim old) (Text.trim new)))
  | delete {t : TagType} {name : Text} : t ≠ .orange → TagName name →
      Written (TagPhrase.render ⟨t, name, "delete".toList⟩) (.tag (.delete t (Text.trim name)))
  | deleteGroup {name : Text} : TagName name →
      Written (TagPhrase.render ⟨.orange, name, "delete".toList⟩)
        (.group (.delete (Text.trim name)))
  | pin {t : TagType} {name : Text} : TagName name →
      Written (TagPhrase.render ⟨t, name, "pin".toList⟩) (.tag (.pin t (Text.trim name)))
  | star {t : TagType} {name : Text} : TagName name →
      Written (TagPhrase.render ⟨t, name, "star".toList⟩) (.tag (.star t (Text.trim name)))
  | fav {t : TagType} {name : Text} : TagName name →
      Written (TagPhrase.render ⟨t, name, "fav".toList⟩) (.tag (.star t (Text.trim name)))
  | create {name : Text} : TagName name →
      Written (TagPhrase.render ⟨.orange, name, "create".toList⟩)
        (.group (.create (Text.trim name)))
  | enter {name : Text} : TagName name →
      Written (TagPhrase.render ⟨.orange, name, "etots".toList⟩) (.group (.enter (Text.trim name)))
  | action (kind : GroupAction) : Written kind.keyword (.group (.action kind))

/-! ### Everything that is read is in the grammar -/

/-- What is read by several readers is read by one of them. -/
theorem exists_of_firstReading {α : Type} {readers : List (Text → Reading α)} {text : Text} {a : α}
    (h : firstReading readers text = .ok (some a)) :
    ∃ read ∈ readers, read text = .ok (some a) := by
  induction readers with
  | nil => cases h
  | cons read more ih =>
    unfold firstReading at h
    split at h
    · obtain ⟨r, hr, hread⟩ := ih h
      exact ⟨r, List.mem_cons_of_mem _ hr, hread⟩
    · exact ⟨read, List.mem_cons_self, h⟩

theorem map_eq_ok_some {α β : Type} {r : Reading α} {f : α → β} {b : β}
    (h : (r.map fun found => found.map f) = .ok (some b)) :
    ∃ a, r = .ok (some a) ∧ f a = b := by
  cases r with
  | error e => cases h
  | ok found =>
    cases found with
    | none => cases h
    | some a =>
      cases h
      exact ⟨a, rfl, rfl⟩

theorem TagCommand.written_of_readEdit {text : Text} {c : TagCommand}
    (h : TagCommand.readEdit text = .ok (some c)) : Command.Written (Text.trim text) (.tag c) := by
  unfold TagCommand.readEdit at h
  split at h
  · cases h
  · rename_i p hp
    obtain ⟨⟨old, new⟩, hnames, rfl⟩ := map_eq_ok_some h
    obtain ⟨htext, hslash, hplain⟩ := TagPhrase.read?_eq_some_iff.mp hp
    obtain ⟨raw, haction, hname, hnew, rfl, rfl⟩ := TagPhrase.rename?_eq_some_iff.mp hnames
    obtain ⟨t, name, action⟩ := p
    subst haction
    rw [htext]
    exact .edit (by simpa [TagCommand.isPlain] using hplain) ⟨hslash, hname⟩ hnew

theorem GroupCommand.written_of_readRename {text : Text} {c : GroupCommand}
    (h : GroupCommand.readRename text = .ok (some c)) :
    Command.Written (Text.trim text) (.group c) := by
  unfold GroupCommand.readRename at h
  split at h
  · cases h
  · rename_i p hp
    obtain ⟨⟨old, new⟩, hnames, rfl⟩ := map_eq_ok_some h
    obtain ⟨htext, hslash, hgroup⟩ := TagPhrase.read?_eq_some_iff.mp hp
    obtain ⟨raw, haction, hname, hnew, rfl, rfl⟩ := TagPhrase.rename?_eq_some_iff.mp hnames
    obtain ⟨t, name, action⟩ := p
    have ht : t = .orange := by simpa [GroupCommand.isGroup] using hgroup
    subst haction ht
    rw [htext]
    exact .rename ⟨hslash, hname⟩ hnew

theorem TagCommand.exists_of_readNamed {allowed : TagType → Bool} {actions : List Text}
    {make : TagType → Text → TagCommand} {text : Text} {c : TagCommand}
    (h : TagCommand.readNamed allowed actions make text = .ok (some c)) :
    ∃ t name, ∃ action ∈ actions, Text.trim text = TagPhrase.render ⟨t, name, action⟩ ∧
      allowed t = true ∧ TagName name ∧ c = make t (Text.trim name) := by
  obtain ⟨p, hp, hc⟩ := Option.bind_eq_some_iff.mp (Except.ok.inj h)
  obtain ⟨name, hname, rfl⟩ := Option.map_eq_some_iff.mp hc
  obtain ⟨htext, hslash, hallowed⟩ := TagPhrase.read?_eq_some_iff.mp hp
  obtain ⟨haction, hblank, rfl⟩ := TagPhrase.named?_eq_some_iff.mp hname
  exact ⟨p.tagType, p.name, p.action, haction, htext, hallowed, ⟨hslash, hblank⟩, rfl⟩

theorem GroupCommand.exists_of_readNamed {action : Text} {make : Text → GroupCommand} {text : Text}
    {c : GroupCommand} (h : GroupCommand.readNamed action make text = .ok (some c)) :
    ∃ name, Text.trim text = TagPhrase.render ⟨.orange, name, action⟩ ∧ TagName name ∧
      c = make (Text.trim name) := by
  obtain ⟨p, hp, hc⟩ := Option.bind_eq_some_iff.mp (Except.ok.inj h)
  obtain ⟨name, hname, rfl⟩ := Option.map_eq_some_iff.mp hc
  obtain ⟨htext, hslash, hgroup⟩ := TagPhrase.read?_eq_some_iff.mp hp
  obtain ⟨haction, hblank, rfl⟩ := TagPhrase.named?_eq_some_iff.mp hname
  obtain ⟨t, name, action'⟩ := p
  have ht : t = .orange := by simpa [GroupCommand.isGroup] using hgroup
  have ha : action' = action := by simpa using haction
  subst ht ha
  exact ⟨name, htext, ⟨hslash, hblank⟩, rfl⟩

/-- Every tag command that is read is in the grammar. -/
theorem TagCommand.written_of_read {text : Text} {c : TagCommand}
    (h : TagCommand.read text = .ok (some c)) : Command.Written (Text.trim text) (.tag c) := by
  obtain ⟨read, hmem, hread⟩ := exists_of_firstReading h
  simp only [TagCommand.readers, List.mem_cons, List.not_mem_nil, or_false] at hmem
  -- In the order of the readers: edit, delete, pin, and star in its two spellings.
  rcases hmem with rfl | rfl | rfl | rfl
  · exact written_of_readEdit hread
  · obtain ⟨t, name, action, haction, htext, hplain, hname, rfl⟩ := exists_of_readNamed hread
    rw [List.mem_singleton] at haction
    rw [htext, haction]
    exact .delete (by simpa [TagCommand.isPlain] using hplain) hname
  · obtain ⟨t, name, action, haction, htext, -, hname, rfl⟩ := exists_of_readNamed hread
    rw [List.mem_singleton] at haction
    rw [htext, haction]
    exact .pin hname
  · obtain ⟨t, name, action, haction, htext, -, hname, rfl⟩ := exists_of_readNamed hread
    rw [htext]
    rcases List.mem_pair.mp haction with rfl | rfl
    · exact .star hname
    · exact .fav hname

/-- Every group command that is read is in the grammar. -/
theorem GroupCommand.written_of_read {text : Text} {c : GroupCommand}
    (h : GroupCommand.read text = .ok (some c)) :
    Command.Written (Text.trim text) (.group c) := by
  obtain ⟨read, hmem, hread⟩ := exists_of_firstReading h
  simp only [GroupCommand.readers, List.mem_cons, List.not_mem_nil, or_false] at hmem
  rcases hmem with rfl | rfl | rfl | rfl | rfl
  · obtain ⟨kind, hkind, rfl⟩ := Option.map_eq_some_iff.mp (Except.ok.inj hread)
    have htext : kind.keyword = Text.trim text := by simpa using List.find?_some hkind
    rw [← htext]
    exact .action kind
  · obtain ⟨name, htext, hname, rfl⟩ := exists_of_readNamed hread
    rw [htext]
    exact .create hname
  · obtain ⟨name, htext, hname, rfl⟩ := exists_of_readNamed hread
    rw [htext]
    exact .deleteGroup hname
  · obtain ⟨name, htext, hname, rfl⟩ := exists_of_readNamed hread
    rw [htext]
    exact .enter hname
  · exact written_of_readRename hread

/-- Every command that is read is in the grammar. -/
theorem Command.written_of_read {text : Text} {c : Command}
    (h : Command.read text = .ok (some c)) : Command.Written (Text.trim text) c := by
  unfold Command.read at h
  split at h
  · cases h
  · rename_i tag htag
    cases h
    exact TagCommand.written_of_read htag
  · obtain ⟨group, hgroup, rfl⟩ := map_eq_ok_some h
    exact GroupCommand.written_of_read hgroup

/-! ### Everything in the grammar is read -/

/-- Everything in the grammar is read as the command that the grammar says. -/
theorem Command.read_of_written {text : Text} {c : Command}
    (h : Command.Written (Text.trim text) c) : Command.read text = .ok (some c) := by
  generalize ht : Text.trim text = t at h
  cases h with
  | edit hplain ho hn =>
    rw [Command.read_of_render_rename ht ho (TagPhrase.rename?_eq_some_iff.mpr
      ⟨_, rfl, ho.not_blank, hn, rfl, rfl⟩), Command.ofRename, if_neg hplain]
  | rename ho hn =>
    rw [Command.read_of_render_rename ht ho (TagPhrase.rename?_eq_some_iff.mpr
      ⟨_, rfl, ho.not_blank, hn, rfl, rfl⟩)]
    rfl
  | delete hplain hn =>
    rw [Command.read_of_render_word ht hn rfl, Command.ofWord?, if_pos rfl, if_neg hplain]
  | deleteGroup hn => exact Command.read_of_render_word ht hn rfl
  | pin hn => exact Command.read_of_render_word ht hn rfl
  | star hn => exact Command.read_of_render_word ht hn rfl
  | fav hn => exact Command.read_of_render_word ht hn rfl
  | create hn => exact Command.read_of_render_word ht hn rfl
  | enter hn => exact Command.read_of_render_word ht hn rfl
  | action kind => exact Command.read_of_keyword ht

/-! ### Writing what was read -/

theorem TagName.trim {name : Text} (h : TagName name) : TagName (Text.trim name) where
  no_slash := fun hmem => h.no_slash (Text.mem_of_mem_trim hmem)
  not_blank := by
    rw [Text.trim_trim]
    exact h.not_blank

theorem NewName.trim {name : Text} (h : NewName name) : NewName (Text.trim name) where
  one_line := fun hmem => h.one_line (Text.mem_of_mem_trim hmem)
  not_blank := by
    rw [Text.trim_trim]
    exact h.not_blank
  allowed := by
    rw [Text.trim_trim]
    exact h.allowed

/-- A phrase is a bare text if its action ends in one. -/
theorem TagPhrase.bare_render {t : TagType} {name front back : Text} (hback : Text.Bare back)
    (hne : back ≠ []) : Text.Bare (TagPhrase.render ⟨t, name, front ++ back⟩) where
  head := by
    intro c hc
    have hc' : c = '@' := by
      cases t <;> exact (Option.mem_some_iff.mp hc).symm
    rw [hc']
    decide
  last := by
    intro c hc
    refine hback.last c ?_
    rw [TagPhrase.render, List.append_cons, ← List.append_assoc,
      List.getLast?_append_of_ne_nil _ hne] at hc
    exact hc

theorem TagPhrase.bare_render_word {t : TagType} {name word : Text}
    (htrim : Text.trim word = word) (hne : word ≠ []) :
    Text.Bare (TagPhrase.render ⟨t, name, word⟩) :=
  @TagPhrase.bare_render t name [] word (Text.trim_eq_self_iff.mp htrim) hne

/-- The rendering of a command of the grammar says that command again. -/
theorem Command.written_render {text : Text} {c : Command} (h : Command.Written text c) :
    Command.Written c.render c := by
  -- A name is trimmed where it is read, so the trimmed name is written the same way again.
  cases h with
  | edit hplain ho hn =>
    have hw := Written.edit hplain ho.trim hn.trim
    rwa [Text.trim_trim, Text.trim_trim] at hw
  | rename ho hn =>
    have hw := Written.rename ho.trim hn.trim
    rwa [Text.trim_trim, Text.trim_trim] at hw
  | delete hplain hn =>
    have hw := Written.delete hplain hn.trim
    rwa [Text.trim_trim] at hw
  | deleteGroup hn =>
    have hw := Written.deleteGroup hn.trim
    rwa [Text.trim_trim] at hw
  | @pin t _ hn =>
    have hw := Written.pin (t := t) hn.trim
    rwa [Text.trim_trim] at hw
  | @star t _ hn | @fav t _ hn =>
    have hw := Written.star (t := t) hn.trim
    rwa [Text.trim_trim] at hw
  | create hn =>
    have hw := Written.create hn.trim
    rwa [Text.trim_trim] at hw
  | enter hn =>
    have hw := Written.enter hn.trim
    rwa [Text.trim_trim] at hw
  | action kind => exact Written.action kind

/-- There is no white space to spare in a rendering. -/
theorem Command.bare_render {text : Text} {c : Command} (h : Command.Written text c) :
    Text.Bare c.render := by
  cases h with
  | edit _ _ hn => exact TagPhrase.bare_render (Text.bare_trim _) hn.not_blank
  | rename _ hn => exact TagPhrase.bare_render (Text.bare_trim _) hn.not_blank
  | action kind => cases kind <;> exact Text.trim_eq_self_iff.mp (by decide)
  | _ => exact TagPhrase.bare_render_word (by decide) (by decide)

/-! ### The language -/

/-- **The readers accept exactly the grammar.** A text is read as a command exactly if the grammar
has it, apart from white space around it, and every command that is read is read again from its
rendering. -/
theorem Command.read_eq_some_iff (text : Text) (c : Command) :
    (Command.read text = .ok (some c) ↔ Command.Written (Text.trim text) c) ∧
      (Command.read text = .ok (some c) → Command.read c.render = .ok (some c)) := by
  refine ⟨⟨Command.written_of_read, Command.read_of_written⟩, fun h => ?_⟩
  have hw := Command.written_of_read h
  refine Command.read_of_written ?_
  rw [Text.trim_eq_self_iff.mpr (Command.bare_render hw)]
  exact Command.written_render hw

end Notebook
