import Notebook.Intent
import Notebook.Proofs.Tag.Phrase

/-!
# At most one grammar takes a text

The readers of commands are tried in a fixed order, and a refused rename keeps the later ones from
being tried at all. The order decides nothing, because no two of them take the same text:

- `CommandForm` — the forms of commands, one for each reader; `CommandForm.ofText?` tells the form
  of a text by its phrase alone, and `ofText?_of_taken` says that a reader takes only texts of its
  form;
- `Exclusive` — readers of which at most one takes a text; `Exclusive.firstReading_perm` says that
  they may be tried in any order;
- `passed_of_isNewNote` — the command that makes a note is taken by none of them;
- `Settings.interpret_any_order` — what a line is meant as does not depend on any order.
-/

namespace Notebook

/-! ### Readers of several kinds -/

/-- A reader of one kind of thing as a reader of a wider kind. -/
def readAs {α β : Type} (make : α → β) (read : Text → Reading α) (text : Text) : Reading β :=
  (read text).map (·.map make)

theorem readAs_eq_nothing_iff {α β : Type} {make : α → β} {read : Text → Reading α} {text : Text} :
    readAs make read text = .ok none ↔ read text = .ok none := by
  unfold readAs
  cases read text with
  | error e => simp [Except.map]
  | ok found => simp [Except.map]

/-- The readers of all commands, in the order they are tried. -/
def Command.readers : List (Text → Reading Command) :=
  TagCommand.readers.map (readAs .tag) ++ GroupCommand.readers.map (readAs .group)

/-! ### The form of a command -/

/-- The forms a command can have, one for each reader. -/
inductive CommandForm where
  | edit
  | delete
  | pin
  | star
  | action
  | create
  | deleteGroup
  | enter
  | rename
deriving DecidableEq

namespace CommandForm

/-- The forms, in the order they are tried. -/
def all : List CommandForm :=
  [edit, delete, pin, star, action, create, deleteGroup, enter, rename]

/-- The reader that takes the commands of a form. -/
def read : CommandForm → Text → Reading Command
  | edit => readAs .tag TagCommand.readEdit
  | delete => readAs .tag TagCommand.readDelete
  | pin => readAs .tag TagCommand.readPin
  | star => readAs .tag TagCommand.readStar
  | action => readAs .group GroupCommand.readAction
  | create => readAs .group GroupCommand.readCreate
  | deleteGroup => readAs .group GroupCommand.readDelete
  | enter => readAs .group GroupCommand.readEnter
  | rename => readAs .group GroupCommand.readRename

theorem map_read_all : all.map read = Command.readers := rfl

/-- The form of a phrase, by its action and by whether its tag is a group. -/
def ofPhrase? (p : TagPhrase) : Option CommandForm :=
  if "edit-".toList <+: p.action then some (if p.tagType = .orange then rename else edit)
  else if p.action = "delete".toList then
    some (if p.tagType = .orange then deleteGroup else delete)
  else if p.action = "pin".toList then some pin
  else if p.action = "star".toList ∨ p.action = "fav".toList then some star
  else if p.action = "create".toList then some create
  else if p.action = "etots".toList then some enter
  else none

/-- The only form that a text can have. Only a bare action is no phrase. -/
def ofText? (text : Text) : Option CommandForm :=
  match TagPhrase.ofText? (Text.trim text) with
  | some p => ofPhrase? p
  | none => some action

theorem ofText?_of_phrase {text : Text} {p : TagPhrase}
    (h : TagPhrase.ofText? (Text.trim text) = some p) : ofText? text = ofPhrase? p := by
  rw [ofText?, h]

end CommandForm

/-! ### What a reader takes -/

theorem TagPhrase.exists_of_read? {allowed : TagType → Bool} {text : Text} {p : TagPhrase}
    (h : TagPhrase.read? allowed text = some p) :
    TagPhrase.ofText? (Text.trim text) = some p ∧ allowed p.tagType = true :=
  Option.filter_eq_some_iff.mp h

theorem TagPhrase.edit_prefix_of_rename? {p : TagPhrase} (h : p.rename? ≠ .ok none) :
    "edit-".toList <+: p.action := by
  cases hafter : Text.afterExact? "edit-".toList p.action with
  | none =>
    rw [rename?, hafter] at h
    exact absurd rfl h
  | some new =>
    rw [Text.afterExact?_eq_some_iff.mp hafter]
    exact List.prefix_append ..

theorem TagPhrase.mem_of_named? {p : TagPhrase} {actions : List Text} {name : Text}
    (h : p.named? actions = some name) : p.action ∈ actions :=
  (TagPhrase.named?_eq_some_iff.mp h).1

/-- A reader of renames takes a text only if it is a phrase that edits. -/
theorem TagCommand.exists_of_readEdit {text : Text} (h : TagCommand.readEdit text ≠ .ok none) :
    ∃ p, TagPhrase.ofText? (Text.trim text) = some p ∧ p.tagType ≠ .orange ∧
      "edit-".toList <+: p.action := by
  cases hp : TagPhrase.read? isPlain text with
  | none =>
    rw [readEdit, hp] at h
    exact absurd rfl h
  | some p =>
    obtain ⟨hphrase, hplain⟩ := TagPhrase.exists_of_read? hp
    refine ⟨p, hphrase, by simpa [isPlain] using hplain, TagPhrase.edit_prefix_of_rename? ?_⟩
    intro hnone
    rw [readEdit, hp] at h
    dsimp only at h
    rw [hnone] at h
    exact h rfl

theorem GroupCommand.exists_of_readRename {text : Text}
    (h : GroupCommand.readRename text ≠ .ok none) :
    ∃ p, TagPhrase.ofText? (Text.trim text) = some p ∧ p.tagType = .orange ∧
      "edit-".toList <+: p.action := by
  cases hp : TagPhrase.read? isGroup text with
  | none =>
    rw [readRename, hp] at h
    exact absurd rfl h
  | some p =>
    obtain ⟨hphrase, hgroup⟩ := TagPhrase.exists_of_read? hp
    refine ⟨p, hphrase, by simpa [isGroup] using hgroup, TagPhrase.edit_prefix_of_rename? ?_⟩
    intro hnone
    rw [readRename, hp] at h
    dsimp only at h
    rw [hnone] at h
    exact h rfl

/-- Any other reader of phrases takes a text only if it is a phrase with one of its actions. -/
theorem TagCommand.phrase_of_readNamed {allowed : TagType → Bool} {actions : List Text}
    {make : TagType → Text → TagCommand} {text : Text}
    (h : TagCommand.readNamed allowed actions make text ≠ .ok none) :
    ∃ p, TagPhrase.ofText? (Text.trim text) = some p ∧ allowed p.tagType = true ∧
      p.action ∈ actions := by
  obtain ⟨c, hc⟩ := Option.ne_none_iff_exists'.mp fun hnone => h (congrArg Except.ok hnone)
  obtain ⟨p, hp, hnamed⟩ := Option.bind_eq_some_iff.mp hc
  obtain ⟨name, hname, -⟩ := Option.map_eq_some_iff.mp hnamed
  obtain ⟨hphrase, hallowed⟩ := TagPhrase.exists_of_read? hp
  exact ⟨p, hphrase, hallowed, TagPhrase.mem_of_named? hname⟩

theorem GroupCommand.phrase_of_readNamed {action : Text} {make : Text → GroupCommand} {text : Text}
    (h : GroupCommand.readNamed action make text ≠ .ok none) :
    ∃ p, TagPhrase.ofText? (Text.trim text) = some p ∧ p.tagType = .orange ∧
      p.action = action := by
  obtain ⟨c, hc⟩ := Option.ne_none_iff_exists'.mp fun hnone => h (congrArg Except.ok hnone)
  obtain ⟨p, hp, hnamed⟩ := Option.bind_eq_some_iff.mp hc
  obtain ⟨name, hname, -⟩ := Option.map_eq_some_iff.mp hnamed
  obtain ⟨hphrase, hgroup⟩ := TagPhrase.exists_of_read? hp
  exact ⟨p, hphrase, by simpa [isGroup] using hgroup,
    List.mem_singleton.mp (TagPhrase.mem_of_named? hname)⟩

/-- A bare action begins with a slash, and a phrase with an at sign. -/
theorem GroupCommand.no_phrase_of_readAction {text : Text}
    (h : GroupCommand.readAction text ≠ .ok none) :
    TagPhrase.ofText? (Text.trim text) = none := by
  obtain ⟨c, hc⟩ := Option.ne_none_iff_exists'.mp fun hnone => h (congrArg Except.ok hnone)
  obtain ⟨kind, hkind, -⟩ := Option.map_eq_some_iff.mp hc
  have htext : kind.keyword = Text.trim text := by simpa using List.find?_some hkind
  rw [← htext]
  cases kind <;> rfl

/-- **A reader takes only texts of its form.** -/
theorem CommandForm.ofText?_of_taken {form : CommandForm} {text : Text}
    (h : form.read text ≠ .ok none) : ofText? text = some form := by
  -- Every reader but that of bare actions reads a phrase, and the phrase tells the form.
  cases form <;> unfold read at h <;> rw [Ne, readAs_eq_nothing_iff] at h
  case edit =>
    obtain ⟨p, hp, hplain, haction⟩ := TagCommand.exists_of_readEdit h
    rw [ofText?_of_phrase hp, ofPhrase?, if_pos haction, if_neg hplain]
  case rename =>
    obtain ⟨p, hp, hgroup, haction⟩ := GroupCommand.exists_of_readRename h
    rw [ofText?_of_phrase hp, ofPhrase?, if_pos haction, if_pos hgroup]
  case action => rw [ofText?, GroupCommand.no_phrase_of_readAction h]
  case delete =>
    obtain ⟨p, hp, hplain, haction⟩ := TagCommand.phrase_of_readNamed h
    have hplain : p.tagType ≠ .orange := by simpa [TagCommand.isPlain] using hplain
    rw [ofText?_of_phrase hp, ofPhrase?, List.mem_singleton.mp haction]
    exact congrArg some (if_neg hplain)
  case pin =>
    obtain ⟨p, hp, -, haction⟩ := TagCommand.phrase_of_readNamed h
    rw [ofText?_of_phrase hp, ofPhrase?, List.mem_singleton.mp haction]
    rfl
  case star =>
    obtain ⟨p, hp, -, haction⟩ := TagCommand.phrase_of_readNamed h
    rw [ofText?_of_phrase hp, ofPhrase?]
    rcases List.mem_pair.mp haction with haction | haction <;> rw [haction] <;> rfl
  case deleteGroup =>
    obtain ⟨p, hp, hgroup, haction⟩ := GroupCommand.phrase_of_readNamed h
    rw [ofText?_of_phrase hp, ofPhrase?, haction]
    exact congrArg some (if_pos hgroup)
  case create | enter =>
    obtain ⟨p, hp, -, haction⟩ := GroupCommand.phrase_of_readNamed h
    rw [ofText?_of_phrase hp, ofPhrase?, haction]
    rfl

/-! ### Readers that exclude each other -/

/-- At most one of several readers takes a text; the others pass it on. -/
def Exclusive {α : Type} (readers : List (Text → Reading α)) (text : Text) : Prop :=
  readers.Pairwise fun read other => read text = .ok none ∨ other text = .ok none

/-- A text has one form at most, so at most one reader of commands takes it. -/
theorem Command.exclusive_readers (text : Text) : Exclusive Command.readers text := by
  have hdistinct : CommandForm.all.Pairwise (· ≠ ·) := by decide
  rw [Exclusive, ← CommandForm.map_read_all, List.pairwise_map]
  refine hdistinct.imp fun {form other} hne => ?_
  by_contra hboth
  rw [not_or] at hboth
  have hform := CommandForm.ofText?_of_taken hboth.1
  rw [CommandForm.ofText?_of_taken hboth.2] at hform
  exact hne (Option.some.inj hform).symm

section FirstReading

variable {α : Type} {readers others : List (Text → Reading α)} {text : Text}

theorem firstReading_cons_of_passed {read : Text → Reading α} (h : read text = .ok none) :
    firstReading (read :: readers) text = firstReading readers text := by
  rw [firstReading, h]

theorem firstReading_cons_of_taken {read : Text → Reading α} (h : read text ≠ .ok none) :
    firstReading (read :: readers) text = read text := by
  rw [firstReading]
  split
  · rename_i hpassed
    exact absurd hpassed h
  · rfl

theorem firstReading_of_passed (h : ∀ read ∈ readers, read text = .ok none) :
    firstReading readers text = .ok none := by
  induction readers with
  | nil => rfl
  | cons read more ih =>
    rw [firstReading_cons_of_passed (h read List.mem_cons_self)]
    exact ih fun r hr => h r (List.mem_cons_of_mem _ hr)

/-- What is answered is the answer of a reader that takes the text. -/
theorem exists_taken_of_firstReading (h : firstReading readers text ≠ .ok none) :
    ∃ read ∈ readers, read text ≠ .ok none := by
  by_contra hnone
  push Not at hnone
  exact h (firstReading_of_passed hnone)

/-- If one reader at most takes the text, what it answers is the answer, wherever it stands. -/
theorem Exclusive.firstReading_eq (h : Exclusive readers text) {read : Text → Reading α}
    (hread : read ∈ readers) (htaken : read text ≠ .ok none) :
    firstReading readers text = read text := by
  induction readers with
  | nil => cases hread
  | cons first more ih =>
    obtain ⟨hfirst, hmore⟩ := List.pairwise_cons.mp h
    rcases List.mem_cons.mp hread with rfl | hread
    · exact firstReading_cons_of_taken htaken
    · rw [firstReading_cons_of_passed ((hfirst read hread).resolve_right htaken)]
      exact ih hmore hread

theorem Exclusive.perm (h : Exclusive readers text) (hperm : others.Perm readers) :
    Exclusive others text :=
  (hperm.pairwise_iff fun {_ _} => Or.symm).mpr h

/-- Readers of which one at most takes the text may be tried in any order. -/
theorem Exclusive.firstReading_perm (h : Exclusive readers text) (hperm : others.Perm readers) :
    firstReading others text = firstReading readers text := by
  by_cases htaken : ∃ read ∈ readers, read text ≠ .ok none
  · obtain ⟨read, hread, htaken⟩ := htaken
    rw [h.firstReading_eq hread htaken,
      (h.perm hperm).firstReading_eq (hperm.mem_iff.mpr hread) htaken]
  · push Not at htaken
    rw [firstReading_of_passed htaken,
      firstReading_of_passed fun read hread => htaken read (hperm.mem_iff.mp hread)]

end FirstReading

theorem Command.exclusive_parts (text : Text) :
    Exclusive TagCommand.readers text ∧ Exclusive GroupCommand.readers text ∧
      ∀ tag ∈ TagCommand.readers, ∀ group ∈ GroupCommand.readers,
        tag text = .ok none ∨ group text = .ok none := by
  have h := Command.exclusive_readers text
  simp only [Exclusive, Command.readers, List.pairwise_append, List.pairwise_map,
    readAs_eq_nothing_iff, List.forall_mem_map] at h
  exact h

/-! ### The command that makes a note -/

theorem trim_prefix_trimStart (t : Text) : Text.trim t <+: Text.trimStart t := by
  rw [Text.trim, Text.trimEnd, Text.dropEndWhile_eq_rdropWhile]
  exact List.rdropWhile_prefix _ _

/-- The command that makes a note begins with an at sign and the letter n. -/
theorem exists_of_isNewNote {input : Text} (h : isNewNote input = true) :
    ∃ first second rest, Text.trimStart input = first :: second :: rest ∧
      first.toLower = '@' ∧ second.toLower = 'n' := by
  obtain ⟨rest, hrest⟩ := Option.isSome_iff_exists.mp h
  obtain ⟨head, hhead, hspelled⟩ := Text.after?_eq_some_iff.mp hrest
  have hlength : head.length = 5 := by
    rw [← List.length_map, hspelled]
    rfl
  match head, hlength with
  | [c₀, c₁, c₂, c₃, c₄], _ =>
    have hkeyword : [c₀, c₁, c₂, c₃, c₄].map Char.toLower = "@new-".toList := hspelled
    obtain ⟨h₀, hmore⟩ := List.cons.inj hkeyword
    obtain ⟨h₁, -⟩ := List.cons.inj hmore
    exact ⟨c₀, c₁, _, hhead, h₀, h₁⟩

/-- No type of tags begins with the letter n, so the command is no phrase. -/
theorem no_phrase_of_isNewNote {input : Text} (h : isNewNote input = true) :
    TagPhrase.ofText? (Text.trim input) = none := by
  obtain ⟨first, second, rest, hstart, -, hsecond⟩ := exists_of_isNewNote h
  rw [Option.eq_none_iff_forall_not_mem]
  intro p hp
  have hrender : ∃ d more, p.render = '@' :: d :: more ∧ d.toLower ≠ 'n' := by
    obtain ⟨t, name, action⟩ := p
    cases t <;> exact ⟨_, _, rfl, by decide⟩
  obtain ⟨d, more, hrender, hd⟩ := hrender
  have hbegin := trim_prefix_trimStart input
  rw [(TagPhrase.ofText?_eq_some_iff.mp hp).1, hrender, hstart, List.cons_prefix_cons,
    List.cons_prefix_cons] at hbegin
  rw [hbegin.2.1] at hd
  exact hd hsecond

/-- The command is no bare action, which would begin with a slash. -/
theorem no_action_of_isNewNote {input : Text} (h : isNewNote input = true) :
    GroupAction.ofKeyword? (Text.trim input) = none := by
  obtain ⟨first, second, rest, hstart, hfirst, -⟩ := exists_of_isNewNote h
  rw [Option.eq_none_iff_forall_not_mem]
  intro kind hkind
  have hkeyword : ∃ more, kind.keyword = '/' :: more := by
    cases kind <;> exact ⟨_, rfl⟩
  obtain ⟨more, hkeyword⟩ := hkeyword
  have htext : kind.keyword = Text.trim input := by simpa using List.find?_some hkind
  have hbegin := trim_prefix_trimStart input
  rw [← htext, hkeyword, hstart, List.cons_prefix_cons] at hbegin
  rw [← hbegin.1] at hfirst
  exact absurd hfirst (by decide)

/-- A text that is neither a phrase nor a bare action is passed on by every reader of commands. -/
theorem passed_of_no_phrase {text : Text} (hphrase : TagPhrase.ofText? (Text.trim text) = none)
    (haction : GroupAction.ofKeyword? (Text.trim text) = none) :
    ∀ read ∈ Command.readers, read text = .ok none := by
  intro read hread
  rw [← CommandForm.map_read_all] at hread
  obtain ⟨form, -, rfl⟩ := List.mem_map.mp hread
  by_contra htaken
  have hform := CommandForm.ofText?_of_taken htaken
  rw [CommandForm.ofText?, hphrase] at hform
  obtain rfl := Option.some.inj hform
  rw [CommandForm.read, readAs_eq_nothing_iff, GroupCommand.readAction, haction] at htaken
  exact htaken rfl

theorem read_of_passed {text : Text} (h : ∀ read ∈ Command.readers, read text = .ok none) :
    TagCommand.read text = .ok none ∧ GroupCommand.read text = .ok none := by
  rw [Command.readers, List.forall_mem_append, List.forall_mem_map, List.forall_mem_map] at h
  exact ⟨firstReading_of_passed fun r hr => readAs_eq_nothing_iff.mp (h.1 r hr),
    firstReading_of_passed fun r hr => readAs_eq_nothing_iff.mp (h.2 r hr)⟩

/-- **No reader of commands takes the command that makes a note.** -/
theorem passed_of_isNewNote {input : Text} (h : isNewNote input = true) :
    ∀ read ∈ Command.readers, read input = .ok none :=
  passed_of_no_phrase (no_phrase_of_isNewNote h) (no_action_of_isNewNote h)

theorem isNewNote_of_ofCommand? {defaultTitle input : Text} {draft : Draft}
    (h : Draft.ofCommand? defaultTitle input = some draft) : isNewNote input = true := by
  cases hafter : afterNewNote? input with
  | none =>
    rw [Draft.ofCommand?, hafter] at h
    cases h
  | some rest => rw [isNewNote, hafter, Option.isSome_some]

/-! ### Any order -/

/-- The grammars of commands, with the readers of each in some order. -/
def Command.grammars (tags : List (Text → Reading TagCommand))
    (groups : List (Text → Reading GroupCommand)) : List (Text → Reading Command) :=
  [readAs .tag (firstReading tags), readAs .group (firstReading groups)]

/-- Reads the command that makes a note. -/
def Settings.readNote (s : Settings) (input : Text) : Reading Intent :=
  .ok ((Draft.ofCommand? s.defaultTitle input).map .newNote)

/-- The grammars of lines, with the readers of commands in some order. -/
def Settings.grammars (s : Settings) (tags : List (Text → Reading TagCommand))
    (groups : List (Text → Reading GroupCommand)) : List (Text → Reading Intent) :=
  s.readNote :: (Command.grammars tags groups).map (readAs .command)

/-- What a line is meant as, by what the grammars make of it. -/
def Intent.ofReading (input : Text) : Reading Intent → Intent
  | .ok (some intent) => intent
  | .ok none => .text (Text.trim input)
  | .error e => .invalidRename e

section AnyOrder

variable {tags : List (Text → Reading TagCommand)} {groups : List (Text → Reading GroupCommand)}
  {input : Text} (htags : firstReading tags input = TagCommand.read input)
  (hgroups : firstReading groups input = GroupCommand.read input)

include htags hgroups

/-- The grammars in their order are what reads a command. -/
theorem Command.firstReading_grammars :
    firstReading (Command.grammars tags groups) input = Command.read input := by
  unfold Command.read
  simp only [Command.grammars, firstReading, readAs, htags, hgroups]
  cases TagCommand.read input with
  | error e => rfl
  | ok tag =>
    cases tag with
    | some c => rfl
    | none =>
      cases GroupCommand.read input with
      | error e => rfl
      | ok group => cases group <;> rfl

/-- The grammars in their order are what decides about a line. -/
theorem Settings.ofReading_grammars (s : Settings) :
    Intent.ofReading input (firstReading (s.grammars tags groups) input) = s.interpret input := by
  rw [Settings.interpret, ← Command.firstReading_grammars htags hgroups]
  simp only [Settings.grammars, Settings.readNote, Command.grammars, List.map_cons, List.map_nil,
    firstReading, readAs]
  cases Draft.ofCommand? s.defaultTitle input with
  | some draft => rfl
  | none =>
    cases firstReading tags input with
    | error e => rfl
    | ok tag =>
      cases tag with
      | some c => rfl
      | none =>
        cases firstReading groups input with
        | error e => rfl
        | ok group => cases group <;> rfl

/-- A tag command is no group command, and a refused rename of the one none of the other. -/
theorem Command.exclusive_grammars : Exclusive (Command.grammars tags groups) input := by
  obtain ⟨-, -, hparts⟩ := Command.exclusive_parts input
  have htwo : readAs Command.tag (firstReading tags) input = .ok none ∨
      readAs Command.group (firstReading groups) input = .ok none := by
    rw [readAs_eq_nothing_iff, readAs_eq_nothing_iff, htags, hgroups]
    by_contra hboth
    rw [not_or] at hboth
    obtain ⟨tag, htag, htaken⟩ := exists_taken_of_firstReading hboth.1
    obtain ⟨group, hgroup, htaken'⟩ := exists_taken_of_firstReading hboth.2
    exact (hparts tag htag group hgroup).elim htaken htaken'
  simpa [Exclusive, Command.grammars] using htwo

/-- The command that makes a note is no command on tags or groups. -/
theorem Settings.exclusive_grammars (s : Settings) : Exclusive (s.grammars tags groups) input := by
  refine List.pairwise_cons.mpr ⟨fun read hread => ?_, ?_⟩
  · cases hdraft : Draft.ofCommand? s.defaultTitle input with
    | none => exact Or.inl (by rw [readNote, hdraft]; rfl)
    | some draft =>
      obtain ⟨htag, hgroup⟩ := read_of_passed (passed_of_isNewNote (isNewNote_of_ofCommand? hdraft))
      rw [← htags] at htag
      rw [← hgroups] at hgroup
      obtain ⟨grammar, hgrammar, rfl⟩ := List.mem_map.mp hread
      rw [readAs_eq_nothing_iff]
      refine Or.inr ?_
      rcases List.mem_pair.mp hgrammar with rfl | rfl
      · exact readAs_eq_nothing_iff.mpr htag
      · exact readAs_eq_nothing_iff.mpr hgroup
  · rw [List.pairwise_map]
    simp only [readAs_eq_nothing_iff]
    exact Command.exclusive_grammars htags hgroups

end AnyOrder

/-- **What a line is meant as does not depend on any order.** At most one reader of commands takes a
line, and none takes the command that makes a note. So the readers of tag commands may be tried in
any order, and those of group commands, and the grammars themselves. -/
theorem Settings.interpret_any_order (s : Settings) (input : Text) :
    Exclusive Command.readers input ∧
      (isNewNote input = true → ∀ read ∈ Command.readers, read input = .ok none) ∧
      ∀ tags groups, tags.Perm TagCommand.readers → groups.Perm GroupCommand.readers →
        (∀ order, order.Perm (Command.grammars tags groups) →
          firstReading order input = Command.read input) ∧
        ∀ order, order.Perm (s.grammars tags groups) →
          Intent.ofReading input (firstReading order input) = s.interpret input := by
  obtain ⟨htags, hgroups, -⟩ := Command.exclusive_parts input
  refine ⟨Command.exclusive_readers input, passed_of_isNewNote, fun tags groups hperm hperm' => ?_⟩
  -- At most one reader of each table answers, so the first to answer is the same in any order.
  have htag : firstReading tags input = TagCommand.read input := htags.firstReading_perm hperm
  have hgroup : firstReading groups input = GroupCommand.read input :=
    hgroups.firstReading_perm hperm'
  refine ⟨fun order horder => ?_, fun order horder => ?_⟩
  · rw [(Command.exclusive_grammars htag hgroup).firstReading_perm horder,
      Command.firstReading_grammars htag hgroup]
  · rw [(s.exclusive_grammars htag hgroup).firstReading_perm horder,
      s.ofReading_grammars htag hgroup]

/-- A note that reads like a command behind its keyword, and a refused rename of a group that reads
like a note: tried backwards, the grammars make the same of them. -/
theorem Settings.interpret_any_order_backwards :
    let note := "@new-@blue-x/pin".toList
    let rename := " @orange-@new- /edit-a/pin".toList
    let backwards :=
      Settings.grammars {} TagCommand.readers.reverse GroupCommand.readers.reverse
    (isNewNote note = true ∧ ∀ read ∈ Command.readers, read note = .ok none) ∧
      Intent.ofReading rename (firstReading backwards.reverse rename) =
        .invalidRename ⟨.orange, "@new-".toList, "a/pin".toList, .invalidCharacter '/'⟩ := by
  intro note rename backwards
  have hnote : isNewNote note = true := by decide
  obtain ⟨-, hpassed, -⟩ := Settings.interpret_any_order {} note
  obtain ⟨-, -, horders⟩ := Settings.interpret_any_order {} rename
  obtain ⟨-, hlines⟩ := horders TagCommand.readers.reverse GroupCommand.readers.reverse
    (List.reverse_perm _) (List.reverse_perm _)
  have hrefused : Settings.interpret {} rename =
      .invalidRename ⟨.orange, "@new-".toList, "a/pin".toList, .invalidCharacter '/'⟩ := by
    decide
  exact ⟨⟨hnote, hpassed hnote⟩, (hlines backwards.reverse (List.reverse_perm _)).trans hrefused⟩

end Notebook
