import Notebook.Proofs.Text.Edges
import Notebook.Tag.Grammar

/-!
# Phrases and what the readers make of them

Every command but a bare group action is a phrase `@type-name/action`. A text is a phrase in one way
at most, so the readers compete for the same three parts, and which of them wins is decided by the
action alone:

- `TagPhrase.ofText?_eq_some_iff` — a text is cut into parts exactly if it is their rendering;
- `TagPhrase.rename?_eq_some_iff`, `named?_eq_some_iff` — what the readers ask of the parts;
- `Command.read_of_render_word`, `read_of_render_edit` — what reading any command gives for a
  phrase, by the word of its action or as a rename;
- `Command.read_of_keyword` — what it gives for a bare group action.
-/

namespace Notebook

/-! ### Names -/

/-- A name as it stands between the hyphen and the slash. -/
structure TagName (name : Text) : Prop where
  no_slash : '/' ∉ name
  not_blank : Text.trim name ≠ []

/-- A new name as it stands behind `edit-`. -/
structure NewName (name : Text) : Prop where
  one_line : '\n' ∉ name
  not_blank : Text.trim name ≠ []
  allowed : ∀ c ∈ Text.trim name, isNameChar c = true

/-! ### Cutting a text into its parts -/

theorem Text.afterExact?_eq_some_iff {keyword text rest : Text} :
    Text.afterExact? keyword text = some rest ↔ text = keyword ++ rest := by
  rw [Text.afterExact?, Text.after?_eq_some_iff]
  simp only [List.map_id_fun, id_eq]
  constructor
  · rintro ⟨head, rfl, rfl⟩
    rfl
  · intro h
    exact ⟨keyword, h, rfl⟩

/-- No opening is the beginning of another, so a text opens for one type of tags at most. -/
theorem TagType.afterOpening?_eq_some_iff {text rest : Text} {t : TagType} :
    TagType.afterOpening? text = some (t, rest) ↔ text = t.opening ++ rest := by
  constructor
  · intro h
    obtain ⟨s, -, hs⟩ := List.exists_of_findSome?_eq_some h
    obtain ⟨r, hr, heq⟩ := Option.map_eq_some_iff.mp hs
    cases heq
    exact Text.afterExact?_eq_some_iff.mp hr
  · rintro rfl
    cases t <;> rfl

/-- What stands before the first slash, the slash itself, and what stands behind it. -/
theorem dropWhile_ne_slash {rest tail : Text} {c : Char}
    (h : rest.dropWhile (· ≠ '/') = c :: tail) :
    rest = rest.takeWhile (· ≠ '/') ++ '/' :: tail := by
  have hc : c = '/' := by
    have := List.head?_dropWhile_not (· ≠ '/') rest
    rw [h] at this
    simpa using this
  subst hc
  rw [← h, List.takeWhile_append_dropWhile]

/-- A text is a phrase in one way at most, because a name has no slash. -/
theorem TagPhrase.ofText?_eq_some_iff {text : Text} {p : TagPhrase} :
    TagPhrase.ofText? text = some p ↔ text = p.render ∧ '/' ∉ p.name := by
  obtain ⟨t, name, action⟩ := p
  unfold TagPhrase.ofText? TagPhrase.render
  constructor
  · intro h
    cases ho : TagType.afterOpening? text with
    | none => simp [ho] at h
    | some found =>
      obtain ⟨s, rest⟩ := found
      rw [ho] at h
      dsimp only at h
      cases hd : rest.dropWhile (· ≠ '/') with
      | nil =>
        rw [hd] at h
        cases h
      | cons c tail =>
        rw [hd] at h
        cases h
        refine ⟨?_, fun hmem => ?_⟩
        · rw [TagType.afterOpening?_eq_some_iff.mp ho, List.append_assoc, ← dropWhile_ne_slash hd]
        · exact absurd (List.mem_takeWhile_imp hmem) (by simp)
  · rintro ⟨rfl, hname⟩
    -- The name ends at the first slash, and it has none itself.
    have hne : ∀ c ∈ name, decide (c ≠ '/') = true := by
      intro c hc
      rw [decide_eq_true_eq]
      rintro rfl
      exact hname hc
    rw [TagType.afterOpening?_eq_some_iff.mpr (List.append_assoc ..)]
    dsimp only
    rw [List.takeWhile_append_of_pos hne, List.dropWhile_append_of_pos hne]
    simp

theorem TagPhrase.read?_eq_some_iff {allowed : TagType → Bool} {text : Text} {p : TagPhrase} :
    TagPhrase.read? allowed text = some p ↔
      Text.trim text = p.render ∧ '/' ∉ p.name ∧ allowed p.tagType = true := by
  rw [TagPhrase.read?, Option.filter_eq_some_iff, TagPhrase.ofText?_eq_some_iff, and_assoc]

/-- Once a text is known to be a phrase, only the type of its tag decides whether it is read. -/
theorem TagPhrase.read?_of_render {text : Text} {p : TagPhrase}
    (h : Text.trim text = p.render) (hp : '/' ∉ p.name) (allowed : TagType → Bool) :
    TagPhrase.read? allowed text = if allowed p.tagType then some p else none := by
  rw [TagPhrase.read?, TagPhrase.ofText?_eq_some_iff.mpr ⟨h, hp⟩, Option.filter_some]

/-- A new name is accepted exactly if it has characters left and no foreign one among them. -/
theorem validateName_trim_eq_ok_iff {name : Text} :
    validateName (Text.trim name) = .ok () ↔
      Text.trim name ≠ [] ∧ ∀ c ∈ Text.trim name, isNameChar c = true := by
  rw [validateName_eq_ok_iff, Text.trim_trim]

/-- What the two readers of renames ask of a phrase. -/
theorem TagPhrase.rename?_eq_some_iff {p : TagPhrase} {old new : Text} :
    p.rename? = .ok (some (old, new)) ↔
      ∃ raw, p.action = "edit-".toList ++ raw ∧ Text.trim p.name ≠ [] ∧ NewName raw ∧
        old = Text.trim p.name ∧ new = Text.trim raw := by
  unfold TagPhrase.rename?
  cases hraw : Text.afterExact? "edit-".toList p.action with
  | none =>
    simp only [Except.ok.injEq, reduceCtorEq, false_iff]
    rintro ⟨raw, haction, -⟩
    rw [Text.afterExact?_eq_some_iff.mpr haction] at hraw
    cases hraw
  | some raw =>
    have haction := Text.afterExact?_eq_some_iff.mp hraw
    dsimp only
    constructor
    · intro h
      split at h
      · cases h
      · rename_i hcond
        rw [not_or, not_or] at hcond
        split at h
        · cases h
        · rename_i hvalid
          cases h
          have hchars := (validateName_trim_eq_ok_iff.mp hvalid).2
          exact ⟨raw, haction, hcond.2.1, ⟨hcond.1, hcond.2.2, hchars⟩, rfl, rfl⟩
    · rintro ⟨raw', haction', hname, hnew, rfl, rfl⟩
      -- The action says its new name in one way only.
      have hraws : raw = raw' := List.append_cancel_left (haction.symm.trans haction')
      subst hraws
      rw [if_neg (by simp [hnew.one_line, hname, hnew.not_blank]),
        validateName_trim_eq_ok_iff.mpr ⟨hnew.not_blank, hnew.allowed⟩]

/-- What the other readers ask of a phrase. -/
theorem TagPhrase.named?_eq_some_iff {p : TagPhrase} {actions : List Text} {name : Text} :
    p.named? actions = some name ↔
      p.action ∈ actions ∧ Text.trim p.name ≠ [] ∧ name = Text.trim p.name := by
  unfold TagPhrase.named?
  split <;> rename_i h
  · simp [h, eq_comm]
  · simp only [reduceCtorEq, false_iff]
    rintro ⟨haction, hname, -⟩
    exact h ⟨haction, hname⟩

/-! ### Reading a phrase -/

/-- What a phrase asks for whose action is a single word. -/
def Command.ofWord? (t : TagType) (name action : Text) : Option Command :=
  if action = "delete".toList then
    some (if t = .orange then .group (.delete name) else .tag (.delete t name))
  else if action = "pin".toList then some (.tag (.pin t name))
  else if action = "star".toList ∨ action = "fav".toList then some (.tag (.star t name))
  else if t ≠ .orange then none
  else if action = "create".toList then some (.group (.create name))
  else if action = "etots".toList then some (.group (.enter name))
  else none

/-- What a phrase asks for whose action is `edit-` and a good new name. -/
def Command.ofRename (t : TagType) (old new : Text) : Command :=
  if t = .orange then .group (.rename old new) else .tag (.edit t old new)

section Phrase

variable {text : Text} {p : TagPhrase} (h : Text.trim text = p.render) (hp : TagName p.name)

include h hp

theorem TagCommand.readNamed_of_render (allowed : TagType → Bool) (actions : List Text)
    (make : TagType → Text → TagCommand) :
    TagCommand.readNamed allowed actions make text =
      .ok (if allowed p.tagType ∧ p.action ∈ actions then
        some (make p.tagType (Text.trim p.name)) else none) := by
  rw [TagCommand.readNamed, TagPhrase.read?_of_render h hp.no_slash]
  cases allowed p.tagType <;> by_cases ha : p.action ∈ actions <;>
    simp [TagPhrase.named?, ha, hp.not_blank]

theorem GroupCommand.readNamed_of_render (action : Text) (make : Text → GroupCommand) :
    GroupCommand.readNamed action make text =
      .ok (if p.tagType = .orange ∧ p.action = action then
        some (make (Text.trim p.name)) else none) := by
  rw [GroupCommand.readNamed, TagPhrase.read?_of_render h hp.no_slash]
  by_cases ht : p.tagType = .orange <;> by_cases ha : p.action = action <;>
    simp [GroupCommand.isGroup, TagPhrase.named?, ht, ha, hp.not_blank]

theorem TagCommand.readEdit_of_render :
    TagCommand.readEdit text =
      if p.tagType = .orange then .ok none
      else p.rename?.map fun names => names.map fun (old, new) => .edit p.tagType old new := by
  rw [TagCommand.readEdit, TagPhrase.read?_of_render h hp.no_slash]
  by_cases ht : p.tagType = .orange <;> simp [TagCommand.isPlain, ht]

theorem GroupCommand.readRename_of_render :
    GroupCommand.readRename text =
      if p.tagType = .orange then
        p.rename?.map fun names => names.map fun (old, new) => .rename old new
      else .ok none := by
  rw [GroupCommand.readRename, TagPhrase.read?_of_render h hp.no_slash]
  by_cases ht : p.tagType = .orange <;> simp [GroupCommand.isGroup, ht]

omit hp in
/-- A phrase begins with the at sign, a bare group action with a slash. -/
theorem GroupCommand.readAction_of_render : GroupCommand.readAction text = .ok none := by
  have hno : GroupAction.ofKeyword? p.render = none := by
    obtain ⟨t, name, action⟩ := p
    cases t <;> rfl
  rw [GroupCommand.readAction, h, hno]
  rfl

end Phrase

/-- Readers that refuse nothing answer with the first that has an answer. -/
theorem firstReading_cons_of_ok {α : Type} {read : Text → Reading α}
    {more : List (Text → Reading α)} {text : Text} {a b : Option α} (ha : read text = .ok a)
    (hb : firstReading more text = .ok b) : firstReading (read :: more) text = .ok (a <|> b) := by
  rw [firstReading, ha]
  cases a with
  | none => exact hb
  | some found => rfl

theorem Command.read_of_ok {text : Text} {a : Option TagCommand} {b : Option GroupCommand}
    (ha : TagCommand.read text = .ok a) (hb : GroupCommand.read text = .ok b) :
    Command.read text = .ok (a.map .tag <|> b.map .group) := by
  rw [Command.read, ha, hb]
  cases a <;> rfl

/-- A phrase that is no rename is read by the word of its action. -/
theorem Command.read_of_render_word {text : Text} {p : TagPhrase} (h : Text.trim text = p.render)
    (hp : TagName p.name) (hno : p.rename? = .ok none) :
    Command.read text = .ok (Command.ofWord? p.tagType (Text.trim p.name) p.action) := by
  have hedit : TagCommand.readEdit text = .ok none := by
    rw [TagCommand.readEdit_of_render h hp, hno]
    exact ite_self _
  have hrename : GroupCommand.readRename text = .ok none := by
    rw [GroupCommand.readRename_of_render h hp, hno]
    exact ite_self _
  have htag := TagCommand.readNamed_of_render h hp
  have hgroup := GroupCommand.readNamed_of_render h hp
  rw [Command.read_of_ok
    (firstReading_cons_of_ok hedit <| firstReading_cons_of_ok (htag ..) <|
      firstReading_cons_of_ok (htag ..) <| firstReading_cons_of_ok (htag ..) rfl)
    (firstReading_cons_of_ok (GroupCommand.readAction_of_render h) <|
      firstReading_cons_of_ok (hgroup ..) <| firstReading_cons_of_ok (hgroup ..) <|
      firstReading_cons_of_ok (hgroup ..) <| firstReading_cons_of_ok hrename rfl),
    Command.ofWord?]
  generalize p.tagType = t, Text.trim p.name = name, p.action = action
  -- One case for each word that some reader knows. No reader takes any other action.
  by_cases hdelete : action = "delete".toList
  · subst hdelete
    cases t <;> rfl
  by_cases hpin : action = "pin".toList
  · subst hpin
    cases t <;> rfl
  by_cases hstar : action = "star".toList
  · subst hstar
    cases t <;> rfl
  by_cases hfav : action = "fav".toList
  · subst hfav
    cases t <;> rfl
  by_cases hcreate : action = "create".toList
  · subst hcreate
    cases t <;> rfl
  by_cases henter : action = "etots".toList
  · subst henter
    cases t <;> rfl
  simp only [List.mem_cons, List.not_mem_nil, hdelete, hpin, hstar, hfav, hcreate, henter, or_self,
    and_false, if_false, ite_self]
  rfl

/-- A phrase that edits is taken by no reader of other actions. Which of the two readers of renames
takes it is decided by its tag, and what they make of it by its names. -/
theorem Command.read_of_render_edit {text new : Text} {p : TagPhrase}
    (h : Text.trim text = p.render) (hp : TagName p.name)
    (haction : p.action = "edit-".toList ++ new) :
    Command.read text =
      p.rename?.map (·.map fun (old, new) => Command.ofRename p.tagType old new) := by
  have htag : ∀ allowed actions make, (∀ a ∈ actions, ¬"edit-".toList <+: a) →
      TagCommand.readNamed allowed actions make text = .ok none := by
    intro allowed actions make hactions
    rw [TagCommand.readNamed_of_render h hp, if_neg]
    exact fun hmem => hactions _ hmem.2 ⟨new, haction.symm⟩
  have hgroup : ∀ action make, ¬"edit-".toList <+: action →
      GroupCommand.readNamed action make text = .ok none := by
    intro action make hne
    rw [GroupCommand.readNamed_of_render h hp, if_neg]
    exact fun heq => hne ⟨new, haction.symm.trans heq.2⟩
  have hdelete : TagCommand.readDelete text = .ok none := htag _ _ _ (by decide)
  have hpin : TagCommand.readPin text = .ok none := htag _ _ _ (by decide)
  have hstar : TagCommand.readStar text = .ok none := htag _ _ _ (by decide)
  have hcreate : GroupCommand.readCreate text = .ok none := hgroup _ _ (by decide)
  have hdelete' : GroupCommand.readDelete text = .ok none := hgroup _ _ (by decide)
  have henter : GroupCommand.readEnter text = .ok none := hgroup _ _ (by decide)
  have haction' := GroupCommand.readAction_of_render h
  have hedit := TagCommand.readEdit_of_render h hp
  have hrename := GroupCommand.readRename_of_render h hp
  unfold Command.read TagCommand.read GroupCommand.read TagCommand.readers GroupCommand.readers
  simp only [firstReading, hdelete, hpin, hstar, hcreate, hdelete', henter, haction', hedit,
    hrename]
  -- Both readers of renames say the same of the names; the tag decides which of them is asked.
  by_cases ht : p.tagType = .orange
  · simp only [ht, if_true, Command.ofRename]
    cases p.rename? with
    | error e => rfl
    | ok names => cases names <;> rfl
  · simp only [ht, if_false, Command.ofRename]
    cases p.rename? with
    | error e => rfl
    | ok names => cases names <;> rfl

/-- A phrase that is a rename with a good new name is read as that rename. -/
theorem Command.read_of_render_rename {text old new : Text} {p : TagPhrase}
    (h : Text.trim text = p.render) (hp : TagName p.name)
    (hnames : p.rename? = .ok (some (old, new))) :
    Command.read text = .ok (some (Command.ofRename p.tagType old new)) := by
  obtain ⟨raw, haction, -⟩ := TagPhrase.rename?_eq_some_iff.mp hnames
  rw [Command.read_of_render_edit h hp haction, hnames]
  rfl

/-- A bare group action is no phrase, so that only its own reader takes it. -/
theorem Command.read_of_keyword {text : Text} {kind : GroupAction}
    (h : Text.trim text = kind.keyword) :
    Command.read text = .ok (some (.group (.action kind))) := by
  have hno : ∀ allowed, TagPhrase.read? allowed text = none := by
    intro allowed
    rw [TagPhrase.read?, h]
    cases kind <;> rfl
  have hedit : TagCommand.readEdit text = .ok none := by rw [TagCommand.readEdit, hno]
  have hnamed : ∀ allowed actions make,
      TagCommand.readNamed allowed actions make text = .ok none := by
    intro allowed actions make
    rw [TagCommand.readNamed, hno]
    rfl
  have haction : GroupCommand.readAction text = .ok (some (.action kind)) := by
    rw [GroupCommand.readAction, h]
    cases kind <;> rfl
  -- Tag commands are tried first and all need a phrase.
  have htag : TagCommand.read text = .ok none :=
    firstReading_cons_of_ok hedit <| firstReading_cons_of_ok (hnamed ..) <|
      firstReading_cons_of_ok (hnamed ..) <| firstReading_cons_of_ok (hnamed ..) rfl
  have hgroup : GroupCommand.read text = .ok (some (.action kind)) := by
    rw [GroupCommand.read, GroupCommand.readers, firstReading, haction]
  exact Command.read_of_ok htag hgroup

end Notebook
