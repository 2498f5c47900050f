import Notebook.Proofs.Text.Scan

/-!
# Taking occurrences out does not make new ones

Flags are taken out kind by kind, each kind from the text that the one before it left, and every
flag leaves a space. This module says why no flag comes into being on the way, for readers of any
kind that meet two conditions:

- `Text.Spelled` — a reader recognises a word of some language, at a word boundary or not;
- `Text.readSpelling` — the reader of a single word, for which `Spelled.single` says the same as of
  the reader of its language;
- `Text.Detached` — what a reader takes away is not part of a word that goes on before or behind it;
- `Text.occurrences_replaceFrom_le`, `occurs_of_occurs_replaceFrom` — in what a detached reader
  leaves a spelled one has no more occurrences than before;
- `Text.not_occurs_replaceFrom_self` — a reader that is both leaves no occurrence of its own, if it
  keeps nothing unread.
-/

namespace Notebook

namespace Text

/-- A reader recognises the words of a language. They may have to start and to end at a word
boundary, have no gap in them, and start with a letter or end in a word character if a boundary is
asked for there. -/
structure Spelled {α : Type} (read : Reader α) (word : Text → Prop) (atStart atEnd : Bool) :
    Prop where
  reads_iff : ∀ {before t}, (read before t).isSome ↔
    (atStart = true → before.any isWord = false) ∧
      ∃ w rest, t = w ++ rest ∧ word w ∧ (atEnd = true → startsWord rest = false)
  solid : ∀ {w}, word w → ∀ c ∈ w, isGap c = false
  head : ∀ {w}, word w → ∃ c u, w = c :: u ∧ (atStart = true → c.isAlpha = true)
  last : ∀ {w}, word w → atEnd = true → ∃ u c, w = u ++ [c] ∧ isWord c = true

/-- What a reader takes away starts at a word boundary or with no word character, and no ASCII
letter follows it. -/
structure Detached {α : Type} (read : Reader α) : Prop where
  fits : Fits read
  start : ∀ {before c rest}, (read before (c :: rest)).isSome → isWord c = true →
    before.any isWord = false
  stop : ∀ {before c removed rest f}, read before (c :: (removed ++ rest)) = some f →
    removed.length = f.removedAfterFirst → ∀ d ∈ rest.head?, d.isAlpha = false

theorem isGap_space : isGap ' ' = true := by decide

theorem isWord_space : isWord ' ' = false := isWord_of_isGap isGap_space

/-- A word without the character between two texts is at the start of the first, if it is at the
start of both together. -/
theorem exists_of_append_eq_append {g : Char} {u v w rest : Text} (hw : g ∉ w)
    (h : u ++ g :: v = w ++ rest) : ∃ u', u = w ++ u' ∧ rest = u' ++ g :: v := by
  rcases List.append_eq_append_iff.mp h with ⟨w', hw', htail⟩ | ⟨u', hu', hrest⟩
  · cases w' with
    | nil => exact ⟨[], by rw [hw', List.append_nil, List.append_nil], htail.symm⟩
    | cons d w' =>
      obtain ⟨rfl, -⟩ := List.cons.inj htail
      exact absurd (by simp [hw']) hw
  · exact ⟨u', hu', hrest⟩

section Spelled

variable {α : Type} {read : Reader α} {word : Text → Prop} {atStart atEnd : Bool}

/-- A reader of words sees neither past a gap nor which gap is before it. -/
theorem Spelled.gapLocal (h : Spelled read word atStart atEnd) :
    GapLocal fun before t => (read before t).isSome where
  at_gap := by
    intro b g v hg hread
    obtain ⟨-, w, rest, ht, hw, -⟩ := h.reads_iff.mp hread
    obtain ⟨c, u, rfl, -⟩ := h.head hw
    obtain ⟨rfl, -⟩ := List.cons.inj ht
    rw [h.solid hw g List.mem_cons_self] at hg
    cases hg
  before_gap := by
    intro b u g v hg hu
    rw [h.reads_iff, h.reads_iff]
    have hstop : startsWord (g :: v) = false := isWord_of_isGap hg
    refine and_congr_right fun _ => ⟨?_, ?_⟩
    · rintro ⟨w, rest, ht, hw, hend⟩
      -- The gap is no part of the word, so the word ends in front of it.
      have hsolid : g ∉ w := by
        intro hmem
        rw [h.solid hw g hmem] at hg
        cases hg
      obtain ⟨u', hu', rfl⟩ := exists_of_append_eq_append hsolid ht
      refine ⟨w, u', hu', hw, fun hatEnd => ?_⟩
      cases u' with
      | nil => rfl
      | cons d u' => exact hend hatEnd
    · rintro ⟨w, rest, rfl, hw, hend⟩
      refine ⟨w, rest ++ g :: v, List.append_assoc .., hw, fun hatEnd => ?_⟩
      cases rest with
      | nil => exact hstop
      | cons d rest => exact hend hatEnd
  after_gap := by
    intro g t hg
    rw [h.reads_iff, h.reads_iff]
    have hbefore : (some g).any isWord = false := isWord_of_isGap hg
    simp [hbefore]

/-- Nothing is found at a space. -/
theorem Spelled.eq_none_at_space (h : Spelled read word atStart atEnd) (before : Option Char)
    (t : Text) : read before (' ' :: t) = none :=
  Option.not_isSome_iff_eq_none.mp (h.gapLocal.at_gap isGap_space)

/-- Without a letter at the start of the text it does not matter what is before it. -/
theorem Spelled.change_before (h : Spelled read word atStart atEnd) {b b' : Option Char} {t : Text}
    (hhead : ∀ c ∈ t.head?, c.isAlpha = false) (hread : (read b t).isSome) :
    (read b' t).isSome := by
  obtain ⟨-, w, rest, rfl, hw, hend⟩ := h.reads_iff.mp hread
  refine h.reads_iff.mpr ⟨fun hatStart => ?_, w, rest, rfl, hw, hend⟩
  obtain ⟨c, u, rfl, hletter⟩ := h.head hw
  have hc := hhead c rfl
  rw [hletter hatStart] at hc
  cases hc

/-- There is no occurrence in a text without a character that every word has. -/
theorem Spelled.not_occurs (h : Spelled read word atStart atEnd) {c : Char}
    (hc : ∀ w, word w → c ∈ w) {before : Option Char} {t : Text} (ht : c ∉ t) :
    ¬Occurs read before t := by
  induction t generalizing before with
  | nil => exact id
  | cons d rest ih =>
    rintro (here | later)
    · obtain ⟨-, w, later, hsplit, hw, -⟩ := h.reads_iff.mp here
      refine ht ?_
      rw [hsplit]
      exact List.mem_append_left _ (hc w hw)
    · exact ih (fun hmem => ht (List.mem_cons_of_mem _ hmem)) later

/-- Reads one word, at word boundaries where they are asked for. -/
def readSpelling (atStart atEnd : Bool) (w : Text) : Reader Unit := fun before t =>
  if (atStart = true → before.any isWord = false) ∧ w <+: t ∧
      (atEnd = true → startsWord (t.drop w.length) = false) then
    some ⟨(), w.length - 1, 0⟩
  else none

/-- The reader of a single word of a language is spelled like the reader of the language. -/
theorem Spelled.single (h : Spelled read word atStart atEnd) {w : Text} (hw : word w) :
    Spelled (readSpelling atStart atEnd w) (· = w) atStart atEnd where
  reads_iff := by
    intro before t
    unfold readSpelling
    rw [Option.isSome_ite]
    constructor
    · rintro ⟨hstart, ⟨rest, rfl⟩, hend⟩
      rw [List.drop_left] at hend
      exact ⟨hstart, w, rest, rfl, rfl, hend⟩
    · rintro ⟨hstart, _, rest, rfl, rfl, hend⟩
      exact ⟨hstart, List.prefix_append _ _, by rwa [List.drop_left]⟩
  solid := by
    rintro _ rfl
    exact h.solid hw
  head := by
    rintro _ rfl
    exact h.head hw
  last := by
    rintro _ rfl
    exact h.last hw

end Spelled

/-! ### What is left, from its start -/

section Left

variable {β : Type} {read : Reader β}

/-- The text that is left begins like the text, or with the space for an occurrence. -/
theorem head?_replaceFrom (kept : Nat) (before : Option Char) (t : Text) :
    ∀ c ∈ (replaceFrom [' '] read kept before t).head?, c = ' ' ∨ c ∈ t.head? := by
  intro c hc
  cases t with
  | nil =>
    rw [replaceFrom_nil] at hc
    cases hc
  | cons d rest =>
    match kept with
    | kept + 1 => exact Or.inr hc
    | 0 =>
      unfold replaceFrom at hc
      rw [scanFrom] at hc
      split at hc
      · exact Or.inl (Option.mem_some_iff.mp hc).symm
      · exact Or.inr hc

/-- What is left behind an occurrence of a detached reader starts with no letter. -/
theorem Detached.not_isAlpha_left (hdet : Detached read) {before : Option Char} {c : Char}
    {removed rest : Text} {f : Found β} (hread : read before (c :: (removed ++ rest)) = some f)
    (hlength : removed.length = f.removedAfterFirst) (b : Option Char) :
    ∀ d ∈ (replaceFrom [' '] read f.kept b rest).head?, d.isAlpha = false := by
  intro d hd
  rcases head?_replaceFrom f.kept b rest d hd with rfl | hd
  · decide
  · exact hdet.stop hread hlength d hd

/-- What is left without a space in it was there before. -/
theorem exists_of_replaceFrom_eq_append {w tail : Text} (hw : ' ' ∉ w) {kept : Nat}
    {before : Option Char} {t : Text} (h : replaceFrom [' '] read kept before t = w ++ tail) :
    ∃ rest kept', t = w ++ rest ∧ tail = replaceFrom [' '] read kept' (lastOf before w) rest := by
  induction w generalizing kept before t with
  | nil => exact ⟨t, kept, rfl, h.symm⟩
  | cons c w ih =>
    have hw' : ' ' ∉ w := fun hmem => hw (List.mem_cons_of_mem _ hmem)
    cases t with
    | nil =>
      rw [replaceFrom_nil] at h
      cases h
    | cons d rest =>
      match kept with
      | kept + 1 =>
        obtain ⟨rfl, htail⟩ := List.cons.inj h
        obtain ⟨later, kept', rfl, hlater⟩ := ih hw' htail
        exact ⟨later, kept', rfl, hlater⟩
      | 0 =>
        cases hread : read before (d :: rest) with
        | none =>
          rw [replaceFrom_char hread] at h
          obtain ⟨rfl, htail⟩ := List.cons.inj h
          obtain ⟨later, kept', rfl, hlater⟩ := ih hw' htail
          exact ⟨later, kept', rfl, hlater⟩
        | some f =>
          -- What is taken out leaves a space, and there is none in what is left.
          have hspace : c = ' ' := by
            have hhead : c ∈ (replaceFrom [' '] read 0 before (d :: rest)).head? := by
              rw [h]
              rfl
            rw [replaceFrom, scanFrom, hread] at hhead
            exact (Option.mem_some_iff.mp hhead).symm
          exact absurd (hspace ▸ List.mem_cons_self) hw

/-- Behind a word character, what is left starts a word only if the text does, since no occurrence
of a detached reader starts with a word character there. -/
theorem startsWord_of_replaceFrom (hdet : Detached read) {kept : Nat} {before : Option Char}
    {t : Text} (hbefore : before.any isWord = true)
    (h : startsWord (replaceFrom [' '] read kept before t) = false) : startsWord t = false := by
  cases t with
  | nil => rfl
  | cons c rest =>
    match kept with
    | kept + 1 => exact h
    | 0 =>
      cases hread : read before (c :: rest) with
      | none =>
        rw [replaceFrom_char hread] at h
        exact h
      | some f =>
        show isWord c = false
        -- Nothing that starts with a word character is taken out within a word.
        by_contra hc
        have hstart := hdet.start (Option.isSome_iff_exists.mpr ⟨f, hread⟩) (by simpa using hc)
        rw [hbefore] at hstart
        cases hstart

end Left

/-! ### No new occurrences -/

section Preservation

variable {α β : Type} {read : Reader α} {word : Text → Prop} {atStart atEnd : Bool}
  {taken : Reader β}

/-- What is read at a character that stays was read there before. -/
theorem reads_of_reads_replaceFrom (h : Spelled read word atStart atEnd) (hdet : Detached taken)
    {before : Option Char} {c : Char} {kept : Nat} {rest : Text}
    (hread : (read before (c :: replaceFrom [' '] taken kept (some c) rest)).isSome) :
    (read before (c :: rest)).isSome := by
  obtain ⟨hbefore, w, tail, ht, hw, hend⟩ := h.reads_iff.mp hread
  obtain ⟨d, u, rfl, -⟩ := h.head hw
  obtain ⟨rfl, hleft⟩ := List.cons.inj ht
  -- A word has no space in it, so no part of it stands for something taken out.
  have hu : ' ' ∉ u := by
    intro hmem
    have := h.solid hw ' ' (List.mem_cons_of_mem _ hmem)
    rw [isGap_space] at this
    cases this
  obtain ⟨later, kept', rfl, rfl⟩ := exists_of_replaceFrom_eq_append hu hleft
  refine h.reads_iff.mpr ⟨hbefore, c :: u, later, rfl, hw, fun hatEnd => ?_⟩
  refine startsWord_of_replaceFrom hdet ?_ (hend hatEnd)
  obtain ⟨v, e, hv, he⟩ := h.last hw hatEnd
  have hlast : lastOf (some c) u = some e := by
    show lastOf none (c :: u) = some e
    rw [hv, lastOf_concat]
  rw [hlast]
  exact he

/-- **Taking occurrences out makes no occurrence of another kind**: the text that is left has at
most those that the text has. -/
theorem occurrences_replaceFrom_le (h : Spelled read word atStart atEnd) (hdet : Detached taken)
    (kept : Nat) (before : Option Char) (t : Text) :
    occurrences read before (replaceFrom [' '] taken kept before t) ≤
      occurrences read before t := by
  induction kept, before, t using scan_induction hdet.fits with
  | nil kept before => simp [replaceFrom_nil]
  | keep kept before c rest ih =>
    exact occurrences_cons_le (reads_of_reads_replaceFrom h hdet) ih
  | char before c rest hnone ih =>
    rw [replaceFrom_char hnone]
    exact occurrences_cons_le (reads_of_reads_replaceFrom h hdet) ih
  | found before c removed rest f hread hlength ih =>
    rw [replaceFrom_found hread hlength]
    let left := replaceFrom [' '] taken f.kept (lastOf (some c) removed) rest
    -- What is left behind the space starts with no letter, so it may stand behind anything.
    have hhead : ∀ d ∈ left.head?, d.isAlpha = false := hdet.not_isAlpha_left hread hlength _
    calc occurrences read before (' ' :: left)
        = occurrences read none left := h.gapLocal.occurrences_cons_gap isGap_space left
      _ ≤ occurrences read (lastOf (some c) removed) left :=
          occurrences_change_before (h.change_before hhead)
      _ ≤ occurrences read (lastOf (some c) removed) rest := ih
      _ ≤ occurrences read before (c :: (removed ++ rest)) :=
          occurrences_append_left (c :: removed) rest

/-- What a spelled reader finds in the text that is left, it finds in the text. -/
theorem occurs_of_occurs_replaceFrom (h : Spelled read word atStart atEnd) (hdet : Detached taken)
    {kept : Nat} {before : Option Char} {t : Text}
    (hocc : Occurs read before (replaceFrom [' '] taken kept before t)) :
    Occurs read before t := by
  by_contra hnone
  have hle := occurrences_replaceFrom_le h hdet kept before t
  rw [occurrences_eq_zero_iff.mpr hnone, Nat.le_zero, occurrences_eq_zero_iff] at hle
  exact hle hocc

/-- **A reader leaves no occurrence of its own** if it keeps nothing unread. -/
theorem not_occurs_replaceFrom_self (h : Spelled read word atStart atEnd) (hdet : Detached read)
    (hkept : ∀ {before t f}, read before t = some f → f.kept = 0) {before : Option Char}
    {t : Text} : ¬Occurs read before (replaceFrom [' '] read 0 before t) := by
  -- Nothing is ever kept, but the induction over the scan has to say so.
  suffices hall : ∀ kept before t, kept = 0 →
      ¬Occurs read before (replaceFrom [' '] read kept before t) from hall 0 before t rfl
  intro kept before t
  induction kept, before, t using scan_induction hdet.fits with
  | nil kept before =>
    intro _
    rw [replaceFrom_nil]
    exact id
  | keep kept before c rest ih =>
    intro hzero
    cases hzero
  | char before c rest hnone ih =>
    intro _
    rw [replaceFrom_char hnone]
    rintro (here | later)
    · have hread := reads_of_reads_replaceFrom h hdet here
      rw [hnone] at hread
      cases hread
    · exact ih rfl later
  | found before c removed rest f hread hlength ih =>
    intro _
    rw [replaceFrom_found hread hlength]
    rintro (here | later)
    · exact h.gapLocal.at_gap isGap_space here
    · have hhead := hdet.not_isAlpha_left hread hlength (lastOf (some c) removed)
      exact ih (hkept hread) (later.change_before (h.change_before hhead))

end Preservation

end Text

end Notebook
