import Notebook.Proofs.NoteList.ItemStart
import Notebook.Proofs.Text.Gap

/-!
# The grammar of the lines that start an item (specification §4.3)

The readers of `Notebook.NoteList.ItemStart` cut a line where its digits end, of whatever script
they are, and ask for the value of the digits only then. This module says which lines they take:

- `Numeral` — the digits that write a position;
- `ItemStart.Written` — the grammar, one rule for each kind of item;
- `ItemStart.Written.kind_eq` — the first character of a line tells the kind of the item, so that
  the order in which the readers are tried decides nothing;
- `afterNumber?_eq_some_iff` — cutting behind a number finds the only cut there is;
- `ItemStart.numbered?_eq_some_iff`, `step?_eq_some_iff`, `bullet?_eq_some_iff` — the lines of each
  reader;
- `ItemStart.reads_grammar` — the readers together take exactly the lines of the grammar.
-/

namespace Notebook

open Text

/-- ASCII digits that write a position, with leading zeros or without. -/
structure Numeral (digits : Text) (n : Nat) : Prop where
  not_empty : digits ≠ []
  ascii : ∀ c ∈ digits, c.isDigit = true
  value : n = Nat.ofDigitChars 10 digits 0
  range : 1 ≤ n ∧ n ≤ maxPosition

theorem positionOfDigits?_eq_some_iff_numeral {digits : Text} {n : Nat} :
    positionOfDigits? digits = some n ↔ Numeral digits n := by
  rw [positionOfDigits?_eq_some_iff]
  constructor
  · rintro ⟨hne, hascii, hvalue, hrange⟩
    exact ⟨hne, hascii, hvalue, hrange⟩
  · intro h
    exact ⟨h.not_empty, h.ascii, h.value, h.range⟩

theorem Numeral.isDecimalDigit {digits : Text} {n : Nat} (h : Numeral digits n) :
    ∀ c ∈ digits, isDecimalDigit c = true := fun c hc => isDecimalDigit_of_isDigit (h.ascii c hc)

namespace ItemStart

/-! ### The grammar -/

/-- The lines that start an item, with what they say. -/
inductive Written : Text → ItemStart → Prop
  | numbered {digits rest : Text} {n : Nat} {separator : Char} :
      Numeral digits n → separator ∈ ['.', ')', ':'] → rest ≠ [] →
      Written (digits ++ separator :: rest) ⟨.numbered, some n, trim rest⟩
  | step {word blanks digits blanks' rest : Text} {n : Nat} {separator : Char} :
      word.map foldCase = "step".toList → (∀ c ∈ blanks, isBlank c = true) → Numeral digits n →
      (∀ c ∈ blanks', isBlank c = true) → separator ∈ ['-', '—', ':'] → rest ≠ [] →
      Written (word ++ (blanks ++ (digits ++ (blanks' ++ separator :: rest))))
        ⟨.step, some n, trim rest⟩
  | bullet {mark : Char} {blanks rest : Text} :
      mark ∈ ['-', '*', '•'] → blanks ≠ [] → (∀ c ∈ blanks, isBlank c = true) →
      Written (mark :: (blanks ++ rest)) ⟨.bullet, none, trim rest⟩

/-- The kind of the items whose lines begin with a character. -/
def kindOfFirst (c : Char) : ListKind :=
  if c.isDigit then .numbered else if foldCase c = 's' then .step else .bullet

theorem not_isDigit_of_foldCase {c : Char} (h : foldCase c = 's') : c.isDigit = false := by
  by_contra hdigit
  rw [Bool.not_eq_false] at hdigit
  have hs : c = 's' := by
    have hletter := not_isAlpha_of_isDigit hdigit
    have hrange := toNat_of_isDigit hdigit
    rwa [foldCase_of_ascii (by omega), toLower_eq_self hletter] at h
  rw [hs] at hdigit
  exact absurd hdigit (by decide)

/-- The first character of a line tells the kind of its item. -/
theorem Written.kind_eq {line : Text} {s : ItemStart} (h : Written line s) :
    ∃ c rest, line = c :: rest ∧ s.kind = kindOfFirst c := by
  cases h with
  | numbered hdigits _ _ =>
    obtain ⟨d, more, rfl⟩ := List.exists_cons_of_ne_nil hdigits.not_empty
    refine ⟨d, _, rfl, ?_⟩
    rw [kindOfFirst, if_pos (hdigits.ascii d List.mem_cons_self)]
  | @step word _ _ _ _ _ _ hword _ _ _ _ _ =>
    obtain ⟨c, more, rfl⟩ : ∃ c more, word = c :: more := by
      refine List.exists_cons_of_ne_nil ?_
      rintro rfl
      cases hword
    have hc : foldCase c = 's' := (List.cons.inj hword).1
    refine ⟨c, _, rfl, ?_⟩
    rw [kindOfFirst, if_neg (by simp [not_isDigit_of_foldCase hc]), if_pos hc]
  | bullet hmark _ _ =>
    have hmarks : ∀ c ∈ ['-', '*', '•'], kindOfFirst c = .bullet := by
      simp only [List.forall_mem_cons]
      exact ⟨by decide, by decide, by decide, nofun⟩
    exact ⟨_, _, rfl, (hmarks _ hmark).symm⟩

/-- A line starts items of one kind at most. -/
theorem Written.kind_unique {line : Text} {s s' : ItemStart} (h : Written line s)
    (h' : Written line s') : s.kind = s'.kind := by
  obtain ⟨c, rest, hline, hkind⟩ := h.kind_eq
  obtain ⟨c', rest', hline', hkind'⟩ := h'.kind_eq
  obtain ⟨rfl, -⟩ := List.cons.inj (hline.symm.trans hline')
  rw [hkind, hkind']

/-! ### Numbers -/

/-- Separators are neither digits nor white space, so a line is cut behind its number in one way
at most. -/
theorem afterNumber?_eq_some_iff {separators : List Char} {spaced : Bool}
    (hseparators : ∀ c ∈ separators, isDecimalDigit c = false ∧ isBlank c = false)
    {t digits title : Text} (hdigits : ∀ c ∈ digits, isDecimalDigit c = true) :
    afterNumber? separators spaced t = some (digits, title) ↔
      ∃ blanks, ∃ separator ∈ separators, t = digits ++ (blanks ++ separator :: title) ∧
        (∀ c ∈ blanks, isBlank c = true) ∧ (spaced = false → blanks = []) := by
  constructor
  · intro h
    unfold afterNumber? at h
    dsimp only at h
    split at h
    · cases h
    · rename_i c more hmore
      split at h
      · rename_i hc
        obtain ⟨rfl, rfl⟩ := Prod.mk.inj (Option.some.inj h)
        cases spaced with
        | false =>
          rw [if_neg Bool.false_ne_true] at hmore
          refine ⟨[], c, hc, ?_, nofun, fun _ => rfl⟩
          rw [List.nil_append, ← hmore, List.takeWhile_append_dropWhile]
        | true =>
          rw [if_pos rfl] at hmore
          refine ⟨(t.dropWhile isDecimalDigit).takeWhile isBlank, c, hc, ?_,
            fun _ hb => List.mem_takeWhile_imp hb, nofun⟩
          rw [← hmore, trimStart, List.takeWhile_append_dropWhile,
            List.takeWhile_append_dropWhile]
      · cases h
  · rintro ⟨blanks, separator, hmem, rfl, hblanks, hspaced⟩
    obtain ⟨hdigit, hblank⟩ := hseparators separator hmem
    -- Neither a separator nor the white space in front of it goes on with the digits.
    have hstop : ∀ c ∈ (blanks ++ separator :: title).head?, isDecimalDigit c = false := by
      intro c hc
      cases blanks with
      | nil =>
        obtain rfl := Option.some.inj hc
        exact hdigit
      | cons b more =>
        obtain rfl := Option.some.inj hc
        by_contra hnot
        have hsolid := not_isBlank_of_isDecimalDigit (Bool.eq_true_of_not_eq_false hnot)
        rw [hblanks b List.mem_cons_self] at hsolid
        cases hsolid
    have hbehind : (if spaced then trimStart (blanks ++ separator :: title)
        else blanks ++ separator :: title) = separator :: title := by
      cases spaced with
      | false => rw [hspaced rfl]; rfl
      | true =>
        rw [if_pos rfl, trimStart, List.dropWhile_append_of_pos hblanks,
          List.dropWhile_cons_of_neg (by simp [hblank])]
    unfold afterNumber?
    rw [takeWhile_longest_start hdigits hstop, dropWhile_longest_start hdigits hstop]
    dsimp only
    rw [hbehind]
    exact if_pos hmem

theorem counted?_eq_some_iff {kind : ListKind} {read : Option (Text × Text)} {s : ItemStart} :
    counted? kind read = some s ↔ ∃ digits title n, read = some (digits, title) ∧ title ≠ [] ∧
      Numeral digits n ∧ s = ⟨kind, some n, trim title⟩ := by
  constructor
  · intro h
    unfold counted? at h
    split at h
    · cases h
    · cases h
    · rename_i digits title hne
      obtain ⟨n, hn, rfl⟩ := Option.map_eq_some_iff.mp h
      exact ⟨digits, title, n, rfl, hne, positionOfDigits?_eq_some_iff_numeral.mp hn, rfl⟩
  · rintro ⟨digits, title, n, rfl, hne, hnumeral, rfl⟩
    obtain ⟨c, rest, rfl⟩ := List.exists_cons_of_ne_nil hne
    rw [counted?, positionOfDigits?_eq_some_iff_numeral.mpr hnumeral, Option.map_some]
    exact List.cons_ne_nil c rest

/-! ### The readers -/

theorem numberSeparators_apart :
    ∀ c ∈ ['.', ')', ':'], isDecimalDigit c = false ∧ isBlank c = false := by
  simp only [List.forall_mem_cons]
  exact ⟨by decide, by decide, by decide, nofun⟩

theorem stepSeparators_apart :
    ∀ c ∈ ['-', '—', ':'], isDecimalDigit c = false ∧ isBlank c = false := by
  simp only [List.forall_mem_cons]
  exact ⟨by decide, by decide +kernel, by decide, nofun⟩

theorem numbered?_eq_some_iff {line : Text} {s : ItemStart} :
    numbered? line = some s ↔ Written line s ∧ s.kind = .numbered := by
  rw [numbered?, counted?_eq_some_iff]
  constructor
  · rintro ⟨digits, title, n, hafter, hne, hnumeral, rfl⟩
    obtain ⟨blanks, separator, hmem, rfl, -, hblanks⟩ :=
      (afterNumber?_eq_some_iff numberSeparators_apart hnumeral.isDecimalDigit).mp hafter
    rw [hblanks rfl]
    exact ⟨.numbered hnumeral hmem hne, rfl⟩
  · rintro ⟨hwritten, hkind⟩
    cases hwritten with
    | numbered hnumeral hmem hne =>
      exact ⟨_, _, _, (afterNumber?_eq_some_iff numberSeparators_apart hnumeral.isDecimalDigit).mpr
        ⟨[], _, hmem, rfl, List.forall_mem_nil _, fun _ => rfl⟩, hne, hnumeral, rfl⟩
    | step | bullet => cases hkind

theorem step?_eq_some_iff {line : Text} {s : ItemStart} :
    step? line = some s ↔ Written line s ∧ s.kind = .step := by
  have hkeyword : "step".toList.map foldCase = "step".toList := by decide
  rw [step?, counted?_eq_some_iff]
  constructor
  · rintro ⟨digits, title, n, hread, hne, hnumeral, rfl⟩
    obtain ⟨rest, hrest, hafter⟩ := Option.bind_eq_some_iff.mp hread
    obtain ⟨word, rfl, hword⟩ := after?_eq_some_iff.mp hrest
    obtain ⟨blanks', separator, hmem, htrim, hblanks', -⟩ :=
      (afterNumber?_eq_some_iff stepSeparators_apart hnumeral.isDecimalDigit).mp hafter
    have hsplit : rest = rest.takeWhile isBlank ++ trimStart rest :=
      List.takeWhile_append_dropWhile.symm
    rw [hsplit, htrim]
    exact ⟨.step (hword.trans hkeyword) (fun _ hb => List.mem_takeWhile_imp hb) hnumeral hblanks'
      hmem hne, rfl⟩
  · rintro ⟨hwritten, hkind⟩
    cases hwritten with
    | @step word blanks digits blanks' rest n separator hword hblanks hnumeral hblanks' hmem hne =>
      refine ⟨digits, rest, n, ?_, hne, hnumeral, rfl⟩
      have hafter : after? foldCase "step".toList
          (word ++ (blanks ++ (digits ++ (blanks' ++ separator :: rest)))) =
          some (blanks ++ (digits ++ (blanks' ++ separator :: rest))) :=
        after?_eq_some_iff.mpr ⟨word, rfl, hword.trans hkeyword.symm⟩
      rw [hafter, Option.bind_some, trimStart, List.dropWhile_append_of_pos hblanks]
      -- The white space behind the word ends where the numeral begins.
      have hstart : (digits ++ (blanks' ++ separator :: rest)).dropWhile isBlank =
          digits ++ (blanks' ++ separator :: rest) := by
        refine trimStart_eq_self fun c hc => ?_
        rw [List.head?_append_of_ne_nil _ hnumeral.not_empty] at hc
        exact isBlank_of_isDigit (hnumeral.ascii c (List.mem_of_mem_head? hc))
      rw [hstart, afterNumber?_eq_some_iff stepSeparators_apart hnumeral.isDecimalDigit]
      exact ⟨blanks', separator, hmem, rfl, hblanks', fun hnone => absurd hnone (by decide)⟩
    | numbered | bullet => cases hkind

/-- What stands behind the white space of a bullet is not empty, since the line does not end in
white space. -/
theorem bullet?_eq_some_iff {line : Text} (hline : Bare line) {s : ItemStart} :
    bullet? line = some s ↔ Written line s ∧ s.kind = .bullet := by
  constructor
  · intro h
    unfold bullet? at h
    split at h
    · rename_i c d rest
      split at h
      · rename_i hcond
        obtain rfl := Option.some.inj h
        have hblank : ∀ b ∈ [d], isBlank b = true := by simpa using hcond.2.1
        exact ⟨.bullet hcond.1 (List.cons_ne_nil d []) hblank, rfl⟩
      · cases h
    · cases h
  · rintro ⟨hwritten, hkind⟩
    cases hwritten with
    | @bullet mark blanks rest hmark hne hblanks =>
      obtain ⟨d, more, rfl⟩ := List.exists_cons_of_ne_nil hne
      have hd : isBlank d = true := hblanks d List.mem_cons_self
      have hmore : ∀ c ∈ more, isBlank c = true := fun c hc =>
        hblanks c (List.mem_cons_of_mem d hc)
      -- Else the line would end in the white space behind its mark.
      have hbehind : more ++ rest ≠ [] := by
        intro hnil
        obtain ⟨rfl, rfl⟩ := List.append_eq_nil_iff.mp hnil
        have hsolid := hline.last d rfl
        rw [hd] at hsolid
        cases hsolid
      rw [List.cons_append, bullet?, if_pos ⟨hmark, hd, hbehind⟩, trim_blanks_append hmore]
    | numbered | step => cases hkind

theorem ordered?_eq_some_iff {line : Text} {s : ItemStart} :
    ordered? line = some s ↔ Written line s ∧ s.kind ≠ .bullet := by
  constructor
  · intro h
    rcases (Option.orElse_eq_some _ _ _).mp h with h | ⟨-, h⟩
    · obtain ⟨hwritten, hkind⟩ := numbered?_eq_some_iff.mp h
      exact ⟨hwritten, by simp [hkind]⟩
    · obtain ⟨hwritten, hkind⟩ := step?_eq_some_iff.mp h
      exact ⟨hwritten, by simp [hkind]⟩
  · rintro ⟨hwritten, hkind⟩
    refine (Option.orElse_eq_some _ _ _).mpr ?_
    cases hs : s.kind with
    | numbered => exact Or.inl (numbered?_eq_some_iff.mpr ⟨hwritten, hs⟩)
    | step =>
      refine Or.inr ⟨?_, step?_eq_some_iff.mpr ⟨hwritten, hs⟩⟩
      -- A line is written as one kind of item, so a step is not a numbered item before.
      rw [Option.eq_none_iff_forall_not_mem]
      intro s' hs'
      obtain ⟨hwritten', hnumbered⟩ := numbered?_eq_some_iff.mp hs'
      rw [hwritten.kind_unique hwritten', hnumbered] at hs
      cases hs
    | bullet => exact absurd hs hkind

theorem any?_eq_some_iff {line : Text} (hline : Bare line) {s : ItemStart} :
    any? line = some s ↔ Written line s := by
  constructor
  · intro h
    rcases (Option.orElse_eq_some _ _ _).mp h with h | ⟨-, h⟩
    · exact (ordered?_eq_some_iff.mp h).1
    · exact ((bullet?_eq_some_iff hline).mp h).1
  · intro h
    refine (Option.orElse_eq_some _ _ _).mpr ?_
    by_cases hs : s.kind = .bullet
    · refine Or.inr ⟨?_, (bullet?_eq_some_iff hline).mpr ⟨h, hs⟩⟩
      rw [Option.eq_none_iff_forall_not_mem]
      intro s' hs'
      obtain ⟨hwritten, hkind⟩ := ordered?_eq_some_iff.mp hs'
      exact hkind ((h.kind_unique hwritten).symm.trans hs)
    · exact Or.inl (ordered?_eq_some_iff.mpr ⟨h, hs⟩)

/-- A number out of range is neither cut short nor taken modulo anything: its line starts no
item. -/
theorem any?_of_out_of_range {digits rest : Text} {separator : Char}
    (hline : Bare (digits ++ separator :: rest)) (hne : digits ≠ [])
    (hascii : ∀ c ∈ digits, c.isDigit = true) (hseparator : separator ∈ ['.', ')', ':'])
    (hrange : ¬(1 ≤ Nat.ofDigitChars 10 digits 0 ∧ Nat.ofDigitChars 10 digits 0 ≤ maxPosition)) :
    any? (digits ++ separator :: rest) = none := by
  rw [Option.eq_none_iff_forall_not_mem]
  intro s hs
  have hwritten := (any?_eq_some_iff hline).mp hs
  -- A line that starts with a digit is an item of no other kind.
  have hkind : s.kind = .numbered := by
    obtain ⟨d, more, rfl⟩ := List.exists_cons_of_ne_nil hne
    obtain ⟨c, line, hfirst, hkind⟩ := hwritten.kind_eq
    obtain ⟨rfl, -⟩ := List.cons.inj hfirst
    rwa [kindOfFirst, if_pos (hascii d List.mem_cons_self)] at hkind
  have hcut : afterNumber? ['.', ')', ':'] false (digits ++ separator :: rest) =
      some (digits, rest) :=
    (afterNumber?_eq_some_iff numberSeparators_apart fun c hc =>
      isDecimalDigit_of_isDigit (hascii c hc)).mpr
      ⟨[], separator, hseparator, rfl, List.forall_mem_nil _, fun _ => rfl⟩
  have hread := numbered?_eq_some_iff.mpr ⟨hwritten, hkind⟩
  rw [numbered?, hcut, counted?_eq_some_iff] at hread
  obtain ⟨digits', title, n, hsame, -, hnumeral, -⟩ := hread
  obtain ⟨rfl, -⟩ := Prod.mk.inj (Option.some.inj hsame)
  rw [← hnumeral.value] at hrange
  exact hrange hnumeral.range

/-- **The readers take exactly the lines of the grammar.** On a line without white space around it,
the first reader that takes it is the only one that could, what is read is what the grammar says,
the title is not blank, and a number that is no position makes no start. -/
theorem reads_grammar {line : Text} (hline : Bare line) :
    (∀ s, ordered? line = some s ↔ Written line s ∧ s.kind ≠ .bullet) ∧
    (∀ s, any? line = some s ↔ Written line s) ∧
    (∀ s, any? line = some s → s.title ≠ [] ∧ Bare s.title) ∧
    ∀ digits separator rest, line = digits ++ separator :: rest → digits ≠ [] →
      (∀ c ∈ digits, c.isDigit = true) → separator ∈ ['.', ')', ':'] →
      ¬(1 ≤ Nat.ofDigitChars 10 digits 0 ∧ Nat.ofDigitChars 10 digits 0 ≤ maxPosition) →
      any? line = none := by
  refine ⟨fun s => ordered?_eq_some_iff, fun s => any?_eq_some_iff hline, fun s hs => ?_, ?_⟩
  · have hfrom := takenFrom_of_any? hs
    exact ⟨hfrom.title_ne_nil hline, hfrom.bare_title⟩
  · rintro digits separator rest rfl hne hascii hseparator hrange
    exact any?_of_out_of_range hline hne hascii hseparator hrange

/-- A step in an unusual spelling with leading zeros, and a number one beyond the last position. -/
theorem reads_grammar_long_s :
    (Bare "ſTEP 007 — Patch".toList ∧
      Written "ſTEP 007 — Patch".toList ⟨.step, some 7, "Patch".toList⟩) ∧
    Bare "4294967296. more".toList ∧ any? "4294967296. more".toList = none := by
  have hstep : Bare "ſTEP 007 — Patch".toList := trim_eq_self_iff.mp (by decide +kernel)
  have hmore : Bare "4294967296. more".toList := trim_eq_self_iff.mp (by decide +kernel)
  obtain ⟨-, hany, -, -⟩ := reads_grammar hstep
  obtain ⟨-, -, -, hrange⟩ := reads_grammar hmore
  refine ⟨⟨hstep, (hany _).mp (by decide +kernel)⟩, hmore, ?_⟩
  exact hrange "4294967296".toList '.' " more".toList rfl (by decide)
    (List.all_eq_true.mp (by decide)) (by decide) (by decide)

end ItemStart

end Notebook
