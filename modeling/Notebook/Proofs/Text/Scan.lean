import Notebook.Proofs.Text.Somewhere

/-!
# Scanning, one step at a time

`Text.scanFrom` counts how many characters it still has to pass over. Here a step is stated with the
characters themselves, so that a proof about a scan is an induction over what it finds:

- `Text.scan_induction` — the induction;
- `Text.replaceFrom` — the text that a scan leaves, with one lemma for each kind of step;
- `Text.exists_of_mem_found`, `Text.mem_found_iff` — the values that a scan finds are those of the
  occurrences, and `Text.exists_of_head?_found` — the first is that of the first;
- `Text.ComesTo` — a scan looks at a place with a property;
- `Text.scanFrom_append` — a scan goes on behind a gap that its reader cannot see past.
-/

namespace Notebook

namespace Text

variable {α : Type} {read : Reader α}

/-- A reader whose occurrences do not reach beyond the end of the text. -/
def Fits (read : Reader α) : Prop :=
  ∀ before c rest f, read before (c :: rest) = some f →
    f.removedAfterFirst + f.kept ≤ rest.length

/-- The characters that an occurrence takes away can be split off. -/
theorem Fits.split (hfit : Fits read) {before : Option Char} {c : Char} {rest : Text}
    {f : Found α} (h : read before (c :: rest) = some f) :
    ∃ removed later, rest = removed ++ later ∧ removed.length = f.removedAfterFirst := by
  refine ⟨rest.take f.removedAfterFirst, rest.drop f.removedAfterFirst, ?_, ?_⟩
  · exact (List.take_append_drop _ _).symm
  · have hle := hfit before c rest f h
    rw [List.length_take]
    omega

/-- So can the characters that are kept behind it. -/
theorem Fits.split_kept (hfit : Fits read) {before : Option Char} {c : Char} {removed rest : Text}
    {f : Found α} (h : read before (c :: (removed ++ rest)) = some f)
    (hlength : removed.length = f.removedAfterFirst) :
    ∃ keep later, rest = keep ++ later ∧ keep.length = f.kept := by
  refine ⟨rest.take f.kept, rest.drop f.kept, ?_, ?_⟩
  · exact (List.take_append_drop _ _).symm
  · have hle := hfit before c (removed ++ rest) f h
    rw [List.length_append, hlength] at hle
    rw [List.length_take]
    omega

/-- **Induction over a scan**: a character is kept behind an occurrence, or looked at and passed
over, or the first of an occurrence that takes `removed` with it. -/
theorem scan_induction (hfit : Fits read) {motive : Nat → Option Char → Text → Prop}
    (nil : ∀ kept before, motive kept before [])
    (keep : ∀ kept before c rest, motive kept (some c) rest → motive (kept + 1) before (c :: rest))
    (char : ∀ before c rest, read before (c :: rest) = none → motive 0 (some c) rest →
      motive 0 before (c :: rest))
    (found : ∀ before c removed rest f, read before (c :: (removed ++ rest)) = some f →
      removed.length = f.removedAfterFirst → motive f.kept (lastOf (some c) removed) rest →
      motive 0 before (c :: (removed ++ rest)))
    (kept : Nat) (before : Option Char) (t : Text) : motive kept before t := by
  match t, kept with
  | [], kept => exact nil kept before
  | c :: rest, kept + 1 =>
    exact keep kept before c rest (scan_induction hfit nil keep char found kept (some c) rest)
  | c :: rest, 0 =>
    cases hread : read before (c :: rest) with
    | none =>
      exact char before c rest hread (scan_induction hfit nil keep char found 0 (some c) rest)
    | some f =>
      -- What an occurrence takes is split off, so the scan goes on with a shorter text.
      obtain ⟨removed, later, rfl, hlength⟩ := hfit.split hread
      exact found before c removed later f hread hlength
        (scan_induction hfit nil keep char found f.kept _ later)
  termination_by t.length

/-! ### Steps of a scan -/

theorem scanFrom_removed (removed : Text) (kept : Nat) (before : Option Char) (rest : Text) :
    scanFrom read removed.length kept before (removed ++ rest) =
      scanFrom read 0 kept (lastOf before removed) rest := by
  induction removed generalizing before with
  | nil => rfl
  | cons c removed ih => exact ih (some c)

/-- Characters that are kept stay as they are. -/
theorem scanFrom_kept (keep : Text) (before : Option Char) (rest : Text) :
    scanFrom read 0 keep.length before (keep ++ rest) =
      keep.map .char ++ scanFrom read 0 0 (lastOf before keep) rest := by
  induction keep generalizing before with
  | nil => rfl
  | cons c keep ih => exact congrArg (.char c :: ·) (ih (some c))

theorem scanFrom_char {before : Option Char} {c : Char} {rest : Text}
    (h : read before (c :: rest) = none) :
    scanFrom read 0 0 before (c :: rest) = .char c :: scanFrom read 0 0 (some c) rest := by
  rw [scanFrom, h]

theorem scanFrom_found {before : Option Char} {c : Char} {removed rest : Text} {f : Found α}
    (h : read before (c :: (removed ++ rest)) = some f)
    (hlength : removed.length = f.removedAfterFirst) :
    scanFrom read 0 0 before (c :: (removed ++ rest)) =
      .found f.value :: scanFrom read 0 f.kept (lastOf (some c) removed) rest := by
  rw [scanFrom, h, ← scanFrom_removed, hlength]

/-! ### The text that is left -/

/-- The text that is left when `replacement` stands for every occurrence. -/
def replaceFrom (replacement : Text) (read : Reader α) (kept : Nat) (before : Option Char)
    (t : Text) : Text :=
  substitute replacement (scanFrom read 0 kept before t)

variable {replacement : Text}

theorem replaceFrom_nil (kept : Nat) (before : Option Char) :
    replaceFrom replacement read kept before [] = [] := by
  cases kept <;> rfl

theorem replaceFrom_char {before : Option Char} {c : Char} {rest : Text}
    (h : read before (c :: rest) = none) :
    replaceFrom replacement read 0 before (c :: rest) =
      c :: replaceFrom replacement read 0 (some c) rest := by
  unfold replaceFrom
  rw [scanFrom_char h]
  rfl

theorem replaceFrom_found {before : Option Char} {c : Char} {removed rest : Text} {f : Found α}
    (h : read before (c :: (removed ++ rest)) = some f)
    (hlength : removed.length = f.removedAfterFirst) :
    replaceFrom replacement read 0 before (c :: (removed ++ rest)) =
      replacement ++ replaceFrom replacement read f.kept (lastOf (some c) removed) rest := by
  unfold replaceFrom
  rw [scanFrom_found h hlength]
  rfl

/-- Characters that are kept are left as they are. -/
theorem replaceFrom_kept (keep : Text) (before : Option Char) (rest : Text) :
    replaceFrom replacement read keep.length before (keep ++ rest) =
      keep ++ replaceFrom replacement read 0 (lastOf before keep) rest := by
  unfold replaceFrom
  rw [scanFrom_kept]
  exact List.flatMap_append.trans (congrArg (· ++ _) substitute_map_char)

/-- Without an occurrence the text is left as it is. -/
theorem replaceFrom_of_not_occurs {before : Option Char} {t : Text}
    (h : ¬Occurs read before t) : replaceFrom replacement read 0 before t = t := by
  unfold replaceFrom
  rw [scanFrom_of_not_occurs h, substitute_map_char]

/-- Where nothing is read, the characters stay. -/
theorem replaceFrom_append_of_none {before : Option Char} {u v : Text}
    (h : ∀ u₁ u₂, u = u₁ ++ u₂ → u₂ ≠ [] → read (lastOf before u₁) (u₂ ++ v) = none) :
    replaceFrom replacement read 0 before (u ++ v) =
      u ++ replaceFrom replacement read 0 (lastOf before u) v := by
  induction u generalizing before with
  | nil => rfl
  | cons c u ih =>
    have hhere : read before (c :: (u ++ v)) = none := h [] (c :: u) rfl (List.cons_ne_nil c u)
    rw [List.cons_append, replaceFrom_char hhere,
      ih fun u₁ u₂ hu hne => h (c :: u₁) u₂ (congrArg (c :: ·) hu) hne]
    rfl

/-- A character other than the space for an occurrence comes from one that was passed over. -/
theorem replaceFrom_eq_cons_iff {before : Option Char} {c : Char} {t left : Text} (hc : c ≠ ' ') :
    replaceFrom [' '] read 0 before t = c :: left ↔ ∃ rest, t = c :: rest ∧
      read before t = none ∧ left = replaceFrom [' '] read 0 (some c) rest := by
  constructor
  · intro h
    cases t with
    | nil => cases h
    | cons d rest =>
      cases hread : read before (d :: rest) with
      | none =>
        rw [replaceFrom_char hread] at h
        obtain ⟨rfl, rfl⟩ := List.cons.inj h
        exact ⟨rest, rfl, rfl, rfl⟩
      | some f =>
        rw [replaceFrom, scanFrom, hread] at h
        exact absurd (List.cons.inj h).1.symm hc
  · rintro ⟨rest, rfl, hread, rfl⟩
    exact replaceFrom_char hread

/-! ### The values that are found -/

theorem found_scanFrom_found {before : Option Char} {c : Char} {removed rest : Text} {f : Found α}
    (h : read before (c :: (removed ++ rest)) = some f)
    (hlength : removed.length = f.removedAfterFirst) :
    found (scanFrom read 0 0 before (c :: (removed ++ rest))) =
      f.value :: found (scanFrom read 0 f.kept (lastOf (some c) removed) rest) := by
  rw [scanFrom_found h hlength]
  rfl

theorem found_scanFrom_char {before : Option Char} {c : Char} {rest : Text}
    (h : read before (c :: rest) = none) :
    found (scanFrom read 0 0 before (c :: rest)) = found (scanFrom read 0 0 (some c) rest) := by
  rw [scanFrom_char h]
  rfl

/-- Every value that is found is that of something read. -/
theorem exists_of_mem_found {removed kept : Nat} {before : Option Char} {t : Text} {value : α}
    (h : value ∈ found (scanFrom read removed kept before t)) :
    ∃ b u f, read b u = some f ∧ f.value = value := by
  induction t generalizing removed kept before with
  | nil =>
    rw [scanFrom] at h
    cases h
  | cons c rest ih =>
    -- Where something is passed over or kept unread, nothing is found.
    cases removed with
    | succ removed => exact ih h
    | zero =>
      cases kept with
      | succ kept => exact ih h
      | zero =>
        cases hread : read before (c :: rest) with
        | none =>
          rw [found_scanFrom_char hread] at h
          exact ih h
        | some f =>
          rw [scanFrom, hread] at h
          rcases List.mem_cons.mp h with rfl | h
          · exact ⟨before, c :: rest, f, hread, rfl⟩
          · exact ih h

/-- **The values found are those of the occurrences**, if nothing is kept unread and no occurrence
starts inside of another. -/
theorem mem_found_iff (hfit : Fits read)
    (hkept : ∀ {before t f}, read before t = some f → f.kept = 0)
    (hinside : ∀ {before c removed rest f}, read before (c :: (removed ++ rest)) = some f →
      removed.length = f.removedAfterFirst → ∀ u v, removed = u ++ v → v ≠ [] →
        read (lastOf (some c) u) (v ++ rest) = none)
    {value : α} {before : Option Char} {t : Text} :
    value ∈ found (scanFrom read 0 0 before t) ↔
      Somewhere (fun b u => ∃ f, read b u = some f ∧ f.value = value) before t := by
  -- Stated for any number of characters kept, which is zero all along.
  suffices hall : ∀ kept before t, kept = 0 → (value ∈ found (scanFrom read 0 kept before t) ↔
      Somewhere (fun b u => ∃ f, read b u = some f ∧ f.value = value) before t) from
    hall 0 before t rfl
  intro kept before t
  induction kept, before, t using scan_induction hfit with
  | nil kept before =>
    rintro rfl
    exact iff_of_false List.not_mem_nil id
  | keep kept before c rest ih => exact nofun
  | char before c rest hnone ih =>
    intro _
    rw [found_scanFrom_char hnone, ih rfl]
    refine (or_iff_right ?_).symm
    rintro ⟨f, hf, -⟩
    rw [hnone] at hf
    cases hf
  | found before c removed rest f hread hlength ih =>
    intro _
    have hin : ∀ u v, removed = u ++ v → v ≠ [] →
        ¬∃ g, read (lastOf (some c) u) (v ++ rest) = some g ∧ g.value = value := by
      rintro u v hsplit hne ⟨g, hg, -⟩
      rw [hinside hread hlength u v hsplit hne] at hg
      cases hg
    rw [found_scanFrom_found hread hlength, List.mem_cons, ih (hkept hread),
      ← somewhere_append_iff hin]
    refine or_congr_left ⟨fun h => ⟨f, hread, h.symm⟩, ?_⟩
    rintro ⟨g, hg, hvalue⟩
    rw [← hvalue, Option.some.inj (hread.symm.trans hg)]

/-- The value found first is that of the first occurrence. -/
theorem exists_of_head?_found {before : Option Char} {t : Text} {value : α}
    (h : (found (scanFrom read 0 0 before t)).head? = some value) :
    ∃ u v, t = u ++ v ∧ (∃ f, read (lastOf before u) v = some f ∧ f.value = value) ∧
      ∀ u₁ u₂, u = u₁ ++ u₂ → u₂ ≠ [] → read (lastOf before u₁) (u₂ ++ v) = none := by
  induction t generalizing before with
  | nil => cases h
  | cons c rest ih =>
    cases hread : read before (c :: rest) with
    | some f =>
      rw [scanFrom, hread] at h
      refine ⟨[], c :: rest, rfl, ⟨f, hread, Option.some.inj h⟩, ?_⟩
      intro u₁ u₂ hsplit hne
      exact absurd (List.append_eq_nil_iff.mp hsplit.symm).2 hne
    | none =>
      rw [found_scanFrom_char hread] at h
      obtain ⟨u, v, rfl, hfound, hnone⟩ := ih h
      refine ⟨c :: u, v, rfl, hfound, ?_⟩
      intro u₁ u₂ hsplit hne
      -- In front of what is found is this character, where nothing is read, or a later one.
      cases u₁ with
      | nil =>
        rw [List.nil_append] at hsplit
        rw [← hsplit]
        exact hread
      | cons d u₁ =>
        obtain ⟨rfl, rfl⟩ := List.cons.inj hsplit
        exact hnone u₁ u₂ rfl hne

/-! ### The places that a scan looks at -/

/-- A scan comes to a place with a property: one that it looks at, which is neither in an occurrence
nor kept behind one. -/
def ComesTo (read : Reader α) (p : Option Char → Text → Prop) :
    (removed kept : Nat) → (before : Option Char) → Text → Prop
  | _, _, _, [] => False
  | removed + 1, kept, _, c :: rest => ComesTo read p removed kept (some c) rest
  | 0, kept + 1, _, c :: rest => ComesTo read p 0 kept (some c) rest
  | 0, 0, before, c :: rest =>
    p before (c :: rest) ∨
      match read before (c :: rest) with
      | some f => ComesTo read p f.removedAfterFirst f.kept (some c) rest
      | none => ComesTo read p 0 0 (some c) rest

instance ComesTo.instDecidable {p : Option Char → Text → Prop} [∀ b t, Decidable (p b t)] :
    (removed kept : Nat) → (before : Option Char) → (t : Text) →
      Decidable (ComesTo read p removed kept before t)
  | _, _, _, [] => isFalse nofun
  | removed + 1, kept, _, c :: rest => ComesTo.instDecidable (p := p) removed kept (some c) rest
  | 0, kept + 1, _, c :: rest => ComesTo.instDecidable (p := p) 0 kept (some c) rest
  | 0, 0, before, c :: rest =>
    match hread : read before (c :: rest) with
    | some f =>
      have := ComesTo.instDecidable (p := p) f.removedAfterFirst f.kept (some c) rest
      decidable_of_iff
        (p before (c :: rest) ∨ ComesTo read p f.removedAfterFirst f.kept (some c) rest)
        (by rw [ComesTo, hread])
    | none =>
      have := ComesTo.instDecidable (p := p) 0 0 (some c) rest
      decidable_of_iff (p before (c :: rest) ∨ ComesTo read p 0 0 (some c) rest)
        (by rw [ComesTo, hread])

variable {p : Option Char → Text → Prop}

theorem comesTo_removed (removed : Text) (kept : Nat) (before : Option Char) (rest : Text) :
    ComesTo read p removed.length kept before (removed ++ rest) ↔
      ComesTo read p 0 kept (lastOf before removed) rest := by
  induction removed generalizing before with
  | nil => exact Iff.rfl
  | cons c removed ih => exact ih (some c)

theorem comesTo_kept (keep : Text) (before : Option Char) (rest : Text) :
    ComesTo read p 0 keep.length before (keep ++ rest) ↔
      ComesTo read p 0 0 (lastOf before keep) rest := by
  induction keep generalizing before with
  | nil => exact Iff.rfl
  | cons c keep ih => exact ih (some c)

theorem comesTo_char {before : Option Char} {c : Char} {rest : Text}
    (h : read before (c :: rest) = none) :
    ComesTo read p 0 0 before (c :: rest) ↔
      p before (c :: rest) ∨ ComesTo read p 0 0 (some c) rest := by
  rw [ComesTo, h]

theorem comesTo_found {before : Option Char} {c : Char} {removed rest : Text} {f : Found α}
    (h : read before (c :: (removed ++ rest)) = some f)
    (hlength : removed.length = f.removedAfterFirst) :
    ComesTo read p 0 0 before (c :: (removed ++ rest)) ↔ p before (c :: (removed ++ rest)) ∨
      ComesTo read p 0 f.kept (lastOf (some c) removed) rest := by
  rw [ComesTo, h, ← comesTo_removed, hlength]

/-! ### Scanning across a gap -/

/-- A scan of two texts with a gap between them is two scans, if the reader finds the same in the
first text with and without the second, and nothing at the gap. -/
theorem scanFrom_append {g : Char} {v : Text} {u : Text} (hfit : Fits read)
    (hlocal : ∀ {b s}, s ≠ [] → s <:+ u → read b (s ++ g :: v) = read b s)
    (hgap : ∀ b, read b (g :: v) = none)
    (removed kept : Nat) (before : Option Char) (hle : removed + kept ≤ u.length) :
    scanFrom read removed kept before (u ++ g :: v) =
      scanFrom read removed kept before u ++ .char g :: scanFrom read 0 0 (some g) v := by
  induction u generalizing removed kept before with
  | nil =>
    obtain ⟨rfl, rfl⟩ : removed = 0 ∧ kept = 0 := by
      simp only [List.length_nil] at hle
      omega
    exact scanFrom_char (hgap before)
  | cons c rest ih =>
    have hrest : ∀ {b s}, s ≠ [] → s <:+ rest → read b (s ++ g :: v) = read b s :=
      fun hs hsuffix => hlocal hs (hsuffix.trans (List.suffix_cons c rest))
    rw [List.length_cons] at hle
    -- What is taken away or kept ends in front of the gap, so the counts stay within the text.
    match removed, kept with
    | removed + 1, kept => exact ih hrest removed kept (some c) (by omega)
    | 0, kept + 1 => exact congrArg (.char c :: ·) (ih hrest 0 kept (some c) (by omega))
    | 0, 0 =>
      have hread := hlocal (b := before) (List.cons_ne_nil c rest) List.suffix_rfl
      rw [List.cons_append] at hread ⊢
      rw [scanFrom, scanFrom, hread]
      cases hfound : read before (c :: rest) with
      | none => exact congrArg (.char c :: ·) (ih hrest 0 0 (some c) (Nat.zero_le _))
      | some f =>
        exact congrArg (.found f.value :: ·) (ih hrest _ _ (some c) (hfit before c rest f hfound))

/-- What is left of two texts with such a gap between them. -/
theorem replaceFrom_append {replacement : Text} {g : Char} {v : Text} {u : Text}
    (hfit : Fits read) (hlocal : ∀ {b s}, s ≠ [] → s <:+ u → read b (s ++ g :: v) = read b s)
    (hgap : ∀ b, read b (g :: v) = none) (before : Option Char) :
    replaceFrom replacement read 0 before (u ++ g :: v) =
      replaceFrom replacement read 0 before u ++
        g :: replaceFrom replacement read 0 (some g) v := by
  unfold replaceFrom
  rw [scanFrom_append hfit hlocal hgap 0 0 before (Nat.zero_le _)]
  exact List.flatMap_append

/-- The character before a text only matters to what is read at its start. -/
theorem scanFrom_change_before {b b' : Option Char} {t : Text} (h : read b t = read b' t) :
    scanFrom read 0 0 b t = scanFrom read 0 0 b' t := by
  cases t with
  | nil => rfl
  | cons c rest => rw [scanFrom, scanFrom, h]

end Text

end Notebook
