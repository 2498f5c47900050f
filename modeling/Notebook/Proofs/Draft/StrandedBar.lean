import Notebook.Proofs.Draft.SeparatorRuns

/-!
# When cleaning up leaves a run of separators (specification §4.2, step 3)

Runs of separators are collapsed in a single pass, which does not look back at what it has written.
A separator that it leaves may meet a bar that is left over from an odd number of them, and what
follows that bar: in `a || ||| || b` the first four bars become two, the fifth follows at once, and
the last two of these three are a run with the separator behind them.

- `StrandsBar` — a place where a run is followed by a single bar and the three bars that are left
  are part of a run;
- `occurs_collapse_iff` — collapsing leaves a run exactly if the pass comes to such a place;
- `tidyBody_tidyBody_iff` — cleaning up twice is cleaning up once exactly if no run is left;
- `tidyBody_twice` — both together, for the body as it is given.
-/

namespace Notebook

open Text

/-! ### What the pass leaves behind it -/

/-- A run of separators has a bar right behind it. -/
def RunThenBar (before : Option Char) (t : Text) : Prop :=
  ∃ f ∈ readSeparatorRun before t, (t.drop (f.removedAfterFirst + 1)).head? = some '|'

/-- A run of separators has a bar right behind it, and another before it or a separator ahead of
that bar. -/
def StrandsBar (before : Option Char) (t : Text) : Prop :=
  ∃ f ∈ readSeparatorRun before t, (t.drop (f.removedAfterFirst + 1)).head? = some '|' ∧
    (before = some '|' ∨ SeparatorAhead (t.drop (f.removedAfterFirst + 2)))

instance (before : Option Char) (t : Text) : Decidable (StrandsBar before t) :=
  inferInstanceAs (Decidable (∃ f ∈ readSeparatorRun before t, _))

section Found

variable {before : Option Char} {c : Char} {removed rest : Text} {f : Found Unit}
  (hread : readSeparatorRun before (c :: (removed ++ rest)) = some f)
  (hlength : removed.length = f.removedAfterFirst)

include hread hlength

theorem runThenBar_found : RunThenBar before (c :: (removed ++ rest)) ↔ rest.head? = some '|' := by
  have hdrop : (c :: (removed ++ rest)).drop (f.removedAfterFirst + 1) = rest := by
    rw [← hlength, List.drop_succ_cons, List.drop_left]
  unfold RunThenBar
  rw [hread]
  simp only [Option.mem_some_iff, exists_eq_left', hdrop]

theorem strandsBar_found : StrandsBar before (c :: (removed ++ rest)) ↔
    ∃ later, rest = '|' :: later ∧ (before = some '|' ∨ SeparatorAhead later) := by
  have hdrop : (c :: (removed ++ rest)).drop (f.removedAfterFirst + 1) = rest := by
    rw [← hlength, List.drop_succ_cons, List.drop_left]
  have hdrop' : (c :: (removed ++ rest)).drop (f.removedAfterFirst + 2) = rest.tail := by
    rw [← List.tail_drop, hdrop]
  unfold StrandsBar
  rw [hread]
  simp only [Option.mem_some_iff, exists_eq_left', hdrop, hdrop']
  cases rest with
  | nil => simp
  | cons d later => simp [and_assoc]

/-- A separator is left of a run, and the pass goes on behind the run, where a bar is before it. -/
theorem collapse_found :
    replaceFrom separator readSeparatorRun 0 before (c :: (removed ++ rest)) =
      '|' :: '|' :: replaceFrom separator readSeparatorRun 0 (some '|') rest := by
  obtain ⟨more, rfl, rfl, hkept, hmore⟩ := exists_of_readSeparatorRun hread hlength
  have hlast : lastOf (some '|') ('|' :: more) = some '|' := hmore.last _
  rw [replaceFrom_found hread hlength, hkept, hlast]
  rfl

end Found

/-- What is left begins like the text. -/
theorem head?_collapse (before : Option Char) (t : Text) :
    (replaceFrom separator readSeparatorRun 0 before t).head? = t.head? := by
  cases t with
  | nil => rfl
  | cons c rest =>
    cases hread : readSeparatorRun before (c :: rest) with
    | none =>
      rw [replaceFrom_char hread]
      rfl
    | some f =>
      obtain ⟨removed, later, rfl, hlength⟩ := readSeparatorRun_fits.split hread
      obtain ⟨more, rfl, -, -⟩ := exists_of_readSeparatorRun hread hlength
      rw [collapse_found hread hlength]
      rfl

/-- A separator is ahead in what is left exactly if it is in the text. -/
theorem separatorAhead_collapse (kept : Nat) (before : Option Char) (t : Text) : kept = 0 →
    (SeparatorAhead (replaceFrom separator readSeparatorRun kept before t) ↔ SeparatorAhead t) := by
  induction kept, before, t using scan_induction readSeparatorRun_fits with
  | nil kept before =>
    intro _
    rw [replaceFrom_nil]
  | keep kept before c rest ih =>
    intro hzero
    cases hzero
  | char before c rest hnone ih =>
    intro _
    rw [replaceFrom_char hnone]
    by_cases hc : isBlank c = true
    · rw [separatorAhead_cons_blank hc, separatorAhead_cons_blank hc, ih rfl]
    · rw [Bool.not_eq_true] at hc
      rw [separatorAhead_cons hc, separatorAhead_cons hc, head?_collapse]
  | found before c removed rest f hread hlength ih =>
    intro _
    obtain ⟨more, rfl, rfl, -, -⟩ := exists_of_readSeparatorRun hread hlength
    rw [collapse_found hread hlength]
    exact iff_of_true ⟨_, rfl⟩ ⟨_, rfl⟩

/-- A bar that the pass has passed over begins a run in what is left exactly if it is followed by a
run and one more bar. -/
theorem isSome_behind_char {before : Option Char} {c : Char} {rest : Text}
    (hnone : readSeparatorRun before (c :: rest) = none) :
    (readSeparatorRun before (c :: replaceFrom separator readSeparatorRun 0 (some c) rest)).isSome ↔
      some c = some '|' ∧ RunThenBar (some c) rest := by
  rw [readSeparatorRun_isSome_iff, Option.some_inj]
  constructor
  · rintro ⟨later, heq, hahead⟩
    obtain ⟨rfl, heq⟩ := List.cons.inj heq
    have hhead : rest.head? = some '|' := by
      rw [← head?_collapse (some '|'), heq]
      rfl
    obtain ⟨more, rfl⟩ := List.head?_eq_some_iff.mp hhead
    refine ⟨rfl, ?_⟩
    cases hread : readSeparatorRun (some '|') ('|' :: more) with
    | none =>
      -- Without a run there the separator would have been ahead of the first bar already.
      rw [replaceFrom_char hread] at heq
      obtain ⟨-, rfl⟩ := List.cons.inj heq
      have hrun : (readSeparatorRun before ('|' :: '|' :: more)).isSome :=
        readSeparatorRun_isSome_iff.mpr
          ⟨more, rfl, (separatorAhead_collapse 0 _ more rfl).mp hahead⟩
      rw [hnone] at hrun
      cases hrun
    | some f =>
      obtain ⟨removed, behind, rfl, hlength⟩ := readSeparatorRun_fits.split hread
      rw [collapse_found hread hlength] at heq
      obtain ⟨-, rfl⟩ := List.cons.inj heq
      obtain ⟨-, hbar⟩ := (separatorAhead_cons (by decide) _).mp hahead
      rw [head?_collapse] at hbar
      exact (runThenBar_found hread hlength).mpr hbar
  · rintro ⟨rfl, hbar⟩
    obtain ⟨f, hread, -⟩ := id hbar
    cases rest with
    | nil => cases hread
    | cons d rest =>
      obtain ⟨removed, behind, rfl, hlength⟩ := readSeparatorRun_fits.split hread
      have hhead := (runThenBar_found hread hlength).mp hbar
      rw [collapse_found hread hlength]
      refine ⟨_, rfl, (separatorAhead_cons (by decide) _).mpr ⟨rfl, ?_⟩⟩
      rwa [head?_collapse]

/-- The second bar of a separator that the pass has left begins a run exactly if it is followed by a
single bar with a separator ahead. -/
theorem isSome_behind_found (before : Option Char) {rest : Text} (hstop : ¬SeparatorAhead rest) :
    (readSeparatorRun before
        ('|' :: replaceFrom separator readSeparatorRun 0 (some '|') rest)).isSome ↔
      ∃ later, rest = '|' :: later ∧ SeparatorAhead later := by
  -- A bar that no run starts at is left alone by the pass.
  have hcollapse : ∀ later, rest = '|' :: later →
      replaceFrom separator readSeparatorRun 0 (some '|') rest =
        '|' :: replaceFrom separator readSeparatorRun 0 (some '|') later := by
    rintro later rfl
    refine replaceFrom_char (readSeparatorRun_of_not_bars ?_)
    rintro more - rfl
    exact hstop ⟨more, rfl⟩
  rw [readSeparatorRun_isSome_iff]
  constructor
  · rintro ⟨more, heq, hahead⟩
    obtain ⟨-, heq⟩ := List.cons.inj heq
    have hhead : rest.head? = some '|' := by
      rw [← head?_collapse (some '|'), heq]
      rfl
    obtain ⟨later, hlater⟩ := List.head?_eq_some_iff.mp hhead
    rw [hcollapse later hlater] at heq
    obtain ⟨-, rfl⟩ := List.cons.inj heq
    exact ⟨later, hlater, (separatorAhead_collapse 0 _ later rfl).mp hahead⟩
  · rintro ⟨later, hlater, hahead⟩
    rw [hcollapse later hlater]
    exact ⟨_, rfl, (separatorAhead_collapse 0 _ later rfl).mpr hahead⟩

/-- **The pass comes to a place where it strands a bar exactly if it leaves a run**, or makes one
with a bar that it has just passed over. -/
theorem comesTo_strandsBar_iff (kept : Nat) (before : Option Char) (t : Text) : kept = 0 →
    (ComesTo readSeparatorRun StrandsBar 0 kept before t ↔
      Occurs readSeparatorRun before (replaceFrom separator readSeparatorRun kept before t) ∨
        (before = some '|' ∧ RunThenBar before t)) := by
  induction kept, before, t using scan_induction readSeparatorRun_fits with
  | nil kept before =>
    intro _
    rw [replaceFrom_nil]
    refine iff_of_false ?_ ?_
    · cases kept <;> exact id
    · rintro (hoccurs | ⟨-, f, hread, -⟩)
      · exact hoccurs
      · cases hread
  | keep kept before c rest ih =>
    intro hzero
    cases hzero
  | char before c rest hnone ih =>
    intro _
    have hstrands : ¬StrandsBar before (c :: rest) := by
      rintro ⟨f, hread, -⟩
      rw [hnone] at hread
      cases hread
    have hbar : ¬RunThenBar before (c :: rest) := by
      rintro ⟨f, hread, -⟩
      rw [hnone] at hread
      cases hread
    rw [comesTo_char hnone, or_iff_right hstrands, ih rfl, replaceFrom_char hnone, occurs_cons,
      isSome_behind_char hnone]
    tauto
  | found before c removed rest f hread hlength ih =>
    intro _
    obtain ⟨more, rfl, hremoved, hkept, hmore⟩ := exists_of_readSeparatorRun hread hlength
    have hlast : lastOf (some '|') removed = some '|' := by
      rw [hremoved]
      exact hmore.last _
    -- The run is as long as it can be, so no other follows it at once.
    have hnext : ¬RunThenBar (some '|') rest := by
      rintro ⟨g, hg, -⟩
      obtain ⟨later, rfl, -⟩ := readSeparatorRun_isSome_iff.mp (Option.isSome_of_mem hg)
      exact hmore.stop ⟨later, rfl⟩
    have hfirst : ¬(readSeparatorRun before
        ('|' :: '|' :: replaceFrom separator readSeparatorRun 0 (some '|') rest)).isSome := by
      rw [readSeparatorRun_isSome_iff]
      rintro ⟨later, heq, hahead⟩
      simp only [List.cons.injEq, true_and] at heq
      rw [← heq, separatorAhead_collapse 0 _ rest rfl] at hahead
      exact hmore.stop hahead
    have hsecond := isSome_behind_found (some '|') hmore.stop
    have hhead : rest.head? = some '|' ↔ ∃ later, rest = '|' :: later := List.head?_eq_some_iff
    rw [hkept, hlast] at ih
    rw [comesTo_found hread hlength, hkept, hlast, strandsBar_found hread hlength, ih rfl,
      collapse_found hread hlength, runThenBar_found hread hlength, occurs_cons, occurs_cons,
      or_iff_right hfirst, hsecond, hhead, and_iff_right rfl, or_iff_left hnext]
    constructor
    · rintro (⟨later, hlater, hbefore | hahead⟩ | hoccurs)
      · exact Or.inr ⟨hbefore, later, hlater⟩
      · exact Or.inl (Or.inl ⟨later, hlater, hahead⟩)
      · exact Or.inl (Or.inr hoccurs)
    · rintro ((⟨later, hlater, hahead⟩ | hoccurs) | ⟨hbefore, later, hlater⟩)
      · exact Or.inl ⟨later, hlater, Or.inr hahead⟩
      · exact Or.inr hoccurs
      · exact Or.inl ⟨later, hlater, Or.inl hbefore⟩

theorem occurs_collapse_iff (body : Text) :
    Occurs readSeparatorRun none (collapseSeparators body) ↔
      ComesTo readSeparatorRun StrandsBar 0 0 none body := by
  rw [comesTo_strandsBar_iff 0 none body rfl]
  exact (or_iff_left fun h => by cases h.1).symm

/-! ### Cleaning up twice -/

/-- Where there is a run, collapsing makes the text shorter. -/
theorem not_occurs_of_collapse_eq (kept : Nat) (before : Option Char) (t : Text) : kept = 0 →
    replaceFrom separator readSeparatorRun kept before t = t →
      ¬Occurs readSeparatorRun before t := by
  induction kept, before, t using scan_induction readSeparatorRun_fits with
  | nil kept before => exact fun _ _ => id
  | keep kept before c rest ih =>
    intro hzero
    cases hzero
  | char before c rest hnone ih =>
    intro _ heq
    rw [replaceFrom_char hnone] at heq
    rw [occurs_cons, hnone]
    rintro (here | later)
    · cases here
    · exact ih rfl (List.cons.inj heq).2 later
  | found before c removed rest f hread hlength ih =>
    intro _ heq
    obtain ⟨more, rfl, rfl, hkept, hmore⟩ := exists_of_readSeparatorRun hread hlength
    -- Something belongs to the run beside its first separator, and that is what gets lost.
    have hne : more ≠ [] := by
      rintro rfl
      cases hmore.last none
    have hpos := List.length_pos_of_ne_nil hne
    have hle := (collapse_sublist 0 (some '|') rest rfl).length_le
    rw [collapse_found hread hlength] at heq
    have hsame := congrArg List.length heq
    simp only [List.length_cons, List.length_append] at hsame
    omega

/-- **Cleaning up twice is cleaning up once exactly if no run is left.** -/
theorem tidyBody_tidyBody_iff (body : Text) :
    tidyBody (tidyBody body) = tidyBody body ↔ ¬Occurs readSeparatorRun none (tidyBody body) := by
  obtain ⟨hsettled, hrev⟩ := settled_trimSeparators (collapseSeparators body)
  obtain ⟨htidy, htidyRev⟩ := settled_tidyLines hsettled hrev
  rw [← tidyBody_eq] at htidy htidyRev
  constructor
  · intro h
    exact not_occurs_of_collapse_eq 0 none _ rfl (steps_of_tidyBody_eq_self h).1
  · intro h
    have hcollapse : collapseSeparators (tidyBody body) = tidyBody body :=
      replaceFrom_of_not_occurs h
    rw [tidyBody_eq (tidyBody body), hcollapse, trimSeparators_eq_self htidy htidyRev,
      tidyBody_eq body, tidyLines_tidyLines (bare_of_settled hsettled hrev)]

/-! ### The body as it is given -/

/-- What is left ends like the text, if that ends in no gap. -/
theorem getLast?_collapse (kept : Nat) (before : Option Char) (t : Text) : kept = 0 →
    (∀ c ∈ t.getLast?, isGap c = false) →
      (replaceFrom separator readSeparatorRun kept before t).getLast? = t.getLast? := by
  -- Of a text that is not empty something is left, so the end of the rest is the end.
  have hcons : ∀ (c : Char) {b : Option Char} {rest : Text}, rest ≠ [] →
      (c :: replaceFrom separator readSeparatorRun 0 b rest).getLast? =
        (replaceFrom separator readSeparatorRun 0 b rest).getLast? := by
    intro c b rest hne
    obtain ⟨d, more, rfl⟩ := List.exists_cons_of_ne_nil hne
    obtain ⟨left, hleft⟩ := List.head?_eq_some_iff.mp (head?_collapse b (d :: more))
    rw [hleft, List.getLast?_cons_cons]
  induction kept, before, t using scan_induction readSeparatorRun_fits with
  | nil kept before =>
    intro _ _
    rw [replaceFrom_nil]
  | keep kept before c rest ih =>
    intro hzero
    cases hzero
  | char before c rest hnone ih =>
    intro _ hlast
    rw [replaceFrom_char hnone]
    cases rest with
    | nil => rfl
    | cons d rest =>
      rw [List.getLast?_cons_cons] at hlast ⊢
      rw [hcons c (List.cons_ne_nil d rest), ih rfl hlast]
  | found before c removed rest f hread hlength ih =>
    intro _ hlast
    obtain ⟨more, rfl, rfl, hkept, hmore⟩ := exists_of_readSeparatorRun hread hlength
    have hfront : ∀ e ∈ '|' :: '|' :: more, isGap e = true := forall_gap_bars hmore.gaps
    cases rest with
    | nil =>
      rw [List.append_nil] at hlast
      have hend := List.getLast?_eq_getLast_of_ne_nil (List.cons_ne_nil '|' ('|' :: more))
      have hgap := hfront _ (List.getLast_mem (List.cons_ne_nil '|' ('|' :: more)))
      rw [hlast _ hend] at hgap
      cases hgap
    | cons d rest =>
      have hsplit : '|' :: ('|' :: more ++ d :: rest) = ('|' :: '|' :: more) ++ d :: rest := rfl
      have hback : ('|' :: ('|' :: more ++ d :: rest)).getLast? = (d :: rest).getLast? := by
        rw [hsplit, List.getLast?_append_of_ne_nil _ (List.cons_ne_nil d rest)]
      have hrest := ih hkept (by rwa [hback] at hlast)
      have hbar : lastOf (some '|') ('|' :: more) = some '|' := hmore.last _
      rw [hkept, hbar] at hrest
      rw [collapse_found hread hlength, hback, ← hrest, List.getLast?_cons_cons,
        hcons '|' (List.cons_ne_nil d rest)]

theorem settled_of_head {t : Text} (h : ∀ c ∈ t.head?, isGap c = false) : Settled t where
  no_blank := fun c hc => not_isBlank_of_not_isGap (h c hc)
  no_separator := by
    rintro ⟨rest, rfl⟩
    exact absurd (h '|' rfl) (by decide)

/-- **What is left in a clean body.** Cleaning it up once more changes nothing exactly if no run of
separators is left, and none is left unless the pass strands a bar. Between words every stranded bar
leaves one; at the ends of a body it may be dropped with the separators there. -/
theorem tidyBody_twice (body : Text) :
    (tidyBody (tidyBody body) = tidyBody body ↔ ¬Occurs readSeparatorRun none (tidyBody body)) ∧
    (¬ComesTo readSeparatorRun StrandsBar 0 0 none body →
      ¬Occurs readSeparatorRun none (tidyBody body)) ∧
    ((∀ c ∈ body.head?, isGap c = false) → (∀ c ∈ body.getLast?, isGap c = false) →
      (Occurs readSeparatorRun none (tidyBody body) ↔
        ComesTo readSeparatorRun StrandsBar 0 0 none body)) := by
  have htidy : Occurs readSeparatorRun none (tidyBody body) ↔
      Occurs readSeparatorRun none (trimSeparators (collapseSeparators body)) :=
    occurs_tidyLines _
  refine ⟨tidyBody_tidyBody_iff body, fun hnone hoccurs => hnone ?_, fun hhead hlast => ?_⟩
  · obtain ⟨front, back, hsplit, -, -⟩ := trimSeparators_spec (collapseSeparators body)
    refine (occurs_collapse_iff body).mp (occurs_of_part ⟨front, back, ?_⟩ (htidy.mp hoccurs))
    rw [List.append_assoc, ← hsplit]
  · -- Nothing is dropped at the ends, since they are those of the body.
    have hstart : Settled (collapseSeparators body) := settled_of_head (by
      rw [show (collapseSeparators body).head? = body.head? from head?_collapse none body]
      exact hhead)
    have hend : Settled (collapseSeparators body).reverse := settled_of_head (by
      rw [List.head?_reverse, show (collapseSeparators body).getLast? = body.getLast? from
        getLast?_collapse 0 none body rfl hlast]
      exact hlast)
    rw [htidy, trimSeparators_eq_self hstart hend, occurs_collapse_iff]

/-- An even number of bars is collapsed to one separator; of an odd number between separators three
bars are left, and the separator behind them. -/
theorem tidyBody_twice_bars :
    let even := "a || |||| || b".toList
    let odd := "a || ||| || b".toList
    (¬ComesTo readSeparatorRun StrandsBar 0 0 none even ∧
      tidyBody (tidyBody even) = tidyBody even) ∧
    (∀ c ∈ odd.head?, isGap c = false) ∧ (∀ c ∈ odd.getLast?, isGap c = false) ∧
      ComesTo readSeparatorRun StrandsBar 0 0 none odd ∧
      tidyBody (tidyBody odd) ≠ tidyBody odd := by
  intro even odd
  have hno : ¬ComesTo readSeparatorRun StrandsBar 0 0 none even := by decide
  have hyes : ComesTo readSeparatorRun StrandsBar 0 0 none odd := by decide
  have hhead : ∀ c ∈ odd.head?, isGap c = false := by
    intro c hc
    obtain rfl : 'a' = c := Option.some.inj hc
    decide
  have hlast : ∀ c ∈ odd.getLast?, isGap c = false := by
    intro c hc
    obtain rfl : 'b' = c := Option.some.inj hc
    decide
  obtain ⟨heven, hevenNone, -⟩ := tidyBody_twice even
  obtain ⟨hodd, -, hoddRun⟩ := tidyBody_twice odd
  refine ⟨⟨hno, heven.mpr (hevenNone hno)⟩, hhead, hlast, hyes, fun hsame => ?_⟩
  exact hodd.mp hsame ((hoddRun hhead hlast).mpr hyes)

/-- A body that cleaning up changes a second time, since the first time leaves a run in it. -/
theorem tidyBody_leaves_run :
    tidyBody "a || ||| || b".toList = "a ||| || b".toList ∧
      Occurs readSeparatorRun none "a ||| || b".toList ∧
      tidyBody "a ||| || b".toList = "a ||| b".toList := by
  decide

end Notebook
