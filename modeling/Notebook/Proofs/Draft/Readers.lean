import Mathlib.Data.List.TakeWhile
import Notebook.Draft.Flags
import Notebook.Proofs.Text.Edges
import Notebook.Proofs.Text.Keyword
import Notebook.Proofs.Text.Spelling

/-!
# What the readers of flags recognise

For each kind of flag, what its reader finds is spelled out once, and what follows from that:

- `readTag_eq_some_iff`, `readColor_eq_some_iff`, `readFont_eq_some_iff`, `readFlag_eq_some_iff` —
  an occurrence, what it says and what it takes away;
- `readTag_spelled`, `readColor_spelled`, `readFont_spelled`, `readFlag_spelled` — the language of
  each kind;
- `readTag_detached`, `readColor_detached`, `readFont_detached`, `readFlag_detached` — taking flags
  of a kind out leaves no part of a word behind.
-/

namespace Notebook

/-! ### Runs of characters -/

/-- What follows an occurrence is what follows its spelling. -/
theorem eq_of_same_length {c : Char} {removed rest s later : Text}
    (ht : c :: (removed ++ rest) = s ++ later) (hlength : removed.length + 1 = s.length) :
    rest = later :=
  have hsplit : (c :: removed) ++ rest = s ++ later := ht
  List.append_inj_right hsplit hlength

/-- A text that starts no word starts with no letter. -/
theorem not_isAlpha_of_startsWord {t : Text} (h : startsWord t = false) :
    ∀ d ∈ t.head?, d.isAlpha = false := by
  intro d hd
  cases t with
  | nil => cases hd
  | cons c rest =>
    obtain rfl := Option.some.inj hd
    by_contra halpha
    rw [startsWord, isWord_of_isAlpha (by simpa using halpha)] at h
    cases h

/-! ### Tags -/

/-- A tag is two number signs and a name, which goes on as long as it can. -/
theorem readTag_eq_some_iff {before : Option Char} {t : Text} {f : Found Text} :
    readTag before t = some f ↔ ∃ c more rest, t = '#' :: '#' :: c :: (more ++ rest) ∧
      isTagStart c = true ∧ (∀ d ∈ more, isTagChar d = true) ∧
      (∀ d ∈ rest.head?, isTagChar d = false) ∧ f = ⟨c :: more, 2 + more.length, 0⟩ := by
  constructor
  · intro h
    unfold readTag at h
    split at h
    · rename_i c rest
      split at h
      · rename_i hc
        obtain ⟨more, later, rfl, hmore, hlater⟩ := exists_longest_start isTagChar rest
        rw [takeWhile_longest_start hmore hlater] at h
        exact ⟨c, more, later, rfl, hc, hmore, hlater, (Option.some.inj h).symm⟩
      · cases h
    · cases h
  · rintro ⟨c, more, rest, rfl, hc, hmore, hrest, rfl⟩
    show (if isTagStart c then _ else none) = _
    rw [if_pos hc, takeWhile_longest_start hmore hrest]

theorem readTag_isSome_iff {before : Option Char} {t : Text} :
    (readTag before t).isSome ↔ ∃ c rest, t = '#' :: '#' :: c :: rest ∧ isTagStart c = true := by
  constructor
  · intro h
    obtain ⟨f, hf⟩ := Option.isSome_iff_exists.mp h
    obtain ⟨c, more, rest, ht, hc, -⟩ := readTag_eq_some_iff.mp hf
    exact ⟨c, more ++ rest, ht, hc⟩
  · rintro ⟨c, rest, rfl, hc⟩
    obtain ⟨more, later, rfl, hmore, hlater⟩ := exists_longest_start isTagChar rest
    exact Option.isSome_iff_exists.mpr
      ⟨_, readTag_eq_some_iff.mpr ⟨c, more, later, rfl, hc, hmore, hlater, rfl⟩⟩

/-- A letter may stand in a tag name. -/
theorem isTagChar_of_isAlpha {c : Char} (h : c.isAlpha = true) : isTagChar c = true := by
  rw [isTagChar, Char.isAlphanum, h, Bool.true_or, Bool.true_or, Bool.true_or]

theorem isWord_of_isTagStart {c : Char} (h : isTagStart c = true) : isWord c = true := by
  rcases Bool.or_eq_true_iff.mp h with halpha | hline
  · exact isWord_of_isAlpha halpha
  · rw [beq_iff_eq.mp hline]
    decide

/-- The shortest tags; every tag starts with one. -/
def TagWord (w : Text) : Prop := ∃ c, w = ['#', '#', c] ∧ isTagStart c = true

theorem readTag_spelled : Text.Spelled readTag TagWord false false where
  reads_iff := by
    intro before t
    rw [readTag_isSome_iff]
    constructor
    · rintro ⟨c, rest, rfl, hc⟩
      exact ⟨nofun, ['#', '#', c], rest, rfl, ⟨c, rfl, hc⟩, nofun⟩
    · rintro ⟨-, w, rest, rfl, ⟨c, rfl, hc⟩, -⟩
      exact ⟨c, rest, rfl, hc⟩
  solid := by
    rintro w ⟨c, rfl, hc⟩ d hd
    have hword := isWord_of_isTagStart hc
    by_contra hgap
    rw [Bool.not_eq_false] at hgap
    simp only [List.mem_cons, List.not_mem_nil, or_false] at hd
    rcases hd with rfl | rfl | rfl
    · exact absurd hgap (by decide)
    · exact absurd hgap (by decide)
    · -- Only the first character of the name is not fixed, and no gap can be one.
      rw [isWord_of_isGap hgap] at hword
      cases hword
  head := by
    rintro w ⟨c, rfl, -⟩
    exact ⟨'#', ['#', c], rfl, nofun⟩
  last := nofun

theorem readTag_detached : Text.Detached readTag where
  fits := by
    intro before c rest f h
    obtain ⟨d, more, later, ht, -, -, -, rfl⟩ := readTag_eq_some_iff.mp h
    obtain ⟨-, rfl⟩ := List.cons.inj ht
    simp only [List.length_cons, List.length_append]
    omega
  start := by
    intro before c rest h hc
    obtain ⟨d, later, ht, -⟩ := readTag_isSome_iff.mp h
    obtain ⟨rfl, -⟩ := List.cons.inj ht
    exact absurd hc (by decide)
  stop := by
    intro before c removed rest f h hlength d hd
    obtain ⟨e, more, later, ht, -, -, hstop, rfl⟩ := readTag_eq_some_iff.mp h
    -- What is taken out has a known length, so what is left is what the reader left.
    have hrest : rest = later := by
      refine eq_of_same_length (s := '#' :: '#' :: e :: more) ht ?_
      simp only [hlength, List.length_cons]
      omega
    subst hrest
    by_contra halpha
    have := hstop d hd
    rw [isTagChar_of_isAlpha (by simpa using halpha)] at this
    cases this

/-! ### Keys -/

/-- A key of a letter and a colon, at a word boundary. -/
theorem afterKey?_letter {d : Char} (hd : foldCase d = d) {before : Option Char} {t rest : Text} :
    afterKey? [d, ':'] before t = some rest ↔
      before.any isWord = false ∧ ∃ k, t = k :: ':' :: rest ∧ foldCase k = d := by
  unfold afterKey?
  cases hbefore : before.any isWord with
  | true => simp
  | false =>
    rw [if_neg (by simp), Text.after?_eq_some_iff]
    constructor
    · rintro ⟨head, rfl, hmap⟩
      have hlength : head.length = 2 := by simpa using congrArg List.length hmap
      obtain ⟨k, colon, rfl⟩ := List.length_eq_two.mp hlength
      obtain ⟨hk, hrest⟩ := List.cons.inj hmap
      obtain ⟨hcolon, -⟩ := List.cons.inj hrest
      have hcolon' : colon = ':' := eq_of_foldCase_eq (by decide) hcolon
      exact ⟨rfl, k, by rw [hcolon']; rfl, hk.trans hd⟩
    · rintro ⟨-, k, rfl, hk⟩
      refine ⟨[k, ':'], rfl, ?_⟩
      show [foldCase k, foldCase ':'] = [foldCase d, foldCase ':']
      rw [hk, hd]

/-! ### Colors -/

/-- A color is a key and a word of letters and digits, from word boundary to word boundary. -/
theorem readColor_eq_some_iff {before : Option Char} {t : Text} {f : Found (Option Color)} :
    readColor before t = some f ↔ before.any isWord = false ∧ ∃ k w rest,
      t = k :: ':' :: (w ++ rest) ∧ foldCase k = 'c' ∧ w ≠ [] ∧
      (∀ d ∈ w, foldsToAlphanumeric d = true) ∧ startsWord rest = false ∧
      f = ⟨Color.ofName? w, 1 + w.length, 0⟩ := by
  have hkey := @afterKey?_letter 'c' (by decide) before t
  constructor
  · intro h
    unfold readColor at h
    split at h
    · cases h
    · rename_i rest hrest
      obtain ⟨hbefore, k, rfl, hk⟩ := hkey.mp hrest
      obtain ⟨w, later, rfl, hw, hlater⟩ := exists_longest_start foldsToAlphanumeric rest
      rw [takeWhile_longest_start hw hlater] at h
      simp only [List.drop_left] at h
      split at h
      · cases h
      · rename_i hword
        rw [Bool.not_eq_true, Bool.or_eq_false_iff] at hword
        refine ⟨hbefore, k, w, later, rfl, hk, ?_, hw, hword.2, (Option.some.inj h).symm⟩
        rintro rfl
        cases hword.1
  · rintro ⟨hbefore, k, w, rest, ht, hk, hne, hw, hrest, rfl⟩
    have hafter : afterKey? "c:".toList before t = some (w ++ rest) :=
      hkey.mpr ⟨hbefore, k, ht, hk⟩
    -- The longest run ends where a word ends: what folds to a letter or digit is a word character.
    have hstop : ∀ d ∈ rest.head?, foldsToAlphanumeric d = false := by
      intro d hd
      by_contra hfold
      have hword := isWord_of_foldsToAlphanumeric (by simpa using hfold)
      cases rest with
      | nil => cases hd
      | cons e rest =>
        obtain rfl := Option.some.inj hd
        rw [startsWord, hword] at hrest
        cases hrest
    unfold readColor
    rw [hafter]
    simp only [takeWhile_longest_start hw hstop, List.drop_left, hrest, Bool.or_false,
      List.isEmpty_iff]
    exact if_neg hne

/-- The spellings of colors. -/
def ColorWord (w : Text) : Prop :=
  ∃ k word, w = k :: ':' :: word ∧ foldCase k = 'c' ∧ word ≠ [] ∧
    ∀ d ∈ word, foldsToAlphanumeric d = true

theorem readColor_spelled : Text.Spelled readColor ColorWord true true where
  reads_iff := by
    intro before t
    rw [Option.isSome_iff_exists]
    constructor
    · rintro ⟨f, hf⟩
      obtain ⟨hbefore, k, w, rest, rfl, hk, hne, hw, hrest, -⟩ := readColor_eq_some_iff.mp hf
      exact ⟨fun _ => hbefore, k :: ':' :: w, rest, rfl, ⟨k, w, rfl, hk, hne, hw⟩, fun _ => hrest⟩
    · rintro ⟨hbefore, w, rest, rfl, ⟨k, word, rfl, hk, hne, hw⟩, hrest⟩
      exact ⟨_, readColor_eq_some_iff.mpr
        ⟨hbefore rfl, k, word, rest, rfl, hk, hne, hw, hrest rfl, rfl⟩⟩
  solid := by
    rintro w ⟨k, word, rfl, hk, -, hw⟩ d hd
    by_contra hgap
    rw [Bool.not_eq_false] at hgap
    -- The key, the colon, or a character of the word; folding takes no gap into any of them.
    rcases List.mem_cons.mp hd with rfl | hd
    · rw [foldCase_of_isGap hgap] at hk
      subst hk
      exact absurd hgap (by decide)
    · rcases List.mem_cons.mp hd with rfl | hd
      · exact absurd hgap (by decide)
      · have := hw d hd
        rw [not_foldsToAlphanumeric_of_isGap hgap] at this
        cases this
  head := by
    rintro w ⟨k, word, rfl, hk, -, -⟩
    exact ⟨k, ':' :: word, rfl, fun _ =>
      isAlpha_of_foldCase_eq (by decide) (by decide) (by decide) hk⟩
  last := by
    rintro w ⟨k, word, rfl, -, hne, hw⟩ -
    refine ⟨k :: ':' :: word.dropLast, word.getLast hne, ?_, ?_⟩
    · rw [List.cons_append, List.cons_append, List.dropLast_concat_getLast]
    · exact isWord_of_foldsToAlphanumeric (hw _ (List.getLast_mem hne))

theorem readColor_detached : Text.Detached readColor where
  fits := by
    intro before c rest f h
    obtain ⟨-, k, w, later, ht, -, -, -, -, rfl⟩ := readColor_eq_some_iff.mp h
    obtain ⟨-, rfl⟩ := List.cons.inj ht
    simp only [List.length_cons, List.length_append]
    omega
  start := by
    intro before c rest h _
    obtain ⟨f, hf⟩ := Option.isSome_iff_exists.mp h
    exact (readColor_eq_some_iff.mp hf).1
  stop := by
    intro before c removed rest f h hlength d hd
    obtain ⟨-, k, w, later, ht, -, -, -, hstop, rfl⟩ := readColor_eq_some_iff.mp h
    have hrest : rest = later := by
      refine eq_of_same_length (s := k :: ':' :: w) ht ?_
      simp only [hlength, List.length_cons]
      omega
    subst hrest
    exact not_isAlpha_of_startsWord hstop d hd

/-! ### Fonts -/

/-- A run that has no space is the name, and so is one that no colon follows. -/
theorem fontNameLength_of_whole {run rest : Text} (h : rest.head? = some ':' → ' ' ∉ run) :
    fontNameLength run rest = run.length := by
  unfold fontNameLength
  refine if_neg ?_
  rintro ⟨hcolon, hlt⟩
  have hall : ∀ c ∈ run.reverse, decide (c ≠ ' ') = true := by
    intro c hc
    refine decide_eq_true ?_
    rintro rfl
    exact h hcolon (List.mem_reverse.mp hc)
  rw [List.takeWhile_eq_self_iff.mpr hall, List.length_reverse] at hlt
  exact Nat.lt_irrefl _ hlt

/-- Before a colon, the last word of the run and the space before it do not belong to the name. -/
theorem fontNameLength_of_handed_back {name word rest : Text} (hword : ' ' ∉ word) :
    fontNameLength (name ++ ' ' :: word) (':' :: rest) = name.length := by
  -- Backwards, the last word is what comes before the first space.
  have hlast : (name ++ ' ' :: word).reverse.takeWhile (fun c => decide (c ≠ ' ')) =
      word.reverse := by
    rw [List.reverse_append, List.reverse_cons, List.append_assoc]
    refine takeWhile_longest_start ?_ ?_
    · intro c hc
      refine decide_eq_true ?_
      rintro rfl
      exact hword (List.mem_reverse.mp hc)
    · intro d hd
      obtain rfl := Option.some.inj hd
      decide
  unfold fontNameLength
  rw [hlast, List.length_reverse, List.length_append, List.length_cons, List.head?_cons]
  rw [if_pos ⟨rfl, by omega⟩]
  omega

/-- The run behind the key of a font: it starts with a letter or digit and goes on as long as it
can. -/
structure FontRun (run rest : Text) : Prop where
  head : run.head?.any foldsToAlphanumeric = true
  chars : ∀ c ∈ run, isFontChar c = true
  stop : ∀ d ∈ rest.head?, isFontChar d = false

theorem isFontChar_of_foldsToAlphanumeric {c : Char} (h : foldsToAlphanumeric c = true) :
    isFontChar c = true := by
  rw [isFontChar, h, Bool.true_or]

/-- Letters, digits and spaces may stand in a font name. -/
theorem isFontChar_of_plain {name : Text} (h : ∀ c ∈ name, c.isAlphanum = true ∨ c = ' ') :
    ∀ c ∈ name, isFontChar c = true := by
  intro c hc
  rcases h c hc with halnum | rfl
  · exact isFontChar_of_foldsToAlphanumeric (foldsToAlphanumeric_of_isAlphanum halnum)
  · decide

theorem not_mem_of_plain {name : Text} (h : ∀ c ∈ name, c.isAlphanum = true ∨ c = ' ') {c : Char}
    (halnum : c.isAlphanum = false) (hspace : c ≠ ' ') : c ∉ name := by
  intro hc
  rcases h c hc with hc | rfl
  · rw [halnum] at hc
    cases hc
  · exact hspace rfl

theorem head?_any_foldsToAlphanumeric {t : Text} (h : t.head?.any Char.isAlphanum = true) :
    t.head?.any foldsToAlphanumeric = true := by
  cases t with
  | nil => cases h
  | cons c t => exact foldsToAlphanumeric_of_isAlphanum h

theorem head?_any_append {p : Char → Bool} {u v : Text} (h : u.head?.any p = true) :
    (u ++ v).head?.any p = true := by
  cases u with
  | nil => cases h
  | cons c u => exact h

/-- A text with a space in it falls into what is before the last space and what is behind it. -/
theorem exists_last_space {t : Text} (h : ' ' ∈ t) : ∃ u w, t = u ++ ' ' :: w ∧ ' ' ∉ w := by
  obtain ⟨back, front, hsplit, hback⟩ := List.eq_append_cons_of_mem (List.mem_reverse.mpr h)
  refine ⟨front.reverse, back.reverse, ?_, fun hmem => hback (List.mem_reverse.mp hmem)⟩
  rw [← List.reverse_reverse t, hsplit, List.reverse_append, List.reverse_cons, List.append_assoc]
  rfl

/-- What stays of a font name without its spaces are letters and digits. -/
theorem foldsToAlphanumeric_of_isFontChar {w : Text} (hspace : ' ' ∉ w)
    (hw : ∀ c ∈ w, isFontChar c = true) : ∀ c ∈ w, foldsToAlphanumeric c = true := by
  intro c hc
  rcases Bool.or_eq_true_iff.mp (hw c hc) with h | h
  · exact h
  · exact absurd (beq_iff_eq.mp h ▸ hc) hspace

theorem readFont_eq_some_iff_run {before : Option Char} {t : Text} {f : Found Text} :
    readFont before t = some f ↔ before.any isWord = false ∧ ∃ k run rest,
      t = k :: ':' :: (run ++ rest) ∧ foldCase k = 'f' ∧ FontRun run rest ∧
      f = ⟨Text.trim (run.take (fontNameLength run rest)), 1 + fontNameLength run rest,
        run.length - fontNameLength run rest⟩ := by
  have hkey := @afterKey?_letter 'f' (by decide) before t
  constructor
  · intro h
    unfold readFont at h
    split at h
    · cases h
    · rename_i rest hrest
      obtain ⟨hbefore, k, rfl, hk⟩ := hkey.mp hrest
      obtain ⟨run, later, rfl, hrun, hlater⟩ := exists_longest_start isFontChar rest
      split at h
      · rename_i hhead
        rw [takeWhile_longest_start hrun hlater] at h
        simp only [List.drop_left, Option.some.injEq] at h
        refine ⟨hbefore, k, run, later, rfl, hk, ⟨?_, hrun, hlater⟩, h.symm⟩
        -- What stands behind the colon can start a name, so the run is not empty.
        cases run with
        | nil =>
          cases later with
          | nil => cases hhead
          | cons d later =>
            have hd := hlater d rfl
            rw [isFontChar_of_foldsToAlphanumeric hhead] at hd
            cases hd
        | cons c run => exact hhead
      · cases h
  · rintro ⟨hbefore, k, run, rest, ht, hk, hrun, rfl⟩
    have hafter : afterKey? "f:".toList before t = some (run ++ rest) :=
      hkey.mpr ⟨hbefore, k, ht, hk⟩
    unfold readFont
    rw [hafter]
    simp only [head?_any_append hrun.head, if_true, takeWhile_longest_start hrun.chars hrun.stop,
      List.drop_left]

/-- The ways a font is found: its name is the whole run behind the key, or the run without its last
word, which is the key of the next flag. -/
inductive FontFound : Text → Found Text → Prop
  | whole {k : Char} {run rest : Text} : foldCase k = 'f' → FontRun run rest →
      (rest.head? = some ':' → ' ' ∉ run) →
      FontFound (k :: ':' :: (run ++ rest)) ⟨Text.trim run, 1 + run.length, 0⟩
  | handedBack {k : Char} {name word rest : Text} : foldCase k = 'f' →
      name.head?.any foldsToAlphanumeric = true → (∀ c ∈ name, isFontChar c = true) →
      (∀ c ∈ word, foldsToAlphanumeric c = true) →
      FontFound (k :: ':' :: (name ++ (' ' :: word ++ ':' :: rest)))
        ⟨Text.trim name, 1 + name.length, 1 + word.length⟩

/-- A run that hands back its last word, in two parts. -/
theorem FontRun.handedBack {name word rest : Text}
    (hhead : name.head?.any foldsToAlphanumeric = true) (hname : ∀ c ∈ name, isFontChar c = true)
    (hword : ∀ c ∈ word, foldsToAlphanumeric c = true) :
    FontRun (name ++ ' ' :: word) (':' :: rest) where
  head := head?_any_append hhead
  chars := by
    intro c hc
    rcases List.mem_append.mp hc with hc | hc
    · exact hname c hc
    · rcases List.mem_cons.mp hc with rfl | hc
      · decide
      · exact isFontChar_of_foldsToAlphanumeric (hword c hc)
  stop := by
    intro d hd
    obtain rfl := Option.some.inj hd
    decide

theorem length_handed_back (name word : Text) :
    (name ++ ' ' :: word).length - name.length = 1 + word.length := by
  rw [List.length_append, List.length_cons]
  omega

/-- A font is a key at a word boundary and a name, which may hand back its last word. -/
theorem readFont_eq_some_iff {before : Option Char} {t : Text} {f : Found Text} :
    readFont before t = some f ↔ before.any isWord = false ∧ FontFound t f := by
  rw [readFont_eq_some_iff_run]
  refine and_congr_right fun _ => ⟨?_, ?_⟩
  · rintro ⟨k, run, rest, rfl, hk, hrun, rfl⟩
    -- Something is handed back if a colon follows and there is a space to cut at.
    by_cases hback : rest.head? = some ':' ∧ ' ' ∈ run
    · obtain ⟨hcolon, hspace⟩ := hback
      obtain ⟨name, word, rfl, hword⟩ := exists_last_space hspace
      obtain ⟨later, rfl⟩ : ∃ later, rest = ':' :: later := List.head?_eq_some_iff.mp hcolon
      have hhead : name.head?.any foldsToAlphanumeric = true := by
        cases name with
        | nil =>
          have hfold : foldsToAlphanumeric ' ' = true := hrun.head
          exact absurd hfold (by decide)
        | cons c name => exact hrun.head
      rw [fontNameLength_of_handed_back hword, List.take_left, length_handed_back,
        List.append_assoc]
      refine .handedBack hk hhead (fun c hc => hrun.chars c (List.mem_append_left _ hc)) ?_
      refine foldsToAlphanumeric_of_isFontChar hword fun c hc => hrun.chars c ?_
      exact List.mem_append_right _ (List.mem_cons_of_mem _ hc)
    · have hwhole : rest.head? = some ':' → ' ' ∉ run := fun hcolon hspace =>
        hback ⟨hcolon, hspace⟩
      rw [fontNameLength_of_whole hwhole, List.take_length, Nat.sub_self]
      exact .whole hk hrun hwhole
  · intro hfound
    cases hfound with
    | whole hk hrun hwhole =>
      refine ⟨_, _, _, rfl, hk, hrun, ?_⟩
      rw [fontNameLength_of_whole hwhole, List.take_length, Nat.sub_self]
    | handedBack hk hhead hname hword =>
      rename_i k name word rest
      have hspace : ' ' ∉ word := fun hmem => absurd (hword ' ' hmem) (by decide)
      refine ⟨k, name ++ ' ' :: word, ':' :: rest, ?_, hk, .handedBack hhead hname hword, ?_⟩
      · rw [List.append_assoc]
      · rw [fontNameLength_of_handed_back hspace, List.take_left, length_handed_back]

theorem readFont_isSome_iff {before : Option Char} {t : Text} :
    (readFont before t).isSome ↔ before.any isWord = false ∧ ∃ k c rest,
      t = k :: ':' :: c :: rest ∧ foldCase k = 'f' ∧ foldsToAlphanumeric c = true := by
  constructor
  · intro h
    obtain ⟨f, hf⟩ := Option.isSome_iff_exists.mp h
    obtain ⟨hbefore, k, run, rest, rfl, hk, hrun, -⟩ := readFont_eq_some_iff_run.mp hf
    have hhead := hrun.head
    cases run with
    | nil => cases hhead
    | cons c run => exact ⟨hbefore, k, c, run ++ rest, rfl, hk, hhead⟩
  · rintro ⟨hbefore, k, c, rest, rfl, hk, hc⟩
    -- The run goes on as far as it can, whatever comes of its end.
    obtain ⟨run, later, rfl, hrun, hlater⟩ := exists_longest_start isFontChar rest
    have hchars : ∀ d ∈ c :: run, isFontChar d = true := by
      intro d hd
      rcases List.mem_cons.mp hd with rfl | hd
      · exact isFontChar_of_foldsToAlphanumeric hc
      · exact hrun d hd
    exact Option.isSome_iff_exists.mpr ⟨_, readFont_eq_some_iff_run.mpr
      ⟨hbefore, k, c :: run, later, rfl, hk, ⟨hc, hchars, hlater⟩, rfl⟩⟩

/-- The shortest fonts; every font starts with one. -/
def FontWord (w : Text) : Prop :=
  ∃ k c, w = [k, ':', c] ∧ foldCase k = 'f' ∧ foldsToAlphanumeric c = true

theorem readFont_spelled : Text.Spelled readFont FontWord true false where
  reads_iff := by
    intro before t
    rw [readFont_isSome_iff]
    constructor
    · rintro ⟨hbefore, k, c, rest, rfl, hk, hc⟩
      exact ⟨fun _ => hbefore, [k, ':', c], rest, rfl, ⟨k, c, rfl, hk, hc⟩, nofun⟩
    · rintro ⟨hbefore, w, rest, rfl, ⟨k, c, rfl, hk, hc⟩, -⟩
      exact ⟨hbefore rfl, k, c, rest, rfl, hk, hc⟩
  solid := by
    rintro w ⟨k, c, rfl, hk, hc⟩ d hd
    by_contra hgap
    rw [Bool.not_eq_false] at hgap
    simp only [List.mem_cons, List.not_mem_nil, or_false] at hd
    -- The key, the colon and the first character of the name.
    rcases hd with rfl | rfl | rfl
    · rw [foldCase_of_isGap hgap] at hk
      subst hk
      exact absurd hgap (by decide)
    · exact absurd hgap (by decide)
    · rw [not_foldsToAlphanumeric_of_isGap hgap] at hc
      cases hc
  head := by
    rintro w ⟨k, c, rfl, hk, -⟩
    exact ⟨k, [':', c], rfl, fun _ =>
      isAlpha_of_foldCase_eq (by decide) (by decide) (by decide) hk⟩
  last := nofun

theorem not_isAlpha_of_not_isFontChar {c : Char} (h : isFontChar c = false) :
    c.isAlpha = false := by
  by_contra halpha
  have halnum : c.isAlphanum = true := by
    rw [Char.isAlphanum, Bool.not_eq_false _ |>.mp halpha, Bool.true_or]
  rw [isFontChar_of_foldsToAlphanumeric (foldsToAlphanumeric_of_isAlphanum halnum)] at h
  cases h

theorem readFont_detached : Text.Detached readFont where
  fits := by
    intro before c rest f h
    obtain ⟨-, hfound⟩ := readFont_eq_some_iff.mp h
    cases hfound with
    | whole => simp only [List.length_cons, List.length_append]; omega
    | handedBack => simp only [List.length_cons, List.length_append]; omega
  start := by
    intro before c rest h _
    exact (readFont_isSome_iff.mp h).1
  stop := by
    intro before c removed rest f h hlength d hd
    obtain ⟨-, hfound⟩ := readFont_eq_some_iff.mp h
    -- A name ends where its run ends, or in front of a word that is handed back behind a space.
    generalize ht : c :: (removed ++ rest) = t at hfound
    cases hfound with
    | whole hk hrun hwhole =>
      rename_i k run later
      have hrest : rest = later := by
        refine eq_of_same_length (s := k :: ':' :: run) ht ?_
        simp only [hlength, List.length_cons]
        omega
      subst hrest
      exact not_isAlpha_of_not_isFontChar (hrun.stop d hd)
    | handedBack hk hhead hname hword =>
      rename_i k name word later
      have hrest : rest = ' ' :: word ++ ':' :: later := by
        refine eq_of_same_length (s := k :: ':' :: name) ht ?_
        simp only [hlength, List.length_cons]
        omega
      subst hrest
      obtain rfl := Option.some.inj hd
      decide

/-! ### Flags proper -/

/-- The key of a flag. -/
theorem afterKey?_is {before : Option Char} {t rest : Text} :
    afterKey? "is:".toList before t = some rest ↔ before.any isWord = false ∧
      ∃ k s, t = k :: s :: ':' :: rest ∧ foldCase k = 'i' ∧ foldCase s = 's' := by
  unfold afterKey?
  cases hbefore : before.any isWord with
  | true => simp
  | false =>
    rw [if_neg (by simp), Text.after?_eq_some_iff]
    constructor
    · rintro ⟨head, rfl, hmap⟩
      -- Folding keeps the length, so there are three characters to compare.
      have hlength : head.length = 3 := by simpa using congrArg List.length hmap
      obtain ⟨k, s, colon, rfl⟩ := List.length_eq_three.mp hlength
      obtain ⟨hk, hrest⟩ := List.cons.inj hmap
      obtain ⟨hs, hrest⟩ := List.cons.inj hrest
      obtain ⟨hcolon, -⟩ := List.cons.inj hrest
      have hcolon' : colon = ':' := eq_of_foldCase_eq (by decide) hcolon
      exact ⟨rfl, k, s, by rw [hcolon']; rfl, hk, hs⟩
    · rintro ⟨-, k, s, rfl, hk, hs⟩
      refine ⟨[k, s, ':'], rfl, ?_⟩
      show [foldCase k, foldCase s, foldCase ':'] = [foldCase 'i', foldCase 's', foldCase ':']
      rw [hk, hs]
      rfl

/-- A word in one of its spellings is a word of the flags. -/
def IsFlagWord (word : Text) : Prop := word.map foldCase ∈ flagWords.map (·.1)

theorem map_foldCase_flagWords : ∀ e ∈ flagWords, e.1.map foldCase = e.1 := by decide

theorem isAlpha_flagWords : ∀ word ∈ flagWords.map (·.1), ∀ c ∈ word, c.isAlpha = true := by
  have hall : (flagWords.map (·.1)).all (·.all Char.isAlpha) = true := by decide
  intro word hword
  exact List.all_eq_true.mp (List.all_eq_true.mp hall word hword)

theorem length_flagWords : ∀ word ∈ flagWords.map (·.1), 3 ≤ word.length := by decide

theorem IsFlagWord.foldsToAlphanumeric {word : Text} (h : IsFlagWord word) :
    ∀ c ∈ word, foldsToAlphanumeric c = true := by
  intro c hc
  have halpha := isAlpha_flagWords _ h (foldCase c) (List.mem_map_of_mem hc)
  rw [Notebook.foldsToAlphanumeric, Char.isAlphanum, halpha, Bool.true_or]

theorem IsFlagWord.three_le {word : Text} (h : IsFlagWord word) : 3 ≤ word.length := by
  have := length_flagWords _ h
  rwa [List.length_map] at this

theorem IsFlagWord.isWord {word : Text} (h : IsFlagWord word) : ∀ c ∈ word, isWord c = true :=
  fun c hc => isWord_of_foldsToAlphanumeric (h.foldsToAlphanumeric c hc)

theorem isFlagWord_of_mem {w : Text} {flag : Flag} (h : (w.map foldCase, flag) ∈ flagWords) :
    IsFlagWord w := List.mem_map_of_mem h

theorem nodup_flagWords : (flagWords.map (·.1)).Nodup := by decide

/-- A word ends where it does, so two words at the start of a text are the same. -/
theorem eq_of_word_ends {w w' rest rest' : Text} (h : w ++ rest = w' ++ rest')
    (hw : ∀ c ∈ w, isWord c = true) (hw' : ∀ c ∈ w', isWord c = true)
    (hrest : startsWord rest = false) (hrest' : startsWord rest' = false) : w = w' := by
  have hstop : ∀ {v : Text}, startsWord v = false → ∀ d ∈ v.head?, isWord d = false := by
    intro v hv d hd
    obtain ⟨v, rfl⟩ := List.head?_eq_some_iff.mp hd
    exact hv
  calc w = (w ++ rest).takeWhile isWord := (takeWhile_longest_start hw (hstop hrest)).symm
    _ = (w' ++ rest').takeWhile isWord := by rw [h]
    _ = w' := takeWhile_longest_start hw' (hstop hrest')

/-- A flag is a key and one of the known words, from word boundary to word boundary. It sets what
its word says, if folding does no more to the word than to write it in lower case. -/
theorem readFlag_eq_some_iff {before : Option Char} {t : Text} {f : Found (Option Flag)} :
    readFlag before t = some f ↔ before.any isWord = false ∧ ∃ k s w rest flag,
      t = k :: s :: ':' :: (w ++ rest) ∧ foldCase k = 'i' ∧ foldCase s = 's' ∧
      (w.map foldCase, flag) ∈ flagWords ∧ startsWord rest = false ∧
      f = ⟨if w.map Char.toLower = w.map foldCase then some flag else none, 2 + w.length, 0⟩ := by
  constructor
  · intro h
    unfold readFlag at h
    split at h
    · cases h
    · rename_i rest hrest
      obtain ⟨hbefore, k, s, rfl, hk, hs⟩ := afterKey?_is.mp hrest
      obtain ⟨⟨word, flag⟩, hmem, hfound⟩ := List.exists_of_findSome?_eq_some h
      simp only at hfound
      split at hfound
      · cases hfound
      · rename_i tail htail
        split at hfound
        · cases hfound
        · rename_i hstop
          obtain ⟨w, rfl, hw⟩ := Text.after?_eq_some_iff.mp htail
          have hlength : w.length = word.length := by simpa using congrArg List.length hw
          obtain rfl : w.map foldCase = word := hw.trans (map_foldCase_flagWords _ hmem)
          rw [← hlength, List.take_left] at hfound
          exact ⟨hbefore, k, s, w, tail, flag, rfl, hk, hs, hmem, by simpa using hstop,
            (Option.some.inj hfound).symm⟩
  · rintro ⟨hbefore, k, s, w, rest, flag, rfl, hk, hs, hmem, hrest, rfl⟩
    have hafter : afterKey? "is:".toList before (k :: s :: ':' :: (w ++ rest)) = some (w ++ rest) :=
      afterKey?_is.mpr ⟨hbefore, k, s, rfl, hk, hs⟩
    have htail : Text.after? foldCase (w.map foldCase) (w ++ rest) = some rest :=
      Text.after?_eq_some_iff.mpr ⟨w, rfl, (map_foldCase_flagWords _ hmem).symm⟩
    unfold readFlag
    rw [hafter]
    refine findSome?_of_unique hmem ?_ fun ⟨word, flag'⟩ he => ?_
    · simp only [htail, hrest, Bool.false_eq_true, if_false, List.length_map, List.take_left]
    · -- Another word of the table would have to end in the same place.
      cases htail' : Text.after? foldCase word (w ++ rest) with
      | none => exact Or.inr (by simp only [htail'])
      | some tail =>
        cases hstop : startsWord tail with
        | true => exact Or.inr (by simp only [htail', hstop, if_true])
        | false =>
          obtain ⟨w', hsplit, hw'⟩ := Text.after?_eq_some_iff.mp htail'
          obtain rfl : w'.map foldCase = word := hw'.trans (map_foldCase_flagWords _ he)
          have hsame : w = w' := eq_of_word_ends hsplit (isFlagWord_of_mem hmem).isWord
            (isFlagWord_of_mem he).isWord hrest hstop
          refine Or.inl (List.inj_on_of_nodup_map nodup_flagWords he hmem ?_)
          rw [hsame]

theorem readFlag_eq_some {before : Option Char} {t : Text} {f : Found (Option Flag)}
    (h : readFlag before t = some f) : before.any isWord = false ∧ ∃ k s w rest,
      t = k :: s :: ':' :: (w ++ rest) ∧ foldCase k = 'i' ∧ foldCase s = 's' ∧ IsFlagWord w ∧
      startsWord rest = false ∧ f.removedAfterFirst = 2 + w.length ∧ f.kept = 0 := by
  obtain ⟨hbefore, k, s, w, rest, flag, ht, hk, hs, hmem, hrest, rfl⟩ := readFlag_eq_some_iff.mp h
  exact ⟨hbefore, k, s, w, rest, ht, hk, hs, isFlagWord_of_mem hmem, hrest, rfl, rfl⟩

theorem readFlag_isSome_iff {before : Option Char} {t : Text} :
    (readFlag before t).isSome ↔ before.any isWord = false ∧ ∃ k s w rest,
      t = k :: s :: ':' :: (w ++ rest) ∧ foldCase k = 'i' ∧ foldCase s = 's' ∧ IsFlagWord w ∧
      startsWord rest = false := by
  constructor
  · intro h
    obtain ⟨f, hf⟩ := Option.isSome_iff_exists.mp h
    obtain ⟨hbefore, k, s, w, rest, ht, hk, hs, hw, hrest, -, -⟩ := readFlag_eq_some hf
    exact ⟨hbefore, k, s, w, rest, ht, hk, hs, hw, hrest⟩
  · rintro ⟨hbefore, k, s, w, rest, ht, hk, hs, hw, hrest⟩
    have hafter : afterKey? "is:".toList before t = some (w ++ rest) :=
      afterKey?_is.mpr ⟨hbefore, k, s, ht, hk, hs⟩
    obtain ⟨⟨word, flag⟩, hmem, hword⟩ := List.mem_map.mp hw
    have htail : Text.after? foldCase word (w ++ rest) = some rest :=
      Text.after?_eq_some_iff.mpr ⟨w, rfl, by rw [← hword, map_foldCase_flagWords _ hmem]⟩
    unfold readFlag
    rw [hafter]
    refine List.findSome?_isSome_iff.mpr ⟨⟨word, flag⟩, hmem, ?_⟩
    simp only [htail, hrest, Bool.false_eq_true, if_false]
    rfl

/-- The spellings of flags. -/
def FlagWord (w : Text) : Prop :=
  ∃ k s word, w = k :: s :: ':' :: word ∧ foldCase k = 'i' ∧ foldCase s = 's' ∧ IsFlagWord word

theorem readFlag_spelled : Text.Spelled readFlag FlagWord true true where
  reads_iff := by
    intro before t
    rw [readFlag_isSome_iff]
    constructor
    · rintro ⟨hbefore, k, s, w, rest, rfl, hk, hs, hw, hrest⟩
      exact ⟨fun _ => hbefore, k :: s :: ':' :: w, rest, rfl, ⟨k, s, w, rfl, hk, hs, hw⟩,
        fun _ => hrest⟩
    · rintro ⟨hbefore, w, rest, rfl, ⟨k, s, word, rfl, hk, hs, hw⟩, hrest⟩
      exact ⟨hbefore rfl, k, s, word, rest, rfl, hk, hs, hw, hrest rfl⟩
  solid := by
    rintro w ⟨k, s, word, rfl, hk, hs, hw⟩ d hd
    by_contra hgap
    rw [Bool.not_eq_false] at hgap
    have hfold := foldCase_of_isGap hgap
    -- The two letters of the key, the colon, or a character of the word.
    rcases List.mem_cons.mp hd with rfl | hd
    · rw [hfold] at hk
      subst hk
      exact absurd hgap (by decide)
    · rcases List.mem_cons.mp hd with rfl | hd
      · rw [hfold] at hs
        subst hs
        exact absurd hgap (by decide)
      · rcases List.mem_cons.mp hd with rfl | hd
        · exact absurd hgap (by decide)
        · have := hw.foldsToAlphanumeric d hd
          rw [not_foldsToAlphanumeric_of_isGap hgap] at this
          cases this
  head := by
    rintro w ⟨k, s, word, rfl, hk, -, -⟩
    exact ⟨k, s :: ':' :: word, rfl, fun _ =>
      isAlpha_of_foldCase_eq (by decide) (by decide) (by decide) hk⟩
  last := by
    rintro w ⟨k, s, word, rfl, -, -, hw⟩ -
    have hne : word ≠ [] := by
      rintro rfl
      have := hw.three_le
      contradiction
    refine ⟨k :: s :: ':' :: word.dropLast, word.getLast hne, ?_, ?_⟩
    · rw [List.cons_append, List.cons_append, List.cons_append, List.dropLast_concat_getLast]
    · exact isWord_of_foldsToAlphanumeric (hw.foldsToAlphanumeric _ (List.getLast_mem hne))

theorem readFlag_detached : Text.Detached readFlag where
  fits := by
    intro before c rest f h
    obtain ⟨-, k, s, w, later, ht, -, -, -, -, hremoved, hkept⟩ := readFlag_eq_some h
    obtain ⟨-, rfl⟩ := List.cons.inj ht
    simp only [List.length_cons, List.length_append]
    omega
  start := by
    intro before c rest h _
    exact (readFlag_isSome_iff.mp h).1
  stop := by
    intro before c removed rest f h hlength d hd
    obtain ⟨-, k, s, w, later, ht, -, -, -, hstop, hremoved, -⟩ := readFlag_eq_some h
    have hrest : rest = later := by
      refine eq_of_same_length (s := k :: s :: ':' :: w) ht ?_
      simp only [hlength, List.length_cons]
      omega
    subst hrest
    exact not_isAlpha_of_startsWord hstop d hd

end Notebook
