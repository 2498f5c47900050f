import Notebook.Proofs.Question.AnyCase
import Notebook.Proofs.Text.Edges
import Notebook.Proofs.Text.Somewhere

/-!
# What the readers of a question read

Each reader of a phrase takes a start of a text and leaves an end of it. The number that a phrase
reads is set off in the text: a numeral has no digit next to it, and an ordinal word has no word
character next to it.

- `Question.exists_of_leftmost` — the leftmost reading is one of an end of the text;
- `Question.afterOneOf?_eq_some`, `afterOrdinalNumeral?_eq_some`, `nounFirst_eq_some` — what stands
  where a reader has read something;
- `Question.BehindBlank` — an end of a text with white space in front of it, as behind a request;
- `SetOff` — a part of a text with no character of a kind next to it;
- `Question.OrdinalAt`, `setOff_beforeNoun`, `setOff_requested`, `setOff_nounFirst` — the number of
  a phrase is set off.
-/

namespace Notebook

open Text

namespace Question

/-! ### Readings anywhere in a text -/

/-- The leftmost reading is a reading of some end of the text, where no word is going on. -/
theorem exists_of_leftmost {α : Type} {read? : Text → Option α} {before : Option Char} {t : Text}
    {a : α} (h : leftmost read? before t = some a) :
    ∃ u v, t = u ++ v ∧ (lastOf before u).any isWord = false ∧ read? v = some a := by
  induction t generalizing before with
  | nil => cases h
  | cons c rest ih =>
    rw [leftmost] at h
    split at h
    · rename_i b hread
      split at hread
      · cases hread
      · rename_i hbefore
        exact ⟨[], c :: rest, rfl, Bool.eq_false_of_not_eq_true hbefore, hread.trans h⟩
    · obtain ⟨u, v, rfl, hbefore, hread⟩ := ih h
      exact ⟨c :: u, v, rfl, hbefore, hread⟩

/-! ### Digits and words -/

/-- A letter in any spelling is no digit. -/
theorem not_isDecimalDigit_of_foldCase {c : Char} (h : (foldCase c).isAlpha = true) :
    isDecimalDigit c = false := by
  unfold foldCase at h
  split at h
  · rename_i hs
    rw [hs]
    decide
  · split at h
    · rename_i hk
      rw [hk]
      decide
    · rw [Char.isAlpha_toLower_eq_isAlpha] at h
      exact not_isDecimalDigit_of_isAlpha h

theorem head_of_not_startsWord {t : Text} (h : ¬startsWord t = true) :
    ∀ c ∈ t.head?, isWord c = false := by
  rintro c hc
  obtain ⟨more, rfl⟩ := List.head?_eq_some_iff.mp hc
  exact Bool.eq_false_of_not_eq_true h

/-- Digits are read to their end. -/
theorem afterDigits?_eq_some {t digits rest : Text} (h : afterDigits? t = some (digits, rest)) :
    t = digits ++ rest ∧ digits ≠ [] ∧ (∀ c ∈ digits, isDecimalDigit c = true) ∧
      ∀ c ∈ rest.head?, isDecimalDigit c = false := by
  unfold afterDigits? at h
  split at h
  · cases h
  · rename_i hdigits
    obtain ⟨rfl, rfl⟩ := Prod.mk.inj (Option.some.inj h)
    exact ⟨List.takeWhile_append_dropWhile.symm, hdigits, fun c hc => List.mem_takeWhile_imp hc,
      head_dropWhile isDecimalDigit t⟩

theorem after?_suffix {keyword t rest : Text} (h : after? foldCase keyword t = some rest) :
    rest <:+ t := by
  obtain ⟨head, rfl, -⟩ := after?_eq_some_iff.mp h
  exact List.suffix_append head rest

theorem afterOneOf?_eq_some {words : List Text} {t word rest : Text}
    (h : afterOneOf? words t = some (word, rest)) :
    t = word ++ rest ∧ ∃ w ∈ words, word.map foldCase = w.map foldCase := by
  obtain ⟨w, hw, hread⟩ := List.exists_of_findSome?_eq_some h
  obtain ⟨rest', hafter, heq⟩ := Option.map_eq_some_iff.mp hread
  obtain ⟨head, rfl, hhead⟩ := after?_eq_some_iff.mp hafter
  obtain ⟨rfl, rfl⟩ := Prod.mk.inj heq
  have hlength : w.length = head.length := by
    have := congrArg List.length hhead
    simpa using this.symm
  rw [hlength, List.take_left]
  exact ⟨rfl, w, hw, hhead⟩

theorem after?_of_afterOneOf? {words : List Text} {t word rest : Text}
    (h : afterOneOf? words t = some (word, rest)) :
    ∃ w ∈ words, after? foldCase w t = some rest := by
  obtain ⟨rfl, w, hw, hfold⟩ := afterOneOf?_eq_some h
  exact ⟨w, hw, after?_eq_some_iff.mpr ⟨word, rfl, hfold⟩⟩

theorem afterOrdinalNumeral?_eq_some {t digits rest : Text}
    (h : afterOrdinalNumeral? t = some (digits, rest)) :
    ∃ ending, t = digits ++ (ending ++ rest) ∧ (∀ c ∈ digits, isDecimalDigit c = true) ∧
      (∀ c ∈ (ending ++ rest).head?, isDecimalDigit c = false) ∧
      ∃ w ∈ ordinalEndings, ending.map foldCase = w.map foldCase := by
  obtain ⟨⟨digits', behind⟩, hdigits, hending⟩ := Option.bind_eq_some_iff.mp h
  obtain ⟨⟨ending, rest'⟩, hread, heq⟩ := Option.map_eq_some_iff.mp hending
  obtain ⟨rfl, rfl⟩ := Prod.mk.inj heq
  obtain ⟨rfl, -, hall, hhead⟩ := afterDigits?_eq_some hdigits
  obtain ⟨rfl, hword⟩ := afterOneOf?_eq_some hread
  exact ⟨ending, rfl, hall, hhead, hword⟩

/-! ### White space and requests -/

theorem head_of_afterBlanks? {t rest : Text} (h : afterBlanks? t = some rest) :
    ∀ c ∈ t.head?, isBlank c = true := by
  rintro c hc
  obtain ⟨more, rfl⟩ := List.head?_eq_some_iff.mp hc
  rw [afterBlanks?] at h
  split at h
  · assumption
  · cases h

/-- White space stands right in front of an end of a text. -/
def BehindBlank (t rest : Text) : Prop := ∃ front g, t = front ++ g :: rest ∧ isBlank g = true

theorem BehindBlank.of_suffix {t u rest : Text} (h : BehindBlank u rest) (hu : u <:+ t) :
    BehindBlank t rest := by
  obtain ⟨front, g, rfl, hg⟩ := h
  obtain ⟨before, rfl⟩ := hu
  exact ⟨before ++ front, g, (List.append_assoc _ _ _).symm, hg⟩

theorem BehindBlank.suffix {t rest : Text} (h : BehindBlank t rest) : rest <:+ t := by
  obtain ⟨front, g, rfl, -⟩ := h
  exact (List.suffix_cons g rest).trans (List.suffix_append _ _)

/-- White space is read to its end. -/
theorem afterBlanks?_eq_some {t rest : Text} (h : afterBlanks? t = some rest) :
    BehindBlank t rest ∧ ∀ c ∈ rest.head?, isBlank c = false := by
  cases t with
  | nil => cases h
  | cons c t =>
    rw [afterBlanks?] at h
    split at h
    · rename_i hc
      obtain rfl := Option.some.inj h
      have hblanks : ∀ g ∈ c :: t.takeWhile isBlank, isBlank g = true :=
        List.forall_mem_cons.mpr ⟨hc, fun g hg => List.mem_takeWhile_imp hg⟩
      obtain ⟨front, g, hfront⟩ :=
        (List.eq_nil_or_concat (c :: t.takeWhile isBlank)).resolve_left (List.cons_ne_nil _ _)
      rw [List.concat_eq_append] at hfront
      refine ⟨⟨front, g, ?_, hblanks g (by simp [hfront])⟩, head_dropWhile isBlank t⟩
      rw [List.append_cons, ← hfront, List.cons_append, trimStart, List.takeWhile_append_dropWhile]
    · cases h

theorem behindBlank_of_afterBlanks? {t rest : Text} (h : afterBlanks? t = some rest) :
    BehindBlank t rest :=
  (afterBlanks?_eq_some h).1

theorem afterBlanks?_suffix {t rest : Text} (h : afterBlanks? t = some rest) : rest <:+ t :=
  (behindBlank_of_afterBlanks? h).suffix

theorem BehindBlank.skipWord {t rest : Text} (h : BehindBlank t rest) (word : Text) :
    BehindBlank t (skipWord word rest) := by
  unfold Question.skipWord
  cases hskip : (after? foldCase word rest).bind afterBlanks? with
  | none => exact h
  | some rest' =>
    obtain ⟨behind, hword, hblanks⟩ := Option.bind_eq_some_iff.mp hskip
    exact (behindBlank_of_afterBlanks? hblanks).of_suffix ((after?_suffix hword).trans h.suffix)

/-- A request ends in white space. -/
theorem behindBlank_of_afterRequest? {t rest : Text} (h : afterRequest? t = some rest) :
    BehindBlank t rest := by
  obtain ⟨asked, hasked, rfl⟩ := Option.map_eq_some_iff.mp h
  obtain ⟨behind, hverb, hblanks⟩ := Option.bind_eq_some_iff.mp hasked
  have hbehind : behind <:+ t := by
    rcases (Option.orElse_eq_some _ _ _).mp hverb with hverb | ⟨-, hverb⟩
    · obtain ⟨⟨word, rest⟩, hword, rfl⟩ := Option.map_eq_some_iff.mp hverb
      obtain ⟨rfl, -⟩ := afterOneOf?_eq_some hword
      exact List.suffix_append word rest
    · obtain ⟨afterWhat, hwhat, his⟩ := Option.bind_eq_some_iff.mp hverb
      obtain ⟨rest, hwhat, hspace⟩ := Option.bind_eq_some_iff.mp hwhat
      exact ((after?_suffix his).trans (afterBlanks?_suffix hspace)).trans (after?_suffix hwhat)
  exact (((behindBlank_of_afterBlanks? hblanks).skipWord _).skipWord _).of_suffix hbehind

/-! ### Nouns -/

theorem afterNoun?_suffix {nouns : List Text} {t rest : Text}
    (h : afterNoun? nouns t = some rest) : rest <:+ t := by
  unfold afterNoun? at h
  dsimp only at h
  split at h
  · obtain rfl := Option.some.inj h
    exact List.dropWhile_suffix _
  · cases h

theorem skipAskNoun_suffix (t : Text) : skipAskNoun t <:+ t := by
  unfold skipAskNoun
  cases hskip : (afterBlanks? t).bind (afterNoun? askNouns) with
  | none => exact List.suffix_rfl
  | some rest =>
    obtain ⟨behind, hblanks, hnoun⟩ := Option.bind_eq_some_iff.mp hskip
    exact (afterNoun?_suffix hnoun).trans (afterBlanks?_suffix hblanks)

/-- Between the noun and the number there is at most white space and a number sign. -/
theorem exists_numberSign (t : Text) :
    ∃ gap, t = gap ++ (if (trimStart t).head? = some '#' then trimStart (trimStart t).tail
        else trimStart t) ∧ ∀ c ∈ gap, isBlank c = true ∨ c = '#' := by
  have hblanks : ∀ u : Text, ∀ c ∈ u.takeWhile isBlank, isBlank c = true ∨ c = '#' :=
    fun u c hc => Or.inl (List.mem_takeWhile_imp hc)
  have hsplit : ∀ u : Text, u = u.takeWhile isBlank ++ trimStart u :=
    fun u => List.takeWhile_append_dropWhile.symm
  split
  · rename_i hsign
    obtain ⟨rest, hrest⟩ := List.head?_eq_some_iff.mp hsign
    refine ⟨t.takeWhile isBlank ++ '#' :: rest.takeWhile isBlank, ?_, ?_⟩
    · rw [hrest, List.tail_cons, List.append_assoc, List.cons_append, ← hsplit rest, ← hrest]
      exact hsplit t
    · intro c hc
      rcases List.mem_append.mp hc with hc | hc
      · exact hblanks t c hc
      · rcases List.mem_cons.mp hc with rfl | hc
        · exact Or.inr rfl
        · exact hblanks rest c hc
  · exact ⟨_, hsplit t, hblanks t⟩

theorem nounFirst_eq_some {t digits rest : Text} (h : nounFirst t = some (digits, rest)) :
    ∃ front, t = front ++ (digits ++ rest) ∧ (∀ c ∈ front, isDecimalDigit c = false) ∧
      digits ≠ [] ∧ (∀ c ∈ digits, isDecimalDigit c = true) ∧
      ∀ c ∈ rest.head?, isWord c = false := by
  obtain ⟨⟨word, behind⟩, hword, hmore⟩ := Option.bind_eq_some_iff.mp h
  obtain ⟨⟨digits', rest'⟩, hdigits, hend⟩ := Option.bind_eq_some_iff.mp hmore
  obtain ⟨rfl, noun, hnoun, hfold⟩ := afterOneOf?_eq_some hword
  dsimp only at hend
  split at hend
  · cases hend
  · rename_i hstarts
    obtain ⟨rfl, rfl⟩ := Prod.mk.inj (Option.some.inj hend)
    obtain ⟨hsplit, hne, hall, -⟩ := afterDigits?_eq_some hdigits
    obtain ⟨gap, hgap, hsign⟩ := exists_numberSign behind
    -- The noun, the white space and the number sign have no digit in them.
    refine ⟨word ++ gap, ?_, fun c hc => ?_, hne, hall, head_of_not_startsWord hstarts⟩
    · rw [List.append_assoc, ← hsplit]
      exact congrArg (word ++ ·) hgap
    · rcases List.mem_append.mp hc with hc | hc
      · have hletters : ∀ noun ∈ nounsBeforeNumber,
            (noun.map foldCase).all Char.isAlpha = true := by decide
        have hmem : foldCase c ∈ noun.map foldCase := hfold ▸ List.mem_map_of_mem hc
        exact not_isDecimalDigit_of_foldCase (List.all_eq_true.mp (hletters noun hnoun) _ hmem)
      · rcases hsign c hc with hblank | rfl
        · exact not_isDecimalDigit_of_not_isWord (isWord_of_isGap (isGap_of_isBlank hblank))
        · decide

end Question

/-! ### Parts that are set off -/

/-- A part of a text, where it stands, with no character of a kind right before or behind it. -/
def SetOff (p : Char → Bool) (part t : Text) : Prop :=
  ∃ front back, t = front ++ (part ++ back) ∧ (∀ c ∈ front.getLast?, p c = false) ∧
    ∀ c ∈ back.head?, p c = false

theorem SetOff.isInfix {p : Char → Bool} {part t : Text} (h : SetOff p part t) : part <:+: t := by
  obtain ⟨front, back, rfl, -, -⟩ := h
  exact ⟨front, back, List.append_assoc _ _ _⟩

/-- A part stays set off behind a text that ends in another kind of character. -/
theorem SetOff.behind {p : Char → Bool} {part t front : Text} (h : SetOff p part t)
    (hfront : ∀ c ∈ front.getLast?, p c = false) : SetOff p part (front ++ t) := by
  obtain ⟨start, back, rfl, hstart, hback⟩ := h
  exact ⟨front ++ start, back, (List.append_assoc _ _ _).symm, forall_last_append hfront hstart,
    hback⟩

namespace Question

/-- A reader of ordinals reads at the start of a text. If no word goes on behind what it reads, no
character of a kind stands behind the number. -/
def OrdinalAt (p : Char → Bool) (ordinal : Text → Option (Text × Text)) : Prop :=
  ∀ t number rest, ordinal t = some (number, rest) → (∀ c ∈ rest.head?, isWord c = false) →
    ∃ back, t = number ++ back ∧ rest <:+ back ∧ ∀ c ∈ back.head?, p c = false

theorem ordinalAt_numeral : OrdinalAt isDecimalDigit afterOrdinalNumeral? := by
  intro t digits rest hread _
  obtain ⟨ending, rfl, -, hhead, -⟩ := afterOrdinalNumeral?_eq_some hread
  exact ⟨ending ++ rest, rfl, List.suffix_append ending rest, hhead⟩

theorem ordinalAt_word : OrdinalAt isWord afterOrdinalWord? := by
  intro t word rest hread hend
  obtain ⟨rfl, -⟩ := afterOneOf?_eq_some hread
  exact ⟨rest, rfl, List.suffix_rfl, hend⟩

section Phrases

variable {p : Char → Bool} {ordinal : Text → Option (Text × Text)} {t number rest : Text}

/-- White space must follow the ordinal in front of a noun. -/
theorem setOff_beforeNoun (hordinal : OrdinalAt p ordinal)
    (h : beforeNoun ordinal t = some (number, rest)) : SetOff p number t ∧ rest <:+ t := by
  obtain ⟨⟨number', behind⟩, hnumber, hmore⟩ := Option.bind_eq_some_iff.mp h
  obtain ⟨rest', hnoun, heq⟩ := Option.map_eq_some_iff.mp hmore
  obtain ⟨rfl, rfl⟩ := Prod.mk.inj heq
  obtain ⟨text, htext, hread⟩ := Option.bind_eq_some_iff.mp hnoun
  have hend : ∀ c ∈ behind.head?, isWord c = false := fun c hc =>
    isWord_of_isGap (isGap_of_isBlank (head_of_afterBlanks? htext c hc))
  obtain ⟨back, rfl, hback, hhead⟩ := hordinal t _ behind hnumber hend
  refine ⟨⟨[], back, rfl, nofun, hhead⟩, ?_⟩
  exact (((afterNoun?_suffix hread).trans (afterBlanks?_suffix htext)).trans hback).trans
    (List.suffix_append _ _)

/-- White space stands in front of an ordinal that is requested, and no word goes on behind it. -/
theorem setOff_requested (hp : ∀ c, isWord c = false → p c = false)
    (hordinal : OrdinalAt p ordinal) (h : requested ordinal t = some (number, rest)) :
    SetOff p number t ∧ rest <:+ t := by
  obtain ⟨⟨number', behind⟩, hnumber, hmore⟩ := Option.bind_eq_some_iff.mp h
  obtain ⟨text, htext, hread⟩ := Option.bind_eq_some_iff.mp hnumber
  dsimp only at hmore
  split at hmore
  · cases hmore
  · rename_i hstarts
    obtain ⟨rfl, rfl⟩ := Prod.mk.inj (Option.some.inj hmore)
    obtain ⟨back, rfl, hback, hhead⟩ :=
      hordinal text _ behind hread (head_of_not_startsWord hstarts)
    have hbehind := behindBlank_of_afterRequest? htext
    obtain ⟨front, g, rfl, hg⟩ := hbehind
    -- The white space of the request stands right in front.
    have hfront : ∀ c ∈ (front ++ [g]).getLast?, p c = false := by
      intro c hc
      rw [List.getLast?_concat] at hc
      obtain rfl := Option.some.inj hc
      exact hp g (isWord_of_isGap (isGap_of_isBlank hg))
    refine ⟨⟨front ++ [g], back, by simp, hfront, hhead⟩, ?_⟩
    exact ((skipAskNoun_suffix behind).trans hback).trans
      ((List.suffix_append number' back).trans (behindBlank_of_afterRequest? htext).suffix)

theorem setOff_nounFirst (h : nounFirst t = some (number, rest)) :
    SetOff isDecimalDigit number t ∧ rest <:+ t := by
  obtain ⟨front, rfl, hfront, -, -, hend⟩ := nounFirst_eq_some h
  refine ⟨⟨front, rest, rfl, fun c hc => hfront c (List.mem_of_getLast? hc), fun c hc =>
    not_isDecimalDigit_of_not_isWord (hend c hc)⟩, ?_⟩
  exact (List.suffix_append number rest).trans (List.suffix_append _ _)

end Phrases

end Question

end Notebook
