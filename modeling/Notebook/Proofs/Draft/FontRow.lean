import Notebook.Proofs.Draft.SwallowedFont
import Notebook.Proofs.Draft.Words

/-!
# Fonts and flags in a row

The name of a font may have spaces, so a font that is followed by a flag proper reads on into its
key. It hands the key back, and the search goes on behind it: in a row of fonts, each with a flag
behind it, every flag is still found.

- `FontSegment` — a font with a flag behind it, and `fontRow`, several of them;
- `FontSegment.Valid.takeOut_readFont`, `takeOut_readFlag` — what the passes make of a segment;
- `extract_fontRow` — what the row sets and leaves.
-/

namespace Notebook

open Text

/-- A font and a flag proper behind it. -/
structure FontSegment where
  name : Text
  word : Text
  flag : Flag
deriving Repr, DecidableEq

namespace FontSegment

/-- A segment as it is written. -/
def text (s : FontSegment) : Text := 'f' :: ':' :: (s.name ++ " is:".toList ++ s.word)

/-- A name of letters, digits and spaces, which does not start with a space, and a word that stands
for the flag. -/
structure Valid (s : FontSegment) : Prop where
  head : s.name.head?.any Char.isAlphanum = true
  chars : ∀ c ∈ s.name, c.isAlphanum = true ∨ c = ' '
  word : (s.word, s.flag) ∈ flagWords

/-- What is left of a segment without its font. -/
def flagText (s : FontSegment) : Text := "  is:".toList ++ s.word

variable {s : FontSegment} (h : s.Valid)

/-- The words of flags as such. -/
theorem takeOut_flagWords : ∀ e ∈ flagWords,
    takeOut readFlag ("is:".toList ++ e.1) = ([' '], [some e.2]) ∧ '#' ∉ e.1 ∧ ':' ∉ e.1 := by
  decide

section

include h

theorem Valid.no_hash : '#' ∉ s.text := by
  have hname := not_mem_of_plain h.chars (c := '#') (by decide) (by decide)
  have hword := (takeOut_flagWords _ h.word).2.1
  simp [text, hname, hword]

theorem Valid.takeOut_readTag : takeOut readTag s.text = (s.text, []) :=
  takeOut_of_not_occurs (not_occurs_readTag h.no_hash)

/-- No key in a segment is that of a color. -/
theorem Valid.takeOut_readColor : takeOut readColor s.text = (s.text, []) := by
  -- The segment is two words with a key each.
  have htext : ' ' :: s.text = spaced (['f' :: ':' :: s.name, "is:".toList ++ s.word].map id) := by
    simp [spaced, text]
  have hquiet : ∀ w ∈ ['f' :: ':' :: s.name, "is:".toList ++ s.word],
      takeOut readColor w = (w, []) := by
    have hname := not_mem_of_plain h.chars (c := ':') (by decide) (by decide)
    have hword := (takeOut_flagWords _ h.word).2.2
    simp only [List.forall_mem_cons]
    refine ⟨takeOut_of_not_occurs (not_occurs_of_suffixes ?_),
      takeOut_of_not_occurs (not_occurs_of_suffixes ?_), List.forall_mem_nil _⟩
    · exact fun hs => eq_none_of_key readColor exists_key_of_readColor [] (by decide)
        (by decide) List.not_mem_nil hname hs
    · exact fun hs => eq_none_of_key readColor exists_key_of_readColor ['i']
        (k := 's') (by decide) (by decide) (by decide) hword hs
  have hspaced : takeOut readColor (spaced (List.map id _)) =
      (spaced (List.map id _), List.flatMap (fun _ => []) _) :=
    readColor_skipsSpace.takeOut_spaced_map hquiet fun w _ => readColor_local w
  rw [← htext, readColor_skipsSpace.takeOut_cons, List.flatMap_eq_nil_iff.mpr fun _ _ => rfl]
    at hspaced
  obtain ⟨hleft, hfound⟩ := Prod.mk.inj hspaced
  exact Prod.ext (List.cons.inj hleft).2 hfound

theorem Valid.readFont_text {before : Option Char} (hbefore : before.any isWord = false)
    (rest : Text) : readFont before (s.text ++ rest) = some ⟨trim s.name, 1 + s.name.length, 3⟩ := by
  have hkey : ∀ c ∈ "is".toList, foldsToAlphanumeric c = true := List.all_eq_true.mp (by decide)
  have hread := readFont_handed_back hbefore (k := 'f') (by decide)
    (head?_any_foldsToAlphanumeric h.head) (isFontChar_of_plain h.chars) hkey (s.word ++ rest)
  have htext : s.text ++ rest =
      'f' :: ':' :: (s.name ++ (' ' :: "is".toList ++ ':' :: (s.word ++ rest))) := by
    simp [text]
  rw [htext, hread]
  rfl

/-- Behind its first letter nothing in a segment is a font. -/
theorem Valid.readFont_tail {before : Option Char} {t : Text}
    (ht : t <:+ ':' :: (s.name ++ " is:".toList ++ s.word)) : readFont before t = none := by
  rcases List.suffix_cons_iff.mp ht with rfl | ht
  · exact readFont_colon _ _
  · have htail : s.name ++ " is:".toList ++ s.word =
        s.name ++ " i".toList ++ 's' :: ':' :: s.word := by
      simp
    rw [htail] at ht
    refine eq_none_of_key readFont exists_key_of_readFont _ (by decide) (by decide) ?_
      (takeOut_flagWords _ h.word).2.2 ht
    have hname := not_mem_of_plain h.chars (c := ':') (by decide) (by decide)
    simp [hname]

theorem Valid.readFont_local : LocalAt readFont s.text := by
  intro before t v hne ht
  rcases List.suffix_cons_iff.mp ht with rfl | ht
  · cases hbefore : before.any isWord with
    | true => rw [readFont_of_word hbefore, readFont_of_word hbefore]
    | false =>
      have hwhole := h.readFont_text hbefore []
      rw [List.append_nil] at hwhole
      exact (h.readFont_text hbefore (' ' :: v)).trans hwhole.symm
  · have htail : LocalAt readFont (':' :: (s.name ++ " is:".toList ++ s.word)) :=
      Notebook.readFont_local fun _ hs => h.readFont_tail hs
    exact htail hne ht

/-- The font is taken out of a segment, and the flag behind it stays. -/
theorem Valid.takeOut_readFont : takeOut readFont s.text = (s.flagText, [trim s.name]) := by
  have hread : readFont none (s.text ++ []) = _ := h.readFont_text rfl []
  rw [List.append_nil] at hread
  have htext : s.text = 'f' :: (':' :: s.name ++ (" is".toList ++ ':' :: s.word)) := by simp [text]
  have hword : ¬Occurs readFont (lastOf (lastOf (some 'f') (':' :: s.name)) " is".toList)
      (':' :: s.word) := by
    refine not_occurs_of_suffixes fun hs => h.readFont_tail (hs.trans ?_)
    exact List.suffix_cons_iff.mpr (Or.inr ⟨s.name ++ " is".toList, by simp⟩)
  -- The name is taken out, the key behind it is handed back, and no font starts in the flag.
  have hscan : scan readFont s.text =
      .found (trim s.name) :: (" is".toList ++ ':' :: s.word).map .char := by
    rw [htext] at hread ⊢
    rw [scan, scanFrom_found hread (by simp [Nat.add_comm])]
    show _ :: scanFrom readFont 0 " is".toList.length _ (" is".toList ++ _) = _
    rw [scanFrom_kept, scanFrom_of_not_occurs hword, List.map_append]
  unfold takeOut
  rw [hscan]
  show (' ' :: substitute [' '] _, trim s.name :: found _) = _
  rw [substitute_map_char, found_map_char]
  simp [flagText]

/-- The flag is taken out of what is left of a segment, and only spaces stay. -/
theorem Valid.takeOut_readFlag : takeOut readFlag s.flagText = ("   ".toList, [some s.flag]) := by
  have htext : s.flagText = ' ' :: ' ' :: ("is:".toList ++ s.word) := rfl
  rw [htext, readFlag_skipsSpace.takeOut_cons, readFlag_skipsSpace.takeOut_cons,
    (takeOut_flagWords _ h.word).1]
  rfl

end

end FontSegment

/-- Segments in a row, with a space between any two. -/
def fontRow (segments : List FontSegment) : Text :=
  [' '].intercalate (segments.map FontSegment.text)

/-- **A font never swallows the flag behind it.** -/
theorem extract_fontRow {first : FontSegment} {rest : List FontSegment}
    (h : ∀ s ∈ first :: rest, s.Valid) :
    (Attributes.extract (fontRow (first :: rest))).2 =
      { tags := if Flag.hidden ∈ (first :: rest).map (·.flag) then TagSet.insert ∅ hiddenTag else ∅
        color := none
        fontFamily := some (trim first.name)
        isPinned := Flag.pinned ∈ (first :: rest).map (·.flag)
        isFavorite := Flag.favorite ∈ (first :: rest).map (·.flag)
        isPrivate := Flag.confidential ∈ (first :: rest).map (·.flag)
        isHidden := Flag.hidden ∈ (first :: rest).map (·.flag) } ∧
    ∀ c ∈ (Attributes.extract (fontRow (first :: rest))).1, isBlank c = true := by
  have hrow : ' ' :: fontRow (first :: rest) = spaced ((first :: rest).map FontSegment.text) :=
    spaced_eq_intercalate _ _
  -- Each segment goes through every pass on its own; the space in front makes the first one alike.
  have hspaced := extract_spaced (fun s hs => (h s hs).takeOut_readTag)
    (fun s hs => (h s hs).takeOut_readColor) (fun s hs => (h s hs).takeOut_readFont)
    (fun s hs => (h s hs).readFont_local) (fun s hs => (h s hs).takeOut_readFlag)
  rw [← hrow, extract_cons_space] at hspaced
  obtain ⟨hleft, hset⟩ := Prod.mk.inj hspaced
  have hflags : ((first :: rest).flatMap fun s => [some s.flag]).filterMap id =
      (first :: rest).map (·.flag) := by
    rw [← List.map_eq_flatMap, List.filterMap_map]
    exact congrFun List.filterMap_eq_map _
  constructor
  · rw [hset, hflags, List.flatMap_eq_nil_iff.mpr fun _ _ => rfl,
      List.flatMap_eq_nil_iff.mpr fun _ _ => rfl]
    rfl
  · intro c hc
    have hmem : c ∈ spaced ((first :: rest).map fun _ => "   ".toList) :=
      hleft ▸ List.mem_cons_of_mem _ hc
    obtain ⟨w, hw, hcw⟩ := List.mem_flatMap.mp hmem
    obtain ⟨s, -, rfl⟩ := List.mem_map.mp hw
    have hblank : (' ' :: "   ".toList).all isBlank = true := by decide
    exact List.all_eq_true.mp hblank c hcw

/-- A name with a space at its end, and one that is made of keys without their colons. -/
theorem extract_fontRow_keys :
    let first : FontSegment := ⟨"Open Sans ".toList, "pin".toList, .pinned⟩
    let second : FontSegment := ⟨"is f".toList, "hide".toList, .hidden⟩
    (∀ s ∈ [first, second], s.Valid) ∧
      fontRow [first, second] = "f:Open Sans  is:pin f:is f is:hide".toList ∧
      (Attributes.extract "f:Open Sans  is:pin f:is f is:hide".toList).2 =
        { tags := TagSet.ofList [hiddenTag]
          fontFamily := some "Open Sans".toList
          isPinned := true
          isHidden := true } := by
  intro first second
  have hvalid : ∀ s ∈ [first, second], s.Valid := by
    have hchars : ∀ name ∈ [first.name, second.name],
        name.all (fun c => c.isAlphanum || c = ' ') = true := by decide
    simp only [List.forall_mem_cons, List.all_eq_true, Bool.or_eq_true, decide_eq_true_eq] at hchars
    simp only [List.forall_mem_cons]
    exact ⟨⟨rfl, hchars.1, by decide⟩, ⟨rfl, hchars.2.1, by decide⟩, List.forall_mem_nil _⟩
  exact ⟨hvalid, by decide, (extract_fontRow hvalid).1⟩

end Notebook
