import Notebook.Proofs.Draft.Command
import Notebook.Proofs.Draft.Residue

/-!
# Where the name of a font stands in the body

The fonts of a body are looked for in the text that the passes for tags and colors leave, with a
space for each of those flags. A space may stand in a font name, so the name that is set is not
always written in the body: it is a stretch of the body in which the tags and colors are blanked.

- `Blanked` — a text in which words of some language have been replaced by spaces;
- `blanked_withoutColors` — the text in which the fonts are looked for is the body with its tags and
  colors blanked;
- `FontStretch` — the place in the body from which the name of the first font comes;
- `Attributes.extract_fontFamily_stretch` — every font that is set comes from such a place, and is
  written behind its key there exactly if no tag and no color stands in between.
-/

namespace Notebook

open Text

/-! ### Blanking -/

/-- A text and what it becomes when some words in it are each replaced by a space. -/
inductive Blanked (word : Text → Prop) : Text → Text → Prop
  | nil : Blanked word [] []
  | char {c : Char} {s t : Text} : Blanked word s t → Blanked word (c :: s) (c :: t)
  | word {w s t : Text} : word w → Blanked word s t → Blanked word (w ++ s) (' ' :: t)

namespace Blanked

variable {word : Text → Prop} {s t : Text}

/-- Taking out occurrences that are words blanks these, if nothing is kept unread. -/
theorem replaceFrom {α : Type} {read : Reader α} (hfit : Fits read)
    (hkept : ∀ {before t f}, read before t = some f → f.kept = 0)
    (hword : ∀ {before c removed rest f}, read before (c :: (removed ++ rest)) = some f →
      removed.length = f.removedAfterFirst → word (c :: removed))
    (before : Option Char) (t : Text) : Blanked word t (replaceFrom [' '] read 0 before t) := by
  -- The induction is on the scan, which goes through texts with something kept unread.
  suffices hall : ∀ kept before t, kept = 0 →
      Blanked word t (Text.replaceFrom [' '] read kept before t) from hall 0 before t rfl
  intro kept before t
  induction kept, before, t using scan_induction hfit with
  | nil kept before =>
    intro _
    rw [replaceFrom_nil]
    exact .nil
  | keep kept before c rest ih => exact nofun
  | char before c rest hnone ih =>
    intro _
    rw [replaceFrom_char hnone]
    exact .char (ih rfl)
  | found before c removed rest f hread hlength ih =>
    intro _
    rw [replaceFrom_found hread hlength]
    exact .word (hword hread hlength) (ih (hkept hread))

theorem mono {word' : Text → Prop} (hword : ∀ w, word w → word' w) (h : Blanked word s t) :
    Blanked word' s t := by
  induction h with
  | nil => exact .nil
  | char _ ih => exact .char ih
  | word hw _ ih => exact .word (hword _ hw) ih

/-- A text falls apart where what it becomes does. -/
theorem exists_of_append {t₁ t₂ : Text} (h : Blanked word s (t₁ ++ t₂)) :
    ∃ s₁ s₂, s = s₁ ++ s₂ ∧ Blanked word s₁ t₁ ∧ Blanked word s₂ t₂ := by
  -- The whole of what it becomes is an index of the relation, so it has to be a variable.
  generalize ht : t₁ ++ t₂ = t at h
  induction h generalizing t₁ with
  | nil =>
    obtain ⟨rfl, rfl⟩ := List.append_eq_nil_iff.mp ht
    exact ⟨[], [], rfl, .nil, .nil⟩
  | @char c s t h ih =>
    cases t₁ with
    | nil =>
      obtain rfl : t₂ = c :: t := ht
      exact ⟨[], c :: s, rfl, .nil, .char h⟩
    | cons d t₁ =>
      obtain ⟨rfl, htail⟩ := List.cons.inj ht
      obtain ⟨s₁, s₂, rfl, h₁, h₂⟩ := ih htail
      exact ⟨d :: s₁, s₂, rfl, .char h₁, h₂⟩
  | @word w s t hw h ih =>
    cases t₁ with
    | nil =>
      obtain rfl : t₂ = ' ' :: t := ht
      exact ⟨[], w ++ s, rfl, .nil, .word hw h⟩
    | cons d t₁ =>
      obtain ⟨rfl, htail⟩ := List.cons.inj ht
      obtain ⟨s₁, s₂, rfl, h₁, h₂⟩ := ih htail
      exact ⟨w ++ s₁, s₂, (List.append_assoc ..).symm, .word hw h₁, h₂⟩

/-- A character that is no space was there before. -/
theorem exists_of_cons {c : Char} (hc : c ≠ ' ') (h : Blanked word s (c :: t)) :
    ∃ s', s = c :: s' ∧ Blanked word s' t := by
  cases h with
  | char h => exact ⟨_, rfl, h⟩
  | word => exact absurd rfl hc

theorem exists_of_append_solid {u : Text} (hu : ' ' ∉ u) (h : Blanked word s (u ++ t)) :
    ∃ s', s = u ++ s' ∧ Blanked word s' t := by
  induction u generalizing s with
  | nil => exact ⟨s, rfl, h⟩
  | cons c u ih =>
    have hc : c ≠ ' ' := fun heq => hu (heq ▸ List.mem_cons_self)
    obtain ⟨s', rfl, h'⟩ := h.exists_of_cons hc
    obtain ⟨s'', rfl, h''⟩ := ih (fun hmem => hu (List.mem_cons_of_mem _ hmem)) h'
    exact ⟨s'', rfl, h''⟩

/-- Words without a space that are blanked after others were in the text before. -/
theorem trans {first second : Text → Prop} {u : Text} (hsecond : ∀ w, second w → ' ' ∉ w)
    (h : Blanked first s t) (h' : Blanked second t u) :
    Blanked (fun w => first w ∨ second w) s u := by
  induction h' generalizing s with
  | nil => exact h.mono fun w hw => Or.inl hw
  | @char c t u _ ih =>
    cases h with
    | char h => exact .char (ih h)
    | word hw h => exact .word (Or.inl hw) (ih h)
  | word hw _ ih =>
    obtain ⟨s', rfl, hrest⟩ := h.exists_of_append_solid (hsecond _ hw)
    exact .word (Or.inr hw) (ih hrest)

/-- A text stays as it is if it has none of the characters that every word has one of. -/
theorem eq_of_forall {q : Char → Prop} (hword : ∀ w, word w → ∃ c ∈ w, q c)
    (h : Blanked word s t) (hs : ∀ c ∈ s, ¬q c) : s = t := by
  induction h with
  | nil => rfl
  | char _ ih => exact congrArg _ (ih fun c hc => hs c (List.mem_cons_of_mem _ hc))
  | word hw _ _ =>
    obtain ⟨c, hc, hq⟩ := hword _ hw
    exact absurd hq (hs c (List.mem_append_left _ hc))

/-- What a text becomes only begins the text, and more behind it, if the text stays as it is: a word
does not begin with a space. -/
theorem eq_of_prefix {more : Text} (hword : ∀ w, word w → ∃ c u, w = c :: u ∧ c ≠ ' ')
    (h : Blanked word s t) (hbegins : t <+: s ++ more) : s = t := by
  induction h with
  | nil => rfl
  | char _ ih => exact congrArg _ (ih (List.cons_prefix_cons.mp hbegins).2)
  | word hw _ _ =>
    obtain ⟨c, u, rfl, hc⟩ := hword _ hw
    exact absurd (List.cons_prefix_cons.mp hbegins).1.symm hc

end Blanked

/-! ### Tags and colors -/

/-- A tag or a color as it is written. -/
def EarlyFlag (w : Text) : Prop :=
  (∃ name, w = WrittenNote.tagFlag name ∧ WrittenNote.IsTag name) ∨ ColorWord w

theorem EarlyFlag.head {w : Text} (h : EarlyFlag w) : ∃ c u, w = c :: u ∧ c ≠ ' ' := by
  rcases h with ⟨name, rfl, -⟩ | ⟨k, word, rfl, hk, -⟩
  · exact ⟨'#', '#' :: name, rfl, by decide⟩
  · refine ⟨k, ':' :: word, rfl, ?_⟩
    rintro rfl
    exact absurd hk (by decide)

theorem EarlyFlag.mark {w : Text} (h : EarlyFlag w) : ∃ c ∈ w, c = '#' ∨ c = ':' := by
  rcases h with ⟨name, rfl, -⟩ | ⟨k, word, rfl, -⟩
  · exact ⟨'#', List.mem_cons_self, Or.inl rfl⟩
  · exact ⟨':', List.mem_cons_of_mem _ List.mem_cons_self, Or.inr rfl⟩

/-- The text in which the fonts are looked for is the body with its tags and colors blanked. -/
theorem blanked_withoutColors (body : Text) : Blanked EarlyFlag body (withoutColors body) := by
  have htags : Blanked (fun w => ∃ name, w = WrittenNote.tagFlag name ∧ WrittenNote.IsTag name) body
      (takeOut readTag body).1 := by
    refine .replaceFrom readTag_detached.fits readTag_kept ?_ none body
    intro before c removed rest f hread hlength
    obtain ⟨d, more, later, ht, hd, hmore, -, rfl⟩ := readTag_eq_some_iff.mp hread
    have hsplit : (c :: removed) ++ rest = ('#' :: '#' :: d :: more) ++ later := ht
    have hlength' : (c :: removed).length = ('#' :: '#' :: d :: more).length := by
      simp only [List.length_cons, hlength]
      omega
    exact ⟨d :: more, List.append_inj_left hsplit hlength', d, more, rfl, hd, hmore⟩
  have hcolors : Blanked ColorWord (takeOut readTag body).1 (withoutColors body) := by
    refine .replaceFrom readColor_detached.fits readColor_kept ?_ none _
    intro before c removed rest f hread hlength
    obtain ⟨-, k, w, later, ht, hk, hne, hw, -, rfl⟩ := readColor_eq_some_iff.mp hread
    have hsplit : (c :: removed) ++ rest = (k :: ':' :: w) ++ later := ht
    refine ⟨k, w, List.append_inj_left hsplit ?_, hk, hne, hw⟩
    simp only [List.length_cons, hlength]
    omega
  -- A color word has no blank, so none of its characters stands where a tag was blanked.
  refine htags.trans (fun w hw hspace => ?_) hcolors
  have hsolid := readColor_spelled.solid hw ' ' hspace
  rw [isGap_space] at hsolid
  cases hsolid

/-! ### The first font -/

/-- The run behind the key of a font does not begin with white space. -/
theorem not_isBlank_of_head_run {run : Text} (hhead : run.head?.any foldsToAlphanumeric = true) :
    ∀ c ∈ run.head?, isBlank c = false := by
  intro c hc
  rw [hc] at hhead
  exact not_isBlank_of_isWord (isWord_of_foldsToAlphanumeric hhead)

/-- The name of a font is what follows its key, up to white space at its end. -/
theorem FontFound.exists_name {t : Text} {f : Found Text} (h : FontFound t f) : ∃ k behind,
    t = k :: ':' :: (f.value ++ behind) ∧ foldCase k = 'f' ∧
      ∀ c ∈ f.value, isFontChar c = true := by
  cases h with
  | @whole k run rest hk hrun _ =>
    obtain ⟨back, hsplit, -⟩ := exists_trim_append (not_isBlank_of_head_run hrun.head)
    refine ⟨k, back ++ rest, ?_, hk, fun c hc => hrun.chars c (mem_of_mem_trim hc)⟩
    rw [← List.append_assoc, ← hsplit]
  | @handedBack k name word rest hk hname hchars _ =>
    obtain ⟨back, hsplit, -⟩ := exists_trim_append (not_isBlank_of_head_run hname)
    refine ⟨k, back ++ (' ' :: word ++ ':' :: rest), ?_, hk,
      fun c hc => hchars c (mem_of_mem_trim hc)⟩
    show k :: ':' :: (name ++ (' ' :: word ++ ':' :: rest)) = _
    rw [← List.append_assoc (trim name), ← hsplit]

/-- The place in a body from which the name of its first font comes: behind the key stands a stretch
of text that becomes the name when the tags and colors in it are blanked. -/
structure FontStretch (body name front : Text) (key : Char) (stretch behind : Text) : Prop where
  split : body = front ++ key :: ':' :: (stretch ++ behind)
  letter : key = 'f' ∨ key = 'F'
  blanked : Blanked EarlyFlag stretch name
  first : ∃ front' behind', withoutColors body = front' ++ key :: ':' :: (name ++ behind') ∧
    Blanked EarlyFlag front front' ∧ Blanked EarlyFlag behind behind' ∧
    (∃ f, readFont (lastOf none front') (key :: ':' :: (name ++ behind')) = some f ∧
      f.value = name) ∧
    ∀ u v, front' = u ++ v → v ≠ [] →
      readFont (lastOf none u) (v ++ key :: ':' :: (name ++ behind')) = none
  chars : ∀ c ∈ name, isFontChar c = true

theorem exists_fontStretch {body name : Text}
    (h : (Attributes.extract body).2.fontFamily = some name) :
    ∃ front key stretch behind, FontStretch body name front key stretch behind := by
  rw [extract_fontFamily] at h
  obtain ⟨front', v, hsplit, ⟨f, hread, rfl⟩, hnone⟩ :=
    exists_of_head?_found (t := withoutColors body) h
  obtain ⟨-, hfound⟩ := readFont_eq_some_iff.mp hread
  obtain ⟨key, behind', rfl, hkey, hchars⟩ := hfound.exists_name
  have hkey' : key = 'f' ∨ key = 'F' :=
    eq_or_eq_of_foldCase_eq hkey (by decide) (by decide) (by decide)
  have hspace : key ≠ ' ' := by
    rintro rfl
    exact absurd hkey (by decide)
  -- The body falls apart as the text does in which the font is found.
  have hblanked := blanked_withoutColors body
  rw [hsplit] at hblanked
  obtain ⟨front, fromKey, rfl, hfront, hfromKey⟩ := hblanked.exists_of_append
  obtain ⟨fromColon, rfl, hfromColon⟩ := hfromKey.exists_of_cons hspace
  obtain ⟨rest, rfl, hrest⟩ := hfromColon.exists_of_cons (by decide)
  obtain ⟨stretch, behind, rfl, hstretch, hbehind⟩ := hrest.exists_of_append
  exact ⟨front, key, stretch, behind, rfl, hkey', hstretch,
    ⟨front', behind', hsplit, hfront, hbehind, ⟨f, hread, rfl⟩, hnone⟩, hchars⟩

namespace FontStretch

variable {body name front : Text} {key : Char} {stretch behind : Text}
  (h : FontStretch body name front key stretch behind)

include h

/-- The stretch is the name exactly if no tag and no color is in it. -/
theorem stretch_eq_iff : stretch = name ↔ '#' ∉ stretch ∧ ':' ∉ stretch := by
  constructor
  · rintro rfl
    exact ⟨fun hmem => absurd (h.chars _ hmem) (by decide),
      fun hmem => absurd (h.chars _ hmem) (by decide)⟩
  · rintro ⟨hhash, hcolon⟩
    refine h.blanked.eq_of_forall (fun w hw => hw.mark) ?_
    rintro c hc (rfl | rfl)
    · exact hhash hc
    · exact hcolon hc

/-- The name is written behind its key exactly if the stretch is the name. -/
theorem name_prefix_iff : name <+: stretch ++ behind ↔ stretch = name := by
  constructor
  · exact h.blanked.eq_of_prefix fun w hw => hw.head
  · rintro rfl
    exact List.prefix_append _ _

/-- The name with a key stands somewhere in the body exactly if no tag and no color is in its
stretch, or it is written at another place as well. -/
theorem exists_infix_iff : (∃ k, (k = 'f' ∨ k = 'F') ∧ k :: ':' :: name <:+: body) ↔
    ('#' ∉ stretch ∧ ':' ∉ stretch) ∨ ∃ front' k behind', (k = 'f' ∨ k = 'F') ∧
      body = front' ++ k :: ':' :: (name ++ behind') ∧ front'.length ≠ front.length := by
  rw [← h.stretch_eq_iff]
  constructor
  · rintro ⟨k, hk, front', behind', hbody⟩
    rw [List.append_assoc, List.cons_append, List.cons_append] at hbody
    by_cases hlength : front'.length = front.length
    · -- At the place itself the name is what the stretch begins with.
      have hsame := List.append_inj_right (hbody.trans h.split) hlength
      simp only [List.cons.injEq, true_and] at hsame
      exact Or.inl (h.name_prefix_iff.mp ⟨behind', hsame.2⟩)
    · exact Or.inr ⟨front', k, behind', hk, hbody.symm, hlength⟩
  · rintro (hstretch | ⟨front', k, behind', hk, hbody, -⟩)
    · refine ⟨key, h.letter, front, behind, ?_⟩
      rw [h.split, hstretch]
      simp
    · refine ⟨k, hk, front', behind', ?_⟩
      rw [hbody]
      simp

end FontStretch

/-! ### What the passes write -/

/-- No pass finds more places where flags of its kind start than the body has, so none is glued
together from the text around a flag that was taken out. -/
structure Unglued (body : Text) : Prop where
  colors : occurrences readColor none (takeOut readTag body).1 ≤ occurrences readColor none body
  fonts : occurrences readFont none (withoutColors body) ≤ occurrences readFont none body
  flags : occurrences readFlag none (withoutFonts body) ≤ occurrences readFlag none body

theorem unglued (body : Text) : Unglued body where
  colors := occurrences_replaceFrom_le readColor_spelled readTag_detached 0 none body
  fonts := (occurrences_replaceFrom_le readFont_spelled readColor_detached 0 none _).trans
    (occurrences_replaceFrom_le readFont_spelled readTag_detached 0 none body)
  flags := ((occurrences_replaceFrom_le readFlag_spelled readFont_detached 0 none _).trans
    (occurrences_replaceFrom_le readFlag_spelled readColor_detached 0 none _)).trans
    (occurrences_replaceFrom_le readFlag_spelled readTag_detached 0 none body)

/-- **A font name is contiguous text of the body exactly where no tag and no color stands in it.**
The name that is set comes from a stretch of the body behind the key of its first font, with the tags
and colors in the stretch blanked. It is text of the body if there are none, and else only if it
happens to be written at another place. -/
theorem Attributes.extract_fontFamily_stretch {body name : Text}
    (h : (Attributes.extract body).2.fontFamily = some name) :
    Unglued body ∧ ∃ front key stretch behind, FontStretch body name front key stretch behind ∧
      (stretch = name ↔ '#' ∉ stretch ∧ ':' ∉ stretch) ∧
      ((∃ k, (k = 'f' ∨ k = 'F') ∧ k :: ':' :: name <:+: body) ↔
        ('#' ∉ stretch ∧ ':' ∉ stretch) ∨ ∃ front' k behind', (k = 'f' ∨ k = 'F') ∧
          body = front' ++ k :: ':' :: (name ++ behind') ∧ front'.length ≠ front.length) := by
  obtain ⟨front, key, stretch, behind, hfont⟩ := exists_fontStretch h
  exact ⟨unglued body, front, key, stretch, behind, hfont, hfont.stretch_eq_iff,
    hfont.exists_infix_iff⟩

/-- Where the name with a key is nowhere in the body, its stretch has a tag or a color in it. -/
theorem Attributes.extract_fontFamily_stretch_color :
    (Attributes.extract "f:A c:b B".toList).2.fontFamily = some "A   B".toList ∧
    ∃ front key stretch behind,
      FontStretch "f:A c:b B".toList "A   B".toList front key stretch behind ∧
      ('#' ∈ stretch ∨ ':' ∈ stretch) := by
  have hname : (Attributes.extract "f:A c:b B".toList).2.fontFamily = some "A   B".toList := by
    decide
  obtain ⟨-, front, key, stretch, behind, hfont, -, hwritten⟩ :=
    Attributes.extract_fontFamily_stretch hname
  refine ⟨hname, front, key, stretch, behind, hfont, ?_⟩
  by_contra hmark
  rw [not_or] at hmark
  obtain ⟨k, rfl | rfl, hinfix⟩ := hwritten.mpr (Or.inl hmark)
  · exact absurd hinfix (by decide)
  · exact absurd hinfix (by decide)

/-- The words on both sides of a tag become one name, which is nowhere in the body. -/
theorem Attributes.tag_in_font :
    (Attributes.extract "f:Arial ##x Bold".toList).2.fontFamily =
      some "Arial   Bold".toList ∧
    ¬"f:Arial   Bold".toList <:+: "f:Arial ##x Bold".toList ∧
    ¬"F:Arial   Bold".toList <:+: "f:Arial ##x Bold".toList := by
  decide

end Notebook
