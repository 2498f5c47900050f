import Notebook.Proofs.Draft.Command
import Notebook.Proofs.Draft.Residue
import Notebook.Proofs.Draft.Squeezed

/-!
# A body token by token

The flags of a body are taken out kind by kind, from the whole text each time. When the body is a
row of tokens, flags other than fonts and plain words, this comes to the same as reading the tokens
one by one:

- `Token` — a tag, a color, a flag proper or a plain word, and `joined`, a row of them;
- `Attributes.read` — what one token adds to what is set;
- `TellsTokens` — what is set by a row, whatever the order and the number of its flags;
- `extract_joined` — taking the flags out reads the tokens.
-/

namespace Notebook

open Text

/-- A part of a body between two spaces. -/
inductive Token where
  | tag (name : Text)
  | color (key : Char) (word : Text)
  | flag (key word : Text) (meaning : Flag)
  | plain (word : Text)
deriving Repr, DecidableEq

namespace Token

/-- A token as it is written. -/
def text : Token → Text
  | tag name => WrittenNote.tagFlag name
  | color key word => key :: ':' :: word
  | flag key word _ => key ++ ':' :: word
  | plain word => word

/-- What a token has to be. Keys, and the words of flags proper, are in any case of their letters; a
plain word has nothing in it that is part of a flag. -/
def Valid : Token → Prop
  | tag name => WrittenNote.IsTag name
  | color key word => key.toLower = 'c' ∧ word ≠ [] ∧ ∀ c ∈ word, c.isAlphanum = true
  | flag key word meaning => key.map Char.toLower = ['i', 's'] ∧
      (word.map Char.toLower, meaning) ∈ flagWords
  | plain word => word ≠ [] ∧ (∀ c ∈ word, isBlank c = false) ∧ ':' ∉ word ∧ '#' ∉ word

-- What is said of all characters of a word is decided on the word, not on all characters there are.
instance (x : Token) : Decidable x.Valid :=
  match x with
  | tag name => inferInstanceAs (Decidable (WrittenNote.IsTag name))
  | color _ word =>
    have : Decidable (∀ c ∈ word, c.isAlphanum = true) := List.decidableBAll _ word
    inferInstanceAs (Decidable (_ ∧ _))
  | flag _ _ _ => inferInstanceAs (Decidable (_ ∧ _))
  | plain word =>
    have : Decidable (∀ c ∈ word, isBlank c = false) := List.decidableBAll _ word
    inferInstanceAs (Decidable (_ ∧ _))

/-- The name of a tag. -/
def tag? : Token → Option Text
  | tag name => some name
  | _ => none

/-- The color that a token names. -/
def color? : Token → Option Color
  | color _ word => Color.ofName? word
  | _ => none

/-- What a flag proper means. -/
def flag? : Token → Option Flag
  | flag _ _ meaning => some meaning
  | _ => none

/-- The word that a token is, if it is no flag. -/
def plain? : Token → Option Text
  | plain word => some word
  | _ => none

end Token

/-- Tokens in a row, with a space between any two. -/
def joined (tokens : List Token) : Text := [' '].intercalate (tokens.map Token.text)

/-! ### Reading tokens one by one -/

namespace Attributes

/-- Sets a flag. -/
def set (a : Attributes) : Flag → Attributes
  | .favorite => { a with isFavorite := true }
  | .pinned => { a with isPinned := true }
  | .confidential => { a with isPrivate := true }
  | .hidden => { a with isHidden := true, tags := a.tags.insert hiddenTag }

/-- What is set when one more token has been read. -/
def read (a : Attributes) : Token → Attributes
  | .tag name => { a with tags := a.tags.insert name }
  | .color _ word => { a with color := a.color <|> Color.ofName? word }
  | .flag _ _ meaning => a.set meaning
  | .plain _ => a

theorem mem_tags_read {a : Attributes} {x : Token} {name : Text} : name ∈ (a.read x).tags ↔
    name ∈ a.tags ∨ x.tag? = some name ∨ name = hiddenTag ∧ x.flag? = some .hidden := by
  cases x with
  | tag n => simp [read, Token.tag?, Token.flag?, eq_comm, or_comm]
  | flag k w meaning => cases meaning <;> simp [read, set, Token.tag?, Token.flag?, or_comm]
  | _ => simp [read, Token.tag?, Token.flag?]

theorem color_read (a : Attributes) (x : Token) : (a.read x).color = (a.color <|> x.color?) := by
  cases x with
  | flag k w meaning => cases meaning <;> simp [read, set, Token.color?]
  | _ => simp [read, Token.color?]

theorem sets_read {a : Attributes} {x : Token} {flag : Flag} :
    (a.read x).sets flag = true ↔ a.sets flag = true ∨ x.flag? = some flag := by
  cases x with
  | flag k w meaning =>
    cases meaning <;> cases flag <;> simp [read, set, sets, Token.flag?]
  | _ => cases flag <;> simp [read, sets, Token.flag?]

theorem fontFamily_read (a : Attributes) (x : Token) : (a.read x).fontFamily = a.fontFamily := by
  cases x with
  | flag k w meaning => cases meaning <;> rfl
  | _ => rfl

end Attributes

/-- What is set by tokens, whatever their order and their number, but for the color, which is the
first that is named. -/
structure TellsTokens (tokens : List Token) (a : Attributes) : Prop where
  tags : ∀ name, name ∈ a.tags ↔ name ∈ tokens.filterMap Token.tag? ∨
    name = hiddenTag ∧ Flag.hidden ∈ tokens.filterMap Token.flag?
  color : a.color = tokens.findSome? Token.color?
  flags : ∀ flag, a.sets flag = true ↔ flag ∈ tokens.filterMap Token.flag?
  fontFamily : a.fontFamily = none

/-- Tokens that are read one by one set that. -/
theorem tellsTokens_foldl (tokens : List Token) :
    TellsTokens tokens (tokens.foldl Attributes.read {}) := by
  -- The invariant of the reading says what the tokens add to what was set before.
  suffices hall : ∀ a : Attributes,
      (∀ name, name ∈ (tokens.foldl Attributes.read a).tags ↔ name ∈ a.tags ∨
        name ∈ tokens.filterMap Token.tag? ∨
          name = hiddenTag ∧ Flag.hidden ∈ tokens.filterMap Token.flag?) ∧
      (tokens.foldl Attributes.read a).color = (a.color <|> tokens.findSome? Token.color?) ∧
      (∀ flag, (tokens.foldl Attributes.read a).sets flag = true ↔
        a.sets flag = true ∨ flag ∈ tokens.filterMap Token.flag?) ∧
      (tokens.foldl Attributes.read a).fontFamily = a.fontFamily by
    obtain ⟨htags, hcolor, hflags, hfont⟩ := hall {}
    have hunset : ∀ flag, Attributes.sets {} flag = false := by
      rintro (_ | _ | _ | _) <;> rfl
    refine ⟨fun name => (htags name).trans (or_iff_right TagSet.not_mem_empty), hcolor,
      fun flag => (hflags flag).trans (or_iff_right ?_), hfont⟩
    rw [hunset flag]
    exact Bool.false_ne_true
  induction tokens with
  | nil => simp
  | cons x tokens ih =>
    intro a
    obtain ⟨htags, hcolor, hflags, hfont⟩ := ih (a.read x)
    refine ⟨fun name => ?_, ?_, fun flag => ?_, ?_⟩
    · rw [List.foldl_cons, htags, Attributes.mem_tags_read]
      simp only [List.mem_filterMap, List.mem_cons, exists_eq_or_imp, and_or_left]
      rw [or_assoc, or_or_or_comm]
    · rw [List.foldl_cons, hcolor, Attributes.color_read, List.findSome?_cons]
      cases a.color <;> cases x.color? <;> rfl
    · rw [List.foldl_cons, hflags, Attributes.sets_read]
      simp only [List.mem_filterMap, List.mem_cons, exists_eq_or_imp, or_assoc]
    · rw [List.foldl_cons, hfont, Attributes.fontFamily_read]

/-- The tokens determine what is set. -/
theorem TellsTokens.eq {tokens : List Token} {a b : Attributes} (ha : TellsTokens tokens a)
    (hb : TellsTokens tokens b) : a = b := by
  have htags : a.tags = b.tags := TagSet.ext_mem fun name =>
    (ha.tags name).trans (hb.tags name).symm
  have hflags : ∀ flag, a.sets flag = b.sets flag := fun flag =>
    Bool.eq_iff_iff.mpr ((ha.flags flag).trans (hb.flags flag).symm)
  cases a
  cases b
  simp only [Attributes.mk.injEq]
  exact ⟨htags, ha.color.trans hb.color.symm, ha.fontFamily.trans hb.fontFamily.symm,
    hflags .pinned, hflags .favorite, hflags .confidential, hflags .hidden⟩

/-- Which tokens there are determines what is set, but for the color. -/
theorem TellsTokens.of_mem_iff {tokens others : List Token} {a : Attributes}
    (ha : TellsTokens others a) (h : ∀ x, x ∈ others ↔ x ∈ tokens) :
    TellsTokens tokens { a with color := tokens.findSome? Token.color? } where
  tags name := by simpa only [List.mem_filterMap, h] using ha.tags name
  color := rfl
  flags flag := by
    have hsets : Attributes.sets { a with color := tokens.findSome? Token.color? } flag =
        a.sets flag := by cases flag <;> rfl
    simpa only [hsets, List.mem_filterMap, h] using ha.flags flag
  fontFamily := ha.fontFamily

/-! ### Taking flags out of a token -/

namespace Token

/-- What the pass for tags leaves of a token. -/
def withoutTag : Token → Text
  | tag _ => [' ']
  | x => x.text

/-- What the passes for tags and colors leave of a token. -/
def withoutColor : Token → Text
  | color _ _ => [' ']
  | x => x.withoutTag

/-- What all passes leave of a token. -/
def left : Token → Text
  | plain word => word
  | _ => [' ']

/-- The values of the colors in a token. -/
def colors : Token → List (Option Color)
  | color _ word => [Color.ofName? word]
  | _ => []

theorem not_mem_of_folds {word : Text} (h : ∀ c ∈ word, foldsToAlphanumeric c = true) {c : Char}
    (hc : foldsToAlphanumeric c = false) : c ∉ word := by
  intro hmem
  rw [h c hmem] at hc
  cases hc

/-- A color as it is read. -/
theorem Valid.reads_color {key : Char} {word : Text} (h : (color key word).Valid) :
    foldCase key = 'c' ∧ word ≠ [] ∧ ∀ c ∈ word, foldsToAlphanumeric c = true := by
  obtain ⟨hkey, hne, hword⟩ := h
  refine ⟨?_, hne, fun c hc => foldsToAlphanumeric_of_isAlphanum (hword c hc)⟩
  rw [foldCase_eq_toLower (by rw [hkey]; decide), hkey]

/-- A flag proper as it is read. -/
theorem Valid.reads_flag {key word : Text} {meaning : Flag} (h : (flag key word meaning).Valid) :
    ∃ k s, key = [k, s] ∧ foldCase k = 'i' ∧ foldCase s = 's' ∧
      (word.map foldCase, meaning) ∈ flagWords ∧ word.map Char.toLower = word.map foldCase := by
  obtain ⟨hkey, hword⟩ := h
  have hlength : key.length = 2 := by simpa using congrArg List.length hkey
  obtain ⟨k, s, rfl⟩ := List.length_eq_two.mp hlength
  have hk : k.toLower = 'i' := (List.cons.inj hkey).1
  have hs : s.toLower = 's' := (List.cons.inj (List.cons.inj hkey).2).1
  have hfold : word.map foldCase = word.map Char.toLower :=
    map_foldCase_eq_map_toLower (map_foldCase_flagWords _ hword)
  refine ⟨k, s, rfl, ?_, ?_, hfold ▸ hword, hfold.symm⟩
  · rw [foldCase_eq_toLower (by rw [hk]; decide), hk]
  · rw [foldCase_eq_toLower (by rw [hs]; decide), hs]

theorem Valid.takeOut_readTag {x : Token} (h : x.Valid) :
    takeOut readTag x.text = (x.withoutTag, x.tag?.toList) := by
  -- Nothing is taken out of a token that has no number sign in it.
  cases x with
  | tag name => exact WrittenNote.takeOut_tagFlag h
  | color key word =>
    obtain ⟨hkey, -, hword⟩ := h.reads_color
    have hhash : '#' ∉ key :: ':' :: word := by
      simp only [List.mem_cons, not_or]
      refine ⟨?_, by decide, not_mem_of_folds hword (by decide)⟩
      rintro rfl
      exact absurd hkey (by decide)
    exact takeOut_of_not_occurs (not_occurs_readTag hhash)
  | flag key word meaning =>
    obtain ⟨k, s, rfl, hk, hs, hmem, -⟩ := h.reads_flag
    have hhash : '#' ∉ k :: s :: ':' :: word := by
      simp only [List.mem_cons, not_or]
      refine ⟨?_, ?_, by decide,
        not_mem_of_folds (isFlagWord_of_mem hmem).foldsToAlphanumeric (by decide)⟩
      · rintro rfl
        exact absurd hk (by decide)
      · rintro rfl
        exact absurd hs (by decide)
    exact takeOut_of_not_occurs (not_occurs_readTag hhash)
  | plain word => exact takeOut_of_not_occurs (not_occurs_readTag h.2.2.2)

/-- The key of a flag proper is that of no other kind. -/
theorem Valid.eq_none_of_flag {key word : Text} {meaning : Flag} (h : (flag key word meaning).Valid)
    {α : Type} (read : Reader α) {d : Char} (hd : d ≠ 's')
    (hread : ∀ {before t}, (read before t).isSome →
      ∃ k rest, t = k :: ':' :: rest ∧ foldCase k = d)
    {before : Option Char} {t : Text} (ht : t <:+ (flag key word meaning).text) :
    read before t = none := by
  obtain ⟨k, s, rfl, hk, hs, hmem, -⟩ := h.reads_flag
  have hcolon : ':' ∉ [k] := by
    rw [List.mem_singleton]
    rintro rfl
    exact absurd hk (by decide)
  refine eq_none_of_key read hread [k] (k := s) ?_ ?_ hcolon
    (not_mem_of_folds (isFlagWord_of_mem hmem).foldsToAlphanumeric (by decide)) ht
  · rw [hs]
    exact hd.symm
  · rintro rfl
    exact absurd hs (by decide)

theorem Valid.takeOut_readColor {x : Token} (h : x.Valid) :
    takeOut readColor x.withoutTag = (x.withoutColor, x.colors) := by
  cases x with
  | tag name => exact takeOut_of_not_occurs (not_occurs_readColor (w := [' ']) (by decide))
  | color key word =>
    obtain ⟨hkey, hne, hword⟩ := h.reads_color
    have hread : readColor none (key :: ':' :: word) =
        some ⟨Color.ofName? word, 1 + word.length, 0⟩ :=
      readColor_eq_some_iff.mpr
        ⟨rfl, key, word, [], by rw [List.append_nil], hkey, hne, hword, rfl, rfl⟩
    exact takeOut_of_whole hread (Nat.add_comm _ _)
  | flag key word meaning =>
    exact takeOut_of_not_occurs (not_occurs_of_suffixes
      (h.eq_none_of_flag readColor (by decide) exists_key_of_readColor))
  | plain word => exact takeOut_of_not_occurs (not_occurs_readColor h.2.2.1)

/-- There is no font in what is left of a token. -/
theorem Valid.readFont_eq_none {x : Token} (h : x.Valid) {before : Option Char} {t : Text}
    (ht : t <:+ x.withoutColor) : readFont before t = none := by
  have hquiet : ∀ {w : Text}, ':' ∉ w → t <:+ w → readFont before t = none := by
    intro w hw htw
    refine Option.not_isSome_iff_eq_none.mp fun hsome => ?_
    obtain ⟨k, rest, rfl, -⟩ := exists_key_of_readFont hsome
    exact hw (htw.subset (List.mem_cons_of_mem _ List.mem_cons_self))
  cases x with
  | tag name => exact hquiet (w := [' ']) (by decide) ht
  | color key word => exact hquiet (w := [' ']) (by decide) ht
  | flag key word meaning =>
    exact h.eq_none_of_flag readFont (by decide) exists_key_of_readFont ht
  | plain word => exact hquiet h.2.2.1 ht

theorem Valid.takeOut_readFont {x : Token} (h : x.Valid) :
    takeOut readFont x.withoutColor = (x.withoutColor, []) :=
  takeOut_of_not_occurs (not_occurs_of_suffixes h.readFont_eq_none)

theorem Valid.takeOut_readFlag {x : Token} (h : x.Valid) :
    takeOut readFlag x.withoutColor = (x.left, (x.flag?.map some).toList) := by
  cases x with
  | tag name => exact takeOut_of_not_occurs (not_occurs_readFlag (w := [' ']) (by decide))
  | color key word => exact takeOut_of_not_occurs (not_occurs_readFlag (w := [' ']) (by decide))
  | flag key word meaning =>
    obtain ⟨k, s, rfl, hk, hs, hmem, hlower⟩ := h.reads_flag
    have hread : readFlag none (k :: s :: ':' :: word) =
        some ⟨some meaning, 2 + word.length, 0⟩ := by
      rw [readFlag_eq_some_iff]
      exact ⟨rfl, k, s, word, [], meaning, by rw [List.append_nil], hk, hs, hmem, rfl,
        by rw [if_pos hlower]⟩
    refine takeOut_of_whole hread ?_
    simp only [List.length_cons]
    omega
  | plain word => exact takeOut_of_not_occurs (not_occurs_readFlag h.2.2.1)

end Token

/-! ### A row of tokens -/

theorem isBlank_pad {pad : Text} (h : pad = [] ∨ pad = [' ']) : ∀ c ∈ pad, isBlank c = true := by
  intro c hc
  rcases h with rfl | rfl
  · cases hc
  · rw [List.mem_singleton.mp hc]
    decide

/-- The first color that is named is that of the first token that names one. -/
theorem findSome?_colors (tokens : List Token) :
    (tokens.flatMap Token.colors).findSome? id = tokens.findSome? Token.color? := by
  have hone : ∀ x : Token, x.colors.findSome? id = x.color? := by
    intro x
    cases x with
    | color key word => exact List.findSome?_singleton
    | _ => rfl
  induction tokens with
  | nil => rfl
  | cons x tokens ih =>
    rw [List.flatMap_cons, List.findSome?_append, ih, hone, List.findSome?_cons]
    cases x.color? <;> rfl

section Row

variable {tokens : List Token} (h : ∀ x ∈ tokens, x.Valid)

include h

/-- What is left of tokens, word by word. -/
theorem pieces_left : pieces isBlank (spaced (tokens.map Token.left)) =
    tokens.filterMap Token.plain? := by
  have hleft : ∀ x ∈ tokens, pieces isBlank x.left = x.plain?.toList := by
    intro x hx
    cases x with
    | plain word =>
      obtain ⟨hne, hsolid, -⟩ := h _ hx
      have hnot : (!word.isEmpty) = true := by simpa [List.isEmpty_iff] using hne
      exact (pieces_of_solid hsolid).trans (List.filter_cons_of_pos hnot)
    | _ => exact (pieces_cons (by decide) []).trans pieces_nil
  rw [pieces_spaced, List.flatMap_map, List.filterMap_eq_flatMap_toList]
  exact List.flatMap_congr hleft

theorem isInlineBlank_left : ∀ c ∈ spaced (tokens.map Token.left), isBlank c = true →
    isInlineBlank c = true := by
  have hspace : isInlineBlank ' ' = true := by decide
  intro c hc hblank
  obtain ⟨w, hw, hcw⟩ := List.mem_flatMap.mp hc
  obtain ⟨x, hx, rfl⟩ := List.mem_map.mp hw
  rcases List.mem_cons.mp hcw with rfl | hcw
  · exact hspace
  · cases x with
    | plain word =>
      obtain ⟨-, hsolid, -⟩ := h _ hx
      rw [hsolid c hcw] at hblank
      cases hblank
    | _ =>
      obtain rfl := List.mem_singleton.mp hcw
      exact hspace

theorem tellsTokens_extract_spaced :
    (Attributes.extract (spaced (tokens.map Token.text))).1 = spaced (tokens.map Token.left) ∧
      TellsTokens tokens (Attributes.extract (spaced (tokens.map Token.text))).2 := by
  have hextract := extract_spaced (fun x hx => (h x hx).takeOut_readTag)
    (fun x hx => (h x hx).takeOut_readColor) (fun x hx => (h x hx).takeOut_readFont)
    (fun x hx => readFont_local fun _ hs => (h x hx).readFont_eq_none hs)
    (fun x hx => (h x hx).takeOut_readFlag)
  have htags : tokens.flatMap (fun x => x.tag?.toList) = tokens.filterMap Token.tag? :=
    (List.filterMap_eq_flatMap_toList _ _).symm
  have hflags : (tokens.flatMap fun x => (x.flag?.map some).toList).filterMap id =
      tokens.filterMap Token.flag? := by
    rw [List.filterMap_flatMap, List.filterMap_eq_flatMap_toList]
    exact List.flatMap_congr fun x _ => by cases x.flag? <;> rfl
  have hfonts : (tokens.flatMap fun _ => ([] : List Text)) = [] :=
    List.flatMap_eq_nil_iff.mpr fun _ _ => rfl
  -- Every pass has collected what its tokens say, in their order.
  rw [hflags, findSome?_colors, htags, hfonts] at hextract
  rw [hextract]
  refine ⟨rfl, fun name => ?_, rfl, fun flag => ?_, rfl⟩
  · dsimp only
    split
    · rename_i hhidden
      rw [TagSet.mem_insert, TagSet.mem_ofList, and_iff_left hhidden, or_comm]
    · rename_i hhidden
      rw [TagSet.mem_ofList]
      exact (or_iff_left fun hname => hhidden hname.2).symm
  · cases flag <;> simp only [Attributes.sets, decide_eq_true_iff]

/-- The same for the row itself, up to a space in front. -/
theorem exists_pad_extract_joined : ∃ pad, (∀ c ∈ pad, isBlank c = true) ∧
    pad ++ (Attributes.extract (joined tokens)).1 = spaced (tokens.map Token.left) ∧
    TellsTokens tokens (Attributes.extract (joined tokens)).2 := by
  obtain ⟨hleft, htells⟩ := tellsTokens_extract_spaced h
  obtain ⟨pad, hpad, hrow⟩ := exists_pad_intercalate (tokens.map Token.text)
  rw [← hrow] at hleft htells
  rcases hpad with rfl | rfl
  · rw [List.nil_append] at hleft htells
    exact ⟨[], List.forall_mem_nil _, (List.nil_append _).trans hleft, htells⟩
  · rw [List.singleton_append, extract_cons_space] at hleft htells
    exact ⟨[' '], isBlank_pad (Or.inr rfl), hleft, htells⟩

/-- What is left of tokens is tidied like their plain words. -/
theorem tidyBody_left : tidyBody (spaced (tokens.map Token.left)) =
    tidyBody ([' '].intercalate (tokens.filterMap Token.plain?)) := by
  -- The plain words are tokens themselves, of which all is left.
  let plains := (tokens.filterMap Token.plain?).map Token.plain
  have hplains : ∀ x ∈ plains, x.Valid := by
    intro x hx
    obtain ⟨word, hword, rfl⟩ := List.mem_map.mp hx
    obtain ⟨y, hy, hplain⟩ := List.mem_filterMap.mp hword
    cases y with
    | plain w =>
      obtain rfl := Option.some.inj hplain
      exact h _ hy
    | _ => cases hplain
  have hleft : plains.map Token.left = tokens.filterMap Token.plain? := by
    rw [List.map_map]
    exact List.map_id _
  have hwords : plains.filterMap Token.plain? = tokens.filterMap Token.plain? := by
    rw [List.filterMap_map]
    exact List.filterMap_some
  obtain ⟨pad, hpad, hrow⟩ := exists_pad_intercalate (tokens.filterMap Token.plain?)
  calc tidyBody (spaced (tokens.map Token.left))
      = tidyBody (spaced (plains.map Token.left)) := by
        refine tidyBody_eq_of_words (isInlineBlank_left h) (isInlineBlank_left hplains) ?_
        rw [pieces_left h, pieces_left hplains, hwords]
    _ = tidyBody (pad ++ [' '].intercalate (tokens.filterMap Token.plain?)) := by
        rw [hleft, hrow]
    _ = tidyBody ([' '].intercalate (tokens.filterMap Token.plain?)) :=
        tidyBody_blanks_append (isBlank_pad hpad) _

end Row

/-- **Flags are taken out token by token.** What is set by a row of tokens is what reading them one
by one sets, and what is left are the plain words in their order: those are its words, and it is
tidied like them. Apart from the color, it does not matter in which order the tokens come and how
often. -/
theorem extract_joined {tokens : List Token} (h : ∀ x ∈ tokens, x.Valid) :
    (Attributes.extract (joined tokens)).2 = tokens.foldl Attributes.read {} ∧
    TellsTokens tokens (Attributes.extract (joined tokens)).2 ∧
    pieces isBlank (Attributes.extract (joined tokens)).1 = tokens.filterMap Token.plain? ∧
    tidyBody (Attributes.extract (joined tokens)).1 =
      tidyBody ([' '].intercalate (tokens.filterMap Token.plain?)) ∧
    ∀ others : List Token, (∀ x ∈ others, x.Valid) → (∀ x, x ∈ others ↔ x ∈ tokens) →
      { (Attributes.extract (joined others)).2 with color := none } =
        { (Attributes.extract (joined tokens)).2 with color := none } := by
  obtain ⟨pad, hpad, hleft, htells⟩ := exists_pad_extract_joined h
  refine ⟨htells.eq (tellsTokens_foldl tokens), htells, ?_, ?_, fun others hothers hmem => ?_⟩
  · rw [← pieces_left h, ← hleft, pieces_gaps_append hpad]
  · rw [← tidyBody_left h, ← hleft, tidyBody_blanks_append hpad]
  · obtain ⟨-, -, -, htells'⟩ := exists_pad_extract_joined hothers
    rw [htells.eq (htells'.of_mem_iff hmem)]

/-- A row with two colors, of which one is none, and the same tokens backward and with more of
them. -/
theorem extract_joined_shopping :
    let tokens : List Token := [.plain "milk".toList, .tag "Shop_1".toList,
      .flag "IS".toList "Hide".toList .hidden, .color 'C' "mauve".toList,
      .color 'c' "Blue".toList, .plain "eggs".toList]
    (∀ x ∈ tokens, x.Valid) ∧
      joined tokens = "milk ##Shop_1 IS:Hide C:mauve c:Blue eggs".toList ∧
      (Attributes.extract (joined tokens)).2 =
        { tags := TagSet.ofList ["Shop_1".toList, hiddenTag]
          color := some .blue
          isHidden := true } ∧
      tidyBody (Attributes.extract (joined tokens)).1 = tidyBody "milk eggs".toList ∧
      { (Attributes.extract (joined (tokens.reverse ++ tokens))).2 with color := none } =
        { (Attributes.extract (joined tokens)).2 with color := none } := by
  intro tokens
  have hvalid : ∀ x ∈ tokens, x.Valid := by decide
  have hmore : ∀ x, x ∈ tokens.reverse ++ tokens ↔ x ∈ tokens := by
    intro x
    rw [List.mem_append, List.mem_reverse, or_self]
  obtain ⟨hset, -, -, htidied, hothers⟩ := extract_joined hvalid
  exact ⟨hvalid, by decide, hset.trans rfl, htidied,
    hothers _ (fun x hx => hvalid x ((hmore x).mp hx)) hmore⟩

end Notebook
