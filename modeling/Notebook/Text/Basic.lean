import Notebook.Text.Blank

/-!
# Texts

A text is the list of its characters, so that every operation is a recursion on the text and every
statement about one is an induction on it. This module holds the operations the grammars share.

* `trim`, `trimStart`, `trimEnd` — white space off the edges;
* `lines` — the lines of a text, each without its line break;
* `words` — the maximal runs without white space;
* `after?` — what follows a keyword at the start, compared up to a given folding;
* `splitOnce?`, `contains` — the first occurrence of a text in another.
-/

namespace Notebook

/-- A text is its characters in order. -/
abbrev Text := List Char

/-- Texts are equal if their characters are, one by one. -/
instance : LawfulBEq Text := inferInstance

namespace Text

/-! ### Edges -/

/-- Drops the longest suffix whose characters all satisfy `p`. -/
def dropEndWhile (p : Char → Bool) : Text → Text
  | [] => []
  | c :: rest =>
    match dropEndWhile p rest with
    | [] => if p c then [] else [c]
    | d :: kept => c :: d :: kept

/-- Drops leading white space. -/
def trimStart (t : Text) : Text := t.dropWhile isBlank

/-- Drops trailing white space. -/
def trimEnd (t : Text) : Text := dropEndWhile isBlank t

/-- Drops white space at both ends. -/
def trim (t : Text) : Text := trimEnd (trimStart t)

/-- Whether a text has nothing but white space. -/
def blank (t : Text) : Bool := t.all isBlank

/-! ### Pieces -/

/-- The pieces between the characters that satisfy `p`, empty pieces included. -/
def splitWhere (p : Char → Bool) : Text → List Text
  | [] => [[]]
  | c :: rest =>
    if p c then [] :: splitWhere p rest
    else match splitWhere p rest with
      | [] => [[c]]
      | piece :: pieces => (c :: piece) :: pieces

/-- The maximal runs of characters that are not white space. -/
def words (t : Text) : List Text := (splitWhere isBlank t).filter (!·.isEmpty)

/-- The lines of a text. A line ends at a line feed, and a carriage return right before the line
feed is part of the break; a last line without a break is kept as it is. -/
def lines : Text → List Text
  | [] => []
  | '\n' :: rest => [] :: lines rest
  | '\r' :: '\n' :: rest => [] :: lines rest
  | c :: rest =>
    match lines rest with
    | [] => [[c]]
    | line :: more => (c :: line) :: more

/-- Joins lines with line feeds. -/
def unlines (ls : List Text) : Text := ['\n'].intercalate ls

/-! ### Occurrences -/

/-- What follows `keyword` at the start of a text, when the two agree up to `fold`. -/
def after? (fold : Char → Char) : (keyword text : Text) → Option Text
  | [], t => some t
  | _ :: _, [] => none
  | k :: ks, c :: cs => if fold c = fold k then after? fold ks cs else none

/-- What follows `keyword` at the start of a text, compared as written. -/
def afterExact? (keyword text : Text) : Option Text := after? id keyword text

/-- What follows `keyword` at the start of a text, up to the case of ASCII letters. -/
def afterAnyCase? (keyword text : Text) : Option Text := after? Char.toLower keyword text

/-- Cuts a text around the first occurrence of `sep`. -/
def splitOnce? (sep : Text) : Text → Option (Text × Text)
  | [] => none
  | c :: rest =>
    match afterExact? sep (c :: rest) with
    | some tail => some ([], tail)
    | none => (splitOnce? sep rest).map fun (head, tail) => (c :: head, tail)

/-- Whether `part` occurs in a text. -/
def contains (part : Text) : Text → Bool
  | [] => part.isEmpty
  | c :: rest => part.isPrefixOf (c :: rest) || contains part rest

/-- The decimal digits of a number. -/
def ofNat (n : Nat) : Text := Nat.toDigits 10 n

/-! ### First laws -/

theorem trim_nil : trim [] = [] := rfl

/-- Exactly the keyword itself, in any of its spellings, stands before what follows it. -/
theorem after?_eq_some_iff {fold : Char → Char} {keyword text rest : Text} :
    after? fold keyword text = some rest ↔
      ∃ head, text = head ++ rest ∧ head.map fold = keyword.map fold := by
  induction keyword generalizing text with
  | nil => simp [after?, eq_comm]
  | cons k ks ih =>
    cases text with
    | nil => simp [after?]
    | cons c cs =>
      constructor
      · intro h
        unfold after? at h
        split at h
        · rename_i hck
          obtain ⟨head, rfl, hh⟩ := ih.mp h
          exact ⟨c :: head, rfl, by simp [hck, hh]⟩
        · simp at h
      · rintro ⟨head, ht, hh⟩
        cases head with
        | nil => simp at hh
        | cons d ds =>
          simp only [List.cons_append, List.cons.injEq, List.map_cons] at ht hh
          obtain ⟨rfl, rfl⟩ := ht
          simp only [after?, hh.1, if_true]
          exact ih.mpr ⟨ds, rfl, hh.2⟩

end Text
end Notebook
