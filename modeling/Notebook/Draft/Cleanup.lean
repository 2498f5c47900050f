import Notebook.Text.Scan

/-!
# Cleaning up the body of a note (specification §4.2, step 3)

Taking flags out of a body leaves stray separators and white space behind. `tidyBody` removes
them and keeps the line breaks:

1. a run of separators `||` with nothing but white space between them becomes one;
2. separators and white space at both ends are dropped;
3. every line is trimmed, and white space inside a line becomes single spaces;
4. what is left is trimmed once more.
-/

namespace Notebook

/-- What separates a title from a body, and parts of a body from each other. -/
def separator : Text := ['|', '|']

/-- How many characters at the start of a text belong to further separators, each after nothing but
white space; `gap` counts the white space since the last one. -/
def furtherSeparators : (gap : Nat) → Text → Nat
  | _, [] => 0
  | gap, '|' :: '|' :: rest => gap + 2 + furtherSeparators 0 rest
  | gap, c :: rest => if isBlank c then furtherSeparators (gap + 1) rest else 0

/-- Reads a run of at least two separators. -/
def readSeparatorRun : Reader Unit
  | _, '|' :: '|' :: rest =>
    match furtherSeparators 0 rest with
    | 0 => none
    | more => some ⟨(), 1 + more, 0⟩
  | _, _ => none

/-- Makes one separator of every run of separators. -/
def collapseSeparators (t : Text) : Text := Text.substitute separator (Text.scan readSeparatorRun t)

/-- Drops separators and white space at the start. -/
def dropSeparators : Text → Text
  | [] => []
  | '|' :: '|' :: rest => dropSeparators rest
  | c :: rest => if isBlank c then dropSeparators rest else c :: rest

/-- Drops separators and white space at both ends, those at the end first. -/
def trimSeparators (t : Text) : Text := dropSeparators (dropSeparators t.reverse).reverse

/-- Makes one space of every run of white space that has no line break in it. `inRun` tells whether
the space for the current run has been written. -/
def squeezeFrom : (inRun : Bool) → Text → Text
  | _, [] => []
  | inRun, c :: rest =>
    if isInlineBlank c then
      if inRun then squeezeFrom true rest else ' ' :: squeezeFrom true rest
    else c :: squeezeFrom false rest

/-- Makes one space of every run of white space that has no line break in it. -/
def squeeze (t : Text) : Text := squeezeFrom false t

/-- The body of a note without stray separators and white space (§4.2, step 3). -/
def tidyBody (body : Text) : Text :=
  let lines := Text.lines (trimSeparators (collapseSeparators body))
  Text.trim (Text.unlines (lines.map fun line => squeeze (Text.trim line)))

end Notebook
