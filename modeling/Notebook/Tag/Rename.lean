import Notebook.Tag.Basic

/-!
# Names that a tag may be renamed to (specification §4.1, §7)

A new name is made of ASCII letters and digits, spaces, underscores and hyphens. White space around
it does not count, and what is left must not be empty. The first character outside the allowed ones
is the one that is reported.
-/

namespace Notebook

/-- Why a new name is refused. -/
inductive NameError where
  | empty
  | invalidCharacter (c : Char)
deriving Repr, DecidableEq

/-- The wording of a refusal. -/
def NameError.message : NameError → Text
  | .empty => "new name cannot be empty".toList
  | .invalidCharacter c =>
    "new name contains invalid character '".toList ++ [c] ++
      "' (only letters, digits, space, underscore and hyphen allowed)".toList

/-- The characters a new name is made of. -/
def isNameChar (c : Char) : Bool := c.isAlphanum || c == ' ' || c == '_' || c == '-'

/-- Accepts a new name or says why not (§4.1). -/
def validateName (name : Text) : Except NameError Unit :=
  let name := Text.trim name
  if name.isEmpty then .error .empty
  else match name.find? (!isNameChar ·) with
    | some c => .error (.invalidCharacter c)
    | none => .ok ()

/-- A rename whose new name is refused. -/
structure RefusedRename where
  tagType : TagType
  oldName : Text
  newName : Text
  reason : NameError
deriving Repr, DecidableEq

/-- The wording of a refused rename. -/
def RefusedRename.message (e : RefusedRename) : Text :=
  "cannot rename ".toList ++ e.tagType.keyword ++ " '".toList ++ e.oldName ++ "' to '".toList ++
    e.newName ++ "': ".toList ++ e.reason.message

/-- A name is accepted exactly if something is left of it without the white space around it, and
nothing in that is foreign. -/
theorem validateName_eq_ok_iff {name : Text} :
    validateName name = .ok () ↔
      Text.trim name ≠ [] ∧ ∀ c ∈ Text.trim name, isNameChar c = true := by
  unfold validateName
  cases h : Text.trim name with
  | nil => simp
  | cons c rest =>
    cases hf : (c :: rest).find? (!isNameChar ·) with
    | none => simpa [hf] using List.find?_eq_none.mp hf
    | some d =>
      have hd := List.find?_some hf
      have hm := List.mem_of_find?_eq_some hf
      simp only [List.isEmpty_cons, Bool.false_eq_true, if_false, hf, reduceCtorEq, false_iff]
      rintro ⟨-, hall⟩
      simp [hall d hm] at hd

end Notebook
