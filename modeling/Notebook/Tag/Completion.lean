import Notebook.Tag.Grammar

/-!
# Completing a half-typed tag (specification §4.1)

While a tag is being typed it goes through three stages: part of the type (`@g`), the type alone
(`@grey` or `@grey-`), and the type with the beginning of a name (`@grey-wo`). Each has a function
that recognises it.
-/

namespace Notebook

/-- The tag types whose word starts with what follows the `@` (§4.1, helpers). Nothing is offered
once a hyphen, a slash or white space has been typed. -/
def TagType.completions (text : Text) : List TagType :=
  match Text.trim text with
  | '@' :: typed =>
    if typed.any fun c => c = '-' || c = '/' || isBlank c then []
    else TagType.all.filter (typed.isPrefixOf ·.keyword)
  | _ => []

/-- A tag type and the beginning of a name of that type. -/
structure HalfTypedTag where
  tagType : TagType
  typed : Text
deriving Repr, DecidableEq

/-- Reads `@type-beginning`, without an action (§4.1, helpers). The beginning may be empty. -/
def HalfTypedTag.ofText? (text : Text) : Option HalfTypedTag :=
  match TagType.afterOpening? (Text.trim text) with
  | some (t, rest) => if '/' ∈ rest then none else some ⟨t, rest⟩
  | none => none

/-- Reads `@type` or `@type-` with nothing after it (§4.1, helpers). -/
def TagType.alone? (text : Text) : Option TagType :=
  let text := Text.trim text
  TagType.all.find? fun t => text = '@' :: t.keyword ∨ text = t.opening

end Notebook
