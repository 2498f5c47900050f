import Notebook.Retrieval.Resolve

/-!
# Grounding an answer (specification §4.5)

An answer that was found in a note is spelled out for whoever words the reply: where it is from,
what was asked for, the item itself, and the lists it stands in.

```text
Source note: "Baking"
Requested item: #2 (topic: bread)
Answer: Knead

Full list context:
[Numbered list]
1. Mix
2. Knead
```
-/

namespace Notebook

/-- A text with something before and after it, or nothing. -/
def between (before : String) (t : Option Text) (after : String) : Text :=
  match t with
  | none => []
  | some t => before.toList ++ t ++ after.toList

/-- The grounding of a result. There is none unless an item was extracted at a position (§4.5). -/
def QueryResult.grounding? (r : QueryResult) : Option Text :=
  match r.isPositional, r.item, r.position with
  | true, some item, some position =>
    some <| between "Source note: \"" r.noteTitle "\"\n" ++
      "Requested item: #".toList ++ Text.ofNat position ++ between " (topic: " r.topic ")" ++
      "\nAnswer: ".toList ++ item ++ between "\n\nFull list context:\n" r.context ""
  | _, _, _ => none

/-- A result with its grounding. -/
structure Answer where
  result : QueryResult
  grounding : Option Text
deriving Repr, DecidableEq

/-- Looks a question up in notes and grounds the result. -/
def ask (question : Text) (notes : List Note) (s : Scoring) : Answer :=
  let result := resolveQuestion question notes s
  ⟨result, result.grounding?⟩

end Notebook
