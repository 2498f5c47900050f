import Notebook.Draft.Basic
import Notebook.NoteList.Extraction
import Notebook.Question.Detection
import Notebook.Retrieval.Scoring

/-!
# Answering a positional question from notes (specification §4.5)

A note is a candidate for a query if one of its lists has an item at the position asked for. The
answer is that item of the candidate with the highest score; between equals the earlier note stays.
-/

namespace Notebook

/-- A note as far as answering goes. -/
structure Note where
  title : Text
  content : Text := []
deriving Repr, DecidableEq

/-- A draft can be asked like a stored note. -/
def Draft.toNote (d : Draft) : Note := ⟨d.title, d.content⟩

/-- What is known after a question has been looked up. -/
structure QueryResult where
  isPositional : Bool := false
  position : Option Nat := none
  topic : Option Text := none
  item : Option Text := none
  noteTitle : Option Text := none
  context : Option Text := none
deriving Repr, DecidableEq

/-- The result for a question that asks for no position. -/
def QueryResult.notAsked : QueryResult := {}

/-- The result for a query that no note answers. -/
def QueryResult.unanswered (query : ItemQuery) : QueryResult :=
  { isPositional := true, position := query.position, topic := query.topic }

/-- An answer that a note could give. -/
structure Candidate where
  title : Text
  item : Text
  context : Text
  score : Float

/-- The result for a query that a candidate answers. -/
def QueryResult.ofCandidate (query : ItemQuery) (c : Candidate) : QueryResult :=
  { QueryResult.unanswered query with
    item := c.item, noteTitle := c.title, context := c.context }

/-- The words of a query's topic, if it has one. -/
def ItemQuery.words (query : ItemQuery) (s : Scoring) : List Text :=
  match query.topic with
  | none => []
  | some topic => soughtWords topic s.minWordLength

/-- The text of a note that topic words are looked for in. -/
def Note.haystack (note : Note) : Text := Text.lowercase (note.title ++ ' ' :: note.content)

/-- The answer a note could give to a query, if it has an item at the position. -/
def Candidate.ofNote? (s : Scoring) (query : ItemQuery) (note : Note) : Option Candidate :=
  let lists := NoteList.ofText note.content
  (itemAt? lists query.position).map fun item =>
    { title := note.title
      item := item.content
      context := listContext lists
      score := s.score note.haystack (query.words s) (itemCount lists) }

/-- The better of the best so far and a new candidate, which has to score higher to win (§4.5). -/
def Candidate.better (best : Option Candidate) (new : Candidate) : Option Candidate :=
  match best with
  | none => some new
  | some b => if b.score < new.score then some new else some b

/-- The best of several candidates. -/
def Candidate.best? (candidates : List Candidate) : Option Candidate :=
  candidates.foldl better none

/-- Looks a query up in notes (§4.5). -/
def ItemQuery.resolve (query : ItemQuery) (notes : List Note) (s : Scoring) :
    QueryResult :=
  match Candidate.best? (notes.filterMap (Candidate.ofNote? s query)) with
  | none => .unanswered query
  | some c => .ofCandidate query c

/-- Looks a question up in notes. -/
def resolveQuestion (question : Text) (notes : List Note) (s : Scoring) : QueryResult :=
  match ItemQuery.ofQuestion? question with
  | none => .notAsked
  | some query => query.resolve notes s

end Notebook
