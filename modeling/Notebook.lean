import Notebook.CommandLine.Arguments
import Notebook.CommandLine.Paint
import Notebook.CommandLine.Report
import Notebook.CommandLine.Run
import Notebook.Draft.Basic
import Notebook.Draft.Cleanup
import Notebook.Draft.Command
import Notebook.Draft.Flags
import Notebook.Draft.SubCommand
import Notebook.Draft.TagSet
import Notebook.Intent
import Notebook.Json.Basic
import Notebook.Json.Encoding
import Notebook.Json.Parser
import Notebook.Json.Printer
import Notebook.Main
import Notebook.NoteList.Basic
import Notebook.NoteList.Extraction
import Notebook.NoteList.ItemStart
import Notebook.Number.Reader
import Notebook.Number.Shortest
import Notebook.Number.Style
import Notebook.Proofs.CommandLine.ItemLine
import Notebook.Proofs.Draft.Cleanup
import Notebook.Proofs.Draft.Command
import Notebook.Proofs.Draft.Consumed
import Notebook.Proofs.Draft.FontName
import Notebook.Proofs.Draft.FontRow
import Notebook.Proofs.Draft.IdleFlags
import Notebook.Proofs.Draft.NormalForm
import Notebook.Proofs.Draft.Padded
import Notebook.Proofs.Draft.Readers
import Notebook.Proofs.Draft.Residue
import Notebook.Proofs.Draft.SeparatorRuns
import Notebook.Proofs.Draft.Squeezed
import Notebook.Proofs.Draft.StrandedBar
import Notebook.Proofs.Draft.SubCommand
import Notebook.Proofs.Draft.SwallowedFont
import Notebook.Proofs.Draft.TidyLines
import Notebook.Proofs.Draft.Tokens
import Notebook.Proofs.Draft.WellFormed
import Notebook.Proofs.Draft.Words
import Notebook.Proofs.NoteList.Blocks
import Notebook.Proofs.NoteList.BothWays
import Notebook.Proofs.NoteList.Context
import Notebook.Proofs.NoteList.Entry
import Notebook.Proofs.NoteList.EveryLine
import Notebook.Proofs.NoteList.Extraction
import Notebook.Proofs.NoteList.Grouping
import Notebook.Proofs.NoteList.ItemStart
import Notebook.Proofs.NoteList.StartGrammar
import Notebook.Proofs.NoteList.Tidied
import Notebook.Proofs.NoteList.TidyStart
import Notebook.Proofs.NoteList.Whole
import Notebook.Proofs.Number.Accuracy
import Notebook.Proofs.Number.Order
import Notebook.Proofs.Number.Rounding
import Notebook.Proofs.Question.AnyCase
import Notebook.Proofs.Question.Aside
import Notebook.Proofs.Question.Asked
import Notebook.Proofs.Question.Found
import Notebook.Proofs.Question.LetterCase
import Notebook.Proofs.Question.Misses
import Notebook.Proofs.Question.Numeral
import Notebook.Proofs.Question.Readers
import Notebook.Proofs.Question.Shapes
import Notebook.Proofs.Question.Stated
import Notebook.Proofs.Question.Topic
import Notebook.Proofs.Retrieval.LetterCase
import Notebook.Proofs.Retrieval.Ranking
import Notebook.Proofs.Retrieval.Resolve
import Notebook.Proofs.Retrieval.StoredList
import Notebook.Proofs.Retrieval.TopicWord
import Notebook.Proofs.Tag.Completion
import Notebook.Proofs.Tag.Exclusion
import Notebook.Proofs.Tag.Grammar
import Notebook.Proofs.Tag.Phrase
import Notebook.Proofs.Tag.Renaming
import Notebook.Proofs.Text.Edges
import Notebook.Proofs.Text.Gap
import Notebook.Proofs.Text.Keyword
import Notebook.Proofs.Text.Lines
import Notebook.Proofs.Text.Scan
import Notebook.Proofs.Text.Sigma
import Notebook.Proofs.Text.Somewhere
import Notebook.Proofs.Text.Spelling
import Notebook.Proofs.Text.Width
import Notebook.Question.Detection
import Notebook.Question.Vocabulary
import Notebook.Retrieval.Grounding
import Notebook.Retrieval.NotesFile
import Notebook.Retrieval.Resolve
import Notebook.Retrieval.Scoring
import Notebook.Settings.Basic
import Notebook.Settings.Choices
import Notebook.Settings.Document
import Notebook.Settings.Environment
import Notebook.Settings.Load
import Notebook.Tag.Basic
import Notebook.Tag.Completion
import Notebook.Tag.Grammar
import Notebook.Tag.Rename
import Notebook.Text.Alphabetic
import Notebook.Text.Basic
import Notebook.Text.Blank
import Notebook.Text.Cased
import Notebook.Text.CodeSet
import Notebook.Text.Fold
import Notebook.Text.Lowercase
import Notebook.Text.Mark
import Notebook.Text.Numeric
import Notebook.Text.Printable
import Notebook.Text.Quoted
import Notebook.Text.Scan
import Notebook.Text.Truncate
import Notebook.Text.Word
import Notebook.Toml.Basic
import Notebook.Toml.Document
import Notebook.Toml.Quoted
import Notebook.Toml.Scalar
import Notebook.World
