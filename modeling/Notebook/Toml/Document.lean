import Notebook.Toml.Quoted
import Notebook.Toml.Scalar

/-!
# Reading TOML documents

`Toml.parse?` reads a whole document, line by line: headers, assignments, comments and empty lines.
The values of an assignment may go on over several lines between brackets or braces. A document is
read or refused as a whole, and nothing is said about why it is refused.
-/

namespace Notebook
namespace Toml

/-! ### Blanks and comments -/

/-- Drops spaces and tabs. -/
def skipBlanks (t : Text) : Text := t.dropWhile fun c => c == ' ' || c == '\t'

/-- Drops spaces, line breaks and comments; `inComment` tells whether a comment is going on. There
must be no control in a comment. -/
def skipTrivia? : (inComment : Bool) → Text → Option Text
  | _, [] => some []
  | _, '\n' :: rest => skipTrivia? false rest
  | _, '\r' :: '\n' :: rest => skipTrivia? false rest
  | true, c :: rest => if isPlain c then skipTrivia? true rest else none
  | false, c :: rest =>
    if c = '#' then skipTrivia? true rest
    else if c = ' ' ∨ c = '\t' then skipTrivia? false rest
    else some (c :: rest)

/-- What follows the end of a line, after blanks and perhaps a comment. -/
def afterLineEnd? (t : Text) : Option Text :=
  let t := skipBlanks t
  let t := if t.head? = some '#' then t.dropWhile isPlain else t
  match t with
  | [] => some []
  | '\n' :: rest => some rest
  | '\r' :: '\n' :: rest => some rest
  | _ => none

/-! ### Keys -/

/-- The characters of a key without quotes. -/
def isKeyChar (c : Char) : Bool := c.isAlphanum || c == '_' || c == '-'

/-- Reads one key. -/
def readKey? (t : Text) : Option (Text × Text) :=
  match t.takeWhile isKeyChar with
  | [] => readShortString? t
  | key => some (key, t.dropWhile isKeyChar)

/-- Reads keys with points between them. -/
def readKeys? : (fuel : Nat) → Text → Option (List Text × Text)
  | 0, _ => none
  | fuel + 1, t =>
    match readKey? (skipBlanks t) with
    | none => none
    | some (key, rest) =>
      match skipBlanks rest with
      | '.' :: rest => (readKeys? fuel rest).map fun (keys, rest) => (key :: keys, rest)
      | rest => some ([key], rest)

/-- Reads the keys of an assignment and its sign. -/
def readAssigned? (t : Text) : Option (List Text × Text) :=
  match readKeys? (t.length + 1) t with
  | some (keys, '=' :: rest) => some (keys, rest)
  | _ => none

/-! ### Values -/

/-- How deep brackets and braces may be nested. -/
def maxDepth : Nat := 80

mutual

/-- Reads a value; `depth` more levels may be opened, and `fuel` bounds the number of steps. -/
def readValue? : (fuel depth : Nat) → Text → Option (Toml × Text)
  | 0, _, _ => none
  | fuel + 1, depth, t =>
    match t with
    | '"' :: _ => (readString? t).map fun (s, rest) => (.string s, rest)
    | '\x27' :: _ => (readString? t).map fun (s, rest) => (.string s, rest)
    | '[' :: rest =>
      match depth with
      | 0 => none
      | depth + 1 => (readItems? fuel depth rest).map fun (items, rest) => (.array items, rest)
    | '\x7b' :: rest =>
      match depth with
      | 0 => none
      | depth + 1 =>
        (readEntries? fuel depth [] rest).map fun (entries, rest) => (.table .braces entries, rest)
    | _ => readScalar? t

/-- Reads the items of an array up to its closing bracket, which may follow a comma. -/
def readItems? : (fuel depth : Nat) → Text → Option (List Toml × Text)
  | 0, _, _ => none
  | fuel + 1, depth, t =>
    match skipTrivia? false t with
    | none => none
    | some (']' :: rest) => some ([], rest)
    | some t =>
      match readValue? fuel depth t with
      | none => none
      | some (item, rest) =>
        match skipTrivia? false rest with
        | some (']' :: rest) => some ([item], rest)
        | some (',' :: rest) =>
          (readItems? fuel depth rest).map fun (items, rest) => (item :: items, rest)
        | _ => none

/-- Reads the entries of a table up to its closing brace, which may follow a comma, and adds them
to those before. -/
def readEntries? : (fuel depth : Nat) → Entries → Text → Option (Entries × Text)
  | 0, _, _, _ => none
  | fuel + 1, depth, entries, t =>
    match skipTrivia? false t with
    | none => none
    | some ('\x7d' :: rest) => some (entries, rest)
    | some t =>
      match readAssigned? t with
      | none => none
      | some (keys, rest) =>
        match readValue? fuel depth (skipBlanks rest) with
        | none => none
        | some (value, rest) =>
          match insertDotted? value keys entries, skipTrivia? false rest with
          | some entries, some ('\x7d' :: rest) => some (entries, rest)
          | some entries, some (',' :: rest) => readEntries? fuel depth entries rest
          | _, _ => none

end

/-! ### Lines -/

/-- What has been read of a document: its entries, and the header in force. -/
structure Progress where
  root : Entries := []
  header : List Text := []

/-- Reads a header after its opening brackets, up to the end of the line. -/
def readHeader? (closing : Text) (t : Text) : Option (List Text × Text) :=
  match readKeys? (t.length + 1) t with
  | none => none
  | some (keys, rest) =>
    ((Text.afterExact? closing rest).bind afterLineEnd?).map fun rest => (keys, rest)

/-- The state after a header whose effect is `define`. -/
def Progress.enter? (s : Progress) (define : List Text → Text → Entries → Option Entries)
    (keys : List Text) : Option Progress :=
  match keys.getLast? with
  | none => none
  | some key => (define keys.dropLast key s.root).map fun root => ⟨root, keys⟩

/-- Reads one line that is not empty: the state after it, and what follows. -/
def Progress.line? (s : Progress) (t : Text) : Option (Progress × Text) :=
  match t with
  | '[' :: '[' :: rest => do
    let (keys, rest) ← readHeader? "]]".toList rest
    return (← s.enter? appendTable? keys, rest)
  | '[' :: rest => do
    let (keys, rest) ← readHeader? "]".toList rest
    return (← s.enter? defineTable? keys, rest)
  | t => do
    let (keys, rest) ← readAssigned? t
    let (value, rest) ← readValue? (2 * rest.length + 2) maxDepth (skipBlanks rest)
    let rest ← afterLineEnd? rest
    return ({ s with root := ← assign? s.header keys value s.root }, rest)

/-- Reads lines. Each takes at least one character, so the length of the text is fuel enough. -/
def readDocument? : (fuel : Nat) → Progress → Text → Option Entries
  | 0, _, _ => none
  | fuel + 1, s, t =>
    match skipTrivia? false t with
    | none => none
    | some [] => some s.root
    | some t => (s.line? t).bind fun (s, rest) => readDocument? fuel s rest

/-- Reads a document. A byte order mark at its start does not count. -/
def parse? (t : Text) : Option Entries :=
  let t := if t.head? = some '\uFEFF' then t.tail else t
  readDocument? (t.length + 1) {} t

end Toml
end Notebook
