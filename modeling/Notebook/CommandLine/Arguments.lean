import Notebook.Text.Basic

/-!
# The arguments of the program (specification §6, §10.5)

```text
[options] parse INPUT             (also p)
[options] lists [FILE]            (also l)
[options] ask QUESTION -n NOTES   (also a)
[options] config

-o, --output text|json    -c, --config PATH    -v, --verbose    -h, --help    -V, --version
```

Options may stand before the command and after its name; what is given after it wins. An option is
given at most once on either side. Its value is the next argument, or is attached: `--output=json`,
`-ojson`, `-o=json`; several letters may follow one hyphen. After `--` everything is an operand.
Help and version end the reading where they are met. The input to `parse` may start with a hyphen,
as long as it is no option.

* `Invocation.ofArguments` — what the arguments ask for.
-/

namespace Notebook

/-- How results are written. -/
inductive Format where
  | text
  | json
deriving Repr, DecidableEq

/-- The output format that a word names. -/
def Format.ofName? (name : Text) : Option Format :=
  if name = "text".toList then some .text
  else if name = "json".toList then some .json
  else none

/-- What the program can be asked to do. -/
inductive Task where
  | parse (input : Text)
  | lists (file : Option Text)
  | ask (question notes : Text)
  | config
deriving Repr, DecidableEq

/-- A task with the options that hold for it. -/
structure Invocation where
  task : Task
  output : Format := .text
  config : Option Text := none
  verbose : Bool := false
deriving Repr, DecidableEq

/-- Why the reading of arguments ends without an invocation. -/
inductive Stop where
  | help
  | version
  | misuse
deriving Repr, DecidableEq

/-! ### Names -/

/-- The names of the tasks. -/
inductive TaskName where
  | parse
  | lists
  | ask
  | config
deriving Repr, DecidableEq

/-- The task that a word names, in full or by its first letter. -/
def TaskName.ofWord? (word : Text) : Option TaskName :=
  if word = "parse".toList ∨ word = "p".toList then some .parse
  else if word = "lists".toList ∨ word = "l".toList then some .lists
  else if word = "ask".toList ∨ word = "a".toList then some .ask
  else if word = "config".toList then some .config
  else none

/-- The options. -/
inductive Switch where
  | output
  | config
  | notes
  | verbose
  | help
  | version
deriving Repr, DecidableEq

namespace Switch

/-- Every option. -/
def all : List Switch := [output, config, notes, verbose, help, version]

/-- The word of an option. -/
def word : Switch → Text
  | output => "output".toList
  | config => "config".toList
  | notes => "notes".toList
  | verbose => "verbose".toList
  | help => "help".toList
  | version => "version".toList

/-- The letter of an option. -/
def letter : Switch → Char
  | output => 'o'
  | config => 'c'
  | notes => 'n'
  | verbose => 'v'
  | help => 'h'
  | version => 'V'

/-- Whether an option can be given before any task (`none`) or after the name of one. Notes are only
asked about, and the version is asked for at the start. -/
def isKnown (place : Option TaskName) : Switch → Bool
  | notes => place = some .ask
  | version => place = none
  | _ => true

/-- The options that can be given at a place. -/
def known (place : Option TaskName) : List Switch := all.filter (isKnown place)

/-- The option of a word. -/
def ofWord? (place : Option TaskName) (word : Text) : Option Switch :=
  (known place).find? (·.word = word)

/-- The option of a letter. -/
def ofLetter? (place : Option TaskName) (letter : Char) : Option Switch :=
  (known place).find? (·.letter = letter)

end Switch

/-! ### What has been given -/

/-- What has been given before the task or after its name. -/
structure Given where
  output : Option Format := none
  config : Option Text := none
  notes : Option Text := none
  verbose : Bool := false
  operand : Option Text := none
deriving Repr, DecidableEq

/-- Fills a field that must be empty. -/
def fill {α : Type} (field : Option α) (value : α) : Except Stop (Option α) :=
  if field.isNone then .ok (some value) else .error .misuse

/-- A path, which is never empty. -/
def asPath (value : Text) : Except Stop Text :=
  if value.isEmpty then .error .misuse else .ok value

namespace Given

/-- Gives an option a value. -/
def set (g : Given) (s : Switch) (value : Text) : Except Stop Given :=
  match s with
  | .output => do
    match Format.ofName? value with
    | some format => return { g with output := ← fill g.output format }
    | none => throw .misuse
  | .config => do return { g with config := ← fill g.config (← asPath value) }
  | .notes => do return { g with notes := ← fill g.notes (← asPath value) }
  | _ => .error .misuse

/-- Gives an option as it stands: the option that now waits for a value, if it needs one. -/
def switch (g : Given) (s : Switch) : Except Stop (Given × Option Switch) :=
  match s with
  | .help => .error .help
  | .version => .error .version
  | .verbose => if g.verbose then .error .misuse else .ok ({ g with verbose := true }, none)
  | s => .ok (g, some s)

/-- Gives the operand. A task has one at most. -/
def operate (task : TaskName) (g : Given) (value : Text) : Except Stop Given := do
  let operand ← fill g.operand value
  match task with
  | .parse => return { g with operand }
  | .ask => return { g with operand }
  | .lists =>
    let _ ← asPath value
    return { g with operand }
  | .config => throw .misuse

end Given

/-! ### Options -/

/-- Reads what follows two hyphens. -/
def readWord (place : Option TaskName) (g : Given) (body : Text) :
    Except Stop (Given × Option Switch) :=
  let name := body.takeWhile (· ≠ '=')
  match Switch.ofWord? place name, body.drop name.length with
  | none, _ => .error .misuse
  | some s, [] => g.switch s
  | some s, _ :: value => do return (← g.set s value, none)

/-- Reads what follows one hyphen. After an option with a value, the rest is the value. -/
def readLetters (place : Option TaskName) (g : Given) : Text → Except Stop (Given × Option Switch)
  | [] => .ok (g, none)
  | c :: rest =>
    match Switch.ofLetter? place c with
    | none => .error .misuse
    | some s => do
      let (g, waiting) ← g.switch s
      match waiting, rest with
      | none, rest => readLetters place g rest
      | some s, [] => return (g, some s)
      | some s, '=' :: value => return (← g.set s value, none)
      | some s, value => return (← g.set s value, none)

/-- What an argument looks like. -/
inductive Shape where
  /-- Two hyphens alone. -/
  | separator
  /-- An option or several, as the reader tells. -/
  | switches (read : Given → Except Stop (Given × Option Switch))
  /-- Anything else: a value or an operand. -/
  | plain

/-- The shape of an argument. Where `anything` is true, what is no option is plain even if it starts
with a hyphen; for letters after one hyphen, all of them must be options then. -/
def Shape.ofArgument (place : Option TaskName) (anything : Bool) (argument : Text) : Shape :=
  match argument with
  | ['-', '-'] => .separator
  | '-' :: '-' :: body =>
    if anything && (Switch.ofWord? place (body.takeWhile (· ≠ '='))).isNone then .plain
    else .switches (readWord place · body)
  | '-' :: c :: rest =>
    if anything && (c :: rest).any (fun c => (Switch.ofLetter? place c).isNone) then .plain
    else .switches (readLetters place · (c :: rest))
  | _ => .plain

/-! ### Reading -/

/-- Reads the arguments after the name of a task; `waiting` is the option whose value comes next. -/
def readAfter (task : TaskName) : Given → (waiting : Option Switch) → List Text → Except Stop Given
  | g, none, [] => .ok g
  | _, some _, [] => .error .misuse
  | g, waiting, argument :: rest =>
    match Shape.ofArgument task (task = .parse && g.operand.isNone) argument, waiting with
    | .separator, none => rest.foldlM (Given.operate task) g
    | .switches read, none => do
      let (g, waiting) ← read g
      readAfter task g waiting rest
    | .plain, none => do readAfter task (← g.operate task argument) none rest
    | .plain, some s => do readAfter task (← g.set s argument) none rest
    | _, some _ => .error .misuse

/-- The task that was named, with what was given for it. -/
def Given.task (g : Given) : TaskName → Except Stop Task
  | .parse => g.operand.elim (.error .misuse) fun input => .ok (.parse input)
  | .lists => .ok (.lists g.operand)
  | .ask =>
    match g.operand, g.notes with
    | some question, some notes => .ok (.ask question notes)
    | _, _ => .error .misuse
  | .config => .ok .config

/-- The invocation made of what was given before a task and after its name. -/
def Given.invocation (before after : Given) (task : TaskName) : Except Stop Invocation := do
  return {
    task := ← after.task task
    output := (after.output.or before.output).getD .text
    config := after.config.or before.config
    verbose := before.verbose || after.verbose }

/-- Reads the arguments after the word `help`, which name at most one task or `help` itself. -/
def readHelp : List Text → Stop
  | [] => .help
  | [word] =>
    if word = "help".toList ∨ (TaskName.ofWord? word).isSome then .help else .misuse
  | _ => .misuse

/-- Reads arguments from before the task on; `waiting` is the option whose value comes next. -/
def readBefore : Given → (waiting : Option Switch) → List Text → Except Stop Invocation
  | _, _, [] => .error .misuse
  | g, some s, argument :: rest =>
    match Shape.ofArgument none false argument with
    | .plain => do readBefore (← g.set s argument) none rest
    | _ => .error .misuse
  | g, none, argument :: rest =>
    match Shape.ofArgument none false argument with
    | .separator => .error .misuse
    | .switches read => do
      let (g, waiting) ← read g
      readBefore g waiting rest
    | .plain =>
      match TaskName.ofWord? argument with
      | some task => do g.invocation (← readAfter task {} none rest) task
      | none => .error (if argument = "help".toList then readHelp rest else .misuse)

/-- What the arguments ask for. -/
def Invocation.ofArguments (arguments : List Text) : Except Stop Invocation :=
  readBefore {} none arguments

end Notebook
