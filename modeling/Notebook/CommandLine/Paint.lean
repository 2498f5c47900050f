import Notebook.World

/-!
# Colors of the output (specification §10.5)

Headings, labels and marks are colored where colors are wanted: if they are forced, or if the output
goes to a terminal and nothing speaks against them.
-/

namespace Notebook

/-- What a piece of output is, as far as its color goes. -/
inductive Paint where
  | newNote
  | command
  | refusal
  | faint
  | heading
  | marker
deriving Repr, DecidableEq

/-- The codes that turn a color on. -/
def Paint.codes : Paint → Text
  | .newNote => "1;32".toList
  | .command => "1;36".toList
  | .refusal => "1;31".toList
  | .faint => "2".toList
  | .heading => "1".toList
  | .marker => "33".toList

/-- A text in a color, if colors are wanted. -/
def Paint.apply (p : Paint) (colored : Bool) (t : Text) : Text :=
  if colored then '\x1b' :: '[' :: p.codes ++ 'm' :: t ++ ['\x1b', '[', '0', 'm'] else t

/-- Whether a variable is set to anything but zero. -/
def Environment.isOn (env : Environment) (name : Text) : Bool :=
  (env.value? name).any (· ≠ ['0'])

/-- Whether colors are wanted. -/
def World.wantsColors {m : Type → Type} (w : World m) : Bool :=
  w.environment.isOn "CLICOLOR_FORCE".toList ||
    w.onTerminal && (w.environment.value? "NO_COLOR".toList).isNone &&
      (w.environment.value? "CLICOLOR".toList).all (· ≠ ['0'])

end Notebook
