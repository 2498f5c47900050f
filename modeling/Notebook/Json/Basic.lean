import Notebook.Text.Basic

/-!
# JSON values

Numbers are whole or doubles, and an object has its fields in order.
-/

namespace Notebook

/-- A JSON value. -/
inductive Json where
  | null
  | bool (value : Bool)
  | integer (value : Int)
  | float (value : Float)
  | string (value : Text)
  | array (items : List Json)
  | object (fields : List (Text × Json))
deriving Repr, Inhabited

namespace Json

/-- A value that may be absent. -/
def ofOption {α : Type} (write : α → Json) : Option α → Json
  | none => null
  | some a => write a

/-- A text that may be absent. -/
def ofText? : Option Text → Json := ofOption string

/-- A natural number. -/
def ofNat (n : Nat) : Json := integer n

/-- An object, given its fields with their names. -/
def record (fields : List (String × Json)) : Json :=
  object (fields.map fun (name, value) => (name.toList, value))

/-- The value of the last field of a name, as a later field takes the place of an earlier one. -/
def field? (name : Text) (fields : List (Text × Json)) : Option Json :=
  (fields.reverse.find? (·.1 = name)).map (·.2)

end Json
end Notebook
