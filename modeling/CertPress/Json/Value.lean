import CertPress.Json.Number
import CertPress.Mapping

/-!
# JSON values

The values that payloads, configuration and records are made of.  The members
of an object are a list: free-form objects have them in key order, records in
the order of their fields.
-/

namespace CertPress.Json

/-- A JSON value. -/
inductive Value where
  | null
  | bool (value : Bool)
  | number (value : Number)
  | string (value : String)
  | array (items : List Value)
  | object (members : List (String × Value))
  deriving BEq, Repr, Inhabited

/-- A free-form JSON object. -/
abbrev Object := Mapping Value

namespace Value

/-- A free-form object as a value. -/
def ofObject (object : Object) : Value := .object object.entries

/-- The member of an object with a key; none in every other value. -/
def member? (value : Value) (key : String) : Option Value :=
  match value with
  | .object members => valueAt? key members
  | _ => none

/-- The text of a value, if it is a string. -/
def string? : Value → Option String
  | .string text => some text
  | _ => none

/-- Whether the value is a string, number, Boolean or null. -/
def isScalar : Value → Bool
  | .array _ => false
  | .object _ => false
  | _ => true

/-- A text or null. -/
def ofText? : Option String → Value
  | some text => .string text
  | none => .null

/-- A list of texts. -/
def ofTexts (texts : List String) : Value := .array (texts.map .string)

/-- A natural number. -/
def ofNat (number : Nat) : Value := .number (.integer number)

end Value

end CertPress.Json
