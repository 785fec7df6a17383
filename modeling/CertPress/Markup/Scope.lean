import CertPress.Json.Writer
import CertPress.Text.Blank
import CertPress.Text.Pieces

/-!
# Looking up values

The value that a dotted path names in a scope, when a value counts as holding,
and the text that a value is shown as.  A lookup never fails: what is not there
is none.
-/

namespace CertPress.Markup

open Json (Value)

/-- The bound of an index into an array. -/
def indexBound : Nat := Nat.pow 2 64

/-- The part of a value that one key names: a member of an object, or the item
of an array at an index. -/
def part? (value : Value) (key : List Char) : Option Value :=
  match value with
  | .object members => valueAt? (String.ofList key) members
  | .array items =>
      match Text.unsigned indexBound key with
      | .ok index => items[index]?
      | .error _ => none
  | _ => none

/-- The part of a value that a list of keys names, one inside the other.
Blanks around a key do not count. -/
def follow? (value : Value) (keys : List (List Char)) : Option Value :=
  keys.foldlM (fun part key => part? part (Text.trim key)) value

/-- The word that names the scope itself. -/
def selfWord : List Char := ['t', 'h', 'i', 's']

/-- What a path asks for: the scope itself, or the part that keys name.  The
word `this` may stand in front of the first key. -/
inductive Place where
  | self
  | keys (keys : List (List Char))
  deriving DecidableEq, Repr

/-- The place that a path means. -/
def placeOf (path : String) : Place :=
  let path := Text.trim path.toList
  match Text.after? selfWord path with
  | some [] => .self
  | some ('.' :: rest) => .keys (Text.split '.' rest)
  | _ => .keys (Text.split '.' path)

/-- The value at a path.  The scope itself can be had only if it is neither an
array nor an object. -/
def lookup (scope : Value) (path : String) : Option Value :=
  match placeOf path with
  | .self => if scope.isScalar then some scope else none
  | .keys keys => follow? scope keys

/-- Whether a value holds: null, false, zero and everything empty do not. -/
def holds : Value → Bool
  | .null => false
  | .bool value => value
  | .number value => !value.isZero
  | .string text => text != ""
  | .array items => !items.isEmpty
  | .object members => !members.isEmpty

/-- The text of a value: nothing for null, a string as it is, and the compact
JSON text of everything else. -/
def textOf : Value → String
  | .null => ""
  | .string text => text
  | value => value.text

end CertPress.Markup
