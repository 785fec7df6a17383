import CertPress.Json.Raw
import CertPress.Json.Writer
import CertPress.Text.Utf8

/-!
# Reading JSON

Decoders turn the tree of a JSON text into values of a type.  A decoder walks
the tree in the order of the text and stops at the first fault: either the text
is malformed there, or it is well-formed but does not have the shape that the
type asks for.

A record is written as an object of its fields, in any order and with further
members that are ignored, or as an array of its fields in their own order.
-/

namespace CertPress.Json

/-- Why a text does not read as a value of a type. -/
inductive Fault where
  /-- The text is no JSON, nests too deeply, or holds a number that is too
  large or an unpaired surrogate. -/
  | malformed
  /-- The text is JSON of another shape. -/
  | mismatched
  deriving DecidableEq, Repr, Inhabited

/-- The containers that may be entered one inside the other, and one more. -/
def depthLimit : Nat := 128

/-- A way to read a type from the tree of a text, given the remaining depth. -/
abbrev Decoder (α : Type) := (depth : Nat) → Raw → Except Fault α

/-- The character of an escape of a single letter. -/
def shortEscape : Char → Char
  | 'b' => '\x08'
  | 'f' => '\x0c'
  | 'n' => '\n'
  | 'r' => '\r'
  | 't' => '\t'
  | char => char

/-- The number of four hexadecimal digits. -/
def codeUnit (a b c d : Char) : Nat :=
  (Text.hexadecimal? [a, b, c, d]).getD 0

/-- The text that the body of a string stands for; none where it holds an
unpaired surrogate. -/
def unescape : List Char → Option (List Char)
  | [] => some []
  | '\\' :: 'u' :: a :: b :: c :: d :: '\\' :: 'u' :: e :: f :: g :: h :: rest =>
      let high := codeUnit a b c d
      let low := codeUnit e f g h
      if 0xD800 ≤ high ∧ high ≤ 0xDBFF then
        if 0xDC00 ≤ low ∧ low ≤ 0xDFFF then
          (unescape rest).map
            (Char.ofNat (0x10000 + (high - 0xD800) * 0x400 + (low - 0xDC00)) :: ·)
        else none
      else if 0xDC00 ≤ high ∧ high ≤ 0xDFFF then none
      else (unescape ('\\' :: 'u' :: e :: f :: g :: h :: rest)).map (Char.ofNat high :: ·)
  | '\\' :: 'u' :: a :: b :: c :: d :: rest =>
      let unit := codeUnit a b c d
      if 0xD800 ≤ unit ∧ unit ≤ 0xDFFF then none
      else (unescape rest).map (Char.ofNat unit :: ·)
  | '\\' :: escaped :: rest => (unescape rest).map (shortEscape escaped :: ·)
  | char :: rest => (unescape rest).map (char :: ·)

/-- The depth inside a container, unless it is exhausted. -/
def enter (depth : Nat) : Except Fault Nat :=
  if depth ≤ 1 then .error .malformed else .ok (depth - 1)

/-- The characters of a string's body; none where a place of it is no
character. -/
def charsOf? (body : Source) : Option (List Char) := (body.mapM id).bind unescape

/-- The text of a string's body. -/
def textOf (body : Source) : Except Fault String :=
  match charsOf? body with
  | some chars => .ok (String.ofList chars)
  | none => .error .malformed

/-- The fault of a tree that has another shape than the one asked for.  The
number or string at hand is still read, and may be at fault itself. -/
def mismatch : Raw → Fault
  | .number literal => if (Number.ofLiteral literal).isSome then .mismatched else .malformed
  | .string body => if (charsOf? body).isSome then .mismatched else .malformed
  | .broken => .malformed
  | _ => .mismatched

namespace Raw

mutual

/-- The value that a tree stands for. -/
def toValue (depth : Nat) : Raw → Except Fault Value
  | .null => .ok .null
  | .bool value => .ok (.bool value)
  | .number literal =>
      match Number.ofLiteral literal with
      | some exact => .ok (.number exact)
      | none => .error .malformed
  | .string body => (textOf body).map .string
  | .array items closed => do
      let values ← itemsToValues (← enter depth) items
      if closed then return .array values else throw .malformed
  | .object members closed => do
      let entries ← membersToEntries (← enter depth) members
      if closed then return .object (Mapping.ofList entries).entries else throw .malformed
  | .broken => .error .malformed

/-- The values of the items of an array. -/
def itemsToValues (depth : Nat) : List Raw → Except Fault (List Value)
  | [] => .ok []
  | item :: rest => do
      let value ← item.toValue depth
      return value :: (← itemsToValues depth rest)

/-- The entries of the members of an object. -/
def membersToEntries (depth : Nat) :
    List (Source × Raw) → Except Fault (List (String × Value))
  | [] => .ok []
  | (key, item) :: rest => do
      let name ← textOf key
      let value ← item.toValue depth
      return (name, value) :: (← membersToEntries depth rest)

end

mutual

/-- The tree that a value is written as. -/
def ofValue : Value → Raw
  | .null => .null
  | .bool value => .bool value
  | .number exact =>
      match readNumber (.ofChars exact.chars) with
      | some (literal, _) => .number literal
      | none => .broken
  | .string text => .string (.ofChars (text.toList.flatMap escapeChar))
  | .array items => .array (ofItems items) true
  | .object members => .object (ofMembers members) true

/-- The trees of the items of an array. -/
def ofItems : List Value → List Raw
  | [] => []
  | item :: rest => ofValue item :: ofItems rest

/-- The trees of the members of an object. -/
def ofMembers : List (String × Value) → List (Source × Raw)
  | [] => []
  | (key, value) :: rest => (.ofChars (key.toList.flatMap escapeChar), ofValue value) :: ofMembers rest

end

end Raw

namespace Decoder

/-- Any value. -/
def value : Decoder Value := fun depth raw => raw.toValue depth

/-- A text. -/
def text : Decoder String := fun _ raw =>
  match raw with
  | .string body => textOf body
  | _ => .error (mismatch raw)

/-- A text that `read` accepts. -/
def textOfForm {α : Type} (read : String → Option α) : Decoder α := fun depth raw => do
  match read (← text depth raw) with
  | some result => return result
  | none => throw .mismatched

/-- A Boolean. -/
def bool : Decoder Bool := fun _ raw =>
  match raw with
  | .bool value => .ok value
  | _ => .error (mismatch raw)

/-- A natural number below a bound, written without point and exponent. -/
def natBelow (bound : Nat) : Decoder Nat := fun _ raw =>
  match raw with
  | .number literal =>
      match Number.ofLiteral literal with
      | some (.integer exact) =>
          if 0 ≤ exact ∧ exact < bound then .ok exact.toNat else .error .mismatched
      | some (.double _) => .error .mismatched
      | none => .error .malformed
  | _ => .error (mismatch raw)

/-- A value or null. -/
def optional {α : Type} (decoder : Decoder α) : Decoder (Option α) := fun depth raw =>
  match raw with
  | .null => .ok none
  | _ => (decoder depth raw).map some

/-- An array of values. -/
def list {α : Type} (decoder : Decoder α) : Decoder (List α) := fun depth raw =>
  match raw with
  | .array items closed => do
      let inside ← enter depth
      let values ← items.mapM (decoder inside)
      if closed then return values else throw .malformed
  | _ => .error (mismatch raw)

/-- A free-form object. -/
def object : Decoder Object := fun depth raw =>
  match raw with
  | .object members closed => do
      let entries ← Raw.membersToEntries (← enter depth) members
      if closed then return Mapping.ofList entries else throw .malformed
  | _ => .error (mismatch raw)

/-- One of a set of names, written as a text or as an object with the name as
its only key and null as its value. -/
def name {α : Type} (names : List (String × α)) : Decoder α := fun depth raw =>
  let choose (written : String) : Except Fault α :=
    match valueAt? written names with
    | some choice => .ok choice
    | none => .error .mismatched
  match raw with
  | .string body => (textOf body).bind choose
  | .object [(key, .null)] true => do
      let _ ← enter depth
      choose (← textOf key)
  | .object [(_, other)] _ => .error (mismatch other)
  | _ => .error .malformed

end Decoder

/-- The reading of a member for its faults alone. -/
abbrev Check := (depth : Nat) → Raw → Except Fault Unit

/-- The check that a decoder makes. -/
def Decoder.check {α : Type} (decoder : Decoder α) : Check := fun depth raw =>
  (decoder depth raw).map fun _ => ()

/-- The fields of a record as they were found. -/
structure Fields where
  found : List (String × Raw)
  depth : Nat
  positional : Bool
  deriving Repr, Inhabited

namespace Fields

/-- Collect the known members of an object in the order of the text.  A known
name may come once only. -/
def collect (known : List (String × Check)) (depth : Nat)
    (found : List (String × Raw)) :
    List (Source × Raw) → Except Fault (List (String × Raw))
  | [] => .ok found
  | (key, raw) :: rest => do
      let name ← textOf key
      match valueAt? name known with
      | none => collect known depth found rest
      | some check =>
          if (valueAt? name found).isSome then throw .mismatched
          check depth raw
          collect known depth ((name, raw) :: found) rest

/-- Give the items of an array to the fields in order. -/
def position (depth : Nat) (closed : Bool) :
    List (String × Check) → List Raw → Except Fault (List (String × Raw))
  | [], [] => if closed then .ok [] else .error .malformed
  | [], _ :: _ => .error .malformed
  | _ :: _, [] => if closed then .ok [] else .error .malformed
  | (name, check) :: known, raw :: rest => do
      check depth raw
      return (name, raw) :: (← position depth closed known rest)

/-- The fields of a record with the known names in their order. -/
def ofRaw (known : List (String × Check)) (depth : Nat) : Raw → Except Fault Fields
  | .object members closed => do
      let inside ← enter depth
      let found ← collect known inside [] members
      if closed then return ⟨found, inside, false⟩ else throw .malformed
  | .array items closed => do
      let inside ← enter depth
      return ⟨← position inside closed known items, inside, true⟩
  | raw => .error (mismatch raw)

variable {α : Type}

/-- The value of a field, if it is there. -/
def get? (fields : Fields) (name : String) (decoder : Decoder α) :
    Except Fault (Option α) :=
  match valueAt? name fields.found with
  | some raw => (decoder fields.depth raw).map some
  | none => .ok none

/-- The value of a field that must be there. -/
def required (fields : Fields) (name : String) (decoder : Decoder α) : Except Fault α := do
  match ← fields.get? name decoder with
  | some value => return value
  | none => throw .mismatched

/-- The value of a field that may be null, and that an object may leave
out. -/
def nullable (fields : Fields) (name : String) (decoder : Decoder α) :
    Except Fault (Option α) := do
  match ← fields.get? name decoder.optional with
  | some value => return value
  | none => if fields.positional then throw .mismatched else return none

/-- The value of a field that has a default. -/
def withDefault (fields : Fields) (name : String) (default : α) (decoder : Decoder α) :
    Except Fault α := do
  return (← fields.get? name decoder).getD default

end Fields

namespace Decoder

variable {α : Type}

/-- Read a whole text in which places that are no character are marked. -/
def readSource (decoder : Decoder α) (source : Source) : Except Fault α := do
  let document := Document.ofSource source
  let value ← decoder depthLimit document.tree
  if document.ended then return value else throw .malformed

/-- Read a whole text. -/
def read (decoder : Decoder α) (text : String) : Except Fault α :=
  decoder.readSource (.ofChars text.toList)

/-- Read the content of a file.  Bytes that are not UTF-8 may only stand in
strings that nobody asks for. -/
def readBytes (decoder : Decoder α) (bytes : Bytes) : Except Fault α :=
  decoder.readSource (Text.decodeEach bytes)

/-- Read a type from a value instead of a text, to any depth. -/
def ofValue (decoder : Decoder α) (value : Value) : Except Fault α :=
  decoder (Nat.pow 2 64) (Raw.ofValue value)

end Decoder

/-- The value that a text stands for. -/
def read (text : String) : Except Fault Value := Decoder.value.read text

end CertPress.Json
