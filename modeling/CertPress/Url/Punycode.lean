import CertPress.Text.Pieces

/-!
# Punycode

A label of a domain name with characters outside ASCII, written with letters,
digits and hyphens.  The ASCII characters come first.  After them come numbers,
each of which says where the next character goes and which one it is, in the
order of the characters.
-/

namespace CertPress.Url.Punycode

/-- The first character that is not written as itself. -/
def firstCode : Nat := 128

/-- The bias before the first number. -/
def firstBias : Nat := 72

/-- Bring a difference below the size at which the bias grows by whole rounds. -/
def scaleDown (rounds delta : Nat) : Nat × Nat :=
  if delta ≤ 455 then (rounds, delta) else scaleDown (rounds + 1) (delta / 35)
  termination_by delta
  decreasing_by omega

/-- The bias after a number, when `count` characters are in place. -/
def adapt (delta count : Nat) (isFirst : Bool) : Nat :=
  let halved := if isFirst then delta / 700 else delta / 2
  let (rounds, rest) := scaleDown 0 (halved + halved / count)
  36 * rounds + 36 * rest / (rest + 38)

/-- The value from which on a digit at a place is not the last one. -/
def threshold (bias place : Nat) : Nat :=
  if place ≤ bias then 1 else if bias + 26 ≤ place then 26 else place - bias

/-- The digit of a value below 36: a letter, or a decimal digit from 26 on. -/
def digit (value : Nat) : Char :=
  if value < 26 then Char.ofNat ('a'.toNat + value) else Char.ofNat ('0'.toNat + (value - 26))

/-- The value of a digit. -/
def digitValue? (char : Char) : Option Nat :=
  if 'a' ≤ char ∧ char ≤ 'z' then some (char.toNat - 'a'.toNat)
  else if '0' ≤ char ∧ char ≤ '9' then some (char.toNat - '0'.toNat + 26)
  else none

theorem threshold_pos (bias place : Nat) : 0 < threshold bias place := by
  unfold threshold
  split
  · exact Nat.one_pos
  · split <;> omega

/-- The digits of a number, the least significant one first. -/
def digits (bias place number : Nat) : List Char :=
  let limit := threshold bias place
  if number < limit then [digit number]
  else digit (limit + (number - limit) % (36 - limit)) ::
    digits bias (place + 36) ((number - limit) / (36 - limit))
  termination_by number
  decreasing_by
    have positive := threshold_pos bias place
    exact Nat.lt_of_le_of_lt (Nat.div_le_self _ _) (by omega)

/-- What has been written of a label. -/
structure Written where
  /-- The difference that the next number has gathered so far. -/
  delta : Nat
  bias : Nat
  /-- The number of characters that are in place. -/
  count : Nat
  isFirst : Bool
  chars : List Char

/-- Write one character of a label, if its turn has come. -/
def writeChar (code : Nat) (written : Written) (char : Char) : Written :=
  if char.toNat < code then { written with delta := written.delta + 1 }
  else if char.toNat = code then
    { delta := 0
      bias := adapt written.delta (written.count + 1) written.isFirst
      count := written.count + 1
      isFirst := false
      chars := written.chars ++ digits written.bias 36 written.delta }
  else written

/-- Write the characters with the given codes, which increase. -/
def writeCodes (label : List Char) (reached : Nat) (written : Written) : List Nat → List Char
  | [] => written.chars
  | code :: rest =>
      let skipped :=
        { written with delta := written.delta + (code - reached) * (written.count + 1) }
      let next := label.foldl (writeChar code) skipped
      writeCodes label (code + 1) { next with delta := next.delta + 1 } rest

/-- The ASCII characters of a label. -/
def basic (label : List Char) : List Char := label.filter (·.toNat < firstCode)

/-- The written form of a label. -/
def encode (label : List Char) : List Char :=
  let start := basic label
  let codes := ((label.map Char.toNat).filter (firstCode ≤ ·)).mergeSort.eraseDups
  writeCodes label firstCode
    ⟨0, firstBias, start.length, true, if start.isEmpty then [] else start ++ ['-']⟩ codes

/-- What has been read of a label. -/
structure Reading where
  code : Nat
  /-- Where the last character was put, counted over all rounds. -/
  position : Nat
  bias : Nat
  label : List Char
  /-- The number that is being read, with the weight and the place of its next
  digit. -/
  number : Nat
  weight : Nat
  place : Nat

/-- The number that nothing in a label reaches. -/
def limit : Nat := Nat.pow 2 32

/-- Put the character in place that a number stands for. -/
def Reading.finish (reading : Reading) (number : Nat) : Option Reading :=
  let total := reading.position + number
  let count := reading.label.length + 1
  let code := reading.code + total / count
  if h : code.isValidChar then
    some {
      code
      position := total % count + 1
      bias := adapt number count (reading.position == 0)
      label := reading.label.take (total % count) ++
        Char.ofNatAux code h :: reading.label.drop (total % count)
      number := 0
      weight := 1
      place := 36 }
  else none

/-- Read the numbers of a label. -/
def readNumbers (reading : Reading) : List Char → Option (List Char)
  | [] => if reading.place = 36 then some reading.label else none
  | char :: rest => do
      let value ← digitValue? char
      let enough := threshold reading.bias reading.place
      let number := reading.number + value * reading.weight
      let weight := reading.weight * (36 - enough)
      if limit ≤ number then none
      else if value < enough then readNumbers (← reading.finish number) rest
      else if limit ≤ weight then none
      else readNumbers { reading with number, weight, place := reading.place + 36 } rest

/-- The label that a text is the written form of. -/
def decode? (chars : List Char) : Option (List Char) :=
  let (start, numbers) := (Text.cutLast? ['-'] chars).getD ([], chars)
  readNumbers ⟨firstCode, 0, firstBias, start, 0, 1, 36⟩ numbers

end CertPress.Url.Punycode
