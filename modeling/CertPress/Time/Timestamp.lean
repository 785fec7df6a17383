import CertPress.Text.Ascii
import CertPress.Time.Calendar

/-!
# Timestamps

Moments with a resolution of one nanosecond, and their RFC 3339 form.  Writing
always gives the form in UTC, with as many digits of the fraction as are
needed.  Reading asks for a date, a time and an offset; the separators may be
left out, and bracketed annotations may follow.
-/

namespace CertPress.Time

/-- A moment: whole seconds since the start of 1970 in UTC, and nanoseconds. -/
structure Timestamp where
  seconds : Int
  nanos : Nat
  deriving DecidableEq, Repr, Inhabited

namespace Timestamp

/-- The first second of the range. -/
def minSeconds : Int := -377705023201

/-- The last second of the range. -/
def maxSeconds : Int := 253402207200

/-- The written form of a year: four digits, or a sign and six digits for a
year before zero. -/
def yearChars (year : Int) : List Char :=
  if 0 ≤ year then Text.decimalPadded 4 year.toNat
  else '-' :: Text.decimalPadded 6 year.natAbs

/-- The digits of a fraction of a second, without trailing zeros. -/
def fractionDigits (nanos : Nat) : List Char :=
  ((Text.decimalPadded 9 nanos).reverse.dropWhile (· == '0')).reverse

/-- The written form. -/
def chars (moment : Timestamp) : List Char :=
  let date := Date.ofDays (moment.seconds / 86400)
  let second := (moment.seconds % 86400).toNat
  let two (number : Nat) := Text.decimalPadded 2 number
  let fraction :=
    if moment.nanos = 0 then [] else '.' :: fractionDigits moment.nanos
  yearChars date.year ++ '-' :: two date.month ++ '-' :: two date.day ++
    'T' :: two (second / 3600) ++ ':' :: two (second / 60 % 60) ++
    ':' :: two (second % 60) ++ fraction ++ ['Z']

/-- The written form as a string. -/
def text (moment : Timestamp) : String := String.ofList moment.chars

/-- The date in UTC with the day first. -/
def dayFirst (moment : Timestamp) : String :=
  let date := Date.ofDays (moment.seconds / 86400)
  String.ofList (Text.decimalPadded 2 date.day ++ '/' :: Text.decimalPadded 2 date.month ++
    '/' :: yearChars date.year)

/-- A reader of a part of the written form: the part and the text after it. -/
abbrev Part (α : Type) := List Char → Option (α × List Char)

/-- Exactly `count` digits. -/
def digits (count : Nat) : Part Nat := fun chars =>
  if (chars.take count).length = count then
    (Text.decimal? (chars.take count)).map (·, chars.drop count)
  else none

/-- Two digits up to a largest number. -/
def twoDigits (largest : Nat) : Part Nat := fun chars => do
  let (number, rest) ← digits 2 chars
  if number ≤ largest then some (number, rest) else none

/-- A given character. -/
def char (expected : Char) : Part Unit
  | first :: rest => if first = expected then some ((), rest) else none
  | [] => none

/-- A year: four digits, or a sign and six digits. -/
def year : Part Int := fun chars =>
  match chars with
  | '-' :: rest => do
      let (number, rest) ← digits 6 rest
      if 0 < number ∧ number ≤ 9999 then some (-(number : Int), rest) else none
  | '+' :: rest => do
      let (number, rest) ← digits 6 rest
      if number ≤ 9999 then some ((number : Int), rest) else none
  | _ => (digits 4 chars).map fun (number, rest) => ((number : Int), rest)

/-- A hyphen between parts of a date, if the first such place has one. -/
def hyphen (extended : Bool) : Part Unit := fun chars =>
  if extended then char '-' chars
  else if chars.head? = some '-' then none
  else some ((), chars)

/-- A date. -/
def date : Part Date := fun chars => do
  let (year, rest) ← year chars
  let extended := rest.head? == some '-'
  let (_, rest) ← hyphen extended rest
  let (month, rest) ← digits 2 rest
  let (_, rest) ← hyphen extended rest
  let (day, rest) ← digits 2 rest
  let found : Date := ⟨year, month, day⟩
  if found.valid then some (found, rest) else none

/-- Whether another part of a time follows, and the text at that part. -/
def moreTime (extended : Bool) (chars : List Char) : Bool × List Char :=
  if extended then
    match chars with
    | ':' :: rest => (true, rest)
    | _ => (false, chars)
  else
    match chars with
    | first :: second :: _ => (first.isDigit && second.isDigit, chars)
    | _ => (false, chars)

/-- A fraction of a second in nanoseconds, after a point or a comma; at most
nine digits belong to it. -/
def fraction : Part Nat := fun chars =>
  match chars with
  | mark :: rest =>
      if mark = '.' || mark = ',' then
        let taken := (rest.take 9).takeWhile Char.isDigit
        (Text.decimal? taken).map fun number =>
          (number * Nat.pow 10 (9 - taken.length), rest.drop taken.length)
      else some (0, chars)
  | [] => some (0, [])

/-- A time of day, in seconds and nanoseconds.  A leap second reads as the
second before it. -/
def timeOfDay : Part (Nat × Nat) := fun chars => do
  let (hour, rest) ← twoDigits 23 chars
  let extended := rest.head? == some ':'
  match moreTime extended rest with
  | (false, rest) => some ((hour * 3600, 0), rest)
  | (true, rest) =>
      let (minute, rest) ← twoDigits 59 rest
      match moreTime extended rest with
      | (false, rest) => some ((hour * 3600 + minute * 60, 0), rest)
      | (true, rest) =>
          let (second, rest) ← twoDigits 60 rest
          let (nanos, rest) ← fraction rest
          some ((hour * 3600 + minute * 60 + min second 59, nanos), rest)

/-- The digits of an offset, in seconds.  Half a second and more rounds up. -/
def offsetAmount (subminute : Bool) : Part Nat := fun chars => do
  let (hour, rest) ← twoDigits 25 chars
  let extended := rest.head? == some ':'
  match moreTime extended rest with
  | (false, rest) => some (hour * 3600, rest)
  | (true, rest) =>
      let (minute, rest) ← twoDigits 59 rest
      if !subminute then
        if rest.head? = some ':' then none else some (hour * 3600 + minute * 60, rest)
      else match moreTime extended rest with
        | (false, rest) => some (hour * 3600 + minute * 60, rest)
        | (true, rest) =>
            let (second, rest) ← twoDigits 59 rest
            let (nanos, rest) ← fraction rest
            let rounded := if 500000000 ≤ nanos then second + 1 else second
            let total := hour * 3600 + minute * 60 + rounded
            if total ≤ 93599 then some (total, rest) else none

/-- An offset from UTC in seconds. -/
def offset : Part Int := fun chars =>
  match chars with
  | 'Z' :: rest => some (0, rest)
  | 'z' :: rest => some (0, rest)
  | '+' :: rest => (offsetAmount true rest).map fun (total, rest) => ((total : Int), rest)
  | '-' :: rest => (offsetAmount true rest).map fun (total, rest) => (-(total : Int), rest)
  | _ => none

/-- A run that starts with one class of characters and goes on with
another. -/
def run (first more : Char → Bool) : Part Unit := fun chars =>
  match chars with
  | head :: rest => if first head then some ((), rest.dropWhile more) else none
  | [] => none

/-- One part of the name of a time zone. -/
def zoneName : Part Unit :=
  run (fun head => head.isAlpha || head == '_' || head == '.')
    (fun next => next.isAlphanum || next == '_' || next == '.' || next == '-' || next == '+')

/-- Further parts of the name of a time zone, with slashes before them. -/
def zoneNames (chars : List Char) : (fuel : Nat) → Option (List Char)
  | 0 => some chars
  | fuel + 1 =>
      match chars with
      | '/' :: rest => do
          let (_, rest) ← zoneName rest
          zoneNames rest fuel
      | _ => some chars

/-- The text without an exclamation mark at its start. -/
def skipCritical (chars : List Char) : List Char :=
  match chars with
  | '!' :: rest => rest
  | _ => chars

/-- The text after a time zone in brackets, if there is one. -/
def zoneAnnotation (chars : List Char) : Option (List Char) :=
  match chars with
  | '[' :: inside => do
      let inside := skipCritical inside
      let signed := inside.head? == some '+' || inside.head? == some '-'
      if signed then
        let (_, rest) ← offsetAmount false (inside.drop 1)
        (char ']' rest).map (·.2)
      else
        let (_, rest) ← zoneName inside
        if rest.head? = some '=' then some chars
        else
          let rest ← zoneNames rest rest.length
          (char ']' rest).map (·.2)
  | _ => some chars

/-- The values of an annotation, with hyphens between them. -/
def annotationValues (chars : List Char) : (fuel : Nat) → Option (List Char)
  | 0 => none
  | fuel + 1 => do
      let (_, rest) ← run Char.isAlphanum Char.isAlphanum chars
      match rest with
      | '-' :: rest => annotationValues rest fuel
      | _ => some rest

/-- The text after further annotations, each a key and its values.  None of
them is understood, so none may be critical. -/
def annotations (chars : List Char) : (fuel : Nat) → Option (List Char)
  | 0 => some chars
  | fuel + 1 =>
      match chars with
      | '[' :: inside => do
          let small (head : Char) := head.isLower || head == '_'
          let (_, rest) ← run small
            (fun next => small next || next.isDigit || next == '-') inside
          let (_, rest) ← char '=' rest
          let rest ← annotationValues rest (rest.length + 1)
          let (_, rest) ← char ']' rest
          annotations rest fuel
      | _ => some chars

/-- Read a moment. -/
def ofChars? (chars : List Char) : Option Timestamp := do
  let (date, rest) ← date chars
  match rest with
  | mark :: rest =>
      if mark = 'T' || mark = 't' || mark = ' ' then
        let ((second, nanos), rest) ← timeOfDay rest
        let (shift, rest) ← offset rest
        let rest ← zoneAnnotation rest
        let rest ← annotations rest rest.length
        let total := date.toDays * 86400 + second - shift
        if rest.isEmpty ∧ minSeconds ≤ total ∧ total ≤ maxSeconds then
          some ⟨total, nanos⟩
        else none
      else none
  | [] => none

/-- Read a moment. -/
def ofString? (text : String) : Option Timestamp := ofChars? text.toList

end Timestamp

end CertPress.Time
