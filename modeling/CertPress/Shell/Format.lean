import CertPress.Decimal.Double
import CertPress.Shell.Arithmetic
import CertPress.Shell.Octets

/-!
# Escapes and formats

The escapes of printed text, and the formats by which values are printed.
-/

namespace CertPress.Shell

/-- A text, and whether it says that nothing may follow. -/
structure Printed where
  text : List Char
  stopped : Bool
  deriving DecidableEq, Repr, Inhabited

namespace Printed

/-- Characters in front of others. -/
def after (text : List Char) (printed : Printed) : Printed :=
  { printed with text := text ++ printed.text }

end Printed

/-- Whether a character is an octal digit. -/
def isOctal (char : Char) : Bool := '0' ≤ char && char ≤ '7'

/-- The number of up to `count` octal digits, cut to a byte, and the text after
them. -/
def octalAt (number : Nat) : (count : Nat) → List Char → Char × List Char
  | 0, chars => (Char.ofNat (number % 256), chars)
  | _ + 1, [] => (Char.ofNat (number % 256), [])
  | count + 1, char :: rest =>
      if isOctal char then octalAt (number * 8 + (char.toNat - '0'.toNat)) count rest
      else (Char.ofNat (number % 256), char :: rest)

theorem length_octalAt (number count : Nat) (chars : List Char) :
    (octalAt number count chars).2.length ≤ chars.length := by
  induction count generalizing number chars with
  | zero => simp [octalAt]
  | succ count hypothesis =>
      cases chars with
      | nil => simp [octalAt]
      | cons char rest =>
          simp only [octalAt]
          split
          · exact Nat.le_succ_of_le (hypothesis _ rest)
          · exact Nat.le_refl _

/-- The character of an escape with one letter. -/
def letterEscape? : Char → Option Char
  | 'a' => some '\x07'
  | 'b' => some '\x08'
  | 'e' => some '\x1b'
  | 'f' => some '\x0c'
  | 'n' => some '\n'
  | 'r' => some '\r'
  | 't' => some '\t'
  | 'v' => some '\x0b'
  | '\\' => some '\\'
  | _ => none

/-- The character of the escape that follows a backslash, and the text after
it. -/
def escapeAt (chars : List Char) : Char × List Char :=
  match chars with
  | [] => ('\\', [])
  | char :: rest =>
      match letterEscape? char with
      | some letter => (letter, rest)
      | none => if isOctal char then octalAt 0 3 (char :: rest) else ('\\', char :: rest)

theorem length_escapeAt (chars : List Char) : (escapeAt chars).2.length ≤ chars.length := by
  unfold escapeAt
  split
  · simp
  · split
    · simp
    · split
      · exact length_octalAt ..
      · simp

/-- A text with its escapes resolved.  An octal number may have a zero in front,
and printing may be stopped. -/
def unescape (chars : List Char) : Printed :=
  match chars with
  | [] => ⟨[], false⟩
  | '\\' :: 'c' :: _ => ⟨[], true⟩
  | '\\' :: rest =>
      let digits := match rest with
        | '0' :: digit :: others => if isOctal digit then digit :: others else rest
        | _ => rest
      (unescape (escapeAt digits).2).after [(escapeAt digits).1]
  | char :: rest => (unescape rest).after [char]
  termination_by chars.length
  decreasing_by
    · have bound := length_escapeAt digits
      have shorter : digits.length ≤ rest.length := by
        simp only [digits]
        split
        · split <;> simp
        · exact Nat.le_refl _
      simp only [digits] at bound shorter ⊢
      simp only [List.length_cons]
      omega
    · simp

/-- The flags, the width, the precision and the letter of a conversion.  A width
or precision may be the next argument. -/
structure Conversion where
  flags : List Char
  width : Option Nat
  precision : Option (Option Nat)
  letter : Char
  deriving DecidableEq, Repr, Inhabited

/-- The number of a format at the start of a text; none inside for an
asterisk. -/
def formatNumber (chars : List Char) : Option Nat × List Char :=
  match chars with
  | '*' :: rest => (none, rest)
  | _ =>
      let digits := chars.takeWhile Char.isDigit
      (some ((Text.decimal? digits).getD 0), chars.drop digits.length)

/-- The conversion after a percent sign, and the text after it; none if the letter
is missing. -/
def conversionAt? (chars : List Char) : Option (Conversion × List Char) :=
  let flags := chars.takeWhile ("#-+ 0".toList.contains ·)
  let (width, afterWidth) := formatNumber (chars.drop flags.length)
  let (precision, letters) : Option (Option Nat) × List Char := match afterWidth with
    | '.' :: rest =>
        let (number, after) := formatNumber rest
        (some number, after)
    | rest => (none, rest)
  match letters with
  | letter :: rest => some (⟨flags, width, precision, letter⟩, rest)
  | [] => none

/-- One piece of a format. -/
inductive FormatPart where
  | text (content : List Char)
  | value (written : List Char) (conversion : Conversion)
  /-- A conversion without a letter. -/
  | unfinished
  deriving DecidableEq, Repr, Inhabited

/-- The parts of a format.  The fuel is its length. -/
def formatParts : (fuel : Nat) → List Char → List FormatPart
  | 0, _ => []
  | fuel + 1, chars =>
      match chars with
      | [] => []
      | '%' :: '%' :: rest => .text ['%'] :: formatParts fuel rest
      | '%' :: rest =>
          match conversionAt? rest with
          | some (conversion, after) =>
              .value (chars.take (chars.length - after.length)) conversion :: formatParts fuel after
          | none => [.unfinished]
      | '\\' :: rest =>
          let (char, after) := escapeAt rest
          .text [char] :: formatParts fuel after
      | char :: rest => .text [char] :: formatParts fuel rest

/-- A value at the right or left of a field of some width. -/
def aligned (toLeft : Bool) (width : Nat) (text : List Char) : List Char :=
  let filling := List.replicate (width - text.length) ' '
  if toLeft then text ++ filling else filling ++ text

/-- A number with its sign or base in front, in a field of some width. -/
def numberField (flags : List Char) (width : Nat) (mayBeZeros : Bool) (front digits : List Char) :
    List Char :=
  if flags.contains '0' && !flags.contains '-' && mayBeZeros then
    front ++ List.replicate (width - front.length - digits.length) '0' ++ digits
  else aligned (flags.contains '-') width (front ++ digits)

/-- The sign in front of a number. -/
def signFor (flags : List Char) (isNegative : Bool) : List Char :=
  if isNegative then ['-'] else if flags.contains '+' then ['+']
  else if flags.contains ' ' then [' '] else []

/-- A whole number by a conversion. -/
def integerText (flags : List Char) (width : Nat) (precision : Option Nat) (letter : Char)
    (number : Int) : List Char :=
  let isSigned := letter == 'd' || letter == 'i'
  let magnitude := if isSigned then number.natAbs else (number % Nat.pow 2 64).toNat
  let base := if letter == 'o' then 8 else if letter == 'x' || letter == 'X' then 16 else 10
  let plain := if magnitude = 0 && precision == some 0 then []
    else (Nat.toDigits base magnitude).map fun digit => if letter == 'X' then digit.toUpper else digit
  let padded := List.replicate (precision.getD 0 - plain.length) '0' ++ plain
  let digits := if letter == 'o' && flags.contains '#' && padded.head? != some '0' then
    '0' :: padded else padded
  let front := if isSigned then signFor flags (number < 0)
    else if base = 16 && flags.contains '#' && magnitude != 0 then ['0', letter] else []
  numberField flags width precision.isNone front digits

/-- A ratio of natural numbers rounded to `places` decimal places, a half to the
even neighbour. -/
def fixedDigits (numerator denominator places : Nat) : List Char :=
  let scaled := Decimal.Double.roundQuotient (numerator * Nat.pow 10 places) denominator
  let digits := Nat.toDigits 10 scaled
  let padded := List.replicate (places + 1 - digits.length) '0' ++ digits
  let whole := padded.take (padded.length - places)
  if places = 0 then whole else whole ++ '.' :: padded.drop (padded.length - places)

/-- The decimal exponent of a ratio that is not zero, and its digits rounded to
`places` places after the first one.  The fuel bounds the exponent. -/
def scientificDigits (numerator denominator places : Nat) : Nat × Int :=
  let lengthOf (number : Nat) : Int := (Nat.toDigits 10 number).length
  let guess : Int := lengthOf numerator - lengthOf denominator
  let digitsAt (exponent : Int) : Nat :=
    let shift := Int.ofNat places - exponent
    Decimal.Double.roundQuotient (numerator * Nat.pow 10 shift.toNat)
      (denominator * Nat.pow 10 (-shift).toNat)
  let isBelow (exponent : Int) : Bool :=
    numerator * Nat.pow 10 (-exponent).toNat < denominator * Nat.pow 10 exponent.toNat
  let exponent := if isBelow guess then guess - 1 else guess
  let digits := digitsAt exponent
  if Nat.pow 10 (places + 1) ≤ digits then (digits / 10, exponent + 1) else (digits, exponent)

/-- A ratio in scientific notation. -/
def scientificText (numerator denominator places : Nat) (mark : Char) : List Char :=
  let (digits, exponent) := if numerator = 0 then (0, 0)
    else scientificDigits numerator denominator places
  let chars := Nat.toDigits 10 digits
  let padded := chars ++ List.replicate (places + 1 - chars.length) '0'
  let shown := if places = 0 then padded.take 1 else padded.take 1 ++ '.' :: padded.drop 1
  let number := Nat.toDigits 10 exponent.natAbs
  shown ++ [mark, if exponent < 0 then '-' else '+'] ++
    List.replicate (2 - number.length) '0' ++ number

/-- The text without zeros at its end, and without a point there. -/
def withoutZeros (chars : List Char) : List Char :=
  if chars.contains '.' then
    let kept := Text.dropTrailing '0' chars
    if kept.getLast? = some '.' then kept.dropLast else kept
  else chars

/-- A ratio in the shorter of the two notations. -/
def generalText (numerator denominator precision : Nat) (mark : Char) (keepsZeros : Bool) :
    List Char :=
  let significant := max precision 1
  let exponent : Int := if numerator = 0 then 0
    else (scientificDigits numerator denominator (significant - 1)).2
  let tidy (chars : List Char) : List Char := if keepsZeros then chars else withoutZeros chars
  if -4 ≤ exponent ∧ exponent < significant then
    tidy (fixedDigits numerator denominator (Int.ofNat significant - 1 - exponent).toNat)
  else
    let text := scientificText numerator denominator (significant - 1) mark
    let (before, after) := (Text.cut? [mark] text).getD (text, [])
    tidy before ++ mark :: after

/-- The number at the start of a text: its sign, its magnitude as a ratio, and the
text after it; none if there is no number. -/
def realAt? (chars : List Char) : Option (Bool × Nat × Nat × List Char) :=
  let trimmed := chars.dropWhile Arithmetic.isSpace
  let isNegative := trimmed.head? == some '-'
  let unsigned := if isNegative || trimmed.head? == some '+' then trimmed.drop 1 else trimmed
  let whole := unsigned.takeWhile Char.isDigit
  let afterWhole := unsigned.drop whole.length
  let (fraction, rest) := match afterWhole with
    | '.' :: digits => (digits.takeWhile Char.isDigit, digits.dropWhile Char.isDigit)
    | _ => ([], afterWhole)
  if whole.isEmpty && fraction.isEmpty then none
  else
    let number := (Text.decimal? (whole ++ fraction)).getD 0
    let (exponent, after) : Int × List Char := match rest with
      | mark :: digits =>
          let sign := digits.takeWhile fun char => char == '-' || char == '+'
          let power := (digits.drop sign.length).takeWhile Char.isDigit
          if (mark == 'e' || mark == 'E') && sign.length ≤ 1 && !power.isEmpty then
            let magnitude := Int.ofNat ((Text.decimal? power).getD 0)
            (if sign == ['-'] then -magnitude else magnitude,
              digits.drop (sign.length + power.length))
          else (0, rest)
      | [] => (0, rest)
    let scale := exponent - fraction.length
    some (isNegative, number * Nat.pow 10 (min scale.toNat 400),
      Nat.pow 10 (min (-scale).toNat 800), after)

/-- The nearest double-precision number to a ratio, as a ratio. -/
def nearestRatio (numerator denominator : Nat) : Nat × Nat :=
  match Decimal.Double.ofRatio numerator denominator with
  | some number => (number.units, Nat.pow 2 Decimal.Double.places)
  | none => (numerator, denominator)

/-- A number with a fraction by a conversion. -/
def realText (flags : List Char) (width : Nat) (precision : Option Nat) (letter : Char)
    (isNegative : Bool) (numerator denominator : Nat) : List Char :=
  let places := precision.getD 6
  let mark := if letter.isUpper then 'E' else 'e'
  let digits := match letter.toLower with
    | 'e' => scientificText numerator denominator places mark
    | 'g' => generalText numerator denominator places mark (flags.contains '#')
    | _ => fixedDigits numerator denominator places
  numberField flags width true (signFor flags isNegative) digits

/-- What printing by a format gives. -/
structure Formatted where
  text : List Char
  /-- What is wrong with arguments. -/
  complaints : List String
  /-- What is wrong with the format. -/
  fault : Option String
  /-- The arguments that are left. -/
  arguments : List String
  stopped : Bool
  deriving Inhabited

namespace Formatted

/-- More text. -/
def say (formatted : Formatted) (text : List Char) : Formatted :=
  { formatted with text := formatted.text ++ text }

/-- The next argument, which may be missing. -/
def next (formatted : Formatted) : Option String × Formatted :=
  (formatted.arguments.head?, { formatted with arguments := formatted.arguments.drop 1 })

/-- The next argument as a whole number. -/
def integer (formatted : Formatted) (isSigned : Bool) : Int × Formatted :=
  match formatted.next with
  | (none, rest) => (0, rest)
  | (some argument, rest) =>
      match argument.toList with
      | '\'' :: char => ((char.headD '\x00').toNat, rest)
      | '"' :: char => ((char.headD '\x00').toNat, rest)
      | chars =>
          let trimmed := chars.dropWhile Arithmetic.isSpace
          let isNegative := trimmed.head? == some '-'
          let unsigned := if isNegative || trimmed.head? == some '+' then trimmed.drop 1
            else trimmed
          let hasDigits := unsigned.head?.any Char.isDigit
          let (magnitude, after) := if hasDigits then Arithmetic.numberAt unsigned else (0, chars)
          let number : Int := if isNegative then -magnitude else magnitude
          let kept := if isSigned then Arithmetic.clamp number
            else if number < -(Nat.pow 2 64 : Int) || (Nat.pow 2 64 : Int) ≤ number then
              (Nat.pow 2 64 : Int) - 1
            else number
          let complaint := if !after.isEmpty then
              [argument ++ (if hasDigits then ": not completely converted"
                else ": expected numeric value")]
            else if kept != number then [argument ++ ": Numerical result out of range"] else []
          (kept, { rest with complaints := rest.complaints ++ complaint })

/-- The next argument as a number with a fraction. -/
def real (formatted : Formatted) : (Bool × Nat × Nat) × Formatted :=
  match formatted.next with
  | (none, rest) => ((false, 0, 1), rest)
  | (some argument, rest) =>
      match realAt? argument.toList with
      | some (isNegative, numerator, denominator, after) =>
          let (numerator, denominator) := nearestRatio numerator denominator
          let complaint := if after.isEmpty then []
            else [argument ++ ": not completely converted"]
          ((isNegative, numerator, denominator),
            { rest with complaints := rest.complaints ++ complaint })
      | none =>
          let complaint := if argument = "" then [] else [argument ++ ": expected numeric value"]
          ((false, 0, 1), { rest with complaints := rest.complaints ++ complaint })

/-- A number of a conversion, which may be the next argument. -/
def size (formatted : Formatted) : Option Nat → Int × Formatted
  | some number => (number, formatted)
  | none => formatted.integer true

/-- Print the next argument by a conversion. -/
def convert (formatted : Formatted) (written : List Char) (conversion : Conversion) :
    Formatted :=
  let (width, sized) := formatted.size conversion.width
  let (precision, ready) : Option Nat × Formatted := match conversion.precision with
    | none => (none, sized)
    | some number =>
        let (value, after) := sized.size number
        (if value < 0 then none else some value.toNat, after)
  let flags := if width < 0 then '-' :: conversion.flags else conversion.flags
  let toLeft := flags.contains '-'
  let room := width.natAbs
  let shortened (text : List Char) : List Char := match precision with
    | some limit => text.take limit
    | none => text
  let letter := conversion.letter
  if letter == 's' then
    let (argument, rest) := ready.next
    rest.say (aligned toLeft room (shortened (argument.getD "").toList))
  else if letter == 'b' then
    let (argument, rest) := ready.next
    let printed := unescape (argument.getD "").toList
    { rest.say (aligned toLeft room (shortened printed.text)) with stopped := printed.stopped }
  else if letter == 'c' then
    let (argument, rest) := ready.next
    rest.say (aligned toLeft room [((argument.getD "").toList).headD '\x00'])
  else if "diouxX".toList.contains letter then
    let (number, rest) := ready.integer (letter == 'd' || letter == 'i')
    rest.say (integerText flags room precision letter number)
  else if "eEfFgG".toList.contains letter then
    let ((isNegative, numerator, denominator), rest) := ready.real
    rest.say (realText flags room precision letter isNegative numerator denominator)
  else { ready with fault := some (String.ofList written ++ ": invalid directive") }

/-- Print the parts of a format once. -/
def once (formatted : Formatted) (parts : List FormatPart) : Formatted :=
  parts.foldl (fun formatted part =>
    if formatted.stopped || formatted.fault.isSome then formatted
    else match part with
      | .text content => formatted.say content
      | .value written conversion => formatted.convert written conversion
      | .unfinished => { formatted with fault := some "missing format character" }) formatted

/-- Print the parts of a format as often as there are arguments.  The fuel is
their number. -/
def repeatedly (formatted : Formatted) (parts : List FormatPart) : (fuel : Nat) → Formatted
  | 0 => formatted
  | fuel + 1 =>
      let next := formatted.once parts
      if next.stopped || next.fault.isSome || next.arguments.isEmpty ||
          next.arguments.length = formatted.arguments.length then next
      else next.repeatedly parts fuel

end Formatted

/-- Print arguments by a format. -/
def formatted (format : String) (arguments : List String) : Formatted :=
  let parts := formatParts format.length format.toList
  (⟨[], [], none, arguments, false⟩ : Formatted).repeatedly parts (arguments.length + 1)

end CertPress.Shell
