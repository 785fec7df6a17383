import CertPress.Shell.Edit.Read
import CertPress.Shell.Format
import CertPress.Shell.Invocation
import CertPress.Shell.Regex

/-!
# Figures

The utilities that evaluate expressions over texts and whole numbers, and that
print numbers one after another.
-/

namespace CertPress.Shell

open ShellAction

/-! ### Expressions -/

/-- A step of evaluating the words of an expression, which may find a fault. -/
abbrev WordAction (α : Type) := StateT (List String) (Except String) α

namespace WordAction

/-- The whole number that a text is. -/
def integer? (text : String) : Option Int :=
  match text.toList with
  | '-' :: digits => (Text.decimal? digits).map fun number => -Int.ofNat number
  | digits => (Text.decimal? digits).map Int.ofNat

/-- Whether a value counts as missing. -/
def isNull (value : String) : Bool :=
  value = "" || (integer? value).any (· == 0)

/-- The value of an answer. -/
def answer (holds : Bool) : String := if holds then "1" else "0"

/-- The next word if it is one of several. -/
def nextAmong? (words : List String) : WordAction (Option String) := do
  match ← get with
  | word :: rest =>
      if words.contains word then
        set rest
        return some word
      else return none
  | [] => return none

/-- What a text matches from its start: the first group, or the length. -/
def matched (text pattern : String) : WordAction String := do
  match Regex.ofChars false pattern.toList with
  | .error reason => throw reason
  | .ok regex =>
      let searched : Searched := ⟨text.toList.toArray, false, true⟩
      let hasGroup := groupCount regex != 0
      match regex.matchAt? searched 0 with
      | none => return if hasGroup then "" else "0"
      | some found =>
          if hasGroup then
            match found.group? 1 with
            | some (first, last) => return String.ofList (searched.slice first last)
            | none => return ""
          else return decimal found.position

/-- A whole number, or a fault. -/
def number (value : String) : WordAction Int :=
  match integer? value with
  | some number => return number
  | none => throw "non-integer argument"

/-- The value of two values with an operator between them. -/
def combined (operator left right : String) : WordAction String := do
  let compared (holds : Ordering → Bool) : String :=
    answer (holds (match integer? left, integer? right with
      | some first, some second => compare first second
      | _, _ => compareOfLessAndEq left right))
  match operator with
  | "|" => return if !isNull left then left else if !isNull right then right else "0"
  | "&" => return if isNull left || isNull right then "0" else left
  | "<" => return compared (· == .lt)
  | "<=" => return compared (· != .gt)
  | "=" | "==" => return compared (· == .eq)
  | "!=" => return compared (· != .eq)
  | ">=" => return compared (· != .lt)
  | ">" => return compared (· == .gt)
  | "+" => return signedDecimal ((← number left) + (← number right))
  | "-" => return signedDecimal ((← number left) - (← number right))
  | "*" => return signedDecimal ((← number left) * (← number right))
  | ":" => matched left right
  | _ =>
      let (first, second) := (← number left, ← number right)
      if second = 0 then throw "division by zero"
      return signedDecimal (if operator = "/" then first.tdiv second else first.tmod second)

/-- The operators between two values by their levels, tightest first. -/
def operatorLevels : List (List String) :=
  [[":"], ["*", "/", "%"], ["+", "-"], ["<", "<=", "=", "==", "!=", ">=", ">"], ["&"], ["|"]]

mutual

/-- A value without operators between values.  `before` is the word in front. -/
def operandAfter (fuel : Nat) (before : String) : WordAction String :=
  match fuel with
  | 0 => throw "syntax error"
  | fuel + 1 => do
      let missing {α : Type} (before : String) : WordAction α :=
        throw ("syntax error: missing argument after " ++ quotedName before)
      match ← get with
      | [] => missing before
      | "(" :: rest =>
          set rest
          let value ← joinedValue fuel "(" operatorLevels.length
          match ← get with
          | ")" :: after =>
              set after
              return value
          | [] => throw ("syntax error: expecting ')' after " ++ quotedName value)
          | other :: _ => throw ("syntax error: expecting ')' instead of " ++ quotedName other)
      | ")" :: _ => throw "syntax error: unexpected ')'"
      | "+" :: rest =>
          match rest with
          | [] => missing "+"
          | word :: after =>
              set after
              return word
      | "length" :: rest =>
          set rest
          return decimal (← operandAfter fuel "length").length
      | "match" :: rest =>
          set rest
          let text ← operandAfter fuel "match"
          matched text (← operandAfter fuel text)
      | "index" :: rest =>
          set rest
          let text ← operandAfter fuel "index"
          let wanted := (← operandAfter fuel text).toList
          return decimal ((text.toList.findIdx? wanted.contains).elim 0 (· + 1))
      | "substr" :: rest =>
          set rest
          let text ← operandAfter fuel "substr"
          let first ← operandAfter fuel text
          let count ← operandAfter fuel first
          match integer? first, integer? count with
          | some first, some count =>
              if first ≤ 0 ∨ count ≤ 0 then return ""
              return String.ofList ((text.toList.drop (first.toNat - 1)).take count.toNat)
          | _, _ => return ""
      | word :: rest =>
          set rest
          return word

/-- Values with the operators up to a level between them. -/
def joinedValue (fuel : Nat) (before : String) (level : Nat) : WordAction String :=
  match fuel with
  | 0 => throw "syntax error"
  | fuel + 1 =>
      match level with
      | 0 => operandAfter fuel before
      | level + 1 => do joinedTail fuel level (← joinedValue fuel before level)

/-- What follows a value with the operators of a level. -/
def joinedTail (fuel : Nat) (level : Nat) (left : String) : WordAction String :=
  match fuel with
  | 0 => throw "syntax error"
  | fuel + 1 => do
      match ← nextAmong? (operatorLevels.getD level []) with
      | none => return left
      | some operator =>
          let right ← joinedValue fuel operator level
          joinedTail fuel level (← combined operator left right)

end

end WordAction

/-- Evaluate an expression. -/
def evaluateWords : Utility := fun call => do
  let words := match call.arguments with
    | "--" :: rest => rest
    | words => words
  if words.isEmpty then call.refuse "missing operand" 2
  else
    match (WordAction.joinedValue (16 * words.length + 16) "" 6).run words with
    | .error reason =>
        call.complain reason
        return 2
    | .ok (_, word :: _) =>
        call.complain ("syntax error: unexpected argument " ++ quotedName word)
        return 2
    | .ok (value, []) =>
        call.say (value ++ "\n").toList
        return if WordAction.isNull value then 1 else 0

/-! ### Series -/

/-- A decimal number: a whole number of units, and the number of places of a
unit. -/
structure DecimalNumber where
  units : Int
  places : Nat
  deriving DecidableEq, Repr, Inhabited

namespace DecimalNumber

/-- The number that a text denotes. -/
def ofText? (text : String) : Option DecimalNumber := do
  let chars := text.toList
  if let some number := Arithmetic.integer? chars then
    if ['0', 'x'].isPrefixOf (chars.filter (· != '-')) then return ⟨number, 0⟩
  let (isNegative, numerator, denominator, after) ← realAt? chars
  if !after.isEmpty then none
  let mantissa := (chars.takeWhile fun char => char != 'e' && char != 'E')
  let written := match Text.cut? ['.'] mantissa with
    | some (_, fraction) => fraction.length
    | none => 0
  let exponent := (Text.integer? (chars.drop (mantissa.length + 1))).getD 0
  let places := (Int.ofNat written - exponent).toNat
  let magnitude := numerator * Nat.pow 10 places / denominator
  return ⟨if isNegative then -Int.ofNat magnitude else Int.ofNat magnitude, places⟩

/-- The number in smaller units. -/
def unitsAt (number : DecimalNumber) (places : Nat) : Int :=
  number.units * Nat.pow 10 (places - number.places)

/-- The text of a number of units. -/
def textOf (places : Nat) (units : Int) : List Char :=
  (if units < 0 then ['-'] else []) ++ fixedDigits units.natAbs (Nat.pow 10 places) places

end DecimalNumber

/-- The number of values that are printed of a series without an end. -/
def seriesLimit : Nat := 100000

/-- A format with one conversion of a number. -/
def seriesFormat? (format : String) : Except String (List Char × Conversion × List Char) :=
  let fault (text : String) : Except String (List Char × Conversion × List Char) :=
    .error ("format " ++ quotedName format ++ " has " ++ text)
  let parts := formatParts format.length format.toList
  let isValue (part : FormatPart) : Bool := match part with
    | .text _ => false
    | _ => true
  let textOf (parts : List FormatPart) : List Char := parts.flatMap fun part => match part with
    | .text content => content
    | _ => []
  let before := parts.takeWhile (!isValue ·)
  match parts.drop before.length with
  | [] => fault "no % directive"
  | .value _ conversion :: after =>
      if !("eEfFgGaA".toList.contains conversion.letter) then
        fault ("unknown %" ++ String.singleton conversion.letter ++ " directive")
      else if after.any isValue then fault "too many % directives"
      else .ok (textOf before, conversion, textOf after)
  | _ => .error ("format " ++ quotedName format ++ " ends in %")

/-- Print numbers one after another. -/
def printSeries : Utility := fun call => do
  let isNumber (argument : String) : Bool := match argument.toList with
    | '-' :: char :: _ => char.isDigit || char == '.'
    | _ => false
  let (front, numbers) := (frontArguments call.arguments, call.arguments.dropWhile fun _ => false)
  let rest := numbers.drop front.length
  match (OptionTable.mk "f:s:w".toList [("format", 'f'), ("separator", 's'), ("equal-width", 'w')]
      false).parse (front ++ (if rest.head?.any isNumber then "--" :: rest else rest)) with
  | .error reason => call.refuse reason 1
  | .ok options => do
      let operands := options.operands
      if operands.isEmpty then call.refuse "missing operand" 1
      else if 3 < operands.length then
        call.refuse ("extra operand " ++ quotedName (operands.getD 3 "")) 1
      else
        let endless := operands.getLast? == some "inf" || operands.getLast? == some "infinity"
        let read := if endless then operands.dropLast else operands
        match read.find? fun text => (DecimalNumber.ofText? text).isNone with
        | some text =>
            call.refuse ("invalid floating point argument: " ++ quotedName text) 1
        | none =>
            let values := read.filterMap DecimalNumber.ofText?
            let one : DecimalNumber := ⟨1, 0⟩
            let (first, step, last) : DecimalNumber × DecimalNumber × Option DecimalNumber :=
              match values ++ (if endless then [one] else []) with
              | [last] => (one, one, some last)
              | [first, last] => (first, one, some last)
              | [first, step, last] => (first, step, some last)
              | _ => (one, one, none)
            if step.units = 0 then
              call.refuse ("invalid Zero increment value: " ++ quotedName (operands.getD 1 "")) 1
            else
              let places := max first.places step.places
              let scale := max places ((last.map (·.places)).getD 0)
              let start := first.unitsAt scale
              let stride := step.unitsAt scale
              let stop := (last.map (·.unitsAt scale)).getD 0
              let span := if 0 < stride then stop - start else start - stop
              let count := if endless then seriesLimit
                else if span < 0 then 0
                else min seriesLimit ((span / stride.natAbs).toNat + 1)
              let units := (List.range count).map fun index => start + stride * Int.ofNat index
              let shrink := Int.ofNat (Nat.pow 10 (scale - places))
              let plain (number : Int) : List Char :=
                DecimalNumber.textOf places (number.tdiv shrink)
              let lastText := (last.map fun last =>
                DecimalNumber.textOf places (last.unitsAt scale |>.tdiv shrink)).getD []
              let width := max (plain start).length lastText.length
              let padded (text : List Char) : List Char :=
                let zeros := List.replicate (width - text.length) '0'
                match text with
                | '-' :: digits => '-' :: zeros ++ digits
                | digits => zeros ++ digits
              let separator := ((options.value? 's').getD "\n").toList
              match (options.value? 'f').map seriesFormat? with
              | some (.error fault) =>
                  call.complain fault
                  return 1
              | some (.ok (before, conversion, after)) =>
                  let texts := units.map fun number =>
                    before ++ realText conversion.flags ((conversion.width.getD 0))
                      (conversion.precision.bind id) conversion.letter (number < 0)
                      number.natAbs (Nat.pow 10 scale) ++ after
                  sayAll call separator texts
              | none =>
                  sayAll call separator (units.map fun number =>
                    if options.has 'w' then padded (plain number) else plain number)
where
  /-- The options in front of the numbers. -/
  frontArguments : List String → List String
    | [] => []
    | argument :: rest =>
        match argument.toList with
        | ['-', letter] =>
            if letter == 's' || letter == 'f' then
              match rest with
              | value :: others => argument :: value :: frontArguments others
              | [] => [argument]
            else if letter.isDigit then [] else argument :: frontArguments rest
        | '-' :: letter :: _ =>
            if letter.isDigit || letter == '.' then [] else argument :: frontArguments rest
        | _ => []
  /-- Print texts with a separator between them. -/
  sayAll (call : Invocation) (separator : List Char) (texts : List (List Char)) :
      ShellAction Nat := do
    if !texts.isEmpty then call.say (List.intercalate separator texts ++ ['\n'])
    return 0

end CertPress.Shell
