import CertPress.Shell.Format
import CertPress.Shell.Invocation
import CertPress.Shell.Pattern

/-!
# Characters

The utility that puts other characters in place of some, drops some, or leaves
one of several that are the same.  Sets of characters are lists with ranges,
classes and repetitions.
-/

namespace CertPress.Shell

open ShellAction

/-- A part of a set of characters. -/
inductive SetPart where
  | chars (content : List Char)
  /-- As many of a character as the other set needs. -/
  | filling (char : Char)
  /-- The characters of a class. -/
  | kind (name : List Char)
  deriving DecidableEq, Repr, Inhabited

/-- A character of a written set, and whether it is escaped. -/
abbrev SetChar := Char × Bool

/-- The characters of a written set with the escapes resolved.  The fuel is the
length of the text. -/
def setChars : (fuel : Nat) → List Char → List SetChar
  | 0, _ => []
  | fuel + 1, chars =>
      match chars with
      | [] => []
      | ['\\'] => [('\\', false)]
      | '\\' :: char :: rest =>
          match letterEscape? char with
          | some letter => (letter, true) :: setChars fuel rest
          | none =>
              if isOctal char then
                let digits := ((char :: rest).take 3).takeWhile isOctal
                let number := digits.foldl (fun number digit =>
                  number * 8 + (digit.toNat - '0'.toNat)) 0
                let kept := if 256 ≤ number then digits.take 2 else digits
                let value := if 256 ≤ number then number / 8 else number
                (Char.ofNat value, true) :: setChars fuel ((char :: rest).drop kept.length)
              else (char, true) :: setChars fuel rest
      | char :: rest => (char, false) :: setChars fuel rest

/-- The characters of a class in order. -/
def classChars (name : List Char) : List Char :=
  ((List.range 256).map Char.ofNat).filter (inClass name)

/-- The characters between two. -/
def charRange (first last : Char) : List Char :=
  (List.range (last.toNat + 1 - first.toNat)).map fun offset => Char.ofNat (first.toNat + offset)

/-- A number in a repetition, of which zero and none mean as many as needed. -/
def repetitionCount? (digits : List Char) : Option Nat :=
  if digits.isEmpty then some 0
  else if !digits.all Char.isDigit then none
  else if digits.head? == some '0' then
    some (digits.foldl (fun number digit => number * 8 + (digit.toNat - '0'.toNat)) 0)
  else Text.decimal? digits

/-- The part in brackets at the start of a set, and the text after it. -/
def bracketedPart? (chars : List SetChar) : Option (Except String SetPart × List SetChar) :=
  let isPlain (char : SetChar) (mark : Char) : Bool := char.1 == mark && !char.2
  match chars with
  | opening :: mark :: rest =>
      if !isPlain opening '[' then none
      else if isPlain mark ':' || isPlain mark '=' then
        let inside := rest.takeWhile fun char => !isPlain char mark.1
        match rest.drop inside.length with
        | _ :: closing :: after =>
            if !isPlain closing ']' then none
            else
              let name := inside.map (·.1)
              if mark.1 == '=' then
                match name with
                | [char] => some (.ok (.chars [char]), after)
                | _ => none
              else if characterClasses.any fun (known, _) => known.toList == name then
                some (.ok (.kind name), after)
              else some (.error ("invalid character class '" ++ String.ofList name ++ "'"), after)
        | _ => none
      else match rest with
        | star :: others =>
            if !isPlain star '*' then none
            else
              let digits := others.takeWhile fun char => !isPlain char ']'
              match others.drop digits.length, repetitionCount? (digits.map (·.1)) with
              | _ :: after, some 0 => some (.ok (.filling mark.1), after)
              | _ :: after, some count => some (.ok (.chars (List.replicate count mark.1)), after)
              | _, _ => none
        | [] => none
  | _ => none

/-- The parts of a set.  The fuel is the number of its characters. -/
def setParts : (fuel : Nat) → List SetChar → Except String (List SetPart)
  | 0, _ => .ok []
  | fuel + 1, chars =>
      match chars with
      | [] => .ok []
      | first :: rest =>
          match bracketedPart? chars with
          | some (.error fault, _) => .error fault
          | some (.ok part, after) => do return part :: (← setParts fuel after)
          | none =>
              match rest with
              | dash :: last :: after =>
                  if dash == ('-', false) then
                    if last.1 < first.1 then
                      .error ("range-endpoints of '" ++ String.ofList [first.1, '-', last.1] ++
                        "' are in reverse collating sequence order")
                    else do return .chars (charRange first.1 last.1) :: (← setParts fuel after)
                  else do return .chars [first.1] :: (← setParts fuel rest)
              | _ => do return .chars [first.1] :: (← setParts fuel rest)

/-- The parts of a written set. -/
def characterSet (text : String) : Except String (List SetPart) :=
  let chars := setChars text.length text.toList
  setParts chars.length chars

/-- The characters of parts.  `filled` is how many a filling gives. -/
def partChars (filled : Nat) (parts : List SetPart) : List Char :=
  parts.flatMap fun part =>
    match part with
    | .chars content => content
    | .filling char => List.replicate filled char
    | .kind name => classChars name

/-- A text without characters of a set that follow the same one. -/
def squeezed (set : List Char) : List Char → List Char
  | first :: second :: rest =>
      if first == second && set.contains first then squeezed set (second :: rest)
      else first :: squeezed set (second :: rest)
  | rest => rest

/-- Change the characters of the input. -/
def translate : Utility :=
  withLeadingOptions "cCdst"
    [("complement", 'c'), ("delete", 'd'), ("squeeze-repeats", 's'), ("truncate-set1", 't')] 1
    fun call options => do
  let complements := options.has 'c' || options.has 'C'
  let deletes := options.has 'd'
  let squeezes := options.has 's'
  let needed := if deletes == squeezes then 2 else 1
  let allowed := if deletes && !squeezes then 1 else 2
  let refuse (text detail : String) : ShellAction Nat :=
    call.refuse (if detail = "" then text else text ++ "\n" ++ detail) 1
  let operands := options.operands
  let given := operands.length
  if given = 0 then call.refuse "missing operand" 1
  else if given < needed then
    refuse ("missing operand after " ++ quotedName (operands.headD ""))
      (if deletes then "Two strings must be given when both deleting and squeezing repeats."
        else "Two strings must be given when translating.")
  else if allowed < given then
    refuse ("extra operand " ++ quotedName (operands.getD allowed ""))
      (if given = 2 then "Only one string may be given when deleting without squeezing repeats."
        else "")
  else
    let sets : Except String (List SetPart × List SetPart) := do
      return (← characterSet (operands.headD ""), ← characterSet (operands.getD 1 ""))
    match sets with
    | .error fault =>
        call.complain fault
        return 1
    | .ok (firstParts, secondParts) =>
        let listed := partChars 0 firstParts
        let first := if complements then
            ((List.range 256).map Char.ofNat).filter fun char => !listed.contains char
          else listed
        let fixed := (partChars 0 secondParts).length
        let second := partChars (first.length - fixed) secondParts
        let translates := given = 2 && !deletes
        let otherClass := secondParts.any fun part => match part with
          | .kind name => name != "upper".toList && name != "lower".toList
          | _ => false
        if translates && otherClass then
          call.complain ("when translating, the only character classes that may appear in\n" ++
            "string2 are 'upper' and 'lower'")
          return 1
        else if translates && second.isEmpty && !options.has 't' then
          call.complain "when not truncating set1, string2 must be non-empty"
          return 1
        else
          let text := charsOf ((← takeAll 0).getD [])
          let last := second.getLast?.getD '\x00'
          let padded := if options.has 't' then second
            else second ++ List.replicate (first.length - second.length) last
          let pairs := (first.zip padded).reverse
          let table := (List.range 256).toArray.map fun code =>
            match pairs.find? (·.1.toNat == code) with
            | some (_, char) => char
            | none => Char.ofNat code
          let kept := if deletes then text.filter fun char => !first.contains char else text
          let changed := if translates then kept.map fun char => table.getD char.toNat char
            else kept
          let squeezeSet := if given = 2 then second else first
          call.say (if squeezes then squeezed squeezeSet changed else changed)
          return 0

end CertPress.Shell
