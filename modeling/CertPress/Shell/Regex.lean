import CertPress.Shell.Pattern
import CertPress.Text.Ascii
import CertPress.Text.Pieces

/-!
# Regular expressions

Expressions that are searched for in a text, in the basic and in the extended
notation.  Of the matches that start first the longest counts, and a group has
the text of its last match.
-/

namespace CertPress.Shell

/-- A place in a text that a regular expression can ask for. -/
inductive Edge where
  | textStart
  | textEnd
  | wordStart
  | wordEnd
  /-- Either side of a word. -/
  | wordSide
  /-- No side of a word. -/
  | noWordSide
  deriving DecidableEq, Repr, Inhabited

/-- A regular expression. -/
inductive Regex where
  | empty
  | char (char : Char)
  | any
  /-- A character that one of the items stands for, or none of them. -/
  | among (inside : Bool) (items : List BracketItem)
  | edge (kind : Edge)
  | sequence (first second : Regex)
  | either (first second : Regex)
  | repeated (least : Nat) (most : Option Nat) (body : Regex)
  | group (number : Nat) (body : Regex)
  /-- The text of a group. -/
  | back (number : Nat)
  deriving Repr, Inhabited

/-- A match while it grows: where it ends so far, and where groups start and
end. -/
structure Found where
  position : Nat
  groups : List (Nat × Nat × Nat)
  deriving DecidableEq, Repr, Inhabited

namespace Found

/-- Where a group starts and ends. -/
def group? (found : Found) (number : Nat) : Option (Nat × Nat) :=
  (found.groups.find? (·.1 == number)).map (·.2)

/-- The first of the matches with each end. -/
def distinct (founds : List Found) : List Found :=
  founds.foldr (fun found rest => found :: rest.filter (·.position != found.position)) []

end Found

/-- A text that is searched. -/
structure Searched where
  chars : Array Char
  ignoresCase : Bool
  /-- Whether the text starts and ends where a line does. -/
  isLineStart : Bool
  deriving Inhabited

namespace Searched

/-- Whether two characters are the same to the search. -/
def same (text : Searched) (left right : Char) : Bool :=
  left == right || (text.ignoresCase && left.toLower == right.toLower)

/-- Whether there is a character of a word at a place. -/
def isWord (text : Searched) (position : Nat) : Bool :=
  (text.chars[position]?).any fun char => char.isAlphanum || char == '_'

/-- Whether a place is what is asked for. -/
def isAt (text : Searched) (edge : Edge) (position : Nat) : Bool :=
  let before := position != 0 && text.isWord (position - 1)
  let after := text.isWord position
  match edge with
  | .textStart => position == 0 && text.isLineStart
  | .textEnd => position == text.chars.size
  | .wordStart => !before && after
  | .wordEnd => before && !after
  | .wordSide => before != after
  | .noWordSide => before == after

/-- The characters between two places. -/
def slice (text : Searched) (first last : Nat) : List Char :=
  (text.chars.extract first last).toList

end Searched

namespace Regex

/-- Whether a part of an expression that stands for one character stands for this
one; none for other parts. -/
def single? (text : Searched) : Regex → Option (Char → Bool)
  | .char expected => some (text.same expected)
  | .any => some fun _ => true
  | .among inside items => some fun char =>
      inside == (items.any (·.accepts char) || (text.ignoresCase &&
        (items.any (·.accepts char.toLower) || items.any (·.accepts char.toUpper))))
  | _ => none

/-- The number of characters from a place on that all belong to a class, at most
`limit`. -/
def runLength (text : Searched) (accepts : Char → Bool) (position : Nat) : (limit : Nat) → Nat
  | 0 => 0
  | limit + 1 =>
      if (text.chars[position]?).any accepts then
        runLength text accepts (position + 1) limit + 1
      else 0

/-- What is reached by any number of steps, of which the fuel is the greatest. -/
def closure (step : Found → List Found) : (fuel : Nat) → (seen frontier : List Found) →
    List Found
  | 0, seen, _ => seen
  | fuel + 1, seen, frontier =>
      let next := (Found.distinct (frontier.flatMap step)).filter fun found =>
        !(seen.any (·.position == found.position))
      if next.isEmpty then seen else closure step fuel (next ++ seen) next

/-- The ways in which an expression can match from where a match ends, the
preferred ones first. -/
def ends (text : Searched) : Regex → Found → List Found
  | .empty, found => [found]
  | .edge kind, found => if text.isAt kind found.position then [found] else []
  | .sequence first second, found =>
      Found.distinct ((ends text first found).flatMap (ends text second))
  | .either first second, found =>
      Found.distinct (ends text first found ++ ends text second found)
  | .group number body, found =>
      (ends text body found).map fun inner =>
        { inner with groups := (number, found.position, inner.position) :: inner.groups }
  | .back number, found =>
      match found.group? number with
      | none => []
      | some (first, last) =>
          let stop := found.position + (last - first)
          let there := text.slice found.position stop
          let wanted := text.slice first last
          if there.length == wanted.length &&
              (there.zip wanted).all (fun (left, right) => text.same left right) then
            [{ found with position := stop }]
          else []
  | .repeated least most body, found =>
      let whole := text.chars.size + 1
      match single? text body with
      | some accepts =>
          let count := runLength text accepts found.position (most.getD whole)
          if count < least then []
          else (List.range (count - least + 1)).map fun shorter =>
            { found with position := found.position + count - shorter }
      | none =>
          let required := (List.range least).foldl
            (fun founds _ => Found.distinct (founds.flatMap (ends text body))) [found]
          let more := min whole ((most.map (· - least)).getD whole)
          closure (ends text body) more required required
  | part, found =>
      match single? text part, text.chars[found.position]? with
      | some accepts, some next =>
          if accepts next then [{ found with position := found.position + 1 }] else []
      | _, _ => []

/-- The longest match that starts at a place. -/
def matchAt? (regex : Regex) (text : Searched) (start : Nat) : Option Found :=
  (regex.ends text ⟨start, []⟩).foldl (fun best found =>
    match best with
    | some known => if known.position < found.position then some found else best
    | none => some found) none

/-- The first match at one of `count` places from `start` on, with the place. -/
def searchFrom (regex : Regex) (text : Searched) (start : Nat) : (count : Nat) →
    Option (Nat × Found)
  | 0 => none
  | count + 1 =>
      match regex.matchAt? text start with
      | some found => some (start, found)
      | none => searchFrom regex text (start + 1) count

/-- The first match from a place on. -/
def search? (regex : Regex) (text : Searched) (start : Nat) : Option (Nat × Found) :=
  regex.searchFrom text start (text.chars.size + 1 - start)

/-- A match that is found starts at or after the place from which it is
searched. -/
theorem le_of_searchFrom {regex : Regex} {text : Searched} {start count place : Nat}
    {found : Found} (result : regex.searchFrom text start count = some (place, found)) :
    start ≤ place := by
  induction count generalizing start with
  | zero => simp [searchFrom] at result
  | succ count hypothesis =>
      simp only [searchFrom] at result
      split at result
      · simp only [Option.some.injEq, Prod.mk.injEq] at result
        exact Nat.le_of_eq result.1
      · exact Nat.le_of_succ_le (hypothesis result)

end Regex

/-! ### Notation -/

/-- The state of reading an expression: the text that is left, and the number of
groups so far. -/
structure RegexReading where
  rest : List Char
  groups : Nat

/-- A step of reading an expression, which may find a fault. -/
abbrev RegexAction (α : Type) := StateT RegexReading (Except String) α

namespace RegexAction

/-- Use up characters. -/
def skip (count : Nat) : RegexAction Unit :=
  modify fun state => { state with rest := state.rest.drop count }

end RegexAction

/-- The ends of a repetition in braces: the least and the greatest number, and
the text after them. -/
def boundsAt? (extended : Bool) (chars : List Char) : Option (Nat × Option Nat × List Char) := do
  let number (digits : List Char) : Nat := (Text.decimal? digits).getD 0
  let low := chars.takeWhile Char.isDigit
  let closing (rest : List Char) : Option (List Char) := match extended, rest with
    | true, '\x7d' :: after => some after
    | false, '\\' :: '\x7d' :: after => some after
    | _, _ => none
  match chars.drop low.length with
  | ',' :: rest =>
      let high := rest.takeWhile Char.isDigit
      let after ← closing (rest.drop high.length)
      return (number low, if high.isEmpty then none else some (number high), after)
  | rest =>
      if low.isEmpty then none
      let after ← closing rest
      return (number low, some (number low), after)

/-- The repetition at the start of a text, and the text after it. -/
def repetitionAt? (extended : Bool) (chars : List Char) : Option (Nat × Option Nat × List Char) :=
  match extended, chars with
  | _, '*' :: rest => some (0, none, rest)
  | true, '+' :: rest => some (1, none, rest)
  | true, '?' :: rest => some (0, some 1, rest)
  | true, '\x7b' :: rest => boundsAt? true rest
  | false, '\\' :: '+' :: rest => some (1, none, rest)
  | false, '\\' :: '?' :: rest => some (0, some 1, rest)
  | false, '\\' :: '\x7b' :: rest => boundsAt? false rest
  | _, _ => none

/-- Whether an alternative or a group ends before a text. -/
def endsBranch (extended : Bool) (inGroup : Bool) (chars : List Char) : Bool :=
  match extended, chars with
  | _, [] => true
  | true, '|' :: _ => true
  | true, ')' :: _ => inGroup
  | false, '\\' :: '|' :: _ => true
  | false, '\\' :: ')' :: _ => true
  | _, _ => false

/-- The characters of words. -/
def wordItems : List BracketItem :=
  [.range 'a' 'z', .range 'A' 'Z', .range '0' '9', .range '_' '_']

/-- The characters of blanks. -/
def spaceItems : List BracketItem := [.range '\t' '\r', .range ' ' ' ']

/-- What a letter after a backslash stands for. -/
def escaped? (char : Char) : Option Regex :=
  match char with
  | 'w' => some (.among true wordItems)
  | 'W' => some (.among false wordItems)
  | 's' => some (.among true spaceItems)
  | 'S' => some (.among false spaceItems)
  | 'b' => some (.edge .wordSide)
  | 'B' => some (.edge .noWordSide)
  | '<' => some (.edge .wordStart)
  | '>' => some (.edge .wordEnd)
  | '\x60' => some (.edge .textStart)
  | '\'' => some (.edge .textEnd)
  | _ => none

/-- The expression in brackets, and the text after it. -/
def regexBrackets? (chars : List Char) : Option (Regex × List Char) :=
  let inside := chars.head? != some '^'
  let listed := (if inside then chars else chars.drop 1).map fun char =>
    (⟨char, false⟩ : PatternChar)
  (bracketItems true (listed.length + 1) listed).map fun (items, after) =>
    (.among inside items, after.map (·.char))

/-- What is wrong with brackets. -/
def bracketFault? : Regex → Option String
  | .among _ items => items.findSome? fun item =>
      match item with
      | .kind name =>
          if characterClasses.any fun (known, _) => known.toList == name then none
          else some "Invalid character class name"
      | .range first last => if last < first then some "Invalid range end" else none
  | _ => none

/-- What is wrong with the repetition at the start of a text. -/
def repetitionFault? (extended : Bool) (chars : List Char) : Option String :=
  let invalid := "Invalid content of \\\x7b\\\x7d"
  match repetitionAt? extended chars with
  | some (least, some most, _) => if most < least then some invalid else none
  | some (_, none, _) => none
  | none =>
      match extended, chars with
      | false, '\\' :: '\x7b' :: rest =>
          some (if (Text.cut? ['\\', '\x7d'] rest).isSome then invalid else "Unmatched \\\x7b")
      | _, _ => none

mutual

/-- Read alternatives. -/
def readAlternatives (extended : Bool) (fuel : Nat) (inGroup : Bool) : RegexAction Regex :=
  match fuel with
  | 0 => throw "Regular expression too big"
  | fuel + 1 => do
      let first ← readBranch extended fuel inGroup true .empty
      match extended, (← get).rest with
      | true, '|' :: _ =>
          RegexAction.skip 1
          return .either first (← readAlternatives extended fuel inGroup)
      | false, '\\' :: '|' :: _ =>
          RegexAction.skip 2
          return .either first (← readAlternatives extended fuel inGroup)
      | _, _ => return first

/-- Read the rest of an alternative after a part of it. -/
def readBranch (extended : Bool) (fuel : Nat) (inGroup isFirst : Bool) (before : Regex) :
    RegexAction Regex :=
  match fuel with
  | 0 => throw "Regular expression too big"
  | fuel + 1 => do
      if endsBranch extended inGroup (← get).rest then return before
      let part ← readPart extended fuel inGroup isFirst
      let repeated ← readRepetitions extended fuel part
      let isAnchor := match part with
        | .edge .textStart => isFirst
        | _ => false
      readBranch extended fuel inGroup isAnchor (.sequence before repeated)

/-- Read the repetitions of a part. -/
def readRepetitions (extended : Bool) (fuel : Nat) (part : Regex) : RegexAction Regex :=
  match fuel with
  | 0 => throw "Regular expression too big"
  | fuel + 1 => do
      let isAnchor := match part with
        | .edge .textStart => !extended
        | _ => false
      let chars := (← get).rest
      match (if isAnchor then none else repetitionFault? extended chars) with
      | some fault => throw fault
      | none => pure ()
      match (if isAnchor then none else repetitionAt? extended chars) with
      | none => return part
      | some (least, most, rest) =>
          modify fun state => { state with rest }
          readRepetitions extended fuel (.repeated least most part)

/-- Read one part.  An asterisk that has nothing to repeat stands for itself. -/
def readPart (extended : Bool) (fuel : Nat) (inGroup isFirst : Bool) : RegexAction Regex :=
  match fuel with
  | 0 => throw "Regular expression too big"
  | fuel + 1 => do
      let group (skipped : Nat) : RegexAction Regex := do
        RegexAction.skip skipped
        let number := (← get).groups + 1
        modify fun state => { state with groups := number }
        let body ← readAlternatives extended fuel true
        match extended, (← get).rest with
        | true, ')' :: _ =>
            RegexAction.skip 1
            return .group number body
        | false, '\\' :: ')' :: _ =>
            RegexAction.skip 2
            return .group number body
        | _, _ => throw "Unmatched ( or \\("
      match extended, (← get).rest with
      | _, [] => return .empty
      | _, '.' :: _ =>
          RegexAction.skip 1
          return .any
      | _, '[' :: rest =>
          match regexBrackets? rest with
          | some (part, after) =>
              match bracketFault? part with
              | some fault => throw fault
              | none => pure ()
              modify fun state => { state with rest := after }
              return part
          | none =>
              throw (if rest.isEmpty || rest == ['^'] then "Invalid regular expression"
                else "Unmatched [, [^, [:, [., or [=")
      | _, '^' :: _ =>
          RegexAction.skip 1
          return if extended || isFirst then .edge .textStart else .char '^'
      | _, '$' :: rest =>
          RegexAction.skip 1
          return if extended || endsBranch extended inGroup rest then .edge .textEnd
            else .char '$'
      | true, '*' :: _ => return .empty
      | true, '+' :: _ => return .empty
      | true, '?' :: _ => return .empty
      | true, '(' :: _ => group 1
      | false, '\\' :: '(' :: _ => group 2
      | _, ['\\'] => throw "Trailing backslash"
      | _, '\\' :: char :: _ =>
          RegexAction.skip 2
          if char == 'n' then return .char '\n'
          if char.isDigit && char != '0' then
            let number := char.toNat - '0'.toNat
            if (← get).groups < number then throw "Invalid back reference"
            return .back number
          return (escaped? char).getD (.char char)
      | _, char :: _ =>
          RegexAction.skip 1
          return .char char

end

namespace Regex

/-- The expression that a text is the notation of, or why it is none. -/
def ofChars (extended : Bool) (chars : List Char) : Except String Regex := do
  let (regex, state) ←
    (readAlternatives extended (8 * chars.length + 16) false).run ⟨chars, 0⟩
  match extended, state.rest with
  | _, [] => return regex
  | _, _ => throw "Unmatched ) or \\)"

end Regex

end CertPress.Shell
