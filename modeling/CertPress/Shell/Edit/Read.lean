import CertPress.Shell.Edit.Basic
import CertPress.Shell.Format

/-!
# Reading edits

Edits are separated by line ends or semicolons.  Braces hold several edits for
the same lines.
-/

namespace CertPress.Shell

/-- Why a script of edits cannot be read: the text that was left, and what is
wrong. -/
structure EditFault where
  rest : Nat
  reason : String
  deriving Inhabited

/-- Reading edits from the front of a text. -/
abbrev EditReading (α : Type) := StateT (List Char) (Except EditFault) α

namespace EditReading

/-- Report a fault where reading stands. -/
def fault {α : Type} (reason : String) : EditReading α := do
  throw ⟨(← get).length, reason⟩

/-- Use up characters. -/
def skip (count : Nat) : EditReading Unit := modify (·.drop count)

/-- Use up the characters of a class. -/
def skipWhile (accepts : Char → Bool) : EditReading Unit := modify (·.dropWhile accepts)

/-- Use up the characters of a class, and return them. -/
def takeWhile (accepts : Char → Bool) : EditReading (List Char) := do
  let taken := (← get).takeWhile accepts
  skip taken.length
  return taken

/-- Whether a character is a blank. -/
def isBlank (char : Char) : Bool := char == ' ' || char == '\t'

end EditReading

open EditReading

/-- The text up to a delimiter that is not escaped.  An escaped delimiter stands
for itself; the other escapes stay, apart from that of a line end in an
expression. -/
def cutDelimited (delimiter : Char) (isRegex : Bool) : List Char → Option (List Char × List Char)
  | [] => none
  | '\\' :: char :: rest =>
      (cutDelimited delimiter isRegex rest).map fun (inside, after) =>
        if char == delimiter && (isRegex || char != '&') then (char :: inside, after)
        else if char == 'n' && isRegex then ('\n' :: inside, after)
        else ('\\' :: char :: inside, after)
  | char :: rest =>
      if char == delimiter then some ([], rest)
      else if char == '\n' then none
      else (cutDelimited delimiter isRegex rest).map fun (inside, after) => (char :: inside, after)

/-- The characters of an expression with the escapes of control characters
resolved. -/
def resolveControls : List Char → List Char
  | '\\' :: char :: rest =>
      match char with
      | 'a' => '\x07' :: resolveControls rest
      | 'f' => '\x0c' :: resolveControls rest
      | 'r' => '\r' :: resolveControls rest
      | 't' => '\t' :: resolveControls rest
      | 'v' => '\x0b' :: resolveControls rest
      | other => '\\' :: other :: resolveControls rest
  | char :: rest => char :: resolveControls rest
  | [] => []

/-- The expression that a text stands for. -/
def editRegex (extended ignoresCase : Bool) (text : List Char) : EditReading EditRegex := do
  if text.isEmpty then return ⟨none, ignoresCase⟩
  match Regex.ofChars extended (resolveControls text) with
  | .ok regex => return ⟨some regex, ignoresCase⟩
  | .error reason => fault reason

/-- The parts of inserted text.  The fuel is its length. -/
def insertedParts : (fuel : Nat) → List Char → List InsertedPart
  | 0, _ => []
  | fuel + 1, chars =>
      match chars with
      | [] => []
      | '&' :: rest => .group 0 :: insertedParts fuel rest
      | ['\\'] => [.char '\\']
      | '\\' :: char :: rest =>
          let part : InsertedPart := match char with
            | 'L' => .case .lower
            | 'U' => .case .upper
            | 'l' => .case .nextLower
            | 'u' => .case .nextUpper
            | 'E' => .case .ending
            | 'n' => .char '\n'
            | 'a' => .char '\x07'
            | 'f' => .char '\x0c'
            | 'r' => .char '\r'
            | 't' => .char '\t'
            | 'v' => .char '\x0b'
            | digit => if digit.isDigit then .group (digit.toNat - '0'.toNat) else .char digit
          part :: insertedParts fuel rest
      | char :: rest => .char char :: insertedParts fuel rest

/-- The number of groups of an expression. -/
def groupCount : Regex → Nat
  | .group number body => max number (groupCount body)
  | .sequence first second => max (groupCount first) (groupCount second)
  | .either first second => max (groupCount first) (groupCount second)
  | .repeated _ _ body => groupCount body
  | _ => 0

/-- The number that comes next. -/
def readNumber : EditReading Nat := do
  return (Text.decimal? (← takeWhile Char.isDigit)).getD 0

/-- Read an address. -/
def readAddress (extended : Bool) : EditReading (Option EditAddress) := do
  let like (delimiter : Char) : EditReading (Option EditAddress) := do
    match cutDelimited delimiter true (← get) with
    | none =>
        set ([] : List Char)
        fault "unterminated address regex"
    | some (inside, after) =>
        set after
        let flags ← takeWhile fun char => char == 'I' || char == 'M'
        return some (.like (← editRegex extended (flags.contains 'I') inside))
  match ← get with
  | '/' :: rest =>
      set rest
      like '/'
  | '\\' :: delimiter :: rest =>
      set rest
      like delimiter
  | '$' :: rest =>
      set rest
      return some .last
  | char :: _ =>
      if !char.isDigit then return none
      let number ← readNumber
      skipWhile isBlank
      match ← get with
      | '~' :: rest =>
          set rest
          return some (.step number (← readNumber))
      | _ => return some (.line number)
  | [] => return none

/-- Read the lines that an edit is for. -/
def readRange (extended : Bool) : EditReading EditRange := do
  let first ← readAddress extended
  skipWhile isBlank
  let last : Option RangeEnd ← match first, ← get with
    | some _, ',' :: rest => do
        set rest
        skipWhile isBlank
        match ← get with
        | '+' :: more =>
            set more
            pure (some (.more (← readNumber)))
        | '~' :: more =>
            set more
            pure (some (.multiple (← readNumber)))
        | _ =>
            match ← readAddress extended with
            | some address => pure (some (.address address))
            | none => do
                skip 1
                fault "unexpected \x60,'"
    | none, ',' :: _ => do
        skip 1
        fault "unexpected \x60,'"
    | _, _ => pure none
  match first, last with
  | some (.line 0), some (.address (.like _)) => pure ()
  | some (.line 0), _ => do
      skip 1
      fault "invalid usage of line address 0"
  | _, _ => pure ()
  skipWhile fun char => isBlank char
  let marks ← takeWhile fun char => char == '!' || isBlank char
  return ⟨first, last, marks.contains '!'⟩

/-- Read the end of an edit. -/
def readEditEnd : EditReading Unit := do
  skipWhile isBlank
  match ← get with
  | [] => return
  | '\n' :: rest => set rest
  | ';' :: rest => set rest
  | '#' :: _ => return
  | '\x7d' :: _ => return
  | _ =>
      skip 1
      fault "extra characters after command"

/-- The text of an edit that inserts lines, up to a line end that is not
escaped, and the text after it. -/
def cutText : List Char → List Char × List Char
  | [] => ([], [])
  | ['\\'] => ([], [])
  | '\n' :: rest => ([], rest)
  | '\\' :: char :: rest =>
      let (text, after) := cutText rest
      (char :: text, after)
  | char :: rest =>
      let (text, after) := cutText rest
      (char :: text, after)

/-- Read the text of an edit that inserts lines. -/
def readText : EditReading (List Char) := do
  skipWhile isBlank
  match ← get with
  | [] => fault "expected \\ after \x60a', \x60c' or \x60i'"
  | '\\' :: rest =>
      let start := rest.dropWhile isBlank
      match start with
      | '\n' :: text => set text
      | _ => set rest
  | _ => pure ()
  let (text, after) := cutText (← get)
  set after
  return text ++ ['\n']

/-- Read the name of a file, which lasts to the end of the line. -/
def readFileName : EditReading String := do
  skipWhile isBlank
  let name ← takeWhile (· != '\n')
  if name.isEmpty then fault "missing filename in r/R/w/W commands"
  return String.ofList name

/-- Read the name of a place. -/
def readLabel (stopsAtSemicolon : Bool) : EditReading String := do
  skipWhile isBlank
  let name ← takeWhile fun char =>
    char != '\n' && !(stopsAtSemicolon && (char == ';' || isBlank char))
  return String.ofList name

/-- Read the status with which an edit ends the work. -/
def readStatus : EditReading Nat := do
  skipWhile isBlank
  readNumber

/-- Read the flags of a substitution. -/
def readFlags (substitution : Substitution) : (fuel : Nat) → EditReading (Substitution × Bool)
  | 0 => return (substitution, false)
  | fuel + 1 => do
      match ← get with
      | 'g' :: rest =>
          set rest
          if substitution.everywhere then fault "multiple \x60g' options to \x60s' command"
          readFlags { substitution with everywhere := true } fuel
      | 'p' :: rest =>
          set rest
          if substitution.prints then fault "multiple \x60p' options to \x60s' command"
          readFlags { substitution with prints := true } fuel
      | 'i' :: rest | 'I' :: rest =>
          set rest
          let (read, _) ← readFlags substitution fuel
          return (read, true)
      | 'm' :: rest | 'M' :: rest =>
          set rest
          readFlags substitution fuel
      | 'w' :: rest =>
          set rest
          return ({ substitution with target := some (← readFileName) }, false)
      | [] => return (substitution, false)
      | char :: _ =>
          if char.isDigit then
            let number ← readNumber
            if number = 0 then fault "number option to \x60s' command may not be zero"
            readFlags { substitution with number } fuel
          else if char == '\n' || char == ';' || char == '#' || char == '\x7d' || isBlank char then
            readEditEnd
            return (substitution, false)
          else
            skip 1
            fault "unknown option to \x60s'"

/-- Read a substitution. -/
def readSubstitution (extended : Bool) : EditReading EditAction := do
  let unfinished {α : Type} : EditReading α := do
    set ([] : List Char)
    fault "unterminated \x60s' command"
  match ← get with
  | [] => unfinished
  | delimiter :: rest =>
      match cutDelimited delimiter true rest with
      | none => unfinished
      | some (pattern, afterPattern) =>
          match cutDelimited delimiter false afterPattern with
          | none => unfinished
          | some (inserted, after) =>
              set after
              let parts := insertedParts inserted.length inserted
              let plain : Substitution := ⟨⟨none, false⟩, parts, false, 1, false, none⟩
              let (substitution, ignoresCase) ← readFlags plain (after.length + 1)
              let regex ← editRegex extended ignoresCase pattern
              let groups := (regex.regex?.map groupCount).getD 9
              let used := parts.foldl (fun greatest part => match part with
                | .group number => max greatest number
                | _ => greatest) 0
              if groups < used then
                fault ("invalid reference \\" ++ String.ofList (Nat.toDigits 10 used) ++
                  " on \x60s' command's RHS")
              return .substitute { substitution with regex }

/-- The characters of a list for an exchange. -/
def exchangeChars : List Char → List Char
  | '\\' :: '\\' :: rest => '\\' :: exchangeChars rest
  | '\\' :: 'n' :: rest => '\n' :: exchangeChars rest
  | '\\' :: 't' :: rest => '\t' :: exchangeChars rest
  | char :: rest => char :: exchangeChars rest
  | [] => []

/-- Read an exchange of characters. -/
def readExchange : EditReading EditAction := do
  let unfinished {α : Type} : EditReading α := do
    set ([] : List Char)
    fault "unterminated \x60y' command"
  match ← get with
  | [] => unfinished
  | delimiter :: rest =>
      match cutDelimited delimiter true rest with
      | none => unfinished
      | some (first, afterFirst) =>
          match cutDelimited delimiter true afterFirst with
          | none => unfinished
          | some (second, after) =>
              set after
              let (first, second) := (exchangeChars first, exchangeChars second)
              if first.length != second.length then
                fault "strings for \x60y' command are different lengths"
              readEditEnd
              return .exchange first second

/-- Read what an edit does after its letter. -/
def readAction (extended : Bool) (letter : Char) : EditReading EditAction := do
  let plain (action : EditAction) : EditReading EditAction := do
    readEditEnd
    return action
  match letter with
  | '\x7b' => return .opening 0
  | '=' => plain .printNumber
  | 'd' => plain .delete
  | 'D' => plain .deleteFirst
  | 'g' => plain .recall
  | 'G' => plain .recallMore
  | 'h' => plain .keep
  | 'H' => plain .keepMore
  | 'n' => plain .next
  | 'N' => plain .append
  | 'p' => plain .print
  | 'P' => plain .printFirst
  | 'x' => plain .swap
  | 'z' => plain .clear
  | 'l' => do
      let _ ← readStatus
      plain .printVisibly
  | 'F' => plain .printName
  | 'q' => do plain (.leave (← readStatus))
  | 'Q' => do plain (.leaveQuietly (← readStatus))
  | 'a' => return .textAfter (← readText)
  | 'i' => return .textBefore (← readText)
  | 'c' => return .textInstead (← readText)
  | 'r' => return .readFile (← readFileName)
  | 'w' => return .writeFile (← readFileName)
  | 'W' => return .writeFirst (← readFileName)
  | 'b' => do plain (.jump (← readLabel true))
  | 't' => do plain (.jumpIfChanged (← readLabel true))
  | 'T' => do plain (.jumpUnlessChanged (← readLabel true))
  | 's' => readSubstitution extended
  | 'y' => readExchange
  | other => fault ("unknown command: \x60" ++ String.singleton other ++ "'")

/-- Read edits.  `opened` is the number of blocks that are open. -/
def readEdits (extended : Bool) (opened : Nat) : (fuel : Nat) → EditReading (List Edit)
  | 0 => return []
  | fuel + 1 => do
      skipWhile fun char => isBlank char || char == '\n' || char == ';'
      match ← get with
      | [] =>
          if opened != 0 then throw ⟨0, "unmatched \x60\x7b'"⟩
          return []
      | '#' :: _ =>
          skipWhile (· != '\n')
          readEdits extended opened fuel
      | _ =>
          let range ← readRange extended
          match ← get with
          | [] => fault "missing command"
          | '\x7d' :: rest =>
              set rest
              if opened = 0 then fault "unexpected \x60\x7d'"
              if range.first.isSome then fault "\x7d doesn't want any addresses"
              readEditEnd
              return ⟨range, .closing, none⟩ :: (← readEdits extended (opened - 1) fuel)
          | ':' :: rest =>
              set rest
              if range.first.isSome then fault ": doesn't want any addresses"
              let label ← readLabel true
              if label = "" then fault "\":\" lacks a label"
              return ⟨range, .label, some label⟩ :: (← readEdits extended opened fuel)
          | '\n' :: _ => fault "missing command"
          | letter :: rest =>
              set rest
              let action ← readAction extended letter
              let opened := if letter == '\x7b' then opened + 1 else opened
              return ⟨range, action, none⟩ :: (← readEdits extended opened fuel)

/-- The number of edits up to the end of the block that is open. -/
def openBlockLength : (depth : Nat) → List Edit → Nat
  | _, [] => 0
  | depth, edit :: rest =>
      match edit.action with
      | .opening _ => openBlockLength (depth + 1) rest + 1
      | .closing => if depth = 0 then 0 else openBlockLength (depth - 1) rest + 1
      | _ => openBlockLength depth rest + 1

/-- Edits in which every block knows where it ends. -/
def linkBlocks (index : Nat) : List Edit → List Edit
  | [] => []
  | edit :: rest =>
      let linked := match edit.action with
        | .opening _ => { edit with action := .opening (index + 1 + openBlockLength 0 rest) }
        | _ => edit
      linked :: linkBlocks (index + 1) rest

/-- The edits of a script, or the place of a fault and what is wrong. -/
def editsOf (extended : Bool) (chars : List Char) : Except (Nat × String) (List Edit) :=
  match (readEdits extended 0 (2 * chars.length + 2)).run chars with
  | .ok (edits, _) => .ok (linkBlocks 0 edits)
  | .error fault =>
      .error (if fault.reason = "unmatched \x60\x7b'" then 0 else chars.length - fault.rest,
        fault.reason)

end CertPress.Shell
