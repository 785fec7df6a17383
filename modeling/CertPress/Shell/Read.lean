import CertPress.Shell.System
import CertPress.Shell.Token

/-!
# Reading scripts

A script is read from the front, one line of commands at a time.  Each reading
step is given fuel, of which a script needs no more than a fixed multiple of its
length.
-/

namespace CertPress.Shell

/-- Reading from the front of a text, of which the number of lines is known. -/
abbrev ReadAction (α : Type) := ReaderT Nat (StateT (List Char) (Except SyntaxFault)) α

namespace ReadAction

/-- The line at which reading stands. -/
def line : ReadAction Nat := do
  return (← read) - lineCount (← get)

/-- Report a fault at this line. -/
def fault {α : Type} (reason : String) : ReadAction α := do
  throw ⟨← line, reason⟩

/-- Skip blanks and comments on this line. -/
def blanks : ReadAction Unit := modify (skipBlanks false false)

/-- Skip blanks, comments and line ends. -/
def lines : ReadAction Unit := modify (skipBlanks true false)

/-- The next token on this line. -/
def token (mayBeKeyword : Bool) : ReadAction Token := do
  blanks
  return Token.at? mayBeKeyword (← get)

/-- The next token on this line or a later one. -/
def nextToken (mayBeKeyword : Bool) : ReadAction Token := do
  lines
  return Token.at? mayBeKeyword (← get)

/-- Use up characters. -/
def skip (count : Nat) : ReadAction Unit := modify (·.drop count)

/-- Report a token that may not stand here. -/
def unexpected {α : Type} (token : Token) (expected : Option Token) : ReadAction α := do
  skip token.length
  fault (token.name ++ " unexpected" ++
    (expected.map fun wanted => " (expecting " ++ wanted.name ++ ")").getD "")

/-- Read a token that has to come next. -/
def expect (wanted found : Token) : ReadAction Unit :=
  if found = wanted then skip wanted.length else unexpected found (some wanted)

/-- Read a keyword that has to come next. -/
def expectKeyword (word : String) : ReadAction Unit := do
  expect (.keyword word) (← nextToken true)

/-- Use up a character after reading something else. -/
def advance {α : Type} (rest : List Char) (next : ReadAction α) : ReadAction α := do
  set rest
  next

/-- Read another text of the same script, and then go on where reading
stands. -/
def within {α : Type} (text : List Char) (action : ReadAction α) : ReadAction α := do
  let here ← line
  let rest ← get
  let result ← advance text (withReader (fun _ => here + lineCount text) action)
  set rest
  return result

end ReadAction

open ReadAction

/-- Where a run of fragments ends. -/
inductive Ending where
  /-- Before the end of a word. -/
  | word
  /-- At the closing double quote, which is read. -/
  | quote
  /-- At the closing brace, which is read. -/
  | brace
  /-- At the closing brace inside double quotes. -/
  | quotedBrace
  /-- At the end of a document. -/
  | document
  /-- At the two closing parentheses of an expression, in which some
  parentheses are open. -/
  | sum (opened : Nat)
  deriving DecidableEq, Repr, Inhabited

namespace Ending

/-- Whether blanks and patterns have no meaning before the ending. -/
def isQuoted : Ending → Bool
  | .word | .brace => false
  | _ => true

/-- Whether a backslash takes the meaning of a character before the ending. -/
def escapes (ending : Ending) (char : Char) : Bool :=
  !ending.isQuoted || ['$', '\x60', '\\'].contains char ||
    (char == '"' && ending != .document) || (char == '\x7d' && ending == .quotedBrace)

/-- Read the end of a text before the ending. -/
def finish : Ending → ReadAction Word
  | .word | .document => return []
  | .quote | .quotedBrace => fault "Unterminated quoted string"
  | .brace => fault "Missing '\x7d'"
  | .sum _ => fault "Missing '))'"

end Ending

/-- The operators in braces, longest first, with whether an empty value counts
as missing. -/
def changes : List (List Char × Change × Bool) :=
  [([':', '-'], .otherwise, true), ([':', '='], .assign, true), ([':', '?'], .require, true),
   ([':', '+'], .instead, true), (['-'], .otherwise, false), (['='], .assign, false),
   (['?'], .require, false), (['+'], .instead, false), (['%', '%'], .withoutEnd true, false),
   (['%'], .withoutEnd false, false), (['#', '#'], .withoutStart true, false),
   (['#'], .withoutStart false, false)]

/-- The parameters whose name is one character. -/
def specialNames : List Char := ['@', '*', '#', '?', '-', '$', '!']

/-- The name of a parameter in braces at the start of a text. -/
def parameterAt (chars : List Char) : List Char :=
  match chars with
  | [] => []
  | first :: _ =>
      if first.isDigit then chars.takeWhile Char.isDigit
      else if specialNames.contains first then [first]
      else nameAt chars

/-- What stands in braces: whether it is a length, the name of the parameter, and
the text after it.  A number sign is a parameter of its own unless the braces
name another one after it. -/
def bracedAt (chars : List Char) : Bool × List Char × List Char :=
  match chars with
  | '#' :: rest =>
      let name := match rest with
        | first :: second :: _ =>
            if startsName first || first.isDigit then parameterAt rest
            else if specialNames.contains first && second == '\x7d' then [first]
            else []
        | _ => []
      if name.isEmpty then (false, ['#'], rest) else (true, name, rest.drop name.length)
  | _ =>
      let name := parameterAt chars
      (false, name, chars.drop name.length)

/-- The text of a command in backquotes, with the escapes that quote nothing
there resolved. -/
def unescapeCommand (inQuotes : Bool) : List Char → List Char
  | '\\' :: char :: rest =>
      if char == '\x60' || char == '$' || char == '\\' || (char == '"' && inQuotes) then
        char :: unescapeCommand inQuotes rest
      else '\\' :: char :: unescapeCommand inQuotes rest
  | char :: rest => char :: unescapeCommand inQuotes rest
  | [] => []

/-- The text up to an unescaped backquote, and the text after it. -/
def cutBackquoted : List Char → Option (List Char × List Char)
  | '\x60' :: rest => some ([], rest)
  | '\\' :: char :: rest =>
      (cutBackquoted rest).map fun (before, after) => ('\\' :: char :: before, after)
  | char :: rest => (cutBackquoted rest).map fun (before, after) => (char :: before, after)
  | [] => none

/-- The parts of a simple command that have been read. -/
structure Draft where
  assignments : List (String × Word)
  words : List Word
  redirects : List Redirect

namespace Draft

/-- Nothing has been read. -/
def start : Draft := ⟨[], [], []⟩

/-- The command of a draft, whose parts are in reverse. -/
def command (draft : Draft) (line : Nat) : Command :=
  .simple line draft.assignments.reverse draft.words.reverse draft.redirects.reverse

/-- The text of a word that may name a function: the only word, if nothing in it
is quoted or expanded. -/
def functionName? (draft : Draft) : Option (Option (List Char)) :=
  match draft.assignments, draft.words, draft.redirects with
  | [], [word], [] =>
      some (word.foldr (fun fragment name => match fragment, name with
        | .plain content, some rest => some (content ++ rest)
        | _, _ => none) (some []))
  | _, _, _ => none

end Draft

/-- The name of the variable that the next word assigns to. -/
def assignedName? (chars : List Char) : Option (List Char) :=
  let found := nameAt chars
  if found.isEmpty then none
  else (Text.after? ['='] (chars.drop found.length)).map fun _ => found

mutual

/-- Read fragments. -/
def readParts (fuel : Nat) (ending : Ending) : ReadAction Word :=
  match fuel with
  | 0 => fault "Too long"
  | fuel + 1 => do
      match ← get with
      | [] => ending.finish
      | '\\' :: '\n' :: rest => advance rest (readParts fuel ending)
      | '\\' :: char :: rest =>
          let content := if ending.escapes char then [char] else ['\\', char]
          return .literal content :: (← advance rest (readParts fuel ending))
      | '\'' :: rest =>
          if ending.isQuoted then
            return .literal ['\''] :: (← advance rest (readParts fuel ending))
          else match Text.cut? ['\''] rest with
            | some (content, after) =>
                return .literal content :: (← advance after (readParts fuel ending))
            | none => advance [] (fault "Unterminated quoted string")
      | '"' :: rest =>
          match ending with
          | .quote => advance rest (return [])
          | .quotedBrace => advance rest (readParts fuel ending)
          | .word | .brace =>
              let parts ← advance rest (readParts fuel .quote)
              return .quoted parts :: (← readParts fuel ending)
          | .document | .sum _ => return .plain ['"'] :: (← advance rest (readParts fuel ending))
      | '\x7d' :: rest =>
          if ending = .brace ∨ ending = .quotedBrace then advance rest (return [])
          else return .plain ['\x7d'] :: (← advance rest (readParts fuel ending))
      | '$' :: rest =>
          let fragment ← advance rest (readDollar fuel ending.isQuoted)
          return fragment :: (← readParts fuel ending)
      | '\x60' :: rest =>
          match cutBackquoted rest with
          | none => advance [] (fault "EOF in backquote substitution")
          | some (inner, after) =>
              set after
              let body ← within (unescapeCommand (ending == .quote) inner) (readList fuel true)
              return .printed body :: (← readParts fuel ending)
      | char :: rest =>
          match ending, char with
          | .sum opened, '(' =>
              return .plain ['('] :: (← advance rest (readParts fuel (.sum (opened + 1))))
          | .sum (opened + 1), ')' =>
              return .plain [')'] :: (← advance rest (readParts fuel (.sum opened)))
          | .sum 0, ')' =>
              match rest with
              | ')' :: after => advance after (return [])
              | _ => return .plain [')'] :: (← advance rest (readParts fuel ending))
          | _, _ =>
              if ending = .word && endsWord char then return []
              else
                let run := rest.takeWhile isOrdinary
                return .plain (char :: run) ::
                  (← advance (rest.drop run.length) (readParts fuel ending))

/-- Read what follows a dollar sign. -/
def readDollar (fuel : Nat) (inQuotes : Bool) : ReadAction Fragment :=
  match fuel with
  | 0 => fault "Too long"
  | fuel + 1 => do
      match ← get with
      | '(' :: '(' :: rest => return .sum (← advance rest (readParts fuel (.sum 0)))
      | '(' :: rest =>
          let body ← advance rest (readList fuel true)
          expect .closing (← nextToken true)
          return .printed body
      | '\x7b' :: rest => advance rest (readBraced fuel inQuotes)
      | char :: rest =>
          if char.isDigit || specialNames.contains char then
            advance rest (return .parameter (String.singleton char))
          else
            let name := nameAt (char :: rest)
            if name.isEmpty then return .plain ['$']
            skip name.length
            return .parameter (String.ofList name)
      | [] => return .plain ['$']

/-- Read what follows a dollar sign and a brace. -/
def readBraced (fuel : Nat) (inQuotes : Bool) : ReadAction Fragment :=
  match fuel with
  | 0 => fault "Too long"
  | fuel + 1 => do
      let (isLength, found, rest) := bracedAt (← get)
      set rest
      let name := String.ofList found
      let standard : Ending := if inQuotes then .quotedBrace else .brace
      let misnamed : ReadAction Fragment := do
        let _ ← readParts fuel standard
        return .misnamed
      if found.isEmpty then misnamed
      else if rest.head? = some '\x7d' then
        skip 1
        return if isLength then .length name else .parameter name
      else if isLength then misnamed
      else match changes.find? fun (mark, _) => mark.isPrefixOf rest with
        | none => misnamed
        | some (mark, change, emptyIsMissing) =>
            skip mark.length
            let ending := if change.hasPattern then .brace else standard
            return .changed name change emptyIsMissing (← readParts fuel ending)

/-- Read a word that is not missing. -/
def readWord (fuel : Nat) (expected : Option Token) : ReadAction Word :=
  match fuel with
  | 0 => fault "Too long"
  | fuel + 1 => do
      let found ← token false
      if found != .word then unexpected found expected
      readParts fuel .word

/-- Read the document after its operator. -/
def readDocument (fuel : Nat) (withoutTabs : Bool) : ReadAction Word :=
  match fuel with
  | 0 => fault "Too long"
  | fuel + 1 => do
      let found ← token false
      if found != .word then unexpected found none
      let chars ← get
      let (delimiter, quoted, rest) := delimiterAt chars.length chars
      let (body, after) := cutDocument delimiter withoutTabs quoted rest
      set after
      if quoted then return [.literal body]
      else return [.quoted (← within body (readParts fuel .document))]

/-- Read a redirection. -/
def readRedirect (fuel : Nat) : ReadAction Redirect :=
  match fuel with
  | 0 => fault "Too long"
  | fuel + 1 => do
      match redirectAt? (← get) with
      | none => fault "Bad fd number"
      | some (descriptor, operator, rest) =>
          set rest
          match operator with
          | .document withoutTabs =>
              return .mk descriptor .document (← readDocument fuel withoutTabs)
          | .mode mode => return .mk descriptor mode (← readWord fuel none)

/-- Read the redirections that come next. -/
def readRedirects (fuel : Nat) : ReadAction (List Redirect) :=
  match fuel with
  | 0 => fault "Too long"
  | fuel + 1 => do
      match ← token true with
      | .redirect => return (← readRedirect fuel) :: (← readRedirects fuel)
      | _ => return []

/-- Read the rest of a simple command, or the body of a function. -/
def readSimple (fuel : Nat) (start : Nat) (draft : Draft) : ReadAction Command :=
  match fuel with
  | 0 => fault "Too long"
  | fuel + 1 => do
      match ← token false with
      | .redirect =>
          let redirect ← readRedirect fuel
          readSimple fuel start { draft with redirects := redirect :: draft.redirects }
      | .word =>
          let chars ← get
          match (if draft.words.isEmpty then assignedName? chars else none) with
          | some name =>
              skip (name.length + 1)
              let assignment := (String.ofList name, ← readParts fuel .word)
              readSimple fuel start { draft with assignments := assignment :: draft.assignments }
          | none =>
              let word ← readParts fuel .word
              readSimple fuel start { draft with words := word :: draft.words }
      | .opening =>
          match draft.functionName? with
          | none => return draft.command start
          | some name =>
              skip 1
              expect .closing (← token false)
              let name := name.getD []
              if !isName name || specialBuiltins.contains (String.ofList name) then
                fault "Bad function name"
              lines
              return .define (String.ofList name) (← readCommand fuel)
      | _ => return draft.command start

/-- Read words up to the end of the line. -/
def readWords (fuel : Nat) : ReadAction (List Word) :=
  match fuel with
  | 0 => fault "Too long"
  | fuel + 1 => do
      match ← token false with
      | .word => return (← readParts fuel .word) :: (← readWords fuel)
      | _ => return []

/-- Read the rest of a conditional command. -/
def readCond (fuel : Nat) : ReadAction Command :=
  match fuel with
  | 0 => fault "Too long"
  | fuel + 1 => do
      let condition ← readList fuel false
      expectKeyword "then"
      let kept ← readList fuel false
      match ← nextToken true with
      | .keyword "elif" =>
          skip 4
          return .cond condition kept (← readCond fuel)
      | .keyword "else" =>
          skip 4
          let otherwise ← readList fuel false
          expectKeyword "fi"
          return .cond condition kept otherwise
      | found =>
          expect (.keyword "fi") found
          return .cond condition kept .idle

/-- Read the body of a loop. -/
def readBody (fuel : Nat) : ReadAction Command :=
  match fuel with
  | 0 => fault "Too long"
  | fuel + 1 => do
      expectKeyword "do"
      let body ← readList fuel false
      expectKeyword "done"
      return body

/-- Read the rest of a loop over fields. -/
def readEach (fuel : Nat) (start : Nat) : ReadAction Command :=
  match fuel with
  | 0 => fault "Too long"
  | fuel + 1 => do
      let found ← token false
      let text := Token.wordAt (← get)
      if found != .word || !isName text then fault "Bad for loop variable"
      skip text.length
      let items ← match ← nextToken true with
        | .keyword "in" => do
            skip 2
            let words ← readWords fuel
            let after ← token false
            if after != .line && after != .semicolon then unexpected after none
            skip 1
            pure (some words)
        | .semicolon => do
            skip 1
            pure none
        | _ => pure none
      return .each start (String.ofList text) items (← readBody fuel)

/-- Read the patterns of an arm. -/
def readPatterns (fuel : Nat) : ReadAction (List Word) :=
  match fuel with
  | 0 => fault "Too long"
  | fuel + 1 => do
      let pattern ← readWord fuel (some .closing)
      match ← token false with
      | .pipe =>
          skip 1
          return pattern :: (← readPatterns fuel)
      | found =>
          expect .closing found
          return [pattern]

/-- Read the arms of a selection. -/
def readArms (fuel : Nat) : ReadAction (List (List Word × Command)) :=
  match fuel with
  | 0 => fault "Too long"
  | fuel + 1 => do
      match ← nextToken true with
      | .keyword "esac" =>
          skip 4
          return []
      | found =>
          if found = .opening then skip 1
          let patterns ← readPatterns fuel
          let body ← readList fuel true
          match ← nextToken true with
          | .keyword "esac" =>
              skip 4
              return [(patterns, body)]
          | after =>
              expect .armEnding after
              return (patterns, body) :: (← readArms fuel)

/-- Read a command that is no list. -/
def readCommand (fuel : Nat) : ReadAction Command :=
  match fuel with
  | 0 => fault "Too long"
  | fuel + 1 => do
      let found ← token true
      let here ← line
      let compound (body : Command) : ReadAction Command := do
        let redirects ← readRedirects fuel
        return if redirects.isEmpty then body else .redirected here body redirects
      match found with
      | .word | .redirect => readSimple fuel here .start
      | .opening =>
          skip 1
          let body ← readList fuel false
          expect .closing (← nextToken true)
          compound (.subshell here body)
      | .keyword word =>
          match word with
          | "if" =>
              skip 2
              compound (← readCond fuel)
          | "while" =>
              skip 5
              let condition ← readList fuel false
              compound (.repeated true condition (← readBody fuel))
          | "until" =>
              skip 5
              let condition ← readList fuel false
              compound (.repeated false condition (← readBody fuel))
          | "for" =>
              skip 3
              compound (← readEach fuel here)
          | "case" =>
              skip 4
              let subject ← readWord fuel (some .word)
              expectKeyword "in"
              compound (.select here subject (← readArms fuel))
          | "\x7b" =>
              skip 1
              let body ← readList fuel false
              expectKeyword "\x7d"
              compound body
          | _ => unexpected found none
      | _ => unexpected found none

/-- Read the rest of a pipe. -/
def readPipe (fuel : Nat) : ReadAction Command :=
  match fuel with
  | 0 => fault "Too long"
  | fuel + 1 => do
      let first ← readCommand fuel
      match ← token true with
      | .pipe =>
          skip 1
          lines
          return .pipe first (← readPipe fuel)
      | _ => return first

/-- Read a pipe that may be negated. -/
def readTerm (fuel : Nat) : ReadAction Command :=
  match fuel with
  | 0 => fault "Too long"
  | fuel + 1 => do
      match ← token true with
      | .keyword "!" =>
          skip 1
          return .negate (← readPipe fuel)
      | _ => readPipe fuel

/-- Read the terms that are joined to a command. -/
def readJoined (fuel : Nat) (first : Command) : ReadAction Command :=
  match fuel with
  | 0 => fault "Too long"
  | fuel + 1 => do
      match ← token true with
      | .both =>
          skip 2
          lines
          readJoined fuel (.both first (← readTerm fuel))
      | .either =>
          skip 2
          lines
          readJoined fuel (.either first (← readTerm fuel))
      | _ => return first

/-- Read commands up to a token that closes the list. -/
def readList (fuel : Nat) (mayBeEmpty : Bool) : ReadAction Command :=
  match fuel with
  | 0 => fault "Too long"
  | fuel + 1 => do
      let found ← nextToken true
      if found = .ending ∨ (found.closesList && mayBeEmpty) then return .idle
      let first ← readJoined fuel (← readTerm fuel)
      let append (first : Command) : ReadAction Command := do
        match ← readList fuel true with
        | .idle => return first
        | later => return .sequence first later
      match ← token true with
      | .background =>
          skip 1
          append (.background first)
      | .semicolon =>
          skip 1
          append first
      | .line => append first
      | _ => return first

end

/-- Read the commands up to the end of a line. -/
def readLine (limit : Nat) : (fuel : Nat) → ReadAction Command
  | 0 => fault "Too long"
  | fuel + 1 => do
      match ← token true with
      | .line =>
          skip 1
          return .idle
      | .ending => return .idle
      | _ => do
          let first ← readJoined limit (← readTerm limit)
          let append (first : Command) : ReadAction Command := do
            match ← readLine limit fuel with
            | .idle => return first
            | later => return .sequence first later
          match ← token true with
          | .background =>
              skip 1
              append (.background first)
          | .semicolon =>
              skip 1
              append first
          | .line => append first
          | .ending => append first
          | found => unexpected found none

/-- The commands of a text, read line by line. -/
def readScript (lines limit : Nat) : (fuel : Nat) → List Char → Script
  | 0, _ => ⟨[], none⟩
  | fuel + 1, chars =>
      match skipBlanks true false chars with
      | [] => ⟨[], none⟩
      | start =>
          match (readLine limit limit).run lines start with
          | .error fault => ⟨[], some fault⟩
          | .ok (command, rest) =>
              let later := readScript lines limit fuel rest
              { later with commands := command :: later.commands }

/-- The commands of a script. -/
def Script.ofChars (chars : List Char) : Script :=
  let limit := 16 * chars.length + 64
  readScript (lineCount chars + 1) limit limit chars

end CertPress.Shell
