import CertPress.Shell.Utility.Calling
import CertPress.Shell.Utility.Listing

/-!
# Finding files

Everything below some paths is visited, and an expression of tests and actions
is answered for each file.  An expression without an action prints the paths for
which it holds.
-/

namespace CertPress.Shell

open ShellAction

/-- How permissions are compared with those that are asked for. -/
inductive ModeQuestion where
  | exact
  | all
  | any
  deriving DecidableEq, Repr, Inhabited

/-- A test or an action. -/
inductive FindTest where
  /-- The last name of the path matches. -/
  | name (ignoresCase : Bool) (pattern : List Char)
  | path (ignoresCase : Bool) (pattern : List Char)
  | kind (letters : List Char)
  | empty
  /-- The size in units is less, the same or greater. -/
  | size (order : Ordering) (count unit : Nat)
  | mode (question : ModeQuestion) (bits : Nat)
  | executable
  | links (count : Nat)
  | always (answer : Bool)
  | print (ending : Char)
  | printFormat (format : List Char)
  | prune
  | quit
  | delete
  /-- Run a command for each file. -/
  | run (command : List String)
  /-- Run a command once for all files. -/
  | runOnce (index : Nat) (command : List String)
  deriving DecidableEq, Repr, Inhabited

/-- A combination of tests. -/
inductive FindExpression where
  | test (test : FindTest)
  | negate (operand : FindExpression)
  | both (first second : FindExpression)
  | either (first second : FindExpression)
  /-- The answer of the first part does not count. -/
  | after (first second : FindExpression)
  deriving DecidableEq, Repr, Inhabited

/-- What is known when an expression has been read. -/
structure FindPlan where
  words : List String
  fewest : Nat
  most : Option Nat
  /-- Whether a directory comes after what it holds. -/
  isDeep : Bool
  /-- Whether the expression says what to do with a file. -/
  hasAction : Bool
  /-- The number of commands that are run once. -/
  commands : Nat
  deriving Inhabited

/-- The reading of an expression. -/
abbrev FindReading (α : Type) := StateT FindPlan (Except String) α

namespace FindReading

/-- The next word. -/
def word? : FindReading (Option String) := do return (← get).words.head?

/-- Take the next word. -/
def skip : FindReading Unit := modify fun plan => { plan with words := plan.words.drop 1 }

/-- Report a fault. -/
def fail {α : Type} (text : String) : FindReading α := throw text

/-- The argument of a test. -/
def argument (test : String) : FindReading String := do
  match (← get).words with
  | [] => fail ("missing argument to \x60" ++ test ++ "'")
  | word :: _ =>
      skip
      if word = "" then fail ("missing argument to \x60" ++ test ++ "'")
      return word

/-- Note that the expression has an action. -/
def act (test : FindTest) : FindReading FindTest := do
  modify fun plan => { plan with hasAction := true }
  return test

/-- A number of levels. -/
def levels (test : String) : FindReading Nat := do
  let text ← argument test
  match Text.decimal? text.toList with
  | some number => return number
  | none =>
      fail ("Expected a positive decimal integer argument to " ++ test ++ ", but got " ++
        quotedName text)

/-- A number with a sign that says how to compare. -/
def compared (chars : List Char) : Ordering × List Char :=
  match chars with
  | '+' :: rest => (.gt, rest)
  | '-' :: rest => (.lt, rest)
  | _ => (.eq, chars)

/-- The test of a size. -/
def sizeTest (text : String) : FindReading FindTest := do
  let (order, rest) := compared text.toList
  let digits := rest.takeWhile Char.isDigit
  let unit? : Option Nat := match rest.drop digits.length with
    | [] | ['b'] => some 512
    | ['c'] => some 1
    | ['w'] => some 2
    | ['k'] => some 1024
    | ['M'] => some (1024 * 1024)
    | ['G'] => some (1024 * 1024 * 1024)
    | _ => none
  match Text.decimal? digits, unit? with
  | some count, some unit => return .size order count unit
  | some _, none =>
      fail ("invalid -size type \x60" ++ String.singleton (text.toList.getLast?.getD ' ') ++ "'")
  | none, _ =>
      if (text.toList.getLast?).any Char.isDigit then
        fail ("Invalid argument \x60" ++ text ++ "' to -size")
      else
        fail ("invalid -size type \x60" ++ String.singleton (text.toList.getLast?.getD ' ') ++ "'")

/-- The test of permissions. -/
def modeTest (text : String) : FindReading FindTest := do
  let (question, rest) := match text.toList with
    | '-' :: rest => (ModeQuestion.all, rest)
    | '/' :: rest => (.any, rest)
    | chars => (.exact, chars)
  if !rest.isEmpty && rest.all isOctal then
    return .mode question (rest.foldl (fun bits digit => bits * 8 + (digit.toNat - '0'.toNat)) 0)
  else if rest.all ("ugoa+=,rwxX-".toList.contains ·) && rest.contains 'x' then return .executable
  else if rest.all ("ugoa+=,rw-".toList.contains ·) && !rest.isEmpty then return .always true
  else fail ("invalid mode " ++ quotedName text)

/-- The command of an action: its words, and whether it is run once. -/
def command (test : String) : FindReading (List String × Bool) := do
  let words := (← get).words
  let before := words.takeWhile (· != ";")
  let plus? := (List.range words.length).find? fun index =>
    words[index]? = some "\x7b\x7d" && words[index + 1]? = some "+" && index < before.length
  match plus? with
  | some index =>
      modify fun plan => { plan with words := words.drop (index + 2) }
      return (words.take index, true)
  | none =>
      if before.length = words.length then fail ("missing argument to \x60" ++ test ++ "'")
      if before.isEmpty then fail ("invalid argument \x60;' to \x60" ++ test ++ "'")
      modify fun plan => { plan with words := words.drop (before.length + 1) }
      return (before, false)

/-- The test that starts with a word. -/
def test (word : String) : FindReading FindTest := do
  skip
  match word with
  | "-name" => return .name false (← argument word).toList
  | "-iname" => return .name true (← argument word).toList
  | "-path" | "-wholename" => return .path false (← argument word).toList
  | "-ipath" | "-iwholename" => return .path true (← argument word).toList
  | "-type" =>
      let letters := (← argument word).toList.filter (· != ',')
      match letters.find? fun letter => !("bcdpflsD".toList.contains letter) with
      | some letter => fail ("Unknown argument to -type: " ++ String.singleton letter)
      | none => return .kind letters
  | "-empty" => return .empty
  | "-size" => sizeTest (← argument word)
  | "-perm" => modeTest (← argument word)
  | "-executable" => return .executable
  | "-links" => return .links ((Text.decimal? (← argument word).toList).getD 0)
  | "-user" | "-group" =>
      let who ← argument word
      if who = "root" ∨ who = "0" then return .always true
      else fail (quotedName who ++ " is not the name of " ++
        (if word = "-user" then "a known user" else "an existing group"))
  | "-mtime" | "-atime" | "-ctime" | "-mmin" | "-amin" | "-cmin" =>
      let text ← argument word
      let (order, digits) := compared text.toList
      match Text.decimal? digits with
      | none => fail ("invalid argument \x60" ++ text ++ "' to \x60" ++ word ++ "'")
      | some count => return .always (order == .lt || (order == .eq && count = 0))
  | "-newer" | "-anewer" | "-cnewer" =>
      let _ ← argument word
      return .always false
  | "-inum" =>
      let _ ← argument word
      return .always false
  | "-readable" | "-writable" | "-true" | "-xdev" | "-mount" | "-noleaf" | "-daystart" |
    "-follow" => return .always true
  | "-false" => return .always false
  | "-print" => act (.print '\n')
  | "-print0" => act (.print '\x00')
  | "-printf" => act (.printFormat (← argument word).toList)
  | "-prune" => return .prune
  | "-quit" => act .quit
  | "-delete" =>
      modify fun plan => { plan with isDeep := true }
      act .delete
  | "-depth" | "-d" =>
      modify fun plan => { plan with isDeep := true }
      return .always true
  | "-maxdepth" =>
      let most ← levels word
      modify fun plan => { plan with most := some most }
      return .always true
  | "-mindepth" =>
      let fewest ← levels word
      modify fun plan => { plan with fewest }
      return .always true
  | "-exec" | "-execdir" =>
      let (words, isOnce) ← command word
      if isOnce then
        let index := (← get).commands
        modify fun plan => { plan with commands := index + 1 }
        act (.runOnce index words)
      else act (.run words)
  | _ =>
      match word.toList with
      | '-' :: _ => fail ("unknown predicate \x60" ++ word ++ "'")
      | _ => fail ("paths must precede expression: \x60" ++ word ++ "'")

mutual

/-- Read parts of which one answers. -/
def list (fuel : Nat) : FindReading FindExpression :=
  match fuel with
  | 0 => fail "invalid expression"
  | fuel + 1 => do
      let first ← disjunction fuel
      if (← word?) = some "," then
        skip
        return .after first (← list fuel)
      else return first

/-- Read parts of which one has to hold. -/
def disjunction (fuel : Nat) : FindReading FindExpression :=
  match fuel with
  | 0 => fail "invalid expression"
  | fuel + 1 => do
      let first ← conjunction fuel
      match ← word? with
      | some word =>
          if word = "-o" ∨ word = "-or" then
            skip
            if (← get).words.isEmpty then fail ("expected an expression after " ++ quotedName word)
            return .either first (← disjunction fuel)
          else return first
      | none => return first

/-- Read parts of which all have to hold. -/
def conjunction (fuel : Nat) : FindReading FindExpression :=
  match fuel with
  | 0 => fail "invalid expression"
  | fuel + 1 => do
      let first ← operand fuel
      match ← word? with
      | some word =>
          if word = "-a" ∨ word = "-and" then
            skip
            if (← get).words.isEmpty then fail ("expected an expression after " ++ quotedName word)
            return .both first (← conjunction fuel)
          else if ["-o", "-or", ")", ","].contains word then return first
          else return .both first (← conjunction fuel)
      | none => return first

/-- Read a test or an expression in parentheses. -/
def operand (fuel : Nat) : FindReading FindExpression :=
  match fuel with
  | 0 => fail "invalid expression"
  | fuel + 1 => do
      match ← word? with
      | none => fail "invalid expression"
      | some word =>
          if word = "!" ∨ word = "-not" then
            skip
            if (← get).words.isEmpty then fail ("expected an expression after " ++ quotedName word)
            return .negate (← operand fuel)
          else if word = "(" then
            skip
            let inside ← list fuel
            if (← word?) != some ")" then
              fail ("invalid expression; I was expecting to find a ')' somewhere but did not see " ++
                "one.")
            skip
            return inside
          else if ["-a", "-and", "-o", "-or", ","].contains word then
            fail ("invalid expression; you have used a binary operator " ++ quotedName word ++
              " with nothing before it.")
          else if word = ")" then fail "you have too many ')'"
          else return .test (← test word)

end

/-- Read a whole expression.  Without an action it prints. -/
def whole : FindReading FindExpression := do
  let words := (← get).words
  let expression ← if words.isEmpty then pure (.test (.always true))
    else list (4 * words.length + 4)
  if !(← get).words.isEmpty then fail "you have too many ')'"
  return if (← get).hasAction then expression
    else .both expression (.test (.print '\n'))

end FindReading

/-! ### Answers -/

/-- A file that is visited. -/
structure Visit where
  path : String
  /-- The path from which the visits started. -/
  root : String
  depth : Nat
  facts : FileFacts
  deriving Inhabited

/-- What happened on the visits. -/
structure FindState where
  failed : Bool
  isPruned : Bool
  isOver : Bool
  /-- The paths for the commands that are run once. -/
  waiting : List (Nat × List String × String)
  deriving Inhabited

/-- Something that is done on visits. -/
abbrev FindAction (α : Type) := StateT FindState ShellAction α

/-- The text of a pattern that is written in an argument. -/
def argumentPattern (chars : List Char) : Pattern := Pattern.ofChars (patternChars chars)
where
  /-- The characters of a pattern; a backslash takes the meaning of the next one. -/
  patternChars : List Char → List PatternChar
    | '\\' :: char :: rest => ⟨char, true⟩ :: patternChars rest
    | char :: rest => ⟨char, false⟩ :: patternChars rest
    | [] => []

/-- Whether a pattern in an argument stands for a text. -/
def matchesPattern (ignoresCase : Bool) (pattern text : List Char) : Bool :=
  if ignoresCase then (argumentPattern (pattern.map Char.toLower)).accepts (text.map Char.toLower)
  else (argumentPattern pattern).accepts text

/-- The letter of a kind of file. -/
def kindLetter (facts : FileFacts) : Char :=
  match facts.kind with
  | .regular => 'f'
  | .directory => 'd'
  | .device => 'c'
  | .pipe => 'p'

/-- The permissions of a file as a number. -/
def modeBits (facts : FileFacts) : Nat :=
  if facts.isExecutable then 493 else if facts.kind == .device then 438 else 420

/-- The text of a format for a file.  The fuel is its length. -/
def visitText (visit : Visit) : (fuel : Nat) → List Char → List Char
  | 0, _ => []
  | fuel + 1, chars =>
      match chars with
      | [] => []
      | '%' :: letter :: rest =>
          let path := visit.path.toList
          let inner := path.drop visit.root.length
          let text : List Char := match letter with
            | 'p' => path
            | 'f' => (lastPart visit.path "").toList
            | 'h' => (directoryPart visit.path).toList
            | 'P' => if inner.head? == some '/' then inner.drop 1 else inner
            | 's' => (decimal visit.facts.size).toList
            | 'y' => [kindLetter visit.facts]
            | 'd' => (decimal visit.depth).toList
            | 'm' => if visit.facts.isExecutable then "755".toList else "644".toList
            | 'M' => (modeText visit.facts).toList
            | 'u' | 'g' => "root".toList
            | '%' => ['%']
            | other => ['%', other]
          text ++ visitText visit fuel rest
      | '\\' :: char :: rest =>
          ((letterEscape? char).elim (if char == '0' then ['\x00'] else ['\\', char]) ([·])) ++
            visitText visit fuel rest
      | char :: rest => char :: visitText visit fuel rest

/-- Run a command for files. -/
def runFound (start : Runner) (call : Invocation) (isOnce : Bool) (command : List String) :
    FindAction Bool := do
  let fail : FindAction Unit := modify fun state => { state with failed := state.failed || isOnce }
  match command with
  | [] => return true
  | name :: arguments =>
      match ← start ⟨name, arguments⟩ with
      | .ok (.ok status) =>
          if status != 0 then fail
          return status = 0
      | .ok (.error signal) =>
          call.complain (quotedName name ++ " terminated by signal " ++ decimal signal)
          fail
          return false
      | .error fault =>
          call.complain (quotedName name ++ ": " ++ fault.reason)
          fail
          return false

/-- Remove a file that is visited. -/
def removeVisited (visit : Visit) : ShellAction (Except String Unit) := do
  let path := pathOf visit.path
  let isDirectory := visit.facts.kind == .directory
  if isDirectory && ((← get).disk.list path).toOption.any (!·.isEmpty) then
    return .error "Directory not empty"
  return (← onDisk (if isDirectory then Disk.removeAll path else Disk.remove path)).mapError
    DiskFault.reason

/-- The answer of a test. -/
def answerTest (start : Runner) (call : Invocation) (visit : Visit) : FindTest → FindAction Bool
  | .name ignoresCase pattern =>
      return matchesPattern ignoresCase pattern (lastPart visit.path "").toList
  | .path ignoresCase pattern => return matchesPattern ignoresCase pattern visit.path.toList
  | .kind letters => return letters.contains (kindLetter visit.facts)
  | .empty => do
      match visit.facts.kind with
      | .regular => return visit.facts.size = 0
      | .directory =>
          let disk := (← getThe Session).disk
          return (disk.list (pathOf visit.path)).toOption.any (·.isEmpty)
      | .device | .pipe => return false
  | .size order count unit => return compare ((visit.facts.size + unit - 1) / unit) count == order
  | .mode question bits =>
      let own := modeBits visit.facts
      return match question with
        | .exact => own == bits
        | .all => (own &&& bits) == bits
        | .any => bits == 0 || (own &&& bits) != 0
  | .executable => return visit.facts.isExecutable
  | .links count => return count = (if visit.facts.kind == .directory then 2 else 1)
  | .always answer => return answer
  | .print ending => do
      call.say (visit.path.toList ++ [ending])
      return true
  | .printFormat format => do
      call.say (visitText visit (format.length + 1) format)
      return true
  | .prune => do
      modify fun state => { state with isPruned := true }
      return true
  | .quit => do
      modify fun state => { state with isOver := true }
      return true
  | .delete => do
      if visit.path = "." then return true
      let result ← removeVisited visit
      match result with
      | .ok _ => return true
      | .error reason =>
          call.complain ("cannot delete " ++ quotedName visit.path ++ ": " ++ reason)
          modify fun state => { state with failed := true }
          return false
  | .run command =>
      runFound start call false (command.map fun argument =>
        String.ofList (replacedText "\x7b\x7d".toList visit.path.toList (argument.length + 1)
          argument.toList))
  | .runOnce index command => do
      modify fun state =>
        { state with waiting := state.waiting ++ [(index, command, visit.path)] }
      return true

/-- The answer of an expression. -/
def answerFind (start : Runner) (call : Invocation) (visit : Visit) :
    FindExpression → FindAction Bool
  | .test test => answerTest start call visit test
  | .negate operand => do return !(← answerFind start call visit operand)
  | .both first second => do
      let holds ← answerFind start call visit first
      if holds && !(← get).isOver then answerFind start call visit second else return holds
  | .either first second => do
      let holds ← answerFind start call visit first
      if holds || (← get).isOver then return holds else answerFind start call visit second
  | .after first second => do
      let _ ← answerFind start call visit first
      answerFind start call visit second

/-- Visit a file and everything below it.  The fuel bounds the depth. -/
def visitFrom (start : Runner) (call : Invocation) (plan : FindPlan) (expression : FindExpression)
    (root : String) : (fuel depth : Nat) → (path : String) → FindAction Unit
  | 0, _, _ => return
  | fuel + 1, depth, path => do
      if (← get).isOver then return
      let disk := (← getThe Session).disk
      match factsAt? disk (pathOf path) with
      | none =>
          let reason := match disk.find (pathOf path) with
            | .error fault => fault.reason
            | .ok _ => ""
          call.complain (quotedName path ++ ": " ++ reason)
          modify fun state => { state with failed := true }
      | some facts =>
          let answer : FindAction Unit := do
            if plan.fewest ≤ depth then
              let _ ← answerFind start call ⟨path, root, depth, facts⟩ expression
          modify fun state => { state with isPruned := false }
          if !plan.isDeep then answer
          let enters := facts.kind == .directory && plan.most.all (depth < ·) &&
            (!(← get).isPruned || plan.isDeep)
          if enters then
            for name in namesIn (← getThe Session).disk path do
              visitFrom start call plan expression root fuel (depth + 1) (pathIn path name)
          if plan.isDeep && !(← get).isOver then answer

/-- Visit files and do what an expression asks for. -/
def findFiles (start : Runner) : Utility := fun call => do
  let arguments := call.arguments.dropWhile (["-H", "-L", "-P"].contains ·)
  let isPath (word : String) : Bool :=
    word.toList.head? != some '-' && !(["(", ")", "!", ","].contains word)
  let paths := arguments.takeWhile isPath
  match FindReading.whole ⟨arguments.drop paths.length, 0, none, false, false, 0⟩ with
  | .error reason =>
      call.complain reason
      return 1
  | .ok (expression, plan) =>
      let limit := (← get).disk.entries.entries.length + 2
      let visits : FindAction Unit := do
        for path in if paths.isEmpty then ["."] else paths do
          visitFrom start call plan expression path limit 0 path
        for index in List.range plan.commands do
          let known := (← get).waiting.filter (·.1 == index)
          match known with
          | [] => pure ()
          | (_, command, _) :: _ =>
              let _ ← runFound start call true (command ++ known.map fun (_, _, path) => path)
      let (_, state) ← visits.run ⟨false, false, false, []⟩
      return if state.failed then 1 else 0

end CertPress.Shell
