import CertPress.Shell.Condition
import CertPress.Shell.Field
import CertPress.Shell.Format
import CertPress.Shell.System
import CertPress.Shell.Token

/-!
# Builtins

The commands that work on the session that calls them: they set variables,
options and arguments, read lines, send signals, and leave loops, functions and
the script.
-/

namespace CertPress.Shell

open ShellAction

/-- A text in quotes that a shell reads back. -/
def singleQuoted (text : String) : String :=
  String.ofList (quotedFrom (text.length + 1) text.toList)
where
  /-- The quoted runs of a text: of other characters in single quotes, of single
  quotes in double quotes. -/
  quotedFrom : (fuel : Nat) → List Char → List Char
    | 0, _ => []
    | fuel + 1, chars =>
        let run := chars.takeWhile (· != '\'')
        let rest := chars.drop run.length
        let marks := rest.takeWhile (· == '\'')
        let start := '\'' :: run ++ ['\'']
        if marks.isEmpty then start
        else
          let after := rest.drop marks.length
          start ++ '"' :: marks ++ ['"'] ++
            (if after.isEmpty then [] else quotedFrom fuel after)

/-- A number that is not negative, as the argument of a builtin. -/
def numberFrom (text : String) : ShellAction Nat :=
  match questionNumber text with
  | .ok number =>
      if number < 0 ∨ (Nat.pow 2 31 : Int) ≤ number then abandon ("Illegal number: " ++ text)
      else return number.toNat
  | .error fault => abandon fault.text

/-- The number that is the first argument, or another one. -/
def firstNumber (call : Invocation) (standard : Nat) : ShellAction Nat :=
  match call.arguments with
  | [] => return standard
  | first :: _ => numberFrom first

/-- The letters in front of the operands of a builtin, with their values, and
the operands. -/
def builtinOptions (call : Invocation) (letters : String) : ShellAction Options :=
  match (OptionTable.mk letters.toList [] false).parse (plain call.arguments) with
  | .ok options => return options
  | .error _ => abandon ("Illegal option -" ++ firstUnknown)
where
  /-- The arguments without long options, which builtins do not have. -/
  plain (arguments : List String) : List String :=
    match arguments with
    | first :: rest =>
        if ['-', '-'].isPrefixOf first.toList && first != "--" then "--" :: first :: rest
        else arguments
    | [] => []
  /-- The first letter that is no option. -/
  firstUnknown : String :=
    let table := OptionTable.mk letters.toList [] false
    match call.arguments.findSome? fun argument =>
        (argument.toList.drop 1).find? fun letter => !table.knows letter with
    | some letter => String.singleton letter
    | none => ""

/-- Succeed. -/
def succeed : Utility := fun _ => return 0

/-- Fail. -/
def failAlways : Utility := fun _ => return 1

/-! ### Printing -/

/-- Print bytes.  An output that is closed is reported. -/
def sayChecked (text : List Char) : ShellAction Nat := do
  if ← print 1 (octets text) then return 0
  let name := ((← get).builtin).getD ""
  blame (name ++ ": I/O error")
  return 1

/-- Print the arguments with blanks between them.  They may hold escapes. -/
def echo : Utility := fun call => do
  let (ends, arguments) := match call.arguments with
    | "-n" :: rest => (false, rest)
    | arguments => (true, arguments)
  let printed := unescape (" ".intercalate arguments).toList
  sayChecked (printed.text ++ if ends && !printed.stopped then ['\n'] else [])

/-- Print the arguments by a format. -/
def printFormat : Utility := fun call => do
  let options ← builtinOptions call ""
  match options.operands with
  | [] =>
      blame "usage: printf format [arg ...]"
      return 2
  | format :: arguments =>
      let result := formatted format arguments
      for complaint in result.complaints do blame complaint
      let printed ← if result.text.isEmpty then pure 0 else sayChecked result.text
      match result.fault with
      | some fault =>
          blame fault
          return 2
      | none => return if result.complaints.isEmpty then printed else 1

/-! ### Variables -/

/-- Give a variable a value after a look at its name. -/
def assignNamed (name value : String) : ShellAction Unit := do
  if !isName name.toList then abandon (name ++ ": bad variable name")
  assign name value

/-- The name and the value of an argument that assigns. -/
def assignmentOf (argument : String) : String × Option String :=
  match Text.cut? ['='] argument.toList with
  | some (name, value) => (String.ofList name, some (String.ofList value))
  | none => (argument, none)

/-- Print variables so that a shell reads them back. -/
def printVariables (front : String) (shown : Variable → Bool) : ShellAction Nat := do
  for (name, known) in (← get).bindings.entries do
    if shown known then
      let text := match known.value with
        | some value => front ++ name ++ "=" ++ singleQuoted value
        | none => front ++ name
      let _ ← print 1 (octets (text ++ "\n").toList)
  return 0

/-- Give variables a property, and values with it. -/
def markVariables (shown : Variable → Bool) (mark : Variable → Variable) : Utility := fun call => do
  let options ← builtinOptions call "p"
  if options.operands.isEmpty || options.has 'p' then
    printVariables (call.name ++ " ") shown
  else
    for argument in options.operands do
      let (name, value) := assignmentOf argument
      if !isName name.toList then abandon (name ++ ": bad variable name")
      match value with
      | some value => assign name value
      | none => pure ()
      change name mark
    return 0

/-- Hand variables on to programs. -/
def exportVariables : Utility := markVariables (·.isExported) ({ · with isExported := true })

/-- Fix the values of variables. -/
def fixVariables : Utility := markVariables (·.isFixed) ({ · with isFixed := true })

/-- Give the running function variables of its own. -/
def hideVariables : Utility := fun call => do
  if (← get).calls = 0 then abandon "not in a function"
  for argument in call.arguments do
    let (name, value) := assignmentOf argument
    if argument = "-" then
      modify fun session =>
        let options : Variable := ⟨some (String.ofList session.options), false, false⟩
        { session with hidden := ("-", some options) :: session.hidden }
    else
      if !isName name.toList then abandon (name ++ ": bad variable name")
      modify fun session =>
        { session with hidden := (name, session.bindings.get? name) :: session.hidden }
      match value with
      | some value => assign name value
      | none => pure ()
  return 0

/-- Forget variables or functions. -/
def forgetNames : Utility := fun call => do
  let options ← builtinOptions call "vf"
  for name in options.operands do
    if options.has 'f' then
      modify fun session =>
        { session with functions := session.functions.filter (·.1 != name) }
    else
      if !isName name.toList then abandon (name ++ ": bad variable name")
      if (((← get).bindings.get? name).getD .unset).isFixed then
        abandon (name ++ ": is read only")
      modify fun session => { session with bindings := session.bindings.erase name }
  return 0

/-! ### Options and arguments -/

/-- The options of the shell by their letters and names. -/
def optionNames : List (Char × String) :=
  [('e', "errexit"), ('f', "noglob"), ('I', "ignoreeof"), ('i', "interactive"), ('m', "monitor"),
   ('n', "noexec"), ('s', "stdin"), ('x', "xtrace"), ('v', "verbose"), ('V', "vi"),
   ('E', "emacs"), ('C', "noclobber"), ('a', "allexport"), ('b', "notify"), ('u', "nounset"),
   ('p', "privileged"), ('\x01', "nolog"), ('\x02', "debug")]

/-- Switch an option. -/
def switchOption (letter : Char) (isOn : Bool) : ShellAction Unit :=
  modify fun session =>
    let others := session.options.filter (· != letter)
    { session with options := if isOn then letter :: others else others }

/-- Print the state of all options. -/
def printOptions (toRead : Bool) : ShellAction Unit := do
  let session ← get
  let line (letter : Char) (name : String) : String :=
    if toRead then "set " ++ (if session.has letter then "-o " else "+o ") ++ name ++ "\n"
    else name ++ String.ofList (List.replicate (16 - name.length) ' ') ++
      (if session.has letter then "on" else "off") ++ "\n"
  let heading := if toRead then "" else "Current option settings\n"
  let lines := optionNames.map fun (letter, name) => line letter name
  let _ ← print 1 (octets (heading ++ String.join lines).toList)

/-- Switch the options at the front of arguments.  The result is the rest of the
arguments; none if the options were all. -/
def switchOptions (arguments : List String) : ShellAction (Option (List String)) :=
  match arguments with
  | [] => return none
  | "--" :: rest => return some rest
  | "-" :: rest => do
      switchOption 'x' false
      switchOption 'v' false
      return if rest.isEmpty then none else some rest
  | first :: rest => do
      let letters := first.toList.drop 1
      match first.toList.head? with
      | some '-' => switch true letters first rest
      | some '+' => switch false letters first rest
      | _ => return some (first :: rest)
where
  /-- Switch options by their letters, of which the last one may have a name in
  the next argument. -/
  switch (isOn : Bool) (letters : List Char) (first : String) (rest : List String) :
      ShellAction (Option (List String)) := do
    for letter in letters do
      if letter != 'o' then
        if !(optionNames.any (·.1 == letter)) then
          abandon ("Illegal option " ++ String.ofList (first.toList.take 1) ++
            String.singleton letter)
        switchOption letter isOn
    if letters.contains 'o' then
      match rest with
      | [] =>
          printOptions (!isOn)
          return none
      | name :: others =>
          match optionNames.find? (·.2 == name) with
          | some (letter, _) => switchOption letter isOn
          | none => abandon ("Illegal option " ++ String.ofList (first.toList.take 1) ++ "o " ++ name)
          switchOptions others
    else switchOptions rest

/-- Set options of the shell or the arguments of the script, or print all
variables. -/
def setOptions : Utility := fun call => do
  if call.arguments.isEmpty then printVariables "" (·.value.isSome)
  else
    match ← switchOptions call.arguments with
    | some arguments => modify fun session => { session with arguments, optionOffset := 0 }
    | none => pure ()
    return 0

/-- Drop arguments of the script from the front. -/
def shiftArguments : Utility := fun call => do
  let count ← firstNumber call 1
  if (← get).arguments.length < count then abandon "can't shift that many"
  modify fun session => { session with arguments := session.arguments.drop count }
  return 0

/-- What is found at the next option among arguments. -/
inductive NextOption where
  | ending
  | illegal (letter : Char)
  | lacksValue (letter : Char)
  | found (letter : Char) (value : Option String)
  deriving DecidableEq, Repr, Inhabited

/-- The next option, the number of the argument after it, and how far that
argument's predecessor has been read; zero if it is done. -/
def nextOption (letters : List Char) (arguments : List String) (index offset : Nat) :
    NextOption × Nat × Nat :=
  let current := if offset = 0 ∨ index ≤ 1 then [] else
    (((arguments[index - 2]?).getD "").toList).drop offset
  let fresh := current.isEmpty
  let word := ((arguments[index - 1]?).getD "").toList
  let (chars, next) := if fresh then (word.drop 1, index + 1) else (current, index)
  if fresh && (word.head? != some '-' || word.length < 2) then (.ending, index, 0)
  else if fresh && word == ['-', '-'] then (.ending, index + 1, 0)
  else
    let letter := chars.headD '-'
    let rest := chars.drop 1
    let known := if letters.head? == some ':' then letters.drop 1 else letters
    let read := ((arguments[next - 2]?).getD "").length - rest.length
    let table := OptionTable.mk known [] false
    if !table.knows letter then (.illegal letter, next, read)
    else if !table.takesValue letter then (.found letter none, next, read)
    else if !rest.isEmpty then (.found letter (some (String.ofList rest)), next, 0)
    else match arguments[next - 1]? with
      | some value => (.found letter (some value), next + 1, 0)
      | none => (.lacksValue letter, next, read)

/-- Find the next option among the arguments of the script, or among others. -/
def getOption : Utility := fun call => do
  match call.arguments with
  | optionLetters :: name :: others =>
      let session ← get
      let arguments := if others.isEmpty then session.arguments else others
      let index := ((session.value? "OPTIND").bind (Text.decimal? ·.toList)).getD 1
      let letters := optionLetters.toList
      let isSilent := letters.head? == some ':'
      let (result, next, offset) := nextOption letters arguments (max 1 index) session.optionOffset
      let forget : ShellAction Unit :=
        modify fun session => { session with bindings := session.bindings.erase "OPTARG" }
      let (shown, status) : Char × Nat ← match result with
        | .ending => pure ('?', 1)
        | .illegal letter => do
            if isSilent then assign "OPTARG" (String.singleton letter)
            else
              complain ("Illegal option -" ++ String.singleton letter)
              forget
            pure ('?', 0)
        | .lacksValue letter => do
            if isSilent then
              assign "OPTARG" (String.singleton letter)
              pure (':', 0)
            else
              complain ("No arg for -" ++ String.singleton letter ++ " option")
              forget
              pure ('?', 0)
        | .found letter value => do
            assign "OPTARG" (value.getD "")
            pure (letter, 0)
      assign "OPTIND" (decimal next)
      modify fun session => { session with optionOffset := offset }
      assignNamed name (String.singleton shown)
      return status
  | _ =>
      blame "Usage: getopts optstring var [arg...]"
      return 2

/-! ### Lines -/

/-- A character of a line, and whether it may separate fields. -/
abbrev LineChar := Char × Bool

/-- The characters of the first line of a text, the text after it, and whether
the line has an end.  A backslash takes the meaning of the next character unless
the line is raw. -/
def firstLine (raw : Bool) : List Char → List LineChar × List Char × Bool
  | [] => ([], [], false)
  | '\n' :: rest => ([], rest, true)
  | '\x00' :: rest => firstLine raw rest
  | '\\' :: char :: rest =>
      if raw then
        let (line, after, ended) := firstLine raw (char :: rest)
        (('\\', true) :: line, after, ended)
      else
        let (line, after, ended) := firstLine raw rest
        (if char == '\n' || char == '\x00' then line else (char, false) :: line, after, ended)
  | ['\\'] => (if raw then [('\\', true)] else [], [], false)
  | char :: rest =>
      let (line, after, ended) := firstLine raw rest
      ((char, true) :: line, after, ended)

/-- The text of the last field.  `dropped` is what may turn out to stand at its
end without a meaning, and `afterBlank` says that a blank separated the last
character. -/
def lastField (separators : List Char) (afterBlank : Bool) (kept : List Char)
    (dropped : Option (List Char)) : List LineChar → List Char
  | [] => kept
  | (char, false) :: rest =>
      match dropped with
      | some held => lastField separators false kept (some (held ++ [char])) rest
      | none => lastField separators false (kept ++ [char]) none rest
  | (char, true) :: rest =>
      let separates := separators.contains char
      if separates && standardSeparators.contains char then
        lastField separators afterBlank kept (some (dropped.getD [] ++ [char])) rest
      else match dropped with
        | some held =>
            if separates && afterBlank then
              lastField separators false kept (some (held ++ [char])) rest
            else lastField separators false (kept ++ held ++ [char]) none rest
        | none => lastField separators false (kept ++ [char]) none rest

/-- At most `count` fields of a line, of which the last one has all of the rest.
`begun` is the field that was begun, in reverse. -/
def lineFields (separators : List Char) : (count : Nat) → (afterBlank : Bool) →
    (begun : List Char) → List LineChar → List (List Char)
  | _, _, begun, [] => if begun.isEmpty then [] else [begun.reverse]
  | count, _, begun, (char, false) :: rest =>
      lineFields separators count false (char :: begun) rest
  | count, afterBlank, begun, (char, true) :: rest =>
      let separates := separators.contains char
      let isBlank := separates && standardSeparators.contains char
      if afterBlank then
        if isBlank then lineFields separators count true [] rest
        else lineFields separators count false (if separates then [] else [char]) rest
      else if !separates then lineFields separators count false (char :: begun) rest
      else if begun.isEmpty && isBlank then lineFields separators count false [] rest
      else if count ≤ 1 then
        let text := lastField separators isBlank begun.reverse (some [char]) rest
        if text.isEmpty && begun.isEmpty then [] else [text]
      else begun.reverse :: lineFields separators (count - 1) isBlank [] rest

/-- The characters that separate fields. -/
def Session.separators (session : Session) : List Char :=
  ((session.value? "IFS").map String.toList).getD standardSeparators

/-- Give variables the values of a list; those without one become empty. -/
def assignFields : List String → List (List Char) → ShellAction Unit
  | [], _ => return
  | name :: names, fields => do
      assignNamed name (String.ofList (fields.headD []))
      assignFields names fields.tail

/-- Read a line of the input into variables. -/
def readVariables : Utility := fun call => do
  let options ← builtinOptions call "p:r"
  if options.operands.isEmpty then abandon "arg count"
  let content := ((← remaining? 0).map (·.content)).getD []
  let (line, rest, ended) := firstLine (options.has 'r') (charsOf content)
  leaveOf 0 (octets rest)
  let separators := (← get).separators
  assignFields options.operands (lineFields separators options.operands.length false [] line)
  return if ended then 0 else 1

/-! ### Leaving -/

/-- Leave the script. -/
def leaveScript : Utility := fun call => do
  finish ((← firstNumber call (← get).status) % 256)
  throw .leave

/-- Leave the function. -/
def leaveFunction : Utility := fun call => do
  finish (← firstNumber call (← get).status)
  throw .leaveFunction

/-- Leave loops, or go on with the next round of one. -/
def leaveRounds (departure : Nat → Departure) : Utility := fun call => do
  let count ← firstNumber call 1
  if count = 0 then abandon ("Illegal number: " ++ call.arguments.headD "")
  let loops := (← get).loops
  if loops = 0 then return 0
  finish 0
  throw (departure (min count loops))

/-! ### Signals -/

/-- The names of the signals in the order of their numbers, from one on. -/
def signalNames : List String :=
  ["HUP", "INT", "QUIT", "ILL", "TRAP", "ABRT", "BUS", "FPE", "KILL", "USR1", "SEGV", "USR2",
   "PIPE", "ALRM", "TERM", "STKFLT", "CHLD", "CONT", "STOP", "TSTP", "TTIN", "TTOU", "URG",
   "XCPU", "XFSZ", "VTALRM", "PROF", "WINCH", "IO", "PWR", "SYS", "32", "33", "RTMIN"] ++
    (List.range 15).map (fun index => "RTMIN+" ++ decimal (index + 1)) ++
    (List.range 14).map (fun index => "RTMAX-" ++ decimal (14 - index)) ++ ["RTMAX"]

/-- The name of a signal, or of the end of the script. -/
def signalName (number : Nat) : String :=
  if number = 0 then "EXIT" else (signalNames[number - 1]?).getD (decimal number)

/-- The number of the signal that a text names; zero for the end of the
script. -/
def signalOf? (text : String) : Option Nat :=
  match Text.decimal? text.toList with
  | some number => if number ≤ 64 then some number else none
  | none =>
      let wanted := text.toList.map Char.toUpper
      ("EXIT" :: signalNames).findIdx? (·.toList == wanted)

/-- Whether a signal ends a process that does not expect it. -/
def endsProcess (signal : Nat) : Bool :=
  signal != 0 && !(["CHLD", "CONT", "STOP", "TSTP", "TTIN", "TTOU", "URG", "WINCH"].contains
    (signalName signal))

/-- Send a signal to the process that runs the script. -/
def receiveSignal (signal : Nat) : ShellAction Unit := do
  let session ← get
  let name := signalName signal
  let trapped := if signal = 9 then none
    else (session.traps.find? (·.1 == name)).map (·.2)
  if trapped = some "" ∨ signal = 0 then pure ()
  else if session.isInner || trapped.isSome then
    set { session with pending := session.pending ++ [name] }
  else if endsProcess signal then throw (.killed signal)

/-- Send a signal to a process by its number. -/
def signalProcess (signal process : Nat) : ShellAction Bool := do
  let session ← get
  if process = session.process then
    receiveSignal signal
    return true
  else if session.jobs.any (·.1 == process) then return true
  else
    blame "No such process\n"
    return false

/-- Send a signal to processes, or print the names of signals. -/
def sendSignal : Utility := fun call => do
  let usage : ShellAction Nat := abandon
    "Usage: kill [-s sigspec | -signum | -sigspec] [pid | job]... or\nkill -l [exitstatus]"
  let send (signal : Nat) (targets : List String) : ShellAction Nat :=
    if targets.isEmpty then usage
    else Invocation.forEach targets fun target => do
      if target.toList.head? == some '%' then return true
      signalProcess signal (← numberFrom target)
  let list (numbers : List String) : ShellAction Nat := do
    let texts ← if numbers.isEmpty then pure ("0" :: signalNames)
      else numbers.mapM fun text => do
        let given ← numberFrom text
        let number := if 128 < given then given - 128 else given
        if number = 0 ∨ signalNames.length < number then
          abandon ("invalid signal number or exit status: " ++ text)
        pure (signalName number)
    let _ ← print 1 (octets (String.join (texts.map (· ++ "\n"))).toList)
    return 0
  let named (name : String) (targets : List String) : ShellAction Nat :=
    match signalOf? name with
    | some signal => send signal targets
    | none => abandon ("invalid signal number or name: " ++ name)
  match call.arguments with
  | [] => usage
  | "--" :: targets => send 15 targets
  | "-s" :: name :: targets => named name targets
  | "-l" :: numbers => list numbers
  | first :: rest =>
      match first.toList with
      | '-' :: letters =>
          match signalOf? (String.ofList letters), letters with
          | some signal, _ => send signal rest
          | none, 's' :: name => named (String.ofList name) rest
          | none, letter :: _ => abandon ("Illegal option -" ++ String.singleton letter)
          | none, [] => usage
      | _ => send 15 (first :: rest)

/-- Set what happens when signals come, or print it. -/
def setTraps : Utility := fun call => do
  let options ← builtinOptions call ""
  match options.operands with
  | [] =>
      let traps := (← get).traps
      for number in List.range 65 do
        match traps.find? (·.1 == signalName number) with
        | some (name, action) =>
            let line := "trap -- " ++ singleQuoted action ++ " " ++ name ++ "\n"
            let _ ← print 1 (octets line.toList)
        | none => pure ()
      return 0
  | first :: rest =>
      let resets := rest.isEmpty || (signalOf? first).isSome
      let action? := if resets || first = "-" then none else some first
      for name in if resets then first :: rest else rest do
        match signalOf? name with
        | none =>
            complain ("trap: " ++ name ++ ": bad trap")
            return 1
        | some signal =>
            modify fun session =>
              let others := session.traps.filter (·.1 != signalName signal)
              { session with
                traps := (action?.map (signalName signal, ·)).toList ++ others }
      return 0

/-- The message for a process that a signal ended. -/
def deathMessage? (signal : Nat) : Option String :=
  match signalName signal with
  | "HUP" => some "Hangup"
  | "QUIT" => some "Quit"
  | "ILL" => some "Illegal instruction"
  | "TRAP" => some "Trace/breakpoint trap"
  | "ABRT" => some "Aborted"
  | "BUS" => some "Bus error"
  | "FPE" => some "Floating point exception"
  | "KILL" => some "Killed"
  | "USR1" => some "User defined signal 1"
  | "SEGV" => some "Segmentation fault"
  | "USR2" => some "User defined signal 2"
  | "ALRM" => some "Alarm clock"
  | "TERM" => some "Terminated"
  | "STKFLT" => some "Stack fault"
  | "XCPU" => some "CPU time limit exceeded"
  | "XFSZ" => some "File size limit exceeded"
  | "VTALRM" => some "Virtual timer expired"
  | "PROF" => some "Profiling timer expired"
  | "IO" => some "I/O possible"
  | "PWR" => some "Power failure"
  | "SYS" => some "Bad system call"
  | _ => none

/-- Report that a signal ended a process. -/
def reportDeath (signal : Nat) : ShellAction Unit :=
  match deathMessage? signal with
  | some text => complain text
  | none => return

/-- Wait for processes in the background. -/
def waitFor : Utility := fun call => do
  let options ← builtinOptions call ""
  let statusOf (text : String) : ShellAction Nat := do
    if text.toList.head? == some '%' then
      match (← get).jobs with
      | (_, status) :: _ => return status
      | [] => abandon ("No such job: " ++ text)
    let number ← numberFrom text
    match (← get).jobs.find? (·.1 == number) with
    | some (_, status) =>
        if 128 < status then reportDeath (status - 128)
        return status
    | none => return 127
  options.operands.foldlM (fun _ text => statusOf text) 0

/-! ### The process -/

/-- The text of the working directory. -/
def workingDirectoryText (session : Session) : String :=
  let location := session.disk.workingDirectory
  if location.isEmpty then "/" else inward location.key

/-- Whether a path leads to a directory, and where. -/
def directoryAt? (disk : Disk) (path : FilePath) : Option Location :=
  match disk.find path with
  | .ok (location, .directory) => some location
  | .ok _ => none
  | .error _ =>
      let place := placeOf disk path
      if systemDirectories.contains place then some place else none

/-- Change the working directory. -/
def changeDirectory : Utility := fun call => do
  let options ← builtinOptions call "LP"
  let session ← get
  let given := (options.operands.head?).getD ((session.value? "HOME").getD "")
  let target := if given = "-" then (session.value? "OLDPWD").getD "" else given
  let isFree := !(["/", "./", "../"].any fun start => start.toList.isPrefixOf target.toList) &&
    target != "." && target != ".."
  let places := if isFree then
      (Text.split ':' ((session.value? "CDPATH").getD "").toList).map String.ofList ++ [""]
    else [""]
  let paths := places.map fun place =>
    (place, if place = "" then (if target = "" then "." else target) else place ++ "/" ++ target)
  match paths.findSome? fun (place, path) =>
      (directoryAt? session.disk (pathOf path)).map (place, ·) with
  | none => abandon ("can't cd to " ++ target)
  | some (place, location) =>
      let old := workingDirectoryText session
      modify fun session =>
        { session with disk := { session.disk with workingDirectory := location } }
      let new := workingDirectoryText (← get)
      for (name, value) in [("OLDPWD", old), ("PWD", new)] do
        assign name value
        change name ({ · with isExported := true })
      if given = "-" || place != "" then let _ ← print 1 (octets (new ++ "\n").toList)
      return 0

/-- Print the working directory. -/
def printWorkingDirectory : Utility := fun call => do
  let _ ← builtinOptions call "LP"
  sayChecked (workingDirectoryText (← get) ++ "\n").toList

/-- Print or set the permissions that new files do not get. -/
def setMask : Utility := fun call => do
  let options ← builtinOptions call "S"
  let session ← get
  match options.operands with
  | [] =>
      let digits := (List.range 3).map fun place => session.mask / Nat.pow 8 (2 - place) % 8
      let text := if options.has 'S' then
          ",".intercalate ((["u", "g", "o"].zip digits).map fun (who, digit) =>
            who ++ "=" ++ String.ofList (("rwx".toList.zip [4, 2, 1]).filterMap
              fun (letter, bit) => if digit / bit % 2 = 0 then some letter else none))
        else "0" ++ String.join (digits.map decimal)
      let _ ← print 1 (octets (text ++ "\n").toList)
      return 0
  | given :: _ =>
      if given.toList.head?.any Char.isDigit then
        if given.toList.all isOctal then
          set { session with mask := (given.toList.foldl (fun number (digit : Char) =>
            number * 8 + (digit.toNat - '0'.toNat)) 0) % 512 }
          return 0
        else abandon ("Illegal number: " ++ given)
      else return 0

/-- Print the limits of the process. -/
def printLimits : Utility := fun call => do
  let options ← builtinOptions call "HSatfdscmlpnvwr"
  if options.operands.isEmpty then
    let _ ← print 1 (octets "unlimited\n".toList)
  return 0

/-- Print the times that the process took. -/
def printTimes : Utility := fun _ => do
  let _ ← print 1 (octets "0m0.000000s 0m0.000000s\n0m0.000000s 0m0.000000s\n".toList)
  return 0

/-- Look for programs before they are called, forget those that have been found,
or print their paths. -/
def findCommands : Utility := fun call => do
  let options ← builtinOptions call "rv"
  if options.has 'r' then
    modify fun session => { session with located := [] }
  else if options.operands.isEmpty then
    let session ← get
    for name in session.located do
      match findProgram session.disk ((session.value? "PATH").getD "") name with
      | .program path => let _ ← print 1 (octets (path ++ "\n").toList)
      | _ => pure ()
  Invocation.forEach options.operands fun name => do
    match lookUp (← get) name with
    | .missing =>
        blame (name ++ ": not found")
        return false
    | .refused =>
        blame (name ++ ": Permission denied")
        return false
    | .program _ =>
        noteProgram name
        return true
    | _ => return true

/-- Print the jobs that are not done, of which there are none. -/
def printJobs : Utility := fun call => do
  let _ ← builtinOptions call "lp"
  return 0

/-- Change the job in the foreground, of which there is none. -/
def resumeJob : Utility := fun _ => abandon "No current job"

/-- Give names to commands, or print those that have one. -/
def nameCommands : Utility := fun call => do
  Invocation.forEach call.arguments fun argument => do
    if argument.toList.contains '=' then return true
    complain (call.name ++ ": " ++ argument ++ " not found")
    return false

/-! ### Descriptions -/

/-- What stands for a name: in words, or as the text that calls it. -/
def describe (session : Session) (inWords : Bool) (name : String) : Option String :=
  let words (text : String) : String := if inWords then name ++ " is " ++ text else name
  if Token.keywords.contains name then some (words "a shell keyword")
  else
    let program (path : String) : String := if inWords then name ++ " is " ++ path else path
    if name.toList.contains '/' then
      if (factsAt? session.disk (pathOf name)).isSome then some (program name) else none
    else match lookUp session name with
      | .function _ => some (words "a shell function")
      | .builtin =>
          some (words (if specialBuiltins.contains name then "a special shell builtin"
            else "a shell builtin"))
      | .program path =>
          some (if inWords && session.located.contains name then
            name ++ " is a tracked alias for " ++ path else program path)
      | .refused => none
      | .missing => none

/-- Describe names. -/
def describeAll (inWords : Bool) (names : List String) : ShellAction Nat := do
  let found ← names.mapM fun name => do
    let description := describe (← get) inWords name
    match lookUp (← get) name with
    | .program _ => noteProgram name
    | _ => pure ()
    let text := description.getD (if inWords then name ++ ": not found" else "")
    if text != "" then let _ ← print 1 (octets (text ++ "\n").toList)
    return description.isSome
  return if found.all id then 0 else 127

/-- Say what names stand for. -/
def printKinds : Utility := fun call => describeAll true call.arguments

/-- The builtins by their names, apart from those that run commands. -/
def builtins : List (String × Utility) :=
  [(":", succeed), ("true", succeed), ("false", failAlways), ("[", askInBrackets), ("test", ask),
   ("echo", echo), ("printf", printFormat), ("export", exportVariables),
   ("readonly", fixVariables), ("local", hideVariables), ("unset", forgetNames),
   ("set", setOptions), ("shift", shiftArguments), ("getopts", getOption),
   ("read", readVariables), ("exit", leaveScript), ("return", leaveFunction),
   ("break", leaveRounds .leaveLoop), ("continue", leaveRounds .nextRound),
   ("kill", sendSignal), ("trap", setTraps), ("wait", waitFor), ("cd", changeDirectory),
   ("chdir", changeDirectory), ("pwd", printWorkingDirectory), ("umask", setMask),
   ("ulimit", printLimits), ("times", printTimes), ("hash", findCommands), ("fg", resumeJob),
   ("bg", resumeJob), ("jobs", printJobs), ("alias", nameCommands), ("unalias", nameCommands),
   ("type", printKinds)]

end CertPress.Shell
