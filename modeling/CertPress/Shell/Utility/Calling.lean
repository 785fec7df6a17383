import CertPress.Shell.Utility.Plain

/-!
# Utilities that call programs

Programs that start other programs: with other variables, with arguments from an
input, or in another mood of the system.
-/

namespace CertPress.Shell

open ShellAction

/-- Starts a program with a name as a process.  The result is the status or the
signal by which it ended, or why it cannot be started. -/
abbrev Runner := Invocation → ShellAction (Except DiskFault (Except Nat Nat))

/-- The status for a program that cannot be started. -/
def startStatus : DiskFault → Nat
  | .notFound => 127
  | _ => 126

/-- Go on as another program. -/
def becomeProgram (start : Runner) (call : Invocation) (describe : String → String) (name : String)
    (arguments : List String) : ShellAction Nat := do
  match ← start ⟨name, arguments⟩ with
  | .ok (.ok status) => return status
  | .ok (.error signal) => throw (.killed signal)
  | .error fault =>
      call.complain (describe name ++ ": " ++ fault.reason)
      return startStatus fault

/-- The message of a utility that says that a program was to be started. -/
def failedToRun (name : String) : String := "failed to run command " ++ quotedName name

/-! ### Variables -/

/-- The words between blanks. -/
def blankWords (text : String) : List String :=
  ((Text.split ' ' (text.toList.map fun char => if char == '\t' then ' ' else char)).filter
    (!·.isEmpty)).map String.ofList

/-- Arguments of which the first one may hold several. -/
def splitFirst (arguments : List String) : List String :=
  match arguments with
  | "-S" :: text :: rest => blankWords text ++ rest
  | first :: rest =>
      match Text.after? "-S".toList first.toList,
          Text.after? "--split-string=".toList first.toList with
      | some text, _ => blankWords (String.ofList text) ++ rest
      | none, some text => blankWords (String.ofList text) ++ rest
      | none, none => arguments
  | [] => []

/-- Set the variables that arguments assign.  The result is the rest of the
arguments. -/
def assignLeading : List String → ShellAction (List String)
  | [] => return []
  | argument :: rest => do
      match Text.cut? ['='] argument.toList with
      | none => return argument :: rest
      | some (name, value) =>
          modify fun session =>
            { session with
              bindings := session.bindings.insert (String.ofList name)
                ⟨some (String.ofList value), true, false⟩ }
          assignLeading rest

/-- Run a program with other variables, or print the variables. -/
def runWithVariables (start : Runner) : Utility := fun call =>
  withLeadingOptions "iu:0vC:"
    [("ignore-environment", 'i'), ("unset", 'u'), ("null", '0'), ("debug", 'v'), ("chdir", 'C')]
    125 (fun call options => do
      let isEmpty := options.has 'i' || options.operands.head? == some "-"
      modify fun session =>
        { session with
          bindings := if isEmpty then Mapping.empty
            else (options.values 'u').foldl Mapping.erase session.bindings }
      let operands := if options.operands.head? == some "-" then options.operands.drop 1
        else options.operands
      let rest ← assignLeading operands
      let moved ← match options.value? 'C' with
        | none => pure true
        | some directory => do
            match (← get).disk.find (pathOf directory) with
            | .ok (location, .directory) =>
                modify fun session =>
                  { session with disk := { session.disk with workingDirectory := location } }
                pure true
            | .ok _ =>
                call.complain ("cannot change directory to " ++ quotedName directory ++
                  ": Not a directory")
                pure false
            | .error fault =>
                call.complain ("cannot change directory to " ++ quotedName directory ++ ": " ++
                  fault.reason)
                pure false
      if !moved then return 125
      match rest with
      | [] =>
          let ending := if options.has '0' then ['\x00'] else ['\n']
          for (name, value) in (← get).environment do
            call.say ((name ++ "=" ++ value).toList ++ ending)
          return 0
      | name :: arguments => becomeProgram start call quotedName name arguments)
    { call with arguments := splitFirst call.arguments }

/-! ### Arguments from an input -/

/-- Where the reading of items stands. -/
structure ItemReading where
  /-- The characters of the item so far, the last one first; none between
  items. -/
  item : Option (List Char)
  /-- The quote in which the reading stands. -/
  quote : Option Char
  /-- The items of the line, the last one first. -/
  line : List String
  /-- The lines that are done, the last one first. -/
  lines : List (List String)
  deriving Inhabited

namespace ItemReading

/-- The item comes to an end. -/
def closeItem (reading : ItemReading) : ItemReading :=
  match reading.item with
  | some chars =>
      { reading with item := none, line := String.ofList chars.reverse :: reading.line }
  | none => reading

/-- The line comes to an end. -/
def closeLine (reading : ItemReading) : ItemReading :=
  let closed := reading.closeItem
  if closed.line.isEmpty then closed
  else { closed with line := [], lines := closed.line.reverse :: closed.lines }

/-- One more character of an item. -/
def add (reading : ItemReading) (char : Char) : ItemReading :=
  { reading with item := some (char :: reading.item.getD []) }

/-- Read the items of a text, in lines.  Quotes and backslashes keep characters
from their meaning.  With `wholeLines` the blanks in a line belong to its item.
A quote that is left open is given as a fault. -/
def read (wholeLines : Bool) (reading : ItemReading) : List Char → List (List String) × Option Char
  | [] => (reading.closeLine.lines.reverse, reading.quote)
  | '\\' :: char :: rest =>
      if reading.quote.isSome then read wholeLines (reading.add '\\') (char :: rest)
      else read wholeLines (reading.add char) rest
  | char :: rest =>
      match reading.quote with
      | some quote =>
          if char == '\n' then (reading.lines.reverse, some quote)
          else if char == quote then read wholeLines { reading with quote := none } rest
          else read wholeLines (reading.add char) rest
      | none =>
          if char == '\n' then read wholeLines reading.closeLine rest
          else if char == '\'' || char == '"' then
            read wholeLines
              { reading with quote := some char, item := some (reading.item.getD []) } rest
          else if char == ' ' || char == '\t' then
            if wholeLines then
              read wholeLines (if reading.item.isSome then reading.add char else reading) rest
            else read wholeLines reading.closeItem rest
          else read wholeLines (reading.add char) rest

end ItemReading

/-- Cut a list into pieces of a length.  The fuel is the length of the list. -/
def piecesOf {α : Type} (size : Nat) : (fuel : Nat) → List α → List (List α)
  | 0, _ => []
  | _ + 1, [] => []
  | fuel + 1, items => items.take size :: piecesOf size fuel (items.drop size)

/-- A text in which a name stands for a value.  The fuel is the length of the
text. -/
def replacedText (name value : List Char) : (fuel : Nat) → List Char → List Char
  | 0, _ => []
  | _ + 1, [] => []
  | fuel + 1, char :: rest =>
      match (if name.isEmpty then none else Text.after? name (char :: rest)) with
      | some after => value ++ replacedText name value fuel after
      | none => char :: replacedText name value fuel rest

/-- The long names of the options of a utility that takes arguments from its
input. -/
def itemOptionNames : List (String × Char) :=
  [("null", '0'), ("arg-file", 'a'), ("delimiter", 'd'), ("eof", 'E'), ("replace", 'I'),
   ("max-args", 'n'), ("no-run-if-empty", 'r'), ("verbose", 't'), ("max-procs", 'P'),
   ("max-lines", 'L'), ("exit", 'x'), ("max-chars", 's')]

/-- The character that the value of an option names. -/
def delimiterOf (value : String) : Char :=
  (((unescape value.toList).text).head?).getD '\n'

/-- The items of a text in lines, and a quote that is left open. -/
def itemLines (options : Options) (text : List Char) : List (List String) × Option Char :=
  let delimiter := if options.has '0' then some '\x00' else (options.value? 'd').map delimiterOf
  match delimiter with
  | some delimiter =>
      let items := (Text.split delimiter text).map String.ofList
      let kept := if items.getLast? == some "" then items.dropLast else items
      (kept.map ([·]), none)
  | none =>
      let (lines, quote) := ItemReading.read (options.has 'I') ⟨none, none, [], []⟩ text
      match options.value? 'E' with
      | none => (lines, quote)
      | some mark => ([lines.flatten.takeWhile (· != mark)], quote)

/-- Run a program for items one after another, until one of them has to be the
last.  The result is the status. -/
def runForGroups (start : Runner) (call : Invocation) (traced : Bool) (status : Nat) :
    List (List String) → ShellAction Nat
  | [] => return status
  | [] :: rest => runForGroups start call traced status rest
  | (name :: arguments) :: rest => do
      if traced then complain (" ".intercalate ((name :: arguments).map shownName))
      match ← start ⟨name, arguments⟩ with
      | .ok (.ok 0) => runForGroups start call traced status rest
      | .ok (.ok 255) =>
          call.complain (name ++ ": exited with status 255; aborting")
          return 124
      | .ok (.ok _) => runForGroups start call traced 123 rest
      | .ok (.error signal) =>
          call.complain (name ++ ": terminated by signal " ++ decimal signal)
          return 125
      | .error fault =>
          call.complain (name ++ ": " ++ fault.reason)
          return startStatus fault

/-- The commands that a program with items stands for. -/
def itemCommands (options : Options) (command : List String) (lines : List (List String))
    (hasFault : Bool) : Except Char (List (List String)) :=
  let items := lines.flatten
  let sizeOf (letter : Char) : Except Char (Option Nat) :=
    match options.value? letter with
    | none => .ok none
    | some text => match Text.decimal? text.toList with
      | some number => .ok (some number)
      | none => .error letter
  match options.value? 'I', sizeOf 'L', sizeOf 'n' with
  | _, .error letter, _ => .error letter
  | _, _, .error letter => .error letter
  | some name, _, _ =>
      .ok (items.map fun item => command.map fun argument =>
        String.ofList (replacedText name.toList item.toList (argument.length + 1) argument.toList))
  | none, .ok (some size), .ok _ =>
      .ok ((piecesOf size (lines.length + 1) lines).map fun group => command ++ group.flatten)
  | none, .ok none, .ok (some size) =>
      let groups := piecesOf size (items.length + 1) items
      .ok ((if hasFault then groups.filter (·.length = size) else groups).map (command ++ ·))
  | none, .ok none, .ok none =>
      .ok (if hasFault then [] else if items.isEmpty then [] else [command ++ items])

/-- Run a program with arguments that are read from the input. -/
def runWithItems (start : Runner) : Utility := fun call =>
  withLeadingOptions "0a:d:E:I:n:rtP:L:xs:p" itemOptionNames 1 (fun call options => do
    let wrong (letter : Char) (text : String) : ShellAction Nat :=
      call.refuse (if (Text.decimal? text.toList).isSome then
        "value " ++ text ++ " for -" ++ String.singleton letter ++ " option should be >= 1"
        else "invalid number \"" ++ text ++ "\" for -" ++ String.singleton letter ++ " option") 1
    let isZero (letter : Char) : Bool :=
      (options.value? letter).any fun text => Text.decimal? text.toList == some 0
    match ['n', 'L'].find? isZero with
    | some letter => wrong letter ((options.value? letter).getD "")
    | none =>
        let file := (options.value? 'a').getD "-"
        match ← textOf file with
        | .error reason =>
            call.complain ("Cannot open input file " ++ quotedName file ++ ": " ++ reason)
            return 1
        | .ok text =>
            let command := if options.operands.isEmpty then ["echo"] else options.operands
            let (lines, quote) := itemLines options text
            match itemCommands options command lines quote.isSome with
            | .error letter => wrong letter ((options.value? letter).getD "")
            | .ok commands =>
                let all := if lines.isEmpty && quote.isNone && !options.has 'r' &&
                    !options.has 'I' then [command] else commands
                if file = "-" then modify (·.connect 0 .nowhere)
                let status ← runForGroups start call (options.has 't') 0 all
                match quote with
                | none => return status
                | some quote =>
                    let kind := if quote == '"' then "double" else "single"
                    call.complain ("unmatched " ++ kind ++
                      " quote; by default quotes are special to xargs unless you use the -0 option")
                    return 1)
    { call with
      arguments := call.arguments.map fun argument =>
        if argument = "-i" then "-I\x7b\x7d" else argument }

/-! ### Moods -/

/-- Run a program for some time. -/
def runForTime (start : Runner) : Utility :=
  withLeadingOptions "k:s:vf"
    [("kill-after", 'k'), ("signal", 's'), ("verbose", 'v'), ("foreground", 'f'),
     ("preserve-status", 'f')] 125 fun call options => do
  match options.operands with
  | duration :: name :: arguments =>
      if isDuration duration then becomeProgram start call failedToRun name arguments
      else call.refuse ("invalid time interval " ++ quotedName duration) 125
  | _ =>
      complain ("Try '" ++ call.name ++ " --help' for more information.")
      return 125

/-- Run a program that goes on when its terminal is closed. -/
def runOn (start : Runner) : Utility :=
  withLeadingOptions "" [] 125 fun call options => do
  match options.operands with
  | name :: arguments => becomeProgram start call failedToRun name arguments
  | [] => call.refuse "missing operand" 125

/-- Run a program with another priority. -/
def runNicely (start : Runner) : Utility :=
  withLeadingOptions "n:0123456789" [("adjustment", 'n')] 125 fun call options => do
  match options.value? 'n', options.operands with
  | some text, operands =>
      if (adjustment? text).isNone then
        call.complain ("invalid adjustment " ++ quotedName text)
        return 125
      else match operands with
        | name :: arguments => becomeProgram start call quotedName name arguments
        | [] => call.refuse "a command must be given with an adjustment" 125
  | none, name :: arguments => becomeProgram start call quotedName name arguments
  | none, [] =>
      sayLine call "0"
      return 0
where
  /-- The number that a text with a sign stands for. -/
  adjustment? (text : String) : Option Nat :=
    match text.toList with
    | '-' :: digits => Text.decimal? digits
    | '+' :: digits => Text.decimal? digits
    | digits => Text.decimal? digits

/-- Run a program with other buffers. -/
def runBuffered (start : Runner) : Utility :=
  withLeadingOptions "i:o:e:" [("input", 'i'), ("output", 'o'), ("error", 'e')] 125
    fun call options => do
  match options.operands with
  | name :: arguments => becomeProgram start call failedToRun name arguments
  | [] => call.refuse "missing operand" 125

end CertPress.Shell
