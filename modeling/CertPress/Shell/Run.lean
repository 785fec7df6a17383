import CertPress.Shell.Builtin
import CertPress.Shell.Expansion
import CertPress.Shell.Read
import CertPress.Shell.Redirection
import CertPress.Shell.Utility.Programs

/-!
# Running scripts

Words are expanded when their command runs.  A command is a function, a builtin
or a program; programs run as processes of their own, which change nothing of
the session but the disk, the inputs and the outputs.  Running is given fuel, so
that a script without an end stalls.
-/

namespace CertPress.Shell

open ShellAction

/-- The interpreter that a program names in its first line, with its argument;
none if the program is not a script. -/
def interpreterOf? (content : Bytes) : Option (String × List String) :=
  match content with
  | 35 :: 33 :: rest =>
      let isBlank (char : Char) : Bool := char == ' ' || char == '\t'
      let line := ((charsOf (rest.takeWhile (· != 10))).reverse.dropWhile isBlank).reverse
      let start := line.dropWhile isBlank
      let path := start.takeWhile (!isBlank ·)
      let argument := (start.drop path.length).dropWhile isBlank
      if path.isEmpty then none
      else some (String.ofList path,
        if argument.isEmpty then [] else [String.ofList argument])
  | _ => none

/-- The session of a program that is started in a session. -/
def Session.forProgram (session : Session) : Session :=
  { session with
    bindings := Mapping.ofList (session.environment.map fun (name, value) =>
      (name, ⟨some value, true, false⟩))
    functions := []
    status := 0
    collected := none
    options := []
    line := 1
    builtin := none
    traps := session.traps.filter fun (_, action) => action == ""
    pending := []
    isInner := false
    process := session.nextProcess
    nextProcess := session.nextProcess + 1
    jobs := []
    loops := 0
    calls := 0
    hidden := []
    optionOffset := 0
    located := [] }

/-- The session of a shell with the variables that every shell has.  Variables of
the environment whose names no script could write are dropped. -/
def Session.forShell (session : Session) : Session :=
  let known := Mapping.ofList (session.bindings.entries.filter fun (name, _) => isName name.toList)
  let own (name value : String) : String × Variable :=
    (name, ⟨some value, (known.get? name).any (·.isExported), false⟩)
  let given : List (String × Variable) :=
    [own "IFS" (String.ofList standardSeparators), own "OPTIND" "1",
     own "PPID" (decimal (session.process - 1)),
     ("PWD", ⟨some (workingDirectoryText session), true, false⟩)]
  let standard : List (String × Variable) :=
    [own "PS1" "# ", own "PS2" "> ", own "PS4" "+ ",
     own "PATH" "/usr/local/sbin:/usr/local/bin:/usr/sbin:/usr/bin:/sbin:/bin"]
  { session with
    bindings := (known.insertAll given).insertAll
      (standard.filter fun (name, _) => !known.contains name) }

/-- Why nothing can be printed to a descriptor; none if it can. -/
def outputFault? (session : Session) (descriptor : Nat) : Option String :=
  match session.channel? descriptor with
  | none | some (.source _) => some "Bad file descriptor"
  | some .full => some "No space left on device"
  | some _ => none

/-- What a program that could not print says of its output, and its status. -/
def outputComplaint (program reason : String) : String × Nat :=
  let wasClosed := reason = "Bad file descriptor"
  let failed := "write error: " ++ reason
  match program with
  | "cat" => (if wasClosed then "standard output: " ++ reason else failed, 1)
  | "sed" => ("couldn't " ++ (if wasClosed then "close" else "flush") ++ " stdout: " ++ reason, 4)
  | "tee" => ("'standard output': " ++ reason, 1)
  | "yes" => ("standard output: " ++ reason, 1)
  | "diff" | "cmp" => ("standard output: " ++ reason, 2)
  | "grep" | "egrep" | "fgrep" | "ls" | "sort" | "printenv" => (failed, 2)
  | "expr" => (failed, 3)
  | "env" => (failed, 125)
  | _ => (failed, 1)

/-- Run a program that may not be able to print.  One that tries says so. -/
def reportingOutput (program : String) (call : Invocation) (action : ShellAction Nat) :
    ShellAction Nat := do
  match outputFault? (← get) 1 with
  | none => action
  | some reason =>
      let before ← get
      let index := before.buffers.length
      set ({ before with buffers := before.buffers ++ [[]] }.connect 1 (.buffer index))
      let status ← action
      let printed := (← get).printed index
      modify fun session => { session with buffers := session.buffers.take index }
      if printed.isEmpty then return status
      let (text, failure) := outputComplaint program reason
      call.complain text
      return failure

/-- How a shell is asked to run. -/
structure ShellRequest where
  /-- Whether the first operand is the script itself. -/
  isCommand : Bool
  /-- Whether the script is the input. -/
  fromInput : Bool
  operands : List String
  deriving Inhabited

/-- Take the options of a shell from its arguments. -/
def shellRequest (request : ShellRequest) : List String → ShellAction ShellRequest
  | [] => return request
  | "--" :: rest => return { request with operands := rest }
  | "-" :: rest => return { request with operands := rest }
  | "-o" :: name :: rest => do
      let _ ← switchOptions ["-o", name]
      shellRequest request rest
  | "+o" :: name :: rest => do
      let _ ← switchOptions ["+o", name]
      shellRequest request rest
  | first :: rest => do
      let letters := first.toList.drop 1
      let isOption := first.toList.head?.any fun mark => mark == '-' || mark == '+'
      if !isOption || letters.isEmpty then return { request with operands := first :: rest }
      for letter in letters do
        if letter == 'o' || !(['c', 's', 'l'].contains letter) then
          let _ ← switchOptions [String.ofList (first.toList.take 1 ++ [letter])]
      shellRequest
        { request with
          isCommand := request.isCommand || letters.contains 'c'
          fromInput := request.fromInput || letters.contains 's' } rest

/-- The text of the words of a command that is traced. -/
def tracedText (session : Session) (assigned : List (String × String)) (fields : List String) :
    String :=
  (session.value? "PS4").getD "" ++
    " ".intercalate (assigned.map (fun (name, value) => name ++ "=" ++ value) ++ fields) ++ "\n"

/-- The number of functions that may call each other. -/
def callLimit : Nat := 1000

/-- The descriptor of a redirection. -/
def Redirect.descriptor : Redirect → Nat
  | .mk descriptor _ _ => descriptor

/-- Give variables that were hidden their old state. -/
def unhidden (hidden : List (String × Option Variable)) (bindings : Mapping Variable) :
    Mapping Variable :=
  hidden.foldl (fun bindings (name, old) =>
    match old with
    | some known => if name = "-" then bindings else bindings.insert name known
    | none => bindings.erase name) bindings

/-- The options that were hidden, or others if none were. -/
def unhiddenOptions (hidden : List (String × Option Variable)) (options : List Char) : List Char :=
  match hidden.reverse.find? (·.1 == "-") with
  | some (_, some known) => (known.value.getD "").toList
  | _ => options

/-- Do something without the right to end the script by a fault. -/
def withoutFault (action : ShellAction Unit) : ShellAction Unit :=
  tryCatch action fun departure =>
    match departure with
    | .fault => return
    | other => throw other

/-- Run a builtin under its name. -/
def underName (name : String) (action : ShellAction Unit) : ShellAction Unit := do
  let before := (← get).builtin
  modify ({ · with builtin := some name })
  afterwards action ({ · with builtin := before })

mutual

/-- The characters of a fragment. -/
def expandFragment (fuel : Nat) (quoted : Bool) (fragment : Fragment) : ShellAction (List Atom) :=
  match fuel with
  | 0 => throw .stalled
  | fuel + 1 => do
      match fragment with
      | .plain content =>
          return content.map fun char => if quoted then .literal char else .plain char
      | .literal content => return .present :: content.map .literal
      | .quoted [.parameter "@"] => return separateAtoms true (← get).arguments
      | .quoted parts =>
          return .present :: (← parts.mapM (expandFragment fuel true)).flatten
      | .parameter "@" => return separateAtoms quoted (← get).arguments
      | .parameter "*" =>
          let session ← get
          if quoted then return valueAtoms true ((joiner session).intercalate session.arguments).toList
          else return separateAtoms false session.arguments
      | .parameter name => return valueAtoms quoted (((← parameterValue name).getD "").toList)
      | .length name =>
          let length := (← parameterValue name).elim 0 String.length
          return valueAtoms quoted (decimal length).toList
      | .printed body =>
          let bytes ← collect (inSubshell fuel (runCommand fuel false body))
          return valueAtoms quoted (collectedText bytes)
      | .sum expression =>
          let atoms := (← expression.mapM (expandFragment fuel true)).flatten
          let text := textOfAtoms atoms
          match Arithmetic.evaluate (← get).value? text with
          | .ok (number, assigned) =>
              for (name, value) in assigned do assign name (signedDecimal value)
              return valueAtoms quoted (signedDecimal number).toList
          | .error (.expression reason) =>
              abandon ("arithmetic expression: " ++ reason ++ ": \"" ++ String.ofList text ++ "\"")
          | .error (.number text) => abandon ("Illegal number: " ++ text)
      | .misnamed => abandon "Bad substitution"
      | .changed name change emptyIsMissing word =>
          expandChanged fuel quoted name change emptyIsMissing word

/-- The characters of a parameter with a change. -/
def expandChanged (fuel : Nat) (quoted : Bool) (name : String) (change : Change)
    (emptyIsMissing : Bool) (word : Word) : ShellAction (List Atom) :=
  match fuel with
  | 0 => throw .stalled
  | fuel + 1 => do
      let session ← get
      let value? ← if change.hasPattern then parameterValue name
        else pure (parameterValue? session name)
      let found := value?.filter fun value => !(emptyIsMissing && value = "")
      let other : ShellAction (List Atom) := do
        if quoted then return (← word.mapM (expandFragment fuel true)).flatten
        else return (← expandWord fuel false word).map fun atom =>
          match atom with
          | .plain char => .value char
          | kept => kept
      match change, found with
      | .withoutEnd longest, _ =>
          let pattern := patternOfAtoms (← expandWord fuel false word)
          return valueAtoms quoted (pattern.dropEnd longest (found.getD "").toList)
      | .withoutStart longest, _ =>
          let pattern := patternOfAtoms (← expandWord fuel false word)
          return valueAtoms quoted (pattern.dropStart longest (found.getD "").toList)
      | .instead, none => return []
      | .instead, some _ => other
      | _, some value =>
          if name = "@" then return separateAtoms quoted (← get).arguments
          else return valueAtoms quoted value.toList
      | .otherwise, none => other
      | .assign, none =>
          let value := textOfAtoms (← expandWord fuel true word)
          if !isName name.toList then abandon (name ++ ": bad variable name")
          assign name (String.ofList value)
          return valueAtoms quoted value
      | .require, none =>
          let text := textOfAtoms (← expandWord fuel false word)
          let standard := if emptyIsMissing then "parameter not set or null" else "parameter not set"
          abandon (name ++ ": " ++ if text.isEmpty then standard else String.ofList text)

/-- The characters of a word.  `assigned` says that it is the value of an
assignment. -/
def expandWord (fuel : Nat) (assigned : Bool) (word : Word) : ShellAction (List Atom) :=
  match fuel with
  | 0 => throw .stalled
  | fuel + 1 => do
      let session ← get
      let count := word.length
      let parts ← word.zipIdx.mapM fun (fragment, index) =>
        match fragment with
        | .plain content =>
            return homeAtoms session assigned (index + 1 == count) (index == 0) 0 content
        | other => expandFragment fuel false other
      return parts.flatten

/-- The fields of words. -/
def expandFields (fuel : Nat) (words : List Word) : ShellAction (List String) :=
  match fuel with
  | 0 => throw .stalled
  | fuel + 1 => do
      let lists ← words.mapM fun word => do
        let atoms ← expandWord fuel false word
        let session ← get
        let fields := fieldsOf session.separators atoms
        return if session.has 'f' then fields.map Field.text
          else fields.flatMap (expandPaths session.disk)
      return lists.flatten

/-- Connect redirections one after another.  The result says whether all of them
worked. -/
def connectRedirects (fuel : Nat) (redirects : List Redirect) : ShellAction Bool :=
  match fuel with
  | 0 => throw .stalled
  | fuel + 1 =>
      redirects.foldlM
        (fun connected redirect => do
          match connected, redirect with
          | false, _ => return false
          | true, .mk descriptor mode target =>
              let target := textOfAtoms (← expandWord fuel false target)
              connectTarget descriptor mode (String.ofList target))
        true

/-- Run a text as a script. -/
def runText (fuel : Nat) (guarded : Bool) (text : String) : ShellAction Unit :=
  match fuel with
  | 0 => throw .stalled
  | fuel + 1 => runScript fuel guarded (Script.ofChars text.toList)

/-- Run the commands of a script. -/
def runScript (fuel : Nat) (guarded : Bool) (script : Script) : ShellAction Unit :=
  match fuel with
  | 0 => throw .stalled
  | fuel + 1 => do
      for command in script.commands do runCommand fuel guarded command
      match script.fault with
      | none => pure ()
      | some fault =>
          modify ({ · with line := fault.line })
          abandon ("Syntax error: " ++ fault.reason)

/-- Do what has been asked for when signals come, for those that have come. -/
def settle (fuel : Nat) : ShellAction Unit :=
  match fuel with
  | 0 => throw .stalled
  | fuel + 1 => do
      let session ← get
      if session.isInner || session.pending.isEmpty then return
      set { session with pending := [] }
      for name in session.pending do
        match session.traps.find? (·.1 == name), signalOf? name with
        | some (_, action), _ =>
            let status := (← get).status
            runText fuel false action
            finish status
        | none, some signal => if endsProcess signal then throw (.killed signal)
        | none, none => pure ()

/-- Do the work of a shell, and then what has been asked for at its end. -/
def closeShell (fuel : Nat) (action : ShellAction Unit) : ShellAction Unit :=
  match fuel with
  | 0 => throw .stalled
  | fuel + 1 => do
      let departed : Option Departure ← tryCatch (do action; return none) fun departure =>
        return some departure
      match departed with
      | some (.killed signal) => throw (.killed signal)
      | some .stalled => throw .stalled
      | _ =>
          let session ← get
          match session.traps.find? (·.1 == "EXIT") with
          | none => pure ()
          | some (_, action) =>
              set { session with
                traps := session.traps.filter (·.1 != "EXIT"), builtin := none }
              if action != "" then runText fuel false action
              finish session.status

/-- Do something in a part of the process that changes nothing of the session. -/
def inSubshell (fuel : Nat) (action : ShellAction Unit) : ShellAction Unit :=
  match fuel with
  | 0 => throw .stalled
  | fuel + 1 =>
      isolate (tryCatch (closeShell fuel action) fun departure =>
        match departure with
        | .killed signal => do
            reportDeath signal
            finish (128 + signal)
        | other => throw other)

/-- Run a shell as a program. -/
def runShell (fuel : Nat) (call : Invocation) : ShellAction Unit :=
  match fuel with
  | 0 => throw .stalled
  | fuel + 1 => do
      modify fun session => { session.forShell with script := call.name, line := 0 }
      closeShell fuel do
        let request ← shellRequest ⟨false, false, []⟩ call.arguments
        let enter (script : String) (arguments : List String) : ShellAction Unit :=
          modify ({ · with script, arguments, line := 1 })
        if request.isCommand then
          match request.operands with
          | [] => abandon "-c requires an argument"
          | [text] =>
              enter call.name []
              runText fuel false text
          | text :: name :: arguments =>
              enter name arguments
              runText fuel false text
        else
          match (if request.fromInput then [] else request.operands) with
          | [] =>
              let bytes := (← takeAll 0).getD []
              enter call.name request.operands
              runScript fuel false (Script.ofChars (charsOf bytes))
          | path :: arguments =>
              match (← get).disk.find (pathOf path) with
              | .ok (_, .file content _) =>
                  enter path arguments
                  runScript fuel false (Script.ofChars (charsOf content))
              | .ok (_, .directory) => finish 0
              | .error fault =>
                  abandon ("cannot open " ++ path ++ ": " ++ openingFault "No such file" fault)

/-- Run a program of the system as a process. -/
def runSystem (fuel : Nat) (program : String) (call : Invocation) :
    ShellAction (Except Nat Nat) :=
  match fuel with
  | 0 => throw .stalled
  | fuel + 1 =>
      asProcess do
        modify Session.forProgram
        if shellNames.contains program then runShell fuel call
        else match valueAt? program programs with
          | some utility => finish (← reportingOutput program call (utility call))
          | none =>
              match valueAt? program callingPrograms with
              | some utility => finish (← utility (startNamed fuel) call)
              | none => finish 127

/-- Start the program at a path under a name, as a process. -/
def startAt (fuel : Nat) (path : String) (call : Invocation) :
    ShellAction (Except DiskFault (Except Nat Nat)) :=
  match fuel with
  | 0 => throw .stalled
  | fuel + 1 => do
      let disk := (← get).disk
      match disk.find (pathOf path) with
      | .ok (_, .file content executable) =>
          if !executable then return .error .permissionDenied
          match interpreterOf? content with
          | none => return .error .notExecutable
          | some (interpreter, argument) =>
              startAt fuel interpreter ⟨interpreter, argument ++ path :: call.arguments⟩
      | .ok (_, .directory) => return .error .permissionDenied
      | .error fault =>
          match programAt? disk (pathOf path) with
          | some program => return .ok (← runSystem fuel program call)
          | none =>
              return .error (if (systemFacts? disk (pathOf path)).isSome then .permissionDenied
                else fault)

/-- Start the program at a path.  A file that no interpreter is named for is a
script of the shell. -/
def startFile (fuel : Nat) (path : String) (call : Invocation) :
    ShellAction (Except DiskFault (Except Nat Nat)) :=
  match fuel with
  | 0 => throw .stalled
  | fuel + 1 => do
      let content := ((← get).disk.read (pathOf path)).toOption.getD []
      match ← startAt fuel path call with
      | .error .notExecutable =>
          if (content.takeWhile (· != 10)).contains 0 then return .error .notExecutable
          startAt fuel "/bin/sh" ⟨"/bin/sh", path :: call.arguments⟩
      | started => return started

/-- Start the program with a name, which is found on the search path. -/
def startNamed (fuel : Nat) (call : Invocation) :
    ShellAction (Except DiskFault (Except Nat Nat)) :=
  match fuel with
  | 0 => throw .stalled
  | fuel + 1 => do
      if call.name.toList.contains '/' then startFile fuel call.name call
      else
        let session ← get
        match findProgram session.disk ((session.value? "PATH").getD "/bin:/usr/bin") call.name with
        | .program path => startFile fuel path call
        | .refused => return .error .permissionDenied
        | _ => return .error .notFound

/-- Run the program at a path as a command. -/
def runProgram (fuel : Nat) (path : String) (call : Invocation) : ShellAction Unit :=
  match fuel with
  | 0 => throw .stalled
  | fuel + 1 => do
      match ← startFile fuel path call with
      | .ok (.ok status) => finish status
      | .ok (.error signal) =>
          reportDeath signal
          finish (128 + signal)
      | .error fault =>
          match fault with
          | .notFound | .notDirectory =>
              blame (call.name ++ ": not found")
              finish 127
          | .nameTooLong =>
              blame (call.name ++ ": " ++ fault.reason)
              finish 127
          | _ =>
              blame (call.name ++ ": " ++ fault.reason)
              finish 126

/-- Call a function. -/
def callFunction (fuel : Nat) (guarded : Bool) (body : Command) (arguments : List String) :
    ShellAction Unit :=
  match fuel with
  | 0 => throw .stalled
  | fuel + 1 => do
      let before ← get
      if callLimit ≤ before.calls then
        abandon ("Maximum function recursion depth (" ++ decimal callLimit ++ ") reached")
      set { before with
        arguments, calls := before.calls + 1, loops := 0, hidden := [], optionOffset := 0 }
      let leave (after : Session) : Session :=
        { after with
          arguments := before.arguments
          calls := before.calls
          loops := before.loops
          hidden := before.hidden
          optionOffset := before.optionOffset
          options := unhiddenOptions after.hidden after.options
          bindings := unhidden after.hidden after.bindings }
      tryCatch (afterwards (runCommand fuel guarded body) leave) fun departure =>
        match departure with
        | .leaveFunction => return
        | other => throw other

/-- Run the commands of a file in this session. -/
def runSourced (fuel : Nat) (arguments : List String) : ShellAction Unit :=
  match fuel with
  | 0 => throw .stalled
  | fuel + 1 => do
      match arguments with
      | [] => finish 0
      | name :: _ =>
          let session ← get
          let places := if name.toList.contains '/' then [name]
            else programPaths ((session.value? "PATH").getD "") name
          match places.find? fun path => session.disk.isFile (pathOf path) with
          | none =>
              if name.toList.contains '/' then abandon ("cannot open " ++ name ++ ": No such file")
              else abandon (name ++ ": not found")
          | some path =>
              let content := (session.disk.read (pathOf path)).toOption.getD []
              finish 0
              tryCatch (underName path (runScript fuel false (Script.ofChars (charsOf content))))
                fun departure => match departure with
                  | .leaveFunction => return
                  | other => throw other

/-- Run a program in place of the script. -/
def runInstead (fuel : Nat) (arguments : List String) : ShellAction Unit :=
  match fuel with
  | 0 => throw .stalled
  | fuel + 1 => do
      match arguments with
      | [] => finish 0
      | name :: rest =>
          let session ← get
          let leaveWith (status : Nat) : ShellAction Unit := do
            finish status
            throw .leave
          match ← startNamed fuel ⟨name, rest⟩ with
          | .ok (.ok status) =>
              modify ({ · with traps := [] })
              leaveWith status
          | .ok (.error signal) => throw (.killed signal)
          | .error fault =>
              let isMissing := fault == .notFound || fault == .notDirectory
              let wasRefused := match findProgram session.disk ((session.value? "PATH").getD "") name with
                | .refused => !(name.toList.contains '/')
                | _ => false
              blame (name ++ ": " ++ if isMissing then "not found" else fault.reason)
              leaveWith (if isMissing || wasRefused then 127 else 126)

/-- Run a builtin. -/
def callBuiltin (fuel : Nat) (guarded : Bool) (call : Invocation) : ShellAction Unit :=
  match fuel with
  | 0 => throw .stalled
  | fuel + 1 => do
      let work : ShellAction Unit := match call.name with
        | "command" => runPlainly fuel guarded call
        | "eval" => do
            finish 0
            underName call.name (runText fuel guarded (" ".intercalate call.arguments))
        | "." => underName call.name (runSourced fuel call.arguments)
        | "exec" => underName call.name (runInstead fuel call.arguments)
        | name => underName name do
            match valueAt? name builtins with
            | some utility => finish (← utility call)
            | none => finish 127
      if specialBuiltins.contains call.name then work else withoutFault work

/-- Run a command that is no function, or describe commands. -/
def runPlainly (fuel : Nat) (guarded : Bool) (call : Invocation) : ShellAction Unit :=
  match fuel with
  | 0 => throw .stalled
  | fuel + 1 => do
      let given ← do
        let before := (← get).builtin
        modify ({ · with builtin := some call.name })
        afterwards (builtinOptions call "pvV") ({ · with builtin := before })
      match given.operands with
      | [] => finish 0
      | name :: arguments =>
          if given.has 'v' || given.has 'V' then
            finish (← describeAll (given.has 'V') [name])
          else runCall fuel guarded true ⟨name, arguments⟩

/-- Run a command by its name. -/
def runCall (fuel : Nat) (guarded withoutFunctions : Bool) (call : Invocation) :
    ShellAction Unit :=
  match fuel with
  | 0 => throw .stalled
  | fuel + 1 => do
      let session ← get
      let known := if withoutFunctions then { session with functions := [] } else session
      if call.name.toList.contains '/' then runProgram fuel call.name call
      else match lookUp known call.name with
        | .function body => callFunction fuel guarded body call.arguments
        | .builtin => callBuiltin fuel guarded call
        | .program path =>
            noteProgram call.name
            runProgram fuel path call
        | .refused =>
            blame (call.name ++ ": Permission denied")
            finish 127
        | .missing =>
            blame (call.name ++ ": not found")
            finish 127

/-- Run a simple command whose redirections are connected. -/
def runConnected (fuel : Nat) (guarded : Bool) (tracing : Channel)
    (assignments : List (String × Word)) (fields : List String) : ShellAction Unit :=
  match fuel with
  | 0 => throw .stalled
  | fuel + 1 => do
      let before := (← get).bindings
      let stays := fields.head?.all specialBuiltins.contains
      let bind : ShellAction (List (String × String)) := assignments.mapM fun (name, word) => do
        let value := String.ofList (textOfAtoms (← expandWord fuel true word))
        assign name value
        if !stays then change name ({ · with isExported := true })
        return (name, value)
      let work : ShellAction Unit := do
        let assigned ← bind
        if (← get).has 'x' then
          printTo tracing (octets (tracedText (← get) assigned fields).toList)
        match fields with
        | [] => modify fun session => { session with status := session.collected.getD 0 }
        | name :: arguments => runCall fuel guarded false ⟨name, arguments⟩
      if stays then work
      else
        afterwards work fun after =>
          { after with
            bindings := unhidden (assignments.map fun (name, _) => (name, before.get? name))
              after.bindings }

/-- Run a simple command. -/
def runSimple (fuel : Nat) (guarded : Bool) (assignments : List (String × Word))
    (words : List Word) (redirects : List Redirect) : ShellAction Unit :=
  match fuel with
  | 0 => throw .stalled
  | fuel + 1 => do
      modify ({ · with collected := none })
      let fields ← expandFields fuel words
      let before ← get
      let tracing := (before.channel? 2).getD .nowhere
      let work : ShellAction Unit := do
        if ← connectRedirects fuel redirects then
          runConnected fuel guarded tracing assignments fields
        else
          finish 2
          if fields.head?.any specialBuiltins.contains then throw .fault
      if redirects.isEmpty || fields == ["exec"] then work
      else afterwards work (reconnected (redirects.map Redirect.descriptor) before)

/-- Run a command.  A command that is guarded may fail in a strict script. -/
def runCommand (fuel : Nat) (guarded : Bool) (command : Command) : ShellAction Unit :=
  match fuel with
  | 0 => throw .stalled
  | fuel + 1 => do
      let check : ShellAction Unit := do
        let session ← get
        if session.has 'e' && !guarded && session.status != 0 then throw .leave
      let checked (action : ShellAction Unit) : ShellAction Unit := do
        action
        settle fuel
        check
      if (← get).has 'n' then return
      match command with
      | .idle => pure ()
      | .simple line assignments words redirects =>
          modify ({ · with line })
          checked (runSimple fuel guarded assignments words redirects)
      | .sequence first second =>
          runCommand fuel guarded first
          runCommand fuel guarded second
      | .both first second =>
          runCommand fuel true first
          if (← get).status = 0 then runCommand fuel guarded second
      | .either first second =>
          runCommand fuel true first
          if (← get).status != 0 then runCommand fuel guarded second
      | .negate body =>
          runCommand fuel true body
          finish (if (← get).status = 0 then 1 else 0)
      | .pipe first second =>
          checked do
            let bytes ← collect (inSubshell fuel (runCommand fuel guarded first))
            let before ← get
            let input ← openSource bytes false
            modify (·.connect 0 input)
            afterwards (inSubshell fuel (runCommand fuel guarded second)) (reconnected [0] before)
      | .background body =>
          let process := (← get).nextProcess
          modify ({ · with nextProcess := process + 1 })
          inSubshell fuel do
            modify (·.connect 0 .nowhere)
            runCommand fuel false body
          modify fun session => { session with jobs := (process, session.status) :: session.jobs }
          finish 0
      | .subshell line body =>
          modify ({ · with line })
          checked (inSubshell fuel (runCommand fuel guarded body))
      | .redirected line body redirects =>
          modify ({ · with line })
          let before ← get
          afterwards (do
            if ← connectRedirects fuel redirects then runCommand fuel guarded body
            else
              finish 2
              check) (reconnected (redirects.map Redirect.descriptor) before)
      | .cond condition kept otherwise =>
          runCommand fuel true condition
          match (if (← get).status = 0 then kept else otherwise) with
          | .idle => finish 0
          | chosen => runCommand fuel guarded chosen
      | .repeated whileItHolds condition body =>
          let loops := (← get).loops
          modify ({ · with loops := loops + 1 })
          afterwards (runRounds fuel guarded 0 whileItHolds condition body) ({ · with loops })
      | .each line name items body =>
          modify ({ · with line })
          let values ← match items with
            | none => pure (← get).arguments
            | some words => expandFields fuel words
          if values.isEmpty then finish 0
          let loops := (← get).loops
          modify ({ · with loops := loops + 1 })
          let rounds : ShellAction Bool := values.foldlM
            (fun going value => do
              if !going then return false
              assign name value
              round (runCommand fuel guarded body)) true
          let _ ← afterwards rounds ({ · with loops })
      | .select line subject arms =>
          modify ({ · with line })
          let text := textOfAtoms (← expandWord fuel false subject)
          let chosen ← arms.findM? fun (patterns, _) => patterns.anyM fun pattern => do
            return (patternOfAtoms (← expandWord fuel false pattern)).accepts text
          match chosen with
          | none => finish 0
          | some (_, .idle) => finish 0
          | some (_, body) => runCommand fuel guarded body
      | .define name body =>
          modify fun session =>
            { session with
              functions := (name, body) :: session.functions.filter (·.1 != name) }
          finish 0

/-- Run the rounds of a loop.  The loop ends with the status of its last
round. -/
def runRounds (fuel : Nat) (guarded : Bool) (last : Nat) (whileItHolds : Bool)
    (condition body : Command) : ShellAction Unit :=
  match fuel with
  | 0 => throw .stalled
  | fuel + 1 => do
      let going ← round do
        runCommand fuel true condition
        if ((← get).status == 0) == whileItHolds then runCommand fuel guarded body
        else
          finish last
          throw (.leaveLoop 1)
      if going then runRounds fuel guarded (← get).status whileItHolds condition body

end

end CertPress.Shell
