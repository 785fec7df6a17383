import CertPress.Shell.Format
import CertPress.Shell.Invocation
import CertPress.Shell.System

/-!
# Plain utilities

Programs that print their arguments, parts of paths, or what is known about the
system and the process.
-/

namespace CertPress.Shell

open ShellAction

/-- End with a status. -/
def endWith (status : Nat) : Utility := fun _ => return status

/-- Print a line. -/
def sayLine (call : Invocation) (text : String) : ShellAction Unit :=
  call.say (text ++ "\n").toList

/-! ### Arguments -/

/-- The escapes that a program resolves if it is asked to. -/
def resolvedText : (fuel : Nat) → List Char → Printed
  | 0, _ => ⟨[], false⟩
  | fuel + 1, chars =>
      match chars with
      | '\\' :: 'x' :: rest =>
          let digits := (rest.take 2).takeWhile Text.isHexDigit
          if digits.isEmpty then (resolvedText fuel rest).after ['\\', 'x']
          else (resolvedText fuel (rest.drop digits.length)).after
            [Char.ofNat ((Text.hexadecimal? digits).getD 0)]
      | '\\' :: 'c' :: _ => ⟨[], true⟩
      | '\\' :: '0' :: rest =>
          let (char, after) := octalAt 0 3 rest
          (resolvedText fuel after).after [char]
      | '\\' :: char :: rest =>
          (resolvedText fuel rest).after ((letterEscape? char).elim ['\\', char] ([·]))
      | char :: rest => (resolvedText fuel rest).after [char]
      | [] => ⟨[], false⟩

/-- Print the arguments with blanks between them.  Escapes are resolved only on
request. -/
def printArguments : Utility := fun call => do
  let isOption (argument : String) : Bool := match argument.toList with
    | '-' :: letters => !letters.isEmpty && letters.all "neE".toList.contains
    | _ => false
  let letters := (call.arguments.takeWhile isOption).flatMap fun argument =>
    argument.toList.drop 1
  let text := (" ".intercalate (call.arguments.dropWhile isOption)).toList
  let resolves := (letters.filter (· != 'n')).getLast? == some 'e'
  let printed := if resolves then resolvedText (text.length + 1) text else ⟨text, false⟩
  call.say (printed.text ++ if letters.contains 'n' || printed.stopped then [] else ['\n'])
  return 0

/-- Print the arguments by a format. -/
def printByFormat : Utility := fun call => do
  let arguments := match call.arguments with
    | "--" :: rest => rest
    | arguments => arguments
  match arguments with
  | [] => call.refuse "missing operand" 1
  | format :: values =>
      let result := formatted format values
      for complaint in result.complaints do
        match Text.cutLast? [':', ' '] complaint.toList with
        | some (value, reason) =>
            let reason := String.ofList reason
            call.complain (quotedName (String.ofList value) ++ ": " ++
              if reason = "expected numeric value" then "expected a numeric value"
              else if reason = "not completely converted" then "value not completely converted"
              else reason)
        | none => call.complain complaint
      call.say result.text
      match result.fault with
      | some fault =>
          call.complain fault
          return 1
      | none => return if result.complaints.isEmpty then 0 else 1

/-- Print a line over and over. -/
def printEndlessly : Utility := fun call => do
  let line := (if call.arguments.isEmpty then "y" else " ".intercalate call.arguments) ++ "\n"
  let count := endlessLength / line.length + 1
  call.say (List.replicate count line.toList).flatten
  throw (.killed 13)

/-! ### Paths -/

/-- A path without the slashes at its end; the root keeps one. -/
def withoutSlashes (path : String) : String :=
  if path != "" && path.toList.all (· == '/') then "/" else Text.withoutTrailing '/' path

/-- The last name of a path without an ending that it does not consist of. -/
def lastPart (path ending : String) : String :=
  let short := withoutSlashes path
  let name := if short = "/" then "/" else match Text.cutLast? ['/'] short.toList with
    | some (_, name) => String.ofList name
    | none => short
  if ending != "" && name != ending && ending.toList.isSuffixOf name.toList then
    String.ofList (name.toList.take (name.length - ending.length))
  else name

/-- The path of the directory of a path. -/
def directoryPart (path : String) : String :=
  let short := withoutSlashes path
  if short = "/" then "/" else match Text.cutLast? ['/'] short.toList with
    | some ([], _) => "/"
    | some (before, _) => withoutSlashes (String.ofList before)
    | none => "."

/-- Print the last names of paths. -/
def printLastPart : Utility :=
  withLeadingOptions "as:z" [("multiple", 'a'), ("suffix", 's'), ("zero", 'z')] 1 fun call options => do
  let sayName (name : String) : ShellAction Unit :=
    call.say (name.toList ++ [if options.has 'z' then '\x00' else '\n'])
  let several := options.has 'a' || options.has 's'
  match options.operands with
  | [] => call.refuse "missing operand" 1
  | paths =>
      if several then
        for path in paths do sayName (lastPart path ((options.value? 's').getD ""))
        return 0
      else match paths with
        | [path] =>
            sayName (lastPart path "")
            return 0
        | [path, ending] =>
            sayName (lastPart path ending)
            return 0
        | _ => call.refuse ("extra operand " ++ quotedName (paths.getD 2 "")) 1

/-- Print the directories of paths. -/
def printDirectoryPart : Utility :=
  withLeadingOptions "z" [("zero", 'z')] 1 fun call options => do
  if options.operands.isEmpty then call.refuse "missing operand" 1
  else
    for path in options.operands do
      call.say ((directoryPart path).toList ++ [if options.has 'z' then '\x00' else '\n'])
    return 0

/-- Print the working directory. -/
def printDirectory : Utility := fun call => do
  let location := (← get).disk.workingDirectory
  sayLine call (if location.isEmpty then "/" else inward location.key)
  return 0

/-- Print the paths of programs. -/
def printPrograms : Utility :=
  withLeadingOptions "as" [] 1 fun call options => do
  let session ← get
  let searchPath := (session.value? "PATH").getD ""
  let isProgram (path : String) : Bool :=
    (factsAt? session.disk (pathOf path)).any fun facts =>
      facts.kind == .regular && facts.isExecutable
  let status ← Invocation.forEach options.operands fun name => do
    let paths := (if name.toList.contains '/' then [name] else programPaths searchPath name).filter
      isProgram
    if !options.has 's' then
      for path in if options.has 'a' then paths else paths.take 1 do sayLine call path
    return !paths.isEmpty
  return if options.operands.isEmpty then 1 else status

/-! ### The system and the process -/

/-- Print variables. -/
def printEnvironment : Utility :=
  withLeadingOptions "0" [("null", '0')] 2 fun call options => do
  let environment := (← get).environment
  let ending := if options.has '0' then ['\x00'] else ['\n']
  if options.operands.isEmpty then
    for (name, value) in environment do call.say ((name ++ "=" ++ value).toList ++ ending)
    return 0
  else
    Invocation.forEach options.operands fun name => do
      match environment.find? (·.1 == name) with
      | some (_, value) =>
          call.say (value.toList ++ ending)
          return true
      | none => return false

/-- Print what is known about the system. -/
def printSystem : Utility :=
  withOptions "asnrvmpio"
    [("all", 'a'), ("kernel-name", 's'), ("nodename", 'n'), ("kernel-release", 'r'),
     ("kernel-version", 'v'), ("machine", 'm'), ("processor", 'p'), ("hardware-platform", 'i'),
     ("operating-system", 'o')] 1 fun call options => do
  let parts : List (Char × String) :=
    [('s', "Linux"), ('n', "localhost"), ('r', "6.1.0"), ('v', "#1 SMP"), ('m', "x86_64"),
     ('o', "GNU/Linux")]
  match options.operands with
  | operand :: _ => call.refuse ("extra operand " ++ quotedName operand) 1
  | [] =>
      let shown := if options.has 'a' then parts
        else if options.given.isEmpty then parts.take 1
        else parts.filter fun (letter, _) => options.has letter
      let more := if options.has 'p' || options.has 'i' then ["unknown"] else []
      sayLine call (" ".intercalate (shown.map (·.2) ++ more))
      return 0

/-- Print the name of the user. -/
def printUser : Utility :=
  withOptions "" [] 1 fun call options => do
  match options.operands with
  | operand :: _ => call.refuse ("extra operand " ++ quotedName operand) 1
  | [] =>
      sayLine call "root"
      return 0

/-- Print the numbers or names of the user and the groups. -/
def printIdentity : Utility :=
  withOptions "ugGnrz" [("user", 'u'), ("group", 'g'), ("groups", 'G'), ("name", 'n'), ("real", 'r')]
    1 fun call options => do
  if options.has 'u' || options.has 'g' || options.has 'G' then
    sayLine call (if options.has 'n' then "root" else "0")
  else sayLine call "uid=0(root) gid=0(root) groups=0(root)"
  return 0

/-- Print a line whatever the arguments are. -/
def printFixed (text : String) (status : Nat) : Utility := fun call => do
  sayLine call text
  return status

/-- Whether a text is a length of time. -/
def isDuration (text : String) : Bool :=
  match realAt? text.toList with
  | some (false, _, _, rest) => rest.isEmpty || rest ∈ [['s'], ['m'], ['h'], ['d']]
  | _ => text = "inf" || text = "infinity"

/-- Wait for some time. -/
def waitSome : Utility :=
  withOptions "" [] 1 fun call options => do
  if options.operands.isEmpty then call.refuse "missing operand" 1
  else match options.operands.find? (!isDuration ·) with
    | some text => call.refuse ("invalid time interval " ++ quotedName text) 1
    | none => return 0

end CertPress.Shell
