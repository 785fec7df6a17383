import CertPress.Shell.Session
import CertPress.Shell.System
import CertPress.Text.Ascii

/-!
# Invocations

A command with its arguments.  Arguments that start with a hyphen are options,
of which some take a value; the others are operands.
-/

namespace CertPress.Shell

open ShellAction

/-- A command with its arguments. -/
structure Invocation where
  name : String
  arguments : List String
  deriving DecidableEq, Repr, Inhabited

/-- What a command does.  The result is its status. -/
abbrev Utility := Invocation → ShellAction Nat

/-- The options and the operands of a command. -/
structure Options where
  /-- The letters of the options in order, with their values. -/
  given : List (Char × String)
  operands : List String
  deriving DecidableEq, Repr, Inhabited

namespace Options

/-- Whether an option is given. -/
def has (options : Options) (letter : Char) : Bool := options.given.any (·.1 == letter)

/-- The value of an option that is given last. -/
def value? (options : Options) (letter : Char) : Option String :=
  (options.given.reverse.find? (·.1 == letter)).map (·.2)

/-- The values of an option. -/
def values (options : Options) (letter : Char) : List String :=
  options.given.filterMap fun (given, value) => if given == letter then some value else none

/-- One more option in front of those found. -/
def add (letter : Char) (value : String) (options : Options) : Options :=
  { options with given := (letter, value) :: options.given }

end Options

/-- The options that a command knows. -/
structure OptionTable where
  /-- The letters; a colon follows one that takes a value. -/
  letters : List Char
  /-- Long names with the letters that they stand for. -/
  names : List (String × Char)
  /-- Whether operands may stand in front of options. -/
  isMixed : Bool

namespace OptionTable

/-- Whether an option takes a value. -/
def takesValue (table : OptionTable) (letter : Char) : Bool :=
  [letter, ':'].isPrefixOf (table.letters.dropWhile (· != letter))

/-- Whether a letter is an option. -/
def knows (table : OptionTable) (letter : Char) : Bool :=
  letter != ':' && table.letters.contains letter

/-- The letter of the long name that a text is the start of. -/
def letterOf? (table : OptionTable) (text : List Char) : Option Char :=
  match table.names.find? (·.1.toList == text) with
  | some (_, letter) => some letter
  | none => match table.names.filter fun (name, _) => text.isPrefixOf name.toList with
    | [(_, letter)] => some letter
    | _ => none

/-- The options that a word of letters stands for.  The last one may take the
next argument. -/
def ofLetters (table : OptionTable) : List Char → Except String (List (Char × String) × Option Char)
  | [] => .ok ([], none)
  | letter :: rest =>
      if !table.knows letter then .error ("invalid option -- '" ++ String.singleton letter ++ "'")
      else if table.takesValue letter then
        if rest.isEmpty then .ok ([], some letter) else .ok ([(letter, String.ofList rest)], none)
      else do
        let (later, open?) ← table.ofLetters rest
        return ((letter, "") :: later, open?)

/-- The options and operands among arguments. -/
def parse (table : OptionTable) : List String → Except String Options
  | [] => .ok ⟨[], []⟩
  | argument :: rest =>
      match argument.toList with
      | ['-', '-'] => .ok ⟨[], rest⟩
      | '-' :: '-' :: long =>
          let name := long.takeWhile (· != '=')
          match table.letterOf? name with
          | none => .error ("unrecognized option '--" ++ String.ofList name ++ "'")
          | some letter =>
              if name.length < long.length then do
                return (← table.parse rest).add letter (String.ofList (long.drop (name.length + 1)))
              else if table.takesValue letter then
                match rest with
                | value :: others => do return (← table.parse others).add letter value
                | [] => .error ("option '--" ++ String.ofList name ++ "' requires an argument")
              else do return (← table.parse rest).add letter ""
      | '-' :: first :: letters =>
          match table.ofLetters (first :: letters) with
          | .error reason => .error reason
          | .ok (given, none) => do
              let later ← table.parse rest
              return { later with given := given ++ later.given }
          | .ok (given, some letter) =>
              match rest with
              | value :: others => do
                  let later ← table.parse others
                  return { later with given := given ++ (letter, value) :: later.given }
              | [] => .error ("option requires an argument -- '" ++ String.singleton letter ++ "'")
      | _ =>
          if table.isMixed then do
            let later ← table.parse rest
            return { later with operands := argument :: later.operands }
          else .ok ⟨[], argument :: rest⟩

end OptionTable

/-- Characters that have a meaning to a shell. -/
def needsQuotes (char : Char) : Bool :=
  char.toNat < 0x21 || 0x7F ≤ char.toNat ||
    "!\"$&'()*;<>?[\\]^|:".toList.contains char || char == '\x60'

/-- A name in messages between quotes. -/
def quotedName (name : String) : String :=
  if name.toList.contains '\'' && !name.toList.contains '"' then "\"" ++ name ++ "\""
  else "'" ++ name ++ "'"

/-- A name in messages, with quotes where it needs them. -/
def shownName (name : String) : String :=
  if name = "" ∨ name.toList.any needsQuotes then quotedName name else name

namespace Invocation

/-- Print text. -/
def say (_call : Invocation) (text : List Char) : ShellAction Unit := do
  let _ ← print 1 (octets text)

/-- Print an error message that names the command. -/
def complain (call : Invocation) (text : String) : ShellAction Unit :=
  ShellAction.complain (call.name ++ ": " ++ text)

/-- Report arguments that the command cannot be run with. -/
def refuse (call : Invocation) (text : String) (status : Nat) : ShellAction Nat := do
  call.complain text
  ShellAction.complain ("Try '" ++ call.name ++ " --help' for more information.")
  return status

/-- Do something for each of some values.  The status is one if it fails for some
of them. -/
def forEach {α : Type} (values : List α) (action : α → ShellAction Bool) : ShellAction Nat := do
  let failed ← values.foldlM (fun failed value => do
    return !(← action value) || failed) false
  return if failed then 1 else 0

end Invocation

/-- A command with options. -/
def withOptions (letters : String) (names : List (String × Char)) (failure : Nat)
    (action : Invocation → Options → ShellAction Nat) : Utility := fun call =>
  match (OptionTable.mk letters.toList names true).parse call.arguments with
  | .ok options => action call options
  | .error reason => call.refuse reason failure

/-- A command whose options come first. -/
def withLeadingOptions (letters : String) (names : List (String × Char)) (failure : Nat)
    (action : Invocation → Options → ShellAction Nat) : Utility := fun call =>
  match (OptionTable.mk letters.toList names false).parse call.arguments with
  | .ok options => action call options
  | .error reason => call.refuse reason failure

/-- The descriptor that a path stands for. -/
def descriptorOf? (path : String) : Option Nat :=
  match path with
  | "/dev/stdin" => some 0
  | "/dev/stdout" => some 1
  | "/dev/stderr" => some 2
  | _ =>
      let chars := path.toList
      let digits := if "/dev/fd/".toList.isPrefixOf chars then chars.drop 8
        else if "/proc/self/fd/".toList.isPrefixOf chars then chars.drop 14 else []
      Text.decimal? digits

/-- The facts about what a text names: a descriptor, or something at a path. -/
def factsOf? (session : Session) (target : String) : Option FileFacts :=
  match descriptorOf? target with
  | none => factsAt? session.disk (pathOf target)
  | some descriptor =>
      (session.channel? descriptor).bind fun channel =>
        match channel with
        | .source index =>
            (session.sources[index]?).map fun source =>
              if source.isFile then ⟨.regular, source.content.length, false⟩ else ⟨.pipe, 0, false⟩
        | .buffer _ => some ⟨.pipe, 0, false⟩
        | .nowhere | .full => some ⟨.device, 0, false⟩
        | .file location => (session.disk.at? location).map FileFacts.ofEntry

/-- The devices that give bytes without an end. -/
def endlessDevices : List String := ["/dev/zero", "/dev/full", "/dev/random", "/dev/urandom"]

/-- How much there is of an input without an end. -/
def endlessLength : Nat := 131072

/-- The content of a file, or why it cannot be read.  A hyphen stands for the
input. -/
def contentOf (target : String) : ShellAction (Except String Bytes) := do
  if target = "/dev/null" then return .ok []
  if endlessDevices.contains target then return .ok (List.replicate endlessLength 0)
  match (if target = "-" then some 0 else descriptorOf? target) with
  | some descriptor =>
      match ← takeAll descriptor with
      | some bytes => return .ok bytes
      | none =>
          return .error (if target = "-" then "Bad file descriptor"
            else "No such file or directory")
  | none => return ((← get).disk.read (pathOf target)).mapError DiskFault.reason

/-- The text of a file, as `contentOf` has it. -/
def textOf (target : String) : ShellAction (Except String (List Char)) := do
  return (← contentOf target).map charsOf

/-- The lines of a text without their ends, and whether the last one has an
end. -/
def linesOf (chars : List Char) : List (List Char) × Bool :=
  match (Text.split '\n' chars).reverse with
  | [] => ([], true)
  | [] :: before => (before.reverse, true)
  | last :: before => ((last :: before).reverse, false)

/-- Lines with their ends. -/
def joinLines (lines : List (List Char)) : List Char := lines.flatMap (· ++ ['\n'])

/-- Lines with their ends, of which the last one may be missing. -/
def joinLinesAs (isEnded : Bool) (lines : List (List Char)) : List Char :=
  if isEnded then joinLines lines else Text.join '\n' lines

/-- Read the text of each operand, or the input if there are none, and do
something with it.  Files that cannot be read are reported. -/
def forEachText (call : Invocation) (operands : List String)
    (action : String → List Char → ShellAction Unit) : ShellAction Nat :=
  Invocation.forEach (if operands.isEmpty then ["-"] else operands) fun operand => do
    match ← textOf operand with
    | .ok text =>
        action operand text
        return true
    | .error reason =>
        call.complain (shownName operand ++ ": " ++ reason)
        return false

end CertPress.Shell
