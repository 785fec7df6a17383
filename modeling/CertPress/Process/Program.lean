import CertPress.Shell.Run

/-!
# Programs

The programs of a machine are files on its disk.  A program is started with
arguments, variables and an input, and ends with a status, an output and error
messages.
-/

namespace CertPress.Process

/-- How a program ended. -/
structure Completion where
  /-- The status; none for a program that a signal ended. -/
  status : Option Nat
  output : Bytes
  errors : Bytes
  /-- What the program did not read of its input. -/
  unread : Bytes
  deriving DecidableEq, Repr, Inhabited

/-- Whether the program reports success. -/
def Completion.succeeded (completion : Completion) : Bool := completion.status == some 0

/-- Why a program cannot be started. -/
inductive StartFault where
  | file (fault : DiskFault)
  /-- An argument holds a NUL character. -/
  | invalidArgument
  deriving DecidableEq, Repr, Inhabited

/-- The wording of a fault. -/
def StartFault.message : StartFault → String
  | .file fault => fault.message
  | .invalidArgument => "nul byte found in provided data"

/-- The number of nested steps that a program may take. -/
def stepLimit : Nat := 1000000

/-- A program to run, and the variables it is started with. -/
structure Program where
  path : FilePath
  environment : Mapping String
  deriving DecidableEq, Inhabited

namespace Program

/-- The first file with a name on a search path. -/
def onSearchPath? (disk : Disk) (searchPath name : String) : Option FilePath :=
  ((Text.split ':' searchPath.toList).map fun directory =>
    (⟨String.ofList directory⟩ : FilePath).join name).find? disk.isFile

/-- The program that is found for a name: the file that a variable names, if the
variable is not empty, or else the first file with the name on the search
path. -/
def locate (environment : Mapping String) (override name : String) (disk : Disk) :
    Option Program :=
  let path : Option FilePath := match (environment.get? override).filter (· != "") with
    | some chosen =>
        if (Shell.factsAt? disk ⟨chosen⟩).any (·.kind == .regular) then some ⟨chosen⟩ else none
    | none => (environment.get? "PATH").bind (onSearchPath? disk · name)
  path.map (⟨·, environment⟩)

/-- Run a program.  It fails if the program cannot be started. -/
def run (program : Program) (arguments : List String) (input : Bytes) :
    ExceptT StartFault (StateM Disk) Completion := fun disk =>
  if arguments.any fun argument => argument.contains '\x00' then (.error .invalidArgument, disk)
  else
    let environment := program.environment.entries.map fun (name, value) =>
      (Shell.inward name, Shell.inward value)
    let path := Shell.inward program.path.text
    let (result, after) := Shell.startAt stepLimit path ⟨path, arguments.map Shell.inward⟩
      (Shell.Session.start disk environment input)
    let completion (status : Option Nat) : Completion :=
      ⟨status, after.printed 0, after.printed 1,
        (after.sources.head?.map (·.content)).getD []⟩
    match result with
    | .ok (.ok (.ok status)) => (.ok (completion (some status)), after.disk)
    | .ok (.ok (.error _)) => (.ok (completion none), after.disk)
    | .ok (.error fault) => (.error (.file fault), after.disk)
    | .error _ => (.ok (completion none), after.disk)

end Program

end CertPress.Process
