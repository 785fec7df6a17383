import CertPress.Files.Disk
import CertPress.Shell.Command
import CertPress.Shell.Octets

/-!
# Shell sessions

What a running script works on: the disk, its arguments and variables, its
descriptors, what is left of its inputs, and what has been printed so far.
-/

namespace CertPress.Shell

/-- Something that is read from its front. -/
structure Source where
  content : Bytes
  /-- Whether a reader can give back what it read too much. -/
  isFile : Bool
  deriving DecidableEq, Repr, Inhabited

/-- What a descriptor is connected to. -/
inductive Channel where
  /-- An input of the session. -/
  | source (index : Nat)
  /-- A buffer of the session. -/
  | buffer (index : Nat)
  /-- An empty input, and an output that is dropped. -/
  | nowhere
  /-- An output for which there is no room. -/
  | full
  /-- The end of a file. -/
  | file (location : Location)
  deriving DecidableEq, Repr, Inhabited

/-- A variable of a script. -/
structure Variable where
  /-- The value; none for a variable that only has properties. -/
  value : Option String
  /-- Whether programs get the variable. -/
  isExported : Bool
  isFixed : Bool
  deriving DecidableEq, Repr, Inhabited

/-- A variable before it is set. -/
def Variable.unset : Variable := ⟨none, false, false⟩

/-- The state of a running script. -/
structure Session where
  disk : Disk
  /-- The name by which the script was started. -/
  script : String
  arguments : List String
  /-- The variables by their names. -/
  bindings : Mapping Variable
  functions : List (String × Command)
  channels : List (Nat × Channel)
  sources : List Source
  /-- What has been printed, the last byte first: the output and the error messages
  of the script, and after them the output of commands that is being collected. -/
  buffers : List Bytes
  /-- How the last command ended. -/
  status : Nat
  /-- How the last command ended whose output became part of the command that is
  running. -/
  collected : Option Nat
  /-- The letters of the options that are on. -/
  options : List Char
  /-- The line of the script on which the running command stands. -/
  line : Nat
  /-- The builtin that is running. -/
  builtin : Option String
  /-- What to run when a signal comes, or at the end. -/
  traps : List (String × String)
  /-- The signals that have come. -/
  pending : List String
  /-- Whether the session is a part of a process that has the same number. -/
  isInner : Bool
  /-- The number of the process that runs the script, and the next one that is
  free. -/
  process : Nat
  nextProcess : Nat
  /-- The processes that nobody waited for, the last one first, with how they
  ended. -/
  jobs : List (Nat × Nat)
  /-- The numbers of loops and functions that are running. -/
  loops : Nat
  calls : Nat
  /-- The variables that the running function hides. -/
  hidden : List (String × Option Variable)
  /-- How far the argument that holds options has been read. -/
  optionOffset : Nat
  /-- The permissions that new files do not get. -/
  mask : Nat
  /-- The names of the programs that have been found on the search path. -/
  located : List String
  deriving Inhabited

/-- Why a command does not go on to the next one. -/
inductive Departure where
  /-- The script ends with the status of the session. -/
  | leave
  /-- A command met a fault that ends the script, unless the command is a builtin
  without that right. -/
  | fault
  /-- A signal ended the script. -/
  | killed (signal : Nat)
  | leaveLoop (levels : Nat)
  | nextRound (levels : Nat)
  | leaveFunction
  /-- The script ran for too long. -/
  | stalled
  deriving DecidableEq, Repr, Inhabited

/-- The work of a script. -/
abbrev ShellAction (α : Type) := ExceptT Departure (StateM Session) α

namespace Session

/-- The session of a process before its first program: the variables are those of
the environment, and the output and the error messages go to the first two
buffers. -/
def start (disk : Disk) (environment : List (String × String)) (input : Bytes) : Session where
  disk
  script := ""
  arguments := []
  bindings := Mapping.ofList (environment.map fun (name, value) =>
    (name, ⟨some value, true, false⟩))
  functions := []
  channels := [(0, .source 0), (1, .buffer 0), (2, .buffer 1)]
  sources := [⟨input, false⟩]
  buffers := [[], []]
  status := 0
  collected := none
  options := []
  line := 0
  builtin := none
  traps := []
  pending := []
  isInner := false
  process := 4200
  nextProcess := 4201
  jobs := []
  loops := 0
  calls := 0
  hidden := []
  optionOffset := 0
  mask := 18
  located := []

/-- Whether an option is on. -/
def has (session : Session) (option : Char) : Bool := session.options.contains option

/-- The value of a variable. -/
def value? (session : Session) (name : String) : Option String :=
  (session.bindings.get? name).bind (·.value)

/-- What a descriptor is connected to. -/
def channel? (session : Session) (descriptor : Nat) : Option Channel :=
  (session.channels.find? (·.1 == descriptor)).map (·.2)

/-- Connect a descriptor. -/
def connect (session : Session) (descriptor : Nat) (channel : Channel) : Session :=
  { session with
    channels := (descriptor, channel) :: session.channels.filter (·.1 != descriptor) }

/-- Close a descriptor. -/
def disconnect (session : Session) (descriptor : Nat) : Session :=
  { session with channels := session.channels.filter (·.1 != descriptor) }

/-- The variables that programs get. -/
def environment (session : Session) : List (String × String) :=
  session.bindings.entries.filterMap fun (name, known) =>
    if known.isExported then known.value.map (name, ·) else none

/-- What has been printed to a buffer. -/
def printed (session : Session) (index : Nat) : Bytes := (session.buffers.getD index []).reverse

/-- The text in front of messages of the shell. -/
def origin (session : Session) : String :=
  session.script ++ ": " ++ decimal session.line ++ ": " ++
    (session.builtin.map (· ++ ": ")).getD ""

end Session

namespace ShellAction

/-- Set the status. -/
def finish (status : Nat) : ShellAction Unit :=
  modify fun session => { session with status }

/-- Print bytes to a channel. -/
def printTo (channel : Channel) (bytes : Bytes) : ShellAction Unit :=
  modify fun session =>
    match channel with
    | .buffer index => { session with buffers := session.buffers.modify index (bytes.reverse ++ ·) }
    | .file location =>
        match session.disk.at? location with
        | some (.file content executable) =>
            { session with
              disk := session.disk.set location (.file (content ++ bytes) executable) }
        | _ => session
    | .source _ | .nowhere | .full => session

/-- Print bytes to a descriptor.  The result says whether it takes output. -/
def print (descriptor : Nat) (bytes : Bytes) : ShellAction Bool := do
  match (← get).channel? descriptor with
  | none => return false
  | some (.source _) => return false
  | some .full => return false
  | some channel =>
      printTo channel bytes
      return true

/-- Print an error message. -/
def complain (text : String) : ShellAction Unit := do
  let _ ← print 2 (octets (text ++ "\n").toList)

/-- Print an error message that names the script and the line. -/
def blame (text : String) : ShellAction Unit := do
  complain ((← get).origin ++ text)

/-- Report a fault that ends the script. -/
def abandon {α : Type} (text : String) : ShellAction α := do
  blame text
  finish 2
  throw .fault

/-- Use the disk. -/
def onDisk {α : Type} (action : ExceptT DiskFault (StateM Disk) α) :
    ShellAction (Except DiskFault α) := do
  let session ← get
  let (result, disk) := action session.disk
  set { session with disk }
  return result

/-- A new input with some content. -/
def openSource (content : Bytes) (isFile : Bool) : ShellAction Channel := do
  let session ← get
  let source : Source := ⟨content, isFile⟩
  set { session with sources := session.sources ++ [source] }
  return .source session.sources.length

/-- What is left of an input; none if a descriptor is no input. -/
def remaining? (descriptor : Nat) : ShellAction (Option Source) := do
  let session ← get
  match session.channel? descriptor with
  | some (.source index) => return session.sources[index]?
  | some .nowhere => return some ⟨[], true⟩
  | _ => return none

/-- Leave less of an input. -/
def leaveOf (descriptor : Nat) (content : Bytes) : ShellAction Unit :=
  modify fun session =>
    match session.channel? descriptor with
    | some (.source index) =>
        { session with
          sources := session.sources.modify index fun source => { source with content } }
    | _ => session

/-- Take all of an input; none if a descriptor is no input. -/
def takeAll (descriptor : Nat) : ShellAction (Option Bytes) := do
  let source ← remaining? descriptor
  leaveOf descriptor []
  return source.map (·.content)

/-- What an action prints to a new buffer. -/
def collect (action : ShellAction Unit) : ShellAction Bytes := fun session =>
  let index := session.buffers.length
  let inside := { session with buffers := session.buffers ++ [[]] }.connect 1 (.buffer index)
  let (result, after) := action inside
  (result.map fun _ => after.printed index,
    { after with
      buffers := after.buffers.take index
      channels := session.channels
      status := session.status
      collected := some after.status })

/-- A session with everything that belongs to a process as another one has
it. -/
def restored (session after : Session) : Session :=
  { session with
    disk := { after.disk with workingDirectory := session.disk.workingDirectory }
    sources := after.sources
    buffers := after.buffers
    status := after.status
    nextProcess := after.nextProcess }

/-- How an action ends that runs as another process: its status, or the signal
that ended it. -/
def asProcess (action : ShellAction Unit) : ShellAction (Except Nat Nat) := fun session =>
  let (result, after) := action session
  let back := restored session after
  match result with
  | .error .stalled => (.error .stalled, back)
  | .error (.killed signal) => (.ok (.error signal), { back with status := 128 + signal })
  | _ => (.ok (.ok after.status), back)

/-- How a part of a process goes on: only a script without an end ends the whole
process. -/
def outcome : Except Departure Unit → Except Departure Unit
  | .error .stalled => .error .stalled
  | _ => .ok ()

/-- How a process goes on after a part of it came to an end. -/
def rejoined (session : Session) (part : Except Departure Unit × Session) :
    Except Departure Unit × Session :=
  (outcome part.1, { restored session part.2 with pending := part.2.pending })

/-- Do something that leaves everything of the process alone.  The signals that
come to the process are kept for it. -/
def isolate (action : ShellAction Unit) : ShellAction Unit := fun session =>
  let ignored := session.traps.filter fun (_, action) => action == ""
  rejoined session (action { session with isInner := true, traps := ignored })

/-- A round of a loop.  The result says whether there is another one. -/
def round (action : ShellAction Unit) : ShellAction Bool :=
  tryCatch (do action; return true) fun departure =>
    match departure with
    | .leaveLoop (levels + 2) => throw (.leaveLoop (levels + 1))
    | .leaveLoop _ => return false
    | .nextRound (levels + 2) => throw (.nextRound (levels + 1))
    | .nextRound _ => return true
    | other => throw other

/-- Change the variable with a name. -/
def change (name : String) (update : Variable → Variable) : ShellAction Unit :=
  modify fun session =>
    let old := (session.bindings.get? name).getD .unset
    { session with bindings := session.bindings.insert name (update old) }

/-- Give a variable a value.  A fixed variable is a fault. -/
def assign (name value : String) : ShellAction Unit := do
  let session ← get
  if ((session.bindings.get? name).getD .unset).isFixed then abandon (name ++ ": is read only")
  change name fun known =>
    { known with value := some value, isExported := known.isExported || session.has 'a' }
  if name = "OPTIND" then modify fun after => { after with optionOffset := 0 }
  if name = "PATH" then modify fun after => { after with located := [] }

/-- Note that a program has been found. -/
def noteProgram (name : String) : ShellAction Unit :=
  modify fun session =>
    if session.located.contains name then session
    else { session with located := session.located ++ [name] }

/-- Nothing of the arguments, variables, functions, options and descriptors
changes in an isolated action. -/
theorem isolate_keeps (action : ShellAction Unit) (session : Session) :
    let after := (isolate action session).2
    after.arguments = session.arguments ∧ after.bindings = session.bindings ∧
      after.functions = session.functions ∧ after.options = session.options ∧
      after.channels = session.channels := by
  simp [isolate, rejoined, restored]

end ShellAction

end CertPress.Shell
