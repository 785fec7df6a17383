import CertPress.Shell.Invocation
import CertPress.Shell.System

/-!
# Redirections

The files and descriptors to which the descriptors of a command are connected.
-/

namespace CertPress.Shell

open ShellAction

/-- The wording of a fault with a file that is opened. -/
def openingFault (missing : String) : DiskFault → String
  | .notFound => missing
  | .notDirectory => missing
  | other => other.reason

/-- Open a file for printing.  What it holds is dropped unless it is kept. -/
def openFile (keep isNew : Bool) (path : FilePath) : ShellAction (Except DiskFault Channel) := do
  let known := ((← get).disk.find path).toOption.map (·.2)
  let isRegular (entry : Entry) : Bool := match entry with
    | .file _ _ => true
    | .directory => false
  if isNew && known.any isRegular then return .error .alreadyExists
  let opened : Except DiskFault Unit ← match known with
    | some (.file _ executable) =>
        if keep then pure (.ok ()) else onDisk (Disk.write path [] executable)
    | _ => onDisk (Disk.write path [] false)
  let disk := (← get).disk
  match opened, systemFacts? disk path with
  | .error _, some facts =>
      return .error (if facts.kind == .directory then .isDirectory else .permissionDenied)
  | .error fault, none => return .error fault
  | .ok _, _ => return (disk.locate path).map Channel.file

/-- The channel of a device. -/
def deviceChannel? (target : String) : Option Channel :=
  if target = "/dev/full" then some .full
  else if ["/dev/null", "/dev/zero", "/dev/random", "/dev/urandom"].contains target then
    some .nowhere
  else none

/-- Open the target of a redirection, or say why it cannot be opened. -/
def openTarget (mode : RedirectMode) (target : String) : ShellAction (Except String Channel) := do
  let opening (fault : String) : String := "cannot open " ++ target ++ ": " ++ fault
  let creating (fault : String) : String := "cannot create " ++ target ++ ": " ++ fault
  let isInput := mode == .input
  let path := pathOf target
  match deviceChannel? target, descriptorOf? target with
  | some channel, _ =>
      if isInput && endlessDevices.contains target then
        return .ok (← openSource (List.replicate endlessLength 0) false)
      return .ok channel
  | none, some descriptor =>
      match (← get).channel? descriptor with
      | some channel => return .ok channel
      | none =>
          return .error (if isInput then opening "No such file" else creating "Directory nonexistent")
  | none, none =>
      match mode with
      | .input =>
          match (← get).disk.find path with
          | .ok (_, .file content _) => return .ok (← openSource content true)
          | .ok (_, .directory) => return .ok .nowhere
          | .error fault => return .error (opening (openingFault "No such file" fault))
      | .both =>
          let opened ← openFile true false path
          match opened, (← get).disk.read path with
          | .ok _, .ok content => return .ok (← openSource content true)
          | .ok channel, .error _ => return .ok channel
          | .error fault, _ =>
              return .error (creating (openingFault "Directory nonexistent" fault))
      | mode =>
          let isProtected := mode == .output && (← get).has 'C'
          match ← openFile (mode == .append) isProtected path with
          | .ok channel => return .ok channel
          | .error fault =>
              return .error (creating (openingFault "Directory nonexistent" fault))

/-- Connect a descriptor to a target.  The result says whether that worked; a
fault is reported. -/
def connectTarget (descriptor : Nat) (mode : RedirectMode) (target : String) :
    ShellAction Bool := do
  let connect (channel : Channel) : ShellAction Bool := do
    modify (·.connect descriptor channel)
    return true
  match mode with
  | .document => connect (← openSource (octets target.toList) true)
  | .duplicate =>
      if target = "-" then
        modify (·.disconnect descriptor)
        return true
      match target.toList with
      | [digit] =>
          if !digit.isDigit then abandon "Syntax error: Bad fd number"
          let other := digit.toNat - '0'.toNat
          match (← get).channel? other with
          | some channel => connect channel
          | none =>
              blame (decimal other ++ ": Bad file descriptor")
              return false
      | _ => abandon "Syntax error: Bad fd number"
  | mode =>
      match ← openTarget mode target with
      | .ok channel => connect channel
      | .error text =>
          blame text
          return false

/-- The inputs of a session that are still connected, among others before
them. -/
def tidied (count : Nat) (session : Session) : Session :=
  let used := (session.channels.map fun (_, channel) =>
    match channel with
    | .source index => index + 1
    | _ => 0).foldl max count
  { session with sources := session.sources.take used }

/-- Give descriptors back the channels that they had. -/
def reconnected (descriptors : List Nat) (before after : Session) : Session :=
  tidied before.sources.length (descriptors.foldl (fun session descriptor =>
    match before.channel? descriptor with
    | some channel => session.connect descriptor channel
    | none => session.disconnect descriptor) after)

/-- Do something, and then change the session, even if the action departs. -/
def afterwards {α : Type} (action : ShellAction α) (update : Session → Session) :
    ShellAction α := fun session =>
  let (result, after) := action session
  (result, update after)

end CertPress.Shell
