import CertPress.Files.Disk
import CertPress.Shell.Octets
import CertPress.Shell.Session

/-!
# The system around the disk

What a script finds besides the files on the disk: the devices, the directories
of the system, and the programs that are part of it.

A name without a slash stands for a function, a builtin, or a program in one of
the directories of the search path, in this order.
-/

namespace CertPress.Shell

/-! ## Devices and programs -/

/-- What stands at a path. -/
inductive FileKind where
  | regular
  | directory
  | device
  | pipe
  deriving DecidableEq, Repr, Inhabited

/-- What can be asked about a file. -/
structure FileFacts where
  kind : FileKind
  size : Nat
  isExecutable : Bool
  deriving DecidableEq, Repr, Inhabited

/-- The facts about an entry of the disk. -/
def FileFacts.ofEntry : Entry → FileFacts
  | .file content executable => ⟨.regular, content.length, executable⟩
  | .directory => ⟨.directory, 4096, true⟩

/-- The directories of programs. -/
def programDirectories : List Location := [["bin"], ["usr", "bin"]]

/-- The other directories of the system. -/
def systemDirectories : List Location :=
  programDirectories ++
    [["dev"], ["etc"], ["home"], ["lib"], ["opt"], ["proc"], ["root"], ["run"], ["sbin"], ["sys"],
     ["tmp"], ["usr"], ["usr", "lib"], ["usr", "local"], ["usr", "sbin"], ["usr", "share"], ["var"],
     ["var", "tmp"]]

/-- The devices of the system. -/
def deviceNames : List String :=
  ["null", "zero", "full", "random", "urandom", "stdin", "stdout", "stderr", "tty"]

/-- The names of shells. -/
def shellNames : List String := ["sh", "dash", "bash"]

/-- The programs of the system. -/
def programNames : List String :=
  shellNames ++
    ["[", "arch", "base64", "basename", "cat", "chgrp", "chmod", "chown", "cksum", "cmp", "comm",
     "cp", "cut", "date", "dd", "diff", "dirname", "echo", "egrep", "env", "expand", "expr",
     "false", "fgrep", "find", "fold", "grep", "head", "hostname", "id", "install", "ln", "ls",
     "md5sum", "mkdir", "mktemp", "mv", "nice", "nl", "nohup", "nproc", "od", "paste", "printenv",
     "printf", "pwd", "readlink", "realpath", "rev", "rm", "rmdir", "sed", "seq", "setsid",
     "sha1sum", "sha256sum", "sleep", "sort", "stat", "stdbuf", "sync", "tac", "tail", "tee",
     "test", "timeout", "touch", "tr", "true", "truncate", "tty", "uname", "uniq", "unlink", "wc",
     "which", "whoami", "xargs", "yes"]

/-- The location that the text of a path stands for. -/
def placeOf (disk : Disk) (path : FilePath) : Location :=
  path.names.foldl (fun place name => if name = ".." then place.dropLast else place ++ [name])
    (disk.start path)

/-- The name of the system program at a path. -/
def programAt? (disk : Disk) (path : FilePath) : Option String :=
  let place := placeOf disk path
  match place.getLast? with
  | some name =>
      if programDirectories.contains place.dropLast && programNames.contains name &&
          !path.endsWithSlash then some name
      else none
  | none => none

/-- The facts about something at a path that is not on the disk. -/
def systemFacts? (disk : Disk) (path : FilePath) : Option FileFacts :=
  let place := placeOf disk path
  if path.text = "" then none
  else if systemDirectories.contains place then some ⟨.directory, 4096, true⟩
  else if place.dropLast = ["dev"] && place.any deviceNames.contains then
    some ⟨.device, 0, false⟩
  else (programAt? disk path).map fun _ => ⟨.regular, 65536, true⟩

/-- The facts about what is at a path. -/
def factsAt? (disk : Disk) (path : FilePath) : Option FileFacts :=
  match disk.find path with
  | .ok (_, entry) => some (.ofEntry entry)
  | .error _ => systemFacts? disk path

/-! ## Looking up commands -/

/-- The builtins that end the script if they fail, and before which assignments
stay. -/
def specialBuiltins : List String :=
  [":", ".", "break", "continue", "eval", "exec", "exit", "export", "readonly", "return", "set",
   "shift", "times", "trap", "unset"]

/-- The other builtins. -/
def otherBuiltins : List String :=
  ["[", "alias", "bg", "cd", "chdir", "command", "echo", "false", "fg", "getopts", "hash", "jobs",
   "kill", "local", "printf", "pwd", "read", "test", "true", "type", "ulimit", "umask", "unalias",
   "wait"]

/-- What the name of a command stands for. -/
inductive CommandKind where
  | function (body : Command)
  | builtin
  /-- A program at a path. -/
  | program (path : String)
  /-- There is a file that is no program. -/
  | refused
  | missing

/-- The paths at which a program may be found. -/
def programPaths (searchPath name : String) : List String :=
  (Text.split ':' searchPath.toList).map fun directory =>
    if directory.isEmpty then name
    else String.ofList directory ++ "/" ++ name

/-- The program with a name on a search path. -/
def findProgram (disk : Disk) (searchPath name : String) : CommandKind :=
  let facts := (programPaths searchPath name).map fun path => (path, factsAt? disk (pathOf path))
  match facts.find? fun (_, known) =>
      known.any fun known => known.kind == .regular && known.isExecutable with
  | some (path, _) => .program path
  | none => if facts.any (·.2.isSome) then .refused else .missing

/-- The function with a name. -/
def Session.function? (session : Session) (name : String) : Option Command :=
  (session.functions.find? (·.1 == name)).map (·.2)

/-- What the name of a command without a slash stands for. -/
def lookUp (session : Session) (name : String) : CommandKind :=
  match session.function? name with
  | some body => .function body
  | none =>
      if specialBuiltins.contains name || otherBuiltins.contains name then .builtin
      else match session.value? "PATH" with
        | none => .missing
        | some searchPath => findProgram session.disk searchPath name

end CertPress.Shell
