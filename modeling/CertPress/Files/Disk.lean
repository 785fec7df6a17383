import CertPress.Files.Path
import CertPress.Mapping
import CertPress.Text.Ascii
import CertPress.Text.Utf8

/-!
# A disk

The files and directories that a process works on, as a value.  A path is
followed name by name from the root or the working directory; every name on the
way has to be a directory, and `..` leads to the real parent.  All operations
act on the location that a path leads to, so two spellings of a path are one
file.
-/

namespace CertPress

/-- Why an operation on files fails. -/
inductive DiskFault where
  | notFound
  | busy
  | alreadyExists
  | notDirectory
  | isDirectory
  | nameTooLong
  | permissionDenied
  | notExecutable
  /-- The path holds a NUL character. -/
  | invalidPath
  deriving DecidableEq, Repr, Inhabited

namespace DiskFault

/-- What is wrong. -/
def reason : DiskFault → String
  | .notFound => "No such file or directory"
  | .notExecutable => "Exec format error"
  | .permissionDenied => "Permission denied"
  | .busy => "Device or resource busy"
  | .alreadyExists => "File exists"
  | .notDirectory => "Not a directory"
  | .isDirectory => "Is a directory"
  | .nameTooLong => "File name too long"
  | .invalidPath => "file name contained an unexpected NUL byte"

/-- The number that the operating system gives a fault.  A path that it never
sees has none. -/
def number? : DiskFault → Option Nat
  | .notFound => some 2
  | .notExecutable => some 8
  | .permissionDenied => some 13
  | .busy => some 16
  | .alreadyExists => some 17
  | .notDirectory => some 20
  | .isDirectory => some 21
  | .nameTooLong => some 36
  | .invalidPath => none

/-- The wording of a fault. -/
def message (fault : DiskFault) : String :=
  match fault.number? with
  | some number =>
      fault.reason ++ " (os error " ++ String.ofList (Nat.toDigits 10 number) ++ ")"
  | none => fault.reason

end DiskFault

/-- A file or a directory. -/
inductive Entry where
  | file (content : Bytes) (executable : Bool)
  | directory
  deriving DecidableEq, Repr, Inhabited

/-- The names from the root to a file or directory, without `.` and `..`. -/
abbrev Location := List String

/-- The text that stands for a location; empty for the root. -/
def Location.key (location : Location) : String :=
  String.join (location.map ("/" ++ ·))

/-- The files and directories below the root, by their locations, and the
directory in which relative paths start. -/
structure Disk where
  entries : Mapping Entry
  workingDirectory : Location
  deriving DecidableEq, Repr, Inhabited

namespace Disk

/-- A disk with an empty root directory. -/
def empty : Disk := ⟨Mapping.empty, []⟩

/-- What is at a location. -/
def at? (disk : Disk) (location : Location) : Option Entry :=
  if location.isEmpty then some .directory else disk.entries.get? location.key

/-- Put something at a location. -/
def set (disk : Disk) (location : Location) (entry : Entry) : Disk :=
  { disk with entries := disk.entries.insert location.key entry }

/-- The number of bytes that a name may have. -/
def nameLimit : Nat := 255

/-- The number of bytes that the text of a path may not reach. -/
def pathLimit : Nat := 4096

/-- Why a path cannot even be looked at. -/
def refusal? (path : FilePath) : Option DiskFault :=
  if path.text.toList.contains '\x00' then some .invalidPath
  else if pathLimit ≤ path.text.utf8ByteSize then some .nameTooLong
  else none

/-- Where a path starts. -/
def start (disk : Disk) (path : FilePath) : Location :=
  if path.isAbsolute then [] else disk.workingDirectory

/-- The names that are followed, in which a dot stands for the place itself. -/
def route (path : FilePath) : List String :=
  let names := (path.pieces.filter (!List.isEmpty ·)).map String.ofList
  if path.endsWithSlash then names ++ ["."] else names

/-- Follow one name from a directory.  The place it leads to need not exist. -/
def step (disk : Disk) (here : Location) (name : String) : Except DiskFault Location :=
  match disk.at? here with
  | none => .error .notFound
  | some (.file _ _) => .error .notDirectory
  | some .directory =>
      if name = "." then .ok here
      else if name = ".." then .ok here.dropLast
      else if nameLimit < name.utf8ByteSize then .error .nameTooLong
      else .ok (here ++ [name])

/-- The location that a path leads to. -/
def locate (disk : Disk) (path : FilePath) : Except DiskFault Location :=
  match refusal? path with
  | some fault => .error fault
  | none =>
      if path.text = "" then .error .notFound
      else (route path).foldlM disk.step (disk.start path)

/-- What a path leads to. -/
def find (disk : Disk) (path : FilePath) : Except DiskFault (Location × Entry) := do
  let location ← disk.locate path
  match disk.at? location with
  | some entry => return (location, entry)
  | none => throw .notFound

/-- The content of a file. -/
def read (disk : Disk) (path : FilePath) : Except DiskFault Bytes := do
  match ← disk.find path with
  | (_, .file content _) => return content
  | (_, .directory) => throw .isDirectory

/-- Whether a path leads to a file. -/
def isFile (disk : Disk) (path : FilePath) : Bool :=
  match disk.find path with
  | .ok (_, .file _ _) => true
  | _ => false

/-- Whether a path leads to a directory. -/
def isDirectory (disk : Disk) (path : FilePath) : Bool :=
  match disk.find path with
  | .ok (_, .directory) => true
  | _ => false

/-- The names and content of everything below a location, with the names from
there on. -/
def below (disk : Disk) (location : Location) : List (List Char × Entry) :=
  disk.entries.entries.filterMap fun (key, entry) =>
    (Text.after? (location.key.toList ++ ['/']) key.toList).map (·, entry)

/-- The names in a directory, in order. -/
def list (disk : Disk) (path : FilePath) : Except DiskFault (List String) := do
  match ← disk.find path with
  | (location, .directory) =>
      return (disk.below location).filterMap fun (name, _) =>
        if name.contains '/' then none else some (String.ofList name)
  | (_, .file _ _) => throw .notDirectory

/-- The relative paths of all files below a location, in order. -/
def tree (disk : Disk) (location : Location) : List String :=
  (disk.below location).filterMap fun (name, entry) =>
    match entry with
    | .file _ _ => some (String.ofList name)
    | .directory => none

/-- Make the directories of a list of names that are missing, starting at a
directory. -/
def makeFrom (disk : Disk) (here : Location) : List String → Except DiskFault Unit × Disk
  | [] => (.ok (), disk)
  | name :: rest =>
      match disk.step here name with
      | .error fault => (.error fault, disk)
      | .ok next =>
          match disk.at? next with
          | some .directory => disk.makeFrom next rest
          | some (.file _ _) =>
              (.error (if rest.isEmpty then .alreadyExists else .notDirectory), disk)
          | none => (disk.set next .directory).makeFrom next rest

/-- Make a directory with all directories on the way to it.  Directories made
before a fault stay. -/
def makeDirectories (path : FilePath) : ExceptT DiskFault (StateM Disk) Unit := fun disk =>
  match refusal? path with
  | some fault => (.error fault, disk)
  | none => disk.makeFrom (disk.start path)
      ((path.pieces.filter (!List.isEmpty ·)).map String.ofList)

/-- The location that a new file takes in a directory that exists.  `kept` says
that something at the location stays. -/
def target (disk : Disk) (path : FilePath) (kept : Bool) : Except DiskFault Location := do
  let directory : FilePath := if path.endsWithSlash
    then ⟨String.ofList (Text.dropTrailing '/' path.text.toList)⟩ else path
  let location ← disk.locate directory
  match path.pieces.reverse.find? (!List.isEmpty ·) with
  | some ['.'] => throw (if kept then .alreadyExists else .busy)
  | some ['.', '.'] => throw (if kept then .alreadyExists else .busy)
  | _ =>
      match disk.at? location with
      | some entry =>
          if kept then throw .alreadyExists
          else if path.endsWithSlash then throw .notDirectory
          else if entry = .directory then throw .isDirectory
          else return location
      | none => if path.endsWithSlash then throw .notDirectory else return location

/-- Write a file in a directory that exists, in place of an old one. -/
def write (path : FilePath) (content : Bytes) (executable : Bool) :
    ExceptT DiskFault (StateM Disk) Unit := fun disk =>
  match disk.target path false with
  | .ok location => (.ok (), disk.set location (.file content executable))
  | .error fault => (.error fault, disk)

/-- Write a file in a directory that exists, unless something is there
already. -/
def writeNew (path : FilePath) (content : Bytes) : ExceptT DiskFault (StateM Disk) Unit :=
  fun disk =>
    match disk.target path true with
    | .ok location => (.ok (), disk.set location (.file content false))
    | .error fault => (.error fault, disk)

/-- Make one directory in a directory that exists. -/
def makeDirectory (path : FilePath) : ExceptT DiskFault (StateM Disk) Unit := fun disk =>
  match disk.locate path with
  | .error fault => (.error fault, disk)
  | .ok location =>
      match disk.at? location with
      | some _ => (.error .alreadyExists, disk)
      | none => (.ok (), disk.set location .directory)

/-- Remove a file, or a directory with everything in it. -/
def removeAll (path : FilePath) : ExceptT DiskFault (StateM Disk) Unit := fun disk =>
  match disk.find path with
  | .ok (location, _) =>
      let key := location.key.toList
      (.ok (), (disk.below location).foldl
        (fun disk (name, _) =>
          { disk with entries := disk.entries.erase (String.ofList (key ++ '/' :: name)) })
        { disk with entries := disk.entries.erase location.key })
  | .error fault => (.error fault, disk)

/-- Remove a file. -/
def remove (path : FilePath) : ExceptT DiskFault (StateM Disk) Unit := fun disk =>
  match disk.find path with
  | .ok (location, .file _ _) =>
      (.ok (), { disk with entries := disk.entries.erase location.key })
  | .ok (_, .directory) => (.error .isDirectory, disk)
  | .error fault => (.error fault, disk)

/-! ## Temporary files

A temporary file has a name at random, so that it is the name of nothing else.  Here it is
the first one that is not taken. -/

/-- What a text has behind its last slash. -/
def lastName (text : String) : String :=
  String.ofList (text.toList.reverse.takeWhile (· != '/')).reverse

/-- The name of a temporary file with a number. -/
def temporaryName (number : Nat) : String :=
  ".tmp" ++ String.ofList (Text.decimalPadded 6 number)

/-- The names on the disk, and those that a path has. -/
def takenNames (disk : Disk) (path : FilePath) : List String :=
  (disk.entries.entries.map (·.1) ++ disk.workingDirectory ++
    path.pieces.map String.ofList).map lastName

/-- The first name of a temporary file that is not taken.  One of the numbers up to that of
the taken names is free. -/
def unusedName (taken : List String) : String :=
  temporaryName (((List.range (taken.length + 1)).find? fun number =>
    !taken.contains (temporaryName number)).getD 0)

/-- Take away what is at a location. -/
def erase (disk : Disk) (location : Location) : Disk :=
  { disk with entries := disk.entries.erase location.key }

/-- Move what is at a location to where a path leads to, in place of a file that is there
unless that is kept. -/
def rename (source : Location) (path : FilePath) (kept : Bool) :
    ExceptT DiskFault (StateM Disk) Unit := fun disk =>
  match disk.at? source with
  | none => (.error .notFound, disk)
  | some entry =>
      match disk.target path kept with
      | .ok location => (.ok (), (disk.set location entry).erase source)
      | .error fault => (.error fault, disk)

end Disk

end CertPress
