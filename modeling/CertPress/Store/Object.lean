import CertPress.Files.Disk

/-!
# Objects

A store keeps objects under keys in a directory.  A key is a relative path that
never leaves the directory.  An object is written as a whole: the directories on
the way are made first, its content goes to a temporary file beside it, and that file
takes its name.  So a reader sees the old object or the new one.
-/

namespace CertPress

/-- Why an operation on a store fails. -/
inductive StoreFault where
  | notFound (key : String)
  | invalidKey (key : String)
  | disk (path : FilePath) (fault : DiskFault)
  /-- A record is no JSON or has another shape. -/
  | malformed
  deriving DecidableEq, Repr, Inhabited

/-- The wording of a fault. -/
def StoreFault.message : StoreFault → String
  | .notFound key => "object not found: " ++ key
  | .invalidKey key => "invalid object key: " ++ key
  | .disk path fault => "I/O error at " ++ path.text ++ ": " ++ fault.message
  | .malformed => "serialization error"

/-- An operation that works on the disk. -/
abbrev StoreAction (α : Type) := ExceptT StoreFault (StateM Disk) α

namespace Store

/-- The path of a key below a root.  A key that is empty, absolute or goes up
is refused. -/
def objectPath (root : FilePath) (key : String) : Except StoreFault FilePath :=
  if key ≠ "" ∧ (⟨key⟩ : FilePath).isInner then .ok (root.join key)
  else .error (.invalidKey key)

/-- The content of an object. -/
def read (root : FilePath) (key : String) (disk : Disk) : Except StoreFault Bytes := do
  let path ← objectPath root key
  match disk.read path with
  | .ok content => return content
  | .error .notFound => throw (.notFound key)
  | .error fault => throw (.disk path fault)

/-- Whether a key names an object. -/
def contains (root : FilePath) (key : String) (disk : Disk) : Bool :=
  match objectPath root key with
  | .ok path => disk.isFile path
  | .error _ => false

/-- Make the directory in which an object lies. -/
def prepare (path : FilePath) : StoreAction Unit := fun disk =>
  let parent := path.parent?.getD ⟨""⟩
  match Disk.makeDirectories parent disk with
  | (.ok (), made) => (.ok (), made)
  | (.error fault, made) => (.error (.disk parent fault), made)

/-- Write the content of an object to a temporary file beside it, in a directory that is
made first. -/
def stage (path : FilePath) (content : Bytes) : StoreAction Location := do
  prepare path
  fun disk =>
    let directory :=
      (disk.locate (path.parent?.getD ⟨""⟩)).toOption.getD disk.workingDirectory
    let staged := directory ++ [Disk.unusedName (disk.takenNames path)]
    (.ok staged, disk.set staged (.file content false))

/-- Write an object in place of an old one.  A temporary file that cannot take its place is
removed. -/
def put (root : FilePath) (key : String) (content : Bytes) : StoreAction Unit := do
  let path ← objectPath root key
  let staged ← stage path content
  fun disk => match Disk.rename staged path false disk with
    | (.ok (), written) => (.ok (), written)
    | (.error fault, same) => (.error (.disk path fault), same.erase staged)

/-- Write an object unless its key is taken, and tell whether it was
written. -/
def putIfAbsent (root : FilePath) (key : String) (content : Bytes) : StoreAction Bool := do
  let path ← objectPath root key
  let staged ← stage path content
  fun disk => match Disk.rename staged path true disk with
    | (.ok (), written) => (.ok true, written)
    | (.error .alreadyExists, same) => (.ok false, same.erase staged)
    | (.error fault, same) => (.error (.disk path fault), same.erase staged)

/-- The keys of the objects directly below a start of keys, in order.  A
missing directory has none. -/
def list (root : FilePath) (start : String) (disk : Disk) : Except StoreFault (List String) := do
  let directory := Text.withoutTrailing '/' start
  let path ← objectPath root directory
  match disk.list path with
  | .ok names =>
      return (names.filter fun name => disk.isFile (path.join name)).map fun name =>
        directory ++ "/" ++ name
  | .error .notFound => return []
  | .error fault => throw (.disk path fault)

end Store

end CertPress
