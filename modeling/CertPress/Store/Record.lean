import CertPress.Json.Decoder
import CertPress.Record.Key
import CertPress.Sha256
import CertPress.Store.Object

/-!
# Stored records and images

A record is an object with the indented JSON of a value.  A directory of records
is read leniently: an unreadable record does not hide the others.

An image is stored under a name that comes from its document, its kind and its
bytes, so that storing it again changes nothing.  An artifact takes the place of
the artifact that was rendered before it.
-/

namespace CertPress.Store

/-! ## Stored records -/

open Json (Value Decoder)

/-- Write a record in place of an old one. -/
def saveRecord (root : FilePath) (key : String) (record : Value) : StoreAction Unit :=
  put root key (bytesOf record.pretty)

/-- Read a record. -/
def loadRecord {α : Type} (decoder : Decoder α) (root : FilePath) (key : String) (disk : Disk) :
    Except StoreFault α := do
  let content ← Store.read root key disk
  match decoder.readBytes content with
  | .ok record => return record
  | .error _ => throw .malformed

/-- Read the records with the ending `.json` directly below a start of keys,
without those that cannot be read. -/
def listRecords {α : Type} (decoder : Decoder α) (root : FilePath) (start : String)
    (disk : Disk) : Except StoreFault (List α) := do
  let keys ← Store.list root start disk
  return (keys.filter (String.endsWith · ".json")).filterMap fun key =>
    match loadRecord decoder root key disk with
    | .ok record => some record
    | .error _ => none

/-! ## Stored images and artifacts -/

open Record

/-- The start of the digest that names an image. -/
def shortDigest (content : Bytes) : String :=
  String.ofList ((Sha256.hexDigest content).take 16)

/-- Store an image of a document and return its key. -/
def saveImage (root : FilePath) (content : Bytes) (document : Uuid) (kind extension : String) :
    StoreAction String := do
  let key := Key.asset document kind (shortDigest content) extension
  if contains root key (← get) then return key
  let _ ← putIfAbsent root key content
  return key

/-- Store a rendered artifact of a document and return its key. -/
def saveArtifact (root : FilePath) (content : Bytes) (document : Uuid) (extension : String) :
    StoreAction String := do
  let key := Key.artifact document extension
  put root key content
  return key

end CertPress.Store
