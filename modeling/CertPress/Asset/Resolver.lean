import CertPress.Asset.Reference
import CertPress.Settings.Render
import CertPress.Store.Record
import CertPress.Url.Path
import CertPress.Url.Read

/-!
# Resolving references

The same image has a web address for a browser, which shows a preview, and a
file address for a program that makes the final PDF.  A reference that cannot be
resolved is noted as a warning and never stops a render: the result is then
empty or the best guess.
-/

namespace CertPress.Asset

open Record (RenderMode)
open Settings (AssetRoot RenderSettings)

/-- A reference that was not resolved as it should be. -/
structure Warning where
  field : String
  reference : String
  reason : String
  deriving DecidableEq, Repr, Inhabited

/-- The characters of a reference that a warning shows. -/
def Warning.shownLength : Nat := 64

/-- The warning for a field.  Only the start of a long reference is kept. -/
def Warning.of (field reference reason : String) : Warning :=
  ⟨field, String.ofList (reference.toList.take shownLength), reason⟩

/-- An embedded image that was stored below the primary root. -/
structure StoredImage where
  field : String
  path : String
  deriving DecidableEq, Repr, Inhabited

/-- What the references of one render are resolved for: its settings, its mode,
and the owner of the images that it stores. -/
structure Resolver where
  settings : RenderSettings
  mode : RenderMode
  owner : Uuid
  deriving Inhabited

/-- The disk, and what has been noted about the references so far. -/
structure Progress where
  disk : Disk
  warnings : List Warning
  stored : List StoredImage
  deriving Inhabited

/-- The state before the first reference. -/
def Progress.start (disk : Disk) : Progress := ⟨disk, [], []⟩

/-- Note a warning. -/
def Progress.warn (progress : Progress) (field reference reason : String) : Progress :=
  { progress with warnings := progress.warnings ++ [Warning.of field reference reason] }

namespace Resolver

/-- The roots in the order in which images are looked for. -/
def roots (resolver : Resolver) : List AssetRoot := resolver.settings.assetRoots.inOrder

/-- The directory to which images are written. -/
def storeRoot (resolver : Resolver) : FilePath :=
  resolver.settings.assetRoots.primary.directory

/-- The web address of a path below a mount.  Each segment is encoded, unless
the public address is no address at all. -/
def webAddress (settings : RenderSettings) (mount relative : String) : String :=
  let segments := (Text.split '/' mount.toList ++ Text.split '/' relative.toList).filter
    (!List.isEmpty ·)
  match Url.ofText? settings.baseUrl with
  | some url => (url.extend segments).text
  | none => settings.baseUrl ++ "/" ++ String.ofList (Text.join '/' segments)

/-- The address of a file below the static directory. -/
def staticFile (resolver : Resolver) (path : String) : String :=
  let relative := Text.withoutLeading '/' path
  match resolver.mode with
  | .preview => webAddress resolver.settings resolver.settings.staticMount relative
  | .final => ((resolver.settings.staticDirectory.join relative).fileUrl?).getD ""

/-- The address of the static directory, without slashes at its end. -/
def staticBase (resolver : Resolver) : String :=
  Text.withoutTrailing '/' <| match resolver.mode with
    | .preview => webAddress resolver.settings resolver.settings.staticMount ""
    | .final => (resolver.settings.staticDirectory.fileUrl?).getD ""

/-- A path after a mount and a slash, if it starts with them. -/
def belowMount? (mount : String) (path : String) : Option String :=
  (Text.after? (mount.toList ++ ['/']) path.toList).map String.ofList

/-- A stored path without leading slashes and without the mount of a root, so
that the path of an address and the path below the root name one image. -/
def withoutMount (roots : List AssetRoot) (path : String) : String :=
  let relative := Text.withoutLeading '/' (Text.trimmed path)
  (roots.findSome? fun root => belowMount? root.mount relative).getD relative

/-- The address of a stored image.  It is looked for below all roots, and taken
to be below the primary one if it is nowhere. -/
def resolveStored (resolver : Resolver) (field path : String) (progress : Progress) :
    String × Progress :=
  let relative := withoutMount resolver.roots path
  let found := resolver.roots.find? fun root =>
    Store.contains root.directory relative progress.disk
  let noted := if found.isSome then progress
    else progress.warn field path "asset not found under any asset root"
  let root := found.getD resolver.settings.assetRoots.primary
  match resolver.mode with
  | .preview => (webAddress resolver.settings root.mount relative, noted)
  | .final =>
      match (root.directory.join relative).fileUrl? with
      | some address => (address, noted)
      | none => ("", noted.warn field path "asset root is not an absolute directory")

/-- Store an embedded image below the primary root and give the address of its
file. -/
def resolveEmbedded (resolver : Resolver) (field address : String) (progress : Progress) :
    String × Progress :=
  match Payload.ofUrl? address with
  | none => ("", progress.warn field address "embedded payload could not be decoded")
  | some payload =>
      match Store.saveImage resolver.storeRoot payload.content resolver.owner field
          payload.extension progress.disk with
      | (.ok path, disk) =>
          let (result, noted) := resolver.resolveStored field path { progress with disk }
          (result, { noted with stored := noted.stored ++ [⟨field, path⟩] })
      | (.error fault, disk) =>
          ("", { progress with disk }.warn field address
            ("embedded payload could not be stored: " ++ fault.message))

/-- The decoded path that one of our own addresses serves, seen from the public
address; none for an address of another server. -/
def servedPath? (settings : RenderSettings) (address : String) : Option String := do
  let url ← Url.ofText? address
  let base ← Url.ofText? settings.baseUrl
  if !url.sameOrigin base then none
  let path := Text.decodeLossy (Text.Percent.decode url.path.chars)
  let served ← Text.after? (Text.dropTrailing '/' base.path.chars) path
  return String.ofList (Text.dropLeading '/' served)

/-- The file address of one of our own web addresses.  Addresses of other
servers, and our own outside the mounts, are left alone. -/
def localize (resolver : Resolver) (field address : String) (progress : Progress) :
    String × Progress :=
  match servedPath? resolver.settings address with
  | none => (address, progress)
  | some served =>
      match belowMount? (Text.withoutSurrounding '/' resolver.settings.staticMount) served with
      | some relative => (resolver.staticFile relative, progress)
      | none =>
          if resolver.roots.any fun root => (belowMount? root.mount served).isSome then
            resolver.resolveStored field served progress
          else (address, progress)

/-- The address of the image that the value of a field refers to. -/
def resolve (resolver : Resolver) (field reference : String) (progress : Progress) :
    String × Progress :=
  if Text.blank reference then ("", progress)
  else match Reference.classify reference, resolver.mode with
    | .stored path, _ => resolver.resolveStored field path progress
    | .embedded address, .final => resolver.resolveEmbedded field address progress
    | .external address, .final => resolver.localize field address progress
    | .ephemeral address, .final =>
        ("", progress.warn field address
          "browser-local reference cannot be used in a final render")
    | other, .preview => (other.text, progress)

end Resolver

end CertPress.Asset
