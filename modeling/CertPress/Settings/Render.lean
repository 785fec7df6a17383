import CertPress.Files.Path
import CertPress.Print.Styles
import CertPress.Record.Artifact
import CertPress.Text.Pieces

/-!
# Render settings

What a render needs to know about its surroundings: the public address of the
service, the directories with images and the paths under which they are served,
the resolution of images, and the print styles.
-/

namespace CertPress.Settings

open Json (Value Decoder Fields)
open Record (RasterFormat)

/-- Read a file path. -/
def pathDecoder : Decoder FilePath := fun depth raw => (Decoder.text depth raw).map FilePath.mk

/-- A directory of stored images and the path under which it is served. -/
structure AssetRoot where
  directory : FilePath
  mountPath : String
  deriving DecidableEq, Repr, Inhabited

namespace AssetRoot

/-- The path under which the root is served, without slashes around it. -/
def mount (root : AssetRoot) : String := Text.withoutSurrounding '/' root.mountPath

/-- The fields of a root. -/
def fields : List (String × Json.Check) :=
  [("dir", pathDecoder.check), ("mount", Decoder.text.check)]

/-- Read a root. -/
def decoder : Decoder AssetRoot := fun depth raw => do
  let fields ← Fields.ofRaw fields depth raw
  return ⟨← fields.required "dir" pathDecoder, ← fields.required "mount" Decoder.text⟩

/-- The record of a root. -/
def toValue (root : AssetRoot) : Value :=
  .object [("dir", .string root.directory.text), ("mount", .string root.mountPath)]

end AssetRoot

/-- The roots of stored images.  New images go to the primary root; the legacy
root holds older ones. -/
structure AssetRoots where
  primary : AssetRoot
  legacy : AssetRoot
  deriving DecidableEq, Repr, Inhabited

namespace AssetRoots

/-- The roots when none are configured. -/
def default : AssetRoots := ⟨⟨⟨"media"⟩, "media"⟩, ⟨⟨"uploads"⟩, "uploads"⟩⟩

/-- The roots in the order in which images are looked for. -/
def inOrder (roots : AssetRoots) : List AssetRoot := [roots.primary, roots.legacy]

/-- The fields of the roots. -/
def fields : List (String × Json.Check) :=
  [("primary", AssetRoot.decoder.check), ("legacy", AssetRoot.decoder.check)]

/-- Read the roots. -/
def decoder : Decoder AssetRoots := fun depth raw => do
  let fields ← Fields.ofRaw fields depth raw
  return ⟨← fields.required "primary" AssetRoot.decoder,
    ← fields.required "legacy" AssetRoot.decoder⟩

/-- The record of the roots. -/
def toValue (roots : AssetRoots) : Value :=
  .object [("primary", roots.primary.toValue), ("legacy", roots.legacy.toValue)]

end AssetRoots

/-- How the image of a page is made. -/
structure RasterOptions where
  dpi : Nat
  format : RasterFormat
  deriving DecidableEq, Repr, Inhabited

namespace RasterOptions

/-- The options when none are configured. -/
def default : RasterOptions := ⟨150, .png⟩

/-- The bound of a resolution. -/
def dpiBound : Nat := Nat.pow 2 32

/-- The fields of the options. -/
def fields : List (String × Json.Check) :=
  [("dpi", (Decoder.natBelow dpiBound).check), ("format", RasterFormat.decoder.check)]

/-- Read options; every field may be left out. -/
def decoder : Decoder RasterOptions := fun depth raw => do
  let fields ← Fields.ofRaw fields depth raw
  return ⟨← fields.withDefault "dpi" default.dpi (Decoder.natBelow dpiBound),
    ← fields.withDefault "format" default.format RasterFormat.decoder⟩

/-- The record of the options. -/
def toValue (options : RasterOptions) : Value :=
  .object [("dpi", .ofNat options.dpi), ("format", .string options.format.artifact.tag)]

end RasterOptions

/-- The surroundings of a render. -/
structure RenderSettings where
  publicAddress : String
  assetRoots : AssetRoots
  staticDirectory : FilePath
  staticMount : String
  fontsDirectory : Option FilePath
  raster : RasterOptions
  styles : Print.Styles
  deriving DecidableEq, Repr, Inhabited

namespace RenderSettings

/-- The settings when none are configured. -/
def default : RenderSettings :=
  ⟨"http://localhost:8000", AssetRoots.default, ⟨"static"⟩, "static", none, RasterOptions.default,
    Print.Styles.default⟩

/-- The public address of the service without slashes at its end. -/
def baseUrl (settings : RenderSettings) : String :=
  Text.withoutTrailing '/' settings.publicAddress

/-- The settings with absolute directories, seen from a directory.  An empty
directory has no absolute form. -/
def absolute? (workingDirectory : FilePath) (settings : RenderSettings) :
    Option RenderSettings := do
  let roots := settings.assetRoots
  let primary ← roots.primary.directory.absolute? workingDirectory
  let legacy ← roots.legacy.directory.absolute? workingDirectory
  let staticDirectory ← settings.staticDirectory.absolute? workingDirectory
  let fontsDirectory ← settings.fontsDirectory.mapM (·.absolute? workingDirectory)
  return { settings with
    assetRoots := ⟨{ roots.primary with directory := primary },
      { roots.legacy with directory := legacy }⟩
    staticDirectory, fontsDirectory }

/-- The fields of the settings. -/
def fields : List (String × Json.Check) :=
  [("base_url", Decoder.text.check), ("asset_roots", AssetRoots.decoder.check),
   ("static_dir", pathDecoder.check), ("static_mount", Decoder.text.check),
   ("fonts_dir", pathDecoder.optional.check), ("raster", RasterOptions.decoder.check),
   ("styles", Print.Styles.decoder.check)]

/-- Read settings; every field may be left out. -/
def decoder : Decoder RenderSettings := fun depth raw => do
  let fields ← Fields.ofRaw fields depth raw
  return {
    publicAddress := ← fields.withDefault "base_url" default.publicAddress Decoder.text
    assetRoots := ← fields.withDefault "asset_roots" default.assetRoots AssetRoots.decoder
    staticDirectory := ← fields.withDefault "static_dir" default.staticDirectory pathDecoder
    staticMount := ← fields.withDefault "static_mount" default.staticMount Decoder.text
    fontsDirectory := ← fields.withDefault "fonts_dir" none pathDecoder.optional
    raster := ← fields.withDefault "raster" default.raster RasterOptions.decoder
    styles := ← fields.withDefault "styles" default.styles Print.Styles.decoder }

/-- The record of the settings. -/
def toValue (settings : RenderSettings) : Value :=
  .object
    [("base_url", .string settings.publicAddress), ("asset_roots", settings.assetRoots.toValue),
     ("static_dir", .string settings.staticDirectory.text),
     ("static_mount", .string settings.staticMount),
     ("fonts_dir", .ofText? (settings.fontsDirectory.map FilePath.text)),
     ("raster", settings.raster.toValue), ("styles", settings.styles.toValue)]

end RenderSettings

end CertPress.Settings
