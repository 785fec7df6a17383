import CertPress.Files.Disk
import CertPress.Net.Address
import CertPress.Settings.Render
import CertPress.Text.Blank
import CertPress.Text.Quoted

/-!
# Server configuration

The configuration of a server comes from a JSON file or from environment
variables.  A file carries the version of its shape, and a file of a newer
version than this one is refused.
-/

namespace CertPress.Settings

open Json (Value Decoder Fields)

/-- Why a configuration cannot be used. -/
inductive ConfigFault where
  | malformed
  | tooNew (version : Nat)
  | invalidVariable (name value reason : String)
  | unreadable (path : FilePath) (reason : String)
  /-- A directory is the empty path. -/
  | emptyPath
  deriving DecidableEq, Repr, Inhabited

/-- The version of the shape of configuration files. -/
def currentVersion : Nat := 1

/-- The wording of a fault. -/
def ConfigFault.message : ConfigFault → String
  | .malformed => "malformed configuration"
  | .tooNew version =>
      "config_version " ++ String.ofList (Nat.toDigits 10 version) ++
        " is newer than this build supports (" ++
        String.ofList (Nat.toDigits 10 currentVersion) ++ ")"
  | .invalidVariable name value reason =>
      "invalid " ++ name ++ " " ++ Text.Quoted.quote value ++ ": " ++ reason
  | .unreadable path reason => "failed to read config at " ++ path.text ++ ": " ++ reason
  | .emptyPath => "cannot make an empty path absolute"

/-- The configuration of a server. -/
structure ServerConfig where
  version : Nat
  bind : Net.SocketAddress
  records : FilePath
  render : RenderSettings
  deriving DecidableEq, Repr, Inhabited

namespace ServerConfig

/-- The configuration when nothing is configured. -/
def default : ServerConfig :=
  ⟨currentVersion, .anywhere 8000, ⟨"records"⟩, RenderSettings.default⟩

/-- Read the version of a configuration. -/
def versionDecoder : Decoder Nat := Decoder.natBelow (Nat.pow 2 32)

/-- Read a socket address. -/
def bindDecoder : Decoder Net.SocketAddress := Decoder.textOfForm Net.SocketAddress.ofText?

/-- The fields of a configuration. -/
def fields : List (String × Json.Check) :=
  [("config_version", versionDecoder.check), ("bind", bindDecoder.check),
   ("records_dir", pathDecoder.check), ("render", RenderSettings.decoder.check)]

/-- Read a configuration; every field may be left out. -/
def decoder : Decoder ServerConfig := fun depth raw => do
  let fields ← Fields.ofRaw fields depth raw
  return {
    version := ← fields.withDefault "config_version" default.version versionDecoder
    bind := ← fields.withDefault "bind" default.bind bindDecoder
    records := ← fields.withDefault "records_dir" default.records pathDecoder
    render := ← fields.withDefault "render" default.render RenderSettings.decoder }

/-- The record of a configuration. -/
def toValue (config : ServerConfig) : Value :=
  .object
    [("config_version", .ofNat config.version), ("bind", .string config.bind.text),
     ("records_dir", .string config.records.text), ("render", config.render.toValue)]

/-- The version that a configuration states; zero if it states none. -/
def statedVersion (json : Value) : Nat :=
  match json.member? "config_version" with
  | some (.number (.integer version)) => version.toNat
  | _ => 0

/-- The configuration of a JSON text, brought to the current version. -/
def ofJson (text : String) : Except ConfigFault ServerConfig :=
  match Json.read text with
  | .error _ => .error .malformed
  | .ok json =>
      if currentVersion < statedVersion json then .error (.tooNew (statedVersion json))
      else match decoder.ofValue json with
        | .ok config => .ok { config with version := currentVersion }
        | .error _ => .error .malformed

/-- The configuration in a file. -/
def ofFile (path : FilePath) (disk : Disk) : Except ConfigFault ServerConfig :=
  match disk.read path with
  | .error fault => .error (.unreadable path fault.message)
  | .ok content =>
      match stringOf? content with
      | some text => ofJson text
      | none => .error (.unreadable path "stream did not contain valid UTF-8")

/-- The value of a variable, unless it is blank. -/
def given? (environment : Mapping String) (name : String) : Option String :=
  (environment.get? name).filter fun value => !Text.blank value

/-- The directory that a variable names, or another one. -/
def directory (environment : Mapping String) (name : String) (otherwise : FilePath) : FilePath :=
  match given? environment name with
  | some path => ⟨path⟩
  | none => otherwise

/-- The address that a variable gives to listen at. -/
def bindOf (environment : Mapping String) : Except ConfigFault Net.SocketAddress :=
  match given? environment "INFODOCS_BIND" with
  | none => .ok default.bind
  | some value =>
      match Net.SocketAddress.ofText? value with
      | some address => .ok address
      | none => .error (.invalidVariable "INFODOCS_BIND" value "invalid socket address syntax")

/-- The resolution that a variable gives. -/
def dpiOf (environment : Mapping String) : Except ConfigFault Nat :=
  match given? environment "INFODOCS_RASTER_DPI" with
  | none => .ok RasterOptions.default.dpi
  | some value =>
      match Text.unsigned RasterOptions.dpiBound value.toList with
      | .ok dpi => .ok dpi
      | .error fault => .error (.invalidVariable "INFODOCS_RASTER_DPI" value fault.message)

/-- The configuration of environment variables.  A variable that is not set or
blank leaves its default. -/
def ofVariables (environment : Mapping String) : Except ConfigFault ServerConfig := do
  let bind ← bindOf environment
  let dpi ← dpiOf environment
  let render := RenderSettings.default
  let roots := render.assetRoots
  return {
    default with
    bind
    records := directory environment "INFODOCS_RECORDS_DIR" default.records
    render := {
      render with
      publicAddress := (given? environment "INFODOCS_BASE_URL").getD render.publicAddress
      assetRoots := {
        primary := { roots.primary with
          directory := directory environment "INFODOCS_MEDIA_DIR" roots.primary.directory }
        legacy := { roots.legacy with
          directory := directory environment "INFODOCS_UPLOADS_DIR" roots.legacy.directory } }
      staticDirectory := directory environment "INFODOCS_STATIC_DIR" render.staticDirectory
      fontsDirectory := (given? environment "INFODOCS_FONTS_DIR").map FilePath.mk
      raster := { render.raster with dpi } } }

/-- The configuration with absolute directories, seen from a directory. -/
def absolute (config : ServerConfig) (workingDirectory : FilePath) :
    Except ConfigFault ServerConfig :=
  match config.records.absolute? workingDirectory, config.render.absolute? workingDirectory with
  | some records, some render => .ok { config with records, render }
  | _, _ => .error .emptyPath

/-- The configuration of a server that starts in a directory: the file that a
variable names, or the variables themselves. -/
def load (environment : Mapping String) (workingDirectory : FilePath) (disk : Disk) :
    Except ConfigFault ServerConfig := do
  let config ← match environment.get? "INFODOCS_CONFIG" with
    | some path => ofFile ⟨path⟩ disk
    | none => ofVariables environment
  config.absolute workingDirectory

end ServerConfig

end CertPress.Settings
