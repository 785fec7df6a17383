import CertPress.Print.Fonts
import CertPress.Settings.Render

/-!
# Backends

The programs that turn a document into a PDF and a PDF into an image.  A backend
works on the disk and answers with bytes or with the reason why it failed.  It
looks for fonts once and keeps them for the documents that follow.
-/

namespace CertPress.Print

open Json (Value)
open Settings (RasterOptions)

/-- Why a backend failed. -/
inductive BackendFault where
  | notStarted (program : FilePath) (reason : String)
  /-- The program ended with a status, or by a signal without one. -/
  | exited (status : Option Int) (errors : String)
  | emptyOutput
  | failed (reason : String)
  /-- The backend broke down and took its worker with it. -/
  | crashed
  deriving DecidableEq, Repr, Inhabited

/-- The wording of an exit status. -/
def statusText : Option Int → String
  | none => "None"
  | some (.ofNat status) => "Some(" ++ String.ofList (Nat.toDigits 10 status) ++ ")"
  | some (.negSucc status) => "Some(-" ++ String.ofList (Nat.toDigits 10 (status + 1)) ++ ")"

/-- The wording of a fault. -/
def BackendFault.message : BackendFault → String
  | .notStarted program reason => "failed to start " ++ program.text ++ ": " ++ reason
  | .exited status errors => "exited with status " ++ statusText status ++ ": " ++ errors
  | .emptyOutput => "produced no output"
  | .failed reason => "I/O error: " ++ reason
  | .crashed => "crashed"

/-- What every PDF backend is given besides the document. -/
structure PdfJob where
  stylesheet : String
  /-- The address against which relative references are read. -/
  baseUrl : Option String
  pageSize : String
  margin : String
  deriving DecidableEq, Repr, Inhabited

/-- What backends work with. -/
structure Workbench where
  disk : Disk
  /-- The fonts, once a backend has looked for them. -/
  fonts : Option Fonts
  deriving Inhabited

/-- The work of a backend. -/
abbrev BackendAction (α : Type) := ExceptT BackendFault (StateM Workbench) α

/-- Work that only needs the disk. -/
def onDisk {α : Type} (action : StateM Disk α) : BackendAction α := fun bench =>
  let (value, disk) := action bench.disk
  (.ok value, { bench with disk })

/-- The fonts of a directory as they were when they were first asked for. -/
def loadedFonts (directory : Option FilePath) : BackendAction Fonts := fun bench =>
  let fonts := bench.fonts.getD (Fonts.load directory bench.disk)
  (.ok fonts, { bench with fonts := some fonts })

/-- A backend that makes a PDF of a document. -/
structure PdfBackend where
  name : String
  version : Option String
  render : (html : String) → PdfJob → BackendAction Bytes
  deriving Inhabited

/-- A backend that makes an image of the first page of a PDF. -/
structure RasterBackend where
  name : String
  version : Option String
  rasterize : (pdf : Bytes) → RasterOptions → BackendAction Bytes
  deriving Inhabited

/-- The backends at hand.  The rich one reads modern stylesheets; the legacy one
takes its place where it is missing. -/
structure Capabilities where
  rich : Option PdfBackend
  legacy : Option PdfBackend
  raster : Option RasterBackend
  deriving Inhabited

namespace Capabilities

/-- The PDF backend of every render. -/
def pdfBackend? (capabilities : Capabilities) : Option PdfBackend :=
  capabilities.rich <|> capabilities.legacy

/-- The report on one backend. -/
def status (backend : Option (String × Option String)) : Value :=
  .object
    [("name", .ofText? (backend.map (·.1))), ("available", .bool backend.isSome),
     ("version", .ofText? (backend.bind (·.2)))]

/-- The name and version of a PDF backend. -/
def pdfReport (backend : Option PdfBackend) : Option (String × Option String) :=
  backend.map fun backend => (backend.name, backend.version)

/-- The report on all backends. -/
def summary (capabilities : Capabilities) : Value :=
  let recommended := capabilities.pdfBackend?.map PdfBackend.name
  .object
    [("rich", status (pdfReport capabilities.rich)),
     ("legacy", status (pdfReport capabilities.legacy)),
     ("raster", status (capabilities.raster.map fun backend => (backend.name, backend.version))),
     ("recommended", .ofText? recommended),
     ("status", .string (if recommended.isSome then "ready" else "no_library"))]

end Capabilities

end CertPress.Print
