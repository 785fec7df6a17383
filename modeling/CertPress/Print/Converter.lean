import CertPress.Print.Backend
import CertPress.Store.Object
import CertPress.Uuid

/-!
# Converting documents

One PDF backend serves all renders: the rich one if it is there, else the legacy
one.  A backend that fails is not replaced by the other.  An image is made of
the first page of a PDF, and no PDF is made for an image that nobody can make.
-/

namespace CertPress

/-- Why a render fails. -/
inductive ExportFault where
  | configuration (reason : String)
  | content (reason : String)
  | render (backend reason : String)
  | templateNotFound (id : Uuid)
  /-- The worker that rendered was lost. -/
  | worker
  | storage (fault : StoreFault)
  deriving DecidableEq, Repr, Inhabited

/-- The wording of a fault. -/
def ExportFault.message : ExportFault → String
  | .configuration reason => "configuration error: " ++ reason
  | .content reason => "content error: " ++ reason
  | .render backend reason => backend ++ " failed: " ++ reason
  | .templateNotFound id => "template not found: " ++ id.text
  | .worker => "render worker failed"
  | .storage fault => "storage error: " ++ fault.message

namespace Print

open Settings (RasterOptions)

/-- How often each backend has been called. -/
structure Calls where
  rich : Nat
  legacy : Nat
  raster : Nat
  deriving DecidableEq, Repr, Inhabited

/-- The disk, the fonts that backends have found, and the calls that have been
made. -/
structure Machine where
  disk : Disk
  fonts : Option Fonts
  calls : Calls
  deriving Inhabited

/-- A machine that has called no backend. -/
def Machine.start (disk : Disk) : Machine := ⟨disk, none, ⟨0, 0, 0⟩⟩

/-- The work of a render. -/
abbrev RenderAction (α : Type) := ExceptT ExportFault (StateM Machine) α

/-- A backend's fault as a fault of the render. -/
def renderFault (backend : String) : BackendFault → ExportFault
  | .crashed => .worker
  | fault => .render backend fault.message

/-- Let a backend work on the machine. -/
def callBackend {α : Type} (name : String) (action : BackendAction α) : RenderAction α :=
  fun machine =>
    let (result, bench) := action ⟨machine.disk, machine.fonts⟩
    (result.mapError (renderFault name),
      { machine with disk := bench.disk, fonts := bench.fonts })

/-- Note something about the calls. -/
def countCall (count : Calls → Calls) : RenderAction Unit := fun machine =>
  (.ok (), { machine with calls := count machine.calls })

/-- Backends with the page setup of their jobs. -/
structure Converter where
  capabilities : Capabilities
  stylesheet : String
  baseUrl : Option String
  pageSize : String
  margin : String
  deriving Inhabited

namespace Converter

/-- A converter for the default page. -/
def ofStylesheet (capabilities : Capabilities) (stylesheet : String) : Converter :=
  ⟨capabilities, stylesheet, none, "A4", "0"⟩

/-- What every PDF backend is given. -/
def job (converter : Converter) : PdfJob :=
  ⟨converter.stylesheet, converter.baseUrl, converter.pageSize, converter.margin⟩

/-- The fault of a machine without a raster backend. -/
def noRaster : ExportFault := .configuration "no PDF to image converter available"

/-- The PDF of a document. -/
def toPdf (converter : Converter) (html : String) : RenderAction Bytes := do
  match converter.capabilities.pdfBackend? with
  | none => throw (.configuration "no PDF backend available")
  | some backend =>
      countCall fun calls =>
        if converter.capabilities.rich.isSome then { calls with rich := calls.rich + 1 }
        else { calls with legacy := calls.legacy + 1 }
      callBackend backend.name (backend.render html converter.job)

/-- The image of the first page of a PDF. -/
def pdfToImage (converter : Converter) (pdf : Bytes) (options : RasterOptions) :
    RenderAction Bytes := do
  match converter.capabilities.raster with
  | none => throw noRaster
  | some backend =>
      countCall fun calls => { calls with raster := calls.raster + 1 }
      callBackend backend.name (backend.rasterize pdf options)

/-- The image of the first page of a document. -/
def toImage (converter : Converter) (html : String) (options : RasterOptions) :
    RenderAction Bytes := do
  if converter.capabilities.raster.isNone then throw noRaster
  let pdf ← converter.toPdf html
  converter.pdfToImage pdf options

end Converter

end Print

end CertPress
