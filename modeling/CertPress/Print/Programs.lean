import CertPress.Print.Backend
import CertPress.Print.Page
import CertPress.Process.Program
import CertPress.Text.Blank

/-!
# Installed programs

The backends that are programs of the machine.  A program counts as installed if
it can tell its version.  It gets its input from files in the directory of
temporary files, which are removed afterwards, or from its standard input.
-/

namespace CertPress.Print

open Process (Program)
open Record (RasterFormat)
open Settings (RasterOptions)

/-- A program that can serve as a backend. -/
structure Tool where
  name : String
  /-- The variable that names another file for the program. -/
  override : String
  /-- The option that makes the program print its version. -/
  versionOption : String
  deriving DecidableEq, Repr, Inhabited

namespace Tool

/-- The program for documents with modern stylesheets. -/
def weasyprint : Tool := ⟨"weasyprint", "INFODOCS_WEASYPRINT_BIN", "--version"⟩

/-- The program for documents with old stylesheets. -/
def wkhtmltopdf : Tool := ⟨"wkhtmltopdf", "INFODOCS_WKHTMLTOPDF_BIN", "--version"⟩

/-- The program for images of pages. -/
def pdftoppm : Tool := ⟨"pdftoppm", "INFODOCS_PDFTOPPM_BIN", "-v"⟩

/-- The first line of a text that is not blank, without the blanks around it;
empty if there is none. -/
def firstLine (text : List Char) : String :=
  (((Text.split '\n' text).map Text.trim).find? (!List.isEmpty ·)).elim "" String.ofList

/-- The version that a program tells; none if it does not run or reports a
failure.  A program that prints nothing may tell it among its errors. -/
def version? (tool : Tool) (program : Program) : StateM Disk (Option String) := do
  match ← (program.run [tool.versionOption] []).run with
  | .error _ => return none
  | .ok completion =>
      if !completion.succeeded then return none
      let told := if completion.output.isEmpty then completion.errors else completion.output
      return some (firstLine (Text.decodeLossy told))

/-- The program and its version, if it is installed. -/
def detect (tool : Tool) (environment : Mapping String) :
    StateM Disk (Option (Program × String)) := do
  match Program.locate environment tool.override tool.name (← get) with
  | none => return none
  | some program => return (← tool.version? program).map (program, ·)

end Tool

/-- How many bytes a program can be given without reading them. -/
def pipeCapacity : Nat := 65536

/-- Run a program as a backend, and give its output.  A status other than zero is
a fault with the error messages of the program, and so is an input that the
program leaves unread. -/
def runBackend (program : Program) (arguments : List String) (input : Bytes) :
    BackendAction Bytes := do
  match ← onDisk (program.run arguments input).run with
  | .error fault => throw (.notStarted program.path fault.message)
  | .ok completion =>
      if !completion.succeeded then
        throw (.exited (completion.status.map Int.ofNat)
          (String.ofList (Text.trim (Text.decodeLossy completion.errors))))
      if pipeCapacity < completion.unread.length then
        throw (.failed "Broken pipe (os error 32)")
      return completion.output

/-- An output that is not empty. -/
def nonemptyOutput (bytes : Bytes) : BackendAction Bytes :=
  if bytes.isEmpty then throw .emptyOutput else return bytes

/-- Use the disk in a backend. -/
def useDisk {α : Type} (action : ExceptT DiskFault (StateM Disk) α) : BackendAction α := do
  match ← onDisk action.run with
  | .ok value => return value
  | .error fault => throw (.failed fault.message)

/-- Do something and then remove a path, however it ends. -/
def removing {α : Type} (path : FilePath) (action : BackendAction α) : BackendAction α :=
  fun bench =>
    let (result, after) := action bench
    (result, { after with disk := (Disk.removeAll path after.disk).2 })

/-- The directory of temporary files. -/
def temporaryDirectory : FilePath := ⟨"/tmp"⟩

/-- The backend that reads modern stylesheets.  The fonts and the stylesheet are
in a file, the document is the input and the PDF the output. -/
def richBackend (fontDirectory : Option FilePath) (program : Program) (version : String) :
    PdfBackend where
  name := Tool.weasyprint.name
  version := some version
  render := fun html job => do
    let stylesheet := temporaryDirectory.join "infodocs-stylesheet.css"
    let fonts ← loadedFonts fontDirectory
    removing stylesheet do
      useDisk (Disk.write stylesheet (bytesOf (fonts.css ++ job.stylesheet)) false)
      let base := match job.baseUrl with
        | some address => ["--base-url", address]
        | none => []
      let arguments :=
        ["--encoding", "utf-8", "--stylesheet", stylesheet.text] ++ base ++ ["-", "-"]
      nonemptyOutput (← runBackend program arguments (bytesOf html))

/-- The backend that reads old stylesheets.  The stylesheet is part of the
document, which is the input; the PDF is the output. -/
def legacyBackend (program : Program) (version : String) : PdfBackend where
  name := Tool.wkhtmltopdf.name
  version := some version
  render := fun html job => do
    let document := withStylesheet (withoutDoctype html) job.stylesheet
    let arguments := ["--quiet", "--encoding", "utf-8"] ++ pageOptions job.pageSize job.margin ++
      ["--enable-local-file-access", "-", "-"]
    nonemptyOutput (← runBackend program arguments (bytesOf document))

/-- The option for an image format, and the extension that the program gives the
image. -/
def imageOption : RasterFormat → String × String
  | .png => ("-png", ".png")
  | .jpeg => ("-jpeg", ".jpg")

/-- The backend for images.  The PDF and the image are files. -/
def rasterBackend (program : Program) (version : String) : RasterBackend where
  name := Tool.pdftoppm.name
  version := some version
  rasterize := fun pdf options => do
    let directory := temporaryDirectory.join "infodocs-raster"
    removing directory do
      useDisk (Disk.makeDirectory directory)
      let input := directory.join "input.pdf"
      let image := directory.join "page"
      useDisk (Disk.write input pdf false)
      let (option, extension) := imageOption options.format
      let arguments :=
        [option, "-r", String.ofList (Nat.toDigits 10 options.dpi), "-f", "1", "-l", "1",
         "-singlefile", input.text, image.text]
      let _ ← runBackend program arguments []
      nonemptyOutput (← useDisk do liftM ((← get).read ⟨image.text ++ extension⟩))

/-- The backends that are installed. -/
def Capabilities.detect (environment : Mapping String) (fontDirectory : Option FilePath) :
    StateM Disk Capabilities := do
  let rich ← Tool.weasyprint.detect environment
  let legacy ← Tool.wkhtmltopdf.detect environment
  let raster ← Tool.pdftoppm.detect environment
  return {
    rich := rich.map fun (program, version) => richBackend fontDirectory program version
    legacy := legacy.map fun (program, version) => legacyBackend program version
    raster := raster.map fun (program, version) => rasterBackend program version }

end CertPress.Print
