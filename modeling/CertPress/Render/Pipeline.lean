import CertPress.Asset.Resolver
import CertPress.Context.Normalize
import CertPress.Markup.Render
import CertPress.Print.Converter

/-!
# Rendering a document

A render normalizes the data of a document, resolves the images in it, fills in
the template, and for a final render converts the result.
-/

namespace CertPress.Render

open Json (Value Object)
open Record (Authoritative RenderMode Template)
open Settings (RenderSettings)
open Asset (Progress Resolver StoredImage Warning)
open Print (Capabilities Converter RenderAction)

/-- The decorative images with their files below the static directory. -/
def decorations : List (String × String) :=
  [("certificate_background_image", "images/certificate-background.png"),
   ("certificate_stamp_image", "images/certificate-stamp.png"),
   ("certificate_signatory_image", "images/certificate-signatory.png"),
   ("default_signature_image", "images/default-signature.png")]

/-- What a render is asked for. -/
structure Job where
  template : Template
  data : Object
  facts : Authoritative
  /-- The owner of images stored by the render. -/
  owner : Uuid
  deriving Inhabited

/-- Data that is ready to be filled into a template, and what was noted while
its images were resolved. -/
structure BuiltContext where
  source : String
  context : Object
  warnings : List Warning
  stored : List StoredImage
  deriving Inhabited

/-- The source of a template that can be rendered. -/
def source? (template : Template) : Except ExportFault String :=
  match template.kind, template.html with
  | .html, some source => .ok source
  | .html, none =>
      .error (.content ("template " ++ template.id.text ++ " has no HTML source"))
  | .image, _ =>
      .error (.content ("template " ++ template.id.text ++
        " is an image template and cannot be rendered as HTML"))

/-- The address of the decorative image of a field; empty for other fields. -/
def decoration (resolver : Resolver) (field : String) : String :=
  match valueAt? field decorations with
  | some path => resolver.staticFile path
  | none => ""

/-- Resolve the image of a field.  A field without a reference has its
decorative image. -/
def resolveField (resolver : Resolver) (state : Object × Progress) (field : String) :
    Object × Progress :=
  let (context, progress) := state
  let reference := ((context.get? field).bind Value.string?).getD ""
  let (address, noted) :=
    if Text.blank reference then (decoration resolver field, progress)
    else resolver.resolve field reference progress
  (context.insert field (.string address), noted)

/-- Fill in the decorative images of fields that do not hold. -/
def addDecorations (resolver : Resolver) (context : Object) : Object :=
  decorations.foldl
    (fun context (field, _) =>
      if (context.get? field).any Markup.holds then context
      else context.insert field (.string (decoration resolver field)))
    context

/-- Put the resolved logo into the block of the organization, if that has
one. -/
def shareLogo (context : Object) : Object :=
  let logo := (context.get? "spa_logo").getD .null
  match context.get? "spa" with
  | some (.object members) =>
      if (valueAt? "logo" members).isSome then
        context.insert "spa" (.object (insertEntry "logo" logo members))
      else context
  | _ => context

/-- Add what a template can see of the render itself. -/
def addSurroundings (resolver : Resolver) (template : Template) (context : Object) : Object :=
  ((context.insert "static_base_url" (.string resolver.staticBase)).insert
    "mode" (.string resolver.mode.tag)).insert "config" (.ofObject template.config)

/-- Build the data for a template that can be rendered. -/
def buildFrom (settings : RenderSettings) (job : Job) (mode : RenderMode) (disk : Disk) :
    Object × Progress :=
  let resolver : Resolver := ⟨settings, mode, job.owner⟩
  let normalized := Context.normalize job.template.category job.data job.facts
  let (resolved, progress) := job.template.category.assetFields.foldl (resolveField resolver)
    (normalized, Progress.start disk)
  (addSurroundings resolver job.template (shareLogo (addDecorations resolver resolved)), progress)

/-- Build the data of a job. -/
def buildContext (settings : RenderSettings) (job : Job) (mode : RenderMode) :
    RenderAction BuiltContext := fun machine =>
  match source? job.template with
  | .error fault => (.error fault, machine)
  | .ok source =>
      let (context, progress) := buildFrom settings job mode machine.disk
      (.ok ⟨source, context, progress.warnings, progress.stored⟩,
        { machine with disk := progress.disk })

/-- Fill the data into the template. -/
def fill (built : BuiltContext) : Except ExportFault String :=
  match Markup.render built.source (.ofObject built.context) with
  | .ok html => .ok html
  | .error fault => .error (.content fault.message)

/-- A render for a browser. -/
structure Preview where
  html : String
  warnings : List Warning
  deriving Inhabited

/-- A render for keeping. -/
structure Final where
  pdf : Bytes
  image : Option Bytes
  warnings : List Warning
  stored : List StoredImage
  deriving Inhabited

/-- Settings and backends of all renders. -/
structure Renderer where
  settings : RenderSettings
  capabilities : Capabilities
  deriving Inhabited

namespace Renderer

/-- The converter of the renderer. -/
def converter (renderer : Renderer) : Converter :=
  ⟨renderer.capabilities, renderer.settings.styles.stylesheet, some renderer.settings.baseUrl,
    renderer.settings.styles.pageSize, renderer.settings.styles.margin⟩

/-- Render for a browser. -/
def preview (renderer : Renderer) (job : Job) : RenderAction Preview := do
  let built ← buildContext renderer.settings job .preview
  return ⟨← fill built, built.warnings⟩

/-- Render for keeping, with an image of the first page if that is wanted. -/
def final (renderer : Renderer) (job : Job) (withImage : Bool) : RenderAction Final := do
  if withImage && renderer.capabilities.raster.isNone then throw Converter.noRaster
  let built ← buildContext renderer.settings job .final
  let html ← fill built
  let pdf ← renderer.converter.toPdf html
  let image ←
    if withImage then some <$> renderer.converter.pdfToImage pdf renderer.settings.raster
    else pure none
  return ⟨pdf, image, built.warnings, built.stored⟩

end Renderer

end CertPress.Render
