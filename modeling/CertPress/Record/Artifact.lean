import CertPress.Json.Decoder
import CertPress.Uuid

/-!
# Rendered artifacts

The formats of a final render, the two modes of rendering, and the kinds of
template.
-/

namespace CertPress.Record

/-- The format of an artifact. -/
inductive ArtifactFormat where
  | pdf
  | png
  | jpeg
  deriving DecidableEq, Repr, Inhabited

namespace ArtifactFormat

/-- The tag of the format. -/
def tag : ArtifactFormat → String
  | .pdf => "pdf"
  | .png => "png"
  | .jpeg => "jpeg"

/-- The extension of a file of the format. -/
def extension : ArtifactFormat → String
  | .pdf => "pdf"
  | .png => "png"
  | .jpeg => "jpg"

/-- The media type of the format. -/
def mediaType : ArtifactFormat → String
  | .pdf => "application/pdf"
  | .png => "image/png"
  | .jpeg => "image/jpeg"

/-- The name under which an artifact is offered for download. -/
def filename (format : ArtifactFormat) (document : Uuid) : String :=
  "certificate_" ++ document.text ++ "." ++ format.extension

/-- A format from its tag. -/
def decoder : Json.Decoder ArtifactFormat :=
  Json.Decoder.name [("pdf", .pdf), ("png", .png), ("jpeg", .jpeg)]

end ArtifactFormat

/-- The format of an image made from a page. -/
inductive RasterFormat where
  | png
  | jpeg
  deriving DecidableEq, Repr, Inhabited

namespace RasterFormat

/-- The format as a format of artifacts. -/
def artifact : RasterFormat → ArtifactFormat
  | .png => .png
  | .jpeg => .jpeg

/-- A format from its tag. -/
def decoder : Json.Decoder RasterFormat :=
  Json.Decoder.name [("png", .png), ("jpeg", .jpeg)]

end RasterFormat

/-- Whether a render is shown in a browser or becomes a durable artifact. -/
inductive RenderMode where
  | preview
  | final
  deriving DecidableEq, Repr, Inhabited

namespace RenderMode

/-- The tag of the mode. -/
def tag : RenderMode → String
  | .preview => "preview"
  | .final => "final"

/-- A mode from its tag. -/
def decoder : Json.Decoder RenderMode :=
  Json.Decoder.name [("preview", .preview), ("final", .final)]

end RenderMode

/-- What a template is made of. -/
inductive TemplateKind where
  | html
  | image
  deriving DecidableEq, Repr, Inhabited

namespace TemplateKind

/-- The tag of the kind. -/
def tag : TemplateKind → String
  | .html => "html"
  | .image => "image"

/-- A kind from its tag. -/
def decoder : Json.Decoder TemplateKind :=
  Json.Decoder.name [("html", .html), ("image", .image)]

end TemplateKind

end CertPress.Record
