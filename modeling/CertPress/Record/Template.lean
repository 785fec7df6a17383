import CertPress.Record.Artifact
import CertPress.Record.Category
import CertPress.Text.Blank
import CertPress.Time.Timestamp

/-!
# Templates

The stored template of a document: what it is called, the category of its
documents, and its source.
-/

namespace CertPress

namespace Json.Decoder

/-- An identifier. -/
def uuid : Decoder Uuid := textOfForm Uuid.ofString?

/-- A moment. -/
def timestamp : Decoder Time.Timestamp := textOfForm Time.Timestamp.ofString?

end Json.Decoder

namespace Record

open Json (Value Object Decoder Fields)

/-- A template. -/
structure Template where
  id : Uuid
  name : String
  category : Category
  kind : TemplateKind
  variant : Option String
  htmlSource : Option String
  image : Option String
  config : Object
  isActive : Bool
  isPublic : Bool
  createdAt : Time.Timestamp
  updatedAt : Time.Timestamp
  deriving Inhabited

namespace Template

/-- The source of the template, unless it is blank. -/
def html (template : Template) : Option String :=
  template.htmlSource.filter fun source => !Text.blank source

/-- The fields of the record. -/
def fields : List (String × Json.Check) :=
  [("id", Decoder.uuid.check), ("name", Decoder.text.check),
   ("category", Category.decoder.check), ("kind", TemplateKind.decoder.check),
   ("variant", Decoder.text.optional.check), ("html_source", Decoder.text.optional.check),
   ("image", Decoder.text.optional.check), ("config", Decoder.object.check),
   ("is_active", Decoder.bool.check), ("is_public", Decoder.bool.check),
   ("created_at", Decoder.timestamp.check), ("updated_at", Decoder.timestamp.check)]

/-- Read a template.  It is an active and private HTML template unless it says
otherwise. -/
def decoder : Decoder Template := fun depth raw => do
  let fields ← Fields.ofRaw fields depth raw
  return {
    id := ← fields.required "id" Decoder.uuid
    name := ← fields.required "name" Decoder.text
    category := ← fields.required "category" Category.decoder
    kind := ← fields.withDefault "kind" .html TemplateKind.decoder
    variant := ← fields.withDefault "variant" none Decoder.text.optional
    htmlSource := ← fields.withDefault "html_source" none Decoder.text.optional
    image := ← fields.withDefault "image" none Decoder.text.optional
    config := ← fields.withDefault "config" Mapping.empty Decoder.object
    isActive := ← fields.withDefault "is_active" true Decoder.bool
    isPublic := ← fields.withDefault "is_public" false Decoder.bool
    createdAt := ← fields.required "created_at" Decoder.timestamp
    updatedAt := ← fields.required "updated_at" Decoder.timestamp }

/-- The record of a template. -/
def toValue (template : Template) : Value :=
  .object
    [("id", .string template.id.text), ("name", .string template.name),
     ("category", .string template.category.tag), ("kind", .string template.kind.tag),
     ("variant", .ofText? template.variant), ("html_source", .ofText? template.htmlSource),
     ("image", .ofText? template.image), ("config", .ofObject template.config),
     ("is_active", .bool template.isActive), ("is_public", .bool template.isPublic),
     ("created_at", .string template.createdAt.text),
     ("updated_at", .string template.updatedAt.text)]

end Template

end Record

end CertPress
