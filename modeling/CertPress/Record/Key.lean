import CertPress.Uuid

/-!
# Keys

Where records, images and artifacts lie relative to the root of a store.
-/

namespace CertPress.Record.Key

/-- The directory of the templates. -/
def templates : String := "templates/"

/-- The record of a template. -/
def template (id : Uuid) : String := "templates/" ++ id.text ++ ".json"

/-- The record of an organization. -/
def organization (id : Uuid) : String := "organizations/" ++ id.text ++ ".json"

/-- The record of a document. -/
def document (id : Uuid) : String := "documents/" ++ id.text ++ ".json"

/-- An image stored for one document.  The digest gives equal bytes one
name. -/
def asset (document : Uuid) (kind digest extension : String) : String :=
  "certificates/cert_" ++ document.text ++ "_" ++ kind ++ "_" ++ digest ++ "." ++ extension

/-- A rendered artifact of a document. -/
def artifact (document : Uuid) (extension : String) : String :=
  "certificates/certificate_" ++ document.text ++ "." ++ extension

end CertPress.Record.Key
