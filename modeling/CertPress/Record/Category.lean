import CertPress.Json.Decoder

/-!
# Categories of documents

The closed set of document kinds.  The category of a template decides which
fields its documents have, which of them must be filled in, and which fields of
a payload hold images.
-/

namespace CertPress.Record

/-- A kind of document. -/
inductive Category where
  | spaTherapist
  | managerSalary
  | experienceLetter
  | appointmentLetter
  | invoiceSpaBill
  | idCard
  | dailySheet
  deriving DecidableEq, Repr, Inhabited

namespace Category

/-- All categories, in the order of their declaration. -/
def all : List Category :=
  [.spaTherapist, .managerSalary, .experienceLetter, .appointmentLetter, .invoiceSpaBill,
   .idCard, .dailySheet]

/-- The tag that names the category in records and requests. -/
def tag : Category → String
  | .spaTherapist => "spa_therapist"
  | .managerSalary => "manager_salary"
  | .experienceLetter => "experience_letter"
  | .appointmentLetter => "appointment_letter"
  | .invoiceSpaBill => "invoice_spa_bill"
  | .idCard => "id_card"
  | .dailySheet => "daily_sheet"

/-- The tags with their categories. -/
def tags : List (String × Category) := all.map fun category => (category.tag, category)

/-- The category with a tag. -/
def ofTag? (tag : String) : Option Category := valueAt? tag tags

/-- The fields that a document must carry. -/
def requiredFields : Category → List String
  | .spaTherapist =>
      ["candidate_name", "course_name", "start_date", "end_date", "passport_size_photo",
       "candidate_signature"]
  | .managerSalary =>
      ["manager_name", "position", "joining_date", "monthly_salary",
       "monthly_salary_in_words", "month_year_list", "month_salary_list"]
  | .experienceLetter =>
      ["candidate_name", "position", "joining_date", "end_date", "duration", "salary"]
  | .appointmentLetter =>
      ["employee_name", "position", "start_date", "salary", "manager_signature"]
  | .invoiceSpaBill =>
      ["bill_number", "card_number", "bill_date", "payment_mode", "customer_name",
       "customer_address", "subtotal", "amount_in_words", "service_names", "hsn_codes",
       "quantities", "price_rates", "amounts"]
  | .idCard =>
      ["candidate_name", "candidate_photo", "designation", "date_of_joining",
       "contact_number"]
  | .dailySheet => []

/-- Whether a document must be tied to an organization. -/
def requiresOrganization : Category → Bool
  | .spaTherapist => false
  | _ => true

/-- The fields of a payload that never reach a template. -/
def excludedFields : Category → List String
  | .spaTherapist => ["spa_address", "signatory_name", "signatory_title", "spa_id"]
  | _ => ["spa_address"]

/-- The fields with images that every category has. -/
def commonAssetFields : List String :=
  ["spa_logo", "certificate_background_image", "certificate_stamp_image",
   "certificate_signatory_image"]

/-- The fields with images that only this category has. -/
def ownAssetFields : Category → List String
  | .spaTherapist => ["passport_size_photo", "candidate_signature"]
  | .appointmentLetter => ["manager_signature"]
  | .idCard => ["candidate_photo"]
  | .dailySheet => ["daily_sheet_background"]
  | _ => []

/-- The fields with images. -/
def assetFields (category : Category) : List String :=
  commonAssetFields ++ category.ownAssetFields

/-- A category from its tag. -/
def decoder : Json.Decoder Category := Json.Decoder.name tags

@[simp] theorem ofTag?_tag (category : Category) : ofTag? category.tag = some category := by
  cases category <;> decide

end Category

end CertPress.Record
