import CertPress.Context.Table

/-!
# The data of a render

The data that a template is rendered with, from the category of the document,
the submitted payload and the trusted facts.  Trusted facts are written first
and a payload can only fill in keys that are still free; tables are derived and
defaults are filled in last.
-/

namespace CertPress.Context

open Json (Value Object)
open Record (Category Organization Authoritative project)

/-- The keys of trusted facts with their values. -/
def trusted (facts : Authoritative) : Object :=
  let start : Object := Mapping.ofList
    [("date", .string (facts.date.getD "")),
     ("candidate_name", .string (facts.displayName.getD ""))]
  match facts.organization with
  | some organization =>
      let record := organization.toValue
      (start.insertAll (project record Organization.contextFields).entries).insert "spa"
        (.ofObject (project record Organization.blockFields))
  | none =>
      (start.insertAll (Organization.contextFields.map fun (_, key) => (key, .string ""))).insert
        "spa" (.object [])

/-- Add the fields of a payload whose keys are neither taken nor excluded. -/
def addPayload (category : Category) (context data : Object) : Object :=
  data.entries.foldl
    (fun context entry =>
      if category.excludedFields.contains entry.1 || context.contains entry.1 then context
      else context.insert entry.1 entry.2)
    context

/-- Add the tables that are derived from a payload. -/
def addTables (category : Category) (context data : Object) : Object :=
  match category with
  | .managerSalary => context.insert "salary_breakdown" (.string (salaryTable data))
  | .invoiceSpaBill =>
      let items := invoiceItems data
      let context := context.insert "items_rows" (.string (invoiceRows items))
      if context.contains "items" then context else context.insert "items" (.array items)
  | _ => context

/-- Keys with the empty text. -/
def blanks (keys : List String) : List (String × Value) :=
  keys.map fun key => (key, .string "")

/-- The values of keys that are missing or do not hold. -/
def defaults (category : Category) (displayName date : String) : List (String × Value) :=
  match category with
  | .managerSalary =>
      ("position", .string "Manager") ::
        blanks ["joining_date", "monthly_salary", "salary_in_words"]
  | .invoiceSpaBill =>
      blanks ["bill_number", "payment_mode"] ++ [("customer_name", .string displayName)]
  | .experienceLetter =>
      blanks ["position", "start_date", "end_date", "duration", "salary",
        "performance_description"]
  | .appointmentLetter => blanks ["position", "start_date", "salary"]
  | .spaTherapist =>
      blanks ["course_name", "start_date", "end_date", "passport_size_photo",
        "candidate_signature"]
  | .idCard =>
      ("candidate_name", .string displayName) ::
        blanks ["candidate_photo", "designation", "date_of_joining", "contact_number"] ++
        [("issue_date", .string date)]
  | .dailySheet => []

/-- Fill in the defaults of the keys that are missing or do not hold. -/
def addDefaults (context : Object) (entries : List (String × Value)) : Object :=
  entries.foldl
    (fun context entry =>
      if (context.get? entry.1).any Markup.holds then context
      else context.insert entry.1 entry.2)
    context

/-- The data that a document of a category is rendered with. -/
def normalize (category : Category) (data : Object) (facts : Authoritative) : Object :=
  let merged := addPayload category (trusted facts) data
  let complete := addTables category merged data
  addDefaults complete (defaults category (facts.displayName.getD "") (facts.date.getD ""))

end CertPress.Context
