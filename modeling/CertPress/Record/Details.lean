import CertPress.Markup.Scope
import CertPress.Record.Organization

/-!
# Details of documents

The columns that a document has by its category, and how they are built from a
submitted payload.  Intake forms use a few other names for the same column; the
first of them that holds a text or a number wins.
-/

namespace CertPress.Record

open Json (Value Object Decoder Fields Fault)

/-- The text of a payload field: a string that is not blank, trimmed, or a
number. -/
def textField? (data : Object) (key : String) : Option String :=
  match data.get? key with
  | some (.string text) => if Text.blank text then none else some (Text.trimmed text)
  | some (.number number) => some (String.ofList number.chars)
  | _ => none

/-- The text of the first of several payload fields that has one. -/
def firstTextField? (data : Object) (keys : List String) : Option String :=
  keys.findSome? (textField? data)

/-- The text of an item of a list: trimmed, nothing for null, and the compact
JSON text of everything that is no string. -/
def itemText : Value → String
  | .string text => Text.trimmed text
  | .null => ""
  | value => value.text

/-- The items of a payload field, which is an array or a text that reads as
one. -/
def listItems (data : Object) (key : String) : List Value :=
  match data.get? key with
  | some (.array items) => items
  | some (.string text) =>
      match Json.read text with
      | .ok (.array items) => items
      | _ => []
  | _ => []

/-- The texts of the items of a payload field. -/
def textList (data : Object) (key : String) : List String :=
  (listItems data key).map itemText

/-- A certificate of a therapist. -/
structure SpaTherapistDetails where
  candidateName : String
  courseName : Option String
  startDate : Option String
  endDate : Option String
  passportSizePhoto : Option String
  candidateSignature : Option String
  deriving DecidableEq, Repr, Inhabited

namespace SpaTherapistDetails

/-- The columns of the record. -/
def fields : List (String × Json.Check) :=
  [("candidate_name", Decoder.text.check), ("course_name", Decoder.text.optional.check),
   ("start_date", Decoder.text.optional.check), ("end_date", Decoder.text.optional.check),
   ("passport_size_photo", Decoder.text.optional.check),
   ("candidate_signature", Decoder.text.optional.check)]

/-- Read the columns. -/
def ofFields (fields : Fields) : Except Fault SpaTherapistDetails := do
  return {
    candidateName := ← fields.required "candidate_name" Decoder.text
    courseName := ← fields.nullable "course_name" Decoder.text
    startDate := ← fields.nullable "start_date" Decoder.text
    endDate := ← fields.nullable "end_date" Decoder.text
    passportSizePhoto := ← fields.nullable "passport_size_photo" Decoder.text
    candidateSignature := ← fields.nullable "candidate_signature" Decoder.text }

/-- The columns with their values. -/
def members (details : SpaTherapistDetails) : List (String × Value) :=
  [("candidate_name", .string details.candidateName),
   ("course_name", .ofText? details.courseName), ("start_date", .ofText? details.startDate),
   ("end_date", .ofText? details.endDate),
   ("passport_size_photo", .ofText? details.passportSizePhoto),
   ("candidate_signature", .ofText? details.candidateSignature)]

end SpaTherapistDetails

/-- A salary certificate of a manager. -/
structure ManagerSalaryDetails where
  managerName : String
  position : String
  joiningDate : Option String
  monthlySalary : Option String
  monthlySalaryInWords : Option String
  monthYearList : List String
  monthSalaryList : List String
  deriving DecidableEq, Repr, Inhabited

namespace ManagerSalaryDetails

/-- The columns of the record. -/
def fields : List (String × Json.Check) :=
  [("manager_name", Decoder.text.check), ("position", Decoder.text.check),
   ("joining_date", Decoder.text.optional.check), ("monthly_salary", Decoder.text.optional.check),
   ("monthly_salary_in_words", Decoder.text.optional.check),
   ("month_year_list", Decoder.text.list.check), ("month_salary_list", Decoder.text.list.check)]

/-- Read the columns. -/
def ofFields (fields : Fields) : Except Fault ManagerSalaryDetails := do
  return {
    managerName := ← fields.required "manager_name" Decoder.text
    position := ← fields.required "position" Decoder.text
    joiningDate := ← fields.nullable "joining_date" Decoder.text
    monthlySalary := ← fields.nullable "monthly_salary" Decoder.text
    monthlySalaryInWords := ← fields.nullable "monthly_salary_in_words" Decoder.text
    monthYearList := ← fields.required "month_year_list" Decoder.text.list
    monthSalaryList := ← fields.required "month_salary_list" Decoder.text.list }

/-- The columns with their values. -/
def members (details : ManagerSalaryDetails) : List (String × Value) :=
  [("manager_name", .string details.managerName), ("position", .string details.position),
   ("joining_date", .ofText? details.joiningDate),
   ("monthly_salary", .ofText? details.monthlySalary),
   ("monthly_salary_in_words", .ofText? details.monthlySalaryInWords),
   ("month_year_list", .ofTexts details.monthYearList),
   ("month_salary_list", .ofTexts details.monthSalaryList)]

end ManagerSalaryDetails

/-- A letter about past work. -/
structure ExperienceLetterDetails where
  candidateName : String
  position : Option String
  joiningDate : Option String
  endDate : Option String
  duration : Option String
  salary : Option String
  deriving DecidableEq, Repr, Inhabited

namespace ExperienceLetterDetails

/-- The columns of the record. -/
def fields : List (String × Json.Check) :=
  [("candidate_name", Decoder.text.check), ("position", Decoder.text.optional.check),
   ("joining_date", Decoder.text.optional.check), ("end_date", Decoder.text.optional.check),
   ("duration", Decoder.text.optional.check), ("salary", Decoder.text.optional.check)]

/-- Read the columns. -/
def ofFields (fields : Fields) : Except Fault ExperienceLetterDetails := do
  return {
    candidateName := ← fields.required "candidate_name" Decoder.text
    position := ← fields.nullable "position" Decoder.text
    joiningDate := ← fields.nullable "joining_date" Decoder.text
    endDate := ← fields.nullable "end_date" Decoder.text
    duration := ← fields.nullable "duration" Decoder.text
    salary := ← fields.nullable "salary" Decoder.text }

/-- The columns with their values. -/
def members (details : ExperienceLetterDetails) : List (String × Value) :=
  [("candidate_name", .string details.candidateName), ("position", .ofText? details.position),
   ("joining_date", .ofText? details.joiningDate), ("end_date", .ofText? details.endDate),
   ("duration", .ofText? details.duration), ("salary", .ofText? details.salary)]

end ExperienceLetterDetails

/-- A letter of appointment. -/
structure AppointmentLetterDetails where
  employeeName : String
  position : Option String
  startDate : Option String
  salary : Option String
  managerSignature : Option String
  deriving DecidableEq, Repr, Inhabited

namespace AppointmentLetterDetails

/-- The columns of the record. -/
def fields : List (String × Json.Check) :=
  [("employee_name", Decoder.text.check), ("position", Decoder.text.optional.check),
   ("start_date", Decoder.text.optional.check), ("salary", Decoder.text.optional.check),
   ("manager_signature", Decoder.text.optional.check)]

/-- Read the columns. -/
def ofFields (fields : Fields) : Except Fault AppointmentLetterDetails := do
  return {
    employeeName := ← fields.required "employee_name" Decoder.text
    position := ← fields.nullable "position" Decoder.text
    startDate := ← fields.nullable "start_date" Decoder.text
    salary := ← fields.nullable "salary" Decoder.text
    managerSignature := ← fields.nullable "manager_signature" Decoder.text }

/-- The columns with their values. -/
def members (details : AppointmentLetterDetails) : List (String × Value) :=
  [("employee_name", .string details.employeeName), ("position", .ofText? details.position),
   ("start_date", .ofText? details.startDate), ("salary", .ofText? details.salary),
   ("manager_signature", .ofText? details.managerSignature)]

end AppointmentLetterDetails

/-- An invoice. -/
structure InvoiceDetails where
  billNumber : Option String
  billDate : Option String
  cardNumber : String
  paymentMode : Option String
  customerName : String
  customerAddress : Option String
  subtotal : Option String
  amountInWords : Option String
  serviceNames : List String
  hsnCodes : List String
  quantities : List String
  priceRates : List String
  amounts : List String
  deriving DecidableEq, Repr, Inhabited

namespace InvoiceDetails

/-- The columns of the record. -/
def fields : List (String × Json.Check) :=
  [("bill_number", Decoder.text.optional.check), ("bill_date", Decoder.text.optional.check),
   ("card_number", Decoder.text.check), ("payment_mode", Decoder.text.optional.check),
   ("customer_name", Decoder.text.check), ("customer_address", Decoder.text.optional.check),
   ("subtotal", Decoder.text.optional.check), ("amount_in_words", Decoder.text.optional.check),
   ("service_names", Decoder.text.list.check), ("hsn_codes", Decoder.text.list.check),
   ("quantities", Decoder.text.list.check), ("price_rates", Decoder.text.list.check),
   ("amounts", Decoder.text.list.check)]

/-- Read the columns. -/
def ofFields (fields : Fields) : Except Fault InvoiceDetails := do
  return {
    billNumber := ← fields.nullable "bill_number" Decoder.text
    billDate := ← fields.nullable "bill_date" Decoder.text
    cardNumber := ← fields.required "card_number" Decoder.text
    paymentMode := ← fields.nullable "payment_mode" Decoder.text
    customerName := ← fields.required "customer_name" Decoder.text
    customerAddress := ← fields.nullable "customer_address" Decoder.text
    subtotal := ← fields.nullable "subtotal" Decoder.text
    amountInWords := ← fields.nullable "amount_in_words" Decoder.text
    serviceNames := ← fields.required "service_names" Decoder.text.list
    hsnCodes := ← fields.required "hsn_codes" Decoder.text.list
    quantities := ← fields.required "quantities" Decoder.text.list
    priceRates := ← fields.required "price_rates" Decoder.text.list
    amounts := ← fields.required "amounts" Decoder.text.list }

/-- The columns with their values. -/
def members (details : InvoiceDetails) : List (String × Value) :=
  [("bill_number", .ofText? details.billNumber), ("bill_date", .ofText? details.billDate),
   ("card_number", .string details.cardNumber), ("payment_mode", .ofText? details.paymentMode),
   ("customer_name", .string details.customerName),
   ("customer_address", .ofText? details.customerAddress),
   ("subtotal", .ofText? details.subtotal), ("amount_in_words", .ofText? details.amountInWords),
   ("service_names", .ofTexts details.serviceNames), ("hsn_codes", .ofTexts details.hsnCodes),
   ("quantities", .ofTexts details.quantities), ("price_rates", .ofTexts details.priceRates),
   ("amounts", .ofTexts details.amounts)]

end InvoiceDetails

/-- An identity card. -/
structure IdCardDetails where
  candidateName : String
  candidatePhoto : Option String
  designation : Option String
  dateOfJoining : Option String
  contactNumber : Option String
  issueDate : Option String
  deriving DecidableEq, Repr, Inhabited

namespace IdCardDetails

/-- The columns of the record. -/
def fields : List (String × Json.Check) :=
  [("candidate_name", Decoder.text.check), ("candidate_photo", Decoder.text.optional.check),
   ("designation", Decoder.text.optional.check), ("date_of_joining", Decoder.text.optional.check),
   ("contact_number", Decoder.text.optional.check), ("issue_date", Decoder.text.optional.check)]

/-- Read the columns. -/
def ofFields (fields : Fields) : Except Fault IdCardDetails := do
  return {
    candidateName := ← fields.required "candidate_name" Decoder.text
    candidatePhoto := ← fields.nullable "candidate_photo" Decoder.text
    designation := ← fields.nullable "designation" Decoder.text
    dateOfJoining := ← fields.nullable "date_of_joining" Decoder.text
    contactNumber := ← fields.nullable "contact_number" Decoder.text
    issueDate := ← fields.nullable "issue_date" Decoder.text }

/-- The columns with their values. -/
def members (details : IdCardDetails) : List (String × Value) :=
  [("candidate_name", .string details.candidateName),
   ("candidate_photo", .ofText? details.candidatePhoto),
   ("designation", .ofText? details.designation),
   ("date_of_joining", .ofText? details.dateOfJoining),
   ("contact_number", .ofText? details.contactNumber), ("issue_date", .ofText? details.issueDate)]

end IdCardDetails

/-- The columns of a document by its category. -/
inductive DocumentDetails where
  | spaTherapist (details : SpaTherapistDetails)
  | managerSalary (details : ManagerSalaryDetails)
  | experienceLetter (details : ExperienceLetterDetails)
  | appointmentLetter (details : AppointmentLetterDetails)
  | invoiceSpaBill (details : InvoiceDetails)
  | idCard (details : IdCardDetails)
  | dailySheet
  deriving DecidableEq, Repr, Inhabited

namespace DocumentDetails

/-- The columns of a document of a category, from its payload.  The fallback
name fills in a missing name of the subject. -/
def ofData (category : Category) (data : Object) (fallbackName : String) :
    DocumentDetails :=
  let name (keys : List String) := (firstTextField? data keys).getD fallbackName
  let text (key : String) := textField? data key
  let list (key : String) := textList data key
  match category with
  | .spaTherapist => .spaTherapist {
      candidateName := name ["candidate_name", "therapist_name"]
      courseName := text "course_name"
      startDate := text "start_date"
      endDate := text "end_date"
      passportSizePhoto := text "passport_size_photo"
      candidateSignature := text "candidate_signature" }
  | .managerSalary => .managerSalary {
      managerName := name ["manager_name"]
      position := (text "position").getD "Manager"
      joiningDate := text "joining_date"
      monthlySalary := text "monthly_salary"
      monthlySalaryInWords := text "monthly_salary_in_words"
      monthYearList := list "month_year_list"
      monthSalaryList := list "month_salary_list" }
  | .experienceLetter => .experienceLetter {
      candidateName := name ["candidate_name", "employee_name"]
      position := text "position"
      joiningDate := firstTextField? data ["start_date", "joining_date"]
      endDate := text "end_date"
      duration := text "duration"
      salary := text "salary" }
  | .appointmentLetter => .appointmentLetter {
      employeeName := name ["employee_name"]
      position := text "position"
      startDate := text "start_date"
      salary := text "salary"
      managerSignature := text "manager_signature" }
  | .invoiceSpaBill => .invoiceSpaBill {
      billNumber := text "bill_number"
      billDate := firstTextField? data ["bill_date", "invoice_date", "date"]
      cardNumber := (firstTextField? data ["card_number", "payment_reference"]).getD ""
      paymentMode := text "payment_mode"
      customerName := name ["customer_name"]
      customerAddress := text "customer_address"
      subtotal := text "subtotal"
      amountInWords := text "amount_in_words"
      serviceNames := list "service_names"
      hsnCodes := list "hsn_codes"
      quantities := list "quantities"
      priceRates := list "price_rates"
      amounts := list "amounts" }
  | .idCard => .idCard {
      candidateName := name ["candidate_name"]
      candidatePhoto := text "candidate_photo"
      designation := text "designation"
      dateOfJoining := text "date_of_joining"
      contactNumber := text "contact_number"
      issueDate := text "issue_date" }
  | .dailySheet => .dailySheet

/-- The category of the document. -/
def category : DocumentDetails → Category
  | .spaTherapist _ => .spaTherapist
  | .managerSalary _ => .managerSalary
  | .experienceLetter _ => .experienceLetter
  | .appointmentLetter _ => .appointmentLetter
  | .invoiceSpaBill _ => .invoiceSpaBill
  | .idCard _ => .idCard
  | .dailySheet => .dailySheet

/-- The name of the document's subject, if the category has one. -/
def displayName : DocumentDetails → Option String
  | .spaTherapist details => some details.candidateName
  | .managerSalary details => some details.managerName
  | .experienceLetter details => some details.candidateName
  | .appointmentLetter details => some details.employeeName
  | .invoiceSpaBill details => some details.customerName
  | .idCard details => some details.candidateName
  | .dailySheet => none

/-- Replace the reference in a column for images; none where the field is no
such column of the category. -/
def setAsset? (details : DocumentDetails) (field path : String) : Option DocumentDetails :=
  match details with
  | .spaTherapist details =>
      if field = "passport_size_photo" then
        some (.spaTherapist { details with passportSizePhoto := some path })
      else if field = "candidate_signature" then
        some (.spaTherapist { details with candidateSignature := some path })
      else none
  | .appointmentLetter details =>
      if field = "manager_signature" then
        some (.appointmentLetter { details with managerSignature := some path })
      else none
  | .idCard details =>
      if field = "candidate_photo" then
        some (.idCard { details with candidatePhoto := some path })
      else none
  | _ => none

/-- The columns with their values. -/
def members : DocumentDetails → List (String × Value)
  | .spaTherapist details => details.members
  | .managerSalary details => details.members
  | .experienceLetter details => details.members
  | .appointmentLetter details => details.members
  | .invoiceSpaBill details => details.members
  | .idCard details => details.members
  | .dailySheet => []

/-- The record of the details: the tag of the category and the columns. -/
def toValue (details : DocumentDetails) : Value :=
  .object (("category", .string details.category.tag) :: details.members)

/-- Whether a column is not filled in: absent, null, blank, or an empty
list. -/
def isMissing : Option Value → Bool
  | some (.string text) => Text.blank text
  | some (.array items) => items.isEmpty
  | some .null => true
  | none => true
  | some _ => false

/-- The first of several fields that is not filled in. -/
def firstMissing (details : DocumentDetails) (fields : List String) : Option String :=
  fields.find? fun field => isMissing (details.toValue.member? field)

/-- The columns of a category. -/
def columns : Category → List (String × Json.Check)
  | .spaTherapist => SpaTherapistDetails.fields
  | .managerSalary => ManagerSalaryDetails.fields
  | .experienceLetter => ExperienceLetterDetails.fields
  | .appointmentLetter => AppointmentLetterDetails.fields
  | .invoiceSpaBill => InvoiceDetails.fields
  | .idCard => IdCardDetails.fields
  | .dailySheet => []

/-- Read the columns of a category. -/
def ofFields (category : Category) (fields : Fields) : Except Fault DocumentDetails :=
  match category with
  | .spaTherapist => (SpaTherapistDetails.ofFields fields).map .spaTherapist
  | .managerSalary => (ManagerSalaryDetails.ofFields fields).map .managerSalary
  | .experienceLetter => (ExperienceLetterDetails.ofFields fields).map .experienceLetter
  | .appointmentLetter => (AppointmentLetterDetails.ofFields fields).map .appointmentLetter
  | .invoiceSpaBill => (InvoiceDetails.ofFields fields).map .invoiceSpaBill
  | .idCard => (IdCardDetails.ofFields fields).map .idCard
  | .dailySheet => .ok .dailySheet

/-- The category that a tag of the text names. -/
def tagDecoder : Decoder Category := Decoder.textOfForm Category.ofTag?

/-- Split the members of an object into the category that its tag names and
the other members.  Every member is read as a value, and the tag may come once
only. -/
def splitTag (depth : Nat) (found : Option Category) :
    List (Json.Source × Json.Raw) →
      Except Fault (Option Category × List (Json.Source × Json.Raw))
  | [] => .ok (found, [])
  | (key, raw) :: rest => do
      if (← Json.textOf key) = "category" then
        if found.isSome then throw .mismatched
        let category ← tagDecoder depth raw
        splitTag depth (some category) rest
      else
        let _ ← raw.toValue depth
        let (category, others) ← splitTag depth found rest
        return (category, (key, raw) :: others)

/-- Read the columns of a category from an object or an array of them.  For a
category without columns an object may hold anything and an array nothing. -/
def readColumns (category : Category) (depth : Nat) (raw : Json.Raw) :
    Except Fault DocumentDetails :=
  match category, raw with
  | .dailySheet, .object _ _ => .ok .dailySheet
  | category, raw => do ofFields category (← Fields.ofRaw (columns category) depth raw)

/-- Read details: an object of the columns with the tag of the category among
them, or an array with the tag in front of the columns. -/
def decoder : Decoder DocumentDetails := fun depth raw =>
  match raw with
  | .object members closed => do
      let inside ← Json.enter depth
      let (found, others) ← splitTag inside none members
      if !closed then throw .malformed
      match found with
      | some category => readColumns category depth (.object others true)
      | none => throw .mismatched
  | .array [] closed => .error (if closed then .mismatched else .malformed)
  | .array (first :: rest) closed => do
      let inside ← Json.enter depth
      let category ← tagDecoder inside first
      let _ ← Json.Raw.itemsToValues inside rest
      if !closed then throw .malformed
      readColumns category depth (.array rest true)
  | _ => .error (Json.mismatch raw)

end DocumentDetails

end CertPress.Record
