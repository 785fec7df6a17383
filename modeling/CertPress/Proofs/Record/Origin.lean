import CertPress.Proofs.Record.Document
import CertPress.Proofs.Record.Field
import CertPress.Proofs.Record.Written

/-!
# Where columns come from

Each column of the details holds a list, or the text of the first of a few fields of the
payload that has one, or else a text of its own.  This is one table for all categories.

A record is a payload that has each column under its own name and none of the other fields
that may fill in one.  What was trimmed or taken as a default stays so when it is read again,
so the details of a record are those that it was written from.
-/

namespace CertPress.Record

open Json (Value Object Decoder Raw)

/-! ## Columns -/

namespace Category

/-- The columns of a category. -/
def columnNames (category : Category) : List String :=
  (DocumentDetails.columns category).map Prod.fst

/-- The columns that hold lists. -/
def listColumns : Category → List String
  | .managerSalary => ["month_year_list", "month_salary_list"]
  | .invoiceSpaBill => ["service_names", "hsn_codes", "quantities", "price_rates", "amounts"]
  | _ => []

/-- The column with the name of the subject. -/
def nameColumn? : Category → Option String
  | .spaTherapist => some "candidate_name"
  | .managerSalary => some "manager_name"
  | .experienceLetter => some "candidate_name"
  | .appointmentLetter => some "employee_name"
  | .invoiceSpaBill => some "customer_name"
  | .idCard => some "candidate_name"
  | .dailySheet => none

/-- The columns that several fields of a payload may fill in, with these fields. -/
def choices : Category → List (String × List String)
  | .spaTherapist => [("candidate_name", ["candidate_name", "therapist_name"])]
  | .experienceLetter =>
      [("candidate_name", ["candidate_name", "employee_name"]),
       ("joining_date", ["start_date", "joining_date"])]
  | .invoiceSpaBill =>
      [("bill_date", ["bill_date", "invoice_date", "date"]),
       ("card_number", ["card_number", "payment_reference"])]
  | _ => []

/-- The fields of a payload that may fill in a column. -/
def payloadKeys (category : Category) (column : String) : List String :=
  (valueAt? column category.choices).getD [column]

/-- The texts of the columns that have one of their own where a payload has none. -/
def ownTexts : Category → List (String × String)
  | .managerSalary => [("position", "Manager")]
  | .invoiceSpaBill => [("card_number", "")]
  | _ => []

/-- The text of a column where a payload has none. -/
def preset? (category : Category) (fallback column : String) : Option String :=
  if category.nameColumn? = some column then some fallback else valueAt? column category.ownTexts

/-- What a column holds for a payload. -/
def columnValue (category : Category) (data : Object) (fallback column : String) : Value :=
  if column ∈ category.listColumns then .ofTexts (textList data column)
  else .ofText? ((firstTextField? data (category.payloadKeys column)).or
    (category.preset? fallback column))

end Category

namespace DocumentDetails

variable (category : Category) (data : Object) (fallback : String)

theorem members_ofData :
    (ofData category data fallback).members =
      category.columnNames.map fun column =>
        (column, category.columnValue data fallback column) := by
  cases category <;>
    simp [Category.columnNames, columns, Category.columnValue, Category.listColumns,
      Category.payloadKeys, Category.choices, Category.preset?, Category.nameColumn?,
      Category.ownTexts, valueAt?, firstTextField?_singleton, Value.ofText?, ofData, members,
      SpaTherapistDetails.members, ManagerSalaryDetails.members, ExperienceLetterDetails.members,
      AppointmentLetterDetails.members, InvoiceDetails.members, IdCardDetails.members,
      SpaTherapistDetails.fields, ManagerSalaryDetails.fields, ExperienceLetterDetails.fields,
      AppointmentLetterDetails.fields, InvoiceDetails.fields, IdCardDetails.fields]

/-- The record of the details has each column. -/
theorem member?_ofData {column : String} (isColumn : column ∈ category.columnNames) :
    (ofData category data fallback).toValue.member? column =
      some (category.columnValue data fallback column) := by
  have notTag : "category" ≠ column := by
    rintro rfl
    revert isColumn
    cases category <;> decide
  rw [toValue, Value.member?, valueAt?_cons, if_neg notTag, members_ofData]
  exact valueAt?_map_of_mem _ isColumn

end DocumentDetails

/-! ## Reading back -/

section Again

variable {category : Category} {data record : Object} {fallback column : String}

/-- The text of a column that a payload leaves out has no blanks around it, or is blank. -/
theorem neat_or_blank_of_preset (trimmed : Text.trimmed fallback = fallback) {text : String}
    (preset : text ∈ category.preset? fallback column) : Neat text ∨ Text.blank text = true := by
  have ownTexts : ∀ entry ∈ category.ownTexts, Text.trimmed entry.2 = entry.2 := by
    cases category with
    | managerSalary | invoiceSpaBill => exact List.forall_mem_singleton.mpr rfl
    | _ => exact List.forall_mem_nil _
  have same : Text.trimmed text = text := by
    unfold Category.preset? at preset
    split at preset
    next => exact Option.some.inj preset ▸ trimmed
    next => exact ownTexts (column, text) (mem_of_valueAt? preset)
  cases shown : Text.blank text with
  | false => exact .inl ⟨shown, same⟩
  | true => exact .inr rfl

/-- A text that is written for a column is read from it again, or else left out once more. -/
theorem textField?_or_preset (trimmed : Text.trimmed fallback = fallback) {first : Option String}
    (neat : ∀ text ∈ first, Neat text)
    (written : record.get? column = some (.ofText? (first.or (category.preset? fallback column)))) :
    (textField? record column).or (category.preset? fallback column) =
      first.or (category.preset? fallback column) := by
  cases first with
  | some text =>
      rw [Option.some_or] at written ⊢
      rw [textField?_ofText? neat written, Option.some_or]
  | none =>
      rw [Option.none_or] at written ⊢
      -- a text that is not neat is blank, so it is read as none and filled in once more
      by_cases shown : ∀ text ∈ category.preset? fallback column, Neat text
      · rw [textField?_ofText? shown written, Option.or_self]
      · push Not at shown
        obtain ⟨text, preset, notNeat⟩ := shown
        have blank := (neat_or_blank_of_preset trimmed preset).resolve_left notNeat
        rw [preset, Value.ofText?] at written
        rw [textField?, written]
        simp [blank]

/-- A record has none of the other fields that may fill in a column. -/
theorem other_payloadKeys (category : Category) : ∀ column ∈ category.columnNames,
    column ∈ category.payloadKeys column ∧ ∀ other ∈ category.payloadKeys column,
      other ≠ column → other ∉ "category" :: category.columnNames := by
  cases category <;> decide

/-- What is read for a column of a record is what the column has. -/
theorem columnValue_readBack (trimmed : Text.trimmed fallback = fallback)
    (isColumn : column ∈ category.columnNames)
    (written : record.get? column = some (category.columnValue data fallback column))
    (absent : ∀ key ∉ "category" :: category.columnNames, record.get? key = none) :
    category.columnValue record fallback column = category.columnValue data fallback column := by
  unfold Category.columnValue at written ⊢
  split
  next isList =>
    rw [if_pos isList] at written
    rw [textList_ofTexts (fun text member => ?_) written]
    obtain ⟨item, -, rfl⟩ := List.mem_map.mp member
    exact trimmed_itemText item
  next isText =>
    rw [if_neg isText] at written
    obtain ⟨own, others⟩ := other_payloadKeys category column isColumn
    have single := firstTextField?_eq own fun other inKeys differ =>
      absent other (others other inKeys differ)
    rw [single, textField?_or_preset trimmed (fun text => neat_firstTextField?) written]

end Again

namespace DocumentDetails

theorem map_fst_members (details : DocumentDetails) :
    details.members.map Prod.fst = details.category.columnNames := by
  cases details <;> rfl

theorem toValue_injective {left right : DocumentDetails} (same : left.toValue = right.toValue) :
    left = right := by
  have isLeft := left.decoder_toValue (by decide : 2 < 3)
  rw [same, right.decoder_toValue (by decide : 2 < 3)] at isLeft
  exact (Except.ok.inj isLeft).symm

/-- The record of details is read as an object with its members. -/
theorem exists_record (details : DocumentDetails) :
    ∃ record : Object, Decoder.object.read details.toValue.text = .ok record ∧
      ∀ key, record.get? key = details.toValue.member? key := by
  have distinct : (("category", Value.string details.category.tag) :: details.members).map
      Prod.fst |>.Nodup := by
    rw [List.map_cons, map_fst_members]
    cases details.category <;> decide
  refine ⟨.ofList _, ?_, fun key => Mapping.get?_ofList distinct⟩
  have exact : ∀ member ∈ ("category", Value.string details.category.tag) :: details.members,
      member.2.Exact 1 :=
    List.forall_mem_cons.mpr ⟨.string _, details.exact_members⟩
  have isRead := Raw.membersToEntries_ofMembers fun member inMembers =>
    Raw.toValue_ofValue (exact member inMembers) (by decide : 1 < Json.depthLimit - 1)
  rw [Decoder.read_text, toValue, Raw.ofValue, Decoder.object]
  simp only [Raw.enter_of_lt (by decide : 1 < Json.depthLimit), isRead, bind, Except.bind, if_true]
  rfl

/-- Building details from their record gives the same details. -/
theorem ofData_readBack (category : Category) (data : Object) {fallback : String}
    (trimmed : Text.trimmed fallback = fallback) :
    ∃ record : Object,
      Decoder.object.read (ofData category data fallback).toValue.text = .ok record ∧
        ofData category record fallback = ofData category data fallback := by
  obtain ⟨record, isRead, lookups⟩ := (ofData category data fallback).exists_record
  refine ⟨record, isRead, toValue_injective ?_⟩
  have absent : ∀ key ∉ "category" :: category.columnNames, record.get? key = none := by
    intro key other
    rw [lookups, toValue, Value.member?, valueAt?_eq_none_iff, List.map_cons, map_fst_members,
      category_ofData]
    exact other
  rw [toValue, toValue, category_ofData, category_ofData, members_ofData, members_ofData]
  congr 2
  refine List.map_congr_left fun column isColumn => ?_
  have written := lookups column
  rw [member?_ofData category data fallback isColumn] at written
  rw [columnValue_readBack trimmed isColumn written absent]

/-- A payload of an invoice with other names, a number, padded texts, and lists in both
forms. -/
def paddedInvoice : Object :=
  .ofList [("invoice_date", .number (.integer 5)), ("payment_reference", .string " 7 "),
    ("service_names", .string "[\" Massage \", 1]"), ("amounts", .array [.null, .bool true])]

/-- The details of such an invoice are those of their record. -/
theorem ofData_readBack_invoice :
    Text.trimmed "A" = "A" ∧ ∃ record : Object,
      Decoder.object.read (ofData .invoiceSpaBill paddedInvoice "A").toValue.text = .ok record ∧
        ofData .invoiceSpaBill record "A" = ofData .invoiceSpaBill paddedInvoice "A" :=
  ⟨rfl, ofData_readBack .invoiceSpaBill paddedInvoice rfl⟩

end DocumentDetails

end CertPress.Record
