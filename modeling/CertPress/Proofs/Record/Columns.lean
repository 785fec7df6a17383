import CertPress.Proofs.Json.Written
import CertPress.Record.Details

/-!
# Details that are read back

The details of a document are written as an object with the tag of its category and a
member for each column.  The tag is split off first, and the columns are read from what is
left.
-/

namespace CertPress

namespace Json.Value

@[simp] theorem exact_ofText? {levels : Nat} (text : Option String) :
    (ofText? text).Exact levels := by
  cases text with
  | none => exact .null
  | some text => exact .string text

@[simp] theorem exact_ofTexts {levels : Nat} (texts : List String) :
    (ofTexts texts).Exact (levels + 1) := by
  refine .array fun item member => ?_
  obtain ⟨text, -, rfl⟩ := List.mem_map.mp member
  exact .string text

end Json.Value

namespace Record.DocumentDetails

open Json (Value Decoder Fields Raw Source)

variable {depth : Nat}

/-! ## Columns -/

theorem distinct_columns (category : Category) : ((columns category).map (·.1)).Nodup := by
  cases category <;> decide

/-- Each column is written as a member that passes its check. -/
theorem passes_columns (details : DocumentDetails) (deep : 1 < depth) :
    List.Forall₂ (Fields.Passes depth) (columns details.category) details.members := by
  cases details with
  | spaTherapist details =>
      simp [columns, category, members, SpaTherapistDetails.fields, SpaTherapistDetails.members]
  | managerSalary details =>
      simp [columns, category, members, ManagerSalaryDetails.fields, ManagerSalaryDetails.members,
        deep]
  | experienceLetter details =>
      simp [columns, category, members, ExperienceLetterDetails.fields,
        ExperienceLetterDetails.members]
  | appointmentLetter details =>
      simp [columns, category, members, AppointmentLetterDetails.fields,
        AppointmentLetterDetails.members]
  | invoiceSpaBill details =>
      simp [columns, category, members, InvoiceDetails.fields, InvoiceDetails.members, deep]
  | idCard details =>
      simp [columns, category, members, IdCardDetails.fields, IdCardDetails.members]
  | dailySheet => exact .nil

/-- The columns of a category are read from fields that hold what was written for them. -/
theorem ofFields_of_holds (details : DocumentDetails) {fields : Fields} (deep : 1 < fields.depth)
    (holds : ∀ member ∈ details.members,
      valueAt? member.1 fields.found = some (Raw.ofValue member.2)) :
    ofFields details.category fields = .ok details := by
  cases details with
  | spaTherapist details =>
      simp only [members, SpaTherapistDetails.members, List.forall_mem_cons] at holds
      simp [ofFields, category, SpaTherapistDetails.ofFields, Fields.required, Fields.nullable,
        Fields.get?, holds, bind, Except.bind]
      rfl
  | managerSalary details =>
      simp only [members, ManagerSalaryDetails.members, List.forall_mem_cons] at holds
      simp [ofFields, category, ManagerSalaryDetails.ofFields, Fields.required, Fields.nullable,
        Fields.get?, holds, bind, Except.bind, deep]
      rfl
  | experienceLetter details =>
      simp only [members, ExperienceLetterDetails.members, List.forall_mem_cons] at holds
      simp [ofFields, category, ExperienceLetterDetails.ofFields, Fields.required, Fields.nullable,
        Fields.get?, holds, bind, Except.bind]
      rfl
  | appointmentLetter details =>
      simp only [members, AppointmentLetterDetails.members, List.forall_mem_cons] at holds
      simp [ofFields, category, AppointmentLetterDetails.ofFields, Fields.required, Fields.nullable,
        Fields.get?, holds, bind, Except.bind]
      rfl
  | invoiceSpaBill details =>
      simp only [members, InvoiceDetails.members, List.forall_mem_cons] at holds
      simp [ofFields, category, InvoiceDetails.ofFields, Fields.required, Fields.nullable,
        Fields.get?, holds, bind, Except.bind, deep]
      rfl
  | idCard details =>
      simp only [members, IdCardDetails.members, List.forall_mem_cons] at holds
      simp [ofFields, category, IdCardDetails.ofFields, Fields.required, Fields.nullable,
        Fields.get?, holds, bind, Except.bind]
      rfl
  | dailySheet => rfl

/-- A category without columns reads any object. -/
theorem readColumns_members (details : DocumentDetails) (deep : 2 < depth) :
    readColumns details.category depth (.object (Raw.ofMembers details.members) true) =
      .ok details := by
  obtain ⟨fields, isRead, isDepth, holds⟩ := Fields.exists_ofRaw
    (rfl : Value.object details.members = .object _) (by omega : 1 < depth)
    (distinct_columns details.category) (details.passes_columns (by omega))
  have isDetails := details.ofFields_of_holds (by omega) holds
  rw [Raw.ofValue] at isRead
  unfold readColumns
  split
  next isSheet _ =>
    rw [isSheet] at isDetails
    exact isDetails
  next =>
    rw [isRead]
    exact isDetails

/-! ## The tag -/

theorem member_ne_category (details : DocumentDetails) :
    ∀ member ∈ details.members, member.1 ≠ "category" := by
  cases details <;>
    simp [members, SpaTherapistDetails.members, ManagerSalaryDetails.members,
      ExperienceLetterDetails.members, AppointmentLetterDetails.members, InvoiceDetails.members,
      IdCardDetails.members]

theorem exact_members (details : DocumentDetails) :
    ∀ member ∈ details.members, member.2.Exact 1 := by
  cases details <;>
    simp [members, SpaTherapistDetails.members, ManagerSalaryDetails.members,
      ExperienceLetterDetails.members, AppointmentLetterDetails.members, InvoiceDetails.members,
      IdCardDetails.members, Value.Exact.string]

/-- Members that are no tag are left for the columns. -/
theorem splitTag_ofMembers {levels : Nat} (found : Option Category)
    {members : List (String × Value)} (noTag : ∀ member ∈ members, member.1 ≠ "category")
    (exact : ∀ member ∈ members, member.2.Exact levels) (deep : levels < depth) :
    splitTag depth found (Raw.ofMembers members) = .ok (found, Raw.ofMembers members) := by
  induction members with
  | nil => rfl
  | cons member rest hypothesis =>
      obtain ⟨name, value⟩ := member
      have isName : Json.textOf (.ofChars (name.toList.flatMap Json.escapeChar)) = .ok name :=
        Json.textOf_escaped name
      have isValue := Raw.toValue_ofValue (exact (name, value) (.head _)) deep
      have isRest := hypothesis (fun other member => noTag other (.tail _ member))
        fun other member => exact other (.tail _ member)
      rw [Raw.ofMembers, splitTag]
      simp only [isName, isValue, isRest, noTag (name, value) (.head _), bind, Except.bind,
        if_false]
      rfl

/-- Details of every category are read back. -/
theorem decoder_toValue (details : DocumentDetails) (deep : 2 < depth) :
    decoder depth (Raw.ofValue details.toValue) = .ok details := by
  have isTag : tagDecoder (depth - 1) (Raw.ofValue (.string details.category.tag)) =
      .ok details.category :=
    Decoder.textOfForm_ofValue _ details.category.ofTag?_tag
  have isName : Json.textOf (.ofChars ("category".toList.flatMap Json.escapeChar)) =
      .ok "category" :=
    Json.textOf_escaped "category"
  have isSplit := splitTag_ofMembers (some details.category) details.member_ne_category
    details.exact_members (by omega : 1 < depth - 1)
  rw [toValue, Raw.ofValue, Raw.ofMembers, decoder]
  simp only [Raw.enter_of_lt (by omega : 1 < depth), splitTag, isName, isTag, isSplit, bind,
    Except.bind]
  exact details.readColumns_members deep

end Record.DocumentDetails

end CertPress
