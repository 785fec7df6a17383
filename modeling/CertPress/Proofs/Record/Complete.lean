import CertPress.Proofs.Record.Origin

/-!
# Payloads that are complete

A document is refused if it has no organization although its category needs one, and else if
a required field is not satisfied.  Whether a field is satisfied is said about the payload and
the fallback name; the check is made on the details that were read from them.
-/

namespace CertPress.Record

open Json (Value Object)

/-! ## Satisfied fields -/

/-- Whether a payload, or else the fallback name, fills in a required field. -/
inductive Satisfied (category : Category) (data : Object) (fallback field : String) : Prop where
  /-- One of the fields that may fill in the column has a text. -/
  | text {key : String} {value : Value} : field ∉ category.listColumns →
      key ∈ category.payloadKeys field → data.get? key = some value → HasText value →
      Satisfied category data fallback field
  /-- The position of a salary certificate is filled in anyway. -/
  | position : category = .managerSalary → field = "position" →
      Satisfied category data fallback field
  /-- The fallback name fills in the name of the subject. -/
  | name : category.nameColumn? = some field → Text.blank fallback = false →
      Satisfied category data fallback field
  /-- The field gives a list that is not empty. -/
  | list {given first : Value} {rest : List Value} : field ∈ category.listColumns →
      data.get? field = some given → GivesList (first :: rest) given →
      Satisfied category data fallback field

section Satisfied

variable {category : Category} {data : Object} {fallback field : String}

/-- A column that has a text where the payload has none is the position of a salary certificate
or the name of the subject. -/
theorem exists_preset_iff :
    (∃ text ∈ category.preset? fallback field, Text.blank text = false) ↔
      (category = .managerSalary ∧ field = "position") ∨
        (category.nameColumn? = some field ∧ Text.blank fallback = false) := by
  unfold Category.preset?
  split
  next isName =>
    have notPosition : ¬ (category = .managerSalary ∧ field = "position") := by
      rintro ⟨rfl, rfl⟩
      exact absurd isName (by decide)
    simp [isName, notPosition]
  next notName =>
    simp only [notName, false_and, or_false]
    cases category with
    | managerSalary =>
        rw [Category.ownTexts, valueAt?_cons, valueAt?_nil]
        split
        next same => simpa [← same] using (by decide : Text.blank "Manager" = false)
        next differ => simpa using Ne.symm differ
    | invoiceSpaBill =>
        rw [Category.ownTexts, valueAt?_cons, valueAt?_nil]
        split
        next => simpa using (by decide : Text.blank "" = true)
        next => simp
    | _ => simp [Category.ownTexts, valueAt?]

theorem nameColumn?_ne_of_isList (isList : field ∈ category.listColumns) :
    category.nameColumn? ≠ some field := by
  have apart : ∀ field ∈ category.listColumns, category.nameColumn? ≠ some field := by
    cases category <;> decide
  exact apart field isList

/-- A list that is read for a column counts as filled in exactly if the payload gives it items. -/
theorem isMissing_textList (isList : field ∈ category.listColumns) :
    DocumentDetails.isMissing (some (.ofTexts (textList data field))) = false ↔
      Satisfied category data fallback field := by
  constructor
  · intro filled
    cases same : listItems data field with
    | nil => simp [textList, same, Value.ofTexts, DocumentDetails.isMissing] at filled
    | cons first rest =>
        obtain ⟨given, found, gives⟩ := givesList_of_listItems same (List.cons_ne_nil _ _)
        exact .list isList found gives
  · intro satisfied
    cases satisfied with
    | text notList => exact absurd isList notList
    | position isSalary isPosition =>
        subst isSalary isPosition
        exact absurd isList (by decide)
    | name isName => exact absurd isName (nameColumn?_ne_of_isList isList)
    | list _ found gives =>
        rw [textList_of_givesList found gives]
        rfl

theorem isMissing_ofText?_iff (text : Option String) :
    DocumentDetails.isMissing (some (.ofText? text)) = false ↔
      ∃ shown ∈ text, Text.blank shown = false := by
  cases text <;> simp [Value.ofText?, DocumentDetails.isMissing]

/-- A text that is read for a column counts as filled in exactly if the payload or the fallback
name gives it. -/
theorem isMissing_textColumn (notList : field ∉ category.listColumns) :
    DocumentDetails.isMissing (some (.ofText?
        ((firstTextField? data (category.payloadKeys field)).or
          (category.preset? fallback field)))) = false ↔
      Satisfied category data fallback field := by
  rw [isMissing_ofText?_iff]
  cases first : firstTextField? data (category.payloadKeys field) with
  | some text =>
      obtain ⟨key, inKeys, value, found, hasText⟩ :=
        isSome_firstTextField?_iff.mp (Option.isSome_of_eq_some first)
      have shown := (neat_firstTextField? first).shown
      exact iff_of_true ⟨text, rfl, shown⟩ (.text notList inKeys found hasText)
  | none =>
      rw [Option.none_or, exists_preset_iff]
      constructor
      · rintro (⟨isSalary, isPosition⟩ | ⟨isName, shown⟩)
        · exact .position isSalary isPosition
        · exact .name isName shown
      · intro satisfied
        cases satisfied with
        | text _ inKeys found hasText =>
            have filled := isSome_firstTextField?_iff.mpr ⟨_, inKeys, _, found, hasText⟩
            rw [first] at filled
            cases filled
        | position isSalary isPosition => exact .inl ⟨isSalary, isPosition⟩
        | name isName shown => exact .inr ⟨isName, shown⟩
        | list isList => exact absurd isList notList

/-- What is read for a column counts as filled in exactly if the payload satisfies it. -/
theorem isMissing_columnValue :
    DocumentDetails.isMissing (some (category.columnValue data fallback field)) = false ↔
      Satisfied category data fallback field := by
  unfold Category.columnValue
  split
  next isList => exact isMissing_textList isList
  next notList => exact isMissing_textColumn notList

/-- A required field of the details is missing exactly if the payload does not satisfy it. -/
theorem isMissing_ofData (required : field ∈ category.requiredFields) :
    DocumentDetails.isMissing
        ((DocumentDetails.ofData category data fallback).toValue.member? field) = true ↔
      ¬ Satisfied category data fallback field := by
  have isColumn : ∀ field ∈ category.requiredFields, field ∈ category.columnNames := by
    cases category <;> decide
  rw [DocumentDetails.member?_ofData category data fallback (isColumn field required),
    ← isMissing_columnValue, Bool.not_eq_false]

theorem firstMissing_ofData_eq_none_iff :
    (DocumentDetails.ofData category data fallback).firstMissing category.requiredFields = none ↔
      ∀ field ∈ category.requiredFields, Satisfied category data fallback field := by
  rw [DocumentDetails.firstMissing, List.find?_eq_none]
  refine forall₂_congr fun field required => ?_
  rw [isMissing_ofData required, not_not]

/-- Whether a field is the first of the required ones that a payload does not satisfy. -/
def FirstUnsatisfied (category : Category) (data : Object) (fallback field : String) : Prop :=
  ¬ Satisfied category data fallback field ∧
    ∃ front behind, category.requiredFields = front ++ field :: behind ∧
      ∀ other ∈ front, Satisfied category data fallback other

theorem firstMissing_ofData_eq_some_iff :
    (DocumentDetails.ofData category data fallback).firstMissing category.requiredFields =
        some field ↔
      FirstUnsatisfied category data fallback field := by
  rw [DocumentDetails.firstMissing, List.find?_eq_some_iff_append, FirstUnsatisfied]
  constructor
  · rintro ⟨missing, front, behind, fields, filled⟩
    have required : field ∈ category.requiredFields := by simp [fields]
    refine ⟨(isMissing_ofData required).mp missing, front, behind, fields, fun other before => ?_⟩
    have otherRequired : other ∈ category.requiredFields := by simp [fields, before]
    by_contra unsatisfied
    have isMissing := (isMissing_ofData otherRequired).mpr unsatisfied
    simpa [isMissing] using filled other before
  · rintro ⟨unsatisfied, front, behind, fields, satisfied⟩
    have required : field ∈ category.requiredFields := by simp [fields]
    refine ⟨(isMissing_ofData required).mpr unsatisfied, front, behind, fields,
      fun other before => ?_⟩
    have otherRequired : other ∈ category.requiredFields := by simp [fields, before]
    rw [Bool.not_eq_true', ← Bool.not_eq_true, isMissing_ofData otherRequired]
    exact not_not_intro (satisfied other before)

end Satisfied

/-- Whether a document has no organization although its category needs one. -/
def LacksOrganization (category : Category) (organizationId : Option Uuid) : Prop :=
  category ≠ .spaTherapist ∧ organizationId = none

theorem lacksOrganization_iff {category : Category} {organizationId : Option Uuid} :
    (category.requiresOrganization && organizationId.isNone) = true ↔
      LacksOrganization category organizationId := by
  rw [LacksOrganization, Bool.and_eq_true, Option.isNone_iff_eq_none]
  refine and_congr_left fun _ => ?_
  cases category <;> decide

/-- A submission is accepted exactly if it has the organization that its category needs and
satisfies every required field.  Otherwise it is refused for the organization, or else for the
first field in the order of the table that it does not satisfy. -/
theorem Document.create_outcomes (template : Template) (submission : Submission) :
    (∀ named, create template submission = .error (.organizationRequired named) ↔
      LacksOrganization template.category submission.organizationId ∧
        named = template.category) ∧
    ((∃ document, create template submission = .ok document) ↔
      ¬ LacksOrganization template.category submission.organizationId ∧
        ∀ field ∈ template.category.requiredFields,
          Satisfied template.category submission.data submission.fallbackName field) ∧
    ∀ field, create template submission = .error (.missingField field) ↔
      ¬ LacksOrganization template.category submission.organizationId ∧
        FirstUnsatisfied template.category submission.data submission.fallbackName field := by
  unfold create
  dsimp only
  by_cases lacks : LacksOrganization template.category submission.organizationId
  · rw [if_pos (lacksOrganization_iff.mpr lacks)]
    simp [lacks, eq_comm (a := template.category)]
  · rw [if_neg (mt lacksOrganization_iff.mp lacks)]
    simp only [lacks, not_false_eq_true, true_and, false_and, iff_false,
      ← firstMissing_ofData_eq_none_iff, ← firstMissing_ofData_eq_some_iff]
    split
    next field missing => simp [missing]
    next complete => simp [complete]

end CertPress.Record
