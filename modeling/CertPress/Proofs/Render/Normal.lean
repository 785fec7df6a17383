import CertPress.Proofs.Render.Payload
import CertPress.Proofs.Text.Trim

/-!
# Data that is complete

The data of a render may come back as a payload.  Then nothing is left to do: data
is complete if it has the trusted facts, none of the excluded fields, the tables
that are derived from itself and a value for every default.  What is normalized is
complete, and complete data is normalized to itself.
-/

namespace CertPress.Context

open Json (Value Object)
open Record (Authoritative Category textList)
open Mapping (Agree)

/-- The defaults of a category for trusted facts. -/
def defaultsOf (category : Category) (facts : Authoritative) : List (String × Value) :=
  defaults category (facts.displayName.getD "") (facts.date.getD "")

/-- Whether data needs nothing more as the data of a render. -/
structure Complete (category : Category) (facts : Authoritative) (context : Object) : Prop where
  trusted : Agree trustedKeys context (Context.trusted facts)
  excluded : ∀ key ∈ category.excludedFields, key ∉ trustedKeys → context.get? key = none
  tables : addTables category context context = context
  filled : ∀ entry ∈ defaultsOf category facts,
    (context.get? entry.1).any Markup.holds ∨ context.get? entry.1 = some entry.2

/-! ## Complete data stays -/

/-- An excluded field of a payload is not added. -/
theorem get?_addEntries_excluded {category : Category} {context : Object} {key : String}
    (entries : List (String × Value)) (excluded : key ∈ category.excludedFields) :
    (entries.foldl (addEntry category) context).get? key = context.get? key := by
  have agree : Agree [key] (entries.foldl (addEntry category) context) context := by
    refine Agree.foldl fun result _ entry _ => ?_
    unfold addEntry
    split
    next => exact .refl result
    next reaches =>
      refine .insert_other (fun isKey => reaches ?_) entry.2
      obtain rfl := List.mem_singleton.mp isKey
      simp [excluded]
  exact agree key (by simp)

namespace Complete

variable {category : Category} {facts : Authoritative} {context : Object}

theorem addPayload_eq_self (complete : Complete category facts context) :
    addPayload category (Context.trusted facts) context = context := by
  refine Mapping.ext_get? fun key => ?_
  rw [addPayload_eq]
  by_cases isTrusted : key ∈ trustedKeys
  · rw [get?_addEntries_taken (contains_trusted facts isTrusted), complete.trusted key isTrusted]
  · have free := get?_trusted_other facts isTrusted
    by_cases isExcluded : key ∈ category.excludedFields
    · rw [get?_addEntries_excluded _ isExcluded, complete.excluded key isExcluded isTrusted]
      simpa [Mapping.contains] using free
    · exact get?_addEntries_free free isExcluded

end Complete

/-- Fill in one default, unless its key has a value that holds. -/
def addDefault (context : Object) (entry : String × Value) : Object :=
  if (context.get? entry.1).any Markup.holds then context else context.insert entry.1 entry.2

theorem addDefaults_cons (context : Object) (entry : String × Value)
    (rest : List (String × Value)) :
    addDefaults context (entry :: rest) = addDefaults (addDefault context entry) rest := rfl

/-- Defaults change nothing where each of them holds or is there already. -/
theorem addDefaults_eq_self {context : Object} {entries : List (String × Value)}
    (filled : ∀ entry ∈ entries,
      (context.get? entry.1).any Markup.holds ∨ context.get? entry.1 = some entry.2) :
    addDefaults context entries = context := by
  induction entries with
  | nil => rfl
  | cons entry rest hypothesis =>
      have same : addDefault context entry = context := by
        rw [addDefault]
        rcases filled entry (.head _) with isHeld | isThere
        · rw [if_pos isHeld]
        · rw [Mapping.insert_of_get? isThere, ite_self]
      rw [addDefaults_cons, same]
      exact hypothesis fun other member => filled other (.tail _ member)

/-- Complete data is normalized to itself. -/
theorem Complete.normalize_eq_self {category : Category} {facts : Authoritative}
    {context : Object} (complete : Complete category facts context) :
    normalize category context facts = context := by
  rw [normalize, complete.addPayload_eq_self, complete.tables]
  exact addDefaults_eq_self complete.filled

/-! ## What is normalized is complete -/

theorem get?_addDefaults_other {context : Object} {key : String} {entries : List (String × Value)}
    (other : key ∉ entries.map Prod.fst) :
    (addDefaults context entries).get? key = context.get? key := by
  have agree : Agree [key] (addDefaults context entries) context := by
    refine Agree.foldl fun result _ entry member => ?_
    split
    next => exact .refl result
    next =>
      refine .insert_other (fun isKey => other ?_) entry.2
      obtain rfl := List.mem_singleton.mp isKey
      exact List.mem_map_of_mem member
  exact agree key (by simp)

/-- Every default holds or is there once all are filled in, as no key has two. -/
theorem filled_addDefaults {context : Object} {entries : List (String × Value)}
    (distinct : (entries.map Prod.fst).Nodup) {entry : String × Value} (member : entry ∈ entries) :
    ((addDefaults context entries).get? entry.1).any Markup.holds ∨
      (addDefaults context entries).get? entry.1 = some entry.2 := by
  induction entries generalizing context with
  | nil => exact absurd member List.not_mem_nil
  | cons first rest hypothesis =>
      rw [List.map_cons, List.nodup_cons] at distinct
      obtain ⟨isFirst, distinctRest⟩ := distinct
      rcases List.mem_cons.mp member with rfl | inRest
      · rw [addDefaults_cons, get?_addDefaults_other isFirst, addDefault]
        split
        next isHeld => exact .inl isHeld
        next => exact .inr (by rw [Mapping.get?_insert, if_pos rfl])
      · exact hypothesis distinctRest inRest

/-- The keys of the defaults of a category. -/
def defaultKeys (category : Category) : List String :=
  (defaults category "" "").map Prod.fst

theorem map_fst_defaultsOf (category : Category) (facts : Authoritative) :
    (defaultsOf category facts).map Prod.fst = defaultKeys category := by
  cases category <;> rfl

theorem nodup_defaultKeys (category : Category) : (defaultKeys category).Nodup := by
  cases category <;> decide

/-- No table and no default brings back a field that a category excludes. -/
theorem excluded_other {category : Category} {key : String}
    (excluded : key ∈ category.excludedFields) (notTrusted : key ∉ trustedKeys) :
    key ∉ tableKeys ∧ key ∉ defaultKeys category := by
  have apart : ∀ key ∈ category.excludedFields, key ∉ trustedKeys →
      key ∉ tableKeys ∧ key ∉ defaultKeys category := by
    cases category <;> decide
  exact apart key excluded notTrusted

section Normalized

variable {category : Category} {data : Object} {facts : Authoritative} {key : String}

/-- The trusted facts with the fields of a payload that are free. -/
def merge (category : Category) (data : Object) (facts : Authoritative) : Object :=
  addPayload category (trusted facts) data

theorem normalize_eq (category : Category) (data : Object) (facts : Authoritative) :
    normalize category data facts =
      addDefaults (addTables category (merge category data facts) data)
        (defaultsOf category facts) := rfl

theorem get?_normalize_notDefault (notDefault : key ∉ defaultKeys category) :
    (normalize category data facts).get? key =
      (addTables category (merge category data facts) data).get? key := by
  rw [normalize_eq, get?_addDefaults_other (by rwa [map_fst_defaultsOf])]

/-- A field of a payload that nothing else has a say in is in the data as it is. -/
theorem get?_normalize_free (notTrusted : key ∉ trustedKeys)
    (reaches : key ∉ category.excludedFields) (notTable : key ∉ tableKeys)
    (notDefault : key ∉ defaultKeys category) :
    (normalize category data facts).get? key = data.get? key := by
  have other : ∀ table ∈ tableKeys, table ∉ [key] := by
    intro table isTable isKey
    exact notTable (List.mem_singleton.mp isKey ▸ isTable)
  rw [get?_normalize_notDefault notDefault, agree_addTables_other other _ _ _ key (by simp)]
  exact get?_addEntries_free (get?_trusted_other facts notTrusted) reaches

theorem get?_normalize_excluded (excluded : key ∈ category.excludedFields)
    (notTrusted : key ∉ trustedKeys) : (normalize category data facts).get? key = none := by
  obtain ⟨notTable, notDefault⟩ := excluded_other excluded notTrusted
  have other : ∀ table ∈ tableKeys, table ∉ [key] := by
    intro table isTable isKey
    exact notTable (List.mem_singleton.mp isKey ▸ isTable)
  rw [get?_normalize_notDefault notDefault, agree_addTables_other other _ _ _ key (by simp),
    merge, addPayload_eq, get?_addEntries_excluded _ excluded]
  simpa [Mapping.contains] using get?_trusted_other facts notTrusted

end Normalized

/-! ## Tables of complete data -/

theorem SalaryRow.blank_html (row : SalaryRow) : Text.blank row.html = false := by
  have start : Text.blank "<tr><td>" = false := by decide
  simp [SalaryRow.html, Text.blank_append, start]

theorem blank_salaryHtml (rows : List SalaryRow) : Text.blank (salaryHtml rows) = false := by
  rw [salaryHtml]
  split
  next => decide
  next filled =>
    cases shown : rows.filter SalaryRow.shown with
    | nil => simp [shown] at filled
    | cons row rest =>
        rw [List.map_cons, String.join_cons, Text.blank_append, row.blank_html, Bool.false_and]

/-- A salary table always shows something. -/
theorem blank_salaryTable (data : Object) : Text.blank (salaryTable data) = false := by
  simp only [salaryTable]
  split
  next html _ =>
    split
    next => exact blank_salaryHtml _
    next shown => simpa using shown
  next => split <;> exact blank_salaryHtml _
  next => exact blank_salaryHtml _

/-- Finished HTML is kept. -/
theorem salaryTable_of_string {data : Object} {html : String}
    (found : data.get? "salary_breakdown" = some (.string html))
    (shown : Text.blank html = false) : salaryTable data = html := by
  simp [salaryTable, found, shown]

theorem addTables_salary (data : Object) (facts : Authoritative) :
    addTables .managerSalary (normalize .managerSalary data facts)
      (normalize .managerSalary data facts) = normalize .managerSalary data facts := by
  have found : (normalize .managerSalary data facts).get? "salary_breakdown" =
      some (.string (salaryTable data)) := by
    rw [get?_normalize_notDefault (by decide), addTables, Mapping.get?_insert, if_pos rfl]
  rw [addTables, salaryTable_of_string found (blank_salaryTable data)]
  exact Mapping.insert_of_get? found

/-- The items of an invoice depend on its own items and on the lists that they are
put together from. -/
theorem invoiceItems_congr {left right : Object}
    (agree : Agree ("items" :: invoiceLists.map Prod.fst) left right) :
    invoiceItems left = invoiceItems right := by
  have lists : invoiceLists.map (fun pair => (pair.2, textList left pair.1)) =
      invoiceLists.map fun pair => (pair.2, textList right pair.1) := by
    refine List.map_congr_left fun pair member => ?_
    have same := agree pair.1 (.tail _ (List.mem_map_of_mem member))
    simp only [textList, Record.listItems, same]
  unfold invoiceItems
  rw [agree "items" (.head _)]
  split
  next => rfl
  next =>
    exact congrArg (fun columns => (List.range ((columns.map fun column =>
      column.2.length).foldl max 0)).map (invoiceLine columns)) lists

/-- The items of an invoice are there once it was normalized, and they are those of
the payload also if that has only the lists. -/
theorem invoiceItems_normalize (data : Object) (facts : Authoritative) :
    invoiceItems (normalize .invoiceSpaBill data facts) = invoiceItems data ∧
      (normalize .invoiceSpaBill data facts).contains "items" := by
  have merged : (merge .invoiceSpaBill data facts).get? "items" = data.get? "items" :=
    get?_addEntries_free (get?_trusted_other facts (by decide)) (by decide)
  have out : (normalize .invoiceSpaBill data facts).get? "items" =
      (addTables .invoiceSpaBill (merge .invoiceSpaBill data facts) data).get? "items" :=
    get?_normalize_notDefault (by decide)
  cases own : data.get? "items" with
  | none =>
      have found : (normalize .invoiceSpaBill data facts).get? "items" =
          some (.array (invoiceItems data)) := by
        simp [out, addTables, Mapping.contains, merged, own]
      refine ⟨?_, by simp [Mapping.contains, found]⟩
      rw [invoiceItems.eq_def (normalize .invoiceSpaBill data facts), found]
  | some items =>
      have found : (normalize .invoiceSpaBill data facts).get? "items" = some items := by
        simp [out, addTables, Mapping.contains, merged, own]
      refine ⟨invoiceItems_congr fun key member => ?_, by simp [Mapping.contains, found]⟩
      rcases List.mem_cons.mp member with rfl | inLists
      · rw [found, own]
      · have free : ∀ key ∈ invoiceLists.map Prod.fst, key ∉ trustedKeys ∧
            key ∉ Category.excludedFields .invoiceSpaBill ∧ key ∉ tableKeys ∧
            key ∉ defaultKeys .invoiceSpaBill := by decide
        obtain ⟨notTrusted, reaches, notTable, notDefault⟩ := free key inLists
        exact get?_normalize_free notTrusted reaches notTable notDefault

theorem addTables_invoice (data : Object) (facts : Authoritative) :
    addTables .invoiceSpaBill (normalize .invoiceSpaBill data facts)
      (normalize .invoiceSpaBill data facts) = normalize .invoiceSpaBill data facts := by
  have found : (normalize .invoiceSpaBill data facts).get? "items_rows" =
      some (.string (invoiceRows (invoiceItems data))) := by
    rw [get?_normalize_notDefault (by decide), addTables]
    split
    next => rw [Mapping.get?_insert, if_pos rfl]
    next => rw [Mapping.get?_insert, if_neg (by decide), Mapping.get?_insert, if_pos rfl]
  obtain ⟨sameItems, present⟩ := invoiceItems_normalize data facts
  simp only [addTables]
  rw [sameItems, Mapping.insert_of_get? found, if_pos present]

/-- The tables of what is normalized are derived from it again. -/
theorem addTables_normalize (category : Category) (data : Object) (facts : Authoritative) :
    addTables category (normalize category data facts) (normalize category data facts) =
      normalize category data facts := by
  cases category with
  | managerSalary => exact addTables_salary data facts
  | invoiceSpaBill => exact addTables_invoice data facts
  | spaTherapist => rfl
  | experienceLetter => rfl
  | appointmentLetter => rfl
  | idCard => rfl
  | dailySheet => rfl

/-- What is normalized is complete. -/
theorem complete_normalize (category : Category) (data : Object) (facts : Authoritative) :
    Complete category facts (normalize category data facts) where
  trusted := agree_normalize category data facts
  excluded _ excluded notTrusted := get?_normalize_excluded excluded notTrusted
  tables := addTables_normalize category data facts
  filled _ member := by
    apply filled_addDefaults ?_ member
    rw [map_fst_defaultsOf]
    exact nodup_defaultKeys category

/-- Normalizing again changes nothing. -/
theorem normalize_normalize (category : Category) (data : Object) (facts : Authoritative) :
    normalize category (normalize category data facts) facts = normalize category data facts :=
  (complete_normalize category data facts).normalize_eq_self

end CertPress.Context
