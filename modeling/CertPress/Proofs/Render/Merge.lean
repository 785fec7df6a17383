import CertPress.Proofs.Markup.Paths
import CertPress.Proofs.Render.Normal

/-!
# The merge of a payload with trusted facts

What the data of a render has at each key.  The values that a key may have lie in layers, and
the topmost layer with the key gives its value: the trusted facts, the table rows that are
derived from the payload, the values of the payload that hold, the defaults, the other values
of the payload, and the list that is derived for an invoice without one.

An invoice has its lines twice, as a list and as table rows.  Both show the same lines unless
the payload has some other value in place of the list.
-/

namespace CertPress.Context

open Json (Value Object)
open Record (Authoritative Category Organization project)
open Markup (Node)

/-! ## The layers -/

/-- What a template sees of a field of the organization, nothing if there is none. -/
def organizationField (facts : Authoritative) (field : String) : Value :=
  match facts.organization with
  | some organization => Record.shown (organization.toValue.member? field)
  | none => .string ""

/-- The block of the organization, without fields if there is none. -/
def organizationBlock (facts : Authoritative) : Value :=
  match facts.organization with
  | some organization => .ofObject (project organization.toValue Organization.blockFields)
  | none => .object []

/-- The trusted facts under their keys. -/
def trustedEntries (facts : Authoritative) : List (String × Value) :=
  ("spa", organizationBlock facts) ::
    Organization.contextFields.map (fun (field, key) => (key, organizationField facts field)) ++
    [("date", .string (facts.date.getD "")),
     ("candidate_name", .string (facts.displayName.getD ""))]

/-- The table rows that are derived from a payload. -/
def derivedRows (category : Category) (data : Object) : List (String × Value) :=
  match category with
  | .managerSalary => [("salary_breakdown", .string (salaryTable data))]
  | .invoiceSpaBill => [("items_rows", .string (invoiceRows (invoiceItems data)))]
  | _ => []

/-- The list that is derived from a payload. -/
def derivedList (category : Category) (data : Object) : List (String × Value) :=
  match category with
  | .invoiceSpaBill => [("items", .array (invoiceItems data))]
  | _ => []

/-- The keys of what a category derives from a payload. -/
def derivedKeys : Category → List String
  | .managerSalary => ["salary_breakdown"]
  | .invoiceSpaBill => ["items_rows", "items"]
  | _ => []

/-- What a payload has at a key, unless the category excludes the field. -/
def submitted? (category : Category) (data : Object) (key : String) : Option Value :=
  if key ∈ category.excludedFields then none else data.get? key

variable {category : Category} {data : Object} {facts : Authoritative} {key : String}

/-! ## What each stage has at a key -/

theorem get?_project (record : Value) {exposed : List (String × String)}
    (distinct : (exposed.map Prod.snd).Nodup) (key : String) :
    (project record exposed).get? key =
      valueAt? key
        (exposed.map fun (field, key) => (key, Record.shown (record.member? field))) := by
  rw [project, Mapping.get?_ofList]
  rwa [List.map_map]

theorem get?_trusted (facts : Authoritative) (key : String) :
    (trusted facts).get? key = valueAt? key (trustedEntries facts) := by
  have distinct : (Organization.contextFields.map Prod.snd).Nodup := by decide
  have start (date name : Value) :
      (Mapping.ofList [("date", date), ("candidate_name", name)]).get? key =
        valueAt? key [("date", date), ("candidate_name", name)] :=
    Mapping.get?_ofList (by simp)
  rw [trustedEntries, List.cons_append, valueAt?_cons, valueAt?_append, ← start]
  cases issuer : facts.organization with
  | some organization =>
      have fields := get?_project organization.toValue distinct key
      simp only [trusted, organizationBlock, organizationField, issuer]
      rw [Mapping.get?_insert, Mapping.get?_insertAll (Mapping.nodup_keys _), ← fields,
        Mapping.get?.eq_def (project _ _)]
  | none =>
      simp only [trusted, organizationBlock, organizationField, issuer]
      rw [Mapping.get?_insert, Mapping.get?_insertAll (by rwa [List.map_map])]

/-- A payload has no say in the keys of trusted facts. -/
theorem get?_merge_other (notTrusted : key ∉ trustedKeys) :
    (merge category data facts).get? key = submitted? category data key := by
  have free := get?_trusted_other facts notTrusted
  rw [merge, addPayload_eq, submitted?]
  split
  next excluded =>
    rw [get?_addEntries_excluded _ excluded]
    simpa [Mapping.contains] using free
  next reaches => exact get?_addEntries_free free reaches

/-- Rows that are derived take the place of what was there, and a list does not. -/
theorem get?_addTables (context : Object) :
    (addTables category context data).get? key =
      (valueAt? key (derivedRows category data)).or
        ((context.get? key).or (valueAt? key (derivedList category data))) := by
  cases category with
  | managerSalary =>
      simp only [addTables, derivedRows, derivedList, Mapping.get?_insert, valueAt?_cons,
        valueAt?_nil, Option.or_none]
      split <;> rfl
  | invoiceSpaBill =>
      have kept (rows : Value) :
          (context.insert "items_rows" rows).contains "items" = context.contains "items" := by
        rw [Mapping.contains, Mapping.get?_insert, if_neg (by decide), Mapping.contains]
      simp only [addTables, derivedRows, derivedList, kept, valueAt?_cons, valueAt?_nil]
      by_cases isRows : "items_rows" = key
      · subst isRows
        split <;> simp
      · rw [if_neg isRows, Option.none_or]
        by_cases isItems : "items" = key
        · subst isItems
          rw [Mapping.contains]
          cases found : context.get? "items" <;> simp [found]
        · split <;> simp [isRows, isItems]
  | _ => simp [addTables, derivedRows, derivedList, valueAt?]

section Layers

variable {α : Type} (test : α → Bool) (value rest : Option α)

/-- A value that passes a test only stands in front of itself. -/
theorem filter_or_self : (value.filter test).or value = value := by
  cases value with
  | none => rfl
  | some value =>
      rw [Option.filter_some]
      split <;> rfl

theorem filter_or_or : (value.filter test).or (value.or rest) = value.or rest := by
  rw [← Option.or_assoc, filter_or_self]

end Layers

/-- A default takes the place of a value that does not hold. -/
theorem get?_addDefaults_eq {context : Object} {entries : List (String × Value)}
    (distinct : (entries.map Prod.fst).Nodup) :
    (addDefaults context entries).get? key =
      ((context.get? key).filter Markup.holds).or
        ((valueAt? key entries).or (context.get? key)) := by
  induction entries generalizing context with
  | nil => exact (filter_or_self _ _).symm
  | cons entry rest hypothesis =>
      rw [List.map_cons, List.nodup_cons] at distinct
      obtain ⟨isFirst, distinctRest⟩ := distinct
      rw [addDefaults_cons, valueAt?_cons]
      split
      next same =>
        subst same
        rw [get?_addDefaults_other isFirst, addDefault, Option.some_or]
        cases found : context.get? entry.1 with
        | none =>
            rw [Option.any_none, if_neg Bool.false_ne_true, Mapping.get?_insert, if_pos rfl]
            rfl
        | some value =>
            rw [Option.any_some, Option.filter_some]
            split
            next => rw [found, Option.some_or]
            next => rw [Mapping.get?_insert, if_pos rfl, Option.none_or]
      next differ =>
        have same : (addDefault context entry).get? key = context.get? key := by
          rw [addDefault]
          split
          next => rfl
          next => rw [Mapping.get?_insert, if_neg differ]
        rw [hypothesis distinctRest, same]

/-! ## The data of a render at a key -/

theorem mem_trustedKeys_iff (facts : Authoritative) :
    key ∈ trustedKeys ↔ (valueAt? key (trustedEntries facts)).isSome := by
  rw [← get?_trusted]
  refine ⟨contains_trusted facts, fun present => ?_⟩
  by_contra notTrusted
  exact Bool.false_ne_true ((get?_trusted_other facts notTrusted).symm.trans present)

theorem valueAt?_trustedEntries_other (other : key ∉ trustedKeys) :
    valueAt? key (trustedEntries facts) = none :=
  Option.not_isSome_iff_eq_none.mp fun present => other ((mem_trustedKeys_iff facts).mpr present)

theorem map_fst_derived (category : Category) (data : Object) :
    (derivedRows category data ++ derivedList category data).map Prod.fst =
      derivedKeys category := by
  cases category <;> rfl

theorem mem_derivedKeys_iff (data : Object) :
    key ∈ derivedKeys category ↔
      (valueAt? key (derivedRows category data)).isSome ∨
        (valueAt? key (derivedList category data)).isSome := by
  rw [← map_fst_derived category data, mem_keys_iff, valueAt?_append, Option.isSome_or,
    Bool.or_eq_true]

theorem mem_defaultKeys_iff (facts : Authoritative) :
    key ∈ defaultKeys category ↔ (valueAt? key (defaultsOf category facts)).isSome := by
  rw [← map_fst_defaultsOf category facts, mem_keys_iff]

/-- Nothing that is derived has a default. -/
theorem valueAt?_defaultsOf_derived (derived : key ∈ derivedKeys category) :
    valueAt? key (defaultsOf category facts) = none := by
  have apart : ∀ key ∈ derivedKeys category, key ∉ defaultKeys category := by
    cases category <;> decide
  rw [valueAt?_eq_none_iff, map_fst_defaultsOf]
  exact apart key derived

/-- The data of a render has at each key what the topmost layer with the key has. -/
theorem get?_normalize_eq (category : Category) (data : Object) (facts : Authoritative)
    (key : String) :
    (normalize category data facts).get? key =
      (valueAt? key (trustedEntries facts)).or
        ((valueAt? key (derivedRows category data)).or
          (((submitted? category data key).filter Markup.holds).or
            ((valueAt? key (defaultsOf category facts)).or
              ((submitted? category data key).or
                (valueAt? key (derivedList category data)))))) := by
  by_cases isTrusted : key ∈ trustedKeys
  · obtain ⟨value, found⟩ := Option.isSome_iff_exists.mp ((mem_trustedKeys_iff facts).mp isTrusted)
    rw [agree_normalize category data facts key isTrusted, get?_trusted, found, Option.some_or]
  · have distinct : ((defaultsOf category facts).map Prod.fst).Nodup := by
      rw [map_fst_defaultsOf]
      exact nodup_defaultKeys category
    rw [valueAt?_trustedEntries_other isTrusted, Option.none_or, normalize_eq,
      get?_addDefaults_eq distinct, get?_addTables, get?_merge_other isTrusted]
    by_cases derived : key ∈ derivedKeys category
    · rw [valueAt?_defaultsOf_derived derived, Option.none_or, Option.none_or, filter_or_self,
        filter_or_or]
    · have notDerived := mt (mem_derivedKeys_iff data).mpr derived
      rw [not_or, Option.not_isSome_iff_eq_none, Option.not_isSome_iff_eq_none] at notDerived
      rw [notDerived.1, notDerived.2, Option.none_or, Option.none_or, Option.or_none]

/-- Table rows that are derived stand over everything but trusted facts, which have other
keys. -/
theorem get?_normalize_derivedRows (facts : Authoritative) {value : Value}
    (derived : valueAt? key (derivedRows category data) = some value) :
    (normalize category data facts).get? key = some value := by
  have apart : ∀ key ∈ derivedKeys category, key ∉ trustedKeys := by
    cases category <;> decide
  have notTrusted := apart key ((mem_derivedKeys_iff data).mpr (.inl (by simp [derived])))
  rw [get?_normalize_eq, valueAt?_trustedEntries_other notTrusted, Option.none_or, derived,
    Option.some_or]

/-- The keys of the data of a render, and what it has at each of them. -/
theorem normalize_layers (category : Category) (data : Object) (facts : Authoritative)
    (key : String) :
    ((normalize category data facts).contains key ↔
      key ∈ trustedKeys ∨ (data.contains key ∧ key ∉ category.excludedFields) ∨
        key ∈ derivedKeys category ∨ key ∈ defaultKeys category) ∧
    (normalize category data facts).get? key =
      (valueAt? key (trustedEntries facts)).or
        ((valueAt? key (derivedRows category data)).or
          (((submitted? category data key).filter Markup.holds).or
            ((valueAt? key (defaultsOf category facts)).or
              ((submitted? category data key).or
                (valueAt? key (derivedList category data)))))) := by
  refine ⟨?_, get?_normalize_eq category data facts key⟩
  rw [Mapping.contains, get?_normalize_eq, mem_trustedKeys_iff facts,
    mem_derivedKeys_iff data, mem_defaultKeys_iff facts]
  have filtered := Option.isSome_of_isSome_filter Markup.holds (submitted? category data key)
  have submitted : (submitted? category data key).isSome ↔
      data.contains key ∧ key ∉ category.excludedFields := by
    rw [submitted?]
    split <;> simp_all [Mapping.contains]
  simp only [Option.isSome_or, Bool.or_eq_true, ← submitted]
  grind

/-! ## The lines of an invoice -/

/-- Whether data has the lines of an invoice both as a list and as table rows, so that a
template that goes through the list and one that shows the rows have the same lines. -/
structure Renditions (context : Object) (lines : List Value) : Prop where
  items : context.get? "items" = some (.array lines)
  rows : context.get? "items_rows" = some (.string (invoiceRows lines))
  repeated : ∀ body : List Node, (Node.each "items" body).render (.ofObject context) =
    String.join (lines.map fun line => Node.renderAll line body)
  shown : (Node.value "items_rows").render (.ofObject context) = invoiceRows lines

theorem lookup_items (context : Object) :
    Markup.lookup (.ofObject context) "items" = context.get? "items" :=
  Markup.lookup_single "items".toList (by decide) context

theorem lookup_items_rows (context : Object) :
    Markup.lookup (.ofObject context) "items_rows" = context.get? "items_rows" :=
  Markup.lookup_single "items_rows".toList (by decide) context

theorem Renditions.of_get? {context : Object} {lines : List Value}
    (items : context.get? "items" = some (.array lines))
    (rows : context.get? "items_rows" = some (.string (invoiceRows lines))) :
    Renditions context lines where
  items := items
  rows := rows
  repeated body := by rw [Node.render, lookup_items, items]
  shown := by
    rw [Node.render, lookup_items_rows, rows]
    rfl

/-- An invoice has the rows of its lines. -/
theorem get?_normalize_items_rows (data : Object) (facts : Authoritative) :
    (normalize .invoiceSpaBill data facts).get? "items_rows" =
      some (.string (invoiceRows (invoiceItems data))) :=
  get?_normalize_derivedRows facts rfl

/-- An invoice has its lines as a list, unless the payload has something else there. -/
theorem get?_normalize_items (data : Object) (facts : Authoritative) :
    (normalize .invoiceSpaBill data facts).get? "items" =
      (data.get? "items").or (some (.array (invoiceItems data))) := by
  have noRows : valueAt? "items" (derivedRows .invoiceSpaBill data) = none := rfl
  have list : valueAt? "items" (derivedList .invoiceSpaBill data) =
      some (.array (invoiceItems data)) := rfl
  rw [get?_normalize_eq, valueAt?_trustedEntries_other (by decide), noRows, list,
    valueAt?_defaultsOf_derived (by decide), Option.none_or, Option.none_or, Option.none_or,
    filter_or_or, submitted?, if_neg (by decide)]

theorem invoiceItems_of_array {data : Object} {lines : List Value}
    (own : data.get? "items" = some (.array lines)) : invoiceItems data = lines := by
  rw [invoiceItems.eq_def, own]

/-- The two renditions of the lines of an invoice agree exactly if the payload has no items
of its own or has them as a list. -/
theorem exists_renditions_iff (data : Object) (facts : Authoritative) :
    (∃ lines, Renditions (normalize .invoiceSpaBill data facts) lines) ↔
      ∀ items, data.get? "items" = some items → ∃ lines, items = .array lines := by
  constructor
  · rintro ⟨lines, renditions⟩ items own
    have kept := get?_normalize_items data facts
    rw [renditions.items, own, Option.some_or, Option.some.injEq] at kept
    exact ⟨lines, kept.symm⟩
  · intro isList
    refine ⟨invoiceItems data, .of_get? ?_ (get?_normalize_items_rows data facts)⟩
    rw [get?_normalize_items]
    cases own : data.get? "items" with
    | none => rfl
    | some items =>
        obtain ⟨lines, rfl⟩ := isList items own
        rw [invoiceItems_of_array own, Option.some_or]

/-- Items that are null stay, and the row of the parallel lists is next to them. -/
theorem not_exists_renditions_null :
    ¬ ∃ lines, Renditions (normalize .invoiceSpaBill
      (.ofList [("items", .null), ("service_names", .array [.string "Massage"]),
        ("amounts", .array [.string "1500"])]) ⟨some "2024-01-01", some "A", none⟩) lines := by
  rintro ⟨lines, renditions⟩
  have kept := get?_normalize_items (.ofList [("items", .null),
    ("service_names", .array [.string "Massage"]), ("amounts", .array [.string "1500"])])
    ⟨some "2024-01-01", some "A", none⟩
  rw [renditions.items, Mapping.get?_ofList (by decide)] at kept
  exact absurd kept (by simp [valueAt?_cons])

end CertPress.Context
