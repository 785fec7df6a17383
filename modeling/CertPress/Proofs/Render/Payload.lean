import CertPress.Proofs.Render.Trust

/-!
# Values of a payload in a render

A key that neither trusted facts nor the category of a document take has the value
of the payload, as long as that holds.
-/

namespace CertPress.Context

open Json (Value Object)
open Record (Authoritative Category Organization)
open Mapping (Agree)

theorem get?_trusted_other (facts : Authoritative) {key : String} (other : key ∉ trustedKeys) :
    (trusted facts).contains key = false := by
  rw [Bool.eq_false_iff]
  intro present
  apply other
  have found : key = "date" ∨ key = "candidate_name" ∨ key = "spa" ∨
      ∃ field ∈ Organization.contextFields, field.2 = key := by
    rw [trusted] at present
    split at present
    next =>
      rw [Mapping.contains_insert, Mapping.contains_insertAll, Mapping.contains_ofList,
        exists_entry_project] at present
      simp_all [eq_comm, or_assoc, or_comm, or_left_comm]
    next =>
      rw [Mapping.contains_insert, Mapping.contains_insertAll, Mapping.contains_ofList,
        exists_entry_blank] at present
      simp_all [eq_comm, or_assoc, or_comm, or_left_comm]
  simpa [trustedKeys] using found

/-! ## The merge -/

/-- Add one field of a payload, unless its key is taken or excluded. -/
def addEntry (category : Category) (context : Object) (entry : String × Value) : Object :=
  if category.excludedFields.contains entry.1 || context.contains entry.1 then context
  else context.insert entry.1 entry.2

section Merge

variable {category : Category} {context : Object} {key : String} {entries : List (String × Value)}

theorem addPayload_eq (category : Category) (context data : Object) :
    addPayload category context data = data.entries.foldl (addEntry category) context := rfl

/-- A key that is taken stays as it is. -/
theorem get?_addEntries_taken (taken : context.contains key) :
    (entries.foldl (addEntry category) context).get? key = context.get? key := by
  have agree : Agree [key] (entries.foldl (addEntry category) context) context := by
    refine Agree.foldl fun result same entry _ => ?_
    unfold addEntry
    split
    next => exact .refl result
    next free =>
      refine .insert_other (fun isKey => free ?_) entry.2
      obtain rfl := List.mem_singleton.mp isKey
      rw [Mapping.contains, ← same _ (by simp), ← Mapping.contains] at taken
      simp [taken]
  exact agree key (by simp)

/-- A free key gets the first value that the payload has for it. -/
theorem get?_addEntries_free (free : context.contains key = false)
    (reaches : key ∉ category.excludedFields) :
    (entries.foldl (addEntry category) context).get? key = valueAt? key entries := by
  induction entries generalizing context with
  | nil => simpa [Mapping.contains, valueAt?] using free
  | cons entry rest hypothesis =>
      rw [List.foldl_cons, valueAt?]
      split
      next same =>
        subst same
        have added : addEntry category context entry = context.insert entry.1 entry.2 := by
          rw [addEntry, if_neg (by simp [free, reaches])]
        rw [added, get?_addEntries_taken ((Mapping.contains_insert _ _).mpr (.inl rfl)),
          Mapping.get?_insert, if_pos rfl]
      next differ =>
        apply hypothesis
        unfold addEntry
        split
        next => exact free
        next => rw [Mapping.contains, Mapping.get?_insert, if_neg differ, ← Mapping.contains, free]

end Merge

/-- The keys of the tables that are derived from a payload. -/
def tableKeys : List String := ["salary_breakdown", "items_rows", "items"]

theorem agree_addTables_other {keys : List String} (other : ∀ key ∈ tableKeys, key ∉ keys)
    (category : Category) (context data : Object) :
    Agree keys (addTables category context data) context := by
  unfold addTables
  split
  next => exact .insert_other (other _ (by decide)) _
  next =>
    have rows : Agree keys (context.insert "items_rows"
        (.string (invoiceRows (invoiceItems data)))) context :=
      .insert_other (other _ (by decide)) _
    dsimp only
    split
    next => exact rows
    next => exact (Agree.insert_other (other _ (by decide)) _).trans rows
  next => exact .refl context

/-- Defaults change nothing at a key whose value holds. -/
theorem get?_addDefaults {context : Object} {key : String} {value : Value}
    (present : context.get? key = some value) (isHeld : Markup.holds value)
    (entries : List (String × Value)) :
    (addDefaults context entries).get? key = some value := by
  have agree : Agree [key] (addDefaults context entries) context := by
    refine Agree.foldl fun result same entry _ => ?_
    split
    next => exact .refl result
    next notHeld =>
      refine .insert_other (fun isKey => notHeld ?_) entry.2
      obtain rfl := List.mem_singleton.mp isKey
      rw [same _ (by simp), present]
      exact isHeld
  rw [agree key (by simp), present]

/-- A value of a payload that holds reaches the data of a render under every key that
is free for it. -/
theorem get?_normalize {category : Category} {data : Object} {key : String} {value : Value}
    (present : data.get? key = some value) (isHeld : Markup.holds value)
    (notTrusted : key ∉ trustedKeys) (reaches : key ∉ category.excludedFields)
    (notTable : key ∉ tableKeys) (facts : Authoritative) :
    (normalize category data facts).get? key = some value := by
  have merged : (addPayload category (trusted facts) data).get? key = some value := by
    rw [addPayload_eq, get?_addEntries_free (get?_trusted_other facts notTrusted) reaches]
    exact present
  have complete : (addTables category (addPayload category (trusted facts) data) data).get? key =
      some value := by
    have other : ∀ table ∈ tableKeys, table ∉ [key] := by
      intro table isTable isKey
      exact notTable (List.mem_singleton.mp isKey ▸ isTable)
    rw [agree_addTables_other other _ _ _ key (by simp), merged]
  exact get?_addDefaults complete isHeld _

end CertPress.Context
