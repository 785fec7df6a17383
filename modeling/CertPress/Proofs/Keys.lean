import CertPress.Mapping

/-!
# Keys of mappings

Which keys a mapping has after entries were inserted, and when two mappings
agree on keys.
-/

namespace CertPress

theorem valueAt?_nil {α : Type} (key : String) :
    valueAt? key ([] : List (String × α)) = none := rfl

theorem valueAt?_cons {α : Type} (key : String) (entry : String × α)
    (rest : List (String × α)) :
    valueAt? key (entry :: rest) = if entry.1 = key then some entry.2 else valueAt? key rest := rfl

theorem mem_of_valueAt? {α : Type} {key : String} {value : α} {entries : List (String × α)}
    (found : valueAt? key entries = some value) : (key, value) ∈ entries := by
  induction entries with
  | nil => cases found
  | cons entry rest hypothesis =>
      rw [valueAt?] at found
      split at found
      next same =>
        cases found
        exact same ▸ .head _
      next => exact .tail _ (hypothesis found)

theorem isSome_valueAt? {α : Type} {key : String} {entries : List (String × α)} :
    (valueAt? key entries).isSome ↔ ∃ entry ∈ entries, entry.1 = key := by
  induction entries with
  | nil => simp [valueAt?]
  | cons entry rest hypothesis =>
      rw [valueAt?]
      split <;> simp_all

theorem mem_keys_iff {α : Type} {key : String} {entries : List (String × α)} :
    key ∈ entries.map Prod.fst ↔ (valueAt? key entries).isSome := by
  rw [isSome_valueAt?, List.mem_map]

theorem valueAt?_eq_none_iff {α : Type} {key : String} {entries : List (String × α)} :
    valueAt? key entries = none ↔ key ∉ entries.map Prod.fst := by
  rw [mem_keys_iff, Option.not_isSome_iff_eq_none]

theorem valueAt?_append {α : Type} (key : String) (left right : List (String × α)) :
    valueAt? key (left ++ right) = (valueAt? key left).or (valueAt? key right) := by
  induction left with
  | nil => rfl
  | cons entry rest hypothesis =>
      rw [List.cons_append, valueAt?_cons, valueAt?_cons, hypothesis]
      split <;> rfl

theorem valueAt?_map_of_mem {α : Type} {key : String} {keys : List String} (value : String → α)
    (member : key ∈ keys) :
    valueAt? key (keys.map fun key => (key, value key)) = some (value key) := by
  induction keys with
  | nil => cases member
  | cons first rest hypothesis =>
      rw [List.map_cons, valueAt?_cons]
      split
      next same =>
        obtain rfl : first = key := same
        rfl
      next differ => exact hypothesis ((List.mem_cons.mp member).resolve_left (Ne.symm differ))

namespace Mapping

variable {α : Type} {mapping left middle right : Mapping α} {key : String}

theorem contains_iff : mapping.contains key ↔ ∃ entry ∈ mapping.entries, entry.1 = key :=
  isSome_valueAt?

theorem contains_insert (added : String) (value : α) :
    (mapping.insert added value).contains key ↔ added = key ∨ mapping.contains key := by
  rw [contains, get?_insert, contains]
  split <;> simp_all

theorem contains_insertAll {entries : List (String × α)} :
    (mapping.insertAll entries).contains key ↔
      mapping.contains key ∨ ∃ entry ∈ entries, entry.1 = key := by
  induction entries generalizing mapping with
  | nil => simp [insertAll]
  | cons entry rest hypothesis =>
      rw [insertAll, List.foldl_cons, ← insertAll, hypothesis, contains_insert]
      simp only [List.mem_cons, exists_eq_or_imp, or_assoc, or_left_comm]

theorem contains_ofList {entries : List (String × α)} :
    (ofList entries).contains key ↔ ∃ entry ∈ entries, entry.1 = key := by
  rw [ofList, contains_insertAll]
  simp [contains]

/-- Whether two mappings have the same values at keys. -/
def Agree (keys : List String) (left right : Mapping α) : Prop :=
  ∀ key ∈ keys, left.get? key = right.get? key

namespace Agree

variable {keys : List String}

theorem refl (mapping : Mapping α) : Agree keys mapping mapping :=
  fun _ _ => rfl

theorem symm (agree : Agree keys left right) : Agree keys right left :=
  fun key member => (agree key member).symm

theorem trans (start : Agree keys left middle) (finish : Agree keys middle right) :
    Agree keys left right :=
  fun key member => (start key member).trans (finish key member)

/-- Mappings still agree after the same entry was inserted, and then also on its
key. -/
theorem insert (agree : Agree keys left right) (added : String) (value : α) :
    Agree (added :: keys) (left.insert added value) (right.insert added value) := by
  intro key member
  rw [get?_insert, get?_insert]
  split
  next => rfl
  next other =>
    rcases List.mem_cons.mp member with rfl | inKeys
    · exact absurd rfl other
    · exact agree key inKeys

/-- An entry with another key does not matter. -/
theorem insert_other {added : String} (other : added ∉ keys) (value : α) :
    Agree keys (mapping.insert added value) mapping := by
  intro key member
  have differ : added ≠ key := fun same => other (by rwa [same])
  rw [get?_insert, if_neg differ]

/-- A fold agrees with its start if each of its steps keeps the values at the
keys, as long as they are those of the start. -/
theorem foldl {β : Type} {step : Mapping α → β → Mapping α} {items : List β}
    (steps : ∀ result, Agree keys result mapping →
      ∀ item ∈ items, Agree keys (step result item) result) :
    Agree keys (items.foldl step mapping) mapping := by
  refine List.foldlRecOn (motive := fun result => Agree keys result mapping) items step
    (refl mapping) ?_
  intro result agree item member
  exact (steps result agree item member).trans agree

end Agree

theorem get?_insertAll_other {entries : List (String × α)}
    (other : ¬ ∃ entry ∈ entries, entry.1 = key) :
    (mapping.insertAll entries).get? key = mapping.get? key := by
  have agree : Agree [key] (mapping.insertAll entries) mapping := by
    refine Agree.foldl fun _ _ entry member => .insert_other (fun inKeys => other ?_) entry.2
    exact ⟨entry, member, List.mem_singleton.mp inKeys⟩
  exact agree key (by simp)

/-- A value of a mapping is an old one or that of an entry. -/
theorem get?_insertAll_eq_some {entries : List (String × α)} {value : α}
    (found : (mapping.insertAll entries).get? key = some value) :
    mapping.get? key = some value ∨ (key, value) ∈ entries := by
  induction entries generalizing mapping with
  | nil => exact .inl found
  | cons entry rest hypothesis =>
      rcases hypothesis found with inFirst | inRest
      · rw [get?_insert] at inFirst
        split at inFirst
        next same =>
          cases inFirst
          exact .inr (same ▸ .head _)
        next => exact .inl inFirst
      · exact .inr (.tail _ inRest)

/-- Each of the entries that were inserted is there, if no two of them have one key. -/
theorem get?_insertAll {entries : List (String × α)} (distinct : (entries.map Prod.fst).Nodup) :
    (mapping.insertAll entries).get? key = (valueAt? key entries).or (mapping.get? key) := by
  induction entries generalizing mapping with
  | nil => rfl
  | cons entry rest hypothesis =>
      rw [List.map_cons, List.nodup_cons] at distinct
      rw [insertAll, List.foldl_cons, ← insertAll, hypothesis distinct.2, get?_insert,
        valueAt?_cons]
      split
      next same =>
        subst same
        rw [valueAt?_eq_none_iff.mpr distinct.1, Option.none_or, Option.some_or]
      next => rfl

theorem get?_ofList {entries : List (String × α)} (distinct : (entries.map Prod.fst).Nodup) :
    (ofList entries).get? key = valueAt? key entries := by
  rw [ofList, get?_insertAll distinct, get?_empty, Option.or_none]

/-- Mappings with the same keys, and with the same values but at some hidden keys. -/
structure Alike (hidden : List String) (left right : Mapping α) : Prop where
  contains : ∀ key, left.contains key ↔ right.contains key
  values : ∀ key ∉ hidden, left.get? key = right.get? key

namespace Alike

variable {hidden : List String}

theorem refl (hidden : List String) (mapping : Mapping α) : Alike hidden mapping mapping :=
  ⟨fun _ => Iff.rfl, fun _ _ => rfl⟩

theorem mono {more : List String} (sub : hidden ⊆ more) (alike : Alike hidden left right) :
    Alike more left right :=
  ⟨alike.contains, fun key visible => alike.values key fun member => visible (sub member)⟩

/-- Mappings stay alike when both get a value at one key, if the key is hidden or the values
are the same. -/
theorem insert (alike : Alike hidden left right) {added : String} {leftValue rightValue : α}
    (same : added ∈ hidden ∨ leftValue = rightValue) :
    Alike hidden (left.insert added leftValue) (right.insert added rightValue) where
  contains key := by rw [contains_insert, contains_insert, alike.contains]
  values key visible := by
    rw [get?_insert, get?_insert]
    split
    next isAdded =>
      subst isAdded
      rw [same.resolve_left visible]
    next => exact alike.values key visible

theorem isEmpty_entries (alike : Alike hidden left right) :
    left.entries.isEmpty = right.entries.isEmpty := by
  have isEmpty_iff (mapping : Mapping α) :
      mapping.entries.isEmpty ↔ ∀ key, ¬ mapping.contains key := by
    simp only [contains_iff, List.isEmpty_iff, List.eq_nil_iff_forall_not_mem]
    exact ⟨fun none _ ⟨entry, member, _⟩ => none entry member,
      fun none entry member => none _ ⟨entry, member, rfl⟩⟩
  rw [Bool.eq_iff_iff, isEmpty_iff, isEmpty_iff]
  simp only [alike.contains]

end Alike

/-! ## Entries in key order -/

/-- An entry behind all the others is put at the end. -/
theorem insertEntry_last {entries : List (String × α)} {value : α}
    (last : ∀ entry ∈ entries, entry.1 < key) :
    insertEntry key value entries = entries ++ [(key, value)] := by
  induction entries with
  | nil => rfl
  | cons entry rest hypothesis =>
      have before := last entry (.head _)
      rw [insertEntry, if_neg (String.lt_asymm before), if_pos before,
        hypothesis fun other member => last other (.tail _ member), List.cons_append]

theorem entries_insertAll {entries : List (String × α)}
    (ordered : Ordered (mapping.entries ++ entries)) :
    (mapping.insertAll entries).entries = mapping.entries ++ entries := by
  induction entries generalizing mapping with
  | nil => simp [insertAll]
  | cons entry rest hypothesis =>
      have last : ∀ other ∈ mapping.entries, other.1 < entry.1 := fun other member =>
        (List.pairwise_append.mp ordered).2.2 other member entry (.head _)
      have inserted : (mapping.insert entry.1 entry.2).entries = mapping.entries ++ [entry] :=
        insertEntry_last last
      rw [insertAll, List.foldl_cons, ← insertAll, hypothesis, inserted, List.append_assoc,
        List.singleton_append]
      rw [inserted, List.append_assoc]
      exact ordered

/-- Entries in key order are those of their mapping. -/
theorem entries_ofList {entries : List (String × α)} (ordered : Ordered entries) :
    (ofList entries).entries = entries := by
  have inserted : (empty.insertAll entries).entries = [] ++ entries := entries_insertAll ordered
  exact inserted

theorem ofList_entries (mapping : Mapping α) : ofList mapping.entries = mapping := by
  have same := entries_ofList mapping.ordered
  cases mapping
  exact Mapping.mk.injEq .. ▸ same

/-! ## Mappings with the same lookups -/

theorem mem_entries_iff {value : α} :
    (key, value) ∈ mapping.entries ↔ mapping.get? key = some value := by
  refine ⟨fun member => ?_, mem_of_valueAt?⟩
  obtain ⟨entries, ordered⟩ := mapping
  show valueAt? key entries = some value
  induction entries with
  | nil => cases member
  | cons first rest hypothesis =>
      obtain ⟨isFirst, orderedRest⟩ := List.pairwise_cons.mp ordered
      rw [valueAt?]
      rcases List.mem_cons.mp member with same | inRest
      · rw [← same, if_pos rfl]
      · have before : first.1 < key := isFirst (key, value) inRest
        have differ : first.1 ≠ key := by
          rintro rfl
          exact String.lt_irrefl _ before
        rw [if_neg differ]
        exact hypothesis orderedRest inRest

theorem nodup_entries (mapping : Mapping α) : mapping.entries.Nodup :=
  mapping.ordered.imp fun {entry other} before same => by
    rw [same] at before
    exact String.lt_irrefl _ before

theorem nodup_keys (mapping : Mapping α) : (mapping.entries.map Prod.fst).Nodup :=
  List.pairwise_map.mpr <| mapping.ordered.imp fun {entry other} before same => by
    rw [same] at before
    exact String.lt_irrefl _ before

/-- Every mapping has one form, so mappings with the same lookups are equal. -/
theorem ext_get? (same : ∀ key, left.get? key = right.get? key) : left = right := by
  have members : ∀ entry, entry ∈ left.entries ↔ entry ∈ right.entries := fun (key, value) => by
    rw [mem_entries_iff, mem_entries_iff, same]
  have perm := (List.perm_ext_iff_of_nodup left.nodup_entries right.nodup_entries).mpr members
  have entries : left.entries = right.entries :=
    perm.eq_of_pairwise (fun entry other _ _ before after =>
      absurd (String.lt_trans before after) (String.lt_irrefl _)) left.ordered right.ordered
  cases left
  cases right
  cases entries
  rfl

theorem insert_of_get? {value : α} (found : mapping.get? key = some value) :
    mapping.insert key value = mapping := by
  refine ext_get? fun other => ?_
  rw [get?_insert]
  split
  next same => rw [← same, found]
  next => rfl

theorem get?_erase (mapping : Mapping α) (taken key : String) :
    (mapping.erase taken).get? key = if taken = key then none else mapping.get? key := by
  refine Option.ext fun value => ?_
  rw [← mem_entries_iff, erase, List.mem_filter, mem_entries_iff]
  split
  next same => simp [same]
  next differ => simp [Ne.symm differ]

end Mapping

end CertPress
