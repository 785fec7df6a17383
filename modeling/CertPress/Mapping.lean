/-!
# Mappings

A finite mapping from text keys to values, kept in the order of its keys.  The
order is that of the code points, which is also that of the UTF-8 bytes.  Since
every mapping has one form, two mappings with the same lookups are equal.
-/

namespace CertPress

/-- Put an entry into a list of entries in key order, in place of an entry with
the same key. -/
def insertEntry {α : Type} (key : String) (value : α) :
    List (String × α) → List (String × α)
  | [] => [(key, value)]
  | entry :: rest =>
      if key < entry.1 then (key, value) :: entry :: rest
      else if entry.1 < key then entry :: insertEntry key value rest
      else (key, value) :: rest

/-- The value of the first entry with a key. -/
def valueAt? {α : Type} (key : String) : List (String × α) → Option α
  | [] => none
  | entry :: rest => if entry.1 = key then some entry.2 else valueAt? key rest

/-- Entries in strictly increasing key order. -/
def Ordered {α : Type} (entries : List (String × α)) : Prop :=
  entries.Pairwise (·.1 < ·.1)

theorem mem_insertEntry {α : Type} {key : String} {value : α}
    {entries : List (String × α)} {entry : String × α}
    (member : entry ∈ insertEntry key value entries) :
    entry = (key, value) ∨ entry ∈ entries := by
  induction entries with
  | nil => simpa [insertEntry] using member
  | cons head rest hypothesis =>
      simp only [insertEntry] at member
      split at member
      · simpa using member
      · split at member
        · rcases List.mem_cons.mp member with same | later
          · exact .inr (by simp [same])
          · rcases hypothesis later with same | inRest
            · exact .inl same
            · exact .inr (List.mem_cons_of_mem _ inRest)
        · rcases List.mem_cons.mp member with same | inRest
          · exact .inl same
          · exact .inr (List.mem_cons_of_mem _ inRest)

theorem ordered_insertEntry {α : Type} (key : String) (value : α)
    {entries : List (String × α)} (ordered : Ordered entries) :
    Ordered (insertEntry key value entries) := by
  induction entries with
  | nil => simp [insertEntry, Ordered]
  | cons head rest hypothesis =>
      obtain ⟨headFirst, restOrdered⟩ := List.pairwise_cons.mp ordered
      simp only [insertEntry]
      split
      next before =>
        refine List.pairwise_cons.mpr ⟨fun entry member => ?_, ordered⟩
        rcases List.mem_cons.mp member with rfl | inRest
        · exact before
        · exact String.lt_trans before (headFirst entry inRest)
      next notBefore =>
        split
        next after =>
          refine List.pairwise_cons.mpr ⟨fun entry member => ?_, hypothesis restOrdered⟩
          rcases mem_insertEntry member with rfl | inRest
          · exact after
          · exact headFirst entry inRest
        next notAfter =>
          have same : key = head.1 := String.le_antisymm notAfter notBefore
          refine List.pairwise_cons.mpr ⟨fun entry member => ?_, restOrdered⟩
          simpa [same] using headFirst entry member

/-- A mapping from text keys to values. -/
structure Mapping (α : Type) where
  entries : List (String × α)
  ordered : Ordered entries

namespace Mapping

variable {α : Type}

/-- The mapping without entries. -/
def empty : Mapping α := ⟨[], List.Pairwise.nil⟩

instance : Inhabited (Mapping α) := ⟨empty⟩

instance [DecidableEq α] : DecidableEq (Mapping α) := fun left right =>
  match decEq left.entries right.entries with
  | .isTrue same => .isTrue (by cases left; cases right; simp_all)
  | .isFalse differ => .isFalse fun same => differ (same ▸ rfl)

instance [Repr α] : Repr (Mapping α) := ⟨fun mapping => reprPrec mapping.entries⟩

/-- The value of a key. -/
def get? (mapping : Mapping α) (key : String) : Option α :=
  valueAt? key mapping.entries

/-- Whether a key has a value. -/
def contains (mapping : Mapping α) (key : String) : Bool :=
  (mapping.get? key).isSome

/-- Give a key a value, in place of its old one. -/
def insert (mapping : Mapping α) (key : String) (value : α) : Mapping α :=
  ⟨insertEntry key value mapping.entries, ordered_insertEntry key value mapping.ordered⟩

/-- Take a key out. -/
def erase (mapping : Mapping α) (key : String) : Mapping α :=
  ⟨mapping.entries.filter (·.1 != key), List.Pairwise.filter _ mapping.ordered⟩

/-- Insert entries one after another, so that the last one with a key stays. -/
def insertAll (mapping : Mapping α) (entries : List (String × α)) : Mapping α :=
  entries.foldl (fun result entry => result.insert entry.1 entry.2) mapping

/-- The mapping of a list of entries, of which the last one with a key stays. -/
def ofList (entries : List (String × α)) : Mapping α :=
  empty.insertAll entries

theorem valueAt?_insertEntry (key other : String) (value : α)
    (entries : List (String × α)) :
    valueAt? other (insertEntry key value entries) =
      if key = other then some value else valueAt? other entries := by
  induction entries with
  | nil => simp [insertEntry, valueAt?]
  | cons head rest hypothesis =>
      simp only [insertEntry]
      split
      · simp [valueAt?]
      · split
        next notBefore after =>
          by_cases headIs : head.1 = other
          · have differ : key ≠ other := fun same =>
              String.lt_irrefl key (by rw [headIs, ← same] at after; exact after)
            simp [valueAt?, headIs, differ]
          · simp [valueAt?, headIs, hypothesis]
        next notBefore notAfter =>
          have same : key = head.1 := String.le_antisymm notAfter notBefore
          by_cases keyIs : key = other
          · simp [valueAt?, keyIs]
          · have headIsNot : ¬ head.1 = other := by rwa [← same]
            simp [valueAt?, keyIs, headIsNot]

@[simp] theorem get?_empty (key : String) : (empty : Mapping α).get? key = none := rfl

@[simp] theorem get?_insert (mapping : Mapping α) (key other : String) (value : α) :
    (mapping.insert key value).get? other =
      if key = other then some value else mapping.get? other :=
  valueAt?_insertEntry key other value mapping.entries

end Mapping

end CertPress
