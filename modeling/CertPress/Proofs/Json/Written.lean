import CertPress.Proofs.Action
import CertPress.Proofs.Json.Exact
import CertPress.Proofs.Json.Text

/-!
# Records that are read back

When a record is read from an object, each known member of the object is the value of its
field, since a known name may come once only.

A record is written as an object with a member for each of its fields, in their order.  If
each member is read back, all fields of the record are found, each with what was written
for it.
-/

namespace CertPress.Json

/-! ## Fields that were read -/

theorem Raw.ofMembers_eq (members : List (String × Value)) :
    Raw.ofMembers members = members.map fun (key, value) =>
      (Source.ofChars (escaped key.toList), Raw.ofValue value) := by
  induction members with
  | nil => rfl
  | cons member rest hypothesis =>
      obtain ⟨key, value⟩ := member
      rw [Raw.ofMembers, hypothesis]
      rfl

namespace Fields

variable {known : List (String × Check)} {depth : Nat} {found result : List (String × Raw)}
variable {members : List (Source × Raw)} {name : String} {raw : Raw}

/-- A member that has been found stays. -/
theorem valueAt?_collect_found (collected : collect known depth found members = .ok result)
    (isFound : valueAt? name found = some raw) : valueAt? name result = some raw := by
  induction members generalizing found with
  | nil =>
      cases collected
      exact isFound
  | cons member rest hypothesis =>
      obtain ⟨key, other⟩ := member
      rw [collect] at collected
      obtain ⟨text, -, collected⟩ := Action.except_bind_eq_ok.mp collected
      split at collected
      next => exact hypothesis collected isFound
      next check _ =>
        split at collected
        next => cases collected
        next free =>
          obtain ⟨_, -, collected⟩ := Action.except_bind_eq_ok.mp collected
          refine hypothesis collected ?_
          have differ : text ≠ name := by
            rintro rfl
            simp [isFound] at free
          rw [valueAt?, if_neg differ]
          exact isFound

/-- A member with a known name is found. -/
theorem valueAt?_collect (collected : collect known depth found members = .ok result)
    (isKnown : valueAt? name known ≠ none) {key : Source} (member : (key, raw) ∈ members)
    (isName : textOf key = .ok name) : valueAt? name result = some raw := by
  induction members generalizing found with
  | nil => cases member
  | cons first rest hypothesis =>
      obtain ⟨firstKey, other⟩ := first
      rw [collect] at collected
      obtain ⟨text, isText, collected⟩ := Action.except_bind_eq_ok.mp collected
      rcases List.mem_cons.mp member with isFirst | inRest
      · cases isFirst
        cases isText.symm.trans isName
        split at collected
        next unknown => exact absurd unknown isKnown
        next check _ =>
          split at collected
          next => cases collected
          next =>
            obtain ⟨_, -, collected⟩ := Action.except_bind_eq_ok.mp collected
            refine valueAt?_collect_found collected ?_
            rw [valueAt?, if_pos rfl]
      · split at collected
        next => exact hypothesis collected inRest
        next check _ =>
          split at collected
          next => cases collected
          next =>
            obtain ⟨_, -, collected⟩ := Action.except_bind_eq_ok.mp collected
            exact hypothesis collected inRest

/-- A member of a written object is the value of its field. -/
theorem valueAt?_ofRaw {members : List (String × Value)} {fields : Fields}
    (isRead : ofRaw known depth (Raw.ofValue (.object members)) = .ok fields)
    (isKnown : valueAt? name known ≠ none) {value : Value} (member : (name, value) ∈ members) :
    valueAt? name fields.found = some (Raw.ofValue value) := by
  rw [Raw.ofValue, Raw.ofMembers_eq, ofRaw] at isRead
  obtain ⟨inside, -, isRead⟩ := Action.except_bind_eq_ok.mp isRead
  obtain ⟨found, collected, isRead⟩ := Action.except_bind_eq_ok.mp isRead
  cases isRead
  exact valueAt?_collect collected isKnown
    (List.mem_map.mpr ⟨(name, value), member, rfl⟩) (textOf_escaped name)

section Field

variable {α : Type} {fields : Fields} (isThere : valueAt? name fields.found = some raw)
  (decoder : Decoder α)

include isThere

/-- A field that is there is read from its value. -/
theorem required_eq : fields.required name decoder = decoder fields.depth raw := by
  simp only [required, get?, isThere]
  cases decoder fields.depth raw with
  | ok value => rfl
  | error fault => rfl

theorem nullable_eq : fields.nullable name decoder = decoder.optional fields.depth raw := by
  simp only [nullable, get?, isThere]
  cases decoder.optional fields.depth raw with
  | ok value => rfl
  | error fault => rfl

end Field

end Fields

namespace Decoder

variable (depth : Nat)

/-- A written text is read as itself. -/
@[simp] theorem text_ofValue (written : String) :
    text depth (Raw.ofValue (.string written)) = .ok written := textOf_escaped written

@[simp] theorem optional_ofText? (written : Option String) :
    text.optional depth (Raw.ofValue (.ofText? written)) = .ok written := by
  cases written with
  | none => rfl
  | some written => exact congrArg (Except.map some) (text_ofValue depth written)

/-- A form that is read back from its text is read back from JSON. -/
theorem textOfForm_ofValue {α : Type} {read : String → Option α} {written : String} {value : α}
    (isRead : read written = some value) :
    textOfForm read depth (Raw.ofValue (.string written)) = .ok value := by
  rw [textOfForm, text_ofValue]
  simp only [bind, Except.bind, isRead]
  rfl

end Decoder

/-! ## Members that are written -/

namespace Decoder

variable {α : Type} {depth : Nat}

theorem check_eq_ok {decoder : Decoder α} {raw : Raw} :
    decoder.check depth raw = .ok () ↔ ∃ value, decoder depth raw = .ok value := by
  unfold check
  cases decoder depth raw with
  | ok value => exact ⟨fun _ => ⟨value, rfl⟩, fun _ => rfl⟩
  | error fault =>
      constructor
      · rintro ⟨⟩
      · rintro ⟨value, ⟨⟩⟩

@[simp] theorem bool_ofValue (value : Bool) :
    bool depth (Raw.ofValue (.bool value)) = .ok value := rfl

/-- A list of texts is one level deep. -/
@[simp] theorem list_ofTexts (deep : 1 < depth) (texts : List String) :
    text.list depth (Raw.ofValue (.ofTexts texts)) = .ok texts := by
  have isRead : (Raw.ofItems (texts.map .string)).mapM (text (depth - 1)) = .ok texts := by
    induction texts with
    | nil => rfl
    | cons first rest hypothesis =>
        have isFirst := text_ofValue (depth - 1) first
        rw [List.map_cons, Raw.ofItems, List.mapM_cons, hypothesis, isFirst]
        rfl
  rw [Value.ofTexts, Raw.ofValue, list]
  simp only [Raw.enter_of_lt deep, isRead, bind, Except.bind, if_true]
  rfl

/-- A free-form object is read back if it is not nested too deeply. -/
theorem object_ofObject {object : Object} {levels : Nat}
    (exact : (Value.ofObject object).Exact (levels + 1)) (deep : levels + 1 < depth) :
    Decoder.object depth (Raw.ofValue (.ofObject object)) = .ok object := by
  rw [Value.ofObject] at exact ⊢
  cases exact with
  | object ordered members =>
      have isRead := Raw.membersToEntries_ofMembers fun member inMembers =>
        Raw.toValue_ofValue (members member inMembers) (by omega : levels < depth - 1)
      rw [Raw.ofValue, Decoder.object]
      simp only [Raw.enter_of_lt (by omega : 1 < depth), isRead, bind, Except.bind, if_true,
        Mapping.ofList_entries]
      rfl

/-- A name is read as the choice that it stands for. -/
theorem name_ofValue {names : List (String × α)} {written : String} {choice : α}
    (isName : valueAt? written names = some choice) :
    name names depth (Raw.ofValue (.string written)) = .ok choice := by
  have isText : textOf (.ofChars (written.toList.flatMap escapeChar)) = .ok written :=
    textOf_escaped written
  rw [Raw.ofValue, name]
  simp only [isText, Except.bind, isName]

/-- A form that is read back is read back where it may be missing. -/
theorem optional_textOfForm {read : String → Option α} {write : α → String}
    (isRead : ∀ value, read (write value) = some value) (written : Option α) :
    (textOfForm read).optional depth (Raw.ofValue (.ofText? (written.map write))) =
      .ok written := by
  cases written with
  | none => rfl
  | some value =>
      exact congrArg (Except.map some) (textOfForm_ofValue depth (isRead value))

end Decoder

/-! ## Fields that are written -/

namespace Fields

/-- A member that a field of the record was written as, and that passes the check of the
field. -/
structure Passes (depth : Nat) (field : String × Check) (member : String × Value) : Prop where
  name : field.1 = member.1
  check : field.2 depth (Raw.ofValue member.2) = .ok ()

@[simp] theorem passes_iff {α : Type} {depth : Nat} {name other : String} {decoder : Decoder α}
    {value : Value} : Passes depth (name, decoder.check) (other, value) ↔
      name = other ∧ ∃ written, decoder depth (Raw.ofValue value) = .ok written := by
  constructor
  · rintro ⟨same, checked⟩
    exact ⟨same, Decoder.check_eq_ok.mp checked⟩
  · rintro ⟨same, isRead⟩
    exact ⟨same, Decoder.check_eq_ok.mpr isRead⟩

variable {known : List (String × Check)} {depth : Nat} {members : List (String × Value)}

/-- Members with distinct names that pass the checks of the known ones can be collected. -/
theorem exists_collect {found : List (String × Raw)} (distinct : (members.map (·.1)).Nodup)
    (fresh : ∀ member ∈ members, valueAt? member.1 found = none)
    (passes : ∀ member ∈ members, ∀ check, valueAt? member.1 known = some check →
      check depth (Raw.ofValue member.2) = .ok ()) :
    ∃ result, collect known depth found (Raw.ofMembers members) = .ok result := by
  induction members generalizing found with
  | nil => exact ⟨found, rfl⟩
  | cons member rest hypothesis =>
      obtain ⟨name, value⟩ := member
      rw [List.map_cons, List.nodup_cons] at distinct
      have isName : textOf (.ofChars (name.toList.flatMap escapeChar)) = .ok name :=
        textOf_escaped name
      have freshRest : ∀ other ∈ rest, valueAt? other.1 found = none :=
        fun other member => fresh other (.tail _ member)
      have next := hypothesis distinct.2 freshRest fun other member => passes other (.tail _ member)
      rw [Raw.ofMembers, collect]
      simp only [isName, bind, Except.bind]
      split
      next => exact next
      next check isKnown =>
        have isNew : (valueAt? name found).isSome = false := by
          rw [fresh (name, value) (.head _)]
          rfl
        have passed := passes (name, value) (.head _) check isKnown
        simp only [isNew, passed, Bool.false_eq_true, if_false]
        refine hypothesis distinct.2 (fun other member => ?_) fun other member =>
          passes other (.tail _ member)
        have differ : name ≠ other.1 := by
          rintro rfl
          exact distinct.1 (List.mem_map.mpr ⟨other, member, rfl⟩)
        rw [valueAt?, if_neg differ]
        exact freshRest other member

theorem valueAt?_of_distinct {field : String × Check} (distinct : (known.map (·.1)).Nodup)
    (member : field ∈ known) : valueAt? field.1 known = some field.2 := by
  induction known with
  | nil => cases member
  | cons first rest hypothesis =>
      rw [List.map_cons, List.nodup_cons] at distinct
      rw [valueAt?]
      rcases List.mem_cons.mp member with rfl | inRest
      · exact if_pos rfl
      · have differ : first.1 ≠ field.1 := fun same =>
          distinct.1 (same ▸ List.mem_map_of_mem inRest)
        rw [if_neg differ, hypothesis distinct.2 inRest]

/-- The fields of a record are found if each of them was written as a member that passes its
check. -/
theorem exists_ofRaw {value : Value} (isObject : value = .object members) (deep : 1 < depth)
    (distinct : (known.map (·.1)).Nodup)
    (passes : List.Forall₂ (Passes (depth - 1)) known members) :
    ∃ fields, ofRaw known depth (Raw.ofValue value) = .ok fields ∧ fields.depth = depth - 1 ∧
      ∀ member ∈ members, valueAt? member.1 fields.found = some (Raw.ofValue member.2) := by
  subst isObject
  have names : known.map (·.1) = members.map (·.1) := by
    clear distinct
    induction passes with
    | nil => rfl
    | cons passed _ hypothesis => rw [List.map_cons, List.map_cons, passed.name, hypothesis]
  have checked : ∀ member ∈ members, ∃ field ∈ known, Passes (depth - 1) field member := by
    clear distinct names
    induction passes with
    | nil => simp
    | cons passed _ hypothesis =>
        intro member inMembers
        rcases List.mem_cons.mp inMembers with rfl | inRest
        · exact ⟨_, .head _, passed⟩
        · obtain ⟨field, inKnown, passed⟩ := hypothesis member inRest
          exact ⟨field, .tail _ inKnown, passed⟩
  have unseen : ∀ member ∈ members, valueAt? member.1 ([] : List (String × Raw)) = none :=
    fun _ _ => rfl
  obtain ⟨found, collected⟩ := exists_collect (names ▸ distinct) unseen
    fun member inMembers check isKnown => by
      obtain ⟨field, inKnown, passed⟩ := checked member inMembers
      rw [← passed.name, valueAt?_of_distinct distinct inKnown] at isKnown
      exact Option.some.inj isKnown ▸ passed.check
  have isRead : ofRaw known depth (Raw.ofValue (.object members)) =
      .ok ⟨found, depth - 1, false⟩ := by
    rw [Raw.ofValue, ofRaw]
    simp only [Raw.enter_of_lt deep, collected, bind, Except.bind, if_true]
    rfl
  refine ⟨_, isRead, rfl, fun member inMembers => ?_⟩
  obtain ⟨field, inKnown, passed⟩ := checked member inMembers
  refine valueAt?_ofRaw isRead ?_ inMembers
  rw [← passed.name, valueAt?_of_distinct distinct inKnown]
  exact Option.some_ne_none _

end Fields

/-- What is read as a natural number is one. -/
theorem Decoder.eq_ofNat_of_natBelow {bound depth number : Nat} {value : Value}
    (isRead : natBelow bound depth (Raw.ofValue value) = .ok number) : value = .ofNat number := by
  cases value with
  | number exact =>
      obtain ⟨literal, proper, same, isLiteral⟩ := Raw.exists_literal exact
      rw [isLiteral, natBelow] at isRead
      split at isRead
      next found isInteger =>
        split at isRead
        next inside =>
          cases isRead
          cases exact with
          | integer value =>
              rw [Raw.ofValue_integer] at isLiteral
              cases isLiteral
              obtain ⟨-, -, size, sign⟩ := Number.ofLiteral_eq_integer isInteger
              have digits : found.natAbs = value.natAbs :=
                size.trans Nat.ofDigitChars_ten_toDigits
              have notNegative : 0 ≤ value := by
                simpa [Number.integerLiteral] using sign.mp inside.1
              rw [Value.ofNat]
              congr 2
              omega
          | double value => exact absurd isInteger (Number.ofLiteral_double proper same found)
        next => cases isRead
      next => cases isRead
      next => cases isRead
  | _ => cases isRead

/-! ## Fields that may be left out -/

namespace Fields

variable {known : List (String × Check)} {depth : Nat} {name : String} {fields : Fields}

/-- A name that no member has is not found. -/
theorem valueAt?_collect_of_absent {members : List (String × Value)}
    {found result : List (String × Raw)}
    (collected : collect known depth found (Raw.ofMembers members) = .ok result)
    (new : valueAt? name found = none) (absent : valueAt? name members = none) :
    valueAt? name result = none := by
  induction members generalizing found with
  | nil =>
      cases collected
      exact new
  | cons member rest hypothesis =>
      obtain ⟨key, value⟩ := member
      have isName : textOf (.ofChars (key.toList.flatMap escapeChar)) = .ok key :=
        textOf_escaped key
      rw [valueAt?_cons] at absent
      split at absent
      next => cases absent
      next differ =>
        rw [Raw.ofMembers, collect] at collected
        simp only [isName, bind, Except.bind] at collected
        split at collected
        next => exact hypothesis collected new absent
        next check _ =>
          split at collected
          next => cases collected
          next =>
            split at collected
            next => cases collected
            next => exact hypothesis collected (by rw [valueAt?_cons, if_neg differ, new]) absent

/-- The first field is the member with its name, or the first item of an array. -/
theorem valueAt?_ofRaw_first {check : Check} {json : Value}
    (isRead : ofRaw ((name, check) :: known) depth (Raw.ofValue json) = .ok fields) :
    (∃ members, json = .object members ∧
      valueAt? name fields.found = (valueAt? name members).map Raw.ofValue) ∨
    (∃ items, json = .array items ∧
      valueAt? name fields.found = items.head?.map Raw.ofValue) := by
  cases json with
  | object members =>
      refine .inl ⟨members, rfl, ?_⟩
      cases given : valueAt? name members with
      | some value =>
          have isKnown : valueAt? name ((name, check) :: known) ≠ none := by simp [valueAt?_cons]
          exact valueAt?_ofRaw isRead isKnown (mem_of_valueAt? given)
      | none =>
          rw [Raw.ofValue, ofRaw] at isRead
          obtain ⟨inside, -, isRead⟩ := Action.except_bind_eq_ok.mp isRead
          obtain ⟨found, collected, isRead⟩ := Action.except_bind_eq_ok.mp isRead
          cases isRead
          exact valueAt?_collect_of_absent collected rfl given
  | array items =>
      refine .inr ⟨items, rfl, ?_⟩
      rw [Raw.ofValue, ofRaw] at isRead
      obtain ⟨inside, -, isRead⟩ := Action.except_bind_eq_ok.mp isRead
      obtain ⟨found, placed, isRead⟩ := Action.except_bind_eq_ok.mp isRead
      cases isRead
      cases items with
      | nil =>
          cases placed
          rfl
      | cons first rest =>
          rw [Raw.ofItems, position] at placed
          obtain ⟨_, -, placed⟩ := Action.except_bind_eq_ok.mp placed
          obtain ⟨others, -, placed⟩ := Action.except_bind_eq_ok.mp placed
          cases placed
          rw [valueAt?_cons, if_pos rfl]
          rfl
  | number number =>
      obtain ⟨literal, -, -, isLiteral⟩ := Raw.exists_literal number
      rw [isLiteral] at isRead
      cases isRead
  | _ => cases isRead

variable {α : Type} {default value : α} {decoder : Decoder α}

theorem withDefault_eq_ok (isRead : fields.withDefault name default decoder = .ok value) :
    (valueAt? name fields.found = none ∧ value = default) ∨
      ∃ raw, valueAt? name fields.found = some raw ∧ decoder fields.depth raw = .ok value := by
  rw [withDefault] at isRead
  obtain ⟨given, isGiven, isRead⟩ := Action.except_bind_eq_ok.mp isRead
  cases isRead
  rw [get?] at isGiven
  split at isGiven
  next raw found =>
    refine .inr ⟨raw, found, ?_⟩
    cases decoded : decoder fields.depth raw with
    | ok value =>
        rw [decoded] at isGiven
        cases isGiven
        rfl
    | error fault =>
        rw [decoded] at isGiven
        cases isGiven
  next absent =>
    cases isGiven
    exact .inl ⟨absent, rfl⟩

end Fields

end CertPress.Json
