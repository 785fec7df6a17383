import CertPress.Proofs.Markup.Unrolling

/-!
# Paths with the same keys

A path means what its keys mean, whatever blanks stand around them.  Only the word for the scope
itself is told from a key before the blanks are taken away: where blanks part it from the dot
behind it, the path asks for a member with that name instead.
-/

namespace CertPress.Markup

open Json (Value)

/-! ## The meaning of keys -/

/-- The word for the scope itself, as a key. -/
def selfKey : String := String.ofList selfWord

/-- The part of a value that keys name, one inside the other. -/
def partAt? (value : Value) (keys : List String) : Option Value :=
  keys.foldlM (fun part key => part? part key.toList) value

/-- The value that the keys of a path mean.  The word for the scope is no key in front of others,
and alone it is the scope, which can be had only if it is neither an array nor an object. -/
def meantBy (scope : Value) : List String → Option Value
  | [] => some scope
  | first :: rest =>
      if first = selfKey then
        if rest = [] then if scope.isScalar then some scope else none else partAt? scope rest
      else partAt? scope (first :: rest)

/-- Whether blanks part the word for the scope from the dot behind it. -/
def DetachesSelf (path : String) : Prop :=
  ∃ first ∈ (Text.split '.' path.toList).dropLast.head?,
    Text.trim first = selfWord ∧ Text.trimStart first ≠ selfWord

instance (path : String) : Decidable (DetachesSelf path) :=
  inferInstanceAs (Decidable (∃ first ∈ (Text.split '.' path.toList).dropLast.head?, _ ∧ _))

theorem ofList_eq_selfKey {chars : List Char} :
    String.ofList chars = selfKey ↔ chars = selfWord := by
  rw [selfKey, String.ofList_inj]

section Meaning

variable {path : String}

theorem namesSelf_iff_of_single (single : '.' ∉ path.toList) :
    NamesSelf path ↔ Text.trim path.toList = selfWord := by
  refine ⟨fun named => named.resolve_right fun ⟨rest, starts⟩ => single ?_, .inl⟩
  have dotted : '.' ∈ Text.trim path.toList := by
    rw [← starts]
    simp
  exact (List.dropWhile_sublist _).mem ((Text.trimEnd_prefix _).mem dotted)

theorem namesSelf_iff_of_dotted {first rest : List Char} (chars : path.toList = first ++ '.' :: rest)
    (single : '.' ∉ first) : NamesSelf path ↔ Text.trimStart first = selfWord := by
  have wordFree : '.' ∉ selfWord := by decide
  have startFree : '.' ∉ Text.trimStart first := fun member =>
    single ((List.dropWhile_sublist _).mem member)
  have trimmed : Text.trim path.toList = Text.trimStart first ++ '.' :: Text.trimEnd rest := by
    rw [chars, Text.trim_append_cons (by decide)]
  rw [NamesSelf, trimmed]
  constructor
  · rintro (same | ⟨others, starts⟩)
    · rw [← same] at wordFree
      exact absurd (List.mem_append_right _ (.head _)) wordFree
    · rw [List.append_assoc, List.singleton_append] at starts
      exact ((Text.append_separator_inj wordFree startFree).mp starts).1.symm
  · intro same
    exact .inr ⟨Text.trimEnd rest, by simp [same]⟩

theorem not_detachesSelf_of_single (single : '.' ∉ path.toList) : ¬ DetachesSelf path := by
  rintro ⟨first, isFirst, -⟩
  rw [Text.split_eq_singleton single] at isFirst
  cases isFirst

theorem detachesSelf_iff_of_dotted {first rest : List Char}
    (chars : path.toList = first ++ '.' :: rest) (single : '.' ∉ first) :
    DetachesSelf path ↔ Text.trim first = selfWord ∧ Text.trimStart first ≠ selfWord := by
  have isFirst : (Text.split '.' path.toList).dropLast.head? = some first := by
    rw [chars, Text.split_append, Text.split_eq_singleton single,
      List.dropLast_append_of_ne_nil (Text.split_ne_nil _ _)]
    rfl
  simp [DetachesSelf, isFirst]

/-- A path that asks for a part gives what its keys name. -/
theorem lookup_eq_partAt? (part : placeOf path ≠ .self) (scope : Value) :
    lookup scope path = partAt? scope (keysOf path) :=
  lookup_eq_foldlM part scope

theorem lookup_named (named : ¬ NamesSelf path) (scope : Value) :
    lookup scope path = partAt? scope (keysBetween path.toList) := by
  have part : placeOf path ≠ .self := by simp [placeOf_named named]
  rw [lookup_eq_partAt? part, keysOf_named named]

/-- A path means what its keys mean, unless blanks part the word for the scope from its dot. -/
theorem lookup_attached (attached : ¬ DetachesSelf path) (scope : Value) :
    lookup scope path = meantBy scope (keysBetween path.toList) := by
  by_cases dotted : '.' ∈ path.toList
  · obtain ⟨first, rest, chars, single⟩ := List.eq_append_cons_of_mem dotted
    have keys : keysBetween path.toList =
        String.ofList (Text.trim first) :: keysBetween rest := by
      rw [chars, keysBetween_append, keysBetween_of_not_mem single, List.singleton_append]
    have filled : keysBetween rest ≠ [] := by simp [keysBetween]
    by_cases starts : Text.trimStart first = selfWord
    · have isSelf : Text.trim first = selfWord := by
        rw [Text.trim, starts]
        decide
      have trimmed : Text.trim path.toList = selfWord ++ '.' :: Text.trimEnd rest := by
        rw [chars, Text.trim_append_cons (by decide), starts]
      have part : placeOf path ≠ .self := by simp [placeOf_behind trimmed]
      rw [lookup_eq_partAt? part, keysOf_behind trimmed, keysBetween_trimEnd, keys, meantBy,
        if_pos (ofList_eq_selfKey.mpr isSelf), if_neg filled]
    · have notSelf : Text.trim first ≠ selfWord := fun isSelf =>
        attached ((detachesSelf_iff_of_dotted chars single).mpr ⟨isSelf, starts⟩)
      have named : ¬ NamesSelf path := fun named =>
        starts ((namesSelf_iff_of_dotted chars single).mp named)
      rw [lookup_named named, keys, meantBy, if_neg (notSelf ∘ ofList_eq_selfKey.mp)]
  · rw [keysBetween_of_not_mem dotted, meantBy]
    by_cases isSelf : Text.trim path.toList = selfWord
    · rw [if_pos (ofList_eq_selfKey.mpr isSelf), if_pos rfl, lookup, placeOf_self isSelf]
    · have named : ¬ NamesSelf path := fun named =>
        isSelf ((namesSelf_iff_of_single dotted).mp named)
      rw [lookup_named named, keysBetween_of_not_mem dotted,
        if_neg (isSelf ∘ ofList_eq_selfKey.mp)]

/-- Where blanks part the word for the scope from its dot, it is a key like the others. -/
theorem lookup_detached (detached : DetachesSelf path) :
    (∀ scope, lookup scope path = partAt? scope (keysBetween path.toList)) ∧
      ∃ second others, keysBetween path.toList = selfKey :: second :: others := by
  have dotted : '.' ∈ path.toList := by
    by_contra single
    exact not_detachesSelf_of_single single detached
  obtain ⟨first, rest, chars, single⟩ := List.eq_append_cons_of_mem dotted
  obtain ⟨isSelf, parted⟩ := (detachesSelf_iff_of_dotted chars single).mp detached
  have named : ¬ NamesSelf path := fun named =>
    parted ((namesSelf_iff_of_dotted chars single).mp named)
  obtain ⟨second, others, behind⟩ : ∃ second others, keysBetween rest = second :: others :=
    List.exists_cons_of_ne_nil (by simp [keysBetween])
  refine ⟨lookup_named named, second, others, ?_⟩
  rw [chars, keysBetween_append, keysBetween_of_not_mem single, List.singleton_append, behind,
    isSelf, selfKey]

end Meaning

/-! ## Objects inside objects -/

/-- Objects of one member each, one inside the other, around null. -/
def nested : List String → Value
  | [] => .null
  | key :: rest => .object [(key, nested rest)]

theorem partAt?_nested (keys : List String) : partAt? (nested keys) keys = some .null := by
  induction keys with
  | nil => rfl
  | cons key rest hypothesis =>
      have isMember : part? (nested (key :: rest)) key.toList = some (nested rest) := by
        simp [nested, part?, valueAt?]
      rw [partAt?, List.foldlM_cons, isMember]
      exact hypothesis

/-- Fewer keys than there are objects do not reach the innermost value. -/
theorem partAt?_nested_of_lt {keys deeper : List String} (fewer : keys.length < deeper.length) :
    partAt? (nested deeper) keys ≠ some .null := by
  induction keys generalizing deeper with
  | nil =>
      cases deeper with
      | nil => cases fewer
      | cons outer rest => simp [partAt?, nested]
  | cons key others hypothesis =>
      cases deeper with
      | nil => cases fewer
      | cons outer rest =>
          have member : part? (nested (outer :: rest)) key.toList =
              if outer = key then some (nested rest) else none := by
            simp [nested, part?, valueAt?]
          rw [partAt?, List.foldlM_cons, member]
          split
          next => exact hypothesis (Nat.lt_of_succ_lt_succ fewer)
          next => simp

/-- Objects inside objects tell a path in which the word for the scope is a key from one with the
same keys in which it is not. -/
theorem DetachesSelf.of_lookup_eq {left right : String} (detached : DetachesSelf left)
    (same : keysBetween left.toList = keysBetween right.toList)
    (equal : ∀ scope, lookup scope left = lookup scope right) : DetachesSelf right := by
  by_contra attached
  obtain ⟨isKeys, second, others, keys⟩ := lookup_detached detached
  have innermost := equal (nested (keysBetween left.toList))
  rw [isKeys, partAt?_nested, lookup_attached attached, ← same, keys, meantBy, if_pos rfl,
    if_neg (List.cons_ne_nil _ _)] at innermost
  exact partAt?_nested_of_lt (Nat.lt_succ_self _) innermost.symm

/-- Paths with the same trimmed keys give the same values in all scopes exactly if blanks part the
word for the scope from its dot in both of them or in neither. -/
theorem lookup_eq_iff {left right : String}
    (same : keysBetween left.toList = keysBetween right.toList) :
    (∀ scope, lookup scope left = lookup scope right) ↔
      (DetachesSelf left ↔ DetachesSelf right) := by
  constructor
  · intro equal
    exact ⟨fun detached => detached.of_lookup_eq same equal,
      fun detached => detached.of_lookup_eq same.symm fun scope => (equal scope).symm⟩
  · intro alike scope
    by_cases detached : DetachesSelf left
    · rw [(lookup_detached detached).1, (lookup_detached (alike.mp detached)).1, same]
    · rw [lookup_attached detached, lookup_attached (detached ∘ alike.mpr), same]

/-- Blanks around keys, and none between the word for the scope and its dot. -/
theorem lookup_eq_iff_padded :
    keysBetween " this. a . b ".toList = keysBetween "this.a.b".toList ∧
      ∀ scope, lookup scope " this. a . b " = lookup scope "this.a.b" := by
  refine ⟨?keys, (lookup_eq_iff ?keys).mpr ?attached⟩
  case keys => decide
  case attached => decide

/-- Blanks in front of the dot make a key of the word for the scope. -/
theorem lookup_this_ne :
    keysBetween "this . n".toList = keysBetween "this.n".toList ∧
      lookup (.object [("n", .number (.integer 1))]) "this.n" = some (.number (.integer 1)) ∧
      lookup (.object [("n", .number (.integer 1))]) "this . n" = none := by
  refine ⟨by decide, rfl, rfl⟩

end CertPress.Markup
