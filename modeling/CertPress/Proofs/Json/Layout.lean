import CertPress.Proofs.Json.Number
import CertPress.Proofs.Json.Text

/-!
# Values that were written

The compact and the indented text of a value have the same tokens in two layouts,
which differ in the white space between them.  A text in any layout is read as the
tree of its value, whatever follows it.
-/

namespace CertPress.Json

/-- The white space between the tokens of a text. -/
structure Layout where
  /-- What stands before an item or a member, or before the end of its container, at a
  depth. -/
  line : Nat → List Char
  /-- What stands between a key and its value. -/
  gap : List Char
  line_space : ∀ depth, ∀ char ∈ line depth, Raw.isSpace char
  gap_space : ∀ char ∈ gap, Raw.isSpace char

namespace Layout

/-- No white space at all. -/
def compact : Layout := ⟨fun _ => [], [], by simp, by simp⟩

theorem isSpace_lineBreak (depth : Nat) : ∀ char ∈ lineBreak depth, Raw.isSpace char := by
  intro char member
  rcases List.mem_cons.mp member with rfl | inSpaces
  · decide
  · rw [List.eq_of_mem_replicate inSpaces]
    decide

/-- One item or member on each line. -/
def indented : Layout := ⟨lineBreak, [' '], isSpace_lineBreak, List.forall_mem_singleton.mpr rfl⟩

end Layout

namespace Value

variable (layout : Layout)

mutual

/-- The text of a value in a layout, at a depth. -/
def spaced (depth : Nat) : Value → List Char
  | .array [] => ['[', ']']
  | .array (item :: rest) =>
      '[' :: (layout.line (depth + 1) ++ item.spaced (depth + 1) ++ spacedItems depth rest)
  | .object [] => ['\x7b', '\x7d']
  | .object ((key, value) :: rest) =>
      '\x7b' :: (layout.line (depth + 1) ++ (quote key ++ ':' :: (layout.gap ++
        value.spaced (depth + 1))) ++ spacedMembers depth rest)
  | .null => ['n', 'u', 'l', 'l']
  | .bool true => ['t', 'r', 'u', 'e']
  | .bool false => ['f', 'a', 'l', 's', 'e']
  | .number value => value.chars
  | .string text => quote text

/-- The further items of an array, and its end. -/
def spacedItems (depth : Nat) : List Value → List Char
  | [] => layout.line depth ++ [']']
  | item :: rest =>
      ',' :: (layout.line (depth + 1) ++ item.spaced (depth + 1) ++ spacedItems depth rest)

/-- The further members of an object, and its end. -/
def spacedMembers (depth : Nat) : List (String × Value) → List Char
  | [] => layout.line depth ++ ['\x7d']
  | (key, value) :: rest =>
      ',' :: (layout.line (depth + 1) ++ (quote key ++ ':' :: (layout.gap ++
        value.spaced (depth + 1))) ++ spacedMembers depth rest)

end

mutual

theorem spaced_indented (depth : Nat) :
    ∀ value : Value, value.spaced .indented depth = value.indented depth
  | .null | .bool true | .bool false | .number _ | .string _ => rfl
  | .array [] | .object [] => rfl
  | .array (item :: rest) => by
      rw [spaced, spaced_indented (depth + 1) item, spacedItems_indented depth rest, indented]
      simp [Layout.indented]
  | .object ((key, value) :: rest) => by
      rw [spaced, spaced_indented (depth + 1) value, spacedMembers_indented depth rest, indented]
      simp [Layout.indented]

theorem spacedItems_indented (depth : Nat) :
    ∀ items : List Value, spacedItems .indented depth items = indentedItems depth items
  | [] => rfl
  | item :: rest => by
      rw [spacedItems, spaced_indented (depth + 1) item, spacedItems_indented depth rest,
        indentedItems]
      simp [Layout.indented]

theorem spacedMembers_indented (depth : Nat) :
    ∀ members : List (String × Value),
      spacedMembers .indented depth members = indentedMembers depth members
  | [] => rfl
  | (key, value) :: rest => by
      rw [spacedMembers, spaced_indented (depth + 1) value, spacedMembers_indented depth rest,
        indentedMembers]
      simp [Layout.indented]

end

mutual

theorem spaced_compact (depth : Nat) :
    ∀ value : Value, value.spaced .compact depth = value.compact
  | .null | .bool true | .bool false | .number _ | .string _ => rfl
  | .array [] | .object [] => rfl
  | .array (item :: rest) => by
      rw [spaced, compact, ← spacedItems_compact depth rest item,
        spaced_compact (depth + 1) item]
      rfl
  | .object ((key, value) :: rest) => by
      rw [spaced, compact, ← spacedMembers_compact depth rest key value,
        spaced_compact (depth + 1) value]
      rfl

theorem spacedItems_compact (depth : Nat) :
    ∀ (rest : List Value) (item : Value),
      item.compact ++ spacedItems .compact depth rest = compactItems (item :: rest)
  | [], _ => rfl
  | next :: rest, item => by
      rw [spacedItems, compactItems, ← spacedItems_compact depth rest next,
        spaced_compact (depth + 1) next]
      · rfl
      · simp

theorem spacedMembers_compact (depth : Nat) :
    ∀ (rest : List (String × Value)) (key : String) (value : Value),
      quote key ++ ':' :: value.compact ++ spacedMembers .compact depth rest =
        compactMembers ((key, value) :: rest)
  | [], _, _ => rfl
  | (nextKey, next) :: rest, key, value => by
      rw [spacedMembers, compactMembers, ← spacedMembers_compact depth rest nextKey next,
        spaced_compact (depth + 1) next]
      · rfl
      · simp

end

end Value

/-! ## Reading -/

namespace Raw

theorem skipSpace_append {spaces : List Char} (isSpaces : ∀ char ∈ spaces, isSpace char)
    (source : Source) : skipSpace (.ofChars spaces ++ source) = skipSpace source := by
  rw [skipSpace, List.dropWhile_append_of_pos, ← skipSpace]
  intro place member
  obtain ⟨char, inSpaces, rfl⟩ := List.mem_map.mp member
  exact isSpaces char inSpaces

theorem skipSpace_cons {char : Char} (token : isSpace char = false) (rest : Source) :
    skipSpace (some char :: rest) = some char :: rest := by
  simp [skipSpace, token]

/-- White space before a value does not matter. -/
theorem readValue_space {spaces : List Char} (isSpaces : ∀ char ∈ spaces, isSpace char)
    (fuel : Nat) (source : Source) :
    readValue fuel (.ofChars spaces ++ source) = readValue fuel source := by
  cases fuel with
  | zero => rfl
  | succ fuel => rw [readValue, skipSpace_append isSpaces, readValue]

/-- What stands behind an item or a member belongs to no number. -/
theorem endsNumber_cons {char : Char}
    (token : char.isDigit = false ∧ char ≠ '.' ∧ char ≠ 'e' ∧ char ≠ 'E') (rest : Source) :
    EndsNumber (some char :: rest) := by
  intro first head
  cases head
  exact token

theorem endsNumber_space {spaces : List Char} (isSpaces : ∀ char ∈ spaces, isSpace char)
    {rest : Source} (ends : EndsNumber rest) : EndsNumber (.ofChars spaces ++ rest) := by
  cases spaces with
  | nil => exact ends
  | cons first others =>
      refine endsNumber_cons ?_ _
      have isFirst := isSpaces first (.head _)
      simp only [isSpace, Bool.or_eq_true, beq_iff_eq] at isFirst
      rcases isFirst with ((rfl | rfl) | rfl) | rfl <;> decide

/-- A number starts like no other token. -/
theorem head_chars (number : Number) : ∃ first others, number.chars = first :: others ∧
    isSpace first = false ∧
      (∀ char ∈ ['n', 't', 'f', '"', '[', '\x7b'], first ≠ char) ∧ first ≠ ']' := by
  obtain ⟨literal, proper, same⟩ := number.exists_literal
  have digit {char : Char} (isDigit : char.isDigit) : isSpace char = false ∧
      (∀ other ∈ ['n', 't', 'f', '"', '[', '\x7b'], char ≠ other) ∧ char ≠ ']' := by
    refine ⟨?_, ?_, ?_⟩
    · rw [Bool.eq_false_iff]
      intro space
      simp only [isSpace, Bool.or_eq_true, beq_iff_eq] at space
      rcases space with ((rfl | rfl) | rfl) | rfl <;> exact absurd isDigit (by decide)
    · rintro _ member rfl
      simp only [List.mem_cons, List.not_mem_nil, or_false] at member
      rcases member with rfl | rfl | rfl | rfl | rfl | rfl <;> exact absurd isDigit (by decide)
    · rintro rfl
      exact absurd isDigit (by decide)
  rw [← same, NumberLiteral.chars]
  cases literal.negative with
  | true => exact ⟨'-', _, rfl, by decide, by simp, by decide⟩
  | false =>
      obtain ⟨first, others, whole⟩ := List.exists_cons_of_ne_nil proper.whole_filled
      have isDigit := proper.whole_digits first (by rw [whole]; exact .head _)
      rw [whole]
      exact ⟨first, _, rfl, digit isDigit⟩

/-- A number is read as its literal. -/
theorem readValue_number (fuel : Nat) (number : Number) {rest : Source} (ends : EndsNumber rest) :
    readValue (fuel + 1) (.ofChars number.chars ++ rest) = (ofValue (.number number), some rest) := by
  obtain ⟨literal, isRead⟩ := number.exists_readNumber
  have tree : ofValue (.number number) = .number literal := by
    have whole := isRead [] (by intro char head; cases head)
    rw [List.append_nil] at whole
    rw [ofValue, whole]
  have here := isRead rest ends
  obtain ⟨first, others, chars, token, differ, -⟩ := head_chars number
  rw [chars] at here
  rw [tree, chars, Source.ofChars_cons, List.cons_append, readValue, skipSpace_cons token]
  rw [Source.ofChars_cons, List.cons_append] at here
  generalize Source.ofChars others ++ rest = more at here
  split
  next same => cases same; exact absurd rfl (differ 'n' (by decide))
  next same => cases same; exact absurd rfl (differ 't' (by decide))
  next same => cases same; exact absurd rfl (differ 'f' (by decide))
  next same => cases same; exact absurd rfl (differ '"' (by decide))
  next same => cases same; exact absurd rfl (differ '[' (by decide))
  next same => cases same; exact absurd rfl (differ '\x7b' (by decide))
  next => rw [here]

section Read

variable (layout : Layout)

theorem endsNumber_spacedItems (depth : Nat) (items : List Value) (rest : Source) :
    EndsNumber (.ofChars (Value.spacedItems layout depth items) ++ rest) := by
  cases items with
  | nil =>
      rw [Value.spacedItems, Source.ofChars_append, List.append_assoc]
      exact endsNumber_space (layout.line_space depth) (endsNumber_cons (by decide) rest)
  | cons item more => exact endsNumber_cons (by decide) _

theorem endsNumber_spacedMembers (depth : Nat) (members : List (String × Value)) (rest : Source) :
    EndsNumber (.ofChars (Value.spacedMembers layout depth members) ++ rest) := by
  cases members with
  | nil =>
      rw [Value.spacedMembers, Source.ofChars_append, List.append_assoc]
      exact endsNumber_space (layout.line_space depth) (endsNumber_cons (by decide) rest)
  | cons member more => exact endsNumber_cons (by decide) _

/-- The text of a value starts with a token, which closes no array. -/
theorem head_spaced (value : Value) (depth : Nat) :
    ∃ first others, value.spaced layout depth = first :: others ∧ isSpace first = false ∧
      first ≠ ']' := by
  cases value with
  | null => exact ⟨'n', _, rfl, by decide, by decide⟩
  | bool value =>
      cases value with
      | true => exact ⟨'t', _, rfl, by decide, by decide⟩
      | false => exact ⟨'f', _, rfl, by decide, by decide⟩
  | number number =>
      obtain ⟨first, others, chars, token, -, notClosing⟩ := head_chars number
      exact ⟨first, others, chars, token, notClosing⟩
  | string text => exact ⟨'"', _, rfl, by decide, by decide⟩
  | array items =>
      cases items with
      | nil => exact ⟨'[', _, rfl, by decide, by decide⟩
      | cons item rest => exact ⟨'[', _, rfl, by decide, by decide⟩
  | object members =>
      cases members with
      | nil => exact ⟨'\x7b', _, rfl, by decide, by decide⟩
      | cons member rest => exact ⟨'\x7b', _, rfl, by decide, by decide⟩

/-- The text of an item and of those behind it, with the end of the array. -/
def itemsText (depth : Nat) (item : Value) (rest : List Value) : List Char :=
  item.spaced layout (depth + 1) ++ Value.spacedItems layout depth rest

/-- The text of a member and of those behind it, with the end of the object. -/
def membersText (depth : Nat) (key : String) (value : Value) (rest : List (String × Value)) :
    List Char :=
  quote key ++ ':' :: (layout.gap ++ value.spaced layout (depth + 1)) ++
    Value.spacedMembers layout depth rest

/-- The fuel is enough for the values that are no longer. -/
def ReadsValues (fuel : Nat) : Prop :=
  ∀ (value : Value) (depth : Nat) (after : Source),
    (value.spaced layout depth).length ≤ fuel → EndsNumber after →
    readValue fuel (.ofChars (value.spaced layout depth) ++ after) = (ofValue value, some after)

/-- The fuel is enough for the items that are no longer. -/
def ReadsItems (fuel : Nat) : Prop :=
  ∀ (depth : Nat) (item : Value) (rest : List Value) (after : Source),
    (itemsText layout depth item rest).length ≤ fuel →
    readItems fuel (.ofChars (itemsText layout depth item rest) ++ after) =
      (ofItems (item :: rest), some after)

/-- The fuel is enough for the members that are no longer. -/
def ReadsMembers (fuel : Nat) : Prop :=
  ∀ (depth : Nat) (key : String) (value : Value) (rest : List (String × Value)) (after : Source),
    (membersText layout depth key value rest).length ≤ fuel →
    readMembers fuel (.ofChars (membersText layout depth key value rest) ++ after) =
      (ofMembers ((key, value) :: rest), some after)

theorem readValue_string (fuel : Nat) (source : Source) :
    readValue (fuel + 1) (some '"' :: source) =
      match readString source with
      | some (body, after) => (.string body, some after)
      | none => (.broken, none) := rfl

theorem readValue_array (fuel : Nat) (source : Source) :
    readValue (fuel + 1) (some '[' :: source) =
      match skipSpace source with
      | some ']' :: after => (.array [] true, some after)
      | items =>
          (.array (readItems fuel items).1 (readItems fuel items).2.isSome,
            (readItems fuel items).2) := rfl

theorem readValue_object (fuel : Nat) (source : Source) :
    readValue (fuel + 1) (some '\x7b' :: source) =
      match skipSpace source with
      | some '\x7d' :: after => (.object [] true, some after)
      | members =>
          (.object (readMembers fuel members).1 (readMembers fuel members).2.isSome,
            (readMembers fuel members).2) := rfl

variable {layout}

theorem readsValues_succ {fuel : Nat} (items : ReadsItems layout fuel)
    (members : ReadsMembers layout fuel) : ReadsValues layout (fuel + 1) := by
  intro value depth after bound ends
  cases value with
  | null => rfl
  | bool value => cases value <;> rfl
  | number number => exact readValue_number fuel number ends
  | string text =>
      have source : Source.ofChars ((Value.string text).spaced layout depth) ++ after =
          some '"' :: (Source.ofChars (escaped text.toList) ++ some '"' :: after) := by
        simp [Value.spaced, quote_eq, Source.ofChars]
      rw [source, readValue_string, readString_escaped]
      rfl
  | array list =>
      cases list with
      | nil => rfl
      | cons item rest =>
          have source : Source.ofChars ((Value.array (item :: rest)).spaced layout depth) ++ after =
              some '[' :: (Source.ofChars (layout.line (depth + 1)) ++
                (Source.ofChars (itemsText layout depth item rest) ++ after)) := by
            simp [Value.spaced, itemsText, Source.ofChars]
          have fits : (itemsText layout depth item rest).length ≤ fuel := by
            simp only [Value.spaced, itemsText, List.length_cons, List.length_append] at bound ⊢
            omega
          have isRead := items depth item rest after fits
          obtain ⟨first, others, text_eq, token, notClosing⟩ := head_spaced layout item (depth + 1)
          rw [itemsText, text_eq] at source isRead
          rw [source, readValue_array, skipSpace_append (layout.line_space _)]
          -- the first item starts with no bracket that would close an empty array
          simp only [List.cons_append, Source.ofChars_cons] at isRead ⊢
          rw [skipSpace_cons token]
          split
          next closing =>
            cases closing
            exact absurd rfl notClosing
          next =>
            rw [isRead]
            rfl
  | object list =>
      cases list with
      | nil => rfl
      | cons member rest =>
          obtain ⟨key, value⟩ := member
          have source : Source.ofChars ((Value.object ((key, value) :: rest)).spaced layout depth) ++
              after = some '\x7b' :: (Source.ofChars (layout.line (depth + 1)) ++
                (Source.ofChars (membersText layout depth key value rest) ++ after)) := by
            simp [Value.spaced, membersText, Source.ofChars]
          have fits : (membersText layout depth key value rest).length ≤ fuel := by
            simp only [Value.spaced, membersText, List.length_cons, List.length_append] at bound ⊢
            omega
          have isRead := members depth key value rest after fits
          rw [membersText, quote_eq] at source isRead
          rw [source, readValue_object, skipSpace_append (layout.line_space _)]
          simp only [List.cons_append, Source.ofChars_cons] at isRead ⊢
          rw [skipSpace_cons (by decide)]
          split
          next closing => cases closing
          next =>
            rw [isRead]
            rfl

theorem readItems_space {spaces : List Char} (isSpaces : ∀ char ∈ spaces, isSpace char)
    (fuel : Nat) (source : Source) :
    readItems fuel (.ofChars spaces ++ source) = readItems fuel source := by
  cases fuel with
  | zero => rfl
  | succ fuel => rw [readItems, readValue_space isSpaces, readItems]

theorem readMembers_space {spaces : List Char} (isSpaces : ∀ char ∈ spaces, isSpace char)
    (fuel : Nat) (source : Source) :
    readMembers fuel (.ofChars spaces ++ source) = readMembers fuel source := by
  cases fuel with
  | zero => rfl
  | succ fuel => rw [readMembers, skipSpace_append isSpaces, readMembers]

theorem readItems_last {fuel : Nat} {source rest after : Source} {item : Raw}
    (isRead : readValue fuel source = (item, some rest))
    (closing : skipSpace rest = some ']' :: after) :
    readItems (fuel + 1) source = ([item], some after) := by
  simp only [readItems, isRead, closing]

theorem readItems_more {fuel : Nat} {source rest next : Source} {item : Raw}
    (isRead : readValue fuel source = (item, some rest))
    (comma : skipSpace rest = some ',' :: next) :
    readItems (fuel + 1) source =
      (item :: (readItems fuel next).1, (readItems fuel next).2) := by
  simp only [readItems, isRead, comma]

theorem readMembers_last {fuel : Nat} {body key source rest after : Source} {value : Raw}
    (isKey : readString body = some (key, some ':' :: source))
    (isRead : readValue fuel source = (value, some rest))
    (closing : skipSpace rest = some '\x7d' :: after) :
    readMembers (fuel + 1) (some '"' :: body) = ([(key, value)], some after) := by
  have colon : skipSpace (some ':' :: source) = some ':' :: source := skipSpace_cons (by decide) _
  have quoted : skipSpace (some '"' :: body) = some '"' :: body := skipSpace_cons (by decide) _
  simp only [readMembers, quoted, isKey, colon, isRead, closing]

theorem readMembers_more {fuel : Nat} {body key source rest next : Source} {value : Raw}
    (isKey : readString body = some (key, some ':' :: source))
    (isRead : readValue fuel source = (value, some rest))
    (comma : skipSpace rest = some ',' :: next) :
    readMembers (fuel + 1) (some '"' :: body) =
      ((key, value) :: (readMembers fuel next).1, (readMembers fuel next).2) := by
  have colon : skipSpace (some ':' :: source) = some ':' :: source := skipSpace_cons (by decide) _
  have quoted : skipSpace (some '"' :: body) = some '"' :: body := skipSpace_cons (by decide) _
  simp only [readMembers, quoted, isKey, colon, isRead, comma]

theorem length_spacedItems_pos (depth : Nat) (items : List Value) :
    0 < (Value.spacedItems layout depth items).length := by
  cases items <;> simp [Value.spacedItems]

theorem length_spacedMembers_pos (depth : Nat) (members : List (String × Value)) :
    0 < (Value.spacedMembers layout depth members).length := by
  cases members <;> simp [Value.spacedMembers]

theorem readsItems_succ {fuel : Nat} (values : ReadsValues layout fuel)
    (items : ReadsItems layout fuel) : ReadsItems layout (fuel + 1) := by
  intro depth item rest after bound
  have positive := @length_spacedItems_pos layout depth rest
  rw [itemsText, List.length_append] at bound
  have isRead := values item (depth + 1)
    (Source.ofChars (Value.spacedItems layout depth rest) ++ after) (by omega)
    (endsNumber_spacedItems layout depth rest after)
  rw [itemsText, Source.ofChars_append, List.append_assoc]
  cases rest with
  | nil =>
      have closing : skipSpace (Source.ofChars (Value.spacedItems layout depth []) ++ after) =
          some ']' :: after := by
        rw [Value.spacedItems, Source.ofChars_append, List.append_assoc,
          skipSpace_append (layout.line_space depth)]
        exact skipSpace_cons (by decide) after
      exact readItems_last isRead closing
  | cons next more =>
      have text_eq : Value.spacedItems layout depth (next :: more) =
          ',' :: (layout.line (depth + 1) ++ itemsText layout depth next more) := by
        simp [Value.spacedItems, itemsText]
      have fits : (itemsText layout depth next more).length ≤ fuel := by
        rw [text_eq, List.length_cons, List.length_append] at bound
        omega
      have comma : skipSpace (Source.ofChars (Value.spacedItems layout depth (next :: more)) ++
            after) = some ',' :: (Source.ofChars (layout.line (depth + 1)) ++
              (Source.ofChars (itemsText layout depth next more) ++ after)) := by
        rw [text_eq, Source.ofChars_cons, Source.ofChars_append, List.cons_append,
          List.append_assoc]
        exact skipSpace_cons (by decide) _
      rw [readItems_more isRead comma, readItems_space (layout.line_space _),
        items depth next more after fits]
      rfl

theorem readsMembers_succ {fuel : Nat} (values : ReadsValues layout fuel)
    (members : ReadsMembers layout fuel) : ReadsMembers layout (fuel + 1) := by
  intro depth key value rest after bound
  have positive := @length_spacedMembers_pos layout depth rest
  simp only [membersText, List.length_append, List.length_cons] at bound
  have isRead := values value (depth + 1)
    (Source.ofChars (Value.spacedMembers layout depth rest) ++ after) (by omega)
    (endsNumber_spacedMembers layout depth rest after)
  rw [← readValue_space layout.gap_space] at isRead
  have source : Source.ofChars (membersText layout depth key value rest) ++ after =
      some '"' :: (Source.ofChars (escaped key.toList) ++ some '"' :: some ':' ::
        (Source.ofChars layout.gap ++ (Source.ofChars (value.spaced layout (depth + 1)) ++
          (Source.ofChars (Value.spacedMembers layout depth rest) ++ after)))) := by
    simp [membersText, quote_eq, Source.ofChars]
  rw [source]
  cases rest with
  | nil =>
      have closing : skipSpace (Source.ofChars (Value.spacedMembers layout depth []) ++ after) =
          some '\x7d' :: after := by
        rw [Value.spacedMembers, Source.ofChars_append, List.append_assoc,
          skipSpace_append (layout.line_space depth)]
        exact skipSpace_cons (by decide) after
      exact readMembers_last (readString_escaped _ _) isRead closing
  | cons next more =>
      obtain ⟨nextKey, nextValue⟩ := next
      have text_eq : Value.spacedMembers layout depth ((nextKey, nextValue) :: more) =
          ',' :: (layout.line (depth + 1) ++ membersText layout depth nextKey nextValue more) := by
        simp [Value.spacedMembers, membersText]
      have fits : (membersText layout depth nextKey nextValue more).length ≤ fuel := by
        rw [text_eq, List.length_cons, List.length_append] at bound
        omega
      have comma : skipSpace (Source.ofChars (Value.spacedMembers layout depth
            ((nextKey, nextValue) :: more)) ++ after) =
          some ',' :: (Source.ofChars (layout.line (depth + 1)) ++
            (Source.ofChars (membersText layout depth nextKey nextValue more) ++ after)) := by
        rw [text_eq, Source.ofChars_cons, Source.ofChars_append, List.cons_append,
          List.append_assoc]
        exact skipSpace_cons (by decide) _
      rw [readMembers_more (readString_escaped _ _) isRead comma,
        readMembers_space (layout.line_space _), members depth nextKey nextValue more after fits]
      rfl

/-- Each step of a reader uses up one character at least. -/
theorem reads (layout : Layout) (fuel : Nat) :
    ReadsValues layout fuel ∧ ReadsItems layout fuel ∧ ReadsMembers layout fuel := by
  induction fuel with
  | zero =>
      refine ⟨?_, ?_, ?_⟩
      · intro value depth after bound
        obtain ⟨first, others, text_eq, -⟩ := head_spaced layout value depth
        simp [text_eq] at bound
      · intro depth item rest after bound
        have positive := @length_spacedItems_pos layout depth rest
        rw [itemsText, List.length_append] at bound
        omega
      · intro depth key value rest after bound
        have positive := @length_spacedMembers_pos layout depth rest
        rw [membersText, List.length_append] at bound
        omega
  | succ fuel hypothesis =>
      obtain ⟨values, items, members⟩ := hypothesis
      exact ⟨readsValues_succ items members, readsItems_succ values items,
        readsMembers_succ values members⟩

end Read

end Raw

/-! ## Whole texts -/

theorem ofSource_spaced (layout : Layout) (value : Value) :
    Document.ofSource (.ofChars (value.spaced layout 0)) = ⟨Raw.ofValue value, true⟩ := by
  have ends : Raw.EndsNumber [] := by
    intro char head
    cases head
  have isRead := (Raw.reads layout (2 * (Source.ofChars (value.spaced layout 0)).length + 2)).1
    value 0 [] (by simp [Source.ofChars]; omega) ends
  rw [List.append_nil] at isRead
  rw [Document.ofSource, isRead]
  rfl

/-- The compact text of a value is read as its tree. -/
theorem ofSource_text (value : Value) :
    Document.ofSource (.ofChars value.text.toList) = ⟨Raw.ofValue value, true⟩ := by
  rw [Value.text, String.toList_ofList, ← Value.spaced_compact 0]
  exact ofSource_spaced .compact value

/-- The indented text of a value is read as its tree. -/
theorem ofSource_pretty (value : Value) :
    Document.ofSource (.ofChars value.pretty.toList) = ⟨Raw.ofValue value, true⟩ := by
  rw [Value.pretty, String.toList_ofList, ← Value.spaced_indented 0]
  exact ofSource_spaced .indented value

namespace Decoder

variable {α : Type} (decoder : Decoder α)

theorem readSource_of_ended {source : Source} {tree : Raw}
    (isRead : Document.ofSource source = ⟨tree, true⟩) :
    decoder.readSource source = decoder depthLimit tree := by
  unfold readSource
  rw [isRead]
  dsimp only
  cases decoder depthLimit tree with
  | ok result => rfl
  | error fault => rfl

/-- The text of a value is read as its tree in every layout. -/
theorem read_spaced (layout : Layout) (value : Value) :
    decoder.read (String.ofList (value.spaced layout 0)) =
      decoder depthLimit (Raw.ofValue value) := by
  rw [read, String.toList_ofList]
  exact decoder.readSource_of_ended (ofSource_spaced layout value)

theorem read_text (value : Value) :
    decoder.read value.text = decoder depthLimit (Raw.ofValue value) :=
  decoder.readSource_of_ended (ofSource_text value)

end Decoder

end CertPress.Json
