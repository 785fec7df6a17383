import CertPress.Proofs.Markup.Paths
import CertPress.Proofs.Text.Ascii
import CertPress.Proofs.Text.Cut
import CertPress.Proofs.Text.Trim

/-!
# Loops without loops

A repeated block shows what its body would show once for each item of the array, with the
paths of the body put behind the path of the item.  The scope stays that of the block then, so
an item is reached from there and not as the whole scope.

The argument is about dotted paths: what a path names behind another one is looked up inside
what that one names.  This does not hold of the word that names the scope itself, which means
something only in front.
-/

namespace CertPress.Markup

open Json (Value)

/-! ## Keys between dots -/

/-- The keys between the dots of a text. -/
def keysBetween (chars : List Char) : List String :=
  (Text.split '.' chars).map fun key => String.ofList (Text.trim key)

theorem keysBetween_append (left right : List Char) :
    keysBetween (left ++ '.' :: right) = keysBetween left ++ keysBetween right := by
  rw [keysBetween, Text.split_append, List.map_append, keysBetween, keysBetween]

theorem keysBetween_of_not_mem {chars : List Char} (single : '.' ∉ chars) :
    keysBetween chars = [String.ofList (Text.trim chars)] := by
  rw [keysBetween, Text.split_eq_singleton single, List.map_singleton]

/-- A dot is not blank, so the blanks at an end belong to the key there. -/
theorem keysBetween_trimStart (chars : List Char) :
    keysBetween (Text.trimStart chars) = keysBetween chars := by
  by_cases dotted : '.' ∈ chars
  · obtain ⟨left, right, rfl, single⟩ := List.eq_append_cons_of_mem dotted
    have inLeft : '.' ∉ Text.trimStart left := fun member =>
      single ((List.dropWhile_sublist _).mem member)
    rw [Text.trimStart_append_cons (by decide), keysBetween_append, keysBetween_append,
      keysBetween_of_not_mem single, keysBetween_of_not_mem inLeft, Text.trim_trimStart]
  · have inStart : '.' ∉ Text.trimStart chars := fun member =>
      dotted ((List.dropWhile_sublist _).mem member)
    rw [keysBetween_of_not_mem dotted, keysBetween_of_not_mem inStart, Text.trim_trimStart]

theorem keysBetween_trimEnd (chars : List Char) :
    keysBetween (Text.trimEnd chars) = keysBetween chars := by
  by_cases dotted : '.' ∈ chars
  · obtain ⟨right, left, reversed, single⟩ :=
      List.eq_append_cons_of_mem (List.mem_reverse.mpr dotted)
    obtain rfl : chars = left.reverse ++ '.' :: right.reverse := by
      rw [← List.reverse_reverse chars, reversed]
      simp
    rw [← List.mem_reverse] at single
    have inRight : '.' ∉ Text.trimEnd right.reverse := fun member =>
      single ((Text.trimEnd_prefix _).mem member)
    rw [Text.trimEnd_append_cons (by decide), keysBetween_append, keysBetween_append,
      keysBetween_of_not_mem single, keysBetween_of_not_mem inRight, Text.trim_trimEnd]
  · have inEnd : '.' ∉ Text.trimEnd chars := fun member =>
      dotted ((Text.trimEnd_prefix _).mem member)
    rw [keysBetween_of_not_mem dotted, keysBetween_of_not_mem inEnd, Text.trim_trimEnd]

theorem keysBetween_trim (chars : List Char) :
    keysBetween (Text.trim chars) = keysBetween chars := by
  rw [Text.trim, keysBetween_trimEnd, keysBetween_trimStart]

/-! ## What a path means -/

/-- Whether a path, as it is read, is the word for the scope itself or has that word as its
first key. -/
def NamesSelf (path : String) : Prop :=
  Text.trim path.toList = selfWord ∨ selfWord ++ ['.'] <+: Text.trim path.toList

instance (path : String) : Decidable (NamesSelf path) :=
  inferInstanceAs (Decidable (_ ∨ _))

section Place

variable {path : String}

theorem placeOf_self (same : Text.trim path.toList = selfWord) : placeOf path = .self := by
  have behind : Text.after? selfWord (Text.trim path.toList) = some [] :=
    Text.after?_eq_some_iff.mpr (by rw [same, List.append_nil])
  simp only [placeOf, behind]

theorem placeOf_behind {rest : List Char}
    (starts : Text.trim path.toList = selfWord ++ '.' :: rest) :
    placeOf path = .keys (Text.split '.' rest) := by
  have behind : Text.after? selfWord (Text.trim path.toList) = some ('.' :: rest) :=
    Text.after?_eq_some_iff.mpr starts
  simp only [placeOf, behind]

theorem placeOf_named (named : ¬ NamesSelf path) :
    placeOf path = .keys (Text.split '.' (Text.trim path.toList)) := by
  unfold placeOf
  dsimp only
  split
  next behind =>
    refine absurd (.inl ?_) named
    rw [Text.after?_eq_some_iff.mp behind, List.append_nil]
  next rest behind =>
    refine absurd (.inr ⟨rest, ?_⟩) named
    rw [Text.after?_eq_some_iff.mp behind, List.append_assoc, List.singleton_append]
  next => rfl

theorem keysOf_behind {rest : List Char}
    (starts : Text.trim path.toList = selfWord ++ '.' :: rest) :
    keysOf path = keysBetween rest := by
  rw [keysOf, placeOf_behind starts, keysBetween]

theorem keysOf_named (named : ¬ NamesSelf path) : keysOf path = keysBetween path.toList := by
  rw [keysOf, placeOf_named named, ← keysBetween_trim, keysBetween]

/-- A path to a part is looked up key by key. -/
theorem lookup_eq_foldlM (part : placeOf path ≠ .self) (scope : Value) :
    lookup scope path = (keysOf path).foldlM (fun value key => part? value key.toList) scope := by
  cases place : placeOf path with
  | self => exact absurd place part
  | keys keys => simp only [lookup, keysOf, place, follow?, List.foldlM_map, String.toList_ofList]

end Place

/-! ## Paths behind paths -/

section Behind

variable {front path : String}

theorem trim_dotted (front path : String) :
    Text.trim (front ++ "." ++ path).toList =
      Text.trimStart front.toList ++ '.' :: Text.trimEnd path.toList := by
  have chars : (front ++ "." ++ path).toList = front.toList ++ '.' :: path.toList := by simp
  rw [chars, Text.trim_append_cons (by decide)]

/-- A path behind one that does not start with the word for the scope does not either. -/
theorem not_namesSelf_dotted (named : ¬ NamesSelf front) (path : String) :
    ¬ NamesSelf (front ++ "." ++ path) := by
  have wordFree : '.' ∉ selfWord := by decide
  have trimmed : Text.trim front.toList = Text.trimEnd (Text.trimStart front.toList) := rfl
  rintro (same | ⟨rest, starts⟩)
  · rw [← same, trim_dotted] at wordFree
    exact wordFree (List.mem_append_right _ (.head _))
  · rw [trim_dotted, List.append_assoc, List.singleton_append] at starts
    by_cases dotted : '.' ∈ Text.trimStart front.toList
    · obtain ⟨first, later, whole, single⟩ := List.eq_append_cons_of_mem dotted
      rw [whole, List.append_assoc, List.cons_append] at starts
      obtain ⟨rfl, -⟩ := (Text.append_separator_inj wordFree single).mp starts
      rw [whole, Text.trimEnd_append_cons (by decide)] at trimmed
      refine named (.inr ⟨Text.trimEnd later, ?_⟩)
      rw [trimmed, List.append_assoc, List.singleton_append]
    · obtain ⟨word, -⟩ := (Text.append_separator_inj wordFree dotted).mp starts
      rw [← word] at trimmed
      exact named (.inl trimmed)

/-- A path behind one to a part has the keys of both. -/
theorem keysOf_dotted (part : placeOf front ≠ .self) (path : String) :
    placeOf (front ++ "." ++ path) ≠ .self ∧
      keysOf (front ++ "." ++ path) = keysOf front ++ keysBetween path.toList := by
  by_cases named : NamesSelf front
  · rcases named with same | ⟨rest, starts⟩
    · exact absurd (placeOf_self same) part
    · rw [List.append_assoc, List.singleton_append] at starts
      obtain ⟨blanks, whole⟩ := Text.trimEnd_prefix (Text.trimStart front.toList)
      rw [← Text.trim, ← starts, List.append_assoc, List.cons_append] at whole
      have dotted := trim_dotted front path
      rw [← whole, List.append_assoc, List.cons_append] at dotted
      have same : keysBetween (rest ++ blanks) = keysBetween rest := by
        have kept := keysBetween_trimEnd (Text.trimStart front.toList)
        rw [← Text.trim, ← starts, ← whole, keysBetween_append, keysBetween_append] at kept
        exact (List.append_cancel_left kept).symm
      refine ⟨by simp [placeOf_behind dotted], ?_⟩
      rw [keysOf_behind dotted, keysOf_behind starts.symm, keysBetween_append, same,
        keysBetween_trimEnd]
  · have dotted := not_namesSelf_dotted named path
    have chars : (front ++ "." ++ path).toList = front.toList ++ '.' :: path.toList := by simp
    refine ⟨by simp [placeOf_named dotted], ?_⟩
    rw [keysOf_named dotted, keysOf_named named, chars, keysBetween_append]

/-- A path behind another one is looked up inside what that one names. -/
theorem lookup_dotted (part : placeOf front ≠ .self) (named : ¬ NamesSelf path) (scope : Value) :
    lookup scope (front ++ "." ++ path) = (lookup scope front).bind (lookup · path) := by
  have pathPart : placeOf path ≠ .self := by simp [placeOf_named named]
  obtain ⟨dottedPart, keys⟩ := keysOf_dotted part path
  rw [lookup_eq_foldlM dottedPart, lookup_eq_foldlM part, keys, List.foldlM_append,
    ← keysOf_named named]
  simp only [lookup_eq_foldlM pathPart]
  rfl

end Behind

/-! ## Items of an array -/

/-- The path of the item of an array at an index. -/
def itemPath (path : String) (index : Nat) : String :=
  path ++ "." ++ String.ofList (Nat.toDigits 10 index)

section Item

variable {scope : Value} {path : String} {items : List Value} {index : Nat}

/-- Digits are one key, which is not the word for the scope. -/
theorem not_namesSelf_toDigits (index : Nat) :
    ¬ NamesSelf (String.ofList (Nat.toDigits 10 index)) := by
  intro named
  have word : selfWord <+: Nat.toDigits 10 index := by
    rw [NamesSelf, String.toList_ofList, Text.trim_toDigits] at named
    rcases named with same | starts
    · rw [same]
    · exact (List.prefix_append _ _).trans starts
  exact absurd (Text.isDigit_toDigits index 't' (word.mem (.head _))) (by decide)

/-- An index that fits names an item. -/
theorem lookup_index (items : List Value) (fits : index < indexBound) :
    lookup (.array items) (String.ofList (Nat.toDigits 10 index)) = items[index]? := by
  have named := not_namesSelf_toDigits index
  have single : '.' ∉ Nat.toDigits 10 index := fun member =>
    absurd (Text.isDigit_toDigits index '.' member) (by decide)
  rw [lookup_eq_foldlM (by simp [placeOf_named named]), keysOf_named named, String.toList_ofList,
    keysBetween_of_not_mem single, Text.trim_toDigits]
  simp [part?, Text.unsigned_toDigits fits]

theorem placeOf_ne_self (found : lookup scope path = some (.array items)) :
    placeOf path ≠ .self := by
  intro self
  simp only [lookup, self] at found
  split at found
  next isScalar =>
    obtain rfl := Option.some.inj found
    cases isScalar
  next => cases found

theorem placeOf_itemPath (part : placeOf path ≠ .self) (index : Nat) :
    placeOf (itemPath path index) ≠ .self :=
  (keysOf_dotted part _).1

/-- The path of an item leads to it. -/
theorem lookup_itemPath (found : lookup scope path = some (.array items))
    (fits : index < indexBound) : lookup scope (itemPath path index) = items[index]? := by
  rw [itemPath, lookup_dotted (placeOf_ne_self found) (not_namesSelf_toDigits index), found,
    Option.bind_some, lookup_index items fits]

end Item

/-! ## Bodies of loops -/

namespace Node

mutual

/-- A node with its own paths put behind a path.  What is inside a repeated block is looked up
in the items and stays. -/
def behind (front : String) : Node → Node
  | .text content => .text content
  | .value path => .value (front ++ "." ++ path)
  | .cond path kept otherwise =>
      .cond (front ++ "." ++ path) (behindAll front kept) (behindAll front otherwise)
  | .each path body => .each (front ++ "." ++ path) body

/-- Nodes with their own paths put behind a path. -/
def behindAll (front : String) : List Node → List Node
  | [] => []
  | node :: rest => node.behind front :: behindAll front rest

end

/-- The body of a repeated block once for each of a number of items, the first one first. -/
def unrolled (path : String) (count : Nat) (body : List Node) : List Node :=
  (List.range count).flatMap fun index => behindAll (itemPath path index) body

end Node

section Body

variable {scope item : Value} {front : String}

mutual

/-- A node shows in a part of its scope what it shows in the scope with its paths behind the
one to the part. -/
theorem Node.render_behind (node : Node)
    (same : ∀ path ∈ node.paths, lookup scope (front ++ "." ++ path) = lookup item path) :
    (node.behind front).render scope = node.render item := by
  cases node with
  | text content => rfl
  | value path => simp only [Node.behind, Node.render, same path (by simp [Node.paths])]
  | cond path kept otherwise =>
      simp only [Node.paths, List.mem_cons, List.mem_append] at same
      have tested := same path (.inl rfl)
      have onKept := renderAll_behindAll kept fun inner member => same inner (.inr (.inl member))
      have onOtherwise := renderAll_behindAll otherwise fun inner member =>
        same inner (.inr (.inr member))
      simp only [Node.behind, Node.render, tested, onKept, onOtherwise]
  | each path body => simp only [Node.behind, Node.render, same path (by simp [Node.paths])]

theorem Node.renderAll_behindAll (nodes : List Node)
    (same : ∀ path ∈ Node.pathsAll nodes,
      lookup scope (front ++ "." ++ path) = lookup item path) :
    Node.renderAll scope (Node.behindAll front nodes) = Node.renderAll item nodes := by
  cases nodes with
  | nil => rfl
  | cons node rest =>
      simp only [Node.pathsAll, List.mem_append] at same
      have onNode := Node.render_behind node fun path member => same path (.inl member)
      have onRest := renderAll_behindAll rest fun path member => same path (.inr member)
      rw [Node.behindAll, Node.renderAll, Node.renderAll, onNode, onRest]

end

end Body

theorem Node.renderAll_flatMap {α : Type} (scope : Value) (nodes : α → List Node)
    (list : List α) :
    Node.renderAll scope (list.flatMap nodes) =
      String.join (list.map fun entry => Node.renderAll scope (nodes entry)) := by
  induction list with
  | nil => rfl
  | cons entry rest hypothesis =>
      rw [List.flatMap_cons, Node.renderAll_append, hypothesis, List.map_cons, String.join_cons]

/-- A repeated block shows what its unrolled body shows in the scope of the block.  The items
have to be so few that each has an index; an array in memory always has fewer. -/
theorem render_each_eq_unrolled {scope : Value} {path : String} {items : List Value}
    {body : List Node} (found : lookup scope path = some (.array items))
    (fits : items.length ≤ indexBound)
    (named : ∀ inner ∈ Node.pathsAll body, ¬ NamesSelf inner) :
    (Node.each path body).render scope =
      Node.renderAll scope (Node.unrolled path items.length body) := by
  have part := placeOf_ne_self found
  simp only [Node.render, found]
  rw [Node.unrolled, Node.renderAll_flatMap]
  refine congrArg String.join (List.ext_getElem (by simp) fun index inItems inRange => ?_)
  rw [List.length_map] at inItems
  have isItem : lookup scope (itemPath path index) = some items[index] := by
    rw [lookup_itemPath found (inItems.trans_le fits), List.getElem?_eq_getElem inItems]
  rw [List.getElem_map, List.getElem_map, List.getElem_range]
  refine (Node.renderAll_behindAll body fun inner member => ?_).symm
  rw [lookup_dotted (placeOf_itemPath part index) (named inner member), isItem, Option.bind_some]

/-- A scope with two rows, of which one has tags. -/
def taggedRows : Value :=
  .object [("rows", .array
    [.object [("name", .string "a"), ("tags", .array [.string "x", .string "y"])],
     .object [("name", .string "b")]])]

/-- The body of a loop over rows, with a loop over the tags of a row. -/
def tagBody : List Node :=
  [.value "name", .cond "tags" [.each "tags" [.text "+", .value "this"]] [.text "."]]

/-- The rows of a scope and a body with a loop of its own. -/
theorem render_each_eq_unrolled_rows :
    (Node.each "rows" tagBody).render taggedRows =
        Node.renderAll taggedRows (Node.unrolled "rows" 2 tagBody) ∧
      (Node.each "rows" tagBody).render taggedRows = "a+x+yb." := by
  have found : lookup taggedRows "rows" = some (.array
      [.object [("name", .string "a"), ("tags", .array [.string "x", .string "y"])],
       .object [("name", .string "b")]]) := rfl
  exact ⟨render_each_eq_unrolled found (by decide) (by decide), by decide⟩

end CertPress.Markup
