import CertPress.Markup.Render
import CertPress.Proofs.Keys
import CertPress.Proofs.Text.Pieces

/-!
# Paths of a template

What a template shows depends on its scope only through the values at its own paths: those
that it shows, those that its conditions ask for and those that its blocks go through.  The
paths inside a repeated block are looked up in the items.
-/

namespace CertPress.Markup

open Json (Value Object)
open Mapping (Alike)

/-! ## Scopes that a template cannot tell apart -/

namespace Node

mutual

/-- The paths that a node looks up in its own scope. -/
def paths : Node → List String
  | .text _ => []
  | .value path => [path]
  | .cond path kept otherwise => path :: (pathsAll kept ++ pathsAll otherwise)
  | .each path _ => [path]

/-- The paths that a list of nodes looks up in its own scope. -/
def pathsAll : List Node → List String
  | [] => []
  | node :: rest => node.paths ++ pathsAll rest

end

mutual

/-- The paths of which a node may show the values. -/
def shownPaths : Node → List String
  | .text _ => []
  | .value path => [path]
  | .cond _ kept otherwise => shownPathsAll kept ++ shownPathsAll otherwise
  | .each _ _ => []

/-- The paths of which a list of nodes may show the values. -/
def shownPathsAll : List Node → List String
  | [] => []
  | node :: rest => node.shownPaths ++ shownPathsAll rest

end

end Node

/-- Values that a template tells apart only if it shows them. -/
inductive Akin : Option Value → Option Value → Prop where
  | same (value : Option Value) : Akin value value
  /-- Two objects, which no template goes through. -/
  | objects {left right : List (String × Value)} :
      left.isEmpty = right.isEmpty → Akin (some (.object left)) (some (.object right))

namespace Akin

variable {left right : Option Value} (akin : Akin left right)

include akin

theorem any_holds : left.any holds = right.any holds := by
  cases akin with
  | same => rfl
  | objects isEmpty => simp [holds, isEmpty]

theorem array (items : List Value) : left = some (.array items) ↔ right = some (.array items) := by
  cases akin with
  | same => rfl
  | objects => simp

end Akin

section Congr

variable {left right : Value}

mutual

/-- A node shows the same in scopes that have akin values at its paths, and the same values
at those of which it may show the values. -/
theorem Node.render_congr (node : Node)
    (akin : ∀ path ∈ node.paths, Akin (lookup left path) (lookup right path))
    (same : ∀ path ∈ node.shownPaths, lookup left path = lookup right path) :
    node.render left = node.render right := by
  cases node with
  | text content => rfl
  | value path => simp only [Node.render, same path (by simp [Node.shownPaths])]
  | cond path kept otherwise =>
      simp only [Node.paths, List.mem_cons, List.mem_append] at akin
      simp only [Node.shownPaths, List.mem_append] at same
      have tested := (akin path (.inl rfl)).any_holds
      have onKept := renderAll_congr kept (fun inner member => akin inner (.inr (.inl member)))
        fun inner member => same inner (.inl member)
      have onOtherwise := renderAll_congr otherwise
        (fun inner member => akin inner (.inr (.inr member)))
        fun inner member => same inner (.inr member)
      simp only [Node.render, tested, onKept, onOtherwise]
  | each path body =>
      have array := (akin path (by simp [Node.paths])).array
      simp only [Node.render]
      split
      next items isLeft => rw [(array items).mp isLeft]
      next notLeft =>
        split
        next items isRight => exact absurd ((array items).mpr isRight) (notLeft items)
        next => rfl

theorem Node.renderAll_congr (nodes : List Node)
    (akin : ∀ path ∈ Node.pathsAll nodes, Akin (lookup left path) (lookup right path))
    (same : ∀ path ∈ Node.shownPathsAll nodes, lookup left path = lookup right path) :
    Node.renderAll left nodes = Node.renderAll right nodes := by
  cases nodes with
  | nil => rfl
  | cons node rest =>
      simp only [Node.pathsAll, List.mem_append] at akin
      simp only [Node.shownPathsAll, List.mem_append] at same
      have onNode := Node.render_congr node (fun path member => akin path (.inl member))
        fun path member => same path (.inl member)
      have onRest := renderAll_congr rest (fun path member => akin path (.inr member))
        fun path member => same path (.inr member)
      rw [Node.renderAll, Node.renderAll, onNode, onRest]

end

end Congr

/-! ## Keys that a template mentions -/

/-- The keys that a path names, one inside the other; none for the scope itself. -/
def keysOf (path : String) : List String :=
  match placeOf path with
  | .self => []
  | .keys keys => keys.map fun key => String.ofList (Text.trim key)

/-- Whether a template asks its scope for a part, or for something inside that part. -/
def Mentions (nodes : List Node) (part : List String) : Prop :=
  ∃ path ∈ Node.pathsAll nodes, part <+: keysOf path

/-- Whether a template may show a part of its scope as a whole. -/
def ShowsWhole (nodes : List Node) (part : List String) : Prop :=
  ∃ path ∈ Node.shownPathsAll nodes, keysOf path = part

instance (nodes : List Node) (part : List String) : Decidable (Mentions nodes part) :=
  inferInstanceAs (Decidable (∃ path ∈ Node.pathsAll nodes, part <+: keysOf path))

instance (nodes : List Node) (part : List String) : Decidable (ShowsWhole nodes part) :=
  inferInstanceAs (Decidable (∃ path ∈ Node.shownPathsAll nodes, keysOf path = part))

mutual

theorem Node.mem_paths_of_shown (node : Node) {path : String} (shown : path ∈ node.shownPaths) :
    path ∈ node.paths := by
  cases node with
  | text | each => cases shown
  | value => exact shown
  | cond _ kept otherwise =>
      rw [Node.shownPaths, List.mem_append] at shown
      rw [Node.paths, List.mem_cons, List.mem_append]
      exact .inr (shown.imp (mem_pathsAll_of_shown kept) (mem_pathsAll_of_shown otherwise))

theorem Node.mem_pathsAll_of_shown (nodes : List Node) {path : String}
    (shown : path ∈ Node.shownPathsAll nodes) : path ∈ Node.pathsAll nodes := by
  cases nodes with
  | nil => exact shown
  | cons node rest =>
      rw [Node.shownPathsAll, List.mem_append] at shown
      rw [Node.pathsAll, List.mem_append]
      exact shown.imp (Node.mem_paths_of_shown node) (mem_pathsAll_of_shown rest)

end

/-- A path means the scope itself, or it names at least one key. -/
theorem placeOf_cases (path : String) :
    placeOf path = .self ∨ ∃ first rest, placeOf path = .keys (first :: rest) := by
  have named (chars : List Char) :
      ∃ first rest, Place.keys (Text.split '.' chars) = .keys (first :: rest) := by
    obtain ⟨first, rest, pieces⟩ := List.exists_cons_of_ne_nil (Text.split_ne_nil '.' chars)
    exact ⟨first, rest, congrArg Place.keys pieces⟩
  unfold placeOf
  dsimp only
  split
  next => exact .inl rfl
  next => exact .inr (named _)
  next => exact .inr (named _)

theorem follow?_cons (object : Object) (first : List Char) (rest : List (List Char)) :
    follow? (.ofObject object) (first :: rest) =
      (object.get? (String.ofList (Text.trim first))).bind (follow? · rest) := rfl

/-- A path of one key names that member of its scope. -/
theorem lookup_single {path : String} (key : List Char) (named : placeOf path = .keys [key])
    (object : Object) :
    lookup (.ofObject object) path = object.get? (String.ofList (Text.trim key)) := by
  rw [lookup, named]
  exact (follow?_cons object key []).trans (Option.bind_fun_some _)

section Alike

variable {hidden : List String} {block inner : String}
  {left right leftBlock rightBlock : Object}
  (alike : Alike (block :: hidden) left right)
  (isLeft : left.get? block = some (.ofObject leftBlock))
  (isRight : right.get? block = some (.ofObject rightBlock))
  (alikeBlock : Alike [inner] leftBlock rightBlock)

include alike isLeft isRight alikeBlock

/-- A path that names nothing hidden has akin values in two scopes, and the same values unless
it names a block that differs. -/
theorem lookup_alike {path : String} (visible : ∀ key ∈ hidden, ¬ [key] <+: keysOf path)
    (visibleInner : ¬ [block, inner] <+: keysOf path) :
    Akin (lookup (.ofObject left) path) (lookup (.ofObject right) path) ∧
      ((keysOf path = [block] → leftBlock = rightBlock) →
        lookup (.ofObject left) path = lookup (.ofObject right) path) := by
  rcases placeOf_cases path with self | ⟨first, rest, named⟩
  · have scope (object : Object) : lookup (.ofObject object) path = none := by
      simp [lookup, self, Value.ofObject, Value.isScalar]
    rw [scope, scope]
    exact ⟨.same none, fun _ => rfl⟩
  have value (object : Object) : lookup (.ofObject object) path =
      (object.get? (String.ofList (Text.trim first))).bind (follow? · rest) := by
    rw [lookup, named]
    exact follow?_cons object first rest
  have keys : keysOf path = String.ofList (Text.trim first) ::
      rest.map fun key => String.ofList (Text.trim key) := by
    rw [keysOf, named]
    rfl
  rw [keys] at visible visibleInner ⊢
  rw [value, value]
  generalize String.ofList (Text.trim first) = key at visible visibleInner
  by_cases isBlock : key = block
  · subst isBlock
    rw [isLeft, isRight, Option.bind_some, Option.bind_some]
    cases rest with
    | nil =>
        refine ⟨.objects alikeBlock.isEmpty_entries, fun whole => ?_⟩
        rw [whole rfl]
    | cons second others =>
        have other : String.ofList (Text.trim second) ∉ [inner] := by
          intro same
          rw [List.map_cons, List.mem_singleton.mp same] at visibleInner
          exact visibleInner (List.prefix_append [key, inner] _)
        rw [follow?_cons, follow?_cons, alikeBlock.values _ other]
        exact ⟨.same _, fun _ => rfl⟩
  · have visibleKey : key ∉ block :: hidden := by
      rw [List.mem_cons, not_or]
      exact ⟨isBlock, fun isHidden => visible key isHidden (List.prefix_append [key] _)⟩
    rw [alike.values key visibleKey]
    exact ⟨.same _, fun _ => rfl⟩

/-- A template that mentions nothing hidden shows the same in both scopes, if it does not
show the block as a whole where that differs. -/
theorem renderAll_alike {nodes : List Node} (visible : ∀ key ∈ hidden, ¬ Mentions nodes [key])
    (visibleInner : ¬ Mentions nodes [block, inner])
    (whole : ShowsWhole nodes [block] → leftBlock = rightBlock) :
    Node.renderAll (.ofObject left) nodes = Node.renderAll (.ofObject right) nodes := by
  have values {path : String} (member : path ∈ Node.pathsAll nodes) :=
    lookup_alike alike isLeft isRight alikeBlock
      (fun key isHidden named => visible key isHidden ⟨path, member, named⟩)
      fun named => visibleInner ⟨path, member, named⟩
  exact Node.renderAll_congr nodes (fun path member => (values member).1) fun path shown =>
    (values (Node.mem_pathsAll_of_shown nodes shown)).2 fun named => whole ⟨path, shown, named⟩

end Alike

end CertPress.Markup
