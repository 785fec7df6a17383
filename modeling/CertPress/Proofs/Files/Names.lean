import CertPress.Proofs.Files.Frame
import CertPress.Proofs.Files.Tidy

/-!
# Keys made of names

A key that is made of plain names leads to the place below its root that the names
spell.
-/

namespace CertPress

namespace FilePath

/-- Names that a key can be made of: none of them stands for a directory on the way. -/
structure Plain (names : List String) : Prop where
  filled : names ≠ []
  isName : ∀ name ∈ names, IsName name
  no_here : "." ∉ names
  no_up : ".." ∉ names

theorem Plain.of_name {name : String} (isName : name.toList ≠ [] ∧ '/' ∉ name.toList)
    (notHere : name ≠ ".") (notUp : name ≠ "..") : Plain [name] := by
  constructor
  · exact List.cons_ne_nil _ _
  · exact List.forall_mem_singleton.mpr isName
  · simpa using notHere.symm
  · simpa using notUp.symm

variable {names : List String} (plain : Plain names)

include plain

theorem pieces_ofNames : (⟨ofNames names⟩ : FilePath).pieces = names.map String.toList := by
  have filled : names.map String.toList ≠ [] := by simpa using plain.filled
  rw [pieces, ofNames, String.toList_ofList, Text.split_join filled]
  intro piece member
  obtain ⟨name, inNames, rfl⟩ := List.mem_map.mp member
  exact (plain.isName name inNames).2

theorem not_isIdle_of_mem {name : String} (member : name ∈ names) :
    isIdle name.toList = false := by
  have notHere : name.toList ≠ ['.'] := by
    intro here
    have same : name = "." := String.toList_inj.mp here
    exact plain.no_here (same ▸ member)
  simp [isIdle, (plain.isName name member).1, notHere]

theorem names_ofNames : (⟨ofNames names⟩ : FilePath).names = names := by
  have kept : (names.map String.toList).filter (!isIdle ·) = names.map String.toList := by
    rw [List.filter_eq_self]
    intro piece member
    obtain ⟨name, inNames, rfl⟩ := List.mem_map.mp member
    simp [not_isIdle_of_mem plain inNames]
  rw [FilePath.names, pieces_ofNames plain, kept, List.map_map]
  simp [Function.comp_def]

theorem isInner_ofNames : ofNames names ≠ "" ∧ (⟨ofNames names⟩ : FilePath).isInner := by
  obtain ⟨name, rest, rfl⟩ := List.exists_cons_of_ne_nil plain.filled
  constructor
  · intro empty
    have noNames := names_ofNames plain
    rw [empty] at noNames
    cases noNames
  · rw [isInner_iff, names_ofNames plain]
    refine ⟨isAbsolute_ofNames plain.isName, ?_, plain.no_up⟩
    have notIdle := not_isIdle_of_mem plain (.head rest)
    rw [startsHere, pieces_ofNames plain]
    simp only [isIdle, Bool.or_eq_false_iff] at notIdle
    simpa using notIdle.2

end FilePath

namespace Disk

open FilePath (Plain ofNames)

theorem foldl_next_filter (names : List String) (here : Location) :
    names.foldl next here = (names.filter (· != ".")).foldl next here := by
  induction names generalizing here with
  | nil => rfl
  | cons name rest hypothesis =>
      by_cases isDot : name = "."
      · rw [List.foldl_cons, next, if_pos isDot, List.filter_cons_of_neg (by simp [isDot]),
          hypothesis]
      · rw [List.foldl_cons, List.filter_cons_of_pos (by simp [isDot]), List.foldl_cons, hypothesis]

theorem foldl_next_names {names : List String} (notHere : "." ∉ names) (notUp : ".." ∉ names)
    (here : Location) : names.foldl next here = here ++ names := by
  induction names generalizing here with
  | nil => simp
  | cons name rest hypothesis =>
      rw [List.mem_cons, not_or] at notHere notUp
      rw [List.foldl_cons, next, if_neg (Ne.symm notHere.1), if_neg (Ne.symm notUp.1),
        hypothesis notHere.2 notUp.2, List.append_assoc, List.singleton_append]

/-- The place of a directory is that of its names, with a slash at the end or without. -/
theorem foldl_next_pieces (disk : Disk) (path : FilePath) :
    ((path.pieces.filter (!List.isEmpty ·)).map String.ofList).foldl next (disk.start path) =
      disk.place path := by
  rw [place, route]
  split
  next => rw [List.foldl_append]; rfl
  next => rfl

/-- A key leads to its names below the root. -/
theorem place_join {names : List String} (plain : Plain names) (disk : Disk) (root : FilePath) :
    disk.place (root.join (ofNames names)) = disk.place root ++ names := by
  obtain ⟨filled, inner⟩ := FilePath.isInner_ofNames plain
  have relative := (FilePath.isInner_iff.mp inner).1
  have start_eq : disk.start (root.join (ofNames names)) = disk.start root := by
    rw [start, start, FilePath.isAbsolute_join_eq relative]
  rw [place, route_join root filled relative, List.foldl_append, start_eq, foldl_next_pieces,
    foldl_next_filter, filter_route, FilePath.names_ofNames plain,
    foldl_next_names plain.no_here plain.no_up]

theorem place_join_pair {directory name : String} (plain : Plain [directory, name]) (disk : Disk)
    (root : FilePath) :
    disk.place (root.join (ofNames [directory, name])) =
      disk.place root ++ [directory] ++ [name] := by
  rw [place_join plain]
  simp

end Disk

end CertPress
