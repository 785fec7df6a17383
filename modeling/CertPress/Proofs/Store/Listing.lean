import CertPress.Proofs.Store.Confined
import CertPress.Proofs.Store.RoundTrip
import Mathlib.Data.List.Sort

/-!
# Listings of records

A listing takes the names in a directory in order and keeps what can be read.  What is read from
one file depends on that file only, so two disks that differ in one file list the same records in
the same order, but for the one that is read from the file.
-/

namespace CertPress

/-! ## Names in order -/

/-- Texts with the same start are in the order of what follows. -/
theorem append_lt_append_iff {front left right : List Char} :
    front ++ left < front ++ right ↔ left < right := by
  induction front with
  | nil => exact Iff.rfl
  | cons char rest hypothesis =>
      rw [List.cons_append, List.cons_append, List.cons_lt_cons_iff, hypothesis]
      simp

section Ordered

variable {items : List String} {key : String}

/-- Texts behind a key are neither before it nor the key itself. -/
theorem filter_of_behind (behind : ∀ item ∈ items, key < item) :
    items.filter (· < key) = [] ∧ items.filter (· == key) = [] ∧
      items.filter (key < ·) = items := by
  refine ⟨?_, ?_, ?_⟩
  · apply List.filter_eq_nil_iff.mpr
    intro item member
    rw [decide_eq_true_eq]
    exact String.lt_asymm (behind item member)
  · apply List.filter_eq_nil_iff.mpr
    intro item member isKey
    rw [beq_iff_eq] at isKey
    exact String.lt_irrefl key (isKey ▸ behind item member)
  · apply List.filter_eq_self.mpr
    intro item member
    exact decide_eq_true (behind item member)

/-- Texts in order are those before a key, the key itself if it is there, and those behind it. -/
theorem eq_filter_append (ordered : items.Pairwise (· < ·)) (key : String) :
    items = items.filter (· < key) ++ items.filter (· == key) ++ items.filter (key < ·) := by
  induction items with
  | nil => rfl
  | cons first rest hypothesis =>
      obtain ⟨isFirst, orderedRest⟩ := List.pairwise_cons.mp ordered
      by_cases before : first < key
      · have notKey : (first == key) = false := by
          rw [beq_eq_false_iff_ne]
          rintro rfl
          exact String.lt_irrefl _ before
        have notBehind : ¬ key < first := String.lt_asymm before
        simp only [List.filter_cons, before, notKey, notBehind, decide_true, decide_false, if_true,
          if_false, Bool.false_eq_true, List.cons_append, ← hypothesis orderedRest]
      · by_cases isKey : first = key
        · subst isKey
          obtain ⟨noneBefore, noneSame, allBehind⟩ := filter_of_behind isFirst
          simp only [List.filter_cons, String.lt_irrefl, beq_self_eq_true, decide_false, if_true,
            if_false, Bool.false_eq_true, noneBefore, noneSame, allBehind]
          rfl
        · have behind : ∀ item ∈ first :: rest, key < item := by
            intro item member
            have keyFirst : key < first :=
              String.not_le.mp fun firstLe =>
                isKey (String.le_antisymm firstLe (String.not_lt.mp before))
            rcases List.mem_cons.mp member with rfl | inRest
            · exact keyFirst
            · exact String.lt_trans keyFirst (isFirst item inRest)
          obtain ⟨noneBefore, noneSame, allBehind⟩ := filter_of_behind behind
          rw [noneBefore, noneSame, allBehind]
          rfl

end Ordered

namespace Disk

variable {disk left right : Disk} {location : Location} {path directory : FilePath} {name : String}

/-- The names in a directory, in order. -/
def names (disk : Disk) (location : Location) : List String :=
  (disk.below location).filterMap fun (name, _) =>
    if name.contains '/' then none else some (String.ofList name)

theorem list_of_isDirectory (isDirectory : disk.isDirectory path) :
    disk.list path = .ok (disk.names (disk.place path)) := by
  rw [list, find_eq_ok.mpr (isDirectory_iff.mp isDirectory)]
  rfl

theorem mem_names :
    name ∈ disk.names location ↔ '/' ∉ name.toList ∧ disk.at? (location ++ [name]) ≠ none := by
  rw [names, List.mem_filterMap]
  constructor
  · rintro ⟨⟨chars, entry⟩, member, isName⟩
    dsimp only at isName
    split at isName
    next => cases isName
    next free =>
      cases isName
      rw [String.toList_ofList]
      rw [← String.toList_ofList (l := chars)] at member
      refine ⟨by simpa using free, ?_⟩
      rw [mem_below.mp member]
      exact Option.some_ne_none entry
  · rintro ⟨free, isThere⟩
    obtain ⟨entry, isEntry⟩ := Option.ne_none_iff_exists'.mp isThere
    refine ⟨_, mem_below.mpr isEntry, ?_⟩
    dsimp only
    rw [if_neg (by simpa using free), String.ofList_toList]

theorem ordered_names (disk : Disk) (location : Location) :
    (disk.names location).Pairwise (· < ·) := by
  rw [names, List.pairwise_filterMap]
  apply (disk.ordered_below location).imp
  rintro ⟨left, leftEntry⟩ ⟨right, rightEntry⟩ before first isFirst second isSecond
  dsimp only at isFirst isSecond
  split at isFirst
  next => cases isFirst
  next =>
    split at isSecond
    next => cases isSecond
    next =>
      cases isFirst
      cases isSecond
      rw [String.lt_iff_toList_lt] at before ⊢
      rw [String.toList_ofList, String.toList_ofList] at before ⊢
      have afterSlash : ['/'] ++ left < ['/'] ++ right := append_lt_append_iff.mp before
      exact append_lt_append_iff.mp afterSlash

theorem isFile_of_read {content : Bytes} (isRead : disk.read path = .ok content) :
    disk.isFile path := by
  obtain ⟨located, isFile⟩ := read_eq_ok.mp isRead
  unfold file? at isFile
  split at isFile
  next isThere => exact isFile_iff.mpr ⟨_, _, _, find_eq_ok.mpr ⟨located, isThere⟩⟩
  next => cases isFile

/-! ## Disks that differ in one file -/

/-- Two disks that differ at most in one file of a directory: on each of them there is no
directory of its name, and everything else is on both of them. -/
structure DifferIn (directory : FilePath) (name : String) (left right : Disk) : Prop where
  isDirectory : left.isDirectory directory
  free : '/' ∉ name.toList
  workingDirectory : right.workingDirectory = left.workingDirectory
  leftFile : left.at? (left.place directory ++ [name]) ≠ some .directory
  rightFile : right.at? (left.place directory ++ [name]) ≠ some .directory
  elsewhere : ∀ location, location.key ≠ (left.place directory ++ [name]).key →
    right.at? location = left.at? location

namespace DifferIn

variable (differ : DifferIn directory name left right)
include differ

/-- All files but the one are kept. -/
theorem keeps :
    Keeps (fun other => other.key ≠ (left.place directory ++ [name]).key) left right where
  workingDirectory := differ.workingDirectory
  directory location isThere := by
    by_cases same : location.key = (left.place directory ++ [name]).key
    · rw [left.at?_of_key same] at isThere
      exact absurd isThere differ.leftFile
    · exact (differ.elsewhere location same).trans isThere
  file location apart := by rw [file?, differ.elsewhere location apart, ← file?]

theorem place_eq (path : FilePath) : right.place path = left.place path :=
  differ.keeps.place path

theorem symm : DifferIn directory name right left where
  isDirectory := isDirectory_of_keeps differ.keeps differ.isDirectory
  free := differ.free
  workingDirectory := differ.workingDirectory.symm
  leftFile := by
    rw [differ.place_eq]
    exact differ.rightFile
  rightFile := by
    rw [differ.place_eq]
    exact differ.leftFile
  elsewhere location apart := by
    rw [differ.place_eq] at apart
    exact (differ.elsewhere location apart).symm

/-- The other names of the directory are on both disks. -/
theorem filter_names {shown : String → Bool} (leftOut : shown name = false) :
    (right.names (left.place directory)).filter shown =
      (left.names (left.place directory)).filter shown := by
  apply List.Pairwise.eq_of_mem_iff (r := (· < ·))
  · exact (ordered_names right _).filter shown
  · exact (ordered_names left _).filter shown
  · intro other
    rw [List.mem_filter, List.mem_filter, mem_names, mem_names]
    apply and_congr_left
    intro isShown
    have apart : (left.place directory ++ [other]).key ≠ (left.place directory ++ [name]).key := by
      intro same
      rw [key_concat_inj.mp same, leftOut] at isShown
      cases isShown
    rw [differ.elsewhere _ apart]

end DifferIn

end Disk

/-! ## Keys in a directory -/

namespace FilePath

theorem endsWithSlash_withoutTrailing (text : String) :
    (⟨Text.withoutTrailing '/' text⟩ : FilePath).endsWithSlash = false := by
  rw [endsWithSlash, Text.withoutTrailing, String.toList_ofList, Text.dropTrailing,
    List.getLast?_reverse, beq_eq_false_iff_ne]
  intro slash
  have notSlash := List.head?_dropWhile_not (· == '/') text.toList.reverse
  rw [slash] at notSlash
  cases notSlash

theorem names_of_free {name : String} (free : '/' ∉ name.toList) :
    (⟨name⟩ : FilePath).names = if isIdle name.toList then [] else [name] := by
  rw [names, pieces, Text.split_eq_singleton free]
  cases idle : isIdle name.toList with
  | true => simp [idle]
  | false => simp [idle]

end FilePath

namespace Store

open Json (Decoder)
open Disk (DifferIn)

variable {α : Type} {decoder : Decoder α} {root directory : FilePath} {start name key : String}
variable {disk left right : Disk} {record : α}

/-- The key of a name directly below a start of keys. -/
def childKey (start name : String) : String := Text.withoutTrailing '/' start ++ "/" ++ name

/-- The record of a key, if a listing shows it. -/
def listedRecord? (decoder : Decoder α) (root : FilePath) (disk : Disk) (key : String) :
    Option α :=
  if key.endsWith ".json" then (loadRecord decoder root key disk).toOption else none

theorem loadRecord_of_content {content : Bytes} (isRead : Store.read root key disk = .ok content)
    (isRecord : decoder.readBytes content = .ok record) :
    loadRecord decoder root key disk = .ok record := by
  rw [loadRecord, isRead]
  simp only [bind, Except.bind, isRecord]
  rfl

theorem listedRecord?_eq_some : listedRecord? decoder root disk key = some record ↔
    key.endsWith ".json" ∧ ∃ content, Store.read root key disk = .ok content ∧
      decoder.readBytes content = .ok record := by
  rw [listedRecord?]
  constructor
  · intro isShown
    split at isShown
    next isJson =>
      cases loaded : loadRecord decoder root key disk with
      | ok found =>
          rw [loaded] at isShown
          cases isShown
          exact ⟨isJson, loadRecord_eq_ok loaded⟩
      | error fault =>
          rw [loaded] at isShown
          cases isShown
    next => cases isShown
  · intro isStored
    obtain ⟨isJson, content, isRead, isRecord⟩ := isStored
    rw [if_pos isJson, loadRecord_of_content isRead isRecord]
    rfl

theorem listRecords_of_list {keys : List String} (listed : Store.list root start disk = .ok keys) :
    listRecords decoder root start disk =
      .ok (keys.filterMap (listedRecord? decoder root disk)) := by
  rw [listRecords, listed]
  simp only [bind, Except.bind, pure, Except.pure, List.filterMap_filter]
  congr 2
  funext key
  rw [listedRecord?]
  split
  next =>
    cases loadRecord decoder root key disk with
    | ok record => rfl
    | error fault => rfl
  next => rfl

section Child

variable (isPath : objectPath root (Text.withoutTrailing '/' start) = .ok directory)
variable (free : '/' ∉ name.toList)
include isPath free

omit free in
/-- A key below a start of keys is the path of its name below that of the start. -/
theorem childKey_eq (free : '/' ∉ name.toList) :
    (⟨childKey start name⟩ : FilePath) =
      (⟨Text.withoutTrailing '/' start⟩ : FilePath).join name := by
  have filled := (safe_iff.mp (objectPath_eq_ok.mp isPath).1).1
  rw [FilePath.join_eq (FilePath.isAbsolute_of_free free),
    FilePath.endsWithSlash_withoutTrailing, if_neg (by simpa using filled)]
  rfl

theorem join_childKey : root.join (childKey start name) = directory.join name := by
  obtain ⟨safe, isJoin⟩ := objectPath_eq_ok.mp isPath
  subst isJoin
  obtain ⟨filled, inner⟩ := safe_iff.mp safe
  exact (FilePath.join_join filled (FilePath.isInner_iff.mp inner).1
    (FilePath.endsWithSlash_withoutTrailing start) (FilePath.isAbsolute_of_free free)).symm

/-- What is read under the key of a name is the file of that name in the directory. -/
theorem place_of_read (isDirectory : disk.isDirectory directory) {content : Bytes}
    (isRead : Store.read root (childKey start name) disk = .ok content) :
    disk.place (root.join (childKey start name)) = disk.place directory ++ [name] := by
  obtain ⟨safe, isJoin⟩ := objectPath_eq_ok.mp isPath
  subst isJoin
  obtain ⟨filled, inner⟩ := safe_iff.mp safe
  obtain ⟨⟨-, childInner⟩, found⟩ := read_eq_ok.mp isRead
  have childNames : (⟨childKey start name⟩ : FilePath).names =
      (⟨Text.withoutTrailing '/' start⟩ : FilePath).names ++ (⟨name⟩ : FilePath).names := by
    rw [childKey_eq isPath free, FilePath.names_join _ (FilePath.isAbsolute_of_free free)]
  have isPlace : disk.place (root.join (childKey start name)) =
      disk.place (root.join (Text.withoutTrailing '/' start)) ++ (⟨name⟩ : FilePath).names := by
    rw [Disk.place_join_inner childInner, Disk.place_join_inner inner, childNames,
      List.append_assoc]
  rw [FilePath.names_of_free free] at isPlace
  split at isPlace
  next idle =>
    -- An idle name leads to the directory itself, which has no content.
    rw [List.append_nil] at isPlace
    have noFile := Disk.file?_of_directory (Disk.isDirectory_iff.mp isDirectory).2
    rw [← isPlace, (Disk.read_eq_ok.mp found).2] at noFile
    cases noFile
  next => exact isPlace

/-- A record that is shown is in a file of the directory. -/
theorem isFile_of_listedRecord? (isDirectory : disk.isDirectory directory)
    (isShown : listedRecord? decoder root disk (childKey start name) = some record) :
    name ∈ disk.names (disk.place directory) ∧ disk.isFile (directory.join name) := by
  obtain ⟨-, content, isRead, -⟩ := listedRecord?_eq_some.mp isShown
  have isPlace := place_of_read isPath free isDirectory isRead
  have found := (read_eq_ok.mp isRead).2
  obtain ⟨-, isFile⟩ := Disk.read_eq_ok.mp found
  constructor
  · rw [Disk.mem_names, ← isPlace]
    refine ⟨free, ?_⟩
    intro nothing
    rw [Disk.file?_of_nothing nothing] at isFile
    cases isFile
  · rw [← join_childKey isPath free]
    exact Disk.isFile_of_read found

end Child

section List

variable (isPath : objectPath root (Text.withoutTrailing '/' start) = .ok directory)
variable (isDirectory : disk.isDirectory directory)
include isPath isDirectory

theorem list_eq_ok : Store.list root start disk =
    .ok (((disk.names (disk.place directory)).filter fun name =>
      disk.isFile (directory.join name)).map (childKey start)) := by
  rw [Store.list]
  simp only [isPath, bind, Except.bind, Disk.list_of_isDirectory isDirectory]
  rfl

/-- The keys of a listing are in order, and none of them is there twice. -/
theorem ordered_list : ∃ keys, Store.list root start disk = .ok keys ∧ keys.Pairwise (· < ·) := by
  refine ⟨_, list_eq_ok isPath isDirectory, ?_⟩
  rw [List.pairwise_map]
  apply ((disk.ordered_names _).filter _).imp
  intro left right before
  rw [String.lt_iff_toList_lt] at before ⊢
  simp only [childKey, String.toList_append]
  exact append_lt_append_iff.mpr before

/-- A listing goes through the names of the directory. -/
theorem listRecords_eq_ok : listRecords decoder root start disk =
    .ok ((disk.names (disk.place directory)).filterMap fun name =>
      listedRecord? decoder root disk (childKey start name)) := by
  have eachShown (name : String) (member : name ∈ disk.names (disk.place directory)) :
      (if disk.isFile (directory.join name) then
        listedRecord? decoder root disk (childKey start name) else none) =
      listedRecord? decoder root disk (childKey start name) := by
    split
    next => rfl
    next noFile =>
      symm
      apply Option.eq_none_iff_forall_ne_some.mpr
      intro record isShown
      have free := (Disk.mem_names.mp member).1
      exact noFile (isFile_of_listedRecord? isPath free isDirectory isShown).2
  rw [listRecords_of_list (list_eq_ok isPath isDirectory)]
  simp only [List.filterMap_map, List.filterMap_filter, Function.comp_apply]
  apply congrArg Except.ok
  exact List.filterMap_congr eachShown

/-- A listing is what comes before a name, the record of the name, and what comes behind it. -/
theorem listRecords_eq_append (free : '/' ∉ name.toList) :
    listRecords decoder root start disk =
      .ok ((((disk.names (disk.place directory)).filter (· < name)).filterMap fun other =>
          listedRecord? decoder root disk (childKey start other)) ++
        (listedRecord? decoder root disk (childKey start name)).toList ++
        (((disk.names (disk.place directory)).filter (name < ·)).filterMap fun other =>
          listedRecord? decoder root disk (childKey start other))) := by
  have single : ((disk.names (disk.place directory)).filter (· == name)).filterMap (fun other =>
      listedRecord? decoder root disk (childKey start other)) =
      (listedRecord? decoder root disk (childKey start name)).toList := by
    have nodup : (disk.names (disk.place directory)).Nodup := (disk.ordered_names _).nodup
    rw [List.filter_beq]
    by_cases member : name ∈ disk.names (disk.place directory)
    · rw [List.count_eq_one_of_mem nodup member]
      cases shown : listedRecord? decoder root disk (childKey start name) with
      | none => simp [shown]
      | some record => simp [shown]
    · rw [List.count_eq_zero_of_not_mem member]
      cases shown : listedRecord? decoder root disk (childKey start name) with
      | none => rfl
      | some record =>
          exact absurd (isFile_of_listedRecord? isPath free isDirectory shown).1 member
  rw [listRecords_eq_ok isPath isDirectory, ← single, ← List.filterMap_append,
    ← List.filterMap_append, ← eq_filter_append (disk.ordered_names _) name]

end List

section Differ

variable (isPath : objectPath root (Text.withoutTrailing '/' start) = .ok directory)
variable (differ : DifferIn directory name left right) {other : String}
include isPath differ

/-- The record of another name that is shown on one disk is shown on both. -/
theorem listedRecord?_of_differIn (free : '/' ∉ other.toList) (apart : other ≠ name)
    (isShown : listedRecord? decoder root left (childKey start other) = some record) :
    listedRecord? decoder root right (childKey start other) = some record := by
  obtain ⟨isJson, content, isRead, isRecord⟩ := listedRecord?_eq_some.mp isShown
  have isPlace := place_of_read isPath free differ.isDirectory isRead
  have isKept : (left.place (root.join (childKey start other))).key ≠
      (left.place directory ++ [name]).key := by
    rw [isPlace]
    exact mt Disk.key_concat_inj.mp apart
  exact listedRecord?_eq_some.mpr
    ⟨isJson, content, read_of_keeps differ.keeps isKept isRead, isRecord⟩

theorem listedRecord?_eq_of_differIn (free : '/' ∉ other.toList) (apart : other ≠ name) :
    listedRecord? decoder root right (childKey start other) =
      listedRecord? decoder root left (childKey start other) := by
  apply Option.ext
  intro record
  constructor
  · exact listedRecord?_of_differIn isPath differ.symm free apart
  · exact listedRecord?_of_differIn isPath differ free apart

/-- The names that are chosen without the one file give the same records on both disks. -/
theorem filterMap_names_of_differIn {shown : String → Bool} (leftOut : shown name = false) :
    (((right.names (right.place directory)).filter shown).filterMap fun other =>
        listedRecord? decoder root right (childKey start other)) =
      ((left.names (left.place directory)).filter shown).filterMap fun other =>
        listedRecord? decoder root left (childKey start other) := by
  rw [differ.place_eq, differ.filter_names leftOut]
  apply List.filterMap_congr
  intro other member
  obtain ⟨isThere, isShown⟩ := List.mem_filter.mp member
  apply listedRecord?_eq_of_differIn isPath differ (Disk.mem_names.mp isThere).1
  intro same
  rw [same, leftOut] at isShown
  cases isShown

/-- Disks that differ in one file list the same records around the one that is read from it. -/
theorem exists_listRecords (decoder : Decoder α) : ∃ before after : List α,
    listRecords decoder root start left =
      .ok (before ++ (listedRecord? decoder root left (childKey start name)).toList ++ after) ∧
    listRecords decoder root start right =
      .ok (before ++ (listedRecord? decoder root right (childKey start name)).toList ++ after) := by
  have notBefore : decide (name < name) = false := decide_eq_false (String.lt_irrefl name)
  refine ⟨_, _, listRecords_eq_append isPath differ.isDirectory differ.free, ?_⟩
  rw [listRecords_eq_append isPath differ.symm.isDirectory differ.free,
    filterMap_names_of_differIn isPath differ notBefore,
    filterMap_names_of_differIn isPath differ notBefore]

end Differ

end Store

end CertPress
