import CertPress.Proofs.Files.Way
import CertPress.Proofs.Keys
import CertPress.Proofs.Text.Cut

/-!
# Disks that are trees

Everything below a directory has a path from there on, and what there is at a location below
the directory is what there is under that path.  Making directories adds those on the way
that were missing, and nothing else.

A location covers itself and everything below it.  On a disk that processes work on, whatever
is there lies in a directory, up to the root, and relative paths start in a directory.  What
is added in a directory keeps the disk such a tree.
-/

namespace CertPress

theorem Location.key_eq_empty {here : Location} : here.key = "" ↔ here = [] := by
  constructor
  · intro empty
    rcases here.eq_nil_or_concat with rfl | ⟨front, name, rfl⟩
    · rfl
    · have chars := congrArg String.toList empty
      rw [List.concat_eq_append, Disk.toList_key_concat] at chars
      simp at chars
  · rintro rfl
    rfl

namespace Disk

variable {disk : Disk} {here base location : Location} {names : List String} {path : FilePath}
variable {relative other : String} {entry : Entry}

/-! ## Paths from a directory on -/

theorem at?_concat (disk : Disk) (front : Location) (name : String) :
    disk.at? (front ++ [name]) = disk.entries.get? (front ++ [name]).key :=
  if_neg (by simp)

theorem at?_of_key (disk : Disk) {left right : Location} (same : left.key = right.key) :
    disk.at? left = disk.at? right := by
  by_cases empty : left = []
  · subst empty
    obtain rfl := Location.key_eq_empty.mp same.symm
    rfl
  · have filled : right ≠ [] := by
      rintro rfl
      exact empty (Location.key_eq_empty.mp same)
    rw [at?, at?, if_neg (by simpa using empty), if_neg (by simpa using filled), same]

theorem at?_set_other (differ : location.key ≠ here.key) (disk : Disk) (entry : Entry) :
    (disk.set location entry).at? here = disk.at? here := by
  rcases here with _ | ⟨first, rest⟩
  · rfl
  · rw [at?_set _ _ _ _ (List.cons_ne_nil _ _), if_neg differ]

theorem key_concat_inj : (base ++ [relative]).key = (base ++ [other]).key ↔ relative = other := by
  refine ⟨fun same => ?_, fun same => same ▸ rfl⟩
  have chars := congrArg String.toList same
  rw [toList_key_concat, toList_key_concat, List.append_cancel_left_eq, List.cons.injEq] at chars
  exact String.toList_injective chars.2

theorem mem_below :
    (relative.toList, entry) ∈ disk.below base ↔ disk.at? (base ++ [relative]) = some entry := by
  rw [at?_concat, ← Mapping.mem_entries_iff, below, List.mem_filterMap]
  constructor
  · rintro ⟨⟨key, found⟩, member, isBelow⟩
    obtain ⟨rest, cut, same⟩ := Option.map_eq_some_iff.mp isBelow
    cases same
    have isKey : key = (base ++ [relative]).key := by
      apply String.toList_injective
      rw [Text.after?_eq_some_iff.mp cut, toList_key_concat]
      simp
    exact isKey ▸ member
  · intro member
    refine ⟨_, member, Option.map_eq_some_iff.mpr ⟨relative.toList, ?_, rfl⟩⟩
    rw [Text.after?_eq_some_iff, toList_key_concat]
    simp

/-- The files below a directory are those that have paths from there. -/
theorem mem_tree : relative ∈ disk.tree base ↔
    ∃ content executable, disk.at? (base ++ [relative]) = some (.file content executable) := by
  rw [tree, List.mem_filterMap]
  constructor
  · rintro ⟨⟨chars, found⟩, member, isFile⟩
    cases found with
    | directory => cases isFile
    | file content executable =>
        cases isFile
        refine ⟨content, executable, mem_below.mp ?_⟩
        rwa [String.toList_ofList]
  · rintro ⟨content, executable, isThere⟩
    exact ⟨_, mem_below.mpr isThere, congrArg some String.ofList_toList⟩

/-- What lies below a directory is in the order of the paths to it. -/
theorem ordered_below (disk : Disk) (location : Location) :
    (disk.below location).Pairwise fun entry other =>
      String.ofList (location.key.toList ++ '/' :: entry.1) <
        String.ofList (location.key.toList ++ '/' :: other.1) := by
  rw [below, List.pairwise_filterMap]
  refine disk.entries.ordered.imp fun {left right} before first isFirst second isSecond => ?_
  have isPath {key : String} {rest : List Char}
      (cut : Text.after? (location.key.toList ++ ['/']) key.toList = some rest) :
      String.ofList (location.key.toList ++ '/' :: rest) = key := by
    rw [List.append_cons, ← Text.after?_eq_some_iff.mp cut, String.ofList_toList]
  obtain ⟨firstRest, firstCut, rfl⟩ := Option.map_eq_some_iff.mp isFirst
  obtain ⟨secondRest, secondCut, rfl⟩ := Option.map_eq_some_iff.mp isSecond
  rwa [isPath firstCut, isPath secondCut]

theorem pairwise_below (disk : Disk) (base : Location) :
    (disk.below base).Pairwise fun left right => left.1 ≠ right.1 :=
  (disk.ordered_below base).imp fun {left right} before same => by
    rw [same] at before
    exact String.lt_irrefl _ before

theorem slash_not_mem_list {names : List String} (listed : disk.list path = .ok names)
    {name : String} (member : name ∈ names) : '/' ∉ name.toList := by
  unfold Disk.list at listed
  obtain ⟨⟨location, entry⟩, -, rest⟩ := Action.except_bind_eq_ok.mp listed
  cases entry with
  | file content executable => cases rest
  | directory =>
      cases rest
      obtain ⟨⟨chars, entry⟩, -, isName⟩ := List.mem_filterMap.mp member
      dsimp only at isName
      split at isName
      next => cases isName
      next free =>
        cases isName
        simpa using free

theorem nodup_tree (disk : Disk) (base : Location) : (disk.tree base).Nodup := by
  rw [tree, List.Nodup, List.pairwise_filterMap]
  refine (disk.pairwise_below base).imp ?_
  rintro ⟨left, leftEntry⟩ ⟨right, rightEntry⟩ differ first isFirst second isSecond rfl
  cases leftEntry with
  | directory => cases isFirst
  | file _ _ =>
      cases rightEntry with
      | directory => cases isSecond
      | file _ _ =>
          have same := (Option.some.inj isFirst).trans (Option.some.inj isSecond).symm
          exact differ (String.ofList_injective same)

/-! ## Directories that are made -/

/-- What making directories changes: places on the way where there was nothing. -/
theorem at?_makeFrom (names : List String) (disk : Disk) (here location : Location) :
    (disk.makeFrom here names).2.at? location = disk.at? location ∨
      (disk.at? location = none ∧ (disk.makeFrom here names).2.at? location = some .directory ∧
        ∃ front rest, names = front ++ rest ∧ front ≠ [] ∧
          location.key = (front.foldl next here).key) := by
  induction names generalizing disk here with
  | nil => exact .inl rfl
  | cons name rest hypothesis =>
      -- What is made further on lies on the way with one name more.
      have further (disk : Disk) {step : Location} (isNext : step = next here name)
          (made : disk.at? location = none ∧
            (disk.makeFrom step rest).2.at? location = some .directory ∧
              ∃ front more, rest = front ++ more ∧ front ≠ [] ∧
                location.key = (front.foldl next step).key) :
          ∃ front more, name :: rest = front ++ more ∧ front ≠ [] ∧
            location.key = (front.foldl next here).key := by
        obtain ⟨-, -, front, more, split, -, isKey⟩ := made
        subst isNext
        exact ⟨name :: front, more, by rw [split, List.cons_append], List.cons_ne_nil _ _, isKey⟩
      rw [makeFrom]
      split
      next => exact .inl rfl
      next step stepped =>
        have isNext := eq_next_of_step stepped
        split
        next => exact (hypothesis disk step).imp_right fun made =>
          ⟨made.1, made.2.1, further disk isNext made⟩
        next => exact .inl rfl
        next nothing =>
          have grows := grows_makeFrom rest (disk.set step .directory) step
          by_cases isStep : step.key = location.key
          · have wasNone : disk.at? location = none := (disk.at?_of_key isStep).symm.trans nothing
            have isMade : (disk.set step .directory).at? location = some .directory := by
              rw [← at?_of_key _ isStep, at?_set_self nothing]
            refine .inr ⟨wasNone, grows.entry location .directory isMade, [name], rest, rfl,
              List.cons_ne_nil _ _, ?_⟩
            rw [← isStep, isNext]
            rfl
          · have same := at?_set_other isStep disk .directory
            rcases hypothesis (disk.set step .directory) step with kept | made
            · exact .inl (kept.trans same)
            · exact .inr ⟨same ▸ made.1, made.2.1, further _ isNext made⟩

end Disk

/-! ## Locations that cover others -/

namespace Location

variable {outer middle inner other here : Location} {name : String}

/-- A location covers another one that is it or lies below it. -/
def Covers (outer inner : Location) : Prop :=
  outer.key.toList ++ ['/'] <+: inner.key.toList ++ ['/']

instance (outer inner : Location) : Decidable (outer.Covers inner) :=
  inferInstanceAs (Decidable (_ <+: _))

namespace Covers

theorem of_key (same : outer.key = inner.key) : outer.Covers inner := by
  rw [Covers, same]

theorem refl (here : Location) : here.Covers here := of_key rfl

theorem trans (first : outer.Covers middle) (second : middle.Covers inner) :
    outer.Covers inner := List.IsPrefix.trans first second

/-- Of two locations that cover a third one, one covers the other. -/
theorem total (covers : outer.Covers inner) (otherCovers : other.Covers inner) :
    outer.Covers other ∨ other.Covers outer :=
  List.prefix_or_prefix_of_prefix covers otherCovers

theorem key_eq (covers : outer.Covers inner) (back : inner.Covers outer) :
    outer.key = inner.key := by
  have chars := List.IsPrefix.eq_of_length_le covers back.length_le
  exact String.toList_injective (List.append_cancel_right chars)

theorem concat (here : Location) (name : String) : here.Covers (here ++ [name]) := by
  refine ⟨name.toList ++ ['/'], ?_⟩
  rw [Disk.toList_key_concat]
  simp

theorem not_concat : ¬ (here ++ [name]).Covers here := by
  intro covers
  have length := covers.length_le
  simp [Disk.toList_key_concat] at length

theorem append (here names : Location) : here.Covers (here ++ names) := by
  induction names generalizing here with
  | nil =>
      rw [List.append_nil]
      exact refl here
  | cons name rest hypothesis =>
      have further := hypothesis (here ++ [name])
      rw [List.append_assoc, List.singleton_append] at further
      exact (concat here name).trans further

/-- What covers a name in a directory is the name itself, or covers the directory. -/
theorem of_concat (free : '/' ∉ name.toList) (covers : outer.Covers (here ++ [name])) :
    outer.key = (here ++ [name]).key ∨ outer.Covers here := by
  rw [Covers, Disk.toList_key_concat] at covers
  rcases List.prefix_concat_iff.mp covers with whole | ⟨rest, chars⟩
  · refine .inl (String.toList_injective ?_)
    rw [Disk.toList_key_concat]
    exact List.append_cancel_right whole
  -- Behind the slash of the directory there is no other one.
  rw [List.append_cons here.key.toList] at chars
  rcases List.append_eq_append_iff.mp chars with ⟨more, isDirectory, -⟩ | ⟨more, isOuter, isName⟩
  · exact .inr ⟨more, isDirectory.symm⟩
  · rcases List.eq_nil_or_concat more with rfl | ⟨front, last, rfl⟩
    · exact .inr ⟨[], by simpa using isOuter⟩
    · rw [List.concat_eq_append, ← List.append_assoc] at isOuter
      obtain ⟨-, isSlash⟩ := List.append_inj' isOuter rfl
      refine absurd ?_ free
      rw [isName, List.concat_eq_append, ← isSlash]
      simp

end Covers

end Location

namespace Disk

open Location (Covers)

variable {disk : Disk} {here location other : Location} {name : String} {names : List String}
variable {entry : Entry}

theorem covers_next (notUp : name ≠ "..") (here : Location) : here.Covers (next here name) := by
  rw [next, if_neg notUp]
  split
  next => exact .refl here
  next => exact .concat here name

/-- Names that do not go up lead to something below. -/
theorem covers_foldl_next (noUp : ".." ∉ names) (here : Location) :
    here.Covers (names.foldl next here) := by
  induction names generalizing here with
  | nil => exact .refl here
  | cons name rest hypothesis =>
      rw [List.mem_cons, not_or] at noUp
      exact (covers_next (Ne.symm noUp.1) here).trans (hypothesis noUp.2 (next here name))

theorem slash_not_mem_route {path : FilePath} (member : name ∈ route path) :
    '/' ∉ name.toList := by
  have inPieces : ∀ other ∈ (path.pieces.filter (!List.isEmpty ·)).map String.ofList,
      '/' ∉ other.toList := by
    intro other isOther
    obtain ⟨piece, inPieces, rfl⟩ := List.mem_map.mp isOther
    rw [String.toList_ofList]
    exact Text.not_mem_of_mem_split (List.mem_filter.mp inPieces).1
  unfold route at member
  dsimp only at member
  split at member
  next =>
    rcases List.mem_append.mp member with inNames | isHere
    · exact inPieces name inNames
    · obtain rfl := List.mem_singleton.mp isHere
      decide
  next => exact inPieces name member

/-- A disk on which everything lies in a directory, and the working directory is one. -/
structure Rooted (disk : Disk) : Prop where
  start : disk.at? disk.workingDirectory = some .directory
  above : ∀ outer inner : Location, outer.Covers inner → outer.key ≠ inner.key →
    disk.at? inner ≠ none → disk.at? outer = some .directory

theorem rooted_empty : empty.Rooted := by
  refine ⟨rfl, fun outer inner covers differ isThere => ?_⟩
  rcases inner with _ | ⟨name, rest⟩
  · have above : Covers [] outer := .append [] outer
    exact absurd (covers.key_eq above) differ
  · exact absurd rfl isThere

namespace Rooted

variable (rooted : disk.Rooted)
include rooted

/-- Where a directory is, all locations above are directories. -/
theorem directory_above (covers : other.Covers here)
    (directory : disk.at? here = some .directory) : disk.at? other = some .directory := by
  by_cases same : other.key = here.key
  · rw [disk.at?_of_key same, directory]
  · exact rooted.above other here covers same (by simp [directory])

theorem at?_start (path : FilePath) : disk.at? (disk.start path) = some .directory := by
  unfold Disk.start
  split
  next => rfl
  next => exact rooted.start

/-- What is added in a directory lies in one. -/
theorem set (directory : disk.at? here = some .directory) (free : '/' ∉ name.toList)
    (nothing : disk.at? (here ++ [name]) = none) (entry : Entry) :
    (disk.set (here ++ [name]) entry).Rooted := by
  have stays {location : Location} (isThere : disk.at? location = some .directory) :
      (disk.set (here ++ [name]) entry).at? location = some .directory :=
    at?_set_of_nothing nothing isThere
  refine ⟨stays rooted.start, fun outer inner covers differ isThere => stays ?_⟩
  by_cases same : (here ++ [name]).key = inner.key
  · have inHere : outer.Covers (here ++ [name]) := covers.trans (.of_key same.symm)
    rcases Covers.of_concat free inHere with isName | above
    · exact absurd (isName.trans same) differ
    · exact rooted.directory_above above directory
  · rw [at?_set_other same] at isThere
    exact rooted.above outer inner covers differ isThere

/-- A name that leads from a directory to where nothing is leads down. -/
theorem next_of_nothing (directory : disk.at? here = some .directory)
    (nothing : disk.at? (next here name) = none) : next here name = here ++ [name] := by
  unfold next at nothing ⊢
  split at nothing
  next => cases nothing.symm.trans directory
  next notDot =>
    rw [if_neg notDot]
    split at nothing
    next =>
      have above : Covers here.dropLast here := by
        obtain ⟨last, whole⟩ := List.dropLast_prefix here
        have covers := Covers.append here.dropLast last
        rwa [whole] at covers
      cases nothing.symm.trans (rooted.directory_above above directory)
    next notUp => rw [if_neg notUp]

theorem makeFrom (free : ∀ name ∈ names, '/' ∉ name.toList) :
    (disk.makeFrom here names).2.Rooted := by
  induction names generalizing disk here with
  | nil => exact rooted
  | cons name rest hypothesis =>
      have freeRest : ∀ other ∈ rest, '/' ∉ other.toList :=
        fun other member => free other (.tail _ member)
      rw [Disk.makeFrom]
      split
      next => exact rooted
      next found stepped =>
        obtain rfl := eq_next_of_step stepped
        have directory := step_eq_ok stepped
        split
        next => exact hypothesis rooted freeRest
        next => exact rooted
        next nothing =>
          have isBelow := rooted.next_of_nothing directory nothing
          rw [isBelow] at nothing ⊢
          exact hypothesis (rooted.set directory (free name (.head _)) nothing .directory) freeRest

end Rooted

end Disk

end CertPress
