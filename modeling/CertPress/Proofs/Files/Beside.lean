import CertPress.Proofs.Files.Rooted

/-!
# Disks that differ beside some directories

Two disks may differ without anything below some roots being different: one of them has files
and directories elsewhere, and directories above the roots, that the other one lacks.  Then
making directories on the way to the roots and below ends in the same way on both, and brings
them closer.
-/

namespace CertPress.Disk

open Location (Covers)

variable {disk other : Disk} {roots : List FilePath} {root : FilePath}
variable {here home location found : Location} {names : List String}

/-- Everything below the roots is the same on both disks, and the second one has all
directories of the first.  Above the roots it may have some that are missing on the first. -/
structure Beside (roots : List FilePath) (disk other : Disk) : Prop where
  workingDirectory : other.workingDirectory = disk.workingDirectory
  directory : ∀ location, disk.at? location = some .directory →
    other.at? location = some .directory
  inside : ∀ root ∈ roots, ∀ location, (disk.place root).Covers location →
    other.at? location = disk.at? location
  above : ∀ root ∈ roots, ∀ location, location.Covers (disk.place root) →
    other.at? location = disk.at? location ∨
      disk.at? location = none ∧ other.at? location = some .directory

/-- A location below one of the roots or above it. -/
def Seen (roots : List FilePath) (disk : Disk) (location : Location) : Prop :=
  ∃ root ∈ roots, (disk.place root).Covers location ∨ location.Covers (disk.place root)

namespace Beside

variable (beside : Beside roots disk other)
include beside

theorem keeps : Keeps (fun location => ∃ root ∈ roots, (disk.place root).Covers location)
    disk other := by
  refine ⟨beside.workingDirectory, beside.directory, ?_⟩
  rintro location ⟨root, member, covers⟩
  rw [file?, beside.inside root member location covers, ← file?]

/-- What is at a location that is seen is the same, or a directory that is missing. -/
theorem at?_of_seen (seen : Seen roots disk location) :
    other.at? location = disk.at? location ∨
      disk.at? location = none ∧ other.at? location = some .directory := by
  obtain ⟨root, member, isBelow | isAbove⟩ := seen
  · exact .inl (beside.inside root member location isBelow)
  · exact beside.above root member location isAbove

/-- The same is put at the same place. -/
theorem set (location : Location) (entry : Entry) :
    Beside roots (disk.set location entry) (other.set location entry) := by
  have same {spot : Location} (isThere : location.key = spot.key ∨
      other.at? spot = disk.at? spot) :
      (other.set location entry).at? spot = (disk.set location entry).at? spot := by
    rcases spot with _ | ⟨name, rest⟩
    · rfl
    · rw [at?_set _ _ _ _ (List.cons_ne_nil _ _), at?_set _ _ _ _ (List.cons_ne_nil _ _)]
      split
      next => rfl
      next differ => exact isThere.resolve_left differ
  refine ⟨beside.workingDirectory, fun spot directory => ?_, fun root member spot covers => ?_,
    fun root member spot covers => ?_⟩
  · by_cases isSpot : location.key = spot.key
    · exact (same (.inl isSpot)).trans directory
    · rw [at?_set_other isSpot] at directory ⊢
      exact beside.directory spot directory
  · exact same (.inr (beside.inside root member spot covers))
  · by_cases isSpot : location.key = spot.key
    · exact .inl (same (.inl isSpot))
    · rw [at?_set_other isSpot, at?_set_other isSpot]
      exact beside.above root member spot covers

/-- A directory that was missing on the first disk is made. -/
theorem set_left (nothing : disk.at? location = none)
    (isThere : other.at? location = some .directory) :
    Beside roots (disk.set location .directory) other := by
  have made {spot : Location} (isSpot : location.key = spot.key) :
      other.at? spot = (disk.set location .directory).at? spot := by
    rw [← other.at?_of_key isSpot, ← at?_of_key _ isSpot, isThere, at?_set_self nothing]
  refine ⟨beside.workingDirectory, fun spot directory => ?_, fun root member spot covers => ?_,
    fun root member spot covers => ?_⟩
  · by_cases isSpot : location.key = spot.key
    · exact (made isSpot).trans directory
    · rw [at?_set_other isSpot] at directory
      exact beside.directory spot directory
  · by_cases isSpot : location.key = spot.key
    · exact made isSpot
    · rw [at?_set_other isSpot]
      exact beside.inside root member spot covers
  · by_cases isSpot : location.key = spot.key
    · exact .inl (made isSpot)
    · rw [at?_set_other isSpot]
      exact beside.above root member spot covers

/-! ## Directories that are made -/

/-- Directories are made in the same way if all that are missing on the way are seen, by
induction on the names of the way. -/
theorem makeFrom (directory : disk.at? here = some .directory)
    (way : ∀ front rest, names = front ++ rest → front ≠ [] →
      Seen roots disk (front.foldl next here) ∨
        disk.at? (front.foldl next here) = some .directory) :
    (other.makeFrom here names).1 = (disk.makeFrom here names).1 ∧
      Beside roots (disk.makeFrom here names).2 (other.makeFrom here names).2 := by
  induction names generalizing disk other here with
  | nil => exact ⟨rfl, beside⟩
  | cons name rest hypothesis =>
      have sameStep : other.step here name = disk.step here name :=
        step_congr directory (beside.directory here directory)
      have further (front more : List String) (split : rest = front ++ more) (_ : front ≠ []) :
          Seen roots disk (front.foldl next (next here name)) ∨
            disk.at? (front.foldl next (next here name)) = some .directory :=
        way (name :: front) more (by rw [split, List.cons_append]) (List.cons_ne_nil _ _)
      have furtherOf (nothing : disk.at? (next here name) = none) (front more : List String)
          (split : rest = front ++ more) (named : front ≠ []) :
          Seen roots (disk.set (next here name) .directory) (front.foldl next (next here name)) ∨
            (disk.set (next here name) .directory).at? (front.foldl next (next here name)) =
              some .directory :=
        (further front more split named).imp_right (at?_set_of_nothing nothing)
      rw [Disk.makeFrom, Disk.makeFrom, sameStep]
      split
      next => exact ⟨rfl, beside⟩
      next found stepped =>
        obtain rfl := eq_next_of_step stepped
        have onTheWay := way [name] rest rfl (List.cons_ne_nil _ _)
        rw [List.foldl_cons, List.foldl_nil] at onTheWay
        cases isThere : disk.at? (next here name) with
        | none =>
            have seen : Seen roots disk (next here name) :=
              onTheWay.resolve_right (by simp [isThere])
            have made := at?_set_self isThere .directory
            rcases beside.at?_of_seen seen with same | ⟨-, already⟩
            · simp only [same, isThere]
              exact hypothesis (beside.set _ _) made (furtherOf isThere)
            · simp only [already]
              exact hypothesis (beside.set_left isThere already) made (furtherOf isThere)
        | some entry =>
            have same : other.at? (next here name) = some entry := by
              rcases onTheWay with seen | isDirectory
              · rcases beside.at?_of_seen seen with same | ⟨nothing, -⟩
                · exact same.trans isThere
                · cases nothing.symm.trans isThere
              · obtain rfl := Option.some.inj (isThere.symm.trans isDirectory)
                exact beside.directory _ isThere
            cases entry with
            | directory =>
                simp only [same]
                exact hypothesis beside isThere further
            | file content executable =>
                simp only [same]
                exact ⟨trivial, beside⟩

/-! ## Ways that are followed -/

/-- Names lead where they led on the other disk if everything on the way is a directory. -/
theorem walk_of_directories (walked : names.foldlM other.step here = .ok found)
    (way : ∀ front name rest, names = front ++ name :: rest →
      disk.at? (front.foldl next here) = some .directory) :
    names.foldlM disk.step here = .ok found := by
  induction names generalizing here with
  | nil => exact walked
  | cons name rest hypothesis =>
      rw [List.foldlM_cons] at walked ⊢
      obtain ⟨between, stepped, walkedOn⟩ := Action.except_bind_eq_ok.mp walked
      obtain rfl := eq_next_of_step stepped
      have directory : disk.at? here = some .directory := way [] name rest rfl
      rw [step_congr directory (beside.directory here directory)] at stepped
      refine Action.except_bind_eq_ok.mpr ⟨_, stepped, hypothesis walkedOn ?_⟩
      intro front last more split
      exact way (name :: front) last more (by rw [split, List.cons_append])

/-- Names that lead down from a root lead to the same place on both disks. -/
theorem walk_inside (member : root ∈ roots) (inside : (disk.place root).Covers here)
    (noUp : ".." ∉ names) : names.foldlM other.step here = names.foldlM disk.step here := by
  induction names generalizing here with
  | nil => rfl
  | cons name rest hypothesis =>
      rw [List.mem_cons, not_or] at noUp
      have sameStep : other.step here name = disk.step here name := by
        simp only [step, beside.inside root member here inside]
      rw [List.foldlM_cons, List.foldlM_cons, sameStep]
      cases stepped : disk.step here name with
      | error fault => rfl
      | ok found =>
          obtain rfl := eq_next_of_step stepped
          exact hypothesis (inside.trans (covers_next (Ne.symm noUp.1) here)) noUp.2

section Key

variable {key : String} (filled : key ≠ "") (inner : (⟨key⟩ : FilePath).isInner)
include filled inner

omit beside in
/-- A key leads to somewhere below its root. -/
theorem covers_of_locate_join (located : disk.locate (root.join key) = .ok found) :
    (disk.place root).Covers found := by
  obtain ⟨-, home, walked, walkedOn⟩ :=
    (locate_join_eq_ok filled (FilePath.isInner_iff.mp inner).1).mp located
  rw [eq_of_walk walkedOn, eq_of_walk walked, foldl_next_pieces]
  exact covers_foldl_next (up_not_mem_route inner) _

variable (member : root ∈ roots)
variable (reach : disk.at? (disk.place root) = some .directory → ∀ front rest,
  (root.pieces.filter (!List.isEmpty ·)).map String.ofList = front ++ rest →
    disk.at? (front.foldl next (disk.start root)) = some .directory)
include member reach

/-- A key leads to the same place on both disks. -/
theorem locate_join : other.locate (root.join key) = .ok found ↔
    disk.locate (root.join key) = .ok found := by
  have relative := (FilePath.isInner_iff.mp inner).1
  have sameStart : other.start root = disk.start root := by
    rw [start, beside.workingDirectory, ← start]
  have sameWalk : (route ⟨key⟩).foldlM other.step (disk.place root) =
      (route ⟨key⟩).foldlM disk.step (disk.place root) :=
    beside.walk_inside member (.refl _) (up_not_mem_route inner)
  rw [locate_join_eq_ok filled relative, locate_join_eq_ok filled relative, sameStart]
  refine and_congr_right fun _ => exists_congr fun home => ⟨?_, ?_⟩
  · rintro ⟨walked, walkedOn⟩
    have isPlace := eq_of_walk walked
    rw [foldl_next_pieces] at isPlace
    subst isPlace
    have isDirectory : disk.at? (disk.place root) = some .directory := by
      obtain ⟨name, rest, routed⟩ := List.exists_cons_of_ne_nil (route_ne_nil filled inner)
      rw [routed, List.foldlM_cons] at walkedOn
      obtain ⟨_, stepped, -⟩ := Action.except_bind_eq_ok.mp walkedOn
      rw [← beside.inside root member _ (.refl _)]
      exact step_eq_ok stepped
    refine ⟨beside.walk_of_directories walked fun front name rest split => ?_, sameWalk ▸ walkedOn⟩
    exact reach isDirectory front (name :: rest) split
  · rintro ⟨walked, walkedOn⟩
    have isPlace := eq_of_walk walked
    rw [foldl_next_pieces] at isPlace
    subst isPlace
    exact ⟨beside.keeps.walk walked, sameWalk ▸ walkedOn⟩

/-- A key names a file on both disks or on none. -/
theorem isFile_join : other.isFile (root.join key) = disk.isFile (root.join key) := by
  have sameFind (location : Location) (entry : Entry) :
      other.find (root.join key) = .ok (location, entry) ↔
        disk.find (root.join key) = .ok (location, entry) := by
    rw [find_eq_ok, find_eq_ok, beside.locate_join filled inner member reach]
    refine and_congr_right fun located => ?_
    rw [beside.inside root member location (covers_of_locate_join filled inner located)]
  rw [Bool.eq_iff_iff, isFile_iff, isFile_iff]
  simp only [sameFind]

end Key

end Beside

end CertPress.Disk
