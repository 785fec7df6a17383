import CertPress.Proofs.Files.Rooted

/-!
# Operations that keep to a root

An operation keeps to a root if it cannot tell apart two disks that are the same on the way to
the root and in it, and if it changes nothing else, but for directories on the way that were
missing.  Operations one after another keep to the root if each of them does.

A path that goes on behind the root without going up leads along the way to the root and then
through the root.  So whatever is read and written by such paths keeps to the root.
-/

namespace CertPress.Disk

open Location (Covers)

variable {root path : FilePath} {disk left right : Disk} {here location : Location}
variable {names : List String}

/-! ## The way to a root -/

theorem place_eq (disk : Disk) (path : FilePath) :
    disk.place path = path.steps.foldl next (disk.start path) :=
  (foldl_next_pieces disk path).symm

theorem place_eq_names (disk : Disk) (path : FilePath) :
    disk.place path = path.names.foldl next (disk.start path) := by
  rw [place_eq, foldl_next_filter, FilePath.filter_steps]

/-- Whether a location is one of those on the way to a root. -/
def OnWay (root : FilePath) (disk : Disk) (location : Location) : Prop :=
  ∃ front, front <+: root.steps ∧ location.key = (front.foldl next (disk.start root)).key

/-- Whether a location is on the way to a root or in it. -/
def Reached (root : FilePath) (disk : Disk) (location : Location) : Prop :=
  OnWay root disk location ∨ (disk.place root).Covers location

/-- Whether all locations that a path leads through are on the way to a root or in it. -/
def Stays (root path : FilePath) : Prop :=
  ∀ (disk : Disk) (front : List String), front <+: path.steps →
    Reached root disk (front.foldl next (disk.start path))

namespace Stays

variable (stays : Stays root path)
include stays

theorem route (disk : Disk) {front : List String} (isFront : front <+: route path) :
    Reached root disk (front.foldl next (disk.start path)) := by
  unfold Disk.route at isFront
  dsimp only at isFront
  split at isFront
  next =>
    rcases List.prefix_concat_iff.mp isFront with rfl | isFront
    · rw [List.foldl_append]
      exact stays disk _ List.prefix_rfl
    · exact stays disk front isFront
  next => exact stays disk front isFront

theorem place (disk : Disk) : Reached root disk (disk.place path) := by
  rw [place_eq]
  exact stays disk _ List.prefix_rfl

end Stays

/-- A path that goes on behind a root without going up stays in the root. -/
theorem stays_of_prefix {more : List String} (isAbsolute : path.isAbsolute = root.isAbsolute)
    (noUp : ".." ∉ more) (isPrefix : path.steps <+: root.steps ++ more) : Stays root path := by
  intro disk front isFront
  have sameStart : disk.start path = disk.start root := by rw [start, isAbsolute, ← start]
  have isWay := isFront.trans isPrefix
  rw [sameStart]
  rcases List.prefix_or_prefix_of_prefix isWay (List.prefix_append _ _) with onWay | ⟨inner, rfl⟩
  · exact .inl ⟨front, onWay, rfl⟩
  · have isInner : inner <+: more := (List.prefix_append_right_inj root.steps).mp isWay
    rw [List.foldl_append, ← place_eq]
    exact .inr (covers_foldl_next (fun member => noUp (isInner.mem member)) _)

/-- All locations on the way to a directory are directories. -/
theorem at?_of_onWay (isDirectory : disk.isDirectory root) (onWay : OnWay root disk location) :
    disk.at? location = some .directory := by
  obtain ⟨front, ⟨rest, split⟩, isFront⟩ := onWay
  obtain ⟨more, routed⟩ := exists_route split.symm
  rw [disk.at?_of_key isFront]
  exact at?_of_isDirectory isDirectory routed

/-! ## Disks that are the same for a root -/

/-- Two disks with the same on the way to a root and in it. -/
structure AgreeOn (root : FilePath) (left right : Disk) : Prop where
  workingDirectory : right.workingDirectory = left.workingDirectory
  at? : ∀ location, Reached root left location → right.at? location = left.at? location

namespace AgreeOn

variable (agree : AgreeOn root left right)
include agree

theorem start (path : FilePath) : right.start path = left.start path := by
  rw [Disk.start, agree.workingDirectory, ← Disk.start]

theorem step (reached : Reached root left here) (name : String) :
    right.step here name = left.step here name := by
  simp only [Disk.step, agree.at? here reached]

/-- Names lead along the same way if it stays where the disks agree. -/
theorem walk (reached : ∀ front, front <+: names → Reached root left (front.foldl next here)) :
    names.foldlM right.step here = names.foldlM left.step here := by
  induction names generalizing here with
  | nil => rfl
  | cons name rest hypothesis =>
      have isHere : Reached root left here := reached [] List.nil_prefix
      rw [List.foldlM_cons, List.foldlM_cons, agree.step isHere name]
      cases stepped : left.step here name with
      | error fault => rfl
      | ok found =>
          obtain rfl := eq_next_of_step stepped
          exact hypothesis fun front isFront =>
            reached (name :: front) ((List.prefix_cons_inj name).mpr isFront)

/-- The same is put at the same place. -/
theorem set (location : Location) (entry : Entry) :
    AgreeOn root (left.set location entry) (right.set location entry) := by
  refine ⟨agree.workingDirectory, fun other isReached => ?_⟩
  rcases other with _ | ⟨name, rest⟩
  · rfl
  · rw [at?_set _ _ _ _ (List.cons_ne_nil _ _), at?_set _ _ _ _ (List.cons_ne_nil _ _)]
    split
    next => rfl
    next => exact agree.at? _ isReached

/-- The same directories are made, by induction on the names of the way. -/
theorem makeFrom (reached : ∀ front, front <+: names →
      Reached root left (front.foldl next here)) :
    (right.makeFrom here names).1 = (left.makeFrom here names).1 ∧
      AgreeOn root (left.makeFrom here names).2 (right.makeFrom here names).2 := by
  induction names generalizing left right here with
  | nil => exact ⟨rfl, agree⟩
  | cons name rest hypothesis =>
      have further (front : List String) (isFront : front <+: rest) :
          Reached root left (front.foldl next (next here name)) :=
        reached (name :: front) ((List.prefix_cons_inj name).mpr isFront)
      have sameThere : right.at? (next here name) = left.at? (next here name) :=
        agree.at? _ (further [] List.nil_prefix)
      have isHere : Reached root left here := reached [] List.nil_prefix
      rw [Disk.makeFrom, Disk.makeFrom, agree.step isHere name]
      split
      next => exact ⟨rfl, agree⟩
      next found stepped =>
        obtain rfl := eq_next_of_step stepped
        rw [sameThere]
        split
        next => exact hypothesis agree further
        next => exact ⟨rfl, agree⟩
        next => exact hypothesis (agree.set _ _) further

/-- The same lies below a location in the root, in the same order. -/
theorem below (inside : (left.place root).Covers location) :
    right.below location = left.below location := by
  have members (entry : List Char × Entry) :
      entry ∈ right.below location ↔ entry ∈ left.below location := by
    obtain ⟨chars, entry⟩ := entry
    obtain ⟨relative, rfl⟩ : ∃ relative : String, chars = relative.toList :=
      ⟨String.ofList chars, String.toList_ofList.symm⟩
    rw [mem_below, mem_below, agree.at? _ (.inr (inside.trans (.concat location relative)))]
  have nodup (disk : Disk) : (disk.below location).Nodup :=
    (disk.pairwise_below location).imp fun differ same => differ (congrArg Prod.fst same)
  have perm := (List.perm_ext_iff_of_nodup (nodup right) (nodup left)).mpr members
  exact perm.eq_of_pairwise (fun _ _ _ _ before after =>
    absurd (String.lt_trans before after) (String.lt_irrefl _))
    (right.ordered_below location) (left.ordered_below location)

section Path

variable (stays : Stays root path)
include stays

theorem locate : right.locate path = left.locate path := by
  have sameWalk := agree.walk fun _ => stays.route left
  unfold Disk.locate
  rw [agree.start, sameWalk]

theorem find : right.find path = left.find path := by
  unfold Disk.find
  rw [agree.locate stays]
  cases located : left.locate path with
  | error fault => rfl
  | ok location =>
      obtain rfl := eq_place_of_locate located
      simp only [bind, Except.bind, agree.at? _ (stays.place left)]

theorem read : right.read path = left.read path := by
  rw [Disk.read, agree.find stays, Disk.read]

theorem isFile : right.isFile path = left.isFile path := by
  rw [Disk.isFile, agree.find stays, Disk.isFile]

theorem list (inside : (left.place root).Covers (left.place path)) :
    right.list path = left.list path := by
  unfold Disk.list
  rw [agree.find stays]
  cases found : left.find path with
  | error fault => rfl
  | ok there =>
      obtain ⟨location, entry⟩ := there
      obtain rfl := eq_place_of_locate (find_eq_ok.mp found).1
      cases entry with
      | file content executable => rfl
      | directory => simp only [bind, Except.bind, agree.below inside]

theorem makeDirectories :
    (makeDirectories path right).1 = (makeDirectories path left).1 ∧
      AgreeOn root (Disk.makeDirectories path left).2 (Disk.makeDirectories path right).2 := by
  unfold Disk.makeDirectories
  split
  next => exact ⟨rfl, agree⟩
  next =>
    rw [agree.start]
    exact agree.makeFrom fun front isFront => stays left front isFront

end Path

end AgreeOn

/-! ## Operations -/

/-- Whether an operation keeps to a root: it depends only on what is on the way to the root and
in it, and it changes nothing outside of the root but missing directories on the way. -/
structure Confined {α : Type} (root : FilePath) (operation : Disk → α × Disk) : Prop where
  alike : ∀ {left right : Disk}, AgreeOn root left right →
    (operation right).1 = (operation left).1 ∧ AgreeOn root (operation left).2 (operation right).2
  workingDirectory : ∀ disk, (operation disk).2.workingDirectory = disk.workingDirectory
  frame : ∀ disk location, ¬ (disk.place root).Covers location →
    (operation disk).2.at? location = disk.at? location ∨
      OnWay root disk location ∧ disk.at? location = none ∧
        (operation disk).2.at? location = some .directory

namespace Confined

variable {α β : Type} {operation : Disk → α × Disk}

/-- A question about a disk. -/
theorem ask {query : Disk → α}
    (same : ∀ {left right}, AgreeOn root left right → query right = query left) :
    Confined root fun disk => (query disk, disk) where
  alike agree := ⟨same agree, agree⟩
  workingDirectory _ := rfl
  frame _ _ _ := .inl rfl

theorem answer (value : α) : Confined root fun disk => (value, disk) :=
  ask fun _ => rfl

/-- The answer of an operation may be shown in another way. -/
theorem view (confined : Confined root operation) (shown : α → β) {other : Disk → β × Disk}
    (same : ∀ disk, other disk = (shown (operation disk).1, (operation disk).2)) :
    Confined root other where
  alike {left right} agree := by
    rw [same left, same right]
    exact ⟨congrArg shown (confined.alike agree).1, (confined.alike agree).2⟩
  workingDirectory disk := by
    rw [same disk]
    exact confined.workingDirectory disk
  frame disk location outside := by
    rw [same disk]
    exact confined.frame disk location outside

/-- Operations one after another, of which the second one depends on the answer of the first. -/
theorem andThen {next : α → Disk → β × Disk} (confined : Confined root operation)
    (later : ∀ value, Confined root (next value)) :
    Confined root fun disk => next (operation disk).1 (operation disk).2 where
  alike {left right} agree := by
    obtain ⟨same, agreeBetween⟩ := confined.alike agree
    rw [same]
    exact (later _).alike agreeBetween
  workingDirectory disk :=
    ((later _).workingDirectory _).trans (confined.workingDirectory disk)
  frame disk location outside := by
    have sameStart : (operation disk).2.start root = disk.start root := by
      rw [start, confined.workingDirectory, ← start]
    have onWay : OnWay root (operation disk).2 location ↔ OnWay root disk location := by
      simp only [OnWay, sameStart]
    have stillOutside : ¬ ((operation disk).2.place root).Covers location := by
      rwa [place, sameStart, ← place]
    have second := (later (operation disk).1).frame _ location stillOutside
    rcases confined.frame disk location outside with same | ⟨isOnWay, nothing, isMade⟩
    · rwa [← same, ← onWay]
    · -- A directory that the first operation made is not missing any more.
      rcases second with kept | ⟨-, none, -⟩
      · exact .inr ⟨isOnWay, nothing, kept.trans isMade⟩
      · cases none.symm.trans isMade

/-- Nothing outside of a root changes if the root is a directory. -/
theorem unchanged (confined : Confined root operation) (isDirectory : disk.isDirectory root)
    (outside : ¬ (disk.place root).Covers location) :
    (operation disk).2.at? location = disk.at? location := by
  refine (confined.frame disk location outside).resolve_right ?_
  rintro ⟨onWay, nothing, -⟩
  cases nothing.symm.trans (at?_of_onWay isDirectory onWay)

end Confined

/-- Directories are made in the root, and those that are missing on the way to it. -/
theorem confined_makeDirectories (stays : Stays root path) :
    Confined root (makeDirectories path) where
  alike agree := agree.makeDirectories stays
  workingDirectory disk := (grows_makeDirectories path disk).workingDirectory
  frame disk location outside := by
    unfold makeDirectories
    split
    next => exact .inl rfl
    next =>
      rcases at?_makeFrom path.steps disk (disk.start path) location with
        kept | ⟨nothing, isMade, front, rest, split, -, isFront⟩
      · exact .inl kept
      · refine .inr ⟨?_, nothing, isMade⟩
        rcases stays disk front ⟨rest, split.symm⟩ with ⟨other, onWay, same⟩ | covers
        · exact ⟨other, onWay, isFront.trans same⟩
        · exact absurd (covers.trans (.of_key isFront.symm)) outside

/-! ## Files in a root -/

/-- A path that leads into a root, also without the slashes at its end. -/
structure Inside (root path : FilePath) : Prop where
  stays : Stays root path
  bare : Stays root ⟨String.ofList (Text.dropTrailing '/' path.text.toList)⟩
  covers : ∀ disk : Disk, (disk.place root).Covers (disk.place path)

theorem eq_place_of_target {kept : Bool} (targeted : disk.target path kept = .ok location) :
    location = disk.place path := by
  cases kept with
  | true => exact eq_place_of_locate (target_new_eq_ok targeted).1
  | false => exact eq_place_of_locate (target_eq_ok targeted).1

theorem AgreeOn.target (agree : AgreeOn root left right) (inside : Inside root path)
    (kept : Bool) : right.target path kept = left.target path kept := by
  have stays : Stays root (if path.endsWithSlash
      then ⟨String.ofList (Text.dropTrailing '/' path.text.toList)⟩ else path) := by
    split
    next => exact inside.bare
    next => exact inside.stays
  unfold Disk.target
  dsimp only
  rw [agree.locate stays]
  cases located : left.locate (if path.endsWithSlash
      then ⟨String.ofList (Text.dropTrailing '/' path.text.toList)⟩ else path) with
  | error fault => rfl
  | ok location =>
      obtain rfl := eq_place_of_locate located
      simp only [bind, Except.bind, agree.at? _ (stays.place left)]

/-- A file in a root is written there, whether something that is there stays or not. -/
theorem confined_target (inside : Inside root path) (kept : Bool) (entry : Entry) :
    Confined root fun disk => match disk.target path kept with
      | .ok location => (.ok (), disk.set location entry)
      | .error fault => ((.error fault : Except DiskFault Unit), disk) where
  alike {left right} agree := by
    rw [agree.target inside]
    split
    next => exact ⟨rfl, agree.set _ _⟩
    next => exact ⟨rfl, agree⟩
  workingDirectory disk := by
    split
    next => rfl
    next => rfl
  frame disk location outside := by
    split
    next found targeted =>
      obtain rfl := eq_place_of_target targeted
      exact .inl (at?_set_other (fun same =>
        outside ((inside.covers disk).trans (.of_key same))) _ _)
    next => exact .inl rfl

theorem confined_write (inside : Inside root path) (content : Bytes) (executable : Bool) :
    Confined root (write path content executable) :=
  confined_target inside false (.file content executable)

theorem confined_writeNew (inside : Inside root path) (content : Bytes) :
    Confined root (writeNew path content) :=
  confined_target inside true (.file content false)

/-! ## The paths of keys -/

section Key

open FilePath

variable {key : String} (filled : key ≠ "") (inner : (⟨key⟩ : FilePath).isInner)

include inner

/-- A key leads to its names below the root. -/
theorem place_join_inner (root : FilePath) (disk : Disk) :
    disk.place (root.join key) = disk.place root ++ (⟨key⟩ : FilePath).names := by
  obtain ⟨relative, -, noUp⟩ := isInner_iff.mp inner
  have sameStart : disk.start (root.join key) = disk.start root := by
    rw [start, isAbsolute_join_eq relative, ← start]
  have notHere : "." ∉ (⟨key⟩ : FilePath).names := fun member => ne_dot_of_mem_names member rfl
  rw [place_eq, steps_join root relative, List.foldl_append, sameStart, ← place_eq,
    foldl_next_filter, filter_steps, foldl_next_names notHere noUp]

theorem stays_join (root : FilePath) : Stays root (root.join key) := by
  have relative := (isInner_iff.mp inner).1
  refine stays_of_prefix (isAbsolute_join_eq relative) (up_not_mem_steps inner) ?_
  rw [steps_join root relative]

include filled

theorem inside_join (root : FilePath) : Inside root (root.join key) where
  stays := stays_join inner root
  bare := by
    have relative := (isInner_iff.mp inner).1
    have named : (root.join key).steps ≠ [] := by
      rw [steps_join root relative]
      exact List.append_ne_nil_of_right_ne_nil _ (steps_ne_nil filled inner)
    refine stays_of_prefix ?_ (up_not_mem_steps inner) ?_
    · rw [isAbsolute_dropTrailing named, isAbsolute_join_eq relative]
    · rw [steps_dropTrailing, steps_join root relative]
  covers disk := by
    rw [place_join_inner inner]
    exact .append _ _

theorem stays_parent (root : FilePath) : Stays root ((root.join key).parent?.getD ⟨""⟩) := by
  have relative := (isInner_iff.mp inner).1
  obtain ⟨above, isParent⟩ := exists_parent?_join filled inner root
  obtain ⟨isPrefix, isAbsolute⟩ := steps_parent? isParent
  rw [isParent, Option.getD_some]
  refine stays_of_prefix (isAbsolute.trans (isAbsolute_join_eq relative))
    (up_not_mem_steps inner) ?_
  rwa [← steps_join root relative]

/-- The directory in which the file of a key lies is in the root. -/
theorem covers_parent (root : FilePath) (disk : Disk) :
    (disk.place root).Covers (disk.place ((root.join key).parent?.getD ⟨""⟩)) := by
  have relative := (isInner_iff.mp inner).1
  obtain ⟨above, isParent⟩ := exists_parent?_join filled inner root
  obtain ⟨isPrefix, long⟩ := names_parent? isParent
  obtain ⟨-, isAbsolute⟩ := steps_parent? isParent
  have sameStart : disk.start above = disk.start root := by
    rw [start, isAbsolute, isAbsolute_join_eq relative, ← start]
  rw [names_join root relative] at isPrefix long
  have named := List.length_pos_of_ne_nil (names_ne_nil filled inner)
  rw [List.length_append] at long
  obtain ⟨more, whole⟩ : root.names <+: above.names :=
    List.prefix_of_prefix_length_le (List.prefix_append _ _) isPrefix (by omega)
  rw [← whole, List.prefix_append_right_inj] at isPrefix
  rw [isParent, Option.getD_some, place_eq_names disk above, ← whole, List.foldl_append,
    sameStart, ← place_eq_names]
  exact covers_foldl_next (fun member => (isInner_iff.mp inner).2.2 (isPrefix.mem member)) _

/-- What goes up from a key stays in the root, since the key lies below the root. -/
theorem stays_join_up (root : FilePath) : Stays root ((root.join key).join "..") := by
  intro disk front isFront
  have relative : (⟨".."⟩ : FilePath).isAbsolute = false := by decide
  have sameStart : disk.start ((root.join key).join "..") = disk.start (root.join key) := by
    rw [start, isAbsolute_join_eq relative, ← start]
  have upSteps : (⟨".."⟩ : FilePath).steps = [".."] := steps_of_free (by decide) (by decide)
  rw [steps_join _ relative, upSteps] at isFront
  rw [sameStart]
  rcases List.prefix_concat_iff.mp isFront with rfl | isFront
  · have above : (disk.place root).Covers (disk.place (root.join key)).dropLast := by
      rw [place_join_inner inner, List.dropLast_append_of_ne_nil (names_ne_nil filled inner)]
      exact .append _ _
    rw [List.foldl_append, ← place_eq]
    exact .inr above
  · exact stays_join inner root disk front isFront

/-- A name in the directory of a key stays in the root, even the one that goes up. -/
theorem stays_join_name (root : FilePath) {name : String} (free : '/' ∉ name.toList) :
    Stays root ((root.join key).join name) := by
  by_cases isUp : name = ".."
  · rw [isUp]
    exact stays_join_up filled inner root
  · have relative := (isInner_iff.mp inner).1
    have nameRelative := isAbsolute_of_free free
    have noUp : ".." ∉ (⟨name⟩ : FilePath).steps := by
      by_cases empty : name = ""
      · subst empty
        exact List.not_mem_nil
      · rw [steps_of_free free empty, List.mem_singleton]
        exact Ne.symm isUp
    refine stays_of_prefix
      ((isAbsolute_join_eq nameRelative).trans (isAbsolute_join_eq relative))
      (List.mem_append.not.mpr (not_or.mpr ⟨up_not_mem_steps inner, noUp⟩)) ?_
    rw [steps_join _ nameRelative, steps_join root relative, List.append_assoc]

end Key

end CertPress.Disk
