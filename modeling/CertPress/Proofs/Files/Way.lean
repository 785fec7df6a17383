import CertPress.Proofs.Files.Names

/-!
# Ways that are free

The directories of a path can be made unless a file stands on the way or a name is too
long.  No directory that is made lies deeper than the path itself.
-/

namespace CertPress.Disk

variable {disk made after : Disk} {here found location : Location} {path : FilePath}
variable {name : String} {names : List String}

/-- No file stands on the way that names lead from a directory, and no name is too
long. -/
def Free (disk : Disk) : Location → List String → Prop
  | _, [] => True
  | here, name :: rest =>
      name.utf8ByteSize ≤ nameLimit ∧ disk.file? (next here name) = none ∧
        disk.Free (next here name) rest

theorem Free.congr (same : ∀ location, after.file? location = disk.file? location)
    (free : disk.Free here names) : after.Free here names := by
  induction names generalizing here with
  | nil => trivial
  | cons name rest hypothesis =>
      obtain ⟨short, noFile, freeRest⟩ := free
      exact ⟨short, (same _).trans noFile, hypothesis freeRest⟩

/-- A short name is followed from a directory. -/
theorem step_eq_next (directory : disk.at? here = some .directory)
    (short : name.utf8ByteSize ≤ nameLimit) : disk.step here name = .ok (next here name) := by
  have notLong : ¬ nameLimit < name.utf8ByteSize := Nat.not_lt.mpr short
  simp only [step, directory, next, if_neg notLong]
  split
  next => rfl
  next => split <;> rfl

/-- A name that is followed is not too long. -/
theorem short_of_step (stepped : disk.step here name = .ok found) :
    name.utf8ByteSize ≤ nameLimit := by
  simp only [step, step_eq_ok stepped] at stepped
  split at stepped
  next isDot =>
    subst isDot
    decide
  next =>
    split at stepped
    next isUp =>
      subst isUp
      decide
    next =>
      split at stepped
      next => cases stepped
      next notLong => exact Nat.not_lt.mp notLong

/-- A walk that ends at a directory starts at one. -/
theorem start_of_walk (walked : names.foldlM disk.step here = .ok found)
    (directory : disk.at? found = some .directory) : disk.at? here = some .directory := by
  cases names with
  | nil =>
      cases walked
      exact directory
  | cons name rest =>
      rw [List.foldlM_cons] at walked
      obtain ⟨_, stepped, -⟩ := Action.except_bind_eq_ok.mp walked
      exact step_eq_ok stepped

theorem free_of_walk (walked : names.foldlM disk.step here = .ok found)
    (directory : disk.at? found = some .directory) : disk.Free here names := by
  induction names generalizing here with
  | nil => trivial
  | cons name rest hypothesis =>
      rw [List.foldlM_cons] at walked
      obtain ⟨between, stepped, walkedOn⟩ := Action.except_bind_eq_ok.mp walked
      obtain rfl := eq_next_of_step stepped
      exact ⟨short_of_step stepped, file?_of_directory (start_of_walk walkedOn directory),
        hypothesis walkedOn⟩

/-- On a free way all directories are made. -/
theorem makeFrom_of_free (directory : disk.at? here = some .directory)
    (free : disk.Free here names) : ∃ made, disk.makeFrom here names = (.ok (), made) := by
  induction names generalizing disk here with
  | nil => exact ⟨disk, rfl⟩
  | cons name rest hypothesis =>
      obtain ⟨short, noFile, freeRest⟩ := free
      simp only [makeFrom, step_eq_next directory short]
      split
      next isThere => exact hypothesis isThere freeRest
      next isFile => simp [file?, isFile] at noFile
      next nothing =>
        have sameFiles := fun location => (keeps_set_directory nothing).file location trivial
        exact hypothesis (at?_set_self nothing .directory) (freeRest.congr sameFiles)

/-- Where directories were made, their names lead to a directory. -/
theorem walk_of_makeFrom (directory : disk.at? here = some .directory)
    (outcome : disk.makeFrom here names = (.ok (), made)) :
    names.foldlM made.step here = .ok (names.foldl next here) ∧
      made.at? (names.foldl next here) = some .directory := by
  induction names generalizing disk here with
  | nil =>
      cases outcome
      exact ⟨rfl, directory⟩
  | cons name rest hypothesis =>
      have keeps := keeps_makeFrom (name :: rest) disk here
      rw [outcome] at keeps
      rw [makeFrom] at outcome
      split at outcome
      next => cases outcome
      next step stepped =>
        obtain rfl := eq_next_of_step stepped
        rw [← step_congr directory (keeps.directory here directory)] at stepped
        have goOn (walked : rest.foldlM made.step (next here name) =
            .ok (rest.foldl next (next here name))) :
            (name :: rest).foldlM made.step here = .ok ((name :: rest).foldl next here) := by
          rw [List.foldlM_cons]
          exact Action.except_bind_eq_ok.mpr ⟨_, stepped, walked⟩
        split at outcome
        next isThere => exact (hypothesis isThere outcome).imp_left goOn
        next => cases outcome
        next nothing =>
          exact (hypothesis (at?_set_self nothing .directory) outcome).imp_left goOn

/-- Names that lead from somewhere on to a directory lead from one. -/
theorem start_of_makeFrom (named : names ≠ [])
    (outcome : disk.makeFrom here names = (.ok (), made)) :
    disk.at? here = some .directory := by
  obtain ⟨name, rest, rfl⟩ := List.exists_cons_of_ne_nil named
  rw [makeFrom] at outcome
  split at outcome
  next => cases outcome
  next stepped => exact step_eq_ok stepped

/-- Making the same directories again changes nothing, and ends in the same way. -/
theorem makeFrom_again {result : Except DiskFault Unit}
    (outcome : disk.makeFrom here names = (result, made)) :
    made.makeFrom here names = (result, made) := by
  induction names generalizing disk here with
  | nil =>
      cases outcome
      rfl
  | cons name rest hypothesis =>
      have grows := grows_makeFrom (name :: rest) disk here
      rw [outcome] at grows
      rw [makeFrom] at outcome
      cases stepped : disk.step here name with
      | error fault =>
          simp only [stepped] at outcome
          cases outcome
          simp only [makeFrom, stepped]
      | ok step =>
          have directory := step_eq_ok stepped
          have steppedAgain : made.step here name = .ok step :=
            (step_congr directory (grows.entry here .directory directory)).trans stepped
          simp only [stepped] at outcome
          cases isThere : disk.at? step with
          | none =>
              simp only [isThere] at outcome
              have later := grows_makeFrom rest (disk.set step .directory) step
              rw [outcome] at later
              have made_at := later.entry step .directory (at?_set_self isThere .directory)
              simp only [makeFrom, steppedAgain, made_at]
              exact hypothesis outcome
          | some entry =>
              cases entry with
              | directory =>
                  simp only [isThere] at outcome
                  simp only [makeFrom, steppedAgain, grows.entry step .directory isThere]
                  exact hypothesis outcome
              | file content executable =>
                  simp only [isThere] at outcome
                  cases outcome
                  simp only [makeFrom, stepped, isThere]

/-- On the way to a directory nothing is made. -/
theorem makeFrom_of_walk (walked : names.foldlM disk.step here = .ok found)
    (directory : disk.at? found = some .directory) :
    disk.makeFrom here names = (.ok (), disk) := by
  induction names generalizing here with
  | nil => rfl
  | cons name rest hypothesis =>
      rw [List.foldlM_cons] at walked
      obtain ⟨between, stepped, walkedOn⟩ := Action.except_bind_eq_ok.mp walked
      simp only [makeFrom, stepped, start_of_walk walkedOn directory]
      exact hypothesis walkedOn

/-! ## Paths of directories -/

theorem isDirectory_iff : disk.isDirectory path ↔
    disk.locate path = .ok (disk.place path) ∧ disk.at? (disk.place path) = some .directory := by
  rw [isDirectory]
  constructor
  · intro holds
    split at holds
    next location isFound =>
      obtain ⟨located, isThere⟩ := find_eq_ok.mp isFound
      obtain rfl := eq_place_of_locate located
      exact ⟨located, isThere⟩
    next => cases holds
  · intro isThere
    rw [find_eq_ok.mpr isThere]

/-- On the way to a directory there are directories. -/
theorem at?_of_isDirectory (isDirectory : disk.isDirectory path) {front rest : List String}
    (split : route path = front ++ rest) :
    disk.at? (front.foldl next (disk.start path)) = some .directory := by
  obtain ⟨located, isThere⟩ := isDirectory_iff.mp isDirectory
  unfold locate at located
  split at located
  next => cases located
  next =>
    split at located
    next => cases located
    next =>
      rw [split, List.foldlM_append] at located
      obtain ⟨between, walkedFront, walkedRest⟩ := Action.except_bind_eq_ok.mp located
      rw [← eq_of_walk walkedFront]
      exact start_of_walk walkedRest isThere

/-- The pieces of a path are followed first. -/
theorem exists_route {front rest : List String}
    (split : (path.pieces.filter (!List.isEmpty ·)).map String.ofList = front ++ rest) :
    ∃ more, route path = front ++ more := by
  rw [route]
  split
  next => exact ⟨rest ++ ["."], by rw [split, List.append_assoc]⟩
  next => exact ⟨rest, split⟩

/-- The directory of a path is there, or it can be made. -/
structure Open (disk : Disk) (path : FilePath) : Prop where
  allowed : refusal? path = none
  start : disk.at? (disk.start path) = some .directory
  free : disk.Free (disk.start path) (route path)

/-- On an empty disk every directory can be made whose path is allowed and has short names. -/
theorem open_empty (allowed : refusal? path = none)
    (short : ∀ name ∈ route path, name.utf8ByteSize ≤ nameLimit) : empty.Open path := by
  have noFile (location : Location) : empty.file? location = none := by
    rcases location with _ | ⟨name, names⟩ <;> rfl
  have free (names : List String) (here : Location)
      (short : ∀ name ∈ names, name.utf8ByteSize ≤ nameLimit) : empty.Free here names := by
    induction names generalizing here with
    | nil => trivial
    | cons name rest hypothesis =>
        exact ⟨short name (.head _), noFile _,
          hypothesis _ fun other member => short other (.tail _ member)⟩
  have start : empty.start path = [] := by
    rw [Disk.start]
    split <;> rfl
  exact ⟨allowed, by rw [start]; rfl, free _ _ short⟩

theorem open_of_locate (located : disk.locate path = .ok found)
    (directory : disk.at? found = some .directory) : disk.Open path := by
  unfold locate at located
  split at located
  next => cases located
  next allowed =>
    split at located
    next => cases located
    next =>
      exact ⟨allowed, start_of_walk located directory, free_of_walk located directory⟩

theorem open_of_isDirectory (isDirectory : disk.isDirectory path) : disk.Open path :=
  have ⟨located, directory⟩ := isDirectory_iff.mp isDirectory
  open_of_locate located directory

theorem isDirectory_of_keeps {kept : Location → Prop} (keeps : Keeps kept disk after)
    (isDirectory : disk.isDirectory path) : after.isDirectory path := by
  obtain ⟨located, directory⟩ := isDirectory_iff.mp isDirectory
  rw [isDirectory_iff, keeps.place]
  exact ⟨keeps.locate located, keeps.directory _ directory⟩

section Path

variable (noSlash : path.endsWithSlash = false)
include noSlash

theorem makeDirectories_eq (allowed : refusal? path = none) (disk : Disk) :
    makeDirectories path disk = disk.makeFrom (disk.start path) (route path) := by
  simp only [makeDirectories, allowed, route, noSlash, Bool.false_eq_true, if_false]

/-- Where the directories of a path were made, its directory is there. -/
theorem isDirectory_of_makeDirectories (filled : path.text ≠ "") (named : route path ≠ [])
    (outcome : makeDirectories path disk = (.ok (), made)) : made.isDirectory path := by
  have allowed : refusal? path = none := by
    cases refused : refusal? path with
    | none => rfl
    | some fault =>
        rw [makeDirectories, refused] at outcome
        cases outcome
  rw [makeDirectories_eq noSlash allowed] at outcome
  obtain ⟨walked, directory⟩ := walk_of_makeFrom (start_of_makeFrom named outcome) outcome
  have keeps := keeps_makeFrom (route path) disk (disk.start path)
  rw [outcome] at keeps
  rw [isDirectory_iff, keeps.place]
  refine ⟨?_, directory⟩
  simp only [locate, allowed]
  rw [if_neg filled, start, keeps.workingDirectory, ← start]
  exact walked

theorem makeDirectories_of_open (opened : disk.Open path) :
    ∃ made, makeDirectories path disk = (.ok (), made) := by
  rw [makeDirectories_eq noSlash opened.allowed]
  exact makeFrom_of_free opened.start opened.free

theorem makeDirectories_of_isDirectory (isDirectory : disk.isDirectory path) :
    makeDirectories path disk = (.ok (), disk) := by
  obtain ⟨located, directory⟩ := isDirectory_iff.mp isDirectory
  unfold locate at located
  split at located
  next => cases located
  next allowed =>
    split at located
    next => cases located
    next =>
      rw [makeDirectories_eq noSlash allowed]
      exact makeFrom_of_walk located directory

end Path

theorem makeDirectories_again {result : Except DiskFault Unit}
    (outcome : makeDirectories path disk = (result, made)) :
    makeDirectories path made = (result, made) := by
  unfold makeDirectories at outcome ⊢
  split at outcome
  next =>
    cases outcome
    rfl
  next =>
    have keeps := keeps_makeFrom ((path.pieces.filter (!List.isEmpty ·)).map String.ofList) disk
      (disk.start path)
    rw [outcome] at keeps
    rw [start, keeps.workingDirectory, ← start]
    exact makeFrom_again outcome

/-! ## The depth of directories -/

/-- No directory has a location of more characters. -/
def Within (limit : Nat) (disk : Disk) : Prop :=
  ∀ location, disk.at? location = some .directory → location.key.toList.length ≤ limit

variable {limit : Nat}

theorem within_empty (limit : Nat) : empty.Within limit := by
  intro location directory
  rcases location with _ | ⟨name, names⟩
  · exact Nat.zero_le _
  · cases directory

theorem within_set_file {content : Bytes} {executable : Bool} (within : disk.Within limit) :
    (disk.set location (.file content executable)).Within limit := by
  intro other directory
  rcases other with _ | ⟨name, names⟩
  · exact Nat.zero_le _
  · rw [at?_set _ _ _ _ (List.cons_ne_nil _ _)] at directory
    split at directory
    next => cases directory
    next => exact within _ directory

theorem within_set_directory (within : disk.Within limit)
    (bound : location.key.toList.length ≤ limit) : (disk.set location .directory).Within limit := by
  intro other directory
  rcases other with _ | ⟨name, names⟩
  · exact Nat.zero_le _
  · rw [at?_set _ _ _ _ (List.cons_ne_nil _ _)] at directory
    split at directory
    next same => exact same ▸ bound
    next => exact within _ directory

theorem length_key_foldl_next (noUp : ".." ∉ names) (here : Location) :
    here.key.toList.length ≤ (names.foldl next here).key.toList.length := by
  induction names generalizing here with
  | nil => exact Nat.le_refl _
  | cons name rest hypothesis =>
      rw [List.mem_cons, not_or] at noUp
      refine Nat.le_trans ?_ (hypothesis noUp.2 (next here name))
      unfold next
      split
      next => exact Nat.le_refl _
      next =>
        rw [if_neg (Ne.symm noUp.1), toList_key_concat]
        simp

theorem within_makeFrom (noUp : ".." ∉ names) (within : disk.Within limit)
    (bound : (names.foldl next here).key.toList.length ≤ limit) :
    (disk.makeFrom here names).2.Within limit := by
  induction names generalizing disk here with
  | nil => exact within
  | cons name rest hypothesis =>
      have noUpRest : ".." ∉ rest := fun member => noUp (.tail _ member)
      rw [makeFrom]
      split
      next => exact within
      next between stepped =>
        obtain rfl := eq_next_of_step stepped
        split
        next => exact hypothesis noUpRest within bound
        next => exact within
        next =>
          have shallow : (next here name).key.toList.length ≤ limit :=
            Nat.le_trans (length_key_foldl_next noUpRest _) bound
          exact hypothesis noUpRest (within_set_directory within shallow) bound

theorem within_makeDirectories (noSlash : path.endsWithSlash = false) (noUp : ".." ∉ route path)
    (within : disk.Within limit) (bound : (disk.place path).key.toList.length ≤ limit) :
    (makeDirectories path disk).2.Within limit := by
  cases refused : refusal? path with
  | some fault => simpa only [makeDirectories, refused] using within
  | none =>
      rw [makeDirectories_eq noSlash refused]
      exact within_makeFrom noUp within bound

end CertPress.Disk
