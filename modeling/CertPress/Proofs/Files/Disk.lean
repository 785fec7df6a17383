import CertPress.Proofs.Action
import CertPress.Store.Object

/-!
# What is read after a write

A path is followed through directories only.  A write puts a file where there was
no directory, so it leaves every walk that found something as it was, and the
path of the file leads to it.
-/

namespace CertPress

namespace Disk

variable {disk after : Disk} {location other found : Location} {path : FilePath}
variable {content : Bytes}

@[simp] theorem at?_root (disk : Disk) : disk.at? [] = some .directory := rfl

theorem at?_set (disk : Disk) (location other : Location) (entry : Entry) (filled : other ≠ []) :
    (disk.set location entry).at? other =
      if location.key = other.key then some entry else disk.at? other := by
  simp [at?, set, filled]

/-- A walk does not see what is put where there was no directory. -/
theorem at?_set_of_directory {entry : Entry} (free : disk.at? location ≠ some .directory)
    (directory : disk.at? other = some .directory) :
    (disk.set location entry).at? other = some .directory := by
  rcases other with _ | ⟨name, names⟩
  · rfl
  · rw [at?_set _ _ _ _ (List.cons_ne_nil _ _)]
    split
    next same =>
      have filled : location ≠ [] := by
        rintro rfl
        exact free rfl
      rw [at?, if_neg (by simpa using filled), same] at free
      exact absurd directory free
    next => exact directory

/-- A name is followed from a directory. -/
theorem step_eq_ok {name : String} (walked : disk.step other name = .ok found) :
    disk.at? other = some .directory := by
  unfold step at walked
  split at walked
  next => exact absurd walked (by simp)
  next => exact absurd walked (by simp)
  next directory => exact directory

theorem step_congr {name : String} (directory : disk.at? other = some .directory)
    (same : after.at? other = some .directory) : after.step other name = disk.step other name := by
  simp only [step, directory, same]

/-- A walk that found something finds it after something was put where there was no
directory. -/
theorem walk_set {entry : Entry} (free : disk.at? location ≠ some .directory)
    {names : List String} (walked : names.foldlM disk.step other = .ok found) :
    names.foldlM (disk.set location entry).step other = .ok found := by
  induction names generalizing other with
  | nil => exact walked
  | cons name rest hypothesis =>
      rw [List.foldlM_cons] at walked ⊢
      cases stepped : disk.step other name with
      | error fault =>
          rw [stepped] at walked
          exact absurd walked (by simp [bind, Except.bind])
      | ok next =>
          have directory := step_eq_ok stepped
          rw [stepped] at walked
          rw [step_congr directory (at?_set_of_directory free directory), stepped]
          exact hypothesis walked

theorem locate_set {entry : Entry} (free : disk.at? location ≠ some .directory)
    (located : disk.locate path = .ok found) :
    (disk.set location entry).locate path = .ok found := by
  unfold locate at located ⊢
  split at located
  next => exact absurd located (by simp)
  next =>
    split at located
    next => exact absurd located (by simp)
    next notEmpty =>
      rw [if_neg notEmpty]
      exact walk_set free located

/-- A file is written where its path leads to, and there is no directory. -/
theorem target_eq_ok (targeted : disk.target path false = .ok location) :
    disk.locate path = .ok location ∧ disk.at? location ≠ some .directory := by
  unfold target at targeted
  obtain ⟨place, located, rest⟩ := Action.except_bind_eq_ok.mp targeted
  cases slash : path.endsWithSlash with
  | true =>
      simp only [slash, if_true] at rest
      split at rest
      next => cases rest
      next => cases rest
      next =>
        split at rest
        next => cases rest
        next => cases rest
  | false =>
      simp only [slash, Bool.false_eq_true, if_false] at located rest
      split at rest
      next => cases rest
      next => cases rest
      next =>
        split at rest
        next entry isThere =>
          split at rest
          next => cases rest
          next notDirectory =>
            obtain rfl := Except.ok.inj rest
            exact ⟨located, by simpa [isThere] using notDirectory⟩
        next nothing =>
          obtain rfl := Except.ok.inj rest
          exact ⟨located, by simp [nothing]⟩

/-- What a path leads to is at the place that it leads to. -/
theorem find_eq_ok {entry : Entry} :
    disk.find path = .ok (location, entry) ↔
      disk.locate path = .ok location ∧ disk.at? location = some entry := by
  rw [find, Action.except_bind_eq_ok]
  constructor
  · rintro ⟨place, located, found⟩
    split at found
    next other isThere =>
      obtain ⟨rfl, rfl⟩ := Prod.mk.inj (Except.ok.inj found)
      exact ⟨located, isThere⟩
    next => cases found
  · rintro ⟨located, isThere⟩
    refine ⟨location, located, ?_⟩
    rw [isThere]
    rfl

theorem isFile_iff : disk.isFile path ↔
    ∃ location content executable, disk.find path = .ok (location, .file content executable) := by
  rw [isFile]
  split
  next found => exact ⟨fun _ => ⟨_, _, _, found⟩, fun _ => rfl⟩
  next other =>
    constructor
    · intro absent
      cases absent
    · rintro ⟨location, content, executable, found⟩
      exact (other _ _ _ found).elim

/-- What was written is read. -/
theorem read_write {executable : Bool}
    (written : write path content executable disk = (.ok (), after)) :
    after.read path = .ok content := by
  unfold write at written
  split at written
  next location targeted =>
    obtain ⟨located, free⟩ := target_eq_ok targeted
    obtain rfl : disk.set location (.file content executable) = after :=
      congrArg Prod.snd written
    have filled : location ≠ [] := by
      rintro rfl
      exact free rfl
    have found : (disk.set location (.file content executable)).locate path = .ok location :=
      locate_set free located
    have isThere : (disk.set location (.file content executable)).at? location =
        some (.file content executable) := by
      rw [at?_set _ _ _ _ filled, if_pos rfl]
    simp only [read, find, found, isThere, bind, Except.bind]
    rfl
  next => exact absurd (congrArg Prod.fst written) (by simp)

end Disk

namespace Store

theorem contains_iff {root : FilePath} {key : String} {disk : Disk} :
    contains root key disk ↔
    (key ≠ "" ∧ (⟨key⟩ : FilePath).isInner) ∧ disk.isFile (root.join key) := by
  rw [contains, objectPath]
  split
  next path found =>
    split at found
    next allowed =>
      obtain rfl := Except.ok.inj found
      simp [allowed]
    next => cases found
  next fault refused =>
    split at refused
    next => cases refused
    next forbidden => simp [forbidden]

end Store

end CertPress
