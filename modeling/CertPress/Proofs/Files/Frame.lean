import CertPress.Proofs.Files.Disk
import CertPress.Proofs.Text.Pieces

/-!
# What stays on a disk

A path leads to the place that its names spell, if it leads anywhere.  Operations
keep the directory in which paths start and all directories, so whatever a path led
to before it still leads to, and they keep the content of the files at all locations
but the one that they write.
-/

namespace CertPress.Disk

variable {disk before between after : Disk} {here found location other : Location}
variable {path : FilePath}

/-! ## The place of a path -/

/-- Where a name leads from a directory. -/
def next (here : Location) (name : String) : Location :=
  if name = "." then here else if name = ".." then here.dropLast else here ++ [name]

/-- Where a path leads if there are directories all the way. -/
def place (disk : Disk) (path : FilePath) : Location :=
  (route path).foldl next (disk.start path)

theorem eq_next_of_step {name : String} (walked : disk.step here name = .ok found) :
    found = next here name := by
  have directory := step_eq_ok walked
  simp only [step, directory] at walked
  unfold next
  split at walked
  next isDot =>
    rw [if_pos isDot]
    exact (Except.ok.inj walked).symm
  next notDot =>
    rw [if_neg notDot]
    split at walked
    next isUp =>
      rw [if_pos isUp]
      exact (Except.ok.inj walked).symm
    next notUp =>
      rw [if_neg notUp]
      split at walked
      next => cases walked
      next => exact (Except.ok.inj walked).symm

theorem eq_of_walk {names : List String} (walked : names.foldlM disk.step here = .ok found) :
    found = names.foldl next here := by
  induction names generalizing here with
  | nil => exact (Except.ok.inj walked).symm
  | cons name rest hypothesis =>
      rw [List.foldlM_cons] at walked
      obtain ⟨step, stepped, walkedOn⟩ := Action.except_bind_eq_ok.mp walked
      rw [List.foldl_cons, ← eq_next_of_step stepped]
      exact hypothesis walkedOn

/-- A path leads to its place. -/
theorem eq_place_of_locate (located : disk.locate path = .ok found) : found = disk.place path := by
  unfold locate at located
  split at located
  next => cases located
  next =>
    split at located
    next => cases located
    next => exact eq_of_walk located

/-! ## Files -/

/-- The content of the file at a location. -/
def file? (disk : Disk) (location : Location) : Option Bytes :=
  match disk.at? location with
  | some (.file content _) => some content
  | _ => none

theorem file?_of_directory (directory : disk.at? location = some .directory) :
    disk.file? location = none := by
  rw [file?, directory]

theorem file?_of_nothing (nothing : disk.at? location = none) : disk.file? location = none := by
  rw [file?, nothing]

/-- What is read is the file at the place of the path. -/
theorem read_eq_ok {content : Bytes} : disk.read path = .ok content ↔
    disk.locate path = .ok (disk.place path) ∧ disk.file? (disk.place path) = some content := by
  rw [read, Action.except_bind_eq_ok]
  constructor
  · rintro ⟨⟨location, entry⟩, isFound, rest⟩
    obtain ⟨located, isThere⟩ := find_eq_ok.mp isFound
    obtain rfl := eq_place_of_locate located
    refine ⟨located, ?_⟩
    cases entry with
    | directory => cases rest
    | file content executable =>
        cases rest
        rw [file?, isThere]
  · rintro ⟨located, isFile⟩
    unfold file? at isFile
    split at isFile
    next isThere =>
      cases isFile
      exact ⟨_, find_eq_ok.mpr ⟨located, isThere⟩, rfl⟩
    next => cases isFile

/-! ## Frames -/

/-- What stays from one disk to another, with the files at some locations. -/
structure Keeps (kept : Location → Prop) (before after : Disk) : Prop where
  workingDirectory : after.workingDirectory = before.workingDirectory
  directory : ∀ location, before.at? location = some .directory →
    after.at? location = some .directory
  file : ∀ location, kept location → after.file? location = before.file? location

namespace Keeps

variable {kept more : Location → Prop}

theorem refl (kept : Location → Prop) (disk : Disk) : Keeps kept disk disk :=
  ⟨rfl, fun _ directory => directory, fun _ _ => rfl⟩

theorem trans (first : Keeps kept before between) (second : Keeps kept between after) :
    Keeps kept before after := by
  constructor
  · exact second.workingDirectory.trans first.workingDirectory
  · intro location directory
    exact second.directory location (first.directory location directory)
  · intro location isKept
    exact (second.file location isKept).trans (first.file location isKept)

/-- Fewer files are kept as well. -/
theorem mono (keeps : Keeps more before after) (fewer : ∀ location, kept location → more location) :
    Keeps kept before after :=
  ⟨keeps.workingDirectory, keeps.directory, fun location isKept =>
    keeps.file location (fewer location isKept)⟩

theorem place (keeps : Keeps kept before after) (path : FilePath) :
    after.place path = before.place path := by
  rw [Disk.place, start, keeps.workingDirectory, Disk.place, start]

theorem walk (keeps : Keeps kept before after) {names : List String}
    (walked : names.foldlM before.step here = .ok found) :
    names.foldlM after.step here = .ok found := by
  induction names generalizing here with
  | nil => exact walked
  | cons name rest hypothesis =>
      rw [List.foldlM_cons] at walked ⊢
      obtain ⟨step, stepped, walkedOn⟩ := Action.except_bind_eq_ok.mp walked
      have directory := step_eq_ok stepped
      rw [← step_congr directory (keeps.directory here directory)] at stepped
      exact Action.except_bind_eq_ok.mpr ⟨step, stepped, hypothesis walkedOn⟩

/-- A path still leads to where it led. -/
theorem locate (keeps : Keeps kept before after) (located : before.locate path = .ok found) :
    after.locate path = .ok found := by
  unfold Disk.locate at located ⊢
  split at located
  next => cases located
  next =>
    split at located
    next => cases located
    next filled =>
      rw [if_neg filled, start, keeps.workingDirectory, ← start]
      exact keeps.walk located

/-- A file that was read is still read. -/
theorem read (keeps : Keeps kept before after) (isKept : kept (before.place path))
    {content : Bytes} (isRead : before.read path = .ok content) :
    after.read path = .ok content := by
  obtain ⟨located, isFile⟩ := read_eq_ok.mp isRead
  rw [read_eq_ok, keeps.place]
  exact ⟨keeps.locate located, (keeps.file _ isKept).trans isFile⟩

end Keeps

/-! ## Growth -/

/-- What is added from one disk to another: nothing that was there changes, and every new
file has a key and a content that may be made. -/
structure Grows (made : String → Bytes → Prop) (before after : Disk) : Prop where
  workingDirectory : after.workingDirectory = before.workingDirectory
  entry : ∀ location entry, before.at? location = some entry → after.at? location = some entry
  file : ∀ location content executable, after.at? location = some (.file content executable) →
    before.at? location = some (.file content executable) ∨ made location.key content

namespace Grows

variable {made more : String → Bytes → Prop}

theorem refl (made : String → Bytes → Prop) (disk : Disk) : Grows made disk disk :=
  ⟨rfl, fun _ _ isThere => isThere, fun _ _ _ isThere => .inl isThere⟩

theorem trans (first : Grows made before between) (second : Grows made between after) :
    Grows made before after := by
  constructor
  · exact second.workingDirectory.trans first.workingDirectory
  · intro location entry isThere
    exact second.entry location entry (first.entry location entry isThere)
  · intro location content executable isThere
    rcases second.file location content executable isThere with already | isMade
    · exact first.file location content executable already
    · exact .inr isMade

/-- More files may be made as well. -/
theorem mono (grows : Grows made before after)
    (sub : ∀ key content, made key content → more key content) : Grows more before after :=
  ⟨grows.workingDirectory, grows.entry, fun location content executable isThere =>
    (grows.file location content executable isThere).imp_right (sub _ _)⟩

/-- The files at locations where none may be made are kept. -/
theorem keeps {kept : Location → Prop} (grows : Grows made before after)
    (apart : ∀ location, kept location → ∀ content, ¬ made location.key content) :
    Keeps kept before after := by
  constructor
  · exact grows.workingDirectory
  · exact fun location directory => grows.entry location .directory directory
  · intro location isKept
    cases isThere : before.at? location with
    | some entry => rw [file?, grows.entry location entry isThere, file?, isThere]
    | none =>
        rw [file?_of_nothing isThere, file?]
        split
        next content executable isFile =>
          rcases grows.file location content executable isFile with already | isMade
          · rw [isThere] at already
            cases already
          · exact absurd isMade (apart location isKept content)
        next => rfl

end Grows

/-! ## Writing -/

/-- A file where there was no directory changes no other one. -/
theorem keeps_set_file (free : disk.at? location ≠ some .directory) (content : Bytes)
    (executable : Bool) :
    Keeps (fun other => other.key ≠ location.key) disk
      (disk.set location (.file content executable)) := by
  constructor
  · rfl
  · exact fun other directory => at?_set_of_directory free directory
  · intro other apart
    rcases other with _ | ⟨name, names⟩
    · rfl
    · rw [file?, at?_set _ _ _ _ (List.cons_ne_nil _ _), if_neg (Ne.symm apart), ← file?]

/-- What is put where there was nothing changes nothing else. -/
theorem at?_set_of_nothing {entry present : Entry} (nothing : disk.at? location = none)
    (isThere : disk.at? other = some present) :
    (disk.set location entry).at? other = some present := by
  rcases other with _ | ⟨name, names⟩
  · exact isThere
  · have filled : location ≠ [] := by
      rintro rfl
      cases nothing
    have apart : location.key ≠ Location.key (name :: names) := by
      intro same
      rw [at?, if_neg (by simpa using filled), same] at nothing
      cases nothing.symm.trans isThere
    rw [at?_set _ _ _ _ (List.cons_ne_nil _ _), if_neg apart, isThere]

/-- What is put where there was nothing is there. -/
theorem at?_set_self (nothing : disk.at? location = none) (entry : Entry) :
    (disk.set location entry).at? location = some entry := by
  have filled : location ≠ [] := by
    rintro rfl
    cases nothing
  rw [at?_set _ _ _ _ filled, if_pos rfl]

theorem grows_set_file (nothing : disk.at? location = none) (content : Bytes)
    (executable : Bool) :
    Grows (fun key written => key = location.key ∧ written = content) disk
      (disk.set location (.file content executable)) := by
  constructor
  · rfl
  · exact fun _ _ isThere => at?_set_of_nothing nothing isThere
  · intro other written flag isThere
    rcases other with _ | ⟨name, names⟩
    · exact .inl isThere
    · rw [at?_set _ _ _ _ (List.cons_ne_nil _ _)] at isThere
      split at isThere
      next same =>
        cases isThere
        exact .inr ⟨same.symm, rfl⟩
      next => exact .inl isThere

theorem grows_set_directory (nothing : disk.at? location = none) :
    Grows (fun _ _ => False) disk (disk.set location .directory) := by
  constructor
  · rfl
  · exact fun _ _ isThere => at?_set_of_nothing nothing isThere
  · intro other written flag isThere
    rcases other with _ | ⟨name, names⟩
    · exact .inl isThere
    · rw [at?_set _ _ _ _ (List.cons_ne_nil _ _)] at isThere
      split at isThere
      next => cases isThere
      next => exact .inl isThere

/-- Directories are made, and no files. -/
theorem grows_makeFrom (names : List String) (disk : Disk) (here : Location) :
    Grows (fun _ _ => False) disk (disk.makeFrom here names).2 := by
  induction names generalizing disk here with
  | nil => exact .refl _ disk
  | cons name rest hypothesis =>
      rw [makeFrom]
      split
      next => exact .refl _ disk
      next step _ =>
        split
        next => exact hypothesis disk step
        next => exact .refl _ disk
        next nothing => exact (grows_set_directory nothing).trans (hypothesis _ step)

theorem grows_makeDirectories (path : FilePath) (disk : Disk) :
    Grows (fun _ _ => False) disk (makeDirectories path disk).2 := by
  unfold makeDirectories
  split
  next => exact .refl _ disk
  next => exact grows_makeFrom _ disk _

theorem keeps_set_directory (nothing : disk.at? location = none) :
    Keeps (fun _ => True) disk (disk.set location .directory) :=
  (grows_set_directory nothing).keeps fun _ _ _ => id

theorem keeps_makeFrom (names : List String) (disk : Disk) (here : Location) :
    Keeps (fun _ => True) disk (disk.makeFrom here names).2 :=
  (grows_makeFrom names disk here).keeps fun _ _ _ => id

/-- Only the file at the place of the path is written. -/
theorem keeps_write (path : FilePath) (content : Bytes) (executable : Bool) (disk : Disk) :
    Keeps (fun other => other.key ≠ (disk.place path).key) disk
      (write path content executable disk).2 := by
  unfold write
  split
  next location targeted =>
    obtain ⟨located, free⟩ := target_eq_ok targeted
    obtain rfl := eq_place_of_locate located
    exact keeps_set_file free content executable
  next => exact .refl _ disk

/-- A new file is written where its path leads to, and there is nothing. -/
theorem target_new_eq_ok (targeted : disk.target path true = .ok location) :
    disk.locate path = .ok location ∧ disk.at? location = none := by
  unfold target at targeted
  obtain ⟨place, located, rest⟩ := Action.except_bind_eq_ok.mp targeted
  split at rest
  next => cases rest
  next => cases rest
  next =>
    split at rest
    next => cases rest
    next nothing =>
      cases slash : path.endsWithSlash with
      | true =>
          rw [slash, if_pos rfl] at rest
          cases rest
      | false =>
          rw [slash, if_neg Bool.false_ne_true] at rest located
          cases rest
          exact ⟨located, nothing⟩

/-- Only a file that is new is written, at the place of the path. -/
theorem grows_writeNew (path : FilePath) (content : Bytes) (disk : Disk) :
    Grows (fun key written => key = (disk.place path).key ∧ written = content) disk
      (writeNew path content disk).2 := by
  unfold writeNew
  split
  next location targeted =>
    obtain ⟨located, nothing⟩ := target_new_eq_ok targeted
    obtain rfl := eq_place_of_locate located
    exact grows_set_file nothing content false
  next => exact .refl _ disk

/-! ## Different locations -/

theorem toList_key_concat (front : Location) (name : String) :
    (front ++ [name]).key.toList = front.key.toList ++ '/' :: name.toList := by
  simp [Location.key, String.join_append, String.toList_join]

/-- Locations with different last names are written differently. -/
theorem key_concat_ne {front back : Location} {left right : String} (differ : left ≠ right)
    (leftPlain : '/' ∉ left.toList) (rightPlain : '/' ∉ right.toList) :
    (front ++ [left]).key ≠ (back ++ [right]).key := by
  intro same
  have chars := congrArg (fun key => key.toList.reverse) same
  simp only [toList_key_concat, List.reverse_append, List.reverse_cons, List.append_assoc,
    List.singleton_append] at chars
  have reversed := (Text.append_separator_inj (by simpa using leftPlain)
    (by simpa using rightPlain)).mp chars
  exact differ (String.toList_inj.mp (List.reverse_injective reversed.1))

end CertPress.Disk
