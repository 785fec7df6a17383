import CertPress.Proofs.Files.Way
import CertPress.Proofs.Store.Frame

/-!
# What can be stored

A key of a store is a directory and the name of a file.  If the directory is there, or
can be made, then an object is stored under the key, unless a directory has its name.
-/

namespace CertPress

open FilePath (Plain ofNames)

namespace FilePath

section Names

variable {path : FilePath} {name : String} {names : List String}

theorem Plain.head (plain : Plain (name :: names)) : Plain [name] := by
  refine .of_name (plain.isName name (.head _)) ?_ ?_
  · rintro rfl
    exact plain.no_here (.head _)
  · rintro rfl
    exact plain.no_up (.head _)

@[simp] theorem ofNames_singleton (name : String) : ofNames [name] = name := by
  simp [ofNames, Text.join]

theorem Plain.isAbsolute (plain : Plain names) :
    (⟨ofNames names⟩ : FilePath).isAbsolute = false :=
  isAbsolute_ofNames plain.isName

theorem Plain.route (plain : Plain names) : Disk.route ⟨ofNames names⟩ = names := by
  obtain ⟨filled, inner⟩ := isInner_ofNames plain
  have same : tidy (ofNames names) = ofNames names := by rw [tidy, names_ofNames plain]
  rw [← same, Disk.route_tidy filled inner, names_ofNames plain]

theorem Plain.route_join (plain : Plain names) (root : FilePath) :
    Disk.route (root.join (ofNames names)) =
      (root.pieces.filter (!List.isEmpty ·)).map String.ofList ++ names := by
  rw [Disk.route_join root (isInner_ofNames plain).1 plain.isAbsolute, plain.route]

theorem Plain.endsWithSlash (plain : Plain names) :
    (⟨ofNames names⟩ : FilePath).endsWithSlash = false := by
  rw [Bool.eq_false_iff]
  intro slash
  have empty : [] ∈ names.map String.toList := pieces_ofNames plain ▸ nil_mem_pieces slash
  obtain ⟨name, member, noChars⟩ := List.mem_map.mp empty
  exact (plain.isName name member).1 noChars

theorem Plain.endsWithSlash_join (plain : Plain names) (root : FilePath) :
    (root.join (ofNames names)).endsWithSlash = false := by
  rw [FilePath.endsWithSlash_join (isInner_ofNames plain).1 plain.isAbsolute, plain.endsWithSlash]

theorem dropIdle_cons {piece : List Char} (notIdle : isIdle piece = false)
    (rest : List (List Char)) : dropIdle (piece :: rest) = piece :: rest := by
  obtain ⟨some, notHere⟩ := Bool.or_eq_false_iff.mp notIdle
  cases rest with
  | nil => simp [dropIdle, some, notHere]
  | cons next others => simp [dropIdle, notIdle]

end Names

/-- A relative path stands at the end of a joined one, behind a slash or alone. -/
theorem join_cases (root : FilePath) :
    (∀ {other : String}, (⟨other⟩ : FilePath).isAbsolute = false → root.join other = ⟨other⟩) ∨
    ∃ before, ∀ {other : String}, (⟨other⟩ : FilePath).isAbsolute = false →
      (root.join other).text.toList = before ++ '/' :: other.toList := by
  by_cases empty : root.text = ""
  · refine .inl fun {other} relative => ?_
    simp [join_eq relative, empty]
  cases slash : root.endsWithSlash with
  | true =>
      rw [endsWithSlash, beq_iff_eq] at slash
      obtain ⟨before, chars⟩ := List.getLast?_eq_some_iff.mp slash
      refine .inr ⟨before, fun {other} relative => ?_⟩
      simp [join_eq relative, endsWithSlash, chars]
  | false =>
      refine .inr ⟨root.text.toList, fun {other} relative => ?_⟩
      simp [join_eq relative, empty, slash]

/-- A key adds its names to the pieces of the path that it is joined to. -/
theorem exists_pieces_join (root : FilePath) :
    ∃ front, ∀ {names : List String}, Plain names →
      (root.join (ofNames names)).pieces = front ++ names.map String.toList := by
  rcases join_cases root with alone | ⟨before, behind⟩
  · refine ⟨[], fun {names} plain => ?_⟩
    rw [alone plain.isAbsolute, pieces_ofNames plain, List.nil_append]
  · refine ⟨Text.split '/' before, fun {names} plain => ?_⟩
    rw [pieces, behind plain.isAbsolute, Text.split_append, ← pieces, pieces_ofNames plain]

variable {directory name : String} (plain : Plain [directory, name])

include plain

theorem join_ne_empty (root : FilePath) : (root.join directory).text ≠ "" := by
  have filled := (isInner_ofNames plain.head).1
  have relative := plain.head.isAbsolute
  rw [ofNames_singleton] at filled relative
  intro empty
  simp [join_eq relative, filled] at empty

/-- Above a key lies its directory. -/
theorem parent?_join (root : FilePath) :
    (root.join (ofNames [directory, name])).parent? = some (root.join directory) := by
  obtain ⟨front, pieces_eq⟩ := exists_pieces_join root
  have directoryPieces : (root.join directory).pieces = front ++ [directory.toList] := by
    simpa using pieces_eq plain.head
  have reversed : (root.join (ofNames [directory, name])).pieces.reverse =
      name.toList :: directory.toList :: front.reverse := by
    simp [pieces_eq plain]
  have notIdle : isIdle directory.toList = false := not_isIdle_of_mem plain (.head _)
  have lastNotIdle : isIdle name.toList = false := not_isIdle_of_mem plain (.tail _ (.head _))
  have above : Text.join '/' (directory.toList :: front.reverse).reverse =
      (root.join directory).text.toList := by
    rw [List.reverse_cons, List.reverse_reverse, ← directoryPieces, pieces, Text.join_split]
  have some : (root.join directory).text.toList ≠ [] := by
    simpa using join_ne_empty plain root
  rw [parent?, reversed, dropIdle_cons lastNotIdle]
  simp only [dropIdle_cons notIdle, above]
  rw [if_neg (by simp [some]), String.ofList_toList]

end FilePath

namespace Store

variable {root : FilePath} {directory name : String} {disk made after : Disk} {content : Bytes}

section Key

variable (plain : Plain [directory, name])
include plain

theorem objectPath_ofNames (root : FilePath) :
    objectPath root (ofNames [directory, name]) = .ok (root.join (ofNames [directory, name])) :=
  if_pos (FilePath.isInner_ofNames plain)

theorem put_of_prepare
    (prepared : prepare (root.join (ofNames [directory, name])) disk = (.ok (), made)) :
    put root (ofNames [directory, name]) content disk =
      match Disk.write (root.join (ofNames [directory, name])) content false made with
      | (.ok (), written) => (.ok (), written)
      | (.error fault, same) =>
          (.error (.disk (root.join (ofNames [directory, name])) fault), same) := by
  have isPath := Action.lift_eq_ok.mpr ⟨objectPath_ofNames plain root, Eq.refl disk⟩
  rcases written : Disk.write (root.join (ofNames [directory, name])) content false made with
    ⟨fault | _, same⟩ <;> simp only [put_eq, Action.run_bind, isPath, prepared, written]

theorem putIfAbsent_of_prepare
    (prepared : prepare (root.join (ofNames [directory, name])) disk = (.ok (), made)) :
    putIfAbsent root (ofNames [directory, name]) content disk =
      match Disk.writeNew (root.join (ofNames [directory, name])) content made with
      | (.ok (), written) => (.ok true, written)
      | (.error .alreadyExists, same) => (.ok false, same)
      | (.error fault, same) =>
          (.error (.disk (root.join (ofNames [directory, name])) fault), same) := by
  have isPath := Action.lift_eq_ok.mpr ⟨objectPath_ofNames plain root, Eq.refl disk⟩
  rcases written : Disk.writeNew (root.join (ofNames [directory, name])) content made with
    ⟨fault | _, same⟩
  · cases fault <;> simp only [putIfAbsent_eq, Action.run_bind, isPath, prepared, written]
  · simp only [putIfAbsent_eq, Action.run_bind, isPath, prepared, written]

section Unprepared

variable {fault : StoreFault}
variable (unprepared : prepare (root.join (ofNames [directory, name])) disk = (.error fault, made))
include unprepared

theorem put_of_unprepared :
    put root (ofNames [directory, name]) content disk = (.error fault, made) := by
  have isPath := Action.lift_eq_ok.mpr ⟨objectPath_ofNames plain root, Eq.refl disk⟩
  simp only [put_eq, Action.run_bind, isPath, unprepared]

theorem putIfAbsent_of_unprepared :
    putIfAbsent root (ofNames [directory, name]) content disk = (.error fault, made) := by
  have isPath := Action.lift_eq_ok.mpr ⟨objectPath_ofNames plain root, Eq.refl disk⟩
  simp only [putIfAbsent_eq, Action.run_bind, isPath, unprepared]

end Unprepared

theorem place_join_directory (root : FilePath) (disk : Disk) :
    disk.place (root.join directory) = disk.place root ++ [directory] := by
  simpa using Disk.place_join plain.head disk root

/-- An object lies deeper than its directory. -/
theorem length_key_place_lt (root : FilePath) (disk : Disk) :
    (disk.place (root.join directory)).key.toList.length <
      (disk.place (root.join (ofNames [directory, name]))).key.toList.length := by
  rw [Disk.place_join_pair plain, Disk.toList_key_concat, place_join_directory plain]
  simp

theorem route_join_directory (root : FilePath) :
    Disk.route (root.join directory) =
      (root.pieces.filter (!List.isEmpty ·)).map String.ofList ++ [directory] := by
  simpa using plain.head.route_join root

theorem route_join_pair (root : FilePath) :
    Disk.route (root.join (ofNames [directory, name])) =
      Disk.route (root.join directory) ++ [name] := by
  rw [plain.route_join, route_join_directory plain, List.append_assoc, List.singleton_append]

theorem start_join_pair (root : FilePath) (disk : Disk) :
    disk.start (root.join (ofNames [directory, name])) = disk.start (root.join directory) := by
  have relative := plain.head.isAbsolute
  rw [FilePath.ofNames_singleton] at relative
  simp only [Disk.start, FilePath.isAbsolute_join_eq plain.isAbsolute,
    FilePath.isAbsolute_join_eq relative]

/-- A key leads where its directory and then its name lead, unless its path is refused. -/
theorem locate_join_pair (root : FilePath) (disk : Disk) :
    disk.locate (root.join (ofNames [directory, name])) =
      match Disk.refusal? (root.join (ofNames [directory, name])) with
      | some fault => .error fault
      | none => disk.locate (root.join directory) >>= fun home => disk.step home name := by
  have relative := plain.head.isAbsolute
  rw [FilePath.ofNames_singleton] at relative
  have shorter : (root.join directory).text.toList.Sublist
      (root.join (ofNames [directory, name])).text.toList := by
    refine FilePath.join_text_sublist plain.isAbsolute relative ?_
    simp [ofNames, Text.join]
  have filled : (root.join (ofNames [directory, name])).text ≠ "" := by
    intro empty
    rw [empty] at shorter
    have none := List.sublist_nil.mp shorter
    exact FilePath.join_ne_empty plain root (by simpa using none)
  cases refused : Disk.refusal? (root.join (ofNames [directory, name])) with
  | some fault => simp only [Disk.locate, refused]
  | none =>
      have allowed := Disk.refusal?_of_sublist shorter refused
      simp only [Disk.locate, refused, allowed]
      rw [if_neg filled, if_neg (FilePath.join_ne_empty plain root), route_join_pair plain,
        start_join_pair plain, List.foldlM_append]
      simp

theorem locate_eq_ok {found : Location} :
    disk.locate (root.join (ofNames [directory, name])) = .ok found ↔
      Disk.refusal? (root.join (ofNames [directory, name])) = none ∧
        ∃ home, disk.locate (root.join directory) = .ok home ∧ disk.step home name = .ok found := by
  rw [locate_join_pair plain]
  cases Disk.refusal? (root.join (ofNames [directory, name])) with
  | some fault => simp
  | none => simp [Action.except_bind_eq_ok]

/-- A directory leads to what lies in it. -/
theorem locate_of_isDirectory (isDirectory : made.isDirectory (root.join directory))
    (allowed : Disk.refusal? (root.join (ofNames [directory, name])) = none)
    (short : name.utf8ByteSize ≤ Disk.nameLimit) :
    made.locate (root.join (ofNames [directory, name])) =
      .ok (made.place (root.join (ofNames [directory, name]))) := by
  obtain ⟨located, isThere⟩ := Disk.isDirectory_iff.mp isDirectory
  have whole := (locate_eq_ok plain).mpr ⟨allowed, _, located, Disk.step_eq_next isThere short⟩
  rw [whole, ← Disk.eq_place_of_locate whole]

theorem isDirectory_of_locate {found : Location}
    (located : disk.locate (root.join (ofNames [directory, name])) = .ok found) :
    disk.isDirectory (root.join directory) := by
  obtain ⟨-, home, isHome, stepped⟩ := (locate_eq_ok plain).mp located
  obtain rfl := Disk.eq_place_of_locate isHome
  exact Disk.isDirectory_iff.mpr ⟨isHome, Disk.step_eq_ok stepped⟩

/-- Where a key leads somewhere, an object can lie. -/
theorem open_of_locate {found : Location}
    (located : disk.locate (root.join (ofNames [directory, name])) = .ok found) :
    disk.Open (root.join directory) ∧
      Disk.refusal? (root.join (ofNames [directory, name])) = none ∧
      name.utf8ByteSize ≤ Disk.nameLimit := by
  obtain ⟨allowed, _, -, stepped⟩ := (locate_eq_ok plain).mp located
  exact ⟨Disk.open_of_isDirectory (isDirectory_of_locate plain located), allowed,
    Disk.short_of_step stepped⟩

theorem find?_pieces (root : FilePath) :
    (root.join (ofNames [directory, name])).pieces.reverse.find? (!List.isEmpty ·) =
      some name.toList := by
  have filled := (plain.isName name (.tail _ (.head _))).1
  obtain ⟨front, pieces_eq⟩ := FilePath.exists_pieces_join root
  simp [pieces_eq plain, filled]

/-- A file is not written where its path does not lead anywhere. -/
theorem target_of_not_located {fault : DiskFault} (kept : Bool)
    (notLocated : disk.locate (root.join (ofNames [directory, name])) = .error fault) :
    disk.target (root.join (ofNames [directory, name])) kept = .error fault := by
  simp only [Disk.target, plain.endsWithSlash_join root, Bool.false_eq_true, if_false, notLocated,
    bind, Except.bind]

/-- A file is written where its path leads to, unless something there is in the way. -/
theorem target_of_locate {location : Location}
    (located : made.locate (root.join (ofNames [directory, name])) = .ok location) (kept : Bool) :
    made.target (root.join (ofNames [directory, name])) kept =
      match made.at? location with
      | none => .ok location
      | some entry =>
          if kept then .error .alreadyExists
          else if entry = .directory then .error .isDirectory else .ok location := by
  have notHere : name.toList ≠ ['.'] := by
    intro same
    have isHere : name = "." := String.toList_inj.mp same
    exact plain.no_here (isHere ▸ .tail _ (.head _))
  have notUp : name.toList ≠ ['.', '.'] := by
    intro same
    have isUp : name = ".." := String.toList_inj.mp same
    exact plain.no_up (isUp ▸ .tail _ (.head _))
  simp only [Disk.target, plain.endsWithSlash_join root, Bool.false_eq_true, if_false, located,
    find?_pieces plain root,
    bind, Except.bind]
  split
  next isHere => exact absurd (Option.some.inj isHere) notHere
  next isUp => exact absurd (Option.some.inj isUp) notUp
  next => cases made.at? location <;> rfl

theorem endsWithSlash_join_directory (root : FilePath) :
    (root.join directory).endsWithSlash = false := by
  simpa using plain.head.endsWithSlash_join root

/-- The directory of a key is made. -/
theorem prepare_eq (root : FilePath) (disk : Disk) :
    prepare (root.join (ofNames [directory, name])) disk =
      match Disk.makeDirectories (root.join directory) disk with
      | (.ok (), made) => (.ok (), made)
      | (.error fault, made) => (.error (.disk (root.join directory) fault), made) := by
  rcases outcome : Disk.makeDirectories (root.join directory) disk with ⟨fault | _, made⟩ <;>
    simp only [prepare, FilePath.parent?_join plain, Option.getD_some, outcome]

/-- Where a key was prepared, its directory is there. -/
theorem isDirectory_of_prepare
    (prepared : prepare (root.join (ofNames [directory, name])) disk = (.ok (), made)) :
    made.isDirectory (root.join directory) := by
  have named : Disk.route (root.join directory) ≠ [] := by
    rw [route_join_directory plain]
    simp
  rw [prepare_eq plain] at prepared
  split at prepared
  next outcome =>
    cases prepared
    exact Disk.isDirectory_of_makeDirectories (endsWithSlash_join_directory plain root)
      (FilePath.join_ne_empty plain root) named outcome
  next => cases prepared

theorem prepare_of_open (opened : disk.Open (root.join directory)) :
    ∃ made, prepare (root.join (ofNames [directory, name])) disk = (.ok (), made) ∧
      made.isDirectory (root.join directory) := by
  obtain ⟨made, made_eq⟩ :=
    Disk.makeDirectories_of_open (endsWithSlash_join_directory plain root) opened
  have prepared : prepare (root.join (ofNames [directory, name])) disk = (.ok (), made) := by
    rw [prepare_eq plain, made_eq]
  exact ⟨made, prepared, isDirectory_of_prepare plain prepared⟩

theorem within_prepare {limit : Nat} (within : disk.Within limit)
    (noUp : ".." ∉ Disk.route (root.join directory))
    (bound : (disk.place (root.join directory)).key.toList.length ≤ limit) :
    (prepare (root.join (ofNames [directory, name])) disk).2.Within limit := by
  have kept := Disk.within_makeDirectories (endsWithSlash_join_directory plain root) noUp within
    bound
  rw [prepare_eq plain]
  split
  next outcome => rwa [outcome] at kept
  next outcome => rwa [outcome] at kept

variable (allowed : Disk.refusal? (root.join (ofNames [directory, name])) = none)
variable (short : name.utf8ByteSize ≤ Disk.nameLimit)
include allowed short

/-- An object is stored unless a directory has its name. -/
theorem put_of_open (opened : disk.Open (root.join directory))
    (free : ∀ made, prepare (root.join (ofNames [directory, name])) disk = (.ok (), made) →
      made.at? (made.place (root.join (ofNames [directory, name]))) ≠ some .directory) :
    ∃ after, put root (ofNames [directory, name]) content disk = (.ok (), after) := by
  obtain ⟨made, prepared, isDirectory⟩ := prepare_of_open plain opened
  have located := locate_of_isDirectory plain isDirectory allowed short
  have targeted : made.target (root.join (ofNames [directory, name])) false =
      .ok (made.place (root.join (ofNames [directory, name]))) := by
    rw [target_of_locate plain located]
    split
    next => rfl
    next entry isThere =>
      have notDirectory : entry ≠ .directory := by
        rintro rfl
        exact free made prepared isThere
      rw [if_neg Bool.false_ne_true, if_neg notDirectory]
  have written : Disk.write (root.join (ofNames [directory, name])) content false made =
      (.ok (), made.set (made.place (root.join (ofNames [directory, name])))
        (.file content false)) := by
    unfold Disk.write
    rw [targeted]
  exact ⟨_, by rw [put_of_prepare plain prepared, written]⟩

/-- A new object is stored, or there is one already. -/
theorem putIfAbsent_of_open (opened : disk.Open (root.join directory)) :
    ∃ written after, putIfAbsent root (ofNames [directory, name]) content disk =
      (.ok written, after) ∧ after.Open (root.join directory) := by
  obtain ⟨made, prepared, isDirectory⟩ := prepare_of_open plain opened
  have located := locate_of_isDirectory plain isDirectory allowed short
  have keeps : Disk.Keeps (fun _ => False) made
      (Disk.writeNew (root.join (ofNames [directory, name])) content made).2 :=
    (Disk.grows_writeNew _ content made).keeps fun _ => False.elim
  have stays := Disk.open_of_isDirectory (Disk.isDirectory_of_keeps keeps isDirectory)
  have targeted := target_of_locate plain located true
  rw [putIfAbsent_of_prepare plain prepared]
  unfold Disk.writeNew at stays ⊢
  rw [targeted] at stays ⊢
  cases isThere : made.at? (made.place (root.join (ofNames [directory, name]))) with
  | none =>
      simp only [isThere] at stays
      exact ⟨true, made.set (made.place (root.join (ofNames [directory, name])))
        (.file content false), by simp only, stays⟩
  | some entry =>
      simp only [isThere, if_true] at stays
      exact ⟨false, made, by simp only [if_true], stays⟩

end Key

/-- An object that is read can be replaced. -/
theorem put_of_read {old : Bytes} (plain : Plain [directory, name])
    (isRead : read root (ofNames [directory, name]) disk = .ok old) :
    ∃ after, put root (ofNames [directory, name]) content disk = (.ok (), after) := by
  obtain ⟨-, found⟩ := read_eq_ok.mp isRead
  obtain ⟨located, isFile⟩ := Disk.read_eq_ok.mp found
  obtain ⟨opened, allowed, short⟩ := open_of_locate plain located
  refine put_of_open plain allowed short opened fun made prepared isDirectory => ?_
  have keeps := keeps_prepare (root.join (ofNames [directory, name])) disk
  rw [prepared] at keeps
  rw [keeps.place] at isDirectory
  have isKept := keeps.file (disk.place (root.join (ofNames [directory, name]))) trivial
  rw [isFile, Disk.file?_of_directory isDirectory] at isKept
  cases isKept

section Depth

variable {limit : Nat} (plain : Plain [directory, name])
variable (within : disk.Within limit) (noUp : ".." ∉ Disk.route (root.join directory))
variable (bound : (disk.place (root.join directory)).key.toList.length ≤ limit)

include plain within noUp bound

theorem within_putIfAbsent :
    (putIfAbsent root (ofNames [directory, name]) content disk).2.Within limit := by
  have isPath := Action.lift_eq_ok.mpr ⟨objectPath_ofNames plain root, Eq.refl disk⟩
  have shallow := within_prepare plain within noUp bound
  rcases prepared : prepare (root.join (ofNames [directory, name])) disk with ⟨fault | _, made⟩
  · rw [prepared] at shallow
    simpa only [putIfAbsent_eq, Action.run_bind, isPath, prepared] using shallow
  · rw [prepared] at shallow
    rw [putIfAbsent_of_prepare plain prepared]
    unfold Disk.writeNew
    cases made.target (root.join (ofNames [directory, name])) true with
    | ok location => exact Disk.within_set_file shallow
    | error fault => cases fault <;> exact shallow

end Depth

/-- Where no directory lies deeper than that of a key, none has the name of the key. -/
theorem not_directory_of_within (plain : Plain [directory, name])
    (within : disk.Within (disk.place (root.join directory)).key.toList.length)
    (noUp : ".." ∉ Disk.route (root.join directory))
    (prepared : prepare (root.join (ofNames [directory, name])) disk = (.ok (), made)) :
    made.at? (made.place (root.join (ofNames [directory, name]))) ≠ some .directory := by
  intro isDirectory
  have shallow := within_prepare plain within noUp (Nat.le_refl _)
  have keeps := keeps_prepare (root.join (ofNames [directory, name])) disk
  rw [prepared] at shallow keeps
  rw [keeps.place] at isDirectory
  exact Nat.not_lt.mpr (shallow _ isDirectory) (length_key_place_lt plain root disk)

/-! ## Names that are not too long -/

theorem utf8ByteSize_ofList_le (chars : List Char) :
    (String.ofList chars).utf8ByteSize ≤ 4 * chars.length := by
  induction chars with
  | nil => exact Nat.le_refl _
  | cons char rest hypothesis =>
      have small := char.utf8Size_le_four
      rw [String.utf8ByteSize_ofList] at hypothesis ⊢
      rw [String.utf8Len_cons, List.length_cons]
      omega

theorem utf8ByteSize_text_le (id : Uuid) : id.text.utf8ByteSize ≤ 144 := by
  have length : id.chars.length ≤ 36 := by
    simp [Uuid.chars]
  have size : id.text.utf8ByteSize ≤ 4 * id.chars.length := utf8ByteSize_ofList_le id.chars
  omega

theorem utf8ByteSize_shortDigest_le (content : Bytes) :
    (shortDigest content).utf8ByteSize ≤ 64 := by
  have length : ((Sha256.hexDigest content).take 16).length ≤ 16 := List.length_take_le _ _
  have size : (shortDigest content).utf8ByteSize ≤ 4 * ((Sha256.hexDigest content).take 16).length :=
    utf8ByteSize_ofList_le _
  omega

/-- A root below which every key fits into a path. -/
structure Roomy (root : FilePath) : Prop where
  noNull : '\x00' ∉ root.text.toList
  size : root.text.utf8ByteSize + 300 ≤ Disk.pathLimit

/-- A key that has no NUL and not too many characters is allowed below a roomy root. -/
theorem Roomy.allowed (roomy : Roomy root) {directory name : String}
    (plain : FilePath.Plain [directory, name]) (noNull : '\x00' ∉ directory.toList ++ name.toList)
    (short : directory.utf8ByteSize + name.utf8ByteSize ≤ 290) :
    Disk.refusal? (root.join (ofNames [directory, name])) = none := by
  have size := roomy.size
  have noneInRoot := roomy.noNull
  have slash : "/".utf8ByteSize = 1 := by decide
  have noNullThere : ¬ (root.join (ofNames [directory, name])).text.toList.contains '\x00' := by
    rw [FilePath.join_eq plain.isAbsolute, Record.Key.ofNames_pair]
    split <;> simp_all
  have fits : ¬ Disk.pathLimit ≤ (root.join (ofNames [directory, name])).text.utf8ByteSize := by
    rw [FilePath.join_eq plain.isAbsolute, Record.Key.ofNames_pair]
    split <;> simp only [String.utf8ByteSize_append] <;> omega
  rw [Disk.refusal?, if_neg noNullThere, if_neg fits]

/-- A name of a file that has no NUL and is short enough. -/
structure Fits (name : String) : Prop where
  noNull : '\x00' ∉ name.toList
  short : name.utf8ByteSize ≤ Disk.nameLimit

theorem Roomy.allowed_certificate (roomy : Roomy root) (plain : Plain ["certificates", name])
    (fits : Fits name) : Disk.refusal? (root.join (ofNames ["certificates", name])) = none := by
  refine roomy.allowed plain (by simp [fits.noNull]) ?_
  have short := fits.short
  have size : "certificates".utf8ByteSize = 12 := by decide
  rw [Disk.nameLimit] at short
  omega

/-! ## Images and artifacts -/

section Image

open Record (Category Key.imageName Key.artifactName Key.plain_image Key.plain_artifact)
open Asset (Payload)

theorem null_not_mem_text (id : Uuid) : '\x00' ∉ id.text.toList := by
  rw [Uuid.text, String.toList_ofList]
  exact Uuid.not_mem_chars (by decide) (by decide) id

section Names

variable {category : Category} {kind extension : String} (id : Uuid)
variable (ending : '\x00' ∉ extension.toList ∧ extension.utf8ByteSize ≤ 4)

theorem assetFields_fit (member : kind ∈ category.assetFields) :
    '\x00' ∉ kind.toList ∧ kind.utf8ByteSize ≤ 30 := by
  have short : kind.utf8ByteSize ≤ 30 := by
    have common : ∀ field ∈ Category.commonAssetFields, field.utf8ByteSize ≤ 30 := by decide
    have own : ∀ field ∈ category.ownAssetFields, field.utf8ByteSize ≤ 30 := by
      cases category <;> decide
    rcases List.mem_append.mp member with isCommon | isOwn
    · exact common kind isCommon
    · exact own kind isOwn
  exact ⟨(Category.free_of_mem_assetFields member).2.2, short⟩

theorem extension_fit (payload : Payload) :
    '\x00' ∉ payload.extension.toList ∧ payload.extension.utf8ByteSize ≤ 4 := by
  unfold Payload.extension
  split <;> decide

include ending

theorem imageName_fits (member : kind ∈ category.assetFields) (content : Bytes) :
    Fits (Key.imageName id kind (shortDigest content) extension) := by
  obtain ⟨noneInKind, kindSize⟩ := assetFields_fit member
  obtain ⟨noneInExtension, extensionSize⟩ := ending
  have noneInText := null_not_mem_text id
  have noneInDigest : '\x00' ∉ (shortDigest content).toList :=
    not_mem_shortDigest (by decide) content
  have textSize := utf8ByteSize_text_le id
  have digestSize := utf8ByteSize_shortDigest_le content
  constructor
  · simp [Record.Key.toList_imageName, noneInKind, noneInExtension, noneInText, noneInDigest]
  · have start : "cert_".utf8ByteSize = 5 := by decide
    have line : "_".utf8ByteSize = 1 := by decide
    have dot : ".".utf8ByteSize = 1 := by decide
    unfold Key.imageName
    simp only [String.utf8ByteSize_append, Disk.nameLimit]
    omega

theorem artifactName_fits : Fits (Key.artifactName id extension) := by
  obtain ⟨noneInExtension, extensionSize⟩ := ending
  have textSize := utf8ByteSize_text_le id
  constructor
  · simp [Record.Key.toList_artifactName, noneInExtension, null_not_mem_text id]
  · have start : "certificate_".utf8ByteSize = 12 := by decide
    have dot : ".".utf8ByteSize = 1 := by decide
    unfold Key.artifactName
    simp only [String.utf8ByteSize_append, Disk.nameLimit]
    omega

end Names

section Fits

variable {id : Uuid} {kind extension : String} (roomy : Roomy root)
variable (opened : disk.Open (root.join "certificates"))

include roomy opened

/-- An image is stored if its directory is there or can be made, and then the directory
is there. -/
theorem saveImage_of_fits
    (plain : Plain ["certificates", Key.imageName id kind (shortDigest content) extension])
    (fits : Fits (Key.imageName id kind (shortDigest content) extension)) :
    ∃ after, saveImage root content id kind extension disk =
        (.ok (Record.Key.asset id kind (shortDigest content) extension), after) ∧
      after.Open (root.join "certificates") := by
  have current : (get : StoreAction Disk) disk = (.ok disk, disk) := rfl
  simp only [saveImage, Record.Key.asset_eq, Action.run_bind, current]
  split
  next => exact ⟨disk, rfl, opened⟩
  next =>
    obtain ⟨written, after, stored, stays⟩ :=
      putIfAbsent_of_open plain (roomy.allowed_certificate plain fits) fits.short opened
    rw [Action.run_bind, stored]
    exact ⟨after, rfl, stays⟩

/-- An artifact is stored if its directory is there or can be made, and no directory has its
name. -/
theorem saveArtifact_of_fits (plain : Plain ["certificates", Key.artifactName id extension])
    (fits : Fits (Key.artifactName id extension))
    (free : ∀ made, prepare (root.join (ofNames ["certificates", Key.artifactName id extension]))
      disk = (.ok (), made) → made.at? (made.place (root.join (ofNames
        ["certificates", Key.artifactName id extension]))) ≠ some .directory) :
    ∃ after, saveArtifact root content id extension disk =
      (.ok (Record.Key.artifact id extension), after) := by
  obtain ⟨after, stored⟩ : ∃ after,
      put root (ofNames ["certificates", Key.artifactName id extension]) content disk =
        (.ok (), after) :=
    put_of_open plain (roomy.allowed_certificate plain fits) fits.short opened free
  refine ⟨after, ?_⟩
  rw [saveArtifact, Record.Key.artifact_eq]
  exact Action.bind_eq_ok.mpr ⟨(), after, stored, rfl⟩

end Fits

/-- A PDF is stored if its directory is there or can be made, and no directory lies
deeper. -/
theorem saveArtifact_of_open (id : Uuid) (roomy : Roomy root)
    (opened : disk.Open (root.join "certificates"))
    (noUp : ".." ∉ Disk.route (root.join "certificates"))
    (within : disk.Within (disk.place (root.join "certificates")).key.toList.length) :
    ∃ after, saveArtifact root content id "pdf" disk =
      (.ok (Record.Key.artifact id "pdf"), after) := by
  have plain : Plain ["certificates", Key.artifactName id "pdf"] :=
    Key.plain_artifact id (by decide)
  exact saveArtifact_of_fits roomy opened plain (artifactName_fits id (by decide))
    fun _ prepared => not_directory_of_within plain within noUp prepared

variable {category : Category} {kind : String} (member : kind ∈ category.assetFields)
variable (payload : Payload) (id : Uuid)

include member

theorem plain_payload : FilePath.Plain ["certificates",
    Key.imageName id kind (shortDigest payload.content) payload.extension] :=
  Key.plain_image id (Category.slash_not_mem_assetFields member)
    (slash_not_mem_shortDigest payload.content) payload.slash_not_mem_extension

/-- The image of a payload is stored if its directory is there or can be made. -/
theorem saveImage_of_open (roomy : Roomy root) (opened : disk.Open (root.join "certificates")) :
    ∃ after, saveImage root payload.content id kind payload.extension disk =
        (.ok (Record.Key.asset id kind (shortDigest payload.content) payload.extension), after) ∧
      after.Open (root.join "certificates") :=
  saveImage_of_fits roomy opened (plain_payload member payload id)
    (imageName_fits id (extension_fit payload) member payload.content)

/-- An image makes no directory but its own and those above. -/
theorem within_saveImage {limit : Nat} (within : disk.Within limit)
    (noUp : ".." ∉ Disk.route (root.join "certificates"))
    (bound : (disk.place (root.join "certificates")).key.toList.length ≤ limit) :
    (saveImage root payload.content id kind payload.extension disk).2.Within limit := by
  have plain := plain_payload member payload id
  have current : (get : StoreAction Disk) disk = (.ok disk, disk) := rfl
  have shallow : (putIfAbsent root (ofNames ["certificates", Key.imageName id kind
      (shortDigest payload.content) payload.extension]) payload.content disk).2.Within limit :=
    within_putIfAbsent plain within noUp bound
  simp only [saveImage, Record.Key.asset_eq, Action.run_bind, current]
  split
  next => exact within
  next =>
    rw [Action.run_bind]
    split
    next stored => rwa [stored] at shallow
    next failed => rwa [failed] at shallow

end Image

end Store

end CertPress
