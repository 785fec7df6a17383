import CertPress.Proofs.Files.Disk
import CertPress.Proofs.Files.Path
import Mathlib.Data.String.Basic

/-!
# Idle pieces of keys

Repeated slashes and single dots inside a key do not count: the key without them
leads to the same file below any directory.
-/

namespace CertPress

namespace FilePath

/-- Two relative paths are joined in turn or as one. -/
theorem join_join {path : FilePath} {first second : String} (filled : first ≠ "")
    (relative : (⟨first⟩ : FilePath).isAbsolute = false)
    (noSlash : (⟨first⟩ : FilePath).endsWithSlash = false)
    (secondRelative : (⟨second⟩ : FilePath).isAbsolute = false) :
    (path.join first).join second = path.join (first ++ "/" ++ second) := by
  have wholeRelative : (⟨first ++ "/" ++ second⟩ : FilePath).isAbsolute = false := by
    obtain ⟨char, rest, chars⟩ : ∃ char rest, first.toList = char :: rest :=
      List.exists_cons_of_ne_nil (by simpa using filled)
    simpa [isAbsolute, chars] using relative
  have someText : (path.join first).text ≠ "" := by
    rw [join_eq relative]
    simp [filled]
  have noSlashAfter : (path.join first).endsWithSlash = false := by
    rw [endsWithSlash_join filled relative, noSlash]
  rw [join_eq secondRelative, if_neg (by simp [someText, noSlashAfter]), join_eq relative,
    join_eq wholeRelative]
  simp [String.append_assoc]

/-- What may be the name of a file: it is not empty, and it has no slash. -/
def IsName (name : String) : Prop := name.toList ≠ [] ∧ '/' ∉ name.toList

/-- Names with slashes between them. -/
def ofNames (names : List String) : String :=
  String.ofList (Text.join '/' (names.map String.toList))

theorem IsName.endsWithSlash {name : String} (isName : IsName name) :
    (⟨name⟩ : FilePath).endsWithSlash = false := by
  rw [FilePath.endsWithSlash, beq_eq_false_iff_ne]
  exact fun atEnd => isName.2 (List.mem_of_getLast? atEnd)

theorem isAbsolute_ofNames {names : List String} (isName : ∀ name ∈ names, IsName name) :
    (⟨ofNames names⟩ : FilePath).isAbsolute = false := by
  cases names with
  | nil => rfl
  | cons name rest =>
      obtain ⟨filled, free⟩ := isName name (.head _)
      obtain ⟨first, others, chars⟩ := List.exists_cons_of_ne_nil filled
      have notSlash : first ≠ '/' := by
        rintro rfl
        exact free (chars ▸ .head _)
      cases rest <;> simp [isAbsolute, ofNames, Text.join, chars, notSlash]

/-- Names that are joined one by one are joined with slashes between them. -/
theorem foldl_join {names : List String} (some : names ≠ [])
    (isName : ∀ name ∈ names, IsName name) (path : FilePath) :
    names.foldl join path = path.join (ofNames names) := by
  induction names generalizing path with
  | nil => exact absurd rfl some
  | cons name rest hypothesis =>
      cases rest with
      | nil => simp [ofNames, Text.join]
      | cons next others =>
          have named := isName name (.head _)
          have restNamed := fun other inRest => isName other (.tail name inRest)
          have relative : (⟨name⟩ : FilePath).isAbsolute = false := by
            simpa [ofNames, Text.join] using
              isAbsolute_ofNames (List.forall_mem_singleton.mpr named)
          have whole : ofNames (name :: next :: others) =
              name ++ "/" ++ ofNames (next :: others) := by
            apply String.toList_injective
            simp [ofNames, Text.join]
          rw [List.foldl_cons, hypothesis (List.cons_ne_nil _ _) restNamed, whole,
            join_join (by simpa using named.1) relative named.endsWithSlash
              (isAbsolute_ofNames restNamed)]

/-- A key with its names only. -/
def tidy (key : String) : String := ofNames (⟨key⟩ : FilePath).names

theorem toList_tidy (key : String) :
    (tidy key).toList = Text.join '/' ((⟨key⟩ : FilePath).names.map String.toList) := by
  rw [tidy, ofNames, String.toList_ofList]

theorem map_toList_names (path : FilePath) :
    path.names.map String.toList = path.pieces.filter (!isIdle ·) := by
  simp [names, Function.comp_def]

theorem slash_not_mem_name {path : FilePath} {name : String} (member : name ∈ path.names) :
    '/' ∉ name.toList := by
  have inPieces : name.toList ∈ path.pieces.filter (!isIdle ·) :=
    map_toList_names path ▸ List.mem_map_of_mem member
  exact Text.not_mem_of_mem_split (List.mem_filter.mp inPieces).1

theorem isName_of_mem_names {path : FilePath} {name : String} (member : name ∈ path.names) :
    IsName name :=
  ⟨ne_empty_of_mem_names member, slash_not_mem_name member⟩

theorem isAbsolute_tidy (key : String) : (⟨tidy key⟩ : FilePath).isAbsolute = false :=
  isAbsolute_ofNames fun _ => isName_of_mem_names

theorem ne_dot_of_mem_names {path : FilePath} {name : String} (member : name ∈ path.names) :
    name.toList ≠ ['.'] := by
  have inPieces : name.toList ∈ path.pieces.filter (!isIdle ·) :=
    map_toList_names path ▸ List.mem_map_of_mem member
  intro dot
  rw [dot] at inPieces
  simp [isIdle] at inPieces

theorem tidy_sublist (key : String) : (tidy key).toList.Sublist key.toList := by
  have whole : Text.join '/' (⟨key⟩ : FilePath).pieces = key.toList := Text.join_split _ _
  rw [toList_tidy, map_toList_names, ← whole]
  exact Text.join_sublist List.filter_sublist

section Key

variable {key : String} (filled : key ≠ "") (inner : (⟨key⟩ : FilePath).isInner)

include filled inner

/-- The first piece of a key is a name. -/
theorem exists_pieces_cons : ∃ char piece rest,
    (⟨key⟩ : FilePath).pieces = (char :: piece) :: rest ∧ char ≠ '/' ∧
      isIdle (char :: piece) = false := by
  obtain ⟨relative, notHere, -⟩ := isInner_iff.mp inner
  obtain ⟨char, others, chars⟩ : ∃ char others, key.toList = char :: others :=
    List.exists_cons_of_ne_nil (by simpa using filled)
  have notSlash : char ≠ '/' := by simpa [isAbsolute, chars] using relative
  obtain ⟨piece, rest, pieces_eq⟩ : ∃ piece rest,
      (⟨key⟩ : FilePath).pieces = (char :: piece) :: rest := by
    rw [pieces, chars, Text.split, if_neg notSlash]
    split
    · exact ⟨_, _, rfl⟩
    · exact ⟨_, _, rfl⟩
  exact ⟨char, piece, rest, pieces_eq, notSlash,
    by simpa [startsHere, pieces_eq, isIdle] using notHere⟩

/-- The names of a key, of which there is at least one. -/
theorem exists_names_cons : ∃ char piece rest,
    (⟨key⟩ : FilePath).names.map String.toList = (char :: piece) :: rest ∧ char ≠ '/' ∧
      char :: piece ≠ ['.'] := by
  obtain ⟨char, piece, rest, pieces_eq, notSlash, isName⟩ := exists_pieces_cons filled inner
  refine ⟨char, piece, rest.filter (!isIdle ·), ?_, notSlash, by simpa [isIdle] using isName⟩
  rw [map_toList_names, pieces_eq, List.filter_cons_of_pos (by simp [isName])]

theorem names_ne_nil : (⟨key⟩ : FilePath).names ≠ [] := by
  obtain ⟨char, piece, rest, names_eq, -⟩ := exists_names_cons filled inner
  intro none
  simp [none] at names_eq

theorem steps_ne_nil : (⟨key⟩ : FilePath).steps ≠ [] := by
  obtain ⟨char, piece, rest, pieces_eq, -⟩ := exists_pieces_cons filled inner
  simp [steps, pieces_eq]

omit filled in
theorem up_not_mem_steps : ".." ∉ (⟨key⟩ : FilePath).steps := by
  intro member
  obtain ⟨piece, inPieces, isUp⟩ := List.mem_map.mp member
  obtain rfl : piece = ['.', '.'] := String.ofList_injective isUp
  exact (isInner_iff.mp inner).2.2 (up_mem_names_iff.mpr (List.mem_filter.mp inPieces).1)

/-- Joining the names of a key one by one is joining the key without its idle
pieces. -/
theorem foldl_join_names (path : FilePath) :
    (⟨key⟩ : FilePath).names.foldl join path = path.join (tidy key) :=
  foldl_join (names_ne_nil filled inner) (fun _ => isName_of_mem_names) path

/-- The path of a key has a parent. -/
theorem exists_parent?_join (root : FilePath) :
    ∃ above, (root.join key).parent? = some above := by
  obtain ⟨char, piece, rest, isPieces, -, isName⟩ := exists_pieces_cons filled inner
  have member : char :: piece ∈ (root.join key).pieces := by
    have inKey : char :: piece ∈ (⟨key⟩ : FilePath).pieces.filter (!isIdle ·) :=
      List.mem_filter.mpr ⟨isPieces ▸ List.mem_cons_self, by simp [isName]⟩
    have joined : (root.join key).pieces.filter (!isIdle ·) =
        root.pieces.filter (!isIdle ·) ++ (⟨key⟩ : FilePath).pieces.filter (!isIdle ·) :=
      filter_pieces_join root rfl (isInner_iff.mp inner).1
    exact (List.mem_filter.mp (joined ▸ List.mem_append_right _ inKey)).1
  cases dropped : dropIdle (root.join key).pieces.reverse with
  | nil => exact absurd dropped (dropIdle_ne_nil (List.mem_reverse.mpr member) isName)
  | cons last before =>
      rw [parent?, dropped]
      dsimp only
      split
      next => exact ⟨_, rfl⟩
      next => exact ⟨_, rfl⟩

theorem pieces_tidy : (⟨tidy key⟩ : FilePath).pieces =
    (⟨key⟩ : FilePath).names.map String.toList := by
  obtain ⟨char, piece, rest, names_eq, -⟩ := exists_names_cons filled inner
  rw [pieces, toList_tidy, Text.split_join]
  · simp [names_eq]
  · simpa using fun name => slash_not_mem_name

theorem names_tidy : (⟨tidy key⟩ : FilePath).names = (⟨key⟩ : FilePath).names := by
  have kept : ((⟨key⟩ : FilePath).names.map String.toList).filter (!isIdle ·) =
      (⟨key⟩ : FilePath).names.map String.toList := by
    rw [map_toList_names, List.filter_filter]
    simp
  rw [names, pieces_tidy filled inner, kept, List.map_map]
  simp [Function.comp_def]

/-- A key leads through the same names without its idle pieces. -/
theorem names_join_tidy (path : FilePath) :
    (path.join (tidy key)).names = (path.join key).names := by
  rw [names_join path (isAbsolute_tidy key), names_join path (isInner_iff.mp inner).1,
    names_tidy filled inner]

/-- A key without its idle pieces is a key. -/
theorem isInner_tidy : tidy key ≠ "" ∧ (⟨tidy key⟩ : FilePath).isInner := by
  obtain ⟨char, piece, rest, names_eq, -, notHere⟩ := exists_names_cons filled inner
  have pieces_eq := pieces_tidy filled inner
  rw [names_eq] at pieces_eq
  constructor
  · intro empty
    rw [empty] at pieces_eq
    exact absurd pieces_eq (by simp [pieces, Text.split])
  · have startsAtName : (⟨tidy key⟩ : FilePath).startsHere = false := by
      simpa [startsHere, pieces_eq] using notHere
    rw [isInner_iff, names_tidy filled inner]
    exact ⟨isAbsolute_tidy key, startsAtName, (isInner_iff.mp inner).2.2⟩

end Key

end FilePath

namespace Disk

variable {disk : Disk} {here found : Location}

/-- A dot on the way leads nowhere else. -/
theorem walk_filter {names : List String} (walked : names.foldlM disk.step here = .ok found) :
    (names.filter (· != ".")).foldlM disk.step here = .ok found := by
  induction names generalizing here with
  | nil => exact walked
  | cons name rest hypothesis =>
      rw [List.foldlM_cons] at walked
      obtain ⟨next, stepped, walkedOn⟩ := Action.except_bind_eq_ok.mp walked
      by_cases isDot : name = "."
      · subst isDot
        obtain rfl : here = next := by
          have directory := step_eq_ok stepped
          simpa [step, directory] using stepped
        rw [List.filter_cons_of_neg (by simp)]
        exact hypothesis walkedOn
      · rw [List.filter_cons_of_pos (by simpa using isDot), List.foldlM_cons]
        exact Action.except_bind_eq_ok.mpr ⟨next, stepped, hypothesis walkedOn⟩

/-- A dot leads nowhere else from a directory, and so does every one that stands
before a name. -/
theorem walk_of_filter {names : List String} (last : names.getLast? ≠ some ".")
    (walked : (names.filter (· != ".")).foldlM disk.step here = .ok found) :
    names.foldlM disk.step here = .ok found := by
  induction names generalizing here with
  | nil => exact walked
  | cons name rest hypothesis =>
      have restLast : rest.getLast? ≠ some "." := by
        cases rest with
        | nil => simp
        | cons next others => rwa [List.getLast?_cons_cons] at last
      rw [List.foldlM_cons]
      by_cases isDot : name = "."
      · subst isDot
        rw [List.filter_cons_of_neg (by simp)] at walked
        have directory : disk.at? here = some .directory := by
          cases kept : rest.filter (· != ".") with
          | nil =>
              rcases List.eq_nil_or_concat rest with rfl | ⟨front, ending, rfl⟩
              · exact absurd rfl last
              · have notDot : ending ≠ "." := by simpa using restLast
                rw [List.concat_eq_append, List.filter_append,
                  List.filter_cons_of_pos (by simpa using notDot)] at kept
                simp at kept
          | cons next others =>
              rw [kept, List.foldlM_cons] at walked
              obtain ⟨_, stepped, -⟩ := Action.except_bind_eq_ok.mp walked
              exact step_eq_ok stepped
        have stays : disk.step here "." = .ok here := by simp [step, directory]
        exact Action.except_bind_eq_ok.mpr ⟨here, stays, hypothesis restLast walked⟩
      · rw [List.filter_cons_of_pos (by simpa using isDot), List.foldlM_cons] at walked
        obtain ⟨next, stepped, walkedOn⟩ := Action.except_bind_eq_ok.mp walked
        exact Action.except_bind_eq_ok.mpr ⟨next, stepped, hypothesis restLast walkedOn⟩

/-- A walk that ends with a dot ends at a directory. -/
theorem directory_of_walk {names : List String} (last : names.getLast? = some ".")
    (walked : names.foldlM disk.step here = .ok found) : disk.at? found = some .directory := by
  obtain ⟨front, rfl⟩ := List.getLast?_eq_some_iff.mp last
  rw [List.foldlM_append] at walked
  obtain ⟨place, -, stepped⟩ := Action.except_bind_eq_ok.mp walked
  have atDot : disk.step place "." = .ok found := by simpa using stepped
  have directory := step_eq_ok atDot
  obtain rfl : place = found := by simpa [step, directory] using atDot
  exact directory

/-- Less text is refused less. -/
theorem refusal?_of_sublist {path less : FilePath}
    (sub : less.text.toList.Sublist path.text.toList) (allowed : refusal? path = none) :
    refusal? less = none := by
  have size : less.text.utf8ByteSize ≤ path.text.utf8ByteSize := by
    rw [← String.ofList_toList (s := less.text), ← String.ofList_toList (s := path.text),
      String.utf8ByteSize_ofList, String.utf8ByteSize_ofList]
    exact String.utf8Len_le_of_sublist sub
  unfold refusal? at allowed ⊢
  split at allowed
  next => exact absurd allowed (by simp)
  next noNull =>
    split at allowed
    next => exact absurd allowed (by simp)
    next short =>
      have lessNull : ¬ less.text.toList.contains '\x00' := by
        rw [List.contains_eq_mem, decide_eq_true_eq] at noNull ⊢
        exact fun null => noNull (sub.subset null)
      rw [if_neg lessNull, if_neg (by omega)]

end Disk

namespace FilePath

theorem join_text_sublist {path : FilePath} {less other : String}
    (relative : (⟨other⟩ : FilePath).isAbsolute = false)
    (lessRelative : (⟨less⟩ : FilePath).isAbsolute = false)
    (sub : less.toList.Sublist other.toList) :
    (path.join less).text.toList.Sublist (path.join other).text.toList := by
  rw [join_eq relative, join_eq lessRelative, String.toList_append, String.toList_append]
  exact sub.append_left _

end FilePath

namespace Disk

/-- The names that are followed from a directory on. -/
theorem route_join (path : FilePath) {other : String} (filled : other ≠ "")
    (relative : (⟨other⟩ : FilePath).isAbsolute = false) :
    route (path.join other) =
      (path.pieces.filter (!List.isEmpty ·)).map String.ofList ++ route ⟨other⟩ := by
  rw [route, route, FilePath.endsWithSlash_join filled relative,
    FilePath.filter_pieces_join path (by rfl) relative, List.map_append]
  split <;> simp

/-- A relative path is followed from the place that the path it is joined to leads to. -/
theorem locate_join_eq_ok {disk : Disk} {found : Location} {root : FilePath} {key : String}
    (filled : key ≠ "") (relative : (⟨key⟩ : FilePath).isAbsolute = false) :
    disk.locate (root.join key) = .ok found ↔
      refusal? (root.join key) = none ∧ ∃ home,
        ((root.pieces.filter (!List.isEmpty ·)).map String.ofList).foldlM disk.step
          (disk.start root) = .ok home ∧
        (route ⟨key⟩).foldlM disk.step home = .ok found := by
  have some : (root.join key).text ≠ "" := by
    rw [FilePath.join_eq relative]
    simp [filled]
  have start_eq : disk.start (root.join key) = disk.start root := by
    rw [start, start, FilePath.isAbsolute_join_eq relative]
  unfold locate
  rw [if_neg some, route_join root filled relative, start_eq, List.foldlM_append]
  cases refused : refusal? (root.join key) with
  | some fault => simp
  | none => simp [Action.except_bind_eq_ok]

section Key

variable {key : String} (filled : key ≠ "") (inner : (⟨key⟩ : FilePath).isInner)

/-- The names of a key are followed, and dots besides. -/
theorem filter_route (key : String) :
    (route ⟨key⟩).filter (· != ".") = (⟨key⟩ : FilePath).names := by
  rw [route]
  split
  · rw [List.filter_append, ← FilePath.steps, FilePath.filter_steps]
    simp
  · exact FilePath.filter_steps _

include inner in
/-- A key does not lead up. -/
theorem up_not_mem_route : ".." ∉ route ⟨key⟩ := by
  intro isUp
  have kept : ".." ∈ (route ⟨key⟩).filter (· != ".") := List.mem_filter.mpr ⟨isUp, by decide⟩
  rw [filter_route] at kept
  exact (FilePath.isInner_iff.mp inner).2.2 kept

include filled inner

theorem route_ne_nil : route ⟨key⟩ ≠ [] := by
  intro empty
  have named := FilePath.names_ne_nil filled inner
  rw [← filter_route, empty] at named
  exact named rfl

theorem route_tidy : route ⟨FilePath.tidy key⟩ = (⟨key⟩ : FilePath).names := by
  have pieces_eq := FilePath.pieces_tidy filled inner
  have named : ∀ piece ∈ (⟨key⟩ : FilePath).names.map String.toList, piece ≠ [] := by
    simpa using fun name => FilePath.ne_empty_of_mem_names
  have noSlash : (⟨FilePath.tidy key⟩ : FilePath).endsWithSlash = false := by
    rw [Bool.eq_false_iff]
    intro slash
    exact named [] (pieces_eq ▸ FilePath.nil_mem_pieces slash) rfl
  have kept : ((⟨key⟩ : FilePath).names.map String.toList).filter (!List.isEmpty ·) =
      (⟨key⟩ : FilePath).names.map String.toList := by
    rw [List.filter_eq_self]
    intro piece member
    simpa using named piece member
  rw [route, noSlash, if_neg Bool.false_ne_true, pieces_eq, kept, List.map_map]
  simp [Function.comp_def]

/-- A key leads to the same place without its idle pieces. -/
theorem locate_join_tidy {disk : Disk} {root : FilePath} {found : Location}
    (located : disk.locate (root.join key) = .ok found) :
    disk.locate (root.join (FilePath.tidy key)) = .ok found := by
  have relative := (FilePath.isInner_iff.mp inner).1
  have tidyRelative := FilePath.isAbsolute_tidy key
  have tidyFilled := (FilePath.isInner_tidy filled inner).1
  obtain ⟨allowed, home, walked, walkedOn⟩ := (locate_join_eq_ok filled relative).mp located
  have fewer : (root.join (FilePath.tidy key)).text.toList.Sublist
      (root.join key).text.toList :=
    FilePath.join_text_sublist relative tidyRelative (FilePath.tidy_sublist key)
  refine (locate_join_eq_ok tidyFilled tidyRelative).mpr
    ⟨refusal?_of_sublist fewer allowed, home, walked, ?_⟩
  rw [route_tidy filled inner, ← filter_route key]
  exact walk_filter walkedOn

/-- With its idle pieces a key leads to the same place, if the path is not refused and
does not end with an idle piece. -/
theorem locate_join_of_tidy {disk : Disk} {root : FilePath} {found : Location}
    (allowed : refusal? (root.join key) = none) (last : (route ⟨key⟩).getLast? ≠ some ".")
    (located : disk.locate (root.join (FilePath.tidy key)) = .ok found) :
    disk.locate (root.join key) = .ok found := by
  have relative := (FilePath.isInner_iff.mp inner).1
  have tidyRelative := FilePath.isAbsolute_tidy key
  have tidyFilled := (FilePath.isInner_tidy filled inner).1
  obtain ⟨-, home, walked, walkedOn⟩ := (locate_join_eq_ok tidyFilled tidyRelative).mp located
  rw [route_tidy filled inner, ← filter_route key] at walkedOn
  exact (locate_join_eq_ok filled relative).mpr
    ⟨allowed, home, walked, walk_of_filter last walkedOn⟩

end Key

end Disk

namespace Store

variable {root : FilePath} {key : String} {disk : Disk}

/-- The file that a key names is found without the idle pieces of the key. -/
theorem find_of_contains (contained : contains root key disk) :
    ∃ location content executable,
      disk.find (root.join key) = .ok (location, .file content executable) ∧
      disk.find (root.join (FilePath.tidy key)) = .ok (location, .file content executable) := by
  obtain ⟨⟨filled, inner⟩, isFile⟩ := contains_iff.mp contained
  obtain ⟨location, content, executable, found⟩ := Disk.isFile_iff.mp isFile
  obtain ⟨located, isThere⟩ := Disk.find_eq_ok.mp found
  exact ⟨location, content, executable, found,
    Disk.find_eq_ok.mpr ⟨Disk.locate_join_tidy filled inner located, isThere⟩⟩

theorem contains_tidy (contained : contains root key disk) :
    contains root (FilePath.tidy key) disk := by
  obtain ⟨location, content, executable, -, found⟩ := find_of_contains contained
  obtain ⟨⟨filled, inner⟩, -⟩ := contains_iff.mp contained
  exact contains_iff.mpr ⟨FilePath.isInner_tidy filled inner,
    Disk.isFile_iff.mpr ⟨location, content, executable, found⟩⟩

/-- The way to a file does not end with a dot. -/
theorem getLast?_route_of_contains (contained : contains root key disk) :
    (Disk.route ⟨key⟩).getLast? ≠ some "." := by
  obtain ⟨location, content, executable, found, -⟩ := find_of_contains contained
  obtain ⟨⟨filled, inner⟩, -⟩ := contains_iff.mp contained
  obtain ⟨located, isThere⟩ := Disk.find_eq_ok.mp found
  obtain ⟨-, home, -, walked⟩ :=
    (Disk.locate_join_eq_ok filled (FilePath.isInner_iff.mp inner).1).mp located
  intro last
  have directory := Disk.directory_of_walk last walked
  rw [isThere] at directory
  exact absurd directory (by simp)

/-- A key that names a file below some root names the file at the same place below
another one that has it. -/
theorem contains_of_tidy {other : FilePath} (contained : contains other key disk)
    (allowed : Disk.refusal? (root.join key) = none)
    (tidyContained : contains root (FilePath.tidy key) disk) : contains root key disk := by
  obtain ⟨⟨filled, inner⟩, -⟩ := contains_iff.mp contained
  obtain ⟨-, isFile⟩ := contains_iff.mp tidyContained
  obtain ⟨location, content, executable, found⟩ := Disk.isFile_iff.mp isFile
  obtain ⟨located, isThere⟩ := Disk.find_eq_ok.mp found
  have withIdle := Disk.locate_join_of_tidy filled inner allowed
    (getLast?_route_of_contains contained) located
  exact contains_iff.mpr ⟨⟨filled, inner⟩, Disk.isFile_iff.mpr
    ⟨location, content, executable, Disk.find_eq_ok.mpr ⟨withIdle, isThere⟩⟩⟩

/-- A key that names a file ends with a name. -/
theorem getLast?_tidy (contained : contains root key disk) :
    (FilePath.tidy key).toList.getLast? = key.toList.getLast? := by
  obtain ⟨⟨filled, -⟩, -⟩ := contains_iff.mp contained
  have last := getLast?_route_of_contains contained
  have noSlash : (⟨key⟩ : FilePath).endsWithSlash = false := by
    rw [Bool.eq_false_iff]
    intro slash
    apply last
    rw [Disk.route, if_pos slash, List.getLast?_concat]
  rw [Disk.route, if_neg (by simp [noSlash])] at last
  obtain ⟨front, piece, pieces_eq⟩ : ∃ front piece, (⟨key⟩ : FilePath).pieces = front ++ [piece] :=
    ⟨_, _, (List.dropLast_concat_getLast (Text.split_ne_nil '/' key.toList)).symm⟩
  have key_eq : key.toList = Text.join '/' (front ++ [piece]) := by
    rw [← pieces_eq, FilePath.pieces, Text.join_split]
  have some : piece ≠ [] := by
    rintro rfl
    rcases eq_or_ne front [] with rfl | filledFront
    · exact filled (String.toList_injective key_eq)
    · rw [Text.join_concat filledFront] at key_eq
      simp [FilePath.endsWithSlash, key_eq] at noSlash
  have notDot : piece ≠ ['.'] := by
    rintro rfl
    apply last
    simp [pieces_eq]
  rw [FilePath.toList_tidy, FilePath.map_toList_names, pieces_eq, List.filter_append,
    List.filter_cons_of_pos (by simp [FilePath.isIdle, some, notDot]), List.filter_nil,
    Text.getLast?_join_concat '/' _ some, key_eq, Text.getLast?_join_concat '/' _ some]

end Store

end CertPress
