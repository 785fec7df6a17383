import CertPress.Proofs.Text.Percent
import CertPress.Proofs.Text.Pieces
import CertPress.Url.Path

/-!
# Names on the way to a file

Joining a relative path adds its names, and the parent of a path leads along the same
way, but not as far.  The address of a file leads through the names of its path.
-/

namespace CertPress.FilePath

theorem names_eq (path : FilePath) :
    path.names = ((Text.split '/' path.text.toList).filter (!isIdle ·)).map String.ofList := rfl

theorem isInner_iff {path : FilePath} :
    path.isInner ↔ path.isAbsolute = false ∧ path.startsHere = false ∧ ".." ∉ path.names := by
  simp [isInner, and_assoc]

/-- A relative path has no slashes at its start. -/
theorem withoutLeading_eq_self {text : String} (relative : (⟨text⟩ : FilePath).isAbsolute = false) :
    Text.withoutLeading '/' text = text := by
  rw [isAbsolute, beq_eq_false_iff_ne] at relative
  rw [Text.withoutLeading, Text.dropLeading]
  cases chars : text.toList with
  | nil => rw [← String.ofList_toList (s := text), chars]; rfl
  | cons first rest =>
      have other : (first == '/') = false := by simpa [chars] using relative
      rw [List.dropWhile_cons_of_neg (by simp [other]), ← chars, String.ofList_toList]

/-- A relative path adds its pieces to those of the path that it is joined to, where
empty ones do not count. -/
theorem filter_pieces_join (path : FilePath) {other : String} {keep : List Char → Bool}
    (notEmpty : keep [] = false) (relative : (⟨other⟩ : FilePath).isAbsolute = false) :
    (path.join other).pieces.filter keep =
      path.pieces.filter keep ++ (⟨other⟩ : FilePath).pieces.filter keep := by
  unfold join
  rw [relative, if_neg Bool.false_ne_true]
  split
  next atEnd =>
    rw [Bool.or_eq_true, decide_eq_true_eq, endsWithSlash, beq_iff_eq] at atEnd
    rcases atEnd with empty | slash
    · simp [pieces, empty, Text.split, notEmpty]
    · obtain ⟨front, chars⟩ := List.getLast?_eq_some_iff.mp slash
      have joined : (path.text ++ other).toList = front ++ '/' :: other.toList := by simp [chars]
      rw [pieces, pieces, pieces, joined, chars, Text.split_append, Text.split_append]
      simp [Text.split, notEmpty]
  next =>
    have joined : (path.text ++ "/" ++ other).toList = path.text.toList ++ '/' :: other.toList := by
      simp
    rw [pieces, pieces, pieces, joined, Text.split_append, List.filter_append]

/-- A relative path adds its names to those of the path that it is joined to. -/
theorem names_join (path : FilePath) {other : String}
    (relative : (⟨other⟩ : FilePath).isAbsolute = false) :
    (path.join other).names = path.names ++ (⟨other⟩ : FilePath).names := by
  rw [names, filter_pieces_join path (by rfl) relative, List.map_append, names, names]

theorem isAbsolute_join {path : FilePath} (absolute : path.isAbsolute) (other : String) :
    (path.join other).isAbsolute := by
  rw [isAbsolute, beq_iff_eq] at absolute
  unfold join
  split
  next rooted => exact rooted
  next =>
    split <;> simp [isAbsolute, List.head?_append, absolute]

section Join

variable {path : FilePath} {other : String}

theorem join_eq (relative : (⟨other⟩ : FilePath).isAbsolute = false) :
    path.join other =
      ⟨(if path.text = "" || path.endsWithSlash then path.text else path.text ++ "/") ++
        other⟩ := by
  rw [join, relative, if_neg Bool.false_ne_true]
  split <;> rfl

theorem isAbsolute_join_eq (relative : (⟨other⟩ : FilePath).isAbsolute = false) :
    (path.join other).isAbsolute = path.isAbsolute := by
  rw [join_eq relative]
  by_cases empty : path.text = ""
  · simpa [isAbsolute, empty] using relative
  · obtain ⟨char, rest, chars⟩ : ∃ char rest, path.text.toList = char :: rest :=
      List.exists_cons_of_ne_nil (by simpa using empty)
    split <;> simp [isAbsolute, chars]

theorem endsWithSlash_join (filled : other ≠ "")
    (relative : (⟨other⟩ : FilePath).isAbsolute = false) :
    (path.join other).endsWithSlash = (⟨other⟩ : FilePath).endsWithSlash := by
  have chars : other.toList ≠ [] := by simpa using filled
  simp [join_eq relative, endsWithSlash, List.getLast?_append, List.getLast?_eq_some_getLast chars]

/-- A path with a slash at its end has an empty piece. -/
theorem nil_mem_pieces (slash : path.endsWithSlash) : [] ∈ path.pieces := by
  rw [endsWithSlash, beq_iff_eq] at slash
  obtain ⟨front, chars⟩ := List.getLast?_eq_some_iff.mp slash
  rw [pieces, chars, Text.split_append]
  simp [Text.split]

end Join

/-! ## Steps of a path -/

/-- The names and dots between the slashes of a path. -/
def steps (path : FilePath) : List String :=
  (path.pieces.filter (!List.isEmpty ·)).map String.ofList

theorem steps_join (path : FilePath) {other : String}
    (relative : (⟨other⟩ : FilePath).isAbsolute = false) :
    (path.join other).steps = path.steps ++ (⟨other⟩ : FilePath).steps := by
  rw [steps, filter_pieces_join path (by rfl) relative, List.map_append, steps, steps]

section Free

variable {name : String} (free : '/' ∉ name.toList)
include free

theorem isAbsolute_of_free : (⟨name⟩ : FilePath).isAbsolute = false := by
  cases chars : name.toList with
  | nil => simp [isAbsolute, chars]
  | cons char rest =>
      have other : char ≠ '/' := fun same => free (chars ▸ same ▸ .head _)
      simp [isAbsolute, chars, other]

/-- A name without a slash is a single step. -/
theorem steps_of_free (filled : name ≠ "") : (⟨name⟩ : FilePath).steps = [name] := by
  rw [steps, pieces, Text.split_eq_singleton free]
  simp [filled]

end Free

/-- The names among pieces are their steps without the dots. -/
theorem filter_map_pieces (pieces : List (List Char)) :
    ((pieces.filter (!List.isEmpty ·)).map String.ofList).filter (· != ".") =
      (pieces.filter (!isIdle ·)).map String.ofList := by
  rw [List.filter_map, List.filter_filter]
  congr 2
  funext piece
  have dot : String.ofList piece = "." ↔ piece = ['.'] := by
    rw [← String.ofList_inj]
  rw [Bool.eq_iff_iff]
  simp [isIdle, dot, and_comm]

/-- The names of a path are its steps but the dots. -/
theorem filter_steps (path : FilePath) : path.steps.filter (· != ".") = path.names :=
  filter_map_pieces path.pieces

theorem up_mem_names_iff {path : FilePath} : ".." ∈ path.names ↔ ['.', '.'] ∈ path.pieces := by
  rw [names, List.mem_map]
  constructor
  · rintro ⟨piece, member, isUp⟩
    obtain rfl : piece = ['.', '.'] := String.ofList_injective isUp
    exact (List.mem_filter.mp member).1
  · exact fun member => ⟨_, List.mem_filter.mpr ⟨member, rfl⟩, rfl⟩

/-- What is joined to a path does not change how it starts. -/
theorem startsHere_join {key : String} (inner : (⟨key⟩ : FilePath).isInner) (root : FilePath) :
    (root.join key).startsHere = root.startsHere := by
  obtain ⟨relative, notHere, -⟩ := isInner_iff.mp inner
  have front (chars : List Char) (rest : List (List Char)) :
      (Text.split '/' chars ++ rest).head? = (Text.split '/' chars).head? := by
    rw [List.head?_append, Option.or_of_isSome (by simp)]
  rw [join_eq relative]
  split
  next atEnd =>
    rw [Bool.or_eq_true, decide_eq_true_eq, endsWithSlash, beq_iff_eq] at atEnd
    rcases atEnd with empty | slash
    · have same : (root.text ++ key) = key := by simp [empty]
      rw [same, notHere, startsHere, pieces, empty]
      rfl
    · obtain ⟨before, chars⟩ := List.getLast?_eq_some_iff.mp slash
      have joined : (root.text ++ key).toList = before ++ '/' :: key.toList := by simp [chars]
      rw [startsHere, startsHere, pieces, pieces, joined, chars, Text.split_append,
        Text.split_append, front, front]
  next =>
    have joined : (root.text ++ "/" ++ key).toList = root.text.toList ++ '/' :: key.toList := by
      simp
    rw [startsHere, startsHere, pieces, pieces, joined, Text.split_append, front]

/-- Only idle pieces are dropped. -/
theorem exists_append_dropIdle (reversed : List (List Char)) :
    ∃ behind, reversed = behind ++ dropIdle reversed ∧ behind.filter (!isIdle ·) = [] := by
  induction reversed with
  | nil => exact ⟨[], rfl, rfl⟩
  | cons piece rest hypothesis =>
      cases rest with
      | nil =>
          rw [dropIdle]
          split
          next => exact ⟨[], rfl, rfl⟩
          next =>
            split
            next isEmpty => exact ⟨[piece], by simp, by simp [isIdle, isEmpty]⟩
            next => exact ⟨[], rfl, rfl⟩
      | cons next others =>
          rw [dropIdle]
          split
          next idle =>
            obtain ⟨behind, whole, allIdle⟩ := hypothesis
            refine ⟨piece :: behind, congrArg (piece :: ·) whole, ?_⟩
            rwa [List.filter_cons_of_neg (by simp [idle])]
          next => exact ⟨[], rfl, rfl⟩
          · simp

/-- Something is left when idle pieces are dropped if there is a name. -/
theorem dropIdle_ne_nil {reversed : List (List Char)} {name : List Char}
    (member : name ∈ reversed) (isName : isIdle name = false) : dropIdle reversed ≠ [] := by
  induction reversed with
  | nil => exact absurd member List.not_mem_nil
  | cons piece rest hypothesis =>
      cases rest with
      | nil =>
          obtain rfl := List.mem_singleton.mp member
          simp only [isIdle, Bool.or_eq_false_iff] at isName
          simp [dropIdle, isName]
      | cons next others =>
          rw [dropIdle]
          split
          next idle =>
            refine hypothesis ((List.mem_cons.mp member).resolve_left ?_)
            rintro rfl
            rw [isName] at idle
            cases idle
          next => exact List.cons_ne_nil _ _
          · simp

theorem isAbsolute_of_pieces {path : FilePath} {first : List Char} {rest : List (List Char)}
    (pieces : path.pieces = first :: rest) (more : rest ≠ []) :
    path.isAbsolute = first.isEmpty := by
  have free : '/' ∉ first := Text.not_mem_of_mem_split (pieces ▸ List.mem_cons_self)
  have chars : path.text.toList = first ++ '/' :: Text.join '/' rest := by
    rw [← Text.join_split '/' path.text.toList, ← FilePath.pieces, pieces]
    cases rest with
    | nil => exact absurd rfl more
    | cons next others => rfl
  rw [isAbsolute, chars]
  cases first with
  | nil => rfl
  | cons char others =>
      have other : char ≠ '/' := fun same => free (same ▸ .head _)
      simp [other]

/-- Pieces that are joined are those of the path. -/
theorem pieces_join_pieces {front : List (List Char)} (filled : front ≠ [])
    (free : ∀ piece ∈ front, '/' ∉ piece) :
    (⟨String.ofList (Text.join '/' front)⟩ : FilePath).pieces = front := by
  rw [pieces, String.toList_ofList, Text.split_join filled free]

/-- The parent of a path has the pieces in front, and at most one name is not among them. -/
theorem exists_pieces_of_parent? {path above : FilePath} (isParent : path.parent? = some above) :
    ∃ front later, path.pieces = front ++ later ∧ (later.filter (!isIdle ·)).length ≤ 1 ∧
      above.steps = (front.filter (!List.isEmpty ·)).map String.ofList ∧
      above.isAbsolute = path.isAbsolute := by
  rw [parent?] at isParent
  cases dropped : dropIdle path.pieces.reverse with
  | nil => simp [dropped] at isParent
  | cons last before =>
      simp only [dropped] at isParent
      obtain ⟨later, isPieces, more, few⟩ : ∃ later,
          path.pieces = (dropIdle before).reverse ++ later ∧ later ≠ [] ∧
            (later.filter (!isIdle ·)).length ≤ 1 := by
        obtain ⟨behind, whole, idleBehind⟩ := exists_append_dropIdle path.pieces.reverse
        obtain ⟨between, kept, idleBetween⟩ := exists_append_dropIdle before
        refine ⟨(behind ++ last :: between).reverse, ?_, by simp, ?_⟩
        · rw [← List.reverse_append, List.append_assoc, List.cons_append, ← kept, ← dropped,
            ← whole, List.reverse_reverse]
        · rw [List.filter_reverse, List.filter_append, idleBehind, List.length_reverse,
            List.nil_append, List.filter_cons, idleBetween]
          split <;> simp
      have free : ∀ piece ∈ path.pieces, '/' ∉ piece := fun _ => Text.not_mem_of_mem_split
      rw [isPieces] at free
      refine ⟨_, later, isPieces, few, ?_⟩
      generalize (dropIdle before).reverse = front at isPieces free isParent ⊢
      -- The parent has the pieces in front, except that the root has none.
      cases front with
      | nil =>
          cases absolute : path.isAbsolute <;> rw [absolute] at isParent <;> cases isParent <;>
            exact ⟨rfl, rfl⟩
      | cons first rest =>
          have isAbsolute := isAbsolute_of_pieces isPieces (by simp [more])
          have frontFree := fun piece member => free piece (List.mem_append_left later member)
          have kept := pieces_join_pieces (List.cons_ne_nil first rest) frontFree
          rw [isAbsolute] at isParent ⊢
          cases rest with
          | nil =>
              cases first with
              | nil =>
                  cases isParent
                  exact ⟨rfl, rfl⟩
              | cons char others =>
                  have other : char ≠ '/' := fun same => frontFree _ (.head _) (same ▸ .head _)
                  cases isParent
                  exact ⟨by rw [steps, kept], by simp [FilePath.isAbsolute, Text.join, other]⟩
          | cons next others =>
              have filled : (Text.join '/' (first :: next :: others)).isEmpty = false := by
                simp [Text.join]
              rw [filled, Bool.and_false, if_neg Bool.false_ne_true] at isParent
              cases isParent
              exact ⟨by rw [steps, kept], isAbsolute_of_pieces kept (List.cons_ne_nil _ _)⟩

section Parent

variable {path above : FilePath} (isParent : path.parent? = some above)
include isParent

/-- The parent of a path leads along the same way, but not as far. -/
theorem steps_parent? : above.steps <+: path.steps ∧ above.isAbsolute = path.isAbsolute := by
  obtain ⟨front, later, isPieces, -, isSteps, isAbsolute⟩ := exists_pieces_of_parent? isParent
  refine ⟨?_, isAbsolute⟩
  rw [isSteps, steps, isPieces, List.filter_append, List.map_append]
  exact List.prefix_append _ _

/-- The parent of a path has its names but for the last one. -/
theorem names_parent? : above.names <+: path.names ∧
    path.names.length ≤ above.names.length + 1 := by
  obtain ⟨front, later, isPieces, few, isSteps, -⟩ := exists_pieces_of_parent? isParent
  have isNames : above.names = (front.filter (!isIdle ·)).map String.ofList := by
    rw [← filter_steps, isSteps, filter_map_pieces]
  have whole : path.names =
      (front.filter (!isIdle ·)).map String.ofList ++
        (later.filter (!isIdle ·)).map String.ofList := by
    rw [names, isPieces, List.filter_append, List.map_append]
  rw [isNames, whole]
  refine ⟨List.prefix_append _ _, ?_⟩
  simpa using few

end Parent

theorem filter_split_replicate (chars : List Char) (count : Nat) :
    (Text.split '/' (chars ++ List.replicate count '/')).filter (!List.isEmpty ·) =
      (Text.split '/' chars).filter (!List.isEmpty ·) := by
  cases count with
  | zero => simp
  | succ more =>
      have slashes : ∀ count, (Text.split '/' (List.replicate count '/')).filter
          (!List.isEmpty ·) = [] := by
        intro count
        induction count with
        | zero => rfl
        | succ count hypothesis => simpa [List.replicate_succ, Text.split] using hypothesis
      rw [List.replicate_succ, Text.split_append, List.filter_append, slashes, List.append_nil]

/-- A path without the slashes at its end leads along the same way. -/
theorem steps_dropTrailing (path : FilePath) :
    (⟨String.ofList (Text.dropTrailing '/' path.text.toList)⟩ : FilePath).steps = path.steps := by
  obtain ⟨count, whole⟩ := Text.eq_dropTrailing '/' path.text.toList
  have same := filter_split_replicate (Text.dropTrailing '/' path.text.toList) count
  rw [← whole] at same
  rw [steps, steps, pieces, pieces, String.toList_ofList, same]

theorem isAbsolute_dropTrailing {path : FilePath} (named : path.steps ≠ []) :
    (⟨String.ofList (Text.dropTrailing '/' path.text.toList)⟩ : FilePath).isAbsolute =
      path.isAbsolute := by
  obtain ⟨count, whole⟩ := Text.eq_dropTrailing '/' path.text.toList
  have same := steps_dropTrailing path
  cases bare : Text.dropTrailing '/' path.text.toList with
  | nil =>
      rw [bare] at same
      exact absurd same.symm named
  | cons char rest =>
      rw [bare] at whole
      simp [isAbsolute, whole]

/-! ## The address of a file -/

/-- Whether names lie below a directory: they begin with those of the directory
and never go up behind them. -/
def Below (directory names : List String) : Prop :=
  ∃ inner, names = directory ++ inner ∧ ".." ∉ inner

theorem below_iff {directory names : List String} :
    Below directory names ↔ directory <+: names ∧ ".." ∉ names.drop directory.length := by
  constructor
  · rintro ⟨inner, rfl, settled⟩
    exact ⟨List.prefix_append _ _, by simpa using settled⟩
  · rintro ⟨⟨inner, rfl⟩, settled⟩
    exact ⟨inner, rfl, by simpa using settled⟩

instance (directory names : List String) : Decidable (Below directory names) :=
  decidable_of_iff' _ below_iff

/-- The names that the address of a file leads through, with `..` among them;
none for other addresses. -/
def fileNames? (address : String) : Option (List String) :=
  (Text.after? "file://".toList address.toList).map fun path =>
    ((Text.split '/' path).filter (!List.isEmpty ·)).map fun piece =>
      String.ofList (Text.decodeLossy (Text.Percent.decode piece))

theorem ne_empty_of_mem_names {path : FilePath} {name : String} (member : name ∈ path.names) :
    name.toList ≠ [] := by
  rw [names_eq, List.mem_map] at member
  obtain ⟨piece, inPieces, rfl⟩ := member
  rw [List.mem_filter] at inPieces
  intro empty
  simp_all [isIdle]

theorem split_fileChars (path : FilePath) :
    ((Text.split '/' path.fileChars).filter (!List.isEmpty ·)) =
      path.names.map fun name =>
        Text.Percent.encode (Url.Path.reservedInSegment true) name.toList := by
  have free (name : String) : '/' ∉
      Text.Percent.encode (Url.Path.reservedInSegment true) name.toList :=
    Text.Percent.not_mem_encode (by decide) (by decide) (by decide) _
  rw [fileChars]
  split
  next nameless =>
    rw [List.isEmpty_iff.mp nameless]
    rfl
  next =>
    have pieces_eq : (path.names.flatMap fun name =>
        '/' :: Text.Percent.encode (Url.Path.reservedInSegment true) name.toList) =
          (path.names.map fun name =>
            Text.Percent.encode (Url.Path.reservedInSegment true) name.toList).flatMap
              ('/' :: ·) := by
      rw [List.flatMap_map]
    rw [pieces_eq, Text.split_flatMap (by simpa using fun name _ => free name),
      List.filter_cons_of_neg (by simp), List.filter_eq_self]
    intro piece member
    obtain ⟨name, inNames, rfl⟩ := List.mem_map.mp member
    have filled := Text.Percent.encode_ne_nil (Url.Path.reservedInSegment true)
      (ne_empty_of_mem_names inNames)
    simpa using filled

/-- The address of an absolute path leads through the names of the path. -/
theorem fileNames?_fileUrl? {path : FilePath} {address : String}
    (written : path.fileUrl? = some address) : fileNames? address = some path.names := by
  unfold fileUrl? at written
  split at written
  next =>
    obtain rfl := Option.some.inj written
    have after : Text.after? "file://".toList ("file://" ++ String.ofList path.fileChars).toList =
        some path.fileChars := by
      simp [Text.after?]
    have sign : '%' ∈ Url.Path.reservedInSegment true := by decide
    rw [fileNames?, after, Option.map_some, split_fileChars, List.map_map]
    simp [Function.comp_def, Text.Percent.decodeLossy_decode_encode sign]
  next => exact absurd written (by simp)

end CertPress.FilePath
