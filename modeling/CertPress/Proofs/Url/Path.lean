import CertPress.Proofs.Files.Path
import CertPress.Proofs.Text.Ascii
import CertPress.Proofs.Text.Cut
import Mathlib.Tactic.MkIffOfInductiveProp

/-!
# Reading segments that were appended

A segment that is appended to the path of a web address is percent-encoded, and so
it is neither cut nor taken for a dot segment when the path is read.  Reading gives
back the segments as they were written, and decoding the path gives back their text.
-/

namespace CertPress.Url.Path

open Text (Percent.encode Percent.decode Percent.keeps)

/-- The written form of a segment that is appended to the path of a web address. -/
def written (segment : List Char) : Segment := Percent.encode (reservedInSegment true) segment

theorem sign_reserved : '%' ∈ reservedInSegment true := by decide

theorem slash_not_mem_written (segment : List Char) : '/' ∉ written segment :=
  Text.Percent.not_mem_encode (by decide) (by decide) (by decide) _

theorem written_ne_nil {segment : List Char} (filled : segment ≠ []) : written segment ≠ [] :=
  Text.Percent.encode_ne_nil _ filled

theorem decode_written (segment : List Char) :
    Percent.decode (written segment) = Text.encode segment :=
  Text.Percent.decode_encode sign_reserved _

/-! ## Dot segments -/

/-- The spellings of a dot in a dot segment. -/
def dots : List (List Char) := [['.'], ['%', '2', 'e'], ['%', '2', 'E']]

theorem eq_of_toLower {char small : Char} (lower : char.toLower = small)
    (noLetter : small.toNat < 97) : char = small := by
  rcases Text.eq_or_of_toLower lower with same | ⟨code, capital⟩
  · exact same
  · omega

theorem mem_dots_of_toLower {piece : List Char}
    (lower : piece.map Char.toLower = ['.'] ∨ piece.map Char.toLower = ['%', '2', 'e']) :
    piece ∈ dots := by
  rcases lower with dot | group
  · obtain ⟨char, rfl, lower⟩ := List.map_eq_singleton_iff.mp dot
    obtain rfl := eq_of_toLower lower (by decide)
    decide
  · rcases piece with _ | ⟨sign, _ | ⟨high, _ | ⟨low, _ | ⟨other, rest⟩⟩⟩⟩ <;>
      simp only [List.map_nil, List.map_cons, List.cons.injEq, reduceCtorEq, and_true, and_false]
        at group
    obtain ⟨signLower, highLower, lowLower⟩ := group
    obtain rfl := eq_of_toLower signLower (by decide)
    obtain rfl := eq_of_toLower highLower (by decide)
    rcases Text.eq_or_of_toLower lowLower with rfl | ⟨code, -⟩
    · decide
    · obtain rfl : low = 'E' := Char.toNat_inj.mp (by simpa using code)
      decide

/-- Each spelling of a dot stands for one. -/
theorem decodeBytes_dot {dot : List Char} (isDot : dot ∈ dots) (rest : Bytes) :
    Text.Percent.decodeBytes (Text.encode dot ++ rest) =
      Text.encode ['.'] ++ Text.Percent.decodeBytes rest := by
  simp only [dots, List.mem_cons, List.not_mem_nil, or_false] at isDot
  rcases isDot with rfl | rfl | rfl
  · exact Text.Percent.decodeBytes_cons (by decide) rest
  · show Text.Percent.decodeBytes (0x25 :: 0x32 :: 0x65 :: rest) = _
    rw [Text.Percent.decodeBytes, if_pos rfl]
    rfl
  · exact Text.Percent.decodeBytes_group 0x2E rest

theorem eq_of_decode_written {segment text : List Char}
    (same : Percent.decode (written segment) = Text.encode text) : segment = text := by
  rw [← Text.decodeLossy_encode segment, ← decode_written, same, Text.decodeLossy_encode]

/-- A segment that is no dot is not written as one. -/
theorem isHere_written {segment : List Char} (notHere : segment ≠ ['.']) :
    isHere (written segment) = false := by
  rw [Bool.eq_false_iff]
  intro here
  apply notHere
  apply eq_of_decode_written
  have isDot : written segment ∈ dots :=
    mem_dots_of_toLower (by simpa [isHere] using here)
  simpa [Percent.decode, Text.Percent.decodeBytes] using decodeBytes_dot isDot []

/-- A segment that is not two dots is not written as those. -/
theorem isUp_written {segment : List Char} (notUp : segment ≠ ['.', '.']) :
    isUp (written segment) = false := by
  rw [Bool.eq_false_iff]
  intro up
  apply notUp
  apply eq_of_decode_written
  obtain ⟨first, second, whole, firstDot, secondDot⟩ :
      ∃ first second, written segment = first ++ second ∧ first ∈ dots ∧ second ∈ dots := by
    have lower : ∃ first second, (written segment).map Char.toLower = first ++ second ∧
        (first = ['.'] ∨ first = ['%', '2', 'e']) ∧
        (second = ['.'] ∨ second = ['%', '2', 'e']) := by
      simp only [isUp, Bool.or_eq_true, beq_iff_eq, or_assoc] at up
      rcases up with lower | lower | lower | lower
      · exact ⟨_, _, lower, .inl rfl, .inl rfl⟩
      · exact ⟨['.'], _, lower, .inl rfl, .inr rfl⟩
      · exact ⟨['%', '2', 'e'], _, lower, .inr rfl, .inl rfl⟩
      · exact ⟨['%', '2', 'e'], _, lower, .inr rfl, .inr rfl⟩
    obtain ⟨_, _, lower, isFirst, isSecond⟩ := lower
    obtain ⟨first, second, whole, rfl, rfl⟩ := List.map_eq_append_iff.mp lower
    exact ⟨first, second, whole, mem_dots_of_toLower isFirst, mem_dots_of_toLower isSecond⟩
  rw [whole, Percent.decode, Text.encode_append, decodeBytes_dot firstDot]
  simpa [Text.Percent.decodeBytes, Text.encode] using decodeBytes_dot secondDot []

/-! ## Paths of names -/

theorem take_name {segment : Segment} (notUp : isUp segment = false)
    (notHere : isHere segment = false) (course : Course) :
    course.take false segment = { course with before := segment :: course.before } := by
  simp [Course.take, notUp, notHere, Course.add]

/-- Segments of which none is a dot segment are taken one by one. -/
theorem settle_names {segments : List Segment}
    (names : ∀ segment ∈ segments, isUp segment = false ∧ isHere segment = false)
    (course : Course) :
    course.settle false segments = ⟨segments.reverse ++ course.before, course.onDrive⟩ := by
  induction segments generalizing course with
  | nil => rfl
  | cons segment rest hypothesis =>
      obtain ⟨notUp, notHere⟩ := names segment (.head _)
      cases rest with
      | nil => simp [Course.settle, take_name notUp notHere, notUp, notHere]
      | cons next others =>
          rw [Course.settle, take_name notUp notHere,
            hypothesis fun other inRest => names other (.tail _ inRest)]
          · simp
          · simp

/-- What a segment that is shown in an address may be: neither empty nor a dot
segment, and free of the tabs and line breaks that are dropped. -/
@[mk_iff] structure Shown (segment : List Char) : Prop where
  filled : segment ≠ []
  notHere : segment ≠ ['.']
  notUp : segment ≠ ['.', '.']
  visible : ∀ char ∈ segment, char ≠ '\t' ∧ char ≠ '\n' ∧ char ≠ '\r'

-- The characters are checked one by one: a search for an instance may come back with
-- one that runs through all characters there are.
instance (segment : List Char) : Decidable (Shown segment) :=
  have := List.decidableBAll (fun char => char ≠ '\t' ∧ char ≠ '\n' ∧ char ≠ '\r') segment
  decidable_of_iff' _ (shown_iff segment)

theorem append_shown {segment : List Char} (shown : Shown segment) (list : List Segment) :
    append true false list segment = (if list = [[]] then [] else list) ++ [written segment] := by
  have visible : (segment.filter fun char => char != '\t' && char != '\n' && char != '\r') =
      segment := by
    rw [List.filter_eq_self]
    intro char member
    simpa [and_assoc] using shown.visible char member
  have name : isUp (written segment) = false ∧ isHere (written segment) = false :=
    ⟨isUp_written shown.notUp, isHere_written shown.notHere⟩
  unfold append
  dsimp only
  rw [visible, ← written, settle_names (by simpa using name)]
  simp [Course.list]

/-- Shown segments are appended as they are written. -/
theorem foldl_append_shown {segments : List (List Char)} {list : List Segment}
    (some : segments ≠ []) (shown : ∀ segment ∈ segments, Shown segment) :
    segments.foldl (append true false) list =
      (if list = [[]] then [] else list) ++ segments.map written := by
  induction segments generalizing list with
  | nil => exact absurd rfl some
  | cons segment rest hypothesis =>
      have segmentShown := shown segment (.head _)
      rw [List.foldl_cons, append_shown segmentShown]
      generalize (if list = [[]] then [] else list) = before
      have notRoot : before ++ [written segment] ≠ [[]] := by
        intro same
        cases before with
        | nil => exact written_ne_nil segmentShown.filled (by simpa using same)
        | cons first others => simp at same
      cases rest with
      | nil => simp
      | cons next others =>
          rw [hypothesis (List.cons_ne_nil _ _) fun other inRest => shown other (.tail _ inRest),
            if_neg notRoot]
          simp

/-- The segments of a path behind which others are appended: all of them but an empty
one at the end, and none of the root. -/
def stem (list : List Segment) : List Segment :=
  if dropLastEmpty list = [[]] then [] else dropLastEmpty list

/-- The shown ones of the segments that are appended to a path stand behind its
stem. -/
theorem extend_shown {list : List Segment} {segments shown : List (List Char)}
    (kept : (segments.filter fun segment => segment != ['.'] && segment != ['.', '.']) = shown)
    (filled : shown ≠ []) (allShown : ∀ segment ∈ shown, Shown segment) :
    extend true false list segments = stem list ++ shown.map written := by
  rw [extend, kept, foldl_append_shown filled allShown, stem]

theorem mem_of_mem_stem {list : List Segment} {segment : Segment} (member : segment ∈ stem list) :
    segment ∈ list := by
  have inMost : segment ∈ dropLastEmpty list := by
    unfold stem at member
    split at member
    next => exact absurd member List.not_mem_nil
    next => exact member
  unfold dropLastEmpty at inMost
  split at inMost
  next => exact List.mem_of_mem_dropLast inMost
  next => exact inMost

/-- The stem lacks nothing but slashes at the end of the path. -/
theorem chars_stem (list : List Segment) :
    ∃ count, list.flatMap ('/' :: ·) =
      (stem list).flatMap ('/' :: ·) ++ List.replicate count '/' := by
  have lacking : ∃ count, list.flatMap ('/' :: ·) =
      (dropLastEmpty list).flatMap ('/' :: ·) ++ List.replicate count '/' := by
    unfold dropLastEmpty
    split
    next ends =>
      obtain ⟨front, rfl⟩ := List.getLast?_eq_some_iff.mp ends.2
      exact ⟨1, by simp⟩
    next => exact ⟨0, by simp⟩
  obtain ⟨count, chars⟩ := lacking
  unfold stem
  split
  next root =>
    refine ⟨count + 1, ?_⟩
    rw [chars, root]
    rfl
  next => exact ⟨count, chars⟩

/-! ## Reading -/

/-- The characters of a written segment are printable and kept when a path is
read. -/
theorem keeps_of_mem_written {segment : List Char} {char : Char}
    (member : char ∈ written segment) : Percent.keeps reserved char :=
  Text.Percent.keeps_of_mem_encode (List.subset_append_of_subset_left _ (by simp))
    (by decide) member

theorem backslash_not_mem_written (segment : List Char) : '\\' ∉ written segment :=
  Text.Percent.not_mem_encode (by decide) (by decide) (by decide) _

/-- What reading a path leaves as it is: no dot segment, and no character that is cut
at or encoded. -/
structure IsSegment (segment : Segment) : Prop where
  notUp : isUp segment = false
  notHere : isHere segment = false
  kept : ∀ char ∈ segment, Percent.keeps reserved char
  whole : '/' ∉ segment
  straight : '\\' ∉ segment

theorem isSegment_nil : IsSegment [] where
  notUp := rfl
  notHere := rfl
  kept := by simp
  whole := by simp
  straight := by simp

theorem isSegment_written {segment : List Char} (shown : Shown segment) :
    IsSegment (written segment) where
  notUp := isUp_written shown.notUp
  notHere := isHere_written shown.notHere
  kept := fun _ => keeps_of_mem_written
  whole := slash_not_mem_written segment
  straight := backslash_not_mem_written segment

/-- The segments of a path are found between its slashes. -/
theorem cut_segments {list : List Segment} {rest : List Char}
    (isSegment : ∀ segment ∈ list, IsSegment segment)
    (text : list.flatMap ('/' :: ·) = '/' :: rest) : cut true rest = list := by
  have pieces : Text.split '/' ('/' :: rest) = [] :: list := by
    rw [← text, Text.split_flatMap fun segment member => (isSegment segment member).whole]
  have straight : '\\' ∉ rest := by
    intro member
    have inText : '\\' ∈ list.flatMap ('/' :: ·) := text ▸ .tail _ member
    obtain ⟨segment, inList, inSegment⟩ := List.mem_flatMap.mp inText
    exact (isSegment segment inList).straight (by simpa using inSegment)
  have same : (rest.map fun char => if char = '\\' then '/' else char) = rest.map id :=
    List.map_congr_left fun char member =>
      if_neg fun (isBackslash : char = '\\') => straight (isBackslash ▸ member)
  rw [Text.split, if_pos rfl, List.cons.injEq] at pieces
  rw [cut, if_pos rfl, same, List.map_id, pieces.2]

/-- A path of segments reads as those segments. -/
theorem read_segments {list : List Segment} {rest : List Char}
    (isSegment : ∀ segment ∈ list, IsSegment segment)
    (text : list.flatMap ('/' :: ·) = '/' :: rest) :
    (read true false rest).list false = list := by
  have kept : list.map (Percent.encode reserved) = list.map id :=
    List.map_congr_left fun segment member =>
      Text.Percent.encode_eq_self (isSegment segment member).kept
  have names : ∀ segment ∈ list, isUp segment = false ∧ isHere segment = false :=
    fun segment member => ⟨(isSegment segment member).notUp, (isSegment segment member).notHere⟩
  rw [read, cut_segments isSegment text, kept, List.map_id, settle_names names]
  simp [Course.list]

/-! ## Decoding -/

/-- A path of shown segments decodes to their text. -/
theorem decode_chars_written (segments : List (List Char)) :
    Percent.decode ((segments.map written).flatMap ('/' :: ·)) =
      Text.encode (segments.flatMap ('/' :: ·)) := by
  induction segments with
  | nil => rfl
  | cons segment rest hypothesis =>
      rw [Percent.decode] at hypothesis ⊢
      have slash (after : Bytes) : Text.Percent.decodeBytes (Text.encode ['/'] ++ after) =
          Text.encode ['/'] ++ Text.Percent.decodeBytes after :=
        Text.Percent.decodeBytes_cons (by decide) after
      rw [List.map_cons, List.flatMap_cons, List.flatMap_cons, List.cons_append,
        ← List.singleton_append, Text.encode_append, slash, Text.encode_append, written,
        Text.Percent.decodeBytes_encode sign_reserved, hypothesis, List.cons_append,
        ← List.singleton_append (l := _ ++ _), Text.encode_append, Text.encode_append]

theorem decode_join_written {segments : List (List Char)} (filled : segments ≠ []) :
    Percent.decode (Text.join '/' (segments.map written)) =
      Text.encode (Text.join '/' segments) := by
  have whole := decode_chars_written segments
  rw [Text.flatMap_eq_join (by simpa using filled), Text.flatMap_eq_join filled] at whole
  have slash : Percent.decode ('/' :: Text.join '/' (segments.map written)) =
      0x2F :: Percent.decode (Text.join '/' (segments.map written)) :=
    Text.Percent.decodeBytes_cons (by decide) _
  exact (List.cons.inj (slash.symm.trans whole)).2

/-- Whether a path has no percent groups. -/
def IsPlain (path : List Char) : Prop := Percent.decode path = Text.encode path

instance (path : List Char) : Decidable (IsPlain path) := inferInstanceAs (Decidable (_ = _))

theorem isPlain_stem {list : List Segment} (plain : IsPlain (list.flatMap ('/' :: ·))) :
    IsPlain ((stem list).flatMap ('/' :: ·)) := by
  obtain ⟨count, chars⟩ := chars_stem list
  rw [IsPlain, chars, Text.Percent.decode_append_replicate, Text.encode_append] at plain
  exact List.append_cancel_right plain

/-- Behind a path without percent groups, of which the slashes at the end do not count,
the decoded path goes on with slashes and the segments that were appended. -/
theorem after?_stem {list : List Segment} (plain : IsPlain (list.flatMap ('/' :: ·)))
    {segments : List (List Char)} (filled : segments ≠ []) :
    ∃ count, Text.after? (Text.dropTrailing '/' (list.flatMap ('/' :: ·)))
      (Text.decodeLossy (Percent.decode
        ((stem list ++ segments.map written).flatMap ('/' :: ·)))) =
      some (List.replicate count '/' ++ '/' :: Text.join '/' segments) := by
  obtain ⟨missing, chars⟩ := chars_stem list
  have isPlain : Percent.decode ((stem list).flatMap ('/' :: ·)) =
      Text.encode ((stem list).flatMap ('/' :: ·)) := isPlain_stem plain
  have startsWithSlash : ((segments.map written).flatMap ('/' :: ·)).head? = some '/' := by
    obtain ⟨first, rest, rfl⟩ := List.exists_cons_of_ne_nil filled
    rfl
  have decoded : Text.decodeLossy (Percent.decode
      ((stem list ++ segments.map written).flatMap ('/' :: ·))) =
        (stem list).flatMap ('/' :: ·) ++ '/' :: Text.join '/' segments := by
    rw [List.flatMap_append, Text.Percent.decode_append startsWithSlash, isPlain,
      decode_chars_written, ← Text.encode_append, Text.decodeLossy_encode,
      Text.flatMap_eq_join filled]
  obtain ⟨count, stem_eq⟩ := Text.eq_dropTrailing '/' ((stem list).flatMap ('/' :: ·))
  refine ⟨count, Text.after?_eq_some_iff.mpr ?_⟩
  rw [decoded, chars, Text.dropTrailing_replicate, ← List.append_assoc, ← stem_eq]

/-! ## Segments that were read -/

theorem mem_take {course : Course} {piece segment : Segment}
    (member : segment ∈ (course.take false piece).before) :
    segment ∈ course.before ∨
      (segment = piece ∧ isUp piece = false ∧ isHere piece = false) := by
  unfold Course.take at member
  split at member
  next =>
    unfold Course.up at member
    split at member
    next => exact .inl member
    next last rest before =>
      split at member
      next => exact .inl member
      next => exact .inl (before ▸ .tail last member)
  next notUp =>
    split at member
    next => exact .inl member
    next notHere =>
      rcases List.mem_cons.mp member with rfl | inBefore
      · exact .inr ⟨rfl, by simpa using notUp, by simpa using notHere⟩
      · exact .inl inBefore

/-- A settled path has no segments but those that were taken, apart from an empty one
at its end. -/
theorem mem_settle {course : Course} {segments : List Segment} {segment : Segment}
    (member : segment ∈ (course.settle false segments).before) :
    segment ∈ course.before ∨ segment = [] ∨
      (segment ∈ segments ∧ isUp segment = false ∧ isHere segment = false) := by
  have taken {course : Course} {piece : Segment}
      (member : segment ∈ (course.take false piece).before) :
      segment ∈ course.before ∨ segment = [] ∨
        (segment ∈ [piece] ∧ isUp segment = false ∧ isHere segment = false) := by
    rcases mem_take member with inBefore | ⟨rfl, name⟩
    · exact .inl inBefore
    · exact .inr (.inr ⟨.head _, name⟩)
  fun_induction Course.settle false course segments with
  | case1 => exact .inl member
  | case2 course last settled dots =>
      rcases List.mem_cons.mp member with rfl | inSettled
      · exact .inr (.inl rfl)
      · exact taken inSettled
  | case3 course last settled names => exact taken member
  | case4 course piece rest _ hypothesis =>
      rcases hypothesis member with inTaken | rfl | ⟨inRest, name⟩
      · exact (taken inTaken).imp id (.imp id fun ⟨isPiece, name⟩ =>
          ⟨List.mem_append_left rest isPiece, name⟩)
      · exact .inr (.inl rfl)
      · exact .inr (.inr ⟨.tail _ inRest, name⟩)

theorem settle_ne_nil (course : Course) {segments : List Segment} (filled : segments ≠ []) :
    (course.settle false segments).before ≠ [] := by
  fun_induction Course.settle false course segments with
  | case1 => exact absurd rfl filled
  | case2 => simp
  | case3 course last settled names =>
      obtain ⟨notUp, notHere⟩ : isUp last = false ∧ isHere last = false := by simpa using names
      simp [settled, take_name notUp notHere]
  | case4 course piece rest more hypothesis => exact hypothesis (by simpa using more)

theorem isSegment_of_mem_read {text : List Char} {segment : Segment}
    (member : segment ∈ (read true false text).list false) : IsSegment segment := by
  have inBefore : segment ∈ (read true false text).before := by simpa [Course.list] using member
  rcases mem_settle inBefore with inNothing | rfl | ⟨inPieces, notUp, notHere⟩
  · exact absurd inNothing List.not_mem_nil
  · exact isSegment_nil
  · obtain ⟨piece, isPiece, rfl⟩ := List.mem_map.mp inPieces
    rw [cut, if_pos rfl] at isPiece
    have free {mark : Char} (absent : mark ∉ piece) (notSign : mark ≠ '%')
        (notDigit : Text.hexValue? mark = none) : mark ∉ Percent.encode reserved piece :=
      fun inWritten => absent (Text.Percent.of_mem_encode_of_apart notSign notDigit inWritten).1
    have straight : '\\' ∉ piece := by
      intro inPiece
      have inText : '\\' ∈ text.map fun char => if char = '\\' then '/' else char := by
        rw [← Text.join_split '/' (text.map _)]
        exact Text.mem_join_of_mem isPiece inPiece
      obtain ⟨char, -, same⟩ := List.mem_map.mp inText
      split at same
      next => exact absurd same (by decide)
      next other => exact other same
    exact {
      notUp
      notHere
      kept := fun char => Text.Percent.keeps_of_mem_encode (List.Subset.refl _) (by decide)
      whole := free (Text.not_mem_of_mem_split isPiece) (by decide) (by decide)
      straight := free straight (by decide) (by decide) }

theorem read_ne_nil (text : List Char) : (read true false text).list false ≠ [] := by
  have filled : ((cut true text).map (Percent.encode reserved)) ≠ [] := by
    simp [cut]
  simpa [Course.list, read] using settle_ne_nil ⟨[], false⟩ filled

end CertPress.Url.Path
