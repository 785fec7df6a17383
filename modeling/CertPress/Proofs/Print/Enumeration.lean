import CertPress.Print.Fonts
import CertPress.Proofs.Files.Tidy
import CertPress.Proofs.Keys
import CertPress.Proofs.Text.Percent
import CertPress.Proofs.Text.Pieces
import Mathlib.Data.List.Perm.Basic

/-!
# Orders of enumeration

A directory gives its entries in any order.  The families of its fonts do not depend
on that order.  Their rules do as soon as two files are fonts of one family, because
these keep the order in which they were found.
-/

namespace CertPress

/-- Items that may stand in either order keep theirs when a list is sorted. -/
theorem filter_mergeSort {α : Type} {before : α → α → Bool} {items : List α} {tied : α → Bool}
    (trans : ∀ left middle right, before left middle → before middle right → before left right)
    (total : ∀ left right, before left right || before right left)
    (alike : ∀ left right, tied left → tied right → before left right) :
    (items.mergeSort before).filter tied = items.filter tied := by
  have ordered : (items.filter tied).Pairwise fun left right => before left right :=
    List.pairwise_of_forall_mem_list fun left inLeft right inRight =>
      alike left right (List.mem_filter.mp inLeft).2 (List.mem_filter.mp inRight).2
  have kept := (List.sublist_mergeSort trans total ordered List.filter_sublist).filter tied
  have sameLength := ((List.mergeSort_perm items before).filter tied).length_eq
  simp only [List.filter_filter, Bool.and_self] at kept
  exact (kept.eq_of_length sameLength.symm).symm

namespace FilePath

theorem slash_not_mem_stem {path : FilePath} {stem : String}
    (isStem : path.stem? = some stem) : '/' ∉ stem.toList := by
  obtain ⟨parts, isParts, rfl⟩ := Option.map_eq_some_iff.mp isStem
  obtain ⟨name, isName, rfl⟩ := Option.map_eq_some_iff.mp isParts
  have free : '/' ∉ name.toList :=
    slash_not_mem_name (List.mem_of_getLast? (Option.filter_eq_some_iff.mp isName).1)
  split
  next before after found =>
    split
    next => exact free
    next =>
      rw [Text.cutLast?_eq_some found] at free
      simp_all
  next => exact free

theorem exists_chars_of_fileUrl? {path : FilePath} {address : String}
    (written : path.fileUrl? = some address) :
    ∃ chars, address = "file://" ++ String.ofList chars ∧ '"' ∉ chars := by
  have free (name : String) : '"' ∉
      Text.Percent.encode (Url.Path.reservedInSegment true) name.toList :=
    Text.Percent.not_mem_encode (by decide) (by decide) (by decide) _
  unfold fileUrl? at written
  split at written
  next =>
    cases written
    refine ⟨_, rfl, ?_⟩
    unfold fileChars
    split
    · decide
    · simpa using fun name _ => free name
  next => cases written

end FilePath

namespace Print

namespace Font

/-- Each text of the font ends where its rule says so. -/
structure Closed (font : Font) : Prop where
  family : '/' ∉ font.family.toList
  address : ∃ chars, font.address = "file://" ++ String.ofList chars ∧ '"' ∉ chars
  format : '"' ∉ font.format.toList

theorem closed_of_ofPath? {path : FilePath} {font : Font} (found : ofPath? path = some font) :
    font.Closed := by
  obtain ⟨ending, -, format, isFormat, stem, isStem, address, isAddress, rfl⟩ :
      ∃ ending, path.extension? = some ending ∧
        ∃ format, valueAt? (Text.lowerAscii ending) formats = some format ∧
          ∃ stem, path.stem? = some stem ∧
            ∃ address, path.fileUrl? = some address ∧ ⟨stem, address, format⟩ = font := by
    simpa [ofPath?, Option.bind_eq_some_iff] using found
  have noQuote : ∀ entry ∈ formats, '"' ∉ entry.2.toList := by decide
  exact {
    family := FilePath.slash_not_mem_stem isStem
    address := FilePath.exists_chars_of_fileUrl? isAddress
    format := noQuote _ (mem_of_valueAt? isFormat) }

/-- The first slash of a rule stands behind its family, and the next quotes end the address
and the format. -/
theorem exists_rule_append : ∃ start middle later ending : List Char, '/' ∉ start ∧ '/' ∉ middle ∧
    ∀ (family format : String) (chars rest : List Char),
      (rule ⟨family, "file://" ++ String.ofList chars, format⟩).toList ++ rest =
        (start ++ family.toList ++ middle) ++ '/' ::
          ('/' :: chars ++ '"' :: (later ++ (format.toList ++ '"' :: (ending ++ rest)))) := by
  refine ⟨"@font-face \x7b\n    font-family: \"".toList, "\";\n    src: url(\"file:".toList,
    ") format(\"".toList, ");\n\x7d\n".toList, by decide, by decide, ?_⟩
  intro family format chars rest
  unfold rule
  simp

/-- A rule tells its font, whatever comes after it. -/
theorem rule_append_inj {font other : Font} (closed : font.Closed) (otherClosed : other.Closed)
    {rest behind : List Char} (same : font.rule.toList ++ rest = other.rule.toList ++ behind) :
    font = other ∧ rest = behind := by
  obtain ⟨family, _, format⟩ := font
  obtain ⟨otherFamily, _, otherFormat⟩ := other
  obtain ⟨noSlash, ⟨chars, rfl, noQuote⟩, formatFree⟩ := closed
  obtain ⟨otherNoSlash, ⟨otherChars, rfl, otherNoQuote⟩, otherFormatFree⟩ := otherClosed
  obtain ⟨start, middle, later, ending, startFree, middleFree, rule_append⟩ := exists_rule_append
  -- The texts are cut behind the family, behind the address and behind the format.
  rw [rule_append, rule_append,
    Text.append_separator_inj (by simp_all) (by simp_all), List.append_cancel_right_eq,
    List.append_cancel_left_eq, Text.append_separator_inj (by simp_all) (by simp_all),
    List.append_cancel_left_eq, Text.append_separator_inj formatFree otherFormatFree,
    List.append_cancel_left_eq, String.toList_inj, String.toList_inj, List.cons_inj_right] at same
  obtain ⟨rfl, rfl, rfl, rfl⟩ := same
  exact ⟨rfl, rfl⟩

theorem rule_ne_empty (font : Font) : font.rule.toList ≠ [] := by
  unfold rule
  simp

end Font

namespace Fonts

theorem toList_css_cons (font : Font) (rest : Fonts) :
    (css (font :: rest)).toList = font.rule.toList ++ (css rest).toList := by
  simp [css, String.join_cons]

theorem eq_nil_of_css_eq {fonts : Fonts} (same : css fonts = css []) : fonts = [] := by
  cases fonts with
  | nil => rfl
  | cons font rest =>
      have empty : (css []).toList = [] := rfl
      rw [← same, toList_css_cons] at empty
      exact absurd (List.append_eq_nil_iff.mp empty).1 font.rule_ne_empty

/-- The rules of fonts tell these fonts. -/
theorem css_inj {fonts others : Fonts} (closed : ∀ font ∈ fonts, font.Closed)
    (othersClosed : ∀ font ∈ others, font.Closed) (same : css fonts = css others) :
    fonts = others := by
  induction fonts generalizing others with
  | nil => exact (eq_nil_of_css_eq same.symm).symm
  | cons font rest hypothesis =>
      cases others with
      | nil => exact eq_nil_of_css_eq same
      | cons other behind =>
          have sameText := congrArg String.toList same
          rw [toList_css_cons, toList_css_cons] at sameText
          obtain ⟨rfl, sameRest⟩ :=
            Font.rule_append_inj (closed _ (.head _)) (othersClosed _ (.head _)) sameText
          rw [hypothesis (fun next inRest => closed next (.tail _ inRest))
            (fun next inBehind => othersClosed next (.tail _ inBehind))
            (String.toList_injective sameRest)]

/-- No two fonts are of one family. -/
def Distinct (fonts : Fonts) : Prop :=
  ∀ left ∈ fonts, ∀ right ∈ fonts, left.family = right.family → left = right

section Names

variable {directory : FilePath} {names order : List String}

@[simp] theorem ofNames_nil (directory : FilePath) : ofNames directory [] = [] := by
  simp [ofNames]

theorem perm_ofNames : (ofNames directory names).Perm
    (names.filterMap fun name => Font.ofPath? (directory.join name)) :=
  List.mergeSort_perm _ _

theorem ofNames_of_pairwise
    (ordered : (names.filterMap fun name => Font.ofPath? (directory.join name)).Pairwise
      fun left right => left.family ≤ right.family) :
    ofNames directory names = names.filterMap fun name => Font.ofPath? (directory.join name) :=
  List.mergeSort_of_pairwise (by simpa using ordered)

theorem mem_ofNames {font : Font} : font ∈ ofNames directory names ↔
    ∃ name ∈ names, Font.ofPath? (directory.join name) = some font :=
  perm_ofNames.mem_iff.trans List.mem_filterMap

theorem closed_of_mem {font : Font} (member : font ∈ ofNames directory names) : font.Closed := by
  obtain ⟨name, -, found⟩ := mem_ofNames.mp member
  exact Font.closed_of_ofPath? found

theorem le_trans (left middle right : Font) (first : decide (left.family ≤ middle.family))
    (second : decide (middle.family ≤ right.family)) : decide (left.family ≤ right.family) := by
  simp only [decide_eq_true_eq] at *
  exact String.le_trans first second

theorem le_total (left right : Font) :
    decide (left.family ≤ right.family) || decide (right.family ≤ left.family) := by
  simpa using String.le_total left.family right.family

theorem pairwise_ofNames :
    (ofNames directory names).Pairwise fun left right => left.family ≤ right.family :=
  (List.pairwise_mergeSort le_trans le_total _).imp of_decide_eq_true

/-- The fonts of one family are in the order in which they were found. -/
theorem filter_ofNames (family : String) :
    (ofNames directory names).filter (·.family == family) =
      (names.filterMap fun name => Font.ofPath? (directory.join name)).filter
        (·.family == family) := by
  refine filter_mergeSort le_trans le_total fun left right isLeft isRight => ?_
  rw [beq_iff_eq] at isLeft isRight
  simp [isLeft, isRight]

theorem ofNames_perm (perm : order.Perm names) :
    (ofNames directory order).Perm (ofNames directory names) :=
  (perm_ofNames.trans (perm.filterMap _)).trans perm_ofNames.symm

theorem map_family_ofNames (perm : order.Perm names) :
    (ofNames directory order).map Font.family = (ofNames directory names).map Font.family :=
  ((ofNames_perm perm).map _).eq_of_pairwise (fun _ _ _ _ => String.le_antisymm)
    (List.pairwise_map.mpr pairwise_ofNames) (List.pairwise_map.mpr pairwise_ofNames)

theorem ofNames_eq_of_distinct (distinct : Distinct (ofNames directory names))
    (perm : order.Perm names) : ofNames directory order = ofNames directory names :=
  (ofNames_perm perm).eq_of_pairwise
    (fun left right inOrder inNames before after =>
      distinct left ((ofNames_perm perm).mem_iff.mp inOrder) right inNames
        (String.le_antisymm before after))
    pairwise_ofNames pairwise_ofNames

/-- Of two fonts of one family, either comes first in some order. -/
theorem distinct_of_ofNames_eq
    (same : ∀ order, order.Perm names → ofNames directory order = ofNames directory names) :
    Distinct (ofNames directory names) := by
  -- With its name in front of the others, a font is the first one of its family.
  have first {font : Font} (member : font ∈ ofNames directory names) :
      ((ofNames directory names).filter (·.family == font.family)).head? = some font := by
    obtain ⟨name, inNames, found⟩ := mem_ofNames.mp member
    rw [← same _ (List.perm_cons_erase inNames).symm, filter_ofNames]
    simp [found]
  intro left inLeft right inRight sameFamily
  have firsts := first inLeft
  rw [sameFamily, first inRight] at firsts
  exact (Option.some.inj firsts).symm

end Names

/-- The fonts of a directory whose entries come in some order. -/
inductive Loads (disk : Disk) : Option FilePath → Fonts → Prop where
  | missing : Loads disk none []
  | unreadable {path : FilePath} {fault : DiskFault} (failed : disk.list path = .error fault) :
      Loads disk (some path) []
  | listed {path : FilePath} {names order : List String} (listed : disk.list path = .ok names)
      (perm : order.Perm names) : Loads disk (some path) (ofNames path order)

/-- Without a readable directory there are no names that could come in another order. -/
theorem exists_loads_iff (directory : Option FilePath) (disk : Disk) :
    ∃ path names, load directory disk = ofNames path names ∧ ∀ fonts,
      Loads disk directory fonts ↔
        ∃ order, List.Perm order names ∧ ofNames path order = fonts := by
  cases directory with
  | none =>
      refine ⟨default, [], by simp [load], fun fonts => ⟨?_, ?_⟩⟩
      · rintro ⟨⟩
        exact ⟨[], .nil, ofNames_nil _⟩
      · rintro ⟨order, none, rfl⟩
        simpa [none.eq_nil] using Loads.missing
  | some path =>
      cases listing : disk.list path with
      | error fault =>
          refine ⟨path, [], by simp [load, listing], fun fonts => ⟨?_, ?_⟩⟩
          · rintro (_ | _ | ⟨listed, perm⟩)
            · exact ⟨[], .nil, ofNames_nil _⟩
            · simp [listing] at listed
          · rintro ⟨order, none, rfl⟩
            simpa [none.eq_nil] using Loads.unreadable listing
      | ok names =>
          refine ⟨path, names, by simp [load, listing], fun fonts => ⟨?_, ?_⟩⟩
          · rintro (_ | failed | ⟨listed, perm⟩)
            · simp [listing] at failed
            · obtain rfl := Except.ok.inj (listing.symm.trans listed)
              exact ⟨_, perm, rfl⟩
          · rintro ⟨order, perm, rfl⟩
            exact .listed listing perm

/-- In all orders in which the entries of a directory can come, its fonts have the same families.
They have the same rules in all of them exactly if no two fonts are of one family. -/
theorem loads_agree (directory : Option FilePath) (disk : Disk) :
    Loads disk directory (load directory disk) ∧
    (∀ fonts others, Loads disk directory fonts → Loads disk directory others →
      fonts.map Font.family = others.map Font.family) ∧
    ((∀ fonts others, Loads disk directory fonts → Loads disk directory others →
      css fonts = css others) ↔ Distinct (load directory disk)) := by
  obtain ⟨path, names, load_eq, loads_iff⟩ := exists_loads_iff directory disk
  simp only [loads_iff, load_eq]
  refine ⟨⟨names, .refl _, rfl⟩, ?_, fun same => ?_, fun distinct => ?_⟩
  · rintro _ _ ⟨order, perm, rfl⟩ ⟨other, otherPerm, rfl⟩
    rw [map_family_ofNames perm, map_family_ofNames otherPerm]
  · refine distinct_of_ofNames_eq fun order perm => ?_
    exact css_inj (fun _ => closed_of_mem) (fun _ => closed_of_mem)
      (same _ _ ⟨order, perm, rfl⟩ ⟨names, .refl _, rfl⟩)
  · rintro _ _ ⟨order, perm, rfl⟩ ⟨other, otherPerm, rfl⟩
    rw [ofNames_eq_of_distinct distinct perm, ofNames_eq_of_distinct distinct otherPerm]

/-- A directory with a font in two formats. -/
def twoFormats : Disk :=
  [["fonts", "a.otf"], ["fonts", "a.ttf"]].foldl (fun disk file => disk.set file (.file [] false))
    (Disk.empty.set ["fonts"] .directory)

/-- The rules of one font in two formats are in the order in which the files were found. -/
theorem loads_css_differ : ∃ fonts others, Loads twoFormats (some ⟨"/fonts"⟩) fonts ∧
    Loads twoFormats (some ⟨"/fonts"⟩) others ∧ css fonts ≠ css others := by
  have listed : twoFormats.list ⟨"/fonts"⟩ = .ok ["a.otf", "a.ttf"] := by decide +kernel
  refine ⟨_, _, .listed listed (.refl _), .listed listed (.swap "a.otf" "a.ttf" []), ?_⟩
  rw [ofNames_of_pairwise (by decide +kernel), ofNames_of_pairwise (by decide +kernel)]
  decide +kernel

end Fonts

end Print

end CertPress
