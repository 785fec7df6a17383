import CertPress.Proofs.Print.Enumeration
import CertPress.Proofs.Store.Listing
import CertPress.Render.Cache

/-!
# Lists of public templates

The public templates are sorted by name, and those of one name are in the order of their keys.
So a file with a template is somewhere in the list or nowhere, and whatever is in the file, the
other templates stay in their order.
-/

namespace CertPress

/-! ## One item among others -/

/-- A list has the items of another one in their order, and at most one item more. -/
def Gains {α : Type} (extra : Option α) (base whole : List α) : Prop :=
  ∃ front back, base = front ++ back ∧ whole = front ++ extra.toList ++ back

namespace Gains

variable {α : Type} {extra : Option α} {base whole : List α}

theorem none_iff : Gains none base whole ↔ whole = base := by
  constructor
  · rintro ⟨front, back, rfl, rfl⟩
    rw [Option.toList_none, List.append_nil]
  · rintro rfl
    exact ⟨[], whole, rfl, rfl⟩

theorem append_left (gains : Gains extra base whole) (items : List α) :
    Gains extra (items ++ base) (items ++ whole) := by
  obtain ⟨front, back, rfl, rfl⟩ := gains
  exact ⟨items ++ front, back, by simp, by simp⟩

theorem append_right (gains : Gains extra base whole) (items : List α) :
    Gains extra (base ++ items) (whole ++ items) := by
  obtain ⟨front, back, rfl, rfl⟩ := gains
  exact ⟨front, back ++ items, by simp, by simp⟩

theorem filter (gains : Gains extra base whole) (shown : α → Bool) :
    Gains (extra.filter shown) (base.filter shown) (whole.filter shown) := by
  obtain ⟨front, back, rfl, rfl⟩ := gains
  refine ⟨front.filter shown, back.filter shown, List.filter_append .., ?_⟩
  rw [List.filter_append, List.filter_append, Option.toList_filter]

end Gains

section Sorted

variable {α : Type} {before : α → α → Bool}
variable (trans : ∀ left middle right, before left middle → before middle right → before left right)
variable (total : ∀ left right, before left right || before right left)
include trans total

/-- The first item comes between the items that have to stand before it and the others. -/
theorem mergeSort_cons_eq (first : α) (rest : List α) :
    (first :: rest).mergeSort before =
      (rest.mergeSort before).filter (!before first ·) ++
        first :: (rest.mergeSort before).filter (before first ·) := by
  obtain ⟨front, back, whole, without, ahead⟩ := List.mergeSort_cons trans total first rest
  have behind : ∀ item ∈ back, before first item := by
    have ordered := List.pairwise_mergeSort trans total (first :: rest)
    rw [whole] at ordered
    exact (List.pairwise_cons.mp (List.pairwise_append.mp ordered).2.1).1
  have frontAhead : front.filter (!before first ·) = front := List.filter_eq_self.mpr ahead
  have frontBehind : front.filter (before first ·) = [] :=
    List.filter_eq_nil_iff.mpr fun item member => by simpa using ahead item member
  have backAhead : back.filter (!before first ·) = [] :=
    List.filter_eq_nil_iff.mpr fun item member => by simpa using behind item member
  have backBehind : back.filter (before first ·) = back := List.filter_eq_self.mpr behind
  rw [whole, without, List.filter_append, List.filter_append, frontAhead, frontBehind, backAhead,
    backBehind, List.append_nil, List.nil_append]

/-- One more item does not change the order of the others, by induction on those in front. -/
theorem Gains.mergeSort {extra : Option α} {base whole : List α}
    (gains : Gains extra base whole) :
    Gains extra (base.mergeSort before) (whole.mergeSort before) := by
  cases extra with
  | none =>
      rw [none_iff.mp gains]
      exact none_iff.mpr rfl
  | some item =>
      obtain ⟨front, back, rfl, rfl⟩ := gains
      induction front with
      | nil =>
          obtain ⟨ahead, behind, whole, without, -⟩ := List.mergeSort_cons trans total item back
          refine ⟨ahead, behind, without, ?_⟩
          simp only [Option.toList_some, List.append_assoc]
          exact whole
      | cons first rest hypothesis =>
          have ahead := hypothesis.filter (!before first ·)
          have behind := hypothesis.filter (before first ·)
          rw [List.cons_append, List.cons_append, List.cons_append,
            mergeSort_cons_eq trans total, mergeSort_cons_eq trans total]
          -- The item goes to one side of the first one, and to the other side nothing.
          by_cases after : before first item
          · rw [Option.filter_some, if_neg (by simp [after]), none_iff] at ahead
            rw [Option.filter_some, if_pos after] at behind
            rw [ahead]
            exact (behind.append_left [first]).append_left _
          · rw [Option.filter_some, if_pos (by simp [after])] at ahead
            rw [Option.filter_some, if_neg after, none_iff] at behind
            rw [behind]
            exact ahead.append_right _

end Sorted

namespace Render

open Disk (DifferIn)
open Record (Template)
open Store (listRecords listedRecord? childKey objectPath)

variable {records : FilePath} {disk left right : Disk} {name : String}

/-! ## The list of templates -/

/-- The template of a key, if it is listed: it can be read, it is active and it is public. -/
def publicAt? (records : FilePath) (disk : Disk) (key : String) : Option Template :=
  (listedRecord? Template.decoder records disk key).filter fun template =>
    template.isActive && template.isPublic

/-- The public templates of a disk by name, those of one name in the order of their keys. -/
structure ByName (records : FilePath) (disk : Disk) (templates : List Template) : Prop where
  sorted : templates.Pairwise fun left right => left.name ≤ right.name
  ties : ∃ keys, Store.list records Record.Key.templates disk = .ok keys ∧
    keys.Pairwise (· < ·) ∧ ∀ name, templates.filter (·.name == name) =
      (keys.filterMap (publicAt? records disk)).filter (·.name == name)

/-- The templates of a listing that are shown, by name. -/
def publicByName (templates : List Template) : List Template :=
  (templates.filter fun template => template.isActive && template.isPublic).mergeSort
    fun left right => decide (left.name ≤ right.name)

theorem name_le_trans (left middle right : Template)
    (first : decide (left.name ≤ middle.name)) (second : decide (middle.name ≤ right.name)) :
    decide (left.name ≤ right.name) := by
  rw [decide_eq_true_eq] at *
  exact String.le_trans first second

theorem name_le_total (left right : Template) :
    decide (left.name ≤ right.name) || decide (right.name ≤ left.name) := by
  simpa using String.le_total left.name right.name

theorem pairwise_publicByName (templates : List Template) :
    (publicByName templates).Pairwise fun left right => left.name ≤ right.name :=
  (List.pairwise_mergeSort name_le_trans name_le_total _).imp of_decide_eq_true

theorem filter_publicByName (templates : List Template) (name : String) :
    (publicByName templates).filter (·.name == name) =
      (templates.filter fun template => template.isActive && template.isPublic).filter
        (·.name == name) := by
  apply filter_mergeSort name_le_trans name_le_total
  intro left right isLeft isRight
  rw [beq_iff_eq] at isLeft isRight
  simp [isLeft, isRight]

theorem gains_publicByName {extra : Option Template} {base whole : List Template}
    (gains : Gains extra base whole) :
    Gains (extra.filter fun template => template.isActive && template.isPublic)
      (publicByName base) (publicByName whole) :=
  (gains.filter _).mergeSort name_le_trans name_le_total

theorem objectPath_templates (records : FilePath) :
    objectPath records (Text.withoutTrailing '/' Record.Key.templates) =
      .ok (records.join "templates") :=
  if_pos (by decide)

theorem childKey_templates (name : String) :
    childKey Record.Key.templates name = Record.Key.templates ++ name := rfl

namespace TemplateCache

theorem list_of_not_listed {cache : TemplateCache} (notListed : cache.listed = none)
    (disk : Disk) : (cache.list disk).1 = loadListed cache.records disk := by
  rw [list, notListed]
  dsimp only
  cases loadListed cache.records disk with
  | ok templates => rfl
  | error fault => rfl

theorem loadListed_of_listRecords {templates : List Template}
    (listed : listRecords Template.decoder records Record.Key.templates disk = .ok templates) :
    loadListed records disk = .ok (publicByName templates) := by
  unfold loadListed
  rw [listed]
  rfl

end TemplateCache

theorem byName_loadListed {templates : List Template}
    (isDirectory : disk.isDirectory (records.join "templates"))
    (loaded : TemplateCache.loadListed records disk = .ok templates) :
    ByName records disk templates := by
  obtain ⟨keys, listed, ordered⟩ := Store.ordered_list (objectPath_templates records) isDirectory
  rw [TemplateCache.loadListed_of_listRecords (Store.listRecords_of_list listed)] at loaded
  cases loaded
  refine ⟨pairwise_publicByName _, keys, listed, ordered, ?_⟩
  intro name
  rw [filter_publicByName, List.filter_filterMap]
  rfl

/-- The lists of two disks that differ in one file have the same templates around the one that is
read from it. -/
theorem exists_loadListed (differ : DifferIn (records.join "templates") name left right) :
    ∃ others leftList rightList,
      TemplateCache.loadListed records left = .ok leftList ∧
      TemplateCache.loadListed records right = .ok rightList ∧
      Gains (publicAt? records left (Record.Key.templates ++ name)) others leftList ∧
      Gains (publicAt? records right (Record.Key.templates ++ name)) others rightList := by
  obtain ⟨front, back, listedLeft, listedRight⟩ :=
    Store.exists_listRecords (objectPath_templates records) differ Template.decoder
  refine ⟨publicByName (front ++ back), _, _,
    TemplateCache.loadListed_of_listRecords listedLeft,
    TemplateCache.loadListed_of_listRecords listedRight, ?_, ?_⟩
  · exact gains_publicByName ⟨front, back, rfl, rfl⟩
  · exact gains_publicByName ⟨front, back, rfl, rfl⟩

/-- Two disks that differ in one file list the same records before and behind the one that is
read from it.  So the lists of public templates, by name and then by key, have the same others in
the same order, and at most the template that is read from the file besides. -/
theorem one_file_apart :
    (∀ {α : Type} (decoder : Json.Decoder α) (root directory : FilePath) (start name : String)
      (left right : Disk), objectPath root (Text.withoutTrailing '/' start) = .ok directory →
      DifferIn directory name left right →
      ∃ front back : List α,
        listRecords decoder root start left =
          .ok (front ++ (listedRecord? decoder root left (childKey start name)).toList ++ back) ∧
        listRecords decoder root start right =
          .ok (front ++ (listedRecord? decoder root right (childKey start name)).toList ++ back)) ∧
    (∀ (cache : TemplateCache) (name : String) (left right : Disk), cache.listed = none →
      DifferIn (cache.records.join "templates") name left right →
      ∃ others leftList rightList,
        (cache.list left).1 = .ok leftList ∧ ByName cache.records left leftList ∧
        (cache.list right).1 = .ok rightList ∧ ByName cache.records right rightList ∧
        Gains (publicAt? cache.records left (Record.Key.templates ++ name)) others leftList ∧
        Gains (publicAt? cache.records right (Record.Key.templates ++ name)) others rightList) := by
  constructor
  · intro α decoder root directory start name left right isPath differ
    exact Store.exists_listRecords isPath differ decoder
  · intro cache name left right notListed differ
    obtain ⟨others, leftList, rightList, loadedLeft, loadedRight, gainsLeft, gainsRight⟩ :=
      exists_loadListed differ
    refine ⟨others, leftList, rightList, ?_, ?_, ?_, ?_, gainsLeft, gainsRight⟩
    · rw [TemplateCache.list_of_not_listed notListed, loadedLeft]
    · exact byName_loadListed differ.isDirectory loadedLeft
    · rw [TemplateCache.list_of_not_listed notListed, loadedRight]
    · exact byName_loadListed differ.symm.isDirectory loadedRight

/-- A template with all that a list asks for. -/
def plainTemplate : Template :=
  { (default : Template) with name := "A", isActive := true, isPublic := true }

/-- A disk with a template and a file beside it that is no record. -/
def damaged : Disk where
  entries := .ofList [("/records", .directory), ("/records/templates", .directory),
    ("/records/templates/a.json", .file (bytesOf plainTemplate.toValue.pretty) false),
    ("/records/templates/b.json", .file (bytesOf "x") false)]
  workingDirectory := []

/-- The same disk with a template in that file. -/
def repaired : Disk :=
  damaged.set ["records", "templates", "b.json"]
    (.file (bytesOf plainTemplate.toValue.pretty) false)

theorem listedRecord?_damaged :
    listedRecord? Template.decoder ⟨"/records"⟩ damaged (Record.Key.templates ++ "b.json") = none :=
  Option.isNone_iff_eq_none.mp (by decide +kernel)

theorem written_plainTemplate : plainTemplate.Written := by
  have written : plainTemplate.createdAt.Written :=
    ⟨by decide, by decide, by decide, by decide, by decide⟩
  exact ⟨.object .nil nofun, written, written⟩

theorem listedRecord?_repaired :
    listedRecord? Template.decoder ⟨"/records"⟩ repaired (Record.Key.templates ++ "b.json") =
      some plainTemplate := by
  have isRead : Store.read ⟨"/records"⟩ (Record.Key.templates ++ "b.json") repaired =
      .ok (bytesOf plainTemplate.toValue.pretty) := rfl
  rw [listedRecord?, if_pos (by decide +kernel), Store.loadRecord_of_read Template.decoder isRead,
    Json.Decoder.read_text, Template.decoder_toValue written_plainTemplate]
  rfl

theorem differIn_repaired :
    DifferIn ((⟨"/records"⟩ : FilePath).join "templates") "b.json" damaged repaired where
  isDirectory := by decide
  free := by decide
  workingDirectory := rfl
  leftFile := by decide
  rightFile := by decide
  elsewhere _ apart := Disk.at?_set_other (Ne.symm apart) damaged _

/-- The file that is no record is left out, and the template in its place is added. -/
theorem one_file_apart_repaired :
    DifferIn ((⟨"/records"⟩ : FilePath).join "templates") "b.json" damaged repaired ∧
    (∃ front back : List Template,
      listRecords Template.decoder ⟨"/records"⟩ Record.Key.templates damaged =
        .ok (front ++ back) ∧
      listRecords Template.decoder ⟨"/records"⟩ Record.Key.templates repaired =
        .ok (front ++ plainTemplate :: back)) ∧
    ∃ front back : List Template,
      ((TemplateCache.start ⟨"/records"⟩).list damaged).1 = .ok (front ++ back) ∧
      ((TemplateCache.start ⟨"/records"⟩).list repaired).1 =
        .ok (front ++ plainTemplate :: back) := by
  refine ⟨differIn_repaired, ?records, ?templates⟩
  case records =>
    obtain ⟨front, back, listedDamaged, listedRepaired⟩ :=
      one_file_apart.1 Template.decoder _ _ _ _ _ _ (objectPath_templates ⟨"/records"⟩)
        differIn_repaired
    rw [childKey_templates, listedRecord?_damaged, Option.toList_none, List.append_nil]
      at listedDamaged
    rw [childKey_templates, listedRecord?_repaired, Option.toList_some, List.append_assoc]
      at listedRepaired
    exact ⟨front, back, listedDamaged, listedRepaired⟩
  case templates =>
    obtain ⟨others, listDamaged, listRepaired, isDamaged, -, isRepaired, -, gainsNone, gainsOne⟩ :=
      one_file_apart.2 (TemplateCache.start ⟨"/records"⟩) _ _ _ rfl differIn_repaired
    rw [TemplateCache.start, publicAt?, listedRecord?_damaged, Option.filter_none,
      Gains.none_iff] at gainsNone
    rw [TemplateCache.start, publicAt?, listedRecord?_repaired] at gainsOne
    obtain ⟨front, back, rfl, rfl⟩ := gainsOne
    rw [gainsNone] at isDamaged
    refine ⟨front, back, isDamaged, isRepaired.trans ?_⟩
    rw [List.append_assoc]
    rfl

end Render

end CertPress
