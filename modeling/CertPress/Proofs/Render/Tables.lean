import CertPress.Proofs.Json.Exact
import CertPress.Proofs.Record.Field
import CertPress.Proofs.Render.Merge
import Mathlib.Data.List.Forall2

/-!
# Tables in every shape

A payload gives the cells of a table in columns, each as an array or as a text that reads as
one, or in rows, as a list of objects.  The columns may be of different lengths, and a row has
no cell for a column that has ended.  The table only depends on the cells.
-/

namespace CertPress.Context

open Json (Value Object Layout)
open Record (Authoritative GivesList itemText textList textList_of_givesList trimmed_itemText)

/-! ## Lists -/

/-- A list of texts, integers, Booleans and nulls can be given as a text in every layout. -/
theorem givesList_spaced {items : List Value} (exact : ∀ item ∈ items, item.Exact 0)
    (layout : Layout) :
    GivesList items (.string (String.ofList ((Value.array items).spaced layout 0))) := by
  refine .encoded ?_
  rw [Json.read, Json.Decoder.read_spaced]
  exact Json.Raw.toValue_ofValue (.array exact) (by decide)

/-! ## Cells -/

/-- A cell shows what a list has as the text of an item. -/
theorem cell_some (value : Value) : cell (some value) = itemText value := by
  cases value with
  | null => rfl
  | string text => rfl
  | bool value => exact Value.trimmed_text _
  | number number => exact Value.trimmed_text _
  | array items => exact Value.trimmed_text _
  | object members => exact Value.trimmed_text _

theorem cell_getElem? (items : List Value) (index : Nat) :
    cell items[index]? = (items.map itemText)[index]?.getD "" := by
  rw [List.getElem?_map]
  cases items[index]? with
  | none => rfl
  | some item => exact cell_some item

/-- The texts of items are the texts of cells again. -/
theorem cell_texts (items : List Value) (index : Nat) :
    cell ((items.map itemText).map Value.string)[index]? = cell items[index]? := by
  rw [List.map_map, List.getElem?_map]
  cases items[index]? with
  | none => rfl
  | some item =>
      rw [Option.map_some, cell_some, cell_some]
      exact trimmed_itemText item

/-! ## Rows -/

/-- The columns of a table, each with its name and its cells. -/
abbrev Columns := List (String × List Value)

namespace Columns

variable (columns : Columns)

/-- The length of the longest column. -/
def height : Nat := (columns.map fun column => column.2.length).foldl max 0

/-- The cells at an index of the columns.  A column that has ended adds none. -/
def cells (index : Nat) : List (String × Value) :=
  columns.filterMap fun column => column.2[index]?.map fun item => (column.1, item)

/-- The rows of the columns, up to the end of the longest. -/
def rows : List Value :=
  (List.range columns.height).map fun index => .ofObject (Mapping.ofList (columns.cells index))

/-- The columns with the texts of their cells. -/
def texts : Columns := columns.map fun column => (column.1, (column.2.map itemText).map .string)

theorem height_texts : columns.texts.height = columns.height := by
  simp [height, texts, Function.comp_def]

theorem rows_texts :
    columns.texts.rows = (List.range columns.height).map
      (invoiceLine (columns.map fun column => (column.1, column.2.map itemText))) := by
  rw [rows, height_texts]
  refine List.map_congr_left fun index _ => ?_
  simp [cells, texts, invoiceLine, List.filterMap_map, Function.comp_def]

theorem map_fst_texts : columns.texts.map Prod.fst = columns.map Prod.fst := by
  simp [texts, Function.comp_def]

variable {columns}

theorem map_fst_cells_sublist (index : Nat) :
    ((columns.cells index).map Prod.fst).Sublist (columns.map Prod.fst) := by
  induction columns with
  | nil => exact .slnil
  | cons first rest hypothesis =>
      rw [cells, List.filterMap_cons]
      cases first.2[index]? with
      | none => exact .cons _ hypothesis
      | some item => exact .cons_cons _ hypothesis

theorem valueAt?_cells (distinct : (columns.map Prod.fst).Nodup) {column : String × List Value}
    (member : column ∈ columns) (index : Nat) :
    valueAt? column.1 (columns.cells index) = column.2[index]? := by
  induction columns with
  | nil => cases member
  | cons first rest hypothesis =>
      rw [List.map_cons, List.nodup_cons] at distinct
      obtain ⟨isFirst, distinctRest⟩ := distinct
      rw [cells, List.filterMap_cons]
      rcases List.mem_cons.mp member with rfl | inRest
      · cases column.2[index]? with
        | none =>
            refine valueAt?_eq_none_iff.mpr fun again => isFirst ?_
            exact (map_fst_cells_sublist index).subset again
        | some item => exact if_pos rfl
      · have differ : first.1 ≠ column.1 := fun same => isFirst (same ▸ List.mem_map_of_mem inRest)
        cases first.2[index]? with
        | none => exact hypothesis distinctRest inRest
        | some item => exact (if_neg differ).trans (hypothesis distinctRest inRest)

end Columns

/-- Whether a list has the rows of columns: a row for each index up to the end of the longest
column, with the cells at this index and none for a column that has ended. -/
structure RowsOf (columns : Columns) (rows : List Value) : Prop where
  length : rows.length = columns.height
  cells : ∀ (index : Nat) (row : Value), rows[index]? = some row →
    ∀ column ∈ columns, row.member? column.1 = column.2[index]?

theorem rowsOf_rows {columns : Columns} (distinct : (columns.map Prod.fst).Nodup) :
    RowsOf columns columns.rows := by
  refine ⟨by simp [Columns.rows], fun index row found column member => ?_⟩
  obtain ⟨place, isPlace, rfl⟩ := by simpa [Columns.rows] using found
  obtain ⟨-, rfl⟩ := List.getElem?_eq_some_iff.mp isPlace
  rw [List.getElem_range]
  have lookup : (Mapping.ofList (columns.cells index)).get? column.1 =
      valueAt? column.1 (columns.cells index) :=
    Mapping.get?_ofList ((Columns.map_fst_cells_sublist index).nodup distinct)
  exact lookup.trans (Columns.valueAt?_cells distinct member index)

/-- Whether two rows show the same in the cells of columns. -/
def SameCells (names : List String) (left right : Value) : Prop :=
  ∀ name ∈ names, cell (left.member? name) = cell (right.member? name)

/-- Rows with the cells of columns show the same as rows with their texts. -/
theorem RowsOf.sameCells {columns : Columns} {left right : List Value}
    (isLeft : RowsOf columns left) (isRight : RowsOf columns.texts right) :
    List.Forall₂ (SameCells (columns.map Prod.fst)) left right := by
  have length_eq : left.length = right.length := by
    rw [isLeft.length, isRight.length, Columns.height_texts]
  refine List.forall₂_iff_get.mpr ⟨length_eq, fun index inLeft inRight name isName => ?_⟩
  obtain ⟨column, member, rfl⟩ := List.mem_map.mp isName
  have leftCell := isLeft.cells index _ (List.getElem?_eq_getElem inLeft) column member
  have rightCell := isRight.cells index _ (List.getElem?_eq_getElem inRight) _
    (List.mem_map_of_mem member)
  rw [List.get_eq_getElem, List.get_eq_getElem, leftCell, rightCell, cell_texts]

/-! ## Salaries -/

namespace SalaryRow

theorem getElem?_zipLongest (months salaries : List String) (index : Nat) :
    (zipLongest months salaries)[index]? =
      if index < max months.length salaries.length then
        some ⟨months[index]?.getD "", salaries[index]?.getD ""⟩
      else none := by
  -- the cases are those of the pairing: both lists go on, one of them, or none
  induction months, salaries using zipLongest.induct generalizing index with
  | case1 => simp [zipLongest]
  | case2 month months hypothesis => cases index <;> simp [zipLongest, hypothesis]
  | case3 salary salaries hypothesis => cases index <;> simp [zipLongest, hypothesis]
  | case4 month months salary salaries hypothesis =>
      cases index <;> simp [zipLongest, hypothesis]

end SalaryRow

/-- The columns of a salary table. -/
def salaryColumns (months salaries : List Value) : Columns :=
  [("month", months), ("salary", salaries)]

/-- The rows of a salary table are the pairs of its columns. -/
theorem RowsOf.map_ofValue {months salaries rows : List Value}
    (isRows : RowsOf (salaryColumns months salaries) rows) :
    rows.map SalaryRow.ofValue =
      SalaryRow.zipLongest (months.map itemText) (salaries.map itemText) := by
  have length_eq : rows.length = max months.length salaries.length := by
    simpa [salaryColumns, Columns.height] using isRows.length
  refine List.ext_getElem? fun index => ?_
  rw [SalaryRow.getElem?_zipLongest, List.getElem?_map, List.length_map, List.length_map,
    ← length_eq]
  split
  next inside =>
    have found := List.getElem?_eq_getElem inside
    have month := isRows.cells index _ found _ (.head _)
    have salary := isRows.cells index _ found _ (.tail _ (.head _))
    rw [found, Option.map_some, SalaryRow.ofValue, month, salary, cell_getElem?, cell_getElem?]
  next outside => rw [List.getElem?_eq_none (by omega), Option.map_none]

/-- Whether a payload has a salary table of its own: finished rows, or a list that is not
empty. -/
inductive OwnTable (data : Object) : Prop where
  | html {html : String} : data.get? "salary_breakdown" = some (.string html) →
      Text.blank html = false → OwnTable data
  | rows {first : Value} {rest : List Value} :
      data.get? "salary_breakdown" = some (.array (first :: rest)) → OwnTable data

/-- How a payload gives the cells of a salary table. -/
inductive GivesSalaries (months salaries : List Value) (data : Object) : Prop where
  /-- As two lists. -/
  | lists {givenMonths givenSalaries : Value} :
      data.get? "month_year_list" = some givenMonths → GivesList months givenMonths →
      data.get? "month_salary_list" = some givenSalaries → GivesList salaries givenSalaries →
      ¬ OwnTable data → GivesSalaries months salaries data
  /-- As a list of rows that is not empty. -/
  | rows {first : Value} {rest : List Value} :
      data.get? "salary_breakdown" = some (.array (first :: rest)) →
      RowsOf (salaryColumns months salaries) (first :: rest) → GivesSalaries months salaries data

theorem salaryTable_of_lists {data : Object} (notOwn : ¬ OwnTable data) :
    salaryTable data = salaryHtml (SalaryRow.zipLongest (textList data "month_year_list")
      (textList data "month_salary_list")) := by
  unfold salaryTable
  split
  next html found =>
    split
    next => rfl
    next shown => exact absurd (.html found (by simpa using shown)) notOwn
  next rows found =>
    cases rows with
    | nil => rfl
    | cons first rest => exact absurd (.rows found) notOwn
  next => rfl

/-- A salary table only depends on its cells. -/
theorem salaryTable_of_gives {months salaries : List Value} {data : Object}
    (gives : GivesSalaries months salaries data) :
    salaryTable data =
      salaryHtml (SalaryRow.zipLongest (months.map itemText) (salaries.map itemText)) := by
  cases gives with
  | lists foundMonths months foundSalaries salaries notOwn =>
      rw [salaryTable_of_lists notOwn, textList_of_givesList foundMonths months,
        textList_of_givesList foundSalaries salaries]
  | rows found isRows =>
      rw [← isRows.map_ofValue]
      simp [salaryTable, found]

/-! ## Invoices -/

/-- The columns of the lines of an invoice, from its lists. -/
def lineColumns (lists : String → List Value) : Columns :=
  invoiceLists.map fun entry => (entry.2, lists entry.1)

/-- How a payload gives the cells of the lines of an invoice. -/
inductive GivesLines (lists : String → List Value) (data : Object) : Prop where
  /-- As lists, one for each column. -/
  | lists : (∀ entry ∈ invoiceLists, ∃ given,
        data.get? entry.1 = some given ∧ GivesList (lists entry.1) given) →
      (∀ rows, data.get? "items" ≠ some (.array rows)) → GivesLines lists data
  /-- As a list of rows. -/
  | rows {rows : List Value} : data.get? "items" = some (.array rows) →
      RowsOf (lineColumns lists) rows → GivesLines lists data

theorem invoiceItems_of_lists {lists : String → List Value} {data : Object}
    (given : ∀ entry ∈ invoiceLists, ∃ given,
      data.get? entry.1 = some given ∧ GivesList (lists entry.1) given)
    (notRows : ∀ rows, data.get? "items" ≠ some (.array rows)) :
    invoiceItems data = (lineColumns lists).texts.rows := by
  have columns : (lineColumns lists).map (fun column => (column.1, column.2.map itemText)) =
      invoiceLists.map fun entry => (entry.2, textList data entry.1) := by
    rw [lineColumns, List.map_map]
    refine List.map_congr_left fun entry member => ?_
    obtain ⟨given, found, gives⟩ := given entry member
    exact congrArg (Prod.mk entry.2) (textList_of_givesList found gives).symm
  have height_eq : (lineColumns lists).height =
      ((invoiceLists.map fun entry => (entry.2, textList data entry.1)).map
        fun column => column.2.length).foldl max 0 := by
    rw [← columns]
    simp [Columns.height, Function.comp_def]
  unfold invoiceItems
  split
  next rows found => exact absurd found (notRows rows)
  next => rw [Columns.rows_texts, columns, height_eq]

theorem invoiceRow_congr {left right : Value}
    (same : SameCells (invoiceColumns.map Prod.fst) left right) (number : Nat) :
    invoiceRow number left = invoiceRow number right := by
  unfold invoiceRow
  congr 3
  refine List.map_congr_left fun column member => ?_
  show invoiceCell left column.1 column.2 = invoiceCell right column.1 column.2
  rw [invoiceCell, invoiceCell, same column.1 (List.mem_map_of_mem member)]

theorem invoiceRowsFrom_congr {left right : List Value}
    (same : List.Forall₂ (SameCells (invoiceColumns.map Prod.fst)) left right) (number : Nat) :
    invoiceRowsFrom number left = invoiceRowsFrom number right := by
  induction same generalizing number with
  | nil => rfl
  | cons first rest hypothesis =>
      rw [invoiceRowsFrom, invoiceRowsFrom, invoiceRow_congr first, hypothesis]

theorem invoiceRows_congr {left right : List Value}
    (same : List.Forall₂ (SameCells (invoiceColumns.map Prod.fst)) left right) :
    invoiceRows left = invoiceRows right := by
  cases same with
  | nil => rfl
  | cons first rest => exact invoiceRowsFrom_congr (.cons first rest) 1

/-- The rows of an invoice only depend on the cells of its lines. -/
theorem invoiceRows_of_gives {lists : String → List Value} {data : Object}
    (gives : GivesLines lists data) :
    invoiceRows (invoiceItems data) = invoiceRows (lineColumns lists).texts.rows := by
  cases gives with
  | lists given notRows => rw [invoiceItems_of_lists given notRows]
  | rows found isRows =>
      have distinct : ((lineColumns lists).texts.map Prod.fst).Nodup := by
        rw [Columns.map_fst_texts]
        exact (by decide : (invoiceLists.map Prod.snd).Nodup)
      rw [invoiceItems_of_array found]
      exact invoiceRows_congr (isRows.sameCells (rowsOf_rows distinct))

/-! ## Tables of a render -/

/-- A salary certificate has the rows of its table. -/
theorem get?_normalize_salary_breakdown (data : Object) (facts : Authoritative) :
    (normalize .managerSalary data facts).get? "salary_breakdown" =
      some (.string (salaryTable data)) :=
  get?_normalize_derivedRows facts rfl

/-- The tables of a render are those of the cells that the payload gives, whether it gives them
as arrays, as texts or as rows.  Every list can be given as a text in any layout, and all
columns can be given as rows. -/
theorem normalize_tables (facts : Authoritative) :
    (∀ items layout, (∀ item ∈ items, item.Exact 0) →
      GivesList items (.string (String.ofList ((Value.array items).spaced layout 0)))) ∧
    (∀ columns : Columns, (columns.map Prod.fst).Nodup → RowsOf columns columns.rows) ∧
    (∀ months salaries data, GivesSalaries months salaries data →
      (normalize .managerSalary data facts).get? "salary_breakdown" =
        some (.string (salaryHtml
          (SalaryRow.zipLongest (months.map itemText) (salaries.map itemText))))) ∧
    ∀ lists data, GivesLines lists data →
      (normalize .invoiceSpaBill data facts).get? "items_rows" =
        some (.string (invoiceRows (lineColumns lists).texts.rows)) := by
  refine ⟨fun items layout exact => givesList_spaced exact layout,
    fun columns distinct => rowsOf_rows distinct, fun _ _ data gives => ?_, fun _ data gives => ?_⟩
  · rw [get?_normalize_salary_breakdown, salaryTable_of_gives gives]
  · rw [get?_normalize_items_rows, invoiceRows_of_gives gives]

/-- A payload with two months, of which the second has no salary, as lists in both forms. -/
def listedSalaries : Object :=
  .ofList [("month_salary_list", .string (Value.array [.string "10"]).pretty),
    ("month_year_list", .array [.string "Jan", .number (.integer 2)])]

/-- A payload with the same months as rows. -/
def rowedSalaries : Object :=
  .ofList [("salary_breakdown", .array
    [.object [("month", .string "Jan"), ("salary", .string "10")],
      .object [("month", .number (.integer 2))]])]

/-- Both payloads give one table. -/
theorem normalize_tables_twoMonths :
    (normalize .managerSalary listedSalaries ⟨none, none, none⟩).get? "salary_breakdown" =
      (normalize .managerSalary rowedSalaries ⟨none, none, none⟩).get? "salary_breakdown" := by
  have encoded : GivesList [.string "10"] (.string (Value.array [.string "10"]).pretty) := by
    rw [Value.pretty, ← Value.spaced_indented]
    exact givesList_spaced (List.forall_mem_singleton.mpr (.string _)) .indented
  have lookup (key : String) : listedSalaries.get? key = _ := Mapping.get?_ofList (by decide)
  have listed : GivesSalaries [.string "Jan", .number (.integer 2)] [.string "10"]
      listedSalaries := by
    refine .lists (lookup _) .array (lookup _) encoded ?_
    rintro (found | found) <;> rw [lookup] at found <;> cases found
  have rowed : GivesSalaries [.string "Jan", .number (.integer 2)] [.string "10"]
      rowedSalaries := by
    refine .rows (Mapping.get?_ofList (by decide)) ⟨rfl, ?_⟩
    rintro (_ | _ | index) row found column member <;> cases found
    all_goals
      simp only [salaryColumns, List.mem_cons, List.not_mem_nil, or_false] at member
      rcases member with rfl | rfl <;> rfl
  obtain ⟨-, -, salaries, -⟩ := normalize_tables ⟨none, none, none⟩
  rw [salaries _ _ _ listed, salaries _ _ _ rowed]

end CertPress.Context
