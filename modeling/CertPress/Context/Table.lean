import CertPress.Record.Details

/-!
# Table rows

The HTML rows of the two tables that documents show: the monthly salaries of a
salary certificate and the lines of an invoice.  A payload may give either as
finished rows of objects or as parallel lists, one for each column.
-/

namespace CertPress.Context

open Json (Value Object)
open Record (textList)

/-- The text of a table cell: the text of a value without blanks around it. -/
def cell (value : Option Value) : String :=
  match value with
  | some value => Text.trimmed (Markup.textOf value)
  | none => ""

/-- The row that stands for a salary table without rows. -/
def emptySalaryRow : String := "<tr><td>-</td><td>-</td></tr>"

/-- The row that stands for an invoice without lines. -/
def emptyInvoiceRow : String :=
  "<tr><td colspan='6' style='text-align:center;'>No services added</td></tr>"

/-- A row of the salary table. -/
structure SalaryRow where
  month : String
  salary : String
  deriving DecidableEq, Repr, Inhabited

namespace SalaryRow

/-- Whether the row shows something. -/
def shown (row : SalaryRow) : Bool := row.month != "" || row.salary != ""

/-- The HTML of the row. -/
def html (row : SalaryRow) : String :=
  "<tr><td>" ++ row.month ++ "</td><td>" ++ row.salary ++ "</td></tr>"

/-- The row of an object with a month and a salary. -/
def ofValue (value : Value) : SalaryRow :=
  ⟨cell (value.member? "month"), cell (value.member? "salary")⟩

/-- Pair two columns up to the end of the longer one. -/
def zipLongest : List String → List String → List SalaryRow
  | [], [] => []
  | month :: months, [] => ⟨month, ""⟩ :: zipLongest months []
  | [], salary :: salaries => ⟨"", salary⟩ :: zipLongest [] salaries
  | month :: months, salary :: salaries => ⟨month, salary⟩ :: zipLongest months salaries

end SalaryRow

/-- The rows of a salary table, or the row that stands for none. -/
def salaryHtml (rows : List SalaryRow) : String :=
  let html := String.join ((rows.filter SalaryRow.shown).map SalaryRow.html)
  if html = "" then emptySalaryRow else html

/-- The rows of the salary table of a payload.  Finished HTML is kept, and a
list of rows comes before the parallel lists. -/
def salaryTable (data : Object) : String :=
  let parallel := salaryHtml
    (SalaryRow.zipLongest (textList data "month_year_list") (textList data "month_salary_list"))
  match data.get? "salary_breakdown" with
  | some (.string html) => if Text.blank html then parallel else html
  | some (.array rows) =>
      if rows.isEmpty then parallel else salaryHtml (rows.map SalaryRow.ofValue)
  | _ => parallel

/-- The columns of an invoice line in the order of display, each with the text
of an empty cell. -/
def invoiceColumns : List (String × String) :=
  [("description", "-"), ("hsn_code", "-"), ("quantity", "-"), ("rate", "-"),
   ("amount", "0.00")]

/-- The parallel lists of an invoice, each with the column that it fills. -/
def invoiceLists : List (String × String) :=
  [("service_names", "description"), ("hsn_codes", "hsn_code"), ("quantities", "quantity"),
   ("price_rates", "rate"), ("amounts", "amount")]

/-- The line of an invoice at an index of the columns.  A column that has ended
adds no cell. -/
def invoiceLine (columns : List (String × List String)) (index : Nat) : Value :=
  .ofObject (Mapping.ofList (columns.filterMap fun (column, texts) =>
    texts[index]?.map fun text => (column, .string text)))

/-- The lines of the invoice of a payload: its own list of items, or the
parallel lists up to the end of the longest. -/
def invoiceItems (data : Object) : List Value :=
  match data.get? "items" with
  | some (.array items) => items
  | _ =>
      let columns := invoiceLists.map fun (list, column) => (column, textList data list)
      let length := (columns.map fun (_, texts) => texts.length).foldl max 0
      (List.range length).map (invoiceLine columns)

/-- A cell of an invoice line. -/
def invoiceCell (item : Value) (column empty : String) : String :=
  let text := cell (item.member? column)
  "<td>" ++ (if text = "" then empty else text) ++ "</td>"

/-- The row of an invoice line with its number. -/
def invoiceRow (number : Nat) (item : Value) : String :=
  "<tr><td>" ++ String.ofList (Nat.toDigits 10 number) ++ ".</td>" ++
    String.join (invoiceColumns.map fun (column, empty) => invoiceCell item column empty) ++
    "</tr>"

/-- The rows of invoice lines, numbered from a first number. -/
def invoiceRowsFrom (number : Nat) : List Value → String
  | [] => ""
  | item :: rest => invoiceRow number item ++ invoiceRowsFrom (number + 1) rest

/-- The rows of an invoice, or the row that stands for none. -/
def invoiceRows (items : List Value) : String :=
  if items.isEmpty then emptyInvoiceRow else invoiceRowsFrom 1 items

end CertPress.Context
