import CertPress.Text.Ascii
import CertPress.Text.Blank
import CertPress.Text.Pieces

/-!
# Page options and documents

A PDF program that does not read page rules gets the page size and the margins
as options, and the print stylesheet inside the document.
-/

namespace CertPress.Print

/-- The orientation that a word of a page size names. -/
def orientation? (word : List Char) : Option String :=
  if Text.equalIgnoringCase word "landscape".toList then some "Landscape"
  else if Text.equalIgnoringCase word "portrait".toList then some "Portrait"
  else none

/-- The name of a paper size with a capital. -/
def paperName : List Char → String
  | [] => ""
  | first :: rest => String.ofList (first.toUpper :: rest)

/-- The options for the words of a page size that are no orientation: a width
and a height, or the name of a paper size. -/
def sizeOptions (words : List (List Char)) : List String :=
  match words with
  | [width, height] =>
      ["--page-width", String.ofList width, "--page-height", String.ofList height]
  | [name] => ["--page-size", paperName name]
  | _ => ["--page-size", "A4"]

/-- The lengths of a margin at the top, right, bottom and left.  One length
counts for all sides, two for opposite sides, and of three the second for both
sides. -/
def marginSides (lengths : List (List Char)) : List (List Char) :=
  match lengths with
  | [] => [['0'], ['0'], ['0'], ['0']]
  | [all] => [all, all, all, all]
  | [vertical, horizontal] => [vertical, horizontal, vertical, horizontal]
  | [top, horizontal, bottom] => [top, horizontal, bottom, horizontal]
  | top :: right :: bottom :: left :: _ => [top, right, bottom, left]

/-- The options for a page size and a margin. -/
def pageOptions (pageSize margin : String) : List String :=
  let words := Text.words pageSize.toList
  let orientations := (words.filterMap orientation?).flatMap fun name => ["--orientation", name]
  let sides := (["-T", "-R", "-B", "-L"].zip (marginSides (Text.words margin.toList))).flatMap
    fun (flag, length) => [flag, String.ofList length]
  orientations ++ sizeOptions (words.filter fun word => (orientation? word).isNone) ++ sides

/-- The start of a document type. -/
def doctypeStart : List Char := "<!doctype".toList

/-- A document without the document type at its start. -/
def withoutDoctype (html : String) : String :=
  let chars := Text.trimStart html.toList
  if Text.equalIgnoringCase (chars.take doctypeStart.length) doctypeStart then
    match Text.cut? ['>'] chars with
    | some (_, rest) => String.ofList (Text.trimStart rest)
    | none => html
  else html

/-- The end of a document's head. -/
def headEnd : List Char := "</head>".toList

/-- A document with a stylesheet at the end of its head, or at its start if it
has no head. -/
def withStylesheet (html stylesheet : String) : String :=
  let style := "<style>\n" ++ stylesheet ++ "</style>\n"
  let chars := html.toList
  match Text.cut? headEnd (chars.map Char.toLower) with
  | some (before, _) =>
      String.ofList (chars.take before.length) ++ style ++
        String.ofList (chars.drop before.length)
  | none => style ++ html

end CertPress.Print
