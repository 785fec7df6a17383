import CertPress.Json.Decoder

/-!
# Print styles

The page setup that every PDF program shares, and the stylesheet made from it.
-/

namespace CertPress.Print

open Json (Value Decoder Fields)

/-- Page size, page margin and the font stack of the body. -/
structure Styles where
  pageSize : String
  margin : String
  fontFamily : String
  deriving DecidableEq, Repr, Inhabited

namespace Styles

/-- The styles when none are configured. -/
def default : Styles := ⟨"A4", "0", "Arial, sans-serif"⟩

/-- The stylesheet that goes into every PDF. -/
def stylesheet (styles : Styles) : String :=
  "@page \x7b\n    size: " ++ styles.pageSize ++ ";\n    margin: " ++ styles.margin ++
  ";\n\x7d\nbody \x7b\n    margin: 0;\n    padding: 0;\n    font-family: " ++ styles.fontFamily ++
  ";\n    width: 100%;\n    overflow: hidden;\n    hyphens: none;\n\x7d\n" ++
  "* \x7b\n    -webkit-print-color-adjust: exact;\n    print-color-adjust: exact;\n" ++
  "    color-adjust: exact;\n\x7d\nimg \x7b\n    max-width: 100%;\n    height: auto;\n\x7d\n" ++
  "table \x7b\n    border-collapse: collapse;\n    width: 100%;\n\x7d\n"

/-- The fields of the styles. -/
def fields : List (String × Json.Check) :=
  [("page_size", Decoder.text.check), ("margin", Decoder.text.check),
   ("font_family", Decoder.text.check)]

/-- Read styles; every field may be left out. -/
def decoder : Decoder Styles := fun depth raw => do
  let fields ← Fields.ofRaw fields depth raw
  return {
    pageSize := ← fields.withDefault "page_size" default.pageSize Decoder.text
    margin := ← fields.withDefault "margin" default.margin Decoder.text
    fontFamily := ← fields.withDefault "font_family" default.fontFamily Decoder.text }

/-- The record of the styles. -/
def toValue (styles : Styles) : Value :=
  .object
    [("page_size", .string styles.pageSize), ("margin", .string styles.margin),
     ("font_family", .string styles.fontFamily)]

end Styles

end CertPress.Print
