import CertPress.Files.Disk
import CertPress.Url.Path

/-!
# Fonts

The font files of a directory as `@font-face` rules.  Each file is one family
with the name of the file; families are listed in the order of their names.
-/

namespace CertPress.Print

/-- A font file. -/
structure Font where
  family : String
  address : String
  format : String
  deriving DecidableEq, Repr, Inhabited

namespace Font

/-- The formats of font files by the extension of the file. -/
def formats : List (String × String) :=
  [("ttf", "truetype"), ("otf", "opentype"), ("woff", "woff"), ("woff2", "woff2")]

/-- The font of a file, if its extension is one of a font format. -/
def ofPath? (path : FilePath) : Option Font := do
  let format ← valueAt? (Text.lowerAscii (← path.extension?)) formats
  return ⟨← path.stem?, ← path.fileUrl?, format⟩

/-- The `@font-face` rule of the font. -/
def rule (font : Font) : String :=
  "@font-face \x7b\n    font-family: \"" ++ font.family ++ "\";\n    src: url(\"" ++
    font.address ++ "\") format(\"" ++ font.format ++ "\");\n\x7d\n"

end Font

/-- The fonts that a program can use besides the installed ones. -/
abbrev Fonts := List Font

namespace Fonts

/-- The rules of all fonts. -/
def css (fonts : Fonts) : String := String.join (fonts.map Font.rule)

/-- The fonts among the names of a directory, sorted by family. -/
def ofNames (directory : FilePath) (names : List String) : Fonts :=
  (names.filterMap fun name => Font.ofPath? (directory.join name)).mergeSort
    fun left right => decide (left.family ≤ right.family)

/-- The fonts of a directory.  Without a readable directory there are none. -/
def load (directory : Option FilePath) (disk : Disk) : Fonts :=
  match directory with
  | none => []
  | some path =>
      match disk.list path with
      | .ok names => ofNames path names
      | .error _ => []

end Fonts

end CertPress.Print
