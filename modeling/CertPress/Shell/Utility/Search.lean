import CertPress.Shell.Invocation
import CertPress.Shell.Regex

/-!
# Searching

The utility that prints the lines of files in which one of some patterns is
found.
-/

namespace CertPress.Shell

open ShellAction

/-- What is searched for, and how lines are chosen and shown. -/
structure LineSearch where
  regex : Regex
  ignoresCase : Bool
  wholeWords : Bool
  wholeLines : Bool
  inverts : Bool
  options : Options
  /-- The number of lines shown before and after a chosen one. -/
  before : Nat
  after : Nat
  /-- The greatest number of lines that are chosen. -/
  limit : Option Nat
  withNames : Bool
  deriving Inhabited

namespace LineSearch

/-- A line as it is searched. -/
def searched (search : LineSearch) (line : List Char) : Searched :=
  ⟨line.toArray, search.ignoresCase, true⟩

/-- The longest match at a place that counts. -/
def matchAt? (search : LineSearch) (text : Searched) (start : Nat) : Option Nat :=
  let counts (stop : Nat) : Bool :=
    if search.wholeLines then start == 0 && stop == text.chars.size
    else !search.wholeWords ||
      ((start == 0 || !text.isWord (start - 1)) && !text.isWord stop)
  (((search.regex.ends text ⟨start, []⟩).map (·.position)).filter counts).foldl
    (fun best stop => match best with
      | some known => some (max known stop)
      | none => some stop) none

/-- The first match from a place on, of which there are `count`. -/
def matchFrom? (search : LineSearch) (text : Searched) (start : Nat) : (count : Nat) →
    Option (Nat × Nat)
  | 0 => none
  | count + 1 =>
      match search.matchAt? text start with
      | some stop => some (start, stop)
      | none => search.matchFrom? text (start + 1) count

/-- Whether a line is chosen. -/
def chooses (search : LineSearch) (line : List Char) : Bool :=
  let found := (search.matchFrom? (search.searched line) 0
    (if search.wholeLines then 1 else line.length + 1)).isSome
  found != search.inverts

/-- The places of the matches in a line that are not empty, from a place on.  The
fuel is the length of the line. -/
def matchesFrom (search : LineSearch) (text : Searched) : (fuel start : Nat) → List (Nat × Nat)
  | 0, _ => []
  | fuel + 1, start =>
      match search.matchFrom? text start (text.chars.size + 1 - start) with
      | none => []
      | some (first, last) =>
          if first = last then search.matchesFrom text fuel (first + 1)
          else (first, last) :: search.matchesFrom text fuel last

/-- What stands in front of a line, which is chosen or near a chosen one. -/
def label (search : LineSearch) (name : String) (isChosen : Bool) (number offset : Nat) :
    List Char :=
  let mark := if isChosen then ':' else '-'
  (if search.withNames then name.toList ++ [mark] else []) ++
    (if search.options.has 'n' then Nat.toDigits 10 number ++ [mark] else []) ++
    (if search.options.has 'b' then Nat.toDigits 10 offset ++ [mark] else [])

/-- The lines of a text with their offsets, and whether they are chosen; after
the last one that may be chosen none is. -/
def marked (search : LineSearch) (offset left : Nat) : List (List Char) →
    List (List Char × Nat × Bool)
  | [] => []
  | line :: rest =>
      let isChosen := left != 0 && search.chooses line
      (line, offset, isChosen) ::
        search.marked (offset + line.length + 1) (if isChosen then left - 1 else left) rest

/-- The text that is printed for the lines of a file. -/
def shown (search : LineSearch) (name : String) (lines : List (List Char × Nat × Bool)) :
    List Char :=
  let hasContext := 0 < search.before + search.after && !search.options.has 'o'
  let numbered := lines.zipIdx
  let chosen := numbered.filterMap fun ((_, _, isChosen), index) =>
    if isChosen then some index else none
  let last := chosen.getLast?.getD 0
  let isNear (index : Nat) : Bool := chosen.any fun place =>
    place ≤ index + search.before && index ≤ place + search.after
  let isKept (index : Nat) : Bool :=
    isNear index && (search.limit.isNone || index ≤ last + search.after)
  let kept := if hasContext then numbered.filter fun (_, index) => isKept index
    else numbered.filter fun ((_, _, isChosen), _) => isChosen
  (kept.foldl (fun (previous, text) ((line, offset, isChosen), index) =>
    let gap := match previous with
      | some before => if hasContext && before + 1 < index then ['-', '-', '\n'] else []
      | none => []
    let shown := if search.options.has 'o' then
        if search.inverts then []
        else
          let text := search.searched line
          (search.matchesFrom text (line.length + 1) 0).flatMap fun (first, stop) =>
            search.label name true (index + 1) (offset + first) ++ text.slice first stop ++ ['\n']
      else search.label name isChosen (index + 1) offset ++ line ++ ['\n']
    (some index, text ++ gap ++ shown)) ((none : Option Nat), ([] : List Char))).2

end LineSearch

/-- The long names of the options of a search. -/
def searchNames : List (String × Char) :=
  [("count", 'c'), ("ignore-case", 'i'), ("no-ignore-case", 'N'), ("invert-match", 'v'),
   ("quiet", 'q'), ("silent", 'q'), ("only-matching", 'o'), ("line-number", 'n'),
   ("with-filename", 'H'), ("no-filename", 'h'), ("files-with-matches", 'l'),
   ("files-without-match", 'L'), ("word-regexp", 'w'), ("line-regexp", 'x'),
   ("extended-regexp", 'E'), ("basic-regexp", 'G'), ("fixed-strings", 'F'),
   ("perl-regexp", 'P'), ("regexp", 'e'), ("file", 'f'), ("max-count", 'm'),
   ("after-context", 'A'), ("before-context", 'B'), ("context", 'C'), ("recursive", 'r'),
   ("no-messages", 's'), ("text", 'a'), ("byte-offset", 'b'), ("null", 'Z'), ("color", 'O'),
   ("colour", 'O'), ("include", 'M'), ("exclude", 'X'), ("line-buffered", 'u'),
   ("initial-tab", 'T'), ("binary-files", 'W')]

/-- The arguments of a search in which a number as an option is the size of the
context. -/
def withContextOption (arguments : List String) : List String :=
  arguments.flatMap fun argument =>
    match argument.toList with
    | '-' :: digits =>
        if (Text.decimal? digits).isSome then ["-C", String.ofList digits] else [argument]
    | _ => [argument]

/-- The expression of a list of patterns. -/
def patternsRegex (options : Options) (extended : Bool) (patterns : List (List Char)) :
    Except String Regex := do
  let regexes ← patterns.mapM fun pattern =>
    if options.has 'F' then
      .ok (pattern.foldr (fun char rest => Regex.sequence (.char char) rest) .empty)
    else Regex.ofChars extended pattern
  match regexes with
  | [] => return .among true []
  | first :: rest => return rest.foldl .either first

/-- The files below a directory, in order. -/
def filesBelow (disk : Disk) (directory : String) : List String :=
  match disk.find (pathOf directory) with
  | .ok (location, .directory) =>
      let start := if directory.toList.getLast? == some '/' then directory else directory ++ "/"
      (disk.tree location).map fun name => start ++ inward name
  | _ => [directory]

/-- Search for patterns in files. -/
def searchLines (extended : Bool) (fixed : Option (Char × String)) : Utility := fun call => do
  let name := (call.name.toList.reverse.takeWhile (· != '/')).reverse
  let call := { call with name := String.ofList name }
  let usage : ShellAction Nat := do
    complain "Usage: grep [OPTION]... PATTERNS [FILE]..."
    complain "Try 'grep --help' for more information."
    return 2
  let letters := "civyqonhHlLwxEGFPe:f:m:A:B:C:rRsabZzuTIUO:N"
  match (OptionTable.mk (letters ++ "M:X:W:").toList searchNames true).parse
      (withContextOption (colored call.arguments)) with
  | .error reason =>
      call.complain reason
      usage
  | .ok options => do
      let options := match fixed with
        | some (letter, value) => options.add letter value
        | none => options
      let number (letter : Char) : Except String (Option Nat) :=
        match options.value? letter with
        | none => .ok none
        | some text => match Text.decimal? text.toList with
          | some number => .ok (some number)
          | none => .error (if letter == 'm' then "invalid max count"
              else text ++ ": invalid context length argument")
      let fileTexts ← (options.values 'f').mapM fun path => do return (path, ← textOf path)
      match fileTexts.findSome? fun (path, text) => match text with
          | .error reason => some (path ++ ": " ++ reason)
          | .ok _ => none with
      | some fault =>
          call.complain fault
          return 2
      | none =>
      let written := (options.values 'e').flatMap fun text => Text.split '\n' text.toList
      let listed := fileTexts.flatMap fun (_, text) => (linesOf (text.toOption.getD [])).1
      let isGiven := options.has 'e' || options.has 'f'
      if !isGiven && options.operands.isEmpty then usage
      else
        let patterns := if isGiven then written ++ listed
          else Text.split '\n' (options.operands.headD "").toList
        let operands := if isGiven then options.operands else options.operands.drop 1
        let extended := (extended || options.has 'E' || options.has 'P') && !options.has 'G'
        match patternsRegex options extended patterns, number 'A', number 'B', number 'C',
            number 'm' with
        | .ok regex, .ok after, .ok before, .ok around, .ok limit =>
            let deep := options.has 'r' || options.has 'R'
            let disk := (← get).disk
            let roots := if operands.isEmpty then (if deep then ["."] else ["-"]) else operands
            let targets := if !deep then roots
              else roots.flatMap fun root =>
                if root = "." && operands.isEmpty then
                  (filesBelow disk ".").map fun path => String.ofList (path.toList.drop 2)
                else filesBelow disk root
            let nameMatches (target : String) (letter : Char) : Bool :=
              (options.values letter).any fun glob =>
                let base := (target.toList.reverse.takeWhile (· != '/')).reverse
                (Pattern.ofChars (glob.toList.map fun char => ⟨char, false⟩)).accepts base
            let targets := targets.filter fun target =>
              (!options.has 'M' || nameMatches target 'M') && !nameMatches target 'X'
            let search : LineSearch :=
              { regex
                ignoresCase := options.has 'i' || options.has 'y'
                wholeWords := options.has 'w'
                wholeLines := options.has 'x'
                inverts := options.has 'v'
                options
                before := (before.orElse fun _ => around).getD 0
                after := (after.orElse fun _ => around).getD 0
                limit
                withNames := !options.has 'h' && (options.has 'H' || deep || 1 < operands.length) }
            let (found, failed) ← targets.foldlM (fun (found, failed) target => do
              if found && options.has 'q' then return (found, failed)
              let shownTarget := if target = "-" then "(standard input)" else target
              match ← textOf target with
              | .error reason =>
                  if !options.has 's' || reason = "Is a directory" then
                    call.complain (target ++ ": " ++ reason)
                  return (found, true)
              | .ok text =>
                  let lines := search.marked 0 (limit.getD (text.length + 1)) (linesOf text).1
                  let count := lines.countP fun (_, _, isChosen) => isChosen
                  let isFound := if options.has 'L' then count == 0 else count != 0
                  if options.has 'q' then return (found || count != 0, failed)
                  if options.has 'l' || options.has 'L' then
                    if isFound then call.say (shownTarget ++ "\n").toList
                  else if options.has 'c' then
                    call.say ((if search.withNames then shownTarget ++ ":" else "") ++
                      decimal count ++ "\n").toList
                  else if text.contains '\x00' && !options.has 'a' then
                    if count != 0 then
                      call.say ("grep: " ++ shownTarget ++ ": binary file matches\n").toList
                  else call.say (search.shown shownTarget lines)
                  return (found || isFound, failed)) (false, false)
            if failed && !(found && options.has 'q') then return 2
            return if found then 0 else 1
        | .error fault, _, _, _, _ | _, .error fault, _, _, _ | _, _, .error fault, _, _
        | _, _, _, .error fault, _ | _, _, _, _, .error fault =>
            call.complain fault
            return 2
where
  /-- The arguments in which colors have a value. -/
  colored (arguments : List String) : List String :=
    arguments.map fun argument =>
      if argument = "--color" || argument = "--colour" then "--color=auto" else argument

end CertPress.Shell
