import CertPress.Shell.Utility.Files
import CertPress.Shell.Utility.Lines

/-!
# Comparisons

Utilities that say where two files differ.
-/

namespace CertPress.Shell

open ShellAction

/-! ### Bytes -/

/-- How many bytes two texts have in common at their start. -/
def commonLength : List Char → List Char → Nat
  | left :: others, right :: more => if left == right then commonLength others more + 1 else 0
  | _, _ => 0

/-- Say where two files differ first. -/
def compareBytes : Utility :=
  withOptions "sln:bi:" [("silent", 's'), ("quiet", 's'), ("verbose", 'l'), ("bytes", 'n'),
    ("print-bytes", 'b'), ("ignore-initial", 'i')] 2 fun call options => do
  match options.operands with
  | [] => do
      call.complain ("missing operand after " ++ quotedName call.name)
      call.complain ("Try '" ++ call.name ++ " --help' for more information.")
      return 2
  | first :: others => do
      let second := others.headD "-"
      let read (path : String) : ShellAction (Option (List Char)) := do
        match ← textOf path with
        | .ok text => return some text
        | .error reason =>
            if !options.has 's' then call.complain (path ++ ": " ++ reason)
            return none
      match ← read first with
      | none => return 2
      | some left =>
      match ← read second with
      | none => return 2
      | some right =>
      let limit (text : List Char) : List Char :=
        let skipped := text.drop (((options.value? 'i').bind (Text.decimal? ·.toList)).getD 0)
        match (options.value? 'n').bind (Text.decimal? ·.toList) with
        | some count => skipped.take count
        | none => skipped
      let (left, right) := (limit left, limit right)
      if left == right then return 0
      else if options.has 's' then return 1
      else
        let octal (char : Char) : String := String.ofList (Nat.toDigits 8 char.toNat)
        let padded (text : String) : String :=
          String.ofList (List.replicate (3 - text.length) ' ') ++ text
        let place := commonLength left right
        let short := if left.length < right.length then first else second
        let line (count : Nat) : Nat := (left.take count).count '\n'
        let ended : ShellAction Unit := do
          if left.length != right.length then
            let common := min left.length right.length
            let lines := line common
            call.complain ("EOF on " ++ short ++ if common = 0 then " which is empty"
              else " after byte " ++ decimal common ++
                (if options.has 'l' then ""
                  else if (left.take common).getLast? == some '\n' then
                    ", line " ++ decimal lines
                  else ", in line " ++ decimal (lines + 1)))
        if options.has 'l' then
          let width := (decimal (max left.length right.length)).length
          for ((one, other), index) in (left.zip right).zipIdx do
            if one != other then
              let number := decimal (index + 1)
              sayLine call (String.ofList (List.replicate (width - number.length) ' ') ++ number ++
                " " ++ padded (octal one) ++ " " ++ padded (octal other))
          ended
        else match left[place]?, right[place]? with
          | some one, some other =>
              let bytes := if options.has 'b' then
                  " is " ++ padded (octal one) ++ " " ++ String.singleton one ++ " " ++
                    padded (octal other) ++ " " ++ String.singleton other
                else ""
              sayLine call (first ++ " " ++ second ++ " differ: " ++
                (if options.has 'b' then "byte " else "char ") ++ decimal (place + 1) ++
                ", line " ++ decimal (line place + 1) ++ bytes)
          | _, _ => ended
        return 1

/-! ### Lines -/

/-- A run of lines of which the first text has some and the second has others:
where the lines start and how many there are. -/
structure LineChange where
  leftStart : Nat
  leftCount : Nat
  rightStart : Nat
  rightCount : Nat
  deriving DecidableEq, Repr, Inhabited

/-- The lengths of the longest common sequences of a list with the ends of another
one, the longest end first.  `below` has them for the rest of the list. -/
def commonRow {α : Type} [BEq α] (item : α) (below : List Nat) : List α → List Nat
  | [] => [0]
  | other :: rest =>
      let row := commonRow item (below.drop 1) rest
      (if item == other then (below.drop 1).headD 0 + 1
        else max (below.headD 0) (row.headD 0)) :: row

/-- The lengths of the longest common sequences of all ends of two lists. -/
def commonTable {α : Type} [BEq α] (right : List α) : List α → List (List Nat)
  | [] => [List.replicate (right.length + 1) 0]
  | item :: rest =>
      match commonTable right rest with
      | below :: rows => commonRow item below right :: below :: rows
      | [] => []

/-- The changes that lead from one list to another.  `table` belongs to the ends of
the first list; `leftAt` and `rightAt` are the places reached, and `open?` is the
change that has been begun.  The fuel is the number of items. -/
def changesFrom {α : Type} [BEq α] : (fuel : Nat) → (table : List (List Nat)) →
    (left right : List α) → (leftAt rightAt : Nat) → (begun : Option LineChange) → List LineChange
  | 0, _, _, _, _, _, begun => begun.toList
  | fuel + 1, table, left, right, leftAt, rightAt, begun =>
      let change := begun.getD ⟨leftAt, 0, rightAt, 0⟩
      match left, right with
      | [], [] => begun.toList
      | _ :: rest, [] =>
          changesFrom fuel (table.drop 1) rest [] (leftAt + 1) rightAt
            (some { change with leftCount := change.leftCount + 1 })
      | [], _ :: rest =>
          changesFrom fuel (table.map (·.drop 1)) [] rest leftAt (rightAt + 1)
            (some { change with rightCount := change.rightCount + 1 })
      | first :: others, second :: more =>
          if first == second then
            begun.toList ++ changesFrom fuel ((table.drop 1).map (·.drop 1)) others more (leftAt + 1)
              (rightAt + 1) none
          else
            let skipLeft := (table.getD 1 []).headD 0
            let skipRight := (table.headD []).getD 1 0
            if skipRight ≤ skipLeft then
              changesFrom fuel (table.drop 1) others (second :: more) (leftAt + 1) rightAt
                (some { change with leftCount := change.leftCount + 1 })
            else
              changesFrom fuel (table.map (·.drop 1)) (first :: others) more leftAt (rightAt + 1)
                (some { change with rightCount := change.rightCount + 1 })

/-- A line, and whether it has an end. -/
abbrev EndedLine := List Char × Bool

/-- The lines of a text with whether they have an end. -/
def endedLines (text : List Char) : List EndedLine :=
  let (lines, isEnded) := linesOf text
  lines.zipIdx.map fun (line, index) => (line, isEnded || decide (index + 1 < lines.length))

/-- A line of a listing of changes. -/
def changedLine (mark : List Char) (line : EndedLine) : List Char :=
  mark ++ line.1 ++ (if line.2 then ['\n'] else "\n\\ No newline at end of file\n".toList)

/-- The numbers of a run of lines. -/
def lineRangeText (start count : Nat) : String :=
  if count = 0 then decimal start
  else if count = 1 then decimal (start + 1)
  else decimal (start + 1) ++ "," ++ decimal (start + count)

/-- A change as it is printed plainly. -/
def plainChange (left right : List EndedLine) (change : LineChange) : List Char :=
  let kind := if change.leftCount = 0 then "a" else if change.rightCount = 0 then "d" else "c"
  let old := (left.drop change.leftStart).take change.leftCount
  let new := (right.drop change.rightStart).take change.rightCount
  (lineRangeText change.leftStart change.leftCount ++ kind ++
    lineRangeText change.rightStart change.rightCount ++ "\n").toList ++
    old.flatMap (changedLine ['<', ' ']) ++
    (if kind = "c" then "---\n".toList else []) ++ new.flatMap (changedLine ['>', ' '])

/-- Changes in groups that share lines around them. -/
def changeGroups (context : Nat) : List LineChange → List (List LineChange)
  | [] => []
  | change :: rest =>
      match changeGroups context rest with
      | (next :: others) :: groups =>
          if next.leftStart ≤ change.leftStart + change.leftCount + 2 * context then
            (change :: next :: others) :: groups
          else [change] :: (next :: others) :: groups
      | groups => [change] :: groups

/-- A group of changes with the lines around them. -/
def unifiedGroup (context : Nat) (left right : List EndedLine) (group : List LineChange) :
    List Char :=
  match group.head?, group.getLast? with
  | some first, some last =>
      let before := min context first.leftStart
      let start := first.leftStart - before
      let rightStart := first.rightStart - before
      let leftStop := min left.length (last.leftStart + last.leftCount + context)
      let rightStop := min right.length (last.rightStart + last.rightCount + context)
      let range (start count : Nat) : String :=
        if count = 0 then decimal start ++ ",0"
        else if count = 1 then decimal (start + 1)
        else decimal (start + 1) ++ "," ++ decimal count
      let (place, body) := group.foldl (fun (place, body) change =>
        (change.leftStart + change.leftCount,
          body ++ ((left.drop place).take (change.leftStart - place)).flatMap (changedLine [' ']) ++
            ((left.drop change.leftStart).take change.leftCount).flatMap (changedLine ['-']) ++
            ((right.drop change.rightStart).take change.rightCount).flatMap (changedLine ['+'])))
        (start, [])
      ("@@ -" ++ range start (leftStop - start) ++ " +" ++
        range rightStart (rightStop - rightStart) ++ " @@\n").toList ++ body ++
        ((left.drop place).take (leftStop - place)).flatMap (changedLine [' '])
  | _, _ => []

/-- Print the lines in which two files differ. -/
def compareLines : Utility :=
  withOptions "qsuU:c:iwbBrNaedyntT"
    [("brief", 'q'), ("report-identical-files", 's'), ("unified", 'u'), ("ignore-case", 'i'),
     ("ignore-all-space", 'w'), ("ignore-space-change", 'b'), ("ignore-blank-lines", 'B'),
     ("recursive", 'r'), ("new-file", 'N'), ("text", 'a')] 2 fun call options => do
  let refuse (after : String) : ShellAction Nat := do
    call.complain ("missing operand after " ++ quotedName after)
    call.complain ("Try '" ++ call.name ++ " --help' for more information.")
    return 2
  match options.operands with
  | [] => refuse call.name
  | [first] => refuse first
  | first :: second :: _ => do
      let isDirectory (path : String) : ShellAction Bool := isDirectoryAt path
      let (first, second) ← do
        match ← isDirectory first, ← isDirectory second with
        | true, false => pure (pathIn first (lastPart second ""), second)
        | false, true => pure (first, pathIn second (lastPart first ""))
        | _, _ => pure (first, second)
      let read (path : String) : ShellAction (Option (List Char)) := do
        match ← textOf path with
        | .ok text => return some text
        | .error reason =>
            if options.has 'N' then return some []
            call.complain (path ++ ": " ++ reason)
            return none
      match ← read first, ← read second with
      | some leftText, some rightText =>
          let isBlank (char : Char) : Bool := char == ' ' || char == '\t' || char == '\r'
          let rec collapse : List Char → List Char
            | one :: two :: rest =>
                if isBlank one && isBlank two then collapse (' ' :: rest)
                else one :: collapse (two :: rest)
            | [one] => if isBlank one then [] else [one]
            | [] => []
          termination_by chars => chars.length
          let keyOf (line : EndedLine) : EndedLine :=
            let folded := if options.has 'i' then line.1.map Char.toLower else line.1
            if options.has 'w' then (folded.filter fun char => !isBlank char, true)
            else if options.has 'b' then (collapse folded, true)
            else (folded, line.2)
          let (left, right) := (endedLines leftText, endedLines rightText)
          let (leftKeys, rightKeys) := (left.map keyOf, right.map keyOf)
          let changes := changesFrom (left.length + right.length + 1)
            (commonTable rightKeys leftKeys) leftKeys rightKeys 0 0 none
          if changes.isEmpty then
            if options.has 's' then
              sayLine call ("Files " ++ first ++ " and " ++ second ++ " are identical")
            return 0
          else if options.has 'q' then
            sayLine call ("Files " ++ first ++ " and " ++ second ++ " differ")
            return 1
          else
            let context := (options.value? 'U').bind (Text.decimal? ·.toList)
            if options.has 'u' || context.isSome then
              let size := context.getD 3
              call.say ("--- " ++ first ++ "\n+++ " ++ second ++ "\n").toList
              call.say ((changeGroups size changes).flatMap (unifiedGroup size left right))
            else call.say (changes.flatMap (plainChange left right))
            return 1
      | _, _ => return 2

end CertPress.Shell
