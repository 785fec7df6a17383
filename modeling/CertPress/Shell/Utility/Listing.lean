import CertPress.Shell.Pattern
import CertPress.Shell.Utility.Files

/-!
# Listings

Utilities that print the names of files, and what is known about them.
-/

namespace CertPress.Shell

open ShellAction

/-- The order of names by their bytes. -/
def sortNames (names : List String) : List String :=
  names.mergeSort fun left right => decide (left ≤ right)

/-- The names in a directory, in order. -/
def namesIn (disk : Disk) (path : String) : List String :=
  sortNames (((disk.list (pathOf path)).toOption.getD []).map inward)

/-- The permissions of a file as letters. -/
def modeText (facts : FileFacts) : String :=
  match facts.kind, facts.isExecutable with
  | .directory, _ => "drwxr-xr-x"
  | .device, _ => "crw-rw-rw-"
  | .pipe, _ => "prw-------"
  | .regular, true => "-rwxr-xr-x"
  | .regular, false => "-rw-r--r--"

/-- The number of blocks of a file in kilobytes. -/
def blocksOf (facts : FileFacts) : Nat := (facts.size + 4095) / 4096 * 4

/-- Print the names of files. -/
def listFiles : Utility :=
  withOptions "1AaBCcdFfGghiklmnopQqRrSstUuvXxZ"
    [("all", 'a'), ("almost-all", 'A'), ("directory", 'd'), ("recursive", 'R'), ("reverse", 'r'),
     ("classify", 'F'), ("human-readable", 'h'), ("size", 's'), ("color", 'G'),
     ("quote-name", 'Q'), ("group-directories-first", 'B')] 2 fun call options => do
  let disk := (← get).disk
  let facts (path : String) : Option FileFacts := factsAt? disk (pathOf path)
  let has (letter : Char) : Bool := options.has letter
  let arranged (paths : List (String × String)) : List (String × String) :=
    let byName := if has 'f' || has 'U' then paths
      else paths.mergeSort fun (left, _) (right, _) => decide (left ≤ right)
    let bySize := if has 'S' then byName.mergeSort fun (_, left) (_, right) =>
        decide (((facts right).map (·.size)).getD 0 ≤ ((facts left).map (·.size)).getD 0)
      else byName
    if has 'r' then bySize.reverse else bySize
  let nameText (name path : String) : String :=
    let shown := if has 'Q' then "\"" ++ name ++ "\"" else name
    let mark := match facts path with
      | some ⟨.directory, _, _⟩ => if has 'F' || has 'p' then "/" else ""
      | some ⟨.regular, _, true⟩ => if has 'F' then "*" else ""
      | _ => ""
    shown ++ mark
  let sayNames (entries : List (String × String)) : ShellAction Unit := do
    let known := entries.map fun (name, path) => (name, path, (facts path).getD ⟨.regular, 0, false⟩)
    let widest := (known.map fun (_, _, facts) => (decimal facts.size).length).foldl max 1
    let texts := known.map fun (name, path, facts) =>
      let blocks := if has 's' then decimal (blocksOf facts) ++ " " else ""
      if has 'l' || has 'n' || has 'g' || has 'o' then
        let size := decimal facts.size
        let links := if facts.kind == .directory then "2" else "1"
        let who := if has 'n' then ["0", "0"] else ["root", "root"]
        let owners := (if has 'g' then [] else who.take 1) ++
          (if has 'o' || has 'G' then [] else who.drop 1)
        blocks ++ " ".intercalate ([modeText facts, links] ++ owners ++
          [String.ofList (List.replicate (widest - size.length) ' ') ++ size, "Jan  1 00:00",
           nameText name path])
      else blocks ++ nameText name path
    if has 'm' then
      if !texts.isEmpty then sayLine call (", ".intercalate texts)
    else if (has 'C' || has 'x') && !has 'l' && !has '1' then
      if !texts.isEmpty then sayLine call ("  ".intercalate texts)
    else
      for text in texts do sayLine call text
  let directoryEntries (path : String) : List (String × String) :=
    let inside := (namesIn disk path).filter fun name =>
      name.toList.head? != some '.' || has 'a' || has 'A' || has 'f'
    let around := if has 'a' || has 'f' then [".", ".."] else []
    arranged ((around ++ inside).map fun name => (name, pathIn path name))
  let sayDirectory (path : String) : ShellAction Unit := do
    let entries := directoryEntries path
    if has 'l' || has 's' || has 'n' then
      let total := (entries.map fun (_, path) => ((facts path).map blocksOf).getD 0).foldl (· + ·) 0
      sayLine call ("total " ++ decimal total)
    sayNames entries
  let operands := if options.operands.isEmpty then ["."] else options.operands
  for path in operands do
    if (facts path).isNone then
      let reason := match disk.find (pathOf path) with
        | .error fault => fault.reason
        | .ok _ => ""
      call.complain ("cannot access " ++ quotedName path ++ ": " ++ reason)
  let present := operands.filter fun path => (facts path).isSome
  let isListed (path : String) : Bool := !has 'd' && (facts path).any (·.kind == .directory)
  let files := arranged ((present.filter fun path => !isListed path).map fun path => (path, path))
  let directories := (arranged ((present.filter isListed).map fun path => (path, path))).map (·.1)
  sayNames files
  let all := if has 'R' then directories.flatMap fun path =>
      path :: match disk.find (pathOf path) with
        | .ok (location, _) => (disk.below location).filterMap fun (name, entry) =>
            if entry == Entry.directory then some (pathIn path (inward (String.ofList name))) else none
        | .error _ => []
    else directories
  let headed := has 'R' || 1 < operands.length
  for (path, index) in all.zipIdx do
    if headed then
      if !(index = 0 && files.isEmpty) then sayLine call ""
      sayLine call (path ++ ":")
    sayDirectory path
  return if present.length < operands.length then 2 else 0

/-! ### Facts -/

/-- The text of a path that names its file from the root. -/
def absoluteText (disk : Disk) (path : String) : String :=
  let place := placeOf disk (pathOf path)
  if place.isEmpty then "/" else inward place.key

/-- Print the paths of files from the root. -/
def printRealPaths : Utility :=
  withOptions "emszqLP" [("canonicalize-missing", 'm'), ("canonicalize-existing", 'e')] 1
    fun call options => do
  if options.operands.isEmpty then call.refuse "missing operand" 1
  else
    Invocation.forEach options.operands fun path => do
      let disk := (← get).disk
      let place := placeOf disk (pathOf path)
      let parentExists := isKnown disk place.dropLast
      let isPresent := isKnown disk place
      if path != "" && (options.has 'm' || isPresent || (parentExists && !options.has 'e')) then
        sayLine call (absoluteText disk path)
        return true
      else
        call.complain (shownName path ++ ": No such file or directory")
        return false
where
  /-- Whether there is something at a location. -/
  isKnown (disk : Disk) (place : Location) : Bool :=
    (disk.at? place).isSome || systemDirectories.contains place ||
      (systemFacts? disk ⟨place.key⟩).isSome

/-- Print where links lead. -/
def printLinks : Utility :=
  withOptions "efmnqsvz"
    [("canonicalize", 'f'), ("canonicalize-existing", 'e'), ("canonicalize-missing", 'm'),
     ("no-newline", 'n')] 1 fun call options => do
  if options.operands.isEmpty then call.refuse "missing operand" 1
  else
    Invocation.forEach options.operands fun path => do
      let disk := (← get).disk
      let place := placeOf disk (pathOf path)
      let isKnown := printRealPaths.isKnown disk
      let follows := options.has 'm' || (options.has 'e' && isKnown place) ||
        (options.has 'f' && isKnown place.dropLast)
      if !follows then return false
      call.say ((absoluteText disk path).toList ++ if options.has 'n' then [] else ['\n'])
      return true

/-- The text of a format of facts about a file.  The fuel is its length. -/
def factsText (facts : FileFacts) (path : String) (escapes : Bool) : (fuel : Nat) → List Char →
    List Char
  | 0, _ => []
  | fuel + 1, chars =>
      match chars with
      | [] => []
      | '%' :: letter :: rest =>
          let kind := match facts.kind with
            | .directory => "directory"
            | .device => "character special file"
            | .pipe => "fifo"
            | .regular => if facts.size = 0 then "regular empty file" else "regular file"
          let executable := facts.isExecutable
          let text := match letter with
            | 's' => decimal facts.size
            | 'n' => path
            | 'N' => "'" ++ path ++ "'"
            | 'F' => kind
            | 'a' => if executable then "755" else "644"
            | 'A' => modeText facts
            | 'U' | 'G' => "root"
            | 'u' | 'g' => "0"
            | 'h' => if facts.kind == FileKind.directory then "2" else "1"
            | 'b' => decimal (2 * blocksOf facts)
            | 'B' => "512"
            | 'o' => "4096"
            | '%' => "%"
            | _ => "0"
          text.toList ++ factsText facts path escapes fuel rest
      | '\\' :: 'n' :: rest =>
          if escapes then '\n' :: factsText facts path escapes fuel rest
          else '\\' :: 'n' :: factsText facts path escapes fuel rest
      | '\\' :: 't' :: rest =>
          if escapes then '\t' :: factsText facts path escapes fuel rest
          else '\\' :: 't' :: factsText facts path escapes fuel rest
      | char :: rest => char :: factsText facts path escapes fuel rest

/-- Print facts about files. -/
def printFacts : Utility :=
  withOptions "c:fLtp:" [("format", 'c'), ("printf", 'p'), ("dereference", 'L'), ("terse", 't')] 1
    fun call options => do
  if options.operands.isEmpty then call.refuse "missing operand" 1
  else
    Invocation.forEach options.operands fun path => do
      let disk := (← get).disk
      match factsAt? disk (pathOf path) with
      | none =>
          let reason := match disk.find (pathOf path) with
            | .error fault => fault.reason
            | .ok _ => ""
          call.complain ("cannot statx " ++ quotedName path ++ ": " ++ reason)
          return false
      | some facts =>
          match options.value? 'p', options.value? 'c' with
          | some format, _ =>
              call.say (factsText facts path true (format.length + 1) format.toList)
          | none, some format =>
              call.say (factsText facts path false (format.length + 1) format.toList ++ ['\n'])
          | none, none =>
              sayLine call ("  File: " ++ path)
              sayLine call ("  Size: " ++ decimal facts.size)
          return true

end CertPress.Shell
