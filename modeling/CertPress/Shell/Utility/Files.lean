import CertPress.Shell.Redirection
import CertPress.Shell.Utility.Plain

/-!
# Files

Utilities that copy, move, make, change and remove files and directories.
-/

namespace CertPress.Shell

open ShellAction

/-- Change the disk, and complain if that fails. -/
def changeDisk (call : Invocation) (action : ExceptT DiskFault (StateM Disk) Unit)
    (describe : String → String) : ShellAction Bool := do
  match ← onDisk action with
  | .ok _ => return true
  | .error fault =>
      call.complain (describe fault.reason)
      return false

/-- What a path leads to, or why it leads nowhere. -/
def entryAt (path : String) : ShellAction (Except DiskFault (Location × Entry)) := do
  return (← get).disk.find (pathOf path)

/-- Whether a path leads to a directory. -/
def isDirectoryAt (path : String) : ShellAction Bool := do
  return (factsAt? (← get).disk (pathOf path)).any (·.kind == .directory)

/-- Whether a directory holds nothing. -/
def isEmptyDirectory (disk : Disk) (location : Location) : Bool := (disk.below location).isEmpty

/-- Copy everything below a location to below another one. -/
def copyBelow (source target : Location) : ExceptT DiskFault (StateM Disk) Unit := fun disk =>
  let start := target.key
  (.ok (), (disk.below source).foldl (fun changed (name, entry) =>
    { changed with
      entries := changed.entries.insert (start ++ "/" ++ String.ofList name) entry })
    (disk.set target .directory))

/-- The path of a file with a name in a directory. -/
def pathIn (directory name : String) : String :=
  if directory.toList.getLast? == some '/' then directory ++ name else directory ++ "/" ++ name

/-- The sources of a utility and the path to which each of them goes; none if that
was refused. -/
def destinations? (call : Invocation) (options : Options) :
    ShellAction (Except Nat (List (String × String))) := do
  let refuse (text : String) : ShellAction (Except Nat (List (String × String))) := do
    return .error (← call.refuse text 1)
  let into (directory : String) (sources : List String) : List (String × String) :=
    sources.map fun source => (source, pathIn directory (lastPart source ""))
  match options.value? 't', options.operands with
  | some directory, sources =>
      let refuseDirectory (reason : String) : ShellAction (Except Nat (List (String × String))) := do
        call.complain ("target directory " ++ quotedName directory ++ ": " ++ reason)
        return .error 1
      if sources.isEmpty then refuse "missing file operand"
      else if ← isDirectoryAt directory then return .ok (into directory sources)
      else match ← entryAt directory with
        | .ok _ => refuseDirectory "Not a directory"
        | .error fault => refuseDirectory fault.reason
  | none, [] => refuse "missing file operand"
  | none, [source] => refuse ("missing destination file operand after " ++ quotedName source)
  | none, [source, target] =>
      if !options.has 'T' && (← isDirectoryAt target) then return .ok (into target [source])
      else return .ok [(source, target)]
  | none, operands =>
      let target := operands.getLast?.getD ""
      if ← isDirectoryAt target then return .ok (into target operands.dropLast)
      else
        let reason := match ← entryAt target with
          | .ok _ => "Not a directory"
          | .error fault => fault.reason
        call.complain ("target " ++ quotedName target ++ ": " ++ reason)
        return .error 1

/-- Ask a question, to which a line of the input is the answer. -/
def confirm (question : String) : ShellAction Bool := do
  let _ ← print 2 (octets question.toList)
  let content := ((← remaining? 0).map (·.content)).getD []
  let line := content.takeWhile (· != 10)
  leaveOf 0 (content.drop (line.length + 1))
  return line.head? == some 121 || line.head? == some 89

/-- Whether a location is another one or below it. -/
def isWithin (location outer : Location) : Bool := outer.isPrefixOf location

/-- Copy a file or directory. -/
def copyOne (call : Invocation) (options : Options) (source target : String) : ShellAction Bool := do
  let fail (text : String) : ShellAction Bool := do
    call.complain text
    return false
  let deep := options.has 'r' || options.has 'R' || options.has 'a'
  let announce : ShellAction Unit :=
    if options.has 'v' then sayLine call (quotedName source ++ " -> " ++ quotedName target)
    else return
  let old ← entryAt target
  let isRegular := match old with
    | .ok (_, .file _ _) => true
    | _ => false
  if isRegular && options.has 'n' then return true
  if isRegular && options.has 'i' then
    if !(← confirm (call.name ++ ": overwrite " ++ quotedName target ++ "? ")) then return false
  let writeContent (content : Bytes) (executable : Bool) : ShellAction Bool := do
    match old with
    | .ok (_, .directory) =>
        fail ("cannot overwrite directory " ++ quotedName target ++ " with non-directory")
    | _ =>
        if target.toList.getLast? == some '/' then
          fail ("cannot create regular file " ++ quotedName target ++ ": Not a directory")
        else
          let kept := match old with
            | .ok (_, .file _ known) => if options.has 'p' || options.has 'a' then executable
                else known
            | _ => executable
          announce
          if target = "/dev/null" then return true
          match descriptorOf? target with
          | some descriptor => print descriptor content
          | none =>
              changeDisk call (Disk.write (pathOf target) content kept) fun reason =>
                "cannot create regular file " ++ quotedName target ++ ": " ++ reason
  match ← entryAt source with
  | .error fault =>
      let isOpen := (factsAt? (← get).disk (pathOf source)).any (·.kind == .device) ||
        (descriptorOf? source).isSome
      if !isOpen then fail ("cannot stat " ++ quotedName source ++ ": " ++ fault.reason)
      else match ← contentOf source with
        | .ok content => writeContent content false
        | .error reason => fail ("error reading " ++ quotedName source ++ ": " ++ reason)
  | .ok (location, .file content executable) =>
      if (old.toOption.map (·.1)) == some location then
        fail (quotedName source ++ " and " ++ quotedName target ++ " are the same file")
      else writeContent content executable
  | .ok (location, .directory) =>
      if !deep then fail ("-r not specified; omitting directory " ++ quotedName source)
      else match old with
        | .ok (_, .file _ _) =>
            fail ("cannot overwrite non-directory " ++ quotedName target ++ " with directory " ++
              quotedName source)
        | _ =>
            let disk := (← get).disk
            match disk.locate (pathOf (withoutSlashes target)) with
            | .error fault =>
                fail ("cannot create directory " ++ quotedName target ++ ": " ++ fault.reason)
            | .ok place =>
                if isWithin place location then
                  fail ("cannot copy a directory, " ++ quotedName source ++ ", into itself, " ++
                    quotedName target)
                else if disk.at? place.dropLast != some .directory then
                  fail ("cannot create directory " ++ quotedName target ++
                    ": No such file or directory")
                else
                  announce
                  let _ ← onDisk (copyBelow location place)
                  return true

/-- Copy files. -/
def copyFiles : Utility :=
  withOptions "abdfHilLnPprRst:TuvxZ"
    [("recursive", 'r'), ("archive", 'a'), ("force", 'f'), ("no-clobber", 'n'),
     ("interactive", 'i'), ("preserve", 'p'), ("target-directory", 't'),
     ("no-target-directory", 'T'), ("update", 'u'), ("verbose", 'v'), ("link", 'l'),
     ("symbolic-link", 's'), ("dereference", 'L')] 1 fun call options => do
  match ← destinations? call options with
  | .error status => return status
  | .ok pairs => Invocation.forEach pairs fun (source, target) => copyOne call options source target

/-- Move a file or directory. -/
def moveOne (call : Invocation) (options : Options) (source target : String) : ShellAction Bool := do
  let fail (text : String) : ShellAction Bool := do
    call.complain text
    return false
  let failMove (reason : String) : ShellAction Bool :=
    fail ("cannot move " ++ quotedName source ++ " to " ++ quotedName target ++ ": " ++ reason)
  let old ← entryAt target
  match ← entryAt source with
  | .error fault => fail ("cannot stat " ++ quotedName source ++ ": " ++ fault.reason)
  | .ok (location, entry) =>
      let isRegular := match entry with
        | .file _ _ => true
        | .directory => false
      if old.isOk && options.has 'n' then return true
      let disk := (← get).disk
      match disk.locate (pathOf (withoutSlashes target)), old with
      | .error fault, _ => failMove fault.reason
      | .ok place, old =>
          let isOldRegular := match old with
            | .ok (_, .file _ _) => true
            | _ => false
          let isOldDirectory := old.isOk && !isOldRegular
          if place = location && isRegular then
            fail (quotedName source ++ " and " ++ quotedName target ++ " are the same file")
          else if !isRegular && isWithin place location then
            fail ("cannot move " ++ quotedName source ++ " to a subdirectory of itself, " ++
              quotedName target)
          else if isRegular && isOldDirectory then
            fail ("cannot overwrite directory " ++ quotedName target ++ " with non-directory")
          else if !isRegular && isOldRegular then
            fail ("cannot overwrite non-directory " ++ quotedName target ++ " with directory " ++
              quotedName source)
          else if isOldDirectory && !isEmptyDirectory disk place then
            fail ("cannot overwrite " ++ quotedName target ++ ": Directory not empty")
          else match disk.at? place.dropLast with
            | none => failMove "No such file or directory"
            | some (.file _ _) => failMove "Not a directory"
            | some .directory =>
                if isRegular && target.toList.getLast? == some '/' then failMove "Not a directory"
                else
                  let moved : ExceptT DiskFault (StateM Disk) Unit := do
                    if !isRegular then copyBelow location place
                    else modify (·.set place entry)
                    Disk.removeAll ⟨if location.isEmpty then "/" else location.key⟩
                  let _ ← onDisk moved
                  if options.has 'v' then
                    sayLine call ("renamed " ++ quotedName source ++ " -> " ++ quotedName target)
                  return true

/-- Move files. -/
def moveFiles : Utility :=
  withOptions "bfint:TuvZ"
    [("force", 'f'), ("interactive", 'i'), ("no-clobber", 'n'), ("target-directory", 't'),
     ("no-target-directory", 'T'), ("update", 'u'), ("verbose", 'v')] 1 fun call options => do
  match ← destinations? call options with
  | .error status => return status
  | .ok pairs => Invocation.forEach pairs fun (source, target) => moveOne call options source target

/-- The paths of everything below a directory and of the directory itself, the
inner ones first, with whether they are directories. -/
def pathsFromInside (disk : Disk) (path : String) (location : Location) : List (String × Bool) :=
  ((disk.below location).reverse.map fun (name, entry) =>
    (pathIn path (inward (String.ofList name)), entry == .directory)) ++ [(path, true)]

/-- Remove files, or directories with everything in them. -/
def removeFiles : Utility :=
  withOptions "dfirRvI"
    [("force", 'f'), ("recursive", 'r'), ("dir", 'd'), ("verbose", 'v'), ("interactive", 'i')] 1
    fun call options => do
  let deep := options.has 'r' || options.has 'R'
  let force := options.has 'f'
  if options.operands.isEmpty && !force then call.refuse "missing operand" 1
  else
    Invocation.forEach options.operands fun path => do
      let fail (text : String) : ShellAction Bool := do
        call.complain text
        return false
      let failed (reason : String) : ShellAction Bool :=
        fail ("cannot remove " ++ quotedName path ++ ": " ++ reason)
      let removed (what : String) (path : String) : ShellAction Unit :=
        if options.has 'v' then sayLine call ("removed " ++ what ++ quotedName path) else return
      let last := lastPart path ""
      match ← entryAt path with
      | .error fault =>
          if force && (fault == .notFound || fault == .notDirectory) then return true
          else failed fault.reason
      | .ok (_, .file content _) =>
          let kind := if content.isEmpty then "regular empty file " else "regular file "
          if options.has 'i' then
            if !(← confirm (call.name ++ ": remove " ++ kind ++ quotedName path ++ "? ")) then
              return true
          let _ ← onDisk (Disk.remove (pathOf path))
          removed "" path
          return true
      | .ok (location, .directory) =>
          if deep && (last = "." || last = "..") then
            fail ("refusing to remove '.' or '..' directory: skipping " ++ quotedName path)
          else if deep && location.isEmpty then
            call.complain "it is dangerous to operate recursively on '/'"
            fail "use --no-preserve-root to override this failsafe"
          else if deep then
            for (inner, isDirectory) in pathsFromInside (← get).disk (withoutSlashes path) location do
              removed (if isDirectory then "directory " else "") inner
            let _ ← onDisk (Disk.removeAll (pathOf path))
            return true
          else if options.has 'd' then
            if isEmptyDirectory (← get).disk location then
              let _ ← onDisk (Disk.removeAll (pathOf path))
              removed "directory " path
              return true
            else failed "Directory not empty"
          else failed "Is a directory"

/-- Remove one file. -/
def removeOne : Utility := fun call => do
  match call.arguments with
  | [path] =>
      let done ← changeDisk call (Disk.remove (pathOf path)) fun reason =>
        "cannot unlink " ++ quotedName path ++ ": " ++ reason
      return if done then 0 else 1
  | [] => call.refuse "missing operand" 1
  | _ :: extra :: _ => call.refuse ("extra operand " ++ quotedName extra) 1

/-- The paths of the directories on the way to a path, and the path itself. -/
def pathsOnTheWay (path : String) : List String :=
  let pieces := Text.split '/' path.toList
  ((List.range pieces.length).map fun index =>
    String.ofList (Text.join '/' (pieces.take (index + 1)))).filter fun text =>
      text != "" && text.toList.getLast? != some '/'

/-- Make directories. -/
def makeDirectories : Utility :=
  withOptions "m:pvZ" [("parents", 'p'), ("mode", 'm'), ("verbose", 'v')] 1 fun call options => do
  if options.operands.isEmpty then call.refuse "missing operand" 1
  else
    Invocation.forEach options.operands fun path => do
      let make (path : String) : ShellAction Bool := do
        let done ← changeDisk call (Disk.makeDirectory (pathOf (withoutSlashes path))) fun reason =>
          "cannot create directory " ++ quotedName path ++ ": " ++ reason
        if done && options.has 'v' then
          sayLine call (call.name ++ ": created directory " ++ quotedName path)
        return done
      if options.has 'p' then
        let steps := pathsOnTheWay path
        steps.zipIdx.foldlM (fun going (step, index) => do
          if !going then return false
          match ← entryAt step with
          | .ok (_, .directory) => return true
          | .ok (_, .file _ _) =>
              call.complain ("cannot create directory " ++ quotedName step ++ ": " ++
                if index + 1 = steps.length then "File exists" else "Not a directory")
              return false
          | .error _ =>
              if ← isDirectoryAt step then return true else make step) true
      else if (← isDirectoryAt path) && !(← entryAt path).isOk then
        call.complain ("cannot create directory " ++ quotedName path ++ ": File exists")
        return false
      else make path

/-- Remove empty directories. -/
def removeDirectories : Utility :=
  withOptions "pvi"
    [("parents", 'p'), ("verbose", 'v'), ("ignore-fail-on-non-empty", 'i')] 1 fun call options => do
  if options.operands.isEmpty then call.refuse "missing operand" 1
  else
    Invocation.forEach options.operands fun path => do
      let remove (isParent : Bool) (path : String) : ShellAction Bool := do
        if options.has 'v' then
          sayLine call (call.name ++ ": removing directory, " ++ quotedName path)
        let fail (reason : String) : ShellAction Bool := do
          call.complain ("failed to remove " ++ (if isParent then "directory " else "") ++
            quotedName path ++ ": " ++ reason)
          return false
        match ← entryAt path with
        | .error fault => fail fault.reason
        | .ok (_, .file _ _) => fail "Not a directory"
        | .ok (location, .directory) =>
            if lastPart path "" = "." then fail "Invalid argument"
            else if isEmptyDirectory (← get).disk location then
              let _ ← onDisk (Disk.removeAll (pathOf path))
              return true
            else if options.has 'i' then return false
            else fail "Directory not empty"
      let parents := if options.has 'p' then (pathsOnTheWay path).dropLast.reverse else []
      let first ← remove false path
      let done ← parents.foldlM (fun going parent => do
        if going then remove true parent else return false) first
      return done || (options.has 'i' && (← isDirectoryAt path))

/-- Make files that are missing. -/
def touchFiles : Utility :=
  withOptions "acd:fhmr:t:"
    [("no-create", 'c'), ("date", 'd'), ("reference", 'r'), ("time", 't')] 1 fun call options => do
  if options.operands.isEmpty then call.refuse "missing file operand" 1
  else
    Invocation.forEach options.operands fun path => do
      if (factsAt? (← get).disk (pathOf path)).isSome || options.has 'c' then return true
      if path.toList.getLast? == some '/' then
        call.complain ("setting times of " ++ quotedName path ++ ": No such file or directory")
        return false
      changeDisk call (Disk.write (pathOf path) [] false) fun reason =>
        "cannot touch " ++ quotedName path ++ ": " ++ reason

/-- Give files other names. -/
def linkFiles : Utility :=
  withOptions "sfnt:Tvrib" [("symbolic", 's'), ("force", 'f'), ("target-directory", 't')] 1
    fun call options => do
  let named := match options.operands with
    | [source] => if options.has 't' then options
        else { options with operands := [source, lastPart source ""] }
    | _ => options
  match ← destinations? call named with
  | .error status => return status
  | .ok pairs =>
      Invocation.forEach pairs fun (source, target) => do
        let isSymbolic := options.has 's'
        let fail (text : String) : ShellAction Bool := do
          call.complain text
          return false
        let kind := if isSymbolic then "symbolic" else "hard"
        let seen := if isSymbolic && !(source.toList.head? == some '/') then
            pathIn (directoryPart target) source else source
        match ← entryAt target, options.has 'f' with
        | .ok _, false =>
            fail ("failed to create " ++ kind ++ " link " ++ quotedName target ++ ": File exists")
        | _, _ =>
            match ← entryAt (if isSymbolic then seen else source) with
            | .ok (_, .file content executable) =>
                changeDisk call (Disk.write (pathOf target) content executable) fun reason =>
                  "failed to create " ++ kind ++ " link " ++ quotedName target ++ ": " ++ reason
            | .ok (location, .directory) =>
                if !isSymbolic then
                  fail (source ++ ": hard link not allowed for directory")
                else
                  match (← get).disk.locate (pathOf target) with
                  | .ok place =>
                      let _ ← onDisk (copyBelow location place)
                      return true
                  | .error _ => return false
            | .error fault =>
                if isSymbolic then return true
                else fail ("failed to access " ++ quotedName source ++ ": " ++ fault.reason)

/-- Who may execute a file: its user, its group, and others. -/
abbrev Execution := Bool × Bool × Bool

/-- The change that a clause such as `u+x` makes. -/
def clause? (chars : List Char) : Option (Execution → Execution) :=
  let who := chars.takeWhile "ugoa".toList.contains
  let everyone := who.isEmpty || who.contains 'a'
  match chars.drop who.length with
  | operator :: letters =>
      if !("+-=".toList.contains operator) || !letters.all "rwxXstugo".toList.contains then none
      else
        let names := letters.contains 'x'
        let change (letter : Char) (old : Bool) : Bool :=
          if !(everyone || who.contains letter) then old
          else match operator with
            | '+' => old || names
            | '-' => old && !names
            | _ => names || (letters.contains 'X' && old)
        some fun (user, group, other) => (change 'u' user, change 'g' group, change 'o' other)
  | [] => none

/-- The change of who may execute a file that a mode stands for. -/
def modeChange? (mode : String) : Option (Execution → Execution) :=
  let chars := mode.toList
  if !chars.isEmpty && chars.all isOctal && chars.length ≤ 5 then
    let bits := chars.foldl (fun number digit => number * 8 + (digit.toNat - '0'.toNat)) 0
    some fun _ => (bits / 64 % 2 = 1, bits / 8 % 2 = 1, bits % 2 = 1)
  else do
    let changes ← (Text.split ',' chars).mapM clause?
    return fun old => changes.foldl (fun known change => change known) old

/-- Change who may execute files. -/
def changeModes : Utility := fun call => do
  let isMode (argument : String) : Bool := match argument.toList with
    | '-' :: letters => !letters.isEmpty && letters.all "rwxXst".toList.contains
    | _ => false
  let modes := call.arguments.filter isMode
  let isShort (argument : String) : Bool :=
    argument.toList.head? == some '-' && !isMode argument && argument != "--"
  let flags := (call.arguments.filter isShort).flatMap fun argument => argument.toList.drop 1
  let operands := modes.take 1 ++ call.arguments.filter fun argument =>
    !isMode argument && !isShort argument && argument != "--"
  match operands with
  | [] => call.refuse "missing operand" 1
  | [mode] => call.refuse ("missing operand after " ++ quotedName mode) 1
  | mode :: paths =>
      match modeChange? mode with
      | none => call.refuse ("invalid mode: " ++ quotedName mode) 1
      | some change =>
          Invocation.forEach paths fun path => do
            match ← entryAt path with
            | .error fault =>
                if (factsAt? (← get).disk (pathOf path)).isSome then return true
                if !flags.contains 'f' then
                  call.complain ("cannot access " ++ quotedName path ++ ": " ++ fault.reason)
                return false
            | .ok (location, entry) =>
                let updated (entry : Entry) : Entry := match entry with
                  | .file content executable =>
                      let (user, group, other) := change (executable, executable, executable)
                      .file content (user || group || other)
                  | .directory => .directory
                let changed : ExceptT DiskFault (StateM Disk) Unit := fun disk =>
                  let start := if location.isEmpty then disk else disk.set location (updated entry)
                  (.ok (), if !flags.contains 'R' then start
                    else (disk.below location).foldl (fun changed (name, entry) =>
                      { changed with
                        entries := changed.entries.insert
                          (location.key ++ "/" ++ String.ofList name) (updated entry) }) start)
                let _ ← onDisk changed
                return true

/-- Whether a text names a user or a group: the empty text does, and so does a
number. -/
def isOwner (text : List Char) : Bool :=
  text.all Char.isDigit || ["root", "daemon", "bin", "sys", "nobody", "nogroup"].contains
    (String.ofList text)

/-- Change the owners of files, which only looks whether they are there. -/
def changeOwners (ofGroups : Bool) : Utility :=
  withOptions "Rfvh" [("recursive", 'R')] 1 fun call options => do
  match options.operands with
  | [] => call.refuse "missing operand" 1
  | [owner] => call.refuse ("missing operand after " ++ quotedName owner) 1
  | owner :: paths =>
      let (user, group) := match Text.cut? [':'] owner.toList with
        | some (user, group) => (user, group)
        | none => (owner.toList, [])
      if !isOwner user then
        call.complain ("invalid " ++ (if ofGroups then "group: " else "user: ") ++
          quotedName owner)
        return 1
      if !isOwner group then
        call.complain ("invalid group: " ++ quotedName owner)
        return 1
      Invocation.forEach paths fun path => do
        if (factsAt? (← get).disk (pathOf path)).isSome then return true
        call.complain ("cannot access " ++ quotedName path ++ ": No such file or directory")
        return false

/-- Copy files and set who may execute them, or make directories. -/
def installFiles : Utility :=
  withOptions "bcCdDg:m:o:pst:TvZ"
    [("directory", 'd'), ("mode", 'm'), ("target-directory", 't'), ("verbose", 'v')] 1
    fun call options => do
  if options.has 'd' then
    Invocation.forEach options.operands fun path =>
      changeDisk call (Disk.makeDirectories (pathOf path)) fun reason =>
        "cannot create directory " ++ quotedName path ++ ": " ++ reason
  else
    match ← destinations? call options with
    | .error status => return status
    | .ok pairs =>
        let change := ((options.value? 'm').bind modeChange?).getD fun _ => (true, true, true)
        Invocation.forEach pairs fun (source, target) => do
          if options.has 'D' then
            let _ ← onDisk (Disk.makeDirectories (pathOf (directoryPart target)))
          if !(← copyOne call (options.add 'p' "") source target) then return false
          match ← entryAt target with
          | .ok (_, .file content _) =>
              let (user, group, other) := change (false, false, false)
              let _ ← onDisk (Disk.write (pathOf target) content (user || group || other))
              return true
          | _ => return true

/-- Cut files to a size, or fill them up to it. -/
def resizeFiles : Utility :=
  withOptions "cos:r:" [("size", 's'), ("no-create", 'c'), ("reference", 'r')] 1 fun call options => do
  match options.value? 's' with
  | none => call.refuse "you must specify either '--size' or '--reference'" 1
  | some given =>
      let mark := given.toList.head?.filter "+-<>/%".toList.contains
      let digits := if mark.isSome then given.toList.drop 1 else given.toList
      let number := digits.takeWhile Char.isDigit
      let factor? : Option Nat := match digits.drop number.length with
        | [] => some 1
        | ['K'] => some 1024
        | ['M'] => some 1048576
        | _ => none
      match Text.decimal? number, factor? with
      | some number, some factor =>
          if options.operands.isEmpty then call.refuse "missing file operand" 1
          else
            Invocation.forEach options.operands fun path => do
              let (old, executable) := match ← entryAt path with
                | .ok (_, .file content executable) => (content, executable)
                | _ => ([], false)
              let size := number * factor
              let wanted := match mark with
                | some '+' => old.length + size
                | some '-' => old.length - size
                | some '<' => min old.length size
                | some '>' => max old.length size
                | _ => size
              if options.has 'c' && !(← entryAt path).isOk then return true
              let content := (old.take wanted) ++ List.replicate (wanted - old.length) 0
              changeDisk call (Disk.write (pathOf path) content executable) fun reason =>
                "cannot open " ++ quotedName path ++ " for writing: " ++ reason
      | _, _ =>
          call.complain ("Invalid number: " ++ quotedName given)
          return 1

/-- Make a file or directory with a new name. -/
def makeTemporary : Utility :=
  withOptions "dp:qtu" [("directory", 'd'), ("tmpdir", 'p'), ("quiet", 'q'), ("dry-run", 'u')] 1
    fun call options => do
  let session ← get
  let standard := (session.value? "TMPDIR").getD "/tmp"
  let template := options.operands.headD "tmp.XXXXXXXXXX"
  let inDirectory := options.operands.isEmpty || options.has 'p' || options.has 't'
  let directory := (options.value? 'p').getD standard
  let marks := (template.toList.reverse.takeWhile (· == 'X')).length
  if marks < 3 then
    call.complain ("too few X's in template " ++ quotedName template)
    return 1
  else
    let digits := Nat.toDigits 10 session.nextProcess
    let fresh := (List.replicate (marks - digits.length) 'a' ++ digits).take marks
    let name := String.ofList (template.toList.take (template.length - marks) ++ fresh)
    let path := if inDirectory then pathIn directory name else name
    modify fun session => { session with nextProcess := session.nextProcess + 1 }
    let action : ExceptT DiskFault (StateM Disk) Unit :=
      if options.has 'd' then Disk.makeDirectory (pathOf path) else Disk.write (pathOf path) [] false
    let made ← if options.has 'u' then pure true
      else changeDisk call action fun reason =>
        "failed to create " ++ (if options.has 'd' then "directory" else "file") ++
          " via template " ++ quotedName (if inDirectory then pathIn directory template
            else template) ++ ": " ++ reason
    if made then
      sayLine call path
      return 0
    else return 1

/-- Copy bytes in blocks. -/
def copyBlocks : Utility := fun call => do
  let known := ["if", "of", "bs", "ibs", "obs", "count", "skip", "seek", "conv", "status", "iflag",
    "oflag"]
  let operands := call.arguments.map fun argument =>
    (argument, (Text.cut? ['='] argument.toList).map fun (name, value) =>
      (String.ofList name, String.ofList value))
  match operands.find? fun (_, parts) => !(parts.any fun (name, _) => known.contains name) with
  | some (argument, _) => call.refuse ("unrecognized operand " ++ quotedName argument) 1
  | none =>
      let value? (name : String) : Option String :=
        (operands.reverse.findSome? fun (_, parts) => parts.filter (·.1 == name)).map (·.2)
      let number? (name : String) : Option Nat := (value? name).bind fun text =>
        let digits := text.toList.takeWhile Char.isDigit
        (Text.decimal? digits).map fun number => number *
          match text.toList.drop digits.length with
          | ['k'] | ['K'] => 1024
          | ['M'] => 1048576
          | _ => 1
      let source := (value? "if").getD "-"
      let block := max 1 ((number? "bs").getD ((number? "ibs").getD 512))
      let input ← if source = "-" then pure (.ok (((← remaining? 0).map (·.content)).getD []))
        else contentOf source
      match input with
      | .error reason =>
          call.complain ("failed to open " ++ quotedName source ++ ": " ++ reason)
          return 1
      | .ok all =>
          let start := (number? "skip").getD 0 * block
          let kept := match number? "count" with
            | some count => (all.drop start).take (count * block)
            | none => all.drop start
          if source = "-" then leaveOf 0 (all.drop (start + kept.length))
          let conversions := ((value? "conv").map fun text =>
            (Text.split ',' text.toList).map String.ofList).getD []
          let shown := if conversions.contains "ucase" then (charsOf kept).map Char.toUpper
            else if conversions.contains "lcase" then (charsOf kept).map Char.toLower
            else charsOf kept
          let done ← match value? "of" with
            | none => do
                call.say shown
                pure true
            | some target => do
                if target = "/dev/null" then pure true
                else
                  let offset := (number? "seek").getD 0 * block
                  let (old, executable) := match ← entryAt target with
                    | .ok (_, .file content executable) => (content, executable)
                    | _ => ([], false)
                  let before := old.take offset ++ List.replicate (offset - old.length) 0
                  let after := if conversions.contains "notrunc" then
                      old.drop (offset + kept.length) else []
                  changeDisk call
                    (Disk.write (pathOf target) (before ++ octets shown ++ after) executable)
                    fun reason => "failed to open " ++ quotedName target ++ ": " ++ reason
          let records := decimal (kept.length / block) ++ "+" ++
            (if kept.length % block = 0 then "0" else "1") ++ " records "
          match value? "status" with
          | some "none" => pure ()
          | status =>
              complain (records ++ "in")
              complain (records ++ "out")
              if status != some "noxfer" then
                complain (decimal kept.length ++ (if kept.length = 1 then " byte" else " bytes") ++
                  " copied, 0.0001 s, 0.0 MB/s")
          return if done then 0 else 1

end CertPress.Shell
