import CertPress.Shell.Edit.Read
import CertPress.Shell.Utility.Lines

/-!
# Editing lines

The edits of a script are applied to one line of a text after another.
-/

namespace CertPress.Shell

open ShellAction

/-- What is printed after the work on a line. -/
inductive Queued where
  | text (content : List Char)
  | file (name : String)
  deriving DecidableEq, Repr, Inhabited

/-- The state of editing a text. -/
structure EditState where
  /-- The text that is worked on. -/
  current : List Char
  /-- Whether the line of the text has an end. -/
  isEnded : Bool
  /-- The text that is kept aside. -/
  kept : List Char
  number : Nat
  /-- The lines that are left, and whether they have an end. -/
  rest : List (List Char × Bool)
  /-- What has been printed, the last part first. -/
  printed : List (List Char)
  /-- Whether a line end is missing before what is printed next. -/
  owesEnd : Bool
  queue : List Queued
  /-- Whether something was substituted in the line. -/
  changed : Bool
  lastRegex : Option Regex
  /-- The edits whose range of lines goes on, with the last line if it is
  known. -/
  active : List (Nat × Option Nat)
  /-- What is written to files. -/
  written : List (String × List Char)
  /-- The character that ends a line. -/
  lineEnd : Char
  deriving Inhabited

namespace EditState

/-- Print a text as it is. -/
def put (state : EditState) (text : List Char) : EditState :=
  let text := if state.owesEnd then state.lineEnd :: text else text
  { state with printed := text :: state.printed, owesEnd := false }

/-- Print a line. -/
def say (state : EditState) (line : List Char) (isEnded : Bool) : EditState :=
  if isEnded then state.put (line ++ [state.lineEnd]) else { state.put line with owesEnd := true }

/-- Print the text that is worked on. -/
def showLine (state : EditState) : EditState := state.say state.current state.isEnded

/-- Write a line to a file. -/
def write (state : EditState) (name : String) (line : List Char) (isEnded : Bool) : EditState :=
  if name = "/dev/stdout" then state.say line isEnded
  else
    let text := if isEnded then line ++ [state.lineEnd] else line
    let old := ((state.written.find? (·.1 == name)).map (·.2)).getD []
    { state with
      written := state.written.filter (·.1 != name) ++ [(name, old ++ text)] }

/-- Print what has been put off. -/
def flush (contents : String → List Char) (state : EditState) : EditState :=
  let after := state.queue.foldl (fun state queued => match queued with
    | .text content => state.put content
    | .file name =>
        let text := contents name
        if text.isEmpty then state else state.put text) state
  { after with queue := [] }

/-- The expression that an edit uses, which becomes the last one. -/
def regexFor (state : EditState) (regex : EditRegex) : Regex × EditState :=
  match regex.regex?.orElse fun _ => state.lastRegex with
  | some known => (known, { state with lastRegex := some known })
  | none => (.among true [], state)

/-- Whether an address chooses the line. -/
def matchesAddress (state : EditState) (address : EditAddress) : Bool × EditState :=
  match address with
  | .line number => (state.number == number, state)
  | .last => (state.rest.isEmpty, state)
  | .step first step =>
      (if step = 0 then state.number == first
        else first ≤ state.number && (state.number - first) % step == 0, state)
  | .like regex =>
      let (known, after) := state.regexFor regex
      ((known.search? ⟨state.current.toArray, regex.ignoresCase, true⟩ 0).isSome, after)

/-- The edits whose range goes on, with a new state of one of them. -/
def setActive (state : EditState) (index : Nat) (last : Option (Option Nat)) : EditState :=
  let others := state.active.filter (·.1 != index)
  { state with active := (last.map (index, ·)).toList ++ others }

/-- Whether the line is the first one of the range of an edit, which may go
on. -/
def startsRange (state : EditState) (index : Nat) (first : EditAddress) (last : RangeEnd) :
    Bool × EditState :=
  let (starts, after) := state.matchesAddress first
  if !starts then (false, after)
  else
    let upTo (number : Nat) : Bool × EditState :=
      (true, if number ≤ state.number then after else after.setActive index (some (some number)))
    match last with
    | .more count => upTo (state.number + count)
    | .multiple count => upTo (if count = 0 then 0 else (state.number + count - 1) / count * count)
    | .address (.line number) => upTo number
    | .address _ => (true, after.setActive index (some none))

/-- Whether an edit is for the line. -/
def chooses (state : EditState) (index : Nat) (range : EditRange) : Bool × EditState :=
  let (chosen, after) : Bool × EditState := match range.first, range.last with
    | none, _ => (true, state)
    | some first, none => state.matchesAddress first
    | some first, some last =>
        match state.active.find? (·.1 == index), last with
        | some (_, some stop), _ =>
            if stop ≤ state.number then
              let closed := state.setActive index none
              if state.number = stop then (true, closed) else closed.startsRange index first last
            else (true, state)
        | some (_, none), .address address =>
            let (ends, after) := state.matchesAddress address
            (true, if ends then after.setActive index none else after)
        | _, _ => state.startsRange index first last
  (chosen != range.isNegated, after)

/-- A character in the case that is asked for. -/
def inCase (change : Option CaseChange) (char : Char) : Char :=
  match change with
  | some .lower | some .nextLower => char.toLower
  | some .upper | some .nextUpper => char.toUpper
  | _ => char

/-- The text that is put in place of a match. -/
def inserted (text : Searched) (start : Nat) (found : Found) (parts : List InsertedPart) :
    List Char :=
  let add (state : Option CaseChange × Option CaseChange × List Char) (chars : List Char) :
      Option CaseChange × Option CaseChange × List Char :=
    chars.foldl (fun (lasting, once, shown) char =>
      (lasting, none, inCase (once.orElse fun _ => lasting) char :: shown)) state
  let (_, _, shown) := parts.foldl (fun state part =>
    match part, state with
    | .char char, state => add state [char]
    | .group 0, state => add state (text.slice start found.position)
    | .group number, state =>
        match found.group? number with
        | some (first, last) => add state (text.slice first last)
        | none => state
    | .case .nextLower, (lasting, _, shown) => (lasting, some .nextLower, shown)
    | .case .nextUpper, (lasting, _, shown) => (lasting, some .nextUpper, shown)
    | .case .ending, (_, _, shown) => (none, none, shown)
    | .case change, (_, _, shown) => (some change, none, shown)) (none, none, [])
  shown.reverse

/-- Put text in place of matches from a place on.  The result is the text from
there on, and whether it changed.  `count` matches were found before, of which
the last one ended at `previous`; the fuel is the length of the text. -/
def substituted (regex : Regex) (substitution : Substitution) (text : Searched) :
    (fuel place count : Nat) → (previous : Option Nat) → List Char × Bool
  | 0, place, _, _ => (text.slice place text.chars.size, false)
  | fuel + 1, place, count, previous =>
      match regex.search? text place with
      | none => (text.slice place text.chars.size, false)
      | some (start, found) =>
          let before := text.slice place start
          let stop := found.position
          if start = stop && previous = some start then
            let (after, changed) := substituted regex substitution text fuel (start + 1) count none
            (before ++ text.slice start (start + 1) ++
              (if text.chars.size ≤ start then [] else after), changed)
          else
            let isChosen := substitution.number ≤ count + 1
            let shown := if isChosen then inserted text start found substitution.inserted
              else text.slice start stop
            let next := if start = stop then start + 1 else stop
            let skipped := if start = stop then text.slice start (start + 1) else []
            if isChosen && !substitution.everywhere then
              (before ++ shown ++ text.slice stop text.chars.size, true)
            else if start = stop && text.chars.size ≤ start then (before ++ shown, isChosen)
            else
              let (after, changed) := substituted regex substitution text fuel next (count + 1)
                (if start = stop then none else some stop)
              (before ++ shown ++ skipped ++ after, isChosen || changed)

/-- Read the next line in place of the current one. -/
def nextLine? (state : EditState) : Option EditState :=
  match state.rest with
  | [] => none
  | (line, isEnded) :: rest =>
      some { state with current := line, isEnded, rest, number := state.number + 1 }

end EditState

/-- A text in a notation that shows all characters. -/
def visibleText (text : List Char) : List Char :=
  text.flatMap fun char =>
    match char with
    | '\\' => ['\\', '\\']
    | '\x07' => ['\\', 'a']
    | '\x08' => ['\\', 'b']
    | '\x0c' => ['\\', 'f']
    | '\n' => ['\\', 'n']
    | '\r' => ['\\', 'r']
    | '\t' => ['\\', 't']
    | '\x0b' => ['\\', 'v']
    | other =>
        let code := other.toNat
        if code < 0x20 || 0x7F ≤ code then
          '\\' :: [code / 64, code / 8 % 8, code % 8].map fun digit => Char.ofNat (48 + digit)
        else [other]

/-- Cut a text into lines that a mark continues.  The fuel is its length. -/
def wrappedText : (fuel : Nat) → List Char → List Char
  | 0, text => text
  | fuel + 1, text =>
      if text.length ≤ 69 then text
      else text.take 69 ++ ['\\', '\n'] ++ wrappedText fuel (text.drop 69)

/-- How the work on a line ends. -/
inductive LineEnd where
  /-- The line is printed, and the next one is read. -/
  | done
  | dropped
  /-- The edits start again with what is left of the text. -/
  | again
  | left (status : Nat) (quietly : Bool)
  deriving DecidableEq, Repr, Inhabited

/-- What edits need besides their state. -/
structure EditContext where
  edits : Array Edit
  isQuiet : Bool
  contents : String → List Char
  inputName : String

namespace EditContext

/-- Where the place with a name is. -/
def placeOf (context : EditContext) (label : String) : Nat :=
  if label = "" then context.edits.size
  else (context.edits.findIdx? fun edit => edit.label == some label).getD context.edits.size

/-- Apply the edits from a place on. -/
def apply (context : EditContext) : (fuel place : Nat) → EditState → EditState × LineEnd
  | 0, _, state => (state, .done)
  | fuel + 1, place, state =>
      match context.edits[place]? with
      | none => (state, .done)
      | some edit =>
          let (chosen, state) := state.chooses place edit.range
          let go (state : EditState) : EditState × LineEnd := context.apply fuel (place + 1) state
          if !chosen then
            match edit.action with
            | .opening after => context.apply fuel after state
            | _ => go state
          else
            let firstLine := state.current.takeWhile (· != '\n')
            match edit.action with
            | .opening _ => go state
            | .closing => go state
            | .label => go state
            | .substitute substitution =>
                let (regex, state) := state.regexFor substitution.regex
                let text : Searched :=
                  ⟨state.current.toArray, substitution.regex.ignoresCase, true⟩
                let (current, changed) :=
                  EditState.substituted regex substitution text (text.chars.size + 2) 0 0 none
                if !changed then go state
                else
                  let state := { state with current, changed := true }
                  let state := if substitution.prints then state.showLine else state
                  match substitution.target with
                  | some name => go (state.write name current state.isEnded)
                  | none => go state
            | .exchange old new =>
                go { state with
                  current := state.current.map fun char =>
                    ((old.zip new).find? (·.1 == char)).elim char (·.2) }
            | .print => go state.showLine
            | .printFirst => go (state.say firstLine true)
            | .delete => (state, .dropped)
            | .deleteFirst =>
                if state.current.contains '\n' then
                  ({ state with current := state.current.drop (firstLine.length + 1) }, .again)
                else (state, .dropped)
            | .next =>
                if state.rest.isEmpty then (state, .left 0 context.isQuiet)
                else
                  let shown := if context.isQuiet then state else state.showLine
                  go ((shown.flush context.contents).nextLine?.getD shown)
            | .append =>
                let flushed := state.flush context.contents
                match flushed.nextLine? with
                | none => (flushed, .left 0 context.isQuiet)
                | some next =>
                    go { next with current := flushed.current ++ '\n' :: next.current }
            | .keep => go { state with kept := state.current }
            | .keepMore => go { state with kept := state.kept ++ '\n' :: state.current }
            | .recall => go { state with current := state.kept }
            | .recallMore => go { state with current := state.current ++ '\n' :: state.kept }
            | .swap => go { state with current := state.kept, kept := state.current }
            | .textAfter text => go { state with queue := state.queue ++ [.text text] }
            | .textBefore text => go (state.put text)
            | .textInstead text =>
                let isLast := edit.range.last.isNone || edit.range.isNegated ||
                  !(state.active.any (·.1 == place))
                (if isLast then state.put text else state, .dropped)
            | .printNumber => go (state.put (Nat.toDigits 10 state.number ++ ['\n']))
            | .printVisibly =>
                let shown := visibleText state.current
                go (state.put (wrappedText shown.length shown ++ ['$', '\n']))
            | .printName => go (state.put (context.inputName ++ "\n").toList)
            | .leave status => (state, .left status context.isQuiet)
            | .leaveQuietly status => (state, .left status true)
            | .readFile name => go { state with queue := state.queue ++ [.file name] }
            | .writeFile name => go (state.write name state.current state.isEnded)
            | .writeFirst name => go (state.write name firstLine true)
            | .jump label => context.apply fuel (context.placeOf label) state
            | .jumpIfChanged label =>
                if state.changed then
                  context.apply fuel (context.placeOf label) { state with changed := false }
                else go state
            | .jumpUnlessChanged label =>
                if state.changed then go { state with changed := false }
                else context.apply fuel (context.placeOf label) state
            | .clear => go { state with current := [] }

/-- The number of edits that may be applied to a line. -/
def editLimit : Nat := 1000000

/-- Apply the edits to one line after another.  `fresh` says that the next line is
read first; the fuel bounds the rounds.  The result has the status of the work. -/
def run (context : EditContext) : (fuel : Nat) → (fresh : Bool) → EditState → EditState × Nat
  | 0, _, state => (state, 0)
  | fuel + 1, fresh, state =>
      let read? := if fresh then (state.nextLine?).map fun next => { next with changed := false }
        else some state
      match read? with
      | none => (state, 0)
      | some state =>
          let (after, ending) := context.apply editLimit 0 state
          let finish (shows : Bool) : EditState :=
            (if shows then after.showLine else after).flush context.contents
          match ending with
          | .done => context.run fuel true (finish (!context.isQuiet))
          | .dropped => context.run fuel true (finish false)
          | .again => context.run fuel false (finish false)
          | .left status quietly => (finish (!quietly), status)

end EditContext

/-- The lines of texts that follow each other, with whether they have an end. -/
def streamLines (separator : Char) (texts : List (List Char)) : List (List Char × Bool) :=
  let count := texts.length
  texts.zipIdx.flatMap fun (text, index) =>
    match (Text.split separator text).reverse with
    | [] => []
    | last :: before =>
        before.reverse.map (·, true) ++
          (if last.isEmpty then [] else [(last, decide (index + 1 < count))])

/-- The state before the first line. -/
def EditState.start (edits : List Edit) (lineEnd : Char) (lines : List (List Char × Bool)) :
    EditState :=
  let active := edits.zipIdx.filterMap fun (edit, index) =>
    match edit.range.first with
    | some (.line 0) => some (index, none)
    | _ => none
  { current := [], isEnded := true, kept := [], number := 0, rest := lines, printed := [],
    owesEnd := false, queue := [], changed := false, lastRegex := none, active, written := [], lineEnd }

/-- The text that was printed. -/
def EditState.text (state : EditState) : List Char := state.printed.reverse.flatten

/-- The names of the places to which edits jump that do not exist. -/
def missingLabel? (edits : List Edit) : Option String :=
  edits.findSome? fun edit =>
    let target? := match edit.action with
      | .jump label | .jumpIfChanged label | .jumpUnlessChanged label => some label
      | _ => none
    target?.filter fun label => label != "" && !edits.any fun edit => edit.label == some label

/-- The files that edits read. -/
def filesRead (edits : List Edit) : List String :=
  (edits.filterMap fun edit => match edit.action with
    | .readFile name => some name
    | _ => none).eraseDups

/-- The files that edits write. -/
def filesWritten (edits : List Edit) : List String :=
  (edits.filterMap fun edit => match edit.action with
    | .writeFile name => some name
    | .writeFirst name => some name
    | .substitute substitution => substitution.target
    | _ => none).eraseDups

/-- Edit the lines of files, and print them. -/
def editLines : Utility := fun call => do
  let names : List (String × Char) :=
    [("quiet", 'n'), ("silent", 'n'), ("expression", 'e'), ("file", 'f'),
     ("regexp-extended", 'E'), ("in-place", 'I'), ("separate", 's'), ("null-data", 'z'),
     ("unbuffered", 'u'), ("line-length", 'l'), ("posix", 'p')]
  let arguments := call.arguments.map fun argument =>
    match argument.toList with
    | '-' :: 'i' :: suffix => "--in-place=" ++ String.ofList suffix
    | _ => if argument = "--in-place" then "--in-place=" else argument
  match (OptionTable.mk "ne:f:ErszuI:l:".toList names true).parse arguments with
  | .error reason =>
      call.complain reason
      usage 1
  | .ok options => do
      let scripts ← options.given.filterMapM fun (letter, value) => do
        if letter == 'e' then return some (value, Except.ok value.toList)
        else if letter == 'f' then
          return some (value, (← textOf value).map fun text =>
            if text.getLast? == some '\n' then text.dropLast else text)
        else return none
      let isGiven := options.has 'e' || options.has 'f'
      match scripts.findSome? fun (path, text) => match text with
          | .error reason => some ("couldn't open file " ++ path ++ ": " ++ reason)
          | .ok _ => none with
      | some fault =>
          call.complain fault
          return 1
      | none =>
      if !isGiven && options.operands.isEmpty then usage 1
      else
        let script := if isGiven then
            Text.join '\n' (scripts.map fun (_, text) => text.toOption.getD [])
          else (options.operands.headD "").toList
        let operands := if isGiven then options.operands else options.operands.drop 1
        let isSilentScript := ['#', 'n', '\n'].isPrefixOf script || script == ['#', 'n']
        match editsOf (options.has 'E' || options.has 'r') script with
        | .error (place, reason) =>
            call.complain ("-e expression #1, char " ++ decimal place ++ ": " ++ reason)
            return 1
        | .ok edits =>
            match missingLabel? edits with
            | some label =>
                call.complain ("can't find label for jump to \x60" ++ label ++ "'")
                return 1
            | none =>
                let contents ← (filesRead edits).mapM fun name => do
                  return (name, (← textOf name).toOption.getD [])
                for name in filesWritten edits do
                  if descriptorOf? name = none then
                    let _ ← onDisk (Disk.write (pathOf name) [] false)
                let context : EditContext :=
                  { edits := edits.toArray
                    isQuiet := options.has 'n' || isSilentScript
                    contents := fun name => ((contents.find? (·.1 == name)).map (·.2)).getD []
                    inputName := operands.headD "-" }
                editFiles call options context operands
where
  /-- Say how the utility is called. -/
  usage (status : Nat) : ShellAction Nat := do
    complain "Usage: sed [OPTION]... \x7bscript-only-if-no-other-script\x7d [input-file]..."
    return status
  /-- Edit one text, and write the files that edits write. -/
  editTexts (options : Options) (context : EditContext) (texts : List (List Char)) :
      ShellAction (List Char × Nat) := do
    let separator := if options.has 'z' then '\x00' else '\n'
    let lines := streamLines separator texts
    let limit := lines.length + texts.foldl (fun total text => total + text.length) 2
    let (after, status) := context.run limit true
      (EditState.start context.edits.toList separator lines)
    for (name, content) in after.written do
      match descriptorOf? name with
      | some descriptor => let _ ← print descriptor (octets content)
      | none =>
          let old := ((← get).disk.read (pathOf name)).toOption.getD []
          let _ ← onDisk (Disk.write (pathOf name) (old ++ octets content) false)
    return (after.text, status)
  /-- Edit files one by one or together. -/
  editFiles (call : Invocation) (options : Options) (context : EditContext)
      (operands : List String) : ShellAction Nat := do
    let targets := if operands.isEmpty then ["-"] else operands
    let texts ← targets.mapM fun target => do return (target, ← textOf target)
    let failed ← texts.anyM fun (target, text) => do
      match text with
      | .error reason =>
          if reason = "Is a directory" then
            call.complain ((if options.has 'I' then "couldn't edit " ++ target ++
              ": not a regular file" else "read error on " ++ target ++ ": " ++ reason))
          else call.complain ("can't read " ++ target ++ ": " ++ reason)
          return false
      | .ok _ => return false
    let readable := texts.filterMap fun (target, text) => text.toOption.map (target, ·)
    let isIncomplete := failed || readable.length < texts.length
    let separately := options.has 'I' || options.has 's'
    if !separately then
      let (text, status) ← editTexts options context (readable.map (·.2))
      call.say text
      return if status = 0 && isIncomplete then 2 else status
    else
      let status ← readable.foldlM (fun status (target, text) => do
        let (edited, ended) ← editTexts options { context with inputName := target } [text]
        match options.value? 'I' with
        | none => call.say edited
        | some suffix =>
            let executable := match (← get).disk.find (pathOf target) with
              | .ok (_, .file _ executable) => executable
              | _ => false
            if suffix != "" then
              let _ ← onDisk (Disk.write (pathOf (target ++ suffix)) (octets text) executable)
            let _ ← onDisk (Disk.write (pathOf target) (octets edited) executable)
        return if status = 0 then ended else status) 0
      return if status = 0 && isIncomplete then 4 else status

end CertPress.Shell
