import CertPress.Shell.Arithmetic
import CertPress.Shell.Builtin
import CertPress.Shell.Field
import CertPress.Shell.Session
import CertPress.Shell.System

/-!
# Expansion of words

What a parameter stands for, and how a value gets into a word.

A field that holds a pattern stands for the paths that match it, in order.  The
names between slashes are matched one by one.  A name with a leading dot has to
be asked for.
-/

namespace CertPress.Shell

/-! ## Path patterns -/

/-- The names of a field between slashes. -/
def fieldNames (field : Field) : List Field :=
  match field with
  | [] => [[]]
  | char :: rest =>
      match fieldNames rest with
      | name :: names => if char.char = '/' then [] :: name :: names else (char :: name) :: names
      | [] => [[char]]

/-- The names in a directory that a pattern stands for, in order. -/
def namesLike (disk : Disk) (directory : String) (name : Field) : List String :=
  let pattern := Pattern.ofChars name
  let startsWithDot (chars : List Char) : Bool := chars.head? == some '.'
  let wantsDot := startsWithDot (name.map (·.char))
  let listed := (disk.list (pathOf (if directory = "" then "." else directory))).toOption.getD []
  ((listed.map inward).filter fun found =>
    pattern.accepts found.toList && (wantsDot || !startsWithDot found.toList)).mergeSort
    fun left right => decide (left ≤ right)

/-- The paths that the rest of a field stands for after the start of a path. -/
def pathsLike (disk : Disk) (start : String) : List Field → List String
  | [] => []
  | [name] =>
      if (Pattern.ofChars name).isOpen then (namesLike disk start name).map (start ++ ·)
      else
        let path := start ++ name.text
        if (factsAt? disk (pathOf path)).isSome then [path] else []
  | name :: rest =>
      if (Pattern.ofChars name).isOpen then
        ((namesLike disk start name).filter fun found =>
          disk.isDirectory (pathOf (start ++ found))).flatMap fun found =>
            pathsLike disk (start ++ found ++ "/") rest
      else pathsLike disk (start ++ name.text ++ "/") rest

/-- The texts that a field stands for: the paths that it matches, or its own
text. -/
def expandPaths (disk : Disk) (field : Field) : List String :=
  if (Pattern.ofChars field).isOpen then
    let paths := pathsLike disk "" (fieldNames field)
    if paths.isEmpty then [field.text] else paths
  else [field.text]

/-! ## Values in words -/

open ShellAction

/-- The options in the order in which a script sees them. -/
def optionText (session : Session) : String :=
  String.ofList ((optionNames.map (·.1)).reverse.filter fun letter =>
    letter.isAlpha && session.has letter)

/-- What stands between arguments that become one text. -/
def joiner (session : Session) : String :=
  match session.value? "IFS" with
  | none => " "
  | some separators => String.ofList (separators.toList.take 1)

/-- The arguments of a script as one value; none if there are no arguments. -/
def joinedArguments? (session : Session) (between : String) : Option String :=
  if session.arguments.isEmpty then none else some (between.intercalate session.arguments)

/-- The value of a parameter; none if it has none. -/
def parameterValue? (session : Session) (name : String) : Option String :=
  match name with
  | "@" => joinedArguments? session " "
  | "*" => joinedArguments? session (joiner session)
  | "#" => some (decimal session.arguments.length)
  | "?" => some (decimal session.status)
  | "$" => some (decimal session.process)
  | "-" => some (optionText session)
  | "!" => session.jobs.head?.map fun (process, _) => decimal process
  | _ =>
      match Text.decimal? name.toList with
      | some 0 => some session.script
      | some (index + 1) => session.arguments[index]?
      | none => session.value? name

/-- The value of a parameter.  In a session that asks for it a missing value is
a fault. -/
def parameterValue (name : String) : ShellAction (Option String) := do
  let session ← get
  let value := parameterValue? session name
  if value.isNone && session.has 'u' && !(["@", "*", "!"].contains name) then
    abandon (name ++ ": parameter not set")
  return value

/-- The text of an output that becomes part of a word: line ends at its end do
not count, and NUL characters do not either. -/
def collectedText (bytes : Bytes) : List Char :=
  (charsOf ((bytes.filter (· != 0)).reverse.dropWhile (· == 10)).reverse)

/-- The home directory of the user with a name. -/
def homeOf? (session : Session) (user : String) : Option String :=
  match user with
  | "" => session.value? "HOME"
  | "root" => some "/root"
  | "daemon" => some "/usr/sbin"
  | "bin" => some "/bin"
  | "nobody" => some "/nonexistent"
  | _ => none

/-- Unquoted characters of a word, in which a home directory may be named at
the start; in an assignment also after a colon.  `isWhole` says that the word ends
after the characters, and `skipped` is how much is left of the name of a user. -/
def homeAtoms (session : Session) (assigned isWhole : Bool) :
    (atStart : Bool) → (skipped : Nat) → List Char → List Atom
  | _, _, [] => []
  | _, skipped + 1, _ :: rest => homeAtoms session assigned isWhole false skipped rest
  | atStart, 0, char :: rest =>
      let user := rest.takeWhile fun char => char != '/' && !(assigned && char == ':')
      let home? := if char == '~' && atStart && (isWhole || user.length < rest.length) then
          homeOf? session (String.ofList user) else none
      match home? with
      | some home =>
          home.toList.map .literal ++
            homeAtoms session assigned isWhole false user.length rest
      | none => .plain char :: homeAtoms session assigned isWhole (assigned && char == ':') 0 rest

end CertPress.Shell
