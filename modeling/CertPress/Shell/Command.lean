/-!
# Shell commands

The commands of a shell script.  A command names programs by words; a word is
made of fragments, which become text when the command is run.
-/

namespace CertPress.Shell

/-- How the value of a parameter is changed where it is used. -/
inductive Change where
  /-- Another word in place of a missing value. -/
  | otherwise
  /-- Another word in place of a missing value, which becomes the value. -/
  | assign
  /-- No value is a fault. -/
  | require
  /-- Another word in place of a value. -/
  | instead
  /-- The value without the end that matches a pattern. -/
  | withoutEnd (longest : Bool)
  /-- The value without the start that matches a pattern. -/
  | withoutStart (longest : Bool)
  deriving DecidableEq, Repr, Inhabited

namespace Change

/-- Whether the word of the change is a pattern. -/
def hasPattern : Change → Bool
  | .withoutEnd _ | .withoutStart _ => true
  | _ => false

end Change

/-- What a redirection does with a descriptor. -/
inductive RedirectMode where
  | input
  | output
  /-- Output in place of a file, even if files are protected. -/
  | replace
  | append
  /-- Input and output on one file. -/
  | both
  /-- The descriptor becomes the same as another one, or is closed. -/
  | duplicate
  /-- The input is the target itself. -/
  | document
  deriving DecidableEq, Repr, Inhabited

mutual

/-- A part of a word. -/
inductive Fragment where
  /-- Characters that may have a meaning in a pattern. -/
  | plain (content : List Char)
  /-- Characters that stand for themselves. -/
  | literal (content : List Char)
  /-- Fragments in double quotes. -/
  | quoted (parts : List Fragment)
  | parameter (name : String)
  /-- A parameter with a change.  An empty value may count as missing. -/
  | changed (name : String) (change : Change) (emptyIsMissing : Bool) (word : List Fragment)
  /-- The length of a parameter's value. -/
  | length (name : String)
  /-- What a command prints. -/
  | printed (body : Command)
  /-- The value of an arithmetic expression. -/
  | sum (expression : List Fragment)
  /-- Braces in which no parameter is named. -/
  | misnamed

/-- A change of a descriptor for one command. -/
inductive Redirect where
  | mk (descriptor : Nat) (mode : RedirectMode) (target : List Fragment)

/-- A command. -/
inductive Command where
  /-- The command that does nothing and keeps the status. -/
  | idle
  /-- Assignments and a program with its arguments, at a line of the script. -/
  | simple (line : Nat) (assignments : List (String × List Fragment))
      (words : List (List Fragment)) (redirects : List Redirect)
  | sequence (first second : Command)
  /-- The second command runs if the first one succeeds. -/
  | both (first second : Command)
  /-- The second command runs if the first one fails. -/
  | either (first second : Command)
  | negate (body : Command)
  /-- The second command reads what the first one prints. -/
  | pipe (first second : Command)
  /-- A command that nobody waits for. -/
  | background (body : Command)
  /-- A command that leaves the variables alone. -/
  | subshell (line : Nat) (body : Command)
  | redirected (line : Nat) (body : Command) (redirects : List Redirect)
  | cond (condition kept otherwise : Command)
  /-- The body runs as long as the condition succeeds, or fails. -/
  | repeated (whileItHolds : Bool) (condition body : Command)
  /-- The body runs for each field of the items, or for each argument. -/
  | each (line : Nat) (name : String) (items : Option (List (List Fragment))) (body : Command)
  /-- The first arm runs that has a pattern for the subject. -/
  | select (line : Nat) (subject : List Fragment)
      (arms : List (List (List Fragment) × Command))
  | define (name : String) (body : Command)

end

instance : Inhabited Command := ⟨.idle⟩

/-- A word of a command. -/
abbrev Word := List Fragment

/-- Why a script cannot be read. -/
structure SyntaxFault where
  /-- The line on which the fault is found. -/
  line : Nat
  reason : String
  deriving DecidableEq, Repr, Inhabited

/-- The commands of a script in order, up to the end or to a place where it
cannot be read. -/
structure Script where
  commands : List Command
  fault : Option SyntaxFault
  deriving Inhabited

end CertPress.Shell
