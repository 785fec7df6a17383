import CertPress.Shell.Regex

/-!
# Edits

A script for a text that is read line by line: edits, each for some of the
lines.  One line at a time is worked on; a second text is kept aside.
-/

namespace CertPress.Shell

/-- An expression of an edit; none for the one that was used last. -/
structure EditRegex where
  regex? : Option Regex
  ignoresCase : Bool
  deriving Inhabited

/-- What chooses a line. -/
inductive EditAddress where
  | line (number : Nat)
  | last
  | like (regex : EditRegex)
  /-- Every line after `first` by steps. -/
  | step (first step : Nat)
  deriving Inhabited

/-- Where a range of lines ends. -/
inductive RangeEnd where
  | address (address : EditAddress)
  /-- After some more lines. -/
  | more (count : Nat)
  /-- At the next line with a number that is a multiple. -/
  | multiple (count : Nat)
  deriving Inhabited

/-- The lines that an edit is for. -/
structure EditRange where
  first : Option EditAddress
  last : Option RangeEnd
  isNegated : Bool
  deriving Inhabited

/-- How the case of inserted text is changed. -/
inductive CaseChange where
  | lower
  | upper
  | nextLower
  | nextUpper
  | ending
  deriving DecidableEq, Repr, Inhabited

/-- A part of the text that is put in place of a match. -/
inductive InsertedPart where
  | char (char : Char)
  /-- The text of a group, or of the whole match. -/
  | group (number : Nat)
  | case (change : CaseChange)
  deriving DecidableEq, Repr, Inhabited

/-- Putting text in place of matches. -/
structure Substitution where
  regex : EditRegex
  inserted : List InsertedPart
  everywhere : Bool
  /-- The first match that counts. -/
  number : Nat
  prints : Bool
  /-- The file to which changed lines are written too. -/
  target : Option String
  deriving Inhabited

/-- What an edit does. -/
inductive EditAction where
  /-- Skip to after the matching end unless the line is chosen. -/
  | opening (after : Nat)
  | closing
  | label
  | substitute (substitution : Substitution)
  | exchange (old new : List Char)
  | print
  | printFirst
  | delete
  | deleteFirst
  | next
  | append
  | keep
  | keepMore
  | recall
  | recallMore
  | swap
  | textAfter (text : List Char)
  | textBefore (text : List Char)
  | textInstead (text : List Char)
  | printNumber
  | printVisibly
  | printName
  | leave (status : Nat)
  | leaveQuietly (status : Nat)
  | readFile (name : String)
  | writeFile (name : String)
  | writeFirst (name : String)
  | jump (label : String)
  | jumpIfChanged (label : String)
  | jumpUnlessChanged (label : String)
  | clear
  deriving Inhabited

/-- An edit of a script. -/
structure Edit where
  range : EditRange
  action : EditAction
  /-- The name of the place that the edit stands at. -/
  label : Option String
  deriving Inhabited

end CertPress.Shell
