import CertPress.Shell.Arithmetic
import CertPress.Shell.Invocation
import CertPress.Shell.System

/-!
# Conditions

The questions that a script asks about texts, numbers and files.  A question is
made of primaries, which ask about one or two operands, and of the operators
between them.  A word is an operator only where operands follow.
-/

namespace CertPress.Shell

open ShellAction

/-- A word of a question. -/
inductive QuestionWord where
  /-- A question about one operand. -/
  | unary (operator : String)
  /-- A question about two operands. -/
  | binary (operator : String)
  | negation
  | conjunction
  | disjunction
  | opening
  | closing
  | operand
  /-- There is no word. -/
  | ending
  deriving DecidableEq, Repr, Inhabited

namespace QuestionWord

/-- The operators that ask about one operand. -/
def unaryOperators : List String :=
  ["-r", "-w", "-x", "-e", "-f", "-d", "-c", "-b", "-p", "-u", "-g", "-k", "-s", "-t", "-z", "-n",
   "-h", "-O", "-G", "-L", "-S"]

/-- The operators that ask about two operands. -/
def binaryOperators : List String :=
  ["=", "!=", "<", ">", "-eq", "-ne", "-ge", "-gt", "-le", "-lt", "-nt", "-ot", "-ef"]

/-- What a word is if it is an operator. -/
def operator? (word : String) : Option QuestionWord :=
  if unaryOperators.contains word then some (.unary word)
  else if binaryOperators.contains word then some (.binary word)
  else match word with
    | "!" => some .negation
    | "-a" => some .conjunction
    | "-o" => some .disjunction
    | "(" => some .opening
    | ")" => some .closing
    | _ => none

/-- Whether a word with others after it is an operand although it names an
operator. -/
def isOperand : List String → Bool
  | [_] => true
  | [_, _] => false
  | _ :: next :: _ => match operator? next with
    | some (.binary _) => true
    | _ => false
  | [] => true

/-- The word at the front of a list. -/
def first (words : List String) : QuestionWord :=
  match words with
  | [] => .ending
  | word :: rest =>
      match operator? word with
      | some (.unary operator) => if isOperand words then .operand else .unary operator
      | some .opening => if rest.isEmpty then .operand else .opening
      | some known => known
      | none => .operand

end QuestionWord

/-- Why a question has no answer. -/
structure QuestionFault where
  text : String
  deriving DecidableEq, Repr, Inhabited

/-- An answer, and the words from the last one that it depends on. -/
abbrev Answer := Except QuestionFault (Bool × List String)

/-- A number of a question. -/
def questionNumber (word : String) : Except QuestionFault Int :=
  let illegal : Except QuestionFault Int := .error ⟨"Illegal number: " ++ word⟩
  let trimmed := word.toList.dropWhile Arithmetic.isSpace
  let (sign, digits) : Int × List Char := match trimmed with
    | '-' :: rest => (-1, rest)
    | '+' :: rest => (1, rest)
    | rest => (1, rest)
  let whole := digits.takeWhile Char.isDigit
  match Text.decimal? whole with
  | none => illegal
  | some magnitude =>
      let number := sign * magnitude
      if Arithmetic.clamp number != number then illegal
      else if (digits.drop whole.length).all Arithmetic.isSpace then .ok number
      else illegal

/-- The answer to a question about one operand. -/
def unaryAnswer (session : Session) (operator operand : String) : Except QuestionFault Bool :=
  let facts := factsOf? session operand
  let isKind (kind : FileKind) : Bool := facts.any (·.kind == kind)
  match operator with
  | "-n" => .ok (operand != "")
  | "-z" => .ok (operand == "")
  | "-t" => do
      let _ ← questionNumber operand
      return false
  | "-f" => .ok (isKind .regular)
  | "-d" => .ok (isKind .directory)
  | "-c" => .ok (isKind .device)
  | "-p" => .ok (isKind .pipe)
  | "-s" => .ok (facts.any (0 < ·.size))
  | "-x" => .ok (facts.any (·.isExecutable))
  | "-e" => .ok facts.isSome
  | "-r" => .ok facts.isSome
  | "-w" => .ok facts.isSome
  | "-O" => .ok facts.isSome
  | "-G" => .ok facts.isSome
  | _ => .ok false

/-- The answer to a question about two operands. -/
def binaryAnswer (session : Session) (operator left right : String) : Except QuestionFault Bool :=
  let compared (holds : Int → Int → Bool) : Except QuestionFault Bool := do
    return holds (← questionNumber left) (← questionNumber right)
  let place? (operand : String) : Option Location :=
    if (factsOf? session operand).isSome then some (placeOf session.disk (pathOf operand)) else none
  match operator with
  | "=" => .ok (left == right)
  | "!=" => .ok (left != right)
  | "<" => .ok (decide (left < right))
  | ">" => .ok (decide (right < left))
  | "-eq" => compared (· == ·)
  | "-ne" => compared (· != ·)
  | "-lt" => compared fun left right => decide (left < right)
  | "-le" => compared fun left right => decide (left ≤ right)
  | "-gt" => compared fun left right => decide (left > right)
  | "-ge" => compared fun left right => decide (left ≥ right)
  | "-ef" => .ok ((place? left).isSome && place? left == place? right)
  | "-nt" => .ok ((place? left).isSome && (place? right).isNone)
  | _ => .ok ((place? left).isNone && (place? right).isSome)

mutual

/-- Questions with a disjunction between them.  The words start with the one that
was looked at. -/
def disjunctionAt (session : Session) (fuel : Nat) (word : QuestionWord) (words : List String) :
    Answer :=
  match fuel with
  | 0 => .ok (false, words)
  | fuel + 1 => do
      let (answer, rest) ← conjunctionAt session fuel word words
      match QuestionWord.first (rest.drop 1) with
      | .disjunction =>
          let (other, after) ←
            disjunctionAt session fuel (QuestionWord.first (rest.drop 2)) (rest.drop 2)
          return (answer || other, after)
      | _ => return (answer, rest)

/-- Questions with a conjunction between them. -/
def conjunctionAt (session : Session) (fuel : Nat) (word : QuestionWord) (words : List String) :
    Answer :=
  match fuel with
  | 0 => .ok (false, words)
  | fuel + 1 => do
      let (answer, rest) ← negationAt session fuel word words
      match QuestionWord.first (rest.drop 1) with
      | .conjunction =>
          let (other, after) ←
            conjunctionAt session fuel (QuestionWord.first (rest.drop 2)) (rest.drop 2)
          return (answer && other, after)
      | _ => return (answer, rest)

/-- A question that may be negated. -/
def negationAt (session : Session) (fuel : Nat) (word : QuestionWord) (words : List String) :
    Answer :=
  match fuel with
  | 0 => .ok (false, words)
  | fuel + 1 =>
      if word = .negation then do
        let next := QuestionWord.first (words.drop 1)
        let inner := if next = .ending then words else words.drop 1
        let (answer, rest) ← negationAt session fuel next inner
        return (!answer, rest)
      else primaryAt session fuel word words

/-- A question without operators between questions. -/
def primaryAt (session : Session) (fuel : Nat) (word : QuestionWord) (words : List String) :
    Answer :=
  match fuel with
  | 0 => .ok (false, words)
  | fuel + 1 =>
      match word, words with
      | .ending, _ => .ok (false, words)
      | .opening, _ =>
          let inner := words.drop 1
          match QuestionWord.first inner with
          | .closing => .ok (false, inner)
          | next => do
              let (answer, rest) ← disjunctionAt session fuel next inner
              if QuestionWord.first (rest.drop 1) != .closing then
                throw ⟨"closing paren expected"⟩
              return (answer, rest.drop 1)
      | .unary operator, _ :: operand :: rest => do
          return (← unaryAnswer session operator operand, operand :: rest)
      | .unary operator, _ => .error ⟨operator ++ ": argument expected"⟩
      | _, left :: operator :: rest =>
          match QuestionWord.first (operator :: rest), rest with
          | .binary operator, right :: _ => do
              return (← binaryAnswer session operator left right, rest)
          | .binary operator, [] => .error ⟨operator ++ ": argument expected"⟩
          | _, _ => .ok (left != "", words)
      | _, [left] => .ok (left != "", words)
      | _, [] => .ok (false, words)

end

/-- The answer to a question that has been taken apart as far as the number of
words says.  The fuel is the number of words. -/
def answerTo (session : Session) : (fuel : Nat) → List String → Except QuestionFault Bool
  | 0, _ => .ok false
  | fuel + 1, words =>
      let evaluate (word : QuestionWord) (words : List String) : Except QuestionFault Bool := do
        let (answer, rest) ← disjunctionAt session (4 * words.length + 8) word words
        match rest with
        | word :: _ :: _ =>
            throw ⟨if word = "" then "unexpected operator" else word ++ ": unexpected operator"⟩
        | _ => return answer
      let parted : Except QuestionFault Bool :=
        match words with
        | "(" :: rest =>
            if rest.getLast? = some ")" then
              evaluate (QuestionWord.first rest.dropLast) rest.dropLast
            else evaluate (QuestionWord.first words) words
        | "!" :: rest => do return !(← answerTo session fuel rest)
        | _ => evaluate (QuestionWord.first words) words
      match words with
      | [] => .ok false
      | [_, operator, _] =>
          match QuestionWord.operator? operator with
          | some (.binary _) => evaluate .operand words
          | _ => parted
      | [_, _, _, _] => parted
      | _ => evaluate (QuestionWord.first words) words

/-- Answer a question. -/
def ask : Utility := fun call => do
  match answerTo (← get) (call.arguments.length + 1) call.arguments with
  | .ok answer => return if answer then 0 else 1
  | .error fault =>
      blame fault.text
      return 2

/-- Answer a question that ends with a bracket. -/
def askInBrackets : Utility := fun call =>
  if call.arguments.getLast? = some "]" then
    ask { call with arguments := call.arguments.dropLast }
  else do
    blame "missing ]"
    return 2

end CertPress.Shell
