import CertPress.Shell.Token
import CertPress.Text.Ascii

/-!
# Arithmetic

Expressions over whole numbers of 64 bits, with the operators of C.  Variables
are read and assigned; operands that do not count are not evaluated.
-/

namespace CertPress.Shell.Arithmetic

/-- Why an expression has no value. -/
inductive Fault where
  /-- The expression is malformed, or its value is not defined. -/
  | expression (reason : String)
  /-- A variable is no number. -/
  | number (text : String)
  deriving DecidableEq, Repr, Inhabited

/-- The number of different values. -/
def modulus : Nat := Nat.pow 2 64

/-- A number brought into the range of 64 bits with a sign. -/
def wrap (number : Int) : Int := number.bmod modulus

/-- A number that is kept at the end of the range. -/
def clamp (number : Int) : Int :=
  max (-(Nat.pow 2 63 : Int)) (min ((Nat.pow 2 63 : Int) - 1) number)

/-- Whether a character is white space between numbers. -/
def isSpace (char : Char) : Bool := char == ' ' || (9 ≤ char.toNat && char.toNat ≤ 13)

/-- The digits of a number at the start of a text, with their base, and the text
after them. -/
def digitsAt (chars : List Char) : Nat × List Char × List Char :=
  let octal := fun (char : Char) => '0' ≤ char && char ≤ '7'
  match chars with
  | '0' :: mark :: rest =>
      if (mark == 'x' || mark == 'X') && rest.head?.any Text.isHexDigit then
        (16, rest.takeWhile Text.isHexDigit, rest.dropWhile Text.isHexDigit)
      else (8, chars.takeWhile octal, chars.dropWhile octal)
  | _ => (10, chars.takeWhile Char.isDigit, chars.dropWhile Char.isDigit)

/-- The number at the start of a text, and the text after it. -/
def numberAt (chars : List Char) : Nat × List Char :=
  let (base, digits, rest) := digitsAt chars
  (digits.foldl (fun number digit => number * base + (Text.hexValue? digit).getD 0) 0, rest)

/-- The number that a text denotes, in any of the bases that are written. -/
def integer? (text : List Char) : Option Int :=
  let trimmed := text.dropWhile isSpace
  let (sign, digits) : Int × List Char := match trimmed with
    | '-' :: rest => (-1, rest)
    | '+' :: rest => (1, rest)
    | rest => (1, rest)
  if digits.head?.any Char.isDigit then
    let (number, rest) := numberAt digits
    if rest.all isSpace then some (clamp (sign * number)) else none
  else none

/-- The value of a variable: zero if it is missing or empty. -/
def valueOf (text : Option String) : Except Fault Int :=
  match text with
  | none => .ok 0
  | some text =>
      if text = "" then .ok 0
      else match integer? text.toList with
        | some number => .ok number
        | none => .error (.number text)

/-- A part of an expression. -/
inductive Term where
  | number (value : Int)
  | named (name : String)
  | operator (text : String)
  deriving DecidableEq, Repr, Inhabited

/-- The operators, longest first. -/
def operators : List String :=
  ["<<=", ">>=", "<=", ">=", "==", "!=", "&&", "||", "<<", ">>", "+=", "-=", "*=", "/=", "%=",
   "&=", "|=", "^=", "<", ">", "=", "!", "&", "|", "+", "-", "*", "/", "%", "^", "~", "(", ")",
   "?", ":"]

/-- The parts of an expression.  What is none of them is an operator without a
meaning.  The fuel is the length of the text. -/
def terms : (fuel : Nat) → List Char → List Term
  | 0, _ => []
  | fuel + 1, chars =>
      match chars with
      | [] => []
      | char :: rest =>
          if isSpace char then terms fuel rest
          else if char.isDigit then
            let (number, after) := numberAt (char :: rest)
            .number (clamp number) :: terms fuel after
          else if startsName char then
            let name := nameAt (char :: rest)
            .named (String.ofList name) :: terms fuel ((char :: rest).drop name.length)
          else match operators.find? fun operator => operator.toList.isPrefixOf (char :: rest) with
            | some operator =>
                .operator operator :: terms fuel ((char :: rest).drop operator.length)
            | none => [.operator (String.singleton char)]

/-- The state of an evaluation. -/
structure Evaluation where
  terms : List Term
  /-- The variables that were assigned, the last one first. -/
  assigned : List (String × Int)

/-- A step of an evaluation, in which variables outside can be read. -/
abbrev Step (α : Type) := ReaderT (String → Option String) (StateT Evaluation (Except Fault)) α

/-- The operators between two operands by their levels, tightest first. -/
def levels : List (List String) :=
  [["*", "/", "%"], ["+", "-"], ["<<", ">>"], ["<", "<=", ">", ">="], ["==", "!="], ["&"], ["^"],
   ["|"], ["&&"], ["||"]]

/-- A number as an answer. -/
def ofBool (answer : Bool) : Int := if answer then 1 else 0

/-- The bits of a number. -/
def bits (number : Int) : BitVec 64 := BitVec.ofInt 64 number

/-- The number of places that a shift goes. -/
def places (number : Int) : Nat := (number % 64).toNat

/-- Apply an operator. -/
def apply (operator : String) (left right : Int) : Except Fault Int :=
  match operator with
  | "*" => .ok (wrap (left * right))
  | "+" => .ok (wrap (left + right))
  | "-" => .ok (wrap (left - right))
  | "/" =>
      if right = 0 then .error (.expression "division by zero")
      else .ok (wrap (left.tdiv right))
  | "%" =>
      if right = 0 then .error (.expression "division by zero")
      else .ok (wrap (left.tmod right))
  | "<<" => .ok (bits left <<< places right).toInt
  | ">>" => .ok ((bits left).sshiftRight (places right)).toInt
  | "<" => .ok (ofBool (left < right))
  | "<=" => .ok (ofBool (left ≤ right))
  | ">" => .ok (ofBool (left > right))
  | ">=" => .ok (ofBool (left ≥ right))
  | "==" => .ok (ofBool (left == right))
  | "!=" => .ok (ofBool (left != right))
  | "&" => .ok (bits left &&& bits right).toInt
  | "^" => .ok (bits left ^^^ bits right).toInt
  | "|" => .ok (bits left ||| bits right).toInt
  | "&&" => .ok (ofBool (left != 0 && right != 0))
  | _ => .ok (ofBool (left != 0 || right != 0))

/-- The next part. -/
def peek : Step (Option Term) := return (← get).terms.head?

/-- Use up a part. -/
def skip : Step Unit := modify fun state => { state with terms := state.terms.drop 1 }

/-- Report a malformed expression. -/
def fail {α : Type} (reason : String) : Step α := throw (.expression reason)

/-- The value of a variable. -/
def lookUp (name : String) : Step Int := do
  match valueAt? name (← get).assigned with
  | some value => return value
  | none => liftM (valueOf ((← read) name))
where
  /-- The value that was assigned last. -/
  valueAt? (name : String) (assigned : List (String × Int)) : Option Int :=
    (assigned.find? (·.1 == name)).map (·.2)

/-- The operator of an assignment with an operator. -/
def assigning? (text : String) : Option String :=
  if ["<<=", ">>=", "+=", "-=", "*=", "/=", "%=", "&=", "|=", "^="].contains text then
    some (String.ofList text.toList.dropLast)
  else none

mutual

/-- An operand.  `live` says that it counts. -/
def operand (fuel : Nat) (live : Bool) : Step Int :=
  match fuel with
  | 0 => fail "expecting primary"
  | fuel + 1 => do
      match ← peek with
      | some (.number value) =>
          skip
          return value
      | some (.named name) =>
          skip
          if live then lookUp name else return 0
      | some (.operator "(") =>
          skip
          let value ← assignment fuel live
          if (← peek) != some (.operator ")") then fail "expecting ')'"
          skip
          return value
      | some (.operator "+") =>
          skip
          operand fuel live
      | some (.operator "-") =>
          skip
          return wrap (-(← operand fuel live))
      | some (.operator "!") =>
          skip
          return ofBool ((← operand fuel live) == 0)
      | some (.operator "~") =>
          skip
          return wrap (-(← operand fuel live) - 1)
      | _ => fail "expecting primary"

/-- Operands with the operators up to a level between them. -/
def joined (fuel : Nat) (live : Bool) (level : Nat) : Step Int :=
  match fuel with
  | 0 => fail "expecting primary"
  | fuel + 1 =>
      match level with
      | 0 => operand fuel live
      | level + 1 => do joinedTo fuel live level (← joined fuel live level)

/-- What follows a value with the operators of a level. -/
def joinedTo (fuel : Nat) (live : Bool) (level : Nat) (left : Int) : Step Int :=
  match fuel with
  | 0 => fail "expecting primary"
  | fuel + 1 => do
      match ← peek with
      | some (.operator text) =>
          if !(levels.getD level []).contains text then return left
          skip
          let decided := (text == "&&" && left == 0) || (text == "||" && left != 0)
          let right ← joined fuel (live && !decided) level
          let value ← if live then liftM (apply text left right) else pure right
          joinedTo fuel live level value
      | _ => return left

/-- A value, or one of two that a condition chooses. -/
def conditional (fuel : Nat) (live : Bool) : Step Int :=
  match fuel with
  | 0 => fail "expecting primary"
  | fuel + 1 => do
      let condition ← joined fuel live levels.length
      if (← peek) != some (.operator "?") then return condition
      skip
      let holds := condition != 0
      let first ← assignment fuel (live && holds)
      if (← peek) != some (.operator ":") then fail "expecting ':'"
      skip
      let second ← conditional fuel (live && !holds)
      return if holds then first else second

/-- A value that may be assigned to a variable. -/
def assignment (fuel : Nat) (live : Bool) : Step Int :=
  match fuel with
  | 0 => fail "expecting primary"
  | fuel + 1 => do
      match (← get).terms with
      | .named name :: .operator text :: _ =>
          if text = "=" ∨ (assigning? text).isSome then
            skip
            skip
            let right ← assignment fuel live
            if !live then return right
            let value ← match assigning? text with
              | some operator => do liftM (apply operator (← lookUp name) right)
              | none => pure right
            modify fun state => { state with assigned := (name, value) :: state.assigned }
            return value
          else conditional fuel live
      | _ => conditional fuel live

end

/-- The value of an expression, and the variables that it assigns in order. -/
def evaluate (lookUp : String → Option String) (text : List Char) :
    Except Fault (Int × List (String × Int)) := do
  let parts := terms text.length text
  let whole : Step Int := do
    let value ← assignment (24 * parts.length + 32) true
    if (← peek).isSome then fail "expecting EOF"
    return value
  let (value, state) ← (whole.run lookUp).run ⟨parts, []⟩
  return (value, state.assigned.reverse)

end CertPress.Shell.Arithmetic
