import CertPress.Proofs.Markup.Reading
import Mathlib.Data.List.TakeWhile

/-!
# A reader with one stack

`run` is handed the open blocks and hands back the tokens that it leaves.  The reader of this
module keeps one position and one stack of open blocks for all that it reads: a block goes on the
stack when it is opened, is marked there when its other branch starts, and is taken off when its
content was read.  It calls itself, is told how many of these calls may be nested and has no
outcome if they are too few.  Nothing in its definition says that some number is enough, or that it
leaves the stack as it found it.

Both hold from every state, and it reads what `run` reads.  Where it stops is said by a scan of
the tokens that knows nothing of nodes: at the first tag that ends or turns a block which was open
before.  So a block never sees the end of a block of the other kind.
-/

namespace CertPress.Markup

/-! ## The reader -/

/-- The tokens of a template, how many of them were read, and the open blocks, the innermost
first. -/
@[ext] structure Reader where
  tokens : List Token
  position : Nat
  opened : List Block
  deriving DecidableEq, Repr

namespace Reader

/-- The next token. -/
def peek? (reader : Reader) : Option Token := reader.tokens[reader.position]?

/-- Go on to the next token. -/
def advance (reader : Reader) : Reader := { reader with position := reader.position + 1 }

/-- Open a block. -/
def push (reader : Reader) (block : Block) : Reader :=
  { reader with opened := block :: reader.opened }

/-- Leave the innermost block. -/
def pop (reader : Reader) : Reader := { reader with opened := reader.opened.tail }

/-- Mark the innermost block as one whose other branch has started. -/
def turn (reader : Reader) : Reader :=
  match reader.opened with
  | [] => reader
  | _ :: around => { reader with opened := .cond true :: around }

/-- The tokens that were not read yet. -/
def ahead (reader : Reader) : List Token := reader.tokens.drop reader.position

/-- What a reader has read, why it stopped, and how it was left. -/
structure Outcome where
  nodes : List Node
  stop : Stop
  reader : Reader
  deriving Repr

/-- An outcome with nodes put in front. -/
def Outcome.prepend (nodes : List Node) (outcome : Outcome) : Outcome :=
  { outcome with nodes := nodes ++ outcome.nodes }

section Read

variable (again : Reader → Option Outcome)

/-- Read a conditional block behind its start. -/
def readCond (reader : Reader) (path : String) : Option (List Node × Reader) := do
  let kept ← again (reader.push (.cond false))
  if kept.stop = .atElse then
    let other ← again kept.reader.turn
    return (condNodes path kept.nodes other.nodes other.stop, other.reader.pop)
  else
    return (condNodes path kept.nodes [] kept.stop, kept.reader.pop)

/-- Read a repeated block behind its start. -/
def readEach (reader : Reader) (path : String) : Option (List Node × Reader) := do
  let body ← again (reader.push .each)
  return (eachNodes path body.nodes body.stop, body.reader.pop)

/-- Read nodes up to a tag that ends or turns the innermost block, which is read, or that belongs
to a block around it, which is not.  What is behind the next token is read by the reader given. -/
def readNext (reader : Reader) : Option Outcome :=
  match reader.peek? with
  | none => some ⟨[], .exhausted, reader⟩
  | some (.text content) => do
      return (← again reader.advance).prepend [.text (String.ofList content)]
  | some (.tag inner) =>
      match Tag.ofInner inner with
      | .value path => do
          return (← again reader.advance).prepend [.value path]
      | .openIf path => do
          let (nodes, later) ← readCond again reader.advance path
          return (← again later).prepend nodes
      | .openEach path => do
          let (nodes, later) ← readEach again reader.advance path
          return (← again later).prepend nodes
      | .otherwise =>
          match reader.opened with
          | .cond false :: _ => some ⟨[], .atElse, reader.advance⟩
          | _ => again reader.advance
      | .closeIf =>
          match closes Block.isCond reader.opened with
          | .innermost => some ⟨[], .atEndIf, reader.advance⟩
          | .outer => some ⟨[], .unwind, reader⟩
          | .nothing => again reader.advance
      | .closeEach =>
          match closes Block.isEach reader.opened with
          | .innermost => some ⟨[], .atEndEach, reader.advance⟩
          | .outer => some ⟨[], .unwind, reader⟩
          | .nothing => again reader.advance
      | .unknown => again reader.advance

end Read

/-- Read with fewer calls nested than the given number; there is no outcome if they are too few. -/
def readWithin : Nat → Reader → Option Outcome
  | 0, _ => none
  | calls + 1, reader => readNext (readWithin calls) reader

/-- Whether a bounded computation comes to an end with a value: it has that value under every
bound that is large enough. -/
def Gives {α : Type} (bounded : Nat → Option α) (value : α) : Prop :=
  ∃ enough, ∀ calls, enough ≤ calls → bounded calls = some value

/-- Whether a reader returns, with an outcome. -/
def Reads (reader : Reader) (outcome : Outcome) : Prop :=
  Gives (fun calls => readWithin calls reader) outcome

namespace Gives

variable {α β γ : Type} {whole : Nat → Option α} {part : Nat → Option β}
variable {later : Nat → Option γ} {value other : α} {first : β} {second : γ}

/-- A computation comes to an end in one way only. -/
theorem unique (gives : Gives whole value) (givesOther : Gives whole other) : value = other := by
  obtain ⟨enough, same⟩ := gives
  obtain ⟨enoughOther, sameOther⟩ := givesOther
  have isValue := same (max enough enoughOther) (Nat.le_max_left _ _)
  have isOther := sameOther (max enough enoughOther) (Nat.le_max_right _ _)
  exact Option.some.inj (isValue.symm.trans isOther)

theorem now (isWhole : ∀ calls, whole calls = some value) : Gives whole value :=
  ⟨0, fun calls _ => isWhole calls⟩

theorem one (gives : Gives part first)
    (isWhole : ∀ calls, part calls = some first → whole calls = some value) :
    Gives whole value := by
  obtain ⟨enough, isFirst⟩ := gives
  exact ⟨enough, fun calls le => isWhole calls (isFirst calls le)⟩

/-- A computation that makes two others in turn comes to an end if they do. -/
theorem both (gives : Gives part first) (givesLater : Gives later second)
    (isWhole : ∀ calls, part calls = some first → later calls = some second →
      whole calls = some value) : Gives whole value := by
  obtain ⟨enough, isFirst⟩ := gives
  obtain ⟨enoughLater, isSecond⟩ := givesLater
  refine ⟨max enough enoughLater, ?_⟩
  intro calls le
  have bound := Nat.max_le.mp le
  exact isWhole calls (isFirst calls bound.1) (isSecond calls bound.2)

end Gives

/-- One more call is nested than behind the next token. -/
theorem Reads.of_next {reader : Reader} {outcome : Outcome}
    (gives : Gives (fun calls => readNext (readWithin calls) reader) outcome) :
    reader.Reads outcome := by
  obtain ⟨enough, same⟩ := gives
  refine ⟨enough + 1, ?_⟩
  intro calls le
  obtain ⟨rest, rfl⟩ : ∃ rest, calls = rest + 1 := Nat.exists_eq_add_one.mpr (by omega)
  exact same rest (Nat.le_of_succ_le_succ le)

/-! ## Steps of a reader -/

/-- What a reader has become by reading on: its tokens and its stack are the same, and it moved
neither back nor beyond the tokens. -/
structure Passed (reader later : Reader) : Prop where
  tokens : later.tokens = reader.tokens
  position_le : reader.position ≤ later.position
  le_position : later.position ≤ max reader.position reader.tokens.length
  opened : later.opened = reader.opened

namespace Passed

variable {reader middle later : Reader}

theorem refl (reader : Reader) : reader.Passed reader :=
  ⟨rfl, Nat.le_refl _, Nat.le_max_left _ _, rfl⟩

theorem trans (first : reader.Passed middle) (second : middle.Passed later) :
    reader.Passed later := by
  have bound := second.le_position
  rw [first.tokens] at bound
  constructor
  · exact second.tokens.trans first.tokens
  · exact Nat.le_trans first.position_le second.position_le
  · exact Nat.le_trans bound (Nat.max_le.mpr ⟨first.le_position, Nat.le_max_right _ _⟩)
  · exact second.opened.trans first.opened

theorem advance {token : Token} {rest : List Token} (isAhead : reader.ahead = token :: rest) :
    reader.Passed reader.advance := by
  have isThere : reader.position < reader.tokens.length := by
    apply Nat.lt_of_sub_pos
    rw [← List.length_drop, ← ahead, isAhead]
    exact Nat.succ_pos _
  constructor
  · rfl
  · exact Nat.le_succ _
  · exact Nat.le_trans isThere (Nat.le_max_right _ _)
  · rfl

/-- What was read inside a block has passed the block once that is taken off. -/
theorem pop {block : Block} (inside : (reader.push block).Passed later) :
    reader.Passed later.pop := by
  constructor
  · exact inside.tokens
  · exact inside.position_le
  · exact inside.le_position
  · rw [Reader.pop, inside.opened]
    rfl

/-- Marking the innermost block changes that block only. -/
theorem turn {block : Block} (inside : (reader.push block).Passed later) :
    (reader.push (.cond true)).Passed later.turn := by
  have isOpen : later.opened = block :: reader.opened := inside.opened
  unfold Reader.turn
  rw [isOpen]
  exact ⟨inside.tokens, inside.position_le, inside.le_position, rfl⟩

end Passed

section Peek

variable {reader : Reader} {token : Token} {rest : List Token}

theorem peek?_eq_head? (reader : Reader) : reader.peek? = reader.ahead.head? := by
  rw [peek?, ahead, List.head?_drop]

theorem peek?_of_ahead (isAhead : reader.ahead = token :: rest) : reader.peek? = some token := by
  rw [peek?_eq_head?, isAhead, List.head?_cons]

theorem ahead_advance (isAhead : reader.ahead = token :: rest) : reader.advance.ahead = rest := by
  have behind : reader.advance.ahead = reader.ahead.tail := by
    rw [ahead, ahead, List.tail_drop]
    rfl
  rw [behind, isAhead, List.tail_cons]

@[simp] theorem ahead_pop (reader : Reader) : reader.pop.ahead = reader.ahead := rfl

@[simp] theorem ahead_turn (reader : Reader) : reader.turn.ahead = reader.ahead := by
  unfold turn
  split <;> rfl

end Peek

section Equations

variable {reader : Reader} {inner : List Char} {path : String} {outcome : Outcome}

theorem reads_of_exhausted (atEnd : reader.peek? = none) :
    reader.Reads ⟨[], .exhausted, reader⟩ := by
  apply Reads.of_next
  apply Gives.now
  intro calls
  simp only [readNext, atEnd]

theorem reads_of_text {content : List Char} (next : reader.peek? = some (.text content))
    (behind : reader.advance.Reads outcome) :
    reader.Reads (outcome.prepend [.text (String.ofList content)]) := by
  apply Reads.of_next
  apply behind.one
  intro calls isRead
  simp only [readNext, next, isRead]
  rfl

theorem reads_of_value (next : reader.peek? = some (.tag inner))
    (meaning : Tag.ofInner inner = .value path) (behind : reader.advance.Reads outcome) :
    reader.Reads (outcome.prepend [.value path]) := by
  apply Reads.of_next
  apply behind.one
  intro calls isRead
  simp only [readNext, next, meaning, isRead]
  rfl

theorem reads_of_unknown (next : reader.peek? = some (.tag inner))
    (meaning : Tag.ofInner inner = .unknown) (behind : reader.advance.Reads outcome) :
    reader.Reads outcome := by
  apply Reads.of_next
  apply behind.one
  intro calls isRead
  simp only [readNext, next, meaning, isRead]

theorem reads_of_openIf {nodes : List Node} {later : Reader}
    (next : reader.peek? = some (.tag inner)) (meaning : Tag.ofInner inner = .openIf path)
    (block : Gives (fun calls => readCond (readWithin calls) reader.advance path) (nodes, later))
    (behind : later.Reads outcome) : reader.Reads (outcome.prepend nodes) := by
  apply Reads.of_next
  apply block.both behind
  intro calls isBlock isRead
  simp only [readNext, next, meaning, isBlock, Option.bind_eq_bind, Option.bind_some, isRead]
  rfl

theorem reads_of_openEach {nodes : List Node} {later : Reader}
    (next : reader.peek? = some (.tag inner)) (meaning : Tag.ofInner inner = .openEach path)
    (block : Gives (fun calls => readEach (readWithin calls) reader.advance path) (nodes, later))
    (behind : later.Reads outcome) : reader.Reads (outcome.prepend nodes) := by
  apply Reads.of_next
  apply block.both behind
  intro calls isBlock isRead
  simp only [readNext, next, meaning, isBlock, Option.bind_eq_bind, Option.bind_some, isRead]
  rfl

theorem reads_of_turn {around : List Block} (next : reader.peek? = some (.tag inner))
    (meaning : Tag.ofInner inner = .otherwise) (isOpen : reader.opened = .cond false :: around) :
    reader.Reads ⟨[], .atElse, reader.advance⟩ := by
  apply Reads.of_next
  apply Gives.now
  intro calls
  simp only [readNext, next, meaning, isOpen]

theorem reads_of_otherwise (next : reader.peek? = some (.tag inner))
    (meaning : Tag.ofInner inner = .otherwise)
    (notOpen : ∀ around, reader.opened ≠ .cond false :: around)
    (behind : reader.advance.Reads outcome) : reader.Reads outcome := by
  apply Reads.of_next
  apply behind.one
  intro calls isRead
  simp only [readNext, next, meaning]
  exact isRead

theorem readNext_closer {kind : Kind} (again : Reader → Option Outcome)
    (next : reader.peek? = some (.tag inner)) (ends : (Token.tag inner).role = .closes kind) :
    readNext again reader =
      match closes kind.isOf reader.opened with
      | .innermost => some ⟨[], kind.stop, reader.advance⟩
      | .outer => some ⟨[], .unwind, reader⟩
      | .nothing => again reader.advance := by
  have meaning : Tag.ofInner inner = kind.closer := Tag.eq_closer ends
  cases kind with
  | cond => simp only [readNext, next, meaning, Kind.closer]; rfl
  | each => simp only [readNext, next, meaning, Kind.closer]; rfl

theorem gives_cond_of_turned {kept other : Outcome}
    (keptReads : (reader.push (.cond false)).Reads kept) (turned : kept.stop = .atElse)
    (otherReads : kept.reader.turn.Reads other) :
    Gives (fun calls => readCond (readWithin calls) reader path)
      (condNodes path kept.nodes other.nodes other.stop, other.reader.pop) := by
  apply keptReads.both otherReads
  intro calls isKept isOther
  simp only [readCond, isKept, Option.bind_eq_bind, Option.bind_some, if_pos turned, isOther]
  rfl

theorem gives_cond_of_not_turned {kept : Outcome}
    (keptReads : (reader.push (.cond false)).Reads kept) (notTurned : kept.stop ≠ .atElse) :
    Gives (fun calls => readCond (readWithin calls) reader path)
      (condNodes path kept.nodes [] kept.stop, kept.reader.pop) := by
  apply keptReads.one
  intro calls isKept
  simp only [readCond, isKept, Option.bind_eq_bind, Option.bind_some, if_neg notTurned]
  rfl

theorem gives_each {body : Outcome} (bodyReads : (reader.push .each).Reads body) :
    Gives (fun calls => readEach (readWithin calls) reader path)
      (eachNodes path body.nodes body.stop, body.reader.pop) := by
  apply bodyReads.one
  intro calls isBody
  simp only [readEach, isBody, Option.bind_eq_bind, Option.bind_some]
  rfl

end Equations

/-! ## Reading comes to an end -/

/-- An outcome is that of a run: the nodes, the reason to stop and the tokens that are left are the
same, and the reader has passed. -/
structure Outcome.Follows {tokens : List Token} (outcome : Outcome) (reader : Reader)
    (run : Run tokens) : Prop where
  nodes : outcome.nodes = run.nodes
  stop : outcome.stop = run.stop
  ahead : outcome.reader.ahead = run.rest
  passed : reader.Passed outcome.reader

/-- A reader returns what a run returns. -/
def Returns {tokens : List Token} (reader : Reader) (run : Run tokens) : Prop :=
  ∃ outcome, reader.Reads outcome ∧ outcome.Follows reader run

namespace Returns

variable {tokens later : List Token} {reader middle : Reader}

theorem halt {stop : Stop} {rest : List Token} (rest_le : rest.length ≤ tokens.length)
    (reads : reader.Reads ⟨[], stop, middle⟩) (isAhead : middle.ahead = rest)
    (passed : reader.Passed middle) :
    reader.Returns (Run.halt stop rest rest_le : Run tokens) :=
  ⟨_, reads, rfl, rfl, isAhead, passed⟩

/-- What is read from a later state on comes behind the nodes that were read before. -/
theorem prepend {run : Run later} {nodes : List Node} (later_le : later.length ≤ tokens.length)
    (reads : ∀ outcome, middle.Reads outcome → reader.Reads (outcome.prepend nodes))
    (passed : reader.Passed middle) (returns : middle.Returns run) :
    reader.Returns (run.prepend nodes later_le : Run tokens) := by
  obtain ⟨outcome, behind, follows⟩ := returns
  refine ⟨outcome.prepend nodes, reads outcome behind, ?_⟩
  constructor
  · rw [Outcome.prepend, follows.nodes, Run.nodes_prepend]
  · exact follows.stop
  · exact follows.ahead
  · exact passed.trans follows.passed

/-- A tag that is dropped leaves no nodes. -/
theorem skip {run : Run later} (later_le : later.length ≤ tokens.length)
    (reads : ∀ outcome, middle.Reads outcome → reader.Reads outcome)
    (passed : reader.Passed middle) (returns : middle.Returns run) :
    reader.Returns (run.prepend [] later_le : Run tokens) :=
  prepend later_le reads passed returns

end Returns

section Blocks

variable {reader : Reader} {tokens : List Token} {inside : Run tokens} (path : String)

/-- A conditional block with its other branch is read as its two runs say. -/
theorem exists_cond_turned {other : Run inside.rest}
    (keptReturns : (reader.push (.cond false)).Returns inside) (turned : inside.stop = .atElse)
    (otherReturns : ∀ middle : Reader, middle.opened = .cond true :: reader.opened →
      middle.ahead = inside.rest → middle.Returns other) :
    ∃ later, Gives (fun calls => readCond (readWithin calls) reader path)
        (condNodes path inside.nodes other.nodes other.stop, later) ∧
      reader.Passed later ∧ later.ahead = other.rest := by
  obtain ⟨kept, keptReads, keptFollows⟩ := keptReturns
  have passed := keptFollows.passed.turn
  obtain ⟨second, otherReads, otherFollows⟩ := otherReturns kept.reader.turn passed.opened
    ((ahead_turn kept.reader).trans keptFollows.ahead)
  refine ⟨second.reader.pop, ?_, ?_, ?_⟩
  · rw [← keptFollows.nodes, ← otherFollows.nodes, ← otherFollows.stop]
    exact gives_cond_of_turned keptReads (keptFollows.stop.trans turned) otherReads
  · exact (passed.trans otherFollows.passed).pop
  · exact (ahead_pop second.reader).trans otherFollows.ahead

theorem exists_cond_not_turned (returns : (reader.push (.cond false)).Returns inside)
    (notTurned : inside.stop ≠ .atElse) :
    ∃ later, Gives (fun calls => readCond (readWithin calls) reader path)
        (condNodes path inside.nodes [] inside.stop, later) ∧
      reader.Passed later ∧ later.ahead = inside.rest := by
  obtain ⟨kept, reads, follows⟩ := returns
  rw [← follows.stop] at notTurned
  refine ⟨kept.reader.pop, ?_, ?_, ?_⟩
  · rw [← follows.nodes, ← follows.stop]
    exact gives_cond_of_not_turned reads notTurned
  · exact follows.passed.pop
  · exact (ahead_pop kept.reader).trans follows.ahead

theorem exists_each (returns : (reader.push .each).Returns inside) :
    ∃ later, Gives (fun calls => readEach (readWithin calls) reader path)
        (eachNodes path inside.nodes inside.stop, later) ∧
      reader.Passed later ∧ later.ahead = inside.rest := by
  obtain ⟨body, reads, follows⟩ := returns
  refine ⟨body.reader.pop, ?_, ?_, ?_⟩
  · rw [← follows.nodes, ← follows.stop]
    exact gives_each reads
  · exact follows.passed.pop
  · exact (ahead_pop body.reader).trans follows.ahead

end Blocks

/-- The end of a block is read as a run reads it, if what follows is, should it be stray. -/
theorem returns_closer {reader : Reader} {inner : List Char} {rest : List Token} (kind : Kind)
    (isAhead : reader.ahead = .tag inner :: rest)
    (ends : (Token.tag inner).role = .closes kind)
    (behind : closes kind.isOf reader.opened = .nothing →
      reader.advance.Returns (run reader.opened rest)) :
    reader.Returns (run reader.opened (.tag inner :: rest)) := by
  have isNext (calls : Nat) := readNext_closer (readWithin calls) (peek?_of_ahead isAhead) ends
  rw [run_closer reader.opened rest ends]
  cases closed : closes kind.isOf reader.opened with
  | innermost =>
      simp only [closed] at isNext
      exact .halt _ (.of_next (.now isNext)) (ahead_advance isAhead) (.advance isAhead)
  | outer =>
      simp only [closed] at isNext
      exact .halt _ (.of_next (.now isNext)) isAhead (.refl reader)
  | nothing =>
      simp only [closed] at isNext
      have reads (outcome : Outcome) (laterReads : reader.advance.Reads outcome) :
          reader.Reads outcome := by
        apply Reads.of_next
        exact laterReads.one fun calls isLater => (isNext calls).trans isLater
      exact .skip _ reads (.advance isAhead) (behind closed)

/-- A reader returns what a run returns, by induction along the run. -/
theorem returns_of_ahead {blocks : List Block} {tokens : List Token} (reader : Reader)
    (isOpen : reader.opened = blocks) (isAhead : reader.ahead = tokens) :
    reader.Returns (run blocks tokens) := by
  induction blocks, tokens using run.induct generalizing reader with
  | case1 blocks =>
      have atEnd : reader.peek? = none := by
        rw [peek?_eq_head?, isAhead]
        rfl
      rw [run.eq_def]
      exact .halt _ (reads_of_exhausted atEnd) isAhead (.refl reader)
  | case2 blocks content rest hypothesis =>
      have returns := hypothesis reader.advance isOpen (ahead_advance isAhead)
      rw [run.eq_def]
      exact .prepend _ (fun _ => reads_of_text (peek?_of_ahead isAhead)) (.advance isAhead) returns
  | case3 blocks inner rest path meaning hypothesis =>
      have returns := hypothesis reader.advance isOpen (ahead_advance isAhead)
      rw [run.eq_def]
      simp only [meaning]
      exact .prepend _ (fun _ => reads_of_value (peek?_of_ahead isAhead) meaning)
        (.advance isAhead) returns
  | case4 blocks inner rest meaning hypothesis =>
      have returns := hypothesis reader.advance isOpen (ahead_advance isAhead)
      rw [run.eq_def]
      simp only [meaning]
      exact .skip _ (fun _ => reads_of_unknown (peek?_of_ahead isAhead) meaning)
        (.advance isAhead) returns
  | case5 blocks inner rest path meaning kept turned other shorter keptReturns otherReturns _
      behind =>
      have inside := keptReturns (reader.advance.push (.cond false)) (congrArg _ isOpen)
        (ahead_advance isAhead)
      obtain ⟨later, block, passed, laterAhead⟩ :=
        exists_cond_turned path inside turned fun middle middleOpen =>
          otherReturns middle (middleOpen.trans (congrArg _ isOpen))
      have passedAll := (Passed.advance isAhead).trans passed
      rw [run.eq_def]
      simp only [meaning]
      rw [if_pos turned]
      exact .prepend _ (fun _ => reads_of_openIf (peek?_of_ahead isAhead) meaning block) passedAll
        (behind later (passedAll.opened.trans isOpen) laterAhead)
  | case6 blocks inner rest path meaning kept notTurned keptReturns behind =>
      have inside := keptReturns (reader.advance.push (.cond false)) (congrArg _ isOpen)
        (ahead_advance isAhead)
      obtain ⟨later, block, passed, laterAhead⟩ := exists_cond_not_turned path inside notTurned
      have passedAll := (Passed.advance isAhead).trans passed
      rw [run.eq_def]
      simp only [meaning]
      rw [if_neg notTurned]
      exact .prepend _ (fun _ => reads_of_openIf (peek?_of_ahead isAhead) meaning block) passedAll
        (behind later (passedAll.opened.trans isOpen) laterAhead)
  | case7 blocks inner rest path meaning body bodyReturns behind =>
      have inside := bodyReturns (reader.advance.push .each) (congrArg _ isOpen)
        (ahead_advance isAhead)
      obtain ⟨later, block, passed, laterAhead⟩ := exists_each path inside
      have passedAll := (Passed.advance isAhead).trans passed
      rw [run.eq_def]
      simp only [meaning]
      exact .prepend _ (fun _ => reads_of_openEach (peek?_of_ahead isAhead) meaning block) passedAll
        (behind later (passedAll.opened.trans isOpen) laterAhead)
  | case8 inner rest meaning around =>
      rw [run.eq_def]
      simp only [meaning]
      exact .halt _ (reads_of_turn (peek?_of_ahead isAhead) meaning isOpen)
        (ahead_advance isAhead) (.advance isAhead)
  | case9 blocks inner rest meaning notOpen hypothesis =>
      subst isOpen
      have returns := hypothesis reader.advance rfl (ahead_advance isAhead)
      rw [run.eq_def]
      simp only [meaning]
      exact .skip _ (fun _ => reads_of_otherwise (peek?_of_ahead isAhead) meaning notOpen)
        (.advance isAhead) returns
  | case10 blocks inner rest meaning closed =>
      subst isOpen
      apply returns_closer .cond isAhead (Token.role_tag meaning)
      intro none
      cases closed.symm.trans none
  | case11 blocks inner rest meaning closed =>
      subst isOpen
      apply returns_closer .cond isAhead (Token.role_tag meaning)
      intro none
      cases closed.symm.trans none
  | case12 blocks inner rest meaning closed hypothesis =>
      subst isOpen
      apply returns_closer .cond isAhead (Token.role_tag meaning)
      intro _
      exact hypothesis reader.advance rfl (ahead_advance isAhead)
  | case13 blocks inner rest meaning closed =>
      subst isOpen
      apply returns_closer .each isAhead (Token.role_tag meaning)
      intro none
      cases closed.symm.trans none
  | case14 blocks inner rest meaning closed =>
      subst isOpen
      apply returns_closer .each isAhead (Token.role_tag meaning)
      intro none
      cases closed.symm.trans none
  | case15 blocks inner rest meaning closed hypothesis =>
      subst isOpen
      apply returns_closer .each isAhead (Token.role_tag meaning)
      intro _
      exact hypothesis reader.advance rfl (ahead_advance isAhead)

end Reader

/-! ## Where a run stops -/

/-- The blocks that were opened on the way and are open behind a token, the innermost first; none
if the token ends or turns one of the blocks that were open before. -/
def openedPast? (blocks inner : List Block) (token : Token) : Option (List Block) :=
  match token.role with
  | .content => some inner
  | .nothing => some inner
  | .opens block => some (block :: inner)
  | .otherwise =>
      match inner, blocks with
      | .cond false :: around, _ => some (.cond true :: around)
      | [], .cond false :: _ => none
      | _, _ => some inner
  | .closes kind =>
      match inner.dropWhile fun block => !kind.isOf block with
      | _ :: around => some around
      | [] => if blocks.any kind.isOf then none else some inner

/-- The tokens from the first one on that ends or turns one of the blocks that were open before
them. -/
def fromStop (blocks inner : List Block) : List Token → List Token
  | [] => []
  | token :: rest =>
      match openedPast? blocks inner token with
      | some past => fromStop blocks past rest
      | none => token :: rest

-- The repeated block is not closed when the conditional one around it ends.
example :
    fromStop [.cond false] [] [.tag ['#', 'e', 'a', 'c', 'h', ' ', 'b'], .tag ['/', 'i', 'f'],
      .tag ['/', 'e', 'a', 'c', 'h']] =
    [.tag ['/', 'i', 'f'], .tag ['/', 'e', 'a', 'c', 'h']] := by
  decide

section FromStop

variable {blocks inner : List Block} {token : Token} {rest later : List Token}

theorem openedPast?_content (shows : token.role = .content) :
    openedPast? blocks inner token = some inner := by
  simp only [openedPast?, shows]

theorem openedPast?_opens {block : Block} (opens : token.role = .opens block) :
    openedPast? blocks inner token = some (block :: inner) := by
  simp only [openedPast?, opens]

theorem openedPast?_otherwise (turns : token.role = .otherwise) :
    openedPast? blocks (.cond false :: inner) token = some (.cond true :: inner) := by
  simp only [openedPast?, turns]

theorem openedPast?_closes {kind : Kind} {block : Block} (ends : token.role = .closes kind)
    (isOf : kind.isOf block) : openedPast? blocks (block :: inner) token = some inner := by
  simp only [openedPast?, ends, List.dropWhile_cons, isOf, Bool.not_true, Bool.false_eq_true,
    if_false]

theorem openedPast?_stray (stray : Stray (inner ++ blocks) token) :
    openedPast? blocks inner token = some inner := by
  unfold Stray at stray
  split at stray
  next means => simp only [openedPast?, means]
  next means =>
    simp only [openedPast?, means]
    split
    next _ around => exact absurd rfl (stray (around ++ blocks))
    next around => exact absurd rfl (stray around)
    next => rfl
  next kind means =>
    rw [List.any_append, Bool.or_eq_false_iff] at stray
    have none : (inner.dropWhile fun block => !kind.isOf block) = [] := by
      simpa [List.dropWhile_eq_nil_iff] using stray.1
    simp only [openedPast?, means, none, stray.2]
    rfl
  next => exact stray.elim

theorem fromStop_of_past {past : List Block} (isPast : openedPast? blocks inner token = some past) :
    fromStop blocks inner (token :: rest) = fromStop blocks past rest := by
  rw [fromStop, isPast]

/-- A block that is not closed does not matter at the tag that leaves it unclosed. -/
theorem fromStop_unclosed {block : Block} (unclosed : Unclosed block (inner ++ blocks) later) :
    fromStop blocks (block :: inner) later = fromStop blocks inner later := by
  cases later with
  | nil => rfl
  | cons token rest =>
      obtain ⟨kind, ends, isNot, outer⟩ := unclosed
      have samePast : openedPast? blocks (block :: inner) token =
          openedPast? blocks inner token := by
        simp only [openedPast?, ends, List.dropWhile_cons, isNot, Bool.not_false, if_true]
        split
        next => rfl
        next none =>
          have noneInside : inner.any kind.isOf = false := by
            simpa [List.dropWhile_eq_nil_iff] using none
          rw [List.any_append, noneInside, Bool.false_or] at outer
          rw [if_pos outer, if_pos outer]
      rw [fromStop, fromStop, samePast]

/-- What is read on the way does not matter for where a run stops, by induction on the reading. -/
theorem Runs.fromStop_eq {stack : List Block} {tokens ending : List Token} {nodes : List Node}
    (runs : Runs stack tokens nodes ending) (isStack : inner ++ blocks = stack) :
    fromStop blocks inner tokens = fromStop blocks inner ending := by
  induction runs generalizing inner with
  | exhausted => rfl
  | atElse => rfl
  | atEnd => rfl
  | text content _ behind =>
      exact (fromStop_of_past (openedPast?_content rfl)).trans (behind isStack)
  | value meaning _ behind =>
      rw [fromStop_of_past (openedPast?_content (Token.role_tag meaning)), behind isStack]
  | stray stray _ behind =>
      subst isStack
      rw [fromStop_of_past (openedPast?_stray stray), behind rfl]
  | cond opens ends _ _ inside behind =>
      rw [fromStop_of_past (openedPast?_opens (Token.role_tag opens)), inside (congrArg _ isStack),
        fromStop_of_past (openedPast?_closes (Token.role_tag ends) rfl), behind isStack]
  | condElse opens turns ends _ _ _ inside inOther behind =>
      rw [fromStop_of_past (openedPast?_opens (Token.role_tag opens)), inside (congrArg _ isStack),
        fromStop_of_past (openedPast?_otherwise (Token.role_tag turns)),
        inOther (congrArg _ isStack),
        fromStop_of_past (openedPast?_closes (Token.role_tag ends) rfl), behind isStack]
  | each opens ends _ _ inside behind =>
      rw [fromStop_of_past (openedPast?_opens (Token.role_tag opens)), inside (congrArg _ isStack),
        fromStop_of_past (openedPast?_closes (Token.role_tag ends) rfl), behind isStack]
  | unclosed opens stays _ _ inside behind =>
      subst isStack
      rw [fromStop_of_past (openedPast?_opens opens), inside rfl, fromStop_unclosed stays,
        behind rfl]
  | unclosedElse opens turns stays _ _ _ inside inOther behind =>
      subst isStack
      rw [fromStop_of_past (openedPast?_opens opens), inside rfl,
        fromStop_of_past (openedPast?_otherwise turns), inOther rfl, fromStop_unclosed stays,
        behind rfl]

namespace Stops

variable {ending : List Token} {stop : Stop}

theorem fromStop_eq (stops : Stops blocks ending stop rest) :
    fromStop blocks [] ending = ending := by
  cases stops with
  | exhausted => rfl
  | atElse _ _ turns => simp only [fromStop, openedPast?, turns]
  | atEnd _ _ ends isOf => simp [fromStop, openedPast?, ends, isOf]
  | unwind _ ends _ outer => simp [fromStop, openedPast?, ends, outer]

theorem exhausted_iff (stops : Stops blocks ending stop rest) :
    stop = .exhausted ↔ rest = [] ∧ ending = [] := by
  cases stops with
  | exhausted => simp
  | atElse => simp
  | @atEnd _ _ kind => cases kind <;> simp [Kind.stop]
  | unwind => simp

theorem exists_of_atElse (stops : Stops blocks ending stop rest) (isElse : stop = .atElse) :
    ∃ around, blocks = .cond false :: around := by
  cases stops with
  | exhausted => cases isElse
  | atElse around => exact ⟨around, rfl⟩
  | @atEnd _ _ kind => cases kind <;> cases isElse
  | unwind => cases isElse

theorem exists_of_atEnd {kind : Kind} (stops : Stops blocks ending stop rest)
    (isEnd : stop = kind.stop) : ∃ block around, blocks = block :: around ∧ kind.isOf block := by
  cases stops with
  | exhausted => cases kind <;> cases isEnd
  | atElse => cases kind <;> cases isEnd
  | @atEnd block _ other around _ _ isOf =>
      obtain rfl : other = kind := by cases other <;> cases kind <;> simp_all [Kind.stop]
      exact ⟨block, around, rfl, isOf⟩
  | unwind => cases kind <;> cases isEnd

theorem exists_of_unwind (stops : Stops blocks ending stop rest) (isUnwind : stop = .unwind) :
    ∃ block around token later, ∃ kind : Kind, blocks = block :: around ∧
      rest = token :: later ∧ token.role = .closes kind ∧ kind.isOf block = false ∧
      around.any kind.isOf := by
  cases stops with
  | exhausted => cases isUnwind
  | atElse => cases isUnwind
  | @atEnd _ _ kind => cases kind <;> cases isUnwind
  | @unwind block token kind around later ends isNot outer =>
      exact ⟨block, around, token, later, kind, rfl, rfl, ends, isNot, outer⟩

end Stops

/-- A run stops at the first tag that ends or turns a block which was open before. -/
theorem stops_fromStop (blocks : List Block) (tokens : List Token) :
    Stops blocks (fromStop blocks [] tokens) (run blocks tokens).stop (run blocks tokens).rest := by
  obtain ⟨ending, runs, stops⟩ := exists_runs blocks tokens
  have isEnding : fromStop blocks [] tokens = ending := by
    rw [runs.fromStop_eq rfl]
    exact stops.fromStop_eq
  rwa [isEnding]

end FromStop

/-! ## What a reader keeps to -/

namespace Reader

/-- What an outcome keeps to: it is that of the run, which is exhausted exactly if all tokens were
read and none of them ends or turns a block that was open before, and any other reason to stop fits
the innermost block. -/
structure Outcome.Meets (outcome : Outcome) (reader : Reader) : Prop where
  follows : outcome.Follows reader (run reader.opened reader.ahead)
  exhausted : outcome.stop = .exhausted ↔
    outcome.reader.ahead = [] ∧ fromStop reader.opened [] reader.ahead = []
  atElse : outcome.stop = .atElse → ∃ around, reader.opened = .cond false :: around
  atEnd : ∀ kind : Kind, outcome.stop = kind.stop →
    ∃ block around, reader.opened = block :: around ∧ kind.isOf block
  unwind : outcome.stop = .unwind → ∃ block around token, ∃ kind : Kind,
    reader.opened = block :: around ∧ outcome.reader.peek? = some token ∧
      token.role = .closes kind ∧ kind.isOf block = false ∧ around.any kind.isOf

theorem Outcome.Follows.meets {reader : Reader} {outcome : Outcome}
    (follows : outcome.Follows reader (run reader.opened reader.ahead)) :
    outcome.Meets reader := by
  have stops := stops_fromStop reader.opened reader.ahead
  rw [← follows.stop, ← follows.ahead] at stops
  constructor
  case follows => exact follows
  case exhausted => exact stops.exhausted_iff
  case atElse => exact stops.exists_of_atElse
  case atEnd => exact fun kind => stops.exists_of_atEnd
  case unwind =>
    intro isUnwind
    obtain ⟨block, around, token, later, kind, isOpen, isAhead, ends, isNot, outer⟩ :=
      stops.exists_of_unwind isUnwind
    exact ⟨block, around, token, kind, isOpen, peek?_of_ahead isAhead, ends, isNot, outer⟩

theorem exists_reads (reader : Reader) :
    ∃ outcome, reader.Reads outcome ∧ outcome.Meets reader := by
  obtain ⟨outcome, reads, follows⟩ := reader.returns_of_ahead rfl rfl
  exact ⟨outcome, reads, follows.meets⟩

namespace Outcome.Meets

variable {reader : Reader} {outcome : Outcome} (meets : outcome.Meets reader)
include meets

/-- Without open blocks only the end of the tokens stops a reader. -/
theorem exhausted_of_nil (noneOpen : reader.opened = []) : outcome.stop = .exhausted := by
  cases stopped : outcome.stop with
  | atElse =>
      obtain ⟨around, isOpen⟩ := meets.atElse stopped
      cases noneOpen.symm.trans isOpen
  | atEndIf =>
      obtain ⟨block, around, isOpen, -⟩ := meets.atEnd .cond stopped
      cases noneOpen.symm.trans isOpen
  | atEndEach =>
      obtain ⟨block, around, isOpen, -⟩ := meets.atEnd .each stopped
      cases noneOpen.symm.trans isOpen
  | unwind =>
      obtain ⟨block, around, token, kind, isOpen, -⟩ := meets.unwind stopped
      cases noneOpen.symm.trans isOpen
  | exhausted => rfl

/-- Inside a block a reader stops at the end of that block or where it is not closed, and at its
other branch if it is a conditional one without that. -/
theorem stop_of_cons {block : Block} {around : List Block} (kind : Kind)
    (isOpen : reader.opened = block :: around) (isOf : kind.isOf block) :
    outcome.stop = .atElse ∧ block = .cond false ∨
      outcome.stop ∈ [kind.stop, .unwind, .exhausted] := by
  have sameKind {other : Kind} (stopped : outcome.stop = other.stop) : other = kind := by
    obtain ⟨top, _, isTop, isOther⟩ := meets.atEnd other stopped
    obtain ⟨rfl, -⟩ := List.cons.inj (isOpen.symm.trans isTop)
    cases block <;> cases kind <;> cases other <;>
      simp_all [Kind.isOf, Block.isCond, Block.isEach]
  cases stopped : outcome.stop with
  | atElse =>
      obtain ⟨_, isTop⟩ := meets.atElse stopped
      exact .inl ⟨rfl, (List.cons.inj (isOpen.symm.trans isTop)).1⟩
  | atEndIf =>
      obtain rfl : .cond = kind := sameKind stopped
      exact .inr (.head _)
  | atEndEach =>
      obtain rfl : .each = kind := sameKind stopped
      exact .inr (.head _)
  | unwind => exact .inr (.tail _ (.head _))
  | exhausted => exact .inr (.tail _ (.tail _ (.head _)))

/-- A reader that is exhausted is at the end of its tokens. -/
theorem position_of_exhausted (stopped : outcome.stop = .exhausted) :
    outcome.reader.position = max reader.position reader.tokens.length := by
  have atEnd : outcome.reader.tokens.length ≤ outcome.reader.position :=
    List.drop_eq_nil_iff.mp (meets.exhausted.mp stopped).1
  rw [meets.follows.passed.tokens] at atEnd
  apply Nat.le_antisymm
  · exact meets.follows.passed.le_position
  · exact Nat.max_le.mpr ⟨meets.follows.passed.position_le, atEnd⟩

end Outcome.Meets

/-- From every state a reader returns in one way, with its stack as it was, no further back and for
a reason that fits.  Without open blocks it has then read all tokens.  A block is told of its own
end or that it is not closed, never of the end of a block of the other kind, and only a conditional
block is told of its other branch, and that once. -/
theorem reads_meets :
    (∀ reader : Reader, ∃ outcome, (∀ other, reader.Reads other ↔ other = outcome) ∧
      outcome.Meets reader) ∧
    (∀ (tokens : List Token) (position : Nat), ∃ outcome,
      (Reader.mk tokens position []).Reads outcome ∧ outcome.stop = .exhausted ∧
        outcome.reader = ⟨tokens, max position tokens.length, []⟩) ∧
    (∀ reader : Reader, ∃ kept, (reader.push (.cond false)).Reads kept ∧
      (kept.stop ∈ [.atEndIf, .unwind, .exhausted] ∨
        kept.stop = .atElse ∧ ∃ other, kept.reader.turn.Reads other ∧
          other.stop ∈ [.atEndIf, .unwind, .exhausted])) ∧
    (∀ reader : Reader, ∃ body, (reader.push .each).Reads body ∧
      body.stop ∈ [.atEndEach, .unwind, .exhausted]) := by
  refine ⟨?returns, ?all, ?cond, ?each⟩
  case returns =>
    intro reader
    obtain ⟨outcome, reads, meets⟩ := exists_reads reader
    refine ⟨outcome, ?_, meets⟩
    intro other
    constructor
    · intro readsOther
      exact readsOther.unique reads
    · intro same
      exact same ▸ reads
  case all =>
    intro tokens position
    obtain ⟨outcome, reads, meets⟩ := exists_reads ⟨tokens, position, []⟩
    have stopped := meets.exhausted_of_nil rfl
    have passed := meets.follows.passed
    refine ⟨outcome, reads, stopped, ?_⟩
    exact Reader.ext passed.tokens (meets.position_of_exhausted stopped) passed.opened
  case cond =>
    intro reader
    obtain ⟨kept, keptReads, meets⟩ := exists_reads (reader.push (.cond false))
    refine ⟨kept, keptReads, ?_⟩
    rcases meets.stop_of_cons .cond rfl rfl with ⟨turned, -⟩ | closed
    · have isOpen := meets.follows.passed.turn.opened
      obtain ⟨other, otherReads, otherMeets⟩ := exists_reads kept.reader.turn
      refine .inr ⟨turned, other, otherReads, ?_⟩
      rcases otherMeets.stop_of_cons .cond isOpen rfl with ⟨-, again⟩ | closed
      · cases again
      · exact closed
    · exact .inl closed
  case each =>
    intro reader
    obtain ⟨body, bodyReads, meets⟩ := exists_reads (reader.push .each)
    refine ⟨body, bodyReads, ?_⟩
    rcases meets.stop_of_cons .each rfl rfl with ⟨-, isCond⟩ | closed
    · cases isCond
    · exact closed

end Reader

end CertPress.Markup
