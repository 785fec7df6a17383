import CertPress.Markup.Parser

/-!
# What a run reads

`run` decides at each tag what to do with it and carries the proof that it makes
progress.  This module describes the same reading without measures: `Reads` is
the tree of a token sequence in which every tag balances, and `Runs` is the
reading of any sequence inside open blocks, one rule for each thing that can
happen to the next token.  A run always follows `Runs`, and on a balanced
sequence it finds the tree of `Reads`.
-/

namespace CertPress.Markup

/-- The two kinds of blocks. -/
inductive Kind where
  | cond
  | each
  deriving DecidableEq, Repr

namespace Kind

/-- Whether a block is of the kind. -/
def isOf : Kind → Block → Bool
  | .cond => Block.isCond
  | .each => Block.isEach

/-- Why a run stops at the end of the innermost block, if that is of the kind. -/
def stop : Kind → Stop
  | .cond => .atEndIf
  | .each => .atEndEach

/-- The meaning of a tag that ends a block of the kind. -/
def closer : Kind → Tag
  | .cond => .closeIf
  | .each => .closeEach

@[simp] theorem isOf_cond : cond.isOf = Block.isCond := rfl

@[simp] theorem isOf_each : each.isOf = Block.isEach := rfl

end Kind

/-- What a token does to the open blocks. -/
inductive Role where
  /-- It shows something. -/
  | content
  | opens (block : Block)
  /-- It starts the other branch of a conditional block. -/
  | otherwise
  | closes (kind : Kind)
  /-- It is a tag without a meaning. -/
  | nothing
  deriving DecidableEq, Repr

/-- The role of a tag. -/
def Tag.role : Tag → Role
  | .value _ => .content
  | .openIf _ => .opens (.cond false)
  | .otherwise => .otherwise
  | .closeIf => .closes .cond
  | .openEach _ => .opens .each
  | .closeEach => .closes .each
  | .unknown => .nothing

/-- The role of a token. -/
def Token.role : Token → Role
  | .text _ => .content
  | .tag inner => (Tag.ofInner inner).role

theorem Token.role_tag {inner : List Char} {tag : Tag} (meaning : Tag.ofInner inner = tag) :
    (Token.tag inner).role = tag.role := by
  rw [Token.role, meaning]

/-! ## Trees of balanced sequences -/

/-- The tree of a token sequence in which every tag balances. -/
inductive Reads : List Token → List Node → Prop where
  | nil : Reads [] []
  | text (content : List Char) {rest : List Token} {nodes : List Node} :
      Reads rest nodes →
      Reads (.text content :: rest) (.text (String.ofList content) :: nodes)
  | value {inner : List Char} {path : String} {rest : List Token} {nodes : List Node} :
      Tag.ofInner inner = .value path → Reads rest nodes →
      Reads (.tag inner :: rest) (.value path :: nodes)
  | cond {start finish : List Char} {path : String} {kept rest : List Token}
      {keptNodes nodes : List Node} :
      Tag.ofInner start = .openIf path → Tag.ofInner finish = .closeIf →
      Reads kept keptNodes → Reads rest nodes →
      Reads (.tag start :: (kept ++ .tag finish :: rest)) (.cond path keptNodes [] :: nodes)
  | condElse {start middle finish : List Char} {path : String} {kept other rest : List Token}
      {keptNodes otherNodes nodes : List Node} :
      Tag.ofInner start = .openIf path → Tag.ofInner middle = .otherwise →
      Tag.ofInner finish = .closeIf →
      Reads kept keptNodes → Reads other otherNodes → Reads rest nodes →
      Reads (.tag start :: (kept ++ .tag middle :: (other ++ .tag finish :: rest)))
        (.cond path keptNodes otherNodes :: nodes)
  | each {start finish : List Char} {path : String} {body rest : List Token}
      {bodyNodes nodes : List Node} :
      Tag.ofInner start = .openEach path → Tag.ofInner finish = .closeEach →
      Reads body bodyNodes → Reads rest nodes →
      Reads (.tag start :: (body ++ .tag finish :: rest)) (.each path bodyNodes :: nodes)

namespace Reads

/-- The trees of two sequences make up the tree of both. -/
theorem append {left right : List Token} {leftNodes rightNodes : List Node}
    (readsLeft : Reads left leftNodes) (readsRight : Reads right rightNodes) :
    Reads (left ++ right) (leftNodes ++ rightNodes) := by
  induction readsLeft with
  | nil => exact readsRight
  | text content _ hypothesis => exact .text content hypothesis
  | value meaning _ hypothesis => exact .value meaning hypothesis
  | cond opens ends kept _ _ hypothesis =>
      simpa using Reads.cond opens ends kept hypothesis
  | condElse opens turns ends kept other _ _ _ hypothesis =>
      simpa using Reads.condElse opens turns ends kept other hypothesis
  | each opens ends body _ _ hypothesis =>
      simpa using Reads.each opens ends body hypothesis

end Reads

namespace Run

variable {tokens later : List Token}

@[simp] theorem nodes_prepend (nodes : List Node) (run : Run later)
    (later_le : later.length ≤ tokens.length) :
    (run.prepend nodes later_le : Run tokens).nodes = nodes ++ run.nodes := rfl

@[simp] theorem stop_prepend (nodes : List Node) (run : Run later)
    (later_le : later.length ≤ tokens.length) :
    (run.prepend nodes later_le : Run tokens).stop = run.stop := rfl

@[simp] theorem rest_prepend (nodes : List Node) (run : Run later)
    (later_le : later.length ≤ tokens.length) :
    (run.prepend nodes later_le : Run tokens).rest = run.rest := rfl

@[simp] theorem nodes_halt (stop : Stop) (rest : List Token)
    (rest_le : rest.length ≤ tokens.length) :
    (halt stop rest rest_le : Run tokens).nodes = [] := rfl

@[simp] theorem stop_halt (stop : Stop) (rest : List Token)
    (rest_le : rest.length ≤ tokens.length) :
    (halt stop rest rest_le : Run tokens).stop = stop := rfl

@[simp] theorem rest_halt (stop : Stop) (rest : List Token)
    (rest_le : rest.length ≤ tokens.length) :
    (halt stop rest rest_le : Run tokens).rest = rest := rfl

end Run

/-! ## Readings inside open blocks -/

/-- Whether a tag does nothing inside open blocks. -/
def Stray (blocks : List Block) (token : Token) : Prop :=
  match token.role with
  | .nothing => True
  | .otherwise => ∀ around, blocks ≠ .cond false :: around
  | .closes kind => blocks.any kind.isOf = false
  | _ => False

/-- Whether a sequence leaves a block unclosed: it is at its end, or it begins
with the end of a block of another kind around that one. -/
def Unclosed (block : Block) (around : List Block) : List Token → Prop
  | [] => True
  | token :: _ => ∃ kind : Kind,
      token.role = .closes kind ∧ kind.isOf block = false ∧ around.any kind.isOf

/-- The reading of tokens inside open blocks, of which the innermost is the
first.  It gives nodes and leaves the tokens from the tag on at which it
stops. -/
inductive Runs : List Block → List Token → List Node → List Token → Prop where
  | exhausted (blocks : List Block) : Runs blocks [] [] []
  | atElse {token : Token} (around : List Block) (rest : List Token) :
      token.role = .otherwise →
      Runs (.cond false :: around) (token :: rest) [] (token :: rest)
  | atEnd {blocks : List Block} {token : Token} {kind : Kind} (rest : List Token) :
      token.role = .closes kind → blocks.any kind.isOf →
      Runs blocks (token :: rest) [] (token :: rest)
  | text {blocks : List Block} (content : List Char) {rest ending : List Token}
      {nodes : List Node} :
      Runs blocks rest nodes ending →
      Runs blocks (.text content :: rest) (.text (String.ofList content) :: nodes) ending
  | value {blocks : List Block} {inner : List Char} {path : String} {rest ending : List Token}
      {nodes : List Node} :
      Tag.ofInner inner = .value path → Runs blocks rest nodes ending →
      Runs blocks (.tag inner :: rest) (.value path :: nodes) ending
  | stray {blocks : List Block} {token : Token} {rest ending : List Token}
      {nodes : List Node} :
      Stray blocks token → Runs blocks rest nodes ending →
      Runs blocks (token :: rest) nodes ending
  | cond {blocks : List Block} {start finish : List Char} {path : String}
      {rest later ending : List Token} {kept nodes : List Node} :
      Tag.ofInner start = .openIf path → Tag.ofInner finish = .closeIf →
      Runs (.cond false :: blocks) rest kept (.tag finish :: later) →
      Runs blocks later nodes ending →
      Runs blocks (.tag start :: rest) (.cond path kept [] :: nodes) ending
  | condElse {blocks : List Block} {start middle finish : List Char} {path : String}
      {rest between later ending : List Token} {kept other nodes : List Node} :
      Tag.ofInner start = .openIf path → Tag.ofInner middle = .otherwise →
      Tag.ofInner finish = .closeIf →
      Runs (.cond false :: blocks) rest kept (.tag middle :: between) →
      Runs (.cond true :: blocks) between other (.tag finish :: later) →
      Runs blocks later nodes ending →
      Runs blocks (.tag start :: rest) (.cond path kept other :: nodes) ending
  | each {blocks : List Block} {start finish : List Char} {path : String}
      {rest later ending : List Token} {body nodes : List Node} :
      Tag.ofInner start = .openEach path → Tag.ofInner finish = .closeEach →
      Runs (.each :: blocks) rest body (.tag finish :: later) →
      Runs blocks later nodes ending →
      Runs blocks (.tag start :: rest) (.each path body :: nodes) ending
  | unclosed {blocks : List Block} {block : Block} {token : Token}
      {rest later ending : List Token} {content nodes : List Node} :
      token.role = .opens block → Unclosed block blocks later →
      Runs (block :: blocks) rest content later → Runs blocks later nodes ending →
      Runs blocks (token :: rest) (content ++ nodes) ending
  | unclosedElse {blocks : List Block} {token middle : Token}
      {rest between later ending : List Token} {kept other nodes : List Node} :
      token.role = .opens (.cond false) → middle.role = .otherwise →
      Unclosed (.cond true) blocks later →
      Runs (.cond false :: blocks) rest kept (middle :: between) →
      Runs (.cond true :: blocks) between other later → Runs blocks later nodes ending →
      Runs blocks (token :: rest) (kept ++ other ++ nodes) ending

/-- Why a reading stops before a sequence, and the tokens after the tag at which
it stops, if that tag is read. -/
inductive Stops : List Block → List Token → Stop → List Token → Prop where
  | exhausted (blocks : List Block) : Stops blocks [] .exhausted []
  | atElse {token : Token} (around : List Block) (rest : List Token) :
      token.role = .otherwise →
      Stops (.cond false :: around) (token :: rest) .atElse rest
  | atEnd {block : Block} {token : Token} {kind : Kind} (around : List Block)
      (rest : List Token) :
      token.role = .closes kind → kind.isOf block →
      Stops (block :: around) (token :: rest) kind.stop rest
  | unwind {block : Block} {token : Token} {kind : Kind} {around : List Block}
      (rest : List Token) :
      token.role = .closes kind → kind.isOf block = false → around.any kind.isOf →
      Stops (block :: around) (token :: rest) .unwind (token :: rest)

namespace Stops

/-- Outside all blocks only the end of the tokens stops a reading. -/
theorem eq_nil {ending rest : List Token} {stop : Stop} (stops : Stops [] ending stop rest) :
    ending = [] := by
  cases stops
  rfl

/-- A conditional block without its other branch has that branch or its end
after it, or it is not closed. -/
theorem inCond {around : List Block} {ending rest : List Token} {stop : Stop}
    (stops : Stops (.cond false :: around) ending stop rest) :
    (stop = .atElse ∧ ∃ token, ending = token :: rest ∧ token.role = .otherwise) ∨
      (stop = .atEndIf ∧ ∃ token, ending = token :: rest ∧ token.role = .closes .cond) ∨
      ((stop ≠ .atElse ∧ stop ≠ .atEndIf) ∧ ending = rest ∧
        Unclosed (.cond false) around rest) := by
  cases stops with
  | exhausted => exact .inr (.inr ⟨by simp, rfl, trivial⟩)
  | atElse _ _ turns => exact .inl ⟨rfl, _, rfl, turns⟩
  | @atEnd _ token kind _ _ ends isOf =>
      cases kind with
      | cond => exact .inr (.inl ⟨rfl, token, rfl, ends⟩)
      | each => exact absurd isOf (by simp [Kind.isOf, Block.isEach])
  | unwind rest ends isNot outer => exact .inr (.inr ⟨by simp, rfl, _, ends, isNot, outer⟩)

/-- A block that waits for its end only has that end after it, or it is not
closed. -/
theorem inClosed {block : Block} {around : List Block} {ending rest : List Token} {stop : Stop}
    (kind : Kind) (isOf : kind.isOf block) (noElse : block ≠ .cond false)
    (stops : Stops (block :: around) ending stop rest) :
    (stop = kind.stop ∧ ∃ token, ending = token :: rest ∧ token.role = .closes kind) ∨
      (stop ≠ kind.stop ∧ ending = rest ∧ Unclosed block around rest) := by
  cases stops with
  | exhausted => exact .inr ⟨by cases kind <;> simp [Kind.stop], rfl, trivial⟩
  | atElse => exact absurd rfl noElse
  | @atEnd _ token other _ _ ends isOther =>
      have same : other = kind := by
        cases block <;> cases kind <;> cases other <;>
          simp_all [Kind.isOf, Block.isCond, Block.isEach]
      subst same
      exact .inl ⟨rfl, token, rfl, ends⟩
  | unwind rest ends isNot outer =>
      exact .inr ⟨by cases kind <;> simp [Kind.stop], rfl, _, ends, isNot, outer⟩

end Stops

theorem closes_innermost {kind : Block → Bool} {blocks : List Block}
    (closed : closes kind blocks = .innermost) :
    ∃ block around, blocks = block :: around ∧ kind block := by
  cases blocks with
  | nil => simp [closes] at closed
  | cons block around =>
      refine ⟨block, around, rfl, ?_⟩
      simp only [closes] at closed
      split at closed
      · assumption
      · split at closed <;> simp at closed

theorem closes_outer {kind : Block → Bool} {blocks : List Block}
    (closed : closes kind blocks = .outer) :
    ∃ block around, blocks = block :: around ∧ kind block = false ∧ around.any kind := by
  cases blocks with
  | nil => simp [closes] at closed
  | cons block around =>
      refine ⟨block, around, rfl, ?_⟩
      simp only [closes] at closed
      split at closed
      · simp at closed
      · split at closed
        · simp_all
        · simp at closed

theorem closes_nothing {kind : Block → Bool} {blocks : List Block}
    (closed : closes kind blocks = .nothing) : blocks.any kind = false := by
  cases blocks with
  | nil => rfl
  | cons block around =>
      simp only [closes] at closed
      split at closed
      · simp at closed
      · split at closed <;> simp_all

theorem Tag.eq_otherwise {tag : Tag} (turns : tag.role = .otherwise) : tag = .otherwise := by
  cases tag <;> simp_all [Tag.role]

theorem Tag.eq_closer {tag : Tag} {kind : Kind} (ends : tag.role = .closes kind) :
    tag = kind.closer := by
  cases tag <;> simp [Tag.role] at ends <;> subst ends <;> rfl

/-- A token that starts the other branch of a block is a tag. -/
theorem Token.exists_otherwise {token : Token} (turns : token.role = .otherwise) :
    ∃ inner, token = .tag inner ∧ Tag.ofInner inner = .otherwise := by
  cases token with
  | text content => simp [Token.role] at turns
  | tag inner => exact ⟨inner, rfl, Tag.eq_otherwise turns⟩

/-- A token that ends a block is a tag. -/
theorem Token.exists_closer {token : Token} {kind : Kind} (ends : token.role = .closes kind) :
    ∃ inner, token = .tag inner ∧ Tag.ofInner inner = kind.closer := by
  cases token with
  | text content => simp [Token.role] at ends
  | tag inner => exact ⟨inner, rfl, Tag.eq_closer ends⟩

/-- What a run does at the end of a block of either kind. -/
theorem run_closer {inner : List Char} {kind : Kind} (blocks : List Block)
    (rest : List Token) (ends : (Token.tag inner).role = .closes kind) :
    run blocks (.tag inner :: rest) =
      match closes kind.isOf blocks with
      | .innermost => .halt kind.stop rest (Nat.le_succ _)
      | .outer => .halt .unwind (.tag inner :: rest) (Nat.le_refl _)
      | .nothing => (run blocks rest).prepend [] (Nat.le_succ _) := by
  have meaning : Tag.ofInner inner = kind.closer := Tag.eq_closer ends
  rw [run.eq_def]
  cases kind with
  | cond =>
      simp only [meaning, Kind.closer]
      rfl
  | each =>
      simp only [meaning, Kind.closer]
      rfl

/-- The rules hold at the end of a block if they hold after it, should it be
stray. -/
theorem exists_runs_closer {inner : List Char} {kind : Kind} {blocks : List Block}
    {rest : List Token} (ends : (Token.tag inner).role = .closes kind)
    (later : closes kind.isOf blocks = .nothing →
      ∃ ending, Runs blocks rest (run blocks rest).nodes ending ∧
        Stops blocks ending (run blocks rest).stop (run blocks rest).rest) :
    ∃ ending, Runs blocks (.tag inner :: rest) (run blocks (.tag inner :: rest)).nodes ending ∧
      Stops blocks ending (run blocks (.tag inner :: rest)).stop
        (run blocks (.tag inner :: rest)).rest := by
  rw [run_closer blocks rest ends]
  cases closed : closes kind.isOf blocks with
  | innermost =>
      obtain ⟨block, around, rfl, isOf⟩ := closes_innermost closed
      exact ⟨_, .atEnd rest ends (by simp [isOf]), .atEnd around rest ends isOf⟩
  | outer =>
      obtain ⟨block, around, rfl, isNot, outer⟩ := closes_outer closed
      exact ⟨_, .atEnd rest ends (by simp [isNot, outer]), .unwind rest ends isNot outer⟩
  | nothing =>
      obtain ⟨ending, runs, stops⟩ := later closed
      have stray : Stray blocks (.tag inner) := by
        simpa [Stray, ends] using closes_nothing closed
      exact ⟨ending, .stray stray runs, stops⟩

/-- A run follows the rules of `Runs` and stops as `Stops` says. -/
theorem exists_runs (blocks : List Block) (tokens : List Token) :
    ∃ ending, Runs blocks tokens (run blocks tokens).nodes ending ∧
      Stops blocks ending (run blocks tokens).stop (run blocks tokens).rest := by
  induction blocks, tokens using run.induct with
  | case1 blocks =>
      rw [run.eq_def]
      exact ⟨[], .exhausted blocks, .exhausted blocks⟩
  | case2 blocks content rest hypothesis =>
      obtain ⟨ending, runs, stops⟩ := hypothesis
      rw [run.eq_def]
      exact ⟨ending, .text content runs, stops⟩
  | case3 blocks inner rest path meaning hypothesis =>
      obtain ⟨ending, runs, stops⟩ := hypothesis
      rw [run.eq_def]
      simp only [meaning]
      exact ⟨ending, .value meaning runs, stops⟩
  | case4 blocks inner rest meaning hypothesis =>
      obtain ⟨ending, runs, stops⟩ := hypothesis
      rw [run.eq_def]
      simp only [meaning]
      exact ⟨ending, .stray (by simp [Stray, Token.role, Tag.role, meaning]) runs, stops⟩
  | case5 blocks inner rest path meaning kept turned other shorter keptRuns otherRuns _ restRuns =>
      obtain ⟨keptEnding, keptRuns, keptStops⟩ := keptRuns
      obtain ⟨otherEnding, otherRuns, otherStops⟩ := otherRuns
      obtain ⟨ending, runs, stops⟩ := restRuns
      have opens : (Token.tag inner).role = .opens (.cond false) := Token.role_tag meaning
      have turn : ∃ token, keptEnding = token :: kept.rest ∧ token.role = .otherwise := by
        rcases keptStops.inCond with ⟨_, turn⟩ | ⟨ended, _⟩ | ⟨stays, _⟩
        · exact turn
        · exact absurd (turned.symm.trans ended) (by simp)
        · exact absurd turned stays.1
      obtain ⟨middle, rfl, turns⟩ := turn
      obtain ⟨middleInner, rfl, turnsTag⟩ := Token.exists_otherwise turns
      rw [run.eq_def]
      simp only [meaning]
      rw [if_pos turned]
      refine ⟨ending, ?_, stops⟩
      show Runs blocks (.tag inner :: rest)
        (condNodes path kept.nodes other.nodes other.stop ++ (run blocks other.rest).nodes) ending
      rcases otherStops.inClosed .cond rfl (by simp) with
        ⟨ended, finish, rfl, ends⟩ | ⟨notEnded, rfl, unclosed⟩
      · obtain ⟨finishInner, rfl, endsTag⟩ := Token.exists_closer ends
        rw [condNodes, if_pos (show other.stop = .atEndIf from ended)]
        exact .condElse meaning turnsTag endsTag keptRuns otherRuns runs
      · rw [condNodes, if_neg (show other.stop ≠ .atEndIf from notEnded)]
        exact .unclosedElse opens turns unclosed keptRuns otherRuns runs
  | case6 blocks inner rest path meaning kept notTurned keptRuns restRuns =>
      obtain ⟨keptEnding, keptRuns, keptStops⟩ := keptRuns
      obtain ⟨ending, runs, stops⟩ := restRuns
      have opens : (Token.tag inner).role = .opens (.cond false) := Token.role_tag meaning
      rw [run.eq_def]
      simp only [meaning]
      rw [if_neg notTurned]
      refine ⟨ending, ?_, stops⟩
      show Runs blocks (.tag inner :: rest)
        (condNodes path kept.nodes [] kept.stop ++ (run blocks kept.rest).nodes) ending
      rcases keptStops.inCond with
        ⟨turned, _⟩ | ⟨ended, finish, rfl, ends⟩ | ⟨stays, rfl, unclosed⟩
      · exact absurd turned notTurned
      · obtain ⟨finishInner, rfl, endsTag⟩ := Token.exists_closer ends
        rw [condNodes, if_pos ended]
        exact .cond meaning endsTag keptRuns runs
      · rw [condNodes, if_neg stays.2, List.append_nil]
        exact .unclosed opens unclosed keptRuns runs
  | case7 blocks inner rest path meaning body bodyRuns restRuns =>
      obtain ⟨bodyEnding, bodyRuns, bodyStops⟩ := bodyRuns
      obtain ⟨ending, runs, stops⟩ := restRuns
      have opens : (Token.tag inner).role = .opens .each := Token.role_tag meaning
      rw [run.eq_def]
      simp only [meaning]
      refine ⟨ending, ?_, stops⟩
      show Runs blocks (.tag inner :: rest)
        (eachNodes path body.nodes body.stop ++ (run blocks body.rest).nodes) ending
      rcases bodyStops.inClosed .each rfl (by simp) with
        ⟨ended, finish, rfl, ends⟩ | ⟨notEnded, rfl, unclosed⟩
      · obtain ⟨finishInner, rfl, endsTag⟩ := Token.exists_closer ends
        rw [eachNodes, if_pos (show body.stop = .atEndEach from ended)]
        exact .each meaning endsTag bodyRuns runs
      · rw [eachNodes, if_neg (show body.stop ≠ .atEndEach from notEnded)]
        exact .unclosed opens unclosed bodyRuns runs
  | case8 inner rest meaning around =>
      rw [run.eq_def]
      simp only [meaning]
      have turns : (Token.tag inner).role = .otherwise := Token.role_tag meaning
      exact ⟨_, .atElse around rest turns, .atElse around rest turns⟩
  | case9 blocks inner rest meaning notOpen hypothesis =>
      obtain ⟨ending, runs, stops⟩ := hypothesis
      have stray : Stray blocks (.tag inner) := by
        simpa [Stray, Token.role, Tag.role, meaning] using notOpen
      rw [run.eq_def]
      simp only [meaning]
      exact ⟨ending, .stray stray runs, stops⟩
  | case10 blocks inner rest meaning closed =>
      have ends : (Token.tag inner).role = .closes .cond := Token.role_tag meaning
      exact exists_runs_closer ends fun none => by simp_all
  | case11 blocks inner rest meaning closed =>
      have ends : (Token.tag inner).role = .closes .cond := Token.role_tag meaning
      exact exists_runs_closer ends fun none => by simp_all
  | case12 blocks inner rest meaning closed hypothesis =>
      have ends : (Token.tag inner).role = .closes .cond := Token.role_tag meaning
      exact exists_runs_closer ends fun _ => hypothesis
  | case13 blocks inner rest meaning closed =>
      have ends : (Token.tag inner).role = .closes .each := Token.role_tag meaning
      exact exists_runs_closer ends fun none => by simp_all
  | case14 blocks inner rest meaning closed =>
      have ends : (Token.tag inner).role = .closes .each := Token.role_tag meaning
      exact exists_runs_closer ends fun none => by simp_all
  | case15 blocks inner rest meaning closed hypothesis =>
      have ends : (Token.tag inner).role = .closes .each := Token.role_tag meaning
      exact exists_runs_closer ends fun _ => hypothesis

/-! ## Runs of balanced sequences -/

/-- Whether a run finds `nodes` and then what another run finds. -/
def Run.Extends {tokens later : List Token} (nodes : List Node) (whole : Run tokens)
    (tail : Run later) : Prop :=
  whole.nodes = nodes ++ tail.nodes ∧ whole.stop = tail.stop ∧ whole.rest = tail.rest

theorem run_else {middle : List Char} (turns : Tag.ofInner middle = .otherwise)
    (blocks : List Block) (rest : List Token) :
    run (.cond false :: blocks) (.tag middle :: rest) =
      .halt .atElse rest (Nat.le_succ _) := by
  rw [run.eq_def]
  simp only [turns]

theorem run_endIf {finish : List Char} (ends : Tag.ofInner finish = .closeIf)
    (elseSeen : Bool) (blocks : List Block) (rest : List Token) :
    run (.cond elseSeen :: blocks) (.tag finish :: rest) =
      .halt .atEndIf rest (Nat.le_succ _) := by
  rw [run.eq_def]
  simp [ends, closes, Block.isCond]

theorem run_endEach {finish : List Char} (ends : Tag.ofInner finish = .closeEach)
    (blocks : List Block) (rest : List Token) :
    run (.each :: blocks) (.tag finish :: rest) = .halt .atEndEach rest (Nat.le_succ _) := by
  rw [run.eq_def]
  simp [ends, closes, Block.isEach]

section Blocks

variable {blocks : List Block} {start middle finish : List Char} {path : String}
variable {rest between later : List Token} {kept other : List Node}

theorem run_cond (opens : Tag.ofInner start = .openIf path)
    (ends : Tag.ofInner finish = .closeIf)
    (keptRun : (run (.cond false :: blocks) rest).Extends kept
      (run (.cond false :: blocks) (.tag finish :: later))) :
    (run blocks (.tag start :: rest)).Extends [.cond path kept []] (run blocks later) := by
  obtain ⟨nodes_eq, stop_eq, rest_eq⟩ := keptRun
  simp only [run_endIf ends, Run.nodes_halt, Run.stop_halt, Run.rest_halt, List.append_nil]
    at nodes_eq stop_eq rest_eq
  subst nodes_eq rest_eq
  rw [run.eq_def blocks (.tag start :: rest)]
  simp only [opens]
  rw [if_neg (by simp [stop_eq])]
  simp [Run.Extends, condNodes, stop_eq]

theorem run_condElse (opens : Tag.ofInner start = .openIf path)
    (turns : Tag.ofInner middle = .otherwise) (ends : Tag.ofInner finish = .closeIf)
    (keptRun : (run (.cond false :: blocks) rest).Extends kept
      (run (.cond false :: blocks) (.tag middle :: between)))
    (otherRun : (run (.cond true :: blocks) between).Extends other
      (run (.cond true :: blocks) (.tag finish :: later))) :
    (run blocks (.tag start :: rest)).Extends [.cond path kept other] (run blocks later) := by
  obtain ⟨keptNodes, keptStop, keptRest⟩ := keptRun
  obtain ⟨otherNodes, otherStop, otherRest⟩ := otherRun
  simp only [run_else turns, run_endIf ends, Run.nodes_halt, Run.stop_halt, Run.rest_halt,
    List.append_nil] at keptNodes keptStop keptRest otherNodes otherStop otherRest
  subst keptNodes keptRest otherNodes otherRest
  rw [run.eq_def blocks (.tag start :: rest)]
  simp only [opens]
  rw [if_pos keptStop]
  simp [Run.Extends, condNodes, otherStop]

theorem run_each (opens : Tag.ofInner start = .openEach path)
    (ends : Tag.ofInner finish = .closeEach)
    (bodyRun : (run (.each :: blocks) rest).Extends kept
      (run (.each :: blocks) (.tag finish :: later))) :
    (run blocks (.tag start :: rest)).Extends [.each path kept] (run blocks later) := by
  obtain ⟨nodes_eq, stop_eq, rest_eq⟩ := bodyRun
  simp only [run_endEach ends, Run.nodes_halt, Run.stop_halt, Run.rest_halt, List.append_nil]
    at nodes_eq stop_eq rest_eq
  subst nodes_eq rest_eq
  rw [run.eq_def blocks (.tag start :: rest)]
  simp only [opens]
  simp [Run.Extends, eachNodes, stop_eq]

end Blocks

theorem Run.Extends.trans {first second third : List Token} {nodes others : List Node}
    {left : Run first} {middle : Run second} {right : Run third}
    (start : left.Extends nodes middle) (finish : middle.Extends others right) :
    left.Extends (nodes ++ others) right :=
  ⟨by rw [start.1, finish.1, List.append_assoc], start.2.1.trans finish.2.1,
    start.2.2.trans finish.2.2⟩

namespace Reads

/-- A run through a balanced sequence finds its tree and goes on behind it,
whatever blocks are open. -/
theorem run_append {tokens : List Token} {nodes : List Node} (reads : Reads tokens nodes)
    (blocks : List Block) (later : List Token) :
    (run blocks (tokens ++ later)).Extends nodes (run blocks later) := by
  induction reads generalizing blocks later with
  | nil => exact ⟨rfl, rfl, rfl⟩
  | @text content rest nodes _ restRun =>
      have first : (run blocks (.text content :: (rest ++ later))).Extends
          [.text (String.ofList content)] (run blocks (rest ++ later)) := by
        rw [run.eq_def]
        exact ⟨rfl, rfl, rfl⟩
      exact first.trans (restRun blocks later)
  | @value inner path rest nodes meaning _ restRun =>
      have first : (run blocks (.tag inner :: (rest ++ later))).Extends
          [.value path] (run blocks (rest ++ later)) := by
        rw [run.eq_def]
        simp only [meaning]
        exact ⟨rfl, rfl, rfl⟩
      exact first.trans (restRun blocks later)
  | cond opens ends _ _ keptRun restRun =>
      rw [List.cons_append, List.append_assoc, List.cons_append]
      exact (run_cond opens ends (keptRun _ _)).trans (restRun blocks later)
  | condElse opens turns ends _ _ _ keptRun otherRun restRun =>
      rw [List.cons_append, List.append_assoc, List.cons_append, List.append_assoc,
        List.cons_append]
      exact (run_condElse opens turns ends (keptRun _ _) (otherRun _ _)).trans
        (restRun blocks later)
  | each opens ends _ _ bodyRun restRun =>
      rw [List.cons_append, List.append_assoc, List.cons_append]
      exact (run_each opens ends (bodyRun _ _)).trans (restRun blocks later)

/-- The tree of a balanced sequence is what a run finds. -/
theorem run_eq {tokens : List Token} {nodes : List Node} (reads : Reads tokens nodes) :
    (run [] tokens).nodes = nodes := by
  obtain ⟨nodes_eq, -, -⟩ := reads.run_append [] []
  rw [List.append_nil] at nodes_eq
  rw [nodes_eq, run.eq_def]
  simp

end Reads

end CertPress.Markup
