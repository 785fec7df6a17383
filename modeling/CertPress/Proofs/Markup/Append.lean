import CertPress.Proofs.Markup.Leak
import CertPress.Proofs.Markup.RoundTrip
import Mathlib.Data.List.DropRight

/-!
# Templates put together

Putting a template behind another one puts their renderings together if nothing
of the first one is left open: no brace at its end, which could become half of a
tag, and no block.  Stray tags of the first template stay stray, whatever stands
behind them, and the second template may be broken in any way.
-/

namespace CertPress.Markup

open Json (Value)

/-! ## Blocks that stay open -/

/-- The blocks that are open behind a token, the innermost first.  The end of a
block closes the nearest open block of its kind, and the blocks inside that one
with it; where none is open it does nothing. -/
def Token.openBehind (token : Token) (blocks : List Block) : List Block :=
  match token.role with
  | .content => blocks
  | .nothing => blocks
  | .opens block => block :: blocks
  | .otherwise =>
      match blocks with
      | .cond false :: around => .cond true :: around
      | _ => blocks
  | .closes kind =>
      match blocks.dropWhile (!kind.isOf ·) with
      | [] => blocks
      | _ :: around => around

/-- The blocks that are open behind tokens if `blocks` are open in front of
them. -/
def openBlocks (blocks : List Block) (tokens : List Token) : List Block :=
  tokens.foldl (fun blocks token => token.openBehind blocks) blocks

@[simp] theorem openBlocks_nil (blocks : List Block) : openBlocks blocks [] = blocks := rfl

@[simp] theorem openBlocks_cons (blocks : List Block) (token : Token) (rest : List Token) :
    openBlocks blocks (token :: rest) = openBlocks (token.openBehind blocks) rest := rfl

@[simp] theorem openBlocks_append (blocks : List Block) (left right : List Token) :
    openBlocks blocks (left ++ right) = openBlocks (openBlocks blocks left) right :=
  List.foldl_append

namespace Token

variable {token : Token} {blocks around : List Block} {block : Block}

theorem openBehind_content (shows : token.role = .content) : token.openBehind blocks = blocks := by
  simp only [openBehind, shows]

theorem openBehind_opens (opens : token.role = .opens block) :
    token.openBehind blocks = block :: blocks := by
  simp only [openBehind, opens]

theorem openBehind_otherwise (turns : token.role = .otherwise) :
    token.openBehind (.cond false :: around) = .cond true :: around := by
  simp only [openBehind, turns]

theorem openBehind_closes {kind : Kind} (ends : token.role = .closes kind)
    (isOf : kind.isOf block) : token.openBehind (block :: around) = around := by
  simp only [openBehind, ends, List.dropWhile_cons, isOf, Bool.not_true]
  rfl

theorem openBehind_stray (stray : Stray blocks token) : token.openBehind blocks = blocks := by
  unfold Stray at stray
  split at stray
  next means => simp only [openBehind, means]
  next means => simp only [openBehind, means]
  next kind means =>
    have none : blocks.dropWhile (!kind.isOf ·) = [] := by
      simpa [List.dropWhile_eq_nil_iff] using stray
    simp only [openBehind, means, none]
  next => exact stray.elim

/-- The end of a block around an unclosed one leaves neither of them open. -/
theorem openBehind_unclosed {kind : Kind} (ends : token.role = .closes kind)
    (isNot : kind.isOf block = false) (outer : around.any kind.isOf) :
    token.openBehind (block :: around) = token.openBehind around := by
  have found : around.dropWhile (!kind.isOf ·) ≠ [] := by
    simpa [List.dropWhile_eq_nil_iff] using outer
  simp only [openBehind, ends, List.dropWhile_cons, isNot, Bool.not_false, if_true]
  split
  next none => exact absurd none found
  next => rfl

end Token

/-! ## Blocks of a reading -/

section Steps

variable {blocks : List Block} {block : Block} {token middle finish : Token}
variable {rest between later : List Token} {kind : Kind}

/-- Behind a block that is closed no other blocks are open than in front of it. -/
theorem openBlocks_block (opens : token.role = .opens block) (ends : finish.role = .closes kind)
    (isOf : kind.isOf block)
    (inside : openBlocks (block :: blocks) rest =
      openBlocks (block :: blocks) (finish :: later)) :
    openBlocks blocks (token :: rest) = openBlocks blocks later := by
  rw [openBlocks_cons, Token.openBehind_opens opens, inside, openBlocks_cons,
    Token.openBehind_closes ends isOf]

/-- The same for a block that is closed behind its other branch. -/
theorem openBlocks_blockElse (opens : token.role = .opens (.cond false))
    (turns : middle.role = .otherwise) (ends : finish.role = .closes .cond)
    (inside : openBlocks (.cond false :: blocks) rest =
      openBlocks (.cond false :: blocks) (middle :: between))
    (inOther : openBlocks (.cond true :: blocks) between =
      openBlocks (.cond true :: blocks) (finish :: later)) :
    openBlocks blocks (token :: rest) = openBlocks blocks later := by
  rw [openBlocks_cons, Token.openBehind_opens opens, inside, openBlocks_cons,
    Token.openBehind_otherwise turns, inOther, openBlocks_cons, Token.openBehind_closes ends rfl]

/-- A block that is left unclosed in front of a tag is not open behind that tag. -/
theorem openBlocks_unclosed (unclosed : Unclosed block blocks later) (more : later ≠ []) :
    openBlocks (block :: blocks) later = openBlocks blocks later := by
  cases later with
  | nil => exact absurd rfl more
  | cons token rest =>
      obtain ⟨kind, ends, isNot, outer⟩ := unclosed
      rw [openBlocks_cons, openBlocks_cons, Token.openBehind_unclosed ends isNot outer]

/-- A block is left unclosed by a tag whatever stands behind the tag, and a reading
stops at it. -/
theorem Unclosed.append (unclosed : Unclosed block blocks later) (atTag : later ≠ [])
    (more : List Token) : Unclosed block blocks (later ++ more) ∧
      Runs (block :: blocks) (later ++ more) [] (later ++ more) := by
  cases later with
  | nil => exact absurd rfl atTag
  | cons token rest =>
      obtain ⟨kind, ends, isNot, outer⟩ := unclosed
      exact ⟨⟨kind, ends, isNot, outer⟩, .atEnd _ ends (by simp [outer])⟩

end Steps

namespace Runs

/-- At the end of the tokens nothing is read. -/
theorem eq_nil {blocks : List Block} {nodes : List Node} {ending : List Token}
    (runs : Runs blocks [] nodes ending) : ending = [] := by
  cases runs
  rfl

/-- A reading that stops at a tag has closed or given up all blocks that it opened,
and one that stops at the end of the tokens may leave some of them open. -/
theorem openBlocks_eq {blocks : List Block} {tokens ending : List Token} {nodes : List Node}
    (runs : Runs blocks tokens nodes ending) :
    (ending ≠ [] → openBlocks blocks tokens = openBlocks blocks ending) ∧
      openBlocks blocks ending <:+ openBlocks blocks tokens := by
  induction runs with
  | exhausted => exact ⟨fun _ => rfl, List.suffix_rfl⟩
  | atElse => exact ⟨fun _ => rfl, List.suffix_rfl⟩
  | atEnd => exact ⟨fun _ => rfl, List.suffix_rfl⟩
  | text content _ hypothesis => exact hypothesis
  | value meaning _ hypothesis =>
      rw [openBlocks_cons, Token.openBehind_content (Token.role_tag meaning)]
      exact hypothesis
  | stray stray _ hypothesis =>
      rw [openBlocks_cons, Token.openBehind_stray stray]
      exact hypothesis
  | cond opens ends _ _ inside behind =>
      rw [openBlocks_block (Token.role_tag opens) (Token.role_tag ends) rfl
        (inside.1 (List.cons_ne_nil _ _))]
      exact behind
  | condElse opens turns ends _ _ _ inside inOther behind =>
      rw [openBlocks_blockElse (Token.role_tag opens) (Token.role_tag turns) (Token.role_tag ends)
        (inside.1 (List.cons_ne_nil _ _)) (inOther.1 (List.cons_ne_nil _ _))]
      exact behind
  | each opens ends _ _ inside behind =>
      rw [openBlocks_block (Token.role_tag opens) (Token.role_tag ends) rfl
        (inside.1 (List.cons_ne_nil _ _))]
      exact behind
  | @unclosed _ block _ _ later _ _ _ opens stays _ behindRuns inside behind =>
      rw [openBlocks_cons, Token.openBehind_opens opens]
      by_cases atEnd : later = []
      · subst atEnd
        obtain rfl := behindRuns.eq_nil
        exact ⟨fun more => absurd rfl more, (List.suffix_cons _ _).trans inside.2⟩
      · rw [inside.1 atEnd, openBlocks_unclosed stays atEnd]
        exact behind
  | @unclosedElse _ _ _ _ _ later _ _ _ _ opens turns stays _ _ behindRuns inside inOther behind =>
      rw [openBlocks_cons, Token.openBehind_opens opens, inside.1 (List.cons_ne_nil _ _),
        openBlocks_cons, Token.openBehind_otherwise turns]
      by_cases atEnd : later = []
      · subst atEnd
        obtain rfl := behindRuns.eq_nil
        exact ⟨fun more => absurd rfl more, (List.suffix_cons _ _).trans inOther.2⟩
      · rw [inOther.1 atEnd, openBlocks_unclosed stays atEnd]
        exact behind

/-- A block that stays open at the end of the tokens is open there. -/
theorem ne_nil_of_closed {blocks : List Block} {block : Block} {later ending : List Token}
    {nodes : List Node} {opened : List Block} (behindRuns : Runs blocks later nodes ending)
    (inside : openBlocks (block :: blocks) later <:+ opened)
    (closed : opened = openBlocks blocks ending) : later ≠ [] := by
  rintro rfl
  obtain rfl := behindRuns.eq_nil
  have longer : (block :: blocks).length ≤ blocks.length := (closed ▸ inside).length_le
  exact Nat.not_succ_le_self _ longer

/-- A reading goes on as it would behind its tokens, if all blocks that it opened
are closed. -/
theorem append {blocks : List Block} {tokens ending later behind : List Token}
    {nodes more : List Node} (runs : Runs blocks tokens nodes ending)
    (closed : openBlocks blocks tokens = openBlocks blocks ending)
    (goesOn : Runs blocks (ending ++ later) more behind) :
    Runs blocks (tokens ++ later) (nodes ++ more) behind := by
  -- Only the last part of a reading can stop at the end of the tokens; the others stop at a tag,
  -- where they stop again with more tokens behind it.
  induction runs generalizing more behind with
  | exhausted => exact goesOn
  | atElse => exact goesOn
  | atEnd => exact goesOn
  | text content _ hypothesis => exact .text content (hypothesis closed goesOn)
  | value meaning _ hypothesis =>
      rw [openBlocks_cons, Token.openBehind_content (Token.role_tag meaning)] at closed
      exact .value meaning (hypothesis closed goesOn)
  | stray stray _ hypothesis =>
      rw [openBlocks_cons, Token.openBehind_stray stray] at closed
      exact .stray stray (hypothesis closed goesOn)
  | cond opens ends insideRuns _ inside hypothesis =>
      have insideSame := insideRuns.openBlocks_eq.1 (List.cons_ne_nil _ _)
      rw [openBlocks_block (Token.role_tag opens) (Token.role_tag ends) rfl insideSame] at closed
      have again := inside insideSame (.atEnd _ (Token.role_tag ends) rfl)
      rw [List.append_nil] at again
      exact .cond opens ends again (hypothesis closed goesOn)
  | condElse opens turns ends insideRuns otherRuns _ inside inOther hypothesis =>
      have insideSame := insideRuns.openBlocks_eq.1 (List.cons_ne_nil _ _)
      have otherSame := otherRuns.openBlocks_eq.1 (List.cons_ne_nil _ _)
      rw [openBlocks_blockElse (Token.role_tag opens) (Token.role_tag turns) (Token.role_tag ends)
        insideSame otherSame] at closed
      have again := inside insideSame (.atElse _ _ (Token.role_tag turns))
      have otherAgain := inOther otherSame (.atEnd _ (Token.role_tag ends) rfl)
      rw [List.append_nil] at again otherAgain
      exact .condElse opens turns ends again otherAgain (hypothesis closed goesOn)
  | each opens ends insideRuns _ inside hypothesis =>
      have insideSame := insideRuns.openBlocks_eq.1 (List.cons_ne_nil _ _)
      rw [openBlocks_block (Token.role_tag opens) (Token.role_tag ends) rfl insideSame] at closed
      have again := inside insideSame (.atEnd _ (Token.role_tag ends) rfl)
      rw [List.append_nil] at again
      exact .each opens ends again (hypothesis closed goesOn)
  | unclosed opens stays insideRuns behindRuns inside hypothesis =>
      rw [openBlocks_cons, Token.openBehind_opens opens] at closed
      have atTag := behindRuns.ne_nil_of_closed insideRuns.openBlocks_eq.2 closed
      have insideSame := insideRuns.openBlocks_eq.1 atTag
      rw [insideSame, openBlocks_unclosed stays atTag] at closed
      obtain ⟨staysAgain, stops⟩ := stays.append atTag later
      have again := inside insideSame stops
      rw [List.append_nil] at again
      rw [List.append_assoc]
      exact .unclosed opens staysAgain again (hypothesis closed goesOn)
  | unclosedElse opens turns stays insideRuns otherRuns behindRuns inside inOther hypothesis =>
      have insideSame := insideRuns.openBlocks_eq.1 (List.cons_ne_nil _ _)
      rw [openBlocks_cons, Token.openBehind_opens opens, insideSame, openBlocks_cons,
        Token.openBehind_otherwise turns] at closed
      have atTag := behindRuns.ne_nil_of_closed otherRuns.openBlocks_eq.2 closed
      have otherSame := otherRuns.openBlocks_eq.1 atTag
      rw [otherSame, openBlocks_unclosed stays atTag] at closed
      obtain ⟨staysAgain, stops⟩ := stays.append atTag later
      have again := inside insideSame (.atElse _ _ turns)
      have otherAgain := inOther otherSame stops
      rw [List.append_nil] at again otherAgain
      rw [List.append_assoc]
      exact .unclosedElse opens turns staysAgain again otherAgain (hypothesis closed goesOn)

end Runs

/-- Tokens that leave no block open, and tokens behind them, are read one after the
other. -/
theorem nodes_append {left : List Token} (closed : openBlocks [] left = [])
    (right : List Token) :
    (run [] (left ++ right)).nodes = (run [] left).nodes ++ (run [] right).nodes := by
  have whole := (runs_all left).append closed (runs_all right)
  exact whole.eq_run.symm

/-! ## Text behind the last tag -/

/-- The text behind the last tag of the tokens. -/
def behindTags (tokens : List Token) : List Char :=
  printed (tokens.rtakeWhile Token.isText)

theorem printed_textToken (content : List Char) : printed (textToken content) = content := by
  unfold textToken
  split
  next none => rw [List.isEmpty_iff.mp none, printed_nil]
  next => simp [Token.print]

theorem behindTags_textToken (content : List Char) : behindTags (textToken content) = content := by
  have allText : (textToken content).rtakeWhile Token.isText = textToken content := by
    apply List.rtakeWhile_eq_self_iff.mpr
    intro token member
    unfold textToken at member
    split at member
    next => exact absurd member List.not_mem_nil
    next =>
      obtain rfl := List.mem_singleton.mp member
      rfl
  rw [behindTags, allText, printed_textToken]

theorem behindTags_append (left right : List Token) (inner : List Char) :
    behindTags (left ++ .tag inner :: right) = behindTags right := by
  have same : (left ++ .tag inner :: right).rtakeWhile Token.isText =
      right.rtakeWhile Token.isText := by
    induction right using List.reverseRecOn with
    | nil => simp [Token.isText]
    | append_singleton right last hypothesis =>
        rw [← List.cons_append, ← List.append_assoc, List.rtakeWhile_concat,
          List.rtakeWhile_concat, hypothesis]
  rw [behindTags, behindTags, same]

/-! ## Tokens of sources put together -/

theorem tokenize_of_none {source : List Char} (none : firstTag? source = none) :
    tokenize source = textToken source := by
  rw [tokenize]
  split
  next => rfl
  next found first => exact absurd (none.symm.trans first) (by simp)

theorem tokenize_of_first {source : List Char} {found : FirstTag}
    (first : firstTag? source = some found) :
    tokenize source = textToken found.before ++ .tag found.inner :: tokenize found.after := by
  rw [tokenize]
  split
  next none => exact absurd (none.symm.trans first) (by simp)
  next other same =>
    obtain rfl := Option.some.inj (first.symm.trans same)
    rfl

/-- What stands behind a source does not move its first tag. -/
theorem firstTag?_append_right {source : List Char} {found : FirstTag}
    (first : firstTag? source = some found) (more : List Char) :
    firstTag? (source ++ more) = some { found with after := found.after ++ more } := by
  simp only [firstTag?, Option.bind_eq_bind, Option.bind_eq_some_iff, Prod.exists] at first ⊢
  obtain ⟨before, rest, opened, inner, after, closed, result⟩ := first
  have openedAgain := Text.cut?_append_right (by simp [opening]) opened more
  have closedAgain := Text.cut?_append_right (by simp [closing]) closed more
  refine ⟨before, rest ++ more, openedAgain, inner, after ++ more, closedAgain, ?_⟩
  split at result <;> (obtain rfl := Option.some.inj result; rfl)

/-- A text that no brace connects with the source behind it is text in front of the
first tag of that source. -/
theorem firstTag?_text_append {content : List Char} (absent : ¬ opening <:+: content)
    (last : content.getLast? ≠ some '\x7b') (source : List Char) :
    firstTag? (content ++ source) =
      (firstTag? source).map fun found => { found with before := content ++ found.before } := by
  have opened : Text.cut? opening (content ++ source) =
      (Text.cut? opening source).map fun pieces => (content ++ pieces.1, pieces.2) :=
    Text.cut?_pair_append absent last source
  simp only [firstTag?, opened]
  cases Text.cut? opening source with
  | none => rfl
  | some pieces =>
      obtain ⟨before, rest⟩ := pieces
      simp only [Option.map_some, Option.bind_eq_bind, Option.bind_some]
      cases Text.cut? closing rest with
      | none => rfl
      | some tag =>
          obtain ⟨inner, after⟩ := tag
          simp only [Option.bind_some]
          cases Text.cutLast? opening inner with
          | none => rfl
          | some innermost => simp

/-- The tokens of a source up to its last tag are the same whatever stands behind
it. -/
theorem exists_tokens_upTo_tag (source : List Char) :
    ∃ front, tokenize source = front ++ textToken (behindTags (tokenize source)) ∧
      ∀ more, tokenize (source ++ more) =
        front ++ tokenize (behindTags (tokenize source) ++ more) := by
  fun_induction tokenize source with
  | case1 source none =>
      rw [behindTags_textToken]
      exact ⟨[], rfl, fun more => rfl⟩
  | case2 source found first hypothesis =>
      obtain ⟨front, same, goesOn⟩ := hypothesis
      refine ⟨textToken found.before ++ .tag found.inner :: front, ?_, fun more => ?_⟩
      · rw [behindTags_append, List.append_assoc, List.cons_append, ← same]
      · rw [behindTags_append, tokenize_of_first (firstTag?_append_right first more), goesOn,
          List.append_assoc, List.cons_append]

/-- The tokens of a source behind a text that no brace connects with it differ from
its own tokens only in the text at their start. -/
theorem exists_tokens_behind_text {content : List Char} (absent : ¬ opening <:+: content)
    (last : content.getLast? ≠ some '\x7b') (source : List Char) :
    ∃ before others, tokenize source = textToken before ++ others ∧
      tokenize (content ++ source) = textToken (content ++ before) ++ others := by
  have first := firstTag?_text_append absent last source
  cases found : firstTag? source with
  | none =>
      rw [found, Option.map_none] at first
      rw [tokenize_of_none found, tokenize_of_none first]
      exact ⟨source, [], (List.append_nil _).symm, (List.append_nil _).symm⟩
  | some tag =>
      rw [found, Option.map_some] at first
      exact ⟨tag.before, .tag tag.inner :: tokenize tag.after, tokenize_of_first found,
        tokenize_of_first first⟩

/-! ## Renderings put together -/

/-- What tokens show in a scope. -/
def shown (scope : Value) (tokens : List Token) : String :=
  Node.renderAll scope (nodesOf tokens)

section Shown

variable (scope : Value)

theorem shown_eq (tokens : List Token) :
    shown scope tokens = Node.renderAll scope (run [] tokens).nodes :=
  (Node.renderAll_mergeTexts scope _).1

@[simp] theorem shown_nil : shown scope [] = "" := by
  rw [shown_eq, Reads.nil.run_eq, Node.renderAll]

/-- Tokens that leave no block open are shown in front of what is behind them. -/
theorem shown_append {left : List Token} (closed : openBlocks [] left = [])
    (right : List Token) :
    shown scope (left ++ right) = shown scope left ++ shown scope right := by
  rw [shown_eq, shown_eq, shown_eq, nodes_append closed, Node.renderAll_append]

theorem openBlocks_textToken (blocks : List Block) (content : List Char) :
    openBlocks blocks (textToken content) = blocks := by
  unfold textToken
  split
  next => rfl
  next => rfl

theorem shown_textToken (content : List Char) :
    shown scope (textToken content) = String.ofList content := by
  unfold textToken
  split
  next none => simp [List.isEmpty_iff.mp none]
  next =>
    have reads : Reads [.text content] [.text (String.ofList content)] := .text content .nil
    rw [shown_eq, reads.run_eq]
    simp [Node.renderAll, Node.render]

end Shown

theorem render_of_filled {source : String} (filled : Text.blank source = false) (scope : Value) :
    render source scope = .ok (shown scope (tokenize source.toList)) := by
  rw [render, parse, if_neg (by simp [filled])]
  rfl

/-- A template put in front of another one is shown in front of it, if the text
behind its last tag neither holds an opening pair nor ends in half of one and if it
leaves no block open: each one is closed, or given up at the end of a block around
it.  The template may have stray tags, and the other one may have tags and blocks
that are stray, unclosed or broken. -/
theorem render_append {first second : String} (scope : Value)
    (filled : Text.blank first = false) (filledSecond : Text.blank second = false)
    (absent : ¬ opening <:+: behindTags (tokenize first.toList))
    (last : (behindTags (tokenize first.toList)).getLast? ≠ some '\x7b')
    (closed : openBlocks [] (tokenize first.toList) = []) :
    ∃ before behind, render first scope = .ok before ∧ render second scope = .ok behind ∧
      render (first ++ second) scope = .ok (before ++ behind) := by
  refine ⟨_, _, render_of_filled filled scope, render_of_filled filledSecond scope, ?_⟩
  rw [render_of_filled (by simp [Text.blank_append, filled]), String.toList_append]
  obtain ⟨front, whole, goesOn⟩ := exists_tokens_upTo_tag first.toList
  obtain ⟨before, others, own, joined⟩ := exists_tokens_behind_text absent last second.toList
  have closedFront : openBlocks [] front = [] := by
    rw [whole, openBlocks_append, openBlocks_textToken] at closed
    exact closed
  have noBlock (content : List Char) : openBlocks [] (textToken content) = [] :=
    openBlocks_textToken [] content
  have firstShown : shown scope (tokenize first.toList) =
      shown scope front ++ String.ofList (behindTags (tokenize first.toList)) := by
    conv_lhs => rw [whole, shown_append scope closedFront, shown_textToken]
  have secondShown : shown scope (tokenize second.toList) =
      String.ofList before ++ shown scope others := by
    rw [own, shown_append scope (noBlock _), shown_textToken]
  rw [goesOn, joined, shown_append scope closedFront, shown_append scope (noBlock _),
    shown_textToken, firstShown, secondShown, String.ofList_append]
  simp only [String.append_assoc]

/-- The first template has a stray end of a block, and the second one closes a block
around an unclosed one and breaks off inside a tag. -/
theorem render_append_stray :
    ∃ before behind,
      render "\x7b\x7b/each\x7d\x7da\x7b\x7b#if x\x7d\x7db\x7b\x7b/if\x7d\x7d" (.object []) =
        .ok before ∧
      render "\x7b\x7b#if x\x7d\x7d\x7b\x7b#each x\x7d\x7dc\x7b\x7b/if\x7d\x7d\x7b\x7b" (.object []) =
        .ok behind ∧
      render ("\x7b\x7b/each\x7d\x7da\x7b\x7b#if x\x7d\x7db\x7b\x7b/if\x7d\x7d" ++
          "\x7b\x7b#if x\x7d\x7d\x7b\x7b#each x\x7d\x7dc\x7b\x7b/if\x7d\x7d\x7b\x7b") (.object []) =
        .ok (before ++ behind) :=
  render_append (.object []) (by decide) (by decide) (by decide +kernel) (by decide +kernel)
    (by decide +kernel)

end CertPress.Markup
