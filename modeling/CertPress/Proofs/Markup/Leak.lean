import CertPress.Markup.Render
import CertPress.Proofs.Markup.Balance
import CertPress.Proofs.Text.Cut

/-!
# Braces that are shown

A rendered template shows its texts and the texts of values, one after another.
Braces get there only from the texts of the template, as long as the values have
none.  An opening pair is one of a text, because no text but the last one ends in
a single opening brace; a closing pair may also be put together from two texts.
A template that leaves both behind can show what looks like a tag, and no other
template does.
-/

namespace CertPress.Markup

open Json (Value)

/-! ## What is shown -/

namespace Node

mutual

/-- The texts of a template in a node, whether they are shown or not. -/
def literals : Node → List String
  | .text content => [content]
  | .value _ => []
  | .cond _ kept otherwise => literalsAll kept ++ literalsAll otherwise
  | .each _ body => literalsAll body

/-- The texts of a template in a list of nodes. -/
def literalsAll : List Node → List String
  | [] => []
  | node :: rest => node.literals ++ literalsAll rest

end

mutual

/-- The texts of the values that are substituted while a node is rendered. -/
def substituted (scope : Value) : Node → List String
  | .text _ => []
  | .value path => ((lookup scope path).map textOf).toList
  | .cond path kept otherwise =>
      if (lookup scope path).any holds then substitutedAll scope kept
      else substitutedAll scope otherwise
  | .each path body =>
      match lookup scope path with
      | some (.array items) => items.flatMap fun item => substitutedAll item body
      | _ => []

/-- The texts of the values that are substituted in a list of nodes. -/
def substitutedAll (scope : Value) : List Node → List String
  | [] => []
  | node :: rest => node.substituted scope ++ substitutedAll scope rest

end

theorem renderAll_consMerged (scope : Value) (node : Node) (rest : List Node) :
    renderAll scope (consMerged node rest) = node.render scope ++ renderAll scope rest := by
  unfold consMerged
  split
  · simp [render, renderAll, String.append_assoc]
  · rfl

theorem substitutedAll_consMerged (scope : Value) (node : Node) (rest : List Node) :
    substitutedAll scope (consMerged node rest) =
      node.substituted scope ++ substitutedAll scope rest := by
  unfold consMerged
  split
  · rfl
  · rfl

mutual

theorem render_merged (scope : Value) (node : Node) :
    node.merged.render scope = node.render scope ∧
      node.merged.substituted scope = node.substituted scope := by
  cases node with
  | text content => exact ⟨rfl, rfl⟩
  | value path => exact ⟨rfl, rfl⟩
  | cond path kept otherwise =>
      have keptSame := renderAll_mergeTexts scope kept
      have otherSame := renderAll_mergeTexts scope otherwise
      simp only [merged, render, substituted, keptSame, otherSame, and_self]
  | each path body =>
      have same (item : Value) := renderAll_mergeTexts item body
      simp only [merged, render, substituted, same, and_self]

/-- Joining texts changes neither what is shown nor what is substituted. -/
theorem renderAll_mergeTexts (scope : Value) (nodes : List Node) :
    renderAll scope (mergeTexts nodes) = renderAll scope nodes ∧
      substitutedAll scope (mergeTexts nodes) = substitutedAll scope nodes := by
  cases nodes with
  | nil => exact ⟨rfl, rfl⟩
  | cons node rest =>
      obtain ⟨shown, given⟩ := render_merged scope node
      obtain ⟨restShown, restGiven⟩ := renderAll_mergeTexts scope rest
      rw [mergeTexts, renderAll_consMerged, substitutedAll_consMerged, shown, given, restShown,
        restGiven]
      exact ⟨rfl, rfl⟩

end

end Node

/-! ## What is put together -/

section Closed

/- A property of characters that texts put together keep. -/
variable (Good : List Char → Prop) (empty : Good [])
  (append : ∀ {left right : List Char}, Good left → Good right → Good (left ++ right))

include empty append

theorem good_join {texts : List String} (good : ∀ text ∈ texts, Good text.toList) :
    Good (String.join texts).toList := by
  rw [String.toList_join]
  induction texts with
  | nil => exact empty
  | cons text rest hypothesis =>
      rw [List.flatMap_cons]
      exact append (good text (.head _))
        (hypothesis fun other member => good other (.tail _ member))

namespace Node

mutual

theorem good_render (node : Node) (scope : Value)
    (literal : ∀ content ∈ node.literals, Good content.toList)
    (values : ∀ text ∈ node.substituted scope, Good text.toList) :
    Good (node.render scope).toList := by
  cases node with
  | text content =>
      rw [render]
      exact literal content (by simp [literals])
  | value path =>
      rw [render]
      split
      next found isFound => exact values _ (by simp [substituted, isFound])
      next => exact empty
  | cond path kept otherwise =>
      simp only [literals, List.mem_append] at literal
      rw [substituted] at values
      rw [render]
      split at values
      next isHeld =>
        rw [if_pos isHeld]
        exact good_renderAll kept scope (fun content member => literal content (.inl member)) values
      next isNot =>
        rw [if_neg isNot]
        exact good_renderAll otherwise scope (fun content member => literal content (.inr member))
          values
  | each path body =>
      rw [literals] at literal
      rw [render]
      split
      next items isFound =>
        simp only [substituted, isFound] at values
        refine good_join Good empty append fun text member => ?_
        obtain ⟨item, inItems, rfl⟩ := List.mem_map.mp member
        exact good_renderAll body item literal fun text inItem =>
          values text (List.mem_flatMap.mpr ⟨item, inItems, inItem⟩)
      next => exact empty

/-- What is rendered has the property if the texts and the substituted values
have it. -/
theorem good_renderAll (nodes : List Node) (scope : Value)
    (literal : ∀ content ∈ literalsAll nodes, Good content.toList)
    (values : ∀ text ∈ substitutedAll scope nodes, Good text.toList) :
    Good (renderAll scope nodes).toList := by
  cases nodes with
  | nil =>
      rw [renderAll]
      exact empty
  | cons node rest =>
      simp only [literalsAll, substitutedAll, List.mem_append] at literal values
      rw [renderAll, String.toList_append]
      exact append
        (good_render node scope (fun content member => literal content (.inl member))
          fun text member => values text (.inl member))
        (good_renderAll rest scope (fun content member => literal content (.inr member))
          fun text member => values text (.inr member))

end

end Node

end Closed

/-! ## Where texts come from -/

/-- The texts in the tree of a balanced sequence are its texts. -/
theorem Reads.mem_of_literal {tokens : List Token} {nodes : List Node} (reads : Reads tokens nodes)
    {content : String} (member : content ∈ Node.literalsAll nodes) :
    .text content.toList ∈ tokens := by
  induction reads with
  | nil => exact absurd member List.not_mem_nil
  | text other _ hypothesis =>
      rcases List.mem_append.mp member with here | later
      · obtain rfl := List.mem_singleton.mp here
        rw [String.toList_ofList]
        exact .head _
      · exact .tail _ (hypothesis later)
  | value _ _ hypothesis => exact .tail _ (hypothesis member)
  | cond _ _ _ _ inside behind =>
      simp only [Node.literalsAll, Node.literals, List.append_nil, List.mem_append] at member
      simp only [List.mem_cons, List.mem_append]
      exact member.elim (fun here => .inr (.inl (inside here)))
        fun later => .inr (.inr (.inr (behind later)))
  | condElse _ _ _ _ _ _ inside inOther behind =>
      simp only [Node.literalsAll, Node.literals, List.mem_append] at member
      simp only [List.mem_cons, List.mem_append]
      rcases member with (here | other) | later
      · exact .inr (.inl (inside here))
      · exact .inr (.inr (.inr (.inl (inOther other))))
      · exact .inr (.inr (.inr (.inr (.inr (behind later)))))
  | each _ _ _ _ inside behind =>
      simp only [Node.literalsAll, Node.literals, List.mem_append] at member
      simp only [List.mem_cons, List.mem_append]
      exact member.elim (fun here => .inr (.inl (inside here)))
        fun later => .inr (.inr (.inr (behind later)))

/-- The first node of a balanced sequence is read from its first tokens.  It is a
text, or the last of these tokens is a tag. -/
theorem Reads.exists_head {tokens : List Token} {node : Node} {nodes : List Node}
    (reads : Reads tokens (node :: nodes)) :
    ∃ used rest, tokens = used ++ rest ∧ Reads rest nodes ∧
      ((∃ content, node = .text content ∧ used = [.text content.toList]) ∨
        ∀ content ∈ node.literals, .text content.toList ∈ used.dropLast) := by
  cases reads with
  | text content behind => exact ⟨[_], _, rfl, behind, .inl ⟨_, rfl, by simp⟩⟩
  | value meaning behind => exact ⟨[_], _, rfl, behind, .inr (by simp [Node.literals])⟩
  | @cond start finish _ kept rest _ _ _ _ inside behind =>
      refine ⟨.tag start :: kept ++ [.tag finish], rest, by simp, behind,
        .inr fun content member => ?_⟩
      rw [List.dropLast_concat]
      simp only [Node.literals, Node.literalsAll, List.append_nil] at member
      exact .tail _ (inside.mem_of_literal member)
  | @condElse start middle finish _ kept other rest _ _ _ _ _ _ inside inOther behind =>
      refine ⟨.tag start :: (kept ++ .tag middle :: other) ++ [.tag finish], rest, by simp, behind,
        .inr fun content member => ?_⟩
      rw [List.dropLast_concat]
      rcases List.mem_append.mp member with here | inBranch
      · exact .tail _ (List.mem_append_left _ (inside.mem_of_literal here))
      · exact .tail _ (List.mem_append_right _ (.tail _ (inOther.mem_of_literal inBranch)))
  | @each start finish _ body rest _ _ _ _ inside behind =>
      refine ⟨.tag start :: body ++ [.tag finish], rest, by simp, behind,
        .inr fun content member => ?_⟩
      rw [List.dropLast_concat]
      exact .tail _ (inside.mem_of_literal member)

/-- The characters of a balanced rendering have a property if all texts but the
last token have a stronger one, which texts put together keep. -/
theorem Reads.good_renderAll (Good Last : List Char → Prop) (empty : Good [])
    (append : ∀ {left right : List Char}, Good left → Good right → Good (left ++ right))
    (weaken : ∀ {chars : List Char}, Good chars → Last chars)
    (appendLast : ∀ {left right : List Char}, Good left → Last right → Last (left ++ right))
    {tokens : List Token} {nodes : List Node} (reads : Reads tokens nodes)
    (literal : ∀ content, .text content ∈ tokens.dropLast → Good content)
    (last : ∀ content, .text content ∈ tokens → Last content) (scope : Value)
    (values : ∀ text ∈ Node.substitutedAll scope nodes, Good text.toList) :
    Last (Node.renderAll scope nodes).toList := by
  induction nodes generalizing tokens with
  | nil =>
      rw [Node.renderAll]
      exact weaken empty
  | cons node nodes hypothesis =>
      simp only [Node.substitutedAll, List.mem_append] at values
      obtain ⟨used, rest, rfl, behind, head⟩ := reads.exists_head
      have behindGood := hypothesis behind
        (fun content member => literal content (by
          have filled : rest ≠ [] := fun none => by simp [none] at member
          rw [List.dropLast_append_of_ne_nil filled]
          exact List.mem_append_right _ member))
        (fun content member => last content (List.mem_append_right _ member))
        fun text member => values text (.inr member)
      rw [Node.renderAll, String.toList_append]
      rcases head with ⟨content, rfl, rfl⟩ | inUsed
      · cases rest with
        | nil =>
            cases behind
            rw [Node.render, Node.renderAll]
            simpa using last content.toList (.head _)
        | cons next others => exact appendLast (literal _ (.head _)) behindGood
      · refine appendLast (Node.good_render Good empty append node scope (fun content member => ?_)
          fun text member => values text (.inl member)) behindGood
        refine literal _ ?_
        cases rest with
        | nil => simpa using inUsed content member
        | cons next others =>
            rw [List.dropLast_append_of_ne_nil (List.cons_ne_nil _ _)]
            exact List.mem_append_left _ (List.mem_of_mem_dropLast (inUsed content member))

/-- A text in front of a tag ends in an opening brace only behind an opening
pair. -/
theorem opening_infix_of_getLast? {source content : List Char}
    (member : .text content ∈ (tokenize source).dropLast)
    (last : content.getLast? = some '\x7b') : opening <:+: content := by
  fun_induction tokenize source with
  | case1 source none =>
      unfold textToken at member
      split at member <;> simp at member
  | case2 source found first hypothesis =>
      rw [List.dropLast_append_of_ne_nil (List.cons_ne_nil _ _), List.mem_append] at member
      rcases member with inBefore | inRest
      · unfold textToken at inBefore
        split at inBefore
        next => exact absurd inBefore List.not_mem_nil
        next =>
          simp only [List.mem_singleton, Token.text.injEq] at inBefore
          subst inBefore
          simp only [firstTag?, Option.bind_eq_bind, Option.bind_eq_some_iff, Prod.exists] at first
          obtain ⟨before, rest, opened, inner, after, closed, result⟩ := first
          split at result
          next skipped innermost _ =>
            obtain rfl := Option.some.inj result
            exact ⟨before, skipped, rfl⟩
          next =>
            obtain rfl := Option.some.inj result
            obtain ⟨front, rfl⟩ := List.getLast?_eq_some_iff.mp last
            refine absurd ?_ (Text.not_infix_of_cut? (by simp [opening]) opened)
            exact ⟨front, [], by simp [opening]⟩
      · cases rest : tokenize found.after with
        | nil => simp [rest] at inRest
        | cons next others =>
            rw [rest] at inRest hypothesis
            rw [List.dropLast_cons_cons, List.mem_cons] at inRest
            exact hypothesis (inRest.resolve_left (by simp))

theorem keepAt_sublist (places : List Nat) (tokens : List Token) :
    (keepAt places tokens).Sublist tokens := by
  induction tokens with
  | nil => exact .slnil
  | cons token rest hypothesis =>
      rw [keepAt]
      split
      next => exact hypothesis.cons_cons token
      next => exact hypothesis.cons token

theorem mem_of_mem_balanced {token : Token} {tokens : List Token}
    (member : token ∈ balanced tokens) : token ∈ tokens :=
  (keepAt_sublist _ _).mem member

/-- A token in front of another one that balances is in front of a token. -/
theorem mem_dropLast_of_balanced {token : Token} {tokens : List Token}
    (member : token ∈ (balanced tokens).dropLast) : token ∈ tokens.dropLast := by
  rw [← List.mem_reverse, ← List.tail_reverse] at member ⊢
  exact (keepAt_sublist _ _).reverse.tail.mem member

/-! ## Templates that show a tag -/

/-- Whether characters hold what looks like a tag: an opening pair of braces with a
closing pair somewhere behind it. -/
def HoldsTag (chars : List Char) : Prop :=
  ∃ before inner after, chars = before ++ (Token.tag inner).print ++ after

/-- Whether a text of the tokens holds an opening pair, which belongs to no tag. -/
def LeavesOpening (tokens : List Token) : Prop :=
  ∃ content, .text content ∈ tokens ∧ opening <:+: content

/-- Whether the texts of the tokens leave a closing pair: one holds it, or one ends
in a closing brace and one begins with one. -/
def LeavesClosing (tokens : List Token) : Prop :=
  (∃ content, .text content ∈ tokens ∧ closing <:+: content) ∨
    (∃ content, .text content ∈ tokens ∧ content.getLast? = some '\x7d') ∧
      ∃ content, .text content ∈ tokens ∧ content.head? = some '\x7d'

theorem LeavesOpening.mono {fewer tokens : List Token}
    (member : ∀ {token : Token}, token ∈ fewer → token ∈ tokens) (leaves : LeavesOpening fewer) :
    LeavesOpening tokens := by
  obtain ⟨content, inFewer, occurs⟩ := leaves
  exact ⟨content, member inFewer, occurs⟩

theorem LeavesClosing.mono {fewer tokens : List Token}
    (member : ∀ {token : Token}, token ∈ fewer → token ∈ tokens) (leaves : LeavesClosing fewer) :
    LeavesClosing tokens := by
  rcases leaves with ⟨content, inFewer, occurs⟩ | ⟨⟨first, inFirst, ends⟩, second, inSecond, starts⟩
  · exact .inl ⟨content, member inFewer, occurs⟩
  · exact .inr ⟨⟨first, member inFirst, ends⟩, second, member inSecond, starts⟩

section Shown

variable {tokens : List Token} {nodes : List Node} {scope : Value}

/-- An opening pair is shown only if a text holds one. -/
theorem Reads.not_opening_infix (reads : Reads tokens nodes) (none : ¬ LeavesOpening tokens)
    (ends : ∀ content, .text content ∈ tokens.dropLast → content.getLast? = some '\x7b' →
      opening <:+: content)
    (plain : ∀ text ∈ Node.substitutedAll scope nodes, '\x7b' ∉ text.toList) :
    ¬ opening <:+: (Node.renderAll scope nodes).toList := by
  have free {content : List Char} (member : .text content ∈ tokens) : ¬ opening <:+: content :=
    fun occurs => none ⟨content, member, occurs⟩
  refine reads.good_renderAll
    (fun chars => ¬ opening <:+: chars ∧ chars.getLast? ≠ some '\x7b')
    (fun chars => ¬ opening <:+: chars) (by simp [opening]) ?_ And.left ?_ ?_
    (fun content member => free member) scope ?_
  · intro left right good other
    exact ⟨Text.not_pair_infix_append good.1 other.1 fun last => absurd last good.2,
      Text.getLast?_append_ne good.2 other.2⟩
  · intro left right good other
    exact Text.not_pair_infix_append good.1 other fun last => absurd last good.2
  · intro content member
    have freeHere := free (List.mem_of_mem_dropLast member)
    exact ⟨freeHere, fun last => freeHere (ends content member last)⟩
  · intro text member
    refine ⟨fun occurs => plain text member (occurs.mem (by simp [opening])), fun last => ?_⟩
    exact plain text member (List.mem_of_getLast? last)

/-- A closing pair is shown only if a text holds one, or the ends of two texts make
one. -/
theorem Reads.not_closing_infix (reads : Reads tokens nodes) (none : ¬ LeavesClosing tokens)
    (plain : ∀ text ∈ Node.substitutedAll scope nodes, '\x7d' ∉ text.toList) :
    ¬ closing <:+: (Node.renderAll scope nodes).toList := by
  rw [LeavesClosing, not_or, not_and_or] at none
  obtain ⟨holds, meet⟩ := none
  have free (content : String) (member : content ∈ Node.literalsAll nodes) :
      ¬ closing <:+: content.toList :=
    fun occurs => holds ⟨_, reads.mem_of_literal member, occurs⟩
  have freeValue (text : String) (member : text ∈ Node.substitutedAll scope nodes) :
      ¬ closing <:+: text.toList :=
    fun occurs => plain text member (occurs.mem (by simp [closing]))
  rcases meet with noEnd | noStart
  · refine (Node.good_renderAll
      (fun chars => ¬ closing <:+: chars ∧ chars.getLast? ≠ some '\x7d')
      (by simp [closing]) ?_ nodes scope ?_ ?_).1
    · intro left right good other
      exact ⟨Text.not_pair_infix_append good.1 other.1 fun last => absurd last good.2,
        Text.getLast?_append_ne good.2 other.2⟩
    · intro content member
      exact ⟨free content member, fun last => noEnd ⟨_, reads.mem_of_literal member, last⟩⟩
    · intro text member
      exact ⟨freeValue text member, fun last => plain text member (List.mem_of_getLast? last)⟩
  · refine (Node.good_renderAll
      (fun chars => ¬ closing <:+: chars ∧ chars.head? ≠ some '\x7d')
      (by simp [closing]) ?_ nodes scope ?_ ?_).1
    · intro left right good other
      exact ⟨Text.not_pair_infix_append good.1 other.1 fun _ => other.2,
        Text.head?_append_ne good.2 other.2⟩
    · intro content member
      exact ⟨free content member, fun first => noStart ⟨_, reads.mem_of_literal member, first⟩⟩
    · intro text member
      exact ⟨freeValue text member, fun first => plain text member (List.mem_of_head? first)⟩

end Shown

/-- What a template shows holds nothing that looks like a tag if no value that is
substituted has a brace, unless the texts of the template leave an opening pair as
well as a closing one. -/
theorem render_not_holdsTag {source : String} {scope : Value}
    (filled : Text.blank source = false)
    (plain : ∀ text ∈ Node.substitutedAll scope (nodesOf (tokenize source.toList)),
      '\x7b' ∉ text.toList ∧ '\x7d' ∉ text.toList)
    (literal : ¬ (LeavesOpening (tokenize source.toList) ∧
      LeavesClosing (tokenize source.toList))) :
    ∃ shown, render source scope = .ok shown ∧ ¬ HoldsTag shown.toList := by
  refine ⟨Node.renderAll scope (nodesOf (tokenize source.toList)), ?_, ?_⟩
  · rw [render, parse, if_neg (by simp [filled])]
    rfl
  have reads := reads_balanced (tokenize source.toList)
  obtain ⟨same, given⟩ := Node.renderAll_mergeTexts scope (run [] (tokenize source.toList)).nodes
  rw [nodesOf, given] at plain
  rw [nodesOf, same]
  rintro ⟨before, inner, after, whole⟩
  rcases not_and_or.mp literal with noOpening | noClosing
  · refine reads.not_opening_infix (fun leaves => noOpening (leaves.mono mem_of_mem_balanced))
      (fun content member => opening_infix_of_getLast? (mem_dropLast_of_balanced member))
      (fun text member => (plain text member).1) ?_
    exact ⟨before, inner ++ closing ++ after, by simp [whole, Token.print]⟩
  · refine reads.not_closing_infix (fun leaves => noClosing (leaves.mono mem_of_mem_balanced))
      (fun text member => (plain text member).2) ?_
    exact ⟨before ++ opening ++ inner, after, by simp [whole, Token.print]⟩

/-- A value may stand behind an opening pair that belongs to no tag. -/
theorem render_not_holdsTag_opening :
    ∃ shown, render "\x7b\x7b a \x7b\x7bname\x7d\x7d"
      (.object [("name", .string "x")]) = .ok shown ∧ ¬ HoldsTag shown.toList := by
  have tokens : tokenize "\x7b\x7b a \x7b\x7bname\x7d\x7d".toList =
      [.text ['\x7b', '\x7b', ' ', 'a', ' '], .tag ['n', 'a', 'm', 'e']] := by decide +kernel
  refine render_not_holdsTag (by decide) ?_ ?_
  · rw [tokens]
    decide +kernel
  · rw [tokens]
    rintro ⟨-, leaves⟩
    simp [LeavesClosing, closing] at leaves
    exact absurd leaves (by decide)

/-- Two texts that no tag parts any more can look like a tag around the value
between them, here around none. -/
theorem render_holdsTag :
    Text.blank "\x7b\x7b \x7b\x7bx\x7d\x7d \x7d\x7d" = false ∧
    Node.substitutedAll (.object [])
      (nodesOf (tokenize "\x7b\x7b \x7b\x7bx\x7d\x7d \x7d\x7d".toList)) = [] ∧
    render "\x7b\x7b \x7b\x7bx\x7d\x7d \x7d\x7d" (.object []) = .ok "\x7b\x7b  \x7d\x7d" ∧
    HoldsTag "\x7b\x7b  \x7d\x7d".toList := by
  refine ⟨by decide, by decide +kernel, by decide +kernel, [], [' ', ' '], [], by decide⟩

end CertPress.Markup
