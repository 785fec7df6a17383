import CertPress.Proofs.Markup.Reading
import CertPress.Proofs.Text.Cut
import CertPress.Proofs.Text.Trim
import Mathlib.Data.List.Chain

/-!
# Reading what was written

Reading undoes writing on the trees that reading can give.  Writing goes through
tokens: the source of a tree is the source of its tokens, the tokens are found
again in their source, and the tree is the one that the tokens read as.
-/

namespace CertPress.Markup

/-! ## Tokens -/

/-- Whether a token is text. -/
def Token.isText : Token → Bool
  | .text _ => true
  | .tag _ => false

/-- Whether a token is found again in its source: a text does not touch the
braces of a tag, and a tag holds no brace. -/
def Token.Clean : Token → Prop
  | .text content => content ≠ [] ∧ ¬ opening <:+: content ∧ content.getLast? ≠ some '\x7b'
  | .tag inner => '\x7b' ∉ inner ∧ '\x7d' ∉ inner

/-- Whether tokens are found again in their source, which they are not if two
texts are neighbours. -/
structure Clean (tokens : List Token) : Prop where
  each : ∀ token ∈ tokens, token.Clean
  apart : tokens.IsChain fun left right => ¬ (left.isText ∧ right.isText)

/-- The source of tokens. -/
def printed (tokens : List Token) : List Char :=
  tokens.flatMap Token.print

@[simp] theorem printed_nil : printed [] = [] := rfl

@[simp] theorem printed_cons (token : Token) (rest : List Token) :
    printed (token :: rest) = token.print ++ printed rest := rfl

@[simp] theorem printed_append (left right : List Token) :
    printed (left ++ right) = printed left ++ printed right :=
  List.flatMap_append

/-- A text that neither holds nor ends in an opening brace pair has none up to
the first brace behind it. -/
theorem opening_absent {content : List Char} (absent : ¬ opening <:+: content)
    (last : content.getLast? ≠ some '\x7b') : ¬ opening <:+: content ++ opening.dropLast := by
  intro occurs
  rcases List.infix_concat_iff.mp occurs with atEnd | inside
  · rw [List.suffix_concat_iff] at atEnd
    rcases atEnd with empty | ⟨start, split, suffix⟩
    · simp [opening] at empty
    · have : start = ['\x7b'] := by
        have := congrArg List.dropLast split
        simpa [opening] using this.symm
      subst this
      obtain ⟨front, rfl⟩ := suffix
      simp at last
  · exact absent inside

/-- A tag without braces holds no closing pair up to its own. -/
theorem closing_absent {inner : List Char} (absent : '\x7d' ∉ inner) :
    ¬ closing <:+: inner ++ closing.dropLast := by
  intro occurs
  have fewer := occurs.sublist.count_le '\x7d'
  simp [closing, List.count_eq_zero_of_not_mem absent] at fewer

/-- The first tag behind a text. -/
theorem firstTag?_append {content inner : List Char} (after : List Char)
    (absent : ¬ opening <:+: content) (last : content.getLast? ≠ some '\x7b')
    (clean : (Token.tag inner).Clean) :
    firstTag? (content ++ ((Token.tag inner).print ++ after)) = some ⟨content, inner, after⟩ := by
  have opened : Text.cut? opening (content ++ (opening ++ (inner ++ (closing ++ after)))) =
      some (content, inner ++ (closing ++ after)) :=
    Text.cut?_append (by simp [opening]) (opening_absent absent last)
  have closed : Text.cut? closing (inner ++ (closing ++ after)) = some (inner, after) :=
    Text.cut?_append (by simp [closing]) (closing_absent clean.2)
  have innermost : Text.cutLast? opening inner = none := by
    apply Text.cutLast?_eq_none
    intro occurs
    exact clean.1 (occurs.subset (by simp [opening]))
  simp only [Token.print, List.append_assoc, firstTag?, opened, closed, innermost,
    Option.bind_eq_bind, Option.bind_some]

theorem tokenize_text {content : List Char} (clean : (Token.text content).Clean) :
    tokenize content = [.text content] := by
  have none : firstTag? content = none := by
    simp [firstTag?, Text.cut?_eq_none clean.2.1]
  rw [tokenize]
  split
  next => simp [textToken, clean.1]
  next found some => simp [none] at some

theorem tokenize_append {content inner : List Char} (after : List Char)
    (absent : ¬ opening <:+: content) (last : content.getLast? ≠ some '\x7b')
    (clean : (Token.tag inner).Clean) :
    tokenize (content ++ ((Token.tag inner).print ++ after)) =
      textToken content ++ .tag inner :: tokenize after := by
  have first := firstTag?_append after absent last clean
  rw [tokenize]
  split
  next none => simp [none] at first
  next found some =>
    rw [some, Option.some.injEq] at first
    rw [first]

theorem tokenize_tag {inner : List Char} (after : List Char) (clean : (Token.tag inner).Clean) :
    tokenize ((Token.tag inner).print ++ after) = .tag inner :: tokenize after := by
  have absent : ¬ opening <:+: [] := by simp [opening]
  simpa [textToken] using tokenize_append after absent (by simp) clean

/-- Tokens are found again in their source. -/
theorem tokenize_printed {tokens : List Token} (clean : Clean tokens) :
    tokenize (printed tokens) = tokens := by
  obtain ⟨each, apart⟩ := clean
  induction tokens with
  | nil =>
      rw [printed_nil, tokenize]
      rfl
  | cons token rest hypothesis =>
      have restFound := hypothesis (fun other inRest => each other (.tail _ inRest)) apart.of_cons
      have clean := each token (.head _)
      cases token with
      | tag inner => rw [printed_cons, tokenize_tag _ clean, restFound]
      | text content =>
          cases rest with
          | nil => simpa [Token.print] using tokenize_text clean
          | cons next others =>
              cases next with
              | text other => simp [Token.isText] at apart
              | tag inner =>
                  have nextClean := each (.tag inner) (by simp)
                  rw [printed_cons, tokenize_tag _ nextClean] at restFound
                  rw [printed_cons, printed_cons, Token.print,
                    tokenize_append _ clean.2.1 clean.2.2 nextClean, restFound]
                  simp [textToken, clean.1]

namespace Clean

theorem nil : Clean [] :=
  ⟨by simp, .nil⟩

theorem singleton {token : Token} (clean : token.Clean) : Clean [token] :=
  ⟨by simpa using clean, .singleton token⟩

/-- Clean sequences make up one if no two texts meet between them. -/
theorem append {left right : List Token} (cleanLeft : Clean left) (cleanRight : Clean right)
    (apart : ∀ last ∈ left.getLast?, ∀ first ∈ right.head?, ¬ (last.isText ∧ first.isText)) :
    Clean (left ++ right) := by
  refine ⟨fun token member => ?_, List.isChain_append.mpr ⟨cleanLeft.apart, cleanRight.apart,
    apart⟩⟩
  rcases List.mem_append.mp member with inLeft | inRight
  · exact cleanLeft.each token inLeft
  · exact cleanRight.each token inRight

theorem cons_tag {inner : List Char} {rest : List Token} (clean : (Token.tag inner).Clean)
    (cleanRest : Clean rest) : Clean (.tag inner :: rest) :=
  append (singleton clean) cleanRest (by simp [Token.isText])

theorem concat_tag {inner : List Char} {front : List Token} (cleanFront : Clean front)
    (clean : (Token.tag inner).Clean) : Clean (front ++ [.tag inner]) :=
  append cleanFront (singleton clean) (by simp [Token.isText])

end Clean

/-! ## Meanings of tags -/

/-- Whether a path can stand in a tag. -/
def isPath (path : String) : Bool :=
  path != "" && Text.trimmed path == path && !path.toList.contains '\x7b' &&
    !path.toList.contains '\x7d'

/-- A path that can stand in a tag. -/
structure IsPath (path : String) : Prop where
  filled : path.toList ≠ []
  trimmed : Text.trim path.toList = path.toList
  noOpening : '\x7b' ∉ path.toList
  noClosing : '\x7d' ∉ path.toList

theorem isPath_iff {path : String} : isPath path ↔ IsPath path := by
  constructor
  · intro holds
    simp only [isPath, Text.trimmed, Bool.and_eq_true, bne_iff_ne, ne_eq, beq_iff_eq,
      Bool.not_eq_true', List.contains_eq_mem, decide_eq_false_iff_not] at holds
    obtain ⟨⟨⟨filled, trimmed⟩, noOpening⟩, noClosing⟩ := holds
    refine ⟨by simpa using filled, ?_, noOpening, noClosing⟩
    simpa using congrArg String.toList trimmed
  · intro path
    simp [isPath, Text.trimmed, path.trimmed, path.noOpening, path.noClosing]
    simpa using path.filled

/-- A block tag on a path holds no brace. -/
theorem IsPath.clean {path : String} (isPath : IsPath path) {keyword : List Char}
    (noOpening : '\x7b' ∉ keyword) (noClosing : '\x7d' ∉ keyword) :
    (Token.tag (keyword ++ ' ' :: path.toList)).Clean := by
  simp [Token.Clean, noOpening, noClosing, isPath.noOpening, isPath.noClosing]

namespace Tag

theorem argument?_eq_none {keyword inner : List Char} (absent : ¬ keyword <+: inner) :
    argument? keyword inner = none := by
  simp [argument?, Text.after?, absent]

/-- The argument of a block tag is the path behind the keyword. -/
theorem argument?_append {path : String} (isPath : IsPath path) (keyword : List Char) :
    argument? keyword (keyword ++ ' ' :: path.toList) = some path := by
  have trimmed : Text.trim (' ' :: path.toList) = path.toList := by
    rw [Text.trim_cons_of_blank (by decide), isPath.trimmed]
  simp [argument?, Text.after?, trimmed, isPath.filled, Text.isBlank]

theorem ofInner_openIf {path : String} (isPath : IsPath path) :
    ofInner (ifKeyword ++ ' ' :: path.toList) = .openIf path := by
  have trimmed : Text.trim (ifKeyword ++ ' ' :: path.toList) = ifKeyword ++ ' ' :: path.toList :=
    Text.trim_cons_append (by decide) ['i', 'f', ' '] isPath.filled isPath.trimmed
  rw [ofInner, trimmed, ofTrimmed.eq_def]
  simp only [argument?_append isPath]

theorem ofInner_openEach {path : String} (isPath : IsPath path) :
    ofInner (eachKeyword ++ ' ' :: path.toList) = .openEach path := by
  have trimmed : Text.trim (eachKeyword ++ ' ' :: path.toList) =
      eachKeyword ++ ' ' :: path.toList :=
    Text.trim_cons_append (by decide) ['e', 'a', 'c', 'h', ' '] isPath.filled isPath.trimmed
  have notIf : argument? ifKeyword (eachKeyword ++ ' ' :: path.toList) = none :=
    argument?_eq_none (by simp [ifKeyword, eachKeyword])
  rw [ofInner, trimmed, ofTrimmed.eq_def]
  simp only [notIf, argument?_append isPath]

theorem ofInner_else : ofInner ['e', 'l', 's', 'e'] = .otherwise := by decide

theorem ofInner_endIf : ofInner ['/', 'i', 'f'] = .closeIf := by decide

theorem ofInner_endEach : ofInner ['/', 'e', 'a', 'c', 'h'] = .closeEach := by decide

/-- A path that looks like no block tag asks for its value. -/
theorem ofInner_value {path : String} (isPath : IsPath path) (notElse : path ≠ "else")
    (noOpen : path.toList.head? ≠ some '#') (noClose : path.toList.head? ≠ some '/') :
    ofInner path.toList = .value path := by
  obtain ⟨char, rest, chars⟩ := List.exists_cons_of_ne_nil isPath.filled
  have notOpen : char ≠ '#' := by simpa [chars] using noOpen
  have notClose : char ≠ '/' := by simpa [chars] using noClose
  have notIf : argument? ifKeyword path.toList = none :=
    argument?_eq_none (by simp [chars, ifKeyword, notOpen.symm])
  have notEach : argument? eachKeyword path.toList = none :=
    argument?_eq_none (by simp [chars, eachKeyword, notOpen.symm])
  have notElse : path.toList ≠ ['e', 'l', 's', 'e'] :=
    fun same => notElse (String.toList_inj.mp same)
  have notEndIf : path.toList ≠ ['/', 'i', 'f'] := by simp [chars, notClose]
  have notEndEach : path.toList ≠ ['/', 'e', 'a', 'c', 'h'] := by simp [chars, notClose]
  rw [ofInner, isPath.trimmed, ofTrimmed.eq_def]
  simp only [notIf, notEach, if_neg notElse, if_neg notEndIf, if_neg notEndEach]
  split
  next empty => exact absurd empty isPath.filled
  next opens => simp [opens] at noOpen
  next closes => simp [closes] at noClose
  next => rw [String.ofList_toList]

end Tag

/-! ## Trees -/

namespace Node

/-- Whether a node is text. -/
def isText : Node → Bool
  | .text _ => true
  | _ => false

mutual

/-- Whether a node can be read from a source: a text does not touch the braces
of a tag, and a path can stand in a tag and looks like no other one. -/
def wellFormed : Node → Bool
  | .text content =>
      content != "" && !decide (opening <:+: content.toList) &&
        content.toList.getLast? != some '\x7b'
  | .value path =>
      isPath path && path != "else" && path.toList.head? != some '#' &&
        path.toList.head? != some '/'
  | .cond path kept otherwise => isPath path && allWellFormed kept && allWellFormed otherwise
  | .each path body => isPath path && allWellFormed body

/-- Whether nodes can be read from a source: each of them can, and no two texts
are neighbours. -/
def allWellFormed : List Node → Bool
  | [] => true
  | node :: rest =>
      node.wellFormed && !(node.isText && rest.head?.any isText) && allWellFormed rest

end

mutual

/-- The tokens of a node. -/
def tokens : Node → List Token
  | .text content => [.text content.toList]
  | .value path => [.tag path.toList]
  | .cond path kept otherwise =>
      .tag (Tag.ifKeyword ++ ' ' :: path.toList) :: (allTokens kept ++
        (if otherwise.isEmpty then [] else .tag ['e', 'l', 's', 'e'] :: allTokens otherwise) ++
        [.tag ['/', 'i', 'f']])
  | .each path body =>
      .tag (Tag.eachKeyword ++ ' ' :: path.toList) :: (allTokens body ++
        [.tag ['/', 'e', 'a', 'c', 'h']])

/-- The tokens of a list of nodes. -/
def allTokens : List Node → List Token
  | [] => []
  | node :: rest => node.tokens ++ allTokens rest

end

mutual

/-- A node is written as its tokens are. -/
theorem source_eq (node : Node) : node.source = printed node.tokens := by
  cases node with
  | text content => simp [source, tokens, Token.print]
  | value path => simp [source, tokens, tagSource]
  | cond path kept otherwise =>
      rw [source, tokens, sources_eq kept, sources_eq otherwise]
      split <;> simp [tagSource]
  | each path body =>
      rw [source, tokens, sources_eq body]
      simp [tagSource]

/-- Nodes are written as their tokens are. -/
theorem sources_eq (nodes : List Node) : sources nodes = printed (allTokens nodes) := by
  cases nodes with
  | nil => rfl
  | cons node rest => rw [sources, allTokens, printed_append, source_eq node, sources_eq rest]

end

mutual

/-- The tokens of a node read as the node, with others behind it. -/
theorem reads_tokens {node : Node} (wellFormed : node.wellFormed) {rest : List Token}
    {nodes : List Node} (reads : Reads rest nodes) :
    Reads (node.tokens ++ rest) (node :: nodes) := by
  cases node with
  | text content => simpa [tokens] using Reads.text content.toList reads
  | value path =>
      simp only [Node.wellFormed, Bool.and_eq_true, bne_iff_ne, isPath_iff] at wellFormed
      obtain ⟨⟨⟨isPath, notElse⟩, noOpen⟩, noClose⟩ := wellFormed
      exact .value (Tag.ofInner_value isPath notElse noOpen noClose) reads
  | cond path kept otherwise =>
      simp only [Node.wellFormed, Bool.and_eq_true, isPath_iff] at wellFormed
      obtain ⟨⟨isPath, keptFormed⟩, otherFormed⟩ := wellFormed
      have keptReads := reads_allTokens keptFormed
      have opens := Tag.ofInner_openIf isPath
      cases otherwise with
      | nil => simpa [tokens] using Reads.cond opens Tag.ofInner_endIf keptReads reads
      | cons first others =>
          have otherReads := reads_allTokens otherFormed
          simpa [tokens] using Reads.condElse opens Tag.ofInner_else Tag.ofInner_endIf
            keptReads otherReads reads
  | each path body =>
      simp only [Node.wellFormed, Bool.and_eq_true, isPath_iff] at wellFormed
      have bodyReads := reads_allTokens wellFormed.2
      simpa [tokens] using
        Reads.each (Tag.ofInner_openEach wellFormed.1) Tag.ofInner_endEach bodyReads reads

/-- The tokens of nodes read as the nodes. -/
theorem reads_allTokens {nodes : List Node} (wellFormed : allWellFormed nodes) :
    Reads (allTokens nodes) nodes := by
  cases nodes with
  | nil => exact .nil
  | cons node rest =>
      simp only [allWellFormed, Bool.and_eq_true] at wellFormed
      exact reads_tokens wellFormed.1.1 (reads_allTokens wellFormed.2)

end

mutual

theorem merged_eq {node : Node} (wellFormed : node.wellFormed) : node.merged = node := by
  cases node with
  | text content => rfl
  | value path => rfl
  | cond path kept otherwise =>
      simp only [Node.wellFormed, Bool.and_eq_true] at wellFormed
      rw [merged, mergeTexts_eq wellFormed.1.2, mergeTexts_eq wellFormed.2]
  | each path body =>
      simp only [Node.wellFormed, Bool.and_eq_true] at wellFormed
      rw [merged, mergeTexts_eq wellFormed.2]

/-- Nodes in which no two texts are neighbours are merged already. -/
theorem mergeTexts_eq {nodes : List Node} (wellFormed : allWellFormed nodes) :
    mergeTexts nodes = nodes := by
  cases nodes with
  | nil => rfl
  | cons node rest =>
      simp only [allWellFormed, Bool.and_eq_true, Bool.not_eq_true'] at wellFormed
      obtain ⟨⟨nodeFormed, apart⟩, restFormed⟩ := wellFormed
      rw [mergeTexts, merged_eq nodeFormed, mergeTexts_eq restFormed]
      unfold consMerged
      split
      next => simp [isText] at apart
      next => rfl

end

theorem isText_getLast?_tokens (node : Node) :
    ∀ last ∈ node.tokens.getLast?, last.isText = node.isText := by
  cases node <;> simp [tokens, isText, Token.isText, List.getLast?_cons]

theorem isText_head?_allTokens (nodes : List Node) :
    ∀ first ∈ (allTokens nodes).head?, first.isText → nodes.head?.any isText := by
  cases nodes with
  | nil => simp [allTokens]
  | cons node rest => cases node <;> simp [allTokens, tokens, isText, Token.isText]

mutual

/-- The tokens of a node are found again in their source. -/
theorem clean_tokens {node : Node} (wellFormed : node.wellFormed) : Clean node.tokens := by
  cases node with
  | text content =>
      simp only [Node.wellFormed, Bool.and_eq_true, bne_iff_ne, Bool.not_eq_true',
        decide_eq_false_iff_not] at wellFormed
      obtain ⟨⟨filled, noOpening⟩, last⟩ := wellFormed
      exact .singleton ⟨by simpa using filled, noOpening, last⟩
  | value path =>
      simp only [Node.wellFormed, Bool.and_eq_true, isPath_iff] at wellFormed
      have isPath := wellFormed.1.1.1
      exact .singleton ⟨isPath.noOpening, isPath.noClosing⟩
  | cond path kept otherwise =>
      simp only [Node.wellFormed, Bool.and_eq_true, isPath_iff] at wellFormed
      obtain ⟨⟨isPath, keptFormed⟩, otherFormed⟩ := wellFormed
      have cleanKept := clean_allTokens keptFormed
      have cleanOther := clean_allTokens otherFormed
      have cleanElse : (Token.tag ['e', 'l', 's', 'e']).Clean := by simp [Token.Clean]
      have cleanEnd : (Token.tag ['/', 'i', 'f']).Clean := by simp [Token.Clean]
      rw [tokens]
      refine .cons_tag (isPath.clean (by decide) (by decide)) (.concat_tag ?_ cleanEnd)
      split
      next => simpa using cleanKept
      next => exact cleanKept.append (.cons_tag cleanElse cleanOther) (by simp [Token.isText])
  | each path body =>
      simp only [Node.wellFormed, Bool.and_eq_true, isPath_iff] at wellFormed
      have cleanBody := clean_allTokens wellFormed.2
      have cleanEnd : (Token.tag ['/', 'e', 'a', 'c', 'h']).Clean := by simp [Token.Clean]
      rw [tokens]
      exact .cons_tag (wellFormed.1.clean (by decide) (by decide)) (cleanBody.concat_tag cleanEnd)

/-- The tokens of nodes are found again in their source. -/
theorem clean_allTokens {nodes : List Node} (wellFormed : allWellFormed nodes) :
    Clean (allTokens nodes) := by
  cases nodes with
  | nil => exact .nil
  | cons node rest =>
      simp only [allWellFormed, Bool.and_eq_true, Bool.not_eq_true'] at wellFormed
      obtain ⟨⟨nodeFormed, apart⟩, restFormed⟩ := wellFormed
      rw [allTokens]
      refine .append (clean_tokens nodeFormed) (clean_allTokens restFormed) ?_
      rintro last inNode first inRest ⟨lastText, firstText⟩
      rw [isText_getLast?_tokens node last inNode] at lastText
      simp [lastText, isText_head?_allTokens rest first inRest firstText] at apart

end

end Node

/-- Reading the source of a well-formed tree gives the tree again. -/
theorem parse_sources {nodes : List Node} (wellFormed : Node.allWellFormed nodes)
    (shown : ¬ Text.blank (String.ofList (Node.sources nodes))) :
    parse (String.ofList (Node.sources nodes)) = .ok nodes := by
  have tokens_eq : tokenize (Node.sources nodes) = Node.allTokens nodes := by
    rw [Node.sources_eq, tokenize_printed (Node.clean_allTokens wellFormed)]
  rw [parse, if_neg shown, String.toList_ofList, tokens_eq, nodesOf,
    (Node.reads_allTokens wellFormed).run_eq, Node.mergeTexts_eq wellFormed]

/-- A tree with blocks inside both branches of a block. -/
theorem parse_sources_nested :
    parse (String.ofList (Node.sources
      [.text "a ", .cond "on" [.each "rows" [.value "this"], .text "\x7d\x7d"]
        [.cond "off" [] [.text "\x7b ", .value "name"]], .value "end"])) =
      .ok [.text "a ", .cond "on" [.each "rows" [.value "this"], .text "\x7d\x7d"]
        [.cond "off" [] [.text "\x7b ", .value "name"]], .value "end"] :=
  parse_sources (by decide) (by decide)

end CertPress.Markup
