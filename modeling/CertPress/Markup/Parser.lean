import CertPress.Markup.Token

/-!
# Reading a template

A template reads as a tree of text, values, conditional blocks and repeated
blocks, which can be written as its source again.

Reading never fails on a source that is not blank: unknown tags and tags that
do not balance are dropped, and the content of a block that is never closed
takes the place of the block.

`run` reads the nodes up to a tag that ends the innermost open block, or that
belongs to a block around it; the latter is left for that block.
-/

namespace CertPress.Markup

/-! ## Nodes of a template -/

/-- A node of a template. -/
inductive Node where
  | text (content : String)
  | value (path : String)
  | cond (path : String) (kept otherwise : List Node)
  | each (path : String) (body : List Node)
  deriving BEq, Repr, Inhabited

namespace Node

/-- Put a node in front of others, joining text with text. -/
def consMerged (node : Node) (rest : List Node) : List Node :=
  match node, rest with
  | .text left, .text right :: others => .text (left ++ right) :: others
  | node, rest => node :: rest

mutual

/-- A node in which no two texts are neighbours. -/
def merged : Node → Node
  | .cond path kept otherwise => .cond path (mergeTexts kept) (mergeTexts otherwise)
  | .each path body => .each path (mergeTexts body)
  | .text content => .text content
  | .value path => .value path

/-- Join neighbouring texts, at every depth. -/
def mergeTexts : List Node → List Node
  | [] => []
  | node :: rest => consMerged node.merged (mergeTexts rest)

end

/-- The source of a tag with an inner text. -/
def tagSource (inner : List Char) : List Char :=
  (Token.tag inner).print

mutual

/-- The source of a node. -/
def source : Node → List Char
  | .text content => content.toList
  | .value path => tagSource path.toList
  | .cond path kept otherwise =>
      tagSource (Tag.ifKeyword ++ ' ' :: path.toList) ++ sources kept ++
        (if otherwise.isEmpty then [] else tagSource ['e', 'l', 's', 'e'] ++ sources otherwise) ++
        tagSource ['/', 'i', 'f']
  | .each path body =>
      tagSource (Tag.eachKeyword ++ ' ' :: path.toList) ++ sources body ++
        tagSource ['/', 'e', 'a', 'c', 'h']

/-- The source of a list of nodes. -/
def sources : List Node → List Char
  | [] => []
  | node :: rest => node.source ++ sources rest

end

end Node

/-! ## Reading -/

/-- An open block.  A conditional one may already have had its other branch. -/
inductive Block where
  | cond (elseSeen : Bool)
  | each
  deriving DecidableEq, Repr, Inhabited

/-- Whether the block is a conditional one. -/
def Block.isCond : Block → Bool
  | .cond _ => true
  | .each => false

/-- Whether the block is a repeated one. -/
def Block.isEach : Block → Bool
  | .cond _ => false
  | .each => true

/-- Why a run of nodes stopped. -/
inductive Stop where
  /-- At the other branch of the innermost block, which was read. -/
  | atElse
  /-- At the end of the innermost block, a conditional one, which was read. -/
  | atEndIf
  /-- At the end of the innermost block, a repeated one, which was read. -/
  | atEndEach
  /-- Before the end of a block around the innermost one. -/
  | unwind
  /-- At the end of the template. -/
  | exhausted
  deriving DecidableEq, Repr, Inhabited

/-- What a closing tag closes. -/
inductive Closes where
  | innermost
  | outer
  | nothing
  deriving DecidableEq, Repr, Inhabited

/-- The block that a tag closes, which is the nearest one of its kind.  The
innermost block is the first. -/
def closes (kind : Block → Bool) : List Block → Closes
  | [] => .nothing
  | block :: around =>
      if kind block then .innermost
      else if around.any kind then .outer
      else .nothing

/-- A run of nodes, why it stopped, and the tokens after it. -/
structure Run (tokens : List Token) where
  nodes : List Node
  stop : Stop
  rest : List Token
  rest_le : rest.length ≤ tokens.length

namespace Run

/-- A run that stops at once. -/
def halt {tokens : List Token} (stop : Stop) (rest : List Token)
    (rest_le : rest.length ≤ tokens.length) : Run tokens :=
  ⟨[], stop, rest, rest_le⟩

/-- A run with nodes put in front, seen from tokens before it. -/
def prepend {tokens later : List Token} (nodes : List Node) (run : Run later)
    (later_le : later.length ≤ tokens.length) : Run tokens :=
  ⟨nodes ++ run.nodes, run.stop, run.rest, Nat.le_trans run.rest_le later_le⟩

end Run

/-- The nodes of a conditional block from its branches: the block itself if it
was closed, or else the content of its branches. -/
def condNodes (path : String) (kept otherwise : List Node) (stop : Stop) : List Node :=
  if stop = .atEndIf then [.cond path kept otherwise] else kept ++ otherwise

/-- The nodes of a repeated block from its body: the block itself if it was
closed, or else the content of its body. -/
def eachNodes (path : String) (body : List Node) (stop : Stop) : List Node :=
  if stop = .atEndEach then [.each path body] else body

/-- Read nodes inside the open blocks `blocks`, of which the innermost is the
first. -/
def run (blocks : List Block) (tokens : List Token) : Run tokens :=
  match tokens with
  | [] => .halt .exhausted [] (Nat.le_refl _)
  | .text content :: rest =>
      (run blocks rest).prepend [.text (String.ofList content)] (Nat.le_succ _)
  | .tag inner :: rest =>
      match Tag.ofInner inner with
      | .value path => (run blocks rest).prepend [.value path] (Nat.le_succ _)
      | .unknown => (run blocks rest).prepend [] (Nat.le_succ _)
      | .openIf path =>
          let kept := run (.cond false :: blocks) rest
          if kept.stop = .atElse then
            let other := run (.cond true :: blocks) kept.rest
            have shorter : other.rest.length ≤ rest.length :=
              Nat.le_trans other.rest_le kept.rest_le
            (run blocks other.rest).prepend
              (condNodes path kept.nodes other.nodes other.stop)
              (Nat.le_succ_of_le shorter)
          else
            (run blocks kept.rest).prepend (condNodes path kept.nodes [] kept.stop)
              (Nat.le_succ_of_le kept.rest_le)
      | .openEach path =>
          let body := run (.each :: blocks) rest
          (run blocks body.rest).prepend (eachNodes path body.nodes body.stop)
            (Nat.le_succ_of_le body.rest_le)
      | .otherwise =>
          match blocks with
          | .cond false :: _ => .halt .atElse rest (Nat.le_succ _)
          | _ => (run blocks rest).prepend [] (Nat.le_succ _)
      | .closeIf =>
          match closes Block.isCond blocks with
          | .innermost => .halt .atEndIf rest (Nat.le_succ _)
          | .outer => .halt .unwind (.tag inner :: rest) (Nat.le_refl _)
          | .nothing => (run blocks rest).prepend [] (Nat.le_succ _)
      | .closeEach =>
          match closes Block.isEach blocks with
          | .innermost => .halt .atEndEach rest (Nat.le_succ _)
          | .outer => .halt .unwind (.tag inner :: rest) (Nat.le_refl _)
          | .nothing => (run blocks rest).prepend [] (Nat.le_succ _)
  termination_by tokens.length
  decreasing_by
    all_goals first
      | exact Nat.lt_succ_self _
      | exact Nat.lt_succ_of_le (Run.rest_le _)
      | exact Nat.lt_succ_of_le (Nat.le_trans (Run.rest_le _) (Run.rest_le _))

/-- The tree of a list of tokens. -/
def nodesOf (tokens : List Token) : List Node :=
  Node.mergeTexts (run [] tokens).nodes

/-- Why a template cannot be read. -/
inductive TemplateFault where
  /-- The source is blank. -/
  | blankSource
  deriving DecidableEq, Repr, Inhabited

/-- The wording of a fault. -/
def TemplateFault.message : TemplateFault → String
  | .blankSource => "template source is empty"

/-- The tree of a template. -/
def parse (source : String) : Except TemplateFault (List Node) :=
  if Text.blank source then .error .blankSource
  else .ok (nodesOf (tokenize source.toList))

end CertPress.Markup
