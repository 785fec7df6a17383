import CertPress.Proofs.Markup.Reading
import Mathlib.Data.List.TakeWhile

/-!
# Tags that balance

Which tags of a token sequence balance is found in one pass from left to right
with a stack of open blocks.  The end of a block belongs to the nearest open
block of its kind and leaves the blocks above that one unclosed; the start of
another branch belongs to the innermost open block, if that is a conditional one
without one.  What is read of any sequence is what is read of it without the
tags that do not balance, and those are all that is lost.
-/

namespace CertPress.Markup

/-! ## The pass -/

/-- An open block with the places of its tags.  The place of a token is the
number of tokens behind it. -/
structure Opening where
  block : Block
  places : List Nat
  deriving DecidableEq, Repr

/-- The places of the tags that balance, with the blocks that are open before
the tokens, the innermost first. -/
def balancedPlaces (opened : List Opening) : List Token → List Nat
  | [] => []
  | token :: rest =>
      match token.role with
      | .content => balancedPlaces opened rest
      | .nothing => balancedPlaces opened rest
      | .opens block => balancedPlaces (⟨block, [rest.length]⟩ :: opened) rest
      | .otherwise =>
          match opened with
          | ⟨.cond false, places⟩ :: around =>
              balancedPlaces (⟨.cond true, rest.length :: places⟩ :: around) rest
          | _ => balancedPlaces opened rest
      | .closes kind =>
          match opened.dropWhile fun opening => !kind.isOf opening.block with
          | [] => balancedPlaces opened rest
          | opening :: around =>
              rest.length :: opening.places ++ balancedPlaces around rest

/-- The tokens that show something or stand at one of the places. -/
def keepAt (places : List Nat) : List Token → List Token
  | [] => []
  | token :: rest =>
      if token.role = .content ∨ rest.length ∈ places then token :: keepAt places rest
      else keepAt places rest

/-- A token sequence without the tags that do not balance. -/
def balanced (tokens : List Token) : List Token :=
  keepAt (balancedPlaces [] tokens) tokens

/-! ## Steps of the pass -/

section Steps

variable {opened : List Opening} {token : Token} {rest later : List Token}

theorem balancedPlaces_content (shows : token.role = .content) :
    balancedPlaces opened (token :: rest) = balancedPlaces opened rest := by
  simp only [balancedPlaces, shows]

theorem balancedPlaces_opens {block : Block} (opens : token.role = .opens block) :
    balancedPlaces opened (token :: rest) =
      balancedPlaces (⟨block, [rest.length]⟩ :: opened) rest := by
  simp only [balancedPlaces, opens]

theorem balancedPlaces_otherwise {places : List Nat} (turns : token.role = .otherwise) :
    balancedPlaces (⟨.cond false, places⟩ :: opened) (token :: rest) =
      balancedPlaces (⟨.cond true, rest.length :: places⟩ :: opened) rest := by
  simp only [balancedPlaces, turns]

theorem balancedPlaces_closes {kind : Kind} {opening : Opening}
    (ends : token.role = .closes kind) (isOf : kind.isOf opening.block) :
    balancedPlaces (opening :: opened) (token :: rest) =
      rest.length :: opening.places ++ balancedPlaces opened rest := by
  simp only [balancedPlaces, ends, List.dropWhile_cons, isOf, Bool.not_true]
  rfl

theorem Stray.not_content {blocks : List Block} (stray : Stray blocks token) :
    token.role ≠ .content := by
  intro shows
  simp [Stray, shows] at stray

/-- A block that is not closed does not matter at the tag that leaves it
unclosed. -/
theorem balancedPlaces_unclosed {opening : Opening}
    (unclosed : Unclosed opening.block (opened.map Opening.block) later) :
    balancedPlaces (opening :: opened) later = balancedPlaces opened later := by
  cases later with
  | nil => rfl
  | cons token rest =>
      obtain ⟨kind, ends, isNot, outer⟩ := unclosed
      have found : (opened.dropWhile fun opening => !kind.isOf opening.block) ≠ [] := by
        simpa [List.dropWhile_eq_nil_iff] using outer
      simp only [balancedPlaces, ends, List.dropWhile_cons, isNot, Bool.not_false, if_true]
      split
      next none => exact absurd none found
      next => rfl

theorem balancedPlaces_stray (stray : Stray (opened.map Opening.block) token) :
    balancedPlaces opened (token :: rest) = balancedPlaces opened rest := by
  unfold Stray at stray
  split at stray
  next means => simp only [balancedPlaces, means]
  next means =>
    simp only [balancedPlaces, means]
    split
    next places around => exact absurd rfl (stray (around.map Opening.block))
    next => rfl
  next kind means =>
    have none : (opened.dropWhile fun opening => !kind.isOf opening.block) = [] := by
      simpa [List.dropWhile_eq_nil_iff] using stray
    simp only [balancedPlaces, means, none]
  next => exact stray.elim

end Steps

/-! ## What stays -/

/-- Which tokens stay between two moments of the pass, if the places between
them that balance are the given ones. -/
structure Keeps (tokens ending : List Token) (places : List Nat) (kept : List Token) : Prop where
  length_le : ending.length ≤ tokens.length
  bounds : ∀ place ∈ places, ending.length ≤ place ∧ place < tokens.length
  keeps : ∀ all : List Nat,
    (∀ place, ending.length ≤ place → place < tokens.length →
      (place ∈ all ↔ place ∈ places)) →
    keepAt all tokens = kept ++ keepAt all ending

namespace Keeps

variable {tokens between ending rest kept other : List Token} {token : Token}
variable {places further : List Nat}

theorem refl (tokens : List Token) : Keeps tokens tokens [] [] where
  length_le := Nat.le_refl _
  bounds := by simp
  keeps all agree := rfl

theorem trans (first : Keeps tokens between places kept)
    (second : Keeps between ending further other) :
    Keeps tokens ending (places ++ further) (kept ++ other) where
  length_le := Nat.le_trans second.length_le first.length_le
  bounds place member := by
    have firstLe := first.length_le
    have secondLe := second.length_le
    rcases List.mem_append.mp member with inFirst | inSecond
    · have bound := first.bounds place inFirst
      omega
    · have bound := second.bounds place inSecond
      omega
  keeps all agree := by
    have firstLe := first.length_le
    have secondLe := second.length_le
    rw [first.keeps all, second.keeps all, List.append_assoc]
    · intro place low high
      rw [agree place low (by omega), List.mem_append]
      refine ⟨fun member => member.resolve_left fun inFirst => ?_, .inr⟩
      have bound := first.bounds place inFirst
      omega
    · intro place low high
      rw [agree place (by omega) high, List.mem_append]
      refine ⟨fun member => member.resolve_right fun inSecond => ?_, .inl⟩
      have bound := second.bounds place inSecond
      omega

theorem content (shows : token.role = .content) : Keeps (token :: rest) rest [] [token] where
  length_le := Nat.le_succ _
  bounds := by simp
  keeps all agree := by
    rw [keepAt, if_pos (.inl shows)]
    rfl

theorem tag (token : Token) (rest : List Token) :
    Keeps (token :: rest) rest [rest.length] [token] where
  length_le := Nat.le_succ _
  bounds := by simp
  keeps all agree := by
    have present : rest.length ∈ all := by
      simp [agree rest.length (Nat.le_refl _) (Nat.lt_succ_self _)]
    rw [keepAt, if_pos (.inr present)]
    rfl

theorem dropped (shows : token.role ≠ .content) : Keeps (token :: rest) rest [] [] where
  length_le := Nat.le_succ _
  bounds := by simp
  keeps all agree := by
    have absent : rest.length ∉ all := by
      simp [agree rest.length (Nat.le_refl _) (Nat.lt_succ_self _)]
    rw [keepAt, if_neg (by simp [shows, absent])]
    rfl

end Keeps

/-- A block that is closed stays with its two tags, with what stays inside it and
with what stays behind it. -/
theorem exists_kept_block {opened : List Opening} {block : Block} {kind : Kind}
    {token finish : Token} {rest later ending kept tail : List Token} {inner outer : List Nat}
    (opens : token.role = .opens block) (ends : finish.role = .closes kind)
    (isOf : kind.isOf block) (insideKeeps : Keeps rest (finish :: later) inner kept)
    (insideFound : ∀ place, place ∈ balancedPlaces (⟨block, [rest.length]⟩ :: opened) rest ↔
      place ∈ inner ∨ place ∈ balancedPlaces (⟨block, [rest.length]⟩ :: opened) (finish :: later))
    (behindKeeps : Keeps later ending outer tail)
    (behindFound : ∀ place, place ∈ balancedPlaces opened later ↔
      place ∈ outer ∨ place ∈ balancedPlaces opened ending) :
    ∃ places, Keeps (token :: rest) ending places (token :: (kept ++ finish :: tail)) ∧
      ∀ place, place ∈ balancedPlaces opened (token :: rest) ↔
        place ∈ places ∨ place ∈ balancedPlaces opened ending := by
  have keeps := ((Keeps.tag token rest).trans insideKeeps).trans
    ((Keeps.tag finish later).trans behindKeeps)
  refine ⟨_, by simpa using keeps, fun place => ?_⟩
  rw [balancedPlaces_opens opens, insideFound, balancedPlaces_closes ends isOf, List.mem_append,
    behindFound]
  grind

/-- A reading inside open blocks finds the tree of the tokens that stay, and the
places that the pass finds are theirs and those of the rest. -/
theorem Runs.exists_kept {blocks : List Block} {tokens ending : List Token}
    {nodes : List Node} (runs : Runs blocks tokens nodes ending) :
    ∀ opened : List Opening, opened.map Opening.block = blocks →
      ∃ places kept, Keeps tokens ending places kept ∧ Reads kept nodes ∧
        ∀ place, place ∈ balancedPlaces opened tokens ↔
          place ∈ places ∨ place ∈ balancedPlaces opened ending := by
  induction runs with
  | exhausted => exact fun opened _ => ⟨[], [], .refl _, .nil, by simp⟩
  | atElse => exact fun opened _ => ⟨[], [], .refl _, .nil, by simp⟩
  | atEnd => exact fun opened _ => ⟨[], [], .refl _, .nil, by simp⟩
  | text content _ hypothesis =>
      intro opened same
      obtain ⟨places, kept, keeps, reads, found⟩ := hypothesis opened same
      refine ⟨places, _, (Keeps.content rfl).trans keeps, .text content reads, ?_⟩
      rwa [balancedPlaces_content rfl]
  | @value _ inner path rest ending nodes meaning _ hypothesis =>
      intro opened same
      obtain ⟨places, kept, keeps, reads, found⟩ := hypothesis opened same
      have shows : (Token.tag inner).role = .content := Token.role_tag meaning
      refine ⟨places, _, (Keeps.content shows).trans keeps, .value meaning reads, ?_⟩
      rwa [balancedPlaces_content shows]
  | stray stray _ hypothesis =>
      intro opened same
      obtain ⟨places, kept, keeps, reads, found⟩ := hypothesis opened same
      refine ⟨places, kept, (Keeps.dropped stray.not_content).trans keeps, reads, ?_⟩
      rwa [balancedPlaces_stray (same ▸ stray)]
  | @cond _ start finish path rest later ending _ _ opens ends _ _ inside behind =>
      intro opened same
      obtain ⟨inner, kept, insideKeeps, insideReads, insideFound⟩ :=
        inside (⟨.cond false, [rest.length]⟩ :: opened) (by simp [same])
      obtain ⟨outer, tail, behindKeeps, behindReads, behindFound⟩ := behind opened same
      obtain ⟨places, keeps, found⟩ := exists_kept_block (Token.role_tag opens)
        (Token.role_tag ends) rfl insideKeeps insideFound behindKeeps behindFound
      exact ⟨places, _, keeps, .cond opens ends insideReads behindReads, found⟩
  | @condElse _ start middle finish path rest between later ending _ _ _ opens turns ends _ _ _
      inside inOther behind =>
      intro opened same
      obtain ⟨inner, kept, insideKeeps, insideReads, insideFound⟩ :=
        inside (⟨.cond false, [rest.length]⟩ :: opened) (by simp [same])
      obtain ⟨second, other, otherKeeps, otherReads, otherFound⟩ :=
        inOther (⟨.cond true, [between.length, rest.length]⟩ :: opened) (by simp [same])
      obtain ⟨outer, tail, behindKeeps, behindReads, behindFound⟩ := behind opened same
      refine ⟨_, _, (((Keeps.tag _ _).trans insideKeeps).trans ((Keeps.tag _ _).trans
          otherKeeps)).trans ((Keeps.tag _ _).trans behindKeeps),
        by simpa using Reads.condElse opens turns ends insideReads otherReads behindReads,
        fun place => ?_⟩
      rw [balancedPlaces_opens (Token.role_tag opens), insideFound,
        balancedPlaces_otherwise (Token.role_tag turns), otherFound,
        balancedPlaces_closes (Token.role_tag ends) rfl, List.mem_append, behindFound]
      grind
  | @each _ start finish path rest later ending _ _ opens ends _ _ inside behind =>
      intro opened same
      obtain ⟨inner, body, insideKeeps, insideReads, insideFound⟩ :=
        inside (⟨.each, [rest.length]⟩ :: opened) (by simp [same])
      obtain ⟨outer, tail, behindKeeps, behindReads, behindFound⟩ := behind opened same
      obtain ⟨places, keeps, found⟩ := exists_kept_block (Token.role_tag opens)
        (Token.role_tag ends) rfl insideKeeps insideFound behindKeeps behindFound
      exact ⟨places, _, keeps, .each opens ends insideReads behindReads, found⟩
  | @unclosed _ block token rest later ending _ _ opens stays _ _ inside behind =>
      intro opened same
      obtain ⟨inner, kept, insideKeeps, insideReads, insideFound⟩ :=
        inside (⟨block, [rest.length]⟩ :: opened) (by simp [same])
      obtain ⟨outer, tail, behindKeeps, behindReads, behindFound⟩ := behind opened same
      refine ⟨_, _, ((Keeps.dropped (by simp [opens])).trans insideKeeps).trans behindKeeps,
        insideReads.append behindReads, fun place => ?_⟩
      rw [balancedPlaces_opens opens, insideFound, balancedPlaces_unclosed (same ▸ stays),
        behindFound]
      simp [or_assoc]
  | @unclosedElse _ token middle rest between later ending _ _ _ opens turns stays _ _ _
      inside inOther behind =>
      intro opened same
      obtain ⟨inner, kept, insideKeeps, insideReads, insideFound⟩ :=
        inside (⟨.cond false, [rest.length]⟩ :: opened) (by simp [same])
      obtain ⟨second, other, otherKeeps, otherReads, otherFound⟩ :=
        inOther (⟨.cond true, [between.length, rest.length]⟩ :: opened) (by simp [same])
      obtain ⟨outer, tail, behindKeeps, behindReads, behindFound⟩ := behind opened same
      refine ⟨_, _, (((Keeps.dropped (by simp [opens])).trans insideKeeps).trans
          ((Keeps.dropped (by simp [turns])).trans otherKeeps)).trans behindKeeps,
        by simpa using (insideReads.append otherReads).append behindReads, fun place => ?_⟩
      rw [balancedPlaces_opens opens, insideFound, balancedPlaces_otherwise turns, otherFound,
        balancedPlaces_unclosed (same ▸ stays), behindFound]
      simp [or_assoc]

/-- A reading of all tokens finds the tree of the tokens that balance. -/
theorem Runs.reads_balanced {tokens : List Token} {nodes : List Node}
    (runs : Runs [] tokens nodes []) : Reads (balanced tokens) nodes := by
  obtain ⟨places, kept, keeps, reads, found⟩ := runs.exists_kept [] rfl
  have same : balanced tokens = kept := by
    rw [balanced, keeps.keeps _ fun place _ _ => by simp [found, balancedPlaces]]
    simp [keepAt]
  rwa [same]

/-- A run outside all blocks reads all tokens. -/
theorem runs_all (tokens : List Token) : Runs [] tokens (run [] tokens).nodes [] := by
  obtain ⟨ending, runs, stops⟩ := exists_runs [] tokens
  obtain rfl := stops.eq_nil
  exact runs

/-- The tree that a run finds is that of the tokens that balance. -/
theorem reads_balanced (tokens : List Token) :
    Reads (balanced tokens) (run [] tokens).nodes :=
  (runs_all tokens).reads_balanced

/-- A reading of all tokens is the one that a run finds. -/
theorem Runs.eq_run {tokens : List Token} {nodes : List Node}
    (runs : Runs [] tokens nodes []) : nodes = (run [] tokens).nodes := by
  have ours := runs.reads_balanced.run_eq
  have theirs := (runs_all tokens).reads_balanced.run_eq
  exact ours.symm.trans theirs

/-! ## What is shown -/

/-- What a token shows: the characters of a text, or the path of a value. -/
def Token.shows : Token → List (Char ⊕ String)
  | .text content => content.map .inl
  | .tag inner =>
      match Tag.ofInner inner with
      | .value path => [.inr path]
      | _ => []

namespace Node

mutual

/-- What a node shows, in order. -/
def shows : Node → List (Char ⊕ String)
  | .text content => content.toList.map .inl
  | .value path => [.inr path]
  | .cond _ kept otherwise => showsAll kept ++ showsAll otherwise
  | .each _ body => showsAll body

/-- What a list of nodes shows, in order. -/
def showsAll : List Node → List (Char ⊕ String)
  | [] => []
  | node :: rest => node.shows ++ showsAll rest

end

theorem showsAll_consMerged (node : Node) (rest : List Node) :
    showsAll (consMerged node rest) = node.shows ++ showsAll rest := by
  unfold consMerged
  split
  · simp [shows, showsAll]
  · rfl

mutual

theorem shows_merged (node : Node) : node.merged.shows = node.shows := by
  cases node with
  | text content => rfl
  | value path => rfl
  | cond path kept otherwise =>
      simp only [merged, shows, showsAll_mergeTexts kept, showsAll_mergeTexts otherwise]
  | each path body => simp only [merged, shows, showsAll_mergeTexts body]

/-- Joining texts keeps what is shown. -/
theorem showsAll_mergeTexts (nodes : List Node) :
    showsAll (mergeTexts nodes) = showsAll nodes := by
  cases nodes with
  | nil => rfl
  | cons node rest =>
      rw [mergeTexts, showsAll_consMerged, shows_merged node, showsAll_mergeTexts rest, showsAll]

end

end Node

theorem Token.shows_eq_nil {token : Token} (shows : token.role ≠ .content) :
    token.shows = [] := by
  cases token with
  | text content => exact absurd rfl shows
  | tag inner =>
      simp only [Token.shows]
      split
      next path means => exact absurd (Token.role_tag means) shows
      next => rfl

theorem shows_keepAt (places : List Nat) (tokens : List Token) :
    (keepAt places tokens).flatMap Token.shows = tokens.flatMap Token.shows := by
  induction tokens with
  | nil => rfl
  | cons token rest hypothesis =>
      rw [keepAt]
      split
      next => simp only [List.flatMap_cons, hypothesis]
      next dropped =>
        rw [not_or] at dropped
        rw [hypothesis, List.flatMap_cons, Token.shows_eq_nil dropped.1, List.nil_append]

theorem filter_keepAt (places : List Nat) (tokens : List Token) :
    (keepAt places tokens).filter (·.role = .content) = tokens.filter (·.role = .content) := by
  induction tokens with
  | nil => rfl
  | cons token rest hypothesis =>
      rw [keepAt]
      split
      next => simp only [List.filter_cons, hypothesis]
      next dropped =>
        rw [not_or] at dropped
        simp [hypothesis, dropped.1]

/-- The tree of a balanced sequence shows what the sequence shows. -/
theorem Reads.showsAll_eq {tokens : List Token} {nodes : List Node}
    (reads : Reads tokens nodes) : Node.showsAll nodes = tokens.flatMap Token.shows := by
  induction reads with
  | nil => rfl
  | text content _ hypothesis => simp [Node.showsAll, Node.shows, Token.shows, hypothesis]
  | value means _ hypothesis => simp [Node.showsAll, Node.shows, Token.shows, means, hypothesis]
  | cond opens ends _ _ inside behind =>
      simp [Node.showsAll, Node.shows, Token.shows, opens, ends, inside, behind]
  | condElse opens turns ends _ _ _ inside inOther behind =>
      simp [Node.showsAll, Node.shows, Token.shows, opens, turns, ends, inside, inOther, behind]
  | each opens ends _ _ inside behind =>
      simp [Node.showsAll, Node.shows, Token.shows, opens, ends, inside, behind]

/-- What is read of any token sequence is the one tree of the sequence without
the tags that do not balance.  Everything that shows something is kept, each
token once and in order. -/
theorem nodesOf_balanced (tokens : List Token) :
    nodesOf tokens = nodesOf (balanced tokens) ∧
      (∃ tree, (∀ other, Reads (balanced tokens) other ↔ other = tree) ∧
        nodesOf tokens = Node.mergeTexts tree) ∧
      (balanced tokens).filter (·.role = .content) = tokens.filter (·.role = .content) ∧
      Node.showsAll (nodesOf tokens) = tokens.flatMap Token.shows := by
  have reads := reads_balanced tokens
  refine ⟨?_, ⟨(run [] tokens).nodes, fun other => ⟨fun readsOther => ?_, fun same => ?_⟩, rfl⟩,
    filter_keepAt _ _, ?_⟩
  · rw [nodesOf, nodesOf, reads.run_eq]
  · rw [← reads.run_eq, readsOther.run_eq]
  · rwa [same]
  · rw [nodesOf, Node.showsAll_mergeTexts, reads.showsAll_eq, balanced, shows_keepAt]

-- The repeated block is still open at the end of the conditional one, so its tags are lost, and so
-- is the start of another branch inside it.
example :
    balanced [.tag ['#', 'i', 'f', ' ', 'a'], .tag ['#', 'e', 'a', 'c', 'h', ' ', 'b'],
      .text ['x'], .tag ['e', 'l', 's', 'e'], .tag ['/', 'i', 'f'], .tag ['/', 'e', 'a', 'c', 'h']] =
    [.tag ['#', 'i', 'f', ' ', 'a'], .text ['x'], .tag ['/', 'i', 'f']] := by
  decide

end CertPress.Markup
