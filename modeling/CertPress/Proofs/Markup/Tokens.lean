import CertPress.Proofs.Markup.Append

/-!
# What a source is cut up into

The tokens of a source are the source again when they are written one behind the other.  A
text is never empty and never follows another one, a tag has no pair of braces inside, and
what is left as text holds no tag.
-/

namespace CertPress.Markup

theorem opening_ne_nil : opening ≠ [] := List.cons_ne_nil _ _

theorem closing_ne_nil : closing ≠ [] := List.cons_ne_nil _ _

/-- A first tag is found exactly in what holds a tag. -/
theorem firstTag?_eq_none_iff {source : List Char} :
    firstTag? source = none ↔ ¬ HoldsTag source := by
  constructor
  · rintro none ⟨before, inner, after, rfl⟩
    have whole : before ++ (Token.tag inner).print ++ after =
        before ++ (opening ++ (inner ++ (closing ++ after))) := by
      simp [Token.print]
    cases opened : Text.cut? opening (before ++ (Token.tag inner).print ++ after) with
    | none =>
        refine Text.not_infix_of_cut?_eq_none opened ⟨before, inner ++ (closing ++ after), ?_⟩
        rw [whole, List.append_assoc]
    | some pieces =>
        obtain ⟨front, rest⟩ := pieces
        -- the first opening pair may stand further in front than the one of the tag
        have behind : inner ++ (closing ++ after) <:+ rest := Text.suffix_of_cut? opened whole
        have occurs : closing <:+: rest :=
          (List.infix_append' inner closing after).trans behind.isInfix
        cases closed : Text.cut? closing rest with
        | none => exact Text.not_infix_of_cut?_eq_none closed occurs
        | some pieces =>
            obtain ⟨inner, after⟩ := pieces
            simp only [firstTag?, opened, closed, Option.bind_eq_bind, Option.bind_some] at none
            split at none <;> cases none
  · intro free
    cases first : firstTag? source with
    | none => rfl
    | some found => exact absurd ⟨_, _, _, firstTag?_eq_some first⟩ free

/-- The first tag of a source holds no pair of braces, and the text in front of it holds no
tag. -/
structure FirstTag.Bare (found : FirstTag) : Prop where
  noOpening : ¬ opening <:+: found.inner
  noClosing : ¬ closing <:+: found.inner
  noTag : ¬ HoldsTag found.before

theorem FirstTag.bare {source : List Char} {found : FirstTag}
    (first : firstTag? source = some found) : found.Bare := by
  simp only [firstTag?, Option.bind_eq_bind, Option.bind_eq_some_iff, Prod.exists] at first
  obtain ⟨before, rest, opened, inner, after, closed, result⟩ := first
  have noOpening := Text.not_infix_of_cut? opening_ne_nil opened
  have noClosing : ¬ closing <:+: inner := fun occurs =>
    Text.not_infix_of_cut? closing_ne_nil closed (occurs.trans (List.prefix_append _ _).isInfix)
  split at result
  next skipped innermost last =>
    obtain rfl := Option.some.inj result
    have whole := Text.cutLast?_eq_some last
    refine ⟨fun occurs => ?_, fun occurs => noClosing ?_, ?_⟩
    · exact Text.not_infix_of_cutLast? opening_ne_nil last
        (occurs.trans (List.suffix_append _ _).isInfix)
    · exact occurs.trans (whole ▸ (List.suffix_append _ _).isInfix)
    · -- the skipped pairs stay open: the first closing pair ends the tag behind them
      have again : Text.cut? opening (before ++ opening ++ skipped) = some (before, skipped) := by
        rw [List.append_assoc]
        exact Text.cut?_append opening_ne_nil noOpening
      have unclosed : Text.cut? closing skipped = none := Text.cut?_eq_none fun occurs =>
        noClosing (occurs.trans (by
          rw [whole, List.append_assoc]
          exact (List.prefix_append _ _).isInfix))
      rw [← firstTag?_eq_none_iff]
      simp only [firstTag?, again, unclosed, Option.bind_eq_bind, Option.bind_some,
        Option.bind_none]
  next none =>
    obtain rfl := Option.some.inj result
    refine ⟨Text.not_infix_of_cutLast?_eq_none none, noClosing, ?_⟩
    have absent : ¬ opening <:+: before := fun occurs =>
      noOpening (occurs.trans (List.prefix_append _ _).isInfix)
    rw [← firstTag?_eq_none_iff]
    simp [firstTag?, Text.cut?_eq_none absent]

theorem mem_textToken {content : List Char} {token : Token} :
    token ∈ textToken content ↔ content ≠ [] ∧ token = .text content := by
  rw [textToken]
  split
  next empty => simp [List.isEmpty_iff.mp empty]
  next filled => simpa using fun _ => by simpa using filled

/-- Whether tokens are what a source is cut up into: together they are the source, no text
is empty or stands next to another one, a tag has no pair of braces inside and a text no
tag. -/
structure CutsUp (source : List Char) (tokens : List Token) : Prop where
  whole : printed tokens = source
  filled : ∀ content, .text content ∈ tokens → content ≠ []
  apart : tokens.IsChain fun left right => ¬ (left.isText ∧ right.isText)
  innermost : ∀ inner, .tag inner ∈ tokens → ¬ opening <:+: inner ∧ ¬ closing <:+: inner
  literal : ∀ content, .text content ∈ tokens → ¬ HoldsTag content

namespace CutsUp

/-- A source without a tag is one text. -/
theorem textToken {source : List Char} (none : firstTag? source = none) :
    CutsUp source (Markup.textToken source) := by
  refine ⟨printed_textToken source, fun content member => ?_, ?_, fun inner member => ?_,
    fun content member => ?_⟩
  · obtain ⟨filled, rfl⟩ : source ≠ [] ∧ content = source := by simpa using mem_textToken.mp member
    exact filled
  · rw [Markup.textToken]
    split
    next => exact .nil
    next => exact .singleton _
  · cases (mem_textToken.mp member).2
  · obtain ⟨-, rfl⟩ : source ≠ [] ∧ content = source := by simpa using mem_textToken.mp member
    exact firstTag?_eq_none_iff.mp none

/-- The first tag of a source goes in front of what the text behind it is cut up into. -/
theorem cons_tag {source : List Char} {found : FirstTag} {rest : List Token}
    (first : firstTag? source = some found) (cutsUp : CutsUp found.after rest) :
    CutsUp source (Markup.textToken found.before ++ .tag found.inner :: rest) := by
  obtain ⟨noOpening, noClosing, noTag⟩ := FirstTag.bare first
  refine ⟨?_, fun content member => ?_, ?_, fun inner member => ?_, fun content member => ?_⟩
  · rw [printed_append, printed_textToken, printed_cons, cutsUp.whole, firstTag?_eq_some first,
      List.append_assoc]
  · rcases List.mem_append.mp member with inBefore | inRest
    · obtain ⟨filled, rfl⟩ : found.before ≠ [] ∧ content = found.before := by
        simpa using mem_textToken.mp inBefore
      exact filled
    · exact cutsUp.filled content (by simpa using inRest)
  · have behindTag : (Token.tag found.inner :: rest).IsChain
        fun left right => ¬ (left.isText ∧ right.isText) :=
      List.isChain_cons.mpr ⟨by simp [Token.isText], cutsUp.apart⟩
    rw [Markup.textToken]
    split
    next => exact behindTag
    next => exact List.isChain_cons.mpr ⟨by simp [Token.isText], behindTag⟩
  · rcases List.mem_append.mp member with inBefore | inRest
    · cases (mem_textToken.mp inBefore).2
    · rcases List.mem_cons.mp inRest with same | later
      · cases same
        exact ⟨noOpening, noClosing⟩
      · exact cutsUp.innermost inner later
  · rcases List.mem_append.mp member with inBefore | inRest
    · obtain ⟨-, rfl⟩ : found.before ≠ [] ∧ content = found.before := by
        simpa using mem_textToken.mp inBefore
      exact noTag
    · exact cutsUp.literal content (by simpa using inRest)

end CutsUp

/-- Every source is cut up into its tokens. -/
theorem cutsUp_tokenize (source : List Char) : CutsUp source (tokenize source) := by
  fun_induction tokenize source with
  | case1 source none => exact .textToken none
  | case2 source found first hypothesis => exact .cons_tag first hypothesis

end CertPress.Markup
