import CertPress.Proofs.Markup.Tokens

/-!
# Where tags start

Opening pairs may overlap: a run of three braces holds two of them.  A tag starts at the last
opening pair that ends in front of its closing pair, with one exception.  When that pair overlaps
with the first opening pair behind the last tag, the tag starts with the first of the three braces
and holds the third one.
-/

namespace CertPress.Markup

open Text (OccursAt)

/-! ## Opening pairs -/

/-- The places of the opening pairs that end in front of a limit. -/
def openingsUpTo (source : List Char) (limit : Nat) : Set Nat :=
  {place | OccursAt opening source place ∧ place + opening.length ≤ limit}

/-- The places of the opening pairs from a start on. -/
def openingsFrom (source : List Char) (start : Nat) : Set Nat :=
  {place | OccursAt opening source place ∧ start ≤ place}

theorem openingsUpTo_append (chars after : List Char) :
    openingsUpTo (chars ++ after) chars.length = {place | OccursAt opening chars place} := by
  ext place
  constructor
  · rintro ⟨occurs, ends⟩
    exact (Text.occursAt_append_left ends after).mp occurs
  · intro occurs
    have ends := Text.OccursAt.le_length occurs opening_ne_nil
    exact ⟨(Text.occursAt_append_left ends after).mpr occurs, ends⟩

/-- Behind an opening pair and no other one, a further pair stands only in a run of three braces. -/
theorem isGreatest_opening {inner : List Char} (absent : ¬ opening <:+: inner) :
    IsGreatest {place | OccursAt opening (opening ++ inner) place}
      (if inner.head? = some '\x7b' then 1 else 0) := by
  have behind (place : Nat) : ¬ OccursAt opening (opening ++ inner) (2 + place) := fun occurs =>
    absent ((Text.occursAt_append_right opening inner place).mp occurs).isInfix
  have second : OccursAt opening (opening ++ inner) 1 ↔ inner.head? = some '\x7b' := by
    cases inner <;> simp [OccursAt, opening, eq_comm]
  split
  next run =>
    refine ⟨second.mpr run, fun place occurs => ?_⟩
    by_contra further
    obtain ⟨more, rfl⟩ := Nat.exists_eq_add_of_le (Nat.lt_of_not_le further)
    exact behind more occurs
  next single =>
    refine ⟨List.prefix_append _ _, fun place occurs => ?_⟩
    obtain _ | _ | more := place
    · exact Nat.le_refl 0
    · exact absurd (second.mp occurs) single
    · exact absurd (Nat.add_comm more 2 ▸ occurs) (behind more)

/-- The first tag of a source starts at the last opening pair in front of its closing pair, unless
that one overlaps with the first opening pair of all, which is the start of the tag then. -/
theorem FirstTag.exists_places {source : List Char} {found : FirstTag}
    (first : firstTag? source = some found) :
    ∃ opened last, IsLeast {place | OccursAt opening source place} opened ∧
      IsGreatest {place | OccursAt opening (found.before ++ (opening ++ found.inner)) place} last ∧
      found.before.length = if last = opened + 1 then opened else last := by
  simp only [firstTag?, Option.bind_eq_bind, Option.bind_eq_some_iff, Prod.exists] at first
  obtain ⟨before, rest, opens, inner, after, closes, result⟩ := first
  have least := Text.isLeast_cut? opening_ne_nil opens
  split at result
  next skipped innermost last =>
    obtain rfl := Option.some.inj result
    have greatest := Text.isGreatest_append (Text.isGreatest_append
      (Text.isGreatest_cutLast? opening_ne_nil last) opening) before
    have notNext : before.length + (opening.length + skipped.length) ≠ before.length + 1 := by
      simp only [opening, List.length_cons, List.length_nil]
      omega
    refine ⟨before.length, before.length + (opening.length + skipped.length), least, ?_, ?_⟩
    · simpa [Text.cutLast?_eq_some last] using greatest
    · rw [if_neg notNext]
      simp
  next none =>
    obtain rfl := Option.some.inj result
    have greatest := Text.isGreatest_append
      (isGreatest_opening (Text.not_infix_of_cutLast?_eq_none none)) before
    refine ⟨before.length, _, least, greatest, ?_⟩
    split <;> simp

/-! ## Tags of a source -/

/-- The source of tokens up to the last tag. -/
def upToTags (tokens : List Token) : List Char :=
  printed (tokens.rdropWhile Token.isText)

theorem upToTags_textToken (content : List Char) : upToTags (textToken content) = [] := by
  rw [upToTags, textToken]
  split <;> rfl

theorem upToTags_append (left right : List Token) (inner : List Char) :
    upToTags (left ++ .tag inner :: right) = printed (left ++ [.tag inner]) ++ upToTags right := by
  have same : (left ++ .tag inner :: right).rdropWhile Token.isText =
      left ++ .tag inner :: right.rdropWhile Token.isText := by
    induction right using List.reverseRecOn with
    | nil => simp [Token.isText]
    | append_singleton right last hypothesis =>
        rw [← List.cons_append, ← List.append_assoc, List.rdropWhile_concat,
          List.rdropWhile_concat, hypothesis]
        split <;> simp
  rw [upToTags, upToTags, same]
  simp

/-- A tag behind a text and another tag is that tag, or it stands further behind. -/
theorem eq_or_behind_of_append {content own inner : List Char} {rest earlier later : List Token}
    (cut : textToken content ++ .tag own :: rest = earlier ++ .tag inner :: later) :
    (earlier = textToken content ∧ own = inner) ∨
      ∃ others, earlier = textToken content ++ .tag own :: others ∧
        rest = others ++ .tag inner :: later := by
  rcases List.append_eq_append_iff.mp cut with
    ⟨_ | ⟨token, others⟩, before, behind⟩ | ⟨_ | ⟨token, others⟩, before, behind⟩
  · exact .inl ⟨by simpa using before, by simpa using (List.cons.inj behind).1⟩
  · obtain ⟨rfl, same⟩ := List.cons.inj behind
    exact .inr ⟨others, before, same⟩
  · exact .inl ⟨by simpa using before.symm, by simpa using (List.cons.inj behind).1.symm⟩
  · obtain ⟨rfl, -⟩ := List.cons.inj behind
    have member : .tag inner ∈ textToken content := before ▸ List.mem_append_right _ (.head _)
    cases (mem_textToken.mp member).2

/-- Each tag of a source is the first one of what stands behind the tags in front of it. -/
theorem exists_firstTag_of_tokenize {source : List Char} {earlier later : List Token}
    {inner : List Char} (cut : tokenize source = earlier ++ .tag inner :: later) :
    ∃ rest found, source = upToTags earlier ++ rest ∧ firstTag? rest = some found ∧
      found.inner = inner ∧ printed earlier = upToTags earlier ++ found.before := by
  fun_induction tokenize source generalizing earlier with
  | case1 source none =>
      have member : .tag inner ∈ textToken source := cut ▸ List.mem_append_right _ (.head _)
      cases (mem_textToken.mp member).2
  | case2 source found first hypothesis =>
      rcases eq_or_behind_of_append cut with ⟨rfl, same⟩ | ⟨others, rfl, behind⟩
      · refine ⟨source, found, ?_, first, same, ?_⟩
        · rw [upToTags_textToken, List.nil_append]
        · rw [upToTags_textToken, printed_textToken, List.nil_append]
      · obtain ⟨rest, next, after, isNext, same, printed_eq⟩ := hypothesis behind
        refine ⟨rest, next, ?_, isNext, same, ?_⟩
        · rw [upToTags_append, firstTag?_eq_some first, after]
          simp [printed_textToken]
        · rw [upToTags_append, ← List.singleton_append, ← List.append_assoc, printed_append,
            printed_eq, List.append_assoc]

/-- A tag starts at the last opening pair of the source that ends in front of its closing pair.
The only other way is a run of three braces of which the first two are the first opening pair
behind the last tag: there the tag starts with the first brace. -/
theorem opening_place {source : List Char} {earlier later : List Token} {inner : List Char}
    (cut : tokenize source = earlier ++ .tag inner :: later) :
    ∃ first last, IsLeast (openingsFrom source (upToTags earlier).length) first ∧
      IsGreatest (openingsUpTo source (printed earlier ++ opening ++ inner).length) last ∧
      (printed earlier).length = if last = first + 1 then first else last := by
  obtain ⟨rest, found, whole, isFirst, rfl, printed_eq⟩ := exists_firstTag_of_tokenize cut
  obtain ⟨opened, last, ⟨opens, least⟩, greatest, place⟩ := FirstTag.exists_places isFirst
  have upTo : printed earlier ++ opening ++ found.inner =
      upToTags earlier ++ (found.before ++ (opening ++ found.inner)) := by
    simp [printed_eq]
  have split : source = printed earlier ++ opening ++ found.inner ++ (closing ++ found.after) := by
    rw [upTo, whole, firstTag?_eq_some isFirst]
    simp [Token.print]
  refine ⟨(upToTags earlier).length + opened, (upToTags earlier).length + last, ⟨?_, ?_⟩, ?_, ?_⟩
  · rw [whole]
    exact ⟨(Text.occursAt_append_right _ _ _).mpr opens, Nat.le_add_right _ _⟩
  · rintro place ⟨occurs, behind⟩
    obtain ⟨more, rfl⟩ := Nat.exists_eq_add_of_le behind
    rw [whole] at occurs
    exact Nat.add_le_add_left (least ((Text.occursAt_append_right _ _ _).mp occurs)) _
  · rw [split, openingsUpTo_append, upTo]
    exact Text.isGreatest_append greatest _
  · rw [printed_eq, List.length_append, place]
    split <;> split <;> omega

/-- A run of five braces in front of one tag and a run of three in front of the next one. -/
theorem opening_place_runs :
    tokenize "\x7b\x7b\x7b\x7b\x7ba\x7d\x7d\x7b\x7b\x7bb\x7d\x7d".toList =
        [.text ['\x7b', '\x7b', '\x7b'], .tag ['a']] ++ .tag ['\x7b', 'b'] :: [] ∧
      ∃ first last,
        IsLeast (openingsFrom "\x7b\x7b\x7b\x7b\x7ba\x7d\x7d\x7b\x7b\x7bb\x7d\x7d".toList
          (upToTags [.text ['\x7b', '\x7b', '\x7b'], .tag ['a']]).length) first ∧
        IsGreatest (openingsUpTo "\x7b\x7b\x7b\x7b\x7ba\x7d\x7d\x7b\x7b\x7bb\x7d\x7d".toList
          (printed [.text ['\x7b', '\x7b', '\x7b'], .tag ['a']] ++ opening ++ ['\x7b', 'b']).length)
          last ∧
        (printed [.text ['\x7b', '\x7b', '\x7b'], .tag ['a']]).length =
          if last = first + 1 then first else last := by
  refine ⟨?cut, opening_place ?cut⟩
  decide +kernel

/-- The tag of three braces does not start at its last opening pair. -/
theorem opening_not_last :
    tokenize "\x7b\x7b\x7ba\x7d\x7d".toList = [] ++ .tag ['\x7b', 'a'] :: [] ∧
      ¬ IsGreatest (openingsUpTo "\x7b\x7b\x7ba\x7d\x7d".toList
        (printed [] ++ opening ++ ['\x7b', 'a']).length) (printed []).length := by
  refine ⟨by decide +kernel, fun ⟨_, greatest⟩ => ?_⟩
  have second : 1 ∈ openingsUpTo "\x7b\x7b\x7ba\x7d\x7d".toList
      (printed [] ++ opening ++ ['\x7b', 'a']).length := ⟨by decide, by decide⟩
  exact absurd (greatest second) (by decide)

end CertPress.Markup
