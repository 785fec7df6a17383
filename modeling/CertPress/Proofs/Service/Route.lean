import CertPress.Service.Router
import Mathlib.Data.List.Nodup

/-!
# Tables of routes

A pattern of literals matches the text that it spells, and a route that alone
matches a path is the one that is taken.  Whatever directories are served under whatever
mounts, a path that the service has a route of its own for leads there.
-/

namespace CertPress.Service

namespace Route

variable {α : Type}

/-- Literals in front of a pattern match the same characters in front of a path. -/
theorem captures?_literals_iff {text path : List Char} {parts : List Part}
    {captures : List (List Char)} :
    captures? (text.map .literal ++ parts) path = some captures ↔
      ∃ rest, path = text ++ rest ∧ captures? parts rest = some captures := by
  induction text generalizing path with
  | nil => simp
  | cons char others hypothesis =>
      cases path with
      | nil => simp [captures?]
      | cons first rest =>
          rw [List.map_cons, List.cons_append, captures?]
          split
          next same =>
            rw [hypothesis]
            simp [same]
          next different =>
            constructor
            · intro absent
              cases absent
            · rintro ⟨_, same, _⟩
              exact absurd (List.cons.inj same).1.symm different

/-- A pattern of literals alone matches one path. -/
theorem eq_of_captures?_literals {text path : List Char} {captures : List (List Char)}
    (found : captures? (text.map .literal) path = some captures) : path = text := by
  rw [← List.append_nil (text.map Part.literal), captures?_literals_iff] at found
  obtain ⟨rest, rfl, atEnd⟩ := found
  cases rest with
  | nil => exact List.append_nil text
  | cons char others => cases atEnd

theorem captures?_literals_eq_none {text path : List Char} (different : path ≠ text) :
    captures? (text.map .literal) path = none :=
  Option.eq_none_iff_forall_ne_some.mpr fun _ found => different (eq_of_captures?_literals found)

theorem captures?_append_eq_none {text path : List Char} {parts : List Part}
    (different : ¬ text <+: path) : captures? (text.map .literal ++ parts) path = none := by
  refine Option.eq_none_iff_forall_ne_some.mpr fun captures found => different ?_
  obtain ⟨rest, rfl, -⟩ := captures?_literals_iff.mp found
  exact List.prefix_append _ _

/-! ## The most specific route -/

/-- Choose between the best route so far and the next one that matches. -/
def better (best : Option (Route α × List (List Char))) (candidate : Route α × List (List Char)) :
    Option (Route α × List (List Char)) :=
  match best with
  | some (route, captures) =>
      if before candidate.1.pattern route.pattern then some candidate else some (route, captures)
  | none => some candidate

/-- The routes that match a path, with what they capture. -/
def matching (table : List (Route α)) (path : List Char) : List (Route α × List (List Char)) :=
  table.filterMap fun route => (captures? route.pattern path).map fun captures => (route, captures)

theorem find?_eq (table : List (Route α)) (path : List Char) :
    find? table path = ((matching table path).foldl better none).map fun (route, captures) =>
      (route.endpoint, captures) := rfl

theorem mem_matching {table : List (Route α)} {path : List Char}
    {candidate : Route α × List (List Char)} (member : candidate ∈ matching table path) :
    candidate.1 ∈ table ∧ captures? candidate.1.pattern path = some candidate.2 := by
  obtain ⟨route, inTable, same⟩ := List.mem_filterMap.mp member
  obtain ⟨captures, found, rfl⟩ := Option.map_eq_some_iff.mp same
  exact ⟨inTable, found⟩

/-- The best route is one of those that were compared. -/
theorem mem_of_foldl_better {candidates : List (Route α × List (List Char))}
    {best : Option (Route α × List (List Char))} {chosen : Route α × List (List Char)}
    (found : candidates.foldl better best = some chosen) :
    best = some chosen ∨ chosen ∈ candidates := by
  induction candidates generalizing best with
  | nil => exact .inl found
  | cons candidate rest hypothesis =>
      rcases hypothesis found with isBest | inRest
      · unfold better at isBest
        split at isBest
        next =>
          split at isBest
          next => exact .inr (Option.some.inj isBest ▸ .head rest)
          next => exact .inl isBest
        next => exact .inr (Option.some.inj isBest ▸ .head rest)
      · exact .inr (.tail _ inRest)

theorem foldl_better_kept {candidates : List (Route α × List (List Char))}
    {best : Route α × List (List Char)}
    (worse : ∀ candidate ∈ candidates, before candidate.1.pattern best.1.pattern = false) :
    candidates.foldl better (some best) = some best := by
  induction candidates with
  | nil => rfl
  | cons candidate rest hypothesis =>
      have kept : better (some best) candidate = some best := by
        rw [better, worse candidate (.head _), if_neg Bool.false_ne_true]
      rw [List.foldl_cons, kept]
      exact hypothesis fun other member => worse other (.tail _ member)

/-- A route is taken that is more specific than those in front of it, and than which
none behind it is more specific. -/
theorem find?_of_best {front back : List (Route α)} {route : Route α} {path : List Char}
    {captures : List (List Char)} (found : captures? route.pattern path = some captures)
    (inFront : ∀ other ∈ front, captures? other.pattern path ≠ none →
      before route.pattern other.pattern)
    (behind : ∀ other ∈ back, captures? other.pattern path ≠ none →
      before other.pattern route.pattern = false) :
    find? (front ++ route :: back) path = some (route.endpoint, captures) := by
  have split : matching (front ++ route :: back) path =
      matching front path ++ (route, captures) :: matching back path := by
    simp [matching, found]
  have chosen : better ((matching front path).foldl better none) (route, captures) =
      some (route, captures) := by
    cases best : (matching front path).foldl better none with
    | none => rfl
    | some other =>
        have member : other ∈ matching front path :=
          (mem_of_foldl_better best).resolve_left (by simp)
        obtain ⟨inTable, isFound⟩ := mem_matching member
        rw [better, if_pos (inFront other.1 inTable (by simp [isFound]))]
  have kept : (matching back path).foldl better (some (route, captures)) =
      some (route, captures) := by
    refine foldl_better_kept fun candidate member => ?_
    obtain ⟨inTable, isFound⟩ := mem_matching member
    exact behind candidate.1 inTable (by simp [isFound])
  rw [find?_eq, split, List.foldl_append, List.foldl_cons, chosen, kept]
  rfl

/-- The only route that matches is taken. -/
theorem find?_of_unique {before after : List (Route α)} {route : Route α} {path : List Char}
    {captures : List (List Char)} (found : captures? route.pattern path = some captures)
    (others : ∀ other ∈ before ++ after, captures? other.pattern path = none) :
    find? (before ++ route :: after) path = some (route.endpoint, captures) := by
  refine find?_of_best found ?_ ?_
  · intro other member isFound
    exact absurd (others other (List.mem_append_left _ member)) isFound
  · intro other member isFound
    exact absurd (others other (List.mem_append_right _ member)) isFound

/-- A text that stands for itself is more specific than every other pattern that
matches it. -/
theorem rank_literals_lt {text : List Char} {pattern : List Part}
    (isFound : captures? pattern text ≠ none) (differ : pattern ≠ text.map .literal) :
    (text.map Part.literal).map Part.rank < pattern.map Part.rank := by
  induction text generalizing pattern with
  | nil =>
      cases pattern with
      | nil => exact absurd rfl differ
      | cons part parts =>
          cases part with
          | literal char => exact absurd rfl isFound
          | capture => exact absurd rfl isFound
          | rest => cases parts <;> exact absurd rfl isFound
  | cons char text hypothesis =>
      cases pattern with
      | nil => exact absurd rfl isFound
      | cons part parts =>
          cases part with
          | literal expected =>
              rw [captures?] at isFound
              split at isFound
              next same =>
                obtain rfl := same
                have restDiffer : parts ≠ text.map .literal := by
                  rintro rfl
                  exact differ rfl
                exact List.cons_lt_cons_self.mpr (hypothesis isFound restDiffer)
              next => exact absurd rfl isFound
          | capture => exact List.Lex.rel Nat.zero_lt_one
          | rest => exact List.Lex.rel Nat.zero_lt_two

theorem captures?_literals_self (text : List Char) :
    captures? (text.map .literal) text = some [] := by
  rw [← List.append_nil (text.map Part.literal), captures?_literals_iff]
  exact ⟨[], (List.append_nil text).symm, rfl⟩

theorem clash_literals_self (text : List Char) :
    clash (text.map .literal) (text.map .literal) = true := by
  induction text with
  | nil => rfl
  | cons char rest hypothesis => simp [clash, hypothesis]

/-- Routes that were added stand behind the others, none of which clashes with
them. -/
theorem foldlM_add? {routes table result : List (Route α)}
    (added : routes.foldlM add? table = some result) :
    result = table ++ routes ∧
      ∀ other ∈ table, ∀ route ∈ routes, clash other.pattern route.pattern = false := by
  induction routes generalizing table with
  | nil => simp_all
  | cons route rest hypothesis =>
      simp only [List.foldlM_cons, Option.bind_eq_bind, Option.bind_eq_some_iff] at added
      obtain ⟨longer, isLonger, addedRest⟩ := added
      rw [add?] at isLonger
      split at isLonger
      next => cases isLonger
      next apart =>
        obtain rfl := Option.some.inj isLonger
        obtain ⟨rfl, restApart⟩ := hypothesis addedRest
        refine ⟨by simp, fun other inTable next member => ?_⟩
        rcases List.mem_cons.mp member with rfl | inRest
        · simp only [List.any_eq_true, not_exists, not_and, Bool.not_eq_true] at apart
          exact apart other inTable
        · exact restApart other (List.mem_append_left _ inTable) next inRest

end Route

/-! ## The routes of the service -/

/-- A path that stands for itself leads to the service's own endpoint. -/
theorem find?_own {settings : Settings.RenderSettings} {table : List (Route Endpoint)}
    (routes : table? settings = some table) {path : String} {endpoint : Endpoint}
    (own : ⟨Route.literals path, endpoint⟩ ∈ ownRoutes) :
    Route.find? table path.toList = some (endpoint, []) := by
  simp only [table?, Option.bind_eq_bind, Option.bind_eq_some_iff] at routes
  obtain ⟨added, -, isTable⟩ := routes
  obtain ⟨rfl, apart⟩ := Route.foldlM_add? isTable
  obtain ⟨front, back, split⟩ := List.append_of_mem own
  have distinct : (ownRoutes.map Route.pattern).Nodup := by decide +kernel
  rw [split, List.map_append, List.map_cons, List.nodup_middle, List.nodup_cons] at distinct
  obtain ⟨notOther, -⟩ := distinct
  have moreSpecific {other : Route Endpoint}
      (isFound : Route.captures? other.pattern path.toList ≠ none)
      (differ : other.pattern ≠ Route.literals path) :
      (Route.literals path).map Part.rank < other.pattern.map Part.rank :=
    Route.rank_literals_lt isFound differ
  rw [split, List.append_assoc, List.cons_append]
  refine Route.find?_of_best (Route.captures?_literals_self _) ?_ ?_
  · intro other member isFound
    refine decide_eq_true (moreSpecific isFound ?_)
    intro same
    exact notOther (List.mem_append_left _ (List.mem_map.mpr ⟨other, member, same⟩))
  · intro other member isFound
    refine decide_eq_false (List.lt_asymm (moreSpecific isFound ?_))
    intro same
    rcases List.mem_append.mp member with inBack | inAdded
    · exact notOther (List.mem_append_right _ (List.mem_map.mpr ⟨other, inBack, same⟩))
    · have free := apart _ own other inAdded
      rw [same] at free
      exact absurd (Route.clash_literals_self path.toList) (by simpa [Route.literals] using free)

end CertPress.Service
