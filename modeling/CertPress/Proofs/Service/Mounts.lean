import CertPress.Proofs.Asset.Own
import CertPress.Proofs.Service.Route
import CertPress.Service.Router
import Mathlib.Data.List.Nodup

/-!
# Files under mounts

A mount without braces is a pattern of literals, so the paths below it lead to its
own directory, and what is served there is the file that the decoded rest of the path
names.  A final render turns the web address of such a file into the address of the
same file.
-/

namespace CertPress.Service

open Settings (RenderSettings)

/-! ## Patterns of mounts -/

theorem eq_map_of_mapM {α β : Type} {make : α → Option β} {image : α → β} {list : List α}
    {result : List β} (same : ∀ entry ∈ list, ∀ made, make entry = some made → made = image entry)
    (found : list.mapM make = some result) : result = list.map image := by
  induction list generalizing result with
  | nil => simpa using found.symm
  | cons entry rest hypothesis =>
      simp only [List.mapM_cons, Option.bind_eq_bind, Option.bind_eq_some_iff, Option.pure_def,
        Option.some.injEq] at found
      obtain ⟨made, isMade, others, areMade, rfl⟩ := found
      rw [List.map_cons, same entry (.head _) made isMade,
        hypothesis (fun other inRest => same other (.tail _ inRest)) areMade]

/-- Whether a mount spells a pattern of literals. -/
def IsLiteral (mount : String) : Prop := '\x7b' ∉ mount.toList ∧ '\x7d' ∉ mount.toList

instance (mount : String) : Decidable (IsLiteral mount) := inferInstanceAs (Decidable (_ ∧ _))

theorem single_eq {chars : List Char} (opening : '\x7b' ∉ chars) (closing : '\x7d' ∉ chars) :
    Mount.single chars = chars.map (·, false) := by
  induction chars with
  | nil => rfl
  | cons char rest hypothesis =>
      rw [List.mem_cons, not_or] at opening closing
      rw [Mount.single, hypothesis opening.2 closing.2, List.map_cons]
      · rintro _ rfl _
        exact opening.1 rfl
      · rintro _ rfl _
        exact closing.1 rfl

theorem parts?_eq {chars : List Char} (opening : '\x7b' ∉ chars) (closing : '\x7d' ∉ chars) :
    Mount.parts? .outside (chars.map (·, false)) = some (chars.map .literal) := by
  induction chars with
  | nil => rfl
  | cons char rest hypothesis =>
      rw [List.mem_cons, not_or] at opening closing
      rw [List.map_cons, Mount.parts?, if_neg Bool.false_ne_true, if_neg (Ne.symm opening.1),
        if_neg (Ne.symm closing.1), hypothesis opening.2 closing.2]
      rfl

/-- The pattern of a mount of literals. -/
def base (mount : String) : List Part := ('/' :: mount.toList).map .literal

/-- The route of everything below a mount of literals. -/
def belowRoute (mount : String) (directory : FilePath) : Route Endpoint :=
  ⟨base mount ++ [.literal '/', .rest], .files mount directory⟩

/-- The routes of a mount of literals itself, without and with a slash. -/
def exactRoutes (mount : String) (directory : FilePath) : List (Route Endpoint) :=
  [⟨base mount, .files mount directory⟩, ⟨base mount ++ [.literal '/'], .files mount directory⟩]

theorem fileRoutes?_eq_some {mount : String} {directory : FilePath} {routes : List (Route Endpoint)}
    (filled : mount ≠ "") (literal : IsLiteral mount)
    (found : fileRoutes? mount directory = some routes) :
    routes = belowRoute mount directory :: exactRoutes mount directory := by
  have opening : '\x7b' ∉ '/' :: mount.toList := by simpa using literal.1
  have closing : '\x7d' ∉ '/' :: mount.toList := by simpa using literal.2
  rw [fileRoutes?, if_neg filled, Option.map_eq_some_iff] at found
  obtain ⟨parts, isPattern, rfl⟩ := found
  rw [Mount.pattern?, single_eq opening closing, parts?_eq opening closing] at isPattern
  split at isPattern
  next => cases isPattern
  next =>
    simp only [Option.bind_eq_bind, Option.bind_some] at isPattern
    split at isPattern
    next => cases isPattern
    next =>
      obtain rfl := Option.some.inj isPattern
      rfl

/-- The routes of mounts of literals stand in the table behind the service's own. -/
theorem table?_eq_some {settings : RenderSettings} {table : List (Route Endpoint)}
    (filled : ∀ entry ∈ mounts settings, entry.1 ≠ "")
    (literal : ∀ entry ∈ mounts settings, IsLiteral entry.1)
    (found : table? settings = some table) :
    table = ownRoutes ++ (mounts settings).flatMap (fun entry =>
      belowRoute entry.1 entry.2 :: exactRoutes entry.1 entry.2) ∧
    ∀ entry ∈ mounts settings, ∀ own ∈ ownRoutes,
      Route.clash own.pattern (belowRoute entry.1 entry.2).pattern = false := by
  simp only [table?, Option.bind_eq_bind, Option.bind_eq_some_iff] at found
  obtain ⟨added, isAdded, isTable⟩ := found
  have added_eq := eq_map_of_mapM (fun entry member _ isMade =>
    fileRoutes?_eq_some (filled entry member) (literal entry member) isMade) isAdded
  obtain ⟨rfl, apart⟩ := Route.foldlM_add? isTable
  rw [added_eq, ← List.flatMap_def]
  refine ⟨rfl, fun entry member own inOwn => apart own inOwn _ ?_⟩
  rw [added_eq, ← List.flatMap_def]
  exact List.mem_flatMap.mpr ⟨entry, member, .head _⟩

/-! ## Paths below a mount -/

section Below

variable {mount : String} (oneSegment : '/' ∉ mount.toList) {rest : List Char} (filled : rest ≠ [])

include oneSegment filled

/-- A path below one mount is below another one only if that is the same. -/
theorem captures?_belowRoute {other : String} (otherSegment : '/' ∉ other.toList)
    (directory : FilePath) :
    Route.captures? (belowRoute other directory).pattern ('/' :: (mount.toList ++ '/' :: rest)) =
      if other = mount then some [rest] else none := by
  split
  next same =>
    subst same
    refine Route.captures?_literals_iff.mpr ⟨'/' :: rest, rfl, ?_⟩
    obtain ⟨first, others, rfl⟩ := List.exists_cons_of_ne_nil filled
    rfl
  next different =>
    refine Option.eq_none_iff_forall_ne_some.mpr fun captures found => different ?_
    obtain ⟨behind, whole, atSlash⟩ := Route.captures?_literals_iff.mp found
    rcases behind with _ | ⟨slash, others⟩
    · cases atSlash
    · rw [Route.captures?] at atSlash
      split at atSlash
      next isSlash =>
        subst isSlash
        have same := (Text.append_separator_inj oneSegment otherSegment).mp (List.cons.inj whole).2
        exact String.toList_injective same.1.symm
      next => cases atSlash

/-- A path below a mount is no mount. -/
theorem captures?_exactRoutes {other : String} (otherSegment : '/' ∉ other.toList)
    {directory : FilePath} {route : Route Endpoint} (member : route ∈ exactRoutes other directory) :
    Route.captures? route.pattern ('/' :: (mount.toList ++ '/' :: rest)) = none := by
  simp only [exactRoutes, List.mem_cons, List.not_mem_nil, or_false] at member
  rcases member with rfl | rfl
  · refine Route.captures?_literals_eq_none fun same => otherSegment ?_
    rw [← (List.cons.inj same).2]
    simp
  · have withSlash : base other ++ [.literal '/'] =
        ('/' :: (other.toList ++ ['/'])).map Part.literal := by simp [base]
    rw [withSlash]
    refine Route.captures?_literals_eq_none fun same => filled ?_
    exact ((Text.append_separator_inj oneSegment otherSegment).mp (List.cons.inj same).2).2

omit filled in
/-- A path below a mount is none of the service's own, except for the ways to
render. -/
theorem captures?_ownRoutes (notTemplates : mount ≠ "templates")
    (free : mount = "certificates" →
      rest ∉ ["preview".toList, "pdf".toList, "image".toList, "generate".toList])
    {own : Route Endpoint} (member : own ∈ ownRoutes) :
    Route.captures? own.pattern ('/' :: (mount.toList ++ '/' :: rest)) = none := by
  have single (name : String) {text : String} (text_eq : text.toList = '/' :: name.toList)
      (noSlash : '/' ∉ name.toList) :
      Route.captures? (Route.literals text) ('/' :: (mount.toList ++ '/' :: rest)) = none := by
    refine Route.captures?_literals_eq_none fun same => noSlash ?_
    rw [text_eq] at same
    rw [← (List.cons.inj same).2]
    simp
  have double (head tail : String) {text : String}
      (text_eq : text.toList = '/' :: (head.toList ++ '/' :: tail.toList))
      (noSlash : '/' ∉ head.toList) (apart : mount = head → rest ≠ tail.toList) :
      Route.captures? (Route.literals text) ('/' :: (mount.toList ++ '/' :: rest)) = none := by
    refine Route.captures?_literals_eq_none fun same => ?_
    rw [text_eq] at same
    have cut := (Text.append_separator_inj oneSegment noSlash).mp (List.cons.inj same).2
    exact apart (String.toList_injective cut.1) cut.2
  have template (parts : List Part) : Route.captures? (Route.literals "/templates/" ++ parts)
      ('/' :: (mount.toList ++ '/' :: rest)) = none := by
    refine Route.captures?_append_eq_none ?_
    rintro ⟨behind, same⟩
    have text_eq : "/templates/".toList ++ behind = '/' :: ("templates".toList ++ '/' :: behind) :=
      rfl
    rw [text_eq] at same
    have cut := (Text.append_separator_inj (by decide) oneSegment).mp (List.cons.inj same).2
    exact notTemplates (String.toList_injective cut.1.symm)
  simp only [List.mem_cons, List.not_mem_nil, or_false, not_or] at free
  simp only [ownRoutes, List.mem_cons, List.not_mem_nil, or_false] at member
  rcases member with rfl | rfl | rfl | rfl | rfl | rfl | rfl | rfl | rfl | rfl
  · exact single "health" (by decide) (by decide)
  · exact single "backends" (by decide) (by decide)
  · exact single "templates" (by decide) (by decide)
  · exact double "templates" "invalidate" (by decide) (by decide) fun same =>
      absurd same notTemplates
  · exact template _
  · rw [List.append_assoc]
    exact template _
  · exact double "certificates" "preview" (by decide) (by decide) fun same => (free same).1
  · exact double "certificates" "pdf" (by decide) (by decide) fun same => (free same).2.1
  · exact double "certificates" "image" (by decide) (by decide) fun same => (free same).2.2.1
  · exact double "certificates" "generate" (by decide) (by decide) fun same => (free same).2.2.2

end Below

/-- The path below a mount is what follows the mount. -/
theorem below_eq {mount : String} (oneSegment : '/' ∉ mount.toList) {rest : List Char}
    (relative : rest.head? ≠ some '/') :
    Mount.below mount ('/' :: (mount.toList ++ '/' :: rest)) = '/' :: rest := by
  have pieces : Text.split '/' (('/' :: (mount.toList ++ '/' :: rest)).drop 1) =
      mount.toList :: Text.split '/' rest := by
    rw [List.drop_succ_cons, List.drop_zero, Text.split_append,
      Text.split_eq_singleton oneSegment, List.singleton_append]
  have after : Mount.after? [mount.toList] (mount.toList :: Text.split '/' rest) =
      some (Text.split '/' rest) := by
    simp [Mount.after?]
  rw [Mount.below, pieces, Text.split_eq_singleton oneSegment, after]
  dsimp only
  rw [Text.join_split, if_neg relative]

/-- A mount that the service lets stand is not that of the templates. -/
theorem ne_templates {mount : String} {directory : FilePath}
    (apart : ∀ own ∈ ownRoutes,
      Route.clash own.pattern (belowRoute mount directory).pattern = false) :
    mount ≠ "templates" := by
  rintro rfl
  have clashes : Route.clash (Route.literals "/templates/" ++ [.capture])
      (belowRoute "templates" directory).pattern = true := rfl
  have isApart :=
    apart ⟨Route.literals "/templates/" ++ [.capture], .template⟩ (by simp [ownRoutes])
  exact absurd (clashes.symm.trans isApart) (by decide)

/-- The mounts can be told apart: each is one segment of a path, and no two of them
are the same. -/
@[mk_iff] structure Mounted (settings : RenderSettings) : Prop where
  filled : ∀ entry ∈ mounts settings, entry.1 ≠ ""
  oneSegment : ∀ entry ∈ mounts settings, '/' ∉ entry.1.toList
  distinct : ((mounts settings).map Prod.fst).Nodup

instance (settings : RenderSettings) : Decidable (Mounted settings) :=
  decidable_of_iff' _ (mounted_iff settings)

/-- A path below a mount leads to the directory of the mount. -/
theorem find?_below {settings : RenderSettings} {table : List (Route Endpoint)}
    (mounted : Mounted settings) (literal : ∀ entry ∈ mounts settings, IsLiteral entry.1)
    (found : table? settings = some table) {mount : String} {directory : FilePath}
    (member : (mount, directory) ∈ mounts settings) {rest : List Char} (filled : rest ≠ [])
    (free : mount = "certificates" →
      rest ∉ ["preview".toList, "pdf".toList, "image".toList, "generate".toList]) :
    Route.find? table ('/' :: (mount.toList ++ '/' :: rest)) =
      some (.files mount directory, [rest]) := by
  have oneSegment := mounted.oneSegment _ member
  obtain ⟨rfl, apart⟩ := table?_eq_some mounted.filled literal found
  have own : ∀ own ∈ ownRoutes,
      Route.captures? own.pattern ('/' :: (mount.toList ++ '/' :: rest)) = none :=
    fun _ => captures?_ownRoutes oneSegment (ne_templates (apart _ member)) free
  have onItself : ∀ route ∈ exactRoutes mount directory,
      Route.captures? route.pattern ('/' :: (mount.toList ++ '/' :: rest)) = none :=
    fun _ => captures?_exactRoutes oneSegment filled oneSegment
  have taken : Route.captures? (belowRoute mount directory).pattern
      ('/' :: (mount.toList ++ '/' :: rest)) = some [rest] := by
    rw [captures?_belowRoute oneSegment filled oneSegment, if_pos rfl]
  obtain ⟨front, back, split⟩ := List.append_of_mem member
  have different : ∀ entry ∈ front ++ back, entry.1 ≠ mount := by
    have distinct := mounted.distinct
    rw [split, List.map_append, List.map_cons, List.nodup_middle, List.nodup_cons,
      ← List.map_append] at distinct
    intro entry inOthers same
    exact distinct.1 (List.mem_map.mpr ⟨entry, inOthers, same⟩)
  have others {entry : String × FilePath} (inOthers : entry ∈ front ++ back)
      {route : Route Endpoint}
      (isRoute : route ∈ belowRoute entry.1 entry.2 :: exactRoutes entry.1 entry.2) :
      Route.captures? route.pattern ('/' :: (mount.toList ++ '/' :: rest)) = none := by
    have inMounts : entry ∈ mounts settings := by
      rw [split]
      simp only [List.mem_append, List.mem_cons] at inOthers ⊢
      exact inOthers.imp id .inr
    have otherSegment := mounted.oneSegment entry inMounts
    rcases List.mem_cons.mp isRoute with rfl | isExact
    · rw [captures?_belowRoute oneSegment filled otherSegment, if_neg (different entry inOthers)]
    · exact captures?_exactRoutes oneSegment filled otherSegment isExact
  rw [split, List.flatMap_append, List.flatMap_cons, List.cons_append, ← List.append_assoc]
  refine Route.find?_of_unique taken fun route isOther => ?_
  simp only [List.mem_append, List.mem_flatMap] at isOther
  rcases isOther with (inOwn | ⟨entry, inFront, isRoute⟩) | isExact | ⟨entry, inBack, isRoute⟩
  · exact own route inOwn
  · exact others (List.mem_append_left _ inFront) isRoute
  · exact onItself route isExact
  · exact others (List.mem_append_right _ inBack) isRoute

end CertPress.Service
