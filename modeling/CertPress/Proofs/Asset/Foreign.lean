import CertPress.Proofs.Asset.Fallback
import CertPress.Proofs.Text.Pieces
import CertPress.Proofs.Text.Trim

/-!
# Addresses that are left alone

A final render leaves an address as it is unless the address has the origin of the public
address, and its decoded path starts with the path of that, a mount and a slash.  The paths
are compared as texts: between the public path and the mount stands any number of slashes,
even none.  The path is made of the segments of both and of at least one more exactly if
there is one slash.
-/

namespace CertPress

namespace Asset

open Settings (AssetRoot RenderSettings)

/-- The mounts of the settings, without slashes around them. -/
def mountTexts (settings : RenderSettings) : List String :=
  Text.withoutSurrounding '/' settings.staticMount ::
    settings.assetRoots.inOrder.map AssetRoot.mount

/-- The path of an address without percent groups. -/
def decodedPath (url : Url) : List Char :=
  Text.decodeLossy (Text.Percent.decode url.path.chars)

/-- The path of the public address, without slashes at its end. -/
def publicPath (base : Url) : List Char := Text.dropTrailing '/' base.path.chars

/-- The segments of a path after its first slash. -/
def pathSegments (path : List Char) : List (List Char) := (Text.split '/' path).tail

theorem length_pathSegments (path : List Char) :
    (pathSegments path).length = path.count '/' := by
  rw [pathSegments, List.length_tail, Text.length_split, Nat.add_sub_cancel]

/-- Texts with slashes between them are made of the segments of each exactly if there is one
slash. -/
theorem pathSegments_eq_iff {front mount rest : List Char} {count : Nat} :
    pathSegments (front ++ List.replicate count '/' ++ mount ++ '/' :: rest) =
        pathSegments front ++ Text.split '/' mount ++ Text.split '/' rest ↔
      count = 1 := by
  constructor
  · intro same
    have lengths := congrArg List.length same
    simp only [List.length_append, length_pathSegments, Text.length_split, List.count_append,
      List.count_replicate_self, List.count_cons_self] at lengths
    omega
  · rintro rfl
    obtain ⟨first, others, pieces⟩ : ∃ first others, Text.split '/' front = first :: others :=
      List.exists_cons_of_ne_nil (Text.split_ne_nil _ _)
    have whole : front ++ List.replicate 1 '/' ++ mount ++ '/' :: rest =
        front ++ '/' :: (mount ++ '/' :: rest) := by simp
    rw [whole, pathSegments, Text.split_append, Text.split_append, pathSegments, pieces]
    simp

variable {settings : RenderSettings} {reference address : String}

/-- An address that serves something has the origin of the public address and a path behind
that. -/
theorem servedPath?_eq_some {served : String}
    (isServed : Resolver.servedPath? settings address = some served) :
    ∃ url base count, Url.ofText? address = some url ∧
      Url.ofText? settings.baseUrl = some base ∧ url.sameOrigin base ∧
      decodedPath url = publicPath base ++ List.replicate count '/' ++ served.toList := by
  simp only [Resolver.servedPath?, Option.bind_eq_bind, Option.bind_eq_some_iff] at isServed
  obtain ⟨url, isUrl, base, isBase, rest⟩ := isServed
  split at rest
  next => cases rest
  next sameOrigin =>
    obtain ⟨behind, isBehind, served_eq⟩ := Option.bind_eq_some_iff.mp rest
    obtain rfl := Option.some.inj served_eq
    obtain ⟨count, slashes⟩ := Text.eq_dropLeading '/' behind
    refine ⟨url, base, count, isUrl, isBase, by simpa using sameOrigin, ?_⟩
    rw [String.toList_ofList, List.append_assoc, ← slashes]
    exact Text.after?_eq_some_iff.mp isBehind

/-- An address that becomes another one serves a path below a mount. -/
theorem localize_changed {resolver : Resolver} {field : String} {progress : Progress}
    (changed : (resolver.localize field address progress).1 ≠ address) :
    ∃ served mount rest, Resolver.servedPath? resolver.settings address = some served ∧
      mount ∈ mountTexts resolver.settings ∧ served = mount ++ "/" ++ rest := by
  unfold Resolver.localize at changed
  split at changed
  next => exact absurd rfl changed
  next served isServed =>
    split at changed
    next rest below =>
      exact ⟨served, _, rest, isServed, .head _, belowMount?_eq_some_iff.mp below⟩
    next =>
      split at changed
      next mounted =>
        obtain ⟨root, inRoots, isBelow⟩ := List.any_eq_true.mp mounted
        obtain ⟨rest, below⟩ := Option.isSome_iff_exists.mp isBelow
        have isMount : root.mount ∈ mountTexts resolver.settings :=
          .tail _ (List.mem_map.mpr ⟨root, inRoots, rfl⟩)
        exact ⟨served, _, rest, isServed, isMount, belowMount?_eq_some_iff.mp below⟩
      next => exact absurd rfl changed

/-- A final render changes an address only if it has the origin of the public address and its
decoded path is that of the public address, slashes, a mount, a slash and more.  The path is
made of the segments of these, and of at least one more, exactly if one slash stands between
the public address and the mount. -/
theorem resolve_changed {owner : Uuid} {field : String} {progress : Progress}
    (external : Reference.classify reference = .external address)
    (changed : ((⟨settings, .final, owner⟩ : Resolver).resolve field reference progress).1 ≠
      Text.trimmed reference) :
    ∃ url base mount count rest, Url.ofText? (Text.trimmed reference) = some url ∧
      Url.ofText? settings.baseUrl = some base ∧ url.sameOrigin base ∧
      mount ∈ mountTexts settings ∧
      decodedPath url =
        publicPath base ++ List.replicate count '/' ++ mount.toList ++ '/' :: rest ∧
      (pathSegments (decodedPath url) =
          pathSegments (publicPath base) ++ Text.split '/' mount.toList ++ Text.split '/' rest ↔
        count = 1) := by
  have trimmed : address = Text.trimmed reference := by
    have text := Reference.text_classify reference
    rwa [external] at text
  have shown : Text.blank reference = false := by
    apply Text.blank_eq_false_of_trimmed
    intro empty
    rw [Reference.classify, empty] at external
    cases external
  subst trimmed
  have rewritten : ((⟨settings, .final, owner⟩ : Resolver).localize field
      (Text.trimmed reference) progress).1 ≠ Text.trimmed reference := by
    simpa only [Resolver.resolve, shown, external, Bool.false_eq_true, if_false] using changed
  obtain ⟨served, mount, rest, isServed, isMount, rfl⟩ := localize_changed rewritten
  obtain ⟨url, base, count, isUrl, isBase, sameOrigin, path⟩ := servedPath?_eq_some isServed
  have whole : decodedPath url = publicPath base ++ List.replicate count '/' ++ mount.toList ++
      '/' :: rest.toList := by
    simpa using path
  exact ⟨url, base, mount, count, rest.toList, isUrl, isBase, sameOrigin, isMount, whole,
    whole ▸ pathSegments_eq_iff⟩

/-- The case of an image below the mount of the primary root. -/
theorem resolve_changed_mounted :
    ∃ url base mount count rest, Url.ofText? "http://localhost:8000/media/a.png" = some url ∧
      Url.ofText? rootedSettings.baseUrl = some base ∧ url.sameOrigin base ∧
      mount ∈ mountTexts rootedSettings ∧
      decodedPath url =
        publicPath base ++ List.replicate count '/' ++ mount.toList ++ '/' :: rest ∧
      (pathSegments (decodedPath url) =
          pathSegments (publicPath base) ++ Text.split '/' mount.toList ++ Text.split '/' rest ↔
        count = 1) := by
  have external : Reference.classify "http://localhost:8000/media/a.png" =
      .external "http://localhost:8000/media/a.png" := by decide
  have trimmed : Text.trimmed "http://localhost:8000/media/a.png" =
      "http://localhost:8000/media/a.png" := by decide
  have changed : ((⟨rootedSettings, .final, default⟩ : Resolver).resolve "spa_logo"
      "http://localhost:8000/media/a.png" (.start .empty)).1 ≠
        Text.trimmed "http://localhost:8000/media/a.png" := by decide +kernel
  simpa only [trimmed] using resolve_changed external changed

/-- Settings with a public address below the origin. -/
def nestedSettings : RenderSettings :=
  { rootedSettings with publicAddress := "http://localhost:8000/a" }

/-- An address whose first segment only starts with the last one of the public address
becomes that of a file. -/
theorem resolve_changed_foreign :
    ∃ url base, Url.ofText? "http://localhost:8000/amedia/x" = some url ∧
      Url.ofText? nestedSettings.baseUrl = some base ∧
      Reference.classify "http://localhost:8000/amedia/x" =
        .external "http://localhost:8000/amedia/x" ∧
      Text.trimmed "http://localhost:8000/amedia/x" = "http://localhost:8000/amedia/x" ∧
      ((⟨nestedSettings, .final, default⟩ : Resolver).resolve "spa_logo"
        "http://localhost:8000/amedia/x" (.start .empty)).1 = "file:///srv/media/x" ∧
      ∀ mount ∈ mountTexts nestedSettings, ∀ more, more ≠ [] →
        pathSegments (decodedPath url) ≠
          pathSegments (publicPath base) ++ Text.split '/' mount.toList ++ more := by
  obtain ⟨url, isUrl⟩ : ∃ url, Url.ofText? "http://localhost:8000/amedia/x" = some url :=
    Option.isSome_iff_exists.mp (by decide +kernel)
  obtain ⟨base, isBase⟩ : ∃ base, Url.ofText? nestedSettings.baseUrl = some base :=
    Option.isSome_iff_exists.mp (by decide +kernel)
  refine ⟨url, base, isUrl, isBase, by decide, by decide, by decide +kernel, ?_⟩
  have segments : (Url.ofText? "http://localhost:8000/amedia/x").map
      (fun url => pathSegments (decodedPath url)) = some ["amedia".toList, "x".toList] := by
    decide +kernel
  have publicSegments : (Url.ofText? nestedSettings.baseUrl).map
      (fun base => pathSegments (publicPath base)) = some ["a".toList] := by
    decide +kernel
  rw [isUrl, Option.map_some, Option.some.injEq] at segments
  rw [isBase, Option.map_some, Option.some.injEq] at publicSegments
  intro mount _ more _ same
  rw [segments, publicSegments] at same
  exact absurd (List.cons.inj same).1 (by decide)

end Asset

end CertPress
