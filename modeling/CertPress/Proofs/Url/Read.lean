import CertPress.Proofs.Url.Address

/-!
# Reading addresses that were written

The text of an address on a server is read as the address again.  So are the addresses
below it, which are made by appending shown segments to its path.
-/

namespace CertPress.Url

/-- A character that counts wherever it stands in an address. -/
def isInk (char : Char) : Bool := 0x20 < char.toNat && char.toNat < 0x7F

/-- Nothing is dropped from a text of such characters. -/
theorem significant_eq_self {chars : List Char} (ink : ∀ char ∈ chars, isInk char) :
    significant chars = chars := by
  have code : ∀ char ∈ chars, 0x20 < char.toNat := by
    intro char member
    have inked := ink char member
    simp only [isInk, Bool.and_eq_true, decide_eq_true_eq] at inked
    exact inked.1
  have edge : ∀ char ∈ chars, isEdge char = false := by
    intro char member
    have := code char member
    simp only [isEdge, decide_eq_false_iff_not]
    omega
  have start : chars.dropWhile isEdge = chars := by
    cases chars with
    | nil => rfl
    | cons first rest => rw [List.dropWhile_cons_of_neg (by simp [edge])]
  have finish : chars.reverse.dropWhile isEdge = chars.reverse := by
    cases reversed : chars.reverse with
    | nil => rfl
    | cons last rest =>
        have inChars : last ∈ chars := List.mem_reverse.mp (reversed ▸ .head _)
        rw [List.dropWhile_cons_of_neg (by simp [edge last inChars])]
  rw [significant, start, finish, List.reverse_reverse, List.filter_eq_self]
  intro char member
  have large := code char member
  have apart {mark : Char} (small : mark.toNat ≤ 0x20) : char ≠ mark := by
    rintro rfl
    omega
  have notTab : char ≠ '\t' := apart (by decide)
  have notFeed : char ≠ '\n' := apart (by decide)
  have notReturn : char ≠ '\r' := apart (by decide)
  simp [notTab, notFeed, notReturn]

theorem isInk_of_keeps {reserved : List Char} (blank : ' ' ∈ reserved) {char : Char}
    (kept : Text.Percent.keeps reserved char) : isInk char := by
  simp only [Text.Percent.keeps, Bool.and_eq_true, decide_eq_true_eq, Bool.not_eq_true',
    List.contains_eq_mem, decide_eq_false_iff_not] at kept
  obtain ⟨⟨least, most⟩, free⟩ := kept
  have notBlank : char.toNat ≠ 0x20 := by
    intro code
    obtain rfl : char = ' ' := Char.toNat_inj.mp code
    exact free blank
  have visible : 0x20 < char.toNat := by omega
  simp [isInk, visible, most]

/-- The scheme is read up to its colon. -/
theorem IsWeb.readScheme {scheme : List Char} (web : IsWeb scheme) (rest : List Char) :
    Url.readScheme (scheme ++ ':' :: rest) = some (scheme, rest) := by
  rcases web with rfl | rfl <;> rfl

namespace Address

variable (address : Address)

theorem toList_text : address.url.text.toList = address.scheme ++ ':' ::
    ((address.place ++ (address.query.map ('?' :: ·)).getD []) ++
      (address.fragment.map ('#' :: ·)).getD []) := by
  simp [url, text, chars, place, authority, Path.chars]

theorem exists_path : ∃ rest, address.segments.flatMap ('/' :: ·) = '/' :: rest := by
  obtain ⟨first, others, segments⟩ := List.exists_cons_of_ne_nil address.filled
  exact ⟨first ++ others.flatMap ('/' :: ·), by rw [segments]; rfl⟩

theorem of_mem_authority {char : Char} (member : char ∈ address.authority.chars) :
    0x20 < char.toNat ∧ char.toNat < 0x7F ∧ char ∉ ['#', '/', '?', '\\'] := by
  rw [authority, chars_authority] at member
  refine Url.of_mem_authority address.isUser (fun char inPlace => ?_) member
  rcases List.mem_append.mp inPlace with inHost | inPort
  · exact (hostText address.settled).inAuthority inHost
  · exact inAuthority_portChars inPort

/-- No character of it is dropped, and none begins a query or a fragment. -/
theorem of_mem_place {char : Char} (member : char ∈ address.place) :
    isInk char ∧ char ≠ '#' ∧ char ≠ '?' := by
  have slash : isInk '/' ∧ '/' ≠ '#' ∧ '/' ≠ '?' := by decide
  simp only [place, List.mem_cons, List.mem_append, List.mem_flatMap] at member
  rcases member with rfl | rfl | inAuthority | ⟨segment, inSegments, rfl | inSegment⟩
  · exact slash
  · exact slash
  · obtain ⟨least, most, free⟩ := address.of_mem_authority inAuthority
    simp only [List.mem_cons, List.not_mem_nil, or_false, not_or] at free
    simp [isInk, least, most, free]
  · exact slash
  · have kept := (address.isSegment segment inSegments).kept char inSegment
    obtain ⟨-, free⟩ := Text.Percent.of_keeps kept
    simp only [Path.reserved, List.mem_cons, List.not_mem_nil, or_false, not_or] at free
    exact ⟨isInk_of_keeps (by decide) kept, by simp [free]⟩

theorem isInk_of_mem_text {char : Char} (member : char ∈ address.url.text.toList) :
    isInk char := by
  rw [toList_text, List.mem_append, List.mem_cons, List.mem_append, List.mem_append] at member
  rcases member with inScheme | rfl | (inPlace | inQuery) | inFragment
  · have scheme : address.scheme.all isInk := by
      rcases address.web with same | same <;> rw [same] <;> rfl
    exact List.all_eq_true.mp scheme char inScheme
  · decide
  · exact (address.of_mem_place inPlace).1
  · cases query : address.query with
    | none => simp [query] at inQuery
    | some text =>
        have inText : char = '?' ∨ char ∈ text := by simpa [query] using inQuery
        rcases inText with rfl | inText
        · decide
        · exact isInk_of_keeps (by decide) (address.isQuery text query char inText)
  · cases fragment : address.fragment with
    | none => simp [fragment] at inFragment
    | some text =>
        have inText : char = '#' ∨ char ∈ text := by simpa [fragment] using inFragment
        rcases inText with rfl | inText
        · decide
        · exact isInk_of_keeps (by decide) (address.isFragment text fragment char inText)

/-- The server and the segments are read behind the scheme. -/
theorem readParts_place (followed : Bool) : readParts address.scheme followed address.place =
    some (some address.authority, .segments address.segments) := by
  obtain ⟨rest, path⟩ := address.exists_path
  have start : address.place.dropWhile isSlash = address.authority.chars ++ '/' :: rest := by
    obtain ⟨first, others, chars⟩ : ∃ first others, address.authority.chars = first :: others := by
      refine List.exists_cons_of_ne_nil ?_
      rw [authority, chars_authority]
      simp [(hostText address.settled).ne_nil]
    have inAuthority : first ∈ address.authority.chars := chars ▸ .head _
    have notSlash : isSlash first = false := by
      have free := (address.of_mem_authority inAuthority).2.2
      simp only [List.mem_cons, List.not_mem_nil, or_false, not_or] at free
      simp [isSlash, free]
    rw [place, path, chars, List.dropWhile_cons_of_pos rfl, List.dropWhile_cons_of_pos rfl,
      List.cons_append, List.dropWhile_cons_of_neg (by simp [notSlash])]
  have authorityRead : readAuthority address.scheme followed
      (address.authority.chars ++ '/' :: rest) = some (address.authority, '/' :: rest) :=
    readAuthority_chars address.web.isSpecial address.isUser address.settled address.isWritten
      ⟨rest, rfl⟩
  have isPath : readPath true ('/' :: rest) = .segments address.segments := by
    conv_rhs => rw [← Path.read_segments address.isSegment path]
    rfl
  unfold readParts
  rw [address.web.isFile, address.web.isSpecial, if_neg Bool.false_ne_true, if_pos rfl, start,
    authorityRead]
  simp [isPath]

/-- The address is read back from its text. -/
theorem ofText?_text : ofText? address.url.text = some address.url := by
  have noQuestion : '?' ∉ address.place := fun member => (address.of_mem_place member).2.2 rfl
  have noHash : '#' ∉ address.place ++ (address.query.map ('?' :: ·)).getD [] := by
    intro member
    rcases List.mem_append.mp member with inPlace | inQuery
    · exact (address.of_mem_place inPlace).2.1 rfl
    · cases query : address.query with
      | none => simp [query] at inQuery
      | some text =>
          have inText : '#' ∈ text := by simpa [query] using inQuery
          exact (Text.Percent.of_keeps (address.isQuery text query '#' inText)).2 (by decide)
  have rewritten {reserved : List Char} {part : Option (List Char)}
      (kept : ∀ text ∈ part, ∀ char ∈ text, Text.Percent.keeps reserved char) :
      part = part.map (Text.Percent.encode reserved) := by
    cases part with
    | none => rfl
    | some text => rw [Option.map_some, Text.Percent.encode_eq_self (kept text rfl)]
  refine ofChars?_eq_some_iff.mpr ⟨_, _, address.fragment, address.place, address.query, ?_,
    cutPart_append noHash _, cutPart_append noQuestion _, address.readParts_place _, rfl, ?_,
    rewritten address.isFragment⟩
  · rw [significant_eq_self fun _ => address.isInk_of_mem_text, toList_text]
    exact address.web.readScheme _
  · have special : isSpecial address.url.scheme = true := address.web.isSpecial
    rw [special]
    exact rewritten address.isQuery

/-! ## Addresses below -/

/-- The address with segments appended to its path. -/
def below (segments : List (List Char)) (shown : ∀ segment ∈ segments, Path.Shown segment)
    (some : segments ≠ []) : Address :=
  { address with
    segments := Path.stem address.segments ++ segments.map Path.written
    filled := by simp [some]
    isSegment := by
      intro segment member
      rcases List.mem_append.mp member with inStem | isWritten
      · exact address.isSegment segment (Path.mem_of_mem_stem inStem)
      · obtain ⟨source, inSegments, rfl⟩ := List.mem_map.mp isWritten
        exact Path.isSegment_written (shown source inSegments) }

/-- Appending segments leads to the shown ones below the address. -/
theorem extend_url {segments shown : List (List Char)}
    (kept : (segments.filter fun segment => segment != ['.'] && segment != ['.', '.']) = shown)
    (allShown : ∀ segment ∈ shown, Path.Shown segment) (some : shown ≠ []) :
    address.url.extend segments = (address.below shown allShown some).url := by
  have path := @Path.extend_shown address.segments segments shown kept some allShown
  rw [Url.extend]
  dsimp only [url]
  rw [address.web.isSpecial, address.web.isFile, path]
  rfl

end Address

end CertPress.Url
