import CertPress.Proofs.Url.Host
import CertPress.Proofs.Url.Path

/-!
# Addresses on servers

A web address that was read has all its parts in the form in which they are written,
provided that its host is read back from its written form.
-/

namespace CertPress.Url

/-- Whether a scheme is one of the web. -/
def IsWeb (scheme : List Char) : Prop := scheme = "http".toList ∨ scheme = "https".toList

instance (scheme : List Char) : Decidable (IsWeb scheme) := inferInstanceAs (Decidable (_ ∨ _))

theorem IsWeb.isSpecial {scheme : List Char} (web : IsWeb scheme) : isSpecial scheme := by
  rcases web with rfl | rfl <;> decide

theorem IsWeb.isFile {scheme : List Char} (web : IsWeb scheme) : isFile scheme = false := by
  rcases web with rfl | rfl <;> decide

/-- Whether a port is written in the address of a server: it fits, and it is not the
usual one. -/
def IsWritten (scheme : List Char) (port : Option Nat) : Prop :=
  ∀ number ∈ port, number ≤ 0xFFFF ∧ usualPort? scheme ≠ some number

instance (scheme : List Char) (port : Option Nat) : Decidable (IsWritten scheme port) :=
  inferInstanceAs (Decidable (∀ number ∈ port, _))

/-- The address of a server itself: a web scheme, a host that is read back from its
written form, and a port unless it is the usual one. -/
structure Origin where
  scheme : List Char
  host : Host
  port : Option Nat
  web : IsWeb scheme
  settled : Host.ofSpecial? host.chars = some host
  isWritten : IsWritten scheme port

/-- The address of a path on a server. -/
def Origin.url (origin : Origin) (path : List Segment) : Url :=
  ⟨origin.scheme, some ⟨[], some origin.host, origin.port⟩, false, .segments path, none, none⟩

/-- The address of something on a server, of which all parts are in the form in which
they are written. -/
structure Address extends Origin where
  user : List Char
  segments : List Segment
  query : Option (List Char)
  fragment : Option (List Char)
  isUser : IsUser user
  filled : segments ≠ []
  isSegment : ∀ segment ∈ segments, Path.IsSegment segment
  isQuery : ∀ text ∈ query, ∀ char ∈ text, Text.Percent.keeps (reservedInQuery true) char
  isFragment : ∀ text ∈ fragment, ∀ char ∈ text, Text.Percent.keeps reservedInFragment char

namespace Address

variable (address : Address)

/-- The address as it is read. -/
def url : Url :=
  ⟨address.scheme, some ⟨address.user, some address.host, address.port⟩, false,
    .segments address.segments, address.query, address.fragment⟩

/-- Who serves the address. -/
def authority : Authority := ⟨address.user, some address.host, address.port⟩

/-- The written form of the address between its scheme and its query. -/
def place : List Char :=
  '/' :: '/' :: (address.authority.chars ++ address.segments.flatMap ('/' :: ·))

end Address

/-- The address of the root of a server. -/
def Origin.root (origin : Origin) : Address :=
  { origin with
    user := []
    segments := [[]]
    query := none
    fragment := none
    isUser := isUser_nil
    filled := List.cons_ne_nil _ _
    isSegment := by simpa using Path.isSegment_nil
    isQuery := by simp
    isFragment := by simp }

theorem Origin.isPlain_root (origin : Origin) : Path.IsPlain origin.root.url.path.chars :=
  show Path.IsPlain ['/'] by decide

/-! ## Addresses that were read -/

/-- A text cut at the first mark, if it has one. -/
def cutPart (mark : Char) (chars : List Char) : List Char × Option (List Char) :=
  match Text.cut? [mark] chars with
  | some (before, after) => (before, some after)
  | none => (chars, none)

theorem cutPart_append {mark : Char} {before : List Char} (free : mark ∉ before)
    (part : Option (List Char)) :
    cutPart mark (before ++ (part.map (mark :: ·)).getD []) = (before, part) := by
  rw [cutPart, Text.cut?_part free]
  cases part with
  | none => simp
  | some after => rfl

theorem ofChars?_eq (chars : List Char) :
    ofChars? chars = (readScheme (significant chars)).bind fun (scheme, rest) =>
      let (front, fragment) := cutPart '#' rest
      let (place, query) := cutPart '?' front
      (readParts scheme (query.isSome || fragment.isSome) place).bind fun (authority, path) =>
        some
          { scheme, authority, path
            guarded := authority.isNone && ['/', '/'].isPrefixOf path.chars
            query := query.map (Text.Percent.encode (reservedInQuery (isSpecial scheme)))
            fragment := fragment.map (Text.Percent.encode reservedInFragment) } :=
  rfl

/-- The parts of an address are read one by one. -/
theorem ofChars?_eq_some_iff {chars : List Char} {url : Url} :
    ofChars? chars = some url ↔ ∃ rest front fragment place query,
      readScheme (significant chars) = some (url.scheme, rest) ∧
      cutPart '#' rest = (front, fragment) ∧ cutPart '?' front = (place, query) ∧
      readParts url.scheme (query.isSome || fragment.isSome) place =
        some (url.authority, url.path) ∧
      url.guarded = (url.authority.isNone && ['/', '/'].isPrefixOf url.path.chars) ∧
      url.query = query.map (Text.Percent.encode (reservedInQuery (isSpecial url.scheme))) ∧
      url.fragment = fragment.map (Text.Percent.encode reservedInFragment) := by
  rw [ofChars?_eq]
  simp only [Option.bind_eq_some_iff, Option.some.injEq]
  constructor
  · rintro ⟨⟨scheme, rest⟩, isScheme, ⟨authority, path⟩, parts, rfl⟩
    exact ⟨rest, _, _, _, _, isScheme, rfl, rfl, parts, rfl, rfl, rfl⟩
  · obtain ⟨scheme, authority, isGuarded, path, query?, fragment?⟩ := url
    rintro ⟨rest, front, fragment, place, query, isScheme, atHash, atQuestion, parts, guarded,
      isQuery, isFragment⟩
    dsimp only at isScheme parts guarded isQuery isFragment
    subst guarded isQuery isFragment
    refine ⟨(scheme, rest), isScheme, (authority, path), ?_, ?_⟩
    · simpa only [atHash, atQuestion] using parts
    · simp only [atHash, atQuestion]

theorem isWritten_none (scheme : List Char) : IsWritten scheme none := by
  intro number isPort
  cases isPort

theorem isWritten_of_readPort {scheme chars rest : List Char} {port : Option Nat}
    (read : readPort scheme chars = some (port, rest)) : IsWritten scheme port := by
  unfold readPort at read
  extract_lets behind ended at read
  split at read
  next => cases read
  next =>
    split at read
    next =>
      obtain ⟨rfl, -⟩ := Prod.mk.inj (Option.some.inj read)
      exact isWritten_none scheme
    next number _ =>
      split at read
      next => cases read
      next fits =>
        obtain ⟨rfl, -⟩ := Prod.mk.inj (Option.some.inj read)
        intro other isPort
        split at isPort
        next => cases isPort
        next unusual =>
          obtain rfl := Option.some.inj isPort
          exact ⟨Nat.not_lt.mp fits, unusual⟩

theorem isWritten_of_readAuthority {scheme chars rest : List Char} {followed : Bool}
    {authority : Authority} (read : readAuthority scheme followed chars = some (authority, rest)) :
    IsWritten scheme authority.port := by
  simp only [readAuthority, Option.bind_eq_bind, Option.bind_eq_some_iff] at read
  obtain ⟨⟨user, afterUser⟩, -, host, -, read⟩ := read
  split at read
  next portText _ =>
    split at read
    next => cases read
    next =>
      simp only [Option.bind_eq_some_iff, Option.pure_def, Option.some.injEq, Prod.mk.injEq] at read
      obtain ⟨⟨port, behind⟩, portRead, rfl, -⟩ := read
      exact isWritten_of_readPort portRead
  next =>
    split at read
    next => cases read
    next =>
      simp only [Option.pure_def, Option.some.injEq, Prod.mk.injEq] at read
      obtain ⟨rfl, -⟩ := read
      exact isWritten_none scheme

theorem isUser_of_readAuthority {scheme chars rest : List Char} {followed : Bool}
    {authority : Authority} (special : isSpecial scheme)
    (read : readAuthority scheme followed chars = some (authority, rest)) :
    IsUser authority.userInfo ∧ authority.host.isSome := by
  simp only [readAuthority, special, Option.bind_eq_bind, Option.bind_eq_some_iff] at read
  obtain ⟨⟨user, afterUser⟩, userRead, host, hostRead, read⟩ := read
  have isUser : IsUser user := by
    unfold readUser at userRead
    dsimp only at userRead
    split at userRead
    next =>
      obtain ⟨rfl, -⟩ := Prod.mk.inj (Option.some.inj userRead)
      exact isUser_nil
    next =>
      split at userRead
      next => cases userRead
      next =>
        obtain ⟨rfl, -⟩ := Prod.mk.inj (Option.some.inj userRead)
        exact isUser_userInfo _
  have isHost : host.isSome := by
    rw [readHost, if_pos rfl, Option.map_eq_some_iff] at hostRead
    obtain ⟨_, -, rfl⟩ := hostRead
    rfl
  split at read
  next =>
    split at read
    next => cases read
    next =>
      simp only [Option.bind_eq_some_iff, Option.pure_def, Option.some.injEq, Prod.mk.injEq] at read
      obtain ⟨_, -, rfl, -⟩ := read
      exact ⟨isUser, isHost⟩
  next =>
    split at read
    next => cases read
    next =>
      simp only [Option.pure_def, Option.some.injEq, Prod.mk.injEq] at read
      obtain ⟨rfl, -⟩ := read
      exact ⟨isUser, isHost⟩

theorem readPath_segments (chars : List Char) : ∃ list, readPath true chars = .segments list ∧
    list ≠ [] ∧ ∀ segment ∈ list, Path.IsSegment segment := by
  cases chars with
  | nil => exact ⟨[[]], rfl, by simp, by simpa using Path.isSegment_nil⟩
  | cons char rest =>
      exact ⟨_, rfl, Path.read_ne_nil _, fun _ => Path.isSegment_of_mem_read⟩

/-- A web address that was read is one on a server, if its host is read back. -/
theorem exists_address {text : String} {url : Url} (read : ofText? text = some url)
    (web : IsWeb url.scheme)
    (settled : ∀ authority ∈ url.authority, ∀ host ∈ authority.host,
      Host.ofSpecial? host.chars = some host) : ∃ address : Address, address.url = url := by
  obtain ⟨rest, front, fragment, place, query, -, -, -, parts, guarded, isQuery, isFragment⟩ :=
    ofChars?_eq_some_iff.mp read
  have special := web.isSpecial
  unfold readParts at parts
  rw [web.isFile, special, if_neg Bool.false_ne_true, if_pos rfl] at parts
  simp only [Option.bind_eq_bind, Option.bind_eq_some_iff, Option.pure_def, Option.some.injEq,
    Prod.mk.injEq] at parts
  obtain ⟨⟨authority, behind⟩, authorityRead, isAuthority, isPath⟩ := parts
  obtain ⟨isUser, hasHost⟩ := isUser_of_readAuthority special authorityRead
  have isWritten := isWritten_of_readAuthority authorityRead
  obtain ⟨list, path_eq, filled, isSegment⟩ := readPath_segments behind
  obtain ⟨user, host?, port⟩ := authority
  obtain ⟨host, rfl⟩ := Option.isSome_iff_exists.mp hasHost
  have kept {reserved : List Char}
      (apart : Text.Percent.Apart reserved) (part : Option (List Char)) :
      ∀ text ∈ part.map (Text.Percent.encode reserved), ∀ char ∈ text,
        Text.Percent.keeps reserved char := by
    intro text member char inText
    obtain ⟨source, -, rfl⟩ := Option.map_eq_some_iff.mp member
    exact Text.Percent.keeps_of_mem_encode (List.Subset.refl _) apart inText
  have unguarded : url.guarded = false := by
    rw [guarded, ← isAuthority]
    rfl
  rw [special] at isQuery
  have parts_eq : (⟨url.scheme, some ⟨user, some host, port⟩, false, .segments list,
      query.map (Text.Percent.encode (reservedInQuery true)),
      fragment.map (Text.Percent.encode reservedInFragment)⟩ : Url) = url := by
    rw [← isQuery, ← isFragment, ← path_eq, ← unguarded]
    dsimp only at isAuthority isPath
    rw [isAuthority, isPath]
  exact ⟨⟨⟨url.scheme, host, port, web, settled _ isAuthority.symm _ rfl, isWritten⟩, user, list, _,
    _, isUser, filled, isSegment, kept (by decide) query, kept (by decide) fragment⟩, parts_eq⟩

/-- The server of an address that was read, with a host that is read back. -/
theorem exists_origin {text : String} {scheme : List Char} {host : Host} {port : Option Nat}
    {path : Path} {query fragment : Option (List Char)} {guarded : Bool}
    (read : ofText? text =
      some ⟨scheme, some ⟨[], some host, port⟩, guarded, path, query, fragment⟩)
    (web : IsWeb scheme) (settled : Host.ofSpecial? host.chars = some host) :
    ∃ origin : Origin, origin.scheme = scheme ∧ origin.host = host ∧ origin.port = port := by
  obtain ⟨address, same⟩ := exists_address read web (by
    rintro authority ⟨⟩ other ⟨⟩
    exact settled)
  simp only [Address.url, Url.mk.injEq, Option.some.injEq, Authority.mk.injEq] at same
  obtain ⟨isScheme, ⟨-, isHost, isPort⟩, -⟩ := same
  exact ⟨address.toOrigin, isScheme, isHost, isPort⟩

end CertPress.Url
