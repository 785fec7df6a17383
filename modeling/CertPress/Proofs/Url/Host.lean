import CertPress.Proofs.Action
import CertPress.Proofs.Text.Ascii
import CertPress.Proofs.Text.Cut
import CertPress.Proofs.Text.Percent
import CertPress.Proofs.Text.Pieces
import CertPress.Url.Read

/-!
# Reading authorities that were written

The written form of a host is either a name, which holds nothing that marks another
part of an address, or an address in brackets.  In both cases the reader finds its
end, and the port behind it, whatever path follows.
-/

namespace CertPress.Url

/-- Whether a character may stand in a host without brackets: it is printable and
marks no other part of an address. -/
def inName (char : Char) : Bool :=
  0x20 < char.toNat && char.toNat < 0x7F &&
    !(['#', '/', ':', '?', '@', '[', '\\', ']'].contains char)

/-- The texts that hosts are written as. -/
inductive HostText : List Char → Prop where
  | name {chars : List Char} : chars ≠ [] → (∀ char ∈ chars, inName char) → HostText chars
  | bracketed {inner : List Char} : (∀ char ∈ inner, inName char ∨ char = ':') →
      HostText ('[' :: inner ++ [']'])

theorem inName_digitChar {value : Nat} (digit : value < 16) : inName (Nat.digitChar value) := by
  revert value
  decide

theorem inName_of_inDomain {char : Char} (allowed : Host.inDomain char) : inName char := by
  simp only [Host.inDomain, Host.forbidden, Bool.and_eq_true, decide_eq_true_eq, bne_iff_ne,
    Bool.not_eq_true', List.contains_eq_mem, decide_eq_false_iff_not, List.mem_cons,
    List.not_mem_nil, or_false, not_or] at allowed
  obtain ⟨⟨⟨least, most⟩, -⟩, notSpace, free⟩ := allowed
  have notBlank : char.toNat ≠ 0x20 := fun code => notSpace (Char.toNat_inj.mp code)
  have visible : 0x20 < char.toNat := by omega
  simp [inName, visible, most, free]

theorem inName_of_mem_toDigits {base number : Nat} {char : Char} (least : 1 < base)
    (most : base ≤ 16) (member : char ∈ Nat.toDigits base number) : inName char := by
  obtain ⟨value, small, rfl⟩ := Text.mem_toDigits least member
  exact inName_digitChar (by omega)

/-- A domain name that was read holds only what may stand in one. -/
theorem ofSpecial?_domain {chars name : List Char}
    (read : Host.ofSpecial? chars = some (.domain name)) :
    name ≠ [] ∧ ∀ char ∈ name, Host.inDomain char := by
  unfold Host.ofSpecial? at read
  split at read
  next =>
    unfold Host.bracketed? at read
    split at read <;> simp at read
  next =>
    simp only [Option.bind_eq_bind, Option.bind_eq_some_iff] at read
    obtain ⟨decoded, -, found, -, rest⟩ := read
    split at rest
    next => exact absurd rest (by simp)
    next allowed =>
      split at rest
      next => simp [Option.bind_eq_some_iff] at rest
      next =>
        simp only [Option.pure_def, Option.some.injEq, Host.domain.injEq] at rest
        subst rest
        simpa [not_or] using allowed

/-- The written form of an IPv6 address in groups of hexadecimal digits. -/
theorem mem_ipv6_chars {address : Net.Ipv6} {char : Char} (member : char ∈ address.chars) :
    inName char ∨ char = ':' := by
  have group {groups : List Nat} (inGroups : char ∈ Net.Ipv6.joinGroups groups) :
      inName char ∨ char = ':' := by
    rcases Text.mem_join inGroups with colon | ⟨piece, inPieces, inPiece⟩
    · exact .inr colon
    · obtain ⟨number, -, rfl⟩ := List.mem_map.mp inPieces
      exact .inl (inName_of_mem_toDigits (by decide) (by decide) inPiece)
  unfold Net.Ipv6.chars at member
  dsimp only at member
  split at member
  next => exact group member
  next =>
    simp only [List.mem_append, List.mem_cons, List.not_mem_nil, or_false, or_self] at member
    rcases member with (inFront | colon) | inBack
    · exact group inFront
    · exact .inr colon
    · exact group inBack

/-- A host that is read back from its written form is written as a name or in
brackets. -/
theorem hostText {host : Host} (settled : Host.ofSpecial? host.chars = some host) :
    HostText host.chars := by
  cases host with
  | domain name =>
      obtain ⟨filled, allowed⟩ := ofSpecial?_domain settled
      exact .name filled fun char member => inName_of_inDomain (allowed char member)
  | ipv4 address =>
      refine .name ?_ fun char member => ?_
      · simp [Host.chars, Net.Ipv4.chars, Net.Ipv4.octets, Text.join]
      · rcases Text.mem_join member with rfl | ⟨piece, inPieces, inPiece⟩
        · decide
        · obtain ⟨number, -, rfl⟩ := List.mem_map.mp inPieces
          exact inName_of_mem_toDigits (by decide) (by decide) inPiece
  | ipv6 address => exact .bracketed fun _ => mem_ipv6_chars

/-! ## Reading -/

/-- A path that follows an authority. -/
def IsPath (path : List Char) : Prop := ∃ rest, path = '/' :: rest

/-- What may follow a host: a path, or a colon and a port. -/
def AfterHost (rest : List Char) : Prop := ∃ char others, rest = char :: others ∧
  (char = ':' ∨ char = '/')

theorem spanHost_append {bracketed : Bool} {chars : List Char}
    (inside : ∀ char ∈ chars, inName char ∨ (char = ':' ∧ bracketed)) (rest : List Char) :
    spanHost true bracketed (chars ++ rest) =
      (chars ++ (spanHost true bracketed rest).1, (spanHost true bracketed rest).2) := by
  induction chars with
  | nil => rfl
  | cons char others hypothesis =>
      have goesOn : ((char == ':' && !bracketed) || endsAuthority true char) = false ∧
          char ≠ '[' ∧ char ≠ ']' := by
        rcases inside char (.head _) with name | ⟨rfl, rfl⟩
        · simp only [inName, Bool.and_eq_true, Bool.not_eq_true', List.contains_eq_mem,
            decide_eq_false_iff_not, List.mem_cons, List.not_mem_nil, or_false, not_or] at name
          simp [endsAuthority, name]
        · decide
      rw [List.cons_append, spanHost, if_neg (by simp [goesOn.1])]
      simp [goesOn.2, hypothesis fun other inOthers => inside other (.tail _ inOthers)]

/-- The reader finds the end of a host. -/
theorem spanHost_hostText {chars rest : List Char} (written : HostText chars)
    (follows : AfterHost rest) : spanHost true false (chars ++ rest) = (chars, rest) := by
  have ends : spanHost true false rest = ([], rest) := by
    obtain ⟨char, others, rfl, rfl | rfl⟩ := follows <;> rfl
  cases written with
  | name _ inside =>
      rw [spanHost_append (fun char member => .inl (inside char member)), ends, List.append_nil]
  | @bracketed inner inside =>
      have opened : spanHost true false ('[' :: (inner ++ ']' :: rest)) =
          ('[' :: (spanHost true true (inner ++ ']' :: rest)).1,
            (spanHost true true (inner ++ ']' :: rest)).2) := rfl
      have closed : spanHost true true (']' :: rest) =
          (']' :: (spanHost true false rest).1, (spanHost true false rest).2) := rfl
      have shape : '[' :: inner ++ [']'] ++ rest = '[' :: (inner ++ ']' :: rest) := by simp
      rw [shape, opened, spanHost_append (fun char member => (inside char member).imp id fun same =>
        ⟨same, rfl⟩), closed, ends]
      simp

/-- Whether a character may stand in an authority without user information. -/
def inAuthority (char : Char) : Bool := inName char || [':', '[', ']'].contains char

theorem of_inAuthority {char : Char} (inside : inAuthority char) :
    0x20 < char.toNat ∧ char.toNat < 0x7F ∧ char ∉ ['#', '/', '?', '@', '\\'] := by
  rw [inAuthority, Bool.or_eq_true] at inside
  rcases inside with name | mark
  · simp only [inName, Bool.and_eq_true, decide_eq_true_eq, Bool.not_eq_true',
      List.contains_eq_mem, decide_eq_false_iff_not, List.mem_cons, List.not_mem_nil, or_false,
      not_or] at name
    simp [name]
  · simp only [List.contains_eq_mem, List.mem_cons, List.not_mem_nil, or_false,
      decide_eq_true_eq] at mark
    rcases mark with rfl | rfl | rfl <;> decide

/-- The written form of a port. -/
def portChars (port : Option Nat) : List Char :=
  (port.map fun number => ':' :: Nat.toDigits 10 number).getD []

theorem HostText.ne_nil {chars : List Char} (written : HostText chars) : chars ≠ [] := by
  cases written with
  | name filled => exact filled
  | bracketed => simp

theorem HostText.inAuthority {chars : List Char} (written : HostText chars) {char : Char}
    (member : char ∈ chars) : inAuthority char := by
  rw [Url.inAuthority, Bool.or_eq_true]
  cases written with
  | name _ inside => exact .inl (inside char member)
  | bracketed inside =>
      simp only [List.mem_append, List.mem_cons, List.not_mem_nil, or_false] at member
      rcases member with (rfl | inInner) | rfl
      · exact .inr (by decide)
      · exact (inside char inInner).imp id (by rintro rfl; decide)
      · exact .inr (by decide)

theorem inAuthority_portChars {port : Option Nat} {char : Char} (member : char ∈ portChars port) :
    inAuthority char := by
  rw [inAuthority, Bool.or_eq_true]
  cases port with
  | none => exact absurd member List.not_mem_nil
  | some number =>
      rcases List.mem_cons.mp member with rfl | inDigits
      · exact .inr (by decide)
      · exact .inl (inName_of_mem_toDigits (by decide) (by decide) inDigits)

/-! ## User information -/

/-- What user information is written as: reading it changes nothing, and it holds only
what is kept, and colons. -/
structure IsUser (user : List Char) : Prop where
  settled : userInfo user = user
  inside : ∀ char ∈ user, Text.Percent.keeps reservedInUser char ∨ char = ':'

theorem encode_user (chars : List Char) :
    Text.Percent.encode reservedInUser (Text.Percent.encode reservedInUser chars) =
      Text.Percent.encode reservedInUser chars :=
  Text.Percent.encode_encode (by decide) chars

theorem keeps_user {chars : List Char} {char : Char}
    (member : char ∈ Text.Percent.encode reservedInUser chars) :
    Text.Percent.keeps reservedInUser char :=
  Text.Percent.keeps_of_mem_encode (List.Subset.refl _) (by decide) member

theorem isUser_userInfo (chars : List Char) : IsUser (userInfo chars) := by
  -- Both forms of it are a name and, if there is one, a password behind a colon.
  obtain ⟨name, password, filled, written⟩ : ∃ name, ∃ password : Option (List Char),
      (∀ text ∈ password, text ≠ []) ∧ userInfo chars =
        Text.Percent.encode reservedInUser name ++
          ((password.map (Text.Percent.encode reservedInUser)).map (':' :: ·)).getD [] := by
    unfold userInfo
    split
    next name password _ =>
      by_cases empty : password = []
      · exact ⟨name, none, by simp, by simp [empty]⟩
      · exact ⟨name, some password, by simpa using empty, by simp [empty]⟩
    next => exact ⟨chars, none, by simp, by simp⟩
  have noColon : ':' ∉ Text.Percent.encode reservedInUser name :=
    Text.Percent.not_mem_encode (by decide) (by decide) (by decide) name
  rw [written]
  constructor
  · rw [userInfo, Text.cut?_part noColon]
    cases password with
    | none => simp [encode_user]
    | some password =>
        have some : Text.Percent.encode reservedInUser password ≠ [] :=
          Text.Percent.encode_ne_nil _ (filled password rfl)
        simp [encode_user, some]
  · intro char member
    rcases List.mem_append.mp member with inName | inPassword
    · exact .inl (keeps_user inName)
    · cases password with
      | none => exact absurd inPassword List.not_mem_nil
      | some password =>
          rcases List.mem_cons.mp inPassword with colon | inText
          · exact .inr colon
          · exact .inl (keeps_user inText)

/-- The written form of user information in front of a host. -/
def userChars (user : List Char) : List Char := if user.isEmpty then [] else user ++ ['@']

theorem of_mem_userChars {user : List Char} (isUser : IsUser user) {char : Char}
    (member : char ∈ userChars user) :
    0x20 < char.toNat ∧ char.toNat < 0x7F ∧ char ∉ ['#', '/', '?', '\\'] := by
  obtain inText | rfl : char ∈ user ∨ char = '@' := by
    unfold userChars at member
    split at member
    next => exact absurd member List.not_mem_nil
    next => simpa using member
  · rcases isUser.inside char inText with kept | rfl
    · simp only [Text.Percent.keeps, reservedInUser, Path.reserved, Bool.and_eq_true,
        decide_eq_true_eq, Bool.not_eq_true', List.contains_eq_mem, decide_eq_false_iff_not,
        List.cons_append, List.nil_append, List.mem_cons, List.not_mem_nil, or_false, not_or] at kept
      obtain ⟨⟨least, most⟩, notSpace, free⟩ := kept
      have notBlank : char.toNat ≠ 0x20 := fun code => notSpace (Char.toNat_inj.mp code)
      have visible : 0x20 < char.toNat := by omega
      simp [visible, most, free]
    · decide
  · decide

/-- No character of an authority is blank, and none begins another part of an
address. -/
theorem of_mem_authority {user chars : List Char} (isUser : IsUser user)
    (inside : ∀ char ∈ chars, inAuthority char) {char : Char}
    (member : char ∈ userChars user ++ chars) :
    0x20 < char.toNat ∧ char.toNat < 0x7F ∧ char ∉ ['#', '/', '?', '\\'] := by
  have fewer : ['#', '/', '?', '\\'] ⊆ ['#', '/', '?', '@', '\\'] := by simp
  rcases List.mem_append.mp member with inUser | inPlace
  · exact of_mem_userChars isUser inUser
  · obtain ⟨least, most, free⟩ := of_inAuthority (inside char inPlace)
    exact ⟨least, most, fun isMark => free (fewer isMark)⟩

theorem isUser_nil : IsUser [] := ⟨rfl, by simp⟩

theorem chars_authority (user : List Char) (host : Host) (port : Option Nat) :
    (⟨user, some host, port⟩ : Authority).chars =
      userChars user ++ (host.chars ++ portChars port) := by
  simp [Authority.chars, userChars, portChars]

/-! ## Authorities -/

/-- The reader finds user information that is written, or none. -/
theorem readUser_chars {user chars path : List Char} {followed : Bool} (isUser : IsUser user)
    (inside : ∀ char ∈ chars, inAuthority char) (isPath : IsPath path) :
    readUser true followed (userChars user ++ (chars ++ path)) = some (user, chars ++ path) := by
  obtain ⟨rest, rfl⟩ := isPath
  have unended : ∀ char ∈ userChars user ++ chars, (!endsAuthority true char) = true := by
    intro char member
    have free := (of_mem_authority isUser inside member).2.2
    simp only [List.mem_cons, List.not_mem_nil, or_false, not_or] at free
    simp [endsAuthority, free]
  have authority : (userChars user ++ (chars ++ '/' :: rest)).takeWhile (!endsAuthority true ·) =
      userChars user ++ chars := by
    rw [← List.append_assoc, List.takeWhile_append_of_pos unended,
      List.takeWhile_cons_of_neg (by decide), List.append_nil]
  have behind : (userChars user ++ (chars ++ '/' :: rest)).dropWhile (!endsAuthority true ·) =
      '/' :: rest := by
    rw [← List.append_assoc, List.dropWhile_append_of_pos unended,
      List.dropWhile_cons_of_neg (by decide)]
  have noSign : '@' ∉ chars := fun member =>
    (of_inAuthority (inside '@' member)).2.2 (by decide)
  unfold readUser
  dsimp only
  rw [authority, behind]
  by_cases empty : user = []
  · have absent : Text.cutLast? ['@'] chars = none :=
      Text.cutLast?_eq_none fun occurs => noSign ((List.singleton_infix_iff _ _).mp occurs)
    subst empty
    simp [userChars, absent]
  · have found : Text.cutLast? ['@'] (userChars user ++ chars) = some (user, chars) := by
      rw [userChars, if_neg (by simpa using empty), List.append_assoc, List.singleton_append,
        Text.cutLast?_mark noSign]
    rw [found]
    simp [empty, isUser.settled]

/-- The reader finds a port that fits and is not the usual one. -/
theorem readPort_digits {scheme path : List Char} {number : Nat} (isPath : IsPath path)
    (fits : number ≤ 0xFFFF) (unusual : usualPort? scheme ≠ some number) :
    readPort scheme (Nat.toDigits 10 number ++ path) = some (some number, path) := by
  obtain ⟨rest, rfl⟩ := isPath
  have isDigits : ∀ char ∈ Nat.toDigits 10 number, char.isDigit :=
    fun _ member => Nat.isDigit_of_mem_toDigits (by decide) (by decide) member
  have digits : (Nat.toDigits 10 number ++ '/' :: rest).takeWhile Char.isDigit =
      Nat.toDigits 10 number := by
    rw [List.takeWhile_append_of_pos isDigits, List.takeWhile_cons_of_neg (by decide),
      List.append_nil]
  have behind : (Nat.toDigits 10 number ++ '/' :: rest).dropWhile Char.isDigit = '/' :: rest := by
    rw [List.dropWhile_append_of_pos isDigits, List.dropWhile_cons_of_neg (by decide)]
  have ended : endsAuthority true '/' = true := rfl
  unfold readPort
  simp only [digits, behind, ended, Text.decimal?_toDigits, Bool.not_true, Bool.false_eq_true,
    if_false, if_neg (Nat.not_lt.mpr fits), if_neg unusual]

/-- The reader finds user information, a host that reads back and its port. -/
theorem readAuthority_chars {scheme user path : List Char} {host : Host} {port : Option Nat}
    {followed : Bool} (special : isSpecial scheme) (isUser : IsUser user)
    (settled : Host.ofSpecial? host.chars = some host)
    (fits : ∀ number ∈ port, number ≤ 0xFFFF ∧ usualPort? scheme ≠ some number)
    (isPath : IsPath path) :
    readAuthority scheme followed ((⟨user, some host, port⟩ : Authority).chars ++ path) =
      some (⟨user, some host, port⟩, path) := by
  have written := hostText settled
  have inside : ∀ char ∈ host.chars ++ portChars port, inAuthority char := by
    intro char member
    rcases List.mem_append.mp member with inHost | inPort
    · exact written.inAuthority inHost
    · exact inAuthority_portChars inPort
  have follows : AfterHost (portChars port ++ path) := by
    obtain ⟨rest, rfl⟩ := isPath
    cases port with
    | none => exact ⟨_, _, rfl, .inr rfl⟩
    | some number => exact ⟨_, _, rfl, .inl rfl⟩
  have isHost : readHost true host.chars = some (some host) := by
    rw [readHost, if_pos rfl, settled, Option.map_some]
  unfold readAuthority
  rw [special, chars_authority, List.append_assoc]
  simp only [readUser_chars isUser inside isPath, Option.bind_eq_bind, Option.bind_some]
  rw [List.append_assoc, spanHost_hostText written follows]
  simp only [isHost, Option.bind_some]
  cases port with
  | none =>
      obtain ⟨rest, rfl⟩ := isPath
      rfl
  | some number =>
      obtain ⟨small, unusual⟩ := fits number rfl
      have portRead := readPort_digits isPath small unusual
      simp only [portChars, Option.map_some, Option.getD_some, List.cons_append, portRead,
        Option.bind_some, Option.isNone_some, Bool.false_eq_true, if_false]
      rfl

end CertPress.Url
