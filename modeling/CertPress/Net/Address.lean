import CertPress.Text.Ascii
import CertPress.Text.Pieces

/-!
# Internet addresses

The addresses of the fourth and the sixth version with their written forms.  An
IPv6 address shortens its longest run of at least two zero groups, the first of
equally long ones.

A socket address is an internet address with a port.  IPv6 addresses stand in
brackets there and may name a zone.
-/

namespace CertPress.Net

/-! ## Addresses of hosts -/

/-- An IPv4 address. -/
structure Ipv4 where
  bits : BitVec 32
  deriving DecidableEq, Repr, Inhabited

namespace Ipv4

/-- The four numbers of the address. -/
def octets (address : Ipv4) : List Nat :=
  let number := address.bits.toNat
  [number / Nat.pow 2 24, number / Nat.pow 2 16 % 256, number / Nat.pow 2 8 % 256, number % 256]

/-- The address in dotted decimal form. -/
def chars (address : Ipv4) : List Char :=
  Text.join '.' (address.octets.map (Nat.toDigits 10))

/-- The value of one of the four numbers: at most three digits without leading
zeros, and below 256. -/
def octet? (digits : List Char) : Option Nat :=
  if digits.length ≤ 3 ∧ (digits.head? ≠ some '0' ∨ digits.length = 1) then
    (Text.decimal? digits).filter (· < 256)
  else none

/-- The address with four numbers. -/
def ofOctets (a b c d : Nat) : Ipv4 :=
  ⟨BitVec.ofNat 32 (((a * 256 + b) * 256 + c) * 256 + d)⟩

/-- The address of a dotted decimal form. -/
def ofChars? (chars : List Char) : Option Ipv4 := do
  match ← (Text.split '.' chars).mapM octet? with
  | [a, b, c, d] => return ofOctets a b c d
  | _ => none

end Ipv4

/-- An IPv6 address. -/
structure Ipv6 where
  bits : BitVec 128
  deriving DecidableEq, Repr, Inhabited

namespace Ipv6

/-- The eight groups of sixteen bits. -/
def groups (address : Ipv6) : List Nat :=
  (List.range 8).map fun index => address.bits.toNat / Nat.pow 2 (16 * (7 - index)) % Nat.pow 2 16

/-- The address with groups. -/
def ofGroups (groups : List Nat) : Ipv6 :=
  ⟨BitVec.ofNat 128 (groups.foldl (fun number group => number * Nat.pow 2 16 + group) 0)⟩

/-- The number of zero groups from an index on. -/
def zerosFrom (groups : List Nat) (index : Nat) : Nat :=
  ((groups.drop index).takeWhile (· == 0)).length

/-- The start and length of the longest run of zero groups, the first of
equally long ones. -/
def longestZeros (groups : List Nat) : Nat × Nat :=
  (List.range groups.length).foldl
    (fun (start, length) index =>
      if length < zerosFrom groups index then (index, zerosFrom groups index)
      else (start, length))
    (0, 0)

/-- Groups in hexadecimal with colons between them. -/
def joinGroups (groups : List Nat) : List Char :=
  Text.join ':' (groups.map (Nat.toDigits 16))

/-- The address in hexadecimal groups, of which the longest run of zeros is
shortened. -/
def chars (address : Ipv6) : List Char :=
  let groups := address.groups
  let (start, length) := longestZeros groups
  if length < 2 then joinGroups groups
  else joinGroups (groups.take start) ++ [':', ':'] ++ joinGroups (groups.drop (start + length))

/-- The IPv4 address that an address of the range `::ffff:0:0/96` stands
for. -/
def mapped? (address : Ipv6) : Option Ipv4 :=
  if address.bits.toNat / Nat.pow 2 32 = 0xFFFF then
    some ⟨BitVec.ofNat 32 address.bits.toNat⟩
  else none

/-- The address as `chars` writes it, with the dotted form of a mapped IPv4
address. -/
def charsMapped (address : Ipv6) : List Char :=
  match address.mapped? with
  | some inner => [':', ':', 'f', 'f', 'f', 'f', ':'] ++ inner.chars
  | none => address.chars

/-- The value of a group of one to four hexadecimal digits. -/
def group? (digits : List Char) : Option Nat :=
  if digits.length ≤ 4 then Text.hexadecimal? digits else none

/-- The groups of a part of an address.  The last piece may be an IPv4 address,
which fills two groups. -/
def readPieces : List (List Char) → Option (List Nat)
  | [] => some []
  | [last] =>
      match group? last with
      | some group => some [group]
      | none => (Ipv4.ofChars? last).map fun inner =>
          [inner.bits.toNat / Nat.pow 2 16, inner.bits.toNat % Nat.pow 2 16]
  | piece :: rest => do
      return (← group? piece) :: (← readPieces rest)

/-- The groups of a part of an address, which may be empty. -/
def readPart (chars : List Char) : Option (List Nat) :=
  if chars.isEmpty then some [] else readPieces (Text.split ':' chars)

/-- The address of a written form.  Two colons stand for one or more zero
groups, and a dotted form ends the address. -/
def ofChars? (chars : List Char) : Option Ipv6 := do
  match Text.cut? [':', ':'] chars with
  | some (before, after) =>
      let head ← readPart before
      let tail ← readPart after
      if before.contains '.' || 7 < head.length + tail.length then none
      return ofGroups (head ++ List.replicate (8 - head.length - tail.length) 0 ++ tail)
  | none =>
      let groups ← readPart chars
      if groups.length = 8 then return ofGroups groups else none

end Ipv6

/-! ## Socket addresses -/

/-- An address to listen at. -/
inductive SocketAddress where
  | v4 (address : Ipv4) (port : Nat)
  | v6 (address : Ipv6) (zone port : Nat)
  deriving DecidableEq, Repr, Inhabited

namespace SocketAddress

/-- The port of every address at which a service can listen. -/
def anywhere (port : Nat) : SocketAddress := .v4 (Ipv4.ofOctets 0 0 0 0) port

/-- The written form of the address.  The zone zero is left out. -/
def chars : SocketAddress → List Char
  | .v4 address port => address.chars ++ ':' :: Nat.toDigits 10 port
  | .v6 address zone port =>
      '[' :: address.charsMapped ++ (if zone = 0 then [] else '%' :: Nat.toDigits 10 zone) ++
        ']' :: ':' :: Nat.toDigits 10 port

/-- The written form as a string. -/
def text (address : SocketAddress) : String := String.ofList address.chars

/-- A number of decimal digits below a bound. -/
def number? (bound : Nat) (digits : List Char) : Option Nat :=
  (Text.decimal? digits).filter (· < bound)

/-- The address and zone between brackets. -/
def zoned? (chars : List Char) : Option (Ipv6 × Nat) := do
  match Text.cut? ['%'] chars with
  | some (before, zone) => return (← Ipv6.ofChars? before, ← number? (Nat.pow 2 32) zone)
  | none => return (← Ipv6.ofChars? chars, 0)

/-- The address of a written form. -/
def ofChars? (chars : List Char) : Option SocketAddress := do
  match chars with
  | '[' :: rest =>
      let (inside, port) ← Text.cut? [']', ':'] rest
      let (address, zone) ← zoned? inside
      return .v6 address zone (← number? (Nat.pow 2 16) port)
  | _ =>
      let (before, port) ← Text.cut? [':'] chars
      return .v4 (← Ipv4.ofChars? before) (← number? (Nat.pow 2 16) port)

/-- The address of a written form. -/
def ofText? (text : String) : Option SocketAddress := ofChars? text.toList

end SocketAddress

end CertPress.Net
