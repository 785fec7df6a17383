import CertPress.Net.Address
import CertPress.Text.Direction
import CertPress.Text.Percent
import CertPress.Url.Plain
import CertPress.Url.Punycode

/-!
# Hosts of addresses

The host of an address is a domain name, an IPv4 address or an IPv6 address in
brackets.  In addresses of special schemes a domain name is percent-decoded and
put into its written form, and a name whose last label is a number has to be an
IPv4 address, in any of its abbreviated forms.  In other addresses the host is
text that is not interpreted.

A domain name is written in ASCII.  A label with other characters is put into
its plain form and then written in Punycode after a mark.  A label that is
already written in Punycode has to stand for a label in plain form.
-/

namespace CertPress.Url

/-! ## Domain names -/

/-- A label of a domain name. -/
structure Label where
  /-- The characters that it stands for, in plain form. -/
  plain : List Char
  /-- The characters that it is written with. -/
  written : List Char

namespace Label

/-- The mark before a label in Punycode. -/
def mark : List Char := ['x', 'n', '-', '-']

/-- The greatest number of characters of a label that is not in ASCII, and the
greatest number of characters after the mark. -/
def plainLimit : Nat := 1000

@[inherit_doc plainLimit]
def codedLimit : Nat := 2000

/-- Whether all characters belong to ASCII. -/
def isAscii (chars : List Char) : Bool := chars.all (·.toNat < Punycode.firstCode)

/-- Whether characters in plain form, not all of them in ASCII, make up a label:
they do not begin with a mark on a letter, and their joiners have an effect. -/
def isLabel (plain : List Char) : Bool :=
  plain.length ≤ plainLimit && !plain.head?.any Text.isMark && Text.joinersFit [] plain

/-- The label that is written in Punycode with the given characters after the
mark.  What ASCII can write is not written in Punycode. -/
def ofCoded? (coded : List Char) : Option Label := do
  if coded.isEmpty || coded.getLast? = some '-' || codedLimit < coded.length then none
  let plain ← Punycode.decode? coded
  if Plain.ofChars? plain = some plain && isLabel plain then
    return { plain, written := mark ++ coded }
  else none

/-- The label with the given characters in plain form. -/
def ofPlain? (plain : List Char) : Option Label :=
  match Text.after? mark plain with
  | some coded => ofCoded? coded
  | none =>
      if isAscii plain then some { plain, written := plain }
      else if isLabel plain then some { plain, written := mark ++ Punycode.encode plain }
      else none

/-- The directions of the characters of a label. -/
def directions (label : Label) : List Text.Direction := label.plain.map .ofChar

end Label

namespace Domain

/-- Whether labels can be read next to each other.  If one of them has
characters from right to left, then each has to be readable by itself. -/
def areReadable (labels : List Label) : Bool :=
  !(labels.any fun label => label.directions.any Text.Direction.isMixing) ||
    labels.all fun label => Text.Direction.isReadable label.directions

/-- The written form of a domain name; none for a name that is none. -/
def ofChars? (name : List Char) : Option (List Char) := do
  let labels ← (Text.split '.' (← Plain.ofChars? name)).mapM Label.ofPlain?
  if areReadable labels then return Text.join '.' (labels.map Label.written) else none

end Domain

/-! ## Hosts -/

/-- The host of an address. -/
inductive Host where
  | domain (name : List Char)
  | ipv4 (address : Net.Ipv4)
  | ipv6 (address : Net.Ipv6)
  deriving DecidableEq, Repr, Inhabited

namespace Host

/-- The written form of the host. -/
def chars : Host → List Char
  | .domain name => name
  | .ipv4 address => address.chars
  | .ipv6 address => '[' :: address.chars ++ [']']

/-- The characters besides controls that no host may hold. -/
def forbidden : List Char :=
  [' ', '#', '/', ':', '<', '>', '?', '@', '[', '\\', ']', '^', '|']

/-- Whether a character may stand in a domain name. -/
def inDomain (char : Char) : Bool :=
  0x20 ≤ char.toNat && char.toNat < 0x7F && char != '%' && !forbidden.contains char

/-- Whether a character may stand in a host that is not interpreted. -/
def inPlain (char : Char) : Bool :=
  char != '\x00' && char != '\t' && char != '\n' && char != '\r' && !forbidden.contains char

/-- The value of a number in an IPv4 address: hexadecimal after `0x`, octal
after `0`, else decimal.  A lone marker is zero. -/
def ipv4Number? (digits : List Char) : Option Nat :=
  match digits with
  | [] => none
  | '0' :: 'x' :: rest => if rest.isEmpty then some 0 else Text.hexadecimal? rest
  | '0' :: 'X' :: rest => if rest.isEmpty then some 0 else Text.hexadecimal? rest
  | ['0'] => some 0
  | '0' :: rest =>
      rest.foldlM (fun number char =>
        (Text.digitValue? char).bind fun digit =>
          if digit < 8 then some (number * 8 + digit) else none) 0
  | _ => Text.decimal? digits

/-- The labels of a domain name without the empty one after a final dot. -/
def labels (name : List Char) : List (List Char) :=
  let pieces := Text.split '.' name
  if 1 < pieces.length ∧ pieces.getLast? = some [] then pieces.dropLast else pieces

/-- Whether the last label of a domain name is a number. -/
def endsInNumber (name : List Char) : Bool :=
  match (labels name).getLast? with
  | some last => (!last.isEmpty && last.all Char.isDigit) || (ipv4Number? last).isSome
  | none => false

/-- The address of at most four numbers, of which the last fills the places
that are left. -/
def ofNumbers? (numbers : List Nat) : Option Net.Ipv4 :=
  match numbers.reverse with
  | [] => none
  | last :: others =>
      if 4 < numbers.length || others.any (255 < ·) then none
      else if last < Nat.pow 256 (4 - others.length) then
        let leading := others.reverse.foldl (fun number octet => number * 256 + octet) 0
        some ⟨BitVec.ofNat 32 (leading * Nat.pow 256 (4 - others.length) + last)⟩
      else none

/-- The IPv4 address of a name that ends in a number. -/
def ipv4? (name : List Char) : Option Net.Ipv4 := do
  ofNumbers? (← (labels name).mapM ipv4Number?)

/-- The IPv6 address in brackets. -/
def bracketed? (rest : List Char) : Option Host :=
  if rest.getLast? = some ']' then (Net.Ipv6.ofChars? rest.dropLast).map .ipv6 else none

/-- The host of an address with a special scheme. -/
def ofSpecial? (chars : List Char) : Option Host :=
  match chars with
  | '[' :: rest => bracketed? rest
  | _ => do
      let name ← Domain.ofChars? (← Text.decode? (Text.Percent.decode chars))
      if name.isEmpty || !name.all inDomain then none
      else if endsInNumber name then return .ipv4 (← ipv4? name)
      else return .domain name

/-- The host of an address with another scheme. -/
def ofPlain? (chars : List Char) : Option Host :=
  match chars with
  | '[' :: rest => bracketed? rest
  | _ => if chars.all inPlain then some (.domain (Text.Percent.encode [] chars)) else none

end Host

end CertPress.Url
