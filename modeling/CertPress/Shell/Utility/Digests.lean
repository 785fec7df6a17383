import CertPress.Base64
import CertPress.Shell.Arithmetic
import CertPress.Shell.Digest
import CertPress.Shell.Invocation
import CertPress.Shell.Utility.Lines

/-!
# Bytes in other forms

Utilities that print digests of files, or their bytes in other notations.
-/

namespace CertPress.Shell

open ShellAction

/-- Print digests of files. -/
def printDigests (tag : String) (digest : Bytes → List Char) : Utility :=
  withOptions "bctwqz" [("binary", 'b'), ("check", 'c'), ("text", 't'), ("tag", 'T')] 1
    fun call options =>
  forEachText call options.operands fun operand text => do
    let value := digest (octets text)
    if options.has 'T' then
      call.say ((tag ++ " (" ++ operand ++ ") = ").toList ++ value ++ ['\n'])
    else
      call.say (value ++ [' ', if options.has 'b' then '*' else ' '] ++ operand.toList ++ ['\n'])

/-- Print checksums and lengths of files. -/
def printChecksums : Utility :=
  withOptions "" [] 1 fun call options =>
    forEachText call options.operands fun operand text => do
      let bytes := octets text
      let name := if options.operands.isEmpty then "" else " " ++ operand
      call.say (decimal (Digest.checksum bytes) ++ " " ++ decimal bytes.length ++ name ++
        "\n").toList

/-- Lines of at most `width` characters. -/
def brokenLines (width : Nat) (text : List Char) : List Char :=
  if width = 0 then text
  else joinLines (if text.isEmpty then [] else pieces (text.length + 1) text)
where
  /-- The lines of a text.  The fuel is its length. -/
  pieces : (fuel : Nat) → List Char → List (List Char)
    | 0, _ => []
    | fuel + 1, text =>
        if text.isEmpty then [] else text.take width :: pieces fuel (text.drop width)

/-- The bytes that the digits of a group stand for.  Bits that fill no byte do not
count. -/
def groupBytes (values : List Nat) : Bytes :=
  let number := (values ++ List.replicate (4 - values.length) 0).foldl
    (fun number value => number * 64 + value) 0
  ([number / 65536, number / 256, number].map fun part => UInt8.ofNat (part % 256)).take
    (values.length - 1)

/-- The bytes that groups of four digits stand for, and whether nothing is wrong
with them.  A group may be filled up by padding. -/
def decodedGroups : (fuel : Nat) → List Char → Bytes × Bool
  | 0, _ => ([], false)
  | fuel + 1, digits =>
      if digits.isEmpty then ([], true)
      else
        let group := digits.take 4
        let values := (group.takeWhile fun char => (Base64.value? char).isSome).filterMap
          Base64.value?
        let padding := group.drop values.length
        let isWhole := group.length = 4 && 2 ≤ values.length && padding.all (· == '=')
        if isWhole then
          let (rest, whole) := decodedGroups fuel (digits.drop 4)
          (groupBytes values ++ rest, whole)
        else (groupBytes values, false)

/-- Print files in a notation of 64 digits, or turn that notation back. -/
def convertDigits : Utility :=
  withOptions "diw:" [("decode", 'd'), ("ignore-garbage", 'i'), ("wrap", 'w')] 1 fun call options => do
  let operand := options.operands.headD "-"
  match ← textOf operand with
  | .error reason =>
      call.complain (shownName operand ++ ": " ++ reason)
      return 1
  | .ok text =>
      if options.has 'd' then
        let digits := text.filter fun char => char != '\n' &&
          (!options.has 'i' || char == '=' || (Base64.value? char).isSome)
        let (bytes, whole) := decodedGroups (digits.length + 1) digits
        call.say (charsOf bytes)
        if whole then return 0
        call.complain "invalid input"
        return 1
      else
        let width := ((options.value? 'w').bind (Text.decimal? ·.toList)).getD 76
        call.say (brokenLines width (Base64.encode (octets text)))
        return 0

/-! ### Dumps -/

/-- How bytes are shown in a dump. -/
structure DumpFormat where
  letter : Char
  /-- The number of bytes that are shown as one. -/
  size : Nat
  /-- Whether the line ends with the printable characters. -/
  withText : Bool
  deriving DecidableEq, Repr, Inhabited

namespace DumpFormat

/-- The formats that a text such as `x1z` stands for.  The fuel is its length. -/
def ofChars : (fuel : Nat) → List Char → Option (List DumpFormat)
  | 0, _ => some []
  | fuel + 1, chars =>
      match chars with
      | [] => some []
      | letter :: rest =>
          if !("acdoux".toList.contains letter) then none
          else
            let digits := rest.takeWhile Char.isDigit
            let (size, afterSize) := match rest.drop digits.length with
              | 'C' :: after => (1, after)
              | 'S' :: after => (2, after)
              | 'I' :: after => (4, after)
              | 'L' :: after => (8, after)
              | after => ((Text.decimal? digits).getD
                  (if letter == 'a' || letter == 'c' then 1 else 4), after)
            let (withText, after) := match afterSize with
              | 'z' :: after => (true, after)
              | after => (false, after)
            (ofChars fuel after).map (⟨letter, size, withText⟩ :: ·)

/-- The width of one value. -/
def width (format : DumpFormat) : Nat :=
  let bits := 8 * format.size
  match format.letter with
  | 'c' | 'a' => 3
  | 'x' => 2 * format.size
  | 'o' => (bits + 2) / 3
  | 'u' => (Nat.toDigits 10 (Nat.pow 2 bits - 1)).length
  | _ => (Nat.toDigits 10 (Nat.pow 2 (bits - 1))).length + 1

/-- A byte as a character or an escape. -/
def charText (code : Nat) : List Char :=
  match code with
  | 0 => ['\\', '0']
  | 7 => ['\\', 'a']
  | 8 => ['\\', 'b']
  | 9 => ['\\', 't']
  | 10 => ['\\', 'n']
  | 11 => ['\\', 'v']
  | 12 => ['\\', 'f']
  | 13 => ['\\', 'r']
  | code =>
      if code < 0x20 || 0x7F ≤ code then
        [code / 64, code / 8 % 8, code % 8].map fun digit => Char.ofNat (48 + digit)
      else [Char.ofNat code]

/-- The names of control characters. -/
def controlNames : List String :=
  ["nul", "soh", "stx", "etx", "eot", "enq", "ack", "bel", "bs", "ht", "nl", "vt", "ff", "cr",
   "so", "si", "dle", "dc1", "dc2", "dc3", "dc4", "nak", "syn", "etb", "can", "em", "sub", "esc",
   "fs", "gs", "rs", "us", "sp"]

/-- The text of a value, which is made of bytes with the lowest one first. -/
def valueText (format : DumpFormat) (bytes : Bytes) : List Char :=
  let value := bytes.foldr (fun byte number => number * 256 + byte.toNat) 0
  let zeros (width : Nat) (digits : List Char) : List Char :=
    List.replicate (width - digits.length) '0' ++ digits
  match format.letter with
  | 'c' => charText value
  | 'a' =>
      let code := value % 128
      if code = 127 then "del".toList
      else ((controlNames[code]?).map String.toList).getD [Char.ofNat code]
  | 'x' => zeros (2 * format.size) (Nat.toDigits 16 value)
  | 'o' => zeros ((8 * format.size + 2) / 3) (Nat.toDigits 8 value)
  | 'u' => Nat.toDigits 10 value
  | _ =>
      let limit := Nat.pow 2 (8 * format.size - 1)
      (signedDecimal (if limit ≤ value then Int.ofNat value - 2 * Int.ofNat limit
        else Int.ofNat value)).toList

/-- The values of a line of bytes.  The fuel is their number. -/
def values (format : DumpFormat) : (fuel : Nat) → Bytes → List (List Char)
  | 0, _ => []
  | fuel + 1, bytes =>
      if bytes.isEmpty then []
      else format.valueText (bytes.take format.size) ::
        format.values fuel (bytes.drop format.size)

/-- The text of a line of bytes. -/
def lineText (format : DumpFormat) (perLine : Nat) (bytes : Bytes) : List Char :=
  let shown := (format.values (bytes.length + 1) bytes).flatMap fun value =>
    ' ' :: List.replicate (format.width - value.length) ' ' ++ value
  if !format.withText then shown
  else
    let whole := (perLine / format.size) * (format.width + 1)
    shown ++ List.replicate (whole - shown.length) ' ' ++ "  >".toList ++
      (bytes.map fun byte => if byte.toNat < 0x20 || 0x7F ≤ byte.toNat then '.'
        else Char.ofNat byte.toNat) ++ ['<']

end DumpFormat

/-- The lines of a dump.  Lines that repeat the one before are left out.  The fuel is
the number of bytes. -/
def dumpLines (address : Nat → List Char) (formats : List DumpFormat) (perLine : Nat)
    (showsAll : Bool) : (fuel offset : Nat) → (previous : Option (Bytes × Bool)) → Bytes → List Char
  | 0, _, _, _ => []
  | fuel + 1, offset, previous, bytes =>
      if bytes.isEmpty then []
      else
        let line := bytes.take perLine
        let rest := bytes.drop perLine
        let next := offset + line.length
        let repeats := !showsAll && line.length = perLine &&
          previous.any fun (before, _) => before == line
        let starred := previous.any (·.2)
        if repeats then
          (if starred then [] else ['*', '\n']) ++
            dumpLines address formats perLine showsAll fuel next (some (line, true)) rest
        else
          let blanks := List.replicate (address offset).length ' '
          (formats.zipIdx.flatMap fun (format, index) =>
            (if index = 0 then address offset else blanks) ++ format.lineText perLine line ++
              ['\n']) ++
            dumpLines address formats perLine showsAll fuel next (some (line, false)) rest

/-- Print the bytes of files. -/
def dumpBytes : Utility :=
  withOptions "A:t:N:j:w:vabcdox"
    [("address-radix", 'A'), ("format", 't'), ("read-bytes", 'N'), ("skip-bytes", 'j'),
     ("width", 'w'), ("output-duplicates", 'v')] 1 fun call options => do
  let number (letter : Char) : Option Nat :=
    (options.value? letter).bind fun text => (Arithmetic.integer? text.toList).map Int.toNat
  let formats? := options.given.mapM fun (letter, value) =>
    match letter with
    | 't' => DumpFormat.ofChars value.length value.toList
    | 'a' => some [⟨'a', 1, false⟩]
    | 'b' => some [⟨'o', 1, false⟩]
    | 'c' => some [⟨'c', 1, false⟩]
    | 'd' => some [⟨'u', 2, false⟩]
    | 'o' => some [⟨'o', 2, false⟩]
    | 'x' => some [⟨'x', 2, false⟩]
    | _ => some []
  match formats? with
  | none =>
      call.complain ("invalid type string " ++ quotedName ((options.value? 't').getD ""))
      return 1
  | some lists =>
      let formats := if lists.flatten.isEmpty then [⟨'o', 2, false⟩] else lists.flatten
      let padded (base offset : Nat) : List Char :=
        let digits := Nat.toDigits base offset
        List.replicate (7 - digits.length) '0' ++ digits
      let (address, isShown) : (Nat → List Char) × Bool := match options.value? 'A' with
        | some "d" => (padded 10, true)
        | some "x" => (fun offset =>
            List.replicate (6 - (Nat.toDigits 16 offset).length) '0' ++ Nat.toDigits 16 offset, true)
        | some "n" => (fun _ => [], false)
        | _ => (padded 8, true)
      let operands := if options.operands.isEmpty then ["-"] else options.operands
      let texts ← operands.mapM fun operand => do
        match ← contentOf operand with
        | .ok bytes => return some bytes
        | .error reason =>
            call.complain (shownName operand ++ ": " ++ reason)
            return none
      let start := (number 'j').getD 0
      let all := ((texts.filterMap id).flatten).drop start
      let bytes := match number 'N' with
        | some count => all.take count
        | none => all
      let perLine := max 1 ((number 'w').getD 16)
      call.say (dumpLines address formats perLine (options.has 'v') (bytes.length + 1) start none bytes)
      if isShown then call.say (address (start + bytes.length) ++ ['\n'])
      return if texts.all Option.isSome then 0 else 1

end CertPress.Shell
