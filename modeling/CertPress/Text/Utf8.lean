/-!
# UTF-8

Text as bytes.  `encode` writes characters, `decodeNext` reads one character or
one ill-formed sequence, and from it come the strict reader `decode?` and the
reader `decodeLossy`, which puts the replacement character for every maximal
ill-formed sequence.
-/

namespace CertPress

/-- The content of a file or of a message. -/
abbrev Bytes := List UInt8

namespace Text

/-- The UTF-8 form of a text. -/
def encode (chars : List Char) : Bytes :=
  chars.flatMap String.utf8EncodeChar

/-- The bytes that may follow the first byte of a longer sequence, with the
number of continuation bytes that come after them. -/
def secondRange? (first : Nat) : Option (Nat × Nat × Nat) :=
  if 0xC2 ≤ first ∧ first ≤ 0xDF then some (0x80, 0xBF, 0)
  else if first = 0xE0 then some (0xA0, 0xBF, 1)
  else if first = 0xED then some (0x80, 0x9F, 1)
  else if 0xE1 ≤ first ∧ first ≤ 0xEF then some (0x80, 0xBF, 1)
  else if first = 0xF0 then some (0x90, 0xBF, 2)
  else if 0xF1 ≤ first ∧ first ≤ 0xF3 then some (0x80, 0xBF, 2)
  else if first = 0xF4 then some (0x80, 0x8F, 2)
  else none

/-- The bits that the first byte of a longer sequence adds to the code. -/
def firstBits (first : Nat) : Nat :=
  if first < 0xE0 then first - 0xC0
  else if first < 0xF0 then first - 0xE0
  else first - 0xF0

/-- Read `count` continuation bytes into `code`; none where one is missing. -/
def readContinuation (code : Nat) : (count : Nat) → Bytes → Option Char × Bytes
  | 0, bytes => (some (Char.ofNat code), bytes)
  | _ + 1, [] => (none, [])
  | count + 1, byte :: rest =>
      if 0x80 ≤ byte.toNat ∧ byte.toNat ≤ 0xBF then
        readContinuation (code * 64 + (byte.toNat - 0x80)) count rest
      else (none, byte :: rest)

/-- Read the character that starts with the byte `first`, or skip the longest
run that could have started one. -/
def decodeNext (first : UInt8) (rest : Bytes) : Option Char × Bytes :=
  if first.toNat < 0x80 then (some (Char.ofNat first.toNat), rest)
  else match secondRange? first.toNat, rest with
    | some (low, high, count), second :: tail =>
        if low ≤ second.toNat ∧ second.toNat ≤ high then
          readContinuation (firstBits first.toNat * 64 + (second.toNat - 0x80))
            count tail
        else (none, rest)
    | _, _ => (none, rest)

theorem length_readContinuation (code count : Nat) (bytes : Bytes) :
    (readContinuation code count bytes).2.length ≤ bytes.length := by
  induction count generalizing code bytes with
  | zero => simp [readContinuation]
  | succ count hypothesis =>
      cases bytes with
      | nil => simp [readContinuation]
      | cons byte rest =>
          simp only [readContinuation]
          split
          · exact Nat.le_succ_of_le (hypothesis _ _)
          · exact Nat.le_refl _

theorem length_decodeNext (first : UInt8) (rest : Bytes) :
    (decodeNext first rest).2.length ≤ rest.length := by
  unfold decodeNext
  split
  · exact Nat.le_refl _
  · split
    · split
      · exact Nat.le_succ_of_le (length_readContinuation _ _ _)
      · exact Nat.le_refl _
    · exact Nat.le_refl _

/-- The characters of a byte sequence, with none for each ill-formed part. -/
def decodeEach (bytes : Bytes) : List (Option Char) :=
  match bytes with
  | [] => []
  | first :: rest =>
      (decodeNext first rest).1 :: decodeEach (decodeNext first rest).2
  termination_by bytes.length
  decreasing_by
    exact Nat.lt_succ_of_le (length_decodeNext first rest)

/-- The text of a byte sequence, if it is well-formed. -/
def decode? (bytes : Bytes) : Option (List Char) :=
  (decodeEach bytes).mapM id

/-- The text of a byte sequence, with the replacement character for each
ill-formed part. -/
def decodeLossy (bytes : Bytes) : List Char :=
  (decodeEach bytes).map (·.getD '\uFFFD')

end Text

/-- The UTF-8 form of a string. -/
def bytesOf (text : String) : Bytes :=
  Text.encode text.toList

/-- The string that a byte sequence is the UTF-8 form of. -/
def stringOf? (bytes : Bytes) : Option String :=
  (Text.decode? bytes).map String.ofList

end CertPress
