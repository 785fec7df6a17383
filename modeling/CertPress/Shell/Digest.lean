import CertPress.Sha256

/-!
# Short digests

Digests by which files are compared: two that mix a padded message into words
of state, and a checksum that divides the message as a polynomial.
-/

namespace CertPress.Shell.Digest

/-- Rotation to the left. -/
def rotate (word count : UInt32) : UInt32 := (word <<< count) ||| (word >>> (32 - count))

/-- The first `size` words of a list at a time, for as long as there are words. -/
def blocks (size : Nat) : (fuel : Nat) → List UInt32 → List (List UInt32)
  | 0, _ => []
  | fuel + 1, words =>
      if words.isEmpty then [] else words.take size :: blocks size fuel (words.drop size)

/-- A word with its bytes in the other order. -/
def swapped (word : UInt32) : UInt32 :=
  (word <<< 24) ||| ((word &&& (0xff00 : UInt32)) <<< 8) |||
    ((word >>> 8) &&& (0xff00 : UInt32)) ||| (word >>> 24)

/-- A number as little-endian bytes. -/
def littleEndian (width value : Nat) : Bytes := (Sha256.bigEndian width value).reverse

/-- The message with a one bit and zeros up to the place of its length. -/
def padded (message : Bytes) : Bytes :=
  let zeros := (119 - message.length % 64) % 64
  message ++ 0x80 :: List.replicate zeros 0

/-! ### Digests of 128 bits -/

/-- The constants of the rounds: the leading bits of the sines of whole numbers. -/
def sines : List UInt32 :=
  [0xd76aa478, 0xe8c7b756, 0x242070db, 0xc1bdceee, 0xf57c0faf, 0x4787c62a, 0xa8304613, 0xfd469501,
   0x698098d8, 0x8b44f7af, 0xffff5bb1, 0x895cd7be, 0x6b901122, 0xfd987193, 0xa679438e, 0x49b40821,
   0xf61e2562, 0xc040b340, 0x265e5a51, 0xe9b6c7aa, 0xd62f105d, 0x02441453, 0xd8a1e681, 0xe7d3fbc8,
   0x21e1cde6, 0xc33707d6, 0xf4d50d87, 0x455a14ed, 0xa9e3e905, 0xfcefa3f8, 0x676f02d9, 0x8d2a4c8a,
   0xfffa3942, 0x8771f681, 0x6d9d6122, 0xfde5380c, 0xa4beea44, 0x4bdecfa9, 0xf6bb4b60, 0xbebfbc70,
   0x289b7ec6, 0xeaa127fa, 0xd4ef3085, 0x04881d05, 0xd9d4d039, 0xe6db99e5, 0x1fa27cf8, 0xc4ac5665,
   0xf4292244, 0x432aff97, 0xab9423a7, 0xfc93a039, 0x655b59c3, 0x8f0ccc92, 0xffeff47d, 0x85845dd1,
   0x6fa87e4f, 0xfe2ce6e0, 0xa3014314, 0x4e0811a1, 0xf7537e82, 0xbd3af235, 0x2ad7d2bb, 0xeb86d391]

/-- How far the rounds rotate. -/
def rotations : List UInt32 :=
  [[7, 12, 17, 22], [5, 9, 14, 20], [4, 11, 16, 23], [6, 10, 15, 21]].flatMap fun part =>
    part ++ part ++ part ++ part

/-- One round of a digest of 128 bits. -/
def md5Round (block : Array UInt32) (state : UInt32 × UInt32 × UInt32 × UInt32)
    (input : Nat × UInt32 × UInt32) : UInt32 × UInt32 × UInt32 × UInt32 :=
  let (a, b, c, d) := state
  let (index, constant, count) := input
  let (mixed, place) : UInt32 × Nat := match index / 16 with
    | 0 => ((b &&& c) ||| (~~~ b &&& d), index)
    | 1 => ((d &&& b) ||| (~~~ d &&& c), (5 * index + 1) % 16)
    | 2 => (b ^^^ c ^^^ d, (3 * index + 5) % 16)
    | _ => (c ^^^ (b ||| ~~~ d), 7 * index % 16)
  (d, b + rotate (mixed + a + constant + block.getD place 0) count, b, c)

/-- The digest of 128 bits of a message. -/
def md5 (message : Bytes) : List Char :=
  let words := (Sha256.wordsOf (padded message ++ littleEndian 8 (8 * message.length))).map swapped
  let rounds := (List.range 64).zip (sines.zip rotations)
  let (a, b, c, d) := (blocks 16 (words.length + 1) words).foldl (fun (a, b, c, d) block =>
    let (e, f, g, h) := rounds.foldl (md5Round block.toArray) (a, b, c, d)
    (a + e, b + f, c + g, d + h)) (0x67452301, 0xefcdab89, 0x98badcfe, 0x10325476)
  [a, b, c, d].flatMap fun word => Text.hexPadded 8 (swapped word).toNat

/-! ### Digests of 160 bits -/

/-- Extend a schedule, given with the latest word first, by `count` words. -/
def extended (latest : List UInt32) : (count : Nat) → List UInt32
  | 0 => latest
  | count + 1 =>
      let ago (distance : Nat) : UInt32 := latest.getD (distance - 1) 0
      extended (rotate (ago 3 ^^^ ago 8 ^^^ ago 14 ^^^ ago 16) 1 :: latest) count

/-- The digest of 160 bits of a message. -/
def sha1 (message : Bytes) : List Char :=
  let words := Sha256.wordsOf (Sha256.pad message)
  let (a, b, c, d, e) := (blocks 16 (words.length + 1) words).foldl (fun (a, b, c, d, e) block =>
    let schedule := (extended block.reverse 64).reverse
    let (p, q, r, s, t) := schedule.zipIdx.foldl (fun (a, b, c, d, e) (word, index) =>
      let (mixed, constant) : UInt32 × UInt32 := match index / 20 with
        | 0 => ((b &&& c) ||| (~~~ b &&& d), 0x5a827999)
        | 1 => (b ^^^ c ^^^ d, 0x6ed9eba1)
        | 2 => ((b &&& c) ||| (b &&& d) ||| (c &&& d), 0x8f1bbcdc)
        | _ => (b ^^^ c ^^^ d, 0xca62c1d6)
      (rotate a 5 + mixed + e + constant + word, a, rotate b 30, c, d)) (a, b, c, d, e)
    (a + p, b + q, c + r, d + s, e + t))
    (0x67452301, 0xefcdab89, 0x98badcfe, 0x10325476, 0xc3d2e1f0)
  [a, b, c, d, e].flatMap fun word => Text.hexPadded 8 word.toNat

/-! ### Checksums -/

/-- A remainder of 32 bits after eight more bits. -/
def remainderStep (remainder : UInt32) (byte : UInt8) : UInt32 :=
  (List.range 8).foldl (fun value _ =>
    if value >>> 31 == 1 then (value <<< 1) ^^^ 0x04c11db7 else value <<< 1)
    (remainder ^^^ (byte.toUInt32 <<< 24))

/-- The bytes of a number, the lowest first, without zeros at the end.  The fuel is
the number. -/
def lengthBytes : (fuel : Nat) → Nat → Bytes
  | 0, _ => []
  | fuel + 1, number =>
      if number = 0 then [] else UInt8.ofNat (number % 256) :: lengthBytes fuel (number / 256)

/-- The checksum of a message and its length. -/
def checksum (message : Bytes) : Nat :=
  (~~~ ((message ++ lengthBytes message.length message.length).foldl remainderStep 0)).toNat

end CertPress.Shell.Digest
