import CertPress.Text.CodeSet
import CertPress.Text.CombiningClass

/-!
# Directions and joined letters

The direction in which a character is written, as far as it decides whether a
text of both directions can be read.

In some scripts a letter is joined to its neighbours.  A joiner and a non-joiner
are characters without a shape that change the form of the letters around them;
they stand only where they can have an effect.
-/

namespace CertPress.Text

/-! ## Directions of writing -/

/-- How a character takes part in the direction of a text. -/
inductive Direction where
  /-- Written to the right. -/
  | left
  /-- Written to the left. -/
  | right
  /-- A European digit. -/
  | european
  /-- An Arabic digit. -/
  | arabic
  /-- A mark on the character before it. -/
  | mark
  /-- Written like the characters around it. -/
  | neutral
  deriving DecidableEq, Repr

namespace Direction

/-- Characters that are written from right to left. -/
def rightCodes : CodeSet := .ofText
   "5be 5c0 5c3 5c6 5d0-5f4 608 60b 60d 61b-64a 66d-66f 671-6d5 6e5-6e6 6ee-6ef 6fa-710 712-72f
    74d-7a5 7b1-7ea 7f4-7f5 7fa 7fe-815 81a 824 828 830-858 85e-88f 8a0-8c9 fbb2-fbc2 fe73
    10800-1091b 10920-10a00 10a10-10a35 10a40-10ae4 10aeb-10b35 10b40-10d23 10d4a-10d4f
    10d6f-10d8f 10e80-10ea9 10ead-10ec7 10f00-10f45 10f51-10f81 10f86-10ff6 1e800-1e8cf
    1e922-1e943 1e94b-1ed3d"

/-- Digits in Arabic text. -/
def arabicCodes : CodeSet := .ofText "660-669 66b-66c 10d30-10d49 10e60-10e7e"

/-- Digits in all other text. -/
def europeanCodes : CodeSet := .ofText "30-39 6f0-6f9 102e1-102fb"

/-- Characters without a direction. -/
def neutralCodes : CodeSet := .ofText
   "0-2f 3a-60 7b-d7 f7 2b9-2ba 2c2-2cf 2d2-2ed 2ef-2ff 375 3f6 58a-58f 606-607 609-60a 60c
    60e-60f 66a 6de 6e9 7f6-7f9 9f2-9f3 9fb af1 bf3-bfa c78-c7e e3f f3a-f3d 1390-1399 1400
    169b-169c 17db 17f0-180a 1940-1945 19de-19ff 200c-20c1 2104-214d 218a-2335 237b-2394
    2396-26ab 26ad-27ff 2900-2bff 2ce5-2cea 2cf9-2cff 2e00-3004 3008-3020 3030 3037 303d-303f
    30a0 30fb 31c0-31e5 4dc0-4dff a490-a4c6 a60d-a60f a673 a67e-a67f a700-a721 a788 a828-a82b
    a838-a839 a874-a877 ab6a-ab6b fbc3-fdff fe45-fe46 10101 10140-1018c 10190-101a0 1091f
    10b39-10b3f 10d6e 10ed0-10ed8 11052-11065 11660-1166c 11fd5-11ff1 16fe2 1cc00-1cef0
    1d1e9-1d241 1d245 1d300-1d356 1e2ff 1eef0-1f12f 1f16d-1f16f 1f1ad 1f260-1fbfa"

/-- The nonspacing marks that are written from left to right. -/
def leftMarks : CodeSet := .ofText "cbf cc6 11a07-11a08 11c3f"

/-- The direction of a character. -/
def ofChar (char : Char) : Direction :=
  if char.isAlpha then .left
  else if char.isDigit || europeanCodes.has char then .european
  else if char.toNat < 0x80 || neutralCodes.has char then .neutral
  else if rightCodes.has char then .right
  else if arabicCodes.has char then .arabic
  else if nonspacing.has char && !leftMarks.has char then .mark
  else .left

/-- Whether a character with this direction makes its text one of both
directions. -/
def isMixing : Direction → Bool
  | .right | .arabic => true
  | _ => false

/-- Whether the directions of a text make it readable in one of both directions.
It begins with a letter, whose direction is that of the text.  It ends with a
letter of that direction or a digit, and marks.  A text from left to right has no
Arabic digits; one from right to left has no digits of both kinds. -/
def isReadable (directions : List Direction) : Bool :=
  let ending := (directions.reverse.dropWhile (· == .mark)).head?
  match directions.head? with
  | none => true
  | some .left =>
      (ending == some .left || ending == some .european) && !directions.any isMixing
  | some .right =>
      (ending == some .right || ending == some .european || ending == some .arabic) &&
        !directions.contains .left &&
        !(directions.contains .european && directions.contains .arabic)
  | some _ => false

/-- A text of letters that are written from left to right is readable. -/
theorem isReadable_of_left {directions : List Direction}
    (left : ∀ direction ∈ directions, direction = .left) : isReadable directions = true := by
  cases directions with
  | nil => rfl
  | cons first rest =>
      obtain rfl := left first List.mem_cons_self
      have last : ((Direction.left :: rest).reverse.dropWhile (· == .mark)).head? =
          some .left := by
        cases reversed : (Direction.left :: rest).reverse with
        | nil => simp at reversed
        | cons final others =>
            have member : final ∈ Direction.left :: rest := by
              rw [← List.mem_reverse, reversed]
              exact List.mem_cons_self
            simp [left final member]
      have pure : (Direction.left :: rest).any isMixing = false := by
        rw [List.any_eq_false]
        intro direction member
        simp [left direction member, isMixing]
      simp only [isReadable, List.head?_cons, last, pure]
      rfl

end Direction

/-! ## Joined letters -/

/-- Letters that are joined to both neighbours. -/
def joinedOnBothSides : CodeSet := .ofText
   "620 626 628 62a-62e 633-63f 641-647 649-64a 66e-66f 678-687 69a-6bf 6c1-6c2 6cc 6ce 6d0-6d1
    6fa-6fc 6ff 712-714 71a-71d 71f-727 729 72b 72d-72e 74e-758 75c-76a 76d-770 772 775-777
    77a-77f 7ca-7ea 841-845 848 84a-853 855 860 862-865 868 886 889-88d 88f 8a0-8a9 8af-8b0
    8b3-8b8 8ba-8c8 1807 1820-1878 1887-18a8 18aa a840-a871 10ac0-10ac4 10ad3-10ad6 10ad8-10adc
    10ade-10ae0 10aeb-10aee 10b80 10b82 10b86-10b88 10b8a-10b8b 10b8d 10b90 10bad-10bae
    10d01-10d21 10d23 10ec3-10ec4 10ec6-10ec7 10f30-10f32 10f34-10f44 10f51-10f53 10f70-10f73
    10f76-10f81 10fb0 10fb2-10fb3 10fb8 10fbb-10fbc 10fbe-10fbf 10fc1 10fc4 10fca 1e900-1e943"

/-- Letters that are joined to the letter after them only. -/
def joinedAfter : CodeSet := .ofText "a872 10acd 10ad7 10d00 10fcb"

/-- Letters that are joined to the letter before them only. -/
def joinedBefore : CodeSet := .ofText
   "622-625 627 629 62f-632 648 671-673 675-677 688-699 6c0 6c3-6cb 6cd 6cf 6d2-6d3 6d5 6ee-6ef
    710 715-719 71e 728 72a 72c 72f 74d 759-75b 76b-76c 771 773-774 778-779 840 846-847 849 854
    856-858 867 869-86a 870-882 88e 8aa-8ac 8ae 8b1-8b2 8b9 10ac5 10ac7 10ac9-10aca 10ace-10ad2
    10add 10ae1 10ae4 10aef 10b81 10b83-10b85 10b89 10b8c 10b8e-10b8f 10b91 10ba9-10bac 10d22
    10ec2 10f33 10f54 10f74-10f75 10fb4-10fb6 10fb9-10fba 10fbd 10fc2-10fc3 10fc9"

/-- Whether letters on both sides of a character are joined to each other. -/
def isTransparent (char : Char) : Bool :=
  nonspacing.has char && char.toNat != 0x1E94B || char.toNat == 0xAD

/-- Joins the letters around it. -/
def joiner : Char := '\u200D'

/-- Keeps the letters around it apart. -/
def nonJoiner : Char := '\u200C'

/-- Whether a non-joiner has letters to keep apart.  `before` is in reverse. -/
def separates (before after : List Char) : Bool :=
  ((before.dropWhile isTransparent).head?.any fun char =>
      joinedOnBothSides.has char || joinedAfter.has char) &&
    ((after.dropWhile isTransparent).head?.any fun char =>
      joinedOnBothSides.has char || joinedBefore.has char)

/-- Whether every joiner and non-joiner of a text stands where it may: after a
sign that takes the vowel away, or, for a non-joiner, between letters that would
be joined.  `before` is what stands before the text, in reverse. -/
def joinersFit (before : List Char) : List Char → Bool
  | [] => true
  | char :: rest =>
      (if char = joiner ∨ char = nonJoiner then
        (before.head?.any fun sign => combiningClass sign == vowelKiller) ||
          (char == nonJoiner && separates before rest)
      else true) && joinersFit (char :: before) rest

/-- Joiners fit in a text without any. -/
theorem joinersFit_of_ascii {chars : List Char} (ascii : ∀ char ∈ chars, char.toNat < 0x80)
    (before : List Char) : joinersFit before chars = true := by
  induction chars generalizing before with
  | nil => rfl
  | cons char rest hypothesis =>
      have small := ascii char List.mem_cons_self
      have other : ¬ (char = joiner ∨ char = nonJoiner) := by
        rintro (rfl | rfl) <;> exact absurd small (by decide)
      simp [joinersFit, other, hypothesis fun next member =>
        ascii next (List.mem_cons_of_mem char member)]

end CertPress.Text
