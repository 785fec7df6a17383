import CertPress.Json.Decoder
import Mathlib.Tactic.SplitIfs

/-!
# Texts that were written

The body of a string that was written ends at its closing quote, and stands for the
text that was written.
-/

namespace CertPress.Json

/-- The written form of a text inside quotes. -/
def escaped (chars : List Char) : List Char := chars.flatMap escapeChar

theorem escaped_cons (char : Char) (rest : List Char) :
    escaped (char :: rest) = escapeChar char ++ escaped rest := rfl

theorem quote_eq (text : String) : quote text = '"' :: escaped text.toList ++ ['"'] := rfl

theorem Source.ofChars_append (left right : List Char) :
    Source.ofChars (left ++ right) = Source.ofChars left ++ Source.ofChars right :=
  List.map_append

theorem Source.ofChars_cons (char : Char) (rest : List Char) :
    Source.ofChars (char :: rest) = some char :: Source.ofChars rest := rfl

/-- The forms that a character is written in. -/
inductive Escape (char : Char) : List Char → Prop where
  /-- As it is. -/
  | plain : char ≠ '"' → char ≠ '\\' → 0x20 ≤ char.toNat → Escape char [char]
  /-- By a letter or sign after a backslash. -/
  | short {letter : Char} : letter ∈ Raw.shortEscapes → letter ≠ 'u' →
      shortEscape letter = char → Escape char ['\\', letter]
  /-- By its code. -/
  | code {a b c d : Char} : [a, b, c, d].all Text.isHexDigit → codeUnit a b c d = char.toNat →
      char.toNat < 0x20 → Escape char ['\\', 'u', a, b, c, d]

/-- The code of a control character is read back from its digits. -/
theorem codeUnit_hexPadded {code : Nat} (control : code < 0x20) :
    ∃ a b c d, Text.hexPadded 4 code = [a, b, c, d] ∧ [a, b, c, d].all Text.isHexDigit ∧
      codeUnit a b c d = code := by
  refine ⟨_, _, _, _, rfl, ?_⟩
  revert code
  decide

theorem escape_escapeChar (char : Char) : Escape char (escapeChar char) := by
  unfold escapeChar
  split_ifs with isQuote isMark isBack isPage isLine isReturn isTab control
  · exact .short (by decide) (by decide) isQuote.symm
  · exact .short (by decide) (by decide) isMark.symm
  · exact .short (by decide) (by decide) isBack.symm
  · exact .short (by decide) (by decide) isPage.symm
  · exact .short (by decide) (by decide) isLine.symm
  · exact .short (by decide) (by decide) isReturn.symm
  · exact .short (by decide) (by decide) isTab.symm
  · obtain ⟨a, b, c, d, digits, isHex, code⟩ := codeUnit_hexPadded control
    rw [digits]
    exact .code isHex code control
  · exact .plain isQuote isMark (Nat.le_of_not_lt control)

/-- A written character belongs to the body of the string. -/
theorem readString_escape {char : Char} {form : List Char} (isForm : Escape char form)
    (rest : Source) :
    Raw.readString (.ofChars form ++ rest) =
      (Raw.readString rest).map fun (body, after) => (.ofChars form ++ body, after) := by
  cases isForm with
  | plain notQuote notMark printable =>
      have shown : ¬ ((some char).any fun char => char = '\\' || char.toNat < 0x20) := by
        simp [notMark, Nat.not_lt.mpr printable]
      show Raw.readString (some char :: rest) = _
      rw [Raw.readString.eq_5 _ _ (by simp [notQuote]) (by simp [notMark]) (by simp [notMark]),
        if_neg shown]
      rfl
  | @short letter isShort notCode same =>
      show Raw.readString (some '\\' :: some letter :: rest) = _
      rw [Raw.readString.eq_4 _ _ (by simp [notCode]), if_pos (by simpa using isShort)]
      rfl
  | @code a b c d isHex code control =>
      have allHex : [some a, some b, some c, some d].all (·.any Text.isHexDigit) := by
        simpa using isHex
      show Raw.readString (some '\\' :: some 'u' :: some a :: some b :: some c :: some d :: rest) = _
      rw [Raw.readString, if_pos allHex]
      rfl

/-- The body of a string ends at its closing quote. -/
theorem readString_escaped (chars : List Char) (rest : Source) :
    Raw.readString (.ofChars (escaped chars) ++ some '"' :: rest) =
      some (.ofChars (escaped chars), rest) := by
  induction chars with
  | nil => rfl
  | cons char others hypothesis =>
      rw [escaped_cons, Source.ofChars_append, List.append_assoc,
        readString_escape (escape_escapeChar char), hypothesis]
      rfl

/-- A written character stands for itself. -/
theorem unescape_escape {char : Char} {form : List Char} (isForm : Escape char form)
    (rest : List Char) : unescape (form ++ rest) = (unescape rest).map (char :: ·) := by
  cases isForm with
  | plain notQuote notMark printable =>
      show unescape (char :: rest) = _
      rw [unescape.eq_5 _ _ (by simp [notMark]) (by simp [notMark]) (by simp [notMark])]
  | @short letter isShort notCode same =>
      show unescape ('\\' :: letter :: rest) = _
      rw [unescape.eq_4 _ _ (by simp [notCode]) (by simp [notCode]), same]
  | @code a b c d isHex code control =>
      show unescape ('\\' :: 'u' :: a :: b :: c :: d :: rest) = _
      have notHalf : ¬ (0xD800 ≤ codeUnit a b c d ∧ codeUnit a b c d ≤ 0xDFFF) := by omega
      have notHigh : ¬ (0xD800 ≤ codeUnit a b c d ∧ codeUnit a b c d ≤ 0xDBFF) := by omega
      have notLow : ¬ (0xDC00 ≤ codeUnit a b c d ∧ codeUnit a b c d ≤ 0xDFFF) := by omega
      have same : Char.ofNat (codeUnit a b c d) = char := by rw [code, Char.ofNat_toNat]
      -- a second code may follow, which is read by itself as the first one is no half
      by_cases second : ∃ e f g h more, rest = '\\' :: 'u' :: e :: f :: g :: h :: more
      · obtain ⟨e, f, g, h, more, rfl⟩ := second
        rw [unescape, if_neg notHigh, if_neg notLow, same]
      · rw [unescape.eq_3 _ _ _ _ _ fun e f g h more is => second ⟨e, f, g, h, more, is⟩,
          if_neg notHalf, same]

theorem unescape_escaped (chars : List Char) : unescape (escaped chars) = some chars := by
  induction chars with
  | nil => rfl
  | cons char rest hypothesis =>
      rw [escaped_cons, unescape_escape (escape_escapeChar char), hypothesis]
      rfl

/-- A written text is read back. -/
theorem textOf_escaped (text : String) :
    textOf (.ofChars (escaped text.toList)) = .ok text := by
  have whole (chars : List Char) : (Source.ofChars chars).mapM id = some chars := by
    induction chars with
    | nil => rfl
    | cons char rest hypothesis =>
        rw [Source.ofChars_cons, List.mapM_cons, hypothesis]
        rfl
  rw [textOf, charsOf?, whole, Option.bind_some, unescape_escaped]
  exact congrArg Except.ok String.ofList_toList

end CertPress.Json
