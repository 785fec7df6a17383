import CertPress.Asset.Reference
import CertPress.Proofs.Asset.Containment
import CertPress.Proofs.Base64
import CertPress.Proofs.Text.Cut
import CertPress.Proofs.Text.Percent
import CertPress.Proofs.Text.Trim

/-!
# Payloads of data addresses

An address that carries bytes holds them as its payload.  The bytes may be written in Base64 with
blanks anywhere, as any parameter of the media type announces, or else with percent groups.
-/

namespace CertPress

namespace Text

variable {chars front back : List Char}

theorem trimEnd_eq_self (last : ∀ char ∈ chars.getLast?, isBlank char = false) :
    trimEnd chars = chars := by
  rcases List.eq_nil_or_concat chars with rfl | ⟨before, char, rfl⟩
  · rfl
  · rw [List.concat_eq_append]
    exact trimEnd_append_of_not_blank (last char (by simp)) before

/-- Blanks are trimmed off the end of what follows, if that shows something. -/
theorem trimEnd_append {shown : Char} (member : shown ∈ back) (isShown : isBlank shown = false) :
    trimEnd (front ++ back) = front ++ trimEnd back := by
  have some : (back.reverse.dropWhile isBlank).isEmpty = false := by
    rw [List.isEmpty_eq_false_iff, ne_eq, List.dropWhile_eq_nil_iff]
    intro blank
    exact absurd (blank shown (List.mem_reverse.mpr member)) (by simp [isShown])
  rw [trimEnd, List.reverse_append, List.dropWhile_append, some, if_neg Bool.false_ne_true,
    List.reverse_append, List.reverse_reverse, trimEnd]

/-- Trimming takes away nothing but blanks. -/
theorem filter_trimEnd (chars : List Char) :
    (trimEnd chars).filter (!isBlank ·) = chars.filter (!isBlank ·) := by
  have dropped (chars : List Char) :
      (chars.dropWhile isBlank).filter (!isBlank ·) = chars.filter (!isBlank ·) := by
    induction chars with
    | nil => rfl
    | cons char rest hypothesis =>
        cases blank : isBlank char with
        | true => simp [blank, hypothesis]
        | false => rw [List.dropWhile_cons_of_neg (by simp [blank])]
  rw [trimEnd, List.filter_reverse, dropped, ← List.filter_reverse, List.reverse_reverse]

namespace Percent

/-- A text that stands for bytes: each byte is an ASCII character other than the percent sign, or
a group of two digits of any case. -/
inductive Escapes : Bytes → List Char → Prop
  | nil : Escapes [] []
  | literal {char : Char} {bytes : Bytes} {chars : List Char} :
      char.toNat ≤ 0x7F → char ≠ '%' → Escapes bytes chars →
      Escapes (UInt8.ofNat char.toNat :: bytes) (char :: chars)
  | group {high low : Char} {first second : Nat} {bytes : Bytes} {chars : List Char} :
      hexValue? high = some first → hexValue? low = some second → Escapes bytes chars →
      Escapes (UInt8.ofNat (first * 16 + second) :: bytes) ('%' :: high :: low :: chars)

theorem ascii_of_hexValue? {digit : Char} {value : Nat} (isDigit : hexValue? digit = some value) :
    digit.toNat ≤ 0x7F := by
  unfold hexValue? at isDigit
  split at isDigit
  next decimal =>
    simp only [Char.isDigit, Bool.and_eq_true, decide_eq_true_eq] at decimal
    have most : digit.toNat ≤ 57 := decimal.2
    omega
  next =>
    split at isDigit
    next small =>
      have most : digit.toNat ≤ 102 := small.2
      omega
    next =>
      split at isDigit
      next capital =>
        have most : digit.toNat ≤ 70 := capital.2
        omega
      next => cases isDigit

/-- The byte of an ASCII character stands for the character. -/
theorem ofNat_toNat_ofNat {char : Char} (ascii : char.toNat ≤ 0x7F) :
    Char.ofNat (UInt8.ofNat char.toNat).toNat = char := by
  rw [toNat_ofNat (by omega), Char.ofNat_toNat]

/-- A text is read as the bytes that it stands for. -/
theorem decode_of_escapes {bytes : Bytes} (escapes : Escapes bytes chars) :
    decode chars = bytes := by
  induction escapes with
  | nil => rfl
  | @literal char bytes chars ascii notSign _ hypothesis =>
      have other : UInt8.ofNat char.toNat ≠ 0x25 := by
        intro same
        apply notSign
        rw [← ofNat_toNat_ofNat ascii, same]
        rfl
      rw [decode, encode_cons_of_ascii ascii, decodeBytes_cons other, ← decode, hypothesis]
  | @group high low first second bytes chars isHigh isLow _ hypothesis =>
      have highAscii := ascii_of_hexValue? isHigh
      have lowAscii := ascii_of_hexValue? isLow
      rw [decode, encode_cons_of_ascii (by decide), encode_cons_of_ascii highAscii,
        encode_cons_of_ascii lowAscii]
      change decodeBytes (0x25 :: _ :: _ :: _) = _
      rw [decodeBytes, if_pos rfl]
      simp only [ofNat_toNat_ofNat highAscii, ofNat_toNat_ofNat lowAscii, isHigh, isLow]
      rw [← decode, hypothesis]

end Percent

end Text

namespace Asset

/-- An address that carries a media type, parameters, and a body behind a comma. -/
def dataUrl (mediaType : String) (parameters : List String) (body : List Char) : String :=
  "data:" ++ String.ofList
    (Text.join ';' ((mediaType :: parameters).map String.toList) ++ ',' :: body)

/-- Whether a parameter says that the body is in Base64. -/
def IsBase64 (parameter : String) : Prop :=
  Text.equalIgnoringCase (Text.trim parameter.toList) "base64".toList

/-- The ways in which the body of an address carries bytes. -/
inductive Carries (parameters : List String) (body : List Char) (bytes : Bytes) : Prop
  /-- In Base64 with any blanks, which one of the parameters announces. -/
  | base64 {parameter : String} :
      parameter ∈ parameters → IsBase64 parameter →
      body.filter (!Text.isBlank ·) = Base64.encode bytes → Carries parameters body bytes
  /-- With percent groups, which no parameter announces.  Its end is not taken for the blanks
  around the address. -/
  | escaped :
      (∀ parameter ∈ parameters, ¬ IsBase64 parameter) → Text.Percent.Escapes bytes body →
      (∀ char ∈ body.getLast?, Text.isBlank char = false) → Carries parameters body bytes

theorem any_base64_iff (parameters : List String) :
    ((parameters.map String.toList).any fun parameter =>
      Text.equalIgnoringCase (Text.trim parameter) "base64".toList) ↔
      ∃ parameter ∈ parameters, IsBase64 parameter := by
  simp [IsBase64]

section DataUrl

variable {mediaType : String} {parameters : List String} {body : List Char} {bytes : Bytes}

/-- Blanks behind an address do not change what it carries. -/
theorem Carries.trimEnd (carries : Carries parameters body bytes) :
    Carries parameters (Text.trimEnd body) bytes := by
  cases carries with
  | base64 member isBase64 written =>
      exact .base64 member isBase64 ((Text.filter_trimEnd body).trans written)
  | escaped noBase64 escapes last =>
      rw [Text.trimEnd_eq_self last]
      exact .escaped noBase64 escapes last

/-- What carries bytes is not blank. -/
theorem Carries.exists_shown (carries : Carries parameters body bytes) (filled : bytes ≠ []) :
    ∃ char ∈ body, Text.isBlank char = false := by
  cases carries with
  | base64 _ _ written =>
      have some : body.filter (!Text.isBlank ·) ≠ [] := written ▸ Base64.encode_ne_nil filled
      obtain ⟨char, member⟩ := List.exists_mem_of_ne_nil _ some
      obtain ⟨inBody, shown⟩ := List.mem_filter.mp member
      exact ⟨char, inBody, by simpa using shown⟩
  | escaped _ escapes last =>
      have some : body ≠ [] := by
        rintro rfl
        cases escapes
        exact filled rfl
      exact ⟨body.getLast some, List.getLast_mem some,
        last _ (List.getLast?_eq_some_getLast some)⟩

/-- Blanks are taken off the end of an address only. -/
theorem trimmed_dataUrl (mediaType : String) {shown : Char} (member : shown ∈ body)
    (isShown : Text.isBlank shown = false) :
    Text.trimmed (dataUrl mediaType parameters body) =
      dataUrl mediaType parameters (Text.trimEnd body) := by
  have first : Text.isBlank 'd' = false := by decide
  have chars (body : List Char) : (dataUrl mediaType parameters body).toList =
      ("data:".toList ++ Text.join ';' ((mediaType :: parameters).map String.toList) ++ [',']) ++
        body := by
    simp [dataUrl]
  have start : Text.trimStart (dataUrl mediaType parameters body).toList =
      (dataUrl mediaType parameters body).toList := by
    rw [chars]
    exact Text.trimStart_cons_of_not_blank first _
  apply String.toList_injective
  rw [Text.trimmed, String.toList_ofList, Text.trim, start, chars, chars,
    Text.trimEnd_append member isShown]

/-- An address that carries bytes is told to be embedded. -/
theorem classify_dataUrl (mediaType : String) {shown : Char} (member : shown ∈ body)
    (isShown : Text.isBlank shown = false) :
    Reference.classify (dataUrl mediaType parameters body) =
      .embedded (dataUrl mediaType parameters (Text.trimEnd body)) := by
  have starts := Reference.startsAs_append (by decide : "data:".toList.map Char.toLower = _)
    (String.ofList (Text.join ';' ((mediaType :: parameters).map String.toList) ++
      ',' :: Text.trimEnd body))
  rw [Reference.classify, trimmed_dataUrl mediaType member isShown]
  exact if_pos starts

variable (free : ∀ part ∈ mediaType :: parameters, ',' ∉ part.toList ∧ ';' ∉ part.toList)
include free

/-- The bytes that an address carries are its payload. -/
theorem ofUrl?_dataUrl (carries : Carries parameters body bytes) (filled : bytes ≠ []) :
    Payload.ofUrl? (dataUrl mediaType parameters body) =
      some ⟨Text.lowerAscii (Text.trimmed mediaType), bytes⟩ := by
  have toPart : ∀ piece ∈ mediaType.toList :: parameters.map String.toList,
      ∃ part ∈ mediaType :: parameters, part.toList = piece := by
    rw [← List.map_cons]
    exact fun piece => List.mem_map.mp
  have noComma : ',' ∉ Text.join ';' (mediaType.toList :: parameters.map String.toList) := by
    intro comma
    rcases Text.mem_join comma with isSemicolon | ⟨piece, inPieces, inPiece⟩
    · cases isSemicolon
    · obtain ⟨part, member, rfl⟩ := toPart piece inPieces
      exact (free part member).1 inPiece
  have parts : Text.split ';' (Text.join ';' (mediaType.toList :: parameters.map String.toList)) =
      mediaType.toList :: parameters.map String.toList := by
    apply Text.split_join (List.cons_ne_nil _ _)
    intro piece inPieces
    obtain ⟨part, member, rfl⟩ := toPart piece inPieces
    exact (free part member).2
  have chars : (dataUrl mediaType parameters body).toList.drop 5 =
      Text.join ';' (mediaType.toList :: parameters.map String.toList) ++ ',' :: body := by
    simp [dataUrl]
  have cut : Text.cut? [','] (Text.join ';' (mediaType.toList :: parameters.map String.toList) ++
      ',' :: body) =
      some (Text.join ';' (mediaType.toList :: parameters.map String.toList), body) :=
    Text.cut?_part noComma (some body)
  have notEmpty : ¬ bytes.isEmpty := by simpa using filled
  rw [Payload.ofUrl?, chars, Payload.ofChars?, cut]
  simp only [Option.bind_eq_bind, Option.bind_some, parts, List.tail_cons, List.headD_cons]
  cases carries with
  | base64 member isBase64 written =>
      rw [if_pos ((any_base64_iff parameters).mpr ⟨_, member, isBase64⟩), written,
        Base64.decode?_encode, Option.bind_some, if_neg notEmpty]
      rfl
  | escaped noBase64 escapes _ =>
      have silent := mt (any_base64_iff parameters).mp (by simpa using noBase64)
      rw [if_neg silent, Text.Percent.decode_of_escapes escapes, if_neg notEmpty]
      rfl

end DataUrl

end Asset

end CertPress
