/-
  Montage.Proofs.Asset.DataUri

  Data URIs that were made of bytes.  Whether the bytes are written in base64, or one by one
  as characters and escapes, reading the URI gives them back, and with them the media type
  that stands in front.  An escape has its digits in either case, any character of ASCII but the
  percent sign may stand for its byte, and the two kinds may be mixed.
-/
import Mathlib.Data.List.TakeWhile
import Montage.Asset.DataUri
import Montage.Proofs.Asset.Scheme
import Montage.Proofs.Json.Whole
import Montage.Text.Percent

namespace Montage.Text

/-! ## Bytes of texts -/

theorem toList_loop (bytes : ByteArray) (start : Nat) (read : List UInt8) :
    ByteArray.toList.loop bytes start read = read.reverse ++ bytes.data.toList.drop start := by
  fun_induction ByteArray.toList.loop bytes start read with
  | case1 start read hlt ih =>
    have hlength : start < bytes.data.toList.length := hlt
    have hget : bytes.get! start = bytes.data[start]! := by
      cases bytes
      rfl
    rw [ih, List.drop_eq_getElem_cons hlength, hget, getElem!_pos bytes.data start hlt,
      List.reverse_cons, List.append_assoc]
    rfl
  | case2 start read hge =>
    rw [List.drop_eq_nil_of_le (Nat.le_of_not_lt hge), List.append_nil]

theorem toList_eq_data (bytes : ByteArray) : bytes.toList = bytes.data.toList := by
  rw [ByteArray.toList, toList_loop, List.reverse_nil, List.nil_append, List.drop_zero]

/-- The byte of a character of ASCII. -/
def asciiByte (c : Char) : UInt8 :=
  UInt8.ofNat c.toNat

theorem ofNat_asciiByte {c : Char} (h : c.toNat < 128) : Char.ofNat (asciiByte c).toNat = c := by
  have hmod : c.toNat % 2 ^ 8 = c.toNat := Nat.mod_eq_of_lt (by omega)
  rw [asciiByte, UInt8.toNat_ofNat', hmod, Char.ofNat_toNat]

theorem utf8EncodeChar_ascii {c : Char} (h : c.toNat < 128) :
    String.utf8EncodeChar c = [asciiByte c] := by
  have hval : c.val.toNat = c.toNat := rfl
  have hbound : c.val ≤ 127 := by
    rw [UInt32.le_iff_toNat_le, hval]
    exact Nat.le_of_lt_succ h
  rw [String.utf8EncodeChar_eq_singleton (Char.utf8Size_eq_one_iff.mpr hbound)]
  rfl

namespace Utf8

theorem encode_ofList (chars : List Char) :
    encode (String.ofList chars) = chars.flatMap String.utf8EncodeChar := by
  rw [encode, String.toUTF8_eq_toByteArray, String.toByteArray_ofList, List.utf8Encode,
    toList_eq_data, List.toList_data_toByteArray]

/-- A text of ASCII has one byte for each character. -/
theorem encode_ascii {chars : List Char} (h : ∀ c ∈ chars, c.toNat < 128) :
    encode (String.ofList chars) = chars.map asciiByte := by
  rw [encode_ofList]
  induction chars with
  | nil => rfl
  | cons c rest ih =>
      obtain ⟨hc, hrest⟩ := List.forall_mem_cons.mp h
      rw [List.flatMap_cons, utf8EncodeChar_ascii hc, ih hrest]
      rfl

end Utf8

/-! ## Hexadecimal digits -/

theorem toNat_hexDigit_lt {value : Nat} (h : value < 16) (upper : Bool) :
    (hexDigit upper value).toNat < 128 := by
  have hall : ∀ upper, ∀ value < 16, (hexDigit upper value).toNat < 128 := by decide
  exact hall upper value h

theorem hexValue?_hexDigit {value : Nat} (h : value < 16) (upper : Bool) :
    hexValue? (hexDigit upper value) = some value := by
  have hall : ∀ upper, ∀ value < 16, hexValue? (hexDigit upper value) = some value := by decide
  exact hall upper value h

/-! ## Escapes -/

/-- Whether a text is a percent encoding of bytes: each of them is written as an escape, or
    left as it is if it is a character of ASCII and no percent sign. -/
inductive PercentEncoding : List UInt8 → List Char → Prop where
  | nil : PercentEncoding [] []
  | plain {bytes text} (c : Char) : c.toNat < 128 → c ≠ '%' → PercentEncoding bytes text →
      PercentEncoding (asciiByte c :: bytes) (c :: text)
  | escape {bytes text} (byte : UInt8) (upperHigh upperLow : Bool) : PercentEncoding bytes text →
      PercentEncoding (byte :: bytes)
        ('%' :: hexDigit upperHigh (byte.toNat / 16) :: hexDigit upperLow (byte.toNat % 16) :: text)

theorem unescape_plain {byte : UInt8} (h : byte ≠ 0x25) (rest : List UInt8) :
    unescape (byte :: rest) = byte :: unescape rest := by
  -- an escape is looked for only where two more bytes follow
  match rest with
  | [] => rfl
  | [_] => rfl
  | _ :: _ :: _ => rw [unescape, if_neg h]

theorem unescape_escape (byte : UInt8) (upperHigh upperLow : Bool) (rest : List UInt8) :
    unescape (asciiByte '%' :: asciiByte (hexDigit upperHigh (byte.toNat / 16)) ::
      asciiByte (hexDigit upperLow (byte.toNat % 16)) :: rest) = byte :: unescape rest := by
  have hbyte := byte.toNat_lt
  have hhigh : byte.toNat / 16 < 16 := by omega
  have hlow : byte.toNat % 16 < 16 := by omega
  have hpercent : asciiByte '%' = 0x25 := rfl
  rw [unescape, if_pos hpercent, ofNat_asciiByte (toNat_hexDigit_lt hhigh upperHigh),
    ofNat_asciiByte (toNat_hexDigit_lt hlow upperLow), hexValue?_hexDigit hhigh,
    hexValue?_hexDigit hlow]
  dsimp only
  rw [Nat.div_add_mod, UInt8.ofNat_toNat]

theorem asciiByte_ne_percent {c : Char} (hascii : c.toNat < 128) (h : c ≠ '%') :
    asciiByte c ≠ 0x25 := by
  intro hbyte
  have hsame := ofNat_asciiByte hascii
  rw [hbyte] at hsame
  exact h hsame.symm

namespace PercentEncoding

variable {bytes : List UInt8} {text : List Char}

theorem ascii (h : PercentEncoding bytes text) : ∀ c ∈ text, c.toNat < 128 := by
  induction h with
  | nil => nofun
  | plain c hascii _ _ ih => exact List.forall_mem_cons.mpr ⟨hascii, ih⟩
  | escape byte upperHigh upperLow _ ih =>
      have hbyte := byte.toNat_lt
      exact List.forall_mem_cons.mpr ⟨by decide, List.forall_mem_cons.mpr
        ⟨toNat_hexDigit_lt (by omega) upperHigh, List.forall_mem_cons.mpr
          ⟨toNat_hexDigit_lt (by omega) upperLow, ih⟩⟩⟩

theorem unescape_map (h : PercentEncoding bytes text) : unescape (text.map asciiByte) = bytes := by
  induction h with
  | nil => rfl
  | plain c hascii hpercent _ ih =>
      rw [List.map_cons, unescape_plain (asciiByte_ne_percent hascii hpercent), ih]
  | escape byte upperHigh upperLow _ ih =>
      rw [List.map_cons, List.map_cons, List.map_cons, unescape_escape, ih]

/-- The bytes are those that the escapes and characters stand for. -/
theorem unescape_encode (h : PercentEncoding bytes text) :
    unescape (Utf8.encode (String.ofList text)) = bytes := by
  rw [Utf8.encode_ascii h.ascii, h.unescape_map]

end PercentEncoding

end Montage.Text

namespace Montage.Asset

open Montage.Text

/-! ## Base64 -/

namespace Base64

/-- The alphabet of base64 (RFC 4648, section 4). -/
def alphabet : List Char :=
  "ABCDEFGHIJKLMNOPQRSTUVWXYZabcdefghijklmnopqrstuvwxyz0123456789+/".toList

/-- The letter for six bits. -/
def letter (sextet : Nat) : Char :=
  alphabet.getD sextet '='

/-- Bytes in base64: four letters for three bytes, the last group filled up with padding. -/
def encode : List UInt8 → List Char
  | [] => []
  | [a] => [letter (a.toNat / 4), letter (a.toNat % 4 * 16), '=', '=']
  | [a, b] =>
    [letter (a.toNat / 4), letter (a.toNat % 4 * 16 + b.toNat / 16),
      letter (b.toNat % 16 * 4), '=']
  | a :: b :: c :: rest =>
    letter (a.toNat / 4) :: letter (a.toNat % 4 * 16 + b.toNat / 16) ::
      letter (b.toNat % 16 * 4 + c.toNat / 64) :: letter (c.toNat % 64) :: encode rest

theorem sextet?_letter {sextet : Nat} (h : sextet < 64) :
    sextet? (letter sextet) = some sextet := by
  have hall : ∀ sextet < 64, sextet? (letter sextet) = some sextet := by decide +kernel
  exact hall sextet h

theorem letter_ne_pad {sextet : Nat} (h : sextet < 64) : letter sextet ≠ '=' := by
  have hall : ∀ sextet < 64, letter sextet ≠ '=' := by decide +kernel
  exact hall sextet h

theorem toNat_letter_lt (sextet : Nat) : (letter sextet).toNat < 128 := by
  have hall : alphabet.all (fun c => c.toNat < 128) = true := by decide +kernel
  rw [letter, List.getD_eq_getElem?_getD]
  cases hfound : alphabet[sextet]? with
  | none => decide
  | some c => exact of_decide_eq_true (List.all_eq_true.mp hall c (List.mem_of_getElem? hfound))

/-! ### Reading -/

/-- A letter gives its six bits to the reader. -/
theorem read_letter {sextet : Nat} (h : sextet < 64) {reader : Base64}
    (hpadding : reader.padding = false) (rest : List Char) :
    reader.read (letter sextet :: rest) =
      ((reader.take sextet).2.read rest).map ((reader.take sextet).1.toList ++ ·) := by
  rw [read, if_neg (letter_ne_pad h), sextet?_letter h]
  dsimp only
  rw [hpadding, if_neg Bool.false_ne_true]

/-- The first byte of a group: six bits of the first letter, two of the second. -/
theorem first_byte (a : UInt8) {low : Nat} (hlow : low < 16) :
    UInt8.ofNat (a.toNat / 4 * 4 + (a.toNat % 4 * 16 + low) / 16) = a := by
  have hvalue : a.toNat / 4 * 4 + (a.toNat % 4 * 16 + low) / 16 = a.toNat := by omega
  rw [hvalue, UInt8.ofNat_toNat]

/-- The second byte: four bits of the second letter, four of the third. -/
theorem second_byte (b : UInt8) (front : Nat) {low : Nat} (hlow : low < 4) :
    UInt8.ofNat ((front * 16 + b.toNat / 16) % 16 * 16 + (b.toNat % 16 * 4 + low) / 4) = b := by
  have hbyte := b.toNat_lt
  have hvalue : (front * 16 + b.toNat / 16) % 16 * 16 + (b.toNat % 16 * 4 + low) / 4 =
      b.toNat := by omega
  rw [hvalue, UInt8.ofNat_toNat]

/-- The third byte: two bits of the third letter, six of the fourth. -/
theorem third_byte (c : UInt8) (front : Nat) :
    UInt8.ofNat ((front * 4 + c.toNat / 64) % 4 * 64 + c.toNat % 64) = c := by
  have hbyte := c.toNat_lt
  have hvalue : (front * 4 + c.toNat / 64) % 4 * 64 + c.toNat % 64 = c.toNat := by omega
  rw [hvalue, UInt8.ofNat_toNat]

/-- Where a reader stands before a group. -/
def IsBetween (reader : Base64) : Prop :=
  reader.filled = 0 ∧ reader.padding = false

/-- Between groups, the reader gives the bytes of the groups that follow. -/
theorem read_encode (bytes : List UInt8) {reader : Base64} (h : reader.IsBetween) :
    reader.read (encode bytes) = .ok bytes := by
  obtain ⟨filled, carry, pads, padding, count⟩ := reader
  obtain ⟨rfl, rfl⟩ := h
  induction bytes using encode.induct generalizing carry pads count with
  | case1 => rfl
  | case2 a =>
      have ha := a.toNat_lt
      have hfirst := first_byte a (Nat.zero_lt_succ 15)
      rw [encode, read_letter (by omega) rfl, read_letter (by omega) rfl]
      simp only [take]
      rw [Nat.add_zero] at hfirst
      rw [hfirst]
      rfl
  | case3 a b =>
      have ha := a.toNat_lt
      have hb := b.toNat_lt
      have hsecond := second_byte b (a.toNat % 4) (Nat.zero_lt_succ 3)
      rw [encode, read_letter (by omega) rfl, read_letter (by omega) rfl,
        read_letter (by omega) rfl]
      simp only [take]
      rw [Nat.add_zero] at hsecond
      rw [first_byte a (by omega), hsecond]
      rfl
  | case4 a b c rest ih =>
      have ha := a.toNat_lt
      have hb := b.toNat_lt
      have hc := c.toNat_lt
      rw [encode, read_letter (by omega) rfl, read_letter (by omega) rfl,
        read_letter (by omega) rfl, read_letter (by omega) rfl]
      simp only [take]
      rw [first_byte a (by omega), second_byte b _ (by omega), third_byte c, ih]
      rfl

theorem ascii_encode (bytes : List UInt8) : ∀ c ∈ encode bytes, c.toNat < 128 := by
  induction bytes using encode.induct with
  | case1 => nofun
  | case2 a => simp [encode, toNat_letter_lt]
  | case3 a b => simp [encode, toNat_letter_lt]
  | case4 a b c rest ih => simpa [encode, toNat_letter_lt] using ih

/-- A group starts with a letter. -/
theorem head?_encode (bytes : List UInt8) : (encode bytes).head? ≠ some '=' := by
  have hletter : ∀ a : UInt8, some (letter (a.toNat / 4)) ≠ some '=' := by
    intro a heq
    have ha := a.toNat_lt
    exact letter_ne_pad (by omega) (Option.some.inj heq)
  match bytes with
  | [] => nofun
  | [a] => exact hletter a
  | [a, b] => exact hletter a
  | a :: b :: c :: rest => exact hletter a

end Base64

/-- Bytes in base64 are read back. -/
theorem base64_encode (bytes : List UInt8) : base64 (Base64.encode bytes) = .ok bytes := by
  have hascii : ((Base64.encode bytes).any fun c => 128 ≤ c.toNat) = false := by
    simpa using Base64.ascii_encode bytes
  rw [base64, hascii, if_neg Bool.false_ne_true, if_neg (Base64.head?_encode bytes)]
  exact Base64.read_encode bytes ⟨rfl, rfl⟩

/-! ## Parts of a URI -/

/-- The media type that a URI reports if this one stands in it. -/
def reportedType (mediaType : List Char) : String :=
  if mediaType.isEmpty then "text/plain" else String.ofList mediaType

theorem reportedType_toList (mediaType : String) :
    reportedType mediaType.toList = if mediaType = "" then "text/plain" else mediaType := by
  simp [reportedType]

/-- A URI is cut at its first comma. -/
theorem decodeDataUri_cut {uri : String} {header payload : List Char}
    (huri : uri.toList = "data:".toList ++ (header ++ ',' :: payload)) (hcomma : ',' ∉ header) :
    decodeDataUri uri =
      let mediaType := reportedType (header.takeWhile (· != ';'))
      if base64Mark.isSuffixOf header then
        (base64 payload).map fun bytes => ⟨bytes, mediaType⟩
      else
        match utf8Refusal? payload with
        | some reason => .error (.unencodable reason)
        | none => .ok ⟨unescape (Utf8.encode (String.ofList payload)), mediaType⟩ := by
  have hbody : uri.toList.drop 5 = header ++ ',' :: payload := by
    rw [huri]
    rfl
  have hheader := takeWhile_of_not_mem hcomma (',' :: payload)
  rw [List.takeWhile_cons_of_neg (by simp), List.append_nil] at hheader
  unfold decodeDataUri
  dsimp only
  rw [hbody, hheader, List.drop_left]
  rfl

section

variable {mediaType : String} (hcomma : ',' ∉ mediaType.toList)
  (hsemicolon : ';' ∉ mediaType.toList) {bytes : List UInt8}

include hcomma hsemicolon

theorem decodeDataUri_base64 :
    decodeDataUri ("data:" ++ mediaType ++ ";base64," ++ String.ofList (Base64.encode bytes)) =
      .ok ⟨bytes, reportedType mediaType.toList⟩ := by
  have huri : ("data:" ++ mediaType ++ ";base64," ++ String.ofList (Base64.encode bytes)).toList =
      "data:".toList ++ ((mediaType.toList ++ base64Mark) ++ ',' :: Base64.encode bytes) := by
    have hsplit : ";base64,".toList = base64Mark ++ [','] := by decide
    have hencode : (String.ofList (Base64.encode bytes)).toList = Base64.encode bytes :=
      String.toList_ofList
    rw [String.toList_append, String.toList_append, String.toList_append, hencode, hsplit,
      List.append_assoc, List.append_assoc, List.append_assoc base64Mark,
      List.append_assoc mediaType.toList, List.singleton_append]
  have hheader : ',' ∉ mediaType.toList ++ base64Mark := by
    rw [List.mem_append, not_or]
    exact ⟨hcomma, by decide⟩
  have hnamed : (mediaType.toList ++ base64Mark).takeWhile (· != ';') = mediaType.toList := by
    rw [takeWhile_of_not_mem hsemicolon]
    exact List.append_nil _
  have hmark : base64Mark.isSuffixOf (mediaType.toList ++ base64Mark) = true :=
    List.isSuffixOf_iff_suffix.mpr (List.suffix_append _ _)
  rw [decodeDataUri_cut huri hheader]
  dsimp only
  rw [hnamed, if_pos hmark, base64_encode]
  rfl

theorem decodeDataUri_percent {text : List Char} (h : PercentEncoding bytes text) :
    decodeDataUri ("data:" ++ mediaType ++ "," ++ String.ofList text) =
      .ok ⟨bytes, reportedType mediaType.toList⟩ := by
  have huri : ("data:" ++ mediaType ++ "," ++ String.ofList text).toList =
      "data:".toList ++ (mediaType.toList ++ ',' :: text) := by
    have hseparator : ",".toList = [','] := by decide
    have hchars : (String.ofList text).toList = text := String.toList_ofList
    rw [String.toList_append, String.toList_append, String.toList_append, hchars, hseparator,
      List.append_assoc, List.append_assoc, List.singleton_append]
  have hnamed := takeWhile_of_not_mem hsemicolon []
  rw [List.append_nil, List.takeWhile_nil, List.append_nil] at hnamed
  -- the mark of base64 starts with a semicolon
  have hmark : ¬ base64Mark.isSuffixOf mediaType.toList = true := fun hsuffix =>
    hsemicolon ((List.isSuffixOf_iff_suffix.mp hsuffix).subset (by decide))
  have hwhole : utf8Refusal? text = none := by
    rw [utf8Refusal?, Json.refusal?_eq_none_iff]
    intro c hc
    rw [Json.isHalf_of_lt (h.ascii c hc)]
    rfl
  rw [decodeDataUri_cut huri hcomma]
  dsimp only
  rw [hnamed, if_neg hmark, hwhole, h.unescape_encode]

end

/-- Reading a data URI undoes its making: bytes in base64 come back, and so do bytes in any
    percent encoding, with the media type in front of them. -/
theorem decodeDataUri_made {mediaType : String} (hcomma : ',' ∉ mediaType.toList)
    (hsemicolon : ';' ∉ mediaType.toList) (bytes : List UInt8) :
    let reported := if mediaType = "" then "text/plain" else mediaType
    decodeDataUri ("data:" ++ mediaType ++ ";base64," ++ String.ofList (Base64.encode bytes)) =
        .ok ⟨bytes, reported⟩ ∧
      ∀ text, PercentEncoding bytes text →
        decodeDataUri ("data:" ++ mediaType ++ "," ++ String.ofList text) =
          .ok ⟨bytes, reported⟩ := by
  rw [← reportedType_toList]
  exact ⟨decodeDataUri_base64 hcomma hsemicolon,
    fun _ h => decodeDataUri_percent hcomma hsemicolon h⟩

/-- Five bytes, which fill one group of base64 and a part of another; a comma, a letter and a
    percent sign are among them. -/
def sampleBytes : List UInt8 := [0x89, 0x2c, 0xff, 0x41, 0x25]

/-- The escapes have digits in both cases, and the comma and the letter stand for themselves. -/
theorem percentEncoding_sampleBytes : PercentEncoding sampleBytes "%89,%fFA%25".toList :=
  .escape 0x89 false false <| .plain ',' (by decide) (by decide) <| .escape 0xff false true <|
    .plain 'A' (by decide) (by decide) <| .escape 0x25 false false .nil

theorem decodeDataUri_made_sampleBytes :
    ',' ∉ "image/png".toList ∧ ';' ∉ "image/png".toList ∧
      PercentEncoding sampleBytes "%89,%fFA%25".toList ∧
      decodeDataUri "data:image/png;base64,iSz/QSU=" = .ok ⟨sampleBytes, "image/png"⟩ ∧
      decodeDataUri "data:image/png,%89,%fFA%25" = .ok ⟨sampleBytes, "image/png"⟩ := by
  have hcomma : ',' ∉ "image/png".toList := by decide
  have hsemicolon : ';' ∉ "image/png".toList := by decide
  obtain ⟨hbase64, hpercent⟩ := decodeDataUri_made hcomma hsemicolon sampleBytes
  exact ⟨hcomma, hsemicolon, percentEncoding_sampleBytes, hbase64,
    hpercent _ percentEncoding_sampleBytes⟩

end Montage.Asset
