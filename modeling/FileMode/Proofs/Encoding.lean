import FileMode.Files.Text
import Mathlib.Data.List.Basic

/-!
Texts through files: the bytes that encode a text are decoded to the text (`decode_encode`), and a
text without carriage returns is read from a file as it is (`textOf_encode`).

The decoder goes by the first byte of a character and then byte by byte. `lead?_three` and
`lead?_four` say what the first byte of a character announces and that the next byte is within the
range that it sets, whichever of the narrower ranges that is.
-/

namespace FileMode.Text.Utf8

/-! ### Bytes of a text -/

theorem toList_loop_eq (bytes : ByteArray) (i : Nat) (seen : List UInt8) :
    ByteArray.toList.loop bytes i seen = seen.reverse ++ bytes.data.toList.drop i := by
  fun_induction ByteArray.toList.loop bytes i seen with
  | case1 i seen inside ih =>
      have bound : i < bytes.data.toList.length := by simpa using inside
      rw [ih, List.drop_eq_getElem_cons bound]
      simp [ByteArray.get!, inside]
  | case2 i seen outside =>
      rw [List.drop_eq_nil_of_le (by simpa using Nat.le_of_not_lt outside), List.append_nil]

/-- The bytes of a text are those of its characters. -/
theorem encode_eq (s : String) : encode s = s.toList.flatMap String.utf8EncodeChar := by
  have bytes : s.toUTF8.data = (s.toList.flatMap String.utf8EncodeChar).toArray := by
    rw [String.toUTF8_eq_toByteArray, ← String.utf8Encode_toList, List.utf8Encode,
      List.data_toByteArray]
  rw [encode, ByteArray.toList, toList_loop_eq, bytes]
  rfl

/-! ### Characters, byte by byte -/

/-- What the first byte of a character of three bytes announces, and the range for the second. -/
theorem lead?_three {v : Nat} (least : 0x7ff < v) (most : v ≤ 0xffff)
    (noSurrogate : v < 0xd800 ∨ 0xdfff < v) :
    ∃ low high, lead? (v / 4096 % 16 + 224) = some ⟨2, v / 4096, low, high⟩ ∧
      low ≤ v / 64 % 64 + 128 ∧ v / 64 % 64 + 128 ≤ high := by
  have bits : v / 4096 % 16 = v / 4096 := by omega
  simp only [lead?, bits, Bool.and_eq_true, decide_eq_true_eq]
  by_cases zero : v / 4096 = 0
  · exact ⟨0xa0, 0xbf, by simp [zero], by omega, by omega⟩
  · by_cases thirteen : v / 4096 = 13
    · exact ⟨0x80, 0x9f, by simp [thirteen], by omega, by omega⟩
    · refine ⟨0x80, 0xbf, ?_, by omega, by omega⟩
      rw [if_neg (by omega), if_neg (by omega), if_neg (by omega), if_pos (by omega),
        Nat.add_sub_cancel]

/-- What the first byte of a character of four bytes announces, and the range for the second. -/
theorem lead?_four {v : Nat} (least : 0xffff < v) (most : v < 0x110000) :
    ∃ low high, lead? (v / 262144 % 8 + 240) = some ⟨3, v / 262144, low, high⟩ ∧
      low ≤ v / 4096 % 64 + 128 ∧ v / 4096 % 64 + 128 ≤ high := by
  have bits : v / 262144 % 8 = v / 262144 := by omega
  simp only [lead?, bits, Bool.and_eq_true, decide_eq_true_eq]
  by_cases zero : v / 262144 = 0
  · exact ⟨0x90, 0xbf, by simp [zero], by omega, by omega⟩
  · by_cases four : v / 262144 = 4
    · exact ⟨0x80, 0x8f, by simp [four], by omega, by omega⟩
    · refine ⟨0x80, 0xbf, ?_, by omega, by omega⟩
      rw [if_neg (by omega), if_neg (by omega), if_neg (by omega), if_neg (by omega),
        if_neg (by omega), if_neg (by omega), if_pos (by omega), Nat.add_sub_cancel]

variable {n place : Nat} {p : Partial} {rest : List UInt8} {cs : List Char}

theorem toNat_byte (byte : n < 256) : (UInt8.ofNat n).toNat = n :=
  UInt8.toNat_ofNat_of_lt' byte

/-- An ASCII byte is a character. -/
theorem decodeFrom_ascii (ascii : n < 0x80) (decoded : decodeFrom none (place + 1) rest = .ok cs) :
    decodeFrom none place (UInt8.ofNat n :: rest) = .ok (Char.ofNat n :: cs) := by
  rw [decodeFrom, toNat_byte (by omega), if_pos ascii, decoded]
  rfl

/-- A byte that announces more begins a character. -/
theorem decodeFrom_lead {l : Lead} (byte : n < 256) (wide : 0x80 ≤ n)
    (announced : lead? n = some l) :
    decodeFrom none place (UInt8.ofNat n :: rest) =
      decodeFrom (some ⟨UInt8.ofNat n, place, 1, l.bits, l.more, l.low, l.high⟩) (place + 1)
        rest := by
  rw [decodeFrom, toNat_byte byte, if_neg (by omega), announced]

/-- A byte within the range goes on with a character that more bytes belong to. -/
theorem decodeFrom_inner (byte : n < 256) (least : p.low ≤ n) (most : n ≤ p.high)
    (more : p.missing ≠ 1) :
    decodeFrom (some p) place (UInt8.ofNat n :: rest) =
      decodeFrom (some { p with
        taken := p.taken + 1, bits := p.bits * 64 + n % 64, missing := p.missing - 1, low := 0x80,
        high := 0xbf }) (place + 1) rest := by
  have inside : ¬ (decide (n < p.low) || decide (p.high < n)) = true := by
    simp only [Bool.or_eq_true, decide_eq_true_eq]
    omega
  rw [decodeFrom, toNat_byte byte, if_neg inside, if_neg more]

/-- A byte within the range ends a character of which it is the last. -/
theorem decodeFrom_last (byte : n < 256) (least : p.low ≤ n) (most : n ≤ p.high)
    (last : p.missing = 1) (decoded : decodeFrom none (place + 1) rest = .ok cs) :
    decodeFrom (some p) place (UInt8.ofNat n :: rest) =
      .ok (Char.ofNat (p.bits * 64 + n % 64) :: cs) := by
  have inside : ¬ (decide (n < p.low) || decide (p.high < n)) = true := by
    simp only [Bool.or_eq_true, decide_eq_true_eq]
    omega
  rw [decodeFrom, toNat_byte byte, if_neg inside, if_pos last, decoded]
  rfl

/-- The bytes of a character are decoded to the character. -/
theorem decodeFrom_utf8EncodeChar (c : Char)
    (decoded : ∀ place, decodeFrom none place rest = .ok cs) (place : Nat) :
    decodeFrom none place (String.utf8EncodeChar c ++ rest) = .ok (c :: cs) := by
  have valid : c.toNat < 0xd800 ∨ (0xdfff < c.toNat ∧ c.toNat < 0x110000) := c.valid
  have same : Char.ofNat c.toNat = c := Char.ofNat_toNat c
  have code : c.val.toNat = c.toNat := rfl
  simp only [String.utf8EncodeChar, code]
  generalize c.toNat = v at valid same
  subst same
  split_ifs with one two three
  · exact decodeFrom_ascii (by omega) (decoded _)
  · have announced : lead? (v / 64 % 32 + 192) = some ⟨1, v / 64, 0x80, 0xbf⟩ := by
      have bits : v / 64 % 32 = v / 64 := by omega
      simp only [lead?, bits, Bool.and_eq_true, decide_eq_true_eq]
      rw [if_pos (by omega), Nat.add_sub_cancel]
    simp only [List.cons_append, List.nil_append]
    rw [decodeFrom_lead (by omega) (by omega) announced,
      decodeFrom_last (by omega) (by simp) (by simp only; omega) rfl (decoded _)]
    have value : v / 64 * 64 + (v % 64 + 128) % 64 = v := by omega
    rw [value]
  · obtain ⟨low, high, announced, least, most⟩ :=
      lead?_three (v := v) (by omega) (by omega) (by omega)
    simp only [List.cons_append, List.nil_append]
    rw [decodeFrom_lead (by omega) (by omega) announced,
      decodeFrom_inner (by omega) least most (by simp),
      decodeFrom_last (by omega) (by simp) (by simp only; omega) rfl (decoded _)]
    have value : (v / 4096 * 64 + (v / 64 % 64 + 128) % 64) * 64 + (v % 64 + 128) % 64 = v := by
      omega
    rw [value]
  · obtain ⟨low, high, announced, least, most⟩ := lead?_four (v := v) (by omega) (by omega)
    simp only [List.cons_append, List.nil_append]
    rw [decodeFrom_lead (by omega) (by omega) announced,
      decodeFrom_inner (by omega) least most (by simp),
      decodeFrom_inner (by omega) (by simp) (by simp only; omega) (by simp),
      decodeFrom_last (by omega) (by simp) (by simp only; omega) rfl (decoded _)]
    have value : ((v / 262144 * 64 + (v / 4096 % 64 + 128) % 64) * 64 +
        (v / 64 % 64 + 128) % 64) * 64 + (v % 64 + 128) % 64 = v := by
      omega
    rw [value]

/-- The bytes that encode a text are decoded to the text. -/
theorem decode_encode (s : String) : decode (encode s) = .ok s.toList := by
  rw [encode_eq]
  suffices every : ∀ place,
      decodeFrom none place (s.toList.flatMap String.utf8EncodeChar) = .ok s.toList from every 0
  induction s.toList with
  | nil => exact fun _ => rfl
  | cons c cs ih => exact decodeFrom_utf8EncodeChar c ih

end FileMode.Text.Utf8

namespace FileMode.Files

/-- Without carriage returns there is no line end to unify. -/
theorem unifyLines_of_notMem {cs : List Char} (plain : '\r' ∉ cs) : unifyLines cs = cs := by
  induction cs with
  | nil => rfl
  | cons c cs ih =>
      rw [List.mem_cons, not_or] at plain
      rw [unifyLines, ih plain.2]
      · exact fun _ same _ => plain.1 same.symm
      · exact fun same => plain.1 same.symm

/-- A file that holds the bytes of a text without carriage returns is read as the text. -/
theorem textOf_encode {s : String} (plain : '\r' ∉ s.toList) :
    textOf (Text.Utf8.encode s) = .ok s := by
  simp only [textOf, Text.Utf8.decode_encode, unifyLines_of_notMem plain, String.ofList_toList]

end FileMode.Files
