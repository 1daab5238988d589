import Mathlib.Algebra.Group.Nat.Defs
import SensorGateway.Handshake.Record
import SensorGateway.Proofs.Text.Bytes

/-!
The fields of a handshake record.

A number is told by what its bytes stand for, `littleEndian`, and so are writing and reading it: bytes
of one length are equal where they stand for one number. A field that holds a zero byte is an
address, that byte, and padding, in one way only. `decode_append` puts the reader together from its
three fields, and `ofFields_written` and `written_of_ofFields` say that reading the fields and
writing them undo each other, whatever the padding.
-/

set_option autoImplicit false

namespace SensorGateway.Handshake

/-! ## Numbers -/

/-- The number that bytes stand for, the lowest byte first. -/
def littleEndian (bytes : List UInt8) : Nat := bytes.foldr (fun b n => b.toNat + 256 * n) 0

@[simp] theorem littleEndian_cons (b : UInt8) (bytes : List UInt8) :
    littleEndian (b :: bytes) = b.toNat + 256 * littleEndian bytes := rfl

theorem littleEndian_lt (bytes : List UInt8) : littleEndian bytes < 256 ^ bytes.length := by
  induction bytes with
  | nil => exact Nat.one_pos
  | cons b bytes ih =>
    have hb := b.toNat_lt
    rw [littleEndian_cons, List.length_cons, Nat.pow_succ]
    omega

/-- A word of at most four bytes has room for the number that they stand for. -/
theorem toNat_bytesWord {bytes : List UInt8} (h : bytes.length ≤ 4) :
    (bytesWord bytes).toNat = littleEndian bytes := by
  induction bytes with
  | nil => rfl
  | cons b bytes ih =>
    rw [List.length_cons] at h
    have hrest : (bytesWord bytes).toNat = littleEndian bytes := ih (by omega)
    have hroom : littleEndian bytes < 256 ^ 3 := by
      have hle : 256 ^ bytes.length ≤ 256 ^ 3 := Nat.pow_le_pow_right (by decide) (by omega)
      exact Nat.lt_of_lt_of_le (littleEndian_lt bytes) hle
    have hb := b.toNat_lt
    -- three bytes are left, so the shift loses none of them
    have hshift : littleEndian bytes <<< 8 % 2 ^ 32 = littleEndian bytes <<< 8 := by
      rw [Nat.shiftLeft_eq]
      omega
    show ((bytesWord bytes <<< 8) ||| b.toUInt32).toNat = _
    rw [UInt32.toNat_or, UInt32.toNat_shiftLeft, hrest, UInt8.toNat_toUInt32]
    show littleEndian bytes <<< 8 % 2 ^ 32 ||| b.toNat = _
    rw [hshift, ← Nat.shiftLeft_add_eq_or_of_lt (i := 8) hb, Nat.shiftLeft_eq, littleEndian_cons]
    omega

/-- The bytes of a word stand for the word. -/
theorem littleEndian_wordBytes (w : UInt32) : littleEndian (wordBytes w) = w.toNat := by
  have hw := w.toNat_lt
  simp only [wordBytes, littleEndian_cons, UInt32.toNat_toUInt8, UInt32.toNat_shiftRight]
  simp only [littleEndian, List.foldr_nil, Nat.shiftRight_eq_div_pow]
  show w.toNat % 2 ^ 8 + 256 * (w.toNat / 2 ^ 8 % 2 ^ 8 + 256 * (w.toNat / 2 ^ 16 % 2 ^ 8
    + 256 * (w.toNat / 2 ^ 24 % 2 ^ 8 + 256 * 0))) = w.toNat
  omega

/-- Bytes of one length are equal if they stand for one number. -/
theorem littleEndian_inj {xs ys : List UInt8} (hlen : xs.length = ys.length)
    (h : littleEndian xs = littleEndian ys) : xs = ys := by
  induction xs generalizing ys with
  | nil => exact (List.eq_nil_of_length_eq_zero hlen.symm).symm
  | cons x xs ih =>
    rcases ys with _ | ⟨y, ys⟩
    · cases hlen
    · have hx := x.toNat_lt
      have hy := y.toNat_lt
      rw [littleEndian_cons, littleEndian_cons] at h
      -- a byte is less than 256, so the two sums agree in both parts
      have hfirst : x.toNat = y.toNat := by omega
      have hrest : littleEndian xs = littleEndian ys := by omega
      rw [UInt8.toNat_inj.mp hfirst, ih (Nat.succ.inj hlen) hrest]

/-- A written word is read back, -/
theorem bytesWord_wordBytes (w : UInt32) : bytesWord (wordBytes w) = w := by
  have hlen : (wordBytes w).length ≤ 4 := Nat.le_refl 4
  apply UInt32.toNat_inj.mp
  rw [toNat_bytesWord hlen, littleEndian_wordBytes]

/-- and a word that was read is written as it was. -/
theorem wordBytes_bytesWord {bytes : List UInt8} (h : bytes.length = 4) :
    wordBytes (bytesWord bytes) = bytes := by
  have hlen : (wordBytes (bytesWord bytes)).length = bytes.length := h.symm
  apply littleEndian_inj hlen
  rw [littleEndian_wordBytes, toNat_bytesWord (Nat.le_of_eq h)]

/-- The signed number that four bytes stand for, the lowest byte first. -/
def signedWord (bytes : List UInt8) : Int :=
  if littleEndian bytes < 2147483648 then littleEndian bytes
  else littleEndian bytes - 4294967296

/-- A handle or a port is read as the signed number of its bytes. -/
theorem toInt_bytesWord {bytes : List UInt8} (h : bytes.length = 4) :
    (bytesWord bytes).toInt32.toInt = signedWord bytes := by
  have hword := toNat_bytesWord (Nat.le_of_eq h)
  have hint : (bytesWord bytes).toInt32.toInt = (bytesWord bytes).toBitVec.toInt := rfl
  rw [hint, BitVec.toInt, UInt32.toNat_toBitVec, hword, signedWord]
  by_cases hlow : littleEndian bytes < 2147483648
  · rw [if_pos hlow, if_pos (by omega)]
  · rw [if_neg hlow, if_neg (by omega)]
    rfl

/-- **A number is a port exactly if its two high bytes are zero,** for a negative one has its highest
bit set. -/
theorem signedWord_isPort_iff (b₀ b₁ b₂ b₃ : UInt8) :
    (0 ≤ signedWord [b₀, b₁, b₂, b₃] ∧ signedWord [b₀, b₁, b₂, b₃] ≤ 65535)
      ↔ b₂ = 0 ∧ b₃ = 0 := by
  have h₀ := b₀.toNat_lt
  have h₁ := b₁.toNat_lt
  have h₂ := b₂.toNat_lt
  have h₃ := b₃.toNat_lt
  have hvalue : littleEndian [b₀, b₁, b₂, b₃]
      = b₀.toNat + 256 * b₁.toNat + 65536 * b₂.toNat + 16777216 * b₃.toNat := by
    simp only [littleEndian, List.foldr_cons, List.foldr_nil]
    omega
  have hzero : ∀ b : UInt8, b = 0 ↔ b.toNat = 0 := fun b => UInt8.toNat_inj.symm
  rw [signedWord, hvalue, hzero, hzero]
  -- a high byte that is not zero makes the number 65536 at least, or negative
  split
  · omega
  · omega

/-- A written port is not negative. -/
theorem signedWord_port (port : UInt16) : signedWord (wordBytes port.toUInt32) = port.toNat := by
  have hport := port.toNat_lt
  rw [signedWord, littleEndian_wordBytes, UInt16.toNat_toUInt32, if_pos (by omega)]

/-- A port that was read is written as it was. -/
theorem wordBytes_port {tail : List UInt8} (h : tail.length = 4)
    (hport : 0 ≤ signedWord tail ∧ signedWord tail ≤ 65535) :
    wordBytes (signedWord tail).toNat.toUInt16.toUInt32 = tail := by
  have hvalue : signedWord tail = littleEndian tail := by
    rw [signedWord] at hport ⊢
    by_cases hlow : littleEndian tail < 2147483648
    · rw [if_pos hlow]
    · have hroom := littleEndian_lt tail
      rw [h] at hroom
      rw [if_neg hlow] at hport
      omega
  rw [hvalue] at hport
  have hlen : (wordBytes (signedWord tail).toNat.toUInt16.toUInt32).length = tail.length := h.symm
  apply littleEndian_inj hlen
  rw [littleEndian_wordBytes, UInt16.toNat_toUInt32, hvalue, Int.toNat_natCast]
  exact Nat.mod_eq_of_lt (by omega)

namespace Record

/-! ## Fields -/

/-- What a record comes to whose address has ended: its address has to be text, and its last number
a port. -/
def ofFields (head address tail : List UInt8) : Except RecordError Record :=
  match Text.ofUtf8? address with
  | none => .error .invalidUtf8
  | some text =>
    if 0 ≤ signedWord tail ∧ signedWord tail ≤ 65535 then
      .ok ⟨(bytesWord head).toInt32, text, (signedWord tail).toNat.toUInt16⟩
    else .error (.portOutOfRange (signedWord tail))

/-- **A record is read field by field.** -/
theorem decode_append {head field tail : List UInt8} (hhead : head.length = 4)
    (hfield : field.length = addressField) (htail : tail.length = 4) :
    decode (head ++ field ++ tail)
      = if 0 ∈ field then ofFields head (field.takeWhile (· != 0)) tail
        else .error .unterminatedAddress := by
  have hlen : (head ++ field ++ tail).length = recordSize := by
    rw [List.length_append, List.length_append, hhead, hfield, htail]
    rfl
  have hfront : (head ++ field ++ tail).take 4 = head := by
    rw [List.append_assoc, List.take_left' hhead]
  have hmiddle : ((head ++ field ++ tail).drop 4).take addressField = field := by
    rw [List.append_assoc, List.drop_left' hhead, List.take_left' hfield]
  have hback : (head ++ field ++ tail).drop (4 + addressField) = tail := by
    rw [List.drop_left']
    rw [List.length_append, hhead, hfield]
  rw [decode, if_neg (not_not_intro hlen)]
  simp only [hfront, hmiddle, hback, toInt_bytesWord htail]
  by_cases hzero : (0 : UInt8) ∈ field
  · have hany : field.any (· == 0) = true := List.any_eq_true.mpr ⟨0, hzero, rfl⟩
    rw [if_pos hzero, untilZero?, if_pos hany, ofFields]
    rcases hread : Text.ofUtf8? (field.takeWhile (· != 0)) with _ | text
    · simp only [hread]
    · simp only [hread, Bool.and_eq_true, decide_eq_true_eq]
      rfl
  · have hany : ¬ field.any (· == 0) = true := by
      intro hany
      obtain ⟨b, hb, heq⟩ := List.any_eq_true.mp hany
      exact hzero (eq_of_beq heq ▸ hb)
    rw [if_neg hzero, untilZero?, if_neg hany]

/-! ## The address field -/

variable {head address padding tail : List UInt8}

/-- The address of a field is cut at its first zero byte. -/
theorem takeWhile_field (h : 0 ∉ address) (padding : List UInt8) :
    (address ++ 0 :: padding).takeWhile (· != 0) = address := by
  have hall : ∀ x ∈ address, (x != 0) = true := by
    intro x hx
    have hne : x ≠ 0 := by
      rintro rfl
      exact h hx
    simpa using hne
  rw [List.takeWhile_append_of_pos hall]
  simp

/-- **A field that holds a zero byte is an address, the byte that ends it, and padding.** -/
theorem exists_field {field : List UInt8} (h : 0 ∈ field) :
    ∃ padding, field = field.takeWhile (· != 0) ++ 0 :: padding := by
  induction field with
  | nil => cases h
  | cons x xs ih =>
    by_cases hx : x = 0
    · exact ⟨xs, by rw [hx]; rfl⟩
    · have htail : (0 : UInt8) ∈ xs := by
        rcases List.mem_cons.mp h with heq | hmem
        · exact absurd heq.symm hx
        · exact hmem
      obtain ⟨padding, hpadding⟩ := ih htail
      refine ⟨padding, ?_⟩
      rw [List.takeWhile_cons_of_pos (by simpa using hx), List.cons_append, ← hpadding]

/-- Zero bytes behind an address change nothing about where it is cut. -/
theorem takeWhile_append_replicate (xs : List UInt8) (k : Nat) :
    (xs ++ List.replicate k 0).takeWhile (· != 0) = xs.takeWhile (· != 0) := by
  induction xs with
  | nil =>
    rcases k with _ | k
    · rfl
    · rfl
  | cons x xs ih =>
    by_cases hx : x = 0
    · rw [hx]
      rfl
    · have hpos : (x != 0) = true := by simpa using hx
      simp only [List.cons_append, List.takeWhile_cons, hpos, if_true, ih]

/-! ## Reading and writing -/

/-- The written fields of a record are read back. -/
theorem ofFields_written (handle : Int32) (address : String) (port : UInt16) :
    ofFields (wordBytes handle.toUInt32) (Text.utf8 address) (wordBytes port.toUInt32)
      = .ok ⟨handle, address, port⟩ := by
  have hport := port.toNat_lt
  have hrange : 0 ≤ signedWord (wordBytes port.toUInt32)
      ∧ signedWord (wordBytes port.toUInt32) ≤ 65535 := by
    rw [signedWord_port]
    omega
  rw [ofFields, Text.ofUtf8?_utf8]
  simp only [if_pos hrange]
  rw [bytesWord_wordBytes, signedWord_port, Int.toNat_natCast, Int32.toInt32_toUInt32]
  rw [Nat.toUInt16, UInt16.ofNat_toNat]

/-- **Fields that are read are written as they were.** -/
theorem written_of_ofFields {r : Record} (hhead : head.length = 4) (htail : tail.length = 4)
    (h : ofFields head address tail = .ok r) :
    wordBytes r.handle.toUInt32 = head ∧ Text.utf8 r.address = address
      ∧ wordBytes r.port.toUInt32 = tail := by
  rw [ofFields] at h
  rcases hread : Text.ofUtf8? address with _ | text
  · rw [hread] at h
    cases h
  · simp only [hread] at h
    by_cases hrange : 0 ≤ signedWord tail ∧ signedWord tail ≤ 65535
    · rw [if_pos hrange] at h
      cases h
      refine ⟨?_, (Text.ofUtf8?_eq_some_iff.mp hread).symm, wordBytes_port htail hrange⟩
      rw [UInt32.toUInt32_toInt32, wordBytes_bytesWord hhead]
    · rw [if_neg hrange] at h
      cases h

end Record
end SensorGateway.Handshake
