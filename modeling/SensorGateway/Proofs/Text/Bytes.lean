import Mathlib.Data.List.TakeWhile
import SensorGateway.Text.Utf8

/-!
Texts and their bytes.

Reading UTF-8 undoes writing it, and a text has only one written form (`ofUtf8?_eq_some_iff`). A
zero byte is the character NUL and never a part of another one. So cutting the bytes of a text at
the first zero byte is cutting the text at its first NUL, however many bytes the characters in front
of it have (`utf8_untilNul`), and what is left is text.
-/

set_option autoImplicit false

namespace SensorGateway.Text

/-! ## Writing and reading -/

/-- The loop lists the bytes from a place on, behind those that it has turned round. -/
theorem byteArray_toList_loop (bytes : ByteArray) (i : Nat) (front : List UInt8) :
    ByteArray.toList.loop bytes i front = front.reverse ++ bytes.data.toList.drop i := by
  fun_induction ByteArray.toList.loop bytes i front with
  | case1 i front h ih =>
    have hi : i < bytes.data.toList.length := by simpa using h
    rw [ih, List.drop_eq_getElem_cons hi]
    simp [ByteArray.get!, h]
  | case2 i front h =>
    have hi : bytes.data.toList.length ≤ i := by simpa using h
    rw [List.drop_eq_nil_of_le hi, List.append_nil]

theorem byteArray_toList (bytes : ByteArray) : bytes.toList = bytes.data.toList :=
  byteArray_toList_loop bytes 0 []

/-- The bytes of a text are those of its characters, one after another. -/
theorem utf8_ofList (cs : List Char) : utf8 (String.ofList cs) = cs.flatMap String.utf8EncodeChar := by
  rw [utf8, String.toUTF8_eq_toByteArray, String.toByteArray_ofList, byteArray_toList,
    List.utf8Encode, List.toList_data_toByteArray]

theorem utf8_eq_flatMap (s : String) : utf8 s = s.toList.flatMap String.utf8EncodeChar := by
  rw [← utf8_ofList, String.ofList_toList]

theorem length_utf8 (s : String) : (utf8 s).length = s.utf8ByteSize := by
  rw [utf8, byteArray_toList]
  rfl

/-- Characters of ASCII have one byte each. -/
theorem utf8ByteSize_of_ascii {s : String} (h : ∀ c ∈ s.toList, c.toNat < 128) :
    s.utf8ByteSize = s.toList.length := by
  rw [← length_utf8, utf8_eq_flatMap, List.length_flatMap]
  have hone : ∀ c ∈ s.toList, (String.utf8EncodeChar c).length = 1 := by
    intro c hc
    rw [String.length_utf8EncodeChar, Char.utf8Size_eq_one_iff, UInt32.le_iff_toNat_le]
    exact Nat.le_of_lt_succ (h c hc)
  rw [List.map_congr_left hone, List.map_const', List.sum_replicate_nat, Nat.mul_one]

/-- **What is written is read back.** -/
theorem ofUtf8?_utf8 (s : String) : ofUtf8? (utf8 s) = some s := by
  have hbytes : (⟨(utf8 s).toArray⟩ : ByteArray) = s.toByteArray := by
    rw [utf8, byteArray_toList]
    rfl
  rw [ofUtf8?, hbytes, String.fromUTF8?, dif_pos s.isValidUTF8]
  rfl

/-- **Bytes are read as a text exactly if they are the written form of it.** -/
theorem ofUtf8?_eq_some_iff {bytes : List UInt8} {s : String} :
    ofUtf8? bytes = some s ↔ bytes = utf8 s := by
  constructor
  · intro h
    rw [ofUtf8?, String.fromUTF8?] at h
    split at h
    · cases h
      rw [utf8, byteArray_toList]
      rfl
    · cases h
  · intro h
    rw [h, ofUtf8?_utf8]

/-- Bytes that some text has. -/
def IsUtf8 (bytes : List UInt8) : Prop := ∃ s, utf8 s = bytes

/-- Bytes are refused exactly if no text has them. -/
theorem ofUtf8?_eq_none_iff {bytes : List UInt8} : ofUtf8? bytes = none ↔ ¬ IsUtf8 bytes := by
  constructor
  · rintro h ⟨s, rfl⟩
    rw [ofUtf8?_utf8] at h
    cases h
  · intro h
    rcases hread : ofUtf8? bytes with _ | s
    · rfl
    · exact absurd ⟨s, (ofUtf8?_eq_some_iff.mp hread).symm⟩ h

/-! ## Zero bytes -/

/-- **Only NUL is written with a zero byte.** -/
theorem zero_not_mem_utf8EncodeChar {c : Char} (h : c ≠ '\x00') :
    0 ∉ String.utf8EncodeChar c := by
  have hval : c.val.toNat ≠ 0 := by
    intro hzero
    exact h (Char.ext (UInt32.toNat_inj.mp hzero))
  have hbyte : ∀ n, 0 < n → n < 256 → (0 : UInt8) ≠ UInt8.ofNat n := by
    intro n hpos hlt heq
    have hnat := congrArg UInt8.toNat heq
    rw [UInt8.toNat_ofNat_of_lt' hlt] at hnat
    exact absurd hnat (Nat.ne_of_lt hpos)
  -- all bytes of a longer form carry a mark in their high bits
  unfold String.utf8EncodeChar
  simp only []
  split
  · simp only [List.mem_singleton]
    exact hbyte _ (by omega) (by omega)
  · split
    · simp only [List.mem_cons, List.not_mem_nil, or_false, not_or]
      exact ⟨hbyte _ (by omega) (by omega), hbyte _ (by omega) (by omega)⟩
    · split
      · simp only [List.mem_cons, List.not_mem_nil, or_false, not_or]
        exact ⟨hbyte _ (by omega) (by omega), hbyte _ (by omega) (by omega),
          hbyte _ (by omega) (by omega)⟩
      · simp only [List.mem_cons, List.not_mem_nil, or_false, not_or]
        exact ⟨hbyte _ (by omega) (by omega), hbyte _ (by omega) (by omega),
          hbyte _ (by omega) (by omega), hbyte _ (by omega) (by omega)⟩

theorem utf8EncodeChar_nul : String.utf8EncodeChar '\x00' = [0] := by decide

/-- The text in front of the first NUL. -/
def untilNul (s : String) : String := String.ofList (s.toList.takeWhile (· ≠ '\x00'))

/-- Cutting leaves a text as it is exactly if there is no NUL in it. -/
theorem untilNul_eq_self_iff (s : String) : untilNul s = s ↔ '\x00' ∉ s.toList := by
  have hlist : untilNul s = s ↔ s.toList.takeWhile (· ≠ '\x00') = s.toList := by
    rw [untilNul, ← String.toList_inj, String.toList_ofList]
  rw [hlist, List.takeWhile_eq_self_iff]
  constructor
  · intro h hmem
    simpa using h _ hmem
  · intro h c hc
    have hne : c ≠ '\x00' := by
      rintro rfl
      exact h hc
    simpa using hne

/-- **The bytes in front of the first zero byte of a text are those of the text in front of its
first NUL.** -/
theorem utf8_untilNul (s : String) : utf8 (untilNul s) = (utf8 s).takeWhile (· != 0) := by
  rw [untilNul, utf8_ofList, utf8_eq_flatMap]
  induction s.toList with
  | nil => rfl
  | cons c cs ih =>
    by_cases hnul : c = '\x00'
    · rw [hnul, List.flatMap_cons, utf8EncodeChar_nul]
      simp
    · have hall : ∀ b ∈ String.utf8EncodeChar c, (b != 0) = true := by
        intro b hb
        have hne : b ≠ 0 := by
          rintro rfl
          exact zero_not_mem_utf8EncodeChar hnul hb
        simpa using hne
      rw [List.takeWhile_cons_of_pos (by simpa using hnul), List.flatMap_cons, List.flatMap_cons,
        List.takeWhile_append_of_pos hall, ih]

end SensorGateway.Text
