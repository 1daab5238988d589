import Mathlib.Data.List.Basic
import SensorGateway.Proofs.Handshake.Fields

/-!
The record format.

It is said by the indices of the bytes: `IsRecord` is what a reader asks of them, and `Flaw` the
first thing that it finds missing. `Parts` is the same by fields, as the reader cuts them. The
reader accepts the format and nothing else, and stays within the bytes.
-/

set_option autoImplicit false

namespace SensorGateway.Handshake

/-! ## The format -/

/-- The byte `n` is the first zero byte of the address field. -/
structure EndsAt (b : List UInt8) (n : Nat) : Prop where
  after : 4 ≤ n
  inside : n < 4 + addressField
  zero : b[n]? = some 0
  first : ∀ i, 4 ≤ i → i < n → b[i]? ≠ some 0

theorem EndsAt.unique {b : List UInt8} {n m : Nat} (h : EndsAt b n) (h' : EndsAt b m) : n = m := by
  rcases Nat.lt_trichotomy n m with hlt | heq | hlt
  · exact absurd h.zero (h'.first n h.after hlt)
  · exact heq
  · exact absurd h'.zero (h.first m h'.after hlt)

/-- Some byte of the address field is zero. -/
def Terminated (b : List UInt8) : Prop := ∃ i, 4 ≤ i ∧ i < 4 + addressField ∧ b[i]? = some 0

/-- The address field holds text up to its first zero byte. -/
def HoldsText (b : List UInt8) : Prop := ∀ n, EndsAt b n → Text.IsUtf8 (b.extract 4 n)

/-- The two high bytes of the last number are zero. -/
def HoldsPort (b : List UInt8) : Prop := b[22]? = some 0 ∧ b[23]? = some 0

/-- **Bytes of the record format.** -/
structure IsRecord (b : List UInt8) : Prop where
  size : b.length = 24
  ended : Terminated b
  text : HoldsText b
  port : HoldsPort b

/-- **The first condition of the format that bytes do not meet.** -/
def Flaw (b : List UInt8) : RecordError → Prop
  | .short n => b.length ≠ 24 ∧ n = b.length
  | .unterminatedAddress => b.length = 24 ∧ ¬ Terminated b
  | .invalidUtf8 => b.length = 24 ∧ Terminated b ∧ ¬ HoldsText b
  | .portOutOfRange p =>
    b.length = 24 ∧ Terminated b ∧ HoldsText b ∧ ¬ HoldsPort b ∧ p = signedWord (b.drop 20)
  | .addressTooLong _ => False

/-- Bytes are a record, or some condition is the first that they do not meet. -/
theorem isRecord_or_flaw (b : List UInt8) : IsRecord b ∨ ∃ e, Flaw b e := by
  by_cases hsize : b.length = 24
  · by_cases hended : Terminated b
    · by_cases htext : HoldsText b
      · by_cases hport : HoldsPort b
        · exact Or.inl ⟨hsize, hended, htext, hport⟩
        · exact Or.inr ⟨.portOutOfRange _, hsize, hended, htext, hport, rfl⟩
      · exact Or.inr ⟨.invalidUtf8, hsize, hended, htext⟩
    · exact Or.inr ⟨.unterminatedAddress, hsize, hended⟩
  · exact Or.inr ⟨.short b.length, hsize, rfl⟩

/-! ## The parts of a record -/

namespace Record

/-- Bytes cut into fields, and the address field at the first zero byte. -/
structure Parts (b head address padding tail : List UInt8) : Prop where
  bytes : b = head ++ (address ++ 0 :: padding) ++ tail
  front : head.length = 4
  field : address.length + padding.length = maxAddress
  text : 0 ∉ address
  back : tail.length = 4

section Parts

variable {b head address padding tail : List UInt8}

/-- As many bytes as a record has are three fields. -/
theorem exists_fields (h : b.length = 24) :
    ∃ head field tail : List UInt8, b = head ++ field ++ tail ∧ head.length = 4
      ∧ field.length = addressField ∧ tail.length = 4 := by
  refine ⟨b.take 4, (b.drop 4).take 16, b.drop 20, ?_, ?_, ?_, ?_⟩
  · have hrest : b.drop 20 = (b.drop 4).drop 16 := by rw [List.drop_drop]
    rw [hrest, List.append_assoc, List.take_append_drop, List.take_append_drop]
  · rw [List.length_take]
    omega
  · rw [List.length_take, List.length_drop, addressField]
    omega
  · rw [List.length_drop]
    omega

/-- What is asked of the places 4 to 19 is asked of the address field. -/
theorem terminated_append {field : List UInt8} (hhead : head.length = 4)
    (hfield : field.length = addressField) :
    Terminated (head ++ field ++ tail) ↔ 0 ∈ field := by
  -- the field begins at place 4
  have hget : ∀ i, i < field.length → (head ++ field ++ tail)[4 + i]? = field[i]? := by
    intro i hi
    rw [List.append_assoc, List.getElem?_append_right (by omega), hhead, Nat.add_sub_cancel_left,
      List.getElem?_append_left hi]
  constructor
  · rintro ⟨i, hafter, hinside, hzero⟩
    have hi := hget (i - 4) (by omega)
    rw [Nat.add_sub_cancel' hafter, hzero] at hi
    exact List.mem_of_getElem? hi.symm
  · intro hmem
    obtain ⟨i, hi⟩ := List.mem_iff_getElem?.mp hmem
    obtain ⟨hlt, -⟩ := List.getElem?_eq_some_iff.mp hi
    exact ⟨4 + i, by omega, by omega, by rw [hget i hlt, hi]⟩

/-- Bytes whose address ends can be cut at that place. -/
theorem exists_parts (hsize : b.length = 24) (hended : Terminated b) :
    ∃ head address padding tail, Parts b head address padding tail := by
  obtain ⟨head, field, tail, rfl, hhead, hfield, htail⟩ := exists_fields hsize
  have hzero : (0 : UInt8) ∈ field := (terminated_append hhead hfield).mp hended
  obtain ⟨padding, hpadding⟩ := exists_field hzero
  have hlen := congrArg List.length hpadding
  rw [hfield, List.length_append, List.length_cons] at hlen
  refine ⟨head, field.takeWhile (· != 0), padding, tail, ?_, hhead, ?_, ?_, htail⟩
  · rw [← hpadding]
  · rw [maxAddress]
    omega
  · intro hmem
    simpa using List.mem_takeWhile_imp hmem

namespace Parts

variable (h : Parts b head address padding tail)
include h

/-- The parts fill the field. -/
theorem length_field : (address ++ 0 :: padding).length = addressField := by
  have hfield := h.field
  rw [maxAddress] at hfield
  rw [List.length_append, List.length_cons, addressField] at *
  omega

/-- They make up the bytes of a record. -/
theorem size : b.length = 24 := by
  rw [h.bytes, List.length_append, List.length_append, h.front, h.length_field, h.back]
  rfl

/-- **The reader sees the parts,** and of the padding nothing. -/
theorem decode : decode b = ofFields head address tail := by
  have hzero : (0 : UInt8) ∈ address ++ 0 :: padding :=
    List.mem_append_right address List.mem_cons_self
  rw [h.bytes, decode_append h.front h.length_field h.back, if_pos hzero,
    takeWhile_field h.text]

/-- The address ends where its part does. -/
theorem endsAt : EndsAt b (4 + address.length) := by
  have hfront := h.front
  have hroom := h.length_field
  rw [List.length_append, List.length_cons] at hroom
  -- behind the first four bytes come the field and the port
  have hrest : ∀ i, b[4 + i]? = (address ++ 0 :: padding ++ tail)[i]? := by
    intro i
    rw [h.bytes, List.append_assoc, List.getElem?_append_right (by omega), hfront,
      Nat.add_sub_cancel_left]
  refine ⟨by omega, by omega, ?_, ?_⟩
  · rw [hrest]
    simp
  · intro i hafter hi hzero
    have hi' := hrest (i - 4)
    rw [Nat.add_sub_cancel' hafter, hzero, List.append_assoc,
      List.getElem?_append_left (by omega)] at hi'
    exact h.text (List.mem_of_getElem? hi'.symm)

/-- The bytes up to there are the address. -/
theorem extract : b.extract 4 (4 + address.length) = address := by
  rw [List.extract_eq_take_drop, Nat.add_sub_cancel_left, h.bytes, List.append_assoc,
    List.drop_left' h.front, List.append_assoc, List.take_left]

/-- Whether they are text is a question of that part. -/
theorem holdsText_iff : HoldsText b ↔ Text.IsUtf8 address := by
  constructor
  · intro htext
    have hread := htext _ h.endsAt
    rwa [h.extract] at hread
  · -- the address ends at one place only
    intro htext n hn
    rw [← h.endsAt.unique hn, h.extract]
    exact htext

/-- The last four bytes are the last part. -/
theorem drop : b.drop 20 = tail := by
  rw [h.bytes, List.drop_left']
  rw [List.length_append, h.front, h.length_field]
  rfl

/-- Two high bytes that are zero make its number a port. -/
theorem holdsPort_iff : HoldsPort b ↔ 0 ≤ signedWord tail ∧ signedWord tail ≤ 65535 := by
  have hget : ∀ i, b[20 + i]? = tail[i]? := by
    intro i
    rw [← h.drop, List.getElem?_drop]
  obtain ⟨b₀, b₁, b₂, b₃, rfl⟩ := List.length_eq_four.mp h.back
  rw [HoldsPort, hget 2, hget 3, signedWord_isPort_iff]
  simp

end Parts

end Parts

/-! ## What is read -/

section Decode

variable {b : List UInt8}

/-- **A record is read.** -/
theorem decode_of_isRecord (h : IsRecord b) : ∃ r, decode b = .ok r := by
  obtain ⟨hsize, hended, htext, hport⟩ := h
  obtain ⟨head, address, padding, tail, hparts⟩ := exists_parts hsize hended
  obtain ⟨text, htext⟩ := hparts.holdsText_iff.mp htext
  have hrange := hparts.holdsPort_iff.mp hport
  rw [hparts.decode, ofFields, Text.ofUtf8?_eq_some_iff.mpr htext.symm]
  simp only [if_pos hrange]
  exact ⟨_, rfl⟩

/-- **Bytes that are none are refused for their first flaw.** -/
theorem decode_of_flaw {e : RecordError} (h : Flaw b e) : decode b = .error e := by
  -- a flaw says that the conditions before it are met, which is as far as the reader gets
  cases e with
  | short n =>
    obtain ⟨hsize, rfl⟩ := h
    exact if_pos hsize
  | addressTooLong n => exact h.elim
  | unterminatedAddress =>
    obtain ⟨hsize, hended⟩ := h
    obtain ⟨head, field, tail, rfl, hhead, hfield, htail⟩ := exists_fields hsize
    rw [terminated_append hhead hfield] at hended
    rw [decode_append hhead hfield htail, if_neg hended]
  | invalidUtf8 =>
    obtain ⟨hsize, hended, htext⟩ := h
    obtain ⟨head, address, padding, tail, hparts⟩ := exists_parts hsize hended
    rw [hparts.holdsText_iff] at htext
    rw [hparts.decode, ofFields, Text.ofUtf8?_eq_none_iff.mpr htext]
  | portOutOfRange p =>
    obtain ⟨hsize, hended, htext, hport, rfl⟩ := h
    obtain ⟨head, address, padding, tail, hparts⟩ := exists_parts hsize hended
    obtain ⟨text, htext⟩ := hparts.holdsText_iff.mp htext
    rw [hparts.holdsPort_iff] at hport
    rw [hparts.decode, hparts.drop, ofFields, Text.ofUtf8?_eq_some_iff.mpr htext.symm]
    simp only [if_neg hport]

/-- So the reader accepts the format and nothing else. -/
theorem decode_eq_ok_iff : (∃ r, decode b = .ok r) ↔ IsRecord b := by
  constructor
  · rintro ⟨r, hr⟩
    rcases isRecord_or_flaw b with hrecord | ⟨e, he⟩
    · exact hrecord
    · rw [decode_of_flaw he] at hr
      cases hr
  · exact decode_of_isRecord

/-- And it reports a flaw exactly if it is the first. -/
theorem decode_eq_error_iff {e : RecordError} : decode b = .error e ↔ Flaw b e := by
  constructor
  · intro h
    rcases isRecord_or_flaw b with hrecord | ⟨e', he'⟩
    · obtain ⟨r, hr⟩ := decode_of_isRecord hrecord
      rw [hr] at h
      cases h
    · rw [decode_of_flaw he'] at h
      cases h
      exact he'
  · exact decode_of_flaw

end Decode

/-! ## Bounds -/

/-- The first `n` bytes and the bytes behind them; none if there are fewer. -/
def cut? (n : Nat) (bytes : List UInt8) : Option (List UInt8 × List UInt8) :=
  if n ≤ bytes.length then some (bytes.take n, bytes.drop n) else none

/-- The reader with a check at each access: it has no result where a cursor that goes from field to
field would leave the bytes. -/
def decodeWithin? (bytes : List UInt8) : Option (Except RecordError Record) :=
  if bytes.length ≠ recordSize then some (.error (.short bytes.length))
  else do
    let (head, rest) ← cut? 4 bytes
    let (field, _) ← cut? addressField rest
    match field.findIdx? (· == 0) with
    | none => some (.error .unterminatedAddress)
    | some stop =>
      let (address, _) ← cut? stop field
      let (_, rest) ← cut? addressField rest
      let (tail, _) ← cut? 4 rest
      some (ofFields head address tail)

/-- A cut at the end of the bytes in front takes them. -/
theorem cut?_append {front : List UInt8} {n : Nat} (h : front.length = n) (rest : List UInt8) :
    cut? n (front ++ rest) = some (front, rest) := by
  have hlen : n ≤ (front ++ rest).length := by
    rw [List.length_append]
    omega
  rw [cut?, if_pos hlen, List.take_left' h, List.drop_left' h]

/-- The first zero byte is found where the bytes in front of it end. -/
theorem exists_findIdx? {field : List UInt8} (h : 0 ∈ field) :
    ∃ stop, field.findIdx? (· == 0) = some stop ∧ field.take stop = field.takeWhile (· != 0)
      ∧ stop ≤ field.length := by
  obtain ⟨padding, hpadding⟩ := exists_field h
  have hnone : (field.takeWhile (· != 0)).findIdx? (· == 0) = none := by
    rw [List.findIdx?_eq_none_iff]
    intro x hx
    simpa using List.mem_takeWhile_imp hx
  have hstop : (field.takeWhile (· != 0) ++ 0 :: padding).findIdx? (· == 0)
      = some (field.takeWhile (· != 0)).length := by
    rw [List.findIdx?_append, hnone, List.findIdx?_cons]
    simp
  rw [← hpadding] at hstop
  have hfront := List.takeWhile_prefix (· != (0 : UInt8)) (l := field)
  exact ⟨_, hstop, (List.prefix_iff_eq_take.mp hfront).symm, hfront.length_le⟩

/-- **The reader stays within the bytes,** however many there are. -/
theorem decodeWithin?_eq (b : List UInt8) : decodeWithin? b = some (decode b) := by
  by_cases hsize : b.length = 24
  · -- each cut takes the field that is next, so none of them fails
    obtain ⟨head, field, tail, rfl, hhead, hfield, htail⟩ := exists_fields hsize
    have hin : ¬ (head ++ field ++ tail).length ≠ recordSize := not_not_intro hsize
    rw [decode_append hhead hfield htail, decodeWithin?, if_neg hin, List.append_assoc,
      cut?_append hhead]
    simp only [Option.bind_eq_bind, Option.bind_some, cut?_append hfield]
    by_cases hzero : 0 ∈ field
    · obtain ⟨stop, hstop, htake, hlt⟩ := exists_findIdx? hzero
      have hcut : cut? stop field = some (field.takeWhile (· != 0), field.drop stop) := by
        rw [cut?, if_pos hlt, htake]
      have hback := cut?_append htail []
      rw [List.append_nil] at hback
      simp only [hstop, hcut, hback, Option.bind_some, if_pos hzero]
    · have hnone : field.findIdx? (· == 0) = none := by
        rw [List.findIdx?_eq_none_iff]
        intro x hx
        rw [beq_eq_false_iff_ne]
        rintro rfl
        exact hzero hx
      simp only [hnone, if_neg hzero]
  · have hout : b.length ≠ recordSize := hsize
    rw [decode, decodeWithin?, if_pos hout, if_pos hout]

end Record

end SensorGateway.Handshake
