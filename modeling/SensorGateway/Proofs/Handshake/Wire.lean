import SensorGateway.Proofs.Handshake.Format

/-!
Records over the wire, both ways.

The bytes behind the end of an address are padding, and a writer clears them. So reading and writing
once gives a form in which equal records have equal bytes (`canonical_bytes`), and a record comes
back from the wire with its address cut at the first NUL (`record_over_wire`).
-/

set_option autoImplicit false

namespace SensorGateway.Handshake

/-! ## Padding -/

/-- The byte `i` stands in the address field behind the end of the address. -/
def IsPadding (b : List UInt8) (i : Nat) : Prop := ∃ n, EndsAt b n ∧ n < i ∧ i < 20

/-- The bytes `w` are `b` with its padding set to zero. -/
structure ClearedTo (b w : List UInt8) : Prop where
  size : w.length = b.length
  padding : ∀ i, IsPadding b i → w[i]? = some 0
  others : ∀ i, ¬ IsPadding b i → w[i]? = b[i]?

section Padding

variable {b w : List UInt8} {n : Nat}

/-- Padding is what stands between the end of the address and the port. -/
theorem EndsAt.isPadding_iff (h : EndsAt b n) (i : Nat) : IsPadding b i ↔ n < i ∧ i < 20 := by
  constructor
  · rintro ⟨m, hm, hi⟩
    rwa [h.unique hm]
  · intro hi
    exact ⟨n, h, hi⟩

/-- Bytes that differ only in the padding have their address end at the same place. -/
theorem EndsAt.congr (h : EndsAt b n) (hsame : ∀ i, ¬ IsPadding b i → w[i]? = b[i]?) :
    EndsAt w n := by
  have hfront : ∀ i, i ≤ n → w[i]? = b[i]? := by
    intro i hi
    apply hsame
    rw [h.isPadding_iff]
    omega
  refine ⟨h.after, h.inside, ?_, ?_⟩
  · rw [hfront n (Nat.le_refl n)]
    exact h.zero
  · intro i hafter hi
    rw [hfront i (Nat.le_of_lt hi)]
    exact h.first i hafter hi

/-- There is one way to clear the padding. -/
theorem ClearedTo.unique {w' : List UInt8} (h : ClearedTo b w) (h' : ClearedTo b w') : w = w' := by
  apply List.ext_getElem?
  intro i
  by_cases hi : IsPadding b i
  · rw [h.padding i hi, h'.padding i hi]
  · rw [h.others i hi, h'.others i hi]

end Padding

namespace Record

/-! ## What is written -/

section Encode

variable {b head address padding tail : List UInt8} {r : Record}

/-- Bytes that are read have parts, and these are what is read. -/
theorem exists_parts_of_decode (h : decode b = .ok r) :
    ∃ head address padding tail, Parts b head address padding tail
      ∧ ofFields head address tail = .ok r := by
  obtain ⟨hsize, hended, -, -⟩ := decode_eq_ok_iff.mp ⟨r, h⟩
  obtain ⟨head, address, padding, tail, hparts⟩ := exists_parts hsize hended
  exact ⟨head, address, padding, tail, hparts, hparts.decode ▸ h⟩

/-- Zero bytes for padding leave the other parts as they are. -/
theorem Parts.clear (h : Parts b head address padding tail) :
    Parts (head ++ (address ++ 0 :: List.replicate padding.length 0) ++ tail) head address
      (List.replicate padding.length 0) tail := by
  refine ⟨rfl, h.front, ?_, h.text, h.back⟩
  rw [List.length_replicate]
  exact h.field

/-- A record is written as it was read, with its padding cleared. -/
theorem Parts.encode (h : Parts b head address padding tail)
    (hr : ofFields head address tail = .ok r) :
    encode r = .ok (head ++ (address ++ 0 :: List.replicate padding.length 0) ++ tail) := by
  obtain ⟨hhandle, haddress, hport⟩ := written_of_ofFields h.front h.back hr
  have hlen := h.length_field
  rw [List.length_append, List.length_cons] at hlen
  have hfits : ¬ maxAddress < address.length := by
    rw [maxAddress]
    omega
  have hrest : addressField - address.length = padding.length + 1 := by omega
  rw [Record.encode, hhandle, haddress, hport]
  simp only [if_neg hfits]
  rw [hrest, List.replicate_succ, List.append_assoc head]

/-- **That is the bytes with their padding cleared.** -/
theorem Parts.clearedTo (h : Parts b head address padding tail) :
    ClearedTo b (head ++ (address ++ 0 :: List.replicate padding.length 0) ++ tail) := by
  have hclear := h.clear
  have hpadding := h.endsAt.isPadding_iff
  have hfield := h.length_field
  have hfield' := hclear.length_field
  have hfront := h.front
  have hbytes := h.bytes
  -- the padding stands between two pieces that do not change
  have hsplit : ∀ p : List UInt8,
      head ++ (address ++ 0 :: p) ++ tail = (head ++ address ++ [0]) ++ (p ++ tail) := by
    intro p
    simp only [List.append_assoc, List.cons_append, List.nil_append]
  have hlen : (head ++ address ++ [0]).length = 5 + address.length := by
    rw [List.length_append, List.length_append, List.length_singleton]
    omega
  rw [List.length_append, List.length_cons] at hfield
  refine ⟨by rw [h.size, hclear.size], ?_, ?_⟩
  · -- behind the zero byte that ends the address only the padding differs
    intro i hi
    obtain ⟨hafter, hinside⟩ := (hpadding i).mp hi
    have hcount : i - (5 + address.length) < padding.length := by
      rw [addressField] at hfield
      omega
    rw [hsplit, List.getElem?_append_right (by omega), hlen, List.getElem?_append_left]
    · exact List.getElem?_replicate_of_lt hcount
    · rwa [List.length_replicate]
  · intro i hi
    rw [hpadding] at hi
    by_cases hinside : i < 20
    · have hstart : i < (head ++ address ++ [0]).length := by omega
      rw [hbytes, hsplit, hsplit, List.getElem?_append_left hstart,
        List.getElem?_append_left hstart]
    · have hlast : ∀ bytes : List UInt8, (bytes.drop 20)[i - 20]? = bytes[i]? := by
        intro bytes
        rw [List.getElem?_drop, Nat.add_sub_cancel' (Nat.le_of_not_lt hinside)]
      rw [← hlast, ← hlast b, h.drop, hclear.drop]

/-- **Writing what was read clears the padding, and is read as before.** -/
theorem encode_of_decode (h : decode b = .ok r) :
    ∃ w, encode r = .ok w ∧ ClearedTo b w ∧ decode w = .ok r := by
  obtain ⟨head, address, padding, tail, hparts, hr⟩ := exists_parts_of_decode h
  refine ⟨_, hparts.encode hr, hparts.clearedTo, ?_⟩
  rw [hparts.clear.decode, hr]

/-- Records are equal if their bytes are, padding apart. -/
theorem decode_inj_iff {b' : List UInt8} {r' : Record} (h : decode b = .ok r)
    (h' : decode b' = .ok r') : r = r' ↔ ∀ i, b[i]? ≠ b'[i]? → IsPadding b i := by
  obtain ⟨w, hw, hclear, hread⟩ := encode_of_decode h
  obtain ⟨w', hw', hclear', hread'⟩ := encode_of_decode h'
  obtain ⟨hsize, hended, -, -⟩ := decode_eq_ok_iff.mp ⟨r, h⟩
  obtain ⟨_, _, _, _, hparts⟩ := exists_parts hsize hended
  obtain ⟨hsize', hended', -, -⟩ := decode_eq_ok_iff.mp ⟨r', h'⟩
  obtain ⟨_, _, _, _, hparts'⟩ := exists_parts hsize' hended'
  have hends := hparts.endsAt
  constructor
  · rintro rfl
    rw [hw] at hw'
    cases hw'
    -- both addresses end where that of the cleared bytes does
    have hplace := (hends.congr hclear.others).unique (hparts'.endsAt.congr hclear'.others)
    intro i hi
    by_contra hnot
    have hnot' : ¬ IsPadding b' i := by
      rwa [hparts'.endsAt.isPadding_iff, ← hplace, ← hends.isPadding_iff]
    exact hi ((hclear.others i hnot).symm.trans (hclear'.others i hnot'))
  · -- the cleared bytes of one are those of the other, too, and so they are equal
    intro hsame
    have hothers : ∀ i, ¬ IsPadding b i → b'[i]? = b[i]? := by
      intro i hi
      by_contra hne
      exact hi (hsame i (Ne.symm hne))
    have hends' := hends.congr hothers
    have hpadding : ∀ i, IsPadding b' i ↔ IsPadding b i := by
      intro i
      rw [hends.isPadding_iff, hends'.isPadding_iff]
    have hcleared : ClearedTo b w' := by
      refine ⟨?_, ?_, ?_⟩
      · rw [hclear'.size, hsize, hsize']
      · intro i hi
        exact hclear'.padding i ((hpadding i).mpr hi)
      · intro i hi
        rw [← hothers i hi]
        exact hclear'.others i (mt (hpadding i).mp hi)
    rw [hclear.unique hcleared, hread'] at hread
    cases hread
    rfl

end Encode

/-! ## From the wire -/

/-- **The format, and its one written form.** For all bytes: the reader stays within them; it accepts
just the records, and reports the first flaw of all others. What it accepts is written again with
the padding cleared, so that two records are equal if their bytes differ in the padding only; and
reading, writing and reading again is reading once. -/
theorem canonical_bytes (b : List UInt8) :
    decodeWithin? b = some (decode b)
      ∧ ((∃ r, decode b = .ok r) ↔ IsRecord b)
      ∧ (∀ e, decode b = .error e ↔ Flaw b e)
      ∧ (∀ r, decode b = .ok r → ∃ w, encode r = .ok w ∧ ClearedTo b w)
      ∧ (∀ b' r r', decode b = .ok r → decode b' = .ok r' →
        (r = r' ↔ ∀ i, b[i]? ≠ b'[i]? → IsPadding b i))
      ∧ (do decode (← encode (← decode b))) = decode b := by
  refine ⟨decodeWithin?_eq b, decode_eq_ok_iff, fun e => decode_eq_error_iff, ?_, ?_, ?_⟩
  · intro r hr
    obtain ⟨w, hw, hclear, -⟩ := encode_of_decode hr
    exact ⟨w, hw, hclear⟩
  · intro b' r r' hr hr'
    exact decode_inj_iff hr hr'
  · rcases hr : decode b with e | r
    · rfl
    · obtain ⟨w, hw, -, hread⟩ := encode_of_decode hr
      show (encode r >>= decode) = _
      rw [hw]
      exact hread

/-! ## Over the wire -/

/-- What is written is read with its address cut at the first NUL. -/
theorem decode_of_encode {r : Record} (h : r.address.utf8ByteSize ≤ 15) :
    ∃ bytes, encode r = .ok bytes ∧ bytes.length = 24
      ∧ decode bytes = .ok { r with address := Text.untilNul r.address } := by
  have hlen := Text.length_utf8 r.address
  have hfits : ¬ maxAddress < (Text.utf8 r.address).length := by
    rw [hlen]
    exact Nat.not_lt.mpr h
  -- a shorter address leaves room for at least one zero byte
  obtain ⟨k, hk⟩ : ∃ k, addressField - (Text.utf8 r.address).length = k + 1 :=
    ⟨15 - r.address.utf8ByteSize, by rw [hlen, addressField]; omega⟩
  have hfield : (Text.utf8 r.address ++ List.replicate (k + 1) 0).length = addressField := by
    rw [List.length_append, List.length_replicate, ← hk]
    exact Nat.add_sub_cancel' (by rw [hlen, addressField]; omega)
  have hzero : (0 : UInt8) ∈ Text.utf8 r.address ++ List.replicate (k + 1) 0 :=
    List.mem_append_right _ List.mem_cons_self
  have hwritten : encode r = .ok (wordBytes r.handle.toUInt32
      ++ (Text.utf8 r.address ++ List.replicate (k + 1) 0) ++ wordBytes r.port.toUInt32) := by
    rw [encode]
    simp only [if_neg hfits]
    rw [hk, List.append_assoc (wordBytes r.handle.toUInt32)]
  refine ⟨_, hwritten, ?_, ?_⟩
  · rw [List.length_append, List.length_append, hfield]
    rfl
  · rw [decode_append rfl hfield rfl, if_pos hzero, takeWhile_append_replicate,
      ← Text.utf8_untilNul, ofFields_written]

/-- An address without room for the zero byte behind it is refused. -/
theorem encode_of_long {r : Record} (h : 15 < r.address.utf8ByteSize) :
    encode r = .error (.addressTooLong r.address.utf8ByteSize) := by
  have hlen := Text.length_utf8 r.address
  have hover : maxAddress < (Text.utf8 r.address).length := by rwa [hlen]
  rw [encode]
  simp only [if_pos hover]
  rw [hlen]

/-- An address that does not fit is refused, with its number of bytes; no other is. -/
theorem encode_eq_error_iff {r : Record} {e : RecordError} :
    encode r = .error e
      ↔ 15 < r.address.utf8ByteSize ∧ e = .addressTooLong r.address.utf8ByteSize := by
  constructor
  · intro h
    by_cases hlong : 15 < r.address.utf8ByteSize
    · rw [encode_of_long hlong] at h
      cases h
      exact ⟨hlong, rfl⟩
    · obtain ⟨bytes, hbytes, -⟩ := decode_of_encode (Nat.le_of_not_lt hlong)
      rw [hbytes] at h
      cases h
  · rintro ⟨hlong, rfl⟩
    exact encode_of_long hlong

/-- **Records over the wire.** A record is refused exactly if its address has more than 15 bytes.
Every other one has 24 bytes, from which it is read with its address cut at the first NUL; so just
the records whose address fits and has no NUL come back as they were. -/
theorem record_over_wire (r : Record) :
    (∀ e, encode r = .error e
        ↔ 15 < r.address.utf8ByteSize ∧ e = .addressTooLong r.address.utf8ByteSize)
      ∧ (r.address.utf8ByteSize ≤ 15 → ∃ bytes, encode r = .ok bytes ∧ bytes.length = 24
        ∧ decode bytes = .ok { r with address := Text.untilNul r.address })
      ∧ ((∃ bytes, encode r = .ok bytes ∧ decode bytes = .ok r)
        ↔ r.address.utf8ByteSize ≤ 15 ∧ '\x00' ∉ r.address.toList) := by
  refine ⟨fun e => encode_eq_error_iff, decode_of_encode, ?_, ?_⟩
  · rintro ⟨bytes, hbytes, hread⟩
    by_cases hlong : 15 < r.address.utf8ByteSize
    · rw [encode_of_long hlong] at hbytes
      cases hbytes
    · obtain ⟨bytes', hbytes', -, hread'⟩ := decode_of_encode (Nat.le_of_not_lt hlong)
      rw [hbytes] at hbytes'
      cases hbytes'
      rw [hread] at hread'
      -- what comes back has its address cut, so it is the record only if nothing was cut off
      have hcut := congrArg Record.address (Except.ok.inj hread')
      exact ⟨Nat.le_of_not_lt hlong, (Text.untilNul_eq_self_iff _).mp hcut.symm⟩
  · rintro ⟨hfits, hnul⟩
    obtain ⟨bytes, hbytes, -, hread⟩ := decode_of_encode hfits
    rw [(Text.untilNul_eq_self_iff _).mpr hnul] at hread
    exact ⟨bytes, hbytes, hread⟩

end Record

end SensorGateway.Handshake
