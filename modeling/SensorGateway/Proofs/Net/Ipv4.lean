import SensorGateway.Net.Ipv4
import SensorGateway.Proofs.Text.Bytes
import SensorGateway.Proofs.Text.Numbers
import SensorGateway.Proofs.Text.Words

/-!
Which texts are IPv4 addresses.

`IsDotted` writes an address as four octets with dots between them, and `parse?_eq_some_iff` says
that these are the texts that are read. The reader takes the longest run of digits each time; since
a dot is no digit, that run ends where the written octet does. It also counts digits, and a number
without leading zeros that has four of them is no octet any more, so the count says nothing new.
-/

set_option autoImplicit false

namespace SensorGateway.Net

open Text

/-! ## Numbers at the front -/

theorem spanBase_ten (cs : List Char) : spanBase 10 cs = cs.span Char.isDigit := by
  have hdigit : (fun c => (digitValue? 10 c).isSome) = Char.isDigit := funext isSome_digitValue?_ten
  rw [spanBase, hdigit]

/-- **What is taken off the front is a decimal number within the limits,** up to the first character
that is no digit. -/
theorem takeNumber?_eq_some_iff {maxDigits : Option Nat} {maxValue n : Nat} {cs rest : List Char} :
    takeNumber? 10 maxDigits maxValue cs = some (n, rest)
      ↔ ∃ ds, cs = ds ++ rest ∧ (∀ c ∈ rest.head?, c.isDigit = false) ∧ IsDecimal ds n
        ∧ n ≤ maxValue ∧ ∀ most ∈ maxDigits, ds.length ≤ most := by
  have hspan := spanBase_ten cs
  constructor
  · intro h
    rw [List.span_eq_takeWhile_dropWhile] at hspan
    rw [takeNumber?, hspan] at h
    rcases hvalue : digits? 10 (cs.takeWhile Char.isDigit) with _ | m
    · simp [hvalue] at h
    · simp only [hvalue, Option.ite_none_right_eq_some, Bool.and_eq_true, decide_eq_true_eq,
        Option.all_eq_true, Option.some.injEq, Prod.mk.injEq] at h
      obtain ⟨⟨hmax, hcount⟩, rfl, rfl⟩ := h
      exact ⟨_, List.takeWhile_append_dropWhile.symm, head?_dropWhile,
        digits?_eq_some_iff.mp hvalue, hmax, hcount⟩
  · rintro ⟨ds, rfl, hrest, hdecimal, hmax, hcount⟩
    rw [span_append hdecimal.2.1 hrest] at hspan
    rw [takeNumber?, hspan]
    simp only [digits?_eq_some_iff.mpr hdecimal, Option.ite_none_right_eq_some, Bool.and_eq_true,
      decide_eq_true_eq, Option.all_eq_true, and_true]
    exact ⟨hmax, hcount⟩

/-! ## Octets -/

/-- **An octet:** a decimal number from 0 to 255 that has no zero in front of another digit. -/
def IsOctet (ds : List Char) (x : UInt8) : Prop :=
  IsDecimal ds x.toNat ∧ (ds.head? = some '0' → ds = ['0'])

/-- An octet has three digits at most. -/
theorem IsOctet.length_le {ds : List Char} {x : UInt8} (h : IsOctet ds x) : ds.length ≤ 3 := by
  obtain ⟨hdecimal, hzero⟩ := h
  rcases ds with _ | ⟨c, ds⟩
  · exact Nat.zero_le 3
  · by_cases hc : c = '0'
    · rw [hzero (by rw [hc]; rfl)]
      decide
    · have hpow := hdecimal.pow_le hc
      have hlt := x.toNat_lt
      by_contra hlong
      -- with four digits and no zero in front it would be 1000 at least
      have hthree : 10 ^ 3 ≤ 10 ^ ds.length :=
        Nat.pow_le_pow_right (by decide) (by simp at hlong; omega)
      omega

/-- **What is taken off the front is an octet,** up to the first character that is no digit. -/
theorem takeOctet?_eq_some_iff {x : UInt8} {cs rest : List Char} :
    takeOctet? cs = some (x, rest)
      ↔ ∃ ds, cs = ds ++ rest ∧ (∀ c ∈ rest.head?, c.isDigit = false) ∧ IsOctet ds x := by
  constructor
  · intro h
    rw [takeOctet?] at h
    rcases hnumber : takeNumber? 10 (some 3) 255 cs with _ | ⟨n, left⟩
    · simp [hnumber] at h
    · obtain ⟨ds, rfl, hleft, hdecimal, hmax, -⟩ := takeNumber?_eq_some_iff.mp hnumber
      simp only [hnumber, Option.ite_none_left_eq_some, Option.some.injEq, Prod.mk.injEq] at h
      obtain ⟨hzero, rfl, rfl⟩ := h
      have hvalue : n.toUInt8.toNat = n := UInt8.toNat_ofNat_of_lt' (Nat.lt_succ_of_le hmax)
      refine ⟨ds, rfl, hleft, by rwa [hvalue], fun hhead => ?_⟩
      rcases ds with _ | ⟨c, ds⟩
      · cases hhead
      · obtain rfl : c = '0' := Option.some.inj hhead
        -- what was taken begins with a zero, so it is this zero alone
        have hone : ds.length + left.length + 1 - left.length = 1 := by simpa using hzero
        rw [List.eq_nil_of_length_eq_zero (show ds.length = 0 by omega)]
  · rintro ⟨ds, rfl, hrest, hoctet⟩
    have hmax : x.toNat ≤ 255 := Nat.le_of_lt_succ x.toNat_lt
    have hnumber : takeNumber? 10 (some 3) 255 (ds ++ rest) = some (x.toNat, rest) :=
      takeNumber?_eq_some_iff.mpr ⟨ds, rfl, hrest, hoctet.1, hmax, by
        rintro _ ⟨⟩
        exact hoctet.length_le⟩
    have hzero : ¬ ((ds ++ rest).head? = some '0' && (ds ++ rest).length - rest.length ≠ 1) := by
      rw [List.head?_append_of_ne_nil _ hoctet.1.1]
      simp only [Bool.and_eq_true, decide_eq_true_eq, not_and, not_not]
      intro hhead
      rw [hoctet.2 hhead]
      simp
    rw [takeOctet?, hnumber]
    simp only [if_neg hzero, UInt8.ofNat_toNat]

/-- The shortest spelling of an octet is that of an address. -/
theorem isOctet_toString (x : UInt8) : IsOctet (toString x.toNat).toList x := by
  refine ⟨isDecimal_toString x.toNat, fun hhead => ?_⟩
  have hlist : (toString x.toNat).toList = Nat.toDigits 10 x.toNat := Nat.toList_repr
  rw [hlist] at hhead ⊢
  rw [eq_zero_of_head?_toDigits hhead]
  rfl

/-! ## Addresses -/

theorem takeChar?_eq_some_iff {c : Char} {cs rest : List Char} :
    takeChar? c cs = some rest ↔ cs = c :: rest := by
  rcases cs with _ | ⟨d, cs⟩
  · simp [takeChar?]
  · simp [takeChar?]

namespace Ipv4

/-- **The dotted form of an address:** its four octets, with a dot between each two. -/
def IsDotted (cs : List Char) (x : Ipv4) : Prop :=
  ∃ a b c d, IsOctet a x.a ∧ IsOctet b x.b ∧ IsOctet c x.c ∧ IsOctet d x.d
    ∧ cs = a ++ '.' :: (b ++ '.' :: (c ++ '.' :: d))

/-- **An address is taken off the front exactly if a dotted form stands there** and no further
digit. -/
theorem take?_eq_some_iff {cs rest : List Char} {x : Ipv4} :
    take? cs = some (x, rest)
      ↔ ∃ dotted, cs = dotted ++ rest ∧ (∀ c ∈ rest.head?, c.isDigit = false)
        ∧ IsDotted dotted x := by
  have hdot : ∀ cs : List Char, ∀ c ∈ ('.' :: cs).head?, c.isDigit = false := by
    rintro cs _ ⟨⟩
    rfl
  simp only [take?, Option.bind_eq_bind, Option.bind_eq_some_iff, Prod.exists, Option.pure_def,
    Option.some.injEq, Prod.mk.injEq, takeOctet?_eq_some_iff, takeChar?_eq_some_iff]
  constructor
  · rintro ⟨xa, _, ⟨a, rfl, -, ha⟩, _, rfl, xb, _, ⟨b, rfl, -, hb⟩, _, rfl,
      xc, _, ⟨c, rfl, -, hc⟩, _, rfl, xd, _, ⟨d, rfl, hrest, hd⟩, rfl, rfl⟩
    exact ⟨_, by simp, hrest, a, b, c, d, ha, hb, hc, hd, rfl⟩
  · rintro ⟨_, rfl, hrest, a, b, c, d, ha, hb, hc, hd, rfl⟩
    simp only [List.append_assoc, List.cons_append]
    exact ⟨x.a, _, ⟨a, rfl, hdot _, ha⟩, _, rfl, x.b, _, ⟨b, rfl, hdot _, hb⟩, _, rfl,
      x.c, _, ⟨c, rfl, hdot _, hc⟩, _, rfl, x.d, _, ⟨d, rfl, hrest, hd⟩, rfl, rfl⟩

/-- **An address is read from a text exactly if the text is its dotted form.** -/
theorem parse?_eq_some_iff {s : String} {x : Ipv4} : parse? s = some x ↔ IsDotted s.toList x := by
  have hall : parse? s = some x ↔ take? s.toList = some (x, []) := by
    rw [parse?]
    rcases take? s.toList with _ | ⟨y, _ | ⟨c, rest⟩⟩ <;> simp
  rw [hall, take?_eq_some_iff]
  constructor
  · rintro ⟨dotted, hs, -, hdotted⟩
    rwa [hs, List.append_nil]
  · exact fun h => ⟨s.toList, (List.append_nil _).symm, by simp, h⟩

/-! ## Written forms -/

/-- **The written form of an address is its dotted form.** -/
theorem isDotted_text (x : Ipv4) : IsDotted x.text.toList x := by
  refine ⟨_, _, _, _, isOctet_toString x.a, isOctet_toString x.b, isOctet_toString x.c,
    isOctet_toString x.d, ?_⟩
  have hdot : ".".toList = ['.'] := rfl
  simp only [text, String.toList_append, hdot, List.append_assoc, List.singleton_append]
  rfl

theorem IsDotted.length_le {cs : List Char} {x : Ipv4} (h : IsDotted cs x) : cs.length ≤ 15 := by
  obtain ⟨a, b, c, d, ha, hb, hc, hd, rfl⟩ := h
  have hla := ha.length_le
  have hlb := hb.length_le
  have hlc := hc.length_le
  have hld := hd.length_le
  simp only [List.length_append, List.length_cons]
  omega

/-- A dotted form is made of digits and dots. -/
theorem IsDotted.digit_or_dot {cs : List Char} {x : Ipv4} (h : IsDotted cs x) :
    ∀ c ∈ cs, c.isDigit = true ∨ c = '.' := by
  obtain ⟨a, b, c, d, ha, hb, hc, hd, rfl⟩ := h
  simp only [List.mem_append, List.mem_cons]
  rintro y (hy | rfl | hy | rfl | hy | rfl | hy)
  · exact .inl (ha.1.2.1 y hy)
  · exact .inr rfl
  · exact .inl (hb.1.2.1 y hy)
  · exact .inr rfl
  · exact .inl (hc.1.2.1 y hy)
  · exact .inr rfl
  · exact .inl (hd.1.2.1 y hy)

/-- A written address takes a byte for each character. -/
theorem ascii_text (x : Ipv4) : ∀ c ∈ x.text.toList, c.toNat < 128 := by
  intro c hc
  rcases x.isDotted_text.digit_or_dot c hc with hdigit | rfl
  · have hrange := isDigit_iff.mp hdigit
    omega
  · decide

theorem utf8ByteSize_text_le (x : Ipv4) : x.text.utf8ByteSize ≤ 15 := by
  rw [utf8ByteSize_of_ascii x.ascii_text]
  exact x.isDotted_text.length_le

theorem nul_not_mem_text (x : Ipv4) : '\x00' ∉ x.text.toList := by
  intro hmem
  rcases x.isDotted_text.digit_or_dot _ hmem with hdigit | hdot
  · exact absurd hdigit (by decide)
  · exact absurd hdot (by decide)

end Ipv4

end SensorGateway.Net
