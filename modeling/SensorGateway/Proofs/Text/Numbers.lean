import Mathlib.Algebra.Group.Nat.Defs
import SensorGateway.Proofs.Text.Words
import SensorGateway.Text.Number

/-!
Which texts spell a number.

`IsDecimal`, `IsNatural` and `IsInteger` say how numbers are written, and `digits?_eq_some_iff`,
`natural?_eq_some_iff` and `integer?_eq_some_iff` that the readers accept these texts, with these
values, and no others. A sign is no digit, so the first character tells which rule a text is under.
-/

set_option autoImplicit false

namespace SensorGateway.Text

/-! ## Decimal digits -/

/-- **A decimal number:** one digit or more, and the value they have together. -/
def IsDecimal (ds : List Char) (n : Nat) : Prop :=
  ds ≠ [] ∧ (∀ c ∈ ds, c.isDigit = true) ∧ Nat.ofDigitChars 10 ds 0 = n

theorem isDigit_iff {c : Char} : c.isDigit = true ↔ 0x30 ≤ c.toNat ∧ c.toNat ≤ 0x39 := by
  simp only [Char.isDigit, Bool.and_eq_true, decide_eq_true_eq, ge_iff_le, UInt32.le_iff_toNat_le]
  rfl

theorem isBlank_of_isDigit {c : Char} (h : c.isDigit = true) : isBlank c = false := by
  have hrange := isDigit_iff.mp h
  simp only [isBlank, Bool.or_eq_false_iff, Bool.and_eq_false_iff, decide_eq_false_iff_not,
    beq_eq_false_iff_ne]
  omega

theorem IsDecimal.solid {ds : List Char} {n : Nat} (h : IsDecimal ds n) : Solid ds :=
  ⟨h.1, fun c hc => isBlank_of_isDigit (h.2.1 c hc)⟩

theorem IsDecimal.unique {ds : List Char} {n m : Nat} (h : IsDecimal ds n) (h' : IsDecimal ds m) :
    n = m :=
  h.2.2.symm.trans h'.2.2

/-- To the base of ten the digits have their values, and letters have none. -/
theorem digitValue?_ten (c : Char) :
    digitValue? 10 c = if c.isDigit then some (c.toNat - '0'.toNat) else none := by
  have hzero : '0'.toNat = 0x30 := rfl
  rw [digitValue?, hzero]
  by_cases hdigit : c.isDigit = true
  · have hrange := isDigit_iff.mp hdigit
    have hsmall : c.toNat - 0x30 < 10 := by omega
    simp [hdigit, hrange, hsmall]
  · have hrange := fun h => hdigit (isDigit_iff.mpr h)
    -- a letter counts from ten on, and everything else as the base
    rw [if_neg hdigit, if_neg]
    simp only [Bool.and_eq_true, decide_eq_true_eq, if_neg hrange]
    split
    · omega
    · split <;> omega

theorem isSome_digitValue?_ten (c : Char) : (digitValue? 10 c).isSome = c.isDigit := by
  rw [digitValue?_ten]
  rcases c.isDigit <;> rfl

/-- Digits are read in front of a value that has been read already, if there is nothing else among
them. -/
theorem digitsFrom_ten_eq_some_iff {ds : List Char} {front n : Nat} :
    digitsFrom 10 front ds = some n
      ↔ (∀ c ∈ ds, c.isDigit = true) ∧ Nat.ofDigitChars 10 ds front = n := by
  induction ds generalizing front with
  | nil => simp [digitsFrom]
  | cons c ds ih =>
    rw [digitsFrom, digitValue?_ten, Nat.ofDigitChars_cons, List.forall_mem_cons]
    rcases hdigit : c.isDigit with _ | _
    · simp
    · simp only [if_true, true_and]
      rw [Nat.mul_comm front 10]
      exact ih

/-- **Digits are read exactly if they are a decimal number.** -/
theorem digits?_eq_some_iff {ds : List Char} {n : Nat} :
    digits? 10 ds = some n ↔ IsDecimal ds n := by
  rcases ds with _ | ⟨c, ds⟩
  · simp [digits?, IsDecimal]
  · have hcons : c :: ds ≠ [] := List.cons_ne_nil c ds
    rw [digits?, digitsFrom_ten_eq_some_iff, IsDecimal]
    exact (and_iff_right hcons).symm

theorem isDecimal_toDigits (n : Nat) : IsDecimal (Nat.toDigits 10 n) n :=
  ⟨Nat.toDigits_ne_nil, fun _ => Nat.isDigit_of_mem_toDigits (by decide) (by decide),
    Nat.ofDigitChars_toDigits (by decide) (by decide)⟩

theorem isDecimal_toString (n : Nat) : IsDecimal (toString n).toList n := by
  have hlist : (toString n).toList = Nat.toDigits 10 n := Nat.toList_repr
  rw [hlist]
  exact isDecimal_toDigits n

/-- No zero stands in front of the other digits of a written number. -/
theorem eq_zero_of_head?_toDigits {n : Nat} (h : (Nat.toDigits 10 n).head? = some '0') :
    n = 0 := by
  -- the first digit is that of `n / 10` as long as there is another one behind it
  induction n using Nat.strongRecOn with
  | ind n ih =>
    by_cases hlt : n < 10
    · rw [Nat.toDigits_of_lt_base hlt, List.head?_singleton, Option.some.injEq] at h
      exact Nat.digitChar_eq_zero.mp h
    · have hle : 10 ≤ n := Nat.le_of_not_lt hlt
      rw [Nat.toDigits_of_base_le (by decide) hle,
        List.head?_append_of_ne_nil _ Nat.toDigits_ne_nil] at h
      have hzero : n / 10 = 0 := ih (n / 10) (by omega) h
      omega

theorem IsDecimal.zero_cons {ds : List Char} {n : Nat} (h : IsDecimal ds n) :
    IsDecimal ('0' :: ds) n := by
  refine ⟨List.cons_ne_nil _ _, List.forall_mem_cons.mpr ⟨rfl, h.2.1⟩, ?_⟩
  rw [Nat.ofDigitChars_cons]
  exact h.2.2

/-- Zeros that fill a number up leave its value as it is. -/
theorem isDecimal_zeroPadded (width n : Nat) : IsDecimal (zeroPadded width n).toList n := by
  rw [zeroPadded, String.toList_ofList, digitChars]
  induction width - (Nat.toDigits 10 n).length with
  | zero => exact isDecimal_toDigits n
  | succ k ih =>
    rw [List.replicate_succ, List.cons_append]
    exact ih.zero_cons

/-- **Numbers are told apart by their digits,** filled up with zeros or not. -/
theorem zeroPadded_inj {width n n' : Nat}
    (h : (zeroPadded width n).toList = (zeroPadded width n').toList) : n = n' := by
  have hdecimal := isDecimal_zeroPadded width n
  rw [h] at hdecimal
  exact hdecimal.unique (isDecimal_zeroPadded width n')

/-- A number that is not too long fills its width. -/
theorem length_zeroPadded {width n : Nat} (hpos : 0 < width) (h : n < 10 ^ width) :
    (zeroPadded width n).toList.length = width := by
  have hle : (Nat.toDigits 10 n).length ≤ width :=
    (Nat.length_toDigits_le_iff (by decide) hpos).mpr h
  rw [zeroPadded, String.toList_ofList, digitChars, List.length_append, List.length_replicate]
  exact Nat.sub_add_cancel hle

/-- A number that starts with another digit than zero has at least the value of a one there. -/
theorem IsDecimal.pow_le {c : Char} {ds : List Char} {n : Nat} (h : IsDecimal (c :: ds) n)
    (hc : c ≠ '0') : 10 ^ ds.length ≤ n := by
  have hrange := isDigit_iff.mp (h.2.1 c List.mem_cons_self)
  have hone : 1 ≤ c.toNat - '0'.toNat := by
    have hne : c.toNat ≠ 0x30 := fun heq => hc (Char.ext (UInt32.toNat_inj.mp heq))
    have hzero : '0'.toNat = 0x30 := rfl
    omega
  calc 10 ^ ds.length
      ≤ 10 ^ ds.length * (c.toNat - '0'.toNat) := Nat.le_mul_of_pos_right _ hone
    _ ≤ 10 ^ ds.length * (c.toNat - '0'.toNat) + Nat.ofDigitChars 10 ds 0 := Nat.le_add_right _ _
    _ = Nat.ofDigitChars 10 ds (c.toNat - '0'.toNat) := Nat.ofDigitChars_eq_ofDigitChars_zero.symm
    _ = Nat.ofDigitChars 10 (c :: ds) 0 := by
        rw [Nat.ofDigitChars_cons, Nat.mul_zero, Nat.zero_add]
    _ = n := h.2.2

/-! ## Signs -/

/-- **A natural number:** a decimal number, behind a plus sign or not. -/
def IsNatural (cs : List Char) (n : Nat) : Prop :=
  ∃ ds, (cs = ds ∨ cs = '+' :: ds) ∧ IsDecimal ds n

/-- **An integer:** a natural number, or a decimal number behind a minus sign. -/
def IsInteger (cs : List Char) (z : Int) : Prop :=
  (∃ n : Nat, IsNatural cs n ∧ z = n) ∨ ∃ ds, ∃ n : Nat, cs = '-' :: ds ∧ IsDecimal ds n ∧ z = -n

/-- A sign is no part of a decimal number. -/
theorem not_isDecimal_cons {c : Char} (hc : c.isDigit = false) (ds : List Char) (n : Nat) :
    ¬ IsDecimal (c :: ds) n := by
  intro h
  have hdigit := h.2.1 c List.mem_cons_self
  rw [hc] at hdigit
  cases hdigit

/-- Behind a plus sign there is a decimal number, and no second sign. -/
theorem isNatural_plus {ds : List Char} {n : Nat} : IsNatural ('+' :: ds) n ↔ IsDecimal ds n := by
  constructor
  · rintro ⟨digits, rfl | hcons, hdecimal⟩
    · exact absurd hdecimal (not_isDecimal_cons rfl ds n)
    · rwa [(List.cons.inj hcons).2]
  · exact fun h => ⟨ds, Or.inr rfl, h⟩

theorem isNatural_of_ne {cs : List Char} {n : Nat} (hplus : ∀ ds, cs ≠ '+' :: ds) :
    IsNatural cs n ↔ IsDecimal cs n := by
  constructor
  · rintro ⟨digits, rfl | hcons, hdecimal⟩
    · exact hdecimal
    · exact absurd hcons (hplus digits)
  · exact fun h => ⟨cs, Or.inl rfl, h⟩

/-- Behind a minus sign there is a decimal number, and no second sign either. -/
theorem isInteger_minus {ds : List Char} {z : Int} :
    IsInteger ('-' :: ds) z ↔ ∃ n : Nat, IsDecimal ds n ∧ z = -n := by
  constructor
  · rintro (⟨n, hnatural, -⟩ | ⟨digits, n, hcons, hdecimal, hz⟩)
    · rw [isNatural_of_ne (fun ds h => by simp at h)] at hnatural
      exact absurd hnatural (not_isDecimal_cons rfl ds n)
    · rw [(List.cons.inj hcons).2]
      exact ⟨n, hdecimal, hz⟩
  · rintro ⟨n, hdecimal, hz⟩
    exact Or.inr ⟨ds, n, rfl, hdecimal, hz⟩

theorem isInteger_of_ne {cs : List Char} {z : Int} (hminus : ∀ ds, cs ≠ '-' :: ds) :
    IsInteger cs z ↔ ∃ n : Nat, IsNatural cs n ∧ z = n := by
  constructor
  · rintro (h | ⟨digits, n, hcons, -, -⟩)
    · exact h
    · exact absurd hcons (hminus digits)
  · exact Or.inl

/-! ## The readers -/

/-- **A natural number is read from a text exactly if the text spells it** and it is not too
large. -/
theorem natural?_eq_some_iff {max n : Nat} {cs : List Char} :
    natural? max cs = some n ↔ IsNatural cs n ∧ n ≤ max := by
  have hbody : ∀ ds, (digits? 10 ds).filter (· ≤ max) = some n ↔ IsDecimal ds n ∧ n ≤ max := by
    intro ds
    rw [Option.filter_eq_some_iff, digits?_eq_some_iff, decide_eq_true_eq]
  unfold natural?
  split
  · rename_i ds
    rw [hbody, isNatural_plus]
  · rename_i hplus
    rw [hbody, isNatural_of_ne hplus]

/-- **An integer is read from a text exactly if the text spells it** and it is within the bounds. -/
theorem integer?_eq_some_iff {lo hi z : Int} {cs : List Char} :
    integer? lo hi cs = some z ↔ IsInteger cs z ∧ lo ≤ z ∧ z ≤ hi := by
  have hbody : ∀ ds (f : Nat → Int), (digits? 10 ds).map f = some z
      ↔ ∃ n : Nat, IsDecimal ds n ∧ z = f n := by
    intro ds f
    simp only [Option.map_eq_some_iff, digits?_eq_some_iff, eq_comm (a := z)]
  unfold integer?
  rw [Option.filter_eq_some_iff, Bool.and_eq_true, decide_eq_true_eq, decide_eq_true_eq]
  refine and_congr_left fun _ => ?_
  split
  · rename_i ds
    rw [isInteger_minus, ← hbody ds fun n => -n]
    rcases digits? 10 ds <;> rfl
  · rw [hbody, isInteger_of_ne (fun ds h => by simp at h)]
    simp only [isNatural_plus, Int.ofNat_eq_natCast]
  · rename_i hminus hplus
    rw [hbody, isInteger_of_ne hminus]
    simp only [isNatural_of_ne hplus, Int.ofNat_eq_natCast]

/-! ## Spellings of integers -/

theorem isInteger_toString (z : Int) : IsInteger (toString z).toList z := by
  rw [Int.toString_eq_repr, Int.repr_eq_if]
  split
  · rename_i hz
    exact .inl ⟨z.toNat, ⟨_, .inl rfl, isDecimal_toString z.toNat⟩, (Int.toNat_of_nonneg hz).symm⟩
  · refine .inr ⟨_, (-z).toNat, ?_, isDecimal_toString (-z).toNat, by omega⟩
    rw [String.toList_append]
    rfl

/-- **A text spells one integer at most.** -/
theorem IsInteger.unique {cs : List Char} {z z' : Int} (h : IsInteger cs z) (h' : IsInteger cs z') :
    z = z' := by
  -- the reader gives at most one value, so it is asked with bounds that admit both
  have hread : integer? (min z z') (max z z') cs = some z :=
    integer?_eq_some_iff.mpr ⟨h, by omega, by omega⟩
  have hread' : integer? (min z z') (max z z') cs = some z' :=
    integer?_eq_some_iff.mpr ⟨h', by omega, by omega⟩
  exact Option.some.inj (hread.symm.trans hread')

/-- An integer is a word, with its sign. -/
theorem IsInteger.solid {cs : List Char} {z : Int} (h : IsInteger cs z) : Solid cs := by
  have hsigned : ∀ {sign : Char} {ds : List Char} {n : Nat}, isBlank sign = false →
      IsDecimal ds n → Solid (sign :: ds) := by
    intro sign ds n hsign hds
    exact ⟨List.cons_ne_nil _ _, List.forall_mem_cons.mpr ⟨hsign, hds.solid.2⟩⟩
  rcases h with ⟨n, ⟨ds, rfl | rfl, hds⟩, -⟩ | ⟨ds, n, rfl, hds, -⟩
  · exact hds.solid
  · exact hsigned rfl hds
  · exact hsigned rfl hds

end SensorGateway.Text
