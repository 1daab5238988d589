import SensorGateway.Admission.Ledger

/-!
What permits do to the counts of a ledger.

Taking a permit and giving one back both change the first entry of one address and leave every other
entry alone, so each is pinned down by what it does to `count`: one more, or one less, at its own
address, and nothing anywhere else. Nothing here needs the entries to be free of repetitions:
`count` and `adjust` stop at the same entry.
-/

set_option autoImplicit false

namespace SensorGateway.Admission.Ledger

/-! ## One entry -/

/-- Adjusting an address is seen at that address. -/
theorem find?_adjust_self (f : Nat → Nat) (address : String) (es : List Entry) :
    (adjust f address es).find? (·.address = address)
      = (es.find? (·.address = address)).map fun e => { e with count := f e.count } := by
  induction es with
  | nil => rfl
  | cons e es ih =>
    rw [adjust]
    by_cases h : e.address = address
    · rw [if_pos h]
      simp [h]
    · rw [if_neg h]
      simp [h, ih]

/-- Adjusting an address is seen at no other address. -/
theorem find?_adjust_other (f : Nat → Nat) {address other : String} (hne : other ≠ address)
    (es : List Entry) :
    (adjust f address es).find? (·.address = other) = es.find? (·.address = other) := by
  induction es with
  | nil => rfl
  | cons e es ih =>
    rw [adjust]
    by_cases h : e.address = address
    · have hother : ¬ e.address = other := fun h' => hne (h'.symm.trans h)
      rw [if_pos h]
      simp [hother]
    · rw [if_neg h]
      by_cases h' : e.address = other
      · simp [h']
      · simp [h', ih]

/-! ## Giving a permit back -/

@[simp] theorem ceiling_release (l : Ledger) (address : String) :
    (l.release address).ceiling = l.ceiling := rfl

/-- **Giving a permit back takes one from the count of its address** and nothing from the others. A
count of zero stays zero. -/
theorem count_release (l : Ledger) (address other : String) :
    (l.release address).count other
      = if other = address then l.count other - 1 else l.count other := by
  unfold count entry? release
  by_cases h : other = address
  · subst h
    rw [if_pos rfl, find?_adjust_self]
    -- an address without an entry counts zero before and after
    cases l.entries.find? (·.address = other) <;> rfl
  · rw [if_neg h, find?_adjust_other _ h]

/-! ## Taking a permit -/

/-- An address that may have a permit is below the ceiling. -/
theorem count_lt_ceiling_of_wouldAllow {l : Ledger} {address : String}
    (h : l.wouldAllow address = true) : l.count address < l.ceiling := by
  unfold wouldAllow at h
  unfold count
  cases he : l.entry? address with
  | none =>
    rw [he] at h
    simp only [Bool.and_eq_true, decide_eq_true_eq] at h
    exact h.2
  | some e =>
    rw [he] at h
    simpa using h

/-- **A permit is given exactly where the look-ahead says so.** Each has its own test, for a new
address and for one that has an entry: the permit asks for what is in its way, the look-ahead for
what has to be there. -/
theorem isSome_allow? (l : Ledger) (address : String) :
    (l.allow? address).isSome = l.wouldAllow address := by
  unfold allow? wouldAllow
  cases l.entry? address with
  | some e =>
    by_cases hfull : l.ceiling ≤ e.count
    · simp [hfull]
    · simp [hfull, Nat.lt_of_not_le hfull]
  | none =>
    by_cases hroom : l.entries.length < l.capacity
    · by_cases hceiling : 0 < l.ceiling
      · simp [hroom, hceiling, Nat.not_le_of_lt hroom, Nat.ne_of_gt hceiling]
      · simp [Nat.eq_zero_of_not_pos hceiling]
    · simp [hroom, Nat.le_of_not_lt hroom]

variable {l l' : Ledger} {address : String}

/-- A permit that was given is one that the look-ahead would have promised. -/
theorem wouldAllow_of_allow? (h : l.allow? address = some l') : l.wouldAllow address = true := by
  rw [← isSome_allow?, h]
  rfl

/-- **What a permit does to the ledger:** the entry of the address counts one more, or a new one is
put behind the others. -/
theorem eq_of_allow? (h : l.allow? address = some l') :
    l' = { l with entries := match l.entry? address with
      | some _ => adjust (· + 1) address l.entries
      | none => l.entries ++ [⟨address, 1⟩] } := by
  unfold allow? at h
  cases he : l.entry? address with
  | some e =>
    simp only [he] at h
    split at h
    · cases h
    · exact (Option.some.inj h).symm
  | none =>
    simp only [he] at h
    split at h
    · cases h
    · exact (Option.some.inj h).symm

theorem ceiling_of_allow? (h : l.allow? address = some l') : l'.ceiling = l.ceiling := by
  rw [eq_of_allow? h]

/-- **A permit adds one to the count of its address** and nothing to the others. -/
theorem count_of_allow? (h : l.allow? address = some l') (other : String) :
    l'.count other = if other = address then l.count other + 1 else l.count other := by
  have hafter := eq_of_allow? h
  cases he : l.entry? address with
  | some e =>
    rw [he] at hafter
    subst hafter
    unfold count entry?
    by_cases hother : other = address
    · subst hother
      unfold entry? at he
      rw [if_pos rfl, find?_adjust_self, he]
      rfl
    · rw [if_neg hother, find?_adjust_other _ hother]
  | none =>
    rw [he] at hafter
    subst hafter
    -- the new entry stands last, and nothing before it has its address
    unfold entry? at he
    unfold count entry?
    rw [List.find?_append]
    by_cases hother : other = address
    · subst hother
      rw [if_pos rfl, he]
      simp
    · have hnew : ¬ address = other := fun h' => hother h'.symm
      rw [if_neg hother]
      simp [hnew]

/-- **A permit is never given above the ceiling.** -/
theorem count_lt_ceiling_of_allow? (h : l.allow? address = some l') :
    l.count address < l.ceiling :=
  count_lt_ceiling_of_wouldAllow (wouldAllow_of_allow? h)

end SensorGateway.Admission.Ledger
