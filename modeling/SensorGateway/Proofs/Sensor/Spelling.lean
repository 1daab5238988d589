import SensorGateway.Proofs.Text.Numbers
import SensorGateway.Proofs.Text.Words
import SensorGateway.Reading

/-!
How identifiers of sensors are spelled.

An identifier is read from a text exactly if a natural number of 32 bits is left of it when the
blanks at its ends are cut (`parse?_eq_some_iff`). A bound on the value is no bound on the length,
so no text is too long to be one. What is shown of an identifier is one of its spellings, and as
digits are no blanks, it is found again between any blanks.
-/

set_option autoImplicit false

namespace SensorGateway.SensorId

open Text

variable {s : String} {id : SensorId}

/-- **An identifier is read exactly from its spellings.** -/
theorem parse?_eq_some_iff :
    parse? s = some id ↔ IsNatural (trimChars s.toList) id.value.toNat := by
  rw [parse?, Option.map_eq_some_iff]
  simp only [natural?_eq_some_iff]
  constructor
  · rintro ⟨n, ⟨hnatural, hmax⟩, rfl⟩
    have hvalue : n.toUInt32.toNat = n := UInt32.toNat_ofNat_of_lt' (Nat.lt_succ_of_le hmax)
    rwa [hvalue]
  · intro h
    exact ⟨_, ⟨h, Nat.le_of_lt_succ id.value.toNat_lt⟩, congrArg SensorId.mk UInt32.ofNat_toNat⟩

/-- No identifier is read exactly if no number is there, or one of more than 32 bits. -/
theorem parse?_eq_none_iff :
    parse? s = none ↔ ∀ n, IsNatural (trimChars s.toList) n → maxWord32 < n := by
  rw [parse?, Option.map_eq_none_iff, Option.eq_none_iff_forall_ne_some]
  simp only [ne_eq, natural?_eq_some_iff, not_and, Nat.not_le]

theorem isDecimal_text (id : SensorId) : IsDecimal id.text.toList id.value.toNat :=
  isDecimal_toString id.value.toNat

theorem trims_text {front back : List Char} (hfront : Gap front) (hback : Gap back)
    (id : SensorId) : Trims (front ++ id.text.toList ++ back) id.text.toList :=
  have hsolid := (isDecimal_text id).solid
  ⟨front, back, hfront, hback, rfl, fun c hc => hsolid.2 c (List.mem_of_mem_head? hc),
    fun c hc => hsolid.2 c (List.mem_of_mem_getLast? hc)⟩

/-- **Identifiers and their texts.** For every text: it is read as an identifier exactly if what is
left between the blanks at its ends is one decimal digit or more, behind a plus sign or not, with
the identifier as their value. It is refused, and given back as it was, exactly if nothing of the
kind is left, or a value that needs more than 32 bits. And if it is what is shown of an identifier
with blanks around it, or without, it is read as that one. -/
theorem parse_spelling (s : String) :
    (∀ id, parse s = .ok id
        ↔ ∃ kept, Trims s.toList kept ∧ IsNatural kept id.value.toNat)
      ∧ (∀ e, parse s = .error e
        ↔ e = ⟨s⟩ ∧ ∀ kept n, Trims s.toList kept → IsNatural kept n → 4294967295 < n)
      ∧ ∀ id front back, Gap front → Gap back → s.toList = front ++ id.text.toList ++ back →
        parse s = .ok id := by
  have hok : ∀ id, parse s = .ok id ↔ parse? s = some id := by
    intro id
    rw [parse]
    rcases parse? s with _ | other
    · simp
    · simp
  have hread : ∀ id, parse s = .ok id
      ↔ ∃ kept, Trims s.toList kept ∧ IsNatural kept id.value.toNat := by
    intro id
    rw [hok, parse?_eq_some_iff]
    constructor
    · exact fun h => ⟨_, trims_trimChars _, h⟩
    · rintro ⟨kept, hkept, h⟩
      rwa [trimChars_eq_iff.mpr hkept]
  -- trimming leaves one text only, so what holds of some cut of the blanks holds of every one
  refine ⟨hread, fun e => ?_, fun id front back hfront hback hs => ?_⟩
  · have herror : parse s = .error e ↔ e = ⟨s⟩ ∧ parse? s = none := by
      rw [parse]
      rcases parse? s with _ | other
      · simp [eq_comm]
      · simp
    rw [herror, parse?_eq_none_iff]
    refine and_congr_right fun _ => ⟨fun h kept n hkept hnatural => ?_, fun h n hnatural => ?_⟩
    · rw [← trimChars_eq_iff.mpr hkept] at hnatural
      exact h n hnatural
    · exact h _ n (trims_trimChars _) hnatural
  · refine (hread id).mpr ⟨id.text.toList, ?_, id.text.toList, .inl rfl, isDecimal_text id⟩
    rw [hs]
    exact trims_text hfront hback id

/-- Zeros in front of the digits count for nothing, and neither does a plus sign. -/
example : parse "\u2003+0000000000042\n" = .ok ⟨42⟩ := by decide

/-- The text is given back with its blanks. -/
example : parse " 4294967296 " = .error ⟨" 4294967296 "⟩ := by decide

end SensorGateway.SensorId
