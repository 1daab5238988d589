import Mathlib.Data.List.Induction
import SensorGateway.Proofs.Admission.Count

/-!
The ledger over whole histories of calls.

One list of entries serves all addresses, and they compete for its room. `run_keeps_counters` says
that they share nothing else: whatever calls are made, the addresses with an entry are the first
ones that a permit was asked for, as many as there is room for, and the count of each of them is
what a counter of its own would show that sees the calls for this address alone. The other
addresses have no permits and get none.

The invariant is `Follows`. The step that needs an argument is the first permit of an address: its
counter has to be zero then, although it may have seen calls before. While there is room every
address that was asked for has an entry (`mem_entitled_of_room`), so this one was never asked for,
and a counter that is never asked to go up stays at zero.
-/

set_option autoImplicit false

namespace SensorGateway.Admission

/-! ## Calls -/

/-- A call of the ledger. -/
inductive Call where
  | allow (address : String)
  | release (address : String)
  | wouldAllow (address : String)
  | count (address : String)
deriving DecidableEq, Repr

namespace Call

/-- The address that a call is about. -/
def address : Call → String
  | allow a => a
  | release a => a
  | wouldAllow a => a
  | count a => a

/-- The address that a call asks a permit for. -/
def asked? : Call → Option String
  | allow a => some a
  | _ => none

/-- What a call does to a counter of the address that it is about: it goes up by one unless it is at
the ceiling, and down by one unless it is at zero. -/
def move (ceiling : Nat) : Call → Nat → Nat
  | allow _, n => if n = ceiling then n else n + 1
  | release _, n => n - 1
  | _, n => n

/-- No call moves a counter past the ceiling, if it was not past it before. -/
theorem move_le {ceiling n : Nat} (call : Call) (h : n ≤ ceiling) :
    call.move ceiling n ≤ ceiling := by
  cases call with
  | allow a =>
    show (if n = ceiling then n else n + 1) ≤ ceiling
    split <;> omega
  | release a => exact Nat.le_trans (Nat.sub_le n 1) h
  | wouldAllow a => exact h
  | count a => exact h

/-- A counter at zero stays there unless a permit is asked for. -/
theorem move_zero {call : Call} (h : call.asked? = none) (ceiling : Nat) :
    call.move ceiling 0 = 0 := by
  cases call with
  | allow a => cases h
  | release a => rfl
  | wouldAllow a => rfl
  | count a => rfl

end Call

/-- **The addresses that a permit was asked for,** each once, in the order of the first asking. -/
def asked (calls : List Call) : List String := (calls.filterMap Call.asked?).eraseDups

/-- The addresses that get an entry: the first that were asked for, as many as there is room for. No
address gets one where the ceiling is zero. -/
def entitled (ceiling capacity : Nat) (calls : List Call) : List String :=
  if ceiling = 0 then [] else (asked calls).take capacity

/-- **The counter of one address,** moved by the calls for this address alone. -/
def counter (ceiling : Nat) (address : String) (calls : List Call) : Nat :=
  (calls.filter (·.address = address)).foldl (fun n call => call.move ceiling n) 0

section Histories

variable {ceiling capacity : Nat} {calls : List Call} {call : Call} {a b : String}

theorem counter_self (ceiling : Nat) (calls : List Call) (call : Call) :
    counter ceiling call.address (calls ++ [call])
      = call.move ceiling (counter ceiling call.address calls) := by
  unfold counter
  rw [List.filter_append, List.foldl_append]
  simp

/-- Asking for a permit, told of the counter: at the ceiling it stays. -/
theorem counter_allow (ceiling : Nat) (a : String) (calls : List Call) :
    counter ceiling a (calls ++ [.allow a])
      = if counter ceiling a calls = ceiling then counter ceiling a calls
        else counter ceiling a calls + 1 :=
  counter_self ceiling calls (.allow a)

/-- A release that finds the counter at zero leaves it there: `Nat` subtraction does. -/
theorem counter_release (ceiling : Nat) (a : String) (calls : List Call) :
    counter ceiling a (calls ++ [.release a]) = counter ceiling a calls - 1 :=
  counter_self ceiling calls (.release a)

theorem counter_other (call : Call) (h : call.address ≠ a) (ceiling : Nat) (calls : List Call) :
    counter ceiling a (calls ++ [call]) = counter ceiling a calls := by
  unfold counter
  rw [List.filter_append, List.foldl_append]
  simp [h]

/-- A counter never passes the ceiling. -/
theorem counter_le (ceiling : Nat) (a : String) (calls : List Call) :
    counter ceiling a calls ≤ ceiling := by
  induction calls using List.reverseRecOn with
  | nil => exact Nat.zero_le ceiling
  | append_singleton calls call ih =>
    by_cases h : call.address = a
    · rw [← h] at ih ⊢
      rw [counter_self]
      exact call.move_le ih
    · rw [counter_other call h]
      exact ih

/-- A permit was asked for an address if one of the calls is that very call. -/
theorem mem_asked : a ∈ asked calls ↔ Call.allow a ∈ calls := by
  unfold asked
  rw [List.mem_eraseDups, List.mem_filterMap]
  constructor
  · rintro ⟨call, hmem, hcall⟩
    cases call with
    | allow x => cases hcall; exact hmem
    | release x => cases hcall
    | wouldAllow x => cases hcall
    | count x => cases hcall
  · intro hmem
    exact ⟨_, hmem, rfl⟩

/-- A counter that was never asked to go up shows zero. -/
theorem counter_eq_zero (h : a ∉ asked calls) : counter ceiling a calls = 0 := by
  induction calls using List.reverseRecOn with
  | nil => rfl
  | append_singleton calls call ih =>
    rw [mem_asked, List.mem_append, not_or] at h
    -- the invariant is that no call so far asks for `a`, which is passed on to the front of the
    -- list
    have hzero : counter ceiling a calls = 0 := ih (fun hold => h.1 (mem_asked.mp hold))
    by_cases haddress : call.address = a
    · have hasked : call.asked? = none := by
        cases call with
        | allow x =>
          cases haddress
          exact absurd (List.mem_singleton.mpr rfl) h.2
        | release x => rfl
        | wouldAllow x => rfl
        | count x => rfl
      rw [← haddress] at hzero ⊢
      rw [counter_self, hzero, Call.move_zero hasked]
    · rw [counter_other call haddress, hzero]

/-- Asking once more for an address that was asked for before changes nothing, wherever in the order
it stands. -/
theorem asked_allow (a : String) (calls : List Call) :
    asked (calls ++ [.allow a]) = if a ∈ asked calls then asked calls else asked calls ++ [a] := by
  have hlast : [Call.allow a].filterMap Call.asked? = [a] := rfl
  unfold asked
  rw [List.filterMap_append, hlast, List.eraseDups_append]
  generalize calls.filterMap Call.asked? = before
  by_cases h : a ∈ before
  · rw [if_pos (List.mem_eraseDups.mpr h)]
    simp [List.removeAll, h]
  · rw [if_neg (mt List.mem_eraseDups.mp h)]
    simp [List.removeAll, h, List.eraseDups_cons]

theorem asked_other (h : call.asked? = none) (calls : List Call) :
    asked (calls ++ [call]) = asked calls := by
  unfold asked
  rw [List.filterMap_append, List.filterMap_cons_none h, List.filterMap_nil, List.append_nil]

/-- **No address is asked for first more than once.** The induction is on the calls from the end,
where the only step that adds an address is one for an address that is new. -/
theorem nodup_asked (calls : List Call) : (asked calls).Nodup := by
  induction calls using List.reverseRecOn with
  | nil => exact List.nodup_nil
  | append_singleton calls call ih =>
    cases call with
    | allow a =>
      rw [asked_allow]
      split
      · exact ih
      · rename_i hnew
        refine List.nodup_append.mpr ⟨ih, List.pairwise_singleton _ a, ?_⟩
        rintro x hx y hy rfl
        rw [List.mem_singleton.mp hy] at hx
        exact hnew hx
    | release a =>
      rw [asked_other rfl]
      exact ih
    | wouldAllow a =>
      rw [asked_other rfl]
      exact ih
    | count a =>
      rw [asked_other rfl]
      exact ih

/-- Whoever is entitled stays so whatever is released, looked at or counted. -/
theorem entitled_other (h : call.asked? = none) (ceiling capacity : Nat) (calls : List Call) :
    entitled ceiling capacity (calls ++ [call]) = entitled ceiling capacity calls := by
  unfold entitled
  rw [asked_other h]

/-- While there is room, every address that was asked for has an entry. -/
theorem mem_entitled_of_room (hceiling : 0 < ceiling)
    (hroom : (entitled ceiling capacity calls).length < capacity) (h : a ∈ asked calls) :
    a ∈ entitled ceiling capacity calls := by
  have hne : ¬ ceiling = 0 := by omega
  unfold entitled at hroom ⊢
  rw [if_neg hne] at hroom ⊢
  rw [List.length_take] at hroom
  rw [List.take_of_length_le (by omega)]
  exact h

/-- **Who gets an entry when a permit is asked for:** a new address, while there is room. -/
theorem entitled_allow (ceiling capacity : Nat) (a : String) (calls : List Call) :
    entitled ceiling capacity (calls ++ [.allow a])
      = if a ∉ entitled ceiling capacity calls ∧ 0 < ceiling
            ∧ (entitled ceiling capacity calls).length < capacity
        then entitled ceiling capacity calls ++ [a] else entitled ceiling capacity calls := by
  by_cases hceiling : ceiling = 0
  · simp [entitled, hceiling]
  · have hpos : 0 < ceiling := by omega
    have htake : ∀ calls, entitled ceiling capacity calls = (asked calls).take capacity := by
      intro calls
      rw [entitled, if_neg hceiling]
    by_cases hnew : a ∉ entitled ceiling capacity calls ∧ 0 < ceiling
        ∧ (entitled ceiling capacity calls).length < capacity
    · have hasked : a ∉ asked calls := fun h => hnew.1 (mem_entitled_of_room hpos hnew.2.2 h)
      have hroom := hnew.2.2
      rw [htake, List.length_take] at hroom
      -- neither list is cut, as both are within the capacity
      rw [if_pos hnew, htake, htake, asked_allow, if_neg hasked,
        List.take_of_length_le (by rw [List.length_append, List.length_singleton]; omega),
        List.take_of_length_le (by omega)]
    · rw [if_neg hnew, htake, htake, asked_allow]
      by_cases hasked : a ∈ asked calls
      · rw [if_pos hasked]
      · -- it was never asked for, so what it lacks is room
        have hout : a ∉ entitled ceiling capacity calls := by
          rw [htake]
          exact fun h => hasked (List.mem_of_mem_take h)
        have hfull : ¬ (entitled ceiling capacity calls).length < capacity :=
          fun h => hnew ⟨hout, hpos, h⟩
        rw [htake, List.length_take] at hfull
        rw [if_neg hasked, List.take_append_of_le_length (by omega)]

end Histories

/-! ## The entries -/

namespace Ledger

variable {l l' : Ledger} {a : String}

/-- The addresses that have an entry, in the order of their first permits. -/
def addresses (l : Ledger) : List String := l.entries.map Entry.address

/-- A look-up finds nobody exactly where the address is not listed. -/
theorem entry?_eq_none_iff : l.entry? a = none ↔ a ∉ l.addresses := by
  unfold entry? addresses
  rw [List.find?_eq_none, List.mem_map]
  constructor
  · rintro h ⟨e, hmem, he⟩
    exact h e hmem (by simpa using he)
  · intro h e hmem he
    exact h ⟨e, hmem, by simpa using he⟩

theorem count_eq_zero (h : a ∉ l.addresses) : l.count a = 0 := by
  unfold count
  rw [entry?_eq_none_iff.mpr h]

/-- **Who would get a permit,** told by addresses and counts. -/
theorem wouldAllow_iff :
    l.wouldAllow a = true
      ↔ (a ∈ l.addresses ∧ l.count a < l.ceiling)
        ∨ (a ∉ l.addresses ∧ 0 < l.ceiling ∧ l.addresses.length < l.capacity) := by
  have hlength : l.addresses.length = l.entries.length := List.length_map _
  by_cases h : a ∈ l.addresses
  · obtain ⟨e, he⟩ : ∃ e, l.entry? a = some e := by
      rcases hentry : l.entry? a with _ | e
      · exact absurd h (entry?_eq_none_iff.mp hentry)
      · exact ⟨e, rfl⟩
    unfold wouldAllow count
    simp [he, h]
  · unfold wouldAllow
    rw [entry?_eq_none_iff.mpr h]
    simp [h, hlength, and_comm]

/-- Counts may move, addresses stay where they are. -/
theorem addresses_adjust (f : Nat → Nat) (a : String) (es : List Entry) :
    (adjust f a es).map Entry.address = es.map Entry.address := by
  induction es with
  | nil => rfl
  | cons e es ih =>
    rw [adjust]
    split
    · rfl
    · rw [List.map_cons, List.map_cons, ih]

/-- **Giving a permit back frees no entry,** not even that of an address without permits. -/
@[simp] theorem addresses_release (l : Ledger) (a : String) :
    (l.release a).addresses = l.addresses :=
  addresses_adjust (· - 1) a l.entries

/-- A first permit makes an entry, at the end. -/
theorem addresses_of_allow? (h : l.allow? a = some l') :
    l'.addresses = if a ∈ l.addresses then l.addresses else l.addresses ++ [a] := by
  have hafter := eq_of_allow? h
  rcases he : l.entry? a with _ | e
  · rw [he] at hafter
    subst hafter
    rw [if_neg (entry?_eq_none_iff.mp he)]
    simp [addresses]
  · rw [he] at hafter
    subst hafter
    have hmem : a ∈ l.addresses := by
      by_contra hout
      rw [entry?_eq_none_iff.mpr hout] at he
      cases he
    rw [if_pos hmem]
    exact addresses_adjust (· + 1) a l.entries

/-- Who is refused a permit would be refused it by the look-ahead, too. -/
theorem not_wouldAllow (h : l.allow? a = none) : ¬ l.wouldAllow a = true := by
  rw [← isSome_allow?, h]
  exact Bool.false_ne_true

theorem capacity_of_allow? (h : l.allow? a = some l') : l'.capacity = l.capacity := by
  rw [eq_of_allow? h]

/-! ## Runs -/

/-- A ledger before its first permit. -/
def fresh (ceiling capacity : Nat) : Ledger := { ceiling := ceiling, capacity := capacity }

/-- The ledger after a call. One that only looks, or asks for a permit in vain, leaves it as it is.
-/
def apply (l : Ledger) : Call → Ledger
  | .allow a => (l.allow? a).getD l
  | .release a => l.release a
  | .wouldAllow _ => l
  | .count _ => l

/-- **The ledger after a list of calls,** the first one first. -/
def run (l : Ledger) (calls : List Call) : Ledger := calls.foldl apply l

/-- A history may be cut anywhere, and the ledger at the cut carries all that the rest depends
on. -/
theorem run_append (l : Ledger) (calls more : List Call) :
    l.run (calls ++ more) = (l.run calls).run more := List.foldl_append

/-- **A ledger shows what the counters of its addresses show.** -/
structure Follows (l : Ledger) (ceiling capacity : Nat) (calls : List Call) : Prop where
  sameCeiling : l.ceiling = ceiling
  sameCapacity : l.capacity = capacity
  tracked : l.addresses = entitled ceiling capacity calls
  counted : ∀ a ∈ l.addresses, l.count a = counter ceiling a calls

/-- A ledger that nobody has called shows nothing, and so do the counters. -/
theorem follows_fresh (ceiling capacity : Nat) :
    (fresh ceiling capacity).Follows ceiling capacity [] where
  sameCeiling := rfl
  sameCapacity := rfl
  tracked := by simp [fresh, Ledger.addresses, entitled, asked]
  counted := by
    intro a ha
    cases ha

variable {ceiling capacity : Nat} {calls : List Call}

/-- A permit that is given moves the counter of its address up. -/
theorem Follows.allow (h : l.Follows ceiling capacity calls) (hl : l.allow? a = some l') :
    l'.Follows ceiling capacity (calls ++ [.allow a]) where
  sameCeiling := (ceiling_of_allow? hl).trans h.sameCeiling
  sameCapacity := (capacity_of_allow? hl).trans h.sameCapacity
  tracked := by
    rw [addresses_of_allow? hl, entitled_allow, ← h.tracked]
    rcases wouldAllow_iff.mp (wouldAllow_of_allow? hl) with ⟨hmem, -⟩ | ⟨hout, hpos, hroom⟩
    · rw [if_pos hmem, if_neg (fun hnew => hnew.1 hmem)]
    · rw [h.sameCeiling] at hpos
      rw [h.sameCapacity] at hroom
      rw [if_neg hout, if_pos ⟨hout, hpos, hroom⟩]
  counted := by
    intro b hb
    have hbelow := count_lt_ceiling_of_allow? hl
    rw [h.sameCeiling] at hbelow
    rw [count_of_allow? hl]
    by_cases hsame : a = b
    · -- the count before is that of the counter, also for an address without an entry
      have hcount : l.count a = counter ceiling a calls := by
        rcases wouldAllow_iff.mp (wouldAllow_of_allow? hl) with ⟨hmem, -⟩ | ⟨hout, hpos, hroom⟩
        · exact h.counted a hmem
        · have hnever : a ∉ asked calls := by
            intro hasked
            rw [h.sameCeiling] at hpos
            rw [h.sameCapacity, h.tracked] at hroom
            rw [h.tracked] at hout
            exact hout (mem_entitled_of_room hpos hroom hasked)
          rw [count_eq_zero hout, counter_eq_zero hnever]
      have hne : ¬ counter ceiling a calls = ceiling := by omega
      rw [← hsame, if_pos rfl, hcount, counter_allow, if_neg hne]
    · have hold : b ∈ l.addresses := by
        rw [addresses_of_allow? hl] at hb
        split at hb
        · exact hb
        · rcases List.mem_append.mp hb with hold | hnew
          · exact hold
          · exact absurd (List.mem_singleton.mp hnew).symm hsame
      have hstill := counter_other (.allow a) hsame ceiling calls
      -- another address: neither its entry nor its counter is touched
      rw [if_neg (Ne.symm hsame), hstill]
      exact h.counted b hold

/-- A permit that is refused moves nothing: the counter is at the ceiling, or there is none. -/
theorem Follows.refused (h : l.Follows ceiling capacity calls) (hl : l.allow? a = none) :
    l.Follows ceiling capacity (calls ++ [.allow a]) where
  sameCeiling := h.sameCeiling
  sameCapacity := h.sameCapacity
  tracked := by
    -- nobody becomes entitled, or the look-ahead would have said yes
    rw [entitled_allow, ← h.tracked, if_neg]
    rintro ⟨hout, hpos, hroom⟩
    rw [← h.sameCeiling] at hpos
    rw [← h.sameCapacity] at hroom
    exact not_wouldAllow hl (wouldAllow_iff.mpr (.inr ⟨hout, hpos, hroom⟩))
  counted := by
    intro b hb
    rw [h.counted b hb]
    by_cases hsame : a = b
    · rw [← hsame] at hb ⊢
      have hfull : ¬ l.count a < l.ceiling :=
        fun hbelow => not_wouldAllow hl (wouldAllow_iff.mpr (.inl ⟨hb, hbelow⟩))
      have hle := counter_le ceiling a calls
      rw [h.sameCeiling, h.counted a hb] at hfull
      have htop : counter ceiling a calls = ceiling := by omega
      rw [counter_allow, if_pos htop]
    · exact (counter_other (.allow a) hsame ceiling calls).symm

/-- A release moves entry and counter of its address down together, both of which stop at zero. -/
theorem Follows.release (h : l.Follows ceiling capacity calls) (a : String) :
    (l.release a).Follows ceiling capacity (calls ++ [.release a]) where
  sameCeiling := h.sameCeiling
  sameCapacity := h.sameCapacity
  tracked := by
    rw [addresses_release, entitled_other rfl]
    exact h.tracked
  counted := by
    intro b hb
    rw [addresses_release] at hb
    rw [count_release, h.counted b hb]
    by_cases hsame : a = b
    · rw [← hsame, if_pos rfl, counter_release]
    · rw [if_neg (Ne.symm hsame)]
      exact (counter_other (.release a) hsame ceiling calls).symm

/-- A call that only looks moves nothing. -/
theorem Follows.look (h : l.Follows ceiling capacity calls) {call : Call}
    (hasked : call.asked? = none) (hstill : ∀ n, call.move ceiling n = n) :
    l.Follows ceiling capacity (calls ++ [call]) where
  sameCeiling := h.sameCeiling
  sameCapacity := h.sameCapacity
  tracked := by
    rw [entitled_other hasked]
    exact h.tracked
  counted := by
    intro b hb
    rw [h.counted b hb]
    by_cases hsame : call.address = b
    · rw [← hsame, counter_self, hstill]
    · rw [counter_other call hsame]

/-- **One call keeps ledger and counters together.** -/
theorem Follows.apply (h : l.Follows ceiling capacity calls) (call : Call) :
    (l.apply call).Follows ceiling capacity (calls ++ [call]) := by
  cases call with
  | allow a =>
    rcases hl : l.allow? a with _ | l'
    · simp only [Ledger.apply, hl, Option.getD_none]
      exact h.refused hl
    · simp only [Ledger.apply, hl, Option.getD_some]
      exact h.allow hl
  | release a => exact h.release a
  | wouldAllow a => exact h.look rfl fun _ => rfl
  | count a => exact h.look rfl fun _ => rfl

/-- **A ledger follows the counters of its addresses** over every history, by induction on the calls
from the end: `Follows` speaks of the calls so far, and the last one is the step. -/
theorem follows_run (ceiling capacity : Nat) (calls : List Call) :
    ((fresh ceiling capacity).run calls).Follows ceiling capacity calls := by
  induction calls using List.reverseRecOn with
  | nil => exact follows_fresh ceiling capacity
  | append_singleton calls call ih =>
    rw [run_append]
    exact ih.apply call

/-- No call takes an entry away or moves one. -/
theorem addresses_prefix_apply (l : Ledger) (call : Call) :
    l.addresses <+: (l.apply call).addresses := by
  cases call with
  | allow a =>
    rcases hl : l.allow? a with _ | l'
    · simp only [Ledger.apply, hl, Option.getD_none]
      exact List.prefix_refl _
    · simp only [Ledger.apply, hl, Option.getD_some]
      rw [addresses_of_allow? hl]
      split
      · exact List.prefix_refl _
      · exact List.prefix_append _ _
  | release a =>
    simp only [Ledger.apply, addresses_release]
    exact List.prefix_refl _
  | wouldAllow a => exact List.prefix_refl _
  | count a => exact List.prefix_refl _

/-- Entries are only ever appended, so those of any moment stand in front of those of any later
one. -/
theorem addresses_prefix_run (l : Ledger) (calls : List Call) :
    l.addresses <+: (l.run calls).addresses := by
  induction calls generalizing l with
  | nil => exact List.prefix_refl _
  | cons call rest ih => exact (addresses_prefix_apply l call).trans (ih (l.apply call))

/-- **A full ledger has no entry for anybody new,** whatever comes. -/
theorem addresses_of_full {more : List Call} (hfull : l.addresses.length = capacity)
    (h : (l.run more).Follows ceiling capacity (calls ++ more)) :
    (l.run more).addresses = l.addresses := by
  have hgrown := addresses_prefix_run l more
  have hbound : (l.run more).addresses.length ≤ capacity := by
    rw [h.tracked]
    unfold entitled
    split
    · exact Nat.zero_le capacity
    · exact List.length_take_le capacity _
  -- the list has grown at its end, and there is no room behind it
  exact (hgrown.eq_of_length_le (by omega)).symm

/-- **The ledger is a counter for each address that it has room for.** For any ceiling and capacity,
after any list of calls on a new ledger: the addresses with an entry are the first that a permit was
asked for, without repetition and as many as there is room for, and none where the ceiling is zero;
none of them is ever dropped. The count of such an address is what its counter shows, which sees the
calls for this address alone, and no more than the ceiling; any other address counts zero. A permit
is given to an address with an entry and a count below the ceiling, and to a new one while there is
room and the ceiling is not zero; so once the ledger is full no new address gets one in the rest of
the run. The look-ahead answers what a call for a permit would answer, and a call that is refused
leaves the ledger as it is. -/
theorem run_keeps_counters (ceiling capacity : Nat) (calls : List Call) :
    let l := (fresh ceiling capacity).run calls
    l.addresses = (if ceiling = 0 then [] else (asked calls).take capacity)
      ∧ l.addresses.Nodup
      ∧ (∀ more, l.addresses <+: (l.run more).addresses)
      ∧ (∀ a ∈ l.addresses, l.count a = counter ceiling a calls ∧ l.count a ≤ ceiling)
      ∧ (∀ a, a ∉ l.addresses → l.count a = 0)
      ∧ (∀ a, (l.allow? a).isSome = true
          ↔ (a ∈ l.addresses ∧ l.count a < ceiling)
            ∨ (a ∉ l.addresses ∧ 0 < ceiling ∧ l.addresses.length < capacity))
      ∧ (l.addresses.length = capacity →
          ∀ more a, a ∉ l.addresses → (l.run more).allow? a = none)
      ∧ (∀ a, l.wouldAllow a = (l.allow? a).isSome)
      ∧ ∀ a, l.allow? a = none → l.apply (.allow a) = l := by
  intro l
  have h : l.Follows ceiling capacity calls := follows_run ceiling capacity calls
  have hgive : ∀ {l : Ledger} {calls : List Call}, l.Follows ceiling capacity calls → ∀ a,
      (l.allow? a).isSome = true
        ↔ (a ∈ l.addresses ∧ l.count a < ceiling)
          ∨ (a ∉ l.addresses ∧ 0 < ceiling ∧ l.addresses.length < capacity) := by
    intro l calls h a
    rw [isSome_allow?, wouldAllow_iff, h.sameCeiling, h.sameCapacity]
  refine ⟨h.tracked, ?_, addresses_prefix_run l, fun a ha => ?_, fun a ha => count_eq_zero ha,
    hgive h, fun hfull more a ha => ?_, fun a => (isSome_allow? l a).symm, fun a ha => ?_⟩
  · rw [h.tracked]
    unfold entitled
    split
    · exact List.nodup_nil
    · exact (nodup_asked calls).sublist (List.take_sublist capacity _)
  · rw [h.counted a ha]
    exact ⟨rfl, counter_le ceiling a calls⟩
  · have hmore : (l.run more).Follows ceiling capacity (calls ++ more) := by
      have hrun := follows_run ceiling capacity (calls ++ more)
      rwa [run_append] at hrun
    have hsame := addresses_of_full hfull hmore
    rw [← Option.not_isSome_iff_eq_none, hgive hmore a, hsame, hfull]
    rintro (⟨hin, -⟩ | ⟨-, -, hroom⟩)
    · exact ha hin
    · exact Nat.lt_irrefl capacity hroom
  · simp only [apply, ha, Option.getD_none]

end Ledger

end SensorGateway.Admission
