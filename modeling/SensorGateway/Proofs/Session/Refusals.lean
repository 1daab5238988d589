import SensorGateway.Proofs.Admission.History
import SensorGateway.Proofs.Session.Operations

/-!
What a session that is turned away leaves behind.

A session whose port is taken is turned away after its address has got a permit. The permit goes
back, but entries of the ledger stay, so an address that is turned away at its first session keeps
an entry with a count of zero. `refused_insert` says for whom that makes a difference: for nobody,
unless the entry was the last free one, and then for the addresses that come after.

The argument compares two runs of the same operations, with and without the refused insert. Their
ledgers agree on every count, and the one has an entry that the other may not have (`AlsoLists`).
One step of both either keeps this and gives one answer, or it is the insert of a new address that
takes the last entry in the run without the refused insert and finds it taken in the other
(`Alike.step`). After that the first ledger is full without the refused address, and it stays so
(`FullWithout.run`); so whether the two runs have parted can be told from its end.
-/

set_option autoImplicit false

namespace SensorGateway

namespace Admission.Ledger

variable {l l' m m' : Ledger} {a b : String}

/-! ## A permit that goes back at once -/

/-- Two changes of one entry are one change. -/
theorem adjust_adjust (f g : Nat → Nat) (address : String) (es : List Entry) :
    adjust f address (adjust g address es) = adjust (f ∘ g) address es := by
  induction es with
  | nil => rfl
  | cons e es ih =>
    rw [adjust, adjust]
    by_cases h : e.address = address
    · rw [if_pos h, if_pos h, adjust, if_pos h]
      rfl
    · rw [if_neg h, if_neg h, adjust, if_neg h, ih]

/-- A permit of an address that has an entry leaves no trace when it goes back. -/
theorem release_of_allow? (h : l.allow? a = some m) (ha : a ∈ l.addresses) : m.release a = l := by
  have hentry : l.entry? a ≠ none := fun hnone => entry?_eq_none_iff.mp hnone ha
  have hstill : ∀ es : List Entry, adjust ((· - 1) ∘ (· + 1)) a es = es := by
    intro es
    induction es with
    | nil => rfl
    | cons e es ih =>
      rw [adjust, ih]
      split <;> rfl
  have hafter := eq_of_allow? h
  rcases he : l.entry? a with _ | e
  · exact absurd he hentry
  · rw [he] at hafter
    subst hafter
    unfold release
    rw [adjust_adjust, hstill]

/-! ## An entry more -/

/-- **The second ledger also lists an address.** Otherwise it shows what the first one shows: the
same permits of every address within the same bounds. -/
structure AlsoLists (a : String) (l l' : Ledger) : Prop where
  ceiling : l'.ceiling = l.ceiling
  capacity : l'.capacity = l.capacity
  counts : ∀ b, l'.count b = l.count b
  listed : ∀ b, b ∈ l'.addresses ↔ b ∈ l.addresses ∨ b = a
  size : l'.addresses.length = l.addresses.length + if a ∈ l.addresses then 0 else 1
  fits : l'.addresses.length ≤ l'.capacity
  ceilingPos : 0 < l.ceiling

/-- **A ledger is full without an address.** -/
def FullWithout (a : String) (l : Ledger) : Prop :=
  a ∉ l.addresses ∧ l.addresses.length = l.capacity

/-- A ledger that has room for one address more is not full without it. -/
theorem AlsoLists.not_fullWithout (h : AlsoLists a l l') : ¬ FullWithout a l := by
  rintro ⟨hout, hfull⟩
  have hsize := h.size
  have hfits := h.fits
  rw [if_neg hout] at hsize
  rw [h.capacity] at hfits
  omega

/-- **Who gets the same answer from both ledgers:** whoever does not need the entry that only one of
them has left. -/
theorem AlsoLists.wouldAllow (h : AlsoLists a l l')
    (hroom : b ∈ l'.addresses ∨ a ∈ l.addresses ∨ l.addresses.length + 1 ≠ l.capacity) :
    l'.wouldAllow b = l.wouldAllow b := by
  have hsize := h.size
  have hfits := h.fits
  have hpos := h.ceilingPos
  rw [Bool.eq_iff_iff, wouldAllow_iff, wouldAllow_iff, h.ceiling, h.capacity, h.counts]
  by_cases hb : b ∈ l.addresses
  · simp [(h.listed b).mpr (Or.inl hb), hb]
  · by_cases hba : b = a
    · -- in the one ledger it has an entry without permits, in the other it is new and has room
      rw [hba] at hb ⊢
      rw [if_neg hb, h.capacity] at *
      have hroom' : l.addresses.length < l.capacity := by omega
      simp [(h.listed a).mpr (Or.inr rfl), hb, count_eq_zero hb, hpos, hroom']
    · have hb' : b ∉ l'.addresses := fun hmem => ((h.listed b).mp hmem).elim hb hba
      have hlengths : l'.addresses.length < l.capacity ↔ l.addresses.length < l.capacity := by
        rw [h.capacity] at hfits
        by_cases ha : a ∈ l.addresses
        · rw [if_pos ha] at hsize
          omega
        · rw [if_neg ha] at hsize
          have hspare := hroom.resolve_left hb' |>.resolve_left ha
          omega
      simp [hb, hb', hlengths]

/-- Who needs the last entry gets it from the first ledger, which is full then. -/
theorem AlsoLists.allow?_last (h : AlsoLists a l l') (hb : b ∉ l'.addresses)
    (ha : a ∉ l.addresses) (hlast : l.addresses.length + 1 = l.capacity) :
    ∃ m, l.allow? b = some m ∧ FullWithout a m := by
  have hold : b ∉ l.addresses := fun hmem => hb ((h.listed b).mpr (Or.inl hmem))
  have hother : a ≠ b := fun heq => hb ((h.listed b).mpr (Or.inr heq.symm))
  have hyes : l.wouldAllow b = true :=
    wouldAllow_iff.mpr (Or.inr ⟨hold, h.ceilingPos, by omega⟩)
  rw [← isSome_allow?, Option.isSome_iff_exists] at hyes
  obtain ⟨m, hm⟩ := hyes
  have haddresses := addresses_of_allow? hm
  rw [if_neg hold] at haddresses
  refine ⟨m, hm, ?_, ?_⟩
  · rw [haddresses, List.mem_append, List.mem_singleton]
    exact not_or.mpr ⟨ha, hother⟩
  · rw [haddresses, capacity_of_allow? hm, List.length_append, List.length_singleton]
    exact hlast

/-- Who needs the last entry does not get it from the second ledger. -/
theorem AlsoLists.allow?_crowded_out (h : AlsoLists a l l') (hb : b ∉ l'.addresses)
    (ha : a ∉ l.addresses) (hlast : l.addresses.length + 1 = l.capacity) : l'.allow? b = none := by
  have hsize := h.size
  rw [if_neg ha] at hsize
  rw [← Option.not_isSome_iff_eq_none, isSome_allow?, wouldAllow_iff, h.capacity]
  rintro (⟨hmem, -⟩ | ⟨-, -, hroom⟩)
  · exact hb hmem
  · omega

/-- **Who gets another answer:** whoever needs the entry that only the first ledger has left. -/
theorem AlsoLists.wouldAllow_eq_iff (h : AlsoLists a l l') :
    l'.wouldAllow b = l.wouldAllow b
      ↔ ¬ (a ∉ l.addresses ∧ l.addresses.length + 1 = l.capacity ∧ b ∉ l.addresses ∧ b ≠ a) := by
  have hlisted : b ∉ l'.addresses ↔ b ∉ l.addresses ∧ b ≠ a := by
    rw [h.listed, not_or]
  rw [← hlisted]
  constructor
  · rintro hsame ⟨ha, hlast, hb⟩
    obtain ⟨m, hm, -⟩ := h.allow?_last hb ha hlast
    rw [← isSome_allow?, ← isSome_allow?, hm, h.allow?_crowded_out hb ha hlast] at hsame
    cases hsame
  · intro hnot
    refine h.wouldAllow ?_
    by_contra hroom
    rw [not_or, not_or, not_not] at hroom
    exact hnot ⟨hroom.2.1, hroom.2.2, hroom.1⟩

/-- A permit that goes back to both ledgers leaves the second with its entry more. -/
theorem AlsoLists.release (h : AlsoLists a l l') (b : String) :
    AlsoLists a (l.release b) (l'.release b) where
  ceiling := h.ceiling
  capacity := h.capacity
  counts := by
    intro c
    rw [count_release, count_release, h.counts]
  listed := by
    intro c
    rw [addresses_release, addresses_release]
    exact h.listed c
  size := by
    rw [addresses_release, addresses_release]
    exact h.size
  fits := by
    rw [addresses_release]
    exact h.fits
  ceilingPos := h.ceilingPos

/-- Which entries a permit makes that both ledgers give: none, one that the second ledger has
already, or the same in both. -/
theorem AlsoLists.addresses_cases (h : AlsoLists a l l') (hm : l.allow? b = some m)
    (hm' : l'.allow? b = some m') :
    (m.addresses = l.addresses ∧ m'.addresses = l'.addresses)
      ∨ (a ∉ l.addresses ∧ m.addresses = l.addresses ++ [a] ∧ m'.addresses = l'.addresses)
      ∨ (b ≠ a ∧ m.addresses = l.addresses ++ [b] ∧ m'.addresses = l'.addresses ++ [b]
        ∧ l'.addresses.length < l'.capacity) := by
  rw [addresses_of_allow? hm, addresses_of_allow? hm']
  have hlisted := h.listed b
  by_cases hb : b ∈ l.addresses
  · rw [if_pos hb, if_pos (hlisted.mpr (Or.inl hb))]
    exact Or.inl ⟨rfl, rfl⟩
  · by_cases hb' : b ∈ l'.addresses
    · obtain rfl : b = a := (hlisted.mp hb').resolve_left hb
      rw [if_neg hb, if_pos hb']
      exact Or.inr (Or.inl ⟨hb, rfl, rfl⟩)
    · have hne : b ≠ a := fun hba => hb' (hlisted.mpr (Or.inr hba))
      rw [if_neg hb, if_neg hb']
      rcases wouldAllow_iff.mp (wouldAllow_of_allow? hm') with ⟨hin, -⟩ | ⟨-, -, hroom⟩
      · exact absurd hin hb'
      · exact Or.inr (Or.inr ⟨hne, rfl, rfl, hroom⟩)

/-- A permit that both ledgers give. -/
theorem AlsoLists.allow (h : AlsoLists a l l') (hm : l.allow? b = some m)
    (hm' : l'.allow? b = some m') : AlsoLists a m m' := by
  -- the entry of `b` may be new in both ledgers, new in the first one only, or in neither
  have hsize := h.size
  have hcapacity' := capacity_of_allow? hm'
  refine ⟨?_, ?_, fun c => ?_, fun c => ?_, ?_, ?_, ?_⟩
  · rw [ceiling_of_allow? hm, ceiling_of_allow? hm', h.ceiling]
  · rw [capacity_of_allow? hm, hcapacity', h.capacity]
  · rw [count_of_allow? hm, count_of_allow? hm', h.counts]
  · have hlisted := h.listed c
    rcases h.addresses_cases hm hm' with ⟨heq, heq'⟩ | ⟨-, heq, heq'⟩ | ⟨-, heq, heq', -⟩
    · rw [heq, heq', hlisted]
    · rw [heq, heq', hlisted, List.mem_append, List.mem_singleton, or_assoc, or_self]
    · rw [heq, heq', List.mem_append, List.mem_append, hlisted, or_right_comm]
  · rcases h.addresses_cases hm hm' with ⟨heq, heq'⟩ | ⟨hout, heq, heq'⟩ | ⟨hne, heq, heq', -⟩
    · rw [heq, heq', hsize]
    · rw [if_neg hout] at hsize
      rw [heq, heq', hsize]
      simp
    · simp only [heq, heq', List.length_append, List.length_singleton, List.mem_append,
        List.mem_singleton, hne.symm, or_false]
      omega
  · rw [hcapacity']
    rcases h.addresses_cases hm hm' with ⟨-, heq'⟩ | ⟨-, -, heq'⟩ | ⟨-, -, heq', hroom⟩
    · rw [heq']
      exact h.fits
    · rw [heq']
      exact h.fits
    · rw [heq', List.length_append, List.length_singleton]
      exact hroom
  · rw [ceiling_of_allow? hm]
    exact h.ceilingPos

/-- A first permit that goes back leaves an entry. -/
theorem alsoLists_of_newcomer (hm : l.allow? a = some m) (ha : a ∉ l.addresses) :
    AlsoLists a l (m.release a) := by
  rcases wouldAllow_iff.mp (wouldAllow_of_allow? hm) with ⟨hin, -⟩ | ⟨-, hpos, hroom⟩
  · exact absurd hin ha
  · have haddresses : (m.release a).addresses = l.addresses ++ [a] := by
      rw [addresses_release, addresses_of_allow? hm, if_neg ha]
    have hceiling : (m.release a).ceiling = l.ceiling := by
      rw [ceiling_release, ceiling_of_allow? hm]
    have hcapacity : (m.release a).capacity = l.capacity := by
      rw [← capacity_of_allow? hm]
      rfl
    refine ⟨hceiling, hcapacity, fun c => ?_, fun c => ?_, ?_, ?_, hpos⟩
    · rw [count_release, count_of_allow? hm]
      by_cases hc : c = a
      · rw [if_pos hc, if_pos hc, Nat.add_sub_cancel]
      · rw [if_neg hc, if_neg hc]
    · rw [haddresses, List.mem_append, List.mem_singleton]
    · rw [haddresses, if_neg ha, List.length_append, List.length_singleton]
    · rw [haddresses, hcapacity, List.length_append, List.length_singleton]
      exact hroom

/-! ## A full ledger stays full -/

theorem FullWithout.release (h : FullWithout a l) (b : String) : FullWithout a (l.release b) := by
  unfold FullWithout
  rw [addresses_release]
  exact h

/-- A full ledger gives permits to those it lists only, and these take no entry. -/
theorem FullWithout.allow (h : FullWithout a l) (hm : l.allow? b = some m) : FullWithout a m := by
  unfold FullWithout
  rw [addresses_of_allow? hm, capacity_of_allow? hm]
  -- a new entry would need room, and there is none
  rcases wouldAllow_iff.mp (wouldAllow_of_allow? hm) with ⟨hb, -⟩ | ⟨-, -, hroom⟩
  · rw [if_pos hb]
    exact h
  · exact absurd h.2 (Nat.ne_of_lt hroom)

end Admission.Ledger

namespace Table

open Admission (Ledger)
open Admission.Ledger (AlsoLists FullWithout)

variable {t t' : Table} {a : String}

/-! ## Answers -/

/-- What an operation answers to a session that asks to be entered. -/
def answer? (t : Table) : Operation → Option (Except InsertError SensorId)
  | .insert s now => some (t.insert s now).1
  | _ => none

/-- **The answers that the inserts of a run get,** in order. -/
def answers : Table → List Operation → List (Option (Except InsertError SensorId))
  | _, [] => []
  | t, op :: operations => t.answer? op :: answers (t.apply op) operations

/-- Only inserts are answered. -/
theorem answer?_of_not_insert {op : Operation} (hop : ∀ s now, op ≠ .insert s now) (t : Table) :
    t.answer? op = none := by
  cases op with
  | insert s now => exact absurd rfl (hop s now)
  | _ => rfl

/-! ## No operation frees an entry -/

theorem fullWithout_tearDownAll (h : FullWithout a t.ledger) (status : LinkStatus)
    (gone : List Session) : FullWithout a (t.tearDownAll status gone).2.ledger := by
  induction gone generalizing t with
  | nil => exact h
  | cons s rest ih => exact ih (h.release s.address)

theorem fullWithout_removeWhere (h : FullWithout a t.ledger) (p : Session → Bool) :
    FullWithout a (t.removeWhere p).2.ledger := by
  rcases removeWhere_cases t p with ⟨-, heq⟩ | ⟨s, r, -, heq⟩
  · rw [heq]
    exact h
  · rw [heq]
    exact fullWithout_tearDownAll (t := { t with roster := r }) h _ _

/-- **No operation frees an entry.** -/
theorem fullWithout_apply (h : FullWithout a t.ledger) (op : Operation) :
    FullWithout a (t.apply op).ledger := by
  cases op with
  | insert s now =>
    rcases insert_cases t s now with ⟨-, heq⟩ | ⟨l, existing, hl, -, heq⟩ | ⟨l, hl, -, heq⟩
    · simp only [apply, heq]
      exact h
    · simp only [apply, heq]
      exact (h.allow hl).release s.address
    · simp only [apply, heq]
      exact h.allow hl
  | remove id => exact fullWithout_removeWhere h _
  | removeLink ticket => exact fullWithout_removeWhere h _
  | updateReading id reading now =>
    rcases updateReading_cases t id reading now with heq | heq
    · simp only [apply, heq]
      exact h
    · simp only [apply, heq]
      exact h
  | reapIdle steady timeout =>
    exact fullWithout_tearDownAll (t := { t with roster := (t.roster.takeExpired steady timeout).2 }) h
      .timedOut _
  | clear =>
    exact fullWithout_tearDownAll (t := { t with roster := t.roster.takeAll.2 }) h .disconnected _
  | setRunningPort port => exact h

theorem fullWithout_run (h : FullWithout a t.ledger) (operations : List Operation) :
    FullWithout a (t.run operations).ledger := by
  induction operations generalizing t with
  | nil => exact h
  | cons op operations ih => exact ih (fullWithout_apply h op)

/-! ## Two runs of the same operations -/

/-- **Two tables with the same sessions,** whose ledgers are related. The links that they have let
go may differ. -/
structure Alike (related : Ledger → Ledger → Prop) (t t' : Table) : Prop where
  policy : t'.policy = t.policy
  roster : t'.roster = t.roster
  ledger : related t.ledger t'.ledger

section Related

variable {related : Ledger → Ledger → Prop}
  (hback : ∀ {l l'} b, related l l' → related (l.release b) (l'.release b))
include hback

theorem Alike.tearDownAll (h : Alike related t t') (status : LinkStatus) (gone : List Session) :
    Alike related (t.tearDownAll status gone).2 (t'.tearDownAll status gone).2 := by
  induction gone generalizing t t' with
  | nil => exact h
  | cons s rest ih => exact ih ⟨h.policy, h.roster, hback s.address h.ledger⟩

theorem Alike.leave (h : Alike related t t') (r : Roster) (status : LinkStatus)
    (gone : List Session) :
    Alike related ({ t with roster := r }.tearDownAll status gone).2
      ({ t' with roster := r }.tearDownAll status gone).2 := by
  have hboth : Alike related { t with roster := r } { t' with roster := r } :=
    ⟨h.policy, rfl, h.ledger⟩
  exact hboth.tearDownAll hback status gone

/-- A removal finds the same session in both tables. -/
theorem Alike.removeWhere (h : Alike related t t') (p : Session → Bool) :
    Alike related (t.removeWhere p).2 (t'.removeWhere p).2 := by
  unfold Table.removeWhere
  rw [h.roster]
  rcases t.roster.take? p with _ | ⟨s, r⟩
  · exact h
  · exact ⟨h.policy, rfl, hback s.address h.ledger⟩

/-- Whatever is not an insert keeps two tables alike if permits that go back keep their ledgers
related. -/
theorem Alike.apply (h : Alike related t t') {op : Operation} (hop : ∀ s now, op ≠ .insert s now) :
    Alike related (t.apply op) (t'.apply op) := by
  cases op with
  | insert s now => exact absurd rfl (hop s now)
  | remove id => exact h.removeWhere hback _
  | removeLink ticket => exact h.removeWhere hback _
  | updateReading id reading now =>
    simp only [Table.apply, updateReading, h.roster]
    rcases t.roster.update? id reading now with _ | r
    · exact h
    · exact ⟨h.policy, rfl, h.ledger⟩
  | reapIdle steady timeout =>
    simp only [Table.apply, reapIdle, h.roster]
    exact h.leave hback _ .timedOut _
  | clear =>
    simp only [Table.apply, clear, h.roster]
    exact h.leave hback _ .disconnected _
  | setRunningPort port =>
    refine ⟨h.policy, ?_, h.ledger⟩
    simp only [Table.apply, setRunningPort, h.roster]

end Related

/-- Both tables enter a session if both ledgers give it a permit. -/
theorem Alike.insert_of_allow? {related : Ledger → Ledger → Prop} (h : Alike related t t')
    {l l' : Ledger} {s : Session} (hl : t.ledger.allow? s.address = some l)
    (hl' : t'.ledger.allow? s.address = some l') (now : Moment) (hgiven : related l l')
    (hback : related (l.release s.address) (l'.release s.address)) :
    (t'.insert s now).1 = (t.insert s now).1
      ∧ Alike related (t.insert s now).2 (t'.insert s now).2 := by
  have hport : t'.roster.connectedOnPort? s.port = t.roster.connectedOnPort? s.port := by
    rw [h.roster]
  rcases hp : t.roster.connectedOnPort? s.port with _ | existing
  · rw [insert_of_free hl hp, insert_of_free hl' (hport.trans hp), h.policy, h.roster]
    exact ⟨rfl, rfl, rfl, hgiven⟩
  · rw [insert_of_taken hl hp, insert_of_taken hl' (hport.trans hp)]
    exact ⟨rfl, h.policy, h.roster, hback⟩

/-! ## The same ledger -/

/-- With the same ledger both tables give the same answer and go on with the same ledger. -/
theorem Alike.same_step (h : Alike Eq t t') (op : Operation) :
    t'.answer? op = t.answer? op ∧ Alike Eq (t.apply op) (t'.apply op) := by
  by_cases hop : ∃ s now, op = .insert s now
  · obtain ⟨s, now, rfl⟩ := hop
    rcases hl : t.ledger.allow? s.address with _ | l
    · have hl' : t'.ledger.allow? s.address = none := h.ledger ▸ hl
      simp only [answer?, Table.apply, insert_of_denied hl, insert_of_denied hl', true_and]
      exact ⟨h.policy, h.roster, h.ledger⟩
    · have hl' : t'.ledger.allow? s.address = some l := h.ledger ▸ hl
      obtain ⟨hsame, hboth⟩ := h.insert_of_allow? hl hl' now rfl rfl
      exact ⟨congrArg some hsame, hboth⟩
  · have hother : ∀ s now, op ≠ .insert s now := fun s now heq => hop ⟨s, now, heq⟩
    rw [answer?_of_not_insert hother, answer?_of_not_insert hother]
    exact ⟨rfl, h.apply (fun b heq => congrArg (·.release b) heq) hother⟩

/-- With the same ledger all answers of a run are the same. -/
theorem Alike.answers_eq (h : Alike Eq t t') (operations : List Operation) :
    t'.answers operations = t.answers operations := by
  induction operations generalizing t t' with
  | nil => rfl
  | cons op operations ih =>
    obtain ⟨hsame, hboth⟩ := h.same_step op
    rw [answers, answers, hsame, ih hboth]

/-! ## An entry more -/

/-- **One step of two runs,** with one answer, or to the point from which they differ: a session
takes the last entry of the first ledger and is turned away by the second. -/
theorem Alike.step (h : Alike (AlsoLists a) t t') (op : Operation) :
    (t'.answer? op = t.answer? op ∧ Alike (AlsoLists a) (t.apply op) (t'.apply op))
      ∨ (t'.answer? op ≠ t.answer? op ∧ FullWithout a (t.apply op).ledger) := by
  by_cases hop : ∃ s now, op = .insert s now
  · obtain ⟨s, now, rfl⟩ := hop
    -- whether somebody else takes the entry that only the first ledger has left
    by_cases hroom : s.address ∈ t'.ledger.addresses ∨ a ∈ t.ledger.addresses
        ∨ t.ledger.addresses.length + 1 ≠ t.ledger.capacity
    · have hsame := h.ledger.wouldAllow hroom
      rw [← Ledger.isSome_allow?, ← Ledger.isSome_allow?] at hsame
      refine Or.inl ?_
      rcases hl : t.ledger.allow? s.address with _ | l
      · rw [hl, Option.isSome_none, Option.isSome_eq_false_iff, Option.isNone_iff_eq_none] at hsame
        simp only [answer?, Table.apply, insert_of_denied hl, insert_of_denied hsame, true_and]
        exact ⟨h.policy, h.roster, h.ledger⟩
      · rw [hl, Option.isSome_some, Option.isSome_iff_exists] at hsame
        obtain ⟨l', hl'⟩ := hsame
        have hgiven := h.ledger.allow hl hl'
        obtain ⟨hanswer, hboth⟩ := h.insert_of_allow? hl hl' now hgiven (hgiven.release s.address)
        exact ⟨congrArg some hanswer, hboth⟩
    · rw [not_or, not_or, not_not] at hroom
      -- here the runs part, whether the session stays or its port is taken: the entry is made
      -- either way
      obtain ⟨hnew, hout, hlast⟩ := hroom
      obtain ⟨l, hl, hfull⟩ := h.ledger.allow?_last hnew hout hlast
      have hdenied := h.ledger.allow?_crowded_out hnew hout hlast
      refine Or.inr ?_
      rcases hp : t.roster.connectedOnPort? s.port with _ | existing
      · simp only [answer?, Table.apply, insert_of_free hl hp, insert_of_denied hdenied]
        exact ⟨by rintro ⟨⟩, hfull⟩
      · simp only [answer?, Table.apply, insert_of_taken hl hp, insert_of_denied hdenied]
        exact ⟨by rintro ⟨⟩, hfull.release s.address⟩
  · have hother : ∀ s now, op ≠ .insert s now := fun s now heq => hop ⟨s, now, heq⟩
    rw [answer?_of_not_insert hother, answer?_of_not_insert hother]
    exact Or.inl ⟨rfl, h.apply (fun b hl => hl.release b) hother⟩

/-- **The answers of a whole run are the same with and without an entry more,** exactly as long as
the ledger without it is not filled up by other addresses. -/
theorem Alike.answers_eq_iff (h : Alike (AlsoLists a) t t') (operations : List Operation) :
    t'.answers operations = t.answers operations
      ↔ ¬ FullWithout a (t.run operations).ledger := by
  -- a ledger that is full stays full, so the first answer that differs settles the whole run
  induction operations generalizing t t' with
  | nil => exact ⟨fun _ => h.ledger.not_fullWithout, fun _ => rfl⟩
  | cons op operations ih =>
    rcases h.step op with ⟨hsame, hboth⟩ | ⟨hdiffer, hfull⟩
    · have hrest := ih hboth
      rw [answers, answers, hsame, List.cons.injEq]
      exact ⟨fun heq => hrest.mp heq.2, fun hnot => ⟨rfl, hrest.mpr hnot⟩⟩
    · refine ⟨fun heq => ?_, fun hnot => ?_⟩
      · rw [answers, answers, List.cons.injEq] at heq
        exact absurd heq.1 hdiffer
      · exact absurd (fullWithout_run hfull operations) hnot

/-! ## A table that has turned a session away -/

/-- **What a session that is turned away changes.** A session without a permit, and one whose
address has an entry already, leave the ledger as it is. A newcomer, an address that gets its first
permit and has to give it back because its port is taken, leaves an entry without permits. Such an
entry changes an answer of the look-ahead, or of a call for a permit, only if it was the last one,
and only for other addresses without an entry. And the inserts of all that comes later get the
answers that they would have got without the refused one, exactly as long as without it the ledger
is not filled up by other addresses. -/
theorem refused_insert {t : Table} {s : Session} {now : Moment} {e : InsertError}
    (h : (t.insert s now).1 = .error e) :
    let l := t.ledger
    let l' := (t.insert s now).2.ledger
    let newcomer := e ≠ .admissionDenied s.address ∧ s.address ∉ l.addresses
    (¬ newcomer → l' = l)
      ∧ (newcomer → l'.addresses = l.addresses ++ [s.address] ∧ l'.count s.address = 0)
      ∧ (∀ b, l'.count b = l.count b)
      ∧ (∀ b, l'.wouldAllow b = l.wouldAllow b
          ↔ ¬ (newcomer ∧ l.addresses.length + 1 = l.capacity ∧ b ∉ l.addresses ∧ b ≠ s.address))
      ∧ (∀ b, (l'.allow? b).isSome = (l.allow? b).isSome
          ↔ ¬ (newcomer ∧ l.addresses.length + 1 = l.capacity ∧ b ∉ l.addresses ∧ b ≠ s.address))
      ∧ ∀ later, (t.insert s now).2.answers later = t.answers later
          ↔ ¬ (newcomer ∧ s.address ∉ (t.run later).ledger.addresses
            ∧ (t.run later).ledger.addresses.length = (t.run later).ledger.capacity) := by
  intro l l' newcomer
  obtain ⟨hroster, hcounts⟩ := insert_refused h
  -- the ledger is the same, or the address has got an entry
  have hledger : (¬ newcomer ∧ l' = l) ∨ (newcomer ∧ AlsoLists s.address l l'
      ∧ l'.addresses = l.addresses ++ [s.address]) := by
    rcases insert_cases t s now with ⟨-, heq⟩ | ⟨m, existing, hm, -, heq⟩ | ⟨m, -, -, heq⟩
    · rw [heq] at h
      cases h
      exact Or.inl ⟨fun hnew => hnew.1 rfl, congrArg (·.2.ledger) heq⟩
    · have hl' : l' = m.release s.address := congrArg (·.2.ledger) heq
      rw [heq] at h
      cases h
      by_cases hold : s.address ∈ l.addresses
      · exact Or.inl ⟨fun hnew => hnew.2 hold, hl'.trans (Ledger.release_of_allow? hm hold)⟩
      · have htaken : InsertError.duplicatePort s.port existing ≠ .admissionDenied s.address := by
          rintro ⟨⟩
        refine Or.inr ⟨⟨htaken, hold⟩, hl' ▸ Ledger.alsoLists_of_newcomer hm hold, ?_⟩
        rw [hl', Ledger.addresses_release, Ledger.addresses_of_allow? hm, if_neg hold]
    · rw [heq] at h
      cases h
  -- an insert leaves the policy as it is, however it ends
  have hpolicy : (t.insert s now).2.policy = t.policy := by
    rcases insert_cases t s now with ⟨-, heq⟩ | ⟨m, existing, -, -, heq⟩ | ⟨m, -, -, heq⟩
    all_goals exact congrArg (·.2.policy) heq
  rcases hledger with ⟨hold, hsame⟩ | ⟨hnew, hlists, haddresses⟩
  · have hboth : Alike Eq t (t.insert s now).2 := ⟨hpolicy, hroster, hsame.symm⟩
    refine ⟨fun _ => hsame, fun hnew => absurd hnew hold, hcounts, fun b => ?_, fun b => ?_,
      fun later => ?_⟩
    · rw [hsame]
      exact iff_of_true rfl fun hnew => hold hnew.1
    · rw [hsame]
      exact iff_of_true rfl fun hnew => hold hnew.1
    · exact iff_of_true (hboth.answers_eq later) fun hnew => hold hnew.1
  · have hboth : Alike (AlsoLists s.address) t (t.insert s now).2 := ⟨hpolicy, hroster, hlists⟩
    have hzero : l.count s.address = 0 := Ledger.count_eq_zero hnew.2
    refine ⟨fun hold => absurd hnew hold, fun _ => ⟨haddresses, (hcounts s.address).trans hzero⟩,
      hcounts, fun b => ?_, fun b => ?_, fun later => ?_⟩
    · rw [hlists.wouldAllow_eq_iff, and_iff_right hnew, and_iff_right hnew.2]
    · rw [Ledger.isSome_allow?, Ledger.isSome_allow?, hlists.wouldAllow_eq_iff,
        and_iff_right hnew, and_iff_right hnew.2]
    · rw [hboth.answers_eq_iff, and_iff_right hnew]
      rfl

/-- A newcomer is turned away while there is room for two addresses more. The entry that it keeps
changes nothing for the newcomers after it, the second of which the ledger still has room for. -/
theorem refused_insert_with_room :
    let node (address : String) (port : UInt16) : Session :=
      Session.start address address port false port.toNat ⟨0, 0⟩
    let t := (fresh .monotonic 5 3).run [.insert (node "10.0.0.1" 9000) ⟨0, 0⟩]
    let refused := t.insert (node "10.0.0.2" 9000) ⟨0, 0⟩
    let later : List Operation := [.insert (node "10.0.0.3" 9001) ⟨0, 0⟩, .remove ⟨0⟩,
      .insert (node "10.0.0.2" 9000) ⟨0, 0⟩, .insert (node "10.0.0.4" 9002) ⟨0, 0⟩]
    refused.1 = .error (.duplicatePort 9000 ⟨0⟩)
      ∧ refused.2.ledger.addresses = ["10.0.0.1", "10.0.0.2"]
      ∧ refused.2.ledger.wouldAllow "10.0.0.3" = t.ledger.wouldAllow "10.0.0.3"
      ∧ refused.2.answers later = t.answers later
      ∧ t.answers later = [some (.ok ⟨1⟩), none, some (.ok ⟨2⟩),
        some (.error (.admissionDenied "10.0.0.4"))] := by
  intro node t refused later
  have hrefused : refused.1 = .error (.duplicatePort 9000 ⟨0⟩) := by decide
  obtain ⟨-, hentry, -, hlook, -, hlater⟩ := refused_insert hrefused
  refine ⟨hrefused, ?_, (hlook _).mpr (by decide), (hlater later).mpr (by decide), by decide⟩
  exact (hentry (by decide)).1

/-- A newcomer is turned away when there is room for one address more. Another one, which would have
got the last entry, is now turned away in its turn. -/
theorem refused_insert_takes_last_entry :
    let node (address : String) (port : UInt16) : Session :=
      Session.start address address port false port.toNat ⟨0, 0⟩
    let t := (fresh .monotonic 5 2).run [.insert (node "10.0.0.1" 9000) ⟨0, 0⟩]
    let refused := t.insert (node "10.0.0.2" 9000) ⟨0, 0⟩
    refused.1 = .error (.duplicatePort 9000 ⟨0⟩)
      ∧ t.ledger.wouldAllow "10.0.0.3" = true
      ∧ refused.2.ledger.wouldAllow "10.0.0.3" = false
      ∧ (t.ledger.allow? "10.0.0.3").isSome = true
      ∧ refused.2.ledger.allow? "10.0.0.3" = none
      ∧ (t.insert (node "10.0.0.3" 9001) ⟨0, 0⟩).1 = .ok ⟨1⟩
      ∧ (refused.2.insert (node "10.0.0.3" 9001) ⟨0, 0⟩).1
        = .error (.admissionDenied "10.0.0.3") := by
  decide

end Table

end SensorGateway
