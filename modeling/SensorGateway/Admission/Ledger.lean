/-!
The admission ledger.

It counts the live sessions of each peer address. An address takes an entry at its first permit and
keeps it when its count falls back to zero, so `capacity` bounds the distinct addresses that are
ever admitted, and `ceiling` bounds the sessions of one address at a time. Entries stand in the
order of first permits, one for each address.
-/

set_option autoImplicit false

namespace SensorGateway.Admission

/-- How many sessions one address has. -/
structure Entry where
  address : String
  count : Nat
deriving DecidableEq, Repr

/-- The ledger. -/
structure Ledger where
  /-- Sessions that one address may have at a time. -/
  ceiling : Nat
  /-- Addresses that may ever have an entry. -/
  capacity : Nat
  /-- The entries, in the order of first permits. -/
  entries : List Entry := []
deriving DecidableEq, Repr

namespace Ledger

/-! ## Looking -/

/-- The entry of an address. -/
def entry? (l : Ledger) (address : String) : Option Entry :=
  l.entries.find? (·.address = address)

/-- The permits that an address holds. -/
def count (l : Ledger) (address : String) : Nat :=
  match l.entry? address with
  | some e => e.count
  | none => 0

/-- How many addresses have an entry. -/
def tracked (l : Ledger) : Nat := l.entries.length

/-- **Whether an address would get a permit now:** one that has an entry needs a count below the
ceiling, a new one needs a free entry and a ceiling above zero. -/
def wouldAllow (l : Ledger) (address : String) : Bool :=
  match l.entry? address with
  | some e => e.count < l.ceiling
  | none => l.entries.length < l.capacity && 0 < l.ceiling

/-! ## Changing -/

/-- Applies `f` to the count of an address, in place. -/
def adjust (f : Nat → Nat) (address : String) : List Entry → List Entry
  | [] => []
  | e :: es =>
    if e.address = address then { e with count := f e.count } :: es
    else e :: adjust f address es

/-- **Takes a permit for an address,** or answers `none` and leaves the ledger as it is: where the
address is at its ceiling, or is new and there is no room for it. -/
def allow? (l : Ledger) (address : String) : Option Ledger :=
  match l.entry? address with
  | some e =>
    if l.ceiling ≤ e.count then none
    else some { l with entries := adjust (· + 1) address l.entries }
  | none =>
    if l.capacity ≤ l.entries.length || l.ceiling = 0 then none
    else some { l with entries := l.entries ++ [⟨address, 1⟩] }

/-- **Gives a permit back.** An address without an entry, or with a count of zero, stays so. -/
def release (l : Ledger) (address : String) : Ledger :=
  { l with entries := adjust (· - 1) address l.entries }

end Ledger

end SensorGateway.Admission
