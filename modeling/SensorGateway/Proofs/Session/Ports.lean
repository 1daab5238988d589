import Mathlib.Algebra.Group.Nat.Defs
import Mathlib.Data.List.Perm.Subperm
import SensorGateway.Link.Outbound
import SensorGateway.Proofs.Session.Operations

/-!
The ports of connected sessions.

A session is entered only while no connected session reports its port, and a registered session
keeps its port and its status until it is torn down. So the ports of the connected sessions are
without repetition after every run (`nodup_heldPorts_run`), whatever mixture of sessions was
inserted: those that are not connected hold no port, and stand in nobody's way.

From this follow the answers of an insert, the freeing of a port, and a bound on the table that no
admission limit has a part in. There are 65536 ports, so that is how many connected sessions there
can be, and the counter of sessions, which has 32 bits, is far from its end.
-/

set_option autoImplicit false

namespace SensorGateway

/-! ## Holding a port -/

/-- The port that a session holds: the one it reports, if it is connected. -/
def Session.heldPort? (s : Session) : Option UInt16 :=
  if s.status = .connected then some s.port else none

/-- A session holds its own port, and only while it is connected. -/
theorem Session.heldPort?_eq_some {s : Session} {port : UInt16} :
    s.heldPort? = some port ↔ s.status = .connected ∧ s.port = port := by
  unfold heldPort?
  by_cases h : s.status = .connected
  · rw [if_pos h]
    simp [h]
  · rw [if_neg h]
    simp [h]

namespace Table

variable {t : Table} {port : UInt16} {x y : Session}

/-- The ports of the connected sessions, the newest session's first. -/
def heldPorts (t : Table) : List UInt16 := t.sessions.filterMap Session.heldPort?

/-- A port is held by a connected session that reports it. -/
theorem mem_heldPorts :
    port ∈ t.heldPorts ↔ ∃ x ∈ t.sessions, x.status = .connected ∧ x.port = port := by
  unfold heldPorts
  rw [List.mem_filterMap]
  constructor
  · rintro ⟨x, hx, hheld⟩
    exact ⟨x, hx, Session.heldPort?_eq_some.mp hheld⟩
  · rintro ⟨x, hx, hheld⟩
    exact ⟨x, hx, Session.heldPort?_eq_some.mpr hheld⟩

/-- The session that stands in the way is one that holds the port. -/
theorem holder_of_connectedOnPort? {existing : SensorId}
    (h : t.roster.connectedOnPort? port = some existing) :
    ∃ x ∈ t.sessions, x.status = .connected ∧ x.port = port ∧ x.sensor = existing := by
  unfold Roster.connectedOnPort? at h
  obtain ⟨x, hfound, hid⟩ := Option.map_eq_some_iff.mp h
  have htest := List.find?_some hfound
  simp only [Bool.and_eq_true, decide_eq_true_eq] at htest
  exact ⟨x, List.mem_of_find?_eq_some hfound, htest.2, htest.1, hid⟩

/-- **A port is in use exactly if it is held.** -/
theorem portInUse_iff : t.portInUse port = true ↔ port ∈ t.heldPorts := by
  rw [mem_heldPorts]
  unfold portInUse Roster.connectedOnPort?
  rw [Option.isSome_map, List.find?_isSome]
  constructor
  · rintro ⟨x, hx, htest⟩
    simp only [Bool.and_eq_true, decide_eq_true_eq] at htest
    exact ⟨x, hx, htest.2, htest.1⟩
  · rintro ⟨x, hx, hconnected, hport⟩
    exact ⟨x, hx, by simp [hconnected, hport]⟩

/-- Where a session finds nobody in its way, nobody holds the port. -/
theorem not_mem_heldPorts (h : t.roster.connectedOnPort? port = none) : port ∉ t.heldPorts := by
  rw [← portInUse_iff]
  unfold portInUse
  rw [h]
  exact Bool.false_ne_true

/-- **A port has one holder.** -/
theorem eq_of_heldPort (h : t.heldPorts.Nodup) (hx : x ∈ t.sessions) (hy : y ∈ t.sessions)
    (hxc : x.status = .connected) (hyc : y.status = .connected) (hport : x.port = y.port) :
    x = y :=
  Roster.eq_of_nodup_filterMap h hx hy (Session.heldPort?_eq_some.mpr ⟨hxc, rfl⟩)
    (Session.heldPort?_eq_some.mpr ⟨hyc, hport.symm⟩)

/-- Connected sessions stand on different ports. -/
theorem pairwise_of_nodup_heldPorts (h : t.heldPorts.Nodup) :
    t.sessions.Pairwise
      fun x y => x.status = .connected → y.status = .connected → x.port ≠ y.port := by
  unfold heldPorts List.Nodup at h
  rw [List.pairwise_filterMap] at h
  apply h.imp
  intro x y hne hx hy
  exact hne _ (Session.heldPort?_eq_some.mpr ⟨hx, rfl⟩) _ (Session.heldPort?_eq_some.mpr ⟨hy, rfl⟩)

/-! ## Runs -/

/-- **One operation more:** the port of a session that is entered was free, and otherwise ports can
only be given up. -/
theorem nodup_heldPorts_apply (h : t.heldPorts.Nodup) (op : Operation) :
    (t.apply op).heldPorts.Nodup := by
  unfold heldPorts
  rcases sessions_apply t op with
    hkept | ⟨s, now, -, -, hfree, heq⟩ | ⟨id, reading, now, -, heq⟩
  · exact h.sublist (hkept.filterMap Session.heldPort?)
  · have hport := not_mem_heldPorts hfree
    rcases hheld : (t.roster.numbered t.policy s now).heldPort? with _ | port
    · rw [heq, List.filterMap_cons_none hheld]
      exact h
    · obtain ⟨-, rfl⟩ := Session.heldPort?_eq_some.mp hheld
      rw [heq, List.filterMap_cons_some hheld]
      exact List.nodup_cons.mpr ⟨hport, h⟩
  · -- a session that hears a reading holds the port that it held
    have hsame := Roster.map_adjustFirst (fun s => decide (s.sensor = id)) (·.hear reading now)
      Session.heldPort? (fun _ => rfl) t.sessions
    have hmap := congrArg (List.filterMap fun port? => port?) hsame
    rw [List.filterMap_map, List.filterMap_map] at hmap
    rw [heq]
    exact hmap ▸ h

/-- **So no port is held twice after any run.** -/
theorem nodup_heldPorts_run (h : t.heldPorts.Nodup) (operations : List Operation) :
    (t.run operations).heldPorts.Nodup := by
  induction operations generalizing t with
  | nil => exact h
  | cons op rest ih => exact ih (nodup_heldPorts_apply h op)

/-- If only connected sessions are inserted, only such are registered. -/
theorem connected_run {operations : List Operation}
    (hempty : ∀ x ∈ t.sessions, x.status = .connected)
    (h : ∀ s now, .insert s now ∈ operations → s.status = .connected) :
    ∀ x ∈ (t.run operations).sessions, x.status = .connected := by
  induction operations generalizing t with
  | nil => exact hempty
  | cons op rest ih =>
    have hfirst : ∀ s now, op = .insert s now → s.status = .connected := fun s now hop =>
      h s now (hop ▸ List.mem_cons_self)
    refine ih (forall_sessions_apply (fun hsame hx => ?_) hempty hfirst) fun s now hmem =>
      h s now (List.mem_cons_of_mem op hmem)
    exact (congrArg Session.status hsame).symm.trans hx

/-! ## What follows -/

/-- There are no more different ports than there are ports. -/
theorem length_le_of_nodup {ports : List UInt16} (h : ports.Nodup) : ports.length ≤ 65536 := by
  have hnat : (ports.map UInt16.toNat).Nodup :=
    List.Pairwise.map _ (fun p q hne heq => hne (UInt16.toNat_inj.mp heq)) h
  have hrange : ports.map UInt16.toNat ⊆ List.range 65536 := by
    intro n hn
    obtain ⟨p, -, rfl⟩ := List.mem_map.mp hn
    exact List.mem_range.mpr p.toNat_lt
  have hlen := (List.subperm_of_subset hnat hrange).length_le
  rwa [List.length_map, List.length_range] at hlen

/-- Where every session is connected, each holds a port of its own. -/
theorem length_heldPorts (h : ∀ x ∈ t.sessions, x.status = .connected) :
    t.heldPorts.length = t.sessions.length := by
  unfold heldPorts
  rw [List.length_filterMap_eq_countP, List.countP_eq_length]
  intro x hx
  rw [Session.heldPort?_eq_some.mpr ⟨h x hx, rfl⟩]
  rfl

/-- **A port is free as soon as its holder is not registered any more.** -/
theorem not_portInUse_of_left (h : t.heldPorts.Nodup) {op : Operation} (hx : x ∈ t.sessions)
    (hconnected : x.status = .connected)
    (hleft : x.origin ∉ (t.apply op).sessions.map Session.origin) :
    (t.apply op).portInUse x.port = false := by
  -- whoever holds the port afterwards held it before, and that was `x` alone, who is gone
  have hstayed : ∀ y ∈ (t.apply op).sessions, y.origin ≠ x.origin := by
    intro y hy heq
    exact hleft (heq ▸ List.mem_map_of_mem hy)
  rw [← Bool.not_eq_true, portInUse_iff, mem_heldPorts]
  rintro ⟨y, hy, hyc, hport⟩
  rcases sessions_apply t op with hkept | ⟨s, now, -, -, -, heq⟩ | ⟨id, reading, now, -, heq⟩
  · have hsame := eq_of_heldPort h (hkept.subset hy) hx hyc hconnected hport
    exact hstayed y hy (congrArg Session.origin hsame)
  · exact hstayed x (heq ▸ List.mem_cons_of_mem _ hx) rfl
  · have hmap := Roster.map_adjustFirst (fun s => decide (s.sensor = id)) (·.hear reading now)
      Session.origin (fun _ => rfl) t.sessions
    rw [heq, hmap] at hleft
    exact hleft (List.mem_map_of_mem hx)

/-- A session with a permit is turned away exactly if its port is held, in the name of the holder.
-/
theorem insert_of_wouldAllow (h : t.heldPorts.Nodup) {s : Session}
    (hpermit : t.ledger.wouldAllow s.address = true) (now : Moment) :
    (t.portInUse s.port = true → ∃ x ∈ t.sessions, x.status = .connected ∧ x.port = s.port
        ∧ (∀ y ∈ t.sessions, y.status = .connected → y.port = s.port → y = x)
        ∧ (t.insert s now).1 = .error (.duplicatePort s.port x.sensor))
      ∧ (t.portInUse s.port = false → ∃ id, (t.insert s now).1 = .ok id) := by
  rcases insert_cases t s now with ⟨hl, -⟩ | ⟨l, existing, -, hport, heq⟩ | ⟨l, -, hfree, heq⟩
  · rw [← Admission.Ledger.isSome_allow?, hl] at hpermit
    cases hpermit
  · refine ⟨fun _ => ?_, fun hnot => ?_⟩
    · obtain ⟨x, hx, hconnected, hheld, hid⟩ := holder_of_connectedOnPort? hport
      refine ⟨x, hx, hconnected, hheld, fun y hy hyc hyp => ?_, ?_⟩
      · exact eq_of_heldPort h hy hx hyc hconnected (hyp.trans hheld.symm)
      · rw [heq, hid]
    · unfold portInUse at hnot
      rw [hport] at hnot
      cases hnot
  · refine ⟨fun hin => ?_, fun _ => ?_⟩
    · unfold portInUse at hin
      rw [hfree] at hin
      cases hin
    · exact ⟨_, congrArg Prod.fst heq⟩

/-- **One connected session for each port.** Under either policy, with any ceiling and any capacity,
after any run of operations, which may insert sessions of any status: no two registered sessions are
connected on one port. A session with a permit is turned away exactly if its port is in use, and the
error names the one connected session there is on that port. A port is free as soon as that session
has left the table, whichever operation takes it out. And where all inserted sessions are connected,
as those of inbound and of dialed nodes are, there are never more than 65536 of them, so that the
count of sessions can be raised within 32 bits. -/
theorem one_connected_session_per_port (policy : IdPolicy) (ceiling capacity : Nat)
    (operations : List Operation) :
    let t := (fresh policy ceiling capacity).run operations
    t.sessions.Pairwise
        (fun x y => x.status = .connected → y.status = .connected → x.port ≠ y.port)
      ∧ (∀ s now, t.ledger.wouldAllow s.address = true →
          (t.portInUse s.port = true → ∃ x ∈ t.sessions, x.status = .connected ∧ x.port = s.port
              ∧ (∀ y ∈ t.sessions, y.status = .connected → y.port = s.port → y = x)
              ∧ (t.insert s now).1 = .error (.duplicatePort s.port x.sensor))
            ∧ (t.portInUse s.port = false → ∃ id, (t.insert s now).1 = .ok id))
      ∧ (∀ op, ∀ x ∈ t.sessions, x.status = .connected →
          x.origin ∉ (t.apply op).sessions.map Session.origin →
          (t.apply op).portInUse x.port = false)
      ∧ ((∀ s now, .insert s now ∈ operations → s.status = .connected) →
          t.sessions.length ≤ 65536 ∧ t.activeCount + 1 < 2 ^ 32)
      ∧ (∀ l record ticket now,
          (Gateway.inboundSession l record ticket now).status = .connected)
      ∧ ∀ (g : Gateway) ip port ticket now,
          (g.outboundSession ip port ticket now).status = .connected := by
  intro t
  have hnone : (fresh policy ceiling capacity).heldPorts.Nodup := List.nodup_nil
  have h : t.heldPorts.Nodup := nodup_heldPorts_run hnone operations
  refine ⟨pairwise_of_nodup_heldPorts h, fun s now hpermit => insert_of_wouldAllow h hpermit now,
    fun op x hx hconnected hleft => not_portInUse_of_left h hx hconnected hleft,
    fun hinserted => ?_, fun _ _ _ _ => rfl, fun _ _ _ _ _ => rfl⟩
  have hconnected : ∀ x ∈ t.sessions, x.status = .connected := by
    refine connected_run (t := fresh policy ceiling capacity) ?_ hinserted
    intro x hx
    cases hx
  have hbound : t.sessions.length ≤ 65536 := by
    rw [← length_heldPorts hconnected]
    exact length_le_of_nodup h
  have hcount : t.activeCount = t.sessions.length :=
    ((balanced_fresh policy ceiling capacity).run operations).counted
  exact ⟨hbound, by omega⟩

end Table

end SensorGateway
