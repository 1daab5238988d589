import SensorGateway.Proofs.Gateway.Counters
import SensorGateway.Proofs.Session.Identifiers

/-!
What a pass of the sampler does for the sessions, and what the reaper makes of it.

The sampler lists the numbers of the active sessions and looks each of them up again, and a look-up
finds the newest session with a number. So of several sessions with one number the newest hears a
reading for each of them, and the others, which it shadows, hear none. Under the monotonic policy
nobody is shadowed; if numbers are given out again, somebody may be.

The reaper judges by the last activity, which a reading is. A sweep that comes within the timeout
evicts of the sessions that were active in the pass those that were shadowed in it and have been
idle for too long, and nobody else (`swept_after_sampling`).
-/

set_option autoImplicit false

namespace SensorGateway

/-! ## Sessions behind others -/

namespace Roster

/-- The sessions that a look-up by number does not find: each stands behind a newer one with the same
number, or its number is one of those `seen` before. -/
def shadowed (seen : List SensorId) : List Session → List Session
  | [] => []
  | s :: rest =>
    if s.sensor ∈ seen then s :: shadowed seen rest else shadowed (s.sensor :: seen) rest

/-- The sessions that a look-up by number finds. -/
def foremost (seen : List SensorId) : List Session → List Session
  | [] => []
  | s :: rest =>
    if s.sensor ∈ seen then foremost seen rest else s :: foremost (s.sensor :: seen) rest

/-- Whoever a look-up finds is there. -/
theorem foremost_subset (seen : List SensorId) (xs : List Session) :
    ∀ x ∈ foremost seen xs, x ∈ xs := by
  induction xs generalizing seen with
  | nil => exact fun x hx => hx
  | cons s rest ih =>
    intro x hx
    rw [foremost] at hx
    split at hx
    · exact List.mem_cons_of_mem s (ih seen x hx)
    · rcases List.mem_cons.mp hx with rfl | hx
      · exact List.mem_cons_self
      · exact List.mem_cons_of_mem s (ih (s.sensor :: seen) x hx)

/-- A session that is found has a number that was not seen before. -/
theorem sensor_not_seen {seen : List SensorId} {xs : List Session} {x : Session}
    (hx : x ∈ foremost seen xs) : x.sensor ∉ seen := by
  induction xs generalizing seen with
  | nil => cases hx
  | cons s rest ih =>
    rw [foremost] at hx
    split at hx
    next => exact ih hx
    next hnew =>
      rcases List.mem_cons.mp hx with rfl | hrest
      · exact hnew
      · exact fun hseen => ih hrest (List.mem_cons_of_mem s.sensor hseen)

/-- Every session is found or is not. -/
theorem mem_foremost_or_shadowed (seen : List SensorId) {xs : List Session} {x : Session}
    (hx : x ∈ xs) : x ∈ foremost seen xs ∨ x ∈ shadowed seen xs := by
  induction xs generalizing seen with
  | nil => cases hx
  | cons s rest ih =>
    rw [foremost, shadowed]
    rcases List.mem_cons.mp hx with rfl | hx
    · split
      · exact Or.inr List.mem_cons_self
      · exact Or.inl List.mem_cons_self
    · split
      · exact (ih seen hx).imp_right (List.mem_cons_of_mem s)
      · exact (ih (s.sensor :: seen) hx).imp_left (List.mem_cons_of_mem s)

/-- What holds of no session that is found picks its sessions from the others. -/
theorem filter_shadowed {p : Session → Bool} {seen : List SensorId} {xs : List Session}
    (h : ∀ x ∈ foremost seen xs, p x = false) : xs.filter p = (shadowed seen xs).filter p := by
  -- the numbers seen grow with the list, in both walks alike
  induction xs generalizing seen with
  | nil => rfl
  | cons s rest ih =>
    rw [foremost] at h
    rw [shadowed]
    split
    next hseen =>
      rw [if_pos hseen] at h
      simp only [List.filter_cons, ih h]
    next hnew =>
      rw [if_neg hnew] at h
      have hs : p s = false := h s List.mem_cons_self
      have hrest := ih fun x hx => h x (List.mem_cons_of_mem s hx)
      simp only [List.filter_cons, hs, hrest, Bool.false_eq_true, if_false]

/-- Where all numbers are different nobody is shadowed. -/
theorem shadowed_of_nodup {seen : List SensorId} {xs : List Session}
    (h : (xs.map (·.sensor)).Nodup) (hseen : ∀ x ∈ xs, x.sensor ∉ seen) :
    shadowed seen xs = [] := by
  induction xs generalizing seen with
  | nil => rfl
  | cons s rest ih =>
    obtain ⟨hs, hrest⟩ := List.nodup_cons.mp h
    rw [shadowed, if_neg (hseen s List.mem_cons_self)]
    refine ih hrest fun x hx => ?_
    simp only [List.mem_cons, not_or]
    refine ⟨fun hsame => hs ?_, hseen x (List.mem_cons_of_mem s hx)⟩
    exact List.mem_map.mpr ⟨x, hx, hsame⟩

/-! ## Noting a reading by number -/

section Noting

variable {seen : List SensorId} {id : SensorId} {reading : Reading} {now : Moment}

/-- **A shadowed session hears nothing.** -/
theorem shadowed_adjustFirst (hid : id ∉ seen) (xs : List Session) :
    shadowed seen (adjustFirst (·.sensor = id) (·.hear reading now) xs) = shadowed seen xs := by
  induction xs generalizing seen with
  | nil => rfl
  | cons s rest ih =>
    rw [adjustFirst]
    by_cases hs : s.sensor = id
    · -- the first one with the number hears, and it is not shadowed because the number is not seen
      have hnew : s.sensor ∉ seen := by rwa [hs]
      have hheard : (s.hear reading now).sensor ∉ seen := hnew
      rw [if_pos (decide_eq_true hs), shadowed, shadowed, if_neg hnew, if_neg hheard]
      rfl
    · have hother : id ∉ s.sensor :: seen := by
        rw [List.mem_cons, not_or]
        exact ⟨fun hsame => hs hsame.symm, hid⟩
      rw [if_neg (by simpa using hs), shadowed, shadowed, ih hid, ih hother]

/-- Of those that are found the one with the number hears the reading. -/
theorem mem_foremost_adjustFirst (hid : id ∉ seen) {xs : List Session} {y : Session}
    (hy : y ∈ foremost seen (adjustFirst (·.sensor = id) (·.hear reading now) xs)) :
    (y ∈ foremost seen xs ∧ y.sensor ≠ id)
      ∨ ∃ x : Session, x.sensor = id ∧ y = x.hear reading now := by
  induction xs generalizing seen with
  | nil => cases hy
  | cons s rest ih =>
    rw [adjustFirst] at hy
    by_cases hs : s.sensor = id
    · have hnew : s.sensor ∉ seen := by rwa [hs]
      have hheard : (s.hear reading now).sensor ∉ seen := hnew
      rw [if_pos (decide_eq_true hs), foremost, if_neg hheard] at hy
      rcases List.mem_cons.mp hy with rfl | hrest
      · exact Or.inr ⟨s, hs, rfl⟩
      · -- whoever is found behind it has another number
        left
        rw [foremost, if_neg hnew]
        refine ⟨List.mem_cons_of_mem s hrest, ?_⟩
        intro hsame
        refine sensor_not_seen hrest ?_
        rw [hsame, ← hs]
        exact List.mem_cons_self
    · have hother : id ∉ s.sensor :: seen := by
        rw [List.mem_cons, not_or]
        exact ⟨fun hsame => hs hsame.symm, hid⟩
      rw [if_neg (by simpa using hs), foremost] at hy
      rw [foremost]
      split at hy
      next hseen =>
        rw [if_pos hseen]
        exact ih hid hy
      next hnew =>
        rw [if_neg hnew]
        rcases List.mem_cons.mp hy with rfl | hrest
        · exact Or.inl ⟨List.mem_cons_self, hs⟩
        · exact (ih hother hrest).imp_left fun h => ⟨List.mem_cons_of_mem s h.1, h.2⟩

end Noting

end Roster

/-! ## A pass -/

namespace Gateway

variable {now : Moment}

/-- **A session has heard a reading at a moment,** and the reading is its own. -/
def Heard (now : Moment) (s : Session) : Prop :=
  s.lastSeen = now.steady ∧ ∃ temperature, s.latest = ⟨now.seconds, s.sensor, temperature, true⟩

/-- **What readings for some numbers do to a list of sessions:** who is shadowed is left alone, and of
the others each one with such a number has heard. -/
structure Reached (now : Moment) (ids : List SensorId) (xs ys : List Session) : Prop where
  shadowed : Roster.shadowed [] ys = Roster.shadowed [] xs
  foremost : ∀ y ∈ Roster.foremost [] ys,
    Heard now y ∨ (y ∈ Roster.foremost [] xs ∧ y.sensor ∉ ids)

/-- A reading for a number reaches the newest session with it, if there is one. -/
theorem reached_record (g : Gateway) (id : SensorId) (temperature : Temperature) (now : Moment) :
    Reached now [id] g.table.sessions (g.record id temperature now).2.table.sessions := by
  have htable : (g.record id temperature now).2.table.sessions = Roster.adjustFirst
      (·.sensor = id) (·.hear ⟨now.seconds, id, temperature, true⟩ now) g.table.sessions := by
    rw [(counts_record g id temperature now).table]
    exact g.table.sessions_updateReading id _ now
  rw [htable]
  refine ⟨Roster.shadowed_adjustFirst List.not_mem_nil _, fun y hy => ?_⟩
  rcases Roster.mem_foremost_adjustFirst List.not_mem_nil hy with ⟨hold, hother⟩ | ⟨x, hx, rfl⟩
  · exact Or.inr ⟨hold, by simpa using hother⟩
  · exact Or.inl ⟨rfl, temperature, by rw [← hx]; rfl⟩

/-- Readings one after the other reach what each of them reaches. -/
theorem Reached.trans {ids more : List SensorId} {xs ys zs : List Session}
    (h : Reached now ids xs ys) (hmore : Reached now more ys zs) :
    Reached now (ids ++ more) xs zs := by
  refine ⟨hmore.shadowed.trans h.shadowed, fun z hz => ?_⟩
  rcases hmore.foremost z hz with hheard | ⟨hz, hnot⟩
  · exact Or.inl hheard
  · refine (h.foremost z hz).imp_right fun hold => ⟨hold.1, ?_⟩
    rw [List.mem_append, not_or]
    exact ⟨hold.2, hnot⟩

theorem config_record (g : Gateway) (id : SensorId) (temperature : Temperature) (now : Moment) :
    (g.record id temperature now).2.config = g.config := by
  unfold record
  rcases hupdate : g.table.updateReading id ⟨now.seconds, id, temperature, true⟩ now with ⟨_ | _, t⟩
  · simp only [hupdate]
  · simp only [hupdate]
    rfl

/-- **The readings of a pass reach the sessions that are found, for all numbers that are
listed.** -/
theorem reached_sampleEach {range : Sampling.DrawRange} {ids : List SensorId} {s p : Sampled}
    (h : sampleEach now range ids s = .ok p) :
    Reached now ids s.gateway.table.sessions p.gateway.table.sessions
      ∧ p.gateway.config = s.gateway.config := by
  induction ids generalizing s with
  | nil =>
    cases h
    exact ⟨⟨rfl, fun y hy => Or.inr ⟨hy, List.not_mem_nil⟩⟩, rfl⟩
  | cons id ids ih =>
    rw [sampleEach] at h
    split at h
    · cases h
    · obtain ⟨hrest, hconfig⟩ := ih h
      exact ⟨(reached_record _ _ _ now).trans hrest, hconfig.trans (config_record _ _ _ now)⟩

variable {g : Gateway} {source : Sampling.WordSource} {p : Sampled}

/-- **In a pass every active session hears a reading, unless it is shadowed.** -/
theorem heard_sample (h : g.sample source now = .ok p) :
    Roster.shadowed [] p.gateway.table.sessions = Roster.shadowed [] g.table.sessions
      ∧ ∀ y ∈ Roster.foremost [] p.gateway.table.sessions, y.active = true → Heard now y := by
  obtain ⟨⟨hshadowed, hforemost⟩, -⟩ := reached_sampleEach h
  refine ⟨hshadowed, fun y hy hactive => ?_⟩
  rcases hforemost y hy with hheard | ⟨hold, hnot⟩
  · exact hheard
  · -- an active session is listed, so the pass has come by its number
    have hlisted : y.sensor ∈ g.table.roster.activeIds := by
      refine List.mem_map_of_mem (List.mem_filter.mpr ⟨?_, hactive⟩)
      exact Roster.foremost_subset [] _ y hold
    exact absurd hlisted hnot

/-- A session that has heard a reading has the whole timeout before it. -/
theorem not_expired_of_heard {s : Session} (h : Heard now s) {steady timeout : Nat}
    (hsoon : steady ≤ now.steady + timeout) : Roster.expired steady timeout s = false := by
  have hidle : ¬ timeout < s.idleFor steady := by
    rw [Session.idleFor, h.1]
    omega
  rw [Roster.expired, decide_eq_false hidle, Bool.and_false]

theorem sweep_fst (g : Gateway) (later : Moment) :
    (g.sweep later).1 = (g.table.sessions.filter (Roster.expired later.steady
      (g.config.session.idleTimeoutSecs * 1000))).map (·.ended .timedOut) :=
  g.table.reapIdle_fst later.steady (g.config.session.idleTimeoutSecs * 1000)

/-- The steady clock does not go back behind a moment in some operations. -/
def Onward (now : Moment) (operations : List Table.Operation) : Prop :=
  ∀ id reading time, .updateReading id reading time ∈ operations → now.steady ≤ time.steady

/-- A session was inserted by one of some operations. -/
def CameIn (operations : List Table.Operation) (s : Session) : Prop :=
  ∃ given time, .insert given time ∈ operations ∧ given.origin = s.origin

/-- **Behind a pass an active session has been heard of since,** or it was shadowed, or it was not
there. -/
theorem heard_since (h : g.sample source now = .ok p) {between : List Table.Operation}
    (honward : Onward now between) :
    ∀ s ∈ (p.gateway.table.run between).sessions, s.active = true → now.steady ≤ s.lastSeen
      ∨ (∃ x ∈ Roster.shadowed [] g.table.sessions, x.origin = s.origin) ∨ CameIn between s := by
  obtain ⟨hshadowed, hforemost⟩ := heard_sample h
  -- the operations in between keep it: an insert brings in somebody new, a reading is later
  refine Table.keeps_run ?_ ?_ ?_
  · intro s hs hactive
    rcases Roster.mem_foremost_or_shadowed [] hs with hfound | hbehind
    · exact Or.inl (Nat.le_of_eq (hforemost s hfound hactive).1.symm)
    · rw [hshadowed] at hbehind
      exact Or.inr (Or.inl ⟨s, hbehind, rfl⟩)
  · intro s time hmem r policy hactive
    exact Or.inr (Or.inr ⟨s, time, hmem, rfl⟩)
  · intro id reading time hmem x hx hactive
    exact Or.inl (honward id reading time hmem)

/-- **A sampled session is not reaped, unless it is shadowed.** For any reachable table, under either
policy, and a pass of the sampler at some moment. Every session that is active then and not shadowed
has heard a reading of its own. A sweep within the timeout evicts exactly the shadowed sessions that
have been idle for too long. If anything comes between pass and sweep, and the clock does not go
back, whoever is evicted was shadowed in the pass or was inserted after it. And under the monotonic
policy nobody is shadowed before the counter has given out all numbers. -/
theorem swept_after_sampling {policy : IdPolicy} {ceiling capacity : Nat}
    {operations : List Table.Operation} {g : Gateway}
    (hreached : g.table = (Table.fresh policy ceiling capacity).run operations)
    {source : Sampling.WordSource} {now : Moment} {p : Sampled}
    (hpass : g.sample source now = .ok p) :
    let timeout := g.config.session.idleTimeoutSecs * 1000
    let hidden := Roster.shadowed [] g.table.sessions
    (∀ s ∈ p.gateway.table.sessions, s.active = true → Heard now s ∨ s ∈ hidden)
      ∧ (∀ later, later.steady ≤ now.steady + timeout → (p.gateway.sweep later).1
        = (hidden.filter (Roster.expired later.steady timeout)).map (·.ended .timedOut))
      ∧ (∀ between later, Onward now between → later.steady ≤ now.steady + timeout →
        ∀ x ∈ ({ p.gateway with table := p.gateway.table.run between }.sweep later).1,
          ∃ s, x = s.ended .timedOut
            ∧ ((∃ y ∈ hidden, y.origin = s.origin) ∨ CameIn between s))
      ∧ (policy = .monotonic →
        (Table.fresh policy ceiling capacity).admissions operations ≤ UInt32.size → hidden = []) := by
  intro timeout hidden
  obtain ⟨hshadowed, hforemost⟩ := heard_sample hpass
  have hconfig : p.gateway.config = g.config := (reached_sampleEach hpass).2
  refine ⟨?_, ?_, ?_, ?_⟩
  · intro s hs hactive
    rcases Roster.mem_foremost_or_shadowed [] hs with hfound | hbehind
    · exact Or.inl (hforemost s hfound hactive)
    · rw [hshadowed] at hbehind
      exact Or.inr hbehind
  · intro later hsoon
    -- whoever is found was heard in the pass or is not active, so what expires is shadowed
    have hspared : ∀ s ∈ Roster.foremost [] p.gateway.table.sessions,
        Roster.expired later.steady timeout s = false := by
      intro s hs
      by_cases hactive : s.active = true
      · exact not_expired_of_heard (hforemost s hs hactive) hsoon
      · rw [Roster.expired, Bool.eq_false_iff.mpr hactive, Bool.false_and]
    rw [sweep_fst, hconfig, Roster.filter_shadowed hspared, hshadowed]
  · intro between later honward hsoon x hx
    rw [sweep_fst] at hx
    obtain ⟨s, hs, rfl⟩ := List.mem_map.mp hx
    obtain ⟨hs, hexpired⟩ := List.mem_filter.mp hs
    rw [hconfig, Roster.expired, Bool.and_eq_true, decide_eq_true_eq, Session.idleFor] at hexpired
    refine ⟨s, rfl, ?_⟩
    rcases heard_since hpass honward s hs hexpired.1 with hheard | hother
    · omega
    · exact hother
  · rintro rfl hfew
    have hnodup := Table.nodup_sensors ceiling capacity operations hfew
    rw [← hreached] at hnodup
    exact Roster.shadowed_of_nodup hnodup fun x _ => List.not_mem_nil

/-- Two sessions with numbers of their own have been idle for longer than the timeout when a pass
comes; the last sweep that it protects them from finds nobody. -/
theorem swept_after_sampling_of_idle :
    let node (port : UInt16) : Session :=
      Session.start "10.0.0.1" "10.0.0.1" port false port.toNat ⟨0, 0⟩
    let g : Gateway := { Gateway.ofConfig {} with
      table := (Table.fresh .monotonic 10 10).run
        [.insert (node 1) ⟨0, 0⟩, .insert (node 2) ⟨0, 0⟩] }
    g.table.sessions.countP (Roster.expired 31000 30000) = 2
      ∧ ∃ p, g.sample ⟨[0], 0⟩ ⟨31000, 31000⟩ = .ok p
        ∧ (p.gateway.sweep ⟨61000, 61000⟩).1 = [] := by
  intro node g
  refine ⟨by decide, ?_⟩
  rcases hpass : g.sample ⟨[0], 0⟩ ⟨31000, 31000⟩ with fault | p
  · have hok : (g.sample ⟨[0], 0⟩ ⟨31000, 31000⟩).toOption.isSome = true := by decide
    rw [hpass] at hok
    cases hok
  · have hreached : g.table = (Table.fresh .monotonic 10 10).run
        [.insert (node 1) ⟨0, 0⟩, .insert (node 2) ⟨0, 0⟩] := rfl
    obtain ⟨-, hswept, -, hunique⟩ := swept_after_sampling hreached hpass
    refine ⟨p, rfl, ?_⟩
    rw [hswept ⟨61000, 61000⟩ (by decide), hunique rfl (by decide)]
    rfl

/-- The second session has the number of the third, which is given out again after the first has
left. It has been idle for longer than the timeout, the pass does not reach it, and the sweep evicts
it. -/
theorem shadowed_session_reaped :
    let node (port : UInt16) : Session :=
      Session.start "10.0.0.1" "10.0.0.1" port false port.toNat ⟨0, 0⟩
    let g : Gateway := { Gateway.ofConfig { session := { idPolicy := .reuseSlot } } with
      table := (Table.fresh .reuseSlot 10 10).run [.insert (node 1) ⟨0, 0⟩,
        .insert (node 2) ⟨0, 0⟩, .remove ⟨0⟩, .insert (node 3) ⟨0, 0⟩] }
    let evicted := (g.sample ⟨[0], 0⟩ ⟨31000, 31000⟩).toOption.map fun p =>
      (p.gateway.sweep ⟨31000, 31000⟩).1
    g.table.sessions.map (fun s => (s.port, s.sensor.value)) = [(3, 1), (2, 1)]
      ∧ ∃ s ∈ g.table.sessions, s.active = true ∧ evicted = some [s.ended .timedOut] := by
  decide +kernel

end Gateway

end SensorGateway
