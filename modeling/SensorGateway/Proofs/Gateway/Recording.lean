import SensorGateway.Proofs.Gateway.Sampling
import SensorGateway.Proofs.Session.Idleness

/-!
What a pass of the sampler records.

The sampler lists the numbers of the active sessions, then draws a temperature for each of them and
looks the number up again to record it. Where all sessions have different numbers the look-up comes
back to the session that the number was taken from, and finds it as it was. So one recording changes
one session (`adjustFirst_of_nodup`), and the recordings of a pass do not meet: together they give
every session that is listed the reading that carries its number, and nothing to the others
(`sampleEach_eq`).

The draws are of no concern to each other either. The words are gone through in circles, so if one
draw ends, every later one does (`draw_ends_iff`).
-/

set_option autoImplicit false

namespace SensorGateway

/-! ## Draws -/

namespace Sampling

/-- A word that is accepted gives a value of the range. -/
theorem bounds_of_accept? {r : DrawRange} {w : UInt32} {value : Int} (hsize : r.size ≠ 0)
    (h : r.accept? w = some value) : r.low ≤ value ∧ value < r.high := by
  unfold DrawRange.accept? at h
  dsimp only at h
  split at h
  · cases h
    -- a word is less than 2 ^ 32, so the upper half of its product with the size is less than the size
    have hword : w.toNat < Nat.pow 2 32 := w.toNat_lt
    have hscaled : w.toNat * r.size / Nat.pow 2 32 < r.size := by
      refine Nat.div_lt_of_lt_mul ?_
      exact Nat.mul_lt_mul_of_pos_right hword (Nat.pos_of_ne_zero hsize)
    generalize w.toNat * r.size / Nat.pow 2 32 = upper at hscaled ⊢
    unfold DrawRange.size at hscaled
    omega
  · cases h

namespace WordSource

variable {r : DrawRange} {s : WordSource}

/-- Every place of a circle is reached within one round, wherever it is entered. -/
theorem exists_reach {len place : Nat} (hplace : place < len) (used : Nat) :
    ∃ i < len, (used + i) % len = place := by
  -- from where the source stands in its circle, as many words as are missing to the place
  have hused := Nat.mod_lt used (Nat.lt_of_le_of_lt (Nat.zero_le _) hplace)
  refine ⟨(place + len - used % len) % len, Nat.mod_lt _ (Nat.lt_of_le_of_lt (Nat.zero_le _) hplace), ?_⟩
  have hcircles := Nat.div_add_mod used len
  have hsum : used + (place + len - used % len) = place + len * (used / len + 1) := by
    rw [Nat.mul_add, Nat.mul_one]
    omega
  rw [Nat.add_mod_mod, hsum, Nat.add_mul_mod_self_left, Nat.mod_eq_of_lt hplace]

/-- **Tries that come to an acceptable word draw a value,** and the words stay. The induction is on the
tries: each word that is rejected brings the acceptable one a place closer. -/
theorem drawWithin_of_reach {tries i : Nat} (hi : i < tries) {w : UInt32}
    (hw : s.words[(s.used + i) % s.words.length]? = some w) (haccept : (r.accept? w).isSome = true)
    (hsize : r.size ≠ 0) :
    ∃ value after, drawWithin r tries s = .ok (value, after) ∧ after.words = s.words
      ∧ r.low ≤ value ∧ value < r.high := by
  induction tries generalizing i s with
  | zero => exact absurd hi (Nat.not_lt_zero i)
  | succ tries ih =>
    have hlength : 0 < s.words.length := by
      obtain ⟨hplace, -⟩ := List.getElem?_eq_some_iff.mp hw
      exact Nat.lt_of_le_of_lt (Nat.zero_le _) hplace
    obtain ⟨first, hfirst⟩ : ∃ first, s.words[s.used % s.words.length]? = some first :=
      ⟨_, List.getElem?_eq_getElem (Nat.mod_lt _ hlength)⟩
    have hnext : s.next? = some (first, { s with used := s.used + 1 }) := by
      rw [next?, hfirst]
    simp only [drawWithin, hnext]
    rcases hvalue : r.accept? first with _ | value
    · -- this word is rejected, so it is not the one that is to come
      rcases i with _ | i
      · rw [Nat.add_zero, hfirst] at hw
        cases hw
        rw [hvalue] at haccept
        cases haccept
      · have hlater : s.words[(s.used + 1 + i) % s.words.length]? = some w := by
          rw [Nat.add_assoc, Nat.add_comm 1 i]
          exact hw
        exact ih (s := { s with used := s.used + 1 }) (Nat.lt_of_succ_lt_succ hi) hlater
    · exact ⟨value, _, rfl, rfl, bounds_of_accept? hsize hvalue⟩

/-- A draw that ends has found an acceptable word. -/
theorem exists_accepted {tries : Nat} {drawn : Int × WordSource}
    (h : drawWithin r tries s = .ok drawn) : ∃ w ∈ s.words, (r.accept? w).isSome = true := by
  induction tries generalizing s with
  | zero => cases h
  | succ tries ih =>
    rcases hword : s.words[s.used % s.words.length]? with _ | w
    · simp only [drawWithin, next?, hword] at h
      cases h
    · simp only [drawWithin, next?, hword] at h
      rcases hvalue : r.accept? w with _ | value
      · simp only [hvalue] at h
        exact ih (s := { s with used := s.used + 1 }) h
      · exact ⟨w, List.mem_of_getElem? hword, by rw [hvalue]; rfl⟩

/-- **One acceptable word among all is enough for a draw:** there are as many tries as words. -/
theorem draw_of_accepted (hsize : r.size ≠ 0)
    (h : ∃ w ∈ s.words, (r.accept? w).isSome = true) :
    ∃ value after, s.draw r = .ok (value, after) ∧ after.words = s.words
      ∧ r.low ≤ value ∧ value < r.high := by
  obtain ⟨w, hw, haccept⟩ := h
  obtain ⟨place, hplace, hget⟩ := List.mem_iff_getElem.mp hw
  obtain ⟨i, hi, hreach⟩ := exists_reach hplace s.used
  have hcome : s.words[(s.used + i) % s.words.length]? = some w := by
    rw [hreach, List.getElem?_eq_getElem hplace, hget]
  rw [draw, if_neg hsize]
  exact drawWithin_of_reach hi hcome haccept hsize

/-- **A draw ends exactly if the range has a value and some word is acceptable.** -/
theorem draw_ends_iff (r : DrawRange) (s : WordSource) :
    (∃ drawn, s.draw r = .ok drawn) ↔ r.size ≠ 0 ∧ ∃ w ∈ s.words, (r.accept? w).isSome = true := by
  constructor
  · rintro ⟨drawn, hdrawn⟩
    unfold draw at hdrawn
    split at hdrawn
    next => cases hdrawn
    next hsize => exact ⟨hsize, exists_accepted hdrawn⟩
  · rintro ⟨hsize, haccept⟩
    obtain ⟨value, after, hdrawn, -⟩ := draw_of_accepted hsize haccept
    exact ⟨_, hdrawn⟩

/-- If a draw ends it gives a value of the range, and so does the next one. -/
theorem draw_of_ends (h : ∃ drawn, s.draw r = .ok drawn) :
    ∃ value after, s.draw r = .ok (value, after) ∧ (∃ drawn, after.draw r = .ok drawn)
      ∧ r.low ≤ value ∧ value < r.high := by
  obtain ⟨hsize, haccept⟩ := (draw_ends_iff r s).mp h
  obtain ⟨value, after, hdrawn, hwords, hbounds⟩ := draw_of_accepted hsize haccept
  refine ⟨value, after, hdrawn, ?_, hbounds⟩
  -- the words are the same as before, only the place among them has moved
  rw [draw_ends_iff, hwords]
  exact ⟨hsize, haccept⟩

end WordSource

end Sampling

/-! ## The order of a table -/

/-- **Sessions stand in the order of their insertion, the newest first.** -/
theorem Table.newest_first (policy : IdPolicy) (ceiling capacity : Nat)
    (operations : List Table.Operation) :
    (((Table.fresh policy ceiling capacity).run operations).sessions.map (·.origin)).Sublist
      ((Table.inserted operations).reverse.map (·.origin)) := by
  induction operations using List.reverseRecOn with
  | nil => exact List.Sublist.refl []
  | append_singleton operations op ih =>
    have hmore : ((Table.inserted operations).reverse.map (·.origin)).Sublist
        ((Table.inserted (operations ++ [op])).reverse.map (·.origin)) := by
      refine (List.Sublist.reverse ?_).map _
      rw [Table.inserted, Table.inserted, List.filterMap_append]
      exact List.sublist_append_left _ _
    rw [Table.run_concat]
    rcases Table.sessions_apply ((Table.fresh policy ceiling capacity).run operations) op with
      hkept | ⟨s, now, rfl, -, -, heq⟩ | ⟨id, reading, now, -, heq⟩
    · exact ((hkept.map _).trans ih).trans hmore
    · -- a session that is admitted comes to the front of all that came before
      have hfront : Table.inserted (operations ++ [.insert s now])
          = Table.inserted operations ++ [s] := by
        rw [Table.inserted, List.filterMap_append]
        rfl
      rw [heq, hfront, List.reverse_append]
      exact ih.cons_cons s.origin
    · have hsame := Roster.map_adjustFirst (fun s => decide (s.sensor = id)) (·.hear reading now)
        (·.origin) (fun _ => rfl) ((Table.fresh policy ceiling capacity).run operations).sessions
      rw [heq, hsame]
      exact ih.trans hmore

/-! ## Recordings -/

/-- Where numbers differ, noting a reading by number concerns one session. -/
theorem Roster.adjustFirst_of_nodup {id : SensorId} {xs : List Session} (f : Session → Session)
    (h : (xs.map (·.sensor)).Nodup) :
    Roster.adjustFirst (·.sensor = id) f xs = xs.map fun s => if s.sensor = id then f s else s := by
  induction xs with
  | nil => rfl
  | cons s rest ih =>
    obtain ⟨hs, hrest⟩ := List.nodup_cons.mp h
    rw [Roster.adjustFirst, List.map_cons]
    by_cases hid : s.sensor = id
    · have hothers : ∀ x ∈ rest, x.sensor ≠ id := by
        intro x hx hsame
        exact hs (List.mem_map.mpr ⟨x, hx, hsame.trans hid.symm⟩)
      have hstay : (rest.map fun s => if s.sensor = id then f s else s) = rest := by
        refine (List.map_congr_left fun x hx => ?_).trans (List.map_id rest)
        rw [if_neg (hothers x hx)]
        rfl
      rw [if_pos (decide_eq_true hid), if_pos hid, hstay]
    · rw [if_neg (by simpa using hid), if_neg hid, ih hrest]

namespace Gateway

/-- A session after some readings: it has heard the one with its number. -/
def noted (now : Moment) (readings : List Reading) (s : Session) : Session :=
  match readings.find? (·.sensor = s.sensor) with
  | some r => s.hear r now
  | none => s

/-- The gateway after some readings. -/
def recorded (g : Gateway) (now : Moment) (readings : List Reading) : Gateway :=
  { g with
    table := { g.table with
      roster := { g.table.roster with sessions := g.table.sessions.map (noted now readings) } }
    queue := { g.queue with pending := g.queue.pending ++ readings }
    metrics := g.metrics.map fun m =>
      { m with readingsEnqueued := m.readingsEnqueued + readings.length } }

/-- The readings of some numbers with the degrees that were drawn for them. -/
def readingsAt (now : Moment) (ids : List SensorId) (degrees : List Int) : List Reading :=
  List.zipWith (fun id t => ⟨now.seconds, id, Binary.ofInt t, true⟩) ids degrees

variable {now : Moment} {g : Gateway}

/-- The readings of a pass carry the numbers they were taken for. -/
theorem sensors_readingsAt (now : Moment) {ids : List SensorId} {degrees : List Int}
    (h : degrees.length = ids.length) : (readingsAt now ids degrees).map (·.sensor) = ids := by
  have hfirst := List.map_fst_zip (Nat.le_of_eq h.symm)
  rw [List.map_zip_eq_zipWith] at hfirst
  rw [readingsAt, List.map_zipWith]
  exact hfirst

theorem sensor_noted (now : Moment) (readings : List Reading) (s : Session) :
    (noted now readings s).sensor = s.sensor := by
  unfold noted
  split
  · rfl
  · rfl

theorem sensors_recorded (g : Gateway) (now : Moment) (readings : List Reading) :
    (g.recorded now readings).table.sessions.map (·.sensor) = g.table.sessions.map (·.sensor) := by
  show (g.table.sessions.map (noted now readings)).map (·.sensor) = _
  rw [List.map_map]
  exact List.map_congr_left fun s _ => sensor_noted now readings s

/-- **A recording for a number that no session has changes nothing.** -/
theorem record_of_absent {id : SensorId} (h : g.table.find? id = none) (temperature : Temperature)
    (now : Moment) : g.record id temperature now = (none, g) := by
  have hroster : g.table.roster.find? id = none := h
  simp only [record, Table.updateReading, Roster.update?, hroster]

/-- Where numbers differ, recording a reading for one of them reaches its session. -/
theorem record_of_mem (hnodup : (g.table.sessions.map (·.sensor)).Nodup) {id : SensorId}
    (hid : id ∈ g.table.sessions.map (·.sensor)) (temperature : Temperature) (now : Moment) :
    g.record id temperature now = (some ⟨now.seconds, id, temperature, true⟩,
      g.recorded now [⟨now.seconds, id, temperature, true⟩]) := by
  have hnoted : g.table.sessions.map (noted now [⟨now.seconds, id, temperature, true⟩])
      = Roster.adjustFirst (·.sensor = id) (·.hear ⟨now.seconds, id, temperature, true⟩ now)
          g.table.sessions := by
    rw [Roster.adjustFirst_of_nodup _ hnodup]
    refine List.map_congr_left fun s _ => ?_
    by_cases hs : s.sensor = id
    · simp [noted, hs]
    · have hother : ¬ id = s.sensor := fun heq => hs heq.symm
      simp [noted, hs, hother]
  obtain ⟨s, hs, rfl⟩ := List.mem_map.mp hid
  -- the look-up finds somebody, and with different numbers it does not matter who
  rcases hfind : g.table.roster.find? s.sensor with _ | found
  · have hnone := List.find?_eq_none.mp hfind s hs
    simp at hnone
  · simp only [record, Table.updateReading, Roster.update?, hfind, recorded, hnoted]
    rfl

/-- Recordings for different numbers may be taken together. -/
theorem recorded_cons {r : Reading} {readings : List Reading}
    (h : r.sensor ∉ readings.map (·.sensor)) (g : Gateway) (now : Moment) :
    (g.recorded now [r]).recorded now readings = g.recorded now (r :: readings) := by
  have hsessions : (g.table.sessions.map (noted now [r])).map (noted now readings)
      = g.table.sessions.map (noted now (r :: readings)) := by
    rw [List.map_map]
    refine List.map_congr_left fun s _ => ?_
    by_cases hs : r.sensor = s.sensor
    · -- whoever hears the first reading hears none of the others
      have hnone : readings.find? (·.sensor = (s.hear r now).sensor) = none := by
        refine List.find?_eq_none.mpr fun x hx hsame => h ?_
        exact List.mem_map.mpr ⟨x, hx, (of_decide_eq_true hsame).trans hs.symm⟩
      simp only [Function.comp_apply, noted, List.find?_cons, hs, decide_true, hnone]
    · simp [noted, hs]
  have hmetrics : (g.metrics.map fun m =>
          { m with readingsEnqueued := m.readingsEnqueued + [r].length }).map
        (fun m => { m with readingsEnqueued := m.readingsEnqueued + readings.length })
      = g.metrics.map fun m =>
        { m with readingsEnqueued := m.readingsEnqueued + (r :: readings).length } := by
    rw [Option.map_map]
    congr 1
    funext m
    simp only [Function.comp_apply, List.length_cons, List.length_nil, Nat.add_assoc,
      Nat.add_comm 1, Nat.zero_add]
  unfold recorded
  simp only [Table.sessions] at hsessions ⊢
  rw [hsessions, hmetrics, List.append_assoc, List.singleton_append]

/-- **The readings of a pass.** The induction is on the numbers that are left. A recording changes
neither the numbers of the sessions nor the words, so what was known of both is still known for the
rest; and it adds a number to the readings that none of the rest has. -/
theorem sampleEach_eq (now : Moment) {range : Sampling.DrawRange} {ids : List SensorId} {s : Sampled}
    (hnodup : (s.gateway.table.sessions.map (·.sensor)).Nodup) (hids : ids.Nodup)
    (hknown : ∀ id ∈ ids, id ∈ s.gateway.table.sessions.map (·.sensor))
    (hends : ids ≠ [] → ∃ drawn, s.source.draw range = .ok drawn) :
    ∃ p degrees, sampleEach now range ids s = .ok p ∧ degrees.length = ids.length
      ∧ (∀ t ∈ degrees, range.low ≤ t ∧ t < range.high) ∧ p.count = s.count + ids.length
      ∧ p.gateway = s.gateway.recorded now (readingsAt now ids degrees) := by
  induction ids generalizing s with
  | nil =>
    refine ⟨s, [], rfl, rfl, by simp, rfl, ?_⟩
    have hsessions : s.gateway.table.sessions.map (noted now []) = s.gateway.table.sessions :=
      List.map_id' _
    have hmetrics : (s.gateway.metrics.map fun m =>
        { m with readingsEnqueued := m.readingsEnqueued + 0 }) = s.gateway.metrics :=
      Option.map_id'
    simp only [recorded, readingsAt, List.zipWith_nil_left, List.append_nil, List.length_nil,
      hsessions, hmetrics]
    rfl
  | cons id ids ih =>
    obtain ⟨hnew, hids⟩ := List.nodup_cons.mp hids
    obtain ⟨t, source, hdraw, hnext, hbounds⟩ :=
      Sampling.WordSource.draw_of_ends (hends (List.cons_ne_nil _ _))
    have hrecord := record_of_mem hnodup (hknown id List.mem_cons_self) (Binary.ofInt t) now
    generalize hr : (⟨now.seconds, id, Binary.ofInt t, true⟩ : Reading) = r at hrecord
    have hsensors := sensors_recorded s.gateway now [r]
    obtain ⟨p, degrees, hpass, hlength, hrange, hcount, hgateway⟩ :=
      ih (s := ⟨s.count + 1, s.gateway.recorded now [r], source⟩) (by rw [hsensors]; exact hnodup)
        hids (fun other hother => by
          rw [hsensors]
          exact hknown other (List.mem_cons_of_mem _ hother)) (fun _ => hnext)
    -- what the rest of the pass recorded goes behind the first reading
    have hreadings : readingsAt now (id :: ids) (t :: degrees) = r :: readingsAt now ids degrees := by
      rw [← hr]
      rfl
    refine ⟨p, t :: degrees, ?_, ?_, ?_, ?_, ?_⟩
    · rw [sampleEach, hdraw]
      simp only [hrecord, Option.isSome_some, if_true]
      exact hpass
    · rw [List.length_cons, List.length_cons, hlength]
    · exact List.forall_mem_cons.mpr ⟨hbounds, hrange⟩
    · have hone : p.count = s.count + 1 + ids.length := hcount
      rw [hone, List.length_cons]
      omega
    · have hothers : r.sensor ∉ (readingsAt now ids degrees).map (·.sensor) := by
        rw [sensors_readingsAt now hlength, ← hr]
        exact hnew
      rw [hgateway, recorded_cons hothers, hreadings]

/-- **The readings of the active sessions reach the active sessions and nobody else.** -/
theorem forall₂_noted {sessions : List Session} {readings : List Reading}
    (hnodup : (sessions.map (·.sensor)).Nodup)
    (hsensors : readings.map (·.sensor) = (sessions.filter (·.active)).map (·.sensor)) :
    List.Forall₂ (fun before after =>
        if before.active then
          ∃ r ∈ readings, r.sensor = before.sensor ∧ after = before.hear r now
        else after = before)
      sessions (sessions.map (noted now readings)) := by
  rw [List.forall₂_map_right_iff, List.forall₂_same]
  intro s hs
  by_cases hactive : s.active = true
  · rw [if_pos hactive]
    have hlisted : s.sensor ∈ (sessions.filter (·.active)).map (·.sensor) :=
      List.mem_map_of_mem (List.mem_filter.mpr ⟨hs, hactive⟩)
    rw [← hsensors] at hlisted
    obtain ⟨r, hr, hsensor⟩ := List.mem_map.mp hlisted
    rcases hfind : readings.find? (·.sensor = s.sensor) with _ | found
    · have hnone := List.find?_eq_none.mp hfind r hr
      exact absurd (decide_eq_true hsensor) hnone
    · have hfound : found.sensor = s.sensor := by simpa using List.find?_some hfind
      refine ⟨found, List.mem_of_find?_eq_some hfind, hfound, ?_⟩
      rw [noted, hfind]
  · -- a reading with its number would be that of an active session, which is then the same
    have hnone : readings.find? (·.sensor = s.sensor) = none := by
      refine List.find?_eq_none.mpr fun r hr hsame => hactive ?_
      have hlisted := List.mem_map_of_mem (f := (·.sensor)) hr
      rw [hsensors, of_decide_eq_true hsame] at hlisted
      obtain ⟨x, hx, hsensor⟩ := List.mem_map.mp hlisted
      obtain ⟨hx, hxactive⟩ := List.mem_filter.mp hx
      have hself : x = s := List.inj_on_of_nodup_map hnodup hx hs hsensor
      rwa [hself] at hxactive
    rw [if_neg hactive, noted, hnone]

/-- **A pass records one reading for each active session.** For any gateway whose sessions have
different numbers, and any words from which a draw of the range ends (if there is an active session
to draw for). The pass ends and answers how many sessions were active. As many readings are queued
behind those that were pending, in the order of the table, each with the number of its session, the
second of the pass and degrees of the range. An active session has heard the reading with its
number; any other session, the order of the sessions, the ledger and the rest of the gateway are as
they were. In a table that was reached by operations the order is the newest session first, and
under the monotonic policy the numbers differ until the counter has given out all there are. A
recording for a number that no session has changes nothing. -/
theorem sample_records_each_active (g : Gateway) (source : Sampling.WordSource) (now : Moment) :
    let active := g.table.sessions.filter (·.active)
    ((g.table.sessions.map (·.sensor)).Nodup →
      (active ≠ [] → ∃ drawn, source.draw g.drawRange = .ok drawn) →
      ∃ p degrees, g.sample source now = .ok p
        ∧ p.count = active.length
        ∧ degrees.length = active.length
        ∧ (∀ t ∈ degrees, g.drawRange.low ≤ t ∧ t < g.drawRange.high)
        ∧ let readings := List.zipWith
            (fun s t => (⟨now.seconds, s.sensor, Binary.ofInt t, true⟩ : Reading)) active degrees
          p.gateway = { g with
              table := { g.table with
                roster := { g.table.roster with sessions := p.gateway.table.sessions } }
              queue := { g.queue with pending := g.queue.pending ++ readings }
              metrics := g.metrics.map fun m =>
                { m with readingsEnqueued := m.readingsEnqueued + active.length } }
            ∧ List.Forall₂ (fun before after =>
                if before.active then
                  ∃ r ∈ readings, r.sensor = before.sensor ∧ after = before.hear r now
                else after = before)
              g.table.sessions p.gateway.table.sessions)
      ∧ (∀ policy ceiling capacity operations,
        g.table = (Table.fresh policy ceiling capacity).run operations →
          (g.table.sessions.map (·.origin)).Sublist
              ((Table.inserted operations).reverse.map (·.origin))
            ∧ (policy = .monotonic →
              (Table.fresh policy ceiling capacity).admissions operations ≤ UInt32.size →
                (g.table.sessions.map (·.sensor)).Nodup))
      ∧ ∀ id temperature, g.table.find? id = none → g.record id temperature now = (none, g) := by
  intro active
  refine ⟨fun hnodup hends => ?_, ?_, fun id temperature h => record_of_absent h temperature now⟩
  · have hids : g.table.roster.activeIds = active.map (·.sensor) := rfl
    have hsub : (active.map (·.sensor)).Sublist (g.table.sessions.map (·.sensor)) :=
      List.filter_sublist.map _
    obtain ⟨p, degrees, hpass, hlength, hrange, hcount, hgateway⟩ :=
      sampleEach_eq now (s := ⟨0, g, source⟩) hnodup
        (hnodup.sublist hsub) (fun id hid => hsub.subset hid)
        (fun hsome => hends fun hnone => hsome (by rw [hnone]; rfl))
    have hreadings : readingsAt now (active.map (·.sensor)) degrees = List.zipWith
        (fun s t => (⟨now.seconds, s.sensor, Binary.ofInt t, true⟩ : Reading)) active degrees := by
      rw [readingsAt, List.zipWith_map_left]
    have hsensors := sensors_readingsAt now hlength
    have hmany := congrArg List.length hsensors
    rw [List.length_map] at hmany
    rw [List.length_map] at hlength hcount hmany
    refine ⟨p, degrees, ?_, ?_, hlength, hrange, ?_⟩
    · rw [sample, hids]
      exact hpass
    · rw [hcount, Nat.zero_add]
    · have hsessions : p.gateway.table.sessions = g.table.sessions.map
          (noted now (readingsAt now (active.map (·.sensor)) degrees)) := by
        rw [hgateway]
        rfl
      rw [← hreadings]
      refine ⟨?_, ?_⟩
      · rw [hsessions, hgateway, recorded, hmany]
      · rw [hsessions]
        exact forall₂_noted hnodup hsensors
  · intro policy ceiling capacity operations hreached
    refine ⟨?_, ?_⟩
    · rw [hreached]
      exact Table.newest_first policy ceiling capacity operations
    · rintro rfl hfew
      rw [hreached]
      exact Table.nodup_sensors ceiling capacity operations hfew

/-- Three sessions, of which the one in the middle is not active, and a reading that is pending. The
first word is rejected by each draw and the second accepted. -/
theorem sample_records_each_active_of_three :
    let node (port : UInt16) (active : Bool) : Session :=
      { Session.start "10.0.0.1" "10.0.0.1" port false port.toNat ⟨0, 0⟩ with active }
    let operations : List Table.Operation := [.insert (node 1 true) ⟨0, 0⟩,
      .insert (node 2 false) ⟨0, 0⟩, .insert (node 3 true) ⟨0, 0⟩]
    let old : Reading := ⟨5, ⟨9⟩, Binary.ofInt 20, true⟩
    let g : Gateway := { Gateway.ofConfig { metrics := { enabled := true } } with
      table := (Table.fresh .monotonic 10 10).run operations
      queue := { (Gateway.ofConfig {}).queue with pending := [old] } }
    let source : Sampling.WordSource := ⟨[80000000, 1000000000], 0⟩
    g.drawRange.accept? 80000000 = none
      ∧ (Table.fresh .monotonic 10 10).admissions operations = 3
      ∧ (∃ p, g.sample source ⟨7000, 7000⟩ = .ok p ∧ p.count = 2
        ∧ p.gateway.queue.pending = [old, ⟨7, ⟨2⟩, Binary.ofInt 11, true⟩,
          ⟨7, ⟨0⟩, Binary.ofInt 11, true⟩]
        ∧ p.gateway.table.sessions.map (fun s => (s.sensor.value, s.latest.valid, s.lastSeen))
          = [(2, true, 7000), (1, false, 0), (0, true, 7000)]
        ∧ p.gateway.metrics = some { readingsEnqueued := 2 })
      ∧ g.record ⟨4⟩ (Binary.ofInt 11) ⟨7000, 7000⟩ = (none, g) := by
  intro node operations old g source
  obtain ⟨hrecords, hreached, habsent⟩ := sample_records_each_active g source ⟨7000, 7000⟩
  have hfew : (Table.fresh .monotonic 10 10).admissions operations = 3 := by decide
  have hnodup := (hreached .monotonic 10 10 operations rfl).2 rfl (by rw [hfew]; decide)
  have hends : ∃ drawn, source.draw g.drawRange = .ok drawn :=
    ⟨(11, ⟨[80000000, 1000000000], 2⟩), by decide⟩
  obtain ⟨p, degrees, hpass, hcount, -⟩ := hrecords hnodup fun _ => hends
  refine ⟨by decide, hfew, ⟨p, hpass, hcount, ?_⟩, habsent ⟨4⟩ (Binary.ofInt 11) (by decide)⟩
  have hpending : (g.sample source ⟨7000, 7000⟩).toOption.map (·.gateway.queue.pending)
      = some [old, ⟨7, ⟨2⟩, Binary.ofInt 11, true⟩, ⟨7, ⟨0⟩, Binary.ofInt 11, true⟩] := by
    decide
  have hsessions : (g.sample source ⟨7000, 7000⟩).toOption.map (·.gateway.table.sessions.map
      fun s => (s.sensor.value, s.latest.valid, s.lastSeen))
      = some [(2, true, 7000), (1, false, 0), (0, true, 7000)] := by
    decide
  have hmetrics : (g.sample source ⟨7000, 7000⟩).toOption.map (·.gateway.metrics)
      = some (some { readingsEnqueued := 2 }) := by
    decide
  rw [hpass] at hpending hsessions hmetrics
  exact ⟨Option.some.inj hpending, Option.some.inj hsessions, Option.some.inj hmetrics⟩

end Gateway

end SensorGateway
