import Mathlib.Algebra.Group.Nat.Defs
import Mathlib.Data.List.Nodup
import SensorGateway.Proofs.Session.Census

/-!
Sensor identifiers under the monotonic policy.

The counter gives the identifiers 0, 1, 2 and so on, and starts again after the last word. So the
sessions of a table have numbers that were given out at different admissions, the newest the
greatest, and as long as the counter has not started again no two of them are the same
(`nodup_sensors`).

The same invariant tells the whole history of identifiers (`identifiers_count_admissions`): which
one each admission of a run has got, and that one which is not found any more has gone for good. A
session that is found later was there before or has been admitted since (`mem_sensors_run`), and
what has been admitted since has a later number.
-/

set_option autoImplicit false

namespace SensorGateway.Table

/-! ## Numbers -/

/-- The number that an admission gets, by how many there were before it. -/
def numberAt (k : Nat) : SensorId := ⟨k.toUInt32⟩

/-- Numbers are words: the counter starts again behind the last one. -/
theorem toNat_numberAt (k : Nat) : (numberAt k).value.toNat = k % 2 ^ 32 :=
  UInt32.toNat_ofNat'

/-- The counter gives a number again after `2 ^ 32` admissions. -/
theorem mod_eq_of_numberAt {j k : Nat} (h : numberAt j = numberAt k) :
    j % 2 ^ 32 = k % 2 ^ 32 := by
  rw [← toNat_numberAt, h, toNat_numberAt]

/-- Before the counter starts again it gives no number twice. -/
theorem eq_of_numberAt {j k : Nat} (hj : j < UInt32.size) (hk : k < UInt32.size)
    (h : numberAt j = numberAt k) : j = k := by
  have hword := mod_eq_of_numberAt h
  unfold UInt32.size at hj hk
  omega

/-- **The counter has given out so many numbers,** and the sessions have some of them, the newest
session the latest. -/
structure CountsUp (t : Table) (n : Nat) : Prop where
  policy : t.policy = .monotonic
  nextId : t.roster.nextId = n.toUInt32
  numbers : ∃ given : List Nat, given.Pairwise (· > ·) ∧ (∀ k ∈ given, k < n)
    ∧ t.sessions.map (·.sensor) = given.map numberAt

theorem countsUp_fresh (ceiling capacity : Nat) : (fresh .monotonic ceiling capacity).CountsUp 0 :=
  ⟨rfl, rfl, [], .nil, by simp, rfl⟩

variable {t : Table} {n : Nat}

/-! ## Operations -/

theorem policy_tearDownAll (t : Table) (status : LinkStatus) (gone : List Session) :
    (t.tearDownAll status gone).2.policy = t.policy := by
  induction gone generalizing t with
  | nil => rfl
  | cons s rest ih => exact ih (t.tearDown s status).2

/-- The counter stands at the next number. -/
theorem CountsUp.assignedId (h : t.CountsUp n) : t.roster.assignedId t.policy = numberAt n := by
  simp only [Roster.assignedId, h.policy, h.nextId]
  rfl

/-- A session that is admitted gets the next number. -/
theorem CountsUp.push (h : t.CountsUp n) (l : Admission.Ledger) (s : Session) (now : Moment) :
    { t with ledger := l, roster := t.roster.push t.policy s now }.CountsUp (n + 1) := by
  have hnew : (t.roster.numbered t.policy s now).sensor = numberAt n := h.assignedId
  obtain ⟨hpolicy, hnext, given, horder, hbound, hsensors⟩ := h
  refine ⟨hpolicy, ?_, n :: given, ?_, ?_, ?_⟩
  · simp only [Roster.push, hpolicy, hnext]
    simp
  · exact List.pairwise_cons.mpr ⟨hbound, horder⟩
  · intro k hk
    rcases List.mem_cons.mp hk with rfl | hk
    · exact Nat.lt_succ_self k
    · exact Nat.lt_succ_of_lt (hbound k hk)
  · show (t.roster.numbered t.policy s now).sensor :: t.sessions.map (·.sensor) = _
    rw [hnew, hsensors]
    rfl

/-- Those that stay when others leave keep their numbers, and the counter stands. -/
theorem CountsUp.leave (h : t.CountsUp n) {gone : List Session} {r : Roster}
    (hgone : t.roster.TakesOut gone r) (status : LinkStatus) :
    ({ t with roster := r }.tearDownAll status gone).2.CountsUp n := by
  obtain ⟨hpolicy, hnext, given, horder, hbound, hsensors⟩ := h
  -- the numbers that are left are a sublist of numbers that were given, hence still in order
  have hkept := (sublist_leave hgone status).map (·.sensor)
  rw [hsensors, List.sublist_map_iff] at hkept
  obtain ⟨kept, hsub, heq⟩ := hkept
  refine ⟨?_, ?_, kept, horder.sublist hsub, fun k hk => hbound k (hsub.subset hk), heq⟩
  · rw [policy_tearDownAll]
    exact hpolicy
  · rw [roster_tearDownAll]
    exact hgone.nextId.trans hnext

theorem CountsUp.removeWhere (h : t.CountsUp n) (p : Session → Bool) :
    (t.removeWhere p).2.CountsUp n := by
  rcases removeWhere_cases t p with ⟨-, heq⟩ | ⟨s, r, htake, heq⟩
  · rw [heq]
    exact h
  · rw [heq]
    exact h.leave (Roster.takesOut_take? htake) .disconnected

/-- **One operation more.** -/
theorem CountsUp.apply (h : t.CountsUp n) (op : Operation) :
    (t.apply op).CountsUp (n + t.admits op) := by
  cases op with
  | insert s now =>
    rcases insert_cases t s now with ⟨-, heq⟩ | ⟨l, existing, -, -, heq⟩ | ⟨l, -, -, heq⟩
    · simp only [Table.apply, admits, heq]
      exact ⟨h.policy, h.nextId, h.numbers⟩
    · simp only [Table.apply, admits, heq]
      exact ⟨h.policy, h.nextId, h.numbers⟩
    · simp only [Table.apply, admits, heq]
      exact h.push l s now
  | remove id => exact h.removeWhere _
  | removeLink ticket => exact h.removeWhere _
  | updateReading id reading now =>
    rcases updateReading_cases t id reading now with heq | heq
    · simp only [Table.apply, heq]
      exact h
    · simp only [Table.apply, heq]
      obtain ⟨given, horder, hbound, hsensors⟩ := h.numbers
      have hkept := Roster.map_adjustFirst (fun s => decide (s.sensor = id)) (·.hear reading now)
        (·.sensor) (fun _ => rfl) t.sessions
      exact ⟨h.policy, h.nextId, given, horder, hbound, hkept.trans hsensors⟩
  | reapIdle steady timeout =>
    exact h.leave (Roster.takesOut_takeExpired t.roster steady timeout) .timedOut
  | clear => exact h.leave (Roster.takesOut_takeAll t.roster) .disconnected
  | setRunningPort port => exact ⟨h.policy, h.nextId, h.numbers⟩

/-- **The counter keeps count over a run.** -/
theorem CountsUp.run (h : t.CountsUp n) (operations : List Operation) :
    (t.run operations).CountsUp (n + t.admissions operations) := by
  induction operations generalizing t n with
  | nil => exact h
  | cons op operations ih =>
    have hrest := ih (h.apply op)
    rw [Nat.add_assoc] at hrest
    exact hrest

/-! ## Different sessions have different numbers -/

/-- As long as the counter has not started again no two sessions have one number. -/
theorem CountsUp.nodup (h : t.CountsUp n) (hn : n ≤ UInt32.size) :
    (t.sessions.map (·.sensor)).Nodup := by
  obtain ⟨given, horder, hbound, hsensors⟩ := h.numbers
  have hgiven : given.Nodup := horder.imp Nat.ne_of_gt
  rw [hsensors]
  refine List.Nodup.map_on (fun j hj k hk hsame => ?_) hgiven
  exact eq_of_numberAt (Nat.lt_of_lt_of_le (hbound j hj) hn)
    (Nat.lt_of_lt_of_le (hbound k hk) hn) hsame

/-- Different numbers stay different if an admitted session gets one of its own. -/
theorem nodup_sensors_apply {op : Operation} (h : (t.sessions.map (·.sensor)).Nodup)
    (hnew : ∀ s now id, op = .insert s now → (t.insert s now).1 = .ok id →
      id ∉ t.sessions.map (·.sensor)) :
    ((t.apply op).sessions.map (·.sensor)).Nodup := by
  rcases sessions_apply t op with
    hkept | ⟨s, now, hop, hok, -, heq⟩ | ⟨id, reading, now, -, heq⟩
  · exact h.sublist (hkept.map _)
  · rw [heq]
    exact List.nodup_cons.mpr ⟨hnew s now _ hop hok, h⟩
  · -- a session that hears a reading keeps its number
    have hsame := Roster.map_adjustFirst (fun s => decide (s.sensor = id)) (·.hear reading now)
      (·.sensor) (fun _ => rfl) t.sessions
    rw [heq, hsame]
    exact h

/-- **Under the monotonic policy no two registered sessions have one number,** until the counter has
given out all there are. -/
theorem nodup_sensors (ceiling capacity : Nat) (operations : List Operation)
    (h : (fresh .monotonic ceiling capacity).admissions operations ≤ UInt32.size) :
    (((fresh .monotonic ceiling capacity).run operations).sessions.map (·.sensor)).Nodup := by
  have hcounts := (countsUp_fresh ceiling capacity).run operations
  rw [Nat.zero_add] at hcounts
  exact hcounts.nodup h

/-! ## All the numbers of a run -/

/-- The identifiers that an operation gives out: that of an insert which is not turned away. -/
def issues (t : Table) : Operation → List SensorId
  | .insert s now =>
    match (t.insert s now).1 with
    | .ok id => [id]
    | .error _ => []
  | _ => []

/-- **The identifiers that a run gives out,** the first one first. -/
def issued : Table → List Operation → List SensorId
  | _, [] => []
  | t, op :: operations => t.issues op ++ issued (t.apply op) operations

/-- An admission gives out the next number and nothing else does. -/
theorem CountsUp.issues (h : t.CountsUp n) (op : Operation) :
    t.issues op = (List.range' n (t.admits op)).map numberAt := by
  cases op with
  | insert s now =>
    rcases insert_cases t s now with ⟨-, heq⟩ | ⟨l, existing, -, -, heq⟩ | ⟨l, -, -, heq⟩
    · simp only [Table.issues, admits, heq]
      rfl
    · simp only [Table.issues, admits, heq]
      rfl
    · simp only [Table.issues, admits, heq, h.assignedId]
      rfl
  | remove id => rfl
  | removeLink ticket => rfl
  | updateReading id reading now => rfl
  | reapIdle steady timeout => rfl
  | clear => rfl
  | setRunningPort port => rfl

/-- **The admissions of a run get consecutive numbers.** -/
theorem CountsUp.issued (h : t.CountsUp n) (operations : List Operation) :
    t.issued operations = (List.range' n (t.admissions operations)).map numberAt := by
  induction operations generalizing t n with
  | nil => rfl
  | cons op operations ih =>
    have hrest := ih (h.apply op)
    have hsplit : t.admissions (op :: operations)
        = t.admits op + (t.apply op).admissions operations := rfl
    rw [Table.issued, h.issues op, hrest, ← List.map_append, List.range'_append_1, hsplit]

/-- The number of a session that is there after an operation was there before or has been given out
by it. -/
theorem mem_sensors_apply {op : Operation} {id : SensorId}
    (h : id ∈ (t.apply op).sessions.map (·.sensor)) :
    id ∈ t.sessions.map (·.sensor) ∨ id ∈ t.issues op := by
  rcases sessions_apply t op with
    hkept | ⟨s, now, rfl, hok, -, heq⟩ | ⟨other, reading, now, -, heq⟩
  · exact Or.inl ((hkept.map _).subset h)
  · rw [heq, List.map_cons] at h
    rcases List.mem_cons.mp h with rfl | hold
    · refine Or.inr ?_
      simp only [Table.issues, hok]
      exact List.mem_singleton.mpr rfl
    · exact Or.inl hold
  · -- a session that hears a reading keeps its number
    have hsame := Roster.map_adjustFirst (fun s => decide (s.sensor = other)) (·.hear reading now)
      (·.sensor) (fun _ => rfl) t.sessions
    rw [heq, hsame] at h
    exact Or.inl h

/-- **Whoever is there was there before or has been admitted since.** -/
theorem mem_sensors_run {operations : List Operation} {id : SensorId}
    (h : id ∈ (t.run operations).sessions.map (·.sensor)) :
    id ∈ t.sessions.map (·.sensor) ∨ id ∈ t.issued operations := by
  induction operations generalizing t with
  | nil => exact Or.inl h
  | cons op operations ih =>
    rw [Table.issued, List.mem_append]
    rcases ih h with hfirst | hlater
    · exact (mem_sensors_apply hfirst).imp_right Or.inl
    · exact Or.inr (Or.inr hlater)

/-- A number is found exactly if a session has it. -/
theorem find?_eq_none_iff {id : SensorId} :
    t.find? id = none ↔ id ∉ t.sessions.map (·.sensor) := by
  unfold find? Roster.find? sessions
  rw [List.find?_eq_none, List.mem_map]
  constructor
  · rintro h ⟨x, hx, hid⟩
    exact h x hx (by simpa using hid)
  · intro h x hx hid
    exact h ⟨x, hx, by simpa using hid⟩

/-- Along the table the numbers go down, while the counter has not started again. -/
theorem CountsUp.decreasing (h : t.CountsUp n) (hn : n ≤ UInt32.size) :
    t.sessions.Pairwise fun x y => y.sensor.value < x.sensor.value := by
  obtain ⟨given, horder, hbound, hsensors⟩ := h.numbers
  have hwords : (given.map numberAt).Pairwise fun a b => b.value < a.value := by
    refine List.pairwise_map.mpr (horder.imp_of_mem fun {j k} hj hk hjk => ?_)
    have hjlt : j < 2 ^ 32 := Nat.lt_of_lt_of_le (hbound j hj) hn
    have hklt : k < 2 ^ 32 := Nat.lt_of_lt_of_le (hbound k hk) hn
    rw [UInt32.lt_iff_toNat_lt, toNat_numberAt, toNat_numberAt, Nat.mod_eq_of_lt hjlt,
      Nat.mod_eq_of_lt hklt]
    exact hjk
  rw [← hsensors] at hwords
  exact List.pairwise_map.mp hwords

/-- An insert that is turned away leaves the counter where it is. One that is not enters a session
with the next number, which shows it in an invalid placeholder reading. -/
theorem CountsUp.insert (h : t.CountsUp n) (s : Session) (now : Moment) :
    (∃ e, (t.insert s now).1 = .error e ∧ (t.insert s now).2.roster.nextId = t.roster.nextId
        ∧ t.admits (.insert s now) = 0)
      ∨ ∃ x, (t.insert s now).1 = .ok x.sensor ∧ x.sensor = numberAt n
        ∧ (t.insert s now).2.sessions = x :: t.sessions ∧ t.admits (.insert s now) = 1
        ∧ x.latest = Reading.initial x.sensor now.seconds ∧ x.latest.valid = false := by
  rcases insert_cases t s now with ⟨-, heq⟩ | ⟨l, existing, -, -, heq⟩ | ⟨l, -, -, heq⟩
  · exact Or.inl ⟨_, by rw [heq], by rw [heq]; rfl, by simp only [admits, heq]⟩
  · exact Or.inl ⟨_, by rw [heq], by rw [heq]; rfl, by simp only [admits, heq]⟩
  · refine Or.inr ⟨t.roster.numbered t.policy s now, ?_, h.assignedId, ?_, ?_, rfl, rfl⟩
    · rw [heq]
      rfl
    · rw [heq]
      rfl
    · simp only [admits, heq]

/-- Before the counter starts again, a number that was given out is not given out later. -/
theorem CountsUp.not_issued_again (h : t.CountsUp n) {i : Nat} (hi : i < n)
    {operations : List Operation} (hn : n + t.admissions operations ≤ 2 ^ 32) :
    numberAt i ∉ t.issued operations := by
  rw [h.issued operations]
  intro hagain
  obtain ⟨j, hj, hsame⟩ := List.mem_map.mp hagain
  rw [List.mem_range'_1] at hj
  -- two counts with one number are a multiple of `2 ^ 32` apart, and there is no room for that
  have hword := mod_eq_of_numberAt hsame
  omega

/-- **Identifiers count admissions.** Under the monotonic policy, with any ceiling and any capacity,
in every run of operations: the admissions get the identifiers 0, 1, 2 and so on, modulo `2 ^ 32`,
whatever is refused, removed, reaped or cleared in between. An insert that is turned away leaves the
counter where it is; one that is not enters a session which shows its identifier in an invalid
placeholder reading. Two admissions less than `2 ^ 32` apart have different identifiers. While there
have been no more than `2 ^ 32` of them, identifiers go down along the table, and one that was given
out and is not found any more is never found again. -/
theorem identifiers_count_admissions (ceiling capacity : Nat) (operations : List Operation) :
    let start := fresh .monotonic ceiling capacity
    let t := start.run operations
    let k := start.admissions operations
    (start.issued operations).map (·.value.toNat) = (List.range k).map (· % 2 ^ 32)
      ∧ (∀ s now,
          (∃ e, (t.insert s now).1 = .error e
            ∧ (t.insert s now).2.roster.nextId = t.roster.nextId
            ∧ start.admissions (operations ++ [.insert s now]) = k)
          ∨ ∃ x, (t.insert s now).1 = .ok x.sensor
            ∧ x.sensor.value.toNat = k % 2 ^ 32
            ∧ (t.insert s now).2.sessions = x :: t.sessions
            ∧ start.admissions (operations ++ [.insert s now]) = k + 1
            ∧ x.latest = Reading.initial x.sensor now.seconds ∧ x.latest.valid = false)
      ∧ (∀ i j, i < j → j < k → j < i + 2 ^ 32 →
          (start.issued operations)[i]? ≠ (start.issued operations)[j]?)
      ∧ (k ≤ 2 ^ 32 → t.sessions.Pairwise fun x y => y.sensor.value < x.sensor.value)
      ∧ ∀ id ∈ start.issued operations, t.find? id = none → ∀ more,
          start.admissions (operations ++ more) ≤ 2 ^ 32 → (t.run more).find? id = none := by
  intro start t k
  have hstart : start.CountsUp 0 := countsUp_fresh ceiling capacity
  have h : t.CountsUp k := by
    have hrun := hstart.run operations
    rwa [Nat.zero_add] at hrun
  have hissued : start.issued operations = (List.range k).map numberAt := by
    rw [List.range_eq_range']
    exact hstart.issued operations
  refine ⟨?_, fun s now => ?_, fun i j hij hjk hnear => ?_, h.decreasing,
    fun id hid habsent more hfew => ?_⟩
  · rw [hissued, List.map_map]
    exact List.map_congr_left fun i _ => toNat_numberAt i
  · have hadmissions : start.admissions (operations ++ [.insert s now])
        = k + t.admits (.insert s now) := sumAlong_append admits start operations [.insert s now]
    rw [hadmissions]
    rcases h.insert s now with ⟨e, herror, hnext, hnone⟩ | ⟨x, hok, hnumber, hthere, hone, hfresh⟩
    · exact Or.inl ⟨e, herror, hnext, by rw [hnone]; rfl⟩
    · exact Or.inr ⟨x, hok, by rw [hnumber, toNat_numberAt], hthere, by rw [hone], hfresh⟩
  · have hat : ∀ {m}, m < k → (start.issued operations)[m]? = some (numberAt m) := by
      intro m hm
      rw [hissued, List.getElem?_map, List.getElem?_range hm]
      rfl
    rw [hat (Nat.lt_trans hij hjk), hat hjk]
    intro hsame
    have hword := mod_eq_of_numberAt (Option.some.inj hsame)
    omega
  · have htotal : start.admissions (operations ++ more) = k + t.admissions more :=
      sumAlong_append admits start operations more
    rw [find?_eq_none_iff] at habsent ⊢
    rw [hissued] at hid
    rw [htotal] at hfew
    obtain ⟨i, hi, rfl⟩ := List.mem_map.mp hid
    intro hfound
    -- whoever is found later was there, which the look-up denies, or has been given the number
    -- again
    rcases mem_sensors_run hfound with hold | hnew
    · exact habsent hold
    · exact h.not_issued_again (List.mem_range.mp hi) hfew hnew

end SensorGateway.Table
