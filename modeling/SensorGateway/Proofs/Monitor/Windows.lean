import Mathlib.Data.List.DropRight
import Mathlib.Data.List.Induction
import Mathlib.Data.List.Nodup
import SensorGateway.Gateway.Readings

/-!
What the histories of the monitor hold, told from what it has looked at.

A history is kept up reading by reading: one comes in, at full length the oldest one goes, and a
sensor that no session has the number of is forgotten with all it had. `accepted` says the same of
the sessions of many looks at once, without a history: it goes through them in order and leaves out
a reading with the time stamp of the one accepted before it. What counts for a number are the looks
since the last one that found no session with it (`sinceAbsent`).

`Shows` joins the two: the history of every number is the end of what was accepted for it, no longer
than the settings allow. One session more keeps this up for all numbers at once, since it concerns
its own number only. So it holds in the middle of a look as well, where the averages are taken.
-/

set_option autoImplicit false

namespace SensorGateway

namespace Monitor

/-! ## What is accepted -/

/-- Adds a reading to those accepted before it, unless it has the time stamp of the last of them. -/
def accept (log : List Reading) (r : Reading) : List Reading :=
  if log.getLast?.map (·.timestamp) = some r.timestamp then log else log ++ [r]

/-- **The readings that are accepted for a number** when sessions are looked at in order: the latest
ones of the active sessions with the number that have measured. -/
def accepted (id : SensorId) (sessions : List Session) : List Reading :=
  (sessions.filter fun s => s.active && s.latest.valid && s.sensor = id).foldl
    (fun log s => accept log s.latest) []

/-- **The sessions of the looks since the last one that found none with the number.** -/
def sinceAbsent (id : SensorId) (looks : List (List Session)) : List Session :=
  (looks.rtakeWhile fun sessions => sessions.any (·.sensor = id)).flatten

/-- The last temperatures of a list of readings, the oldest first. -/
def window (size : Nat) (log : List Reading) : List Temperature :=
  (log.map (·.temperature)).rtake size

/-- The sum from the left, divided by how many there are. -/
def mean (temperatures : List Temperature) : Temperature :=
  (temperatures.foldl Binary.add (Binary.withSign true 0)).divNat temperatures.length

theorem length_window (size : Nat) (log : List Reading) :
    (window size log).length = min log.length size := by
  rw [window, List.rtake, List.length_drop, List.length_map]
  omega

theorem accept_ne_nil (log : List Reading) (r : Reading) : accept log r ≠ [] := by
  unfold accept
  split
  next h =>
    rintro rfl
    cases h
  next => simp

section Looking

variable {id : SensorId} {sessions : List Session} {s : Session}

/-- A session with the number that has measured shows its latest reading. -/
theorem accepted_concat (h : Histories.isHeard s = true) (sessions : List Session) :
    accepted s.sensor (sessions ++ [s]) = accept (accepted s.sensor sessions) s.latest := by
  rw [Histories.isHeard] at h
  simp [accepted, h]

/-- A session that is passed over, or has another number, adds nothing. -/
theorem accepted_concat_of_ne (h : Histories.isHeard s = true → s.sensor ≠ id)
    (sessions : List Session) : accepted id (sessions ++ [s]) = accepted id sessions := by
  have hs : (s.active && s.latest.valid && decide (s.sensor = id)) = false := by
    rw [← Histories.isHeard, Bool.and_eq_false_imp, decide_eq_false_iff_not]
    exact h
  simp only [accepted, List.filter_append, List.filter_cons, hs, Bool.false_eq_true, if_false,
    List.filter_nil, List.append_nil]

/-- Where no session has a number nothing is accepted for it. -/
theorem accepted_of_absent (h : sessions.any (·.sensor = id) = false) :
    accepted id sessions = [] := by
  have hnone : (sessions.filter fun s => s.active && s.latest.valid && s.sensor = id) = [] := by
    refine List.filter_eq_nil_iff.mpr fun s hs => ?_
    have hother := List.any_eq_false.mp h s hs
    simp only [Bool.and_eq_true, not_and]
    exact fun _ => hother
  rw [accepted, hnone]
  rfl

/-- A look that finds none with the number makes the past forgotten. -/
theorem sinceAbsent_concat (id : SensorId) (looks : List (List Session))
    (sessions : List Session) :
    sinceAbsent id (looks ++ [sessions])
      = if sessions.any (·.sensor = id) then sinceAbsent id looks ++ sessions else [] := by
  rw [sinceAbsent, List.rtakeWhile_concat]
  split
  · simp [sinceAbsent]
  · rfl

end Looking

/-! ## One history -/

/-- The history of a number for which some readings were accepted. -/
def History.ofLog (size : Nat) (id : SensorId) (log : List Reading) : History :=
  ⟨id, window size log, log.getLast?.map (·.timestamp)⟩

/-- Making room and appending moves the window on by one. -/
theorem makeRoom_window {size : Nat} (hsize : 0 < size) (log : List Reading) (r : Reading) :
    History.makeRoom size (window size log) ++ [r.temperature] = window size (log ++ [r]) := by
  obtain ⟨n, rfl⟩ := Nat.exists_eq_add_of_lt hsize
  rw [Nat.zero_add, window, window, List.map_append, List.map_singleton, List.rtake_concat_succ]
  congr 1
  have hlength := length_window (n + 1) log
  rw [window] at hlength
  unfold History.makeRoom List.rtake at *
  rw [List.length_map] at *
  split
  · -- the window was full, and dropping its first moves its start on
    rw [List.drop_drop]
    congr 1
    omega
  · -- there was room, so the window held everything
    have hroom : log.length ≤ n := by omega
    rw [Nat.sub_eq_zero_of_le hroom, Nat.sub_eq_zero_of_le (Nat.le_succ_of_le hroom)]

/-- **A history takes a reading in as a log does.** -/
theorem push_ofLog {size : Nat} (hsize : 0 < size) (id : SensorId) (log : List Reading)
    (r : Reading) : (History.ofLog size id log).push size r = History.ofLog size id (accept log r) := by
  unfold History.push accept
  by_cases hseen : log.getLast?.map (·.timestamp) = some r.timestamp
  · have hlast : (History.ofLog size id log).lastSeen = some r.timestamp := hseen
    rw [if_pos hlast, if_pos hseen]
  · have hlast : ¬ (History.ofLog size id log).lastSeen = some r.timestamp := hseen
    rw [if_neg hlast, if_neg hseen]
    simp only [History.ofLog, makeRoom_window hsize, List.getLast?_append, List.getLast?_singleton]
    rfl

/-- The average of a history is the mean of its window. -/
theorem average_ofLog {size : Nat} (hsize : 0 < size) (id : SensorId) {log : List Reading}
    (hlog : log ≠ []) : (History.ofLog size id log).average = mean (window size log) := by
  have hpositive := List.length_pos_iff.mpr hlog
  have hsome : (window size log).isEmpty = false := by
    rw [List.isEmpty_eq_false_iff, ← List.length_pos_iff, length_window]
    omega
  simp only [History.average, History.ofLog, hsome]
  rfl

/-! ## All histories -/

namespace Histories

variable {hs : Histories} {size : Nat} {past : SensorId → List Session}

/-- Putting a history replaces that of its number and no other. -/
theorem find?_put (hs : Histories) (h : History) (id : SensorId) :
    (hs.put h).find? id = if h.sensor = id then some h else hs.find? id := by
  -- along the histories, up to the first with the number of the one that is put
  induction hs with
  | nil =>
    by_cases hid : h.sensor = id
    · simp [put, find?, hid]
    · simp [put, find?, hid]
  | cons x xs ih =>
    rw [put]
    unfold find? at ih ⊢
    by_cases hx : x.sensor = h.sensor
    · by_cases hid : h.sensor = id
      · simp [hx, hid]
      · simp [hx, hid]
    · rw [if_neg hx]
      by_cases hxid : x.sensor = id
      · have hother : h.sensor ≠ id := fun heq => hx (hxid.trans heq.symm)
        simp [hxid, hother]
      · simpa [hxid] using ih

/-- It has its number in the place of the old one, or at the end. -/
theorem sensors_put (hs : Histories) (h : History) :
    (hs.put h).map (·.sensor)
      = if h.sensor ∈ hs.map (·.sensor) then hs.map (·.sensor)
        else hs.map (·.sensor) ++ [h.sensor] := by
  induction hs with
  | nil => rfl
  | cons x xs ih =>
    rw [put]
    by_cases hx : x.sensor = h.sensor
    · simp [hx]
    · have hne : ¬ h.sensor = x.sensor := fun heq => hx heq.symm
      rw [if_neg hx, List.map_cons, ih, List.map_cons]
      by_cases hmem : h.sensor ∈ xs.map (·.sensor)
      · rw [if_pos hmem, if_pos (List.mem_cons_of_mem _ hmem)]
      · rw [if_neg hmem, if_neg (by simp only [List.mem_cons, not_or]; exact ⟨hne, hmem⟩)]
        rfl

theorem nodup_put (h : (hs.map (·.sensor)).Nodup) (x : History) :
    ((hs.put x).map (·.sensor)).Nodup := by
  rw [sensors_put]
  split
  · exact h
  next hnew =>
    rw [List.nodup_append]
    refine ⟨h, List.pairwise_singleton _ _, fun a ha b hb => ?_⟩
    rw [List.mem_singleton] at hb
    rintro rfl
    exact hnew (hb ▸ ha)

/-- What is retained are the histories of numbers that sessions have. -/
theorem find?_retain (hs : Histories) (sessions : List Session) (id : SensorId) :
    (hs.retain sessions).find? id
      = if sessions.any (·.sensor = id) then hs.find? id else none := by
  rw [find?, retain, List.find?_filter]
  by_cases hany : sessions.any (·.sensor = id) = true
  · rw [if_pos hany, find?]
    congr 1
    funext h
    by_cases hid : h.sensor = id
    · simp [hid, hany]
    · simp [hid]
  · rw [if_neg hany, List.find?_eq_none]
    intro h _
    by_cases hid : h.sensor = id
    · simp [hid, hany]
    · simp [hid]

/-- **The histories show the end of what was accepted,** where `past` are the sessions that were
looked at for each number. -/
structure Shows (hs : Histories) (size : Nat) (past : SensorId → List Session) : Prop where
  nodup : (hs.map (·.sensor)).Nodup
  found : ∀ id, hs.find? id = if accepted id (past id) = [] then none
    else some (History.ofLog size id (accepted id (past id)))

theorem shows_nil (size : Nat) : Shows [] size fun _ => [] := ⟨List.nodup_nil, fun _ => rfl⟩

/-- What the histories show depends on the past only as far as readings were accepted. -/
theorem Shows.congr (h : hs.Shows size past) {past' : SensorId → List Session}
    (hsame : ∀ id, accepted id (past' id) = accepted id (past id)) : hs.Shows size past' := by
  refine ⟨h.nodup, fun id => ?_⟩
  rw [hsame]
  exact h.found id

/-- A history that is kept holds the end of a log that is not empty. -/
theorem Shows.eq_ofLog (h : hs.Shows size past) {x : History} (hx : x ∈ hs) :
    accepted x.sensor (past x.sensor) ≠ []
      ∧ x = History.ofLog size x.sensor (accepted x.sensor (past x.sensor)) := by
  have hfound := h.found x.sensor
  rcases hfind : hs.find? x.sensor with _ | y
  · have hnone := List.find?_eq_none.mp hfind x hx
    simp at hnone
  · -- no number has two histories, so a look-up comes back to this one
    have hy : y = x := by
      have hsensor := List.find?_some hfind
      exact List.inj_on_of_nodup_map h.nodup (List.mem_of_find?_eq_some hfind) hx
        (by simpa using hsensor)
    rw [hfind, hy] at hfound
    split at hfound
    next => cases hfound
    next hsome => exact ⟨hsome, Option.some.inj hfound⟩

/-- What a session is heard into is the end of the log with its reading. -/
theorem Shows.heard (h : hs.Shows size past) (hsize : 0 < size) {s : Session}
    (hs' : isHeard s = true) :
    hs.heard size s = History.ofLog size s.sensor (accepted s.sensor (past s.sensor ++ [s])) := by
  have hold : (hs.find? s.sensor).getD { sensor := s.sensor }
      = History.ofLog size s.sensor (accepted s.sensor (past s.sensor)) := by
    rw [h.found]
    split
    next hnone => simp [hnone, History.ofLog, window]
    next => rfl
  rw [Histories.heard, hold, push_ofLog hsize, accepted_concat hs']

/-- **One session more.** It is looked at if it has something to be heard, and else passed over. -/
theorem Shows.turn (h : hs.Shows size past) (hsize : 0 < size) {s : Session}
    (hs' : isHeard s = true) :
    (hs.put (hs.heard size s)).Shows size fun id => past id ++ [s] := by
  refine ⟨nodup_put h.nodup _, fun id => ?_⟩
  rw [find?_put, h.heard hsize hs']
  by_cases hid : s.sensor = id
  · -- its own number now has the history with its reading
    subst hid
    have hsome : accepted s.sensor (past s.sensor ++ [s]) ≠ [] := by
      rw [accepted_concat hs']
      exact accept_ne_nil _ _
    have hsensor : (History.ofLog size s.sensor
        (accepted s.sensor (past s.sensor ++ [s]))).sensor = s.sensor := rfl
    rw [if_pos hsensor, if_neg hsome]
  · have hsensor : ¬ (History.ofLog size s.sensor
        (accepted s.sensor (past s.sensor ++ [s]))).sensor = id := hid
    rw [if_neg hsensor, accepted_concat_of_ne fun _ => hid]
    exact h.found id

theorem Shows.pass (h : hs.Shows size past) {s : Session} (hs' : isHeard s = false) :
    hs.Shows size fun id => past id ++ [s] := by
  refine h.congr fun id => accepted_concat_of_ne (fun hheard => ?_) _
  rw [hs'] at hheard
  cases hheard

/-! ## A look -/

/-- What is retained shows the past of the numbers that are there, and nothing of the others. -/
theorem Shows.retain (h : hs.Shows size past) (sessions : List Session) :
    (hs.retain sessions).Shows size fun id =>
      if sessions.any (·.sensor = id) then past id else [] := by
  refine ⟨h.nodup.sublist (List.filter_sublist.map _), fun id => ?_⟩
  rw [find?_retain]
  split
  · exact h.found id
  · rfl

theorem visit_cons_fst (hs : Histories) (size : Nat) (band : Band) (s : Session)
    (rest : List Session) :
    (hs.visit size band (s :: rest)).1
      = (band.alert? s.sensor (hs.heard size s).average).toList
        ++ ((hs.put (hs.heard size s)).visit size band rest).1 := rfl

/-- **The sessions of a look, one after the other.** -/
theorem Shows.visit (h : hs.Shows size past) (hsize : 0 < size) (band : Band)
    (rest : List Session) :
    (hs.visit size band (rest.filter isHeard)).2.Shows size fun id => past id ++ rest := by
  -- the past grows by the session whose turn it was, heard or not
  induction rest generalizing hs past with
  | nil => exact h.congr fun id => by rw [List.append_nil]
  | cons s rest ih =>
    by_cases hheard : isHeard s = true
    · have hrest := ih (h.turn hsize hheard)
      rw [List.filter_cons_of_pos hheard]
      exact hrest.congr fun id => by rw [List.append_assoc, List.singleton_append]
    · have hrest := ih (h.pass (Bool.eq_false_iff.mpr hheard))
      rw [List.filter_cons_of_neg hheard]
      exact hrest.congr fun id => by rw [List.append_assoc, List.singleton_append]

/-- **The averages of a pass are taken in the middle of it,** each right after the turn of its
session: over what was accepted up to there. -/
theorem Shows.alerts {base : SensorId → List Session} {front : List Session}
    (h : hs.Shows size fun id => base id ++ front) (hsize : 0 < size) (band : Band)
    (rest : List Session) :
    (hs.visit size band (rest.filter isHeard)).1
      = (rest.zipIdx front.length).filterMap fun (s, j) =>
        if isHeard s then
          band.alert? s.sensor
            (mean (window size (accepted s.sensor (base s.sensor ++ (front ++ rest).take (j + 1)))))
        else none := by
  induction rest generalizing hs front with
  | nil => rfl
  | cons s rest ih =>
    have hturn : (front ++ s :: rest).take (front.length + 1) = front ++ [s] := by
      rw [List.take_append, List.take_of_length_le (Nat.le_succ _), Nat.add_sub_cancel_left]
      rfl
    -- the session moves from the rest to the front
    have hall : front ++ [s] ++ rest = front ++ s :: rest := by
      rw [List.append_assoc, List.singleton_append]
    have hlength : (front ++ [s]).length = front.length + 1 := by
      rw [List.length_append, List.length_singleton]
    rw [List.zipIdx_cons]
    by_cases hheard : isHeard s = true
    · have hmoved : (hs.put (hs.heard size s)).Shows size fun id => base id ++ (front ++ [s]) :=
        (h.turn hsize hheard).congr fun id => by rw [List.append_assoc]
      have hsome : accepted s.sensor (base s.sensor ++ front ++ [s]) ≠ [] := by
        rw [accepted_concat hheard]
        exact accept_ne_nil _ _
      have hrest := ih hmoved
      rw [hall, hlength] at hrest
      have hfirst : (hs.heard size s).average
          = mean (window size (accepted s.sensor (base s.sensor ++ (front ++ [s])))) := by
        rw [h.heard hsize hheard, average_ofLog hsize _ hsome, List.append_assoc]
      rw [List.filter_cons_of_pos hheard, visit_cons_fst, hrest, hfirst, List.filterMap_cons]
      simp only [hheard, if_true, hturn]
      rcases band.alert? s.sensor _ with _ | alert
      · rfl
      · rfl
    · have hmoved : hs.Shows size fun id => base id ++ (front ++ [s]) :=
        (h.pass (Bool.eq_false_iff.mpr hheard)).congr fun id => by rw [List.append_assoc]
      have hrest := ih hmoved
      rw [hall, hlength] at hrest
      rw [List.filter_cons_of_neg hheard, hrest, List.filterMap_cons]
      simp only [hheard, Bool.false_eq_true, if_false]

/-- **One look more.** -/
theorem Shows.check {looks : List (List Session)}
    (h : hs.Shows size fun id => sinceAbsent id looks) (hsize : 0 < size) (band : Band)
    (sessions : List Session) :
    (hs.check size band sessions).2.Shows size fun id => sinceAbsent id (looks ++ [sessions]) := by
  refine ((h.retain sessions).visit hsize band sessions).congr fun id => ?_
  rw [sinceAbsent_concat]
  split
  · rfl
  next habsent =>
    -- nobody has the number: what it had is forgotten, and the look accepts nothing for it
    rw [List.nil_append, accepted_of_absent (Bool.eq_false_iff.mpr habsent)]
    rfl

end Histories

end Monitor

namespace Gateway

open Monitor

/-- **The gateway after looks of its monitor,** each at a table that the gateway has then. -/
def watch (g : Gateway) (tables : List Table) : Gateway :=
  tables.foldl (fun g t => { g with table := t }.check.2) g

variable {c : Config}

/-- **The histories show what was accepted after any looks.** -/
theorem shows_watch (hsize : 0 < c.monitor.historySize) (tables : List Table) :
    ((ofConfig c).watch tables).config = c
      ∧ ((ofConfig c).watch tables).histories.Shows c.monitor.historySize
        fun id => sinceAbsent id (tables.map Table.sessions) := by
  induction tables using List.reverseRecOn with
  | nil => exact ⟨rfl, Histories.shows_nil _⟩
  | append_singleton tables t ih =>
    obtain ⟨hconfig, hshows⟩ := ih
    have hlook := hshows.check hsize ((ofConfig c).watch tables).band t.sessions
    rw [watch, List.foldl_append, List.map_append]
    refine ⟨hconfig, ?_⟩
    show (Histories.check _ ((ofConfig c).watch tables).config.monitor.historySize _ _).2.Shows _ _
    rw [hconfig]
    exact hlook

/-- **A history is the end of what was accepted, and an alert is about it.** For any settings with a
history size of at least one, after looks at any tables. There is a history for a number exactly if
something was accepted for it since the last look that found no session with it, and one history
only; after a look it is the number of a session of that look. It holds the temperatures accepted
last, as many as there are up to the size, the oldest first. The next look answers, in the order of
the table, an alert for each active session that has measured whose average is above the band, or
else below it; the average is the mean of what was accepted for the number last, right after the
turn of the session itself. -/
theorem histories_hold_last_accepted (c : Config) (hsize : 0 < c.monitor.historySize)
    (tables : List Table) :
    let g := (ofConfig c).watch tables
    let looks := tables.map Table.sessions
    (∀ id, (∃ h ∈ g.histories, h.sensor = id) ↔ accepted id (sinceAbsent id looks) ≠ [])
      ∧ (g.histories.map (·.sensor)).Nodup
      ∧ (∀ before t, tables = before ++ [t] → ∀ h ∈ g.histories, ∃ s ∈ t.sessions,
        s.sensor = h.sensor)
      ∧ (∀ h ∈ g.histories,
        h.samples = ((accepted h.sensor (sinceAbsent h.sensor looks)).map (·.temperature)).rtake
            c.monitor.historySize
          ∧ h.samples.length = min (accepted h.sensor (sinceAbsent h.sensor looks)).length
              c.monitor.historySize)
      ∧ ∀ t : Table, { g with table := t }.check.1 = t.sessions.zipIdx.filterMap fun (s, j) =>
        let looked := sinceAbsent s.sensor looks ++ t.sessions.take (j + 1)
        let average := mean (((accepted s.sensor looked).map (·.temperature)).rtake
          c.monitor.historySize)
        if s.active && s.latest.valid then
          if c.monitor.hotThreshold.less average then some (.overheating s.sensor average)
          else if average.less c.monitor.coldThreshold then some (.overcooling s.sensor average)
          else none
        else none := by
  intro g looks
  obtain ⟨hconfig, hshows⟩ := shows_watch hsize tables
  refine ⟨fun id => ⟨?_, fun hsome => ?_⟩, hshows.nodup, ?_, fun h hh => ?_, fun t => ?_⟩
  · rintro ⟨h, hh, rfl⟩
    exact (hshows.eq_ofLog hh).1
  · have hfound := hshows.found id
    rw [if_neg hsome] at hfound
    exact ⟨_, List.mem_of_find?_eq_some hfound, rfl⟩
  · rintro before t rfl h hh
    have hsome := (hshows.eq_ofLog hh).1
    rw [List.map_append, List.map_singleton, sinceAbsent_concat] at hsome
    split at hsome
    next hpresent =>
      obtain ⟨s, hs, hsensor⟩ := List.any_eq_true.mp hpresent
      exact ⟨s, hs, by simpa using hsensor⟩
    next => exact absurd rfl hsome
  · have hlog := (hshows.eq_ofLog hh).2
    rw [hlog]
    exact ⟨rfl, length_window _ _⟩
  · -- a look begins with what is retained, and nothing of it has been looked at yet
    have hkept : (g.histories.retain t.sessions).Shows c.monitor.historySize fun id =>
        (if t.sessions.any (·.sensor = id) then sinceAbsent id looks else []) ++ [] :=
      (hshows.retain t.sessions).congr fun id => by rw [List.append_nil]
    have hpass := hkept.alerts hsize g.band t.sessions
    have hlook : { g with table := t }.check.1 = ((g.histories.retain t.sessions).visit
        g.config.monitor.historySize g.band (t.sessions.filter Histories.isHeard)).1 := rfl
    have hconfig' : g.config = c := hconfig
    rw [hlook, hconfig', hpass]
    refine List.filterMap_congr fun ⟨s, j⟩ hs => ?_
    have hpresent : t.sessions.any (·.sensor = s.sensor) = true :=
      List.any_eq_true.mpr ⟨s, List.fst_mem_of_mem_zipIdx hs, decide_eq_true rfl⟩
    have hband : g.band = ⟨c.monitor.hotThreshold, c.monitor.coldThreshold⟩ := by
      rw [band, hconfig]
    simp only [hpresent, if_true, hband, List.nil_append]
    rfl

/-- A history of two. Sensor 1 measures three times, and its first temperature goes; sensor 2 shows
one reading twice, and it counts once. Then sensor 1 is missing from a look, so all that it had is
forgotten: when it is back with the reading it left with, its average is over that one. -/
theorem histories_hold_last_accepted_of_two :
    let c : Config := { monitor := { historySize := 2 } }
    let node (id : UInt32) (timestamp degrees : Int) : Session :=
      { Session.start "10.0.0.1" "10.0.0.1" 80 false 0 ⟨0, 0⟩ with
        sensor := ⟨id⟩, latest := ⟨timestamp, ⟨id⟩, Binary.ofInt degrees, true⟩ }
    let table (sessions : List Session) : Table :=
      { policy := .reuseSlot, ledger := ⟨5, 5, []⟩, roster := { sessions } }
    let three := [table [node 2 10 20, node 1 10 40], table [node 2 10 20, node 1 11 50],
      table [node 2 12 5, node 1 12 60]]
    let four := three ++ [table [node 2 13 6]]
    let back := table [node 2 14 7, node 1 12 60]
    0 < c.monitor.historySize
      ∧ ((ofConfig c).watch three).histories.map (·.samples)
        = [[Binary.ofInt 20, Binary.ofInt 5], [Binary.ofInt 50, Binary.ofInt 60]]
      ∧ { (ofConfig c).watch three with table := back }.check.1
        = [.overcooling ⟨2⟩ (Binary.ofInt 6), .overheating ⟨1⟩ (Binary.ofInt 55)]
      ∧ ((ofConfig c).watch four).histories.map (·.sensor) = [⟨2⟩]
      ∧ { (ofConfig c).watch four with table := back }.check.1
        = [.overcooling ⟨2⟩ (Binary.ofRatio false 13 2), .overheating ⟨1⟩ (Binary.ofInt 60)] := by
  intro c node table three four back
  have hsize : 0 < c.monitor.historySize := by decide
  obtain ⟨-, -, -, -, hthree⟩ := histories_hold_last_accepted c hsize three
  obtain ⟨-, -, -, -, hfour⟩ := histories_hold_last_accepted c hsize four
  refine ⟨hsize, by decide, ?_, by decide, ?_⟩
  · rw [hthree]
    decide
  · rw [hfour]
    decide

end Gateway

end SensorGateway
