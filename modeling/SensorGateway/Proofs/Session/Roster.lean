import SensorGateway.Session.Roster

/-!
What the steps of the roster do to the list of sessions.

A roster changes in three ways. A session is entered at the front; a reading is noted, which leaves
what a session was given when it came; and sessions are taken out, one, some or all. The third way
has one description for its three functions, `TakesOut`: the sessions that were there are those that
are gone and those that stay, the latter in their order, and nothing else changes but the count.
-/

set_option autoImplicit false

namespace SensorGateway

/-! ## What stays of a session while it is registered -/

/-- **A session as it came.** The number, the slot, the latest reading and the times of activity,
which the table writes, are blotted out; everything else is the link task's. -/
def Session.origin (s : Session) : Session :=
  { s with
    sensor := ⟨0⟩, slot := 0, latest := Reading.initial ⟨0⟩ 0
    lastActive := 0, lastSeen := 0 }

/-- A reading leaves a session the one that came, -/
@[simp] theorem Session.origin_hear (s : Session) (reading : Reading) (now : Moment) :
    (s.hear reading now).origin = s.origin := rfl

/-- which has its address -/
@[simp] theorem Session.address_origin (s : Session) : s.origin.address = s.address := rfl

/-- and its link. -/
@[simp] theorem Session.link_origin (s : Session) : s.origin.link = s.link := rfl

namespace Roster

/-! ## What one element has for its own -/

/-- What is without repetition along a list belongs to one element of it. -/
theorem eq_of_nodup_filterMap {α β : Type} {f : α → Option β} {xs : List α}
    (h : (xs.filterMap f).Nodup) {x y : α} (hx : x ∈ xs) (hy : y ∈ xs) {b : β}
    (hfx : f x = some b) (hfy : f y = some b) : x = y := by
  induction xs with
  | nil => cases hx
  | cons z zs ih =>
    have hhead : ∀ w ∈ zs, f w = some b → f z = some b → False := by
      intro w hw hfw hfz
      rw [List.filterMap_cons_some hfz] at h
      exact (List.nodup_cons.mp h).1 (List.mem_filterMap.mpr ⟨w, hw, hfw⟩)
    have htail : (zs.filterMap f).Nodup :=
      h.sublist ((List.sublist_cons_self z zs).filterMap f)
    rcases List.mem_cons.mp hx with hxz | hxs
    · rcases List.mem_cons.mp hy with hyz | hys
      · rw [hxz, hyz]
      · exact (hhead y hys hfy (hxz ▸ hfx)).elim
    · rcases List.mem_cons.mp hy with hyz | hys
      · exact (hhead x hxs hfx (hyz ▸ hfy)).elim
      · exact ih htail hxs hys

/-! ## Entering -/

/-- So does its number. -/
@[simp] theorem origin_numbered (r : Roster) (policy : IdPolicy) (s : Session) (now : Moment) :
    (r.numbered policy s now).origin = s.origin := rfl

@[simp] theorem sessions_push (r : Roster) (policy : IdPolicy) (s : Session) (now : Moment) :
    (r.push policy s now).sessions = r.numbered policy s now :: r.sessions := rfl

/-! ## Noting a reading -/

/-- What an adjustment leaves alone at one element it leaves alone along the list. -/
theorem map_adjustFirst {α β : Type} (p : α → Bool) (f : α → α) (g : α → β)
    (h : ∀ x, g (f x) = g x) (xs : List α) : (adjustFirst p f xs).map g = xs.map g := by
  induction xs with
  | nil => rfl
  | cons x xs ih =>
    rw [adjustFirst]
    cases hx : p x with
    | true => simp [h]
    | false => simp [ih]

theorem length_adjustFirst {α : Type} (p : α → Bool) (f : α → α) (xs : List α) :
    (adjustFirst p f xs).length = xs.length := by
  have hmap := map_adjustFirst p f (fun _ => ()) (fun _ => rfl) xs
  have hlen := congrArg List.length hmap
  rwa [List.length_map, List.length_map] at hlen

theorem adjustFirst_of_none {α : Type} {p : α → Bool} {f : α → α} {xs : List α}
    (h : ∀ x ∈ xs, p x = false) : adjustFirst p f xs = xs := by
  induction xs with
  | nil => rfl
  | cons x xs ih =>
    rw [adjustFirst, h x List.mem_cons_self, if_neg Bool.false_ne_true,
      ih fun y hy => h y (List.mem_cons_of_mem x hy)]

/-- Whoever is there afterwards was there, or is what an adjustment made of somebody. -/
theorem mem_adjustFirst {α : Type} {p : α → Bool} {f : α → α} {xs : List α} {y : α}
    (hy : y ∈ adjustFirst p f xs) : y ∈ xs ∨ ∃ x ∈ xs, y = f x := by
  induction xs with
  | nil => cases hy
  | cons x xs ih =>
    rw [adjustFirst] at hy
    split at hy
    · rcases List.mem_cons.mp hy with rfl | hold
      · exact Or.inr ⟨x, List.mem_cons_self, rfl⟩
      · exact Or.inl (List.mem_cons_of_mem x hold)
    · rcases List.mem_cons.mp hy with rfl | hrest
      · exact Or.inl List.mem_cons_self
      · refine (ih hrest).imp (List.mem_cons_of_mem x) ?_
        rintro ⟨z, hz, heq⟩
        exact ⟨z, List.mem_cons_of_mem x hz, heq⟩

/-- What is adjusted is what the front of the list does not have. -/
theorem adjustFirst_append {α : Type} {p : α → Bool} {front : List α} {x : α}
    (hfront : ∀ y ∈ front, p y = false) (hx : p x = true) (f : α → α) (back : List α) :
    adjustFirst p f (front ++ x :: back) = front ++ f x :: back := by
  induction front with
  | nil => rw [List.nil_append, adjustFirst, if_pos hx, List.nil_append]
  | cons y front ih =>
    have hrest := ih fun z hz => hfront z (List.mem_cons_of_mem y hz)
    rw [List.cons_append, adjustFirst, hfront y List.mem_cons_self, if_neg Bool.false_ne_true, hrest]
    rfl

/-- What is adjusted is the element that a search finds. -/
theorem adjustFirst_of_find? {α : Type} {p : α → Bool} {xs : List α} {x : α}
    (h : xs.find? p = some x) (f : α → α) :
    ∃ front back, xs = front ++ x :: back ∧ adjustFirst p f xs = front ++ f x :: back := by
  obtain ⟨hx, front, back, rfl, hfront⟩ := List.find?_eq_some_iff_append.mp h
  exact ⟨front, back, rfl, adjustFirst_append (by simpa using hfront) hx f back⟩

/-- Noting a reading touches the list of sessions alone, and there only the fields of activity. -/
theorem update?_spec {r r' : Roster} {id : SensorId} {reading : Reading} {now : Moment}
    (h : r.update? id reading now = some r') :
    r'.sessions = adjustFirst (·.sensor = id) (·.hear reading now) r.sessions
      ∧ r' = { r with sessions := r'.sessions } := by
  unfold update? at h
  cases hf : r.find? id with
  | none => rw [hf] at h; cases h
  | some s =>
    rw [hf] at h
    cases h
    exact ⟨rfl, rfl⟩

/-! ## Taking out -/

/-- Splitting off the first element that passes a test splits the list at that element. -/
theorem splitFirst_eq_some {α : Type} {p : α → Bool} {xs : List α} {y : α} {ys : List α}
    (h : splitFirst p xs = some (y, ys)) :
    ∃ front back, xs = front ++ y :: back ∧ ys = front ++ back ∧ p y = true
      ∧ ∀ x ∈ front, p x = false := by
  -- along the front, which fails the test, up to the first that passes it
  induction xs generalizing ys with
  | nil => cases h
  | cons x xs ih =>
    rw [splitFirst] at h
    cases hx : p x with
    | true =>
      rw [hx, if_pos rfl] at h
      cases h
      exact ⟨[], _, rfl, rfl, hx, by simp⟩
    | false =>
      rw [hx, if_neg Bool.false_ne_true] at h
      cases hs : splitFirst p xs with
      | none => rw [hs] at h; cases h
      | some found =>
        rw [hs] at h
        cases h
        obtain ⟨front, back, hxs, hys, hy, hfront⟩ := ih hs
        refine ⟨x :: front, back, by rw [hxs]; rfl, by rw [hys]; rfl, hy, ?_⟩
        intro z hz
        rcases List.mem_cons.mp hz with hz | hz
        · rw [hz]; exact hx
        · exact hfront z hz

/-- **Sessions leave a roster.** Those that were there are those that are gone and those that stay;
the latter keep their order; and a count that was right stays right. -/
structure TakesOut (r : Roster) (gone : List Session) (r' : Roster) : Prop where
  perm : r.sessions.Perm (gone ++ r'.sessions)
  kept : r'.sessions.Sublist r.sessions
  counted : r.activeCount = r.sessions.length → r'.activeCount = r'.sessions.length
  runningPort : r'.runningPort = r.runningPort
  nextId : r'.nextId = r.nextId

/-- Taking out one session. -/
theorem takesOut_take? {r r' : Roster} {p : Session → Bool} {s : Session}
    (h : r.take? p = some (s, r')) : TakesOut r [s] r' := by
  unfold take? at h
  cases hs : splitFirst p r.sessions with
  | none => rw [hs] at h; cases h
  | some found =>
    rw [hs] at h
    cases h
    obtain ⟨front, back, hxs, hys, -, -⟩ := splitFirst_eq_some hs
    refine ⟨?_, ?_, ?_, rfl, rfl⟩
    · rw [hxs, hys]
      exact List.perm_middle
    · rw [hxs, hys]
      exact (List.Sublist.refl front).append (List.sublist_cons_self _ back)
    · intro hcount
      show r.activeCount - 1 = found.2.length
      rw [hcount, hxs, hys]
      simp only [List.length_append, List.length_cons]
      omega

/-- **The loop of a sweep splits what it has not looked at yet.** Those in front of the index have
been passed and stay. The induction is on those behind it: whichever way the test of the next one
goes, the loop then stands in front of a shorter list. -/
theorem takeFrom_append (p : Session → Bool) (front back : List Session) (r : Roster)
    (gone : List Session) (hsessions : r.sessions = front ++ back) :
    r.takeFrom p front.length gone
      = (gone ++ back.filter p,
          { r with
            sessions := front ++ back.filter (! p ·)
            activeCount := r.activeCount - (back.filter p).length }) := by
  induction back generalizing front r gone with
  | nil =>
    have hend : ¬ front.length < r.sessions.length := by
      rw [hsessions, List.append_nil]
      exact Nat.lt_irrefl _
    rw [takeFrom, dif_neg hend]
    simp [← hsessions]
  | cons s rest ih =>
    have hin : front.length < r.sessions.length := by
      rw [hsessions, List.length_append, List.length_cons]
      omega
    have hs : r.sessions[front.length] = s := by
      simp [hsessions]
    rw [takeFrom, dif_pos hin, hs]
    by_cases hp : p s = true
    · -- the next session comes to the same index
      have hdropped : (r.dropAt front.length).sessions = front ++ rest := by
        simp [dropAt, hsessions, List.eraseIdx_append_of_length_le]
      have hcount : r.activeCount - 1 - (rest.filter p).length
          = r.activeCount - ((s :: rest).filter p).length := by
        rw [List.filter_cons_of_pos hp, List.length_cons]
        omega
      rw [if_pos hp, ih front (r.dropAt front.length) (gone ++ [s]) hdropped]
      simp only [dropAt, hcount]
      simp [hp]
    · -- a session that stays is passed, and stands in front of the index from now on
      have hmoved := ih (front ++ [s]) r gone (by simp [hsessions])
      rw [List.length_append, List.length_singleton] at hmoved
      rw [if_neg hp, hmoved]
      simp [hp]

/-- **A sweep picks the expired sessions,** in the order of the roster: it skips nobody, looks at
nobody twice, and leaves the others in their order. -/
theorem takeExpired_eq (r : Roster) (steady timeout : Nat) :
    r.takeExpired steady timeout
      = (r.sessions.filter (expired steady timeout),
          { r with
            sessions := r.sessions.filter (! expired steady timeout ·)
            activeCount := r.activeCount
              - (r.sessions.filter (expired steady timeout)).length }) :=
  takeFrom_append (expired steady timeout) [] r.sessions r [] rfl

/-- Taking out every expired session. -/
theorem takesOut_takeExpired (r : Roster) (steady timeout : Nat) :
    TakesOut r (r.takeExpired steady timeout).1 (r.takeExpired steady timeout).2 := by
  rw [takeExpired_eq]
  have hperm := (List.filter_append_perm (expired steady timeout) r.sessions).symm
  refine ⟨hperm, List.filter_sublist, ?_, rfl, rfl⟩
  intro hcount
  have hlen := hperm.length_eq
  rw [List.length_append] at hlen
  show r.activeCount - (r.sessions.filter (expired steady timeout)).length = _
  rw [hcount, hlen, Nat.add_sub_cancel_left]

theorem takesOut_takeAll (r : Roster) : TakesOut r r.takeAll.1 r.takeAll.2 :=
  ⟨by simp [takeAll], List.nil_sublist _, fun _ => rfl, rfl, rfl⟩

end Roster

end SensorGateway
