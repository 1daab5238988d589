import SensorGateway.Proofs.Storage.Batch

/-!
The connection of the queue.

An attempt to open the database is the only thing that makes a connection, and closing the only thing
that ends one; both set the status with it, so the two always agree. An offer leaves the connection
and the count of failures as they are, whatever the database answers, and never fails for good.
-/

set_option autoImplicit false

namespace SensorGateway.Storage.Queue

variable {q q' : Queue}

/-- There is a connection exactly if the status says so. -/
def Agrees (q : Queue) : Prop := q.connection.isSome = true ↔ q.status = .connected

/-- Two queues that are connected alike, after as many failures. -/
structure SameLink (q q' : Queue) : Prop where
  settings : q'.settings = q.settings
  status : q'.status = q.status
  retryCount : q'.retryCount = q.retryCount
  present : q'.connection.isSome = q.connection.isSome

theorem SameLink.refl (q : Queue) : q.SameLink q := ⟨rfl, rfl, rfl, rfl⟩

/-- Queues that are connected alike agree with their status alike. -/
theorem Agrees.congr (h : q.Agrees) (hsame : q.SameLink q') : q'.Agrees := by
  rw [Agrees, hsame.present, hsame.status]
  exact h

theorem sameLink_enqueue (q : Queue) (r : Reading) : q.SameLink (q.enqueue r) := ⟨rfl, rfl, rfl, rfl⟩

theorem sameLink_settle (q : Queue) (t : Tally) : q.SameLink (q.settle t) := ⟨rfl, rfl, rfl, rfl⟩

theorem sameLink_markPrepared (q : Queue) : q.SameLink q.markPrepared :=
  ⟨rfl, rfl, rfl, Option.isSome_map⟩

/-! ## Attempts -/

/-- An attempt that succeeds connects the queue and forgets the failures before it. -/
theorem tryConnect_of_ok (h : q.status = .disconnected) (c : Connection) (wall : Int) :
    q.tryConnect (.ok c) wall = (.ok (), q.opened c, [.connectedDatabase q.settings.path]) := by
  simp only [tryConnect, h]

/-- A failed attempt is one more in a row, and the last one there is at the limit. -/
theorem tryConnect_of_error (h : q.status = .disconnected) (fault : Fault) (wall : Int) :
    ∃ notices, q.tryConnect (.error fault) wall
      = (.error (if q.settings.retryLimit ≤ q.retryCount + 1
          then .retryLimitReached (q.retryCount + 1) else .database fault),
        q.failed wall, notices) := by
  simp only [tryConnect, h]
  -- a failure changes no setting, so the queue meets the same limit after counting it
  by_cases hlimit : q.settings.retryLimit ≤ q.retryCount + 1
  · have hreached : (q.failed wall).settings.retryLimit ≤ (q.failed wall).retryCount := hlimit
    rw [if_pos hlimit, if_pos hreached]
    exact ⟨_, rfl⟩
  · have hreached : ¬ (q.failed wall).settings.retryLimit ≤ (q.failed wall).retryCount := hlimit
    rw [if_neg hlimit, if_neg hreached]
    exact ⟨_, rfl⟩

/-- A queue that was opened agrees with its status, whatever was true before. -/
theorem agrees_opened (q : Queue) (c : Connection) : (q.opened c).Agrees :=
  ⟨fun _ => rfl, fun _ => rfl⟩

theorem agrees_failed (q : Queue) (wall : Int) : (q.failed wall).Agrees := by
  constructor
  · intro h
    cases h
  · intro h
    cases h

/-! ## Offers -/

/-- No answer to a batch touches the connection. -/
theorem sameLink_offer (q : Queue) (batch : List Reading) (v : Verdicts) :
    q.SameLink (q.offer batch v).2.1 := by
  have hprepared := q.sameLink_markPrepared
  -- each exit of the offer has the old connection, or that one with its insert prepared
  unfold offer
  split
  · exact SameLink.refl q
  · split
    · exact SameLink.refl q
    · split
      · exact SameLink.refl q
      · exact SameLink.refl q
      · dsimp only
        split
        · exact hprepared
        · exact hprepared
        · exact hprepared

/-- No failure of an offer is fatal. -/
theorem isFatal_offer {batch : List Reading} {v : Verdicts} {e : StorageError}
    (h : (q.offer batch v).1 = .error e) : e.isFatal = false := by
  unfold offer at h
  split at h
  · cases h
  · split at h
    · cases h
      rfl
    · split at h
      · cases h
        rfl
      · cases h
        rfl
      · dsimp only at h
        split at h
        · cases h
          rfl
        · cases h
          rfl
        · cases h

/-! ## Closing -/

/-- Closing ends the connection, and forgets no failure. -/
theorem close_spec (h : q.Agrees) :
    q.close.1.Agrees ∧ q.close.1.status = .disconnected ∧ q.close.1.settings = q.settings
      ∧ q.close.1.retryCount = q.retryCount := by
  rcases hconn : q.connection with _ | c
  · -- closing changes nothing here, and it is the invariant that tells the status
    have hstatus : q.status = .disconnected := by
      rcases hstatus : q.status
      · have hsome := h.mpr hstatus
        rw [hconn] at hsome
        cases hsome
      · rfl
    have hclose : q.close.1 = q := by simp only [close, hconn]
    rw [hclose]
    exact ⟨h, hstatus, rfl, rfl⟩
  · have hclose : q.close.1 = { q with connection := none, status := .disconnected } := by
      simp only [close, hconn]
    rw [hclose]
    refine ⟨⟨?_, ?_⟩, rfl, rfl, rfl⟩
    · intro hsome
      cases hsome
    · intro hstatus
      cases hstatus

end SensorGateway.Storage.Queue
