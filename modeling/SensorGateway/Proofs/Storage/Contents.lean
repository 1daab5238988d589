import SensorGateway.Proofs.Storage.Connection
import SensorGateway.Proofs.Storage.Rows
import SensorGateway.Storage.File

/-!
What the database of a queue holds.

`Keeps` says that it holds the rows of the readings that were written to it, whether it is open or
not. Opening makes the table and keeps what is there (`Keeps.connect`), a transaction adds its rows
behind the others (`Keeps.gained`), and closing keeps a file. A database in no file is gone with its
connection; so it keeps what was written only if nothing was (`Keeps.close`).
-/

set_option autoImplicit false

namespace SensorGateway

open Storage

/-! ## Files that were put in place -/

namespace Disk

theorem node?_put (d : Disk) {parts : Parts} (h : parts ≠ []) (node : Node) :
    (d.put parts node).node? parts = some node := by
  have hsome : parts.isEmpty = false := List.isEmpty_eq_false_iff.mpr h
  have hnone : (d.nodes.filter (·.1 ≠ parts)).find? (·.1 = parts) = none := by
    refine List.find?_eq_none.mpr fun x hx => ?_
    simpa using (List.mem_filter.mp hx).2
  rw [node?, hsome, put, List.find?_append, hnone]
  simp

/-- A path at which a database can be opened names something below the root. -/
theorem partsOf_ne_nil {d : Disk} {path : String} {db : Database}
    (h : d.databaseAt path = .ok db) : partsOf path ≠ [] := by
  intro hnil
  -- an empty path names nothing, and any other one with no parts is the root, which is a directory
  have hresolve : d.writable path ≠ .ok () := by
    unfold writable resolve
    by_cases hempty : path = ""
    · simp [hempty]
    · have hdirectory : d.node? [] = some .directory := rfl
      have hparents : d.parentFault? [] = none := rfl
      simp [hempty, hnil, hdirectory, hparents]
  unfold databaseAt at h
  rcases hwritable : d.writable path with fault | _
  · rw [hwritable] at h
    cases h
  · exact hresolve hwritable

/-- **A database that is opened is the one that was there.** -/
theorem connected_of_databaseAt {d : Disk} {path : String} {db : Database}
    (h : d.databaseAt path = .ok db) : d.connected path {} = db := by
  unfold databaseAt at h
  rcases hwritable : d.writable path with fault | _
  · rw [hwritable] at h
    cases h
  · rw [hwritable] at h
    unfold connected
    rcases hnode : d.node? (partsOf path) with _ | node
    · simp only [hnode] at h
      exact Except.ok.inj h
    · simp only [hnode] at h
      rcases node with _ | content | found
      · cases h
      · rcases content with _ | ⟨byte, bytes⟩
        · exact Except.ok.inj h
        · cases h
      · exact Except.ok.inj h

theorem connected_of_node {d : Disk} {path : String} {db : Database}
    (h : d.node? (partsOf path) = some (.database db)) : d.connected path {} = db := by
  unfold connected
  simp only [h]

theorem connected_of_nil (path : String) : (⟨[]⟩ : Disk).connected path {} = {} := by
  unfold connected node?
  by_cases hroot : (partsOf path).isEmpty = true
  · simp [hroot]
  · simp [hroot]

/-- What a connection sees depends on its own contents and the disk, and not on what it has
prepared. -/
theorem connected_congr (d : Disk) (path : String) {c c' : Connection} (h : c'.own = c.own) :
    d.connected path c' = d.connected path c := by
  unfold connected
  rw [h]

end Disk

/-! ## What the database holds -/

namespace Storage

/-- The rows of a database. -/
def Database.rows (db : Database) : List Row :=
  match db.table with
  | some t => t.rows
  | none => []

/-- **The database holds the rows of some readings,** in a table that can be read; there is none as
long as nothing was written. -/
def Database.Holds (db : Database) (stored : List Reading) : Prop :=
  match db.table with
  | some t => t.hasSensor = true ∧ t.rows = archived stored
  | none => stored = []

/-- What it holds are its rows, with or without a table. -/
theorem Database.Holds.rows_eq {db : Database} {stored : List Reading} (h : db.Holds stored) :
    db.rows = archived stored := by
  unfold Holds at h
  unfold rows
  split at h
  next ht => exact h.2
  next hnone =>
    rw [h]
    rfl

/-- Making the table adds no row. -/
theorem Database.Holds.ensureTable {db : Database} {stored : List Reading} (h : db.Holds stored) :
    db.ensureTable.Holds stored := by
  unfold Holds at h
  unfold Database.ensureTable
  rcases ht : db.table with _ | t
  · rw [ht] at h
    rw [h]
    exact ⟨rfl, rfl⟩
  · simp only [ht] at h
    unfold Holds
    simp only [ht]
    exact h

theorem Database.table_ensureTable (db : Database) : db.ensureTable.table.isSome = true := by
  rcases ht : db.table with _ | t
  · simp only [ensureTable, ht, Option.isSome_some]
  · simp only [ensureTable, ht, Option.isSome_some]

/-- **Written readings are held behind the others.** -/
theorem Database.Holds.write {db : Database} {stored : List Reading} (h : db.Holds stored)
    (hsome : db.table.isSome = true) (written : List Reading) :
    (db.onTable fun t => written.foldl ReadingTable.addReading t).Holds (stored ++ written) := by
  obtain ⟨t, ht⟩ := Option.isSome_iff_exists.mp hsome
  unfold Holds at h
  simp only [ht] at h
  have hadded := foldl_addReading h.2 written
  unfold Holds onTable
  simp only [ht, Option.map_some, hadded]
  exact ⟨h.1, trivial⟩

namespace Queue

/-- The database of a queue: the one that it is connected to, or the one that is in the file. -/
def database (q : Queue) (d : Disk) : Database :=
  d.connected q.settings.path (q.connection.getD {})

/-- **The database of a queue keeps what was written to it.** -/
structure Keeps (q : Queue) (d : Disk) (stored : List Reading) : Prop where
  agrees : q.Agrees
  holds : (q.database d).Holds stored
  made : q.connection.isSome = true → (q.database d).table.isSome = true
  /-- A connection has contents of its own exactly if the path names no file. -/
  own : ∀ c, q.connection = some c → c.own.isSome = Disk.isFileless q.settings.path
  filed : ∀ c, q.connection = some c → c.own = none →
    ∃ db, d.node? (Disk.partsOf q.settings.path) = some (.database db)
  /-- What a path that names no file finds on the disk is left empty. -/
  spare : Disk.isFileless q.settings.path = true → (d.connected q.settings.path {}).Holds []

variable {q q' : Queue} {d d' : Disk} {stored : List Reading}

theorem Agrees.connection_eq_none (h : q.Agrees) (hstatus : q.status = .disconnected) :
    q.connection = none := by
  rcases hconn : q.connection with _ | c
  · rfl
  · have hconnected := h.mp (by rw [hconn]; rfl)
    rw [hstatus] at hconnected
    cases hconnected

/-- What is done beside the connection does not concern the database. -/
theorem Keeps.congr (h : q.Keeps d stored) (hsettings : q'.settings = q.settings)
    (hstatus : q'.status = q.status)
    (hown : q'.connection.map (·.own) = q.connection.map (·.own)) : q'.Keeps d stored := by
  have hpresent : q'.connection.isSome = q.connection.isSome := by
    have hsome := congrArg Option.isSome hown
    rwa [Option.isSome_map, Option.isSome_map] at hsome
  have hdatabase : q'.database d = q.database d := by
    unfold database
    rw [hsettings]
    -- what a connection sees depends on its own contents only, and without one that is the file
    refine Disk.connected_congr d _ ?_
    rcases hconn : q.connection with _ | c
    · rw [hconn] at hown
      rw [Option.map_eq_none_iff.mp hown]
    · rw [hconn] at hown
      obtain ⟨c', hc', heq⟩ := Option.map_eq_some_iff.mp hown
      rw [hc']
      exact heq
  have hback : ∀ c', q'.connection = some c' → ∃ c, q.connection = some c ∧ c.own = c'.own := by
    intro c' hc'
    rw [hc', Option.map_some] at hown
    obtain ⟨c, hc, heq⟩ := Option.map_eq_some_iff.mp hown.symm
    exact ⟨c, hc, heq⟩
  refine ⟨?_, ?_, ?_, ?_, ?_, ?_⟩
  · rw [Agrees, hpresent, hstatus]
    exact h.agrees
  · rw [hdatabase]
    exact h.holds
  · rw [hdatabase, hpresent]
    exact h.made
  · intro c' hc'
    obtain ⟨c, hc, heq⟩ := hback c' hc'
    rw [← heq, hsettings]
    exact h.own c hc
  · intro c' hc' hnone
    obtain ⟨c, hc, heq⟩ := hback c' hc'
    rw [hsettings]
    exact h.filed c hc (heq.trans hnone)
  · rw [hsettings]
    exact h.spare

/-- A connection to a file keeps what the file holds. -/
theorem keeps_of_file (hagrees : q.Agrees) {c : Connection} (hconn : q.connection = some c)
    (hown : c.own = none) (hfile : Disk.isFileless q.settings.path = false) {db : Database}
    (hnode : d.node? (Disk.partsOf q.settings.path) = some (.database db))
    (hholds : db.Holds stored) (hmade : db.table.isSome = true) : q.Keeps d stored := by
  have hdatabase : q.database d = db := by
    rw [database, hconn, Option.getD_some, Disk.connected_congr _ _ (c := {}) hown]
    exact Disk.connected_of_node hnode
  refine ⟨hagrees, by rwa [hdatabase], fun _ => by rwa [hdatabase], ?_, fun _ _ _ => ⟨db, hnode⟩, ?_⟩
  · intro c' hc'
    rw [hconn] at hc'
    cases hc'
    rw [hown, hfile]
    rfl
  · intro hfileless
    rw [hfile] at hfileless
    cases hfileless

/-- A connection to no file keeps its own contents. -/
theorem keeps_of_own (hagrees : q.Agrees) {c : Connection} (hconn : q.connection = some c)
    {db : Database} (hown : c.own = some db) (hfileless : Disk.isFileless q.settings.path = true)
    (hspare : (d.connected q.settings.path {}).Holds []) (hholds : db.Holds stored)
    (hmade : db.table.isSome = true) : q.Keeps d stored := by
  have hdatabase : q.database d = db := by
    rw [database, hconn, Option.getD_some]
    simp only [Disk.connected, hown]
  refine ⟨hagrees, by rwa [hdatabase], fun _ => by rwa [hdatabase], ?_, ?_, fun _ => hspare⟩
  · intro c' hc'
    rw [hconn] at hc'
    cases hc'
    rw [hown, hfileless]
    rfl
  · intro c' hc' hnone
    rw [hconn] at hc'
    cases hc'
    rw [hown] at hnone
    cases hnone

/-- **Closing keeps a file;** a database in no file has to be empty. -/
theorem Keeps.disconnect (h : q.Keeps d stored) (hsettings : q'.settings = q.settings)
    (hstatus : q'.status = .disconnected) (hconn : q'.connection = none)
    (hempty : Disk.isFileless q.settings.path = true → stored = []) : q'.Keeps d stored := by
  refine ⟨?_, ?_, ?_, ?_, ?_, ?_⟩
  · rw [Agrees, hconn, hstatus]
    constructor
    · intro hsome
      cases hsome
    · intro heq
      cases heq
  · rw [database, hsettings, hconn]
    rcases hfileless : Disk.isFileless q.settings.path
    · -- the connection that is gone saw the file
      have hholds := h.holds
      unfold database at hholds
      rcases hc : q.connection with _ | c
      · rwa [hc] at hholds
      · have hnone : c.own = none := by
          have hown := h.own c hc
          rw [hfileless] at hown
          exact Option.isNone_iff_eq_none.mp (Option.isSome_eq_false_iff.mp hown)
        have hsees := d.connected_congr q.settings.path (c := {}) hnone
        rw [hc, Option.getD_some, hsees] at hholds
        exact hholds
    · -- the connection that is gone had the only copy, and it was empty
      rw [hempty hfileless]
      exact h.spare hfileless
  · rw [hconn]
    intro hsome
    cases hsome
  · intro c hc
    rw [hconn] at hc
    cases hc
  · intro c hc
    rw [hconn] at hc
    cases hc
  · rw [hsettings]
    exact h.spare

/-- A database that cannot be opened leaves the disk. -/
theorem openDatabase_error {path : String} {fault : Fault}
    (h : (d.openDatabase path).1 = .error fault) : (d.openDatabase path).2 = d := by
  unfold Disk.openDatabase at h ⊢
  by_cases hfileless : Disk.isFileless path = true
  · rw [if_pos hfileless] at h
    cases h
  · rw [if_neg hfileless] at h ⊢
    rcases hat : d.databaseAt path with fault' | db
    · rfl
    · rw [hat] at h
      cases h

/-- **Opening makes the table and keeps what is there.** -/
theorem Keeps.opened (h : q.Keeps d stored) (hstatus : q.status = .disconnected) {c : Connection}
    (hopen : d.openDatabase q.settings.path = (.ok c, d')) : (q.opened c).Keeps d' stored := by
  have hconn := h.agrees.connection_eq_none hstatus
  have hholds := h.holds
  rw [database, hconn, Option.getD_none] at hholds
  unfold Disk.openDatabase at hopen
  split at hopen
  next hfileless =>
    obtain ⟨hc, rfl⟩ := Prod.mk.inj hopen
    cases hc
    -- the database before was what the disk has there, which is empty, so nothing was written
    have hnothing : stored = [] := by
      have hrows := (h.spare hfileless).rows_eq
      rw [hholds.rows_eq] at hrows
      exact archived_eq_nil hrows
    rw [hnothing]
    exact keeps_of_own (agrees_opened q _) rfl rfl hfileless (h.spare hfileless) ⟨rfl, rfl⟩ rfl
  next hfile =>
    rcases hat : d.databaseAt q.settings.path with fault | db
    · rw [hat] at hopen
      cases hopen
    · rw [hat] at hopen
      obtain ⟨hc, rfl⟩ := Prod.mk.inj hopen
      cases hc
      have hnode := d.node?_put (Disk.partsOf_ne_nil hat) (.database db.ensureTable)
      rw [Disk.connected_of_databaseAt hat] at hholds
      exact keeps_of_file (agrees_opened q _) rfl rfl (Bool.eq_false_iff.mpr hfile) hnode
        hholds.ensureTable db.table_ensureTable

/-- What an attempt to open comes to: some trouble, or what the disk gives. -/
def tried (q : Queue) (d : Disk) (trouble : Option Fault) : Except Fault Connection × Disk :=
  match trouble with
  | some fault => (.error fault, d)
  | none => q.attempt d

theorem Keeps.failed (h : q.Keeps d stored) (hstatus : q.status = .disconnected) (fault : Fault)
    (wall : Int) : (q.tryConnect (.error fault) wall).2.1.Keeps d stored := by
  obtain ⟨notices, hfailed⟩ := tryConnect_of_error hstatus fault wall
  have hconn := h.agrees.connection_eq_none hstatus
  rw [hfailed]
  exact h.congr rfl hstatus.symm (by rw [hconn]; rfl)

/-- **Connecting,** whatever comes of it. -/
theorem Keeps.connect (h : q.Keeps d stored) (trouble : Option Fault) (wall : Int) :
    (q.tryConnect (q.tried d trouble).1 wall).2.1.Keeps (q.tried d trouble).2 stored := by
  rcases hstatus : q.status
  · -- an open database stays as it is
    have hsame : (q.tried d trouble).2 = d := by
      rcases trouble with _ | fault
      · obtain ⟨c, hc⟩ := Option.isSome_iff_exists.mp (h.agrees.mpr hstatus)
        simp only [tried, attempt, hstatus, hc]
      · rfl
    rw [hsame]
    simp only [tryConnect, hstatus]
    exact h
  · rcases trouble with _ | fault
    · have hattempt : q.tried d none = d.openDatabase q.settings.path := by
        simp only [tried, attempt, hstatus]
      rw [hattempt]
      rcases hopen : d.openDatabase q.settings.path with ⟨fault | c, d'⟩
      · have hsame : d' = d := by
          have hfault : (d.openDatabase q.settings.path).1 = .error fault := congrArg Prod.fst hopen
          have herror := openDatabase_error hfault
          rwa [hopen] at herror
        rw [hsame]
        exact h.failed hstatus fault wall
      · simp only [tryConnect_of_ok hstatus]
        exact h.opened hstatus hopen
    · exact h.failed hstatus fault wall

/-- No attempt changes the settings. -/
theorem settings_tryConnect (q : Queue) (attempt : Except Fault Connection) (wall : Int) :
    (q.tryConnect attempt wall).2.1.settings = q.settings := by
  rcases hstatus : q.status
  · simp only [tryConnect, hstatus]
  · rcases attempt with fault | c
    · obtain ⟨notices, hfailed⟩ := tryConnect_of_error hstatus fault wall
      rw [hfailed]
      rfl
    · rw [tryConnect_of_ok hstatus]
      rfl

theorem settings_close (q : Queue) : q.close.1.settings = q.settings := by
  unfold Queue.close
  split
  · rfl
  · rfl

/-- The queue and its disk once a transaction has left some readings in the database. -/
def gained (q : Queue) (d : Disk) (c : Connection) (written : List Reading) : Queue × Disk :=
  let (c, d) := d.store q.settings.path c
    ((d.connected q.settings.path c).onTable fun t => written.foldl ReadingTable.addReading t)
  (q.refresh c, d)

/-- **What is written is kept behind what was there.** -/
theorem Keeps.gained (h : q.Keeps d stored) {c : Connection} (hc : q.connection = some c)
    (written : List Reading) :
    (q.gained d c written).1.Keeps (q.gained d c written).2 (stored ++ written) := by
  have hholds := h.holds
  have hmade := h.made (by rw [hc]; rfl)
  rw [database, hc, Option.getD_some] at hholds hmade
  have hwritten := hholds.write hmade written
  have hstill : ((d.connected q.settings.path c).onTable
      fun t => written.foldl ReadingTable.addReading t).table.isSome = true := by
    rw [Database.onTable, Option.isSome_map]
    exact hmade
  have hagrees : ∀ c', (q.refresh c').Agrees := fun c' => by
    rw [Agrees, refresh, Option.isSome_map]
    exact h.agrees
  have hrefreshed : ∀ c', (q.refresh c').connection = some { c with own := c'.own } := fun c' => by
    rw [refresh, hc]
    rfl
  have hfileless := h.own c hc
  generalize hdb : (d.connected q.settings.path c).onTable
    (fun t => written.foldl ReadingTable.addReading t) = db at hwritten hstill
  -- the new contents go to the file or into the connection, wherever the old ones are
  rcases hown : c.own with _ | old
  · obtain ⟨before, hbefore⟩ := h.filed c hc hown
    have hparts : Disk.partsOf q.settings.path ≠ [] := by
      intro hnil
      rw [hnil] at hbefore
      cases hbefore
    have hgained : q.gained d c written
        = (q.refresh c, d.put (Disk.partsOf q.settings.path) (.database db)) := by
      simp only [Queue.gained, Disk.store, hown, hdb]
    rw [hown] at hfileless
    rw [hgained]
    exact keeps_of_file (hagrees c) (hrefreshed c) hown hfileless.symm
      (d.node?_put hparts (.database db)) hwritten hstill
  · have hgained : q.gained d c written = (q.refresh { c with own := some db }, d) := by
      simp only [Queue.gained, Disk.store, hown, hdb]
    rw [hown] at hfileless
    rw [hgained]
    exact keeps_of_own (hagrees _) (hrefreshed _) rfl hfileless.symm (h.spare hfileless.symm)
      hwritten hstill

/-- No offer changes the contents of the connection, which only the transaction itself can. -/
theorem own_offer (q : Queue) (batch : List Reading) (v : Verdicts) :
    (q.offer batch v).2.1.connection.map (·.own) = q.connection.map (·.own) := by
  have hprepared : q.markPrepared.connection.map (·.own) = q.connection.map (·.own) := by
    rw [markPrepared, Option.map_map]
    rfl
  unfold offer
  split
  · rfl
  · split
    · rfl
    · split
      · rfl
      · rfl
      · dsimp only
        split
        · exact hprepared
        · exact hprepared
        · exact hprepared

/-- **An offer** does not concern the database that the verdicts come from. -/
theorem Keeps.offer (h : q.Keeps d stored) (batch : List Reading) (v : Verdicts) :
    (q.offer batch v).2.1.Keeps d stored := by
  have hlink := q.sameLink_offer batch v
  exact h.congr hlink.settings hlink.status (q.own_offer batch v)

/-- Closing where no row is lost by it. -/
theorem Keeps.close (h : q.Keeps d stored)
    (hkept : Disk.isFileless q.settings.path = true →
      archived stored ⊆ (q.close.1.database d).rows) : q.close.1.Keeps d stored := by
  rcases hc : q.connection with _ | c
  · have hclose : q.close.1 = q := by simp only [Queue.close, hc]
    rw [hclose]
    exact h
  · have hclose : q.close.1 = { q with connection := none, status := .disconnected } := by
      simp only [Queue.close, hc]
    rw [hclose] at hkept ⊢
    -- without a file nothing is there any more, so nothing can have been there before
    refine h.disconnect rfl rfl rfl fun hfileless => ?_
    have hnothing : ({ q with connection := none, status := .disconnected } : Queue).database d
        = d.connected q.settings.path {} := rfl
    have hempty := hkept hfileless
    rw [hnothing, (h.spare hfileless).rows_eq] at hempty
    exact archived_eq_nil (List.subset_nil.mp hempty)

/-- Elsewhere on the disk nothing is of any concern. -/
theorem Keeps.elsewhere (h : q.Keeps d stored)
    (hsame : d'.node? (Disk.partsOf q.settings.path) = d.node? (Disk.partsOf q.settings.path)) :
    q.Keeps d' stored := by
  -- what a connection sees of the disk is the node at its path, and nothing else of it
  have hconnected : ∀ c, d'.connected q.settings.path c = d.connected q.settings.path c := by
    intro c
    unfold Disk.connected
    rw [hsame]
  refine ⟨h.agrees, ?_, ?_, h.own, ?_, ?_⟩
  · rw [database, hconnected]
    exact h.holds
  · rw [database, hconnected]
    exact h.made
  · rw [hsame]
    exact h.filed
  · rw [hconnected]
    exact h.spare

end Queue

end Storage

end SensorGateway
