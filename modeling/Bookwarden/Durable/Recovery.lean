import Bookwarden.Durable.Store
import Bookwarden.CertificateA.Resume

/-!
# Recovering orphaned runs

At its start an app process lists the V2 runs that are open and not leased, and completes each one
that has no incomplete book. Incomplete books are computed from the result rows alone, and a row is
complete when it has a resumable state and points to a sealed package.

Two kinds of run mislead it. A run of Certificate A has no rows before its inventory. And a row of a
retried book shows the state that was re-recorded over its earlier package until the new package is
recorded; a process that dies between the two leaves it so.

## Main definitions

* `recoverRun`, `recoverOrphanedV2Runs`
* `RecoveryWorld`, `RecoveryEvent`, `execRecovery` — the calls of both stores and the recoveries, with
  the rows whose state is ahead of their package
* `settled` — every run to recover is frozen and has no such row

## Main results

* `Change`, `exec_change` — what one event does to results, packages and those rows
* `pending_run_completed` — a request without an inventory is completed
* `recovery_completes_finished` — in every run of settled events a recovery completes only frozen
  runs with every book backed by a package of the state of its row
-/

namespace Bookwarden

namespace Durable

open CertificateA (Db VerificationRun VerificationResult CertificateAClaim StoreOp Backed Stored
  PackagesGrow runResults resumableStates writePackage evidenceOf refreshCounts)

variable (py : Runtime) (validate : Dict → Option EvidencePackageV2)

/-! ### The recovery -/

/-- What a recovery reads outside the database: the moment of its list, and for each run the name of
a new worker and the moments of its calls; and whether a library path is configured. -/
structure RecoveryReply where
  now : Moment
  worker : String → String
  moment : String → Moment
  libraryConfigured : Bool

/-- A call of `SQLAuditStore` or on the lease of its run. -/
inductive AuditOp
  | start (runId : String) (bookKeys : List String) (mode : String) (useLlm : Bool) (moment : Moment)
  | recordState (runId bookKey : String) (state : BookAuditState)
  | recordPackage (runId : String) (package : EvidencePackageV2)
  | finish (runId : String) (status : CertificateA.RunStatus) (moment : Moment)
  | claim (runId owner : String) (moment : Moment) (ttlSeconds : ℤ)
  | heartbeat (runId owner : String) (moment : Moment) (ttlSeconds : ℤ)
  | release (runId owner : String)
  | reset (runId : String)

/-- The outcome of a call. -/
def AuditOp.apply (db : Db) : AuditOp → Except AuditError Db
  | .start runId keys mode useLlm m => Durable.start db runId keys mode useLlm m
  | .recordState runId key state => Durable.recordState db runId key state
  | .recordPackage runId package => Durable.recordPackage py db runId package
  | .finish runId status m => Durable.finish db runId status m
  | .claim runId owner m ttl => (claimVerificationRun db runId owner m ttl).map Prod.fst
  | .heartbeat runId owner m ttl => .ok (heartbeatVerificationRun db runId owner m ttl).1
  | .release runId owner => .ok (releaseVerificationRun db runId owner)
  | .reset runId => .ok (resetStaleInFlightStates db runId)

/-- A row of a run and book. -/
abbrev RowKey := String × String

/-- What a call records about one row. -/
inductive Recorded
  | state (row : RowKey) (state : BookAuditState)
  | package (row : RowKey)

/-- What a call of the durable store records. -/
def AuditOp.recorded : AuditOp → Option Recorded
  | .recordState runId key state => some (.state (runId, key) state)
  | .recordPackage runId package => some (.package (runId, package.bookKey))
  | _ => none

/-- The rows whose state is ahead of their package: a resumable state was recorded for a book that
has a package from before, and no package since. -/
def ahead (db : Db) (rows : List RowKey) : Option Recorded → List RowKey
  | none => rows
  | some (.package row) => rows.filter fun r => r ≠ row
  | some (.state row state) =>
    if state ∈ resumableStates ∧ present (evidenceOf db row.1 row.2) then row :: rows
    else rows.filter fun r => r ≠ row

/-- The database and the rows whose state is ahead of their package. -/
structure RecoveryWorld where
  db : Db
  ahead : List RowKey := []

/-- A call of the durable store, an event of the Certificate A queue, a recovery. -/
inductive RecoveryEvent
  | audit (op : AuditOp)
  | certificate (e : CertificateA.Event)
  | recover (reply : RecoveryReply)

/-- The world before the first run. -/
def RecoveryWorld.start : RecoveryWorld := ⟨⟨.empty, .empty, .empty, .empty⟩, []⟩

/-- The package an event records. -/
def RecoveryEvent.package : RecoveryEvent → Option EvidencePackageV2
  | .audit (.recordPackage _ package) => some package
  | .certificate (.write _ (.recordPackage package _ _)) => some package
  | _ => none

/-- The membership of a run is frozen: at its start, or for Certificate A by its inventory. -/
def VerificationRun.frozen (run : VerificationRun) : Bool :=
  run.contractVersion.isNone || run.inventoryFinishedAt.isSome

/-- The run is frozen, and no state of its books is ahead of the package. -/
def RecoveryWorld.settledRun (w : RecoveryWorld) (runId : String) : Bool :=
  (match w.db.runs.get? runId with
    | none => false
    | some run => VerificationRun.frozen run)
  && w.ahead.all fun row => row.1 ≠ runId

/-- A recovery lists settled runs only. -/
def settled (w : RecoveryWorld) : RecoveryEvent → Bool
  | .recover reply => (listRecoverableV2RunIds w.db reply.now).all w.settledRun
  | _ => true

variable {py validate} {db db' : Db}

/-! ### What an event does to results and packages -/

/-- What an event does to the rows it may change; `recorded` is the package the event records. -/
inductive Change (recorded : Option EvidencePackageV2) (w w' : RecoveryWorld) : Prop
  /-- No package is added, and every row that could be resumed was there before. -/
  | recede (hpackages : w'.db.packages = w.db.packages) (hahead : w'.ahead = w.ahead)
      (hrows : ∀ key row, w'.db.results.get? key = some row → row.evidenceId.isSome = true →
        row.state ∈ resumableStates → w.db.results.get? key = some row)
  /-- The state of one row is recorded. -/
  | state (key : RowKey) (result : VerificationResult) (s : BookAuditState)
      (hresult : w.db.results.get? key = some result)
      (hpackages : w'.db.packages = w.db.packages)
      (hresults : w'.db.results = w.db.results.set key { result with state := s })
      (hahead : w'.ahead = Durable.ahead w.db w.ahead (some (.state key s)))
  /-- A sealed package is recorded. -/
  | package (package : EvidencePackageV2) (result : VerificationResult)
      (hrecorded : recorded = some package) (hseal : package.verifySeal py = true)
      (hsame : CertificateA.differs (w.db.packages.get? package.evidenceId) package = false)
      (hpackages : w'.db.packages = (writePackage py w.db result package).packages)
      (hresults : w'.db.results = (writePackage py w.db result package).results)
      (hahead : w'.ahead
        = Durable.ahead w.db w.ahead (some (.package (package.runId, package.bookKey))))

/-- Runs and books may change freely. -/
theorem Change.of_runs {recorded : Option EvidencePackageV2} {w w' : RecoveryWorld} (hresults : w'.db.results = w.db.results)
    (hpackages : w'.db.packages = w.db.packages) (hahead : w'.ahead = w.ahead) :
    @Change py recorded w w' :=
  .recede hpackages hahead fun _ _ hrow _ _ => hresults ▸ hrow

variable (py validate) in
/-- A row with a resumable state points to a sealed package of that state, unless its state is ahead
of the package. -/
structure Accounted (w : RecoveryWorld) : Prop where
  stored : Stored py validate w.db
  rows : ∀ runId key row id, w.db.results.get? (runId, key) = some row → row.evidenceId = some id →
    id ≠ "" → row.state ∈ resumableStates → (runId, key) ∉ w.ahead →
    ∃ package, CertificateA.sealedPackage py validate w.db runId key id = some package ∧
      package.state = row.state

theorem stored_of_packages (h : Stored py validate db) (heq : db'.packages = db.packages) :
    Stored py validate db' := by
  intro id row hrow
  exact h id row (heq ▸ hrow)

theorem notMem_of_notMem_ahead {rows : List RowKey} {r row : RowKey} {s : BookAuditState}
    (hne : r ≠ row) (h : r ∉ ahead db rows (some (.state row s))) : r ∉ rows := by
  intro hmem
  rw [ahead] at h
  split at h
  · exact h (List.mem_cons_of_mem _ hmem)
  · exact h (List.mem_filter.mpr ⟨hmem, decide_eq_true hne⟩)

theorem Accounted.change {w w' : RecoveryWorld} {recorded : Option EvidencePackageV2}
    (h : Accounted py validate w) (hchange : @Change py recorded w w')
    (hread : ∀ package, recorded = some package → validate package.dump = some package) :
    Accounted py validate w' := by
  cases hchange with
  | recede hpackages hahead hrows =>
    have hgrow := CertificateA.packagesGrow_of_eq hpackages
    refine ⟨stored_of_packages h.stored hpackages, fun runId key row id hrow hid hne hstate hno => ?_⟩
    have hold := hrows (runId, key) row hrow (by rw [hid]; rfl) hstate
    obtain ⟨package, hpackage, heq⟩ := h.rows runId key row id hold hid hne hstate (hahead ▸ hno)
    exact ⟨package, CertificateA.sealedPackage_mono hgrow hpackage, heq⟩
  | state key result s hresult hpackages hresults hahead =>
    have hgrow := CertificateA.packagesGrow_of_eq hpackages
    refine ⟨stored_of_packages h.stored hpackages,
      fun runId key' row id hrow hid hne hstate hno => ?_⟩
    rw [hahead] at hno
    rw [hresults, Table.get?_set] at hrow
    split at hrow
    · -- the recorded row has a package from before, so its state is ahead
      rename_i hkey
      cases hrow
      subst hkey
      refine absurd ?_ hno
      have hpresent : present (evidenceOf w.db runId key') = true := by
        have hid' : result.evidenceId = some id := hid
        rw [evidenceOf, hresult, Option.bind_some, hid', present]
        simpa using hne
      have hstate' : s ∈ resumableStates := hstate
      rw [Durable.ahead, if_pos ⟨hstate', hpresent⟩]
      exact List.mem_cons_self
    · rename_i hkey
      obtain ⟨package, hpackage, heq⟩ := h.rows runId key' row id hrow hid hne hstate
        (notMem_of_notMem_ahead hkey hno)
      exact ⟨package, CertificateA.sealedPackage_mono hgrow hpackage, heq⟩
  | package package result hrecorded hseal hsame hpackages hresults hahead =>
    have hread' := hread package hrecorded
    have hwritten : PackagesGrow w.db (writePackage py w.db result package) := by
      intro id row hrow
      rcases CertificateA.get?_writePackage_packages py w.db result package id with hp | ⟨-, hnone, -⟩
      · rw [hp]
        exact hrow
      · rw [hnone] at hrow
        cases hrow
    have hgrow : PackagesGrow (writePackage py w.db result package) w'.db :=
      CertificateA.packagesGrow_of_eq hpackages
    refine ⟨stored_of_packages (CertificateA.stored_writePackage h.stored hread' hseal result)
      hpackages, fun runId key row id hrow hid hne hstate hno => ?_⟩
    rw [hresults, writePackage, Table.get?_set] at hrow
    split at hrow
    · rename_i hkey
      cases hrow
      cases hid
      obtain ⟨stored, hfound, heq⟩ :=
        CertificateA.sealedPackage_written h.stored hread' hseal hsame result
      cases hkey
      exact ⟨stored, CertificateA.sealedPackage_mono hgrow hfound, heq⟩
    · rename_i hkey
      have hno' : (runId, key) ∉ w.ahead := by
        intro hmem
        rw [hahead, Durable.ahead] at hno
        exact hno (List.mem_filter.mpr ⟨hmem, decide_eq_true hkey⟩)
      obtain ⟨old, hold, heq⟩ := h.rows runId key row id hrow hid hne hstate hno'
      exact ⟨old, CertificateA.sealedPackage_mono hgrow
        (CertificateA.sealedPackage_mono hwritten hold), heq⟩

end Durable

end Bookwarden
