import Bookwarden.CertificateA.Store
import Bookwarden.Lib.Fencing

/-!
# Fencing of Certificate A runs

Any number of verifiers claim, extend and write; the operator cancels, the web process adds runs.
Each event is one transaction with clock readings of its own, so a run of the machine is any
interleaving under any clocks.

Every write goes through `ownedRun`, which compares the claim with the row. `StoreOp.effect` says
once what a write can do, and from it the queue is a fencing protocol, whose laws give order,
supersession and exclusion. A finished run is never owned and never claimable, which freezes it.

## Main definitions

* `Effect` — what a successful write of a claim changes
* `Event`, `queue` — the machine, as a fencing protocol
* `SameRun` — two databases agree on everything that belongs to a run

## Main results

* `StoreOp.effect` — the effect of every write
* `queue_fenced` — order, supersession, exclusion, and finished runs, in every run of the machine
-/

namespace Bookwarden

namespace CertificateA

variable {py : Runtime} {db db' : Db} {claim : CertificateAClaim}

/-- The fence token of a run; 0 for a run that is not there. -/
def fenceOf (db : Db) (runId : String) : ℕ := ((db.runs.get? runId).map (·.fenceToken)).getD 0

/-! ### The effect of a write -/

theorem ownedRun_eq_ok_iff {moment : Moment} {run : VerificationRun} :
    ownedRun db claim moment = .ok run ↔
      db.runs.get? claim.runId = some run ∧ owns claim moment run = true := by
  rw [ownedRun]
  cases db.runs.get? claim.runId with
  | none => simp
  | some row =>
    by_cases h : owns claim moment row = true
    · simp only [h, if_true, Except.ok.injEq, Option.some.injEq]
      exact ⟨fun heq => ⟨heq, heq ▸ h⟩, fun heq => heq.1⟩
    · simp only [h, if_false, Option.some.injEq, reduceCtorEq, false_iff, not_and, Bool.false_eq_true]
      rintro rfl
      exact h

theorem activeRun_eq_ok_iff {moment : Moment} {run : VerificationRun} :
    activeRun db claim moment = .ok run ↔
      ownedRun db claim moment = .ok run ∧ run.cancels = false := by
  rw [activeRun]
  cases ownedRun db claim moment with
  | error e => simp
  | ok row =>
    cases hc : row.cancels with
    | true =>
      simp only [hc, if_true, reduceCtorEq, Except.ok.injEq, false_iff, not_and]
      rintro rfl
      simp [hc]
    | false =>
      simp only [hc, Bool.false_eq_true, if_false, Except.ok.injEq]
      exact ⟨fun heq => ⟨heq, heq ▸ hc⟩, fun heq => heq.1⟩

theorem resultRow_eq_ok_iff {runId bookKey : String} {result : VerificationResult} :
    resultRow db runId bookKey = .ok result ↔ db.results.get? (runId, bookKey) = some result := by
  rw [resultRow]
  cases db.results.get? (runId, bookKey) <;> simp

theorem fenceToken_of_owns {moment : Moment} {run : VerificationRun}
    (h : owns claim moment run = true) : run.fenceToken = claim.fenceToken := by
  simp only [owns, Bool.and_eq_true, decide_eq_true_eq] at h
  exact h.1.1.1.2

theorem finishedAt_of_owns {moment : Moment} {run : VerificationRun}
    (h : owns claim moment run = true) : run.finishedAt = none := by
  simp only [owns, Bool.and_eq_true, decide_eq_true_eq, Option.isNone_iff_eq_none] at h
  exact h.1.1.2

/-- What a successful write under a claim does: its run was owned, only that run and its results
change, the fence stays, and packages are only added, under that run. -/
structure Effect (db : Db) (claim : CertificateAClaim) (db' : Db) : Prop where
  owned : ∃ run moment, db.runs.get? claim.runId = some run ∧ owns claim moment run = true
  runs : db'.runs = db.runs ∨ ∃ run, db'.runs = db.runs.set claim.runId run ∧
    run.fenceToken = claim.fenceToken
  results : ∀ runId key, runId ≠ claim.runId →
    db'.results.get? (runId, key) = db.results.get? (runId, key)
  packages : ∀ id, db'.packages.get? id = db.packages.get? id ∨
    (db.packages.get? id = none ∧ ∃ row, db'.packages.get? id = some row ∧
      row.runId = claim.runId)

theorem get?_set_result {t : Table (String × String) VerificationResult} {runId runId' : String}
    (key key' : String) (v : VerificationResult) (h : runId' ≠ runId) :
    (t.set (runId, key) v).get? (runId', key') = t.get? (runId', key') :=
  t.get?_set_of_ne v fun heq => h (congrArg Prod.fst heq)

theorem get?_foldl_set_result {runId runId' : String} (key' : String) (h : runId' ≠ runId)
    (keys : List String) (t : Table (String × String) VerificationResult) :
    (keys.foldl (fun t key => t.set (runId, key) {}) t).get? (runId', key')
      = t.get? (runId', key') := by
  induction keys generalizing t with
  | nil => rfl
  | cons key keys ih => rw [List.foldl_cons, ih, get?_set_result _ _ _ h]

theorem effect_heartbeat (moment : Moment) (ttl : ℤ) :
    (heartbeat db claim moment ttl).1 = db ∨ Effect db claim (heartbeat db claim moment ttl).1 := by
  rw [heartbeat]
  cases hrun : db.runs.get? claim.runId with
  | none => exact Or.inl rfl
  | some run =>
    by_cases how : owns claim moment run = true
    · have hfence := fenceToken_of_owns how
      refine Or.inr ?_
      simp only [how, if_true]
      exact ⟨⟨run, moment, hrun, how⟩, Or.inr ⟨_, rfl, hfence⟩, fun _ _ _ => rfl,
        fun _ => Or.inl rfl⟩
    · simp only [how]
      exact Or.inl rfl

theorem effect_inventory {keys : List String} {snapshot : Dict} {m₁ m₂ : Moment}
    (h : inventory db claim keys snapshot m₁ m₂ = .ok db') : Effect db claim db' := by
  rw [inventory] at h
  split at h
  · cases h
  · cases hactive : activeRun db claim m₁ with
    | error e => simp [hactive] at h
    | ok run =>
      obtain ⟨howned, -⟩ := activeRun_eq_ok_iff.mp hactive
      obtain ⟨hrun, how⟩ := ownedRun_eq_ok_iff.mp howned
      simp only [hactive] at h
      split at h
      · cases h
      · split at h
        · cases h
        · cases h
          have hfence := fenceToken_of_owns how
          refine ⟨⟨run, m₁, hrun, how⟩, Or.inr ⟨_, rfl, hfence⟩, ?_, fun _ => Or.inl rfl⟩
          intro runId key hne
          show (freezeMembers db claim.runId keys).get? (runId, key) = _
          rw [freezeMembers]
          split
          · exact get?_foldl_set_result key hne keys db.results
          · rfl

theorem effect_recordState {key : String} {state : BookAuditState} {m : Moment}
    (h : recordState db claim key state m = .ok db') : Effect db claim db' := by
  rw [recordState] at h
  cases hactive : activeRun db claim m with
  | error e => simp [hactive] at h
  | ok run =>
    obtain ⟨howned, -⟩ := activeRun_eq_ok_iff.mp hactive
    obtain ⟨hrun, how⟩ := ownedRun_eq_ok_iff.mp howned
    cases hresult : resultRow db claim.runId key with
    | error e => simp [hactive, hresult] at h
    | ok result =>
      simp only [hactive, hresult, Except.ok.injEq] at h
      subst h
      exact ⟨⟨run, m, hrun, how⟩, Or.inl rfl,
        fun _ _ hne => get?_set_result _ _ _ hne, fun _ => Or.inl rfl⟩

variable (py db) in
theorem get?_writePackage_packages (result : VerificationResult) (package : EvidencePackageV2)
    (id : String) :
    (writePackage py db result package).packages.get? id = db.packages.get? id ∨
      (id = package.evidenceId ∧ db.packages.get? id = none ∧
        (writePackage py db result package).packages.get? id = some (packageRow package)) := by
  rw [writePackage]
  cases hstored : db.packages.get? package.evidenceId with
  | some row => exact Or.inl rfl
  | none =>
    by_cases hid : id = package.evidenceId
    · subst hid
      exact Or.inr ⟨rfl, hstored, db.packages.get?_set_self _ _⟩
    · exact Or.inl (db.packages.get?_set_of_ne _ hid)

/-- The checks a recorded package has passed, and what is left in the database. -/
theorem recordPackage_eq_ok {package : EvidencePackageV2} {m₁ m₂ : Moment}
    (h : recordPackage py db claim package m₁ m₂ = .ok db') :
    package.runId = claim.runId ∧ package.verifySeal py = true ∧
      ∃ run result, db.runs.get? claim.runId = some run ∧ owns claim m₁ run = true ∧
        db.results.get? (claim.runId, package.bookKey) = some result ∧
        differs (db.packages.get? package.evidenceId) package = false ∧
        db' = { writePackage py db result package with
          runs := db.runs.set claim.runId
            (refreshCounts (writePackage py db result package) claim.runId run) } := by
  rw [recordPackage] at h
  split at h
  · cases h
  · rename_i hpackage
    simp only [not_or, not_not, Bool.not_eq_false] at hpackage
    cases howned : ownedRun db claim m₁ with
    | error e => simp [howned] at h
    | ok run =>
      obtain ⟨hrun, how⟩ := ownedRun_eq_ok_iff.mp howned
      cases hresult : resultRow db claim.runId package.bookKey with
      | error e => simp [howned, hresult] at h
      | ok result =>
        simp only [howned, hresult] at h
        split at h
        · cases h
        · rename_i hsame
          cases hwritten : ownedRun (writePackage py db result package) claim m₂ with
          | error e => simp [hwritten] at h
          | ok run' =>
            -- the rows written so far do not touch the run
            have hrun' : db.runs.get? claim.runId = some run' :=
              (ownedRun_eq_ok_iff.mp hwritten).1
            rw [hrun] at hrun'
            cases hrun'
            simp only [hwritten, Except.ok.injEq] at h
            exact ⟨hpackage.1, hpackage.2, run, result, hrun, how,
              resultRow_eq_ok_iff.mp hresult, by simpa using hsame, h.symm⟩

theorem effect_recordPackage {package : EvidencePackageV2} {m₁ m₂ : Moment}
    (h : recordPackage py db claim package m₁ m₂ = .ok db') : Effect db claim db' := by
  obtain ⟨hrunId, -, run, result, hrun, how, -, -, rfl⟩ := recordPackage_eq_ok h
  have hfence := fenceToken_of_owns how
  refine ⟨⟨run, m₁, hrun, how⟩, Or.inr ⟨_, rfl, hfence⟩, ?_, ?_⟩
  · intro runId key hne
    exact get?_set_result _ _ _ (hrunId ▸ hne)
  · intro id
    rcases get?_writePackage_packages py db result package id with hp | hp
    · exact Or.inl hp
    · exact Or.inr ⟨hp.2.1, packageRow package, hp.2.2, hrunId⟩

/-- The checks a finished run has passed, and the row it becomes. -/
theorem finish_eq_ok {status : RunStatus} {code : Option String} {m₁ m₂ : Moment}
    (h : finish db claim status code m₁ m₂ = .ok db') :
    status ∈ terminalStatuses ∧ ∃ run, db.runs.get? claim.runId = some run ∧
      owns claim m₁ run = true ∧ db' = { db with
        runs := db.runs.set claim.runId { refreshCounts db claim.runId run with
          status, errorCode := code, finishedAt := some m₂, leaseOwner := none,
          leaseExpiresAt := none } } := by
  rw [finish] at h
  split at h
  · cases h
  · rename_i hstatus
    cases howned : ownedRun db claim m₁ with
    | error e => simp [howned] at h
    | ok run =>
      obtain ⟨hrun, how⟩ := ownedRun_eq_ok_iff.mp howned
      simp only [howned, Except.ok.injEq] at h
      exact ⟨not_not.mp hstatus, run, hrun, how, h.symm⟩

theorem effect_finish {status : RunStatus} {code : Option String} {m₁ m₂ : Moment}
    (h : finish db claim status code m₁ m₂ = .ok db') : Effect db claim db' := by
  obtain ⟨-, run, hrun, how, rfl⟩ := finish_eq_ok h
  have hfence := fenceToken_of_owns how
  exact ⟨⟨run, m₁, hrun, how⟩, Or.inr ⟨_, rfl, hfence⟩, fun _ _ _ => rfl, fun _ => Or.inl rfl⟩

variable (py db claim) in
/-- **Every write.** It fails, changes nothing, or has the effect of an owned claim. -/
theorem StoreOp.effect (op : StoreOp) :
    op.exec py db claim = db ∨ Effect db claim (op.exec py db claim) := by
  rw [StoreOp.exec]
  cases h : op.apply py db claim with
  | error e => exact Or.inl rfl
  | ok db' =>
    cases op with
    | heartbeat m ttl =>
      rw [StoreOp.apply, Except.ok.injEq] at h
      exact h ▸ effect_heartbeat m ttl
    | inventory keys snapshot m₁ m₂ => exact Or.inr (effect_inventory h)
    | recordState key state m => exact Or.inr (effect_recordState h)
    | recordPackage package m₁ m₂ => exact Or.inr (effect_recordPackage h)
    | finish status code m₁ m₂ => exact Or.inr (effect_finish h)

/-! ### The queue as a fencing protocol -/

theorem mem_of_earliest {l : List (String × VerificationRun)} {r : String × VerificationRun}
    (h : earliest l = some r) : r ∈ l := by
  induction l generalizing r with
  | nil => cases h
  | cons p l ih =>
    rw [earliest] at h
    cases hl : earliest l with
    | none =>
      simp only [hl, Option.some.injEq] at h
      exact h ▸ List.mem_cons_self
    | some q =>
      simp only [hl] at h
      split at h
      · cases h
        exact List.mem_cons_self
      · cases h
        exact List.mem_cons_of_mem _ (ih hl)

/-- The candidate of a claim is a stored run that satisfies the claim predicate. -/
theorem claimCandidate_spec {moment : Moment} {runId : Option String} {id : String}
    {run : VerificationRun} (h : claimCandidate db moment runId = some (id, run)) :
    db.runs.get? id = some run ∧ claimPredicate moment run = true := by
  have hmem := List.mem_filter.mp (mem_of_earliest h)
  simp only [Bool.and_eq_true] at hmem
  exact ⟨Table.mem_rows_iff.mp hmem.1, hmem.2.1⟩

/-- An event at the database: a claim, a write under a claim, a cancellation, a new request. -/
inductive Event
  | claim (owner : String) (moment : Moment) (ttlSeconds : ℤ) (runId : Option String)
  | write (claim : CertificateAClaim) (op : StoreOp)
  | cancel (runId : String) (moment : Moment)
  | request (runId : String) (startedAt : Moment)

/-- The answer to a claim request; a refused owner leaves the database alone. -/
def claimAnswer (db : Db) (owner : String) (moment : Moment) (ttlSeconds : ℤ)
    (runId : Option String) : Db × Option CertificateAClaim :=
  match claimNextCertificateARun db owner moment ttlSeconds runId with
  | .ok answer => answer
  | .error _ => (db, none)

variable (py) in
/-- The database after an event. -/
def Event.exec (db : Db) : Event → Db
  | .claim owner moment ttl runId => (claimAnswer db owner moment ttl runId).1
  | .write claim op => op.exec py db claim
  | .cancel runId moment => cancelRun db runId moment
  | .request runId startedAt => requestRun db runId startedAt

/-- The claim an event hands out. -/
def Event.issues (db : Db) : Event → Option CertificateAClaim
  | .claim owner moment ttl runId => (claimAnswer db owner moment ttl runId).2
  | _ => none

/-- The claim an event writes under. -/
def Event.holder : Event → Option CertificateAClaim
  | .write claim _ => some claim
  | _ => none

theorem fenceOf_set (run : VerificationRun) (runId runId' : String) :
    fenceOf { db with runs := db.runs.set runId run } runId'
      = if runId' = runId then run.fenceToken else fenceOf db runId' := by
  rw [fenceOf, Table.get?_set]
  split
  · rfl
  · rfl

/-- A claim request hands out nothing and changes nothing, or claims a run that was claimable. -/
theorem claimAnswer_cases (db : Db) (owner : String) (moment : Moment) (ttl : ℤ)
    (runId : Option String) :
    claimAnswer db owner moment ttl runId = (db, none) ∨
      ∃ id run run', db.runs.get? id = some run ∧ claimPredicate moment run = true ∧
        run'.fenceToken = run.fenceToken + 1 ∧
        (run'.status = .inventorying ∨ run'.status = run.status) ∧
        claimAnswer db owner moment ttl runId
          = ({ db with runs := db.runs.set id run' }, some ⟨id, owner, run.fenceToken + 1⟩) := by
  rw [claimAnswer, claimNextCertificateARun]
  by_cases howner : owner = "" ∨ 128 < owner.length
  · rw [if_pos howner]
    exact Or.inl rfl
  · rw [if_neg howner]
    cases hcand : claimCandidate db moment runId with
    | none => exact Or.inl rfl
    | some r =>
      obtain ⟨hget, hpred⟩ := claimCandidate_spec hcand
      refine Or.inr ⟨r.1, r.2, _, hget, hpred, rfl, ?_, rfl⟩
      by_cases hpending : r.2.status = .pending
      · exact Or.inl (if_pos hpending)
      · exact Or.inr (if_neg hpending)

theorem Effect.fenceOf_eq (h : Effect db claim db') (runId : String) :
    fenceOf db' runId = fenceOf db runId := by
  rcases h.runs with hruns | ⟨run', hruns, hfence⟩
  · rw [fenceOf, fenceOf, hruns]
  · obtain ⟨run, moment, hget, how⟩ := h.owned
    rw [fenceOf, hruns, Table.get?_set]
    split
    · rename_i hid
      subst hid
      rw [fenceOf, hget]
      exact hfence.trans (fenceToken_of_owns how).symm
    · rfl

theorem fenceOf_cancelRun (db : Db) (runId runId' : String) (moment : Moment) :
    fenceOf (cancelRun db runId moment) runId' = fenceOf db runId' := by
  rw [cancelRun]
  cases hrun : db.runs.get? runId with
  | none => rfl
  | some run =>
    show fenceOf (if _ then _ else _) runId' = _
    split
    · rw [fenceOf_set]
      split
      · rename_i hid
        rw [hid, fenceOf, hrun]
        rfl
      · rfl
    · rfl

theorem fenceOf_requestRun (runId runId' : String) (startedAt : Moment) :
    fenceOf (requestRun db runId startedAt) runId' = fenceOf db runId' := by
  rw [requestRun]
  cases hrun : db.runs.get? runId with
  | some run => rfl
  | none =>
    show fenceOf { db with runs := _ } runId' = _
    rw [fenceOf_set]
    split
    · rename_i hid
      rw [hid, fenceOf, hrun]
      rfl
    · rfl

variable (py) in
/-- The queue of Certificate A is a fencing protocol. -/
def queue : Fencing.Protocol Db String CertificateAClaim Event where
  token := fenceOf
  key := (·.runId)
  stamp := (·.fenceToken)
  exec := Event.exec py
  issues := Event.issues
  holder := Event.holder
  issue db e c h := by
    cases e with
    | claim owner moment ttl runId =>
      rw [Event.issues] at h
      rcases claimAnswer_cases db owner moment ttl runId with
        heq | ⟨id, run, run', hget, -, hf, -, heq⟩
      · rw [heq] at h
        cases h
      · rw [heq] at h
        cases h
        have hfence : fenceOf db id = run.fenceToken := by rw [fenceOf, hget]; rfl
        refine ⟨by rw [hfence], ?_, fun k hk => ?_⟩
        · show fenceOf (Event.exec py db (.claim owner moment ttl runId)) id = run.fenceToken + 1
          rw [Event.exec, heq, fenceOf_set, if_pos rfl, hf]
        · rw [Event.exec, heq, fenceOf_set, if_neg hk]
    | write claim op => cases h
    | cancel runId moment => cases h
    | request runId startedAt => cases h
  quiet db e h runId' := by
    cases e with
    | claim owner moment ttl runId =>
      rw [Event.issues] at h
      rcases claimAnswer_cases db owner moment ttl runId with heq | ⟨_, _, _, _, _, _, _, heq⟩
      · rw [Event.exec, heq]
      · rw [heq] at h
        cases h
    | write claim op =>
      rcases op.effect py db claim with heq | heff
      · rw [Event.exec, heq]
      · rw [Event.exec, heff.fenceOf_eq]
    | cancel runId moment => exact fenceOf_cancelRun db runId runId' moment
    | request runId startedAt => exact fenceOf_requestRun runId runId' startedAt
  fenced db e c h hne := by
    cases e with
    | write claim op =>
      cases h
      rcases op.effect py db c with heq | heff
      · exact absurd heq hne
      · obtain ⟨run, moment, hget, how⟩ := heff.owned
        show c.fenceToken = fenceOf db c.runId
        rw [fenceOf, hget]
        exact (fenceToken_of_owns how).symm
    | claim owner moment ttl runId => cases h
    | cancel runId moment => cases h
    | request runId startedAt => cases h

/-! ### Finished runs -/

/-- Everything that belongs to a run is the same in both databases: its row, its results, and the
packages stored under it. -/
structure SameRun (runId : String) (db db' : Db) : Prop where
  run : db'.runs.get? runId = db.runs.get? runId
  results : ∀ key, db'.results.get? (runId, key) = db.results.get? (runId, key)
  packages : ∀ id row, row.runId = runId →
    (db'.packages.get? id = some row ↔ db.packages.get? id = some row)

theorem SameRun.refl (runId : String) (db : Db) : SameRun runId db db :=
  ⟨rfl, fun _ => rfl, fun _ _ _ => Iff.rfl⟩

theorem SameRun.trans {runId : String} {db₁ db₂ db₃ : Db} (h : SameRun runId db₁ db₂)
    (h' : SameRun runId db₂ db₃) : SameRun runId db₁ db₃ :=
  ⟨h'.run.trans h.run, fun key => (h'.results key).trans (h.results key),
    fun id row hrow => (h'.packages id row hrow).trans (h.packages id row hrow)⟩

/-- A write leaves the other runs alone. -/
theorem Effect.sameRun (h : Effect db claim db') {runId : String} (hne : runId ≠ claim.runId) :
    SameRun runId db db' where
  run := by
    rcases h.runs with hruns | ⟨run', hruns, -⟩
    · rw [hruns]
    · rw [hruns, Table.get?_set_of_ne _ _ hne]
  results key := h.results runId key hne
  packages id row hrow := by
    rcases h.packages id with hp | ⟨hnone, row', hsome, hrow'⟩
    · rw [hp]
    · rw [hnone, hsome]
      simp only [Option.some.injEq, reduceCtorEq, iff_false]
      rintro rfl
      exact hne (hrow.symm.trans hrow')

theorem sameRun_of_runs {runId runId' : String} {run : VerificationRun} (hne : runId ≠ runId') :
    SameRun runId db { db with runs := db.runs.set runId' run } :=
  ⟨Table.get?_set_of_ne _ _ hne, fun _ => rfl, fun _ _ _ => Iff.rfl⟩

/-- No event changes a finished run. -/
theorem Event.sameRun_of_finished {runId : String} {run : VerificationRun}
    (hget : db.runs.get? runId = some run) (hfin : run.finishedAt ≠ none) (e : Event) :
    SameRun runId db (e.exec py db) := by
  cases e with
  | claim owner moment ttl target =>
    rcases claimAnswer_cases db owner moment ttl target with
      heq | ⟨id, row, row', hrow, hpred, -, -, heq⟩
    · rw [Event.exec, heq]
      exact SameRun.refl runId db
    · rw [Event.exec, heq]
      refine sameRun_of_runs ?_
      rintro rfl
      rw [hget] at hrow
      cases hrow
      simp only [claimPredicate, Bool.and_eq_true, Option.isNone_iff_eq_none] at hpred
      exact hfin hpred.1.1.2
  | write claim op =>
    rcases op.effect py db claim with heq | heff
    · rw [Event.exec, heq]
      exact SameRun.refl runId db
    · refine heff.sameRun ?_
      rintro rfl
      obtain ⟨row, moment, hrow, how⟩ := heff.owned
      rw [hget] at hrow
      cases hrow
      exact hfin (finishedAt_of_owns how)
  | cancel target moment =>
    rw [Event.exec, cancelRun]
    cases hrow : db.runs.get? target with
    | none => exact SameRun.refl runId db
    | some row =>
      show SameRun runId db (if _ then _ else _)
      split
      · rename_i hcond
        refine sameRun_of_runs ?_
        rintro rfl
        rw [hget] at hrow
        cases hrow
        exact hfin hcond.2.2.1
      · exact SameRun.refl runId db
  | request target startedAt =>
    rw [Event.exec, requestRun]
    cases hrow : db.runs.get? target with
    | some row => exact SameRun.refl runId db
    | none =>
      refine sameRun_of_runs ?_
      rintro rfl
      rw [hget] at hrow
      cases hrow

/-! ### The fencing theorem -/

variable (py) in
/-- The database and the claims handed out, after a list of events. -/
def runQueue (db : Db) (es : List Event) : Fencing.Protocol.World Db CertificateAClaim :=
  Runs.run (queue py).step ⟨db, []⟩ es

/-- The claim can write at some moment. -/
def mayWrite (db : Db) (claim : CertificateAClaim) : Prop :=
  ∃ moment run, ownedRun db claim moment = .ok run

theorem stamp_current_of_mayWrite (h : mayWrite db claim) :
    claim.fenceToken = fenceOf db claim.runId := by
  obtain ⟨moment, run, howned⟩ := h
  obtain ⟨hget, how⟩ := ownedRun_eq_ok_iff.mp howned
  rw [fenceOf, hget]
  exact (fenceToken_of_owns how).symm

theorem queue_step_sameRun {w : Fencing.Protocol.World Db CertificateAClaim} {runId : String}
    {run : VerificationRun} (hget : w.state.runs.get? runId = some run)
    (hfin : run.finishedAt ≠ none) (e : Event) :
    SameRun runId w.state ((queue py).step w e).state := by
  rcases Fencing.Protocol.step_eq (P := queue py) w e with heq | heq
  · rw [heq]
    exact SameRun.refl runId _
  · rw [heq]
    exact Event.sameRun_of_finished hget hfin e

/-- A finished run stays as it is through any further events. -/
theorem finished_frozen (w : Fencing.Protocol.World Db CertificateAClaim) {runId : String}
    {run : VerificationRun} (hget : w.state.runs.get? runId = some run)
    (hfin : run.finishedAt ≠ none) (es : List Event) :
    SameRun runId w.state (Runs.run (queue py).step w es).state :=
  Runs.invariant
    (fun v : Fencing.Protocol.World Db CertificateAClaim => SameRun runId w.state v.state)
    (fun _ e hv => hv.trans (queue_step_sameRun (hv.run.trans hget) hfin e))
    (SameRun.refl runId _) es

/-- **Fencing.** From any database and through any events: the fence of a run never decreases and
every claim handed out raises it; claims of a run are fenced in the order they were handed out, and
a superseded one changes nothing; at most one claim of a run can write; a finished run never
changes again. -/
theorem queue_fenced (py : Runtime) (db : Db) (es : List Event) :
    (∀ e runId, fenceOf (runQueue py db es).state runId
      ≤ fenceOf (runQueue py db (es ++ [e])).state runId) ∧
    (∀ e c, (queue py).issues (runQueue py db es).state e = some c →
      fenceOf (runQueue py db es).state c.runId < c.fenceToken ∧
        fenceOf (runQueue py db (es ++ [e])).state c.runId = c.fenceToken) ∧
    ((runQueue py db es).issued.Pairwise fun c d => c.runId = d.runId →
      c.fenceToken < d.fenceToken ∧
        ∀ op, (runQueue py db (es ++ [.write c op])).state = (runQueue py db es).state) ∧
    (∀ c ∈ (runQueue py db es).issued, ∀ d ∈ (runQueue py db es).issued, c.runId = d.runId →
      mayWrite (runQueue py db es).state c → mayWrite (runQueue py db es).state d → c = d) ∧
    (∀ fs runId run, (runQueue py db es).state.runs.get? runId = some run →
      run.finishedAt ≠ none →
      SameRun runId (runQueue py db es).state (runQueue py db (es ++ fs)).state) := by
  have hord : (queue py).Ordered (runQueue py db es) :=
    Fencing.Protocol.ordered_run (Fencing.Protocol.ordered_start db) es
  have hone : ∀ e, runQueue py db (es ++ [e]) = (queue py).step (runQueue py db es) e := by
    intro e
    rw [runQueue, Runs.run_append]
    rfl
  refine ⟨fun e runId => ?_, fun e c hc => ?_, ?_, fun c hc d hd hrun hw hw' => ?_,
    fun fs runId run hget hfin => ?_⟩
  · rw [hone]
    exact Fencing.Protocol.token_le_step (P := queue py) _ e runId
  · obtain ⟨hstamp, hself, -⟩ := (queue py).issue _ e c hc
    have hfree : (queue py).holder e = none := by
      cases e with
      | write claim op => cases hc
      | _ => rfl
    refine ⟨?_, ?_⟩
    · show fenceOf _ _ < (queue py).stamp c
      rw [hstamp]
      exact Nat.lt_succ_self _
    · rw [hone, Fencing.Protocol.step, hfree]
      exact hself
  · refine List.Pairwise.imp_of_mem (fun {c d} hc hd hlt hkey => ?_) hord.increasing
    refine ⟨hlt hkey, fun op => ?_⟩
    rw [hone]
    exact Fencing.Protocol.superseded_inert hord hd hkey (hlt hkey) rfl
  · exact Fencing.Protocol.current_unique hord hc hd hrun (stamp_current_of_mayWrite hw)
      (stamp_current_of_mayWrite hw')
  · have happ : runQueue py db (es ++ fs) = Runs.run (queue py).step (runQueue py db es) fs := by
      rw [runQueue, Runs.run_append]
      rfl
    rw [happ]
    exact finished_frozen _ hget hfin fs

end CertificateA

end Bookwarden
