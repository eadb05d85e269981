import Bookwarden.CertificateA.Worker

/-!
# The invariant of one run

A retry trusts the rows that `resumable_book_keys` returns and completes the run without looking at
their packages again. The rows are right when each one with a resumable state points to a package
of that state. Two transactions keep that apart: after `record_state` and before `record_package` a
row of a retried book shows the new state over the old package.

The invariant of a run allows exactly one such row, the one its current attempt has in hand.

## Main definitions

* `Stored` — every stored row was written for a sealed package that reads back
* `PhaseInv`, `RunInv` — what holds in a phase of the current attempt, and of the rows of the run

## Main results

* `recordState_eq_ok`, `inventory_eq_ok`, `mem_resumableBookKeys` — what the calls leave and return
* `perform_runInv` — one transaction of the current attempt keeps the invariant of its run
-/

namespace Bookwarden

namespace CertificateA

variable {py : Runtime} {validate : Dict → Option EvidencePackageV2} {db db' : Db}
  {claim : CertificateAClaim}

/-! ### Stored packages -/

/-- The packages of one database are still stored in the other. -/
def PackagesGrow (db db' : Db) : Prop :=
  ∀ id row, db.packages.get? id = some row → db'.packages.get? id = some row

variable (py validate) in
/-- Every stored row was written for a sealed package that reads back. -/
def Stored (db : Db) : Prop :=
  ∀ id row, db.packages.get? id = some row → ∃ package, row = packageRow package ∧
    package.evidenceId = id ∧ validate package.dump = some package ∧ package.verifySeal py = true

theorem Effect.packagesGrow (h : Effect db claim db') : PackagesGrow db db' := by
  intro id row hrow
  rcases h.packages id with hp | ⟨hnone, -⟩
  · rw [hp]
    exact hrow
  · rw [hnone] at hrow
    cases hrow

theorem sealedPackage_mono (hgrow : PackagesGrow db db') {runId key id : String}
    {package : EvidencePackageV2} (h : sealedPackage py validate db runId key id = some package) :
    sealedPackage py validate db' runId key id = some package := by
  cases hrow : db.packages.get? id with
  | none => simp [sealedPackage, hrow] at h
  | some row =>
    rw [sealedPackage, hgrow id row hrow]
    rwa [sealedPackage, hrow] at h

theorem dump_ne_nil (package : EvidencePackageV2) : package.dump ≠ [] := by
  rw [EvidencePackageV2.dump, EvidencePackageV2.payload]
  exact List.cons_ne_nil _ _

/-- A row written for a sealed package is found as that package. -/
theorem sealedPackage_of_row {package : EvidencePackageV2} {runId key id : String}
    (hrow : db.packages.get? id = some (packageRow package)) (hid : package.evidenceId = id)
    (hread : validate package.dump = some package) (hseal : package.verifySeal py = true)
    (hrun : package.runId = runId) (hkey : package.bookKey = key) :
    sealedPackage py validate db runId key id = some package := by
  subst hid hrun hkey
  rw [sealedPackage, hrow]
  simp [packageRow, dump_ne_nil, hread, hseal]

theorem Backed.mono (hgrow : PackagesGrow db db') {runId key : String}
    (hsame : db'.results.get? (runId, key) = db.results.get? (runId, key))
    (h : Backed py validate db runId key) : Backed py validate db' runId key := by
  obtain ⟨row, id, package, hrow, hid, hstate, hpackage, heq⟩ := h
  exact ⟨row, id, package, hsame ▸ hrow, hid, hstate, sealedPackage_mono hgrow hpackage, heq⟩

/-! ### The results of a run -/

theorem mem_runResults {runId key : String} {row : VerificationResult} :
    (key, row) ∈ runResults db runId ↔ db.results.get? (runId, key) = some row := by
  rw [← Table.mem_rows_iff, runResults, List.mem_map]
  constructor
  · rintro ⟨⟨⟨runId', key'⟩, row'⟩, hmem, heq⟩
    obtain ⟨hmem, hrun⟩ := List.mem_filter.mp hmem
    have hrun' : runId' = runId := by simpa using hrun
    cases heq
    exact hrun' ▸ hmem
  · intro hmem
    exact ⟨((runId, key), row), List.mem_filter.mpr ⟨hmem, by simp⟩, rfl⟩

theorem mem_keys_runResults {runId key : String} :
    key ∈ (runResults db runId).map Prod.fst ↔ ∃ row, db.results.get? (runId, key) = some row := by
  rw [List.mem_map]
  constructor
  · rintro ⟨⟨key', row⟩, hmem, rfl⟩
    exact ⟨row, mem_runResults.mp hmem⟩
  · rintro ⟨row, hrow⟩
    exact ⟨(key, row), mem_runResults.mpr hrow, rfl⟩

/-- The rows of the run are the books of the inventory. -/
def Members (db : Db) (runId : String) (keys : List String) : Prop :=
  ∀ key, (∃ row, db.results.get? (runId, key) = some row) ↔ key ∈ keys

theorem get?_foldl_inventory {runId key : String} (keys : List String)
    (t : Table (String × String) VerificationResult) :
    (keys.foldl (fun t key => t.set (runId, key) {}) t).get? (runId, key)
      = if key ∈ keys then some {} else t.get? (runId, key) := by
  induction keys generalizing t with
  | nil => simp
  | cons key' keys ih =>
    rw [List.foldl_cons, ih, Table.get?_set]
    by_cases hmem : key ∈ keys
    · rw [if_pos hmem, if_pos (List.mem_cons_of_mem _ hmem)]
    · by_cases heq : key = key'
      · subst heq
        simp
      · simp [hmem, heq]

theorem runResults_eq_nil_iff {runId : String} :
    runResults db runId = [] ↔ ∀ key, db.results.get? (runId, key) = none := by
  constructor
  · intro hnil key
    rw [Option.eq_none_iff_forall_ne_some]
    intro row hrow
    have hmem := mem_runResults.mpr hrow
    rw [hnil] at hmem
    exact List.not_mem_nil hmem
  · intro hnone
    rw [List.eq_nil_iff_forall_not_mem]
    rintro ⟨key, row⟩ hmem
    rw [mem_runResults, hnone key] at hmem
    cases hmem

/-- A row of a frozen run is new, or it was there. -/
theorem get?_freezeMembers {runId key : String} {keys : List String} {row : VerificationResult}
    (h : (freezeMembers db runId keys).get? (runId, key) = some row) :
    row = {} ∨ db.results.get? (runId, key) = some row := by
  rw [freezeMembers] at h
  split at h
  · rw [get?_foldl_inventory] at h
    split at h
    · exact Or.inl (Option.some.inj h).symm
    · exact Or.inr h
  · exact Or.inr h

/-- With the check of `inventory`, the frozen rows are the books. -/
theorem members_freezeMembers {runId : String} {keys : List String}
    (h : (runResults db runId).map Prod.fst ≠ [] →
      (runResults db runId).map Prod.fst ⊆ keys ∧ keys ⊆ (runResults db runId).map Prod.fst)
    (key : String) :
    (∃ row, (freezeMembers db runId keys).get? (runId, key) = some row) ↔ key ∈ keys := by
  rw [freezeMembers]
  by_cases hnil : runResults db runId = []
  · rw [if_pos hnil, get?_foldl_inventory, runResults_eq_nil_iff.mp hnil key]
    by_cases hkey : key ∈ keys
    · simp [hkey]
    · simp [hkey]
  · have hsame := h (by simpa using hnil)
    rw [if_neg hnil, ← mem_keys_runResults]
    exact ⟨fun hk => hsame.1 hk, fun hk => hsame.2 hk⟩

/-- What a successful inventory leaves. -/
theorem inventory_eq_ok {keys : List String} {snapshot : Dict} {m₁ m₂ : Moment}
    (h : inventory db claim keys snapshot m₁ m₂ = .ok db') :
    (∃ run, db'.runs.get? claim.runId = some run ∧ run.status = .running) ∧
      db'.packages = db.packages ∧ db'.results = freezeMembers db claim.runId keys ∧
      Members db' claim.runId keys := by
  rw [inventory] at h
  split at h
  · cases h
  · cases hactive : activeRun db claim m₁ with
    | error e => simp [hactive] at h
    | ok run =>
      simp only [hactive] at h
      split at h
      · cases h
      · split at h
        · cases h
        · rename_i hmembers
          cases h
          refine ⟨⟨_, Table.get?_set_self _ _ _, rfl⟩, rfl, rfl, members_freezeMembers ?_⟩
          intro hsome
          by_contra hno
          exact hmembers ⟨hsome, hno⟩

/-- What a successful `record_state` changes. -/
theorem recordState_eq_ok {key : String} {state : BookAuditState} {m : Moment}
    (h : recordState db claim key state m = .ok db') :
    ∃ result, db.results.get? (claim.runId, key) = some result ∧
      db' = { db with results := db.results.set (claim.runId, key) { result with state } } := by
  rw [recordState] at h
  cases hactive : activeRun db claim m with
  | error e => simp [hactive] at h
  | ok run =>
    cases hresult : resultRow db claim.runId key with
    | error e => simp [hactive, hresult] at h
    | ok result =>
      simp only [hactive, hresult, Except.ok.injEq] at h
      exact ⟨result, resultRow_eq_ok_iff.mp hresult, h.symm⟩

/-- A resumed key has a row with a resumable state and a sealed package. -/
theorem mem_resumableBookKeys {m : Moment} {keys : List String}
    (h : resumableBookKeys py validate db claim m = .ok keys) {key : String} (hkey : key ∈ keys) :
    ∃ row id package, db.results.get? (claim.runId, key) = some row ∧ row.evidenceId = some id ∧
      row.state ∈ resumableStates ∧
      sealedPackage py validate db claim.runId key id = some package := by
  rw [resumableBookKeys] at h
  cases hactive : activeRun db claim m with
  | error e => simp [hactive] at h
  | ok run =>
    simp only [hactive, Except.ok.injEq] at h
    subst h
    obtain ⟨⟨key', row⟩, hmem, hsome⟩ := List.mem_filterMap.mp hkey
    have hrow := mem_runResults.mp hmem
    cases hid : row.evidenceId with
    | none => simp [hid] at hsome
    | some id =>
      simp only [hid] at hsome
      split at hsome
      · cases hsome
      · rename_i hcond
        obtain ⟨package, hpackage, heq⟩ := Option.map_eq_some_iff.mp hsome
        have hkey' : key' = key := heq
        subst hkey'
        exact ⟨row, id, package, hrow, hid, not_not.mp fun hno => hcond (Or.inr hno), hpackage⟩

/-! ### The invariant of one run -/

variable (py validate) in
/-- A package whose state was recorded without it. -/
structure PendingInv (db : Db) (runId : String) (package : EvidencePackageV2) : Prop where
  run : package.runId = runId
  terminal : package.state ∈ terminalBookStates
  reads : validate package.dump = some package
  row : ∃ row, db.results.get? (runId, package.bookKey) = some row ∧ row.state = package.state

variable (py validate) in
/-- What holds while the current attempt of a run stands in a phase: its books are the rows, and
those it is through with are backed, unless it met an error. -/
def PhaseInv (db : Db) (runId : String) : Phase → Prop
  | .claimed => True
  | .inventoried keys => Members db runId keys
  | .processing keys todo hasErrors => Members db runId keys ∧
      ∀ key ∈ keys, key ∉ todo → hasErrors = false → Backed py validate db runId key
  | .emitted keys todo hasErrors package => Members db runId keys ∧
      (∀ key ∈ keys, key ∉ todo → key ≠ package.bookKey → hasErrors = false →
        Backed py validate db runId key) ∧
      PendingInv validate db runId package ∧ (hasErrors = false → package.state ≠ .failed)
  | .raised none => True
  | .raised (some package) => PendingInv validate db runId package

variable (py validate) in
/-- The invariant of a run, given the phases its current attempt may be in. -/
structure RunInv (db : Db) (runId : String) (has : Phase → Prop) : Prop where
  /-- A row with evidence points to a sealed package, which has the state of the row if that is
  resumable and the row is not the one in hand. -/
  rows : ∀ key row id, db.results.get? (runId, key) = some row → row.evidenceId = some id →
    ∃ package, sealedPackage py validate db runId key id = some package ∧
      (row.state ∈ resumableStates → package.state = row.state ∨
        ∃ phase pending, has phase ∧ phase.pending = some pending ∧ pending.bookKey = key)
  phases : ∀ phase, has phase → PhaseInv py validate db runId phase
  /-- A completed run is finished, and its rows are backed. -/
  completed : ∀ run, db.runs.get? runId = some run → run.status = .completed →
    run.finishedAt ≠ none ∧ ∀ key row, db.results.get? (runId, key) = some row →
      Backed py validate db runId key

theorem PhaseInv.transport {runId : String} {phase : Phase}
    (h : PhaseInv py validate db runId phase)
    (hsame : ∀ key, db'.results.get? (runId, key) = db.results.get? (runId, key))
    (hgrow : PackagesGrow db db') :
    PhaseInv py validate db' runId phase := by
  have hmembers : ∀ keys, Members db runId keys → Members db' runId keys := by
    intro keys hk key
    rw [hsame key]
    exact hk key
  have hpending : ∀ package, PendingInv validate db runId package →
      PendingInv validate db' runId package := by
    intro package hp
    obtain ⟨row, hrow, hstate⟩ := hp.row
    exact ⟨hp.run, hp.terminal, hp.reads, row, (hsame _).trans hrow, hstate⟩
  cases phase with
  | claimed => trivial
  | inventoried keys => exact hmembers keys h
  | processing keys todo hasErrors =>
    exact ⟨hmembers keys h.1, fun key hk ht he => (h.2 key hk ht he).mono hgrow (hsame key)⟩
  | emitted keys todo hasErrors package =>
    exact ⟨hmembers keys h.1, fun key hk ht hne he => (h.2.1 key hk ht hne he).mono hgrow (hsame key),
      hpending package h.2.2.1, h.2.2.2⟩
  | raised package =>
    cases package with
    | none => trivial
    | some package => exact hpending package h

/-- A change that leaves the results of the run alone, only adds packages, and completes no run. -/
theorem RunInv.transport {runId : String} {has : Phase → Prop}
    (h : RunInv py validate db runId has)
    (hsame : ∀ key, db'.results.get? (runId, key) = db.results.get? (runId, key))
    (hgrow : PackagesGrow db db')
    (hrun : ∀ run, db'.runs.get? runId = some run → run.status = .completed →
      db.runs.get? runId = some run) : RunInv py validate db' runId has where
  rows key row id hrow hid := by
    obtain ⟨package, hpackage, hstate⟩ := h.rows key row id ((hsame key).symm.trans hrow) hid
    exact ⟨package, sealedPackage_mono hgrow hpackage, hstate⟩
  phases phase hp := (h.phases phase hp).transport hsame hgrow
  completed run hget hstatus := by
    obtain ⟨hfin, hrows⟩ := h.completed run (hrun run hget hstatus) hstatus
    exact ⟨hfin, fun key row hrow =>
      (hrows key row ((hsame key).symm.trans hrow)).mono hgrow (hsame key)⟩

/-- Moving to a phase that keeps what is pending. -/
theorem RunInv.rephase {runId : String} {phase phase' : Phase}
    (h : RunInv py validate db runId (· = phase))
    (hpending : ∀ package, phase.pending = some package → phase'.pending = some package)
    (hphase : PhaseInv py validate db runId phase') :
    RunInv py validate db runId (· = phase') where
  rows key row id hrow hid := by
    obtain ⟨package, hpackage, hstate⟩ := h.rows key row id hrow hid
    refine ⟨package, hpackage, fun hres => ?_⟩
    rcases hstate hres with heq | ⟨x, pending, rfl, hp, hkey⟩
    · exact Or.inl heq
    · exact Or.inr ⟨phase', pending, rfl, hpending pending hp, hkey⟩
  phases := by
    rintro x rfl
    exact hphase
  completed := h.completed

theorem RunInv.raise_none {runId : String} {phase : Phase}
    (h : RunInv py validate db runId (· = phase)) (hpending : phase.pending = none) :
    RunInv py validate db runId (· = .raised none) :=
  h.rephase (fun package hp => by rw [hpending] at hp; cases hp) trivial

/-- With nothing pending, a resumable row is backed by the package it points to. -/
theorem RunInv.backed_of_row {runId : String} {phase : Phase}
    (h : RunInv py validate db runId (· = phase)) (hpending : phase.pending = none) {key id : String}
    {row : VerificationResult} (hrow : db.results.get? (runId, key) = some row)
    (hid : row.evidenceId = some id) (hstate : row.state ∈ resumableStates) :
    Backed py validate db runId key := by
  obtain ⟨package, hpackage, hor⟩ := h.rows key row id hrow hid
  rcases hor hstate with heq | ⟨x, pending, rfl, hp, -⟩
  · exact ⟨row, id, package, hrow, hid, hstate, hpackage, heq⟩
  · rw [hpending] at hp
    cases hp

theorem packagesGrow_of_eq (h : db'.packages = db.packages) : PackagesGrow db db' := by
  intro id row hrow
  rw [h]
  exact hrow

theorem not_completed_of_owns {moment : Moment} {run : VerificationRun}
    (h : owns claim moment run = true) : run.status ≠ .completed := by
  simp only [owns, Bool.and_eq_true, decide_eq_true_eq] at h
  intro hstatus
  rw [hstatus] at h
  exact absurd h.1.2 (by decide)

/-! ### One transaction -/

theorem heartbeat_spec (db : Db) (claim : CertificateAClaim) (moment : Moment) (ttl : ℤ) :
    (heartbeat db claim moment ttl).1.results = db.results ∧
      (heartbeat db claim moment ttl).1.packages = db.packages ∧
      ∀ run, (heartbeat db claim moment ttl).1.runs.get? claim.runId = some run →
        run.status = .completed → db.runs.get? claim.runId = some run := by
  rw [heartbeat]
  cases hrun : db.runs.get? claim.runId with
  | none => exact ⟨rfl, rfl, fun run h _ => by rw [hrun] at h; cases h⟩
  | some run =>
    show (if owns claim moment run = true then _ else _ : Db × Bool).1.results = _ ∧
      (if owns claim moment run = true then _ else _ : Db × Bool).1.packages = _ ∧ _
    by_cases how : owns claim moment run = true
    · have hstatus := not_completed_of_owns how
      simp only [if_pos how]
      refine ⟨trivial, trivial, fun run' h hcompleted => ?_⟩
      rw [Table.get?_set_self] at h
      cases h
      exact absurd hcompleted hstatus
    · simp only [if_neg how]
      exact ⟨trivial, trivial, fun run' h _ => hrun ▸ h⟩

theorem runInv_heartbeat {has : Phase → Prop} (h : RunInv py validate db claim.runId has)
    (moment : Moment) (ttl : ℤ) :
    RunInv py validate (heartbeat db claim moment ttl).1 claim.runId has := by
  obtain ⟨hresults, hpackages, hrun⟩ := heartbeat_spec db claim moment ttl
  exact h.transport (fun key => by rw [hresults]) (packagesGrow_of_eq hpackages) hrun

theorem runInv_inventory (h : RunInv py validate db claim.runId (· = .claimed)) {keys : List String}
    {snapshot : Dict} {m₁ m₂ : Moment}
    (hok : inventory db claim keys snapshot m₁ m₂ = .ok db') :
    RunInv py validate db' claim.runId (· = .inventoried keys) := by
  obtain ⟨⟨run, hrun, hstatus⟩, hpackages, hresults, hmembers⟩ := inventory_eq_ok hok
  refine ⟨fun key row id hrow hid => ?_, ?_, fun run' hrun' hcompleted => ?_⟩
  · rw [hresults] at hrow
    rcases get?_freezeMembers hrow with rfl | hold
    · cases hid
    · obtain ⟨package, hpackage, hstate⟩ := h.rows key row id hold hid
      refine ⟨package, sealedPackage_mono (packagesGrow_of_eq hpackages) hpackage, fun hres => ?_⟩
      rcases hstate hres with heq | ⟨x, pending, rfl, hp, -⟩
      · exact Or.inl heq
      · cases hp
  · rintro x rfl
    exact hmembers
  · rw [hrun] at hrun'
    cases hrun'
    rw [hstatus] at hcompleted
    cases hcompleted

theorem runInv_resume {keys skip : List String} {m : Moment}
    (h : RunInv py validate db claim.runId (· = .inventoried keys))
    (hok : resumableBookKeys py validate db claim m = .ok skip) :
    RunInv py validate db claim.runId
      (· = .processing keys (keys.filter fun key => key ∉ skip) false) := by
  refine h.rephase (fun package hp => by cases hp) ⟨h.phases _ rfl, fun key hkey hdone _ => ?_⟩
  have hskip : key ∈ skip := by
    by_contra hno
    exact hdone (List.mem_filter.mpr ⟨hkey, by simpa using hno⟩)
  obtain ⟨row, id, package, hrow, hid, hstate, -⟩ := mem_resumableBookKeys hok hskip
  exact h.backed_of_row rfl hrow hid hstate

/-- Recording a state under an owned claim, on the first book of the list. -/
theorem runInv_recordState {keys todo : List String} {key : String} {hasErrors : Bool}
    {state : BookAuditState} {m : Moment} {phase' : Phase}
    (h : RunInv py validate db claim.runId (· = .processing keys (key :: todo) hasErrors))
    (hok : recordState db claim key state m = .ok db')
    (hpending : state ∈ resumableStates →
      ∃ package, phase'.pending = some package ∧ package.bookKey = key)
    (hphase : (∀ key' ∈ keys, key' ∉ todo → key' ≠ key → hasErrors = false →
        Backed py validate db' claim.runId key') → Members db' claim.runId keys →
      (∃ row, db'.results.get? (claim.runId, key) = some row ∧ row.state = state) →
      PhaseInv py validate db' claim.runId phase') :
    RunInv py validate db' claim.runId (· = phase') := by
  obtain ⟨run, moment, hrun, how⟩ := (effect_recordState hok).owned
  obtain ⟨result, hresult, rfl⟩ := recordState_eq_ok hok
  have hgrow : PackagesGrow db { db with
      results := db.results.set (claim.runId, key) { result with state } } :=
    packagesGrow_of_eq rfl
  have hother : ∀ key', key' ≠ key →
      (db.results.set (claim.runId, key) { result with state }).get? (claim.runId, key')
        = db.results.get? (claim.runId, key') := fun key' hne =>
    db.results.get?_set_of_ne _ fun heq => hne (congrArg Prod.snd heq)
  obtain ⟨hmembers, hbacked⟩ := h.phases _ rfl
  refine ⟨fun key' row id hrow hid => ?_, ?_, fun run' hrun' hcompleted => ?_⟩
  · by_cases hkey : key' = key
    · subst hkey
      rw [Table.get?_set_self] at hrow
      cases hrow
      obtain ⟨package, hpackage, -⟩ := h.rows key' result id hresult hid
      refine ⟨package, sealedPackage_mono hgrow hpackage, fun hres => Or.inr ?_⟩
      obtain ⟨pending, hp, hbook⟩ := hpending hres
      exact ⟨phase', pending, rfl, hp, hbook⟩
    · rw [hother key' hkey] at hrow
      obtain ⟨package, hpackage, hstate⟩ := h.rows key' row id hrow hid
      refine ⟨package, sealedPackage_mono hgrow hpackage, fun hres => Or.inl ?_⟩
      rcases hstate hres with heq | ⟨x, pending, rfl, hp, -⟩
      · exact heq
      · cases hp
  · rintro x rfl
    refine hphase (fun key' hkey' hdone hne he => ?_) (fun key' => ?_)
      ⟨_, Table.get?_set_self _ _ _, rfl⟩
    · refine (hbacked key' hkey' ?_ he).mono hgrow (hother key' hne)
      exact fun hmem => (List.mem_cons.mp hmem).elim hne hdone
    · by_cases hkey : key' = key
      · subst hkey
        exact ⟨fun _ => (hmembers key').mp ⟨result, hresult⟩,
          fun _ => ⟨_, Table.get?_set_self _ _ _⟩⟩
      · show (∃ row, Table.get? _ _ = some row) ↔ _
        rw [hother key' hkey]
        exact hmembers key'
  · rw [hrun] at hrun'
    cases hrun'
    exact absurd hcompleted (not_completed_of_owns how)

/-- The package a recorded row points to: the recorded one, or one that compares equal. -/
theorem sealedPackage_written (hstored : Stored py validate db) {package : EvidencePackageV2}
    (hread : validate package.dump = some package) (hseal : package.verifySeal py = true)
    (hsame : differs (db.packages.get? package.evidenceId) package = false)
    (result : VerificationResult) :
    ∃ stored, sealedPackage py validate (writePackage py db result package) package.runId
      package.bookKey package.evidenceId = some stored ∧ stored.state = package.state := by
  cases hrow : db.packages.get? package.evidenceId with
  | none =>
    have hnew : (writePackage py db result package).packages.get? package.evidenceId
        = some (packageRow package) := by
      rw [writePackage, hrow]
      exact Table.get?_set_self _ _ _
    exact ⟨package, sealedPackage_of_row hnew rfl hread hseal rfl rfl, rfl⟩
  | some row =>
    obtain ⟨old, rfl, hid, hread', hseal'⟩ := hstored _ _ hrow
    have heq : Json.pyEq (.obj old.dump) (.obj package.dump) = true := by
      simpa [hrow, differs, packageRow] using hsame
    obtain ⟨hrun, hbook, hstate⟩ := EvidencePackageV2.same_of_dump_pyEq heq
    have hold : (writePackage py db result package).packages.get? package.evidenceId
        = some (packageRow old) := by
      rw [writePackage, hrow]
      exact hrow
    exact ⟨old, sealedPackage_of_row hold hid hread' hseal' hrun hbook, hstate⟩

theorem stored_writePackage (hstored : Stored py validate db) {package : EvidencePackageV2}
    (hread : validate package.dump = some package) (hseal : package.verifySeal py = true)
    (result : VerificationResult) : Stored py validate (writePackage py db result package) := by
  intro id row hrow
  rcases get?_writePackage_packages py db result package id with hp | ⟨rfl, -, hp⟩
  · rw [hp] at hrow
    exact hstored id row hrow
  · rw [hp] at hrow
    cases hrow
    exact ⟨package, rfl, rfl, hread, hseal⟩

theorem mem_resumableStates {state : BookAuditState} :
    state ∈ resumableStates ↔
      state ∈ terminalBookStates ∧ state ≠ .failed ∧ state ≠ .sourceChanged := by
  rw [resumableStates, List.mem_filter, decide_eq_true_eq]

/-- Recording the pending package settles its row. -/
theorem runInv_recordPackage {keys todo : List String} {hasErrors : Bool}
    {package : EvidencePackageV2} {m₁ m₂ : Moment} (hstored : Stored py validate db)
    (h : RunInv py validate db claim.runId (· = .emitted keys todo hasErrors package))
    (hok : recordPackage py db claim package m₁ m₂ = .ok db') :
    Stored py validate db' ∧ RunInv py validate db' claim.runId
      (· = if package.state = .sourceChanged then .raised none
        else .processing keys todo hasErrors) := by
  obtain ⟨hmembers, hbacked, hpending, herror⟩ := h.phases _ rfl
  have hgrow := (effect_recordPackage hok).packagesGrow
  obtain ⟨hrunId, hseal, run, result, hrun, how, hresult, hsame, rfl⟩ := recordPackage_eq_ok hok
  obtain ⟨stored, hpackage, hstate⟩ := sealedPackage_written hstored hpending.reads hseal hsame result
  rw [hrunId] at hpackage
  have hself : (writePackage py db result package).results.get? (claim.runId, package.bookKey)
      = some { result with
          evidenceId := some package.evidenceId
          state := package.state
          verdict := packageVerdict package } := by
    rw [writePackage, hrunId]
    exact Table.get?_set_self _ _ _
  have hother : ∀ key, key ≠ package.bookKey →
      (writePackage py db result package).results.get? (claim.runId, key)
        = db.results.get? (claim.runId, key) := fun key hne =>
    Table.get?_set_of_ne _ _ fun heq => hne (congrArg Prod.snd heq)
  refine ⟨stored_writePackage hstored hpending.reads hseal result,
    ⟨fun key row id hrow hid => ?_, ?_, fun run' hrun' hcompleted => ?_⟩⟩
  · by_cases hkey : key = package.bookKey
    · subst hkey
      have hrow' := hself.symm.trans hrow
      cases hrow'
      cases hid
      exact ⟨stored, hpackage, fun _ => Or.inl hstate⟩
    · obtain ⟨old, hold, hor⟩ := h.rows key row id ((hother key hkey).symm.trans hrow) hid
      refine ⟨old, sealedPackage_mono hgrow hold, fun hres => Or.inl ?_⟩
      rcases hor hres with heq | ⟨x, pending, rfl, hp, hbook⟩
      · exact heq
      · cases hp
        exact absurd hbook.symm hkey
  · rintro x rfl
    split
    · trivial
    · rename_i hsource
      refine ⟨fun key => ?_, fun key hkey hdone he => ?_⟩
      · by_cases hbook : key = package.bookKey
        · subst hbook
          exact ⟨fun _ => (hmembers _).mp ⟨result, hresult⟩, fun _ => ⟨_, hself⟩⟩
        · show (∃ row, (writePackage py db result package).results.get? _ = some row) ↔ _
          rw [hother key hbook]
          exact hmembers key
      · by_cases hbook : key = package.bookKey
        · subst hbook
          have hres : package.state ∈ resumableStates :=
            mem_resumableStates.mpr ⟨hpending.terminal, herror he, hsource⟩
          exact ⟨_, package.evidenceId, stored, hself, rfl, hres, hpackage, hstate⟩
        · exact (hbacked key hkey hdone hbook he).mono hgrow (hother key hbook)
  · rw [Table.get?_set_self] at hrun'
    cases hrun'
    exact absurd hcompleted (not_completed_of_owns how)

/-- Finishing with another status than `completed` keeps the invariant. -/
theorem runInv_finish {has : Phase → Prop} {status : RunStatus} {code : Option String}
    {m₁ m₂ : Moment} (h : RunInv py validate db claim.runId has) (hstatus : status ≠ .completed)
    (hok : finish db claim status code m₁ m₂ = .ok db') :
    RunInv py validate db' claim.runId has := by
  obtain ⟨-, run, hrun, how, rfl⟩ := finish_eq_ok hok
  refine h.transport (fun _ => rfl) (packagesGrow_of_eq rfl) fun run' hrun' hcompleted => ?_
  rw [Table.get?_set_self] at hrun'
  cases hrun'
  exact absurd hcompleted hstatus

/-- Finishing after the last book without an error: every member is backed. -/
theorem runInv_complete {keys : List String} {code : Option String} {m₁ m₂ : Moment}
    (h : RunInv py validate db claim.runId (· = .processing keys [] false))
    (hok : finish db claim .completed code m₁ m₂ = .ok db') :
    RunInv py validate db' claim.runId (· = .processing keys [] false) := by
  obtain ⟨-, run, hrun, how, rfl⟩ := finish_eq_ok hok
  obtain ⟨hmembers, hbacked⟩ := h.phases _ rfl
  refine ⟨h.rows, fun x hx => (h.phases x hx).transport (fun _ => rfl) (packagesGrow_of_eq rfl),
    fun run' hrun' _ => ⟨?_, fun key row hrow => ?_⟩⟩
  · rw [Table.get?_set_self] at hrun'
    cases hrun'
    exact Option.some_ne_none m₂
  · have hkey := (hmembers key).mp ⟨row, hrow⟩
    exact (hbacked key hkey List.not_mem_nil rfl).mono (packagesGrow_of_eq rfl) rfl

/-- **One transaction.** An action of the current attempt keeps the invariant of its run. -/
theorem perform_runInv {phase : Phase} {action : Action} (hstored : Stored py validate db)
    (hread : ∀ package m, action = .conclude package m → validate package.dump = some package)
    (h : RunInv py validate db claim.runId (· = phase)) :
    Stored py validate (action.perform py validate db claim phase).1 ∧
      RunInv py validate (action.perform py validate db claim phase).1 claim.runId
        (· = (action.perform py validate db claim phase).2.1) := by
  cases action with
  | heartbeat m ttl =>
    refine ⟨fun id row hrow => hstored id row ?_, runInv_heartbeat h m ttl⟩
    rw [← (heartbeat_spec db claim m ttl).2.1]
    exact hrow
  | inventory keys snapshot m₁ m₂ =>
    cases phase with
    | claimed =>
      simp only [Action.perform]
      cases hok : inventory db claim keys snapshot m₁ m₂ with
      | error e => exact ⟨hstored, h.raise_none rfl⟩
      | ok db' =>
        refine ⟨fun id row hrow => hstored id row ?_, runInv_inventory h hok⟩
        rw [← (inventory_eq_ok hok).2.1]
        exact hrow
    | _ => exact ⟨hstored, h⟩
  | resume m =>
    cases phase with
    | inventoried keys =>
      simp only [Action.perform]
      cases hok : resumableBookKeys py validate db claim m with
      | error e => exact ⟨hstored, h.raise_none rfl⟩
      | ok skip => exact ⟨hstored, runInv_resume h hok⟩
    | _ => exact ⟨hstored, h⟩
  | emit state m =>
    cases phase with
    | processing keys books hasErrors =>
      cases books with
      | nil => exact ⟨hstored, h⟩
      | cons key todo =>
        simp only [Action.perform]
        split
        · exact ⟨hstored, h⟩
        · rename_i hopen
          cases hok : recordState db claim key state m with
          | error e => exact ⟨hstored, h⟩
          | ok db' =>
            obtain ⟨result, -, rfl⟩ := recordState_eq_ok hok
            refine ⟨hstored, runInv_recordState h hok (fun hres => ?_) fun hbacked hmembers _ => ?_⟩
            · exact absurd (mem_resumableStates.mp hres).1 hopen
            · refine ⟨hmembers, fun key' hkey' hdone he => ?_⟩
              exact hbacked key' hkey' (fun hmem => hdone (List.mem_cons_of_mem _ hmem))
                (fun heq => hdone (heq ▸ List.mem_cons_self)) he
    | _ => exact ⟨hstored, h⟩
  | conclude package m =>
    cases phase with
    | processing keys books hasErrors =>
      cases books with
      | nil => exact ⟨hstored, h⟩
      | cons key todo =>
        simp only [Action.perform]
        split
        · rename_i hbook
          obtain ⟨hrunId, rfl, hterminal⟩ := hbook
          cases hok : recordState db claim package.bookKey package.state m with
          | error e =>
            by_cases hfailed : package.state ∈ [.failed, .sourceChanged]
            · simp only [if_pos hfailed]
              exact ⟨hstored, h.raise_none rfl⟩
            · simp only [if_neg hfailed]
              exact ⟨hstored, h⟩
          | ok db' =>
            obtain ⟨result, hresult, heq⟩ := recordState_eq_ok hok
            refine ⟨?_, runInv_recordState h hok (fun _ => ⟨package, rfl, rfl⟩)
              fun hbacked hmembers hrow => ?_⟩
            · rw [heq]
              exact hstored
            · refine ⟨hmembers, fun key' hkey' hdone hne he => ?_,
                ⟨hrunId, hterminal, hread package m rfl, hrow⟩, fun he => ?_⟩
              · exact hbacked key' hkey' hdone hne (Bool.or_eq_false_iff.mp he).1
              · simpa using (Bool.or_eq_false_iff.mp he).2
        · exact ⟨hstored, h⟩
    | _ => exact ⟨hstored, h⟩
  | store m₁ m₂ =>
    cases phase with
    | emitted keys todo hasErrors package =>
      simp only [Action.perform]
      cases hok : recordPackage py db claim package m₁ m₂ with
      | error e =>
        exact ⟨hstored, h.rephase (fun _ hp => hp) (h.phases _ rfl).2.2.1⟩
      | ok db' =>
        obtain ⟨hstored', hinv⟩ := runInv_recordPackage hstored h hok
        by_cases hsource : package.state = .sourceChanged
        · simp only [if_pos hsource] at hinv ⊢
          exact ⟨hstored', hinv⟩
        · simp only [if_neg hsource] at hinv ⊢
          exact ⟨hstored', hinv⟩
    | _ => exact ⟨hstored, h⟩
  | complete m₁ m₂ =>
    cases phase with
    | processing keys books hasErrors =>
      cases books with
      | cons key todo => exact ⟨hstored, h⟩
      | nil =>
        simp only [Action.perform]
        cases hok : finish db claim (if hasErrors then .completedWithErrors else .completed) none
            m₁ m₂ with
        | error e => exact ⟨hstored, h.raise_none rfl⟩
        | ok db' =>
          refine ⟨?_, ?_⟩
          · obtain ⟨-, run, -, -, rfl⟩ := finish_eq_ok hok
            exact hstored
          · cases hasErrors with
            | false => exact runInv_complete h hok
            | true => exact runInv_finish h (by decide) hok
    | _ => exact ⟨hstored, h⟩
  | abandon status code m₁ m₂ =>
    simp only [Action.perform]
    split
    · rename_i habandon
      cases hok : finish db claim status code m₁ m₂ with
      | error e => exact ⟨hstored, h⟩
      | ok db' =>
        refine ⟨?_, runInv_finish h ?_ hok⟩
        · obtain ⟨-, run, -, -, rfl⟩ := finish_eq_ok hok
          exact hstored
        · rintro rfl
          exact absurd habandon (by decide)
    · exact ⟨hstored, h⟩
  | crash => exact ⟨hstored, h⟩

end CertificateA

end Bookwarden
