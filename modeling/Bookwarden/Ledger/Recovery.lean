import Bookwarden.Ledger.Consistency

/-!
# What a restart leaves

`reconcile_incomplete_operations` always returns, whatever the readings and restores answer, and
afterwards nothing is in flight but claimed operations whose lease was still active when the loop
looked at them. The lease guard is what keeps those, with their locks.

## Main definitions

* `Leased` — claimed, with an active lease
* `Reconciled` — what one pass, or the whole loop, leaves of an operation

## Main results

* `reconcileOperation_spec`, `reconcileLoop_spec`
* `leased_survives` — a claimed operation and its lock survive a restart within the lease
* `reconciliation_complete`
-/

namespace Bookwarden

namespace Ledger

open WorkQueue (Consistent Moves Stage Delivery)

variable {py : Runtime} {validate : Dict → Option EvidencePackageV2}

/-- The operation is claimed, and its lease is active. -/
def Leased (now : Moment) (op : OperationLedger) : Prop :=
  op.state = .claimed ∧ leaseActive now op = true

/-- The operation is left alone because of its lease, or is not in flight any more. -/
def Reconciled (db' : Db) (id : String) (op : OperationLedger) (now : Moment) : Prop :=
  (Leased now op ∧ db'.operations.get? id = some op) ∨
    ∃ op', db'.operations.get? id = some op' ∧ op'.state ∉ inflightStates

theorem not_inflight_of_settled {state : OperationState} {ok : Bool}
    (h : state.stage = .settled ok) : state ∉ inflightStates := by
  cases state <;> cases h <;> decide

/-- What one pass leaves: the loop goes on, no other operation is touched, and this one is
reconciled. -/
structure Passed (db : Db) (id : String) (op : OperationLedger) (rest : List String) (now : Moment)
    (o : Outcome) : Prop where
  control : o.control = .reconciling rest
  tables : Consistent o.db.queue
  others : ∀ j, j ≠ id → o.db.operations.get? j = db.operations.get? j
  done : Reconciled o.db id op now

/-- **One pass.** -/
theorem reconcileOperation_spec {db : Db} {id : String} {op : OperationLedger}
    (hc : Consistent db.queue) (hop : db.operations.get? id = some op)
    (hin : op.state ∈ inflightStates) (config : WriterConfig) (rest : List String)
    (r : ReconcileReply) :
    Passed db id op rest r.now (reconcileOperation py validate config db id rest r) := by
  simp only [reconcileOperation, hop]
  split
  · rename_i hclaimed
    split
    · rename_i hlease
      exact ⟨rfl, hc, fun _ _ => rfl, .inl ⟨⟨hclaimed, hlease⟩, hop⟩⟩
    · obtain ⟨db', op', hrequeue, hstep, hops, -, hstate, -⟩ := requeue_spec hc hop hclaimed
      rw [hrequeue]
      refine ⟨rfl, hstep.consistent hc, fun j hj => ?_, .inr ⟨op', ?_, ?_⟩⟩
      · rw [hops, Table.get?_set_of_ne _ _ hj]
      · rw [hops, Table.get?_set_self]
      · rw [hstate]
        decide
  · rename_i hclaimed
    have hinterrupted : Interrupted op.state := by
      simp only [inflightStates, List.mem_cons, List.not_mem_nil, or_false] at hin
      exact hin.resolve_left hclaimed
    have hwork : op.state.stage = .working := by
      rcases hinterrupted with h | h | h <;> rw [h] <;> rfl
    have hd : (reconcileDecision py validate config db id op r).Sound op :=
      reconcileDecision_sound hinterrupted config id r
    obtain ⟨db', op', hconclude, hs⟩ := conclude_spec hc hop hd.state hd.settles op.bookKey
      (.reconciling rest) (fun _ => .stopped)
      (reconcileDecision py validate config db id op r).last
      (reconcileDecision py validate config db id op r).issued
    rw [hconclude]
    have hv := hd.settles
    rw [← hd.state] at hv
    refine ⟨rfl, (hs.step hop hwork hd.keeps.bookKey hv).consistent hc, fun j hj => ?_,
      .inr ⟨op', ?_, not_inflight_of_settled (hs.job hv).2⟩⟩
    · rw [hs.operations, Table.get?_set_of_ne _ _ hj]
    · rw [hs.operations, Table.get?_set_self]

/-- **The loop.** It returns, and reconciles every operation on its list. -/
theorem reconcileLoop_spec {db : Db} (hc : Consistent db.queue) (config : WriterConfig)
    (replies : String → ReconcileReply) {todo : List String} (hnodup : todo.Nodup)
    (hin : ∀ id ∈ todo, ∃ state ∈ inflightStates, db.stateOf id = some state) :
    ∃ db', reconcileLoop py validate config replies db todo = some db' ∧ Consistent db'.queue ∧
      (∀ j, j ∉ todo → db'.operations.get? j = db.operations.get? j) ∧
      ∀ id ∈ todo, ∃ op, db.operations.get? id = some op ∧
        Reconciled db' id op (replies id).now := by
  induction todo generalizing db with
  | nil => exact ⟨db, rfl, hc, fun _ _ => rfl, fun _ hid => absurd hid List.not_mem_nil⟩
  | cons id rest ih =>
    obtain ⟨hnot, hnodup'⟩ := List.nodup_cons.mp hnodup
    obtain ⟨state, hstate, hs⟩ := hin id List.mem_cons_self
    obtain ⟨op, hop, rfl⟩ := get?_of_stateOf hs
    let o := reconcileOperation py validate config db id rest (replies id)
    have hp : Passed db id op rest (replies id).now o :=
      reconcileOperation_spec hc hop hstate config rest (replies id)
    have hin₁ : ∀ j ∈ rest, ∃ state ∈ inflightStates, o.db.stateOf j = some state := by
      intro j hj
      have hne : j ≠ id := fun heq => hnot (heq ▸ hj)
      rw [Db.stateOf, hp.others j hne]
      exact hin j (List.mem_cons_of_mem _ hj)
    obtain ⟨db', hloop, hc', hkept, hall⟩ := ih hp.tables hnodup' hin₁
    have hcontrol : (reconcileOperation py validate config db id rest (replies id)).control
        = .reconciling rest := hp.control
    refine ⟨db', ?_, hc', fun j hj => ?_, fun j hj => ?_⟩
    · simp only [reconcileLoop, hcontrol]
      exact hloop
    · rw [List.mem_cons, not_or] at hj
      rw [hkept j hj.2, hp.others j hj.1]
    · rcases List.mem_cons.mp hj with rfl | hj
      · refine ⟨op, hop, ?_⟩
        rw [Reconciled, hkept j hnot]
        exact hp.done
      · have hne : j ≠ id := fun heq => hnot (heq ▸ hj)
        obtain ⟨opj, hopj, hdonej⟩ := hall j hj
        rw [hp.others j hne] at hopj
        exact ⟨opj, hopj, hdonej⟩

/-- The loop has nothing to do for leased operations. -/
theorem reconcileLoop_leased {db : Db} (config : WriterConfig)
    (replies : String → ReconcileReply) {todo : List String}
    (h : ∀ id ∈ todo, ∃ op, db.operations.get? id = some op ∧ Leased (replies id).now op) :
    reconcileLoop py validate config replies db todo = some db := by
  induction todo with
  | nil => rfl
  | cons id rest ih =>
    obtain ⟨op, hop, hclaimed, hlease⟩ := h id List.mem_cons_self
    have hpass : reconcileOperation py validate config db id rest (replies id)
        = { db, control := .reconciling rest } := by
      rw [reconcileOperation, hop]
      simp only [hclaimed, if_true, hlease]
    simp only [reconcileLoop, hpass]
    exact ih fun j hj => h j (List.mem_cons_of_mem _ hj)

/-- A lock belongs to an operation in flight for its book. -/
theorem exists_inflight_of_lock {db : Db} (hc : Consistent db.queue) {bookKey : String}
    {lock : BookWriteLock} (hlock : db.locks.get? bookKey = some lock) :
    ∃ op, db.operations.get? lock.operationId = some op ∧ op.bookKey = bookKey ∧
      op.state ∈ inflightStates := by
  have hheld : db.queue.holder bookKey = some lock.operationId := by
    show (db.locks.get? bookKey).map _ = _
    rw [hlock, Option.map_some]
  have hjob := (hc.locked lock.operationId bookKey).mpr hheld
  change (db.operations.get? lock.operationId).map _ = _ at hjob
  obtain ⟨op, hop, heq⟩ := Option.map_eq_some_iff.mp hjob
  obtain ⟨hbook, hstage⟩ := Prod.mk.inj heq
  refine ⟨op, hop, hbook, ?_⟩
  cases hs : op.state <;> rw [hs] at hstage <;> first | decide | cases hstage

/-! ### A restart within the lease -/

/-- An approved request for one book. -/
def leasedRequest : ApprovedRequest where
  operationId := "op-1"
  bookKey := "calibre:1"
  runId := "run-1"
  patch := [("title", .str "Exact Book")]
  patchHash := "patch"
  authorizationId := none
  calibreBookId := some 1
  verdictHash := "verdict"
  fieldLocksHash := "locks"
  expectedBefore := []

/-- A writer that is not bound to a pilot. -/
def leasedConfig : WriterConfig := ⟨none, some "/library", some "/artifacts", "head"⟩

/-- Answers at a moment; nothing is read. -/
def answersAt (now : Moment) : ReconcileReply where
  now
  read := .error noRow
  restore := { read := .error noRow }

/-- The writer claims the operation for a minute, and dies. -/
def leasedEvents : List Event :=
  [.queueApproved [leasedRequest], .start leasedConfig, .reconcile (answersAt 0),
    .claim "writer" (seconds 60), .crash]

/-- **Kept by its lease.** A second after the claim, the restarted writer leaves the operation
claimed and its lock in place. -/
theorem leased_survives :
    ∃ db', reconcileIncompleteOperations .ascii (fun _ => none) leasedConfig
        (Runs.run (exec .ascii fun _ => none) State.initial leasedEvents).db
        (fun _ => answersAt (seconds 1)) = some db' ∧
      db'.stateOf "op-1" = some .claimed ∧
      (db'.locks.get? "calibre:1").map (·.operationId) = some "op-1" :=
  ⟨_, rfl, by decide, by decide⟩

/-- **Reconciliation at a restart.** From every reachable state and for every answer it returns.
Nothing is in flight afterwards but claimed operations whose lease was active when they were looked
at; those are as they were, and every other interrupted operation is queued or terminal with the
event that goes with it. Every lock belongs to a leased operation, and a call made while the leases
are active changes nothing. -/
theorem reconciliation_complete (py : Runtime) (validate : Dict → Option EvidencePackageV2)
    (es : List Event) (config : WriterConfig) (replies : String → ReconcileReply) :
    ∃ db', reconcileIncompleteOperations py validate config
        (Runs.run (exec py validate) State.initial es).db replies = some db' ∧
      (∀ id op, db'.operations.get? id = some op → op.state ∈ inflightStates →
        Leased (replies id).now op ∧
          (Runs.run (exec py validate) State.initial es).db.operations.get? id = some op) ∧
      (∀ id op, (Runs.run (exec py validate) State.initial es).db.operations.get? id = some op →
        op.state ∈ inflightStates → ¬ Leased (replies id).now op →
        ∃ op', db'.operations.get? id = some op' ∧ Follows db' id op' ∧
          (op'.state = .requested ∨ op'.state ∉ nonterminalStates)) ∧
      (∀ bookKey lock, db'.locks.get? bookKey = some lock →
        ∃ op, db'.operations.get? lock.operationId = some op ∧ op.bookKey = bookKey ∧
          Leased (replies lock.operationId).now op) ∧
      (∀ config' replies',
        (∀ id op, db'.operations.get? id = some op → op.state = .claimed →
          Leased (replies' id).now op) →
        reconcileIncompleteOperations py validate config' db' replies' = some db') := by
  have hrun : LawfulStep State.initial (Runs.run (exec py validate) State.initial es) :=
    run_lawful initial_lawful es
  generalize hdb : (Runs.run (exec py validate) State.initial es).db = db at *
  have hc : Consistent db.queue := hdb ▸ hrun.1.tables
  have htodo := start_fits db
  obtain ⟨db', hloop, hc', hkept, hall⟩ :
      ∃ db', reconcileLoop py validate config replies db (incompleteOperations db) = some db' ∧ _ :=
    reconcileLoop_spec hc config replies htodo.1 htodo.2
  have hleft : ∀ id op, db'.operations.get? id = some op → op.state ∈ inflightStates →
      Leased (replies id).now op ∧ db.operations.get? id = some op := by
    intro id op hop hin
    by_cases hmem : id ∈ incompleteOperations db
    · obtain ⟨op₀, hop₀, hleased | ⟨op', hop', hnot⟩⟩ := hall id hmem
      · rw [hleased.2] at hop
        cases hop
        exact ⟨hleased.1, hop₀⟩
      · rw [hop'] at hop
        cases hop
        exact absurd hin hnot
    · rw [hkept id hmem] at hop
      exact absurd (mem_incompleteOperations.mpr ⟨op.state, hin, stateOf_of_get? hop⟩) hmem
  refine ⟨db', hloop, hleft, ?_, ?_, ?_⟩
  · intro id op hop hin hunleased
    have hmem := mem_incompleteOperations.mpr ⟨op.state, hin, stateOf_of_get? hop⟩
    obtain ⟨op₀, hop₀, hdone⟩ := hall id hmem
    rw [hop] at hop₀
    cases hop₀
    rcases hdone with hleased | ⟨op', hop', hnot⟩
    · exact absurd hleased.1 hunleased
    · refine ⟨op', hop', follows_of_consistent hc' hop', ?_⟩
      by_cases hreq : op'.state = .requested
      · exact .inl hreq
      · exact .inr fun hmem => (List.mem_cons.mp hmem).elim hreq hnot
  · intro bookKey lock hlock
    obtain ⟨op, hop, hbook, hin⟩ := exists_inflight_of_lock hc' hlock
    exact ⟨op, hop, hbook, (hleft _ op hop hin).1⟩
  · intro config' replies' hactive
    refine reconcileLoop_leased config' replies' fun id hid => ?_
    obtain ⟨state, hin, hs⟩ := mem_incompleteOperations.mp hid
    obtain ⟨op, hop, rfl⟩ := get?_of_stateOf hs
    exact ⟨op, hop, hactive id op hop (hleft id op hop hin).1.1⟩

end Ledger

end Bookwarden
