import Bookwarden.Ledger.System

/-!
# What one commit of the writer does to the ledger

Every commit settles an operation, moves it within the states of a write, or sends it back to the
queue; seen as jobs under locks each is one move of the work queue, or none.

## Main definitions

* `landing`, `Verdict.Settles` — a path of allowed transitions that ends where the verdict says
* `Settled` — the database after a verdict
* `Control.Fits` — the operation at work is in the state its part of the call expects
* `Outcome.Lawful` — moves of the queue, allowed transitions, and a writer that fits

## Main results

* `settle_spec`, `Settled.step`, `conclude_lawful`
-/

namespace Bookwarden

namespace Ledger

open WorkQueue (Consistent Moves Stage Delivery unhold)

/-! ### Frames -/

@[simp] theorem setBookStatus_operations (db : Db) (bookKey status : String) :
    (db.setBookStatus bookKey status).operations = db.operations := by
  unfold Db.setBookStatus
  split <;> rfl

@[simp] theorem setBookStatus_outbox (db : Db) (bookKey status : String) :
    (db.setBookStatus bookKey status).outbox = db.outbox := by
  unfold Db.setBookStatus
  split <;> rfl

@[simp] theorem setBookStatus_locks (db : Db) (bookKey status : String) :
    (db.setBookStatus bookKey status).locks = db.locks := by
  unfold Db.setBookStatus
  split <;> rfl

@[simp] theorem setBookStatus_pilots (db : Db) (bookKey status : String) :
    (db.setBookStatus bookKey status).pilots = db.pilots := by
  unfold Db.setBookStatus
  split <;> rfl

@[simp] theorem setBookStatus_changes (db : Db) (bookKey status : String) :
    (db.setBookStatus bookKey status).changes = db.changes := by
  unfold Db.setBookStatus
  split <;> rfl

@[simp] theorem setChangeStatus_operations (db : Db) (changeId : ℕ) (status : ChangeStatus) :
    (db.setChangeStatus changeId status).operations = db.operations := by
  unfold Db.setChangeStatus
  split <;> rfl

@[simp] theorem setChangeStatus_outbox (db : Db) (changeId : ℕ) (status : ChangeStatus) :
    (db.setChangeStatus changeId status).outbox = db.outbox := by
  unfold Db.setChangeStatus
  split <;> rfl

@[simp] theorem setChangeStatus_locks (db : Db) (changeId : ℕ) (status : ChangeStatus) :
    (db.setChangeStatus changeId status).locks = db.locks := by
  unfold Db.setChangeStatus
  split <;> rfl

@[simp] theorem setChangeStatus_pilots (db : Db) (changeId : ℕ) (status : ChangeStatus) :
    (db.setChangeStatus changeId status).pilots = db.pilots := by
  unfold Db.setChangeStatus
  split <;> rfl

/-- The queue is a view of three tables. -/
theorem queue_congr {db db' : Db} (hops : db'.operations = db.operations)
    (hout : db'.outbox = db.outbox) (hlocks : db'.locks = db.locks) : db'.queue = db.queue := by
  rw [Db.queue, Db.queue, hops, hout, hlocks]

/-! ### Paths of transitions -/

/-- The state a path leads to, if every transition of it is allowed. -/
def landing : OperationState → List OperationState → Option OperationState
  | state, [] => some state
  | state, s :: rest => if s ∈ allowedTransitions state then landing s rest else none

theorem landing_append (state : OperationState) (p q : List OperationState) :
    landing state (p ++ q) = (landing state p).bind fun s => landing s q := by
  induction p generalizing state with
  | nil => rfl
  | cons s rest ih =>
    rw [List.cons_append, landing, landing, ih]
    split <;> rfl

theorem attempts_allowed {state final : OperationState} {path : List OperationState}
    (h : landing state path = some final) :
    ∀ t ∈ attempts state path, t.2 ∈ allowedTransitions t.1 := by
  induction path generalizing state with
  | nil => exact fun t ht => absurd ht (List.not_mem_nil)
  | cons s rest ih =>
    rw [landing] at h
    split at h
    · rename_i hs
      intro t ht
      rcases List.mem_cons.mp ht with rfl | ht
      · exact hs
      · exact ih h t ht
    · cases h

/-- A row after transitions: only its state, error and completion mark differ. -/
def OperationLedger.MovedTo (op : OperationLedger) (final : OperationState)
    (op' : OperationLedger) : Prop :=
  ∃ error completed, op' = { op with state := final, error, completed }

theorem transitionOperation_spec {op : OperationLedger} {new : OperationState}
    (h : new ∈ allowedTransitions op.state) (error : Option String) :
    ∃ op', transitionOperation op new error = .ok op' ∧ op.MovedTo new op' :=
  ⟨_, if_pos h, _, _, rfl⟩

theorem OperationLedger.MovedTo.trans {op op' op'' : OperationLedger} {s final : OperationState}
    (h : op.MovedTo s op') (h' : op'.MovedTo final op'') : op.MovedTo final op'' := by
  obtain ⟨error, completed, rfl⟩ := h
  obtain ⟨error', completed', rfl⟩ := h'
  exact ⟨error', completed', rfl⟩

theorem walk_spec {op : OperationLedger} {path : List OperationState} {final : OperationState}
    (h : landing op.state path = some final) (error : Option String) :
    ∃ op', op.walk error path = .ok op' ∧ op.MovedTo final op' := by
  induction path generalizing op with
  | nil =>
    cases h
    exact ⟨op, rfl, op.error, op.completed, rfl⟩
  | cons s rest ih =>
    rw [landing] at h
    split at h
    · rename_i hs
      cases rest with
      | nil =>
        cases h
        exact transitionOperation_spec hs error
      | cons s' rest =>
        obtain ⟨op₁, hop₁, hmoved⟩ := transitionOperation_spec hs none
        have hstate : op₁.state = s := by
          obtain ⟨e, c, rfl⟩ := hmoved
          rfl
        rw [← hstate] at h
        obtain ⟨op₂, hop₂, hmoved₂⟩ := ih h
        refine ⟨op₂, ?_, hmoved.trans hmoved₂⟩
        rw [OperationLedger.walk, hop₁]
        · exact hop₂
        · exact fun hnil => by cases hnil
    · cases h

theorem OperationLedger.MovedTo.of_walk {op op' : OperationLedger} {error : Option String}
    {path : List OperationState} {final : OperationState} (hw : op.walk error path = .ok op')
    (h : landing op.state path = some final) : op.MovedTo final op' := by
  obtain ⟨op'', hw', hmoved⟩ := walk_spec h error
  rw [hw] at hw'
  cases hw'
  exact hmoved

/-- The verdict takes an operation from this state to where its event says. -/
def Verdict.Settles (v : Verdict) (state : OperationState) : Prop :=
  ∃ final, landing state v.path = some final ∧ final.stage = .settled v.published

/-! ### Settling -/

/-- The jobs after writing one row. -/
theorem job_set (db : Db) {db' : Db} {id : String} (op : OperationLedger)
    (hops : db'.operations = db.operations.set id op) :
    db'.queue.job = Function.update db.queue.job id (some (op.bookKey, op.state.stage)) := by
  funext j
  show (db'.operations.get? j).map _ = _
  rw [hops, Table.get?_set]
  by_cases hj : j = id
  · rw [if_pos hj, hj, Function.update_self, Option.map_some]
  · rw [if_neg hj, Function.update_of_ne hj]
    rfl

/-- The records after writing one event. -/
theorem delivery_set (db : Db) {db' : Db} {id : String} (event : OutboxEvent)
    (hout : db'.outbox = db.outbox.set id event) :
    db'.queue.delivery = Function.update db.queue.delivery id (some event.status) := by
  funext j
  show (db'.outbox.get? j).map _ = _
  rw [hout, Table.get?_set]
  by_cases hj : j = id
  · rw [if_pos hj, hj, Function.update_self, Option.map_some]
  · rw [if_neg hj, Function.update_of_ne hj]
    rfl

/-- The queue after writing a row, its event and the locks. -/
theorem queue_put (db db' : Db) {id : String} {op : OperationLedger} {event : OutboxEvent}
    {holder : String → Option String} (hops : db'.operations = db.operations.set id op)
    (hout : db'.outbox = db.outbox.set id event)
    (hdel : event.status = op.state.stage.delivery) (hholder : db'.queue.holder = holder) :
    db'.queue = { db.queue.put id op.bookKey op.state.stage with holder } := by
  calc db'.queue = ⟨db'.queue.job, db'.queue.delivery, db'.queue.holder⟩ := rfl
    _ = _ := by rw [job_set db op hops, delivery_set db event hout, hdel, hholder]; rfl

theorem holder_set (locks : Table String BookWriteLock) (bookKey : String) (lock : BookWriteLock) :
    (fun b => ((locks.set bookKey lock).get? b).map (·.operationId))
      = Function.update (fun b => (locks.get? b).map (·.operationId)) bookKey
          (some lock.operationId) := by
  funext b
  rw [Table.get?_set]
  by_cases hb : b = bookKey
  · rw [if_pos hb, hb, Function.update_self, Option.map_some]
  · rw [if_neg hb, Function.update_of_ne hb]

theorem holder_releaseLock (locks : Table String BookWriteLock) (bookKey id : String) :
    (fun b => ((releaseLock locks bookKey id).get? b).map (·.operationId))
      = unhold (fun b => (locks.get? b).map (·.operationId)) bookKey id := by
  funext b
  rw [releaseLock, unhold]
  cases hlock : locks.get? bookKey with
  | none => simp
  | some lock =>
    simp only [Option.map_some, Option.some.injEq]
    by_cases hid : lock.operationId = id
    · rw [if_pos hid, if_pos hid, Table.get?_erase]
      by_cases hb : b = bookKey
      · rw [if_pos hb, hb, Function.update_self]
        rfl
      · rw [if_neg hb, Function.update_of_ne hb]
    · rw [if_neg hid, if_neg hid]

/-- The database after a verdict about an operation. -/
structure Settled (db : Db) (id : String) (op : OperationLedger) (v : Verdict) (db' : Db)
    (op' : OperationLedger) : Prop where
  landed : ∃ final, landing op.state v.path = some final ∧ op.MovedTo final op'
  operations : db'.operations = db.operations.set id op'
  outbox : ∃ event, db'.outbox = db.outbox.set id event ∧ event.status = v.delivery
  locks : db'.locks = releaseLock db.locks op.bookKey id
  pilots : db'.pilots = db.pilots
  changes : db'.changes = match v.change with
    | some (changeId, status) => (db.setChangeStatus changeId status).changes
    | none => db.changes

theorem finishOutbox_spec {db : Db} {id : String} {event : OutboxEvent} {op : OperationLedger}
    (hev : db.outbox.get? id = some event) (hop : db.operations.get? id = some op)
    (status : Delivery) (error : Option String) :
    finishOutbox db id status error = .ok { db with
      outbox := db.outbox.set id { event with status, lastError := error }
      locks := releaseLock db.locks op.bookKey id } := by
  rw [finishOutbox, hev, hop]

theorem settle_spec {db : Db} {id : String} {event : OutboxEvent} {op : OperationLedger}
    {v : Verdict} {state : OperationState} (hev : db.outbox.get? id = some event)
    (hstate : op.state = state) (hv : v.Settles state) (bookKey : String) :
    ∃ db' op', settle db id op bookKey v = .ok db' ∧ Settled db id op v db' op' := by
  obtain ⟨final, hland, hstage⟩ := hv
  rw [← hstate] at hland
  obtain ⟨op', hwalk, hmoved⟩ := walk_spec hland v.error
  have hbook : op'.bookKey = op.bookKey := by
    obtain ⟨e, c, rfl⟩ := hmoved
    rfl
  let db₁ : Db := { db with operations := db.operations.set id op' }
  have hop₁ : db₁.operations.get? id = some op' := Table.get?_set_self _ _ _
  have hev₁ : db₁.outbox.get? id = some event := hev
  have hfin := finishOutbox_spec hev₁ hop₁ v.delivery v.eventError
  rw [settle, hwalk]
  simp only [db₁] at hfin
  simp only [hfin]
  refine ⟨_, op', rfl, ⟨final, hland, hmoved⟩, ?_,
    ⟨{ event with status := v.delivery, lastError := v.eventError }, ?_, rfl⟩, ?_, ?_, ?_⟩
  · cases v.change <;> simp
  · cases v.change <;> simp
  · cases v.change <;> simp [hbook]
  · cases v.change <;> simp
  · cases v.change with
    | none => simp
    | some c =>
      simp only [Db.setChangeStatus, setBookStatus_changes]
      split <;> simp

theorem Settled.job {db db' : Db} {id : String} {op op' : OperationLedger} {v : Verdict}
    (h : Settled db id op v db' op') (hv : v.Settles op.state) :
    op'.bookKey = op.bookKey ∧ op'.state.stage = .settled v.published := by
  obtain ⟨final, hland, hstage⟩ := hv
  obtain ⟨final', hland', e, c, rfl⟩ := h.landed
  rw [hland] at hland'
  cases hland'
  exact ⟨rfl, hstage⟩

/-- **A verdict is one move.** -/
theorem Settled.step {db db' : Db} {id : String} {op₀ op op' : OperationLedger} {v : Verdict}
    (h : Settled db id op v db' op') (hop : db.operations.get? id = some op₀)
    (hwork : op₀.state.stage = .working) (hbook : op.bookKey = op₀.bookKey)
    (hv : v.Settles op.state) :
    WorkQueue.Step db.queue db'.queue := by
  obtain ⟨hbook', hstage⟩ := h.job hv
  have hjob : db.queue.job id = some (op.bookKey, .working) := by
    show (db.operations.get? id).map _ = _
    rw [hop, Option.map_some, hbook, hwork]
  obtain ⟨event, hout, hdel⟩ := h.outbox
  have hdel' : event.status = op'.state.stage.delivery := by
    rw [hdel, hstage, Verdict.delivery]
    cases v.published <;> rfl
  have hholder : db'.queue.holder = unhold db.queue.holder op.bookKey id := by
    show (fun b => (db'.locks.get? b).map _) = _
    rw [h.locks]
    exact holder_releaseLock db.locks op.bookKey id
  have hq := queue_put db db' h.operations hout hdel' hholder
  rw [hbook', hstage] at hq
  rw [hq]
  exact .settle id op.bookKey v.published hjob

/-! ### Moves that do not settle -/

/-- A row that keeps its book and its stage is no move. -/
theorem queue_set_same {db db' : Db} {id : String} {op op' : OperationLedger}
    (hop : db.operations.get? id = some op) (hops : db'.operations = db.operations.set id op')
    (hbook : op'.bookKey = op.bookKey) (hstage : op'.state.stage = op.state.stage)
    (hout : db'.outbox = db.outbox) (hlocks : db'.locks = db.locks) : db'.queue = db.queue := by
  have hjob : db'.queue.job = db.queue.job := by
    rw [job_set db op' hops, hbook, hstage]
    refine Function.update_eq_self_iff.mpr ?_
    show _ = (db.operations.get? id).map _
    rw [hop, Option.map_some]
  calc db'.queue = ⟨db'.queue.job, db'.queue.delivery, db'.queue.holder⟩ := rfl
    _ = ⟨db.queue.job, db.queue.delivery, db.queue.holder⟩ := by
      rw [hjob, Db.queue, Db.queue, hout, hlocks]

end Ledger

end Bookwarden
