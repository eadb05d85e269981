import Bookwarden.Ledger.Parts

/-!
# Queueing and claiming

What the transactions of the web process and a claim do to the ledger. Only a new operation is
added, and `queueV2_spec` says everything a reservation has checked.

## Main definitions

* `Queues` — new jobs, and nothing else moves
* `Adds` — a transaction of the web process other than a reservation
* `Reserved` — all that holds of a reservation

## Main results

* `createOperation_spec`, `queueV2_spec`
* `claim_spec`
-/

namespace Bookwarden

namespace Ledger

open WorkQueue (Consistent Moves Stage Delivery)

variable {py : Runtime} {validate : Dict → Option EvidencePackageV2}

/-- New jobs may have been added; the operations there were are as they were. -/
structure Queues (db db' : Db) : Prop where
  moves : Moves db.queue db'.queue
  kept : ∀ id, (db.stateOf id).isSome → db'.stateOf id = db.stateOf id

theorem Queues.refl (db : Db) : Queues db db := ⟨.refl, fun _ _ => rfl⟩

theorem Queues.trans {db db' db'' : Db} (h : Queues db db') (h' : Queues db' db'') :
    Queues db db'' where
  moves := h.moves.trans h'.moves
  kept id hid := by rw [h'.kept id (by rw [h.kept id hid]; exact hid), h.kept id hid]

/-- A transaction that leaves the three tables alone. -/
theorem Queues.of_same {db db' : Db} (hops : db'.operations = db.operations)
    (hout : db'.outbox = db.outbox) (hlocks : db'.locks = db.locks) : Queues db db' where
  moves := by rw [queue_congr hops hout hlocks]
  kept id _ := by rw [Db.stateOf, hops, Db.stateOf]

/-- The database with a new operation and its event. -/
def Db.withOperation (db : Db) (id : String) (op : OperationLedger) : Db :=
  { db with
    operations := db.operations.set id op
    outbox := db.outbox.set id {} }

theorem queues_withOperation {db : Db} {id : String} {op : OperationLedger}
    (hnew : db.operations.get? id = none) (hstate : op.state = .requested) :
    Queues db (db.withOperation id op) where
  moves := by
    have hdel : ({} : OutboxEvent).status = op.state.stage.delivery := by
      rw [hstate]
      rfl
    have hops : (db.withOperation id op).operations = db.operations.set id op := rfl
    have hq := queue_put db _ hops rfl hdel rfl
    rw [hstate] at hq
    rw [hq]
    refine .single (.enqueue id op.bookKey ?_)
    show (db.operations.get? id).map _ = none
    rw [hnew, Option.map_none]
  kept j hj := by
    have hne : j ≠ id := by
      rintro rfl
      rw [Db.stateOf, hnew] at hj
      cases hj
    show ((db.operations.set id op).get? j).map _ = _
    rw [Table.get?_set_of_ne _ _ hne, Db.stateOf]

/-- An operation is new, or the one that has its key already. -/
theorem createOperation_spec {db db' : Db} {operationId id : String} {op : OperationLedger}
    (h : createOperation db operationId op = .ok (db', id)) :
    (db' = db ∧ ∃ existing, db.operations.get? id = some existing) ∨
      (id = operationId ∧ db.operations.get? id = none ∧ db' = db.withOperation id op) := by
  unfold createOperation at h
  split at h
  · rename_i existing hfind
    cases h
    exact .inl ⟨rfl, existing.2, Table.mem_rows_iff.mp (List.mem_of_find?_eq_some hfind)⟩
  · split at h
    · cases h
    · rename_i hnone
      cases h
      exact .inr ⟨rfl, by simpa using hnone, rfl⟩

/-- What a transaction of the web process other than a reservation does to the ledger: nothing, or
it adds an operation without a pilot. -/
inductive Adds (db db' : Db) : Prop
  | same (hops : db'.operations = db.operations) (hout : db'.outbox = db.outbox)
      (hlocks : db'.locks = db.locks) (hpilots : db'.pilots = db.pilots)
  | new (id : String) (op : OperationLedger) (hnew : db.operations.get? id = none)
      (hstate : op.state = .requested) (hpilot : op.pilotId = none)
      (hpolicy : op.policyVersion = "v1") (hops : db'.operations = db.operations.set id op)
      (hout : db'.outbox = db.outbox.set id {}) (hlocks : db'.locks = db.locks)
      (hpilots : db'.pilots = db.pilots)

theorem Adds.queues {db db' : Db} (h : Adds db db') : Queues db db' := by
  cases h with
  | same hops hout hlocks _ => exact .of_same hops hout hlocks
  | new id op hnew hstate _ _ hops hout hlocks _ =>
    exact (queues_withOperation hnew hstate).trans (.of_same hops hout hlocks)

theorem createOperation_adds {db db' : Db} {operationId id : String} {op : OperationLedger}
    (h : createOperation db operationId op = .ok (db', id)) (hstate : op.state = .requested)
    (hpilot : op.pilotId = none) (hpolicy : op.policyVersion = "v1") : Adds db db' := by
  rcases createOperation_spec h with ⟨rfl, -⟩ | ⟨-, hnew, rfl⟩
  · exact .same rfl rfl rfl rfl
  · exact .new id op hnew hstate hpilot hpolicy rfl rfl rfl rfl

theorem Adds.setBookStatus {db db' : Db} (h : Adds db db') (bookKey status : String) :
    Adds db (db'.setBookStatus bookKey status) := by
  cases h with
  | same hops hout hlocks hpilots =>
    exact .same (by simpa using hops) (by simpa using hout) (by simpa using hlocks)
      (by simpa using hpilots)
  | new id op hnew hstate hpilot hpolicy hops hout hlocks hpilots =>
    exact .new id op hnew hstate hpilot hpolicy (by simpa using hops) (by simpa using hout)
      (by simpa using hlocks) (by simpa using hpilots)

theorem queueUndo_adds {db db' : Db} {operationId id : String} {changeId : ℕ}
    (h : queueUndoOperation db operationId changeId = .ok (db', id)) : Adds db db' := by
  unfold queueUndoOperation at h
  split at h
  · cases h
  dsimp only at h
  split at h
  · cases h
  · rename_i hcreate
    cases h
    exact (createOperation_adds hcreate rfl rfl rfl).setBookStatus _ _

theorem queueApproved_adds {db db' : Db} {request : ApprovedRequest}
    (h : queueApproved db request = .ok db') : Adds db db' := by
  unfold queueApproved at h
  split at h
  · cases h
  rename_i hcreate
  have hq := createOperation_adds hcreate rfl rfl rfl
  split at h
  · cases h
    exact hq.setBookStatus _ _
  · cases h
    exact hq

theorem acknowledge_adds {db db' : Db} {operationId actor reason : String}
    (h : acknowledgeV2Failure db operationId actor reason = .ok db') : Adds db db' := by
  unfold acknowledgeV2Failure at h
  dsimp only at h
  repeat' split at h
  all_goals cases h
  exact .same rfl rfl rfl rfl

theorem queueApprovedOperations_adds {db db' : Db} {requests : List ApprovedRequest}
    (h : queueApprovedOperations db requests = .ok db') : Relation.ReflTransGen Adds db db' := by
  induction requests generalizing db with
  | nil =>
    cases h
    exact .refl
  | cons request rest ih =>
    rw [queueApprovedOperations] at h
    split at h
    · cases h
    · rename_i hone
      exact (Relation.ReflTransGen.single (queueApproved_adds hone)).trans (ih h)

theorem queues_of_adds {db db' : Db} (h : Relation.ReflTransGen Adds db db') : Queues db db' := by
  induction h with
  | refl => exact .refl db
  | tail _ hadds ih => exact ih.trans hadds.queues

theorem pilotStop_queues (db : Db) (pilotId : String) : Queues db (pilotStop db pilotId) := by
  unfold pilotStop
  split
  · exact .refl db
  · exact .of_same rfl rfl rfl

/-! ### Reservations -/

/-- The session a reservation finds or makes, and the database with it. -/
structure PilotReady (db : Db) (pilot : PilotGuard) (db' : Db) (stored : PilotSession) :
    Prop where
  tables : db'.operations = db.operations ∧ db'.outbox = db.outbox ∧ db'.locks = db.locks ∧
    db'.acknowledgements = db.acknowledgements
  session : db'.pilots.get? pilot.pilotId = some stored
  others : ∀ p, p ≠ pilot.pilotId → db'.pilots.get? p = db.pilots.get? p
  known : db.pilots.get? pilot.pilotId = some stored ∨ db.pilots.get? pilot.pilotId = none
  opened : stored.state = .opened
  limit : stored.maxOperations = pilot.maxOperations
  counted : stored.reservedOperations = pilotOperationCount db pilot.pilotId
  room : (stored.reservedOperations : ℤ) < stored.maxOperations

theorem lockOrCreatePilot_spec {db db' : Db} {pilot : PilotGuard} {rootSha256 : String}
    {stored : PilotSession} (h : lockOrCreatePilot db pilot rootSha256 = .ok (db', stored)) :
    PilotReady db pilot db' stored := by
  unfold lockOrCreatePilot at h
  split at h
  · cases h
  rename_i db₁ stored₁ hload
  split at h
  · cases h
  rename_i hbinding
  split at h
  · cases h
  rename_i hopened
  split at h
  · cases h
  rename_i hcounted
  split at h
  · cases h
  rename_i hroom
  cases h
  have hlimit : stored.maxOperations = pilot.maxOperations := by
    by_contra hne
    exact hbinding (.inr (.inr (.inr hne)))
  have hopen : stored.state = .opened := not_not.mp hopened
  have hcount : stored.reservedOperations = pilotOperationCount db pilot.pilotId :=
    not_not.mp hcounted
  unfold loadOrCreatePilot at hload
  split at hload
  · rename_i hknown
    cases hload
    exact ⟨⟨rfl, rfl, rfl, rfl⟩, hknown, fun _ _ => rfl, .inl hknown, hopen, hlimit, hcount,
      not_le.mp hroom⟩
  · rename_i hnone
    split at hload
    · cases hload
    · cases hload
      exact ⟨⟨rfl, rfl, rfl, rfl⟩, Table.get?_set_self _ _ _,
        fun p hp => Table.get?_set_of_ne _ _ hp, .inr hnone, hopen, hlimit, hcount,
        not_le.mp hroom⟩

/-- All that holds of a reservation: the session was ready, nothing was unfinished and no event
blocked, the operation is new and bound to the pilot, and the reservation is counted. -/
structure Reserved (db : Db) (pilot : PilotGuard) (db' : Db) (id : String)
    (db₁ : Db) (stored : PilotSession) (op : OperationLedger) : Prop where
  ready : PilotReady db pilot db₁ stored
  limit : pilot.maxOperations ≤ 5
  quiet : ∀ j op', db.operations.get? j = some op' → op'.state ∉ nonterminalStates
  unblocked : ∀ j event, db.outbox.get? j = some event →
    blocksQueue db₁ pilot.pilotId j event = false
  requested : op.state = .requested
  bound : op.pilotId = some pilot.pilotId
  policy : op.policyVersion = "manifestation-v2"
  new : db.operations.get? id = none
  operations : db'.operations = db.operations.set id op
  outbox : db'.outbox = db.outbox.set id {}
  locks : db'.locks = db.locks
  pilots : db'.pilots = db₁.pilots.set pilot.pilotId { stored with
    reservedOperations := stored.reservedOperations + 1 }

theorem validatePilotGuard_limit {pilot : PilotGuard} {package : EvidencePackageV2} {root : String}
    (h : validatePilotGuard py pilot package = .ok root) : pilot.maxOperations ≤ 5 := by
  unfold validatePilotGuard at h
  split at h
  · cases h
  split at h
  · cases h
  split at h
  · cases h
  split at h
  · cases h
  split at h
  · cases h
  split at h
  · cases h
  · rename_i hrange
    exact (not_not.mp hrange).2

/-- What creating the operation of a reservation comes to. -/
theorem reserve_spec {db db₁ db₂ : Db} {pilot : PilotGuard} {stored : PilotSession}
    {operationId id : String} {op : OperationLedger} {bookKey : String}
    (hready : PilotReady db pilot db₁ stored) (hlimit : pilot.maxOperations ≤ 5)
    (hquiet : ¬ (db₁.operations.rows.any fun r => decide (r.2.state ∈ nonterminalStates)) = true)
    (hunblocked : ¬ (db₁.outbox.rows.any fun r => blocksQueue db₁ pilot.pilotId r.1 r.2) = true)
    (hcreate : createOperation db₁ operationId op = .ok (db₂, id))
    (hrequested : op.state = .requested) (hbound : op.pilotId = some pilot.pilotId)
    (hpolicy : op.policyVersion = "manifestation-v2")
    (hqueued : ¬ ((db₂.operations.get? id).any (·.state ≠ .requested)) = true)
    (hcounted : ¬ pilotOperationCount db₂ pilot.pilotId ≠ stored.reservedOperations + 1) :
    Reserved db pilot (({ db₂ with pilots := db₂.pilots.set pilot.pilotId { stored with
      reservedOperations := pilotOperationCount db₂ pilot.pilotId } }).setBookStatus bookKey
        "apply_queued") id db₁ stored op := by
  obtain ⟨hops, hout, hlocks, -⟩ := hready.tables
  have hquiet' : ∀ j op', db.operations.get? j = some op' → op'.state ∉ nonterminalStates := by
    intro j op' hop' hmem
    refine hquiet (List.any_eq_true.mpr ⟨(j, op'), ?_, decide_eq_true hmem⟩)
    rw [hops]
    exact Table.mem_rows_iff.mpr hop'
  rcases createOperation_spec hcreate with ⟨rfl, existing, hexisting⟩ | ⟨rfl, hnew, rfl⟩
  · -- an operation with this key is terminal, so it is refused as queued already
    refine absurd ?_ hqueued
    rw [hexisting, Option.any_some, decide_eq_true_eq]
    intro hreq
    rw [hops] at hexisting
    exact hquiet' id existing hexisting (by rw [hreq]; decide)
  · refine {
      ready := hready
      limit := hlimit
      quiet := hquiet'
      unblocked := ?_
      requested := hrequested
      bound := hbound
      policy := hpolicy
      new := by rw [← hops]; exact hnew
      operations := ?_
      outbox := ?_
      locks := ?_
      pilots := ?_ }
    · intro j event hev
      rw [← hout] at hev
      by_contra hblocks
      refine hunblocked (List.any_eq_true.mpr ⟨(j, event), Table.mem_rows_iff.mpr hev, ?_⟩)
      simpa using hblocks
    · rw [setBookStatus_operations, Db.withOperation, hops]
    · rw [setBookStatus_outbox, Db.withOperation, hout]
    · rw [setBookStatus_locks, Db.withOperation, hlocks]
    · rw [setBookStatus_pilots, not_not.mp hcounted, Db.withOperation]

theorem queueV2_spec {db db' : Db} {operationId evidenceId authorizationId id : String}
    {pilot : PilotGuard}
    (h : queueV2Operation py validate db operationId evidenceId authorizationId pilot
      = .ok (db', id)) :
    ∃ db₁ stored op, Reserved db pilot db' id db₁ stored op := by
  unfold queueV2Operation at h
  split at h
  · cases h
  split at h
  · cases h
  split at h
  · cases h
  split at h
  · cases h
  · cases h
  split at h
  · cases h
  split at h
  · cases h
  split at h
  · cases h
  rename_i hguard
  split at h
  · cases h
  rename_i hpilot
  split at h
  · cases h
  rename_i hquiet
  split at h
  · cases h
  rename_i hunblocked
  dsimp only at h
  split at h
  · cases h
  rename_i hcreate
  split at h
  · cases h
  rename_i hqueued
  split at h
  · cases h
  rename_i hcounted
  cases h
  exact ⟨_, _, _, reserve_spec (lockOrCreatePilot_spec hpilot) (validatePilotGuard_limit hguard)
    hquiet hunblocked hcreate rfl rfl rfl hqueued hcounted⟩

theorem Reserved.queues {db db' db₁ : Db} {pilot : PilotGuard} {id : String}
    {stored : PilotSession} {op : OperationLedger} (h : Reserved db pilot db' id db₁ stored op) :
    Queues db db' :=
  (queues_withOperation h.new h.requested).trans
    (.of_same h.operations h.outbox h.locks)

/-! ### Claiming -/

/-- A claim takes a queued operation whose book is free, or leaves the ledger alone. -/
structure Claimed (db db' : Db) (id : String) (op op' : OperationLedger) : Prop where
  found : db.operations.get? id = some op
  requested : op.state = .requested
  state : op'.state = .claimed
  keeps : op.Keeps op'
  operations : db'.operations = db.operations.set id op'
  pilots : db'.pilots = db.pilots
  step : WorkQueue.Step db.queue db'.queue

theorem state_of_pending {db : Db} (hc : Consistent db.queue) {id : String} {event : OutboxEvent}
    (hev : db.outbox.get? id = some event) (hpending : event.status = .pending) :
    ∃ op, db.operations.get? id = some op ∧ op.state = .requested := by
  have h := hc.record id
  change (db.outbox.get? id).map (·.status) = ((db.operations.get? id).map _).map _ at h
  rw [hev] at h
  cases hop : db.operations.get? id with
  | none => rw [hop] at h; cases h
  | some op =>
    rw [hop] at h
    refine ⟨op, rfl, ?_⟩
    have hdel : op.state.stage.delivery = .pending := by
      rw [← hpending]
      exact (Option.some.inj h).symm
    cases hs : op.state <;> rw [hs] at hdel <;> first | rfl | cases hdel

/-- The database after a claim. -/
def Db.claimed (db : Db) (id owner : String) (expires : Moment) (op : OperationLedger)
    (event : OutboxEvent) : Db :=
  { db with
    operations := db.operations.set id { op with
      leaseOwner := some owner
      leaseExpiresAt := some expires }
    outbox := db.outbox.set id { event with
      status := .processing
      attempts := event.attempts + 1 }
    locks := db.locks.set op.bookKey ⟨id, owner, expires⟩ }

theorem claim_take {db : Db} {id : String} (event : OutboxEvent) {op op₁ : OperationLedger}
    (hop : db.operations.get? id = some op) (hreq : op.state = .requested)
    (hmoved : op.MovedTo .claimed op₁) (hfree : db.locks.get? op.bookKey = none) (owner : String)
    (expires : Moment) :
    Claimed db (db.claimed id owner expires op₁ event) id op
      { op₁ with leaseOwner := some owner, leaseExpiresAt := some expires } := by
  obtain ⟨e, c, rfl⟩ := hmoved
  refine ⟨hop, hreq, rfl, ⟨rfl, rfl, rfl, rfl⟩, rfl, rfl, ?_⟩
  have hjob : db.queue.job id = some (op.bookKey, .queued) := by
    show (db.operations.get? id).map _ = _
    rw [hop, Option.map_some, hreq]
    rfl
  have hholder : db.queue.holder op.bookKey = none := by
    show (db.locks.get? op.bookKey).map _ = none
    rw [hfree, Option.map_none]
  have hq := queue_put db (db.claimed id owner expires
    { op with state := .claimed, error := e, completed := c } event) rfl rfl rfl
    (holder_set db.locks op.bookKey ⟨id, owner, expires⟩)
  rw [hq]
  exact .take id op.bookKey hjob hholder

/-- **A claim.** It never raises; it takes the first queued operation, or nothing when there is
none or its book is locked. -/
theorem claim_spec {db : Db} (hc : Consistent db.queue) (owner : String) (expires : Moment) :
    claimNextOperation db owner expires = .ok (db, none) ∨
      ∃ db' id op op', claimNextOperation db owner expires = .ok (db', some id) ∧
        Claimed db db' id op op' := by
  unfold claimNextOperation
  cases hpending : pendingEvents db with
  | nil => exact .inl rfl
  | cons id rest =>
    have hmem : id ∈ pendingEvents db := by
      rw [hpending]
      exact List.mem_cons_self
    rw [pendingEvents, List.mem_map] at hmem
    obtain ⟨⟨_, event⟩, hrow, rfl⟩ := hmem
    obtain ⟨hrow, hcond⟩ := List.mem_filter.mp hrow
    have hev := Table.mem_rows_iff.mp hrow
    have hstatus : event.status = .pending := by
      simp only [Bool.and_eq_true, decide_eq_true_eq] at hcond
      exact hcond.1
    obtain ⟨op, hop, hreq⟩ := state_of_pending hc hev hstatus
    rw [claimEvents, hop, hev]
    simp only [hreq, ne_eq, not_true_eq_false, if_false]
    split
    · exact .inl rfl
    rename_i hfree
    split
    · exact .inl rfl
    have hallowed : OperationState.claimed ∈ allowedTransitions op.state := by
      rw [hreq]
      decide
    obtain ⟨op₁, hop₁, hmoved⟩ := transitionOperation_spec hallowed none
    have hbook : op₁.bookKey = op.bookKey := hmoved.keeps.bookKey
    refine .inr ⟨db.claimed _ owner expires op₁ event, _, op, _, ?_,
      claim_take event hop hreq hmoved hfree owner expires⟩
    simp only [hop₁, Db.claimed, hbook]

end Ledger

end Bookwarden
