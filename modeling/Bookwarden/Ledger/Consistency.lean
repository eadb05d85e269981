import Bookwarden.Ledger.Queueing

/-!
# The ledger, its outbox and its locks

In every reachable state the outbox and the lock table follow the operations: the three tables are
the records, locks and jobs of a work queue, and every event of the machine is a number of moves of
that queue.

## Main definitions

* `Evolves` — moves of the queue that leave terminal operations alone
* `State.Lawful` — the invariant of the machine
* `Does` — what an event can do

## Main results

* `exec_does`, `Does.lawful`, `run_lawful` — the invariant over one event and over a run
* `ledger_consistent` — the ledger, the outbox and the locks in every reachable state
-/

namespace Bookwarden

namespace Ledger

open WorkQueue (Consistent Moves Stage Delivery)

variable {py : Runtime} {validate : Dict → Option EvidencePackageV2}

/-- What every event does: moves of the queue, and terminal operations stay as they are. -/
structure Evolves (db db' : Db) : Prop where
  moves : Moves db.queue db'.queue
  terminal : ∀ id state, db.stateOf id = some state → state ∉ nonterminalStates →
    db'.stateOf id = some state

theorem Evolves.refl (db : Db) : Evolves db db := ⟨.refl, fun _ _ h _ => h⟩

theorem Evolves.trans {db db' db'' : Db} (h : Evolves db db') (h' : Evolves db' db'') :
    Evolves db db'' where
  moves := h.moves.trans h'.moves
  terminal id state hs ht := h'.terminal id state (h.terminal id state hs ht) ht

theorem Queues.evolves {db db' : Db} (h : Queues db db') : Evolves db db' where
  moves := h.moves
  terminal id state hs _ := by
    rw [h.kept id (by rw [hs]; rfl), hs]

/-- Rewriting the row of an unfinished operation leaves terminal ones alone. -/
theorem terminal_of_set {db db' : Db} {id : String} {op op' : OperationLedger}
    (hop : db.operations.get? id = some op) (hstate : op.state ∈ nonterminalStates)
    (hops : db'.operations = db.operations.set id op') :
    ∀ j state, db.stateOf j = some state → state ∉ nonterminalStates →
      db'.stateOf j = some state := by
  intro j state hs ht
  have hne : j ≠ id := by
    rintro rfl
    rw [stateOf_of_get? hop] at hs
    cases hs
    exact ht hstate
  rw [Db.stateOf, hops, Table.get?_set_of_ne _ _ hne]
  exact hs

theorem Outcome.Lawful.evolves {db : Db} {id : String} {op : OperationLedger} {o : Outcome}
    (h : o.Lawful db id op) (hop : db.operations.get? id = some op)
    (hstate : op.state ∈ nonterminalStates) : Evolves db o.db where
  moves := h.moves
  terminal := by
    rcases h.rows with hops | ⟨op', hops, -⟩
    · intro j state hs _
      rw [Db.stateOf, hops]
      exact hs
    · exact terminal_of_set hop hstate hops

/-- The invariant. -/
structure State.Lawful (s : State) : Prop where
  tables : Consistent s.db.queue
  fits : s.control.Fits s.db
  attempted : ∀ t ∈ s.attempted, t.2 ∈ allowedTransitions t.1

theorem initial_lawful : State.initial.Lawful where
  tables := ⟨fun _ => rfl, fun _ _ => ⟨fun h => (by cases h), fun h => (by cases h)⟩⟩
  fits := trivial
  attempted _ ht := absurd ht List.not_mem_nil

/-- What one event does in a lawful state. -/
inductive Does (s : State) : State → Prop
  /-- The writer starts, stops, or ends its reconciliation. -/
  | moves (config : WriterConfig) (c : Control) (hc : c.Fits s.db) :
      Does s { s with config, control := c }
  | adds (db' : Db) (h : Relation.ReflTransGen Adds s.db db') : Does s { s with db := db' }
  | reserves (db' db₁ : Db) (pilot : PilotGuard) (id : String) (stored : PilotSession)
      (op : OperationLedger) (h : Reserved s.db pilot db' id db₁ stored op) :
      Does s { s with db := db' }
  | stops (pilotId : String) : Does s { s with db := pilotStop s.db pilotId }
  | claims (db' : Db) (id : String) (op op' : OperationLedger)
      (h : Claimed s.db db' id op op') :
      Does s { s with
        db := db'
        control := .claimed id
        attempted := s.attempted ++ [(.requested, .claimed)] }
  /-- A part of a call of the writer. -/
  | works (id : String) (op : OperationLedger) (o : Outcome)
      (hop : s.db.operations.get? id = some op) (hstate : op.state ∈ nonterminalStates)
      (ho : o.Lawful s.db id op) : Does s (s.absorb id o)

theorem does_nothing (s : State) : Does s s := .adds s.db .refl

theorem does_commit {s : State} {result : Except PyError Db}
    (h : ∀ db', result = .ok db' → Does s { s with db := db' }) : Does s (s.commit result) := by
  cases result with
  | error e => exact does_nothing s
  | ok db' => exact h db' rfl

theorem get?_of_stateOf {db : Db} {id : String} {state : OperationState}
    (h : db.stateOf id = some state) :
    ∃ op, db.operations.get? id = some op ∧ op.state = state :=
  Option.map_eq_some_iff.mp h

/-- A part of a call about an operation in `writing`. -/
theorem does_resume {s : State} {id : String} (hwriting : s.db.stateOf id = some .writing)
    {f : OperationLedger → Outcome}
    (hf : ∀ op, s.db.operations.get? id = some op → op.state = .writing →
      (f op).Lawful s.db id op) : Does s (s.resume id f) := by
  obtain ⟨op, hop, hstate⟩ := get?_of_stateOf hwriting
  rw [State.resume, hop]
  exact .works id op _ hop (by rw [hstate]; decide) (hf op hop hstate)

theorem does_resumeChange {s : State} {id : String} (changeId : ℕ)
    (hwriting : s.db.stateOf id = some .writing) {f : OperationLedger → Change → Outcome}
    (hf : ∀ op change, s.db.operations.get? id = some op → op.state = .writing →
      (f op change).Lawful s.db id op) : Does s (s.resumeChange id changeId f) := by
  refine does_resume hwriting fun op hop hstate => ?_
  split
  · exact hf op _ hop hstate
  · exact lawful_raising_now hop (.inr hstate) _

theorem does_claim {s : State} (h : s.Lawful) (owner : String) (expires : Moment) :
    Does s (s.claim owner expires) := by
  rcases claim_spec h.tables owner expires with hnone | ⟨db', id, op, op', hsome, hclaimed⟩
  · rw [State.claim, hnone]
    exact does_nothing s
  · rw [State.claim, hsome]
    exact .claims db' id op op' hclaimed

/-- The operations a restart looks at are those in flight. -/
theorem mem_incompleteOperations {db : Db} {id : String} :
    id ∈ incompleteOperations db ↔ ∃ state ∈ inflightStates, db.stateOf id = some state := by
  rw [incompleteOperations, List.mem_map]
  constructor
  · rintro ⟨⟨_, op⟩, hrow, rfl⟩
    obtain ⟨hop, hin⟩ := Table.mem_filter_iff.mp hrow
    exact ⟨op.state, of_decide_eq_true hin, stateOf_of_get? hop⟩
  · rintro ⟨state, hin, hs⟩
    obtain ⟨op, hop, rfl⟩ := get?_of_stateOf hs
    exact ⟨(id, op), Table.mem_filter_iff.mpr ⟨hop, decide_eq_true hin⟩, rfl⟩

theorem start_fits (db : Db) : (Control.reconciling (incompleteOperations db)).Fits db := by
  refine ⟨?_, fun id hid => mem_incompleteOperations.mp hid⟩
  exact db.operations.nodup.sublist (List.filter_sublist.map Prod.fst)

theorem nonterminal_of_inflight {state : OperationState} (h : state ∈ inflightStates) :
    state ∈ nonterminalStates := List.mem_cons_of_mem _ h

/-- **What an event does.** -/
theorem exec_does {s : State} (h : s.Lawful) (e : Event) : Does s (exec py validate s e) := by
  cases e with
  | queueV2 operationId evidenceId authorizationId pilot =>
    refine does_commit fun db' hdb => ?_
    cases hres : queueV2Operation py validate s.db operationId evidenceId authorizationId pilot with
    | error e => rw [hres] at hdb; cases hdb
    | ok result =>
      rw [hres] at hdb
      cases hdb
      obtain ⟨db₁, stored, op, hreserved⟩ := queueV2_spec hres
      exact .reserves _ db₁ pilot _ stored op hreserved
  | queueUndo operationId changeId =>
    refine does_commit fun db' hdb => ?_
    cases hres : queueUndoOperation s.db operationId changeId with
    | error e => rw [hres] at hdb; cases hdb
    | ok result =>
      rw [hres] at hdb
      cases hdb
      exact .adds _ (.single (queueUndo_adds hres))
  | queueApproved requests =>
    exact does_commit fun db' hdb => .adds _ (queueApprovedOperations_adds hdb)
  | acknowledge operationId actor reason =>
    exact does_commit fun db' hdb => .adds _ (.single (acknowledge_adds hdb))
  | stopPilot pilotId => exact .stops pilotId
  | record books packages authorizations => exact .adds _ (.single (.same rfl rfl rfl rfl))
  | start config =>
    simp only [exec]
    split
    · exact .moves config _ (start_fits s.db)
    · exact does_nothing s
  | reconcile r =>
    simp only [exec]
    split
    · exact .moves s.config .idle trivial
    · rename_i id rest hcontrol
      have hfits := h.fits
      rw [hcontrol] at hfits
      obtain ⟨hnodup, htodo⟩ := hfits
      obtain ⟨state, hin, hs⟩ := htodo id List.mem_cons_self
      obtain ⟨op, hop, rfl⟩ := get?_of_stateOf hs
      have hrest : (Control.reconciling rest).Fits s.db :=
        ⟨hnodup.of_cons, fun j hj => htodo j (List.mem_cons_of_mem _ hj)⟩
      exact .works id op _ hop (nonterminal_of_inflight hin)
        (reconcileOperation_lawful h.tables hop hin hrest (List.nodup_cons.mp hnodup).1 _ r)
    · exact does_nothing s
  | claim owner expires =>
    simp only [exec]
    split
    · exact does_claim h owner expires
    · exact does_nothing s
  | process r =>
    simp only [exec]
    split
    · rename_i id hcontrol
      have hfits := h.fits
      rw [hcontrol] at hfits
      obtain ⟨op, hop, hstate⟩ := get?_of_stateOf hfits
      exact .works id op _ hop (by rw [hstate]; decide)
        (beginOperation_lawful h.tables hop hstate _ r)
    · exact does_nothing s
  | prepare r =>
    simp only [exec]
    split
    · rename_i id before hcontrol
      have hfits := h.fits
      rw [hcontrol] at hfits
      exact does_resume hfits fun op hop hstate => prepareApply_lawful h.tables hop hstate _ _ r
    · exact does_nothing s
  | write r =>
    simp only [exec]
    split
    · rename_i id before changeId cover hcontrol
      have hfits := h.fits
      rw [hcontrol] at hfits
      exact does_resumeChange changeId hfits fun op change hop hstate =>
        writeChange_lawful h.tables hop hstate _ _ _ _ _ r
    · exact does_nothing s
  | finish r =>
    simp only [exec]
    split
    · rename_i id before changeId hcontrol
      have hfits := h.fits
      rw [hcontrol] at hfits
      exact does_resumeChange changeId hfits fun op change hop hstate =>
        finishApply_lawful h.tables hop hstate _ _ _ _ r
    · exact does_nothing s
  | unwind =>
    simp only [exec]
    split
    · rename_i id exc hcontrol
      have hfits := h.fits
      rw [hcontrol] at hfits
      exact does_resume hfits fun op hop hstate => applyRaised_lawful h.tables hop hstate exc
    · exact does_nothing s
  | undo r =>
    simp only [exec]
    split
    · rename_i id before changeId hcontrol
      have hfits := h.fits
      rw [hcontrol] at hfits
      exact does_resumeChange changeId hfits fun op change hop hstate =>
        finishUndo_lawful h.tables hop hstate _ _ _ _ r
    · exact does_nothing s
  | fail =>
    simp only [exec]
    split
    · rename_i id exc hcontrol
      have hfits := h.fits
      rw [hcontrol] at hfits
      have hwork : ∃ op, s.db.operations.get? id = some op ∧ AtWork op := by
        rcases hfits with hs | hs
        · obtain ⟨op, hop, hstate⟩ := get?_of_stateOf hs
          exact ⟨op, hop, .inl hstate⟩
        · obtain ⟨op, hop, hstate⟩ := get?_of_stateOf hs
          exact ⟨op, hop, .inr hstate⟩
      obtain ⟨op, hop, hat⟩ := hwork
      refine .works id op _ hop ?_ (failOperation_lawful h.tables hop hat exc)
      rcases hat with hstate | hstate <;> rw [hstate] <;> decide
    · exact does_nothing s
  | crash => exact .moves s.config .stopped trivial

/-- A lawful event: the invariant after it, and what it did to the ledger. -/
def LawfulStep (s s' : State) : Prop := s'.Lawful ∧ Evolves s.db s'.db

/-- An event of the web process. -/
theorem lawfulStep_queues {s : State} (h : s.Lawful) {db' : Db} (hq : Queues s.db db') :
    LawfulStep s { s with db := db' } :=
  ⟨⟨WorkQueue.consistent_run hq.moves h.tables, h.fits.of_stateOf hq.kept, h.attempted⟩,
    hq.evolves⟩

/-- **Step lemma.** -/
theorem Does.lawful {s s' : State} (hdoes : Does s s') (h : s.Lawful) : LawfulStep s s' := by
  cases hdoes with
  | moves config c hc => exact ⟨⟨h.tables, hc, h.attempted⟩, .refl _⟩
  | adds db' hadds => exact lawfulStep_queues h (queues_of_adds hadds)
  | reserves db' db₁ pilot id stored op hreserved => exact lawfulStep_queues h hreserved.queues
  | stops pilotId => exact lawfulStep_queues h (pilotStop_queues s.db pilotId)
  | claims db' id op op' hclaimed =>
    refine ⟨⟨hclaimed.step.consistent h.tables, ?_, fun t ht => ?_⟩, .single hclaimed.step,
      terminal_of_set hclaimed.found (by rw [hclaimed.requested]; decide) hclaimed.operations⟩
    · show db'.stateOf id = some .claimed
      rw [Db.stateOf, hclaimed.operations, Table.get?_set_self, Option.map_some, hclaimed.state]
    · rcases List.mem_append.mp ht with ht | ht
      · exact h.attempted t ht
      · rw [List.mem_singleton.mp ht]
        decide
  | works id op o hop hstate ho =>
    refine ⟨⟨WorkQueue.consistent_run ho.moves h.tables, ho.fits, fun t ht => ?_⟩,
      ho.evolves hop hstate⟩
    rcases List.mem_append.mp ht with ht | ht
    · exact h.attempted t ht
    · exact ho.attempted t ht

/-- **Run lemma.** -/
theorem run_lawful {s : State} (h : s.Lawful) (es : List Event) :
    LawfulStep s (Runs.run (exec py validate) s es) := by
  induction es generalizing s with
  | nil => exact ⟨h, .refl _⟩
  | cons e es ih =>
    obtain ⟨h₁, he₁⟩ : LawfulStep s (exec py validate s e) := (exec_does h e).lawful h
    obtain ⟨h₂, he₂⟩ := ih h₁
    exact ⟨h₂, he₁.trans he₂⟩

theorem Reachable.lawful {s : State} (h : Reachable py validate s) : s.Lawful := by
  obtain ⟨es, rfl⟩ := h
  exact (run_lawful initial_lawful es).1

/-- The event and the lock of an operation, by its state. -/
structure Follows (db : Db) (id : String) (op : OperationLedger) : Prop where
  requested : op.state = .requested →
    (∃ event, db.outbox.get? id = some event ∧ event.status = .pending) ∧
      ∀ bookKey lock, db.locks.get? bookKey = some lock → lock.operationId ≠ id
  inflight : op.state ∈ inflightStates →
    (∃ event, db.outbox.get? id = some event ∧ event.status = .processing) ∧
      ∃ lock, db.locks.get? op.bookKey = some lock ∧ lock.operationId = id
  terminal : op.state ∉ nonterminalStates →
    (∃ event, db.outbox.get? id = some event ∧
      (event.status = .published ∨ event.status = .failed) ∧
      (event.status = .published ↔ op.state = .succeeded)) ∧
      ∀ bookKey lock, db.locks.get? bookKey = some lock → lock.operationId ≠ id

theorem follows_of_consistent {db : Db} (hc : Consistent db.queue) {id : String}
    {op : OperationLedger} (hop : db.operations.get? id = some op) : Follows db id op := by
  obtain ⟨event, hev, hstatus⟩ := exists_event hc hop
  have hjob : db.queue.job id = some (op.bookKey, op.state.stage) := by
    show (db.operations.get? id).map _ = _
    rw [hop, Option.map_some]
  have hunheld : op.state.stage ≠ .working →
      ∀ bookKey lock, db.locks.get? bookKey = some lock → lock.operationId ≠ id := by
    intro hstage bookKey lock hlock heq
    refine hc.not_held hjob hstage bookKey ?_
    show (db.locks.get? bookKey).map _ = _
    rw [hlock, Option.map_some, heq]
  constructor
  · intro hs
    rw [hs] at hstatus
    exact ⟨⟨event, hev, hstatus⟩, hunheld (by rw [hs]; decide)⟩
  · intro hs
    have hstage : op.state.stage = .working := by
      cases hst : op.state <;> rw [hst] at hs <;> first | rfl | exact absurd hs (by decide)
    rw [hstage] at hstatus hjob
    refine ⟨⟨event, hev, hstatus⟩, ?_⟩
    have hheld := (hc.locked id op.bookKey).mp hjob
    change (db.locks.get? op.bookKey).map _ = _ at hheld
    exact Option.map_eq_some_iff.mp hheld
  · intro hs
    cases hst : op.state with
    | requested | claimed | writing | verifying | restoring =>
      rw [hst] at hs
      exact absurd (by decide) hs
    | succeeded =>
      rw [hst] at hstatus hunheld
      exact ⟨⟨event, hev, .inl hstatus, fun _ => rfl, fun _ => hstatus⟩, hunheld (by decide)⟩
    | restored | restoreFailed | unknown | failed | cancelled =>
      rw [hst] at hstatus hunheld
      refine ⟨⟨event, hev, .inr hstatus, fun h => ?_, fun h => (by cases h)⟩, hunheld (by decide)⟩
      rw [hstatus] at h
      cases h

/-- **The three tables move together.** After any sequence of queueing, claiming, processing,
failing, reconciling and crashing: the event and the lock of every operation follow its state, a
book has at most one operation in flight, terminal states are final, and no transition outside
`ALLOWED_TRANSITIONS` is ever attempted. -/
theorem ledger_consistent (py : Runtime) (validate : Dict → Option EvidencePackageV2)
    (es : List Event) :
    (∀ id op, (Runs.run (exec py validate) State.initial es).db.operations.get? id = some op →
      Follows (Runs.run (exec py validate) State.initial es).db id op) ∧
    (∀ id id' op op',
      (Runs.run (exec py validate) State.initial es).db.operations.get? id = some op →
      (Runs.run (exec py validate) State.initial es).db.operations.get? id' = some op' →
      op.state ∈ inflightStates → op'.state ∈ inflightStates → op.bookKey = op'.bookKey →
      id = id') ∧
    (∀ es' id state,
      (Runs.run (exec py validate) State.initial es).db.stateOf id = some state →
      state ∉ nonterminalStates →
      (Runs.run (exec py validate) State.initial (es ++ es')).db.stateOf id = some state) ∧
    (∀ t ∈ (Runs.run (exec py validate) State.initial es).attempted,
      t.2 ∈ allowedTransitions t.1) := by
  have hrun : LawfulStep State.initial (Runs.run (exec py validate) State.initial es) :=
    run_lawful initial_lawful es
  have h := hrun.1
  refine ⟨fun id op hop => follows_of_consistent h.tables hop, ?_, ?_, h.attempted⟩
  · intro id id' op op' hop hop' hin hin' hbook
    obtain ⟨-, lock, hlock, hid⟩ := (follows_of_consistent h.tables hop).inflight hin
    obtain ⟨-, lock', hlock', hid'⟩ := (follows_of_consistent h.tables hop').inflight hin'
    rw [hbook, hlock'] at hlock
    cases hlock
    rw [← hid, ← hid']
  · intro es' id state hs ht
    rw [Runs.run_append]
    exact (run_lawful h es').2.terminal id state hs ht

end Ledger

end Bookwarden
