import Bookwarden.Ledger.Settle

/-!
# The parts of a writer's call

What each part of a call does to the ledger, its outbox and its locks: a move of the work queue, or
none, by allowed transitions only, after which the writer fits the database again.

## Main definitions

* `Control.Fits` — the operation at work is in the state its part of the call expects
* `Outcome.Lawful` — what every part of a call does to the ledger
* `Decision.Sound` — what reconciliation decides settles the operation

## Main results

* `conclude_lawful`, and one lemma for each part of a call
* `reconcileOperation_lawful`
-/

namespace Bookwarden

namespace Ledger

open WorkQueue (Consistent Moves Stage Delivery unhold)

variable {py : Runtime} {validate : Dict → Option EvidencePackageV2}

/-- The state of an operation, if there is one. -/
def Db.stateOf (db : Db) (id : String) : Option OperationState :=
  (db.operations.get? id).map (·.state)

/-- The operation at work is in the state its part of the call expects, and those that
reconciliation has still to look at are in flight. -/
def Control.Fits (db : Db) : Control → Prop
  | .stopped | .idle => True
  | .reconciling todo =>
    todo.Nodup ∧ ∀ id ∈ todo, ∃ state ∈ inflightStates, db.stateOf id = some state
  | .claimed id => db.stateOf id = some .claimed
  | .applying id _ | .prepared id _ _ _ | .written id _ _ | .rolledBack id _ | .undoing id _ _ =>
    db.stateOf id = some .writing
  | .raised id _ => db.stateOf id = some .claimed ∨ db.stateOf id = some .writing

/-- The writer fits a database that agrees on the operations it is about. -/
theorem Control.Fits.of_stateOf {db db' : Db} {c : Control} (h : c.Fits db)
    (hsame : ∀ id, (db.stateOf id).isSome → db'.stateOf id = db.stateOf id) : c.Fits db' := by
  have key : ∀ id state, db.stateOf id = some state → db'.stateOf id = some state := by
    intro id state hs
    rw [hsame id (by rw [hs]; rfl), hs]
  cases c with
  | stopped | idle => trivial
  | reconciling todo =>
    refine ⟨h.1, fun id hid => ?_⟩
    obtain ⟨state, hin, hs⟩ := h.2 id hid
    exact ⟨state, hin, key id state hs⟩
  | raised id e => exact h.imp (key id _) (key id _)
  | claimed id | applying id | prepared id | written id | rolledBack id | undoing id =>
    exact key id _ h

/-- What a rewritten row keeps. -/
structure OperationLedger.Keeps (op op' : OperationLedger) : Prop where
  bookKey : op'.bookKey = op.bookKey
  pilotId : op'.pilotId = op.pilotId
  policyVersion : op'.policyVersion = op.policyVersion
  operationType : op'.operationType = op.operationType

theorem OperationLedger.Keeps.refl (op : OperationLedger) : op.Keeps op := ⟨rfl, rfl, rfl, rfl⟩

theorem OperationLedger.Keeps.trans {op op' op'' : OperationLedger} (h : op.Keeps op')
    (h' : op'.Keeps op'') : op.Keeps op'' :=
  ⟨h'.bookKey.trans h.bookKey, h'.pilotId.trans h.pilotId,
    h'.policyVersion.trans h.policyVersion, h'.operationType.trans h.operationType⟩

theorem OperationLedger.MovedTo.keeps {op op' : OperationLedger} {final : OperationState}
    (h : op.MovedTo final op') : op.Keeps op' := by
  obtain ⟨e, c, rfl⟩ := h
  exact ⟨rfl, rfl, rfl, rfl⟩

/-- What every part of a writer's call about the operation `id` does to the ledger. -/
structure Outcome.Lawful (db : Db) (id : String) (op : OperationLedger) (o : Outcome) : Prop where
  moves : Moves db.queue o.db.queue
  attempted : ∀ t ∈ o.attempted, t.2 ∈ allowedTransitions t.1
  fits : o.control.Fits o.db
  rows : o.db.operations = db.operations ∨
    ∃ op', o.db.operations = db.operations.set id op' ∧ op.Keeps op'
  pilots : o.db.pilots = db.pilots

/-- The records follow the jobs, so an operation has its event. -/
theorem exists_event {db : Db} (hc : Consistent db.queue) {id : String} {op : OperationLedger}
    (hop : db.operations.get? id = some op) :
    ∃ event, db.outbox.get? id = some event ∧ event.status = op.state.stage.delivery := by
  have h := hc.record id
  change (db.outbox.get? id).map (·.status) = ((db.operations.get? id).map _).map _ at h
  rw [hop] at h
  cases hev : db.outbox.get? id with
  | none => rw [hev] at h; cases h
  | some event =>
    rw [hev] at h
    exact ⟨event, rfl, Option.some.inj h⟩

/-- A part that only moves the writer on. -/
theorem lawful_stays {db : Db} {id : String} {op : OperationLedger} {o : Outcome}
    (hops : o.db.operations = db.operations) (hout : o.db.outbox = db.outbox)
    (hlocks : o.db.locks = db.locks) (hpilots : o.db.pilots = db.pilots)
    (hatt : ∀ t ∈ o.attempted, t.2 ∈ allowedTransitions t.1) (hfits : o.control.Fits db) :
    o.Lawful db id op where
  moves := by rw [queue_congr hops hout hlocks]
  attempted := hatt
  fits := hfits.of_stateOf fun j _ => by rw [Db.stateOf, hops, Db.stateOf]
  rows := .inl hops
  pilots := hpilots

theorem stateOf_of_get? {db : Db} {id : String} {op : OperationLedger}
    (hop : db.operations.get? id = some op) : db.stateOf id = some op.state := by
  rw [Db.stateOf, hop, Option.map_some]

/-- An operation that is at work: claimed, or writing. -/
def AtWork (op : OperationLedger) : Prop := op.state = .claimed ∨ op.state = .writing

theorem AtWork.stage {op : OperationLedger} (h : AtWork op) : op.state.stage = .working := by
  rcases h with h | h <;> rw [h] <;> rfl

theorem lawful_raising {db : Db} {id : String} {op : OperationLedger}
    (hop : db.operations.get? id = some op) (hwork : AtWork op) (e : PyError) {issued : ℕ}
    {last : Option Readback} {attempted : List (OperationState × OperationState)}
    (hatt : ∀ t ∈ attempted, t.2 ∈ allowedTransitions t.1) :
    Outcome.Lawful db id op { db, control := .raised id e, last, attempted, issued } := by
  refine lawful_stays rfl rfl rfl rfl hatt ?_
  show db.stateOf id = _ ∨ db.stateOf id = _
  rw [stateOf_of_get? hop, Option.some.injEq, Option.some.injEq]
  exact hwork

theorem lawful_raising_now {db : Db} {id : String} {op : OperationLedger}
    (hop : db.operations.get? id = some op) (hwork : AtWork op) (e : PyError) :
    (raising db id e).Lawful db id op :=
  lawful_raising hop hwork e fun _ ht => absurd ht List.not_mem_nil

/-- A part that ends in a verdict leaves the database the verdict describes. -/
theorem conclude_spec {db : Db} {id : String} {op₀ op : OperationLedger} {v : Verdict}
    {state : OperationState} (hc : Consistent db.queue) (hop : db.operations.get? id = some op₀)
    (hstate : op.state = state) (hv : v.Settles state) (bookKey : String) (next : Control)
    (stuck : PyError → Control) (last : Option Readback) (issued : ℕ) :
    ∃ db' op', conclude db id op bookKey v next stuck last issued =
        { db := db', control := next, last, attempted := attempts op.state v.path, issued } ∧
      Settled db id op v db' op' := by
  obtain ⟨event, hev, -⟩ := exists_event hc hop
  obtain ⟨db', op', hsettle, hs⟩ := settle_spec hev hstate hv bookKey
  refine ⟨db', op', ?_, hs⟩
  rw [conclude, hsettle]

/-- **A part that ends in a verdict.** The operation settles, and the verdict decides its event. -/
theorem conclude_lawful {db : Db} {id : String} {op₀ op : OperationLedger} {bookKey : String}
    {v : Verdict} {next : Control} {stuck : PyError → Control} {last : Option Readback}
    {issued : ℕ} {state : OperationState} (hc : Consistent db.queue)
    (hop : db.operations.get? id = some op₀) (hwork : op₀.state.stage = .working)
    (hkeeps : op₀.Keeps op) (hstate : op.state = state) (hv : v.Settles state)
    (hnext : ∀ db' : Db, (∀ j, j ≠ id → db'.stateOf j = db.stateOf j) → next.Fits db') :
    (conclude db id op bookKey v next stuck last issued).Lawful db id op₀ := by
  obtain ⟨db', op', hconclude, hs⟩ :=
    conclude_spec hc hop hstate hv bookKey next stuck last issued
  subst hstate
  obtain ⟨final, hland, hmoved⟩ := hs.landed
  rw [hconclude]
  exact {
    moves := .single (hs.step hop hwork hkeeps.bookKey hv)
    attempted := attempts_allowed hland
    fits := hnext db' fun j hj => by
      rw [Db.stateOf, hs.operations, Table.get?_set_of_ne _ _ hj, Db.stateOf]
    rows := .inr ⟨op', hs.operations, hkeeps.trans hmoved.keeps⟩
    pilots := hs.pilots }

/-- The operation begins to write. -/
theorem lawful_begins {db : Db} {id : String} {op₀ op op' : OperationLedger} {o : Outcome}
    (hop : db.operations.get? id = some op₀) (hclaimed : op₀.state = .claimed)
    (hkeeps : op₀.Keeps op) (hmoved : op.MovedTo .writing op')
    (hdb : o.db = { db with operations := db.operations.set id op' })
    (hatt : o.attempted = attempts .claimed [.writing])
    (hfits : ∀ db' : Db, db'.stateOf id = some .writing → o.control.Fits db') :
    o.Lawful db id op₀ := by
  have hrow : o.db.operations = db.operations.set id op' := by rw [hdb]
  have hkept : op₀.Keeps op' := hkeeps.trans hmoved.keeps
  have hwriting : op'.state = .writing := by
    obtain ⟨e, c, rfl⟩ := hmoved
    rfl
  exact {
    moves := by
      rw [queue_set_same hop hrow hkept.bookKey (by rw [hwriting, hclaimed]; rfl)
        (by rw [hdb]) (by rw [hdb])]
    attempted := by
      rw [hatt]
      decide
    fits := hfits _ (by rw [Db.stateOf, hrow, Table.get?_set_self, Option.map_some, hwriting])
    rows := .inr ⟨op', hrow, hkept⟩
    pilots := by rw [hdb] }

/-! ### The parts of a call -/

section Parts

variable {db : Db} {id : String} {op : OperationLedger}

theorem idle_fits {id : String} : ∀ db' : Db, (∀ j, j ≠ id → db'.stateOf j = db.stateOf j) →
    Control.idle.Fits db' :=
  fun _ _ => trivial

theorem beginApply_lawful (hc : Consistent db.queue) (hop : db.operations.get? id = some op)
    (hstate : op.state = .claimed) (config : WriterConfig) (r : ProcessReply) :
    (beginApply py validate config db id op r).Lawful db id op := by
  have hwork : op.state.stage = .working := by rw [hstate]; rfl
  have hraise : ∀ e, (raising db id e).Lawful db id op :=
    lawful_raising_now hop (.inl hstate)
  have hfail : ∀ error bookStatus last issued,
      (conclude db id op op.bookKey ⟨[.failed], some error, false, some error, bookStatus, none⟩
        .idle (.raised id) last issued).Lawful db id op := fun _ _ _ _ =>
    conclude_lawful hc hop hwork (.refl op) hstate ⟨.failed, rfl, rfl⟩ idle_fits
  unfold beginApply
  split
  · exact hraise _
  split
  · exact hraise _
  split
  · split
    · exact hfail _ _ _ _
    · exact hraise _
  split
  · exact hraise _
  split
  · split
    · exact hfail _ _ _ _
    · exact hraise _
  split
  · exact hraise _
  · exact hfail _ _ _ _
  split
  · exact hraise _
  · rename_i hwalk
    have hmoved := OperationLedger.MovedTo.of_walk hwalk
      (show landing op.state [.writing] = some .writing by rw [hstate]; rfl)
    refine lawful_begins hop hstate ?_ hmoved rfl ?_ fun _ h => h
    · exact ⟨rfl, rfl, rfl, rfl⟩
    · show attempts op.state [.writing] = _
      rw [hstate]

theorem beginUndo_lawful (hc : Consistent db.queue) (hop : db.operations.get? id = some op)
    (hstate : op.state = .claimed) (config : WriterConfig) (r : ProcessReply) :
    (beginUndo py config db id op r).Lawful db id op := by
  have hwork : op.state.stage = .working := by rw [hstate]; rfl
  have hraise : ∀ e, (raising db id e).Lawful db id op :=
    lawful_raising_now hop (.inl hstate)
  have hfail : ∀ bookKey error bookStatus last issued,
      (conclude db id op bookKey ⟨[.failed], some error, false, some error, bookStatus, none⟩
        .idle (.raised id) last issued).Lawful db id op := fun _ _ _ _ _ =>
    conclude_lawful hc hop hwork (.refl op) hstate ⟨.failed, rfl, rfl⟩ idle_fits
  unfold beginUndo
  split
  · exact hraise _
  split
  · exact hraise _
  split
  · exact hfail _ _ _ _ _
  split
  · exact hraise _
  · exact hraise _
  split
  · exact hraise _
  · exact hfail _ _ _ _ _
  split
  · exact hraise _
  · exact hraise _
  split
  · exact hraise _
  · rename_i hwalk
    have hmoved := OperationLedger.MovedTo.of_walk hwalk
      (show landing op.state [.writing] = some .writing by rw [hstate]; rfl)
    refine lawful_begins hop hstate ?_ hmoved rfl ?_ fun _ h => h
    · exact ⟨rfl, rfl, rfl, rfl⟩
    · show attempts op.state [.writing] = _
      rw [hstate]

theorem beginOperation_lawful (hc : Consistent db.queue)
    (hop : db.operations.get? id = some op) (hstate : op.state = .claimed) (config : WriterConfig)
    (r : ProcessReply) : (beginOperation py validate config db id r).Lawful db id op := by
  simp only [beginOperation, hop, hstate, ne_eq, not_true_eq_false, if_false]
  split
  · exact beginUndo_lawful hc hop hstate config r
  · exact beginApply_lawful hc hop hstate config r

theorem applyRaised_lawful (hc : Consistent db.queue) (hop : db.operations.get? id = some op)
    (hstate : op.state = .writing) (e : PyError) : (applyRaised db id op e).Lawful db id op := by
  refine conclude_lawful hc hop (by rw [hstate]; rfl) (.refl op) hstate ?_ idle_fits
  unfold raisedVerdict
  split
  · exact ⟨.restored, rfl, rfl⟩
  · exact ⟨.restoreFailed, rfl, rfl⟩
  · exact ⟨.unknown, rfl, rfl⟩

theorem prepareApply_lawful (hc : Consistent db.queue) (hop : db.operations.get? id = some op)
    (hstate : op.state = .writing) (config : WriterConfig) (before : Readback) (r : PrepareReply) :
    (prepareApply py config db id op before r).Lawful db id op := by
  unfold prepareApply
  split
  · exact lawful_raising_now hop (.inr hstate) _
  split
  · exact applyRaised_lawful hc hop hstate _
  split
  · exact lawful_raising_now hop (.inr hstate) _
  · refine lawful_stays rfl rfl rfl rfl (fun _ ht => absurd ht List.not_mem_nil) ?_
    show db.stateOf id = some .writing
    rw [stateOf_of_get? hop, hstate]

theorem writeChange_lawful (hc : Consistent db.queue) (hop : db.operations.get? id = some op)
    (hstate : op.state = .writing) (config : WriterConfig) (before : Readback) (changeId : ℕ)
    (change : Change) (cover : Option String) (r : WriteReply) :
    (writeChange py config db id op before changeId change cover r).Lawful db id op := by
  have hwriting : db.stateOf id = some .writing := by rw [stateOf_of_get? hop, hstate]
  unfold writeChange
  split
  · exact applyRaised_lawful hc hop hstate _
  dsimp only
  split
  · exact lawful_stays (by simp) (by simp) (by simp) (by simp)
      (fun _ ht => absurd ht List.not_mem_nil) hwriting
  · exact lawful_stays (by simp) (by simp) (by simp) (by simp)
      (fun _ ht => absurd ht List.not_mem_nil) hwriting

theorem compensation_settles {message : String} {verdict : Except PyError Bool}
    {steps : List OperationState} {texts : Option String × Option String} {status : String}
    {changeId : ℕ} {state : OperationState} (hsteps : landing state steps = some .restoring) :
    (compensation message verdict steps texts status changeId).Settles state := by
  have key : ∀ s, landing state (steps ++ [s]) = landing .restoring [s] := by
    intro s
    rw [landing_append, hsteps, Option.bind_some]
  unfold compensation
  split
  · exact ⟨.restored, (key _).trans rfl, rfl⟩
  · exact ⟨.restoreFailed, (key _).trans rfl, rfl⟩

theorem verifyRelocated_keeps {libraryPath : Option String} {reading : Reading}
    {op' : OperationLedger} (h : verifyRelocated py validate libraryPath db op reading = .ok op') :
    op.Keeps op' ∧ op'.state = op.state := by
  unfold verifyRelocated at h
  split at h
  · split at h
    · cases h
    · split at h
      · cases h
      · unfold alignVerifiedCalibrePaths at h
        split at h
        · cases h
        · cases h
          exact ⟨⟨rfl, rfl, rfl, rfl⟩, rfl⟩
  · cases h
    exact ⟨.refl op, rfl⟩

theorem finishApply_lawful (hc : Consistent db.queue) (hop : db.operations.get? id = some op)
    (hstate : op.state = .writing) (config : WriterConfig) (before : Readback) (changeId : ℕ)
    (change : Change) (r : FinishReply) :
    (finishApply py validate config db id op before changeId change r).Lawful db id op := by
  have hwork : op.state.stage = .working := by rw [hstate]; rfl
  have hatt : ∀ t ∈ attempts op.state [.verifying], t.2 ∈ allowedTransitions t.1 := by
    rw [hstate]
    decide
  have hraise : ∀ e, Outcome.Lawful db id op
      { db, control := .raised id e, attempted := attempts op.state [.verifying] } :=
    fun e => lawful_raising hop (.inr hstate) e hatt
  unfold finishApply
  dsimp only
  split
  · split
    · refine conclude_lawful hc hop hwork ⟨rfl, rfl, rfl, rfl⟩ hstate ?_ idle_fits
      exact compensation_settles rfl
    · exact hraise _
  · rename_i op₁ hrel
    obtain ⟨hkeeps, hstate₁⟩ := verifyRelocated_keeps hrel
    have hkeeps' : op.Keeps op₁ :=
      ⟨hkeeps.bookKey, hkeeps.pilotId, hkeeps.policyVersion, hkeeps.operationType⟩
    have hwriting : op₁.state = .writing := hstate₁.trans hstate
    split
    · exact hraise _
    split
    · exact hraise _
    · refine conclude_lawful hc hop hwork ?_ hwriting ⟨.succeeded, rfl, rfl⟩ idle_fits
      exact ⟨hkeeps'.bookKey, hkeeps'.pilotId, hkeeps'.policyVersion, hkeeps'.operationType⟩
    · refine conclude_lawful hc hop hwork ?_ hwriting (compensation_settles rfl) idle_fits
      exact ⟨hkeeps'.bookKey, hkeeps'.pilotId, hkeeps'.policyVersion, hkeeps'.operationType⟩

theorem finishUndo_lawful (hc : Consistent db.queue) (hop : db.operations.get? id = some op)
    (hstate : op.state = .writing) (config : WriterConfig) (before : Readback) (changeId : ℕ)
    (change : Change) (r : UndoReply) :
    (finishUndo py config db id op before changeId change r).Lawful db id op := by
  have hwork : op.state.stage = .working := by rw [hstate]; rfl
  have hatt : ∀ t ∈ attempts op.state [.verifying], t.2 ∈ allowedTransitions t.1 := by
    rw [hstate]
    decide
  unfold finishUndo
  split
  · exact lawful_raising_now hop (.inr hstate) _
  dsimp only
  split
  · exact lawful_raising hop (.inr hstate) _ fun _ ht => absurd ht List.not_mem_nil
  · exact lawful_raising hop (.inr hstate) _ hatt
  split
  · exact lawful_raising hop (.inr hstate) _ hatt
  · exact conclude_lawful hc hop hwork ⟨rfl, rfl, rfl, rfl⟩ hstate ⟨.succeeded, rfl, rfl⟩ idle_fits
  · refine conclude_lawful hc hop hwork ⟨rfl, rfl, rfl, rfl⟩ hstate ?_ idle_fits
    split
    · exact ⟨.restored, rfl, rfl⟩
    · exact ⟨.restoreFailed, rfl, rfl⟩

theorem failOperation_lawful (hc : Consistent db.queue) (hop : db.operations.get? id = some op)
    (hwork : AtWork op) (exc : PyError) : (failOperation db id exc).Lawful db id op := by
  rw [failOperation, hop]
  rcases hwork with h | h
  · exact conclude_lawful hc hop (by rw [h]; rfl) (.refl op) h ⟨.failed, by rw [h]; rfl, rfl⟩
      idle_fits
  · exact conclude_lawful hc hop (by rw [h]; rfl) (.refl op) h ⟨.unknown, by rw [h]; rfl, rfl⟩
      idle_fits

end Parts

/-! ### Reconciliation -/

/-- The states between a claim and a verdict that a crash can leave. -/
def Interrupted (state : OperationState) : Prop :=
  state = .writing ∨ state = .verifying ∨ state = .restoring

theorem landing_restoringPath {state : OperationState} (h : Interrupted state) :
    landing state (restoringPath state) = some .restoring := by
  rcases h with rfl | rfl | rfl <;> rfl

theorem landing_restored {state s : OperationState} (h : Interrupted state)
    (hs : s ∈ allowedTransitions .restoring) :
    landing state (restoringPath state ++ [s]) = some s := by
  rw [landing_append, landing_restoringPath h, Option.bind_some, landing, if_pos hs]
  rfl

theorem markUnknown_settles {op : OperationLedger} {state : OperationState}
    (hstate : op.state = state) (h : Interrupted state) (error : String)
    (change : Option (ℕ × ChangeStatus)) : (markUnknown op [] error change).Settles state := by
  subst hstate
  unfold markUnknown Verdict.Settles
  rcases h with h | h | h <;> rw [h]
  · exact ⟨.unknown, rfl, rfl⟩
  · exact ⟨.unknown, rfl, rfl⟩
  · exact ⟨.restoreFailed, rfl, rfl⟩

theorem markUnknown_restoring_settles {op : OperationLedger} {state : OperationState}
    (hstate : op.state = state) (h : Interrupted state) (error : String)
    (change : Option (ℕ × ChangeStatus)) :
    (markUnknown op (restoringPath op.state) error change).Settles state := by
  subst hstate
  unfold markUnknown Verdict.Settles
  rcases h with h | h | h <;> rw [h] <;> exact ⟨.restoreFailed, rfl, rfl⟩

theorem succeeded_settles {state : OperationState} (h : state = .writing ∨ state = .verifying)
    (error eventError : Option String) (bookStatus : String) (change : Option (ℕ × ChangeStatus)) :
    Verdict.Settles ⟨succeededPath state, error, true, eventError, bookStatus, change⟩ state := by
  rcases h with rfl | rfl
  · exact ⟨.succeeded, rfl, rfl⟩
  · exact ⟨.succeeded, rfl, rfl⟩

/-- What reconciliation decides settles the operation, whose row it keeps. -/
structure Decision.Sound (op : OperationLedger) (d : Decision) : Prop where
  keeps : op.Keeps d.op
  state : d.op.state = op.state
  settles : d.verdict.Settles op.state

section Decisions

variable {db : Db} {op op₀ : OperationLedger}

theorem markUnknown_sound {last : Option Readback} (hkeeps : op₀.Keeps op)
    (hstate : op.state = op₀.state) (h : Interrupted op₀.state) (error : String)
    (change : Option (ℕ × ChangeStatus)) :
    Decision.Sound op₀ { op, verdict := markUnknown op [] error change, last } :=
  ⟨hkeeps, hstate, markUnknown_settles hstate h error change⟩

theorem reconcilePartial_sound (hkeeps : op₀.Keeps op) (hstate : op.state = op₀.state)
    (h : Interrupted op₀.state) (config : WriterConfig) (before : Dict)
    (change : Option (ℕ × Change)) (live : Readback) (r : ReconcileReply) :
    (reconcilePartial py config op before change live r).Sound op₀ := by
  unfold reconcilePartial
  split
  · exact markUnknown_sound hkeeps hstate h _ _
  refine ⟨hkeeps, hstate, ?_⟩
  dsimp only
  split
  · exact markUnknown_restoring_settles hstate h _ _
  · rw [hstate]
    exact ⟨.restored, landing_restored h (by decide), rfl⟩
  · rw [hstate]
    exact ⟨.restoreFailed, landing_restored h (by decide), rfl⟩

theorem reconcileChanged_sound (hkeeps : op₀.Keeps op) (hstate : op.state = op₀.state)
    (h : Interrupted op₀.state) (config : WriterConfig) (before : Dict)
    (change : Option (ℕ × Change)) (live : Readback) (e : PyError) (r : ReconcileReply) :
    (reconcileChanged py config op before change live e r).Sound op₀ := by
  unfold reconcileChanged
  dsimp only
  split
  · exact markUnknown_sound hkeeps hstate h _ _
  refine ⟨hkeeps, hstate, ?_⟩
  dsimp only
  split
  · exact markUnknown_restoring_settles hstate h _ _
  · rw [hstate]
    exact ⟨.restored, landing_restored h (by decide), rfl⟩

theorem decideApply_sound (h : Interrupted op.state) (config : WriterConfig) (before : Dict)
    (change : Option (ℕ × Change)) (r : ReconcileReply) :
    (decideApply py validate config db op before change r).Sound op := by
  have hobserved : ∀ record, op.Keeps { op with observedMetadata := some record } :=
    fun _ => ⟨rfl, rfl, rfl, rfl⟩
  unfold decideApply
  dsimp only
  split
  · exact markUnknown_sound (.refl op) rfl h _ _
  split
  · split
    · exact reconcileChanged_sound (hobserved _) rfl h _ _ _ _ _ _
    · exact markUnknown_sound (hobserved _) rfl h _ _
  rename_i op₁ hrel
  obtain ⟨hk, hstate⟩ := verifyRelocated_keeps hrel
  have hkeeps : op.Keeps op₁ := ⟨hk.bookKey, hk.pilotId, hk.policyVersion, hk.operationType⟩
  have hsame : op₁.state = op.state := hstate
  split
  · exact markUnknown_sound hkeeps hsame h _ _
  · split
    · rename_i hstates
      rw [hsame] at hstates
      refine ⟨hkeeps, hsame, ?_⟩
      rw [hsame]
      exact succeeded_settles hstates _ _ _ _
    · exact markUnknown_sound hkeeps hsame h _ _
  split
  · exact markUnknown_sound hkeeps hsame h _ _
  · refine ⟨hkeeps, hsame, ?_⟩
    rw [hsame]
    exact ⟨.restored, landing_restored h (by decide), rfl⟩
  · exact reconcilePartial_sound hkeeps hsame h _ _ _ _ _

theorem decideUndo_sound (h : Interrupted op.state) (config : WriterConfig) (before : Dict)
    (changeId : ℕ) (r : ReconcileReply) : (decideUndo py config op before changeId r).Sound op := by
  have hkeeps : ∀ record, op.Keeps { op with observedMetadata := some record } :=
    fun _ => ⟨rfl, rfl, rfl, rfl⟩
  unfold decideUndo
  split
  · exact markUnknown_sound (.refl op) rfl h _ _
  dsimp only
  split
  · exact markUnknown_sound (hkeeps _) rfl h _ _
  · split
    · rename_i hstates
      exact ⟨hkeeps _, rfl, succeeded_settles hstates _ _ _ _⟩
    · exact markUnknown_sound (hkeeps _) rfl h _ _
  split
  · exact markUnknown_sound (hkeeps _) rfl h _ _
  · exact ⟨hkeeps _, rfl, .restored, landing_restored h (by decide), rfl⟩
  · refine ⟨hkeeps _, rfl, ?_⟩
    dsimp only
    split
    · exact markUnknown_restoring_settles rfl h _ _
    · exact ⟨.restored, landing_restored h (by decide), rfl⟩

theorem reconcileDecision_sound (h : Interrupted op.state) (config : WriterConfig) (id : String)
    (r : ReconcileReply) : (reconcileDecision py validate config db id op r).Sound op := by
  unfold reconcileDecision
  split
  · unfold reconcileUndo
    split
    · exact decideUndo_sound h _ _ _ _
    · exact markUnknown_sound (.refl op) rfl h _ _
  · unfold reconcileApply
    split
    · exact markUnknown_sound (.refl op) rfl h _ _
    · exact decideApply_sound h _ _ _ _

end Decisions

/-- A claimed operation that goes back gives up its lock. -/
theorem requeue_spec {db : Db} {id : String} {op : OperationLedger} (hc : Consistent db.queue)
    (hop : db.operations.get? id = some op) (hstate : op.state = .claimed) :
    ∃ db' op', requeue db id op = .ok db' ∧ WorkQueue.Step db.queue db'.queue ∧
      db'.operations = db.operations.set id op' ∧ op.Keeps op' ∧ op'.state = .requested ∧
      db'.pilots = db.pilots := by
  obtain ⟨event, hev, -⟩ := exists_event hc hop
  have hallowed : OperationState.requested ∈ allowedTransitions op.state := by
    rw [hstate]
    decide
  obtain ⟨op₁, hop₁, e, c, rfl⟩ := transitionOperation_spec hallowed none
  let op₂ : OperationLedger := { op with
    state := .requested, error := e, completed := c, leaseOwner := none, leaseExpiresAt := none }
  let event' : OutboxEvent := { event with status := .pending, lastError := none }
  let db' : Db := { db with
    operations := db.operations.set id op₂
    outbox := db.outbox.set id event'
    locks := releaseLock db.locks op.bookKey id }
  have hrequeue : requeue db id op = .ok db' := by
    rw [requeue, hop₁, hev]
  have hjob : db.queue.job id = some (op.bookKey, .working) := by
    show (db.operations.get? id).map _ = _
    rw [hop, Option.map_some, hstate]
    rfl
  have hops : db'.operations = db.operations.set id op₂ := rfl
  have hout : db'.outbox = db.outbox.set id event' := rfl
  have hq := queue_put db db' hops hout rfl (holder_releaseLock db.locks op.bookKey id)
  refine ⟨db', op₂, hrequeue, ?_, rfl, ⟨rfl, rfl, rfl, rfl⟩, rfl, rfl⟩
  rw [hq]
  exact .release id op.bookKey hjob

/-- One pass of reconciliation, over an operation in flight. -/
theorem reconcileOperation_lawful {db : Db} {id : String} {op : OperationLedger}
    {rest : List String} (hc : Consistent db.queue) (hop : db.operations.get? id = some op)
    (hin : op.state ∈ inflightStates) (hrest : (Control.reconciling rest).Fits db)
    (hid : id ∉ rest) (config : WriterConfig) (r : ReconcileReply) :
    (reconcileOperation py validate config db id rest r).Lawful db id op := by
  have hnext : ∀ db' : Db, (∀ j, j ≠ id → db'.stateOf j = db.stateOf j) →
      (Control.reconciling rest).Fits db' := by
    intro db' hsame
    refine ⟨hrest.1, fun j hj => ?_⟩
    obtain ⟨state, hs, hstate⟩ := hrest.2 j hj
    refine ⟨state, hs, ?_⟩
    rw [hsame j fun heq => hid (heq ▸ hj), hstate]
  simp only [reconcileOperation, hop]
  split
  · rename_i hclaimed
    split
    · exact lawful_stays rfl rfl rfl rfl (fun _ ht => absurd ht List.not_mem_nil) hrest
    · obtain ⟨db', op', hrequeue, hstep, hops, hkeeps, -, hpilots⟩ :=
        requeue_spec hc hop hclaimed
      rw [hrequeue]
      exact {
        moves := .single hstep
        attempted := by
          show ∀ t ∈ attempts op.state [.requested], _
          rw [hclaimed]
          decide
        fits := hnext db' fun j hj => by
          rw [Db.stateOf, hops, Table.get?_set_of_ne _ _ hj, Db.stateOf]
        rows := .inr ⟨op', hops, hkeeps⟩
        pilots := hpilots }
  · rename_i hclaimed
    have hinterrupted : Interrupted op.state := by
      simp only [inflightStates, List.mem_cons, List.not_mem_nil, or_false] at hin
      exact hin.resolve_left hclaimed
    have hwork : op.state.stage = .working := by
      rcases hinterrupted with h | h | h <;> rw [h] <;> rfl
    have hd : (reconcileDecision py validate config db id op r).Sound op :=
      reconcileDecision_sound hinterrupted config id r
    exact conclude_lawful hc hop hwork hd.keeps hd.state hd.settles hnext

end Ledger

end Bookwarden
