import Bookwarden.Ledger.Consistency

/-!
# The budget of a supervised pilot

The count of a pilot's operations is kept twice, in its session and in the ledger; the two never
differ and never exceed the limit. At most one V2 operation is unfinished, and nothing is reserved
next to an event that is neither published nor validly acknowledged.

## Main definitions

* `Budget` — the two counts, the limit, and one unfinished V2 operation
* `ValidlyAcknowledged`

## Main results

* `exec_budget`, `run_budget`
* `pilot_budget` — for every run
-/

namespace Bookwarden

namespace Ledger

variable {py : Runtime} {validate : Dict → Option EvidencePackageV2}

/-- The operations a pilot's session has counted; a pilot without a session has counted none. -/
def reservedOf (db : Db) (pilotId : String) : ℕ :=
  match db.pilots.get? pilotId with
  | some pilot => pilot.reservedOperations
  | none => 0

/-- A V2 operation that is not terminal. -/
def UnfinishedV2 (op : OperationLedger) : Prop :=
  op.policyVersion = "manifestation-v2" ∧ op.state ∈ nonterminalStates

/-- The session and the ledger count alike, within the limit, and at most one V2 operation is
unfinished. -/
structure Budget (db : Db) : Prop where
  counted : ∀ p, reservedOf db p = pilotOperationCount db p
  limited : ∀ p pilot, db.pilots.get? p = some pilot →
    (pilot.reservedOperations : ℤ) ≤ pilot.maxOperations ∧ pilot.maxOperations ≤ 5
  single : ∀ id id' op op', db.operations.get? id = some op → db.operations.get? id' = some op' →
    UnfinishedV2 op → UnfinishedV2 op' → id = id'

/-- The acknowledgement of an incident that lets the queue of another pilot go on. -/
structure ValidlyAcknowledged (db : Db) (pilotId id : String) (op : OperationLedger)
    (event : OutboxEvent) : Prop where
  acknowledged : (db.acknowledgements.get? id).isSome
  failed : op.state = .failed
  completed : op.completed = true
  event : event.status = .failed
  stopped : ∃ p pilot, op.pilotId = some p ∧ p ≠ pilotId ∧ db.pilots.get? p = some pilot ∧
    pilot.state = .stopped
  unlocked : db.locks.get? op.bookKey = none

/-! ### One event -/

/-- Tables that did not change. -/
theorem Budget.of_same {db db' : Db} (h : Budget db) (hops : db'.operations = db.operations)
    (hpilots : db'.pilots = db.pilots) : Budget db' where
  counted p := by
    rw [reservedOf, pilotOperationCount, hops, hpilots]
    exact h.counted p
  limited p pilot hp := h.limited p pilot (by rw [← hpilots]; exact hp)
  single := by
    rw [hops]
    exact h.single

/-- A row that is written again keeps its pilot, and a finished V2 operation stays finished. -/
theorem Budget.of_rewrite {db db' : Db} (h : Budget db) {id : String} {op op' : OperationLedger}
    (hop : db.operations.get? id = some op) (hstate : op.state ∈ nonterminalStates)
    (hkeeps : op.Keeps op') (hops : db'.operations = db.operations.set id op')
    (hpilots : db'.pilots = db.pilots) : Budget db' where
  counted p := by
    have hcount : pilotOperationCount db' p = pilotOperationCount db p := by
      rw [pilotOperationCount, hops, pilotOperationCount]
      exact Table.count_set_same hop (by rw [hkeeps.pilotId])
    rw [hcount, reservedOf, hpilots]
    exact h.counted p
  limited p pilot hp := h.limited p pilot (by rw [← hpilots]; exact hp)
  single := by
    have key : ∀ j opj, db'.operations.get? j = some opj → UnfinishedV2 opj →
        ∃ opj', db.operations.get? j = some opj' ∧ UnfinishedV2 opj' := by
      intro j opj hj hu
      rw [hops, Table.get?_set] at hj
      split at hj
      · rename_i heq
        cases hj
        exact ⟨op, heq ▸ hop, hkeeps.policyVersion ▸ hu.1, hstate⟩
      · exact ⟨opj, hj, hu⟩
    intro i j opi opj hi hj hui huj
    obtain ⟨opi', hi', hui'⟩ := key i opi hi hui
    obtain ⟨opj', hj', huj'⟩ := key j opj hj huj
    exact h.single i j opi' opj' hi' hj' hui' huj'

/-- A new operation is found in its place, and the others where they were. -/
theorem get?_new {db db' : Db} {id j : String} {op opj : OperationLedger}
    (hops : db'.operations = db.operations.set id op) (hj : db'.operations.get? j = some opj) :
    (j = id ∧ opj = op) ∨ db.operations.get? j = some opj := by
  rw [hops, Table.get?_set] at hj
  split at hj
  · rename_i heq
    exact .inl ⟨heq, (Option.some.inj hj).symm⟩
  · exact .inr hj

theorem Budget.of_adds {db db' : Db} (h : Budget db) (hadds : Adds db db') : Budget db' := by
  cases hadds with
  | same hops _ _ hpilots => exact h.of_same hops hpilots
  | new id op hnew hstate hpilot hpolicy hops _ _ hpilots =>
    refine ⟨fun p => ?_, fun p pilot hp => h.limited p pilot (by rw [← hpilots]; exact hp), ?_⟩
    · rw [pilotOperationCount, hops, Table.count_set_new hnew, hpilot, reservedOf, hpilots]
      exact h.counted p
    · -- a legacy operation is no V2 operation
      have hlegacy : ¬ UnfinishedV2 op := fun hu => by
        rw [UnfinishedV2, hpolicy] at hu
        exact absurd hu.1 (by decide)
      intro i j opi opj hi hj hui huj
      rcases get?_new hops hi with ⟨-, rfl⟩ | hi
      · exact absurd hui hlegacy
      rcases get?_new hops hj with ⟨-, rfl⟩ | hj
      · exact absurd huj hlegacy
      · exact h.single i j opi opj hi hj hui huj

theorem Budget.of_reserved {db db' db₁ : Db} {pilot : PilotGuard} {id : String}
    {stored : PilotSession} {op : OperationLedger} (h : Budget db)
    (hr : Reserved db pilot db' id db₁ stored op) : Budget db' := by
  have hpilots : ∀ p, db'.pilots.get? p = if p = pilot.pilotId then
      some { stored with reservedOperations := stored.reservedOperations + 1 }
      else db.pilots.get? p := by
    intro p
    rw [hr.pilots, Table.get?_set]
    split
    · rfl
    · rename_i hp
      exact hr.ready.others p hp
  refine ⟨fun p => ?_, fun p pilot' hp => ?_, fun i j opi opj hi hj hui huj => ?_⟩
  · rw [pilotOperationCount, hr.operations, Table.count_set_new hr.new, hr.bound, reservedOf,
      hpilots]
    by_cases hp : p = pilot.pilotId
    · have hcount := hr.ready.counted
      rw [pilotOperationCount] at hcount
      simp [hp, hcount]
    · have hcount := h.counted p
      rw [reservedOf, pilotOperationCount] at hcount
      simp [hp, Ne.symm hp, hcount]
  · rw [hpilots] at hp
    split at hp
    · cases hp
      have hroom := hr.ready.room
      have hlimit := hr.limit
      rw [← hr.ready.limit] at hlimit
      refine ⟨?_, hlimit⟩
      show ((stored.reservedOperations + 1 : ℕ) : ℤ) ≤ stored.maxOperations
      omega
    · exact h.limited p pilot' hp
  · rcases get?_new hr.operations hi with ⟨rfl, -⟩ | hi
    · rcases get?_new hr.operations hj with ⟨rfl, -⟩ | hj
      · rfl
      · exact absurd huj.2 (hr.quiet j opj hj)
    · exact absurd hui.2 (hr.quiet i opi hi)

theorem Budget.of_pilotStop {db : Db} (h : Budget db) (pilotId : String) :
    Budget (pilotStop db pilotId) := by
  unfold pilotStop
  split
  · exact h
  · rename_i pilot hpilot
    refine ⟨fun p => ?_, fun p pilot' hp => ?_, h.single⟩
    · have hcount := h.counted p
      rw [reservedOf] at hcount ⊢
      simp only [Table.get?_set]
      split
      · rename_i pilot' heq
        split at heq
        · rename_i hp
          cases heq
          rw [hp, hpilot] at hcount
          rw [hp]
          exact hcount
        · rw [heq] at hcount
          exact hcount
      · rename_i heq
        split at heq
        · cases heq
        · rw [heq] at hcount
          exact hcount
    · change (db.pilots.set pilotId _).get? p = some pilot' at hp
      rw [Table.get?_set] at hp
      split at hp
      · cases hp
        exact h.limited pilotId pilot hpilot
      · exact h.limited p pilot' hp

theorem Budget.of_lawful {db : Db} (h : Budget db) {id : String} {op : OperationLedger}
    {o : Outcome} (hop : db.operations.get? id = some op) (hstate : op.state ∈ nonterminalStates)
    (ho : o.Lawful db id op) : Budget o.db := by
  rcases ho.rows with hops | ⟨op', hops, hkeeps⟩
  · exact h.of_same hops ho.pilots
  · exact h.of_rewrite hop hstate hkeeps hops ho.pilots

theorem Budget.of_does {s s' : State} (h : Budget s.db) (hdoes : Does s s') : Budget s'.db := by
  cases hdoes with
  | moves config c hc => exact h
  | adds db' hadds =>
    show Budget db'
    induction hadds with
    | refl => exact h
    | tail _ hone ih => exact ih.of_adds hone
  | reserves db' db₁ pilot id stored op hreserved => exact h.of_reserved hreserved
  | stops pilotId => exact h.of_pilotStop pilotId
  | claims db' id op op' hclaimed =>
    exact h.of_rewrite hclaimed.found (by rw [hclaimed.requested]; decide) hclaimed.keeps
      hclaimed.operations hclaimed.pilots
  | works id op o hop hstate ho => exact h.of_lawful hop hstate ho

theorem initial_budget : Budget State.initial.db where
  counted _ := rfl
  limited _ _ hp := by cases hp
  single _ _ _ _ hop := by cases hop

/-- **Run lemma.** -/
theorem run_budget (es : List Event) :
    (Runs.run (exec py validate) State.initial es).Lawful ∧
      Budget (Runs.run (exec py validate) State.initial es).db := by
  refine Runs.invariant (fun s : State => s.Lawful ∧ Budget s.db) (fun s e h => ?_)
    ⟨initial_lawful, initial_budget⟩ es
  have hdoes : Does s (exec py validate s e) := exec_does h.1 e
  exact ⟨(hdoes.lawful h.1).1, h.2.of_does hdoes⟩

/-! ### Reservations -/

theorem validly_of_unblocked {db : Db} {pilotId id : String} {op : OperationLedger}
    {event : OutboxEvent} (hop : db.operations.get? id = some op)
    (hunpublished : event.status ≠ .published) (h : blocksQueue db pilotId id event = false) :
    ValidlyAcknowledged db pilotId id op event := by
  simp only [blocksQueue, hop, Option.any_some, Option.all_some, Option.bind_some,
    Bool.and_eq_false_iff, Bool.or_eq_false_iff, decide_eq_false_iff_not, hunpublished, ne_eq,
    not_true_eq_false, not_false_eq_true, false_or, not_not, Bool.not_eq_false',
    Option.isNone_eq_false_iff] at h
  obtain ⟨⟨⟨⟨⟨⟨⟨⟨⟨hack, -⟩, hfailed⟩, hcompleted⟩, hevent⟩, hpilot⟩, hsession⟩, hstopped⟩, hother⟩,
    hlock⟩ := h
  obtain ⟨p, hp⟩ := Option.isSome_iff_exists.mp hpilot
  rw [hp, Option.bind_some] at hsession hstopped
  obtain ⟨pilot, hpilot'⟩ := Option.isSome_iff_exists.mp hsession
  rw [hpilot', Option.any_some, decide_eq_false_iff_not, not_not] at hstopped
  refine ⟨hack, hfailed, hcompleted, hevent, ⟨p, pilot, hp, ?_, hpilot', hstopped⟩, ?_⟩
  · rintro rfl
    exact hother hp
  · simpa using hlock

/-- A reservation is made only next to events that are published or validly acknowledged. -/
theorem Reserved.acknowledged {db db' db₁ : Db} {pilot : PilotGuard} {id : String}
    {stored : PilotSession} {op : OperationLedger} (h : Reserved db pilot db' id db₁ stored op)
    {j : String} {opj : OperationLedger} {event : OutboxEvent}
    (hop : db.operations.get? j = some opj) (hev : db.outbox.get? j = some event)
    (hunpublished : event.status ≠ .published) :
    ValidlyAcknowledged db pilot.pilotId j opj event := by
  obtain ⟨hops, -, hlocks, hacks⟩ := h.ready.tables
  have hop₁ : db₁.operations.get? j = some opj := by rw [hops]; exact hop
  obtain ⟨hack, hfailed, hcompleted, hevent, ⟨p, session, hp, hne, hsession, hstopped⟩, hlock⟩ :=
    validly_of_unblocked hop₁ hunpublished (h.unblocked j event hev)
  rw [h.ready.others p hne] at hsession
  exact ⟨hacks ▸ hack, hfailed, hcompleted, hevent, ⟨p, session, hp, hne, hsession, hstopped⟩,
    hlocks ▸ hlock⟩

/-- **Pilot budget.** After any run: every pilot's session counts exactly the operations bound to
it, within its limit and within five; at most one V2 operation is not terminal; and a reservation is
made only when every V2 operation's event is published or validly acknowledged. -/
theorem pilot_budget (py : Runtime) (validate : Dict → Option EvidencePackageV2)
    (es : List Event) :
    (∀ p, reservedOf (Runs.run (exec py validate) State.initial es).db p
      = pilotOperationCount (Runs.run (exec py validate) State.initial es).db p) ∧
    (∀ p pilot,
      (Runs.run (exec py validate) State.initial es).db.pilots.get? p = some pilot →
      (pilot.reservedOperations : ℤ) ≤ pilot.maxOperations ∧ pilot.maxOperations ≤ 5) ∧
    (∀ id id' op op',
      (Runs.run (exec py validate) State.initial es).db.operations.get? id = some op →
      (Runs.run (exec py validate) State.initial es).db.operations.get? id' = some op' →
      UnfinishedV2 op → UnfinishedV2 op' → id = id') ∧
    (∀ operationId evidenceId authorizationId pilot result,
      queueV2Operation py validate (Runs.run (exec py validate) State.initial es).db operationId
        evidenceId authorizationId pilot = .ok result →
      ∀ id op event,
        (Runs.run (exec py validate) State.initial es).db.operations.get? id = some op →
        op.policyVersion = "manifestation-v2" →
        (Runs.run (exec py validate) State.initial es).db.outbox.get? id = some event →
        event.status ≠ .published →
        ValidlyAcknowledged (Runs.run (exec py validate) State.initial es).db pilot.pilotId id op
          event) := by
  have hbudget : Budget (Runs.run (exec py validate) State.initial es).db := (run_budget es).2
  refine ⟨hbudget.counted, hbudget.limited, hbudget.single, ?_⟩
  intro operationId evidenceId authorizationId pilot result hres id op event hop _ hev hunpublished
  obtain ⟨db₁, stored, op', hreserved⟩ := queueV2_spec hres
  exact hreserved.acknowledged hop hev hunpublished

end Ledger

end Bookwarden
