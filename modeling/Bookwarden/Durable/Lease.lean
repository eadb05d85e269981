import Bookwarden.Durable.Store
import Bookwarden.Lib.Runs

/-!
# The lease under interleaving

A call on the lease selects the row of the run, decides in the process, and commits later. There is
no row lock, and the update names no expected value: it writes the columns the process changed,
whatever the row holds by then. `finish` takes no owner at all.

## Main definitions

* `Call`, `Write` — a call, and a decision that is not committed yet
* `LeaseWorld`, `LeaseEvent`, `execLease` — the run, a common clock, the decisions in flight, and
  the leases that the calls have granted
* `isolated` — a commit that finds the lease as it was read, and a finish under a lease of its caller

## Main results

* `two_owners_hold` — two claims whose reads precede both commits are both granted
* `loser_finishes` — a worker whose heartbeat was refused ends the run of the holder
* `lease_exclusive` — in every run of isolated events at most one owner holds an unexpired lease,
  and only that owner ends the run
-/

namespace Bookwarden

namespace Durable

open CertificateA

/-- A call on the run; `finish` with the process it is called from. -/
inductive Call
  | claim (owner : String) (ttlSeconds : ℤ)
  | heartbeat (owner : String) (ttlSeconds : ℤ)
  | release (owner : String)
  | finish (caller : String) (status : RunStatus)
  deriving DecidableEq, Repr

/-- A decision in flight: the call, the row it read, the row it decided on. -/
structure Write where
  call : Call
  seen : VerificationRun
  new : VerificationRun
  deriving DecidableEq, Repr

/-- The database, the common clock, the decisions in flight, and the leases held: the owners whose
last claim or heartbeat returned true, with the expiry it was given. -/
structure LeaseWorld where
  db : Db
  now : Moment
  inFlight : List Write := []
  granted : List (String × Moment) := []

/-- Time passes, a call reads the run under a moment it took `lag` ago, a decision is committed. -/
inductive LeaseEvent
  | wait (d : ℕ)
  | read (call : Call) (lag : ℕ)
  | commit (i : ℕ)
  deriving DecidableEq, Repr

variable (runId : String)

/-- What a call decides on the row it read; `none` ends the call. -/
def Call.decide (db : Db) (moment : Moment) (run : VerificationRun) : Call → Option VerificationRun
  | .claim owner ttl => if owner = "" then none else claimRow run owner moment ttl
  | .heartbeat owner ttl => heartbeatRow run owner moment ttl
  | .release owner => releaseRow run owner
  | .finish _ status => some (finishRow db runId run status moment)

/-- The column after the update: a value the process did not change is not written. -/
def flushColumn {α : Type} [DecidableEq α] (seen new row : α) : α := if new = seen then row else new

/-- The row after the update of a decision. -/
def flush (seen new row : VerificationRun) : VerificationRun := { row with
  status := flushColumn seen.status new.status row.status
  finishedAt := flushColumn seen.finishedAt new.finishedAt row.finishedAt
  completed := flushColumn seen.completed new.completed row.completed
  counts := flushColumn seen.counts new.counts row.counts
  leaseOwner := flushColumn seen.leaseOwner new.leaseOwner row.leaseOwner
  leaseExpiresAt := flushColumn seen.leaseExpiresAt new.leaseExpiresAt row.leaseExpiresAt }

/-- The leases held after a call has returned. -/
def Call.grant (new : VerificationRun) (granted : List (String × Moment)) :
    Call → List (String × Moment)
  | .claim owner _ | .heartbeat owner _ => match new.leaseExpiresAt with
    | some expires => Assoc.set owner expires granted
    | none => granted
  | .release owner => Assoc.erase owner granted
  | .finish .. => granted

/-- The leases held after a call that decided nothing: a release gives up what was held. -/
def Call.refused (granted : List (String × Moment)) : Call → List (String × Moment)
  | .release owner => Assoc.erase owner granted
  | _ => granted

/-- The world after an event. -/
def execLease (w : LeaseWorld) : LeaseEvent → LeaseWorld
  | .wait d => { w with now := w.now + d }
  | .read call lag => match w.db.runs.get? runId with
    | none => { w with granted := call.refused w.granted }
    | some run => match call.decide runId w.db (w.now - lag) run with
      | none => { w with granted := call.refused w.granted }
      | some new => { w with inFlight := w.inFlight ++ [⟨call, run, new⟩] }
  | .commit i => match w.inFlight[i]?, w.db.runs.get? runId with
    | some write, some row => { w with
        db := { w.db with runs := w.db.runs.set runId (flush write.seen write.new row) }
        inFlight := w.inFlight.eraseIdx i
        granted := write.call.grant write.new w.granted }
    | _, _ => w

/-- The owner holds a lease it knows to be unexpired. -/
def LeaseWorld.holds (w : LeaseWorld) (owner : String) : Bool :=
  match Assoc.get? owner w.granted with
  | some expires => w.now < expires
  | none => false

/-- The commit of a lease call finds the lease as the call read it; a finish is committed while the
lease its caller was granted has not expired. -/
def isolated (w : LeaseWorld) : LeaseEvent → Bool
  | .commit i => match w.inFlight[i]?, w.db.runs.get? runId with
    | some write, some row => match write.call with
      | .finish caller _ => w.holds caller
      | _ => row.leaseOwner = write.seen.leaseOwner && row.leaseExpiresAt = write.seen.leaseExpiresAt
    | _, _ => true
  | _ => true

/-- The run names the owner under an unexpired lease. -/
def HoldsRun (w : LeaseWorld) (owner : String) : Prop :=
  ∃ run expires, w.db.runs.get? runId = some run ∧ run.leaseOwner = some owner ∧
    run.leaseExpiresAt = some expires ∧ w.now < expires

/-- The run is in a terminal status. -/
def Ended (w : LeaseWorld) : Prop :=
  ∃ run, w.db.runs.get? runId = some run ∧ run.status ∈ terminalRunStatuses

/-- The process that calls finish. -/
def Call.caller : Call → Option String
  | .finish caller _ => some caller
  | _ => none

variable {runId}

/-! ### Decisions -/

theorem claimRow_spec {run new : VerificationRun} {owner : String} {moment : Moment} {ttl : ℤ}
    (h : claimRow run owner moment ttl = some new) :
    heldByOther run owner moment = false ∧ new.leaseOwner = some owner ∧
      new.leaseExpiresAt = some (moment + seconds (max 1 ttl)) ∧
      (new.status = run.status ∨ new.status = .running) := by
  rw [claimRow] at h
  split at h
  · cases h
  · rename_i hfree
    cases h
    refine ⟨?_, rfl, rfl, ?_⟩
    · simpa using fun hheld => hfree (Or.inr (Or.inr hheld))
    · by_cases hactive : run.status ∈ activeRunStatuses
      · exact Or.inl (if_pos hactive)
      · exact Or.inr (if_neg hactive)

theorem heartbeatRow_spec {run new : VerificationRun} {owner : String} {moment : Moment} {ttl : ℤ}
    (h : heartbeatRow run owner moment ttl = some new) :
    run.leaseOwner = some owner ∧ new.leaseOwner = some owner ∧
      new.leaseExpiresAt = some (moment + seconds (max 1 ttl)) ∧ new.status = run.status := by
  rw [heartbeatRow] at h
  split at h
  · cases h
  · rename_i howner
    cases h
    have hrun : run.leaseOwner = some owner := not_not.mp fun hno => howner (Or.inl hno)
    exact ⟨hrun, hrun, rfl, rfl⟩

theorem releaseRow_spec {run new : VerificationRun} {owner : String}
    (h : releaseRow run owner = some new) :
    run.leaseOwner = some owner ∧ new.leaseOwner = none ∧ new.status = run.status := by
  rw [releaseRow] at h
  split at h
  · cases h
  · rename_i howner
    cases h
    exact ⟨not_not.mp howner, rfl, rfl⟩

/-- The owner of a call on the lease. -/
def Call.owner : Call → Option String
  | .claim owner _ | .heartbeat owner _ | .release owner => some owner
  | .finish .. => none

section LeaseCall

variable {db : Db} {moment : Moment} {seen new : VerificationRun} {call : Call} {owner : String}
  (hcall : call.owner = some owner) (hdec : call.decide runId db moment seen = some new)
include hcall hdec

/-- A call on the lease finds it free for its owner, or its owner's. -/
theorem lease_free_of_decide :
    heldByOther seen owner moment = false ∨ seen.leaseOwner = some owner := by
  cases call with
  | finish caller status => cases hcall
  | claim other ttl =>
    cases hcall
    rw [Call.decide] at hdec
    split at hdec
    · cases hdec
    · exact Or.inl (claimRow_spec hdec).1
  | heartbeat other ttl =>
    cases hcall
    exact Or.inr (heartbeatRow_spec hdec).1
  | release other =>
    cases hcall
    exact Or.inr (releaseRow_spec hdec).1

/-- A call on the lease leaves the status, or starts the run. -/
theorem status_of_decide : new.status = seen.status ∨ new.status = .running := by
  cases call with
  | finish caller status => cases hcall
  | claim other ttl =>
    rw [Call.decide] at hdec
    split at hdec
    · cases hdec
    · exact (claimRow_spec hdec).2.2.2
  | heartbeat other ttl => exact Or.inl (heartbeatRow_spec hdec).2.2.2
  | release other => exact Or.inl (releaseRow_spec hdec).2.2

/-- A call on the lease writes no empty owner. -/
theorem owner_ne_empty_of_decide (hseen : seen.leaseOwner ≠ some "") :
    new.leaseOwner ≠ some "" := by
  cases call with
  | finish caller status => cases hcall
  | claim other ttl =>
    rw [Call.decide] at hdec
    split at hdec
    · cases hdec
    · rename_i hname
      rw [(claimRow_spec hdec).2.1]
      exact fun heq => hname (Option.some.inj heq)
  | heartbeat other ttl =>
    obtain ⟨hrun, hnew, -⟩ := heartbeatRow_spec hdec
    rw [hnew, ← hrun]
    exact hseen
  | release other =>
    rw [(releaseRow_spec hdec).2.1]
    exact fun heq => by cases heq

/-- A lease held after the call is its owner's, as the row will say, or was held before. -/
theorem get?_grant {granted : List (String × Moment)} {other : String} {expires : Moment}
    (h : Assoc.get? other (call.grant new granted) = some expires) :
    (other = owner ∧ new.leaseOwner = some owner ∧ new.leaseExpiresAt = some expires) ∨
      (other ≠ owner ∧ Assoc.get? other granted = some expires) := by
  have hset : ∀ e, new.leaseOwner = some owner → new.leaseExpiresAt = some e →
      Assoc.get? other (Assoc.set owner e granted) = some expires →
      (other = owner ∧ new.leaseOwner = some owner ∧ new.leaseExpiresAt = some expires) ∨
        (other ≠ owner ∧ Assoc.get? other granted = some expires) := by
    intro e hown hexp hget
    rw [Assoc.get?_set] at hget
    split at hget
    · rename_i hother
      cases hget
      exact Or.inl ⟨hother, hown, hexp⟩
    · rename_i hother
      exact Or.inr ⟨hother, hget⟩
  cases call with
  | finish caller status => cases hcall
  | claim other' ttl =>
    cases hcall
    rw [Call.decide] at hdec
    split at hdec
    · cases hdec
    · obtain ⟨-, hown, hexp, -⟩ := claimRow_spec hdec
      simp only [Call.grant, hexp] at h
      exact hset _ hown hexp h
  | heartbeat other' ttl =>
    cases hcall
    obtain ⟨-, hown, hexp, -⟩ := heartbeatRow_spec hdec
    simp only [Call.grant, hexp] at h
    exact hset _ hown hexp h
  | release other' =>
    cases hcall
    simp only [Call.grant, Assoc.get?_erase] at h
    split at h
    · cases h
    · rename_i hother
      exact Or.inr ⟨hother, h⟩

end LeaseCall

theorem flushColumn_same {α : Type} [DecidableEq α] {seen new row : α} (h : row = seen) :
    flushColumn seen new row = new := by
  rw [flushColumn]
  split
  · rename_i hnew
    rw [h, hnew]
  · rfl

theorem flushColumn_unchanged {α : Type} [DecidableEq α] {seen new row : α} (h : new = seen) :
    flushColumn seen new row = row := if_pos h

/-! ### The invariant -/

variable (runId) in
/-- Whoever holds an unexpired lease is the owner the row names, under that expiry. -/
structure Exclusive (w : LeaseWorld) : Prop where
  held : ∀ owner expires, Assoc.get? owner w.granted = some expires → w.now < expires →
    ∃ run, w.db.runs.get? runId = some run ∧ run.leaseOwner = some owner ∧
      run.leaseExpiresAt = some expires
  named : ∀ run, w.db.runs.get? runId = some run → run.leaseOwner ≠ some ""
  decided : ∀ write ∈ w.inFlight, ∃ db moment, moment ≤ w.now ∧
    write.call.decide runId db moment write.seen = some write.new

theorem Exclusive.holder {w : LeaseWorld} (h : Exclusive runId w) {owner : String}
    (hholds : w.holds owner = true) : HoldsRun runId w owner := by
  rw [LeaseWorld.holds] at hholds
  cases hget : Assoc.get? owner w.granted with
  | none =>
    rw [hget] at hholds
    cases hholds
  | some expires =>
    rw [hget] at hholds
    have hlt : w.now < expires := by simpa using hholds
    obtain ⟨run, hrun, howner, hexp⟩ := h.held owner expires hget hlt
    exact ⟨run, expires, hrun, howner, hexp, hlt⟩

theorem HoldsRun.unique {w : LeaseWorld} {o₁ o₂ : String} (h₁ : HoldsRun runId w o₁)
    (h₂ : HoldsRun runId w o₂) : o₁ = o₂ := by
  obtain ⟨run, _, hrun, howner, -⟩ := h₁
  obtain ⟨run', _, hrun', howner', -⟩ := h₂
  rw [hrun] at hrun'
  cases hrun'
  rw [howner] at howner'
  exact Option.some.inj howner'

/-- Time ends leases and starts none. -/
theorem Exclusive.wait {w : LeaseWorld} (h : Exclusive runId w) (d : ℕ) :
    Exclusive runId (execLease runId w (.wait d)) := by
  refine ⟨fun owner expires hget hlt => ?_, h.named, fun write hmem => ?_⟩
  · have hlt' : w.now + d < expires := hlt
    have hlt'' : w.now < expires :=
      lt_of_le_of_lt (Int.le_add_of_nonneg_right (Int.natCast_nonneg d)) hlt'
    exact h.held owner expires hget hlt''
  · obtain ⟨db, moment, hle, hdec⟩ := h.decided write hmem
    exact ⟨db, moment, hle.trans (Int.le_add_of_nonneg_right (Int.natCast_nonneg d)), hdec⟩

theorem get?_refused {granted : List (String × Moment)} {call : Call} {owner : String}
    {expires : Moment} (h : Assoc.get? owner (call.refused granted) = some expires) :
    Assoc.get? owner granted = some expires := by
  cases call with
  | release other =>
    rw [Call.refused, Assoc.get?_erase] at h
    split at h
    · cases h
    · exact h
  | _ => exact h

theorem Exclusive.read {w : LeaseWorld} (h : Exclusive runId w) (call : Call) (lag : ℕ) :
    Exclusive runId (execLease runId w (.read call lag)) := by
  have hrefused : Exclusive runId { w with granted := call.refused w.granted } :=
    ⟨fun owner expires hget hlt => h.held owner expires (get?_refused hget) hlt, h.named, h.decided⟩
  rw [execLease]
  cases hrun : w.db.runs.get? runId with
  | none => exact hrefused
  | some run =>
    simp only
    cases hdec : call.decide runId w.db (w.now - lag) run with
    | none => exact hrefused
    | some new =>
      refine ⟨h.held, h.named, fun write hmem => ?_⟩
      rcases List.mem_append.mp hmem with hold | hnew
      · exact h.decided write hold
      · rw [List.mem_singleton] at hnew
        subst hnew
        exact ⟨w.db, w.now - lag, Int.sub_le_self _ (Int.natCast_nonneg lag), hdec⟩

/-- A finish changes no lease column. -/
theorem flush_finish (runId : String) (db : Db) (run row : VerificationRun) (status : RunStatus) (moment : Moment) :
    (flush run (finishRow db runId run status moment) row).leaseOwner = row.leaseOwner ∧
      (flush run (finishRow db runId run status moment) row).leaseExpiresAt = row.leaseExpiresAt :=
  ⟨flushColumn_unchanged rfl, flushColumn_unchanged rfl⟩

/-- What the commit of one decision leaves of the lease, when the row is as it was read. -/
theorem flush_lease {seen row : VerificationRun} (new : VerificationRun)
    (howner : row.leaseOwner = seen.leaseOwner) (hexp : row.leaseExpiresAt = seen.leaseExpiresAt) :
    (flush seen new row).leaseOwner = new.leaseOwner ∧
      (flush seen new row).leaseExpiresAt = new.leaseExpiresAt :=
  ⟨flushColumn_same howner, flushColumn_same hexp⟩

/-- Nobody but the owner of a call holds the lease the call finds. -/
theorem Exclusive.sole {w : LeaseWorld} (h : Exclusive runId w) {row seen : VerificationRun}
    {owner : String} {moment : Moment} (hrow : w.db.runs.get? runId = some row)
    (howner : row.leaseOwner = seen.leaseOwner) (hexp : row.leaseExpiresAt = seen.leaseExpiresAt)
    (hle : moment ≤ w.now)
    (hfree : heldByOther seen owner moment = false ∨ seen.leaseOwner = some owner) {other : String}
    {expires : Moment} (hget : Assoc.get? other w.granted = some expires) (hlt : w.now < expires) :
    other = owner := by
  obtain ⟨run, hrun, hother, hexpires⟩ := h.held other expires hget hlt
  rw [hrow] at hrun
  cases hrun
  rcases hfree with hfree | hown
  · by_contra hne
    have hname : other ≠ "" := fun hempty => h.named row hrow (by rw [hother, hempty])
    have hmoment : moment < expires := lt_of_le_of_lt hle hlt
    rw [heldByOther, ← howner, ← hexp, hother, hexpires] at hfree
    simp [hname, hne, hmoment] at hfree
  · rw [howner, hown] at hother
    exact (Option.some.inj hother).symm

/-- A commit leaves the leases held to one owner. -/
theorem Exclusive.commit {w : LeaseWorld} (h : Exclusive runId w) {i : ℕ}
    (hiso : isolated runId w (.commit i) = true) :
    Exclusive runId (execLease runId w (.commit i)) := by
  rw [execLease]
  cases hwrite : w.inFlight[i]? with
  | none => exact h
  | some write =>
    cases hrow : w.db.runs.get? runId with
    | none => exact h
    | some row =>
      have hdecided : ∀ write' ∈ w.inFlight.eraseIdx i, ∃ db moment, moment ≤ w.now ∧
          write'.call.decide runId db moment write'.seen = some write'.new := fun write' hmem =>
        h.decided write' (List.mem_of_mem_eraseIdx hmem)
      obtain ⟨db, moment, hle, hdec⟩ := h.decided write (List.mem_of_getElem? hwrite)
      cases hcall : write.call.owner with
      | none =>
        obtain ⟨call, seen, new⟩ := write
        cases call with
        | finish caller status =>
          have hnew : finishRow db runId seen status moment = new := Option.some.inj hdec
          subst hnew
          obtain ⟨ho, he⟩ := flush_finish runId db seen row status moment
          refine ⟨fun owner expires hget hlt => ?_, fun run hrun => ?_, hdecided⟩
          · obtain ⟨run, hrun, hown, hexp⟩ := h.held owner expires hget hlt
            rw [hrow] at hrun
            cases hrun
            exact ⟨_, Table.get?_set_self _ _ _, ho.trans hown, he.trans hexp⟩
          · rw [Table.get?_set_self] at hrun
            cases hrun
            rw [ho]
            exact h.named row hrow
        | _ => cases hcall
      | some owner =>
        have hlease : row.leaseOwner = write.seen.leaseOwner ∧
            row.leaseExpiresAt = write.seen.leaseExpiresAt := by
          simp only [isolated, hwrite, hrow] at hiso
          cases hc : write.call with
          | finish caller status =>
            rw [hc] at hcall
            cases hcall
          | _ => simpa [hc] using hiso
        obtain ⟨ho, he⟩ := flush_lease write.new hlease.1 hlease.2
        refine ⟨fun other expires hget hlt => ?_, fun run hrun => ?_, hdecided⟩
        · rcases get?_grant hcall hdec hget with ⟨hother, hown, hexp⟩ | ⟨hother, hold⟩
          · exact ⟨_, Table.get?_set_self _ _ _, by rw [ho, hown, hother], he.trans hexp⟩
          · exact absurd (h.sole hrow hlease.1 hlease.2 hle (lease_free_of_decide hcall hdec) hold
              hlt) hother
        · rw [Table.get?_set_self] at hrun
          cases hrun
          rw [ho]
          refine owner_ne_empty_of_decide hcall hdec ?_
          rw [← hlease.1]
          exact h.named row hrow

/-- **One isolated event.** -/
theorem Exclusive.step {w : LeaseWorld} (h : Exclusive runId w) {e : LeaseEvent}
    (hiso : isolated runId w e = true) : Exclusive runId (execLease runId w e) := by
  cases e with
  | wait d => exact h.wait d
  | read call lag => exact h.read call lag
  | commit i => exact h.commit hiso

/-! ### The end of a run -/

/-- Only a finish ends a run. -/
theorem exists_caller_of_ended {w : LeaseWorld} (h : Exclusive runId w) {i : ℕ}
    (hbefore : ¬ Ended runId w) (hafter : Ended runId (execLease runId w (.commit i))) :
    ∃ write row caller status, w.inFlight[i]? = some write ∧ w.db.runs.get? runId = some row ∧
      write.call = .finish caller status := by
  rw [execLease] at hafter
  cases hwrite : w.inFlight[i]? with
  | none =>
    rw [hwrite] at hafter
    exact absurd hafter hbefore
  | some write =>
    cases hrow : w.db.runs.get? runId with
    | none =>
      rw [hwrite, hrow] at hafter
      exact absurd hafter hbefore
    | some row =>
      simp only [hwrite, hrow] at hafter
      cases hcall : write.call.owner with
      | none =>
        obtain ⟨call, seen, new⟩ := write
        cases call with
        | finish caller status => exact ⟨_, row, caller, status, rfl, rfl, rfl⟩
        | _ => cases hcall
      | some owner =>
        exfalso
        obtain ⟨db, moment, -, hdec⟩ := h.decided write (List.mem_of_getElem? hwrite)
        obtain ⟨run, hrun, hended⟩ := hafter
        rw [Table.get?_set_self] at hrun
        cases hrun
        have hrow' : row.status ∉ terminalRunStatuses := fun hterm => hbefore ⟨row, hrow, hterm⟩
        have hrunning : RunStatus.running ∉ terminalRunStatuses := by decide
        rw [show (flush write.seen write.new row).status
          = flushColumn write.seen.status write.new.status row.status from rfl, flushColumn] at hended
        split at hended
        · exact hrow' hended
        · rename_i hchanged
          rcases status_of_decide hcall hdec with hsame | hrun'
          · exact hchanged hsame
          · exact hrunning (hrun' ▸ hended)

/-- **An end by the holder.** An isolated commit that ends the run is the finish of a process that
holds the run under an unexpired lease. -/
theorem ended_by_holder {w : LeaseWorld} (h : Exclusive runId w) {i : ℕ}
    (hiso : isolated runId w (.commit i) = true) (hbefore : ¬ Ended runId w)
    (hafter : Ended runId (execLease runId w (.commit i))) :
    ∃ write caller status, w.inFlight[i]? = some write ∧ write.call = .finish caller status ∧
      HoldsRun runId w caller := by
  obtain ⟨write, row, caller, status, hwrite, hrow, hcall⟩ := exists_caller_of_ended h hbefore hafter
  refine ⟨write, caller, status, hwrite, hcall, h.holder ?_⟩
  simpa only [isolated, hwrite, hrow, hcall] using hiso

variable (runId) in
/-- The run before its first lease. -/
def Unleased (w : LeaseWorld) : Prop :=
  w.inFlight = [] ∧ w.granted = [] ∧
    ∀ run, w.db.runs.get? runId = some run → run.leaseOwner = none

theorem Unleased.exclusive {w : LeaseWorld} (h : Unleased runId w) : Exclusive runId w := by
  obtain ⟨hflight, hgranted, hnone⟩ := h
  refine ⟨fun owner expires hget => ?_, fun run hrun heq => ?_, fun write hmem => ?_⟩
  · rw [hgranted] at hget
    cases hget
  · rw [hnone run hrun] at heq
    cases heq
  · rw [hflight] at hmem
    exact absurd hmem List.not_mem_nil

/-- **The lease is exclusive.** In every run of isolated events at most one owner holds an unexpired
lease, and whatever commit ends the run is the finish of that owner. -/
theorem lease_exclusive (runId : String) (w : LeaseWorld) (hstart : Unleased runId w)
    (es : List LeaseEvent)
    (hiso : Runs.Meets (execLease runId) (fun w e => isolated runId w e = true) w es) :
    (∀ o₁ o₂, (Runs.run (execLease runId) w es).holds o₁ = true →
      (Runs.run (execLease runId) w es).holds o₂ = true → o₁ = o₂) ∧
    (∀ fs i gs, es = fs ++ .commit i :: gs → ¬ Ended runId (Runs.run (execLease runId) w fs) →
      Ended runId (Runs.run (execLease runId) w (fs ++ [.commit i])) →
      ∃ write caller status, (Runs.run (execLease runId) w fs).inFlight[i]? = some write ∧
        write.call = .finish caller status ∧ HoldsRun runId (Runs.run (execLease runId) w fs) caller) := by
  have hinv : ∀ fs, Runs.Meets (execLease runId) (fun w e => isolated runId w e = true) w fs →
      Exclusive runId (Runs.run (execLease runId) w fs) := fun fs hfs =>
    hfs.invariant (Exclusive runId) (fun _ _ hok h => h.step hok) hstart.exclusive
  refine ⟨fun o₁ o₂ h₁ h₂ => ?_, fun fs i gs hes hbefore hafter => ?_⟩
  · exact ((hinv es hiso).holder h₁).unique ((hinv es hiso).holder h₂)
  · rw [hes, Runs.Meets.append] at hiso
    rw [Runs.run_append] at hafter
    exact ended_by_holder (hinv fs hiso.1) hiso.2.1 hbefore hafter

/-! ### Two owners of one run -/

/-- A run without a lease. -/
def freeWorld : LeaseWorld where
  db := ⟨Table.empty.set "run" {
    status := .running
    startedAt := 0
    pipelineVersion := "manifestation-v2"
    mode := "shadow" }, .empty, .empty, .empty⟩
  now := 0

/-- Both claims read the run before either is committed: both owners hold it. -/
theorem two_owners_hold :
    (Runs.run (execLease "run") freeWorld [.read (.claim "a" 120) 0, .read (.claim "b" 120) 0,
      .commit 0, .commit 0]).holds "a" = true ∧
    (Runs.run (execLease "run") freeWorld [.read (.claim "a" 120) 0, .read (.claim "b" 120) 0,
      .commit 0, .commit 0]).holds "b" = true := by
  decide

/-- The lease of `a` runs out, `b` claims the run, the heartbeat of `a` is refused, and `a` marks
the run as failed. -/
def loserEvents : List LeaseEvent :=
  [.read (.claim "a" 120) 0, .commit 0, .wait 121000000, .read (.claim "b" 120) 0, .commit 0,
    .read (.heartbeat "a" 120) 0, .read (.finish "a" .failed) 0]

theorem loser_finishes :
    (Runs.run (execLease "run") freeWorld loserEvents).holds "a" = false ∧
    (Runs.run (execLease "run") freeWorld loserEvents).holds "b" = true ∧
    (Runs.run (execLease "run") freeWorld loserEvents).inFlight.map (·.call) = [.finish "a" .failed] ∧
    ((Runs.run (execLease "run") freeWorld (loserEvents ++ [.commit 0])).db.runs.get? "run").map
      (·.status) = some .failed := by
  decide

/-- Without isolation two owners hold the run, and a process that does not hold it ends it. -/
theorem lease_not_exclusive :
    (∃ es, ∃ o₁ o₂, (Runs.run (execLease "run") freeWorld es).holds o₁ = true ∧
      (Runs.run (execLease "run") freeWorld es).holds o₂ = true ∧ o₁ ≠ o₂) ∧
    (∃ es caller other, (Runs.run (execLease "run") freeWorld es).holds caller = false ∧
      (Runs.run (execLease "run") freeWorld es).holds other = true ∧
      (Runs.run (execLease "run") freeWorld es).inFlight.map (·.call) = [.finish caller .failed] ∧
      ((Runs.run (execLease "run") freeWorld (es ++ [.commit 0])).db.runs.get? "run").map
        (·.status) = some .failed) := by
  obtain ⟨ha, hb⟩ := two_owners_hold
  obtain ⟨hlost, hheld, hcall, hended⟩ := loser_finishes
  exact ⟨⟨_, "a", "b", ha, hb, by decide⟩, ⟨loserEvents, "a", "b", hlost, hheld, hcall, hended⟩⟩

/-- A worker that claims, works within its lease and finishes. -/
def workerEvents : List LeaseEvent :=
  [.read (.claim "a" 120) 0, .commit 0, .wait 1000000, .read (.finish "a" .completed) 0, .commit 0]

theorem lease_exclusive_worker :
    (∀ o₁ o₂, (Runs.run (execLease "run") freeWorld workerEvents).holds o₁ = true →
      (Runs.run (execLease "run") freeWorld workerEvents).holds o₂ = true → o₁ = o₂) ∧
    (∀ fs i gs, workerEvents = fs ++ .commit i :: gs →
      ¬ Ended "run" (Runs.run (execLease "run") freeWorld fs) →
      Ended "run" (Runs.run (execLease "run") freeWorld (fs ++ [.commit i])) →
      ∃ write caller status, (Runs.run (execLease "run") freeWorld fs).inFlight[i]? = some write ∧
        write.call = .finish caller status ∧
        HoldsRun "run" (Runs.run (execLease "run") freeWorld fs) caller) :=
  lease_exclusive "run" freeWorld ⟨rfl, rfl, fun run hrun => by cases hrun; rfl⟩ workerEvents
    (by decide)

end Durable

end Bookwarden
