import Bookwarden.Lib.Runs
import Bookwarden.Python

/-!
# Jobs of the Valkey queue

`ValkeyQueue.update_job` reads the whole record of a job, changes it and writes it back; the client's
`get` and `set` are atomic, and anything can happen between them. `run_job_from_payload` awaits its
own updates, but the progress callback starts an update as a task of its own, which nobody awaits.

`log` is a ghost: the updates in the order of their writes. So is `expired`, which says that the
record was dropped by its time to live.

## Main definitions

* `jobData`, `applyUpdate`, `runUpdate` — a record, and the steps of one `update_job`
* `Main`, `Task`, `World` — a job at work, with the progress updates it has started
* `exec` — one client call, or one step of the job
-/

namespace Bookwarden

namespace Queue

/-! ### Records -/

/-- What `enqueue` stores for a job. -/
def jobData (jobId task : String) (payload : Json) (now : String) : Dict :=
  [("job_id", .str jobId), ("status", .str "pending"), ("task", .str task), ("payload", payload),
    ("progress", .int 0), ("total", .int 0), ("result", .null), ("error", .null),
    ("created_at", .str now), ("updated_at", .str now)]

/-- A stored record; a record of a finished job expires. -/
structure Record where
  data : Dict
  expires : Bool := false
  deriving DecidableEq

/-- `job_data.update(updates)` and the new `updated_at`. -/
def applyUpdate (read updates : Dict) (now : String) : Dict :=
  Assoc.set "updated_at" (.str now) (Assoc.update read updates)

/-- The next client call of an `update_job`. -/
inductive UpdatePhase
  | get
  | set (read : Dict) (now : String)
  deriving DecidableEq

/-- What a client call leaves: the record, the next call if there is one, and what was written. -/
structure Updated where
  store : Option Record
  next : Option UpdatePhase := none
  written : List Dict := []

/-- One client call of `update_job`. Without a record there is nothing to update. -/
def runUpdate (store : Option Record) (updates : Dict) (now : String) : UpdatePhase → Updated
  | .get => match store with
    | some record =>
      if record.data = [] then { store } else { store, next := some (.set record.data now) }
    | none => { store }
  | .set read at_ =>
    let data := applyUpdate read updates at_
    { store := some ⟨data, data.get "status" = .str "completed" || data.get "status" = .str "failed"⟩
      written := [updates] }

/-! ### A job at work -/

/-- What the function of a job came to. -/
inductive Outcome
  | completed (result : Json)
  | failed (error : String)
  deriving DecidableEq

/-- The final update. -/
def Outcome.updates : Outcome → Dict
  | completed result => [("status", .str "completed"), ("result", result)]
  | failed error => [("status", .str "failed"), ("error", .str error)]

/-- The first update. -/
def runningUpdate : Dict := [("status", .str "running")]

/-- The update of the progress callback. -/
def progressUpdate (current total : ℤ) : Dict := [("progress", .int current), ("total", .int total)]

/-- Where `run_job_from_payload` stands. -/
inductive Main
  | starting (phase : UpdatePhase)
  | executing
  | finishing (outcome : Outcome) (phase : UpdatePhase)
  | returned (outcome : Outcome)
  | raised
  deriving DecidableEq

/-- The update the job waits for. -/
def Main.current : Main → Option (Dict × UpdatePhase)
  | starting phase => some (runningUpdate, phase)
  | finishing outcome phase => some (outcome.updates, phase)
  | _ => none

/-- The job after a client call of its update: at the next call, or behind the update. -/
def Main.advance : Main → Option UpdatePhase → Main
  | starting _, some phase => starting phase
  | starting _, none => executing
  | finishing outcome _, some phase => finishing outcome phase
  | finishing outcome _, none => returned outcome
  | m, _ => m

/-- The job after a client call of its update has raised. An update to `completed` stands in the
`try`, whose handler updates to `failed`. -/
def Main.raise (error : String) : Main → Main
  | finishing (.completed _) _ => finishing (.failed error) .get
  | _ => raised

/-- A progress update, once its task has ended without a next call. -/
structure Task where
  current : ℤ
  total : ℤ
  phase : Option UpdatePhase := some .get
  deriving DecidableEq

/-- The record of a job, the job and its progress updates. -/
structure World where
  store : Option Record
  main : Main := .starting .get
  tasks : List Task := []
  log : List Dict := []
  expired : Bool := false

/-- What can happen. The function of a job calls its progress callback any number of times, and
returns or raises; a payload that cannot be resolved is a job that fails. -/
inductive Event
  | main (now : String)
  | mainRaises (error : String)
  | progress (current total : ℤ)
  | finish (outcome : Outcome)
  | task (i : ℕ) (now : String)
  | taskRaises (i : ℕ)
  | expire

/-- One event. -/
def exec (w : World) : Event → World
  | .main now => match w.main.current with
    | none => w
    | some (updates, phase) =>
      let u := runUpdate w.store updates now phase
      { w with store := u.store, main := w.main.advance u.next, log := w.log ++ u.written }
  | .mainRaises error => match w.main.current with
    | none => w
    | some _ => { w with main := w.main.raise error }
  | .progress current total => match w.main with
    | .executing => { w with tasks := w.tasks ++ [{ current, total }] }
    | _ => w
  | .finish outcome => match w.main with
    | .executing => { w with main := .finishing outcome .get }
    | _ => w
  | .task i now => match w.tasks[i]? with
    | some ⟨current, total, some phase⟩ =>
      let u := runUpdate w.store (progressUpdate current total) now phase
      { w with
        store := u.store
        tasks := w.tasks.set i ⟨current, total, u.next⟩
        log := w.log ++ u.written }
    | _ => w
  | .taskRaises i => match w.tasks[i]? with
    | some t => { w with tasks := w.tasks.set i { t with phase := none } }
    | none => w
  | .expire => match w.store with
    | some ⟨_, true⟩ => { w with store := none, expired := true }
    | _ => w

/-- A job that was queued and is picked up. -/
def World.queued (jobId task : String) (payload : Json) (now : String) : World where
  store := some ⟨jobData jobId task payload now, false⟩

end Queue

end Bookwarden
