import Bookwarden.Lib.Runs
import Bookwarden.Lib.UniqueIndex
import Bookwarden.CanonicalJson
import Bookwarden.CertificateA.Store

/-!
# Starting a verification

`start_verification` of `web/api/production_verify.py`. A request reads the run with its idempotency
key, then the active run of the source, and then commits a new run; the database refuses a commit
that would give two runs one key, or one source two active runs. A refused commit is rolled back and
both reads are made again. Nothing locks the table, so any number of other requests, and the
verifier, can come in between any two of these steps.

`_configuration_errors` and the canonical root only depend on the settings of the process and are
taken from it; `effective_config` is written and never read here.

## Main definitions

* `RequestedRun`, `RunTable` — a run with the columns of its request, and the table with its unique
  constraints
* `VerifyRequest`, `requestSha256`
* `Phase`, `Response`, `Call.step` — a request at work
* `exec` — requests arriving, requests taking a step, and the verifier writing to its run
-/

namespace Bookwarden

namespace CertificateA

namespace Start

variable (py : Runtime)

/-! ### Runs -/

/-- A row of `VerificationRun` with the columns of the request. -/
structure RequestedRun extends VerificationRun where
  idempotencyKey : Option String := none
  requestSha256 : Option String := none
  sourceRoot : Option String := none
  sourceRootSha256 : Option String := none
  deriving DecidableEq, Repr

/-- The source the partial index `uq_verificationrun_active_source` has for a row. -/
def RequestedRun.activeSource (run : RequestedRun) : Option String :=
  if run.contractVersion = some contractVersion ∧ run.status ∈ claimableStatuses then
    run.sourceRootSha256
  else none

/-- The runs, under the two unique constraints. -/
structure RunTable where
  rows : Table String RequestedRun
  /-- `uq_verificationrun_idempotency_key`. -/
  keys : rows.Unique RequestedRun.idempotencyKey
  /-- `uq_verificationrun_active_source`. -/
  active : rows.Unique RequestedRun.activeSource

/-- Write a row; `none` is the `IntegrityError`. -/
def RunTable.write (t : RunTable) (runId : String) (run : RequestedRun) : Option RunTable :=
  if h : t.rows.Admits RequestedRun.idempotencyKey runId run
      ∧ t.rows.Admits RequestedRun.activeSource runId run then
    some ⟨t.rows.set runId run, t.keys.set h.1, t.active.set h.2⟩
  else none

/-- Insert a row; the id is unique as well. -/
def RunTable.insert (t : RunTable) (runId : String) (run : RequestedRun) : Option RunTable :=
  if (t.rows.get? runId).isSome then none else t.write runId run

/-- `_existing_for_key`. -/
def RunTable.existingForKey (t : RunTable) (key : String) : Option (String × RequestedRun) :=
  t.rows.rows.find? fun r => r.2.idempotencyKey = some key

/-- `_active_for_source`. -/
def RunTable.activeForSource (t : RunTable) (source : String) : Option (String × VerificationRun) :=
  earliest ((t.rows.rows.filter fun r => r.2.activeSource = some source).map fun r =>
    (r.1, r.2.toVerificationRun))

/-! ### Requests -/

/-- `CertificateAVerifyRequest`; its confirmation is always true. -/
structure VerifyRequest where
  limit : Option {n : ℕ // 0 < n ∧ n ≤ 10000} := none
  useOcr : Bool := true
  deriving DecidableEq

/-- `model_dump(mode="json")`. -/
def VerifyRequest.toJson (r : VerifyRequest) : Json :=
  .obj [("limit", match r.limit with
      | none => .null
      | some n => .int n.1),
    ("use_ocr", .bool r.useOcr), ("confirm_calibre_stopped", .bool true)]

/-- `_request_sha256`. -/
def requestSha256 (r : VerifyRequest) : String := hashJson py r.toJson

/-- The settings of the process: what `_configuration_errors` finds in them, and the library. -/
structure StartSettings where
  configurationErrors : List String
  libraryPath : String

/-- `_canonical_root`. -/
def StartSettings.sourceRoot (s : StartSettings) : String := canonicalPath py s.libraryPath

/-- The hash of the root. -/
def StartSettings.sourceRootSha256 (s : StartSettings) : String := py.sha256 (s.sourceRoot py)

/-- What a request is answered. The conflicts have status 409. -/
inductive Response
  | configurationInvalid (checks : List String)
  | accepted (runId : String)
  | idempotencyKeyReused
  | activeRunExists (runId : String)
  | verificationRequestConflict
  deriving DecidableEq, Repr

/-- Is it a conflict? -/
def Response.isConflict : Response → Bool
  | configurationInvalid _ | accepted _ => false
  | idempotencyKeyReused | activeRunExists _ | verificationRequestConflict => true

/-- The next step of a request. -/
inductive Phase
  | readKey
  | readActive
  | commit
  | rereadKey
  | rereadActive
  | answered (response : Response)
  deriving DecidableEq, Repr

/-- A request at work. -/
structure Call where
  idempotencyKey : String
  request : VerifyRequest
  phase : Phase := .readKey
  deriving DecidableEq

/-- `_idempotent_or_conflict`. -/
def idempotentOrConflict (existing : String × RequestedRun) (sha256 : String) : Response :=
  if existing.2.requestSha256 ≠ some sha256 then .idempotencyKeyReused else .accepted existing.1

/-- The run a request inserts. -/
def newRun (settings : StartSettings) (c : Call) (now : Moment) : RequestedRun where
  status := .pending
  startedAt := now
  pipelineVersion := "manifestation-v2"
  mode := "shadow"
  contractVersion := some contractVersion
  idempotencyKey := some c.idempotencyKey
  requestSha256 := some (requestSha256 py c.request)
  sourceRoot := some (settings.sourceRoot py)
  sourceRootSha256 := some (settings.sourceRootSha256 py)

/-- One step of `start_verification`: the runs and the phase after it. `runId` is the id drawn for a
new run, and `now` its `started_at`. -/
def Call.step (settings : StartSettings) (runs : RunTable) (c : Call) (runId : String)
    (now : Moment) : RunTable × Phase :=
  match c.phase with
  | .readKey =>
    if settings.configurationErrors ≠ [] then
      (runs, .answered (.configurationInvalid settings.configurationErrors))
    else match runs.existingForKey c.idempotencyKey with
      | some existing =>
        (runs, .answered (idempotentOrConflict existing (requestSha256 py c.request)))
      | none => (runs, .readActive)
  | .readActive => match runs.activeForSource (settings.sourceRootSha256 py) with
    | some active => (runs, .answered (.activeRunExists active.1))
    | none => (runs, .commit)
  | .commit => match runs.insert runId (newRun py settings c now) with
    | some runs' => (runs', .answered (.accepted runId))
    | none => (runs, .rereadKey)
  | .rereadKey => match runs.existingForKey c.idempotencyKey with
    | some raced => (runs, .answered (idempotentOrConflict raced (requestSha256 py c.request)))
    | none => (runs, .rereadActive)
  | .rereadActive => match runs.activeForSource (settings.sourceRootSha256 py) with
    | some active => (runs, .answered (.activeRunExists active.1))
    | none => (runs, .answered .verificationRequestConflict)
  | .answered response => (runs, .answered response)

/-! ### Any number of requests -/

/-- The runs, and the requests so far. -/
structure World where
  runs : RunTable
  calls : List Call := []

/-- What can happen. The verifier writes its own columns of a run, also its final status; the
database refuses what would break a constraint. -/
inductive Event
  | arrive (idempotencyKey : String) (request : VerifyRequest)
  | step (i : ℕ) (runId : String) (now : Moment)
  | verifier (runId : String) (run : VerificationRun)

/-- One event. -/
def exec (settings : StartSettings) (w : World) : Event → World
  | .arrive key request => { w with calls := w.calls ++ [{ idempotencyKey := key, request }] }
  | .step i runId now => match w.calls[i]? with
    | none => w
    | some c =>
      let next := c.step py settings w.runs runId now
      { runs := next.1, calls := w.calls.set i { c with phase := next.2 } }
  | .verifier runId run => match w.runs.rows.get? runId with
    | none => w
    | some row => match w.runs.write runId { row with toVerificationRun := run } with
      | none => w
      | some runs => { w with runs }

end Start

end CertificateA

end Bookwarden
