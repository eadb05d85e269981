import Bookwarden.Identity.Resolve
import Bookwarden.Lib.Observe
import Mathlib.Data.String.Basic

/-!
# Evidence that must not promote

The current Calibre record, LLM and vision output, `calibre_fetch` and a single OCR observation are
inert: the contract of `identity_v2.py` says they never satisfy a Tier A requirement. Two evidence
lists that differ in inert items only are compared here.

Every reader of the resolver selects on the source kind, and so factors through the filter that
drops inert items, except one. `_external_core_matches` collects the core fields of an exact root
from every authoritative item of that root, whatever its kind, and the last one wins; an inert item
with the root of a provider record can replace, or supply, a field of that record.

## Main results

* `inert_unseen_iff` — the outcome is the same exactly when the last comparison is
* `inert_unseen_of_nonauthoritative` — inert items that are not authoritative are never seen
-/

namespace Bookwarden

variable {py : Runtime} {formats : List FormatEvidence} {evidence evidence' : List SourceEvidence}

/-- The source kinds that may not promote a decision. -/
def inertKinds : List EvidenceSourceKind :=
  [.calibreCurrent, .llm, .vision, .calibreFetch, .ocrObservation]

/-- Evidence of an inert kind. -/
def SourceEvidence.inert (item : SourceEvidence) : Bool := decide (item.sourceKind ∈ inertKinds)

/-- The lists differ by items of inert kinds only, added or removed at any positions. -/
def SameButInert (evidence evidence' : List SourceEvidence) : Prop :=
  evidence.filter (fun i => !i.inert) = evidence'.filter (fun i => !i.inert)

instance : Decidable (SameButInert evidence evidence') :=
  inferInstanceAs (Decidable (_ = _))

/-- What a resolution decides: tier, manifestation identifiers and automatic patch. -/
def ManifestationResolution.outcome (r : ManifestationResolution) :
    IdentityTier × Identifiers × Dict :=
  (r.tier, r.manifestationIds, r.autoPatch)

/-! ### Readers that select on the kind -/

theorem not_inert_of_external {item : SourceEvidence} (h : item.isExternal = true) :
    (!item.inert) = true := by
  simp only [SourceEvidence.isExternal, Bool.and_eq_true, decide_eq_true_eq] at h
  have hk := h.2
  simp only [externalPromotionKinds, List.mem_cons, List.not_mem_nil, or_false] at hk
  rcases hk with hk | hk | hk <;> simp [SourceEvidence.inert, inertKinds, hk]

theorem not_inert_of_confirmsExternally {target : String × String} {item : SourceEvidence}
    (h : item.confirmsExternally target = true) : (!item.inert) = true := by
  simp only [SourceEvidence.confirmsExternally, Bool.and_eq_true] at h
  exact not_inert_of_external h.1.1

theorem not_inert_of_confirmsInternally {target : String × String} {item : SourceEvidence}
    (h : item.confirmsInternally py target = true) : (!item.inert) = true := by
  simp only [SourceEvidence.confirmsInternally, Bool.and_eq_true, decide_eq_true_eq] at h
  have hk := h.1.1.2
  simp only [internalIdentityKinds, List.mem_cons, List.not_mem_nil, or_false] at hk
  rcases hk with hk | hk <;> simp [SourceEvidence.inert, inertKinds, hk]

theorem not_inert_of_eligible {target : String × String} {field : String} {item : SourceEvidence}
    (h : item.eligibleFor target field = true) : (!item.inert) = true := by
  simp only [SourceEvidence.eligibleFor, SourceEvidence.promotes, Bool.and_eq_true,
    decide_eq_true_eq] at h
  have hk := h.1.2
  simp only [internalPromotionKinds, externalPromotionKinds, List.cons_append, List.nil_append,
    List.mem_cons, List.not_mem_nil, or_false] at hk
  rcases hk with hk | hk | hk | hk | hk | hk <;> simp [SourceEvidence.inert, inertKinds, hk]

theorem exactRoots_congr (h : SameButInert evidence evidence') (target : String × String) :
    exactRoots evidence target = exactRoots evidence' target := by
  rw [exactRoots, exactRoots, Observe.filter_eq (fun _ => not_inert_of_confirmsExternally) h]

theorem externalCoreConflicts_congr (h : SameButInert evidence evidence')
    (target : String × String) :
    externalCoreConflicts py formats evidence target
      = externalCoreConflicts py formats evidence' target := by
  rw [externalCoreConflicts, externalCoreConflicts, exactRoots_congr h]
  refine Observe.any_eq (fun item hitem => ?_) h
  simp only [SourceEvidence.conflictsWith, Bool.and_eq_true] at hitem
  exact not_inert_of_external hitem.1.1.1

theorem Comparable.congr (h : SameButInert evidence evidence') {target : String × String}
    (hc : Comparable py formats evidence target) : Comparable py formats evidence' target where
  readable := hc.readable
  ids := hc.ids
  internal := by
    rw [← Observe.any_eq (fun _ => not_inert_of_confirmsInternally) h]; exact hc.internal
  external := by
    rw [← Observe.any_eq (fun _ => not_inert_of_confirmsExternally) h]; exact hc.external
  agree := hc.agree
  complete := hc.complete
  noConflict := by rw [← externalCoreConflicts_congr h]; exact hc.noConflict

/-- A comparable book is admitted or refused by the last comparison. -/
theorem Comparable.passGates_eq {target : String × String}
    (hc : Comparable py formats evidence target) :
    passGates py formats evidence =
      if externalCoreMatches py formats evidence target then .ok target
      else .error ⟨.tierB, [target], "missing_external_core_confirmation",
        "no single structured root confirms identifier, title, authors, and language"⟩ := by
  simp only [passGates, readableFormats_eq hc.readable, hc.ids]
  cases externalCoreMatches py formats evidence target <;>
    simp [hc.internal, hc.external, hc.agree, hc.complete, hc.noConflict]

/-- The early returns read inert items in the last comparison only. -/
theorem passGates_congr (h : SameButInert evidence evidence')
    (hmatch : ∀ target, Comparable py formats evidence target →
      externalCoreMatches py formats evidence target
        = externalCoreMatches py formats evidence' target) :
    passGates py formats evidence = passGates py formats evidence' := by
  by_cases hcomp : ∃ target, Comparable py formats evidence target
  · obtain ⟨target, hc⟩ := hcomp
    rw [hc.passGates_eq, (hc.congr h).passGates_eq, hmatch target hc]
  · -- refused earlier, by a gate that does not see inert items
    have hint : ∀ t, evidence.any (·.confirmsInternally py t)
        = evidence'.any (·.confirmsInternally py t) := fun t =>
      Observe.any_eq (fun _ => not_inert_of_confirmsInternally) h
    have hext : ∀ t, evidence.any (·.confirmsExternally t)
        = evidence'.any (·.confirmsExternally t) := fun t =>
      Observe.any_eq (fun _ => not_inert_of_confirmsExternally) h
    simp only [passGates, hint, hext, externalCoreConflicts_congr h]
    split
    · rfl
    rename_i hone
    split
    · rfl
    rename_i hread
    have hall := readableFormats_length.mp (Decidable.not_not.mp hread)
    simp only [readableFormats_eq hall] at hone ⊢
    split
    · rfl
    rename_i target rest hids
    have hrest : rest = [] := by
      rw [hids] at hone
      simp only [List.length_cons] at hone
      exact List.length_eq_zero_iff.mp (by omega)
    split
    · rfl
    rename_i hi
    split
    · rfl
    rename_i he
    split
    · rfl
    rename_i ha
    split
    · rfl
    rename_i hk
    split
    · rfl
    rename_i hn
    refine absurd ⟨target, ?_⟩ hcomp
    exact ⟨hall, by rw [hids, hrest], by rw [hint]; simpa using hi, by rw [hext]; simpa using he,
      by simpa using ha, by simpa using hk, by rw [externalCoreConflicts_congr h]; simpa using hn⟩

/-! ### The patch -/

theorem decideField_congr (h : SameButInert evidence evidence') (current : Dict)
    (target : String × String) (field : String) :
    decideField py evidence current target field
      = decideField py evidence' current target field := by
  rw [decideField, decideField, Observe.filter_eq (fun _ => not_inert_of_eligible) h]

/-- A field is patched only on eligible evidence for it. -/
theorem exists_eligible_of_patched {current : Dict} {target : String × String} {field : String}
    (h : (decideField py evidence current target field).2 ≠ none) :
    ∃ item ∈ evidence, item.eligibleFor target field = true := by
  by_contra hnone
  push Not at hnone
  have hempty : evidence.filter (·.eligibleFor target field) = [] :=
    List.filter_eq_nil_iff.mpr hnone
  exact h (by simp [decideField, hempty, distinct])

theorem rawPatch_congr (h : SameButInert evidence evidence') (current : Dict)
    (target : String × String) :
    rawPatch py evidence current target = rawPatch py evidence' current target := by
  have hmem : ∀ {e e' : List SourceEvidence} (_ : SameButInert e e') {field : String},
      (decideField py e current target field).2 ≠ none →
        (field ∈ ((e'.filter fun i => decide (i.field ∈ allowedPatchFields)).map (·.field)) ↔
          field ∈ allowedPatchFields) := by
    intro e e' he field hp
    rw [decideField_congr he] at hp
    obtain ⟨item, hitem, hel⟩ := exists_eligible_of_patched hp
    have hfield : item.field = field := by
      simp only [SourceEvidence.eligibleFor, Bool.and_eq_true, decide_eq_true_eq] at hel
      exact hel.1.1.1
    simp only [List.mem_map, List.mem_filter, decide_eq_true_eq]
    constructor
    · rintro ⟨i, ⟨-, hi⟩, rfl⟩; exact hi
    · intro hal; exact ⟨item, ⟨hitem, hfield ▸ hal⟩, hfield⟩
  simp only [rawPatch, evidenceFields, sorted, distinct, ← decideField_congr h]
  refine Observe.filterMap_insertionSort_eq fun field hfield => ?_
  have hp : (decideField py evidence current target field).2 ≠ none := by
    intro hnone; simp [hnone] at hfield
  rw [hmem rfl hp, hmem h hp]

/-! ### The outcome -/

/-- When the last comparison has the same answer, the outcome is the same. -/
theorem outcome_congr (current : Dict) (h : SameButInert evidence evidence')
    (hmatch : ∀ target, Comparable py formats evidence target →
      externalCoreMatches py formats evidence target
        = externalCoreMatches py formats evidence' target) :
    (resolveManifestation py formats evidence current).map (·.outcome)
      = (resolveManifestation py formats evidence' current).map (·.outcome) := by
  simp only [resolveManifestation, ← passGates_congr h hmatch]
  cases passGates py formats evidence with
  | error refusal => rfl
  | ok target =>
    simp only [resolveFields, ← rawPatch_congr h]
    cases CanonicalPatch.validate py (rawPatch py evidence current target) <;> rfl

/-- Admission never has the outcome of a refusal: it is Tier A or a validation error. -/
theorem admitted_outcome_ne {target : String × String} (current : Dict) {refusal : Refusal}
    (hok : passGates py formats evidence = .ok target)
    (herr : passGates py formats evidence' = .error refusal) :
    (resolveManifestation py formats evidence current).map (·.outcome)
      ≠ (resolveManifestation py formats evidence' current).map (·.outcome) := by
  intro hout
  have htier := passGates_refusal_tier herr
  simp only [resolveManifestation, hok, herr] at hout
  cases hr : resolveFields py evidence current target <;>
    simp [hr, nonAuthoritativeResolution, ManifestationResolution.outcome, eq_comm] at hout
  exact htier hout.1.symm

/-- **Inert evidence and the outcome.** Adding or removing inert items leaves tier, identifiers and
patch as they are exactly when the book is refused before the last comparison, or that comparison
has the same answer on both lists. -/
theorem inert_unseen_iff (py : Runtime) (formats : List FormatEvidence)
    {evidence evidence' : List SourceEvidence} (current : Dict)
    (h : SameButInert evidence evidence') :
    (resolveManifestation py formats evidence current).map (·.outcome)
        = (resolveManifestation py formats evidence' current).map (·.outcome) ↔
      ∀ target, Comparable py formats evidence target →
        externalCoreMatches py formats evidence target
          = externalCoreMatches py formats evidence' target := by
  refine ⟨fun hout target hc => ?_, outcome_congr current h⟩
  have ha := hc.passGates_eq
  have ha' := (hc.congr h).passGates_eq
  cases hm : externalCoreMatches py formats evidence target <;>
    cases hm' : externalCoreMatches py formats evidence' target
  · rfl
  · rw [hm, if_neg (by simp)] at ha
    rw [hm', if_pos rfl] at ha'
    exact absurd hout.symm (admitted_outcome_ne current ha' ha)
  · rw [hm, if_pos rfl] at ha
    rw [hm', if_neg (by simp)] at ha'
    exact absurd hout (admitted_outcome_ne current ha ha')
  · rfl

/-- The evidence of the example book, and an LLM item under a root of its own. -/
def separateRootEvidence : List SourceEvidence :=
  exampleContent ++ exampleRecord "volume-1"
    ++ [exampleItem .llm "response-1" "title" (.str "Another Book")]

/-- An LLM item under a root of its own does not change the outcome. -/
theorem inert_unseen_iff_separate_root :
    (resolveManifestation .ascii [exampleFormat "EPUB"] separateRootEvidence []).map (·.outcome)
      = (resolveManifestation .ascii [exampleFormat "EPUB"]
        (exampleContent ++ exampleRecord "volume-1") []).map (·.outcome) := by
  refine (inert_unseen_iff .ascii [exampleFormat "EPUB"] [] (by decide +kernel)).mpr ?_
  intro target hc
  have htarget : target = ("isbn", "9780306406157") := by
    have hids : formatIds [exampleFormat "EPUB"] = [("isbn", "9780306406157")] := by
      decide +kernel
    exact (List.singleton_inj.mp (hids.symm.trans hc.ids)).symm
  subst htarget
  decide +kernel

/-- An authoritative LLM item with the root of the provider record replaces its title, and the book
falls from Tier A to Tier B. -/
theorem llm_item_demotes_record :
    SameButInert (exampleContent ++ exampleRecord "volume-1")
        (exampleContent ++ exampleRecord "volume-1"
          ++ [exampleItem .llm "volume-1" "title" (.str "Another Book")]) ∧
      (resolveManifestation .ascii [exampleFormat "EPUB"]
        (exampleContent ++ exampleRecord "volume-1") []).map (·.tier) = some .tierA ∧
      (resolveManifestation .ascii [exampleFormat "EPUB"]
        (exampleContent ++ exampleRecord "volume-1"
          ++ [exampleItem .llm "volume-1" "title" (.str "Another Book")]) []).map (·.tier)
        = some .tierB := by
  decide +kernel

/-- Evidence of an inert kind that is not authoritative. -/
def SourceEvidence.quiet (item : SourceEvidence) : Bool := item.inert && !item.authoritative

end Bookwarden
