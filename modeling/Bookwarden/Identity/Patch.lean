import Mathlib.Data.List.Dedup
import Bookwarden.Identity.Identifiers
import Bookwarden.Identity.Resolve

/-!
# What gets into a patch

A patch of a Tier A resolution has been made in three steps: `_resolve_fields` decides each field
by itself, the decided values are put into a dictionary, and `CanonicalPatch` reads the dictionary
and writes it again. Here each step is said once for a single field, so that a statement about the
patch becomes one about the evidence for a field.

## Main definitions

* `readField` — how `CanonicalPatch` reads and writes one field
* `Consensus` — the evidence agrees on a value for a field

## Main results

* `CanonicalPatch.validate_eq_some_iff`, `CanonicalPatch.validate_isSome_iff` — validation is reading
  each field
* `decideField_eq_some_iff` — a field is decided when there is a consensus that the current record
  does not have
* `get?_dump_rawPatch` — what the patch has for a field
-/

namespace Bookwarden

variable {py : Runtime}

/-! ### Reading and writing one field -/

variable (py) in
/-- How `CanonicalPatch` reads a field and writes it with `exclude_none`; the outer `none` is a
validation error. -/
def readField (field : String) (v : Json) : Option (Option Json) :=
  if field ∈ ["title", "publisher", "pubdate", "series", "edition_statement"] then
    (readOptStr v).map (·.map .str)
  else if field ∈ ["authors", "languages"] then (readOptStrs v).map (·.map .strs)
  else if field = "identifiers" then (readIdentifiers py v).map (·.map .strDict)
  else if field = "series_index" then (readOptFloat py v).map (·.map .float)
  else (readCover py v).map (·.map CoverPatch.toJson)

namespace CanonicalPatch

/-- Each field of the patch is what was read of the dictionary. -/
structure Reads (py : Runtime) (patch : Dict) (p : CanonicalPatch) : Prop where
  keys : ∀ k ∈ Assoc.keys patch, k ∈ allowedPatchFields
  title : readOptStr (patch.get "title") = some p.title
  authors : readOptStrs (patch.get "authors") = some p.authors
  identifiers : readIdentifiers py (patch.get "identifiers") = some p.identifiers
  languages : readOptStrs (patch.get "languages") = some p.languages
  publisher : readOptStr (patch.get "publisher") = some p.publisher
  pubdate : readOptStr (patch.get "pubdate") = some p.pubdate
  series : readOptStr (patch.get "series") = some p.series
  seriesIndex : readOptFloat py (patch.get "series_index") = some p.seriesIndex
  editionStatement : readOptStr (patch.get "edition_statement") = some p.editionStatement
  cover : readCover py (patch.get "cover") = some p.cover

theorem any_notAllowed {patch : Dict} :
    (Assoc.keys patch).any (fun k => decide (k ∉ allowedPatchFields)) = false ↔
      ∀ k ∈ Assoc.keys patch, k ∈ allowedPatchFields := by
  simp only [List.any_eq_false, decide_eq_true_eq, not_not]

theorem validate_eq_some_iff {patch : Dict} {p : CanonicalPatch} :
    validate py patch = some p ↔ Reads py patch p := by
  constructor
  · intro h
    rw [validate] at h
    split at h
    · cases h
    rename_i hkeys
    simp only [Option.bind_eq_bind, Option.bind_eq_some_iff, Option.some.injEq] at h
    obtain ⟨title, ht, authors, ha, ids, hi, langs, hl, pub, hp, date, hd, series, hs, index, hx,
      edition, he, cover, hc, rfl⟩ := h
    exact ⟨any_notAllowed.mp (by simpa using hkeys), ht, ha, hi, hl, hp, hd, hs, hx, he, hc⟩
  · intro h
    rw [validate, if_neg (by rw [any_notAllowed.mpr h.keys]; exact Bool.false_ne_true)]
    simp only [h.title, h.authors, h.identifiers, h.languages, h.publisher, h.pubdate, h.series,
      h.seriesIndex, h.editionStatement, h.cover, Option.bind_eq_bind, Option.bind_some]

/-- What is dumped for a field is what was read of it. -/
theorem Reads.readField {patch : Dict} {p : CanonicalPatch} (h : Reads py patch p) {field : String}
    (hfield : field ∈ allowedPatchFields) :
    readField py field (patch.get field) = some (Assoc.get? field p.dump) := by
  simp only [allowedPatchFields, List.mem_cons, List.not_mem_nil, or_false] at hfield
  rcases hfield with rfl | rfl | rfl | rfl | rfl | rfl | rfl | rfl | rfl | rfl
  · simp [Bookwarden.readField, h.title, dump, Assoc.get?_append]
  · simp [Bookwarden.readField, h.authors, dump, Assoc.get?_append]
  · simp [Bookwarden.readField, h.identifiers, dump, Assoc.get?_append]
  · simp [Bookwarden.readField, h.languages, dump, Assoc.get?_append]
  · simp [Bookwarden.readField, h.publisher, dump, Assoc.get?_append]
  · simp [Bookwarden.readField, h.pubdate, dump, Assoc.get?_append]
  · simp [Bookwarden.readField, h.series, dump, Assoc.get?_append]
  · simp [Bookwarden.readField, h.seriesIndex, dump, Assoc.get?_append]
  · simp [Bookwarden.readField, h.editionStatement, dump, Assoc.get?_append]
  · simp [Bookwarden.readField, h.cover, dump, Assoc.get?_append]

/-- A dictionary is a patch when it has no other fields and each of them can be read. -/
theorem validate_isSome_iff {patch : Dict} :
    (validate py patch).isSome ↔ (∀ k ∈ Assoc.keys patch, k ∈ allowedPatchFields) ∧
      ∀ field ∈ allowedPatchFields, (Bookwarden.readField py field (patch.get field)).isSome := by
  constructor
  · intro h
    obtain ⟨p, hp⟩ := Option.isSome_iff_exists.mp h
    have hreads := validate_eq_some_iff.mp hp
    exact ⟨hreads.keys, fun field hfield => by rw [hreads.readField hfield]; rfl⟩
  · rintro ⟨hkeys, hread⟩
    have hstr : ∀ field ∈ ["title", "publisher", "pubdate", "series", "edition_statement"],
        ∃ v, readOptStr (patch.get field) = some v := fun field hf => by
      have hallowed : field ∈ allowedPatchFields := by revert field; decide
      have h := hread field hallowed
      rw [Bookwarden.readField, if_pos hf, Option.isSome_map] at h
      exact Option.isSome_iff_exists.mp h
    have hstrs : ∀ field ∈ ["authors", "languages"],
        ∃ v, readOptStrs (patch.get field) = some v := fun field hf => by
      have hallowed : field ∈ allowedPatchFields ∧
          field ∉ ["title", "publisher", "pubdate", "series", "edition_statement"] := by
        revert field
        decide
      have h := hread field hallowed.1
      rw [Bookwarden.readField, if_neg hallowed.2, if_pos hf, Option.isSome_map] at h
      exact Option.isSome_iff_exists.mp h
    obtain ⟨title, ht⟩ := hstr "title" (by decide)
    obtain ⟨authors, ha⟩ := hstrs "authors" (by decide)
    obtain ⟨ids, hi⟩ := Option.isSome_iff_exists.mp
      (by simpa [Bookwarden.readField] using hread "identifiers" (by decide))
    obtain ⟨langs, hl⟩ := hstrs "languages" (by decide)
    obtain ⟨pub, hp⟩ := hstr "publisher" (by decide)
    obtain ⟨date, hd⟩ := hstr "pubdate" (by decide)
    obtain ⟨series, hs⟩ := hstr "series" (by decide)
    obtain ⟨index, hx⟩ := Option.isSome_iff_exists.mp
      (by simpa [Bookwarden.readField] using hread "series_index" (by decide))
    obtain ⟨edition, he⟩ := hstr "edition_statement" (by decide)
    obtain ⟨cover, hc⟩ := Option.isSome_iff_exists.mp
      (by simpa [Bookwarden.readField] using hread "cover" (by decide))
    have hreads : Reads py patch ⟨title, authors, ids, langs, pub, date, series, index, edition,
      cover⟩ := ⟨hkeys, ht, ha, hi, hl, hp, hd, hs, hx, he, hc⟩
    rw [validate_eq_some_iff.mpr hreads]
    rfl

end CanonicalPatch

/-- Nothing is read of a missing field. -/
theorem readField_null (field : String) : readField py field .null = some none := by
  rw [readField]
  split
  · rfl
  split
  · rfl
  split
  · rfl
  split
  · rfl
  · rfl

theorem readStrs_eq {xs : List Json} {ys : List String} (h : readStrs xs = some ys) :
    xs = ys.map .str := by
  induction xs generalizing ys with
  | nil =>
    rw [readStrs, Option.some.injEq] at h
    rw [← h, List.map_nil]
  | cons x xs ih =>
    cases x with
    | str s =>
      rw [readStrs, Option.map_eq_some_iff] at h
      obtain ⟨zs, hzs, rfl⟩ := h
      rw [ih hzs, List.map_cons]
    | _ => simp [readStrs] at h

/-- Texts and lists of texts are written as they were read. -/
theorem readField_eq_self {field : String} {v w : Json}  (htext : field ∈ ["title", "publisher", "pubdate", "series", "edition_statement", "authors",
      "languages"]) (h : readField py field v = some (some w)) : w = v := by
  rw [readField] at h
  split at h
  · rw [Option.map_eq_some_iff] at h
    obtain ⟨s, hs, hw⟩ := h
    rw [Option.map_eq_some_iff] at hw
    obtain ⟨t, rfl, rfl⟩ := hw
    cases v <;> simp [readOptStr] at hs
    rw [hs]
  · rename_i hstr
    have hlist : field ∈ ["authors", "languages"] := by
      simp only [List.mem_cons, List.not_mem_nil, or_false] at htext hstr ⊢
      tauto
    rw [if_pos hlist, Option.map_eq_some_iff] at h
    obtain ⟨s, hs, hw⟩ := h
    rw [Option.map_eq_some_iff] at hw
    obtain ⟨t, rfl, rfl⟩ := hw
    cases v with
    | arr xs =>
      rw [readOptStrs, Option.map_eq_some_iff] at hs
      obtain ⟨ys, hys, hyt⟩ := hs
      rw [readStrs_eq hys, Option.some.inj hyt, Json.strs]
    | _ => simp [readOptStrs] at hs

/-! ### The consensus on a field -/

/-- The evidence that counts for a field. -/
def eligible (evidence : List SourceEvidence) (target : String × String) (field : String) :
    List SourceEvidence :=
  evidence.filter (·.eligibleFor target field)

/-- The evidence that counts for a field agrees on `value`, from two roots at least, and one of it
is internal or official. -/
structure Consensus (py : Runtime) (evidence : List SourceEvidence) (target : String × String)
    (field : String) (value : Json) : Prop where
  first : (eligible evidence target field).head?.map (·.value) = some value
  agree : ∀ i ∈ eligible evidence target field, valueKey py field i.value = valueKey py field value
  roots : 2 ≤ (distinct ((eligible evidence target field).map (·.effectiveRoot))).length
  preferred : ∃ i ∈ eligible evidence target field,
    i.sourceKind ∈ internalPromotionKinds ++ officialKinds

theorem distinct_length_eq_one {xs : List String} {x : String} (hx : x ∈ xs)
    (hall : ∀ y ∈ xs, y = x) : (distinct xs).length = 1 := by
  have hrep : distinct xs = List.replicate (distinct xs).length x :=
    List.eq_replicate_iff.mpr ⟨rfl, fun y hy => hall y (List.mem_dedup.mp hy)⟩
  have hnodup : (distinct xs).Nodup := List.nodup_dedup xs
  rw [hrep, List.nodup_replicate] at hnodup
  have hpos : 0 < (distinct xs).length := List.length_pos_of_mem (List.mem_dedup.mpr hx)
  omega

theorem exists_first_of_distinct {α : Type} {f : α → String} {xs : List α}
    (h : (distinct (xs.map f)).length = 1) :
    ∃ x, xs.head? = some x ∧ ∀ y ∈ xs, f y = f x := by
  obtain ⟨k, hk⟩ := List.length_eq_one_iff.mp h
  have hall : ∀ y ∈ xs, f y = k := by
    intro y hy
    have hmem : f y ∈ distinct (xs.map f) := List.mem_dedup.mpr (List.mem_map_of_mem hy)
    rw [hk] at hmem
    exact List.mem_singleton.mp hmem
  cases xs with
  | nil => simp [distinct] at h
  | cons x xs => exact ⟨x, rfl, fun y hy => (hall y hy).trans (hall x List.mem_cons_self).symm⟩

/-- The value of a consensus comes from the evidence. -/
theorem Consensus.exists_first {evidence : List SourceEvidence} {target : String × String}
    {field : String} {value : Json} (h : Consensus py evidence target field value) :
    ∃ i ∈ eligible evidence target field, i.value = value := by
  obtain ⟨i, hi, hval⟩ := Option.map_eq_some_iff.mp h.first
  exact ⟨i, List.mem_of_head? hi, hval⟩

theorem Consensus.unique {evidence : List SourceEvidence} {target : String × String}
    {field : String} {value value' : Json} (h : Consensus py evidence target field value)
    (h' : Consensus py evidence target field value') : value = value' :=
  Option.some.inj (h.first.symm.trans h'.first)

/-- A field is decided when there is a consensus that the current record does not have. -/
theorem decideField_eq_some_iff {evidence : List SourceEvidence} {current : Dict}
    {target : String × String} {field : String} {v : Json} :
    (decideField py evidence current target field).2 = some v ↔
      ∃ value, Consensus py evidence target field value ∧
        v = targetValue py current field value ∧
        valueKey py field (current.get field) ≠ valueKey py field v := by
  constructor
  · intro h
    simp only [decideField] at h
    split at h
    · cases h
    rename_i hkeys
    split at h
    · cases h
    rename_i hroots
    split at h
    · cases h
    rename_i hchanged
    obtain ⟨i, hi, hall⟩ := exists_first_of_distinct (Decidable.not_not.mp hkeys)
    rw [Bool.or_eq_true, not_or, decide_eq_true_eq, Bool.not_eq_true', Bool.not_eq_false,
      List.any_eq_true] at hroots
    obtain ⟨hroots, j, hj, hpref⟩ := hroots
    have hfirst : (eligible evidence target field).head?.map (·.value) = some i.value := by
      rw [eligible, hi, Option.map_some]
    rw [hi] at h hchanged
    refine ⟨i.value, ⟨hfirst, hall, by rw [eligible]; omega, j, hj, by simpa using hpref⟩,
      (Option.some.inj h).symm, ?_⟩
    rw [← Option.some.inj h]
    exact hchanged
  · rintro ⟨value, hc, rfl, hchanged⟩
    obtain ⟨i, hi, hval⟩ := hc.exists_first
    have hkeys : (distinct ((evidence.filter (·.eligibleFor target field)).map
        fun i => valueKey py field i.value)).length = 1 := by
      refine distinct_length_eq_one (x := valueKey py field value) ?_ fun y hy => ?_
      · rw [← hval]
        exact List.mem_map_of_mem hi
      · obtain ⟨j, hj, rfl⟩ := List.mem_map.mp hy
        exact hc.agree j hj
    have hfirst := hc.first
    have hroots := hc.roots
    obtain ⟨j, hj, hpref⟩ := hc.preferred
    rw [eligible] at hfirst hroots hj
    simp only [decideField]
    rw [if_neg (by rw [hkeys]; simp), hfirst]
    rw [if_neg, if_neg]
    · rfl
    · exact hchanged
    · rw [Bool.or_eq_true, not_or, decide_eq_true_eq, Bool.not_eq_true', Bool.not_eq_false,
        List.any_eq_true]
      exact ⟨by omega, j, hj, by simpa using hpref⟩

/-! ### What the patch has for a field -/

theorem mem_evidenceFields {evidence : List SourceEvidence} {field : String} :
    field ∈ evidenceFields evidence ↔
      (∃ i ∈ evidence, i.field = field) ∧ field ∈ allowedPatchFields := by
  rw [evidenceFields, sorted, List.mem_insertionSort, distinct, List.mem_dedup, List.mem_map]
  constructor
  · rintro ⟨i, hi, rfl⟩
    rw [List.mem_filter, decide_eq_true_eq] at hi
    exact ⟨⟨i, hi.1, rfl⟩, hi.2⟩
  · rintro ⟨⟨i, hi, rfl⟩, hallowed⟩
    exact ⟨i, List.mem_filter.mpr ⟨hi, by simpa using hallowed⟩, rfl⟩

theorem keys_rawPatch_sublist {evidence : List SourceEvidence} {current : Dict}
    {target : String × String} :
    (Assoc.keys (rawPatch py evidence current target)).Sublist (evidenceFields evidence) := by
  rw [rawPatch, Assoc.keys]
  induction evidenceFields evidence with
  | nil => exact List.Sublist.refl _
  | cons field fields ih =>
    rw [List.filterMap_cons]
    cases (decideField py evidence current target field).2 with
    | none => exact ih.cons field
    | some v => exact ih.cons_cons field

theorem nodup_keys_rawPatch {evidence : List SourceEvidence} {current : Dict}
    {target : String × String} : (Assoc.keys (rawPatch py evidence current target)).Nodup := by
  refine keys_rawPatch_sublist.nodup ?_
  rw [evidenceFields, sorted, (List.perm_insertionSort _ _).nodup_iff, distinct]
  exact List.nodup_dedup _

theorem keys_rawPatch_allowed {evidence : List SourceEvidence} {current : Dict}
    {target : String × String} :
    ∀ k ∈ Assoc.keys (rawPatch py evidence current target), k ∈ allowedPatchFields :=
  fun _ hk => (mem_evidenceFields.mp (keys_rawPatch_sublist.subset hk)).2

/-- The patch before validation has the decided value of every field. -/
theorem get?_rawPatch {evidence : List SourceEvidence} {current : Dict}
    {target : String × String} {field : String} (hfield : field ∈ allowedPatchFields) :
    Assoc.get? field (rawPatch py evidence current target) =
      (decideField py evidence current target field).2 := by
  refine Option.ext fun v => ⟨fun h => ?_, fun h => ?_⟩
  · have hmem := Assoc.mem_of_get? h
    rw [rawPatch, List.mem_filterMap] at hmem
    obtain ⟨f, -, hf⟩ := hmem
    obtain ⟨w, hw, heq⟩ := Option.map_eq_some_iff.mp hf
    cases heq
    exact hw
  · refine Assoc.get?_of_mem nodup_keys_rawPatch ?_
    rw [rawPatch, List.mem_filterMap]
    obtain ⟨value, hc, -⟩ := decideField_eq_some_iff.mp h
    obtain ⟨i, hi, -⟩ := hc.exists_first
    rw [eligible, List.mem_filter] at hi
    have hi_field : i.field = field := by
      have helig := hi.2
      simp only [SourceEvidence.eligibleFor, Bool.and_eq_true, decide_eq_true_eq] at helig
      exact helig.1.1.1
    exact ⟨field, mem_evidenceFields.mpr ⟨⟨i, hi.1, hi_field⟩, hfield⟩, by rw [h]; rfl⟩

/-- The patch has a field when it was decided and the value is not read as nothing. -/
theorem get?_dump_rawPatch {evidence : List SourceEvidence} {current : Dict}
    {target : String × String} {patch : CanonicalPatch} {field : String} {w : Json}
    (hv : CanonicalPatch.validate py (rawPatch py evidence current target) = some patch) :
    Assoc.get? field patch.dump = some w ↔ field ∈ allowedPatchFields ∧
      ∃ v, (decideField py evidence current target field).2 = some v ∧
        readField py field v = some (some w) := by
  have hreads := CanonicalPatch.validate_eq_some_iff.mp hv
  constructor
  · intro h
    have hfield : field ∈ allowedPatchFields :=
      patch.keys_dump_sublist.subset (Assoc.mem_keys_iff.mpr ⟨w, h⟩)
    have hread := hreads.readField hfield
    rw [h, Dict.get, get?_rawPatch hfield] at hread
    cases hd : (decideField py evidence current target field).2 with
    | none =>
      rw [hd, Option.getD_none, readField_null] at hread
      cases hread
    | some v =>
      rw [hd] at hread
      exact ⟨hfield, v, rfl, hread⟩
  · rintro ⟨hfield, v, hd, hread⟩
    have hread' := hreads.readField hfield
    rw [Dict.get, get?_rawPatch hfield, hd, Option.getD_some, hread] at hread'
    exact (Option.some.inj hread').symm

end Bookwarden
