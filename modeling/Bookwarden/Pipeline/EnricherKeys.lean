import Bookwarden.Extractors.FileKeys
import Bookwarden.Ocr.Recognition
import Bookwarden.Pipeline.LlmNeutrality

/-!
# The evidence keys of the enrichers

Each enricher hashes keys of its own: OCR the file's digest, the ISBN and the engines; vision and the
providers the record and the field; the LLM the book, the field and the response. This module says
which keys the evidence of an enricher has, in terms of the answers it got, and when they are
distinct. The keys of two enrichers, or of an enricher and a file, begin differently.

No enricher writes to the evidence of an inspection.

## Main results

* `OcrEnricher.recognize_spec`, `VisionEnricher.recognizeAll_spec`, `structuredEvidence_ids` — the
  keys of an enricher's evidence
* `nodup_pairKeys_iff`, `nodup_recordKeys_iff`, `nodup_llmKeys_iff` — when they are distinct
* `nodup_append_of_keyTag` — keys of several producers
-/

namespace Bookwarden

variable {py : Runtime}

/-- The ids of keys. -/
def idsOf (py : Runtime) (keys : List String) : List String := keys.map (evidenceIdOf py)

theorem idsOf_append (a b : List String) : idsOf py (a ++ b) = idsOf py a ++ idsOf py b :=
  List.map_append

/-- No two of these keys have one id. -/
def CollisionFree (py : Runtime) (keys : List String) : Prop :=
  ∀ a ∈ keys, ∀ b ∈ keys, evidenceIdOf py a = evidenceIdOf py b → a = b

/-- Ids are distinct when the keys are, and the hash tells them apart. -/
theorem nodup_idsOf_iff {keys : List String} :
    (idsOf py keys).Nodup ↔ keys.Nodup ∧ CollisionFree py keys := by
  constructor
  · intro h
    refine ⟨h.of_map _, fun a ha b hb hid => ?_⟩
    exact List.inj_on_of_nodup_map h ha hb hid
  · rintro ⟨hkeys, hfree⟩
    exact hkeys.map_on hfree

/-! ### Keys of different producers -/

/-- How a key begins. -/
def keyTag (key : String) : List Char := key.toList.take 2

theorem keyTag_append {a : String} (ha : 2 ≤ a.toList.length) (b : String) :
    keyTag (a ++ b) = keyTag a := by
  rw [keyTag, keyTag, String.toList_append, List.take_append_of_le_length ha]

/-- Keys that begin differently are different. -/
theorem nodup_append_of_keyTag {a b : List String} {T T' : List (List Char)}
    (ha : ∀ key ∈ a, keyTag key ∈ T) (hb : ∀ key ∈ b, keyTag key ∈ T') (hT : ∀ tag ∈ T, tag ∉ T') :
    (a ++ b).Nodup ↔ a.Nodup ∧ b.Nodup := by
  rw [List.nodup_append']
  constructor
  · exact fun h => ⟨h.1, h.2.1⟩
  · rintro ⟨hna, hnb⟩
    exact ⟨hna, hnb, fun key hka hkb => hT _ (ha key hka) (hb key hkb)⟩

/-! ### OCR -/

theorem seedCandidateIdentifier_evidence (inspection : FormatInspection) (isbn id : String) :
    (seedCandidateIdentifier inspection isbn id).1.evidence = inspection.evidence := by
  rw [seedCandidateIdentifier]
  split <;> rfl

theorem seedCandidateIdentifier_seeds {inspection : FormatInspection}
    (h : inspection.formatEvidence.identifiers = []) (isbn id : String) :
    (seedCandidateIdentifier inspection isbn id).2 = true := by
  rw [seedCandidateIdentifier]
  dsimp only
  rw [if_neg (fun hids => hids.1 h)]

namespace OcrEnricher

variable (e : OcrEnricher) (inspection : FormatInspection)

/-- What the engines read in a file. -/
def scan : EngineScan :=
  e.backends.foldl (scanEngine inspection (pathName inspection.formatEvidence.path))
    { snippets := inspection.snippets }

/-- The file is taken up: a PDF without an identifier, which can be copied and does not change. -/
def Takes : Prop :=
  inspection.formatEvidence.format = "PDF" ∧ inspection.formatEvidence.identifiers = [] ∧
    e.safeSource inspection = true ∧ e.copied inspection = true ∧ e.unchanged inspection = true

instance : Decidable (e.Takes inspection) := inferInstanceAs (Decidable (_ ∧ _))

/-- The key of the agreement of the engines on a file, if there is one. -/
def keys : List String :=
  if e.Takes inspection then (engineConsensus (e.scan inspection).byEngine).toList.map fun isbn =>
    ocrKey inspection.formatEvidence.sha256 isbn
      (",".intercalate (sorted (Assoc.keys (e.scan inspection).byEngine)))
  else []

/-- The evidence of a file: one item when it is taken up and the engines agree. -/
def evidence (py : Runtime) : List SourceEvidence :=
  if e.Takes inspection then (engineConsensus (e.scan inspection).byEngine).toList.map fun isbn =>
    ocrEvidence py inspection.formatEvidence.sha256 isbn
      (sorted (Assoc.keys (e.scan inspection).byEngine)) e.pageLimit
  else []

theorem recognize_evidence (py : Runtime) :
    (e.recognize py inspection).inspection.evidence = inspection.evidence ∧
      (e.recognize py inspection).evidence = e.evidence inspection py := by
  rw [recognize, evidence]
  dsimp only
  by_cases hpdf : inspection.formatEvidence.format ≠ "PDF"
      ∨ inspection.formatEvidence.identifiers ≠ []
  · rw [if_pos hpdf, if_neg (fun h => hpdf.elim (· h.1) (· h.2.1))]
    exact ⟨rfl, rfl⟩
  rw [if_neg hpdf]
  obtain ⟨hformat, hidentifiers⟩ := not_or.mp hpdf
  rw [not_ne_iff] at hformat hidentifiers
  by_cases hsafe : (!e.safeSource inspection || !e.copied inspection) = true
  · rw [if_pos hsafe, if_neg (fun h => by simp [h.2.2.1, h.2.2.2.1] at hsafe)]
    exact ⟨rfl, rfl⟩
  rw [if_neg hsafe]
  cases hunchanged : e.unchanged inspection with
  | false =>
    rw [if_pos (by rfl), if_neg (fun h => by simp [h.2.2.2.2] at hunchanged)]
    exact ⟨rfl, rfl⟩
  | true =>
    have htakes : e.Takes inspection := by
      rw [Bool.or_eq_true, not_or, Bool.not_eq_true', Bool.not_eq_true', Bool.not_eq_false,
        Bool.not_eq_false] at hsafe
      exact ⟨hformat, hidentifiers, hsafe.1, hsafe.2, hunchanged⟩
    rw [if_neg (by decide), if_pos htakes, ← scan]
    by_cases hnone : (e.scan inspection).byEngine = []
    · rw [if_pos hnone, hnone]
      exact ⟨rfl, rfl⟩
    rw [if_neg hnone]
    cases engineConsensus (e.scan inspection).byEngine with
    | none => exact ⟨rfl, rfl⟩
    | some isbn =>
      dsimp only
      generalize hitem : ocrEvidence py inspection.formatEvidence.sha256 isbn
        (sorted (Assoc.keys (e.scan inspection).byEngine)) e.pageLimit = item
      generalize hread : ({ inspection with snippets := (e.scan inspection).snippets } :
        FormatInspection) = read
      have hids : read.formatEvidence.identifiers = [] := by
        rw [← hread]
        exact hidentifiers
      have hseeds := seedCandidateIdentifier_seeds hids isbn item.evidenceId
      have hevidence := seedCandidateIdentifier_evidence read isbn item.evidenceId
      rcases hseed : seedCandidateIdentifier read isbn item.evidenceId with ⟨seeded, done⟩
      rw [hseed] at hseeds hevidence
      dsimp only at hseeds hevidence
      subst hseeds
      constructor
      · show seeded.evidence = _
        rw [hevidence, ← hread]
      · show [item] = _
        rw [← hitem]
        rfl

theorem recognize_spec (py : Runtime) :
    (e.recognize py inspection).inspection.evidence = inspection.evidence ∧
      (e.recognize py inspection).evidence.map (·.evidenceId) = idsOf py (e.keys inspection) := by
  obtain ⟨hinspection, hevidence⟩ := e.recognize_evidence inspection py
  refine ⟨hinspection, ?_⟩
  rw [hevidence, evidence, keys, idsOf]
  split
  · rw [List.map_map, List.map_map]
    rfl
  · rfl

theorem idsOf_flatMap {α : Type} (keys : α → List String) (l : List α) :
    idsOf py (l.flatMap keys) = l.flatMap fun a => idsOf py (keys a) := by
  rw [idsOf, List.map_flatMap]
  rfl

theorem collect_spec (py : Runtime) (inspections : List FormatInspection) :
    (e.collect py inspections).1.map (·.evidence) = inspections.map (·.evidence) ∧
      (e.collect py inspections).2.evidence.map (·.evidenceId)
        = idsOf py (inspections.flatMap e.keys) := by
  rw [collect]
  dsimp only
  constructor
  · rw [List.map_map, List.map_map]
    exact List.map_congr_left fun i _ => (e.recognize_spec i py).1
  · rw [idsOf_flatMap, List.map_flatMap, List.flatMap_map]
    exact List.flatMap_congr fun i _ => (e.recognize_spec i py).2

end OcrEnricher

/-! ### Vision -/

namespace VisionEnricher

variable (e : VisionEnricher)

/-- Does the pass over a file reach its cover? -/
def reaches (inspection : FormatInspection) : Bool :=
  e.safeSource inspection && e.copied inspection && (e.cover inspection).isSome

/-- The cover of a file and the answer about it, when the answer is used. -/
def answer (inspection : FormatInspection) : Option (String × Dict) :=
  if (e.safeSource inspection && e.copied inspection && e.unchanged inspection) = true then
    match e.cover inspection, e.recognizeCover inspection with
    | some coverSha, .result values => some (coverSha, values)
    | _, _ => none
  else none

/-- The answers within a budget of images. -/
def answersWithin : ℕ → List FormatInspection → List (String × Dict)
  | _, [] => []
  | 0, _ => []
  | budget + 1, i :: inspections =>
    (e.answer i).toList ++ answersWithin (if e.reaches i then budget else budget + 1) inspections

/-- The answers of a pass over the files. -/
def answers (inspections : List FormatInspection) : List (String × Dict) :=
  match e.backend with
  | none => []
  | some (_, isLocal) =>
    if (!isLocal && !(e.allowRemoteImages && e.runAllowsRemoteImages)) = true then []
    else e.answersWithin (min (max e.maxImages 0) 4).toNat inspections

/-- The cover and the field of each item of an answer. -/
def statedOf (py : Runtime) (answer : String × Dict) : List (String × String) :=
  ((visionValues py answer.2).filter fun p => !isAbsent p.2).map fun p => (visionRoot answer.1, p.1)

/-- The covers and the fields of the evidence of a pass. -/
def stated (py : Runtime) (inspections : List FormatInspection) : List (String × String) :=
  (e.answers inspections).flatMap (statedOf py)

end VisionEnricher

/-- The keys of records and fields. -/
def pairKeys (pairs : List (String × String)) : List String := pairs.map fun p => recordKey p.1 p.2

theorem visionEvidence_ids (coverSha : String) (values : Dict) :
    (visionEvidence py coverSha values).map (·.evidenceId)
      = idsOf py (pairKeys (VisionEnricher.statedOf py (coverSha, values))) := by
  rw [visionEvidence, idsOf, pairKeys, VisionEnricher.statedOf, List.map_map, List.map_map,
    List.map_map]
  rfl

namespace VisionEnricher

variable (e : VisionEnricher) (inspection : FormatInspection) (bookKey provider : String)
  (remote : Bool)

theorem seedResult_evidence (result : Dict) (evidence : List SourceEvidence) :
    (seedResult inspection result evidence).1.evidence = inspection.evidence := by
  rw [seedResult]
  split
  next isbn item _ _ =>
    have hseed := seedCandidateIdentifier_evidence inspection isbn item.evidenceId
    rcases h : seedCandidateIdentifier inspection isbn item.evidenceId with ⟨seeded, done⟩
    rw [h] at hseed
    cases done
    · rfl
    · exact hseed
  · rfl

theorem recognize_spec (py : Runtime) :
    (e.recognize py bookKey provider remote inspection).1.inspection.evidence = inspection.evidence ∧
      (e.recognize py bookKey provider remote inspection).1.evidence.map (·.evidenceId)
        = idsOf py (pairKeys ((e.answer inspection).toList.flatMap (statedOf py))) ∧
      (e.recognize py bookKey provider remote inspection).2
        = if e.reaches inspection then 1 else 0 := by
  rw [recognize, answer, reaches]
  dsimp only
  cases hsafe : e.safeSource inspection with
  | false => exact ⟨rfl, rfl, rfl⟩
  | true =>
    cases hcopied : e.copied inspection with
    | false => exact ⟨rfl, rfl, rfl⟩
    | true =>
      cases hcover : e.cover inspection with
      | none =>
        refine ⟨rfl, ?_, rfl⟩
        cases e.unchanged inspection <;> rfl
      | some coverSha =>
        cases hreply : e.recognizeCover inspection with
        | raised =>
          refine ⟨rfl, ?_, rfl⟩
          cases e.unchanged inspection <;> rfl
        | notDict =>
          refine ⟨rfl, ?_, rfl⟩
          cases e.unchanged inspection <;> rfl
        | result values =>
          cases hunchanged : e.unchanged inspection with
          | false => exact ⟨rfl, rfl, rfl⟩
          | true =>
            refine ⟨seedResult_evidence inspection values _, ?_, rfl⟩
            show (visionEvidence py coverSha values).map (·.evidenceId)
              = idsOf py (pairKeys ([(coverSha, values)].flatMap (statedOf py)))
            rw [visionEvidence_ids, List.flatMap_singleton]

theorem recognizeAll_spec (py : Runtime) (budget : ℕ) (inspections : List FormatInspection) :
    (e.recognizeAll py bookKey provider remote budget inspections).map (·.inspection.evidence)
        = inspections.map (·.evidence) ∧
      (e.recognizeAll py bookKey provider remote budget inspections).flatMap
          (fun r => r.evidence.map (·.evidenceId))
        = idsOf py (pairKeys ((e.answersWithin budget inspections).flatMap (statedOf py))) := by
  induction inspections generalizing budget with
  | nil =>
    cases budget with
    | zero => exact ⟨rfl, rfl⟩
    | succ budget => exact ⟨rfl, rfl⟩
  | cons i inspections ih =>
    cases budget with
    | zero =>
      rw [recognizeAll, answersWithin]
      constructor
      · rw [List.map_map]
        rfl
      · rw [List.flatMap_map]
        exact List.flatMap_eq_nil_iff.mpr fun _ _ => rfl
      all_goals exact fun h => by cases h
    | succ budget =>
      obtain ⟨hevidence, hids, himages⟩ := e.recognize_spec i bookKey provider remote py
      rw [recognizeAll, answersWithin]
      rcases hrecognize : e.recognize py bookKey provider remote i with ⟨recognized, images⟩
      rw [hrecognize] at hevidence hids himages
      dsimp only at hevidence hids himages ⊢
      have hbudget : budget + 1 - images = if e.reaches i then budget else budget + 1 := by
        rw [himages]
        split <;> omega
      obtain ⟨hrest, hrestIds⟩ := ih (budget + 1 - images)
      rw [List.map_cons, List.map_cons, hevidence, hrest, List.flatMap_cons, hids, hrestIds, hbudget,
        List.flatMap_append, pairKeys, pairKeys, pairKeys, List.map_append, idsOf_append]
      exact ⟨rfl, rfl⟩

theorem collect_spec (py : Runtime) (book : BookSnapshot) (inspections : List FormatInspection) :
    (e.collect py book inspections).1.map (·.evidence) = inspections.map (·.evidence) ∧
      (e.collect py book inspections).2.evidence.map (·.evidenceId)
        = idsOf py (pairKeys (e.stated py inspections)) := by
  rw [collect, stated, answers]
  cases e.backend with
  | none => exact ⟨rfl, rfl⟩
  | some backend =>
    obtain ⟨provider, isLocal⟩ := backend
    dsimp only
    by_cases hremote : (!isLocal && !(e.allowRemoteImages && e.runAllowsRemoteImages)) = true
    · rw [if_pos hremote, if_pos hremote]
      exact ⟨rfl, rfl⟩
    · rw [if_neg hremote, if_neg hremote]
      obtain ⟨hevidence, hids⟩ := e.recognizeAll_spec book.bookKey provider (!isLocal) py
        (min (max e.maxImages 0) 4).toNat inspections
      constructor
      · rw [List.map_map]
        exact hevidence
      · rw [List.map_flatMap]
        exact hids

end VisionEnricher

/-- The keys of records and fields are distinct when the pairs are. -/
theorem nodup_pairKeys_iff {pairs : List (String × String)}
    (hfields : ∀ p ∈ pairs, p.2 ∈ allowedPatchFields) : (pairKeys pairs).Nodup ↔ pairs.Nodup := by
  constructor
  · exact List.Nodup.of_map _
  · refine List.Nodup.map_on fun p hp q hq hkey => ?_
    rw [recordKey, recordKey] at hkey
    obtain ⟨hroot, hfield⟩ := append_nul_inj (nulFree_of_allowed (hfields p hp))
      (nulFree_of_allowed (hfields q hq)) hkey
    exact Prod.ext hroot hfield

theorem VisionEnricher.stated_allowed (e : VisionEnricher) (inspections : List FormatInspection) :
    ∀ p ∈ e.stated py inspections, p.2 ∈ allowedPatchFields := by
  intro p hp
  obtain ⟨answer, -, hp⟩ := List.mem_flatMap.mp hp
  obtain ⟨q, hq, rfl⟩ := List.mem_map.mp hp
  have hkey : q.1 ∈ ["title", "authors", "publisher", "identifiers"] :=
    List.mem_map_of_mem (List.mem_of_mem_filter hq)
  have hall : ∀ field ∈ ["title", "authors", "publisher", "identifiers"],
      field ∈ allowedPatchFields := by decide
  exact hall _ hkey

/-! ### The providers -/

/-- The record and the field of an item. -/
def SourceEvidence.pair (item : SourceEvidence) : String × String := (item.rootId, item.field)

/-- The item was made by `_record_evidence` for a record of the provider. -/
structure SourceEvidence.OfRecord (py : Runtime) (provider : String) (item : SourceEvidence) :
    Prop where
  id : item.evidenceId = evidenceIdOf py (recordKey item.rootId item.field)
  field : item.field ∈ allowedPatchFields
  root : ∃ recordId, item.rootId = provider ++ ":" ++ recordId

section

variable {provider recordId : String} {sourceUrl : Option String} {sha256 : String}
  {identifiers : Identifiers} {values : Dict}

theorem recordEvidence_ofRecord {item : SourceEvidence}
    (h : item ∈ recordEvidence py provider recordId sourceUrl sha256 identifiers values) :
    item.OfRecord py provider := by
  obtain ⟨p, hp, rfl⟩ := List.mem_map.mp h
  have hkeep := List.of_mem_filter hp
  rw [Bool.and_eq_true, decide_eq_true_eq] at hkeep
  exact ⟨rfl, hkeep.1, recordId, rfl⟩

theorem recordEvidence_pairs :
    (recordEvidence py provider recordId sourceUrl sha256 identifiers values).map (·.pair)
      = (values.filter fun p => decide (p.1 ∈ allowedPatchFields) && !isAbsent p.2).map
        fun p => (provider ++ ":" ++ recordId, p.1) := by
  rw [recordEvidence, List.map_map]
  rfl

/-- A record states each field once. -/
theorem recordEvidence_pairs_nodup (hvalues : (Assoc.keys values).Nodup) :
    ((recordEvidence py provider recordId sourceUrl sha256 identifiers values).map (·.pair)).Nodup := by
  have hfields := hvalues.sublist
    ((List.filter_sublist (p := fun p => decide (p.1 ∈ allowedPatchFields) && !isAbsent p.2)).map
      Prod.fst)
  have hpairs : (values.filter fun p => decide (p.1 ∈ allowedPatchFields) && !isAbsent p.2).map
      (fun p => (provider ++ ":" ++ recordId, p.1))
      = ((values.filter fun p => decide (p.1 ∈ allowedPatchFields) && !isAbsent p.2).map
          Prod.fst).map fun field => (provider ++ ":" ++ recordId, field) := by
    rw [List.map_map]
    rfl
  rw [recordEvidence_pairs, hpairs]
  exact hfields.map (Prod.mk_right_injective _)

end

/-- The volume's own identifiers carry the ISBN. -/
def GoogleVolume.Carries (canonical : String) (v : GoogleVolume) : Prop :=
  some canonical ∈ v.industryIdentifiers.map fun p => validateIsbn p.2

instance (canonical : String) (v : GoogleVolume) : Decidable (v.Carries canonical) :=
  inferInstanceAs (Decidable (_ ∈ _))

/-- The volumes of an answer that are used. -/
def carried (isbn : String) (items : List GoogleVolume) : List GoogleVolume :=
  match validateIsbn isbn with
  | some canonical => (items.take 10).filter fun v => decide (v.Carries canonical)
  | none => []

theorem GoogleVolume.nodup_keys_values (v : GoogleVolume) (canonical : String) :
    (Assoc.keys (v.values py canonical)).Nodup := by
  have hbase : ["identifiers", "title", "authors", "languages", "publisher", "pubdate"].Nodup := by
    decide
  have hcover : ["identifiers", "title", "authors", "languages", "publisher", "pubdate",
      "cover"].Nodup := by decide
  rw [GoogleVolume.values]
  cases Assoc.get? "thumbnail" v.imageLinks with
  | none => exact hbase
  | some url =>
    dsimp only
    by_cases hurl : url = ""
    · rw [if_pos hurl]
      exact hbase
    · rw [if_neg hurl]
      exact hcover

theorem GoogleVolume.evidence_of_carries {v : GoogleVolume} {canonical : String}
    (h : v.Carries canonical) : v.evidence py canonical
      = recordEvidence py "google_books" v.id v.selfLink (hashJson py v.toJson) [("isbn", canonical)]
        (v.values py canonical) := by
  rw [GoogleVolume.Carries] at h
  rw [GoogleVolume.evidence, if_pos h]

theorem GoogleVolume.evidence_of_not_carries {v : GoogleVolume} {canonical : String}
    (h : ¬ v.Carries canonical) : v.evidence py canonical = [] := by
  rw [GoogleVolume.Carries] at h
  rw [GoogleVolume.evidence, if_neg h]

/-- A volume that is used states its identifiers. -/
theorem GoogleVolume.pair_mem {v : GoogleVolume} {canonical : String} (h : v.Carries canonical) :
    ("google_books:" ++ v.id, "identifiers") ∈ (v.evidence py canonical).map (·.pair) := by
  rw [GoogleVolume.evidence_of_carries h, recordEvidence_pairs]
  refine List.mem_map.mpr ⟨("identifiers", .strDict [("isbn", canonical)]), ?_, rfl⟩
  have hallowed : "identifiers" ∈ allowedPatchFields := by decide
  refine List.mem_filter.mpr ⟨?_, Bool.and_eq_true_iff.mpr ⟨decide_eq_true hallowed, rfl⟩⟩
  rw [GoogleVolume.values]
  exact List.mem_append_left _ List.mem_cons_self

theorem GoogleVolume.pairs_root {v : GoogleVolume} {canonical : String} {p : String × String}
    (h : p ∈ (v.evidence py canonical).map (·.pair)) : p.1 = "google_books:" ++ v.id := by
  by_cases hcarries : v.Carries canonical
  · rw [GoogleVolume.evidence_of_carries hcarries, recordEvidence_pairs] at h
    obtain ⟨q, -, rfl⟩ := List.mem_map.mp h
    rfl
  · rw [GoogleVolume.evidence_of_not_carries hcarries] at h
    cases h

theorem googleBooksEvidence_eq (isbn : String) (items : List GoogleVolume) :
    googleBooksEvidence py isbn items
      = (carried isbn items).flatMap (·.evidence py ((validateIsbn isbn).getD "")) := by
  rw [googleBooksEvidence, carried]
  cases validateIsbn isbn with
  | none => rfl
  | some canonical =>
    dsimp only [Option.getD_some]
    induction items.take 10 with
    | nil => rfl
    | cons v volumes ih =>
      rw [List.flatMap_cons, ih]
      by_cases hcarries : v.Carries canonical
      · rw [List.filter_cons_of_pos (by simpa using hcarries), List.flatMap_cons]
      · rw [List.filter_cons_of_neg (by simpa using hcarries),
          GoogleVolume.evidence_of_not_carries hcarries, List.nil_append]

theorem googleBooksEvidence_ofRecord {isbn : String} {items : List GoogleVolume}
    {item : SourceEvidence} (h : item ∈ googleBooksEvidence py isbn items) :
    item.OfRecord py "google_books" := by
  rw [googleBooksEvidence] at h
  split at h
  · obtain ⟨v, -, hitem⟩ := List.mem_flatMap.mp h
    rw [GoogleVolume.evidence] at hitem
    split at hitem
    · exact recordEvidence_ofRecord hitem
    · cases hitem
  · cases h

/-- The items of Google Books have keys of their own unless one volume is listed twice. -/
theorem nodup_googlePairs_iff (isbn : String) (items : List GoogleVolume) :
    ((googleBooksEvidence py isbn items).map (·.pair)).Nodup ↔
      ((carried isbn items).map (·.id)).Nodup := by
  have hcarries : ∀ v ∈ carried isbn items, v.Carries ((validateIsbn isbn).getD "") := by
    intro v hv
    rw [carried] at hv
    cases hisbn : validateIsbn isbn with
    | none =>
      rw [hisbn] at hv
      cases hv
    | some canonical =>
      rw [hisbn] at hv
      simpa using (List.mem_filter.mp hv).2
  have hdistinct : ((carried isbn items).map (·.id)).Nodup ↔
      (carried isbn items).Pairwise fun v w => v.id ≠ w.id := List.pairwise_map
  rw [googleBooksEvidence_eq, List.map_flatMap, List.nodup_flatMap, hdistinct]
  generalize (validateIsbn isbn).getD "" = canonical at hcarries ⊢
  constructor
  · rintro ⟨-, hdisjoint⟩
    refine hdisjoint.imp_of_mem fun {v w} hv hw hvw hid => ?_
    refine hvw (GoogleVolume.pair_mem (hcarries v hv)) ?_
    rw [hid]
    exact GoogleVolume.pair_mem (hcarries w hw)
  · intro hids
    refine ⟨fun v hv => ?_, hids.imp_of_mem fun {v w} _ _ hvw p hpv hpw => hvw ?_⟩
    · rw [GoogleVolume.evidence_of_carries (hcarries v hv)]
      exact recordEvidence_pairs_nodup (v.nodup_keys_values canonical)
    · have hroots := (GoogleVolume.pairs_root hpv).symm.trans (GoogleVolume.pairs_root hpw)
      exact String.append_right_inj _ |>.mp hroots

theorem openLibraryEvidence_spec {isbn : String} {raw : Dict} {evidence : List SourceEvidence}
    (h : openLibraryEvidence py isbn raw = some evidence) :
    (∀ item ∈ evidence, item.OfRecord py "openlibrary") ∧ (evidence.map (·.pair)).Nodup := by
  have hempty : (∀ item ∈ ([] : List SourceEvidence), item.OfRecord py "openlibrary") ∧
      (([] : List SourceEvidence).map (·.pair)).Nodup :=
    ⟨fun item hitem => absurd hitem List.not_mem_nil, List.nodup_nil⟩
  rw [openLibraryEvidence] at h
  cases hisbn : validateIsbn isbn with
  | none =>
    rw [hisbn] at h
    cases h
    exact hempty
  | some canonical =>
    rw [hisbn] at h
    dsimp only at h
    split at h
    next record _ =>
      rw [openLibraryRecord] at h
      obtain ⟨authors, -, h⟩ := Option.bind_eq_some_iff.mp h
      obtain ⟨publishers, -, h⟩ := Option.bind_eq_some_iff.mp h
      obtain ⟨languages, -, h⟩ := Option.bind_eq_some_iff.mp h
      cases h
      refine ⟨fun item hitem => recordEvidence_ofRecord hitem, recordEvidence_pairs_nodup ?_⟩
      have hbase : ["identifiers", "title", "authors", "languages", "publisher", "pubdate"].Nodup := by
        decide
      have hcover : ["identifiers", "title", "authors", "languages", "publisher", "pubdate",
          "cover"].Nodup := by decide
      rw [Assoc.keys, List.map_append]
      split
      · split
        · exact hcover
        · exact hbase
      · exact hbase
    · cases h
      exact hempty

/-- The volumes that the provider lists for the ISBN of the formats, as far as they are used. -/
def ProviderReplies.volumes (replies : ProviderReplies) (inspections : List FormatInspection) :
    List GoogleVolume :=
  match formatIsbns inspections with
  | [isbn] => ((replies.google.bind (· isbn)).map (carried isbn)).getD []
  | _ => []

/-- The keys of the evidence of the providers. -/
def ProviderReplies.keys (py : Runtime) (replies : ProviderReplies)
    (inspections : List FormatInspection) : List String :=
  match structuredEvidence py replies inspections with
  | .ok evidence => pairKeys (evidence.map (·.pair))
  | .error _ => []

/-- The item is one of a structured provider. -/
def SourceEvidence.OfProvider (py : Runtime) (item : SourceEvidence) : Prop :=
  item.OfRecord py "google_books" ∨ item.OfRecord py "openlibrary"

theorem append_openLibrary_spec {isbn : String} {answer : Option Dict} {volumes : List GoogleVolume}
    {google evidence : List SourceEvidence} (hof : ∀ item ∈ google, item.OfRecord py "google_books")
    (hnodup : (google.map (·.pair)).Nodup ↔ (volumes.map (·.id)).Nodup)
    (h : (match answer with
      | none => Except.ok google
      | some raw => match openLibraryEvidence py isbn raw with
        | some found => .ok (google ++ found)
        | none => .error (Raised.other "object is not iterable" "TypeError")) = .ok evidence) :
    (∀ item ∈ evidence, item.OfProvider py) ∧
      ((evidence.map (·.pair)).Nodup ↔ (volumes.map (·.id)).Nodup) := by
  cases answer with
  | none =>
    cases h
    exact ⟨fun item hitem => .inl (hof item hitem), hnodup⟩
  | some raw =>
    dsimp only at h
    cases hopen : openLibraryEvidence py isbn raw with
    | none =>
      rw [hopen] at h
      cases h
    | some found =>
      rw [hopen] at h
      cases h
      obtain ⟨hofOpen, hopenNodup⟩ := openLibraryEvidence_spec hopen
      constructor
      · intro item hitem
        rcases List.mem_append.mp hitem with hitem | hitem
        · exact .inl (hof item hitem)
        · exact .inr (hofOpen item hitem)
      · rw [List.map_append, List.nodup_append', and_iff_right hopenNodup, ← hnodup]
        refine and_iff_left fun p hp hq => ?_
        obtain ⟨a, ha, rfl⟩ := List.mem_map.mp hp
        obtain ⟨b, hb, heqPair⟩ := List.mem_map.mp hq
        obtain ⟨r, hr⟩ := (hof a ha).root
        obtain ⟨t, ht⟩ := (hofOpen b hb).root
        have hroots : b.rootId = a.rootId := congrArg Prod.fst heqPair
        rw [hr, ht] at hroots
        have hhead := congrArg (fun s => s.toList.head?) hroots
        simp [String.toList_append] at hhead

/-- The items of the providers have keys of their own unless one volume is listed twice. -/
theorem structuredEvidence_spec {replies : ProviderReplies} {inspections : List FormatInspection}
    {evidence : List SourceEvidence} (h : structuredEvidence py replies inspections = .ok evidence) :
    (∀ item ∈ evidence, item.OfProvider py) ∧
      ((evidence.map (·.pair)).Nodup ↔ ((replies.volumes inspections).map (·.id)).Nodup) := by
  have hnothing : evidence = [] → replies.volumes inspections = [] →
      (∀ item ∈ evidence, item.OfProvider py) ∧
        ((evidence.map (·.pair)).Nodup ↔ ((replies.volumes inspections).map (·.id)).Nodup) := by
    rintro rfl hvolumes
    rw [hvolumes]
    exact ⟨fun item hitem => absurd hitem List.not_mem_nil,
      iff_of_true List.nodup_nil List.nodup_nil⟩
  rcases hisbns : formatIsbns inspections with _ | ⟨isbn, _ | ⟨other, rest⟩⟩
  · rw [structuredEvidence, hisbns, Except.ok.injEq] at h
    exact hnothing h.symm (by rw [ProviderReplies.volumes, hisbns])
  · rw [structuredEvidence, hisbns] at h
    rw [ProviderReplies.volumes, hisbns]
    dsimp only at h ⊢
    cases hgoogle : replies.google.bind (· isbn) with
    | none =>
      rw [hgoogle] at h
      exact append_openLibrary_spec (fun item hitem => absurd hitem List.not_mem_nil)
        (iff_of_true List.nodup_nil List.nodup_nil) h
    | some items =>
      rw [hgoogle] at h
      exact append_openLibrary_spec (fun item hitem => googleBooksEvidence_ofRecord hitem)
        (nodup_googlePairs_iff isbn items) h
  · rw [structuredEvidence, hisbns, Except.ok.injEq] at h
    exact hnothing h.symm (by rw [ProviderReplies.volumes, hisbns])

theorem SourceEvidence.OfProvider.id {item : SourceEvidence} (h : item.OfProvider py) :
    item.evidenceId = evidenceIdOf py (recordKey item.rootId item.field) ∧
      item.field ∈ allowedPatchFields := by
  rcases h with h | h
  · exact ⟨h.id, h.field⟩
  · exact ⟨h.id, h.field⟩

theorem ProviderReplies.keys_spec {replies : ProviderReplies} {inspections : List FormatInspection}
    {evidence : List SourceEvidence} (h : structuredEvidence py replies inspections = .ok evidence) :
    evidence.map (·.evidenceId) = idsOf py (replies.keys py inspections) ∧
      ((replies.keys py inspections).Nodup ↔ ((replies.volumes inspections).map (·.id)).Nodup) := by
  obtain ⟨hof, hnodup⟩ := structuredEvidence_spec h
  rw [ProviderReplies.keys, h]
  dsimp only
  constructor
  · rw [idsOf, pairKeys, List.map_map, List.map_map]
    exact List.map_congr_left fun item hitem => (hof item hitem).id.1
  · rw [nodup_pairKeys_iff, hnodup]
    intro p hp
    obtain ⟨item, hitem, rfl⟩ := List.mem_map.mp hp
    exact (hof item hitem).id.2

/-! ### The LLM -/

/-- The keys of the evidence of the LLM. -/
def LlmEnricher.keys (py : Runtime) (e : LlmEnricher) (book : BookSnapshot)
    (inspections : List FormatInspection) : List String :=
  (e.accepted book inspections).map fun o =>
    llmKey book.bookKey o.field (e.responseSha256 py book inspections)

theorem LlmEnricher.map_evidenceId_keys (py : Runtime) (e : LlmEnricher) (book : BookSnapshot)
    (inspections : List FormatInspection) :
    (e.collect py book inspections).evidence.map (·.evidenceId)
      = idsOf py (e.keys py book inspections) := by
  rw [LlmEnricher.map_evidenceId, acceptedIds, idsOf, keys, List.map_map]
  rfl

theorem llmKey_inj {bookKey a b sha256 : String} (h : llmKey bookKey a sha256 = llmKey bookKey b sha256) :
    a = b := by
  rw [llmKey, llmKey] at h
  simpa only [String.append_assoc, String.append_right_inj, String.append_left_inj] using h

/-- The items of the LLM have keys of their own unless one field is stated twice. -/
theorem LlmEnricher.nodup_keys_iff (py : Runtime) (e : LlmEnricher) (book : BookSnapshot)
    (inspections : List FormatInspection) :
    (e.keys py book inspections).Nodup ↔ ((e.accepted book inspections).map (·.field)).Nodup := by
  have hkeys : e.keys py book inspections = ((e.accepted book inspections).map (·.field)).map
      fun field => llmKey book.bookKey field (e.responseSha256 py book inspections) := by
    rw [keys, List.map_map]
    rfl
  rw [hkeys]
  exact List.nodup_map_iff fun a b h => llmKey_inj h

/-! ### How the keys begin -/

theorem keyTag_fileKey {item : SourceEvidence} {sha256 : String} (h : item.FromFile py sha256) :
    keyTag item.fileKey = ['f', 'o'] := by
  rw [SourceEvidence.fileKey, h.root, formatRoot]
  simp only [String.append_assoc]
  exact keyTag_append (by decide) _

theorem OcrEnricher.keyTag_keys (e : OcrEnricher) (inspection : FormatInspection) :
    ∀ key ∈ e.keys inspection, keyTag key = ['o', 'c'] := by
  intro key hkey
  rw [keys] at hkey
  split at hkey
  · obtain ⟨isbn, -, rfl⟩ := List.mem_map.mp hkey
    rw [ocrKey]
    simp only [String.append_assoc]
    exact keyTag_append (by decide) _
  · cases hkey

theorem VisionEnricher.keyTag_stated (e : VisionEnricher) (inspections : List FormatInspection) :
    ∀ key ∈ pairKeys (e.stated py inspections), keyTag key = ['v', 'i'] := by
  intro key hkey
  obtain ⟨p, hp, rfl⟩ := List.mem_map.mp hkey
  obtain ⟨answer, -, hp⟩ := List.mem_flatMap.mp hp
  obtain ⟨q, -, rfl⟩ := List.mem_map.mp hp
  rw [recordKey, visionRoot]
  simp only [String.append_assoc]
  exact keyTag_append (by decide) _

theorem ProviderReplies.keyTag_keys (replies : ProviderReplies) (inspections : List FormatInspection) :
    ∀ key ∈ replies.keys py inspections, keyTag key ∈ [['g', 'o'], ['o', 'p']] := by
  intro key hkey
  rw [keys] at hkey
  split at hkey
  next evidence h =>
    obtain ⟨p, hp, rfl⟩ := List.mem_map.mp hkey
    obtain ⟨item, hitem, rfl⟩ := List.mem_map.mp hp
    rw [recordKey, SourceEvidence.pair]
    rcases (structuredEvidence_spec h).1 item hitem with hof | hof
    · obtain ⟨recordId, hroot⟩ := hof.root
      rw [hroot]
      simp only [String.append_assoc]
      rw [keyTag_append (by decide)]
      decide
    · obtain ⟨recordId, hroot⟩ := hof.root
      rw [hroot]
      simp only [String.append_assoc]
      rw [keyTag_append (by decide)]
      decide
  · cases hkey

theorem LlmEnricher.keyTag_keys (e : LlmEnricher) {book : BookSnapshot} {rest : String}
    (hbook : book.bookKey = "calibre" ++ rest) (inspections : List FormatInspection) :
    ∀ key ∈ e.keys py book inspections, keyTag key = ['c', 'a'] := by
  intro key hkey
  obtain ⟨o, -, rfl⟩ := List.mem_map.mp hkey
  rw [llmKey, hbook]
  simp only [String.append_assoc]
  exact keyTag_append (by decide) _

end Bookwarden
