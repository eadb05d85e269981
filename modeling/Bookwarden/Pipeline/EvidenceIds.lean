import Bookwarden.Pipeline.EnricherKeys

/-!
# The evidence ids of a book

The evidence of a package is that of the inspected files, then that of the enrichers, and a package
whose evidence ids are not distinct is refused by its own seal. For a local book the lists are
concatenated, so the ids are distinct only if the keys of every producer are. For a materialized book
the evidence of the enrichers is merged by id, so only the keys of the files matter.

## Main results

* `EnricherStage.append` — enrichers one after the other
* `LibraryAuditPipeline.evidence_ids_iff` — when the evidence ids of a book are distinct
-/

namespace Bookwarden

variable {py : Runtime} {book : BookSnapshot}

/-! ### Enrichers one after the other -/

theorem EvidenceEnrichment.empty_append (a : EvidenceEnrichment) :
    EvidenceEnrichment.append {} a = a := rfl

theorem EvidenceEnrichment.append_empty (a : EvidenceEnrichment) : a.append {} = a := by
  simp [EvidenceEnrichment.append]

theorem EvidenceEnrichment.append_assoc (a b c : EvidenceEnrichment) :
    (a.append b).append c = a.append (b.append c) := by
  simp [EvidenceEnrichment.append, List.append_assoc]

/-- What one enricher adds to what is collected. -/
def collectStep (book : BookSnapshot) (done : Collected) (enricher : Enricher) :
    Except Raised Collected :=
  (enricher.collect book done.1).map fun collected => (collected.1, done.2.append collected.2)

theorem collectSelected_eq (enrichers : List Enricher) (inspections : List FormatInspection) :
    collectSelected enrichers book inspections
      = enrichers.foldlM (collectStep book) (inspections, {}) := by
  rw [collectSelected]
  refine congrArg (fun step => List.foldlM step (inspections, ({} : EvidenceEnrichment)) enrichers) ?_
  funext done enricher
  rw [collectStep]
  cases enricher.collect book done.1 with
  | error raised => rfl
  | ok collected => rfl

theorem foldlM_collectStep (enrichers : List Enricher) (inspections : List FormatInspection)
    (enrichment : EvidenceEnrichment) :
    enrichers.foldlM (collectStep book) (inspections, enrichment)
      = (collectSelected enrichers book inspections).map fun collected =>
        (collected.1, enrichment.append collected.2) := by
  rw [collectSelected_eq]
  induction enrichers generalizing inspections enrichment with
  | nil =>
    show Except.ok (inspections, enrichment) = Except.ok (inspections, enrichment.append {})
    rw [EvidenceEnrichment.append_empty]
  | cons enricher enrichers ih =>
    rw [List.foldlM_cons, List.foldlM_cons, collectStep, collectStep]
    cases enricher.collect book inspections with
    | error raised => rfl
    | ok collected =>
      show enrichers.foldlM (collectStep book) (collected.1, enrichment.append collected.2)
        = Except.map _ (enrichers.foldlM (collectStep book)
          (collected.1, EvidenceEnrichment.append {} collected.2))
      rw [ih, ih collected.1 (EvidenceEnrichment.append {} collected.2),
        EvidenceEnrichment.empty_append]
      cases enrichers.foldlM (collectStep book) (collected.1, {}) with
      | error raised => rfl
      | ok rest =>
        show Except.ok (rest.1, (enrichment.append collected.2).append rest.2)
          = Except.ok (rest.1, enrichment.append (collected.2.append rest.2))
        rw [EvidenceEnrichment.append_assoc]

theorem collectSelected_append (a b : List Enricher) (inspections : List FormatInspection) :
    collectSelected (a ++ b) book inspections
      = (collectSelected a book inspections).bind fun done =>
        (collectSelected b book done.1).map fun collected =>
          (collected.1, done.2.append collected.2) := by
  rw [collectSelected_eq, List.foldlM_append, ← collectSelected_eq]
  cases collectSelected a book inspections with
  | error raised => rfl
  | ok done => exact foldlM_collectStep b done.1 done.2

/-- The enrichers leave the evidence of the inspections as it is, and add evidence with these keys;
the keys begin in one of the ways `T`, and are distinct when `P` holds. -/
structure EnricherStage (py : Runtime) (book : BookSnapshot) (enrichers : List Enricher)
    (before after : List FormatInspection) (keys : List String) (T : List (List Char)) (P : Prop) :
    Prop where
  keeps : after.map (·.evidence) = before.map (·.evidence)
  inspections : ∀ collected, collectSelected enrichers book before = .ok collected →
    collected.1 = after
  ids : ∀ collected, collectSelected enrichers book before = .ok collected →
    collected.2.evidence.map (·.evidenceId) = idsOf py keys
  tags : ∀ key ∈ keys, keyTag key ∈ T
  distinct : ∀ collected, collectSelected enrichers book before = .ok collected → (keys.Nodup ↔ P)

theorem EnricherStage.nil (inspections : List FormatInspection) (T : List (List Char)) {P : Prop} (hP : P) :
    EnricherStage py book [] inspections inspections [] T P where
  keeps := rfl
  inspections collected h := by
    cases h
    rfl
  ids collected h := by
    cases h
    rfl
  tags key hkey := absurd hkey List.not_mem_nil
  distinct _ _ := iff_of_true List.nodup_nil hP

/-- Stages compose, and their keys are concatenated. -/
theorem EnricherStage.append {a b : List Enricher} {before middle after : List FormatInspection}
    {keys keys' : List String} {T T' : List (List Char)} {P P' : Prop}
    (ha : EnricherStage py book a before middle keys T P) (hb : EnricherStage py book b middle after keys' T' P')
    (hT : ∀ tag ∈ T, tag ∉ T') :
    EnricherStage py book (a ++ b) before after (keys ++ keys') (T ++ T') (P ∧ P') := by
  have hsplit : ∀ collected, collectSelected (a ++ b) book before = .ok collected →
      ∃ done rest, collectSelected a book before = .ok done ∧
        collectSelected b book middle = .ok rest ∧ collected = (rest.1, done.2.append rest.2) := by
    intro collected h
    rw [collectSelected_append] at h
    cases hdone : collectSelected a book before with
    | error raised =>
      rw [hdone] at h
      cases h
    | ok done =>
      rw [hdone, Except.bind, ha.inspections done hdone] at h
      cases hrest : collectSelected b book middle with
      | error raised =>
        rw [hrest] at h
        cases h
      | ok rest =>
        rw [hrest] at h
        cases h
        exact ⟨done, rest, rfl, rfl, rfl⟩
  refine ⟨hb.keeps.trans ha.keeps, fun collected h => ?_, fun collected h => ?_, fun key hkey => ?_,
    fun collected h => ?_⟩
  · obtain ⟨done, rest, -, hrest, rfl⟩ := hsplit collected h
    exact hb.inspections rest hrest
  · obtain ⟨done, rest, hdone, hrest, rfl⟩ := hsplit collected h
    rw [EvidenceEnrichment.append, List.map_append, ha.ids done hdone, hb.ids rest hrest, idsOf_append]
  · rcases List.mem_append.mp hkey with hkey | hkey
    · exact List.mem_append_left _ (ha.tags key hkey)
    · exact List.mem_append_right _ (hb.tags key hkey)
  · obtain ⟨done, rest, hdone, hrest, -⟩ := hsplit collected h
    rw [nodup_append_of_keyTag ha.tags hb.tags hT, ha.distinct done hdone, hb.distinct rest hrest]

theorem EnricherStage.single {enricher : Enricher} {before after : List FormatInspection} {keys : List String}
    {T : List (List Char)} {P : Prop} (hkeeps : after.map (·.evidence) = before.map (·.evidence))
    (htags : ∀ key ∈ keys, keyTag key ∈ T)
    (h : ∀ collected, enricher.collect book before = .ok collected → collected.1 = after ∧
      collected.2.evidence.map (·.evidenceId) = idsOf py keys ∧ (keys.Nodup ↔ P)) :
    EnricherStage py book [enricher] before after keys T P := by
  have hone : ∀ collected, collectSelected [enricher] book before = .ok collected →
      enricher.collect book before = .ok collected := by
    intro collected hcollected
    rw [collectSelected_eq, List.foldlM_cons, collectStep] at hcollected
    cases hcollect : enricher.collect book before with
    | error raised =>
      rw [hcollect] at hcollected
      cases hcollected
    | ok done =>
      rw [hcollect] at hcollected
      cases hcollected
      rfl
  exact ⟨hkeeps, fun collected hc => (h collected (hone collected hc)).1,
    fun collected hc => (h collected (hone collected hc)).2.1, htags,
    fun collected hc => (h collected (hone collected hc)).2.2⟩

/-! ### The enrichers of a run -/

namespace EnricherOptions

variable (o : EnricherOptions)

/-- The inspections after OCR. -/
def afterOcr (py : Runtime) (inspections : List FormatInspection) : List FormatInspection :=
  match o.ocr with
  | some e => (e.collect py inspections).1
  | none => inspections

/-- The inspections after OCR and vision. -/
def recognized (py : Runtime) (book : BookSnapshot) (inspections : List FormatInspection) :
    List FormatInspection :=
  match o.vision with
  | some e => (e.collect py book (o.afterOcr py inspections)).1
  | none => o.afterOcr py inspections

/-- The keys of the OCR evidence. -/
def ocrKeys (inspections : List FormatInspection) : List String :=
  (o.ocr.map fun e => inspections.flatMap e.keys).getD []

/-- The covers and the fields of the evidence of vision. -/
def seen (py : Runtime) (inspections : List FormatInspection) : List (String × String) :=
  (o.vision.map fun e => e.stated py (o.afterOcr py inspections)).getD []

/-- The keys of the evidence of recognition. -/
def recognitionKeys (py : Runtime) (inspections : List FormatInspection) : List String :=
  o.ocrKeys inspections ++ pairKeys (o.seen py inspections)

/-- The volumes that a provider lists. -/
def volumes (inspections : List FormatInspection) : List GoogleVolume :=
  (o.providers.map fun r => r.volumes inspections).getD []

/-- The observations that the LLM is granted. -/
def observations (book : BookSnapshot) (inspections : List FormatInspection) : List LLMObservation :=
  (o.llm.map fun e => e.accepted book inspections).getD []

/-- The keys of the evidence of the providers and the LLM. -/
def lookupKeys (py : Runtime) (book : BookSnapshot) (inspections : List FormatInspection) :
    List String :=
  (o.providers.map fun r => r.keys py inspections).getD []
    ++ (o.llm.map fun e => e.keys py book inspections).getD []

/-- OCR and vision. -/
def recognizers (py : Runtime) : List Enricher :=
  (o.ocr.map (ocrEnricher py)).toList ++ (o.vision.map (visionEnricher py)).toList

/-- The providers and the LLM. -/
def lookups (py : Runtime) : List Enricher :=
  (o.providers.map (structuredEnricher py)).toList ++ (o.llm.map (llmEnricher py)).toList

theorem buildV2Enricher_eq : buildV2Enricher py o = o.recognizers py ++ o.lookups py := by
  rw [buildV2Enricher, recognizers, lookups, List.append_assoc (_ ++ _)]

theorem filter_materialized :
    (buildV2Enricher py o).filter (·.requiresMaterializedFiles) = o.recognizers py := by
  rw [buildV2Enricher, recognizers]
  cases o.ocr <;> cases o.vision <;> cases o.providers <;> cases o.llm <;> rfl

theorem filter_aggregate :
    (buildV2Enricher py o).filter (fun e => !e.requiresMaterializedFiles) = o.lookups py := by
  rw [buildV2Enricher, lookups]
  cases o.ocr <;> cases o.vision <;> cases o.providers <;> cases o.llm <;> rfl

variable (py book) in
theorem recognizers_stage (inspections : List FormatInspection) :
    EnricherStage py book (o.recognizers py) inspections (o.recognized py book inspections)
      (o.recognitionKeys py inspections) [['o', 'c'], ['v', 'i']]
      ((o.ocrKeys inspections).Nodup ∧ (o.seen py inspections).Nodup) := by
  have hocr : EnricherStage py book (o.ocr.map (ocrEnricher py)).toList inspections
      (o.afterOcr py inspections) (o.ocrKeys inspections) [['o', 'c']]
      (o.ocrKeys inspections).Nodup := by
    rw [afterOcr, ocrKeys]
    cases o.ocr with
    | none => exact .nil inspections _ List.nodup_nil
    | some e =>
      refine .single (e.collect_spec py inspections).1 (fun key hkey => ?_) fun collected h => ?_
      · obtain ⟨inspection, -, hkey⟩ := List.mem_flatMap.mp hkey
        rw [e.keyTag_keys inspection key hkey]
        decide
      · cases h
        exact ⟨rfl, (e.collect_spec py inspections).2, Iff.rfl⟩
  have hvision : EnricherStage py book (o.vision.map (visionEnricher py)).toList (o.afterOcr py inspections)
      (o.recognized py book inspections) (pairKeys (o.seen py inspections)) [['v', 'i']]
      (o.seen py inspections).Nodup := by
    rw [recognized, seen]
    cases o.vision with
    | none => exact .nil _ _ List.nodup_nil
    | some e =>
      refine .single (e.collect_spec py book _).1 (fun key hkey => ?_) fun collected h => ?_
      · rw [e.keyTag_stated _ key hkey]
        decide
      · cases h
        exact ⟨rfl, (e.collect_spec py book _).2, nodup_pairKeys_iff (e.stated_allowed _)⟩
  exact hocr.append hvision (by decide)

variable (py) in
theorem lookups_stage {rest : String} (hbook : book.bookKey = "calibre" ++ rest)
    (inspections : List FormatInspection) :
    EnricherStage py book (o.lookups py) inspections inspections (o.lookupKeys py book inspections)
      [['g', 'o'], ['o', 'p'], ['c', 'a']] (((o.volumes inspections).map (·.id)).Nodup ∧
        ((o.observations book inspections).map (·.field)).Nodup) := by
  have hproviders : EnricherStage py book (o.providers.map (structuredEnricher py)).toList inspections
      inspections ((o.providers.map fun r => r.keys py inspections).getD []) [['g', 'o'], ['o', 'p']]
      ((o.volumes inspections).map (·.id)).Nodup := by
    rw [volumes]
    cases o.providers with
    | none => exact .nil inspections _ List.nodup_nil
    | some replies =>
      refine .single rfl (replies.keyTag_keys inspections) fun collected h => ?_
      have h' : (structuredEvidence py replies inspections).map
          (fun evidence => (inspections, ({ evidence } : EvidenceEnrichment))) = .ok collected := h
      cases hevidence : structuredEvidence py replies inspections with
      | error raised =>
        rw [hevidence] at h'
        cases h'
      | ok evidence =>
        rw [hevidence] at h'
        cases h'
        exact ⟨rfl, ProviderReplies.keys_spec hevidence⟩
  have hllm : EnricherStage py book (o.llm.map (llmEnricher py)).toList inspections inspections
      ((o.llm.map fun e => e.keys py book inspections).getD []) [['c', 'a']]
      ((o.observations book inspections).map (·.field)).Nodup := by
    rw [observations]
    cases o.llm with
    | none => exact .nil inspections _ List.nodup_nil
    | some e =>
      refine .single rfl (fun key hkey => ?_) fun collected h => ?_
      · rw [e.keyTag_keys hbook inspections key hkey]
        decide
      · cases h
        exact ⟨rfl, e.map_evidenceId_keys py book inspections, e.nodup_keys_iff py book inspections⟩
  exact hproviders.append hllm (by decide)

end EnricherOptions

/-! ### The files of a book -/

/-- The answers for a book whose files are inspected, each at the path it is exported to. -/
def BookReplies.inspecting (py : Runtime) (replies : BookReplies)
    (exported : String → Except Raised String) (files : String → EbookFile) : BookReplies :=
  { replies with
    inspect := fun reference => match exported reference with
      | .error raised => .error raised
      | .ok path => (inspectFormat py path (files reference)).mapError fun e => .other e.1 e.2 }

/-- The inspections of the references that can be inspected. -/
def BookReplies.inspections (replies : BookReplies) (references : List String) :
    List FormatInspection :=
  references.filterMap fun reference => (replies.inspect reference).toOption

/-- The keys of the files. -/
def fileKeys (inspections : List FormatInspection) : List String := inspections.flatMap (·.keys)

variable {replies : BookReplies} {exported : String → Except Raised String}
  {files : String → EbookFile} {references : List String}

/-- Every reference can be inspected. -/
def BookReplies.Inspects (replies : BookReplies) (references : List String) : Prop :=
  ∀ reference ∈ references, ∃ inspection, replies.inspect reference = .ok inspection

theorem BookReplies.inspections_cons {reference : String} {inspection : FormatInspection}
    (h : replies.inspect reference = .ok inspection) (references : List String) :
    replies.inspections (reference :: references) = inspection :: replies.inspections references := by
  rw [inspections, inspections, List.filterMap_cons, h]
  rfl

theorem inspecting_ok {reference : String} {inspection : FormatInspection}
    (h : (replies.inspecting py exported files).inspect reference = .ok inspection) :
    ∃ path, exported reference = .ok path ∧
      inspectFormat py path (files reference) = .ok inspection := by
  rw [BookReplies.inspecting] at h
  dsimp only at h
  cases hpath : exported reference with
  | error raised =>
    rw [hpath] at h
    cases h
  | ok path =>
    rw [hpath] at h
    dsimp only at h
    refine ⟨path, rfl, ?_⟩
    cases hinspect : inspectFormat py path (files reference) with
    | error e =>
      rw [hinspect] at h
      cases h
    | ok found =>
      rw [hinspect] at h
      cases h
      rfl

theorem mem_inspections {inspection : FormatInspection}
    (h : inspection ∈ (replies.inspecting py exported files).inspections references) :
    ∃ reference ∈ references, ∃ path, exported reference = .ok path ∧
      inspectFormat py path (files reference) = .ok inspection := by
  obtain ⟨reference, hreference, hinspect⟩ := List.mem_filterMap.mp h
  have hok : (replies.inspecting py exported files).inspect reference = .ok inspection := by
    cases hreply : (replies.inspecting py exported files).inspect reference with
    | error raised =>
      rw [hreply] at hinspect
      cases hinspect
    | ok found =>
      rw [hreply] at hinspect
      cases hinspect
      rfl
  exact ⟨reference, hreference, inspecting_ok hok⟩

/-- The ids of the files are those of their keys. -/
theorem map_evidenceId_files :
    ((((replies.inspecting py exported files).inspections references).map (·.evidence)).flatten.map
        (·.evidenceId))
      = idsOf py (fileKeys ((replies.inspecting py exported files).inspections references)) := by
  have hids : ∀ i ∈ (replies.inspecting py exported files).inspections references,
      i.evidence.map (·.evidenceId) = idsOf py i.keys := by
    intro i hi
    obtain ⟨reference, -, path, -, hinspect⟩ := mem_inspections hi
    obtain ⟨sha256, hfile⟩ := (inspectFormat_keys_nodup_iff hinspect).1
    rw [idsOf, FormatInspection.keys, List.map_map]
    exact List.map_congr_left fun item hitem => (hfile item hitem).id
  rw [← List.flatMap_def, List.map_flatMap, fileKeys, OcrEnricher.idsOf_flatMap]
  exact List.flatMap_congr hids

theorem keyTag_fileKeys :
    ∀ key ∈ fileKeys ((replies.inspecting py exported files).inspections references),
      keyTag key ∈ [['f', 'o']] := by
  intro key hkey
  obtain ⟨i, hi, hkey⟩ := List.mem_flatMap.mp hkey
  obtain ⟨item, hitem, rfl⟩ := List.mem_map.mp hkey
  obtain ⟨reference, -, path, -, hinspect⟩ := mem_inspections hi
  obtain ⟨sha256, hfile⟩ := (inspectFormat_keys_nodup_iff hinspect).1
  rw [keyTag_fileKey (hfile item hitem)]
  decide

/-- The files state nothing twice: no file its ISBN at one place, and no two files, under one SHA-256,
a field at one place. -/
structure FilesDistinct (py : Runtime) (replies : BookReplies)
    (exported : String → Except Raised String) (files : String → EbookFile)
    (references : List String) : Prop where
  once : ∀ reference ∈ references, ∀ path, exported reference = .ok path →
    ¬ (files reference).StatesIsbnTwice py path
  apart : ((replies.inspecting py exported files).inspections references).Pairwise
    fun i j => i.keys.Disjoint j.keys

theorem nodup_fileKeys_iff (h : (replies.inspecting py exported files).Inspects references) :
    (fileKeys ((replies.inspecting py exported files).inspections references)).Nodup ↔
      FilesDistinct py replies exported files references := by
  rw [fileKeys, List.nodup_flatMap]
  constructor
  · rintro ⟨hnodup, hapart⟩
    refine ⟨fun reference hreference path hpath => ?_, hapart⟩
    obtain ⟨inspection, hok⟩ := h reference hreference
    obtain ⟨path', hpath', hinspect⟩ := inspecting_ok hok
    rw [hpath, Except.ok.injEq] at hpath'
    rw [← hpath'] at hinspect
    refine (inspectFormat_keys_nodup_iff hinspect).2.mp (hnodup inspection ?_)
    exact List.mem_filterMap.mpr ⟨reference, hreference, by rw [hok]; rfl⟩
  · intro hdistinct
    refine ⟨fun inspection hinspection => ?_, hdistinct.apart⟩
    obtain ⟨reference, hreference, path, hpath, hinspect⟩ := mem_inspections hinspection
    exact (inspectFormat_keys_nodup_iff hinspect).2.mpr (hdistinct.once reference hreference path hpath)

/-! ### Gathering -/

/-- The inspections of exported files, after recognition of each by itself. -/
def EnricherOptions.exports (o : EnricherOptions) (py : Runtime) (book : BookSnapshot)
    (replies : BookReplies) (references : List String) : List FormatInspection :=
  references.filterMap fun reference => (replies.inspect reference).toOption.map fun i =>
    LibraryAuditPipeline.underReference reference ((o.recognized py book [i]).headD i)

/-- The keys of recognition of each exported file by itself. -/
def EnricherOptions.exportKeys (o : EnricherOptions) (py : Runtime) (replies : BookReplies)
    (references : List String) : List String :=
  (replies.inspections references).flatMap fun i => o.recognitionKeys py [i]

namespace LibraryAuditPipeline

variable {pipeline : LibraryAuditPipeline} {snapshot : BookSnapshot} {o : EnricherOptions}

theorem validatedFile_eq {path path' : String}
    (h : pipeline.validatedFile py replies path = .ok path') : path' = path := by
  rw [validatedFile] at h
  split at h
  · cases h
    rfl
  · split at h
    · cases h
    · split at h
      · cases h
      · cases h
        rfl

theorem inspectLocal_spec {inspections : List FormatInspection}
    (h : pipeline.inspectLocal py replies references = .ok inspections) :
    replies.Inspects references ∧ inspections = replies.inspections references := by
  induction references generalizing inspections with
  | nil =>
    cases h
    exact ⟨fun reference hreference => absurd hreference List.not_mem_nil, rfl⟩
  | cons reference references ih =>
    rw [inspectLocal, List.mapM_cons] at h
    obtain ⟨inspection, hone, htail⟩ := Except.exists_of_bind_eq_ok h
    obtain ⟨rest, hrest, hcons⟩ := Except.exists_of_bind_eq_ok htail
    obtain ⟨path, hpath, hinspect⟩ := Except.exists_of_bind_eq_ok hone
    have hok : replies.inspect reference = .ok inspection := by
      rw [← validatedFile_eq hpath]
      exact Except.eq_ok_of_mapError hinspect
    obtain ⟨hinspects, hinspections⟩ := ih hrest
    cases hcons
    rw [BookReplies.inspections_cons hok, hinspections]
    refine ⟨fun r hr => ?_, rfl⟩
    rcases List.mem_cons.mp hr with rfl | hr
    · exact ⟨inspection, hok⟩
    · exact hinspects r hr

/-- A local book is inspected file by file, and the enrichers see all files. -/
theorem gather_local_spec (hsource : pipeline.source = none) {collected : Collected}
    (h : pipeline.gather py (replies.enriched pipeline (buildV2Enricher py o)) snapshot
      = .ok collected) :
    replies.Inspects snapshot.files ∧ collectSelected (buildV2Enricher py o) snapshot
      (replies.inspections snapshot.files) = .ok collected := by
  rw [gather, hsource] at h
  dsimp only at h
  rw [gatherLocal] at h
  obtain ⟨inspections, hinspect, h⟩ := Except.exists_of_bind_eq_ok h
  obtain ⟨hinspects, rfl⟩ := inspectLocal_spec hinspect
  refine ⟨hinspects, ?_⟩
  have hcollect := Except.eq_ok_of_mapError h
  rw [BookReplies.enriched, hsource] at hcollect
  exact hcollect

/-- What exporting the references one by one adds. -/
structure Exported (py : Runtime) (o : EnricherOptions) (snapshot : BookSnapshot)
    (replies : BookReplies) (references : List String)
    (before after : List FormatInspection × Merged) : Prop where
  inspects : replies.Inspects references
  inspections : after.1 = before.1 ++ o.exports py snapshot replies references
  keyed : Keyed after.2.evidenceById
  ids : ∀ id, id ∈ Assoc.keys after.2.evidenceById ↔
    id ∈ idsOf py (o.exportKeys py replies references) ∨ id ∈ Assoc.keys before.2.evidenceById

theorem mergeMaterialized_spec {m m' : Merged} {inspection inspection' : FormatInspection}
    (hkeyed : Keyed m.evidenceById)
    (h : mergeMaterialized py (replies.enriched pipeline (buildV2Enricher py o)) snapshot m inspection
      = .ok (inspection', m')) :
    inspection' = (o.recognized py snapshot [inspection]).headD inspection ∧ Keyed m'.evidenceById ∧
      ∀ id, id ∈ Assoc.keys m'.evidenceById ↔
        id ∈ idsOf py (o.recognitionKeys py [inspection]) ∨ id ∈ Assoc.keys m.evidenceById := by
  rw [mergeMaterialized, BookReplies.enriched] at h
  dsimp only at h
  rw [EnricherOptions.filter_materialized] at h
  cases hcollect : collectSelected (o.recognizers py) snapshot [inspection] with
  | error raised =>
    rw [hcollect] at h
    cases h
  | ok collected =>
    rw [hcollect] at h
    dsimp only [Except.map] at h
    cases hmerge : m.merge py collected.2 with
    | none =>
      rw [hmerge] at h
      cases h
    | some merged =>
      rw [hmerge] at h
      cases h
      have hstage := o.recognizers_stage py snapshot [inspection]
      have hids := foldlM_mergeEvidence_keyed hkeyed (Merged.merge_eq_some_iff hmerge)
      rw [hstage.ids collected hcollect] at hids
      rw [hstage.inspections collected hcollect]
      exact ⟨rfl, hids⟩

theorem inspectReference_spec {before after : List FormatInspection × Merged} {reference : String}
    (hkeyed : Keyed before.2.evidenceById)
    (h : inspectReference py (replies.enriched pipeline (buildV2Enricher py o)) snapshot before
      reference = .ok after) :
    Exported py o snapshot replies [reference] before after := by
  rw [inspectReference] at h
  obtain ⟨inspection, hinspect, h⟩ := Except.exists_of_bind_eq_ok h
  obtain ⟨⟨recognized, merged⟩, hmerge, h⟩ := Except.exists_of_bind_eq_ok h
  obtain ⟨-, -, h⟩ := Except.exists_of_bind_eq_ok h
  have hok : replies.inspect reference = .ok inspection := Except.eq_ok_of_mapError hinspect
  obtain ⟨rfl, hkeyed', hids⟩ := mergeMaterialized_spec hkeyed hmerge
  cases h
  refine ⟨fun r hr => ?_, ?_, hkeyed', fun id => ?_⟩
  · rw [List.mem_singleton.mp hr]
    exact ⟨inspection, hok⟩
  · rw [EnricherOptions.exports, List.filterMap_cons, hok]
    rfl
  · rw [hids, EnricherOptions.exportKeys, BookReplies.inspections_cons hok, List.flatMap_cons]
    show _ ↔ id ∈ idsOf py (o.recognitionKeys py [inspection] ++ []) ∨ _
    rw [List.append_nil]

theorem foldlM_inspectReference_spec {before after : List FormatInspection × Merged}
    (hkeyed : Keyed before.2.evidenceById)
    (h : references.foldlM (inspectReference py (replies.enriched pipeline (buildV2Enricher py o))
      snapshot) before = .ok after) :
    Exported py o snapshot replies references before after := by
  induction references generalizing before with
  | nil =>
    cases h
    refine ⟨fun reference hreference => absurd hreference List.not_mem_nil, ?_, hkeyed, fun id => ?_⟩
    · exact (List.append_nil _).symm
    · exact (or_iff_right List.not_mem_nil).symm
  | cons reference references ih =>
    rw [List.foldlM_cons] at h
    cases hstep : inspectReference py (replies.enriched pipeline (buildV2Enricher py o)) snapshot
        before reference with
    | error e =>
      rw [hstep] at h
      cases h
    | ok middle =>
      rw [hstep] at h
      have hone := inspectReference_spec hkeyed hstep
      have hrest := ih hone.keyed h
      obtain ⟨inspection, hinspect⟩ := hone.inspects reference List.mem_cons_self
      refine ⟨fun r hr => ?_, ?_, hrest.keyed, fun id => ?_⟩
      · rcases List.mem_cons.mp hr with rfl | hr
        · exact ⟨inspection, hinspect⟩
        · exact hrest.inspects r hr
      · rw [hrest.inspections, hone.inspections, List.append_assoc, EnricherOptions.exports,
          EnricherOptions.exports, EnricherOptions.exports, ← List.filterMap_append,
          List.singleton_append]
      · rw [hrest.ids, hone.ids, EnricherOptions.exportKeys, EnricherOptions.exportKeys,
          EnricherOptions.exportKeys, BookReplies.inspections_cons hinspect references,
          BookReplies.inspections_cons hinspect [], List.flatMap_cons, List.flatMap_cons, idsOf_append,
          idsOf_append, List.mem_append, List.mem_append]
        show _ ↔ _
        simp only [BookReplies.inspections, List.filterMap_nil, List.flatMap_nil, idsOf, List.map_nil,
          List.not_mem_nil, or_false]
        tauto

theorem bookKey_calibre (pipeline : LibraryAuditPipeline) (bookId : ℤ) :
    ∃ rest, pipeline.bookKey bookId = "calibre" ++ rest := by
  rw [bookKey]
  cases pipeline.source with
  | none =>
    refine ⟨":" ++ toString bookId, ?_⟩
    show "calibre:" ++ _ = _
    rw [← String.append_assoc]
    rfl
  | some source =>
    cases hkind : source.kind with
    | calibreContentServer =>
      refine ⟨"-server" ++ ":" ++ source.fingerprint ++ ":" ++ toString bookId, ?_⟩
      simp only [hkind, SourceKind.keyPrefix, ← String.append_assoc]
      rfl
    | offlineCalibreSnapshot =>
      refine ⟨"-offline" ++ ":" ++ source.fingerprint ++ ":" ++ toString bookId, ?_⟩
      simp only [hkind, SourceKind.keyPrefix, ← String.append_assoc]
      rfl

/-- The evidence of a materialized book: the exports, and the merged evidence. -/
theorem gather_remote_spec {source : BookSourceDescriptor} (hsource : pipeline.source = some source)
    {rest : String} (hbook : snapshot.bookKey = "calibre" ++ rest) {collected : Collected}
    (h : pipeline.gather py (replies.enriched pipeline (buildV2Enricher py o)) snapshot
      = .ok collected) :
    replies.Inspects snapshot.files ∧
      collected.1 = o.exports py snapshot replies snapshot.files ∧
      ∃ byId, Keyed byId ∧ collected.2.evidence = byId.map Prod.snd ∧ ∀ id, id ∈ Assoc.keys byId ↔
        id ∈ idsOf py (o.exportKeys py replies snapshot.files
          ++ o.lookupKeys py snapshot (o.exports py snapshot replies snapshot.files)) := by
  rw [gather, hsource] at h
  dsimp only at h
  rw [inspectRemote] at h
  obtain ⟨⟨inspections, merged⟩, hexports, h⟩ := Except.exists_of_bind_eq_ok h
  obtain ⟨-, -, h⟩ := Except.exists_of_bind_eq_ok h
  cases h
  rw [inspectExports] at hexports
  obtain ⟨⟨exports, before⟩, hfold, hexports⟩ := Except.exists_of_bind_eq_ok hexports
  obtain ⟨collected, hcollect, hexports⟩ := Except.exists_of_bind_eq_ok hexports
  have hexported : Exported py o snapshot replies snapshot.files ([], {}) (exports, before) :=
    foldlM_inspectReference_spec keyed_nil hfold
  have heq : exports = o.exports py snapshot replies snapshot.files := hexported.inspections
  have hselected := Except.eq_ok_of_mapError hcollect
  rw [BookReplies.enriched, hsource] at hselected
  dsimp only at hselected
  rw [EnricherOptions.filter_aggregate] at hselected
  have hstage := o.lookups_stage py hbook exports
  cases hmerge : before.merge py collected.2 with
  | none =>
    simp only [hmerge] at hexports
    cases hexports
  | some after =>
    simp only [hmerge] at hexports
    cases hexports
    obtain ⟨hkeyed, hkeys⟩ := foldlM_mergeEvidence_keyed hexported.keyed
      (Merged.merge_eq_some_iff hmerge)
    refine ⟨hexported.inspects, ?_, merged.evidenceById, hkeyed, rfl, fun id => ?_⟩
    · exact (hstage.inspections collected hselected).trans heq
    · rw [hkeys, hstage.ids collected hselected, hexported.ids, heq, idsOf_append, List.mem_append]
      have hnone : id ∉ Assoc.keys (({} : Merged).evidenceById) := List.not_mem_nil
      tauto

/-! ### The ids of a book -/

/-- No enricher of a local book states anything twice, and the hash tells the keys apart. -/
structure EnrichersDistinct (py : Runtime) (o : EnricherOptions) (snapshot : BookSnapshot)
    (inspections : List FormatInspection) : Prop where
  ocr : (o.ocrKeys inspections).Nodup
  vision : (o.seen py inspections).Nodup
  google : ((o.volumes (o.recognized py snapshot inspections)).map (·.id)).Nodup
  llm : ((o.observations snapshot (o.recognized py snapshot inspections)).map (·.field)).Nodup
  hash : CollisionFree py (fileKeys inspections ++ (o.recognitionKeys py inspections
    ++ o.lookupKeys py snapshot (o.recognized py snapshot inspections)))

/-- The hash tells the keys of the files apart, from each other and from those of the enrichers. -/
structure FilesTold (py : Runtime) (o : EnricherOptions) (snapshot : BookSnapshot)
    (replies : BookReplies) : Prop where
  files : CollisionFree py (fileKeys (replies.inspections snapshot.files))
  enrichers : ∀ a ∈ fileKeys (replies.inspections snapshot.files),
    ∀ b ∈ o.exportKeys py replies snapshot.files
      ++ o.lookupKeys py snapshot (o.exports py snapshot replies snapshot.files),
    evidenceIdOf py a ≠ evidenceIdOf py b

/-- The condition for distinct ids: the files state nothing twice; of a local book the enrichers do
not either, and of a materialized book only the hash could fail. -/
def EvidenceDistinct (py : Runtime) (pipeline : LibraryAuditPipeline) (o : EnricherOptions)
    (replies : BookReplies) (exported : String → Except Raised String) (files : String → EbookFile)
    (snapshot : BookSnapshot) : Prop :=
  FilesDistinct py replies exported files snapshot.files ∧
    match pipeline.source with
    | none => EnrichersDistinct py o snapshot
        ((replies.inspecting py exported files).inspections snapshot.files)
    | some _ => FilesTold py o snapshot (replies.inspecting py exported files)

theorem map_evidenceId_of_keeps {collected : Collected} {inspections : List FormatInspection}
    (h : collected.1.map (·.evidence) = inspections.map (·.evidence)) :
    (sourceEvidenceOf collected).map (·.evidenceId)
      = (inspections.map (·.evidence)).flatten.map (·.evidenceId)
        ++ collected.2.evidence.map (·.evidenceId) := by
  rw [sourceEvidenceOf, List.map_append, List.flatMap_def, h]

theorem EnricherOptions.exports_keeps (o : EnricherOptions) (replies : BookReplies)
    (references : List String) : (o.exports py snapshot replies references).map (·.evidence)
      = (replies.inspections references).map (·.evidence) := by
  have hone : ∀ reference i, (underReference reference
      ((o.recognized py snapshot [i]).headD i)).evidence = i.evidence := by
    intro reference i
    have hkeeps := (o.recognizers_stage py snapshot [i]).keeps
    show ((o.recognized py snapshot [i]).headD i).evidence = _
    cases hrecognized : o.recognized py snapshot [i] with
    | nil => rfl
    | cons i' rest =>
      rw [hrecognized, List.map_cons, List.map_singleton, List.cons.injEq] at hkeeps
      exact hkeeps.1
  induction references with
  | nil => rfl
  | cons reference references ih =>
    rw [EnricherOptions.exports, BookReplies.inspections, List.filterMap_cons, List.filterMap_cons]
    cases replies.inspect reference with
    | error raised => exact ih
    | ok i =>
      show (underReference reference _).evidence :: _ = i.evidence :: _
      rw [hone]
      exact congrArg _ ih

/-- **The ids of a book.** The evidence of a book has distinct ids exactly when its producers state
nothing twice. -/
theorem evidence_ids_iff (py : Runtime) (pipeline : LibraryAuditPipeline) (o : EnricherOptions)
    (replies : BookReplies) (exported : String → Except Raised String) (files : String → EbookFile)
    (bookId : ℤ) (rawBook : Dict) {snapshot : BookSnapshot} {collected : Collected}
    (hread : pipeline.bookSnapshot py replies.reader bookId rawBook = .ok snapshot)
    (hgather : pipeline.gather py ((replies.inspecting py exported files).enriched pipeline
      (buildV2Enricher py o)) snapshot = .ok collected) :
    ((sourceEvidenceOf collected).map (·.evidenceId)).Nodup ↔
      EvidenceDistinct py pipeline o replies exported files snapshot := by
  obtain ⟨rest, hrest⟩ := bookKey_calibre pipeline bookId
  have hbook : snapshot.bookKey = "calibre" ++ rest := by
    rw [(bookSnapshot_fresh hread).2, hrest]
  rw [EvidenceDistinct]
  cases hsource : pipeline.source with
  | none =>
    obtain ⟨hinspects, hcollect⟩ := gather_local_spec hsource hgather
    generalize hinspections : (replies.inspecting py exported files).inspections snapshot.files
      = inspections at hcollect ⊢
    rw [o.buildV2Enricher_eq] at hcollect
    have hstage := (o.recognizers_stage py snapshot inspections).append
      (o.lookups_stage py hbook (o.recognized py snapshot inspections)) (by decide)
    have hkeeps : collected.1.map (·.evidence) = inspections.map (·.evidence) := by
      rw [hstage.inspections collected hcollect, hstage.keeps]
    have htags : ∀ key ∈ fileKeys inspections, keyTag key ∈ [['f', 'o']] := by
      rw [← hinspections]
      exact keyTag_fileKeys
    have hids : (inspections.map (·.evidence)).flatten.map (·.evidenceId)
        = idsOf py (fileKeys inspections) := by
      rw [← hinspections]
      exact map_evidenceId_files
    have hfiles := nodup_fileKeys_iff hinspects
    rw [hinspections] at hfiles
    rw [map_evidenceId_of_keeps hkeeps, hids, hstage.ids collected hcollect, ← idsOf_append,
      nodup_idsOf_iff, nodup_append_of_keyTag htags hstage.tags (by decide), hfiles,
      hstage.distinct collected hcollect]
    constructor
    · rintro ⟨⟨hfiles, ⟨hocr, hvision⟩, hgoogle, hllm⟩, hhash⟩
      exact ⟨hfiles, hocr, hvision, hgoogle, hllm, hhash⟩
    · rintro ⟨hfiles, hocr, hvision, hgoogle, hllm, hhash⟩
      exact ⟨⟨hfiles, ⟨hocr, hvision⟩, hgoogle, hllm⟩, hhash⟩
  | some source =>
    obtain ⟨hinspects, hexports, byId, hkeyed, hevidence, hkeys⟩ :=
      gather_remote_spec hsource hbook hgather
    have hkeeps : collected.1.map (·.evidence)
        = ((replies.inspecting py exported files).inspections snapshot.files).map (·.evidence) := by
      rw [hexports, EnricherOptions.exports_keeps]
    rw [map_evidenceId_of_keeps hkeeps, map_evidenceId_files, hevidence, hkeyed.map_evidenceId,
      List.nodup_append', nodup_idsOf_iff, nodup_fileKeys_iff hinspects, and_iff_right hkeyed.nodup]
    constructor
    · rintro ⟨⟨hfiles, hhash⟩, hdisjoint⟩
      refine ⟨hfiles, hhash, fun a ha b hb heq => ?_⟩
      refine hdisjoint (List.mem_map_of_mem ha) ((hkeys _).mpr ?_)
      rw [heq]
      exact List.mem_map_of_mem hb
    · rintro ⟨hfiles, htold⟩
      refine ⟨⟨hfiles, htold.files⟩, fun id hfile hkey => ?_⟩
      obtain ⟨a, ha, rfl⟩ := List.mem_map.mp hfile
      obtain ⟨b, hb, heq⟩ := List.mem_map.mp ((hkeys _).mp hkey)
      exact htold.enrichers a ha b hb heq.symm

/-- A comic that states its title. -/
def titledComic : EbookFile where
  before := .ok "0"
  after := .ok "0"
  cbz := .ok { comicInfo := some { member := "ComicInfo.xml", title := some "Title" } }

/-- The answers for a book whose record lists these formats. -/
def formatsReplies (formats : List String) : BookReplies where
  reader := { metadata := .ok [("formats", .strs formats)] }
  inspect := fun _ => .error (.other "" "")
  stamp := ("evidence_1", "now")
  failureStamp := ("evidence_2", "now")

/-- The answers, with each format inspected as the comic, and no enricher switched on. -/
def comicReplies (formats : List String) : BookReplies :=
  ((formatsReplies formats).inspecting .ascii .ok fun _ => titledComic).enriched localPipeline
    (buildV2Enricher .ascii {})

/-- The snapshot of the book. -/
def formatsSnapshot (formats : List String) : BookSnapshot :=
  localPipeline.newSnapshot .ascii 1 (canonicalCurrent .ascii [("formats", .strs formats)]) formats none

/-- The inspection of the comic. -/
def titledInspection (path format : String) : FormatInspection where
  formatEvidence :=
    { path, format, sha256 := "0", status := .readable, title := some "Title"
      evidenceIds := [evidenceIdOf .ascii "format:0\x00title\x00ComicInfo.xml"] }
  evidence := [contentEvidence .ascii "0" "title" (.str "Title") [] "ComicInfo.xml"]
  metadata := [("title", .str "Title"), ("authors", .arr []), ("languages", .arr []),
    ("identifiers", .obj [])]

theorem comic_read : localPipeline.bookSnapshot .ascii (formatsReplies ["/a.cbz"]).reader 1 []
    = .ok (formatsSnapshot ["/a.cbz"]) := by
  have hfiles : formatPaths (.strs ["/a.cbz"]) = ["/a.cbz"] := by decide +kernel
  show Except.ok (localPipeline.newSnapshot .ascii 1 _ (formatPaths (.strs ["/a.cbz"])) none) = _
  rw [hfiles]
  rfl

theorem comic_gathered : localPipeline.gather .ascii (comicReplies ["/a.cbz"])
    (formatsSnapshot ["/a.cbz"]) = .ok ([titledInspection "/a.cbz" "CBZ"], {}) := rfl

/-- One comic: its ids are distinct exactly when its evidence states nothing twice. -/
theorem comic_ids_distinct_iff :
    ((sourceEvidenceOf ([titledInspection "/a.cbz" "CBZ"], {})).map (·.evidenceId)).Nodup ↔
      EvidenceDistinct .ascii localPipeline {} (formatsReplies ["/a.cbz"]) .ok (fun _ => titledComic)
        (formatsSnapshot ["/a.cbz"]) :=
  evidence_ids_iff .ascii localPipeline {} (formatsReplies ["/a.cbz"]) .ok (fun _ => titledComic) 1 []
    comic_read comic_gathered

/-- Two formats with the same bytes: both state the title at one place, and the ids are one. -/
theorem byte_identical_formats_collide :
    localPipeline.bookSnapshot .ascii (formatsReplies ["/a.cbz", "/a.cbr"]).reader 1 []
        = .ok (formatsSnapshot ["/a.cbz", "/a.cbr"]) ∧
      ∃ collected, localPipeline.gather .ascii (comicReplies ["/a.cbz", "/a.cbr"])
          (formatsSnapshot ["/a.cbz", "/a.cbr"]) = .ok collected ∧
        ¬ ((sourceEvidenceOf collected).map (·.evidenceId)).Nodup := by
  constructor
  · have hfiles : formatPaths (.strs ["/a.cbz", "/a.cbr"]) = ["/a.cbz", "/a.cbr"] := by
      decide +kernel
    show Except.ok (localPipeline.newSnapshot .ascii 1 _ (formatPaths (.strs ["/a.cbz", "/a.cbr"]))
      none) = _
    rw [hfiles]
    rfl
  · refine ⟨([titledInspection "/a.cbz" "CBZ", titledInspection "/a.cbr" "CBR"], {}), rfl, ?_⟩
    intro h
    have hpair : [evidenceIdOf .ascii "format:0\x00title\x00ComicInfo.xml",
        evidenceIdOf .ascii "format:0\x00title\x00ComicInfo.xml"].Nodup := h
    rw [List.nodup_cons] at hpair
    exact hpair.1 List.mem_cons_self

end LibraryAuditPipeline

end Bookwarden
