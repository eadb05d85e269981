import Bookwarden.CanonicalJson
import Bookwarden.Lib.KeepFirst
import Bookwarden.Pipeline.EvidenceIds

/-!
# The image budget of a book

The vision enricher passes at most `max_images` covers to its backend, and leaves a receipt for each.
The budget is that of one call. A local book is one call; of a materialized book each exported format
is a call of its own, with a budget of its own, and receipts with one content are merged.

## Main definitions

* `VisionEnricher.imagesPassed` — the covers that a call of `collect` passes to the backend
* `VisionEnricher.images` — the images that the formats give, by file and cover
* `LibraryAuditPipeline.imagesSent`, `LibraryAuditPipeline.imageReceipts` — of a book

## Main results

* `VisionEnricher.imagesPassed_eq`, `VisionEnricher.receipts_collect` — what one call does
* `LibraryAuditPipeline.imageBudget_iff` — when a book stays within its budget, with a receipt for
  each image
-/

namespace Bookwarden

variable {py : Runtime}

namespace VisionEnricher

variable (e : VisionEnricher)

/-- `self.max_images`. -/
def imageLimit : ℕ := (min (max e.maxImages 0) 4).toNat

/-- May the backend be sent an image? -/
def authorized : Bool :=
  match e.backend with
  | none => false
  | some (_, isLocal) => isLocal || (e.allowRemoteImages && e.runAllowsRemoteImages)

/-- The images that the loop of `collect` passes on; `budget` is what remains of them. -/
def imagesWithin (py : Runtime) (bookKey provider : String) (remote : Bool) :
    ℕ → List FormatInspection → ℕ
  | _, [] => 0
  | 0, _ :: _ => 0
  | budget + 1, inspection :: inspections =>
    let images := (e.recognize py bookKey provider remote inspection).2
    images + imagesWithin py bookKey provider remote (budget + 1 - images) inspections

/-- The images that `VisionRecognitionEnricher.collect` passes to its backend. -/
def imagesPassed (py : Runtime) (book : BookSnapshot) (inspections : List FormatInspection) : ℕ :=
  match e.backend with
  | none => 0
  | some (provider, isLocal) =>
    let remote := !isLocal
    if remote && !(e.allowRemoteImages && e.runAllowsRemoteImages) then 0
    else e.imagesWithin py book.bookKey provider remote e.imageLimit inspections

/-- The SHA-256 of a file and of its cover. -/
def image (inspection : FormatInspection) : String × String :=
  (inspection.formatEvidence.sha256, (e.cover inspection).getD "")

/-- The images that the formats give: of those with a cover, when images may be sent at all. -/
def images (inspections : List FormatInspection) : List (String × String) :=
  if e.authorized = true ∧ 0 < e.imageLimit then (inspections.filter e.reaches).map e.image else []

/-- The receipt of an image. -/
def receipt (py : Runtime) (book : BookSnapshot) (image : String × String) : Dict :=
  imageReceipt py book.bookKey image.1 image.2 ((e.backend.map Prod.fst).getD "")
    (!(e.backend.map Prod.snd).getD true)

/-! ### One call -/

variable {e} {book : BookSnapshot} {inspection : FormatInspection} {bookKey provider : String}
  {remote : Bool}

theorem recognize_receipts (e : VisionEnricher) (py : Runtime) (inspection : FormatInspection)
    (bookKey provider : String) (remote : Bool) :
    (e.recognize py bookKey provider remote inspection).1.receipts
      = if e.reaches inspection then [imageReceipt py bookKey (e.image inspection).1
          (e.image inspection).2 provider remote] else [] := by
  rw [recognize, reaches, image]
  dsimp only
  cases hsafe : e.safeSource inspection with
  | false => rfl
  | true =>
    cases hcopied : e.copied inspection with
    | false => rfl
    | true =>
      cases hcover : e.cover inspection with
      | none => rfl
      | some coverSha =>
        cases e.recognizeCover inspection with
        | raised => rfl
        | notDict => rfl
        | result values => cases e.unchanged inspection <;> rfl

theorem imagesWithin_eq (e : VisionEnricher) (bookKey provider : String) (remote : Bool) (budget : ℕ)
    (inspections : List FormatInspection) :
    e.imagesWithin py bookKey provider remote budget inspections
      = min budget (inspections.filter e.reaches).length := by
  induction inspections generalizing budget with
  | nil =>
    rw [imagesWithin, List.filter_nil, List.length_nil, Nat.min_zero]
  | cons i inspections ih =>
    cases budget with
    | zero => rw [imagesWithin, Nat.zero_min]
    | succ budget =>
      obtain ⟨-, -, himages⟩ := e.recognize_spec i bookKey provider remote py
      rw [imagesWithin, himages, ih]
      cases hreaches : e.reaches i with
      | false =>
        rw [List.filter_cons_of_neg (by rw [hreaches]; decide)]
        show 0 + min (budget + 1 - 0) _ = _
        omega
      | true =>
        rw [List.filter_cons_of_pos hreaches, List.length_cons]
        show 1 + min (budget + 1 - 1) _ = _
        omega

theorem receipts_recognizeAll (e : VisionEnricher) (bookKey provider : String) (remote : Bool)
    (budget : ℕ) (inspections : List FormatInspection) :
    (e.recognizeAll py bookKey provider remote budget inspections).flatMap (·.receipts)
      = (((inspections.filter e.reaches).map e.image).take budget).map fun image =>
        imageReceipt py bookKey image.1 image.2 provider remote := by
  induction inspections generalizing budget with
  | nil =>
    cases budget with
    | zero => rfl
    | succ budget => rfl
  | cons i inspections ih =>
    cases budget with
    | zero =>
      rw [recognizeAll, List.take_zero, List.flatMap_map]
      · exact List.flatMap_eq_nil_iff.mpr fun _ _ => rfl
      · exact fun h => by cases h
    | succ budget =>
      obtain ⟨-, -, himages⟩ := e.recognize_spec i bookKey provider remote py
      have hreceipts := e.recognize_receipts py i bookKey provider remote
      rw [recognizeAll]
      rcases hrecognize : e.recognize py bookKey provider remote i with ⟨recognized, images⟩
      rw [hrecognize] at himages hreceipts
      dsimp only at himages hreceipts ⊢
      rw [List.flatMap_cons, ih, himages, hreceipts]
      cases hreaches : e.reaches i with
      | false =>
        rw [List.filter_cons_of_neg (by rw [hreaches]; decide)]
        rfl
      | true =>
        rw [List.filter_cons_of_pos hreaches, List.map_cons, List.take_succ_cons, List.map_cons]
        rfl

/-- A call passes the covers it finds, as many as the budget allows. -/
theorem imagesPassed_eq (e : VisionEnricher) (book : BookSnapshot)
    (inspections : List FormatInspection) :
    e.imagesPassed py book inspections = min e.imageLimit (e.images inspections).length := by
  rw [imagesPassed, images, authorized]
  cases e.backend with
  | none =>
    rw [if_neg (fun h => Bool.false_ne_true h.1)]
    exact (Nat.min_zero _).symm
  | some backend =>
    obtain ⟨provider, isLocal⟩ := backend
    dsimp only
    rw [imagesWithin_eq]
    cases isLocal <;> cases e.allowRemoteImages <;> cases e.runAllowsRemoteImages <;>
      by_cases hlimit : 0 < e.imageLimit <;> simp [hlimit] <;> omega

/-- A call leaves one receipt for each cover it passes. -/
theorem receipts_collect (e : VisionEnricher) (book : BookSnapshot)
    (inspections : List FormatInspection) :
    (e.collect py book inspections).2.privacyReceipts
      = ((e.images inspections).take e.imageLimit).map (e.receipt py book) := by
  have hlimit : (min (max e.maxImages 0) 4).toNat = e.imageLimit := rfl
  rw [collect, images, authorized]
  cases hbackend : e.backend with
  | none =>
    rw [if_neg (fun h => Bool.false_ne_true h.1), List.take_nil]
    rfl
  | some backend =>
    obtain ⟨provider, isLocal⟩ := backend
    dsimp only
    rw [hlimit]
    have hreceipt : (fun image : String × String => imageReceipt py book.bookKey image.1 image.2
        provider !isLocal) = e.receipt py book := by
      funext image
      rw [receipt, hbackend]
      rfl
    by_cases hremote : (!isLocal && !(e.allowRemoteImages && e.runAllowsRemoteImages)) = true
    · rw [if_pos hremote, if_neg (fun h => by simp_all), List.take_nil]
      rfl
    · have hauthorized : (isLocal || (e.allowRemoteImages && e.runAllowsRemoteImages)) = true := by
        cases isLocal <;> simp_all
      rw [if_neg hremote]
      show (e.recognizeAll py book.bookKey provider (!isLocal) e.imageLimit inspections).flatMap
        (·.receipts) = _
      rw [receipts_recognizeAll, hreceipt]
      by_cases hpos : 0 < e.imageLimit
      · rw [if_pos ⟨hauthorized, hpos⟩]
      · have hzero : e.imageLimit = 0 := by omega
        rw [hzero, List.take_zero, List.take_zero]

theorem images_append (e : VisionEnricher) (a b : List FormatInspection) :
    e.images (a ++ b) = e.images a ++ e.images b := by
  rw [images, images, images]
  split
  · rw [List.filter_append, List.map_append]
  · rfl

/-- A budget that lets an image pass lets that of one format pass. -/
theorem length_images_singleton_le (e : VisionEnricher) (i : FormatInspection) :
    (e.images [i]).length ≤ e.imageLimit := by
  rw [images]
  split
  next hsend =>
    have hle : ([i].filter e.reaches).length ≤ 1 := List.length_filter_le _ _
    rw [List.length_map]
    omega
  · exact Nat.zero_le _

theorem images_eq_nil_of_limit (e : VisionEnricher) (h : e.imageLimit = 0)
    (inspections : List FormatInspection) : e.images inspections = [] :=
  if_neg fun hsend => by omega

end VisionEnricher

/-! ### The receipts of images -/

/-- A receipt of an image. -/
def isImageReceipt (receipt : Dict) : Bool := decide (receipt.get "image_count" ≠ .int 0)

/-- The hash by which `merge` knows a receipt. -/
def receiptHash (py : Runtime) (receipt : Dict) : String := hashJson py (.obj receipt)

section

variable {e : VisionEnricher} {o : EnricherOptions} {book : BookSnapshot}
  {inspections : List FormatInspection} {collected : Collected}

theorem VisionEnricher.isImageReceipt_receipt (image : String × String) :
    isImageReceipt (e.receipt py book image) = true := by
  refine decide_eq_true ?_
  show Json.int 1 ≠ .int 0
  intro h
  cases h

/-- The receipt of an image is that of one file and one cover. -/
theorem imageReceipt_inj (hsha : Function.Injective py.sha256) {bookKey provider : String}
    {remote : Bool} {a b : String × String}
    (h : receiptHash py (imageReceipt py bookKey a.1 a.2 provider remote)
      = receiptHash py (imageReceipt py bookKey b.1 b.2 provider remote)) : a = b := by
  let payload (image : String × String) : Dict := [("book_key", .str bookKey),
    ("format_sha256", .str image.1), ("cover_sha256", .str image.2), ("provider", .str provider)]
  let receipt (sha256 : String) : Dict := [("book_key", .str bookKey), ("text_chars", .int 0),
    ("image_count", .int 1), ("payload_sha256", .str sha256), ("provider", .str provider),
    ("remote", .bool remote)]
  -- neither has a float, so the text is that of any runtime
  have hreceipts : ∀ sha256, dumps py (.obj (receipt sha256)) = dumps .ascii (.obj (receipt sha256)) :=
    fun _ => rfl
  have hpayloads : ∀ image, dumps py (.obj (payload image)) = dumps .ascii (.obj (payload image)) :=
    fun _ => rfl
  have hreceiptKeys : ∀ sha256, (Assoc.keys (receipt sha256)).Nodup := fun _ =>
    (by decide : ["book_key", "text_chars", "image_count", "payload_sha256", "provider",
      "remote"].Nodup)
  have hpayloadKeys : ∀ image, (Assoc.keys (payload image)).Nodup := fun _ =>
    (by decide : ["book_key", "format_sha256", "cover_sha256", "provider"].Nodup)
  have hreceipt : dumps py (.obj (receipt (hashJson py (.obj (payload a)))))
      = dumps py (.obj (receipt (hashJson py (.obj (payload b))))) := hsha h
  rw [hreceipts, hreceipts] at hreceipt
  have hhash := Json.get?_of_canon_eq (hreceiptKeys _) (dumps_inj floatText_ascii hreceipt)
    "payload_sha256"
  have hpayload : dumps py (.obj (payload a)) = dumps py (.obj (payload b)) :=
    hsha (Json.str.inj (Option.some.inj hhash))
  rw [hpayloads, hpayloads] at hpayload
  have hcanon := dumps_inj floatText_ascii hpayload
  have hformat := Json.get?_of_canon_eq (hpayloadKeys a) hcanon "format_sha256"
  have hcover := Json.get?_of_canon_eq (hpayloadKeys a) hcanon "cover_sha256"
  exact Prod.ext (Json.str.inj (Option.some.inj hformat)) (Json.str.inj (Option.some.inj hcover))

/-- The LLM is sent no image. -/
theorem LlmEnricher.receipts_collect (e : LlmEnricher) (book : BookSnapshot)
    (inspections : List FormatInspection) :
    ∀ receipt ∈ (e.collect py book inspections).privacyReceipts, isImageReceipt receipt = false := by
  have hdump : ∀ (provider : Option String) (remote : Option Bool), ∀ receipt ∈ [
      ({ (buildRemoteEvidenceBundle py book.bookKey inspections true (max 0 e.maxChars)).2 with
        provider, remote } : EgressReceipt).dump], isImageReceipt receipt = false := by
    intro provider remote receipt hreceipt
    rw [List.mem_singleton.mp hreceipt]
    exact decide_eq_false fun h => h rfl
  rw [LlmEnricher.collect]
  cases e.provider with
  | none => exact fun receipt h => absurd h List.not_mem_nil
  | some provider =>
    dsimp only
    split
    · exact fun receipt h => absurd h List.not_mem_nil
    · split
      · exact hdump _ _
      · split
        · exact hdump _ _
        · exact hdump _ _
        · split
          · exact hdump _ _
          · exact hdump _ _

/-- What holds of the receipts of each enricher holds of those of all. -/
theorem forall_receipts_collectSelected {P : Dict → Prop} {enrichers : List Enricher}
    (hone : ∀ enricher ∈ enrichers, ∀ inspections collected,
      enricher.collect book inspections = .ok collected → ∀ r ∈ collected.2.privacyReceipts, P r)
    (h : collectSelected enrichers book inspections = .ok collected) :
    ∀ r ∈ collected.2.privacyReceipts, P r := by
  induction enrichers generalizing inspections collected with
  | nil =>
    cases h
    exact fun r hr => absurd hr List.not_mem_nil
  | cons enricher enrichers ih =>
    rw [collectSelected_eq, List.foldlM_cons, collectStep] at h
    cases hcollect : enricher.collect book inspections with
    | error raised =>
      rw [hcollect] at h
      cases h
    | ok done =>
      rw [hcollect] at h
      have hfold : enrichers.foldlM (collectStep book) (done.1, .append {} done.2) = .ok collected := h
      rw [foldlM_collectStep] at hfold
      cases hrest : collectSelected enrichers book done.1 with
      | error raised =>
        rw [hrest] at hfold
        cases hfold
      | ok rest =>
        rw [hrest] at hfold
        cases hfold
        intro r hr
        rcases List.mem_append.mp hr with hr | hr
        · exact hone enricher List.mem_cons_self inspections done hcollect r hr
        · exact ih (fun x hx => hone x (List.mem_cons_of_mem _ hx)) hrest r hr

theorem receipts_lookups (h : collectSelected (o.lookups py) book inspections = .ok collected) :
    ∀ r ∈ collected.2.privacyReceipts, isImageReceipt r = false := by
  refine forall_receipts_collectSelected (fun enricher henricher inspections done hdone => ?_) h
  rcases List.mem_append.mp henricher with henricher | henricher
  · rw [Option.mem_toList] at henricher
    obtain ⟨replies, -, rfl⟩ := Option.map_eq_some_iff.mp henricher
    have hmap : (structuredEvidence py replies inspections).map
        (fun evidence => (inspections, ({ evidence } : EvidenceEnrichment))) = .ok done := hdone
    cases hevidence : structuredEvidence py replies inspections with
    | error raised =>
      rw [hevidence] at hmap
      cases hmap
    | ok evidence =>
      rw [hevidence] at hmap
      cases hmap
      exact fun r hr => absurd hr List.not_mem_nil
  · rw [Option.mem_toList] at henricher
    obtain ⟨e, -, rfl⟩ := Option.map_eq_some_iff.mp henricher
    cases hdone
    exact e.receipts_collect book inspections

theorem Merged.merge_receipts {m m' : Merged} {enrichment : EvidenceEnrichment}
    (h : m.merge py enrichment = some m') : m'.privacyReceipts
      = KeepFirst.addAll (receiptHash py) m.privacyReceipts enrichment.privacyReceipts := by
  obtain ⟨byId, -, heq⟩ := Option.bind_eq_some_iff.mp h
  cases heq
  rfl

end

/-! ### The recognition of a book -/

namespace EnricherOptions

variable (o : EnricherOptions)

/-- The images that a call of the recognition enrichers passes on. -/
def imagesPassed (py : Runtime) (book : BookSnapshot) (inspections : List FormatInspection) : ℕ :=
  (o.vision.map fun e => e.imagesPassed py book (o.afterOcr py inspections)).getD 0

/-- The images that the formats give, as OCR leaves them. -/
def images (py : Runtime) (inspections : List FormatInspection) : List (String × String) :=
  (o.vision.map fun e => e.images (o.afterOcr py inspections)).getD []

/-- The budget of a call. -/
def imageLimit : ℕ := (o.vision.map (·.imageLimit)).getD 0

/-- The receipt of an image. -/
def receipt (py : Runtime) (book : BookSnapshot) (image : String × String) : Dict :=
  (o.vision.map fun e => e.receipt py book image).getD []

variable {o} {book : BookSnapshot} {inspections : List FormatInspection}

theorem afterOcr_append (a b : List FormatInspection) :
    o.afterOcr py (a ++ b) = o.afterOcr py a ++ o.afterOcr py b := by
  rw [afterOcr, afterOcr, afterOcr]
  cases o.ocr with
  | none => rfl
  | some e =>
    show ((a ++ b).map (e.recognize py)).map (·.inspection) = _
    rw [List.map_append, List.map_append]
    rfl

theorem images_append (a b : List FormatInspection) :
    o.images py (a ++ b) = o.images py a ++ o.images py b := by
  rw [images, images, images, afterOcr_append]
  cases o.vision with
  | none => rfl
  | some e => exact e.images_append _ _

theorem images_flatMap (inspections : List FormatInspection) :
    (inspections.flatMap fun i => o.images py [i]) = o.images py inspections := by
  induction inspections with
  | nil =>
    rw [images, afterOcr]
    cases o.ocr <;> cases o.vision <;> simp [VisionEnricher.images, OcrEnricher.collect]
  | cons i inspections ih => rw [List.flatMap_cons, ih, ← images_append, List.singleton_append]

theorem imagesPassed_eq (book : BookSnapshot) (inspections : List FormatInspection) :
    o.imagesPassed py book inspections = min o.imageLimit (o.images py inspections).length := by
  rw [imagesPassed, imageLimit, images]
  cases o.vision with
  | none => rfl
  | some e => exact e.imagesPassed_eq book _

theorem length_images_singleton_le (py : Runtime) (i : FormatInspection) :
    (o.images py [i]).length ≤ o.imageLimit := by
  rw [images, imageLimit, afterOcr]
  cases o.vision with
  | none => exact Nat.le_refl 0
  | some e =>
    cases o.ocr with
    | none => exact e.length_images_singleton_le i
    | some ocr => exact e.length_images_singleton_le _

theorem images_eq_nil_of_limit (h : o.imageLimit = 0) (inspections : List FormatInspection) :
    o.images py inspections = [] := by
  rw [imageLimit] at h
  rw [images]
  cases hvision : o.vision with
  | none => rfl
  | some e =>
    rw [hvision] at h
    exact e.images_eq_nil_of_limit h _

theorem collectSelected_recognizers (py : Runtime) (book : BookSnapshot) (inspections : List FormatInspection) :
    ∃ collected, collectSelected (o.recognizers py) book inspections = .ok collected ∧
      collected.2.privacyReceipts
        = ((o.images py inspections).take o.imageLimit).map (o.receipt py book) := by
  have hreceipt : o.receipt py book = fun image =>
      (o.vision.map fun e => e.receipt py book image).getD [] := rfl
  rw [recognizers, images, imageLimit, hreceipt, afterOcr]
  cases o.ocr with
  | none =>
    cases o.vision with
    | none => exact ⟨_, rfl, rfl⟩
    | some e => exact ⟨_, rfl, e.receipts_collect book inspections⟩
  | some ocr =>
    cases o.vision with
    | none => exact ⟨_, rfl, rfl⟩
    | some e => exact ⟨_, rfl, e.receipts_collect book _⟩

theorem isImageReceipt_receipt {image : String × String} (h : image ∈ o.images py inspections) :
    isImageReceipt (o.receipt py book image) = true := by
  rw [images] at h
  rw [receipt]
  cases hvision : o.vision with
  | none =>
    rw [hvision] at h
    exact absurd h List.not_mem_nil
  | some e => exact e.isImageReceipt_receipt image

/-- Distinct images have receipts of distinct hashes. -/
theorem nodup_receiptHash_iff (hsha : Function.Injective py.sha256) :
    (((o.images py inspections).map (o.receipt py book)).map (receiptHash py)).Nodup ↔
      (o.images py inspections).Nodup := by
  constructor
  · exact fun h => (h.of_map _).of_map _
  · intro h
    rw [List.map_map]
    refine h.map_on fun a ha b _ heq => ?_
    rw [images] at ha
    cases hvision : o.vision with
    | none =>
      rw [hvision] at ha
      exact absurd ha List.not_mem_nil
    | some e =>
      have hreceipt : ∀ image, o.receipt py book image = e.receipt py book image := by
        intro image
        rw [receipt, hvision]
        rfl
      rw [Function.comp_apply, Function.comp_apply, hreceipt, hreceipt] at heq
      exact imageReceipt_inj hsha heq

end EnricherOptions

namespace LibraryAuditPipeline

section

variable (py : Runtime) (pipeline : LibraryAuditPipeline)

/-- The inspections of the exports that the enrichers are handed: up to the one that raises. -/
def handedExports (replies : BookReplies) (snapshot : BookSnapshot) :
    List FormatInspection × Merged → List String → List FormatInspection
  | _, [] => []
  | done, reference :: references =>
    match replies.inspect reference with
    | .error _ => []
    | .ok inspection =>
      inspection :: match inspectReference py replies snapshot done reference with
        | .error _ => []
        | .ok done => handedExports replies snapshot done references

/-- The inspections that the recognition enrichers are handed: of a local book in one call, of a
materialized book each in a call of its own. -/
def handed (replies : BookReplies) (snapshot : BookSnapshot) : List FormatInspection :=
  match pipeline.source with
  | none =>
    match pipeline.inspectLocal py replies snapshot.files with
    | .error _ => []
    | .ok inspections => inspections
  | some _ => handedExports py replies snapshot ([], {}) snapshot.files

/-- The images that are passed to the vision backend for a book. -/
def imagesSent (o : EnricherOptions) (replies : BookReplies) (snapshot : BookSnapshot) : ℕ :=
  let handed := pipeline.handed py (replies.enriched pipeline (buildV2Enricher py o)) snapshot
  match pipeline.source with
  | none => o.imagesPassed py snapshot handed
  | some _ => (handed.map fun inspection => o.imagesPassed py snapshot [inspection]).sum

/-- The receipts of images that the enrichment of a book has; a book that raises has none. -/
def imageReceipts (o : EnricherOptions) (replies : BookReplies) (snapshot : BookSnapshot) :
    List Dict :=
  match pipeline.gather py (replies.enriched pipeline (buildV2Enricher py o)) snapshot with
  | .error _ => []
  | .ok collected => collected.2.privacyReceipts.filter isImageReceipt

/-- The images that the formats of a book give, as far as they are handed to the enrichers. -/
def bookImages (o : EnricherOptions) (replies : BookReplies) (snapshot : BookSnapshot) :
    List (String × String) :=
  o.images py (pipeline.handed py (replies.enriched pipeline (buildV2Enricher py o)) snapshot)

end

variable {pipeline : LibraryAuditPipeline} {o : EnricherOptions} {replies : BookReplies}
  {snapshot : BookSnapshot} {collected : Collected}

/-! ### A local book -/

theorem imagesSent_local (hsource : pipeline.source = none) :
    pipeline.imagesSent py o replies snapshot
      = min o.imageLimit (pipeline.bookImages py o replies snapshot).length := by
  rw [imagesSent, hsource]
  exact o.imagesPassed_eq snapshot _

theorem imageReceipts_local (hsource : pipeline.source = none)
    (h : pipeline.gather py (replies.enriched pipeline (buildV2Enricher py o)) snapshot
      = .ok collected) :
    (pipeline.imageReceipts py o replies snapshot).length
      = min o.imageLimit (pipeline.bookImages py o replies snapshot).length := by
  rw [imageReceipts, h, bookImages, handed, hsource]
  dsimp only
  rw [gather, hsource] at h
  dsimp only at h
  rw [gatherLocal] at h
  obtain ⟨inspections, hinspect, h⟩ := Except.exists_of_bind_eq_ok h
  have hcollect := Except.eq_ok_of_mapError h
  rw [BookReplies.enriched, hsource] at hcollect
  dsimp only at hcollect
  rw [EnricherOptions.buildV2Enricher_eq, collectSelected_append] at hcollect
  rw [hinspect]
  dsimp only
  obtain ⟨done, hdone, hreceipts⟩ := o.collectSelected_recognizers py snapshot inspections
  rw [hdone] at hcollect
  cases hrest : collectSelected (o.lookups py) snapshot done.1 with
  | error raised =>
    rw [Except.bind, hrest] at hcollect
    cases hcollect
  | ok rest =>
    rw [Except.bind, hrest] at hcollect
    cases hcollect
    show ((done.2.privacyReceipts ++ rest.2.privacyReceipts).filter isImageReceipt).length = _
    have hnone : rest.2.privacyReceipts.filter isImageReceipt = [] := by
      refine List.filter_eq_nil_iff.mpr fun r hr => ?_
      rw [receipts_lookups hrest r hr]
      decide
    have hall : done.2.privacyReceipts.filter isImageReceipt = done.2.privacyReceipts := by
      refine List.filter_eq_self.mpr fun r hr => ?_
      rw [hreceipts] at hr
      obtain ⟨image, himage, rfl⟩ := List.mem_map.mp hr
      exact EnricherOptions.isImageReceipt_receipt (List.mem_of_mem_take himage)
    rw [List.filter_append, hnone, hall, List.append_nil, hreceipts, List.length_map, List.length_take]

/-! ### A materialized book -/

theorem imagesSent_remote {source : BookSourceDescriptor} (hsource : pipeline.source = some source) :
    pipeline.imagesSent py o replies snapshot
      = (pipeline.bookImages py o replies snapshot).length := by
  have hone : ∀ i, o.imagesPassed py snapshot [i] = (o.images py [i]).length := by
    intro i
    have hle := o.length_images_singleton_le py i
    rw [o.imagesPassed_eq, Nat.min_eq_right hle]
  rw [imagesSent, hsource, bookImages]
  dsimp only
  generalize pipeline.handed py (replies.enriched pipeline (buildV2Enricher py o)) snapshot = handed
  rw [← EnricherOptions.images_flatMap, List.length_flatMap]
  exact congrArg List.sum (List.map_congr_left fun i _ => hone i)

theorem inspectReference_receipts {before after : List FormatInspection × Merged} {reference : String}
    (h : inspectReference py (replies.enriched pipeline (buildV2Enricher py o)) snapshot before
      reference = .ok after) :
    ∃ i, (replies.enriched pipeline (buildV2Enricher py o)).inspect reference = .ok i ∧
      after.2.privacyReceipts = KeepFirst.addAll (receiptHash py) before.2.privacyReceipts
        ((o.images py [i]).map (o.receipt py snapshot)) := by
  rw [inspectReference] at h
  obtain ⟨inspection, hinspect, h⟩ := Except.exists_of_bind_eq_ok h
  obtain ⟨⟨recognized, merged⟩, hmerge, h⟩ := Except.exists_of_bind_eq_ok h
  obtain ⟨-, -, h⟩ := Except.exists_of_bind_eq_ok h
  refine ⟨inspection, Except.eq_ok_of_mapError hinspect, ?_⟩
  rw [mergeMaterialized, BookReplies.enriched] at hmerge
  dsimp only at hmerge
  obtain ⟨done, hdone, hreceipts⟩ := o.collectSelected_recognizers py snapshot [inspection]
  rw [EnricherOptions.filter_materialized, hdone] at hmerge
  dsimp only [Except.map] at hmerge
  cases hmerged : before.2.merge py done.2 with
  | none =>
    rw [hmerged] at hmerge
    cases hmerge
  | some m =>
    rw [hmerged] at hmerge
    cases hmerge
    cases h
    show merged.privacyReceipts = _
    rw [Merged.merge_receipts hmerged, hreceipts,
      List.take_of_length_le (o.length_images_singleton_le py inspection)]

/-- The receipts of the exports: those of their images, each hash once. -/
theorem foldlM_inspectReference_receipts {before after : List FormatInspection × Merged}
    {references : List String}
    (h : references.foldlM (inspectReference py (replies.enriched pipeline (buildV2Enricher py o))
      snapshot) before = .ok after) :
    after.2.privacyReceipts = KeepFirst.addAll (receiptHash py) before.2.privacyReceipts
      ((o.images py (handedExports py (replies.enriched pipeline (buildV2Enricher py o)) snapshot before
        references)).map (o.receipt py snapshot)) := by
  induction references generalizing before with
  | nil =>
    cases h
    rw [handedExports, ← EnricherOptions.images_flatMap]
    rfl
  | cons reference references ih =>
    rw [List.foldlM_cons] at h
    obtain ⟨middle, hstep, h⟩ := Except.exists_of_bind_eq_ok h
    obtain ⟨i, hinspect, hreceipts⟩ := inspectReference_receipts hstep
    rw [handedExports, hinspect, hstep]
    dsimp only
    rw [ih h, hreceipts, ← KeepFirst.addAll_append, ← List.map_append, ← EnricherOptions.images_append,
      List.singleton_append]

theorem imageReceipts_remote {source : BookSourceDescriptor} (hsource : pipeline.source = some source)
    (h : pipeline.gather py (replies.enriched pipeline (buildV2Enricher py o)) snapshot
      = .ok collected) :
    pipeline.imageReceipts py o replies snapshot
      = KeepFirst.addAll (receiptHash py) []
        ((pipeline.bookImages py o replies snapshot).map (o.receipt py snapshot)) := by
  rw [imageReceipts, h, bookImages, handed, hsource]
  dsimp only
  rw [gather, hsource] at h
  dsimp only at h
  rw [inspectRemote] at h
  obtain ⟨⟨inspections, merged⟩, hexports, h⟩ := Except.exists_of_bind_eq_ok h
  obtain ⟨-, -, h⟩ := Except.exists_of_bind_eq_ok h
  cases h
  rw [inspectExports] at hexports
  obtain ⟨⟨exports, before⟩, hfold, hexports⟩ := Except.exists_of_bind_eq_ok hexports
  obtain ⟨collected, hcollect, hexports⟩ := Except.exists_of_bind_eq_ok hexports
  have hreceipts := foldlM_inspectReference_receipts hfold
  have hselected := Except.eq_ok_of_mapError hcollect
  rw [BookReplies.enriched, hsource] at hselected
  dsimp only at hselected
  rw [EnricherOptions.filter_aggregate] at hselected
  cases hmerge : before.merge py collected.2 with
  | none =>
    simp only [hmerge] at hexports
    cases hexports
  | some after =>
    simp only [hmerge] at hexports
    cases hexports
    show merged.privacyReceipts.filter isImageReceipt = _
    rw [Merged.merge_receipts hmerge, KeepFirst.filter_addAll (receipts_lookups hselected), hreceipts]
    refine List.filter_eq_self.mpr (KeepFirst.forall_mem_addAll (fun r hr => ?_) fun r hr => ?_)
    · exact absurd hr List.not_mem_nil
    · obtain ⟨image, himage, rfl⟩ := List.mem_map.mp hr
      exact EnricherOptions.isImageReceipt_receipt himage

/-! ### The budget -/

/-- No image is sent for the book; or its inspection completes and it is a local book, or its formats
give no more images than the budget allows, and no image twice. -/
def WithinBudget (py : Runtime) (pipeline : LibraryAuditPipeline) (o : EnricherOptions)
    (replies : BookReplies) (snapshot : BookSnapshot) : Prop :=
  pipeline.bookImages py o replies snapshot = [] ∨
    (∃ collected, pipeline.gather py (replies.enriched pipeline (buildV2Enricher py o)) snapshot
      = .ok collected) ∧
    (pipeline.source = none ∨
      (pipeline.bookImages py o replies snapshot).length ≤ o.imageLimit ∧
      (pipeline.bookImages py o replies snapshot).Nodup)

/-- **The image budget of a book.** A book keeps to the budget, with a receipt for each image, exactly
when nothing is sent for it, or its inspection completes and it is local or its formats give few enough
images, all different. -/
theorem imageBudget_iff (hsha : Function.Injective py.sha256) (pipeline : LibraryAuditPipeline)
    (o : EnricherOptions) (replies : BookReplies) (snapshot : BookSnapshot) :
    (pipeline.imagesSent py o replies snapshot ≤ o.imageLimit ∧
      (pipeline.imageReceipts py o replies snapshot).length
        = pipeline.imagesSent py o replies snapshot) ↔
      WithinBudget py pipeline o replies snapshot := by
  rw [WithinBudget, ← List.length_eq_zero_iff]
  have hlimit : o.imageLimit = 0 → (pipeline.bookImages py o replies snapshot).length = 0 :=
    fun h => by rw [bookImages, EnricherOptions.images_eq_nil_of_limit h, List.length_nil]
  cases hgather : pipeline.gather py (replies.enriched pipeline (buildV2Enricher py o)) snapshot with
  | error error =>
    have hreceipts : (pipeline.imageReceipts py o replies snapshot).length = 0 := by
      rw [imageReceipts, hgather]
      rfl
    have hnone : ¬ ∃ collected, (.error error : Except BookError Collected) = .ok collected := by
      rintro ⟨collected, h⟩
      cases h
    rw [hreceipts]
    cases hsource : pipeline.source with
    | none =>
      rw [imagesSent_local hsource]
      constructor
      · rintro ⟨-, h⟩
        left
        by_contra hne
        have := mt hlimit hne
        omega
      · rintro (h | ⟨h, -⟩)
        · omega
        · exact absurd h hnone
    | some source =>
      rw [imagesSent_remote hsource]
      constructor
      · rintro ⟨-, h⟩
        exact .inl h.symm
      · rintro (h | ⟨h, -⟩)
        · omega
        · exact absurd h hnone
  | ok collected =>
    cases hsource : pipeline.source with
    | none =>
      rw [imagesSent_local hsource, imageReceipts_local hsource hgather]
      exact iff_of_true ⟨Nat.min_le_left _ _, rfl⟩ (.inr ⟨⟨collected, rfl⟩, .inl rfl⟩)
    | some source =>
      rw [imagesSent_remote hsource, imageReceipts_remote hsource hgather]
      have hnil : (([] : List Dict).map (receiptHash py)).Nodup := List.nodup_nil
      have hlength := KeepFirst.length_addAll_eq_iff
        (l := (pipeline.bookImages py o replies snapshot).map (o.receipt py snapshot)) hnil
      rw [List.nil_append, List.length_nil, Nat.zero_add, List.length_map, bookImages,
        EnricherOptions.nodup_receiptHash_iff hsha, ← bookImages] at hlength
      rw [hlength]
      constructor
      · rintro ⟨hle, hnodup⟩
        exact .inr ⟨⟨collected, rfl⟩, .inr ⟨hle, hnodup⟩⟩
      · rintro (h | ⟨-, h | h⟩)
        · rw [List.length_eq_zero_iff] at h
          rw [h]
          exact ⟨Nat.zero_le _, List.nodup_nil⟩
        · cases h
        · exact h

/-- A library that a content server gives out. -/
def serverPipeline : LibraryAuditPipeline :=
  { source := some ⟨.calibreContentServer, "0"⟩, runId := "run" }

/-- The answers for a book of an EPUB and a comic with the given bytes. -/
def twoFormats (epub cbz : String) : BookReplies where
  reader := { metadata := .ok [], references := fun _ => .ok ["EPUB", "CBZ"] }
  inspect := fun reference => .ok { formatEvidence :=
    { path := reference, format := reference, status := .readable
      sha256 := if reference = "EPUB" then epub else cbz } }
  stamp := ("evidence_1", "now")
  failureStamp := ("evidence_2", "now")

/-- The snapshot of the book. -/
def twoFormatsSnapshot : BookSnapshot :=
  serverPipeline.newSnapshot .ascii 1 (canonicalCurrent .ascii []) ["EPUB", "CBZ"]
    (serverPipeline.revision .ascii [])

/-- Vision by a local backend, with the cover of each file. -/
def localVision (maxImages : ℤ) : EnricherOptions :=
  { vision := some { backend := some ("ollama", true), maxImages
                     cover := fun i => some i.formatEvidence.sha256
                     recognizeCover := fun _ => .raised } }

/-- Two formats of different bytes, and a budget of two. -/
theorem two_covers_within_budget :
    serverPipeline.imagesSent .ascii (localVision 2) (twoFormats "0" "1") twoFormatsSnapshot
        ≤ (localVision 2).imageLimit ∧
      (serverPipeline.imageReceipts .ascii (localVision 2) (twoFormats "0" "1")
          twoFormatsSnapshot).length
        = serverPipeline.imagesSent .ascii (localVision 2) (twoFormats "0" "1") twoFormatsSnapshot := by
  have himages : serverPipeline.bookImages .ascii (localVision 2) (twoFormats "0" "1")
      twoFormatsSnapshot = [("0", "0"), ("1", "1")] := rfl
  refine (imageBudget_iff (fun _ _ h => h) serverPipeline (localVision 2) (twoFormats "0" "1")
    twoFormatsSnapshot).mpr (.inr ⟨⟨_, rfl⟩, .inr ?_⟩)
  rw [himages]
  exact ⟨by decide, by decide⟩

/-- With a budget of one image, two are sent; and of one file in two formats there is one receipt for
two images. -/
theorem second_format_over_budget :
    ¬ serverPipeline.imagesSent .ascii (localVision 1) (twoFormats "0" "1") twoFormatsSnapshot
        ≤ (localVision 1).imageLimit ∧
      (serverPipeline.imageReceipts .ascii (localVision 2) (twoFormats "0" "0")
          twoFormatsSnapshot).length
        ≠ serverPipeline.imagesSent .ascii (localVision 2) (twoFormats "0" "0") twoFormatsSnapshot := by
  constructor
  · have htwo : serverPipeline.imagesSent .ascii (localVision 1) (twoFormats "0" "1")
        twoFormatsSnapshot = 2 := rfl
    rw [htwo]
    decide
  · have htwo : serverPipeline.imagesSent .ascii (localVision 2) (twoFormats "0" "0")
        twoFormatsSnapshot = 2 := rfl
    have himages : serverPipeline.bookImages .ascii (localVision 2) (twoFormats "0" "0")
        twoFormatsSnapshot = [("0", "0"), ("0", "0")] := rfl
    rw [htwo, imageReceipts_remote rfl (rfl : serverPipeline.gather .ascii _ _ = .ok _), himages]
    intro h
    have hnil : (([] : List Dict).map (receiptHash .ascii)).Nodup := List.nodup_nil
    have hnodup := (KeepFirst.length_addAll_eq_iff hnil).mp h
    rw [List.map_cons, List.map_cons, List.nil_append, List.map_cons, List.nodup_cons] at hnodup
    exact hnodup.1 List.mem_cons_self

end LibraryAuditPipeline

end Bookwarden
