import Bookwarden.Pipeline.EnricherKeys

/-!
# When OCR is an authority

One engine may misread an ISBN; two engines that read the same one are trusted. The engines are told
apart by their names, and what engines of one name find is put together, so the agreement is between
names and covers everything that was found.

## Main definitions

* `OcrBackend.found` — the valid ISBNs that one engine finds in a file
* `Gathered` — what `by_engine` holds after some engines
* `Unanimous` — every engine that finds something finds this ISBN and no other

## Main results

* `OcrEnricher.gathered_scan` — the loop over the engines
* `ocr_authority` — authority needs two names, disagreement stops everything, and no identifier is
  replaced
-/

namespace Bookwarden

/-- The valid ISBNs that an engine finds; none when it fails. -/
def OcrBackend.found (b : OcrBackend) (inspection : FormatInspection) : List String :=
  ((b.ocrPdfPages inspection).map fun pages => isbnCandidates (ocrText pages)).getD []

/-- Every engine that finds something finds this ISBN and no other. -/
def Unanimous (backends : List OcrBackend) (inspection : FormatInspection) (isbn : String) : Prop :=
  ∀ b ∈ backends, b.found inspection = [] ∨ b.found inspection = [isbn]

theorem OcrBackend.nodup_found (b : OcrBackend) (inspection : FormatInspection) :
    (b.found inspection).Nodup := by
  rw [OcrBackend.found]
  cases b.ocrPdfPages inspection with
  | none => exact List.nodup_nil
  | some pages => exact List.nodup_dedup _

/-! ### The loop over the engines -/

/-- The engines that found something are filed under their names, with everything found under the
name. -/
structure Gathered (inspection : FormatInspection) (backends : List OcrBackend)
    (byEngine : List (String × List String)) : Prop where
  nodup : (Assoc.keys byEngine).Nodup
  found : ∀ name ids, Assoc.get? name byEngine = some ids → ids ≠ [] ∧
    ∀ isbn, isbn ∈ ids ↔ ∃ b ∈ backends, b.name = name ∧ isbn ∈ b.found inspection
  filed : ∀ b ∈ backends, b.found inspection ≠ [] → b.name ∈ Assoc.keys byEngine

variable {inspection : FormatInspection} {backends : List OcrBackend}
  {byEngine : List (String × List String)}

theorem gathered_nil : Gathered inspection [] [] :=
  ⟨List.nodup_nil, fun name ids h => by simp at h, fun b hb => absurd hb List.not_mem_nil⟩

theorem byEngine_scanEngine (name : String) (scan : EngineScan) (b : OcrBackend) :
    (scanEngine inspection name scan b).byEngine =
      if b.found inspection = [] then scan.byEngine
      else Assoc.set b.name
        (distinct ((Assoc.get? b.name scan.byEngine).getD [] ++ b.found inspection)) scan.byEngine := by
  rw [scanEngine, OcrBackend.found]
  cases b.ocrPdfPages inspection with
  | none =>
    rw [Option.map_none, Option.getD_none, if_pos rfl]
  | some pages =>
    rw [Option.map_some, Option.getD_some]

/-- An engine that finds nothing changes nothing. -/
theorem Gathered.skip (h : Gathered inspection backends byEngine) {b : OcrBackend}
    (hb : b.found inspection = []) : Gathered inspection (backends ++ [b]) byEngine := by
  refine ⟨h.nodup, fun name ids hids => ?_, fun c hc hfound => ?_⟩
  · obtain ⟨hne, hmem⟩ := h.found name ids hids
    refine ⟨hne, fun isbn => ?_⟩
    rw [hmem]
    constructor
    · rintro ⟨c, hc, hname, hisbn⟩
      exact ⟨c, List.mem_append_left _ hc, hname, hisbn⟩
    · rintro ⟨c, hc, hname, hisbn⟩
      rcases List.mem_append.mp hc with hc | hc
      · exact ⟨c, hc, hname, hisbn⟩
      · rw [List.mem_singleton.mp hc, hb] at hisbn
        exact absurd hisbn List.not_mem_nil
  · rcases List.mem_append.mp hc with hc | hc
    · exact h.filed c hc hfound
    · exact absurd (List.mem_singleton.mp hc ▸ hb) hfound

/-- What an engine finds is added under its name. -/
theorem Gathered.add (h : Gathered inspection backends byEngine) {b : OcrBackend}
    (hb : b.found inspection ≠ []) : Gathered inspection (backends ++ [b])
      (Assoc.set b.name (distinct ((Assoc.get? b.name byEngine).getD [] ++ b.found inspection))
        byEngine) := by
  -- what was filed under a name before, or nothing
  have hold : ∀ name isbn, isbn ∈ (Assoc.get? name byEngine).getD [] ↔
      ∃ c ∈ backends, c.name = name ∧ isbn ∈ c.found inspection := by
    intro name isbn
    cases hget : Assoc.get? name byEngine with
    | some ids => exact (h.found name ids hget).2 isbn
    | none =>
      refine iff_of_false List.not_mem_nil ?_
      rintro ⟨c, hc, rfl, hisbn⟩
      exact Assoc.get?_eq_none_iff.mp hget (h.filed c hc (List.ne_nil_of_mem hisbn))
  have hmem : ∀ name isbn, (∃ c ∈ backends ++ [b], c.name = name ∧ isbn ∈ c.found inspection) ↔
      isbn ∈ (Assoc.get? name byEngine).getD [] ∨ (b.name = name ∧ isbn ∈ b.found inspection) := by
    intro name isbn
    rw [hold]
    constructor
    · rintro ⟨c, hc, hname, hisbn⟩
      rcases List.mem_append.mp hc with hc | hc
      · exact .inl ⟨c, hc, hname, hisbn⟩
      · rw [List.mem_singleton.mp hc] at hname hisbn
        exact .inr ⟨hname, hisbn⟩
    · rintro (⟨c, hc, hname, hisbn⟩ | ⟨hname, hisbn⟩)
      · exact ⟨c, List.mem_append_left _ hc, hname, hisbn⟩
      · exact ⟨b, List.mem_append_right _ (List.mem_singleton_self b), hname, hisbn⟩
  refine ⟨Assoc.nodup_keys_set h.nodup _ _, fun name ids hids => ?_, fun c hc hfound => ?_⟩
  · rw [Assoc.get?_set] at hids
    by_cases hname : name = b.name
    · rw [if_pos hname, Option.some.injEq] at hids
      subst hname
      have hids' : ∀ isbn, isbn ∈ ids ↔ isbn ∈ (Assoc.get? b.name byEngine).getD [] ∨
          isbn ∈ b.found inspection := by
        intro isbn
        rw [← hids, distinct, List.mem_dedup, List.mem_append]
      refine ⟨?_, fun isbn => ?_⟩
      · obtain ⟨isbn, hisbn⟩ := List.exists_mem_of_ne_nil _ hb
        exact List.ne_nil_of_mem ((hids' isbn).mpr (.inr hisbn))
      · rw [hids', hmem]
        exact or_congr_right ⟨fun hisbn => ⟨rfl, hisbn⟩, fun hisbn => hisbn.2⟩
    · rw [if_neg hname] at hids
      refine ⟨(h.found name ids hids).1, fun isbn => ?_⟩
      rw [hmem, hids, Option.getD_some]
      refine (or_iff_left ?_).symm
      rintro ⟨heq, -⟩
      exact hname heq.symm
  · rw [Assoc.mem_keys_iff]
    by_cases hname : c.name = b.name
    · exact ⟨_, by rw [hname, Assoc.get?_set, if_pos rfl]⟩
    · have hold' : c ∈ backends := by
        rcases List.mem_append.mp hc with hc | hc
        · exact hc
        · exact absurd (congrArg OcrBackend.name (List.mem_singleton.mp hc)) hname
      obtain ⟨ids, hids⟩ := Assoc.mem_keys_iff.mp (h.filed c hold' hfound)
      exact ⟨ids, by rw [Assoc.get?_set, if_neg hname, hids]⟩

/-- The loop over the engines files what they found. -/
theorem gathered_foldl (name : String) (snippets : List ExtractedSnippet)
    (backends : List OcrBackend) : Gathered inspection backends
      (backends.foldl (scanEngine inspection name) { snippets := snippets }).byEngine := by
  induction backends using List.reverseRecOn with
  | nil => exact gathered_nil
  | append_singleton backends b ih =>
    rw [List.foldl_append, List.foldl_cons, List.foldl_nil, byEngine_scanEngine]
    by_cases hb : b.found inspection = []
    · rw [if_pos hb]
      exact ih.skip hb
    · rw [if_neg hb]
      exact ih.add hb

theorem OcrEnricher.gathered_scan (e : OcrEnricher) (inspection : FormatInspection) :
    Gathered inspection e.backends (e.scan inspection).byEngine :=
  gathered_foldl _ _ e.backends

/-! ### The agreement -/

theorem engineConsensus_eq_some {isbn : String} (h : engineConsensus byEngine = some isbn) :
    byEngine ≠ [] ∧ ∀ name ids, Assoc.get? name byEngine = some ids → ids = [isbn] := by
  rw [engineConsensus] at h
  split at h
  · rename_i other hdedup
    cases h
    refine ⟨?_, fun name ids hids => ?_⟩
    · rintro rfl
      cases hdedup
    · have hmem : ids ∈ (byEngine.map Prod.snd).dedup :=
        List.mem_dedup.mpr (List.mem_map.mpr ⟨(name, ids), Assoc.mem_of_get? hids, rfl⟩)
      rw [hdedup] at hmem
      exact List.mem_singleton.mp hmem
  · cases h

/-- What the engines agree on is what each of them found. -/
theorem Gathered.unanimous (h : Gathered inspection backends byEngine) {isbn : String}
    (hisbn : engineConsensus byEngine = some isbn) : Unanimous backends inspection isbn := by
  intro b hb
  by_cases hfound : b.found inspection = []
  · exact .inl hfound
  · right
    obtain ⟨ids, hids⟩ := Assoc.mem_keys_iff.mp (h.filed b hb hfound)
    have hmem := (h.found b.name ids hids).2
    rw [(engineConsensus_eq_some hisbn).2 b.name ids hids] at hmem
    have hsub : ∀ x ∈ b.found inspection, x = isbn := by
      intro x hx
      exact List.mem_singleton.mp ((hmem x).mpr ⟨b, hb, rfl, hx⟩)
    have hlist := List.eq_replicate_iff.mpr ⟨rfl, hsub⟩
    have hlength : (b.found inspection).length ≤ 1 := by
      have hnodup := b.nodup_found inspection
      rw [hlist] at hnodup
      exact List.nodup_replicate.mp hnodup
    have hpos : 0 < (b.found inspection).length := List.length_pos_iff.mpr hfound
    rw [hlist, show (b.found inspection).length = 1 by omega, List.replicate_one]

/-- Behind every name there is an engine that found the ISBN, and nothing else. -/
theorem Gathered.voter (h : Gathered inspection backends byEngine) {isbn name : String}
    (hisbn : engineConsensus byEngine = some isbn) (hname : name ∈ Assoc.keys byEngine) :
    ∃ b ∈ backends, b.name = name ∧ b.found inspection = [isbn] := by
  obtain ⟨ids, hids⟩ := Assoc.mem_keys_iff.mp hname
  have hmem := (h.found name ids hids).2
  rw [(engineConsensus_eq_some hisbn).2 name ids hids] at hmem
  obtain ⟨b, hb, hbname, hfound⟩ := (hmem isbn).mp (List.mem_singleton_self isbn)
  rcases h.unanimous hisbn b hb with hempty | hone
  · rw [hempty] at hfound
    exact absurd hfound List.not_mem_nil
  · exact ⟨b, hb, hbname, hone⟩

/-- Two names are filed when the evidence is authoritative. -/
theorem exists_two_names (hnodup : (Assoc.keys byEngine).Nodup)
    (hlength : 2 ≤ (sorted (Assoc.keys byEngine)).length) :
    ∃ name ∈ Assoc.keys byEngine, ∃ name' ∈ Assoc.keys byEngine, name ≠ name' := by
  rw [sorted, List.length_insertionSort] at hlength
  rcases hkeys : Assoc.keys byEngine with _ | ⟨name, _ | ⟨name', names⟩⟩ <;>
    rw [hkeys] at hlength hnodup
  · exact absurd hlength (by simp)
  · exact absurd hlength (by simp)
  · refine ⟨name, List.mem_cons_self, name', List.mem_cons_of_mem _ List.mem_cons_self, ?_⟩
    rintro rfl
    exact (List.nodup_cons.mp hnodup).1 List.mem_cons_self

/-- Authoritative OCR evidence is about an ISBN that two engines of different names found alone. -/
theorem OcrEnricher.authoritative_spec (e : OcrEnricher) (py : Runtime)
    {inspection : FormatInspection} {item : SourceEvidence}
    (hitem : item ∈ e.evidence inspection py) (hauthority : item.authoritative = true ∨
      item.sourceKind = .ocrConsensus) :
    inspection.formatEvidence.format = "PDF" ∧ ∃ isbn, item.value = .strDict [("isbn", isbn)] ∧
      ∃ b ∈ e.backends, ∃ b' ∈ e.backends, b.name ≠ b'.name ∧ b.found inspection = [isbn] ∧
        b'.found inspection = [isbn] := by
  rw [OcrEnricher.evidence] at hitem
  split at hitem
  · rename_i htakes
    obtain ⟨isbn, hisbn, rfl⟩ := List.mem_map.mp hitem
    rw [Option.mem_toList] at hisbn
    have hgathered := e.gathered_scan inspection
    have hlength : 2 ≤ (sorted (Assoc.keys (e.scan inspection).byEngine)).length := by
      rcases hauthority with h | h
      · exact of_decide_eq_true h
      · by_contra hfew
        have hkind : EvidenceSourceKind.ocrObservation = .ocrConsensus := by
          rw [← h]
          exact (if_neg hfew).symm
        cases hkind
    obtain ⟨name, hname, name', hname', hne⟩ := exists_two_names hgathered.nodup hlength
    obtain ⟨b, hb, rfl, hfound⟩ := hgathered.voter hisbn hname
    obtain ⟨b', hb', rfl, hfound'⟩ := hgathered.voter hisbn hname'
    exact ⟨htakes.1, isbn, rfl, b, hb, b', hb', hne, hfound, hfound'⟩
  · exact absurd hitem List.not_mem_nil

/-- Without an agreement of everything that was found, there is no evidence. -/
theorem OcrEnricher.evidence_eq_nil (e : OcrEnricher) (py : Runtime) {inspection : FormatInspection}
    (h : ¬ ∃ isbn, Unanimous e.backends inspection isbn) : e.evidence inspection py = [] := by
  rw [OcrEnricher.evidence]
  split
  · cases hisbn : engineConsensus (e.scan inspection).byEngine with
    | none => rfl
    | some isbn => exact absurd ⟨isbn, (e.gathered_scan inspection).unanimous hisbn⟩ h
  · rfl

/-- A format that has an identifier is passed over. -/
theorem OcrEnricher.recognize_identified (e : OcrEnricher) (py : Runtime)
    {inspection : FormatInspection} (h : inspection.formatEvidence.identifiers ≠ []) :
    (e.recognize py inspection).inspection = inspection := by
  rw [OcrEnricher.recognize]
  exact congrArg Recognized.inspection (if_pos (.inr h))

/-- **OCR authority.** For all engines and all that they read: authoritative evidence stands for an
ISBN that two engines of different names found, each as its only one; where the engines that found
something do not all have found one and the same, the file gives no evidence; and an identifier that
is there is not replaced. -/
theorem ocr_authority (py : Runtime) (e : OcrEnricher) (inspections : List FormatInspection) :
    (e.collect py inspections).2.evidence = inspections.flatMap (e.evidence · py) ∧
    (∀ item ∈ (e.collect py inspections).2.evidence,
      item.authoritative = true ∨ item.sourceKind = .ocrConsensus →
      ∃ i ∈ inspections, item ∈ e.evidence i py ∧ i.formatEvidence.format = "PDF" ∧
        ∃ isbn, item.value = .strDict [("isbn", isbn)] ∧
          ∃ b ∈ e.backends, ∃ b' ∈ e.backends, b.name ≠ b'.name ∧ b.found i = [isbn] ∧
            b'.found i = [isbn]) ∧
    (∀ i ∈ inspections, (¬ ∃ isbn, Unanimous e.backends i isbn) → e.evidence i py = []) ∧
    List.Forall₂ (fun before after => before.formatEvidence.identifiers ≠ [] →
      after.formatEvidence.identifiers = before.formatEvidence.identifiers)
      inspections (e.collect py inspections).1 := by
  have hevidence : (e.collect py inspections).2.evidence = inspections.flatMap (e.evidence · py) := by
    rw [OcrEnricher.collect, List.flatMap_map]
    exact List.flatMap_congr fun i _ => (e.recognize_evidence i py).2
  refine ⟨hevidence, fun item hitem hauthority => ?_, fun i _ h => e.evidence_eq_nil py h, ?_⟩
  · rw [hevidence, List.mem_flatMap] at hitem
    obtain ⟨i, hi, hitem⟩ := hitem
    exact ⟨i, hi, hitem, e.authoritative_spec py hitem hauthority⟩
  · rw [OcrEnricher.collect, List.map_map, List.forall₂_map_right_iff, List.forall₂_same]
    intro i _ hids
    show (e.recognize py i).inspection.formatEvidence.identifiers = _
    rw [e.recognize_identified py hids]

end Bookwarden
