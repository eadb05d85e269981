import Bookwarden.Extractors.Multiformat

/-!
# The evidence keys of one file

An evidence id is a truncated hash of a key. The key of an item of a file is the file's digest, the
field and the place; a separator stands between them that no field contains. An extractor states a
field once at one place, with one exception: an EPUB may find the ISBN of its content in the package
document itself, where it has stated the ISBN already.

## Main results

* `nul_append_inj`, `append_nul_inj` — splitting a text at a separator
* `inspectFormat_keys_nodup_iff` — when the keys of one file are distinct
-/

namespace Bookwarden

/-! ### Texts with a separator -/

/-- The separator does not occur. -/
def NulFree (s : String) : Prop := Char.ofNat 0 ∉ s.toList

instance (s : String) : Decidable (NulFree s) := inferInstanceAs (Decidable (_ ∉ _))

theorem toList_nul_append (a b : String) :
    (a ++ nul ++ b).toList = a.toList ++ Char.ofNat 0 :: b.toList := by
  rw [String.toList_append, String.toList_append, nul, String.toList_singleton, List.append_assoc,
    List.singleton_append]

/-- The first separator splits a text whose first part has none. -/
theorem nul_append_inj {a b c d : String} (ha : NulFree a) (hc : NulFree c)
    (h : a ++ nul ++ b = c ++ nul ++ d) : a = c ∧ b = d := by
  have hlist := congrArg String.toList h
  rw [toList_nul_append, toList_nul_append] at hlist
  rw [List.append_eq_append_iff] at hlist
  rcases hlist with ⟨as, has, hrest⟩ | ⟨cs, hcs, hrest⟩
  · cases as with
    | nil =>
      rw [List.append_nil] at has
      rw [List.nil_append, List.cons_inj_right] at hrest
      exact ⟨(String.toList_inj.mp has).symm, String.toList_inj.mp hrest⟩
    | cons x as =>
      rw [List.cons_append, List.cons.injEq] at hrest
      exact absurd (by rw [has, ← hrest.1]; exact List.mem_append_right _ List.mem_cons_self) hc
  · cases cs with
    | nil =>
      rw [List.append_nil] at hcs
      rw [List.nil_append, List.cons_inj_right] at hrest
      exact ⟨String.toList_inj.mp hcs, (String.toList_inj.mp hrest).symm⟩
    | cons x cs =>
      rw [List.cons_append, List.cons.injEq] at hrest
      exact absurd (by rw [hcs, ← hrest.1]; exact List.mem_append_right _ List.mem_cons_self) ha

/-- The last separator splits a text whose last part has none. -/
theorem append_nul_inj {a b c d : String} (hb : NulFree b) (hd : NulFree d)
    (h : a ++ nul ++ b = c ++ nul ++ d) : a = c ∧ b = d := by
  have hlist := congrArg String.toList h
  rw [toList_nul_append, toList_nul_append] at hlist
  rw [List.append_eq_append_iff] at hlist
  rcases hlist with ⟨as, has, hrest⟩ | ⟨cs, hcs, hrest⟩
  · cases as with
    | nil =>
      rw [List.append_nil] at has
      rw [List.nil_append, List.cons_inj_right] at hrest
      exact ⟨(String.toList_inj.mp has).symm, String.toList_inj.mp hrest⟩
    | cons x as =>
      rw [List.cons_append, List.cons.injEq] at hrest
      exact absurd (by rw [hrest.2]; exact List.mem_append_right _ List.mem_cons_self) hb
  · cases cs with
    | nil =>
      rw [List.append_nil] at hcs
      rw [List.nil_append, List.cons_inj_right] at hrest
      exact ⟨String.toList_inj.mp hcs, (String.toList_inj.mp hrest).symm⟩
    | cons x cs =>
      rw [List.cons_append, List.cons.injEq] at hrest
      exact absurd (by rw [hrest.2]; exact List.mem_append_right _ List.mem_cons_self) hd

theorem nulFree_of_allowed {field : String} (h : field ∈ allowedPatchFields) : NulFree field := by
  have hall : ∀ f ∈ allowedPatchFields, NulFree f := by decide
  exact hall field h

/-! ### The keys of one file -/

/-- The key of an item of a file. -/
def SourceEvidence.fileKey (item : SourceEvidence) : String :=
  item.rootId ++ nul ++ item.field ++ nul ++ item.locator.getD ""

/-- The keys of an inspection. -/
def FormatInspection.keys (i : FormatInspection) : List String := i.evidence.map (·.fileKey)

/-- The item was made by `_evidence` for a file. -/
structure SourceEvidence.FromFile (py : Runtime) (sha256 : String) (item : SourceEvidence) : Prop where
  root : item.rootId = formatRoot sha256
  id : item.evidenceId = evidenceIdOf py item.fileKey
  field : item.field ∈ allowedPatchFields

variable {py : Runtime} {path sha256 : String} {inspection : FormatInspection}

theorem contentEvidence_fromFile {field : String} (hfield : field ∈ allowedPatchFields) (value : Json)
    (identifiers : Identifiers) (locator : String) (kind : EvidenceSourceKind) :
    (contentEvidence py sha256 field value identifiers locator kind).FromFile py sha256 :=
  ⟨rfl, rfl, hfield⟩

theorem statedEvidence_fromFile {identifiers : Identifiers} {locator : String} {values : Dict}
    (hvalues : ∀ p ∈ values, p.1 ∈ allowedPatchFields) :
    ∀ item ∈ statedEvidence py sha256 identifiers locator values, item.FromFile py sha256 := by
  intro item hitem
  obtain ⟨p, hp, rfl⟩ := List.mem_map.mp hitem
  exact contentEvidence_fromFile (hvalues p (List.mem_of_mem_filter hp)) _ _ _ _

/-- Items of one file have one key when they state one field at one place. -/
theorem SourceEvidence.FromFile.key_eq_iff {a b : SourceEvidence} (ha : a.FromFile py sha256)
    (hb : b.FromFile py sha256) : a.fileKey = b.fileKey ↔
      a.field = b.field ∧ a.locator.getD "" = b.locator.getD "" := by
  constructor
  · intro h
    rw [SourceEvidence.fileKey, SourceEvidence.fileKey, ha.root, hb.root] at h
    simp only [String.append_assoc, String.append_right_inj] at h
    have hsplit : a.field ++ nul ++ a.locator.getD "" = b.field ++ nul ++ b.locator.getD "" := by
      simpa only [String.append_assoc] using h
    exact nul_append_inj (nulFree_of_allowed ha.field) (nulFree_of_allowed hb.field) hsplit
  · rintro ⟨hfield, hlocator⟩
    rw [SourceEvidence.fileKey, SourceEvidence.fileKey, ha.root, hb.root, hfield, hlocator]

/-- Items of one file that state different fields have distinct keys. -/
theorem nodup_keys_of_fields {items : List SourceEvidence}
    (hfile : ∀ item ∈ items, item.FromFile py sha256) (hfields : (items.map (·.field)).Nodup) :
    (items.map (·.fileKey)).Nodup := by
  rw [List.Nodup, List.pairwise_map] at hfields ⊢
  refine hfields.imp_of_mem fun ha hb hne hkey => hne ?_
  exact (((hfile _ ha).key_eq_iff (hfile _ hb)).mp hkey).1

theorem statedEvidence_fields (identifiers : Identifiers) (locator : String) {values : Dict}
    (hvalues : (Assoc.keys values).Nodup) :
    ((statedEvidence py sha256 identifiers locator values).map (·.field)).Nodup := by
  have hmap : (statedEvidence py sha256 identifiers locator values).map (·.field)
      = (values.filter fun p => !isAbsent p.2).map Prod.fst := by
    rw [statedEvidence, List.map_map]
    rfl
  rw [hmap]
  exact hvalues.sublist (List.filter_sublist.map Prod.fst)

/-- One more item of the file has a key of its own unless an item states its field at its place. -/
theorem nodup_keys_append_singleton {stated : List SourceEvidence} {content : SourceEvidence}
    (hstated : ∀ item ∈ stated, item.FromFile py sha256) (hfields : (stated.map (·.field)).Nodup)
    (hcontent : content.FromFile py sha256) :
    ((stated ++ [content]).map (·.fileKey)).Nodup ↔ ∀ item ∈ stated,
      ¬ (item.field = content.field ∧ item.locator.getD "" = content.locator.getD "") := by
  rw [List.map_append, List.map_singleton, List.nodup_append', List.disjoint_singleton]
  constructor
  · rintro ⟨-, -, hnew⟩ item hitem hsame
    refine hnew (List.mem_map.mpr ⟨item, hitem, ?_⟩)
    exact ((hstated item hitem).key_eq_iff hcontent).mpr hsame
  · intro hnew
    refine ⟨nodup_keys_of_fields hstated hfields, List.nodup_singleton _, fun hmem => ?_⟩
    obtain ⟨item, hitem, hkey⟩ := List.mem_map.mp hmem
    exact hnew item hitem (((hstated item hitem).key_eq_iff hcontent).mp hkey)

theorem mem_statedEvidence_field {identifiers : Identifiers} {locator : String} {values : Dict}
    {item : SourceEvidence} (h : item ∈ statedEvidence py sha256 identifiers locator values) :
    item.field ∈ Assoc.keys values ∧ item.locator = some locator := by
  obtain ⟨p, hp, rfl⟩ := List.mem_map.mp h
  exact ⟨List.mem_map_of_mem (List.mem_of_mem_filter hp), rfl⟩

/-- The values state a field that is not absent. -/
theorem exists_statedEvidence_iff {identifiers : Identifiers} {locator field : String} {values : Dict}
    (hvalues : (Assoc.keys values).Nodup) {value : Json} (hget : Assoc.get? field values = some value) :
    (∃ item ∈ statedEvidence py sha256 identifiers locator values, item.field = field) ↔
      isAbsent value = false := by
  constructor
  · rintro ⟨item, hitem, hfield⟩
    obtain ⟨p, hp, rfl⟩ := List.mem_map.mp hitem
    obtain ⟨hp, hpresent⟩ := List.mem_filter.mp hp
    have hp' : Assoc.get? p.1 values = some p.2 := Assoc.get?_of_mem hvalues hp
    have hfield' : p.1 = field := hfield
    rw [hfield', hget, Option.some.injEq] at hp'
    rw [hp']
    simpa using hpresent
  · intro hpresent
    refine ⟨contentEvidence py sha256 field value identifiers locator, ?_, rfl⟩
    refine List.mem_map.mpr ⟨(field, value), List.mem_filter.mpr ⟨Assoc.mem_of_get? hget, ?_⟩, rfl⟩
    rw [hpresent]
    rfl

/-- The EPUB has an ISBN in its package document and one in its content, and the text of the content
that shows it is the package document itself. -/
def EpubArchive.StatesIsbnTwice (py : Runtime) (a : EpubArchive) : Prop :=
  ∃ scan, scanSpine py 0 a.spine {} = .ok scan ∧ a.embeddedIdentifiers ≠ [] ∧
    contentIdentifiers scan.isbns ≠ [] ∧ isbnLocator scan.isbns scan.snippets = a.opfPath

theorem isAbsent_strDict_iff {ids : Identifiers} : isAbsent (.strDict ids) = true ↔ ids = [] := by
  rw [Json.strDict, isAbsent, List.isEmpty_iff, List.map_eq_nil_iff]

theorem EpubArchive.keys_parsedMetadata_nodup (a : EpubArchive) :
    (Assoc.keys (a.parsedMetadata py)).Nodup := by
  show ["title", "authors", "identifiers", "languages", "publisher", "pubdate"].Nodup
  decide

theorem EpubArchive.keys_parsedMetadata_allowed (a : EpubArchive) :
    ∀ p ∈ a.parsedMetadata py, p.1 ∈ allowedPatchFields := by
  intro p hp
  have hkey : p.1 ∈ ["title", "authors", "identifiers", "languages", "publisher", "pubdate"] :=
    List.mem_map_of_mem hp
  revert hkey
  generalize p.1 = field
  revert field
  decide

theorem inspectEpub_keys_nodup_iff {a : EpubArchive}
    (h : inspectEpub py path sha256 a = .ok inspection) :
    (∀ item ∈ inspection.evidence, item.FromFile py sha256) ∧
      (inspection.keys.Nodup ↔ ¬ a.StatesIsbnTwice py) := by
  rw [inspectEpub] at h
  cases hscan : scanSpine py 0 a.spine {} with
  | error error =>
    rw [hscan] at h
    cases h
  | ok scan =>
    rw [hscan] at h
    have hstated : ∀ item ∈ statedEvidence py sha256 a.embeddedIdentifiers a.opfPath
        (a.parsedMetadata py), item.FromFile py sha256 :=
      statedEvidence_fromFile a.keys_parsedMetadata_allowed
    have hfields : ((statedEvidence py sha256 a.embeddedIdentifiers a.opfPath
        (a.parsedMetadata py)).map (·.field)).Nodup :=
      statedEvidence_fields _ _ a.keys_parsedMetadata_nodup
    by_cases hcontent : contentIdentifiers scan.isbns = []
    · have hevidence : inspection.evidence = statedEvidence py sha256 a.embeddedIdentifiers a.opfPath
          (a.parsedMetadata py) := by
        rw [← Except.ok.inj h]
        dsimp only
        rw [if_pos hcontent, List.append_nil]
      rw [FormatInspection.keys, hevidence]
      refine ⟨hstated, iff_of_true (nodup_keys_of_fields hstated hfields) ?_⟩
      rintro ⟨scan', hscan', -, hne, -⟩
      rw [hscan] at hscan'
      cases hscan'
      exact hne hcontent
    · have hevidence : inspection.evidence = statedEvidence py sha256 a.embeddedIdentifiers a.opfPath
          (a.parsedMetadata py) ++ [contentEvidence py sha256 "identifiers"
            (.strDict (contentIdentifiers scan.isbns)) (contentIdentifiers scan.isbns)
            (isbnLocator scan.isbns scan.snippets) .contentNative] := by
        rw [← Except.ok.inj h]
        dsimp only
        rw [if_neg hcontent]
      have hfound : (contentEvidence py sha256 "identifiers" (.strDict (contentIdentifiers scan.isbns))
          (contentIdentifiers scan.isbns) (isbnLocator scan.isbns scan.snippets)
          .contentNative).FromFile py sha256 := contentEvidence_fromFile (by decide) _ _ _ _
      have hstates : (∃ item ∈ statedEvidence py sha256 a.embeddedIdentifiers a.opfPath
          (a.parsedMetadata py), item.field = "identifiers") ↔ a.embeddedIdentifiers ≠ [] := by
        rw [exists_statedEvidence_iff a.keys_parsedMetadata_nodup rfl, ne_eq, ← isAbsent_strDict_iff,
          Bool.not_eq_true]
      rw [FormatInspection.keys, hevidence, nodup_keys_append_singleton hstated hfields hfound]
      constructor
      · intro item hitem
        rcases List.mem_append.mp hitem with hitem | hitem
        · exact hstated item hitem
        · rw [List.mem_singleton.mp hitem]
          exact hfound
      · constructor
        · rintro hnew ⟨scan', hscan', hembedded, -, hlocator⟩
          rw [hscan] at hscan'
          cases hscan'
          obtain ⟨item, hitem, hfield⟩ := hstates.mpr hembedded
          refine hnew item hitem ⟨hfield, ?_⟩
          rw [(mem_statedEvidence_field hitem).2]
          exact hlocator.symm
        · rintro hnot item hitem ⟨hfield, hlocator⟩
          rw [(mem_statedEvidence_field hitem).2] at hlocator
          exact hnot ⟨scan, hscan, hstates.mp ⟨item, hitem, hfield⟩, hcontent, hlocator.symm⟩

/-- What the information dictionary of a PDF states. -/
def PdfDocument.info (d : PdfDocument) : Dict :=
  [("title", .optStr (nonempty d.title)), ("authors", .strs (splitAuthors (nonempty d.author)))]

theorem inspectPdf_evidence {d : PdfDocument} (hpass : ¬ d.needsPass = true) :
    (inspectPdf py path sha256 d).evidence
      = statedEvidence py sha256 (isbnMap ((scanPages py 0 d.pages {}).found.map (·.1)))
          "pdf:document-info" d.info
        ++ match (scanPages py 0 d.pages {}).found with
          | some (_, locator) => [contentEvidence py sha256 "identifiers"
              (.strDict (isbnMap ((scanPages py 0 d.pages {}).found.map (·.1))))
              (isbnMap ((scanPages py 0 d.pages {}).found.map (·.1))) locator .contentNative]
          | none => [] := by
  rw [inspectPdf, if_neg hpass]
  rfl

/-- The items of a PDF state different fields. -/
theorem inspectPdf_keys_nodup (d : PdfDocument) :
    (∀ item ∈ (inspectPdf py path sha256 d).evidence, item.FromFile py sha256) ∧
      (inspectPdf py path sha256 d).keys.Nodup := by
  rw [FormatInspection.keys]
  by_cases hpass : d.needsPass = true
  · rw [inspectPdf, if_pos hpass]
    exact ⟨fun item hitem => absurd hitem List.not_mem_nil, List.nodup_nil⟩
  · rw [inspectPdf_evidence hpass]
    generalize isbnMap ((scanPages py 0 d.pages {}).found.map (·.1)) = identifiers
    have hkeys : ∀ p ∈ d.info, p.1 ∈ ["title", "authors"] := fun p hp => List.mem_map_of_mem hp
    have hinfo : ∀ item ∈ statedEvidence py sha256 identifiers "pdf:document-info" d.info,
        item.FromFile py sha256 := by
      refine statedEvidence_fromFile fun p hp => ?_
      have hall : ∀ field ∈ ["title", "authors"], field ∈ allowedPatchFields := by decide
      exact hall _ (hkeys p hp)
    have hfields : ((statedEvidence py sha256 identifiers "pdf:document-info" d.info).map
        (·.field)).Nodup :=
      statedEvidence_fields _ _ (show ["title", "authors"].Nodup by decide)
    cases (scanPages py 0 d.pages {}).found with
    | none =>
      dsimp only
      rw [List.append_nil]
      exact ⟨hinfo, nodup_keys_of_fields hinfo hfields⟩
    | some found =>
      dsimp only
      have hfound : (contentEvidence py sha256 "identifiers" (.strDict identifiers) identifiers
          found.2 .contentNative).FromFile py sha256 := contentEvidence_fromFile (by decide) _ _ _ _
      rw [nodup_keys_append_singleton hinfo hfields hfound]
      constructor
      · intro item hitem
        rcases List.mem_append.mp hitem with hitem | hitem
        · exact hinfo item hitem
        · rw [List.mem_singleton.mp hitem]
          exact hfound
      · rintro item hitem ⟨hfield, -⟩
        have hmem : item.field ∈ ["title", "authors"] := (mem_statedEvidence_field hitem).1
        rw [hfield] at hmem
        exact absurd (show "identifiers" ∈ ["title", "authors"] from hmem) (by decide)

theorem inspectCbz_keys_nodup (a : CbzArchive) :
    (∀ item ∈ (inspectCbz py path sha256 a).evidence, item.FromFile py sha256) ∧
      (inspectCbz py path sha256 a).keys.Nodup := by
  rw [FormatInspection.keys, inspectCbz]
  cases a.comicInfo with
  | none => exact ⟨fun item hitem => absurd hitem List.not_mem_nil, List.nodup_nil⟩
  | some info =>
    dsimp only
    have hstated : ∀ item ∈ statedEvidence py sha256 (isbnMap ((info.gtin.or info.isbn).bind
        validateIsbn)) info.member [("title", .optStr info.title),
          ("authors", .strs (splitAuthors info.writer)),
          ("languages", .strs (info.languageIso.map py.lower).toList),
          ("identifiers", .strDict (isbnMap ((info.gtin.or info.isbn).bind validateIsbn)))],
        item.FromFile py sha256 := by
      refine statedEvidence_fromFile fun p hp => ?_
      have hkey : p.1 ∈ ["title", "authors", "languages", "identifiers"] := List.mem_map_of_mem hp
      have hall : ∀ field ∈ ["title", "authors", "languages", "identifiers"],
          field ∈ allowedPatchFields := by decide
      exact hall _ hkey
    refine ⟨hstated, nodup_keys_of_fields hstated (statedEvidence_fields _ _ ?_)⟩
    show ["title", "authors", "languages", "identifiers"].Nodup
    decide

/-- The package that a file is opened as, by its suffix. -/
def EbookFile.openedEpub (py : Runtime) (path : String) (file : EbookFile) : Option EpubArchive :=
  let suffix := py.lower (pathSuffix path)
  if suffix = "epub" ∨ (suffix ∈ ["mobi", "azw3"] ∧ file.converter = true) then file.epub.toOption
  else none

/-- A file that did not change under the inspection, opened as an EPUB that states its ISBN twice at
one place. -/
def EbookFile.StatesIsbnTwice (py : Runtime) (path : String) (file : EbookFile) : Prop :=
  (∃ sha256, file.before = .ok sha256 ∧ file.after = .ok sha256) ∧
    ∃ a, file.openedEpub py path = some a ∧ a.StatesIsbnTwice py

theorem inspectBySuffix_of_opened {file : EbookFile} {a : EpubArchive}
    (h : file.openedEpub py path = some a) :
    inspectBySuffix py path (py.lower (pathSuffix path)) sha256 file = inspectEpub py path sha256 a := by
  rw [EbookFile.openedEpub] at h
  rw [inspectBySuffix]
  generalize py.lower (pathSuffix path) = suffix at h ⊢
  by_cases hopen : suffix = "epub" ∨ (suffix ∈ ["mobi", "azw3"] ∧ file.converter = true)
  · rw [if_pos hopen] at h
    have hepub : file.epub.bind (inspectEpub py path sha256) = inspectEpub py path sha256 a := by
      cases hfile : file.epub with
      | error error =>
        rw [hfile] at h
        cases h
      | ok b =>
        rw [hfile] at h
        cases h
        rfl
    rcases hopen with rfl | ⟨hsuffix, hconverter⟩
    · exact hepub
    · rw [hconverter, hepub]
      rcases List.mem_cons.mp hsuffix with rfl | hsuffix
      · rfl
      · rw [List.mem_singleton.mp hsuffix]
        rfl
  · rw [if_neg hopen] at h
    cases h

/-- The document that a file is opened as, by its suffix. -/
def EbookFile.openedPdf (py : Runtime) (path : String) (file : EbookFile) : Option PdfDocument :=
  if py.lower (pathSuffix path) = "pdf" then file.pdf.toOption else none

/-- A file is inspected as a package, as a document, or as neither. -/
theorem inspectBySuffix_cases (py : Runtime) (path sha256 : String) (file : EbookFile) :
    (∃ a, file.openedEpub py path = some a ∧
      inspectBySuffix py path (py.lower (pathSuffix path)) sha256 file = inspectEpub py path sha256 a) ∨
    file.openedEpub py path = none ∧
      ((∃ d, file.openedPdf py path = some d ∧
        inspectBySuffix py path (py.lower (pathSuffix path)) sha256 file
          = .ok (inspectPdf py path sha256 d)) ∨
      file.openedPdf py path = none ∧
        ((∃ error, inspectBySuffix py path (py.lower (pathSuffix path)) sha256 file = .error error) ∨
        (∃ a, inspectBySuffix py path (py.lower (pathSuffix path)) sha256 file
          = .ok (inspectCbz py path sha256 a)) ∨
        ∃ status message, inspectBySuffix py path (py.lower (pathSuffix path)) sha256 file
          = .ok (failedInspection py path sha256 status message))) := by
  cases hopened : file.openedEpub py path with
  | some a => exact .inl ⟨a, rfl, inspectBySuffix_of_opened hopened⟩
  | none =>
    refine .inr ⟨rfl, ?_⟩
    rw [EbookFile.openedEpub] at hopened
    rw [EbookFile.openedPdf, inspectBySuffix]
    generalize py.lower (pathSuffix path) = suffix at hopened ⊢
    have hcbz : (∃ error, file.cbz.map (inspectCbz py path sha256) = .error error) ∨
        (∃ a, file.cbz.map (inspectCbz py path sha256) = .ok (inspectCbz py path sha256 a)) ∨
        ∃ status message, file.cbz.map (inspectCbz py path sha256)
          = .ok (failedInspection py path sha256 status message) := by
      cases file.cbz with
      | error error => exact .inl ⟨error, rfl⟩
      | ok a => exact .inr (.inl ⟨a, rfl⟩)
    -- a package that does not open raises
    have hepub : suffix = "epub" ∨ (suffix ∈ ["mobi", "azw3"] ∧ file.converter = true) →
        ∃ error, file.epub.bind (inspectEpub py path sha256) = .error error := by
      intro hopen
      rw [if_pos hopen] at hopened
      cases hfile : file.epub with
      | error error => exact ⟨error, rfl⟩
      | ok a =>
        rw [hfile] at hopened
        cases hopened
    by_cases h1 : suffix = "epub"
    · rw [if_pos h1, if_neg (by simp [h1])]
      exact .inr ⟨rfl, .inl (hepub (.inl h1))⟩
    rw [if_neg h1]
    by_cases h2 : suffix = "pdf"
    · rw [if_pos h2, if_pos h2]
      cases file.pdf with
      | error error => exact .inr ⟨rfl, .inl ⟨error, rfl⟩⟩
      | ok d => exact .inl ⟨d, rfl, rfl⟩
    rw [if_neg h2, if_neg h2]
    refine .inr ⟨rfl, ?_⟩
    by_cases h3 : suffix = "cbz"
    · rw [if_pos h3]
      exact hcbz
    rw [if_neg h3]
    by_cases h4 : suffix ∈ ["mobi", "azw3", "cbr"]
    · rw [if_pos h4]
      cases hconverter : file.converter with
      | false => exact .inr (.inr ⟨_, _, rfl⟩)
      | true =>
        rw [if_neg (by decide)]
        by_cases h5 : suffix = "cbr"
        · rw [if_pos h5]
          exact hcbz
        · rw [if_neg h5]
          have hconverted : suffix ∈ ["mobi", "azw3"] := by
            simp only [List.mem_cons, List.not_mem_nil, or_false] at h4 ⊢
            tauto
          exact .inl (hepub (.inr ⟨hconverted, hconverter⟩))
    · rw [if_neg h4]
      exact .inr (.inr ⟨_, _, rfl⟩)

theorem inspectBySuffix_keys_nodup_iff {file : EbookFile}
    (h : inspectBySuffix py path (py.lower (pathSuffix path)) sha256 file = .ok inspection) :
    (∀ item ∈ inspection.evidence, item.FromFile py sha256) ∧
      (inspection.keys.Nodup ↔ ¬ ∃ a, file.openedEpub py path = some a ∧ a.StatesIsbnTwice py) := by
  have hother : file.openedEpub py path = none →
      (∀ item ∈ inspection.evidence, item.FromFile py sha256) ∧ inspection.keys.Nodup →
      (∀ item ∈ inspection.evidence, item.FromFile py sha256) ∧
        (inspection.keys.Nodup ↔ ¬ ∃ a, file.openedEpub py path = some a ∧
          a.StatesIsbnTwice py) := by
    rintro hopened ⟨hitems, hnodup⟩
    refine ⟨hitems, iff_of_true hnodup ?_⟩
    rintro ⟨a, hsome, -⟩
    rw [hopened] at hsome
    cases hsome
  rcases inspectBySuffix_cases py path sha256 file with ⟨a, hopened, heq⟩ | ⟨hopened, hrest⟩
  · rw [heq] at h
    obtain ⟨hitems, hnodup⟩ := inspectEpub_keys_nodup_iff h
    refine ⟨hitems, hnodup.trans (not_congr ?_)⟩
    rw [hopened]
    simp
  · refine hother hopened ?_
    rcases hrest with ⟨d, -, heq⟩ | ⟨-, ⟨error, heq⟩ | ⟨a, heq⟩ | ⟨status, message, heq⟩⟩
    · rw [heq] at h
      cases h
      exact inspectPdf_keys_nodup d
    · rw [heq] at h
      cases h
    · rw [heq] at h
      cases h
      exact inspectCbz_keys_nodup a
    · rw [heq] at h
      cases h
      exact ⟨fun item hitem => absurd hitem List.not_mem_nil, List.nodup_nil⟩

theorem EpubArchive.StatesIsbnTwice.inspects {a : EpubArchive} (h : a.StatesIsbnTwice py) :
    ∃ inspection, inspectEpub py path sha256 a = .ok inspection := by
  obtain ⟨scan, hscan, -⟩ := h
  rw [inspectEpub, hscan]
  exact ⟨_, rfl⟩

/-- An inspection that failed: no evidence, and no identifiers. -/
def FormatInspection.Failed (inspection : FormatInspection) : Prop :=
  inspection.evidence = [] ∧ inspection.formatEvidence.identifiers = []

theorem failedCopy_failed {error : ExtractError} (h : failedCopy py path error = .ok inspection) :
    inspection.Failed := by
  cases error with
  | malformed text name =>
    cases h
    exact ⟨rfl, rfl⟩
  | timeout text => cases h
  | exitCode code => cases h
  | escapes text name => cases h

/-- The file did not change under the inspection. -/
def EbookFile.Stable (file : EbookFile) (sha256 : String) : Prop :=
  file.before = .ok sha256 ∧ file.after = .ok sha256

/-- An inspection has failed, or it shows what was found in a file that did not change. -/
theorem inspectFormat_cases {file : EbookFile} (h : inspectFormat py path file = .ok inspection) :
    (inspection.Failed ∧ ((¬ ∃ sha256, file.Stable sha256) ∨ ∃ sha256 error,
      inspectBySuffix py path (py.lower (pathSuffix path)) sha256 file = .error error)) ∨
    ∃ sha256 found, file.Stable sha256 ∧
      inspectBySuffix py path (py.lower (pathSuffix path)) sha256 file = .ok found ∧
      inspection.evidence = found.evidence ∧
      inspection.formatEvidence.identifiers = found.formatEvidence.identifiers := by
  rw [inspectFormat] at h
  cases hbefore : file.before with
  | error error =>
    rw [hbefore] at h
    refine .inl ⟨failedCopy_failed h, .inl ?_⟩
    rintro ⟨sha256, hsha, -⟩
    rw [hbefore] at hsha
    cases hsha
  | ok before =>
    rw [hbefore] at h
    dsimp only at h
    cases hafter : file.after with
    | error error =>
      rw [hafter] at h
      split at h
      · cases h
      · refine .inl ⟨failedCopy_failed h, .inl ?_⟩
        rintro ⟨sha256, -, hsha⟩
        rw [hafter] at hsha
        cases hsha
    | ok after =>
      rw [hafter] at h
      dsimp only at h
      split at h
      · cases h
      next result hresult =>
      by_cases hchanged : after ≠ before
      · rw [if_pos hchanged] at h
        cases h
        refine .inl ⟨⟨rfl, rfl⟩, .inl ?_⟩
        rintro ⟨sha256, hsha, hsha'⟩
        rw [hbefore] at hsha
        rw [hafter] at hsha'
        cases hsha
        cases hsha'
        exact hchanged rfl
      · rw [if_neg hchanged] at h
        have hshown : inspection.evidence = result.evidence ∧
            inspection.formatEvidence.identifiers = result.formatEvidence.identifiers := by
          cases h
          exact ⟨rfl, rfl⟩
        rw [caughtInspection] at hresult
        cases hsuffix : inspectBySuffix py path (py.lower (pathSuffix path)) before file with
        | ok found =>
          rw [hsuffix] at hresult
          cases hresult
          have hstable : file.Stable before := ⟨hbefore, by rw [hafter, not_ne_iff.mp hchanged]⟩
          exact .inr ⟨before, _, hstable, hsuffix, hshown⟩
        | error error =>
          refine .inl ⟨?_, .inr ⟨before, error, hsuffix⟩⟩
          rw [FormatInspection.Failed, hshown.1, hshown.2]
          rw [hsuffix] at hresult
          cases error with
          | escapes text name => cases hresult
          | _ =>
            cases hresult
            exact ⟨rfl, rfl⟩

/-- **The keys of one file.** They are distinct unless the file is an EPUB that states its ISBN twice
at one place. -/
theorem inspectFormat_keys_nodup_iff {file : EbookFile}
    (h : inspectFormat py path file = .ok inspection) :
    (∃ sha256, ∀ item ∈ inspection.evidence, item.FromFile py sha256) ∧
      (inspection.keys.Nodup ↔ ¬ file.StatesIsbnTwice py path) := by
  rcases inspectFormat_cases h with ⟨⟨hevidence, -⟩, hwhy⟩ | ⟨sha256, found, hstable, hsuffix, hevidence, -⟩
  · rw [FormatInspection.keys, hevidence]
    refine ⟨⟨"", fun item hitem => absurd hitem List.not_mem_nil⟩, iff_of_true List.nodup_nil ?_⟩
    rintro ⟨hstable, a, hopened, htwice⟩
    rcases hwhy with hchanged | ⟨sha256, error, hsuffix⟩
    · exact hchanged hstable
    · obtain ⟨found, hfound⟩ : ∃ found, inspectEpub py path sha256 a = .ok found := htwice.inspects
      rw [← inspectBySuffix_of_opened hopened, hsuffix] at hfound
      cases hfound
  · obtain ⟨hitems, hnodup⟩ := inspectBySuffix_keys_nodup_iff hsuffix
    rw [FormatInspection.keys, hevidence]
    refine ⟨⟨sha256, hitems⟩, hnodup.trans (not_congr ?_)⟩
    rw [EbookFile.StatesIsbnTwice, and_iff_right ⟨sha256, hstable⟩]

end Bookwarden
