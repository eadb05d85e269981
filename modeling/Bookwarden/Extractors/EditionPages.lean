import Bookwarden.Extractors.FileKeys
import Bookwarden.Extractors.LabelledIsbn

/-!
# The ISBN of the edition pages

A book carries its ISBN on the pages about its edition. The pages are read in order, up to a number of
bytes, and the markers of an edition page count on the first pages only. An EPUB is anchored to the
ISBN of its edition pages when there is exactly one; a PDF to the first one found, which is the same
when there are no two. The order of the pages plays no part as long as the same edition pages are
read.

## Main definitions

* `spineEditions`, `pageEditions` — the edition pages that are read
* `Sole` — exactly one ISBN
* `EbookFile.Reordered`, `EbookFile.WithinWindow` — the same pages in another order; pages that are
  read in every order

## Main results

* `inspectEpub_anchored`, `inspectPdf_anchored`
* `content_isbn_of_editions` — when content anchors an ISBN, in any order of the pages
-/

namespace Bookwarden

/-! ### Edition pages -/

section

variable (py : Runtime)

/-- `edition_context` of a member of the spine. -/
def editionMember (path : String) (index : ℕ) (text : String) : Prop :=
  sourceForPath py path index = "copyright_page"
    ∨ (index < 6 ∧ hasEditionMarker (py.casefold text) = true)

instance (path : String) (index : ℕ) (text : String) :
    Decidable (editionMember py path index text) :=
  inferInstanceAs (Decidable (_ ∨ _))

/-- The texts of the edition pages among the members of the spine that are read. -/
def spineEditions : ℕ → ℕ → List (String × MemberRead) → Except ExtractError (List String)
  | _, _, [] => .ok []
  | index, consumed, (path, read) :: spine =>
    if maxTextBytes ≤ consumed then .ok [] else
    match read with
    | .missing => spineEditions (index + 1) consumed spine
    | .raises error => .error error
    | .text size text =>
      let rest := spineEditions (index + 1) (consumed + size) spine
      if text ≠ "" ∧ editionMember py path index text then rest.map (text :: ·) else rest

/-- `is_edition_page`. -/
def editionPage (index : ℕ) (text : String) : Prop :=
  index < 12 ∧ (hasEditionMarker (py.casefold text) = true
    ∨ (index < 6 ∧ containsText (py.casefold text) "edition" = true))

instance (index : ℕ) (text : String) : Decidable (editionPage py index text) :=
  inferInstanceAs (Decidable (_ ∧ _))

/-- The texts of the edition pages among the pages that are read. -/
def pageEditions : ℕ → ℕ → List String → List String
  | _, _, [] => []
  | index, consumed, raw :: pages =>
    if maxTextBytes ≤ consumed then [] else
    let text := takeChars 100000 raw
    let rest := pageEditions (index + 1) (consumed + text.utf8ByteSize) pages
    if editionPage py index text then text :: rest else rest

end

/-- The valid labelled ISBNs on the pages. -/
def isbnsOn (texts : List String) : List String := texts.flatMap isbnCandidates

variable {py : Runtime}

theorem isbnsOn_cons (text : String) (texts : List String) :
    isbnsOn (text :: texts) = isbnCandidates text ++ isbnsOn texts := List.flatMap_cons

/-! ### The scans -/

/-- The loop over the spine collects the ISBNs of the edition pages. -/
theorem scanSpine_spec {index : ℕ} {spine : List (String × MemberRead)} {scan scan' : SpineScan}
    (h : scanSpine py index spine scan = .ok scan') :
    ∃ texts, spineEditions py index scan.consumed spine = .ok texts ∧
      (∀ isbn, isbn ∈ scan'.isbns ↔ isbn ∈ scan.isbns ∨ isbn ∈ isbnsOn texts) ∧
      (scan.isbns.Nodup → scan'.isbns.Nodup) := by
  have hstop : ∀ scan : SpineScan, (∀ isbn, isbn ∈ scan.isbns ↔ isbn ∈ scan.isbns ∨ isbn ∈ isbnsOn []) ∧
      (scan.isbns.Nodup → scan.isbns.Nodup) :=
    fun scan => ⟨fun isbn => (or_iff_left List.not_mem_nil).symm, id⟩
  induction spine generalizing index scan with
  | nil =>
    cases h
    exact ⟨[], rfl, hstop _⟩
  | cons member spine ih =>
    obtain ⟨path, read⟩ := member
    rw [scanSpine.eq_def] at h
    rw [spineEditions.eq_def]
    dsimp only at h ⊢
    by_cases hfull : maxTextBytes ≤ scan.consumed
    · rw [if_pos hfull, Except.ok.injEq] at h
      rw [if_pos hfull, ← h]
      exact ⟨[], rfl, hstop scan⟩
    rw [if_neg hfull] at h
    rw [if_neg hfull]
    cases read with
    | missing => exact ih h
    | raises error => cases h
    | text size text =>
      dsimp only at h ⊢
      by_cases hempty : text = ""
      · rw [if_pos hempty] at h
        rw [if_neg (fun hand => hand.1 hempty)]
        exact ih h
      rw [if_neg hempty] at h
      obtain ⟨texts, htexts, hmem, hnodup⟩ := ih h
      dsimp only at htexts hmem hnodup
      by_cases hedition : editionMember py path index text
      · rw [if_pos (show _ ∨ _ from hedition)] at hmem hnodup
        rw [if_pos ⟨hempty, hedition⟩, htexts]
        refine ⟨text :: texts, rfl, fun isbn => ?_, fun _ => hnodup (List.nodup_dedup _)⟩
        rw [hmem, distinct, List.mem_dedup, List.mem_append, isbnsOn_cons, List.mem_append, or_assoc]
      · rw [if_neg (show ¬ (_ ∨ _) from hedition)] at hmem hnodup
        rw [if_neg (fun hand => hedition hand.2), htexts]
        exact ⟨texts, rfl, hmem, hnodup⟩

theorem spineEditions_of_error {index : ℕ} {spine : List (String × MemberRead)} {scan : SpineScan}
    {error : ExtractError} (h : scanSpine py index spine scan = .error error) :
    spineEditions py index scan.consumed spine = .error error := by
  induction spine generalizing index scan with
  | nil => cases h
  | cons member spine ih =>
    obtain ⟨path, read⟩ := member
    rw [scanSpine.eq_def] at h
    rw [spineEditions.eq_def]
    dsimp only at h ⊢
    by_cases hfull : maxTextBytes ≤ scan.consumed
    · rw [if_pos hfull] at h
      cases h
    rw [if_neg hfull] at h
    rw [if_neg hfull]
    cases read with
    | missing => exact ih h
    | raises error' =>
      cases h
      rfl
    | text size text =>
      dsimp only at h ⊢
      have hrest : spineEditions py (index + 1) (scan.consumed + size) spine = .error error := by
        by_cases hempty : text = ""
        · rw [if_pos hempty] at h
          exact ih h
        · rw [if_neg hempty] at h
          exact ih h
      rw [hrest]
      split <;> rfl

/-- The loop over the pages finds the first ISBN of the edition pages. -/
theorem scanPages_spec (py : Runtime) (index : ℕ) (pages : List String) (scan : PageScan) :
    (scanPages py index pages scan).found.map Prod.fst
      = (scan.found.map Prod.fst).or ((pageEditions py index scan.consumed pages).findSome? fun text =>
        (isbnContexts text).findSome? validateIsbn) := by
  induction pages generalizing index scan with
  | nil =>
    rw [scanPages, pageEditions, List.findSome?_nil, Option.or_none]
  | cons raw pages ih =>
    rw [scanPages, pageEditions]
    by_cases hfull : maxTextBytes ≤ scan.consumed
    · rw [if_pos hfull, if_pos hfull, List.findSome?_nil, Option.or_none]
    rw [if_neg hfull, if_neg hfull]
    dsimp only
    rw [ih]
    dsimp only
    generalize htext : takeChars 100000 raw = text
    by_cases hedition : editionPage py index text
    · rw [if_pos hedition, List.findSome?_cons]
      cases hfound : scan.found with
      | none =>
        rw [if_pos ⟨rfl, hedition⟩]
        cases (isbnContexts text).findSome? validateIsbn <;> rfl
      | some found =>
        rw [if_neg (fun hand => by cases hand.1)]
        rfl
    · rw [if_neg hedition, if_neg (fun hand => hedition hand.2)]

/-! ### Exactly one ISBN -/

/-- The ISBN is the only one there is. -/
def Sole (isbns : List String) (isbn : String) : Prop := ∀ i, i ∈ isbns ↔ i = isbn

theorem contentIdentifiers_of_sole {isbns : List String} (hnodup : isbns.Nodup) {isbn : String}
    (h : Sole isbns isbn) : contentIdentifiers isbns = [("isbn", isbn)] := by
  have hone : isbns = [isbn] := by
    have hperm : isbns.Perm [isbn] := (List.perm_ext_iff_of_nodup hnodup (List.nodup_singleton _)).mpr
      fun i => (h i).trans List.mem_singleton.symm
    exact List.perm_singleton.mp hperm
  rw [hone]
  rfl

theorem contentIdentifiers_of_not_sole {isbns : List String} (h : ¬ ∃ isbn, Sole isbns isbn) :
    contentIdentifiers isbns = [] := by
  match isbns, h with
  | [], _ => rfl
  | [isbn], h => exact absurd ⟨isbn, fun i => List.mem_singleton⟩ h
  | _ :: _ :: _, _ => rfl

/-- The first of the ISBNs is the only one, if there are no two. -/
theorem findSome?_sole {texts : List String}
    (hone : ∀ a ∈ isbnsOn texts, ∀ b ∈ isbnsOn texts, a = b) :
    (∀ isbn, (texts.findSome? fun text => (isbnContexts text).findSome? validateIsbn) = some isbn →
      Sole (isbnsOn texts) isbn) ∧
    ((texts.findSome? fun text => (isbnContexts text).findSome? validateIsbn) = none →
      isbnsOn texts = []) := by
  constructor
  · intro isbn h
    have hmem : isbn ∈ isbnsOn texts := by
      obtain ⟨text, htext, h⟩ := List.exists_of_findSome?_eq_some h
      obtain ⟨group, hgroup, hvalid⟩ := List.exists_of_findSome?_eq_some h
      exact List.mem_flatMap.mpr ⟨text, htext, mem_isbnCandidates.mpr ⟨group, hgroup, hvalid⟩⟩
    exact fun i => ⟨fun hi => hone i hi isbn hmem, fun hi => hi ▸ hmem⟩
  · intro h
    rw [List.eq_nil_iff_forall_not_mem]
    intro isbn hisbn
    obtain ⟨text, htext, hcandidate⟩ := List.mem_flatMap.mp hisbn
    obtain ⟨group, hgroup, hvalid⟩ := mem_isbnCandidates.mp hcandidate
    have hnone := List.findSome?_eq_none_iff.mp (List.findSome?_eq_none_iff.mp h text htext) group hgroup
    rw [hvalid] at hnone
    cases hnone

/-! ### The formats -/

/-- The evidence that the content gives. -/
def contentItems (inspection : FormatInspection) : List SourceEvidence :=
  inspection.evidence.filter fun item => decide (item.sourceKind = .contentNative)

/-- The content anchors the one ISBN; where there is not exactly one, it anchors none, and the
identifiers are those that the file states otherwise. -/
def Anchored (isbns : List String) (stated : Identifiers) (inspection : FormatInspection) : Prop :=
  (∃ isbn item, Sole isbns isbn ∧ contentItems inspection = [item] ∧ item.field = "identifiers" ∧
    item.value = .strDict [("isbn", isbn)] ∧
    inspection.formatEvidence.identifiers = [("isbn", isbn)]) ∨
  ((¬ ∃ isbn, Sole isbns isbn) ∧ contentItems inspection = [] ∧
    inspection.formatEvidence.identifiers = stated)

theorem not_sole_nil : ¬ ∃ isbn, Sole [] isbn := by
  rintro ⟨isbn, h⟩
  exact absurd ((h isbn).mpr rfl) List.not_mem_nil

theorem filter_statedEvidence (sha256 : String) (identifiers : Identifiers) (locator : String)
    (values : Dict) : ((statedEvidence py sha256 identifiers locator values).filter fun item =>
      decide (item.sourceKind = .contentNative)) = [] := by
  refine List.filter_eq_nil_iff.mpr fun item hitem => ?_
  obtain ⟨p, -, rfl⟩ := List.mem_map.mp hitem
  exact fun h => by cases of_decide_eq_true h

theorem inspectEpub_anchored {path sha256 : String} {a : EpubArchive} {inspection : FormatInspection}
    (h : inspectEpub py path sha256 a = .ok inspection) :
    ∃ texts, spineEditions py 0 0 a.spine = .ok texts ∧
      Anchored (isbnsOn texts) a.embeddedIdentifiers inspection := by
  rw [inspectEpub] at h
  obtain ⟨scan, hscan⟩ : ∃ scan, scanSpine py 0 a.spine {} = .ok scan := by
    cases hscan : scanSpine py 0 a.spine {} with
    | error error =>
      rw [hscan] at h
      cases h
    | ok scan => exact ⟨scan, rfl⟩
  rw [hscan] at h
  obtain ⟨texts, htexts, hmem, hnodup⟩ := scanSpine_spec hscan
  have hisbns : ∀ isbn, isbn ∈ scan.isbns ↔ isbn ∈ isbnsOn texts :=
    fun isbn => (hmem isbn).trans (or_iff_right List.not_mem_nil)
  have hsole : ∀ isbn, Sole scan.isbns isbn ↔ Sole (isbnsOn texts) isbn :=
    fun isbn => forall_congr' fun i => by rw [hisbns]
  refine ⟨texts, htexts, ?_⟩
  cases h
  by_cases hexists : ∃ isbn, Sole (isbnsOn texts) isbn
  · obtain ⟨isbn, hone⟩ := hexists
    have hcontent := contentIdentifiers_of_sole (hnodup List.nodup_nil) ((hsole isbn).mpr hone)
    refine .inl ⟨isbn, contentEvidence py sha256 "identifiers" (.strDict [("isbn", isbn)])
      [("isbn", isbn)] (isbnLocator scan.isbns scan.snippets) .contentNative, hone, ?_, rfl, rfl, ?_⟩
    · rw [contentItems]
      dsimp only
      rw [hcontent, List.filter_append, filter_statedEvidence]
      rfl
    · dsimp only
      rw [hcontent]
      rfl
  · have hcontent := contentIdentifiers_of_not_sole fun h =>
      hexists (h.imp fun isbn hone => (hsole isbn).mp hone)
    refine .inr ⟨hexists, ?_, ?_⟩
    · rw [contentItems]
      dsimp only
      rw [hcontent, List.filter_append, filter_statedEvidence]
      rfl
    · dsimp only
      rw [hcontent]
      rfl

theorem inspectPdf_anchored {path sha256 : String} {d : PdfDocument} (hpass : d.needsPass = false)
    (hone : ∀ a ∈ isbnsOn (pageEditions py 0 0 d.pages), ∀ b ∈ isbnsOn (pageEditions py 0 0 d.pages),
      a = b) :
    Anchored (isbnsOn (pageEditions py 0 0 d.pages)) [] (inspectPdf py path sha256 d) := by
  have hfound := scanPages_spec py 0 d.pages {}
  obtain ⟨hsome, hnone⟩ := findSome?_sole hone
  rw [inspectPdf, if_neg (by rw [hpass]; decide)]
  dsimp only
  generalize scanPages py 0 d.pages {} = scan at hfound ⊢
  cases hscan : scan.found with
  | none =>
    rw [hscan] at hfound
    refine .inr ⟨?_, ?_, rfl⟩
    · rw [hnone hfound.symm]
      exact not_sole_nil
    · rw [contentItems]
      dsimp only
      rw [List.filter_append, filter_statedEvidence]
      rfl
  | some found =>
    obtain ⟨isbn, locator⟩ := found
    rw [hscan] at hfound
    refine .inl ⟨isbn, contentEvidence py sha256 "identifiers" (.strDict [("isbn", isbn)])
      [("isbn", isbn)] locator .contentNative, hsome isbn hfound.symm, ?_, rfl, rfl, rfl⟩
    rw [contentItems]
    dsimp only
    rw [List.filter_append, filter_statedEvidence]
    rfl

/-! ### One file -/

/-- The texts of the edition pages that are read of a file. -/
def EbookFile.editionTexts (py : Runtime) (path : String) (file : EbookFile) : List String :=
  match file.openedEpub py path, file.openedPdf py path with
  | some a, _ =>
    match spineEditions py 0 0 a.spine with
    | .ok texts => texts
    | .error _ => []
  | none, some d => if d.needsPass then [] else pageEditions py 0 0 d.pages
  | none, none => []

/-- There are no two ISBNs. -/
def AtMostOne (isbns : List String) : Prop := ∀ a ∈ isbns, ∀ b ∈ isbns, a = b

theorem anchored_of_failed {inspection : FormatInspection} (h : inspection.Failed) :
    Anchored [] [] inspection := by
  refine .inr ⟨not_sole_nil, ?_, h.2⟩
  rw [contentItems, h.1]
  rfl

/-- **One file.** It anchors the one ISBN of its edition pages, or none; a document with two is left
out. -/
theorem inspectFormat_anchored {path : String} {file : EbookFile} {inspection : FormatInspection}
    (h : inspectFormat py path file = .ok inspection)
    (hpdf : (file.openedPdf py path).isSome = true → AtMostOne (isbnsOn (file.editionTexts py path))) :
    (contentItems inspection = [] ∧ inspection.formatEvidence.identifiers = [] ∧
      ¬ ∃ sha256, file.Stable sha256) ∨
    (∃ sha256, file.Stable sha256) ∧ ∃ stated, Anchored (isbnsOn (file.editionTexts py path)) stated
      inspection ∧ ∀ a, file.openedEpub py path = some a → stated = [] ∨ stated = a.embeddedIdentifiers := by
  rw [EbookFile.editionTexts] at hpdf ⊢
  rcases inspectFormat_cases h with ⟨hfailed, hwhy⟩ | ⟨sha256, found, hstable, hfound, hevidence, hids⟩
  · by_cases hstable : ∃ sha256, file.Stable sha256
    · -- what raised was read as far as the error, and its pages do not count
      refine .inr ⟨hstable, [], ?_, fun a _ => .inl rfl⟩
      obtain ⟨sha256, error, hraised⟩ := hwhy.resolve_left (not_not_intro hstable)
      rcases inspectBySuffix_cases py path sha256 file with ⟨a, hopened, heq⟩ | ⟨hclosed, hrest⟩
      · rw [heq, inspectEpub] at hraised
        have hscan : ∃ error, spineEditions py 0 0 a.spine = .error error := by
          cases hscan : scanSpine py 0 a.spine {} with
          | error error => exact ⟨error, spineEditions_of_error hscan⟩
          | ok scan =>
            rw [hscan] at hraised
            cases hraised
        obtain ⟨error, hscan⟩ := hscan
        rw [hopened]
        dsimp only
        rw [hscan]
        exact anchored_of_failed hfailed
      · rcases hrest with ⟨d, -, heq⟩ | ⟨hclosed', -⟩
        · rw [heq] at hraised
          cases hraised
        · rw [hclosed, hclosed']
          exact anchored_of_failed hfailed
    · refine .inl ⟨?_, hfailed.2, hstable⟩
      rw [contentItems, hfailed.1]
      rfl
  · refine .inr ⟨⟨sha256, hstable⟩, ?_⟩
    have hshown : ∀ {isbns stated}, Anchored isbns stated found → Anchored isbns stated inspection := by
      intro isbns stated hanchored
      rw [Anchored, contentItems] at hanchored ⊢
      rw [hevidence, hids]
      exact hanchored
    rcases inspectBySuffix_cases py path sha256 file with ⟨a, hopened, heq⟩ | ⟨hclosed, hrest⟩
    · rw [heq] at hfound
      obtain ⟨texts, htexts, hanchored⟩ := inspectEpub_anchored hfound
      rw [hopened]
      dsimp only
      rw [htexts]
      refine ⟨_, hshown hanchored, fun b hb => .inr ?_⟩
      rw [Option.some.inj hb]
    · have hnone : ∀ a, file.openedEpub py path = some a → False := by
        intro a ha
        rw [hclosed] at ha
        cases ha
      rcases hrest with ⟨d, hopened, heq⟩ | ⟨hclosed', hrest⟩
      · rw [hclosed, hopened] at hpdf ⊢
        rw [heq] at hfound
        dsimp only at hpdf ⊢
        cases hpass : d.needsPass with
        | true =>
          refine ⟨[], hshown (anchored_of_failed ?_), fun a ha => (hnone a (hclosed ▸ ha)).elim⟩
          rw [inspectPdf, if_pos hpass] at hfound
          cases hfound
          exact ⟨rfl, rfl⟩
        | false =>
          rw [hpass] at hpdf
          cases hfound
          exact ⟨[], hshown (inspectPdf_anchored hpass (hpdf rfl)), fun a ha => by cases ha⟩
      · rw [hclosed, hclosed']
        refine ⟨found.formatEvidence.identifiers, hshown (.inr ⟨not_sole_nil, ?_, rfl⟩),
          fun a ha => by cases ha⟩
        rcases hrest with ⟨error, heq⟩ | ⟨a, heq⟩ | ⟨status, message, heq⟩
        · rw [heq] at hfound
          cases hfound
        · rw [heq] at hfound
          cases hfound
          rw [contentItems, inspectCbz]
          split
          · rfl
          · exact filter_statedEvidence _ _ _ _
        · rw [heq] at hfound
          cases hfound
          rfl

/-! ### The order of the pages -/

/-- The bytes of a member. -/
def memberSize : String × MemberRead → ℕ
  | (_, .text size _) => size
  | _ => 0

/-- The error that reading a member raises. -/
def memberError : String × MemberRead → Option ExtractError
  | (_, .raises error) => some error
  | _ => none

/-- The text of an edition page among the first members. -/
def memberText (py : Runtime) : String × MemberRead → Option String
  | (path, .text _ text) => if text ≠ "" ∧ editionMember py path 0 text then some text else none
  | _ => none

/-- The text of an edition page among the first pages. -/
def pageText (py : Runtime) (raw : String) : Option String :=
  let text := takeChars 100000 raw
  if editionPage py 0 text then some text else none

/-- The bytes of a page. -/
def pageSize (raw : String) : ℕ := (takeChars 100000 raw).utf8ByteSize

theorem sourceForPath_copyright (path : String) (index : ℕ) :
    sourceForPath py path index = "copyright_page" ↔
      (containsText (py.casefold path) "copyright" || containsText (py.casefold path) "colophon") = true := by
  rw [sourceForPath]
  constructor
  · intro h
    by_contra hnot
    rw [if_neg hnot] at h
    split at h
    · exact absurd h (by decide)
    · exact absurd h (by decide)
  · intro h
    rw [if_pos h]

/-- On the first members, the place plays no part. -/
theorem editionMember_iff {path text : String} {index : ℕ} (h : index < 6) :
    editionMember py path index text ↔ editionMember py path 0 text := by
  rw [editionMember, editionMember, sourceForPath_copyright, sourceForPath_copyright]
  refine or_congr_right (and_congr_left' ?_)
  exact iff_of_true h (by decide)

theorem editionPage_iff {text : String} {index : ℕ} (h : index < 6) :
    editionPage py index text ↔ editionPage py 0 text := by
  rw [editionPage, editionPage]
  refine and_congr (iff_of_true (by omega) (by decide)) (or_congr_right (and_congr_left' ?_))
  exact iff_of_true h (by decide)

/-- A short spine is read to its end, whatever the order. -/
theorem spineEditions_short {index consumed : ℕ} {spine : List (String × MemberRead)}
    (hindex : index + spine.length ≤ 6) (hsize : consumed + (spine.map memberSize).sum < maxTextBytes) :
    spineEditions py index consumed spine = match spine.findSome? memberError with
      | some error => .error error
      | none => .ok (spine.filterMap (memberText py)) := by
  induction spine generalizing index consumed with
  | nil => rfl
  | cons member spine ih =>
    obtain ⟨path, read⟩ := member
    rw [List.length_cons] at hindex
    rw [List.map_cons, List.sum_cons] at hsize
    rw [spineEditions.eq_def]
    dsimp only
    rw [if_neg (by omega)]
    cases read with
    | missing =>
      have hzero : memberSize (path, .missing) = 0 := rfl
      rw [ih (by omega) (by omega)]
      rfl
    | raises error => rfl
    | text size text =>
      have hread : memberSize (path, .text size text) = size := rfl
      dsimp only
      rw [ih (by omega) (by omega), List.findSome?_cons, List.filterMap_cons]
      show _ = match spine.findSome? memberError with
        | some error => _
        | none => _
      cases spine.findSome? memberError with
      | some error => split <;> rfl
      | none =>
        have hplace : editionMember py path index text ↔ editionMember py path 0 text :=
          editionMember_iff (by omega)
        rw [memberText]
        by_cases hedition : text ≠ "" ∧ editionMember py path 0 text
        · rw [if_pos ⟨hedition.1, hplace.mpr hedition.2⟩, if_pos hedition]
          rfl
        · rw [if_neg (fun h => hedition ⟨h.1, hplace.mp h.2⟩), if_neg hedition]

theorem pageEditions_short {index consumed : ℕ} {pages : List String}
    (hindex : index + pages.length ≤ 6) (hsize : consumed + (pages.map pageSize).sum < maxTextBytes) :
    pageEditions py index consumed pages = pages.filterMap (pageText py) := by
  induction pages generalizing index consumed with
  | nil => rfl
  | cons raw pages ih =>
    rw [List.length_cons] at hindex
    rw [List.map_cons, List.sum_cons, pageSize] at hsize
    rw [pageEditions, if_neg (by omega), List.filterMap_cons, pageText]
    dsimp only
    rw [ih (by omega) (by omega)]
    by_cases hedition : editionPage py 0 (takeChars 100000 raw)
    · rw [if_pos ((editionPage_iff (by omega)).mpr hedition), if_pos hedition]
    · rw [if_neg (fun h => hedition ((editionPage_iff (by omega)).mp h)), if_neg hedition]

/-- The same file with its pages in another order. -/
def EbookFile.Reordered (file file' : EbookFile) : Prop :=
  ∃ (spine : EpubArchive → List (String × MemberRead)) (pages : PdfDocument → List String),
    (∀ a : EpubArchive, a.spine.Perm (spine a)) ∧ (∀ d : PdfDocument, d.pages.Perm (pages d)) ∧
    file' = { file with
      epub := file.epub.map fun a => { a with spine := spine a }
      pdf := file.pdf.map fun d => { d with pages := pages d } }

/-- At most six pages, of less than `MAX_TEXT_BYTES`. -/
structure EbookFile.WithinWindow (file : EbookFile) : Prop where
  spine : ∀ a, file.epub = .ok a →
    a.spine.length ≤ 6 ∧ (a.spine.map memberSize).sum < maxTextBytes
  pages : ∀ d, file.pdf = .ok d → d.pages.length ≤ 6 ∧ (d.pages.map pageSize).sum < maxTextBytes

/-- A short spine in another order has the same edition pages. -/
theorem spineEditions_perm {spine spine' : List (String × MemberRead)} (h : spine.Perm spine')
    (hlength : spine.length ≤ 6) (hsize : (spine.map memberSize).sum < maxTextBytes) :
    (match spineEditions py 0 0 spine with
      | .ok texts => texts
      | .error _ => []).Perm
      (match spineEditions py 0 0 spine' with
      | .ok texts => texts
      | .error _ => []) := by
  have hlength' : spine'.length ≤ 6 := h.length_eq ▸ hlength
  have hsize' : (spine'.map memberSize).sum < maxTextBytes := (h.map memberSize).sum_nat ▸ hsize
  rw [spineEditions_short (by omega) (by omega), spineEditions_short (by omega) (by omega)]
  cases herror : spine.findSome? memberError with
  | some error =>
    obtain ⟨m, hm, hraises⟩ := List.exists_of_findSome?_eq_some herror
    cases herror' : spine'.findSome? memberError with
    | some error' => exact List.Perm.refl []
    | none =>
      rw [List.findSome?_eq_none_iff.mp herror' m (h.mem_iff.mp hm)] at hraises
      cases hraises
  | none =>
    have herror' : spine'.findSome? memberError = none :=
      List.findSome?_eq_none_iff.mpr fun m hm =>
        List.findSome?_eq_none_iff.mp herror m (h.mem_iff.mpr hm)
    rw [herror']
    exact h.filterMap _

theorem pageEditions_perm {pages pages' : List String} (h : pages.Perm pages')
    (hlength : pages.length ≤ 6) (hsize : (pages.map pageSize).sum < maxTextBytes) :
    (pageEditions py 0 0 pages).Perm (pageEditions py 0 0 pages') := by
  have hlength' : pages'.length ≤ 6 := h.length_eq ▸ hlength
  have hsize' : (pages'.map pageSize).sum < maxTextBytes := (h.map pageSize).sum_nat ▸ hsize
  rw [pageEditions_short (by omega) (by omega), pageEditions_short (by omega) (by omega)]
  exact h.filterMap _

theorem epub_of_opened {path : String} {file : EbookFile} {a : EpubArchive}
    (h : file.openedEpub py path = some a) : file.epub = .ok a := by
  rw [EbookFile.openedEpub] at h
  split at h
  · cases hepub : file.epub with
    | error error =>
      rw [hepub] at h
      cases h
    | ok b =>
      rw [hepub] at h
      cases h
      rfl
  · cases h

theorem pdf_of_opened {path : String} {file : EbookFile} {d : PdfDocument}
    (h : file.openedPdf py path = some d) : file.pdf = .ok d := by
  rw [EbookFile.openedPdf] at h
  split at h
  · cases hpdf : file.pdf with
    | error error =>
      rw [hpdf] at h
      cases h
    | ok b =>
      rw [hpdf] at h
      cases h
      rfl
  · cases h

/-- Of a file within the window, the same edition pages are read in every order. -/
theorem editionTexts_perm {path : String} {file file' : EbookFile} (h : file.Reordered file')
    (hwindow : file.WithinWindow) :
    (file.editionTexts py path).Perm (file'.editionTexts py path) := by
  obtain ⟨spine, pages, hspine, hpages, rfl⟩ := h
  generalize hfile' : ({ file with
    epub := file.epub.map fun a => { a with spine := spine a }
    pdf := file.pdf.map fun d => { d with pages := pages d } } : EbookFile) = file'
  have hepub : file'.openedEpub py path
      = (file.openedEpub py path).map fun a => { a with spine := spine a } := by
    rw [← hfile', EbookFile.openedEpub, EbookFile.openedEpub]
    dsimp only
    split
    · cases file.epub <;> rfl
    · rfl
  have hpdf : file'.openedPdf py path
      = (file.openedPdf py path).map fun d => { d with pages := pages d } := by
    rw [← hfile', EbookFile.openedPdf, EbookFile.openedPdf]
    dsimp only
    split
    · cases file.pdf <;> rfl
    · rfl
  rw [EbookFile.editionTexts, EbookFile.editionTexts, hepub, hpdf]
  cases hopened : file.openedEpub py path with
  | some a =>
    obtain ⟨hlength, hsize⟩ := hwindow.spine a (epub_of_opened hopened)
    exact spineEditions_perm (hspine a) hlength hsize
  | none =>
    cases hopened' : file.openedPdf py path with
    | none => exact List.Perm.refl []
    | some d =>
      obtain ⟨hlength, hsize⟩ := hwindow.pages d (pdf_of_opened hopened')
      show (if d.needsPass then [] else pageEditions py 0 0 d.pages).Perm
        (if d.needsPass then [] else pageEditions py 0 0 (pages d))
      split
      · exact List.Perm.refl []
      · exact pageEditions_perm (hpages d) hlength hsize

/-! ### The anchor -/

theorem isbnsOn_perm {texts texts' : List String} (h : texts.Perm texts') :
    ∀ isbn, isbn ∈ isbnsOn texts ↔ isbn ∈ isbnsOn texts' := by
  intro isbn
  rw [isbnsOn, isbnsOn, List.mem_flatMap, List.mem_flatMap]
  exact ⟨fun ⟨t, ht, hisbn⟩ => ⟨t, h.mem_iff.mp ht, hisbn⟩,
    fun ⟨t, ht, hisbn⟩ => ⟨t, h.mem_iff.mpr ht, hisbn⟩⟩

/-- Two inspections that anchor the same ISBNs show the same content. -/
theorem Anchored.values_eq {isbns isbns' : List String} {stated stated' : Identifiers}
    {inspection inspection' : FormatInspection} (h : Anchored isbns stated inspection)
    (h' : Anchored isbns' stated' inspection') (hsame : ∀ isbn, isbn ∈ isbns ↔ isbn ∈ isbns') :
    (contentItems inspection).map (·.value) = (contentItems inspection').map (·.value) := by
  have hsole : ∀ isbn, Sole isbns isbn ↔ Sole isbns' isbn :=
    fun isbn => forall_congr' fun i => by rw [hsame]
  rcases h with ⟨isbn, item, hone, hitems, -, hvalue, -⟩ | ⟨hnone, hitems, -⟩
  · rcases h' with ⟨isbn', item', hone', hitems', -, hvalue', -⟩ | ⟨hnone', -, -⟩
    · have hisbn : isbn' = isbn := ((hsole isbn).mp hone isbn').mp ((hone' isbn').mpr rfl)
      rw [hitems, hitems', List.map_singleton, List.map_singleton, hvalue, hvalue', hisbn]
    · exact absurd ⟨isbn, (hsole isbn).mp hone⟩ hnone'
  · rcases h' with ⟨isbn', item', hone', -, -, -, -⟩ | ⟨-, hitems', -⟩
    · exact absurd ⟨isbn', (hsole isbn').mpr hone'⟩ hnone
    · rw [hitems, hitems']

/-- **The ISBN of the edition pages.** Content anchors an ISBN only if it is the only one on the edition
pages that are read. Where there are two, none is anchored, and the identifiers are those that the
package document states. In another order of the pages the same ISBN is anchored if the same edition
pages are read, and within the window they are. A document with two ISBNs is left out. -/
theorem content_isbn_of_editions {path : String} {file : EbookFile} {inspection : FormatInspection}
    (h : inspectFormat py path file = .ok inspection)
    (hpdf : (file.openedPdf py path).isSome = true → AtMostOne (isbnsOn (file.editionTexts py path))) :
    (∀ item ∈ contentItems inspection, ∃ isbn, Sole (isbnsOn (file.editionTexts py path)) isbn ∧
      item.value = .strDict [("isbn", isbn)]) ∧
    (¬ AtMostOne (isbnsOn (file.editionTexts py path)) → contentItems inspection = [] ∧
      ∃ a, file.openedEpub py path = some a ∧ (inspection.formatEvidence.identifiers = [] ∨
        inspection.formatEvidence.identifiers = a.embeddedIdentifiers)) ∧
    ∀ file' inspection', file.Reordered file' → inspectFormat py path file' = .ok inspection' →
      ((file.editionTexts py path).Perm (file'.editionTexts py path) ∨ file.WithinWindow) →
      (contentItems inspection').map (·.value) = (contentItems inspection).map (·.value) := by
  have hanchored := inspectFormat_anchored h hpdf
  refine ⟨fun item hitem => ?_, fun htwo => ?_, fun file' inspection' hreordered h' hsame => ?_⟩
  · rcases hanchored with ⟨hnone, -, -⟩ | ⟨-, stated, hanchored, -⟩
    · rw [hnone] at hitem
      exact absurd hitem List.not_mem_nil
    · rcases hanchored with ⟨isbn, item', hone, hitems, -, hvalue, -⟩ | ⟨-, hnone, -⟩
      · rw [hitems, List.mem_singleton] at hitem
        exact ⟨isbn, hone, hitem ▸ hvalue⟩
      · rw [hnone] at hitem
        exact absurd hitem List.not_mem_nil
  · have hopened : ∃ a, file.openedEpub py path = some a := by
      cases hepub : file.openedEpub py path with
      | some a => exact ⟨a, rfl⟩
      | none =>
        exfalso
        cases hdocument : file.openedPdf py path with
        | some d => exact htwo (hpdf (by rw [hdocument]; rfl))
        | none =>
          refine htwo fun a ha => ?_
          rw [EbookFile.editionTexts, hepub, hdocument] at ha
          exact absurd ha List.not_mem_nil
    obtain ⟨a, ha⟩ := hopened
    rcases hanchored with ⟨hnone, hids, -⟩ | ⟨-, stated, hanchored, hstated⟩
    · exact ⟨hnone, a, ha, .inl hids⟩
    · rcases hanchored with ⟨isbn, item, hone, -⟩ | ⟨-, hnone, hids⟩
      · refine absurd (fun i hi j hj => ?_) htwo
        rw [(hone i).mp hi, (hone j).mp hj]
      · refine ⟨hnone, a, ha, ?_⟩
        rw [hids]
        exact hstated a ha
  · have hperm : (file.editionTexts py path).Perm (file'.editionTexts py path) :=
      hsame.elim id (editionTexts_perm hreordered)
    have hmem := isbnsOn_perm hperm
    obtain ⟨spine, pages, -, -, rfl⟩ := hreordered
    have hpdf' : (EbookFile.openedPdf py path { file with
        epub := file.epub.map fun a => { a with spine := spine a }
        pdf := file.pdf.map fun d => { d with pages := pages d } }).isSome = true →
        AtMostOne (isbnsOn (EbookFile.editionTexts py path { file with
          epub := file.epub.map fun a => { a with spine := spine a }
          pdf := file.pdf.map fun d => { d with pages := pages d } })) := by
      intro hopened a ha b hb
      refine hpdf ?_ a ((hmem a).mpr ha) b ((hmem b).mpr hb)
      rw [EbookFile.openedPdf] at hopened ⊢
      split at hopened
      next hsuffix =>
        rw [if_pos hsuffix]
        cases hfile : file.pdf with
        | error error =>
          rw [hfile] at hopened
          cases hopened
        | ok d => rfl
      next => cases hopened
    rcases inspectFormat_anchored h' hpdf' with ⟨hnone', -, hchanged'⟩ | ⟨hstable', stated', hanchored', -⟩
    · rcases hanchored with ⟨hnone, -, -⟩ | ⟨hstable, -⟩
      · rw [hnone, hnone']
      · exact absurd hstable hchanged'
    · rcases hanchored with ⟨-, -, hchanged⟩ | ⟨-, stated, hanchored, -⟩
      · exact absurd hstable' hchanged
      · exact hanchored'.values_eq hanchored fun isbn => (hmem isbn).symm

/-- An EPUB with its copyright notice at the front, and six chapters. -/
def noticeFirst : EbookFile where
  before := .ok "0"
  after := .ok "0"
  epub := .ok
    { opfPath := "content.opf"
      spine := ("notice", .text 40 "copyright, ISBN 0306406152") ::
        List.replicate 6 ("chapter", .text 9 "A chapter") }

/-- The same EPUB backwards. -/
def noticeLast : EbookFile :=
  { noticeFirst with
    epub := noticeFirst.epub.map fun a => { a with spine := a.spine.reverse }
    pdf := noticeFirst.pdf.map fun d => { d with pages := d.pages } }

/-- The notice at the front anchors its ISBN only as the one ISBN of the edition pages. -/
theorem noticeFirst_content :
    ∃ inspection, inspectFormat .ascii "/b.epub" noticeFirst = .ok inspection ∧
      ∀ item ∈ contentItems inspection, ∃ isbn,
        Sole (isbnsOn (noticeFirst.editionTexts .ascii "/b.epub")) isbn ∧
          item.value = .strDict [("isbn", isbn)] := by
  refine ⟨_, rfl, (content_isbn_of_editions rfl fun h => ?_).1⟩
  exact absurd h (by decide +kernel)

/-- At the front of a longer book the notice anchors its ISBN, at the end it is no edition page. -/
theorem order_of_pages_counts :
    noticeFirst.Reordered noticeLast ∧
      ∃ inspection inspection', inspectFormat .ascii "/b.epub" noticeFirst = .ok inspection ∧
        inspectFormat .ascii "/b.epub" noticeLast = .ok inspection' ∧
        (contentItems inspection).map (·.value) = [.strDict [("isbn", "9780306406157")]] ∧
        contentItems inspection' = [] := by
  refine ⟨⟨fun a => a.spine.reverse, fun d => d.pages, fun a => (List.reverse_perm _).symm,
    fun d => List.Perm.refl _, rfl⟩, _, _, rfl, rfl, ?_, ?_⟩
  · decide +kernel
  · decide +kernel

end Bookwarden
