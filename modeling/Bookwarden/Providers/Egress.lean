import Bookwarden.Providers.Enrichers

/-!
# The text that leaves

`build_remote_evidence_bundle` threads a budget of characters through the title and copyright pages
of all inspections. Seen as a whole the bundle is an initial segment of the text of these pages: the
pages that fit are copied, the first that does not fit is cut, and nothing follows the cut.

## Main definitions

* `eligibleSnippets` — the pages that may leave
* `BoundedEgress` — what is asked of a bundle and its receipt

## Main results

* `selectSnippets_shape` — copies of pages, and at most one cut at the end
* `bundle_bounded` — every bundle is as asked, for every budget
-/

namespace Bookwarden

/-! ### The pages that may leave -/

/-- A title or copyright page. -/
def ExtractedSnippet.eligible (item : ExtractedSnippet) : Bool :=
  decide (item.source ∈ ["title_page", "copyright_page"])

/-- The pages that may leave, without the empty ones, in order. -/
def eligibleSnippets (items : List ExtractedSnippet) : List ExtractedSnippet :=
  items.filter fun item => item.eligible && decide (item.text ≠ "")

/-- A page as it is sent, cut to this many characters. -/
def ExtractedSnippet.cut (item : ExtractedSnippet) (n : ℕ) : RemoteSnippet :=
  ⟨item.source, item.locator, takeChars n item.text⟩

/-- A page as it is sent in full. -/
def ExtractedSnippet.whole (item : ExtractedSnippet) : RemoteSnippet :=
  ⟨item.source, item.locator, item.text⟩

/-- The length of a text in characters. -/
def textLength (texts : List String) : ℕ := (texts.map fun t => t.toList.length).sum

theorem toList_takeChars (n : ℕ) (s : String) : (takeChars n s).toList = s.toList.take n := by
  rw [takeChars, String.toList_ofList]

theorem takeChars_of_le {n : ℕ} {s : String} (h : s.toList.length ≤ n) : takeChars n s = s := by
  rw [takeChars, List.take_of_length_le h, String.ofList_toList]

theorem takeChars_eq_empty_iff {n : ℕ} {s : String} (hn : n ≠ 0) : takeChars n s = "" ↔ s = "" := by
  rw [← String.toList_eq_nil_iff, toList_takeChars, List.take_eq_nil_iff, or_iff_right hn,
    String.toList_eq_nil_iff]

/-! ### The loop -/

/-- Nothing is taken without a budget. -/
theorem selectSnippets_zero (items : List ExtractedSnippet) : selectSnippets 0 items = [] := by
  induction items with
  | nil => rfl
  | cons item items ih => rw [selectSnippets, if_pos (.inr rfl), ih]

/-- A page that may not leave, or is empty, is passed over. -/
theorem selectSnippets_skip (budget : ℕ) {item : ExtractedSnippet}
    (h : (item.eligible && decide (item.text ≠ "")) = false) (items : List ExtractedSnippet) :
    selectSnippets budget (item :: items) = selectSnippets budget items := by
  rw [selectSnippets]
  by_cases hsource : item.source ∉ ["title_page", "copyright_page"] ∨ budget = 0
  · rw [if_pos hsource]
  · rw [not_or, not_not] at hsource
    have heligible : item.eligible = true := decide_eq_true hsource.1
    have hempty : item.text = "" := by simpa [heligible] using h
    rw [if_neg (by simp [hsource.1, hsource.2])]
    exact if_pos ((takeChars_eq_empty_iff hsource.2).mpr hempty)

/-- A page with text is cut to the budget, and the rest of the budget goes on. -/
theorem selectSnippets_take {budget : ℕ} {item : ExtractedSnippet} (h : item.eligible = true)
    (hne : item.text ≠ "") (hbudget : budget ≠ 0) (items : List ExtractedSnippet) :
    selectSnippets budget (item :: items) = item.cut budget ::
      selectSnippets (budget - (takeChars budget item.text).toList.length) items := by
  have hsource : ¬ (item.source ∉ ["title_page", "copyright_page"] ∨ budget = 0) := by
    rw [not_or, not_not]
    exact ⟨of_decide_eq_true h, hbudget⟩
  have htext : takeChars budget item.text ≠ "" := by
    rwa [Ne, takeChars_eq_empty_iff hbudget]
  rw [selectSnippets, if_neg hsource]
  exact if_neg htext

/-- A page that fits is taken as it is. -/
theorem selectSnippets_fits {budget : ℕ} {item : ExtractedSnippet} (h : item.eligible = true)
    (hne : item.text ≠ "") (hfits : item.text.toList.length ≤ budget)
    (items : List ExtractedSnippet) :
    selectSnippets budget (item :: items) =
      item.whole :: selectSnippets (budget - item.text.toList.length) items := by
  have hbudget : budget ≠ 0 := by
    rintro rfl
    have hnil : item.text.toList = [] := List.length_eq_zero_iff.mp (by omega)
    exact hne (String.toList_eq_nil_iff.mp hnil)
  rw [selectSnippets_take h hne hbudget, ExtractedSnippet.cut, takeChars_of_le hfits]
  rfl

/-- The first page that does not fit is cut, and is the last. -/
theorem selectSnippets_cut {budget : ℕ} {item : ExtractedSnippet} (h : item.eligible = true)
    (hbudget : budget ≠ 0) (hcut : budget < item.text.toList.length)
    (items : List ExtractedSnippet) :
    selectSnippets budget (item :: items) = [item.cut budget] := by
  have hne : item.text ≠ "" := by
    intro hempty
    rw [hempty] at hcut
    exact absurd hcut (by simp)
  have hlength : (takeChars budget item.text).toList.length = budget := by
    rw [toList_takeChars, List.length_take]
    omega
  rw [selectSnippets_take h hne hbudget, hlength, Nat.sub_self, selectSnippets_zero]

theorem eligibleSnippets_skip {item : ExtractedSnippet}
    (h : (item.eligible && decide (item.text ≠ "")) = false) (items : List ExtractedSnippet) :
    eligibleSnippets (item :: items) = eligibleSnippets items :=
  List.filter_cons_of_neg (Bool.eq_false_iff.mp h)

theorem eligibleSnippets_keep {item : ExtractedSnippet}
    (h : (item.eligible && decide (item.text ≠ "")) = true) (items : List ExtractedSnippet) :
    eligibleSnippets (item :: items) = item :: eligibleSnippets items :=
  List.filter_cons_of_pos h

/-! ### The bundle as a whole -/

/-- The sent pages are the first of these pages in full, with at most one cut page behind them. -/
def InitialSegment (pages : List ExtractedSnippet) (sent : List RemoteSnippet) : Prop :=
  ∃ full rest, pages = full ++ rest ∧ (sent = full.map (·.whole) ∨
    ∃ item tail n, rest = item :: tail ∧ 0 < n ∧ n < item.text.toList.length ∧
      sent = full.map (·.whole) ++ [item.cut n])

theorem InitialSegment.nil (pages : List ExtractedSnippet) : InitialSegment pages [] :=
  ⟨[], pages, rfl, .inl rfl⟩

theorem InitialSegment.cons {pages : List ExtractedSnippet} {sent : List RemoteSnippet}
    (h : InitialSegment pages sent) (item : ExtractedSnippet) :
    InitialSegment (item :: pages) (item.whole :: sent) := by
  obtain ⟨full, rest, rfl, hsent⟩ := h
  refine ⟨item :: full, rest, rfl, ?_⟩
  rcases hsent with rfl | ⟨last, tail, n, hrest, hpos, hlt, rfl⟩
  · exact .inl rfl
  · exact .inr ⟨last, tail, n, hrest, hpos, hlt, rfl⟩

/-- Copies of pages, and at most one cut at the end. -/
theorem selectSnippets_shape (budget : ℕ) (items : List ExtractedSnippet) :
    InitialSegment (eligibleSnippets items) (selectSnippets budget items) := by
  induction items generalizing budget with
  | nil => exact InitialSegment.nil _
  | cons item items ih =>
    rcases hitem : item.eligible && decide (item.text ≠ "") with _ | _
    · rw [selectSnippets_skip budget hitem, eligibleSnippets_skip hitem]
      exact ih budget
    · rw [eligibleSnippets_keep hitem]
      rw [Bool.and_eq_true, decide_eq_true_eq] at hitem
      rcases Nat.eq_zero_or_pos budget with rfl | hbudget
      · rw [selectSnippets_zero]
        exact InitialSegment.nil _
      · rcases Nat.lt_or_ge budget item.text.toList.length with hcut | hfits
        · rw [selectSnippets_cut hitem.1 (by omega) hcut]
          exact ⟨[], _, rfl, .inr ⟨item, _, budget, rfl, hbudget, hcut, rfl⟩⟩
        · rw [selectSnippets_fits hitem.1 hitem.2 hfits]
          exact (ih _).cons item

/-- The budget is used up unless everything fits. -/
theorem selectSnippets_total (budget : ℕ) (items : List ExtractedSnippet) :
    textLength ((selectSnippets budget items).map (·.text)) =
      min budget (textLength ((eligibleSnippets items).map (·.text))) := by
  induction items generalizing budget with
  | nil => exact (Nat.min_zero budget).symm
  | cons item items ih =>
    rcases hitem : item.eligible && decide (item.text ≠ "") with _ | _
    · rw [selectSnippets_skip budget hitem, eligibleSnippets_skip hitem]
      exact ih budget
    · rw [eligibleSnippets_keep hitem]
      rw [Bool.and_eq_true, decide_eq_true_eq] at hitem
      rcases Nat.eq_zero_or_pos budget with rfl | hbudget
      · rw [selectSnippets_zero, Nat.zero_min]
        rfl
      · have hcons : ∀ (text : String) (texts : List String),
            textLength (text :: texts) = text.toList.length + textLength texts := by
          intro text texts
          rw [textLength, List.map_cons, List.sum_cons, ← textLength]
        rw [List.map_cons, hcons]
        rcases Nat.lt_or_ge budget item.text.toList.length with hcut | hfits
        · rw [selectSnippets_cut hitem.1 (by omega) hcut]
          show textLength [takeChars budget item.text] = _
          rw [hcons, toList_takeChars, List.length_take, textLength, List.map_nil, List.sum_nil]
          omega
        · rw [selectSnippets_fits hitem.1 hitem.2 hfits, List.map_cons, hcons, ih]
          show item.text.toList.length + _ = _
          omega

/-- What is asked of a bundle and its receipt. -/
structure BoundedEgress (py : Runtime) (inspections : List FormatInspection) (allowRemoteText : Bool)
    (maxChars : ℤ) (bundle : RemoteEvidenceBundle) (receipt : EgressReceipt) : Prop where
  /-- The first pages that may leave, of which only the last may be cut. -/
  prefixes : InitialSegment (eligibleSnippets (inspections.flatMap (·.snippets))) bundle.snippets
  /-- No text of the body. -/
  noBody : ∀ s ∈ bundle.snippets, s.source = "title_page" ∨ s.source = "copyright_page"
  /-- As much as the budget allows. -/
  total : allowRemoteText = true → (textLength (bundle.snippets.map (·.text)) : ℤ) =
    min (max 0 maxChars)
      (textLength ((eligibleSnippets (inspections.flatMap (·.snippets))).map (·.text)))
  /-- Nothing when text may not leave. -/
  disallowed : allowRemoteText = false → bundle.snippets = []
  /-- The receipt is that of this bundle. -/
  textChars : receipt.textChars = textLength (bundle.snippets.map (·.text))
  payload : receipt.payloadSha256 = hashJson py bundle.toJson

theorem InitialSegment.source {pages : List ExtractedSnippet} {sent : List RemoteSnippet}
    (h : InitialSegment pages sent) {s : RemoteSnippet} (hs : s ∈ sent) :
    ∃ item ∈ pages, s.source = item.source := by
  obtain ⟨full, rest, rfl, rfl | ⟨item, tail, n, rfl, -, -, rfl⟩⟩ := h
  · obtain ⟨item, hitem, rfl⟩ := List.mem_map.mp hs
    exact ⟨item, List.mem_append_left _ hitem, rfl⟩
  · rcases List.mem_append.mp hs with hs | hs
    · obtain ⟨item, hitem, rfl⟩ := List.mem_map.mp hs
      exact ⟨item, List.mem_append_left _ hitem, rfl⟩
    · rw [List.mem_singleton.mp hs]
      exact ⟨item, List.mem_append_right _ List.mem_cons_self, rfl⟩

/-- **Bounded egress.** Every bundle is an initial segment of the pages that may leave, of exactly
the length that the budget allows, and the receipt is its own. -/
theorem bundle_bounded (py : Runtime) (bookKey : String) (inspections : List FormatInspection)
    (allowRemoteText : Bool) (maxChars : ℤ) :
    BoundedEgress py inspections allowRemoteText maxChars
      (buildRemoteEvidenceBundle py bookKey inspections allowRemoteText maxChars).1
      (buildRemoteEvidenceBundle py bookKey inspections allowRemoteText maxChars).2 := by
  have hsnippets : (buildRemoteEvidenceBundle py bookKey inspections allowRemoteText maxChars).1.snippets
      = if allowRemoteText then
          selectSnippets (max 0 maxChars).toNat (inspections.flatMap (·.snippets))
        else [] := rfl
  have hshape : InitialSegment (eligibleSnippets (inspections.flatMap (·.snippets)))
      (buildRemoteEvidenceBundle py bookKey inspections allowRemoteText maxChars).1.snippets := by
    rw [hsnippets]
    cases allowRemoteText with
    | true => exact selectSnippets_shape _ _
    | false => exact InitialSegment.nil _
  refine ⟨hshape, ?_, ?_, ?_, ?_, rfl⟩
  · intro s hs
    obtain ⟨item, hitem, hsource⟩ := hshape.source hs
    rw [eligibleSnippets, List.mem_filter, Bool.and_eq_true] at hitem
    have heligible : item.source ∈ ["title_page", "copyright_page"] := of_decide_eq_true hitem.2.1
    rw [hsource]
    simpa using heligible
  · intro hallow
    rw [hsnippets, hallow, if_pos rfl, selectSnippets_total]
    omega
  · intro hallow
    rw [hsnippets, hallow]
    rfl
  · rw [textLength, List.map_map]
    rfl

end Bookwarden
