import Mathlib.Data.List.Dedup
import Mathlib.Order.Bounds.Basic
import Bookwarden.Calibre.ContentServer

/-!
# What an inventory conserves

The counters of the pass are functions of the records seen so far, and one round extends each of them
by the record it sees. The pass goes through to the end unless converting the time stamp of a record
to UTC leaves the years 1 to 9999, which raises `OverflowError`; the loop only catches `TypeError` and
`ValueError`.

## Main definitions

* `DistinctIds`, `InRange`
* `Counters.of` — the counters of a list of records
* `Conserving`, `TotalAndConserving`

## Main results

* `foldlM_countBook` — what the pass computes
* `totalAndConserving_iff`
* `first_hour_overflows`
-/

namespace Bookwarden.ContentServer

section Notions

variable (py : Runtime) (dt : Datetimes)

/-- The id of a record, 0 if it is no integer. -/
def bookId (book : Dict) : ℤ :=
  match Dict.get book "id" with
  | .int n => n
  | _ => 0

/-- The ids are positive integers and distinct. -/
structure DistinctIds (books : List Dict) : Prop where
  pos : ∀ book ∈ books, 0 < bookId book
  nodup : (books.map bookId).Nodup

/-- The instant of a text with an offset lies in the years 1 to 9999 in UTC as well. -/
def InRange (raw : Json) : Prop :=
  ∀ s localTime offset, raw = .str s → strip s ≠ "" →
    dt.fromisoformat (isoText s) = some (localTime, some offset) →
      0 ≤ localTime - offset ∧ localTime - offset < endOfTime

/-- How a value of `last_modified` counts. -/
def modifiedState (raw : Json) : Option Modified := (modifiedOf dt raw).toOption

/-- The instant of a dated record. -/
def Modified.instant? : Modified → Option ℤ
  | .dated t => some t
  | _ => none

/-- The instant of a value of `last_modified`. -/
def instant? (raw : Json) : Option ℤ := (modifiedState dt raw).bind Modified.instant?

/-- What an inventory owes to the records. -/
structure Conserving (books : List Dict) (report : InventoryReport) : Prop where
  length : report.counts.books = books.length
  totalFormats :
    report.counts.formats = (books.flatMap fun book => formats py (book.get "formats")).length
  formats : Tally.total report.formats = report.counts.formats
  isbn : report.isbn.valid + report.isbn.invalid + report.isbn.missing = report.counts.books
  missing : report.lastModified.missing =
    books.countP fun book => modifiedState dt (book.get "last_modified") = some .missing
  invalid : report.lastModified.invalid =
    books.countP fun book => modifiedState dt (book.get "last_modified") = some .invalid
  minimum : ∀ t, report.lastModified.minimum = some t ↔
    IsLeast {t | ∃ book ∈ books, instant? dt (book.get "last_modified") = some t} t
  maximum : ∀ t, report.lastModified.maximum = some t ↔
    IsGreatest {t | ∃ book ∈ books, instant? dt (book.get "last_modified") = some t} t
  modified : (books.filterMap fun book => instant? dt (book.get "last_modified")).length +
    report.lastModified.missing + report.lastModified.invalid = books.length
  languages : ∀ language n, (language, n) ∈ report.languages →
    n = books.countP fun book => language ∈ normalizedLanguages py (book.get "languages")
  multiFormat : report.counts.multiFormat + report.counts.noFormat ≤ report.counts.books

/-- The records are aggregated, whatever their order, and the report conserves them. -/
def TotalAndConserving (books : List Dict) (sourceFingerprint : String) (capturedAt : ℤ) : Prop :=
  ∃ report, Conserving py dt books report ∧ ∀ books' : List Dict, books'.Perm books →
    aggregateInventory py dt books' sourceFingerprint capturedAt = .ok report

/-- What a list of records with distinct positive ids has to meet. -/
structure Aggregatable (books : List Dict) (sourceFingerprint : String) : Prop where
  fingerprint : isSha256 (py.lower sourceFingerprint) = true
  digits : ∀ book ∈ books, (Nat.toDigits 10 (bookId book).natAbs).length ≤ maxStrDigits
  inRange : ∀ book ∈ books, InRange dt (book.get "last_modified")

end Notions

variable {py : Runtime} {dt : Datetimes}

/-! ### The records in order -/

theorem get_id_of_pos {book : Dict} (h : 0 < bookId book) : book.get "id" = .int (bookId book) := by
  unfold bookId at h ⊢
  split
  · assumption
  · next hother =>
    split at h
    · next n hn => exact absurd hn (hother n)
    · omega

/-- The records with their ids. -/
def withIds (books : List Dict) : List (ℤ × Dict) := books.map fun book => (bookId book, book)

theorem validatedBooksLoop_eq {books : List Dict} (hids : DistinctIds books) {seen : List ℤ}
    (hseen : ∀ book ∈ books, bookId book ∉ seen) :
    validatedBooksLoop seen (books.map .obj) = .ok (withIds books) := by
  induction books generalizing seen with
  | nil => rfl
  | cons book books ih =>
    have hpos : 0 < bookId book := hids.pos book List.mem_cons_self
    have hnodup : (bookId book :: books.map bookId).Nodup := hids.nodup
    obtain ⟨hnew, hrest⟩ := List.nodup_cons.mp hnodup
    have hbook : validatedBook seen (.obj book) = .ok (bookId book, book) := by
      simp only [validatedBook, get_id_of_pos hpos]
      rw [if_neg (by omega), if_neg (hseen book List.mem_cons_self)]
    have hbooks : validatedBooksLoop (bookId book :: seen) (books.map .obj) = .ok (withIds books) := by
      refine ih ⟨fun b hb => hids.pos b (List.mem_cons_of_mem _ hb), hrest⟩ fun b hb hmem => ?_
      rcases List.mem_cons.mp hmem with heq | hmem
      · exact hnew (heq ▸ List.mem_map_of_mem hb)
      · exact hseen b (List.mem_cons_of_mem _ hb) hmem
    rw [List.map_cons, validatedBooksLoop, hbook]
    show (validatedBooksLoop (bookId book :: seen) (books.map .obj) >>= fun rest =>
      Except.ok ((bookId book, book) :: rest)) = _
    rw [hbooks]
    rfl

/-- The records in the order of their ids. -/
def inOrder (books : List Dict) : List (ℤ × Dict) :=
  (withIds books).insertionSort fun a b => a.1 ≤ b.1

theorem validatedBooks_eq {books : List Dict} (hids : DistinctIds books) :
    validatedBooks (.arr (books.map .obj)) = .ok (inOrder books) := by
  rw [validatedBooks, validatedBooksLoop_eq hids fun _ _ => List.not_mem_nil]
  rfl

theorem inOrder_perm (books : List Dict) : (inOrder books).Perm (withIds books) :=
  List.perm_insertionSort _ _

/-- Where ids are distinct, the order is that of the ids. -/
theorem inOrder_eq_of_perm {books books' : List Dict} (hids : DistinctIds books)
    (h : books'.Perm books) : inOrder books' = inOrder books := by
  have hsorted : ∀ books, (inOrder books).Pairwise fun a b => a.1 ≤ b.1 :=
    fun books => List.pairwise_insertionSort _ _
  have hperm : (inOrder books').Perm (inOrder books) :=
    (inOrder_perm books').trans ((h.map _).trans (inOrder_perm books).symm)
  refine hperm.eq_of_pairwise (fun a b ha hb hab hba => ?_) (hsorted books') (hsorted books)
  have hid : a.1 = b.1 := Int.le_antisymm hab hba
  have hmem : ∀ p ∈ inOrder books, p.2 ∈ books ∧ p.1 = bookId p.2 := by
    intro p hp
    obtain ⟨book, hbook, rfl⟩ := List.mem_map.mp ((inOrder_perm books).mem_iff.mp hp)
    exact ⟨hbook, rfl⟩
  obtain ⟨ha', hida⟩ := hmem a (hperm.mem_iff.mp ha)
  obtain ⟨hb', hidb⟩ := hmem b hb
  have hbook : a.2 = b.2 :=
    List.inj_on_of_nodup_map hids.nodup ha' hb' (hida.symm.trans (hid.trans hidb))
  exact Prod.ext hid hbook

/-! ### Time stamps -/

theorem modifiedOf_str {s : String} (hs : strip s ≠ "") :
    modifiedOf dt (.str s) =
      match dt.fromisoformat (isoText s) with
      | none => .ok .invalid
      | some (localTime, none) => .ok (.dated localTime)
      | some (localTime, some offset) =>
        if 0 ≤ localTime - offset ∧ localTime - offset < endOfTime then
          .ok (.dated (localTime - offset))
        else .error ⟨.other, "date value out of range"⟩ := by
  have hblank : ¬isBlank (.str s) = true := by
    rw [isBlank, decide_eq_true_eq]
    exact hs
  rw [modifiedOf, if_neg hblank, lastModified, if_neg hs]
  cases dt.fromisoformat (isoText s) with
  | none => rfl
  | some p =>
    obtain ⟨localTime, offset⟩ := p
    cases offset with
    | none => rfl
    | some offset =>
      by_cases h : 0 ≤ localTime - offset ∧ localTime - offset < endOfTime
      · have hzone : astimezone localTime offset = .ok (localTime - offset) := if_pos h
        simp only [hzone, if_pos h]
        rfl
      · have hzone : astimezone localTime offset = .error ⟨.other, "date value out of range"⟩ :=
          if_neg h
        simp only [hzone, if_neg h]
        rfl

/-- A time stamp has a state exactly when its instant is a date in UTC. -/
theorem exists_modifiedOf_iff {raw : Json} : (∃ m, modifiedOf dt raw = .ok m) ↔ InRange dt raw := by
  cases raw with
  | str s =>
    by_cases hs : strip s = ""
    · have hblank : modifiedOf dt (.str s) = .ok .missing :=
        if_pos (show decide (strip s = "") = true from decide_eq_true hs)
      refine iff_of_true ⟨_, hblank⟩ ?_
      rintro s' localTime offset hs' hne -
      cases hs'
      exact absurd hs hne
    · rw [modifiedOf_str hs]
      constructor
      · rintro ⟨m, hm⟩ s' localTime offset hs' - hparse
        cases hs'
        by_contra hout
        simp only [hparse, if_neg hout] at hm
        cases hm
      · intro h
        cases hparse : dt.fromisoformat (isoText s) with
        | none => exact ⟨_, rfl⟩
        | some p =>
          obtain ⟨localTime, offset⟩ := p
          cases offset with
          | none => exact ⟨_, rfl⟩
          | some offset => exact ⟨_, if_pos (h s localTime offset rfl hs hparse)⟩
  | _ =>
    refine iff_of_true ⟨_, rfl⟩ ?_
    intro s localTime offset hs
    cases hs

theorem modifiedState_of_eq {raw : Json} {m : Modified} (h : modifiedOf dt raw = .ok m) :
    modifiedState dt raw = some m := by
  rw [modifiedState, h]
  rfl

/-! ### One round -/

/-- The value a field of `incomplete` is about. -/
def fieldValue (py : Runtime) (field : String) (book : Dict) : Json :=
  if field = "languages" then .strs (normalizedLanguages py (book.get "languages"))
  else book.get field

/-- The counters of a list of records. -/
def Counters.of (py : Runtime) (dt : Datetimes) (l : List (ℤ × Dict)) : Counters where
  formatCounts := Tally.addAll []
    (l.flatMap fun b => (formats py (b.2.get "formats")).map aggregateFormat)
  languageCounts := Tally.addAll [] (l.flatMap fun b => normalizedLanguages py (b.2.get "languages"))
  isbnCounts :=
    { invalid := l.countP fun b => isbnState b.2 = .invalid
      missing := l.countP fun b => isbnState b.2 = .missing
      valid := l.countP fun b => isbnState b.2 = .valid }
  incomplete := ["authors", "languages", "publisher", "pubdate", "title"].map fun field =>
    (field, l.countP fun b => !nonempty (fieldValue py field b.2))
  modified := l.filterMap fun b => instant? dt (b.2.get "last_modified")
  invalidModified := l.countP fun b => modifiedState dt (b.2.get "last_modified") = some .invalid
  missingModified := l.countP fun b => modifiedState dt (b.2.get "last_modified") = some .missing
  totalFormats := (l.flatMap fun b => formats py (b.2.get "formats")).length
  multiFormat := l.countP fun b => 1 < (formats py (b.2.get "formats")).length
  noFormat := l.countP fun b => formats py (b.2.get "formats") = []
  manifestItems := l.map fun b =>
    { id := b.1
      formats := formats py (b.2.get "formats")
      lastModified := (instant? dt (b.2.get "last_modified")).map dt.isoformat }

theorem ISBNCounts.add_of (l : List (ℤ × Dict)) (b : ℤ × Dict) :
    (Counters.of py dt l).isbnCounts.add (isbnState b.2) = (Counters.of py dt (l ++ [b])).isbnCounts := by
  simp only [Counters.of, List.countP_append, List.countP_singleton]
  cases isbnState b.2 <;> rfl

theorem Counters.addModified_eq (c : Counters) (m : Modified) :
    c.addModified m = { c with
      modified := c.modified ++ m.instant?.toList
      invalidModified := c.invalidModified + if m = .invalid then 1 else 0
      missingModified := c.missingModified + if m = .missing then 1 else 0 } := by
  cases m with
  | missing => simp [Counters.addModified, Modified.instant?]
  | invalid => simp [Counters.addModified, Modified.instant?]
  | dated t => simp [Counters.addModified, Modified.instant?]

theorem canonicalModified_eq (m : Modified) :
    canonicalModified dt m = m.instant?.map dt.isoformat := by
  cases m <;> rfl

/-- One round extends the counters by the record it sees. -/
theorem countBook_of {l : List (ℤ × Dict)} {b : ℤ × Dict} {m : Modified}
    (hm : modifiedOf dt (b.2.get "last_modified") = .ok m) :
    countBook py dt (Counters.of py dt l) b = .ok (Counters.of py dt (l ++ [b])) := by
  have hstate := modifiedState_of_eq hm
  have hinstant : instant? dt (b.2.get "last_modified") = m.instant? := by
    rw [instant?, hstate]
    rfl
  rw [countBook, hm]
  refine congrArg Except.ok ?_
  rw [Counters.addModified_eq, ISBNCounts.add_of]
  apply Counters.ext
  case formatCounts => simp [Counters.of, Tally.addAll_append]
  case languageCounts => simp [Counters.of, Tally.addAll_append]
  case isbnCounts => rfl
  case incomplete =>
    have hbit : ∀ v : Bool, (if v = true then 0 else 1) = if v = false then 1 else 0 := by decide
    simp [Counters.of, fieldValue, List.countP_append, List.countP_singleton, hbit]
  case modified =>
    cases hm' : m.instant? with
    | none => simp [Counters.of, hinstant, hm']
    | some t => simp [Counters.of, hinstant, hm']
  case invalidModified => simp [Counters.of, List.countP_append, List.countP_singleton, hstate]
  case missingModified => simp [Counters.of, List.countP_append, List.countP_singleton, hstate]
  case totalFormats => simp [Counters.of]
  case multiFormat => simp [Counters.of, List.countP_append, List.countP_singleton]
  case noFormat => simp [Counters.of, List.countP_append, List.countP_singleton]
  case manifestItems => simp [Counters.of, hinstant, canonicalModified_eq]

/-! ### The pass -/

theorem foldlM_countBook (l : List (ℤ × Dict)) {rest : List (ℤ × Dict)}
    (h : ∀ b ∈ rest, InRange dt (b.2.get "last_modified")) :
    rest.foldlM (countBook py dt) (Counters.of py dt l) = .ok (Counters.of py dt (l ++ rest)) := by
  induction rest generalizing l with
  | nil =>
    rw [List.append_nil]
    rfl
  | cons b rest ih =>
    obtain ⟨m, hm⟩ := exists_modifiedOf_iff.mpr (h b List.mem_cons_self)
    have hrest := ih (l ++ [b]) fun b' hb' => h b' (List.mem_cons_of_mem b hb')
    rw [List.append_assoc, List.singleton_append] at hrest
    rw [List.foldlM_cons, countBook_of hm]
    exact hrest

/-- A record that the pass gets over has a time stamp in range. -/
theorem inRange_of_foldlM {rest : List (ℤ × Dict)} {c c' : Counters}
    (h : rest.foldlM (countBook py dt) c = .ok c') :
    ∀ b ∈ rest, InRange dt (b.2.get "last_modified") := by
  induction rest generalizing c with
  | nil =>
    intro b hb
    cases hb
  | cons b rest ih =>
    rw [List.foldlM_cons] at h
    obtain ⟨c₁, hone, hrest⟩ := Except.exists_of_bind_eq_ok h
    rw [countBook] at hone
    obtain ⟨m, hm, -⟩ := Except.exists_of_bind_eq_ok hone
    intro b' hb'
    rcases List.mem_cons.mp hb' with rfl | hb'
    · exact exists_modifiedOf_iff.mp ⟨m, hm⟩
    · exact ih hrest b' hb'

/-- The counters of no records are those the loop starts from. -/
theorem Counters.of_nil : Counters.of py dt [] = {} := rfl

/-! ### The report -/

/-- The report of the counters. -/
def reportOf (py : Runtime) (c : Counters) (books : ℕ) (fingerprint : String) (capturedAt : ℤ) :
    InventoryReport where
  capturedAt := capturedAt
  sourceFingerprint := py.lower fingerprint
  manifestSha256 := py.lower (py.sha256 (dumps py (.arr (c.manifestItems.map ManifestItem.toJson))))
  counts :=
    { books := books
      formats := c.totalFormats
      multiFormat := c.multiFormat
      noFormat := c.noFormat }
  formats := sortedItems c.formatCounts
  languages := sortedItems c.languageCounts
  isbn := c.isbnCounts
  incompleteFields := c.incomplete
  lastModified :=
    { minimum := c.modified.min?
      maximum := c.modified.max?
      missing := c.missingModified
      invalid := c.invalidModified }

theorem aggregateInventory_of_aggregatable
    (hsha : ∀ s, isSha256 (py.lower (py.sha256 s)) = true) {books : List Dict}
    (hids : DistinctIds books) {fingerprint : String} (h : Aggregatable py dt books fingerprint)
    (capturedAt : ℤ) :
    aggregateInventory py dt books fingerprint capturedAt =
      .ok (reportOf py (Counters.of py dt (inOrder books)) (inOrder books).length fingerprint
        capturedAt) := by
  have hmem : ∀ b ∈ inOrder books, b.2 ∈ books ∧ b.1 = bookId b.2 := by
    intro b hb
    obtain ⟨book, hbook, rfl⟩ := List.mem_map.mp ((inOrder_perm books).mem_iff.mp hb)
    exact ⟨hbook, rfl⟩
  have hpass : (inOrder books).foldlM (countBook py dt) {} =
      .ok (Counters.of py dt (inOrder books)) :=
    foldlM_countBook [] fun b hb => h.inRange b.2 (hmem b hb).1
  have hencode : encodeManifest py (Counters.of py dt (inOrder books)).manifestItems =
      .ok (dumps py (.arr ((Counters.of py dt (inOrder books)).manifestItems.map
        ManifestItem.toJson))) := by
    refine if_pos (List.all_eq_true.mpr fun item hitem => ?_)
    obtain ⟨b, hb, rfl⟩ := List.mem_map.mp hitem
    obtain ⟨hbook, hid⟩ := hmem b hb
    show decide ((Nat.toDigits 10 b.1.natAbs).length ≤ maxStrDigits) = true
    rw [hid]
    exact decide_eq_true (h.digits b.2 hbook)
  rw [aggregateInventory, validatedBooks_eq hids]
  show ((inOrder books).foldlM (countBook py dt) {} >>= _) = _
  rw [hpass]
  show (encodeManifest py _ >>= _) = _
  rw [hencode]
  show (validDigest py fingerprint >>= _) = _
  rw [validDigest, if_pos h.fingerprint]
  show (validDigest py _ >>= _) = _
  rw [validDigest, if_pos (hsha _)]
  rfl

theorem aggregatable_of_eq_ok {books : List Dict} (hids : DistinctIds books) {fingerprint : String}
    {capturedAt : ℤ} {report : InventoryReport}
    (h : aggregateInventory py dt books fingerprint capturedAt = .ok report) :
    Aggregatable py dt books fingerprint := by
  have hmem : ∀ book ∈ books, (bookId book, book) ∈ inOrder books := fun book hbook =>
    (inOrder_perm books).mem_iff.mpr (List.mem_map_of_mem hbook)
  rw [aggregateInventory, validatedBooks_eq hids] at h
  obtain ⟨validated, hvalidated, h⟩ := Except.exists_of_bind_eq_ok h
  cases hvalidated
  obtain ⟨c, hpass, h⟩ := Except.exists_of_bind_eq_ok h
  obtain ⟨text, hencode, h⟩ := Except.exists_of_bind_eq_ok h
  obtain ⟨lowered, hfingerprint, -⟩ := Except.exists_of_bind_eq_ok h
  have hrange := inRange_of_foldlM hpass
  have hc : c = Counters.of py dt (inOrder books) := by
    have hpass' := @foldlM_countBook py dt [] _ hrange
    rw [List.nil_append, Counters.of_nil] at hpass'
    exact Except.ok.inj (hpass.symm.trans hpass')
  refine ⟨?_, ?_, ?_⟩
  · by_contra hbad
    rw [validDigest, if_neg hbad] at hfingerprint
    cases hfingerprint
  · intro book hbook
    have hall : c.manifestItems.all fun item =>
        (Nat.toDigits 10 item.id.natAbs).length ≤ maxStrDigits := by
      by_contra hbad
      rw [encodeManifest, if_neg hbad] at hencode
      cases hencode
    have hitem := List.all_eq_true.mp hall
    rw [hc] at hitem
    exact of_decide_eq_true (hitem _ (List.mem_map.mpr ⟨_, hmem book hbook, rfl⟩))
  · exact fun book hbook => hrange _ (hmem book hbook)

/-! ### Conservation -/

/-- Every record has exactly one state. -/
theorem length_eq_of_states {l : List (ℤ × Dict)}
    (h : ∀ b ∈ l, InRange dt (b.2.get "last_modified")) :
    (l.filterMap fun b => instant? dt (b.2.get "last_modified")).length +
        (l.countP fun b => modifiedState dt (b.2.get "last_modified") = some .missing) +
        (l.countP fun b => modifiedState dt (b.2.get "last_modified") = some .invalid) =
      l.length := by
  induction l with
  | nil => rfl
  | cons b l ih =>
    have hrest := ih fun b' hb' => h b' (List.mem_cons_of_mem b hb')
    obtain ⟨m, hm⟩ := exists_modifiedOf_iff.mpr (h b List.mem_cons_self)
    have hstate := modifiedState_of_eq hm
    have hinstant : instant? dt (b.2.get "last_modified") = m.instant? := by
      rw [instant?, hstate]
      rfl
    rw [List.filterMap_cons, hinstant, List.countP_cons, List.countP_cons, hstate, List.length_cons]
    cases m with
    | missing => simp [Modified.instant?]; omega
    | invalid => simp [Modified.instant?]; omega
    | dated t => simp [Modified.instant?]; omega

theorem length_eq_of_isbnStates (l : List (ℤ × Dict)) :
    (l.countP fun b => isbnState b.2 = .valid) + (l.countP fun b => isbnState b.2 = .invalid) +
      (l.countP fun b => isbnState b.2 = .missing) = l.length := by
  induction l with
  | nil => rfl
  | cons b l ih =>
    rw [List.countP_cons, List.countP_cons, List.countP_cons, List.length_cons]
    cases isbnState b.2 with
    | missing => simp; omega
    | invalid => simp; omega
    | valid => simp; omega

/-- A record has several formats or none, not both. -/
theorem multi_add_none_le (l : List (ℤ × Dict)) :
    (l.countP fun b => 1 < (formats py (b.2.get "formats")).length) +
      (l.countP fun b => formats py (b.2.get "formats") = []) ≤ l.length := by
  induction l with
  | nil => exact Nat.le_refl _
  | cons b l ih =>
    rw [List.countP_cons, List.countP_cons, List.length_cons]
    cases formats py (b.2.get "formats") with
    | nil => simp; omega
    | cons name names =>
      simp only [List.length_cons, reduceCtorEq, decide_false]
      split <;> simp <;> omega

theorem nodup_normalizedLanguages (raw : Json) : (normalizedLanguages py raw).Nodup :=
  (List.perm_insertionSort _ _).nodup_iff.mpr (List.nodup_dedup _)

/-- A language is counted once for each record that has it. -/
theorem count_languages (l : List (ℤ × Dict)) (language : String) :
    (l.flatMap fun b => normalizedLanguages py (b.2.get "languages")).count language =
      l.countP fun b => language ∈ normalizedLanguages py (b.2.get "languages") := by
  induction l with
  | nil => rfl
  | cons b l ih =>
    rw [List.flatMap_cons, List.count_append, ih, List.countP_cons]
    have hone : (normalizedLanguages py (b.2.get "languages")).count language =
        if language ∈ normalizedLanguages py (b.2.get "languages") then 1 else 0 :=
      (nodup_normalizedLanguages _).count
    rw [hone, Nat.add_comm]
    simp

theorem sortedItems_perm (counts : List (String × ℕ)) : (sortedItems counts).Perm counts :=
  List.perm_insertionSort _ _

theorem countP_inOrder (books : List Dict) (p : Dict → Bool) :
    (inOrder books).countP (fun b => p b.2) = books.countP p := by
  rw [(inOrder_perm books).countP_eq, withIds, List.countP_map]
  rfl

theorem mem_instants {books : List Dict} {t : ℤ} :
    t ∈ ((inOrder books).filterMap fun b => instant? dt (b.2.get "last_modified")) ↔
      ∃ book ∈ books, instant? dt (book.get "last_modified") = some t := by
  rw [List.mem_filterMap]
  constructor
  · rintro ⟨b, hb, ht⟩
    obtain ⟨book, hbook, rfl⟩ := List.mem_map.mp ((inOrder_perm books).mem_iff.mp hb)
    exact ⟨book, hbook, ht⟩
  · rintro ⟨book, hbook, ht⟩
    exact ⟨_, (inOrder_perm books).mem_iff.mpr (List.mem_map_of_mem hbook), ht⟩

/-- The report of the counters conserves the records. -/
theorem conserving_reportOf {books : List Dict}
    (hrange : ∀ book ∈ books, InRange dt (book.get "last_modified")) (fingerprint : String)
    (capturedAt : ℤ) :
    Conserving py dt books
      (reportOf py (Counters.of py dt (inOrder books)) (inOrder books).length fingerprint
        capturedAt) := by
  have hlength : (inOrder books).length = books.length := by
    rw [(inOrder_perm books).length_eq]
    exact List.length_map _
  have hrange' : ∀ b ∈ inOrder books, InRange dt (b.2.get "last_modified") := by
    intro b hb
    obtain ⟨book, hbook, rfl⟩ := List.mem_map.mp ((inOrder_perm books).mem_iff.mp hb)
    exact hrange book hbook
  constructor
  case length => exact hlength
  case totalFormats =>
    show ((inOrder books).flatMap fun b => formats py (b.2.get "formats")).length = _
    have hperm := (inOrder_perm books).flatMap_right fun b => formats py (b.2.get "formats")
    rw [hperm.length_eq, withIds, List.flatMap_map]
  case formats =>
    show Tally.total (sortedItems _) = _
    rw [Tally.total_perm (sortedItems_perm _)]
    show Tally.total (Tally.addAll [] _) = ((inOrder books).flatMap _).length
    rw [Tally.total_addAll, List.length_flatMap, List.length_flatMap]
    simp [Tally.total]
  case isbn => exact length_eq_of_isbnStates (inOrder books)
  case missing =>
    exact countP_inOrder books fun book => modifiedState dt (book.get "last_modified") = some .missing
  case invalid =>
    exact countP_inOrder books fun book => modifiedState dt (book.get "last_modified") = some .invalid
  case minimum =>
    intro t
    show ((inOrder books).filterMap _).min? = some t ↔ _
    rw [List.min?_eq_some_iff, mem_instants]
    refine and_congr Iff.rfl ⟨fun h t' ht' => h t' (mem_instants.mpr ht'), fun h t' ht' => ?_⟩
    exact h (mem_instants.mp ht')
  case maximum =>
    intro t
    show ((inOrder books).filterMap _).max? = some t ↔ _
    rw [List.max?_eq_some_iff, mem_instants]
    refine and_congr Iff.rfl ⟨fun h t' ht' => h t' (mem_instants.mpr ht'), fun h t' ht' => ?_⟩
    exact h (mem_instants.mp ht')
  case modified =>
    have hstates := length_eq_of_states hrange'
    have hinstants := ((inOrder_perm books).filterMap fun b : ℤ × Dict =>
      instant? dt (b.2.get "last_modified")).length_eq
    rw [withIds, List.filterMap_map] at hinstants
    rw [hlength, hinstants] at hstates
    exact hstates
  case languages =>
    intro language n hmem
    have hmem' : (language, n) ∈ (Counters.of py dt (inOrder books)).languageCounts :=
      (sortedItems_perm _).mem_iff.mp hmem
    have hget : Assoc.get? language (Counters.of py dt (inOrder books)).languageCounts = some n :=
      Assoc.get?_of_mem (@Tally.nodup_keys_addAll _ _ [] List.nodup_nil _) hmem'
    have hcount := Tally.getD_addAll []
      ((inOrder books).flatMap fun b => normalizedLanguages py (b.2.get "languages")) language
    rw [count_languages, countP_inOrder books fun book =>
      language ∈ normalizedLanguages py (book.get "languages")] at hcount
    have hn : n = 0 + _ := (congrArg (Option.getD · 0) hget).symm.trans hcount
    rw [hn, Nat.zero_add]
  case multiFormat =>
    show (Counters.of py dt (inOrder books)).multiFormat + (Counters.of py dt (inOrder books)).noFormat
      ≤ (inOrder books).length
    exact multi_add_none_le (inOrder books)

/-- Aggregation is total and conserving exactly when the fingerprint is one, the ids have a text,
and no time stamp leaves the range of dates in UTC. -/
theorem totalAndConserving_iff (py : Runtime) (dt : Datetimes)
    (hsha : ∀ s, isSha256 (py.lower (py.sha256 s)) = true) (books : List Dict)
    (hids : DistinctIds books) (sourceFingerprint : String) (capturedAt : ℤ) :
    TotalAndConserving py dt books sourceFingerprint capturedAt ↔
      Aggregatable py dt books sourceFingerprint := by
  constructor
  · rintro ⟨report, -, h⟩
    exact aggregatable_of_eq_ok hids (h books (List.Perm.refl _))
  · intro h
    refine ⟨_, conserving_reportOf h.inRange sourceFingerprint capturedAt, ?_⟩
    intro books' hperm
    have hids' : DistinctIds books' :=
      ⟨fun b hb => hids.pos b (hperm.mem_iff.mp hb), (hperm.map _).nodup_iff.mpr hids.nodup⟩
    have h' : Aggregatable py dt books' sourceFingerprint :=
      ⟨h.fingerprint, fun b hb => h.digits b (hperm.mem_iff.mp hb),
        fun b hb => h.inRange b (hperm.mem_iff.mp hb)⟩
    rw [aggregateInventory_of_aggregatable hsha hids' h', inOrder_eq_of_perm hids hperm]

/-! ### The first hour -/

/-- The first hour of the year 1, east of Greenwich; no other text of the examples has a date. -/
def Datetimes.firstHour : Datetimes where
  fromisoformat s := if s = "0001-01-01T00:00:00+01:00" then some (0, some 3600000000) else none
  isoformat _ := "0001-01-01T00:00:00+00:00"

/-- The SHA-256 of the manifest of one book. -/
def manifestHash : String := "55c9d7c3a4b47d4a7d8cea15abe21249b4627039ca50c1f2df17ca6fd2d5214e"

/-- The ASCII runtime, on the manifest of one book. -/
def oneBookRuntime : Runtime := { Runtime.ascii with sha256 := fun _ => manifestHash }

/-- A book with one format. -/
def oneBook (lastModified : Json) : Dict :=
  [("id", .int 7), ("title", .str "Dune"), ("formats", .strs ["EPUB"]), ("last_modified", lastModified)]

/-- The fingerprint of a source. -/
def sourceFingerprint : String := "aaaaaaaaaaaaaaaaaaaaaaaaaaaaaaaaaaaaaaaaaaaaaaaaaaaaaaaaaaaaaaaa"

theorem distinctIds_oneBook (lastModified : Json) : DistinctIds [oneBook lastModified] :=
  ⟨fun book hbook => by
    rw [List.mem_singleton.mp hbook]
    show (0 : ℤ) < 7
    decide, List.nodup_singleton _⟩

theorem totalAndConserving_oneBook :
    TotalAndConserving oneBookRuntime .firstHour [oneBook .null] sourceFingerprint 0 := by
  have hhash : isSha256 (oneBookRuntime.lower manifestHash) = true := by decide
  refine (totalAndConserving_iff oneBookRuntime .firstHour (fun _ => hhash) _
    (distinctIds_oneBook .null) sourceFingerprint 0).mpr ⟨by decide, ?_, ?_⟩
  · intro book hbook
    rw [List.mem_singleton.mp hbook]
    decide
  · intro book hbook s localTime offset hs
    rw [List.mem_singleton.mp hbook] at hs
    cases hs

/-- The start of the year 1 in a zone one hour ahead of UTC, where the year has not begun. -/
theorem first_hour_overflows :
    ¬TotalAndConserving oneBookRuntime .firstHour [oneBook (.str "0001-01-01T00:00:00+01:00")]
      sourceFingerprint 0 := by
  rintro ⟨report, -, h⟩
  have hraises : aggregateInventory oneBookRuntime .firstHour
      [oneBook (.str "0001-01-01T00:00:00+01:00")] sourceFingerprint 0 =
        .error ⟨.other, "date value out of range"⟩ := by decide
  have hreport := h _ (List.Perm.refl _)
  rw [hraises] at hreport
  cases hreport

end Bookwarden.ContentServer
