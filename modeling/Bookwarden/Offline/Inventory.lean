import Bookwarden.Offline.Loading

/-!
# The inventory of a library at rest

`_load_inventory` takes all books or none: every text column of every book goes through
`_single_text`, and one that it refuses ends the inventory. It refuses control characters, line breaks
among them, so a comment of two lines is enough.

## Main definitions

* `IsRecord` — the columns of a row, and the linked rows in link order
* `OfflineCalibreSource.Complete` — one record for each book, and references that lead back to the
  formats

## Main results

* `OfflineCalibreSource.validateSchema_of_stocked` — the schema is accepted
* `OfflineCalibreSource.inventory_complete_iff` — the inventory is taken and complete, exactly when
  every book is legible
-/

namespace Bookwarden

section Records

variable {py : Runtime} {mount : Mount} {libraryPath : String} {db : CalibreDb}

/-! ### Records -/

/-- The record has the columns of the row, and the linked rows in link order. -/
structure IsRecord (py : Runtime) (libraryPath : String) (db : CalibreDb) (row : BooksRow)
    (record : Dict) : Prop where
  id : Dict.get record "id" = .int row.id
  title : Dict.get record "title" = .optStr row.title.shown
  authors : ∃ rows, db.authors.Linked linkBefore row.id rows ∧
    Dict.get record "authors" = .strs (rows.map fun r => r.name.orEmpty)
  authorSort : Dict.get record "author_sort" = .optStr row.authorSort.shown
  publisher : ∃ rows, db.publishers.Linked linkBefore row.id rows ∧
    Dict.get record "publisher" = .optStr (rows.head?.bind fun r => r.name.shown)
  pubdate : Dict.get record "pubdate" = .optStr row.pubdate.shown
  series : ∃ rows, db.series.Linked linkBefore row.id rows ∧
    Dict.get record "series" = .optStr (rows.head?.bind fun r => r.name.shown)
  seriesIndex : ∃ q, row.seriesIndex = some q ∧ Dict.get record "series_index" = .float q
  identifiers : ∃ rows : List IdentifierRow,
    rows.Perm (db.identifiers.filter fun r => r.book = row.id) ∧
    Dict.get record "identifiers" = .strDict (rows.map fun r => (r.kind py, r.val.orEmpty))
  languages : ∃ rows, db.languages.Linked itemBefore row.id rows ∧
    Dict.get record "languages" = .strs (rows.map fun r => r.name.orEmpty)
  tags : ∃ rows, db.tags.Linked linkBefore row.id rows ∧
    Dict.get record "tags" = .strs (rows.map fun r => r.name.orEmpty)
  comments : ∃ rows : List CommentRow, rows.Perm (db.comments.filter fun r => r.book = row.id) ∧
    Dict.get record "comments" = .optStr (rows.head?.bind fun r => r.text.shown)
  formats : ∃ parts rows, safeRelativePath row.path "book path" = .ok parts ∧
    List.Perm rows (db.data.filter fun r => r.book = row.id) ∧
    Dict.get record "formats"
      = .strs (rows.map fun r => beneath libraryPath (posixParts (r.relative py parts)))
  cover : ∃ parts, safeRelativePath row.path "book path" = .ok parts ∧
    Dict.get record "cover" = .optStr
      (if row.hasCover then some (beneath libraryPath (parts ++ ["cover.jpg"])) else none)
  timestamp : Dict.get record "timestamp" = .optStr row.timestamp.shown
  uuid : Dict.get record "uuid" = .optStr row.uuid.shown
  lastModified : Dict.get record "last_modified" = .optStr row.lastModified.shown

theorem isRecord_of_bookOf (hdb : db.Stocked py mount) {row : BooksRow} {book : FrozenBook}
    (h : BookOf py libraryPath db row book) : IsRecord py libraryPath db row book.metadata := by
  obtain ⟨parts, q, hpath, hindex, hformats, hmetadata⟩ := h.exists_parts
  obtain ⟨authors, hauthors, hauthorNames⟩ := names_byLinkId hdb.authors row.id
  obtain ⟨publishers, hpublishers, hpublisherNames⟩ := names_byLinkId hdb.publishers row.id
  obtain ⟨series, hseries, hseriesNames⟩ := names_byLinkId hdb.series row.id
  obtain ⟨languages, hlanguages, hlanguageNames⟩ := names_byItemOrder hdb.languages row.id
  obtain ⟨tags, htags, htagNames⟩ := names_byLinkId hdb.tags row.id
  have hpaths : book.formats.map (fun f => beneath libraryPath (posixParts f.relativePath))
      = (db.dataOf row.id).map fun r => beneath libraryPath (posixParts (r.relative py parts)) := by
    have hsecond := congrArg (List.map fun p => beneath libraryPath (posixParts p.2)) hformats
    rwa [List.map_map, List.map_map] at hsecond
  rw [hmetadata]
  exact {
    id := rfl
    title := rfl
    authors := ⟨authors, hauthors, by
      show Json.strs ((db.authors.names byLinkId row.id).map Cell.orEmpty) = _
      rw [hauthorNames, List.map_map]
      rfl⟩
    authorSort := rfl
    publisher := ⟨publishers, hpublishers, by
      show Json.optStr ((db.publishers.names byLinkId row.id).head?.bind Cell.shown) = _
      rw [hpublisherNames, List.head?_map, Option.bind_map]
      rfl⟩
    pubdate := rfl
    series := ⟨series, hseries, by
      show Json.optStr ((db.series.names byLinkId row.id).head?.bind Cell.shown) = _
      rw [hseriesNames, List.head?_map, Option.bind_map]
      rfl⟩
    seriesIndex := ⟨q, hindex, rfl⟩
    identifiers := ⟨_, perm_identifiersOf db row.id, rfl⟩
    languages := ⟨languages, hlanguages, by
      show Json.strs ((db.languages.names byItemOrder row.id).map Cell.orEmpty) = _
      rw [hlanguageNames, List.map_map]
      rfl⟩
    tags := ⟨tags, htags, by
      show Json.strs ((db.tags.names byLinkId row.id).map Cell.orEmpty) = _
      rw [htagNames, List.map_map]
      rfl⟩
    comments := ⟨_, perm_orderBy CommentRow.id _, by
      show Json.optStr ((db.commentsOf row.id).head?.bind Cell.shown) = _
      rw [CalibreDb.commentsOf, List.head?_map, Option.bind_map]
      rfl⟩
    formats := ⟨parts, _, hpath, perm_dataOf db row.id, by
      show Json.strs (book.formats.map _) = _
      rw [hpaths]⟩
    cover := ⟨parts, hpath, rfl⟩
    timestamp := rfl
    uuid := rfl
    lastModified := rfl }

end Records

namespace OfflineCalibreSource

variable {py : Runtime} {mount : Mount} {libraryPath : String} {db : CalibreDb}
  {source : OfflineCalibreSource}

/-! ### References -/

theorem startsWith_append (p s : String) : startsWith (p ++ s) p = true := by
  rw [startsWith, String.toList_append, List.isPrefixOf_iff_prefix]
  exact List.prefix_append _ _

theorem removePrefix_append (p s : String) : (removePrefix (p ++ s) p).toList = s.toList := by
  rw [removePrefix, if_pos (startsWith_append p s), String.toList_ofList, String.toList_append,
    List.drop_left]

/-- The reference of a format leads back to it. -/
theorem formatFromReference_reference {bookId : ℤ} (hpositive : 0 < bookId) {format : String}
    (hformat : isFormat format = true)
    (hmem : format ∈ (source.formatsOf bookId).map (·.format)) :
    source.formatFromReference (source.referencePrefix ++ toString bookId ++ ":" ++ format)
      = .ok format := by
  obtain ⟨n, rfl⟩ := Int.eq_ofNat_of_zero_le (Int.le_of_lt hpositive)
  have hdigits : (toString (n : ℤ)).toList = Nat.toDigits 10 n := by
    rw [toList_toString_int, if_neg (by omega)]
    rfl
  have hall : ∀ c ∈ Nat.toDigits 10 n, c.isDigit = true := fun c hc =>
    Nat.isDigit_of_mem_toDigits (by decide) (by decide) hc
  have hremainder : (removePrefix (source.referencePrefix ++ toString (n : ℤ) ++ ":" ++ format)
      source.referencePrefix).toList = Nat.toDigits 10 n ++ ':' :: format.toList := by
    rw [String.append_assoc, String.append_assoc, removePrefix_append, String.toList_append, hdigits,
      String.toList_append]
    rfl
  have hid : (Nat.toDigits 10 n ++ ':' :: format.toList).takeWhile (· ≠ ':')
      = Nat.toDigits 10 n := by
    rw [List.takeWhile_append_of_pos, List.takeWhile_cons_of_neg (by decide), List.append_nil]
    intro c hc
    have hdigit := hall c hc
    refine decide_eq_true fun heq => ?_
    rw [heq] at hdigit
    cases hdigit
  have hrest : String.ofList ((Nat.toDigits 10 n ++ ':' :: format.toList).drop
      ((Nat.toDigits 10 n).length + 1)) = format := by
    rw [List.drop_append, List.drop_eq_nil_of_le (Nat.le_succ _), List.nil_append,
      Nat.add_sub_cancel_left]
    exact String.ofList_toList
  have hisDigits : isDigits (Nat.toDigits 10 n) = true := by
    rw [isDigits, List.all_eq_true.mpr hall, Bool.and_true, Bool.not_eq_true',
      List.isEmpty_eq_false_iff]
    exact Nat.toDigits_ne_nil
  have hstarts : startsWith (source.referencePrefix ++ toString (n : ℤ) ++ ":" ++ format)
      source.referencePrefix = true := by
    rw [String.append_assoc, String.append_assoc]
    exact startsWith_append _ _
  have hcontains : ((source.formatsOf n).map (·.format)).contains format = true :=
    List.contains_iff_mem.mpr hmem
  rw [formatFromReference, if_neg (by rw [hstarts]; decide)]
  dsimp only
  rw [hremainder, hid, hrest, hisDigits, hformat, Nat.ofDigitChars_ten_toDigits, hcontains]
  rfl

/-! ### Completeness -/

/-- One record for each row of `books`, in the order of the ids, and for each book references that
lead back to its formats. -/
structure Complete (py : Runtime) (libraryPath : String) (db : CalibreDb)
    (source : OfflineCalibreSource) : Prop where
  records : ∃ rows : List BooksRow, rows.Perm db.books ∧ rows.Pairwise (fun a b => a.id < b.id) ∧
    List.Forall₂ (IsRecord py libraryPath db) rows source.listBooks
  references : ∀ row ∈ db.books, ∃ record dataRows references,
    source.showMetadata row.id = .ok record ∧ IsRecord py libraryPath db row record ∧
    List.Perm dataRows (db.data.filter fun r => r.book = row.id) ∧
    source.formatReferences row.id (Dict.get record "formats") = .ok references ∧
    List.Forall₂ (fun (r : DataRow) reference =>
      source.formatFromReference reference = .ok (r.canonical py)) dataRows references

theorem exists_of_forall₂ {α β : Type} {R : α → β → Prop} {l : List α} {m : List β}
    (h : List.Forall₂ R l m) {a : α} (ha : a ∈ l) : ∃ b ∈ m, R a b := by
  induction h with
  | nil => cases ha
  | cons hab _ ih =>
    rcases List.mem_cons.mp ha with rfl | ha
    · exact ⟨_, List.mem_cons_self, hab⟩
    · obtain ⟨b, hb, hR⟩ := ih ha
      exact ⟨b, List.mem_cons_of_mem _ hb, hR⟩

theorem forall₂_of_map_eq {α β γ : Type} {f : α → γ} {g : β → γ} {l : List α} {m : List β}
    (h : l.map f = m.map g) : List.Forall₂ (fun b a => f a = g b) m l := by
  induction l generalizing m with
  | nil =>
    rw [List.map_eq_nil_iff.mp h.symm]
    exact .nil
  | cons a l ih =>
    obtain ⟨b, m, rfl, hb, hm⟩ := List.map_eq_cons_iff.mp h.symm
    exact .cons hb.symm (ih hm.symm)

theorem map_bookId_of_forall₂ {rows : List BooksRow} {books : List FrozenBook}
    (h : List.Forall₂ (BookOf py libraryPath db) rows books) :
    books.map (·.bookId) = rows.map (·.id) := by
  induction h with
  | nil => rfl
  | cons hbook _ ih => rw [List.map_cons, List.map_cons, hbook.bookId, ih]

/-- A list in strict order, from a list in order without repetitions. -/
theorem pairwise_lt_of_nodup {rows : List BooksRow} (h : rows.Pairwise fun a b => a.id ≤ b.id)
    (hnodup : (rows.map (·.id)).Nodup) : rows.Pairwise fun a b => a.id < b.id := by
  rw [List.Nodup, List.pairwise_map] at hnodup
  refine (h.and hnodup).imp fun ⟨hle, hne⟩ => ?_
  omega

theorem book?_eq_some {book : FrozenBook} (hnodup : (source.books.map (·.bookId)).Nodup)
    (hbook : book ∈ source.books) : source.book? book.bookId = some book := by
  rw [book?]
  cases hfind : source.books.find? fun b => b.bookId = book.bookId with
  | none =>
    have hnone := List.find?_eq_none.mp hfind book hbook
    exact absurd (decide_eq_true rfl) hnone
  | some b =>
    have hid : b.bookId = book.bookId := by simpa using List.find?_some hfind
    rw [List.inj_on_of_nodup_map hnodup (List.mem_of_find?_eq_some hfind) hbook hid]

/-- An inventory with one frozen book for each row is complete. -/
theorem complete_of_forall₂ (hdb : db.Stocked py mount)
    (h : List.Forall₂ (BookOf py libraryPath db) (orderBy (·.id) db.books) source.books) :
    source.Complete py libraryPath db := by
  have hperm : (orderBy (·.id) db.books).Perm db.books := perm_orderBy BooksRow.id db.books
  have hordered : (orderBy (·.id) db.books).Pairwise fun a b => a.id ≤ b.id :=
    pairwise_orderBy BooksRow.id db.books
  have hnodup : ((orderBy (·.id) db.books).map (·.id)).Nodup :=
    (hperm.map _).nodup_iff.mpr hdb.unique
  have hids := map_bookId_of_forall₂ h
  have hsorted : orderBy FrozenBook.bookId source.books = source.books := by
    have hpairwise : source.books.Pairwise fun a b => a.bookId ≤ b.bookId := by
      have hmap : (source.books.map (·.bookId)).Pairwise (· ≤ ·) := by
        rw [hids]
        exact List.pairwise_map.mpr hordered
      exact List.pairwise_map.mp hmap
    exact List.Pairwise.insertionSort_eq hpairwise
  constructor
  · refine ⟨_, hperm, pairwise_lt_of_nodup hordered hnodup, ?_⟩
    rw [listBooks, hsorted, List.forall₂_map_right_iff]
    exact h.imp fun row book hbook => isRecord_of_bookOf hdb hbook
  · intro row hrow
    obtain ⟨book, hmem, hbook⟩ := exists_of_forall₂ h (hperm.mem_iff.mpr hrow)
    have hfind : source.book? row.id = some book := by
      rw [← hbook.bookId]
      exact book?_eq_some (hids ▸ hnodup) hmem
    have hshow : source.showMetadata row.id = .ok book.metadata := by
      rw [showMetadata, hfind]
    have hformatsOf : source.formatsOf row.id = book.formats := by
      rw [formatsOf, hfind]
      rfl
    obtain ⟨parts, q, -, -, hformats, -⟩ := hbook.exists_parts
    refine ⟨book.metadata, db.dataOf row.id, book.formats.map fun f =>
      source.referencePrefix ++ toString row.id ++ ":" ++ f.format, hshow,
      isRecord_of_bookOf hdb hbook, perm_dataOf db row.id, ?_, ?_⟩
    · rw [formatReferences, hshow]
      show (if _ then _ else _) = _
      rw [Json.pyEq_refl, if_pos rfl, hformatsOf]
      rfl
    · rw [List.forall₂_map_right_iff]
      have hcanonical : book.formats.map (·.format) = (db.dataOf row.id).map (·.canonical py) := by
        have hfirst := congrArg (List.map Prod.fst) hformats
        rwa [List.map_map, List.map_map] at hfirst
      have hall := supported_of_stocked hdb hrow
      have hreference : ∀ r ∈ db.dataOf row.id,
          source.formatFromReference (source.referencePrefix ++ toString row.id ++ ":"
            ++ r.canonical py) = .ok (r.canonical py) := by
        intro r hr
        refine formatFromReference_reference (hdb.positive row hrow) (hall r hr).format ?_
        rw [hformatsOf, hcanonical]
        exact List.mem_map_of_mem hr
      have hpaired := (List.forall₂_and_left _ _).mpr ⟨hreference, forall₂_of_map_eq hcanonical⟩
      refine hpaired.imp fun r f h => ?_
      rw [h.2]
      exact h.1

/-- The schema of such a database is accepted. -/
theorem validateSchema_of_stocked (hdb : db.Stocked py mount) :
    ∃ signature, validateSchema py db = .ok signature := by
  have hversion : supportedSchemaMarkers.map Prod.fst |>.contains db.userVersion :=
    List.contains_iff_mem.mpr (List.mem_map_of_mem hdb.marker)
  have hmarker : supportedSchemaMarkers.contains (db.userVersion, db.applicationId) = true :=
    List.contains_iff_mem.mpr hdb.marker
  have htables : (requiredColumns.all fun required =>
      (Assoc.get? required.1 db.columns).isSome) = true := by
    refine List.all_eq_true.mpr fun required hrequired => ?_
    obtain ⟨columns, hcolumns, -⟩ := hdb.tables required hrequired
    rw [hcolumns]
    rfl
  have hcheck : ∀ required ∈ requiredColumns, ∃ entry, checkTable db required = .ok entry := by
    intro required hrequired
    obtain ⟨columns, hcolumns, hall⟩ := hdb.tables required hrequired
    refine ⟨(required.1, .strs (sorted (distinct columns))), ?_⟩
    rw [checkTable, hcolumns]
    refine if_pos (List.all_eq_true.mpr fun column hcolumn => ?_)
    exact decide_eq_true (hall column hcolumn)
  have hsignature : ∀ tables : List (String × List String),
      (∀ required ∈ tables, ∃ entry, checkTable db required = .ok entry) →
      ∃ signature, tables.mapM (checkTable db) = .ok signature := by
    intro tables
    induction tables with
    | nil => exact fun _ => ⟨[], rfl⟩
    | cons required tables ih =>
      intro h
      obtain ⟨entry, hentry⟩ := h required List.mem_cons_self
      obtain ⟨rest, hrest⟩ := ih fun r hr => h r (List.mem_cons_of_mem _ hr)
      refine ⟨entry :: rest, ?_⟩
      rw [List.mapM_cons, hentry, hrest]
      rfl
  obtain ⟨signature, hsignature⟩ := hsignature requiredColumns hcheck
  refine ⟨hashJson py (.obj signature), ?_⟩
  rw [validateSchema, if_neg (by rw [hversion]; decide), if_neg (by rw [hmarker]; decide),
    if_neg (by rw [htables]; decide), hsignature]
  rfl

/-- **The inventory.** Of a database and a library as Calibre leaves them, the inventory is taken and
complete, exactly when every book is legible. -/
theorem inventory_complete_iff (hdb : db.Stocked py mount) (libraryPath : String) (tick : ℕ) :
    (∃ books tick', loadInventory py mount libraryPath db tick = .ok (books, tick') ∧
      ∀ source : OfflineCalibreSource, source.books = books →
        source.Complete py libraryPath db) ↔
      ∀ row ∈ db.books, db.Legible py row := by
  have hperm : (orderBy (·.id) db.books).Perm db.books := perm_orderBy BooksRow.id db.books
  have hrows : ∀ row ∈ orderBy (·.id) db.books, row ∈ db.books := fun row => hperm.mem_iff.mp
  constructor
  · rintro ⟨books, tick', hload, -⟩ row hrow
    exact (loadRows_eq_ok hdb hrows hload).1 row (hperm.mem_iff.mpr hrow)
  · intro hlegible
    have hloaded : ∃ books tick', loadInventory py mount libraryPath db tick = .ok (books, tick') :=
      loadRows_of_legible hdb hrows (fun row hrow => hlegible row (hrows row hrow))
        ((hperm.map _).nodup_iff.mpr hdb.unique) (fun row hrow => List.not_mem_nil) tick
    obtain ⟨books, tick', hload⟩ := hloaded
    obtain ⟨-, new, rfl, hnew⟩ := loadRows_eq_ok hdb hrows hload
    refine ⟨_, tick', hload, fun source hsource => complete_of_forall₂ hdb ?_⟩
    rw [hsource]
    exact hnew

theorem ctime_le_clock (_ : FileId) : (4 : ℕ) ≤ 4 := Nat.le_refl 4

/-- A shelf of one EPUB that nobody changes. -/
def shelfMount : Mount where
  library :=
    { start :=
        { entry := fun path =>
            if path = metadataDb then .file ⟨1, 2⟩
            else if path = ["Author", "Book", "Book.epub"] then .file ⟨1, 3⟩ else .absent
          inode := fun _ => ⟨[7], 3, 4⟩
          clock := 4
          ctime_le := ctime_le_clock }
      changes := fun _ => [] }
  patience := 2
  sha256 := fun _ => "digest"

/-- The database of the shelf, with this comment on its book. -/
def shelfDb (comment : String) : CalibreDb where
  applicationId := calibreApplicationId
  userVersion := 27
  columns := requiredColumns
  books := [⟨5, .text "Book", .null, .null, some 1, .text "Author", .text "Author/Book", .null, false,
    .null⟩]
  authors := ⟨[⟨3, .text "Author"⟩], [⟨8, 5, 3, 0⟩]⟩
  comments := [⟨1, 5, .text comment⟩]
  data := [⟨2, 5, .text "EPUB", .text "Book"⟩]

theorem shelfDb_stocked (comment : String) : (shelfDb comment).Stocked .ascii shelfMount where
  marker := by show ((27 : ℤ), calibreApplicationId) ∈ supportedSchemaMarkers; decide
  tables := by
    have htables : ∀ required ∈ requiredColumns,
        Assoc.get? required.1 requiredColumns = some required.2 := by decide +kernel
    exact fun required hrequired => ⟨required.2, htables required hrequired, fun _ h => h⟩
  positive := by
    intro row hrow
    rw [List.mem_singleton.mp hrow]
    decide
  unique := List.nodup_singleton _
  paths := by
    intro row hrow
    rw [List.mem_singleton.mp hrow]
    exact ⟨["Author", "Book"], by rfl⟩
  indices := by
    intro row hrow
    rw [List.mem_singleton.mp hrow]
    exact ⟨1, rfl⟩
  authors := ⟨List.nodup_singleton _, by
    intro link hlink
    rw [List.mem_singleton.mp hlink]
    exact ⟨_, List.mem_cons_self, rfl⟩⟩
  publishers := ⟨List.nodup_nil, fun link hlink => absurd hlink List.not_mem_nil⟩
  series := ⟨List.nodup_nil, fun link hlink => absurd hlink List.not_mem_nil⟩
  languages := ⟨List.nodup_nil, fun link hlink => absurd hlink List.not_mem_nil⟩
  tags := ⟨List.nodup_nil, fun link hlink => absurd hlink List.not_mem_nil⟩
  onePublisher := fun row _ => Nat.zero_le 1
  oneSeries := fun row _ => Nat.zero_le 1
  oneComment := fun row _ => List.length_filter_le _ [_]
  supported := by
    intro row _ r hr _
    rw [List.mem_singleton.mp hr]
    exact ⟨by decide +kernel, by decide +kernel⟩
  still := fun _ => rfl
  readable := by
    intro row hrow parts hparts r hr _
    rw [List.mem_singleton.mp hrow] at hparts
    have hknown : safeRelativePath (.text "Author/Book") "book path" = .ok ["Author", "Book"] := by
      rfl
    have hsame : ["Author", "Book"] = parts := Except.ok.inj (hknown.symm.trans hparts)
    rw [List.mem_singleton.mp hr, ← hsame]
    have hpath : posixParts (DataRow.relative .ascii ["Author", "Book"]
        ⟨2, 5, .text "EPUB", .text "Book"⟩) = ["Author", "Book", "Book.epub"] := by decide +kernel
    rw [hpath]
    exact ⟨⟨1, 3⟩, by decide, by decide, by decide⟩

/-- With a comment of one line, the shelf has a complete inventory. -/
theorem shelf_inventory_complete :
    ∃ books tick', loadInventory .ascii shelfMount "/library" (shelfDb "One line") 0
        = .ok (books, tick') ∧
      ∀ source : OfflineCalibreSource, source.books = books →
        source.Complete .ascii "/library" (shelfDb "One line") :=
  (inventory_complete_iff (shelfDb_stocked "One line") "/library" 0).mpr fun row hrow => by
    rw [List.mem_singleton.mp hrow]
    exact {
      title := by decide
      authorSort := by decide
      pubdate := by decide
      timestamp := by decide
      uuid := by decide
      lastModified := by decide
      authors := by decide
      publishers := by decide
      series := by decide
      languages := by decide
      tags := by decide
      comments := by decide
      formats := by decide
      formatsDistinct := by decide
      identifiers := by decide
      typesDistinct := by decide }

/-- A comment of two lines ends the inventory of the library. -/
theorem two_line_comment_refused :
    (shelfDb "First line\nSecond line").Stocked .ascii shelfMount ∧
      ¬ ∃ books tick', loadInventory .ascii shelfMount "/library"
        (shelfDb "First line\nSecond line") 0 = .ok (books, tick') := by
  refine ⟨shelfDb_stocked _, ?_⟩
  rintro ⟨books, tick', h⟩
  have hrefused : (loadInventory .ascii shelfMount "/library"
      (shelfDb "First line\nSecond line") 0).toOption.isNone = true := by decide +kernel
  rw [h] at hrefused
  cases hrefused

end OfflineCalibreSource

end Bookwarden
