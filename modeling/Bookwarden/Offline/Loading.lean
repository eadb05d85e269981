import Bookwarden.CanonicalJson
import Bookwarden.Offline.Integrity

/-!
# Taking the inventory

What `_load_inventory` takes, and what it makes of it, for a database and a library as Calibre leaves
them. Each loader has one lemma: it returns exactly when the text columns it reads get through
`_single_text`, and then it returns the linked rows.

## Main definitions

* `CalibreDb.Stocked` — a database and a library as Calibre leaves them
* `CalibreDb.Legible` — the text columns of a book get through `_single_text`
* `BookOf` — the frozen book of a row

## Main results

* `LinkedTable.names_eq_linked` — a join keeps the order of the links, and loses and doubles nothing
* `bookMetadata_eq_ok_iff`, `loadRows_eq_ok`, `loadRows_of_legible`
-/

namespace Bookwarden

/-! ### Text -/

/-- `_single_text` lets the value through. -/
def Cell.passes (cell : Cell) (allowEmpty : Bool) : Bool :=
  match cell with
  | .null => true
  | .other _ => false
  | .text s => (s.toList.all fun c => 32 ≤ c.toNat) && (allowEmpty || s ≠ "")

/-- `… or ""`. -/
def Cell.orEmpty (cell : Cell) : String := cell.shown.getD ""

theorem singleText_eq_ok_iff {cell : Cell} {field : String} {allowEmpty : Bool} {r : Option String} :
    singleText cell field allowEmpty = .ok r ↔ cell.passes allowEmpty = true ∧ r = cell.shown := by
  cases cell with
  | null =>
    show Except.ok none = Except.ok r ↔ true = true ∧ r = none
    simp [eq_comm]
  | other shown => exact iff_of_false (fun h => by cases h) fun h => by cases h.1
  | text s =>
    have hcontrol : (s.toList.any fun c => decide (c.toNat < 32))
        = !(s.toList.all fun c => decide (32 ≤ c.toNat)) := by
      rw [List.not_all_eq_any_not]
      congr 1
      funext c
      by_cases h : c.toNat < 32
      · simp [h]
      · simp [h, Nat.le_of_not_lt h]
    rw [singleText, hcontrol, Cell.passes]
    cases s.toList.all fun c => decide (32 ≤ c.toNat) with
    | false => simp
    | true =>
      by_cases hempty : s = ""
      · cases allowEmpty <;> simp [hempty, Cell.shown, eq_comm]
      · simp [hempty, Cell.shown, eq_comm]

theorem requiredText_eq_ok_iff {cell : Cell} {field : String} {s : String} :
    requiredText cell field = .ok s ↔ cell.passes false = true ∧ s = cell.orEmpty := by
  rw [requiredText]
  constructor
  · intro h
    obtain ⟨text, htext, h⟩ := Except.exists_of_bind_eq_ok h
    obtain ⟨hpasses, rfl⟩ := singleText_eq_ok_iff.mp htext
    cases h
    exact ⟨hpasses, rfl⟩
  · rintro ⟨hpasses, rfl⟩
    rw [singleText_eq_ok_iff.mpr ⟨hpasses, rfl⟩]
    rfl

theorem manyNames_eq_ok_iff {field : String} {cells : List Cell} {names : List String} :
    manyNames field cells = .ok names ↔
      (∀ cell ∈ cells, cell.passes false = true) ∧ names = cells.map Cell.orEmpty := by
  rw [manyNames]
  induction cells generalizing names with
  | nil =>
    exact ⟨fun h => ⟨fun cell hcell => absurd hcell List.not_mem_nil, (Except.ok.inj h).symm⟩,
      fun h => congrArg Except.ok h.2.symm⟩
  | cons cell cells ih =>
    rw [List.mapM_cons, List.forall_mem_cons, List.map_cons]
    constructor
    · intro h
      obtain ⟨name, hname, h⟩ := Except.exists_of_bind_eq_ok h
      obtain ⟨rest, hrest, h⟩ := Except.exists_of_bind_eq_ok h
      obtain ⟨hpasses, rfl⟩ := requiredText_eq_ok_iff.mp hname
      obtain ⟨hall, rfl⟩ := ih.mp hrest
      cases h
      exact ⟨⟨hpasses, hall⟩, rfl⟩
    · rintro ⟨⟨hpasses, hall⟩, rfl⟩
      rw [requiredText_eq_ok_iff.mpr ⟨hpasses, rfl⟩, ih.mpr ⟨hall, rfl⟩]
      rfl

theorem oneName_eq_ok_iff {field : String} {cells : List Cell} (hone : cells.length ≤ 1)
    {r : Option String} :
    oneName field cells = .ok r ↔
      (∀ cell ∈ cells, cell.passes false = true) ∧ r = cells.head?.bind Cell.shown := by
  rcases cells with _ | ⟨cell, _ | ⟨cell', cells⟩⟩
  · exact ⟨fun h => ⟨fun cell hcell => absurd hcell List.not_mem_nil, (Except.ok.inj h).symm⟩,
      fun h => congrArg Except.ok h.2.symm⟩
  · rw [oneName, singleText_eq_ok_iff]
    simp
  · simp at hone

/-! ### Joins -/

/-- A table with its links, as its keys and references make it. -/
structure LinkedTable.Sound (table : LinkedTable) : Prop where
  rows : (table.rows.map (·.id)).Nodup
  targets : ∀ link ∈ table.links, ∃ row ∈ table.rows, row.id = link.target

/-- The rows that a book is linked to, in the order of its links. -/
def LinkedTable.Linked (table : LinkedTable) (before : LinkRow → LinkRow → Prop) (bookId : ℤ)
    (rows : List NameRow) : Prop :=
  ∃ links : List LinkRow, links.Perm (table.links.filter fun link => link.book = bookId) ∧
    links.Pairwise before ∧
    List.Forall₂ (fun link row => row ∈ table.rows ∧ row.id = link.target) links rows

/-- The order of `link.id`. -/
def linkBefore (a b : LinkRow) : Prop := a.id ≤ b.id

/-- The order of `link.item_order, link.id`. -/
def itemBefore (a b : LinkRow) : Prop :=
  a.itemOrder < b.itemOrder ∨ a.itemOrder = b.itemOrder ∧ a.id ≤ b.id

theorem perm_orderBy {ρ : Type} (key : ρ → ℤ) (rows : List ρ) : (orderBy key rows).Perm rows :=
  List.perm_insertionSort _ rows

theorem pairwise_orderBy {ρ : Type} (key : ρ → ℤ) (rows : List ρ) :
    (orderBy key rows).Pairwise fun a b => key a ≤ key b := by
  have htotal : Std.Total fun a b : ρ => key a ≤ key b := ⟨fun a b => Int.le_total _ _⟩
  have htrans : IsTrans ρ fun a b => key a ≤ key b := ⟨fun a b c => Int.le_trans⟩
  exact List.pairwise_insertionSort _ rows

theorem pairwise_orderByTwo {ρ : Type} (key key' : ρ → ℤ) (rows : List ρ) :
    (orderByTwo key key' rows).Pairwise
      fun a b => key a < key b ∨ key a = key b ∧ key' a ≤ key' b := by
  have htotal : Std.Total fun a b : ρ => key a < key b ∨ key a = key b ∧ key' a ≤ key' b :=
    ⟨fun a b => by omega⟩
  have htrans : IsTrans ρ fun a b => key a < key b ∨ key a = key b ∧ key' a ≤ key' b :=
    ⟨fun a b c => by omega⟩
  exact List.pairwise_insertionSort _ rows

/-- The row with an id, when ids are not repeated. -/
theorem filter_id_eq {rows : List NameRow} (hnodup : (rows.map (·.id)).Nodup) {row : NameRow}
    (hrow : row ∈ rows) : rows.filter (fun r => r.id = row.id) = [row] := by
  induction rows with
  | nil => cases hrow
  | cons r rows ih =>
    rw [List.map_cons, List.nodup_cons] at hnodup
    rcases List.mem_cons.mp hrow with rfl | hrow
    · rw [List.filter_cons_of_pos (by simp), List.filter_eq_nil_iff.mpr]
      intro r' hr' hid
      exact hnodup.1 (of_decide_eq_true hid ▸ List.mem_map_of_mem hr')
    · have hne : r.id ≠ row.id := fun h => hnodup.1 (h ▸ List.mem_map_of_mem hrow)
      rw [List.filter_cons_of_neg (by simpa using hne), ih hnodup.2 hrow]

/-- A join keeps the order of the links, and gives each its row. -/
theorem flatMap_eq_linked {table : LinkedTable} (htable : table.Sound) {links : List LinkRow}
    (hlinks : ∀ link ∈ links, link ∈ table.links) :
    ∃ rows, List.Forall₂ (fun link row => row ∈ table.rows ∧ row.id = link.target) links rows ∧
      (links.flatMap fun link => (table.rows.filter fun row => row.id = link.target).map (·.name))
        = rows.map (·.name) := by
  induction links with
  | nil => exact ⟨[], .nil, rfl⟩
  | cons link links ih =>
    obtain ⟨rows, hrows, hnames⟩ := ih fun l hl => hlinks l (List.mem_cons_of_mem _ hl)
    obtain ⟨row, hrow, hid⟩ := htable.targets link (hlinks link List.mem_cons_self)
    refine ⟨row :: rows, .cons ⟨hrow, hid⟩ hrows, ?_⟩
    rw [List.flatMap_cons, hnames, ← hid, filter_id_eq htable.rows hrow]
    rfl

theorem LinkedTable.names_eq_linked {table : LinkedTable} (htable : table.Sound)
    {order : List LinkRow → List LinkRow} {before : LinkRow → LinkRow → Prop}
    (hperm : ∀ links, (order links).Perm links) (hpairwise : ∀ links, (order links).Pairwise before)
    (bookId : ℤ) :
    ∃ rows, table.Linked before bookId rows ∧ table.names order bookId = rows.map (·.name) := by
  have hmem : ∀ link ∈ order (table.links.filter fun link => link.book = bookId),
      link ∈ table.links := fun link hlink => List.mem_of_mem_filter ((hperm _).mem_iff.mp hlink)
  obtain ⟨rows, hrows, hnames⟩ := flatMap_eq_linked htable hmem
  exact ⟨rows, ⟨_, hperm _, hpairwise _, hrows⟩, hnames⟩

theorem names_byLinkId {table : LinkedTable} (htable : table.Sound) (bookId : ℤ) :
    ∃ rows, table.Linked linkBefore bookId rows ∧
      table.names byLinkId bookId = rows.map (·.name) :=
  LinkedTable.names_eq_linked htable (perm_orderBy _) (pairwise_orderBy _) bookId

theorem names_byItemOrder {table : LinkedTable} (htable : table.Sound) (bookId : ℤ) :
    ∃ rows, table.Linked itemBefore bookId rows ∧
      table.names byItemOrder bookId = rows.map (·.name) :=
  LinkedTable.names_eq_linked htable (List.perm_insertionSort _) (pairwise_orderByTwo _ _) bookId

/-- The names that a book is linked to. -/
theorem mem_names {table : LinkedTable} {order : List LinkRow → List LinkRow}
    (hperm : ∀ links, (order links).Perm links) {bookId : ℤ} {cell : Cell} :
    cell ∈ table.names order bookId ↔
      ∃ link ∈ table.links, link.book = bookId ∧
        ∃ row ∈ table.rows, row.id = link.target ∧ row.name = cell := by
  rw [LinkedTable.names, List.mem_flatMap]
  constructor
  · rintro ⟨link, hlink, hcell⟩
    obtain ⟨hmem, hbook⟩ := List.mem_filter.mp ((hperm _).mem_iff.mp hlink)
    obtain ⟨row, hrow, rfl⟩ := List.mem_map.mp hcell
    obtain ⟨hrow, hid⟩ := List.mem_filter.mp hrow
    exact ⟨link, hmem, of_decide_eq_true hbook, row, hrow, of_decide_eq_true hid, rfl⟩
  · rintro ⟨link, hmem, hbook, row, hrow, hid, rfl⟩
    refine ⟨link, (hperm _).mem_iff.mpr (List.mem_filter.mpr ⟨hmem, decide_eq_true hbook⟩), ?_⟩
    exact List.mem_map_of_mem (List.mem_filter.mpr ⟨hrow, decide_eq_true hid⟩)

/-- A book with at most one link has at most one linked name. -/
theorem length_names_le_one {table : LinkedTable} (htable : table.Sound)
    {order : List LinkRow → List LinkRow} (hperm : ∀ links, (order links).Perm links) {bookId : ℤ}
    (hone : (table.links.filter fun link => link.book = bookId).length ≤ 1) :
    (table.names order bookId).length ≤ 1 := by
  have hmem : ∀ link ∈ order (table.links.filter fun link => link.book = bookId),
      link ∈ table.links := fun link hlink => List.mem_of_mem_filter ((hperm _).mem_iff.mp hlink)
  obtain ⟨rows, hrows, hnames⟩ := flatMap_eq_linked htable hmem
  rw [LinkedTable.names, hnames, List.length_map, ← hrows.length_eq, (hperm _).length_eq]
  exact hone

/-! ### Formats and identifiers -/

section Loading

variable {py : Runtime} {mount : Mount} {libraryPath : String} {db : CalibreDb}

/-- The canonical format of a row of `data`. -/
def DataRow.canonical (py : Runtime) (row : DataRow) : String := py.upper row.format.orEmpty

/-- The path of the file of a row of `data`. -/
def DataRow.relative (py : Runtime) (bookPath : List String) (row : DataRow) : String :=
  asPosix (bookPath ++ [row.name.orEmpty ++ "." ++ py.lower (row.canonical py)])

/-- A supported format, in a file of its book's directory. -/
structure DataRow.Supported (py : Runtime) (row : DataRow) : Prop where
  format : isFormat (row.canonical py) = true
  name : (row.name.orEmpty.toList.contains '/' || row.name.orEmpty.toList.contains '\\'
    || row.name.orEmpty = "." || row.name.orEmpty = "..") = false

/-- The text columns of a row of `data` get through. -/
def DataRow.passes (row : DataRow) : Prop :=
  row.format.passes false = true ∧ row.name.passes false = true

instance (row : DataRow) : Decidable row.passes := inferInstanceAs (Decidable (_ ∧ _))

/-- The key of an identifier. -/
def IdentifierRow.kind (py : Runtime) (row : IdentifierRow) : String := py.lower row.type.orEmpty

/-- The text columns of an identifier get through. -/
def IdentifierRow.passes (row : IdentifierRow) : Prop :=
  row.type.passes false = true ∧ row.val.passes false = true

instance (row : IdentifierRow) : Decidable row.passes := inferInstanceAs (Decidable (_ ∧ _))

/-- The file can be opened, read to its end, and is not too large. -/
def Mount.Readable (mount : Mount) (path : List String) : Prop :=
  ∃ i, mount.library.start.entry path = .file i ∧
    (mount.library.start.inode i).bytes.length ≤ maxEbookBytes ∧
    (mount.library.start.inode i).bytes.length < mount.patience

theorem formatPath_eq_ok_iff {bookPath : List String} {row : DataRow} (hrow : row.Supported py)
    {p : String × String} :
    formatPath py bookPath row = .ok p ↔
      row.passes ∧ p = (row.canonical py, row.relative py bookPath) := by
  have haccepted : (isFormat (row.canonical py) = false || row.name.orEmpty.toList.contains '/'
      || row.name.orEmpty.toList.contains '\\' || row.name.orEmpty = "."
      || row.name.orEmpty = "..") = false := by
    have hname := hrow.name
    simp only [Bool.or_eq_false_iff] at hname ⊢
    exact ⟨⟨⟨⟨by rw [hrow.format]; rfl, hname.1.1.1⟩, hname.1.1.2⟩, hname.1.2⟩, hname.2⟩
  rw [formatPath]
  constructor
  · intro h
    obtain ⟨format, hformat, h⟩ := Except.exists_of_bind_eq_ok h
    obtain ⟨name, hname, h⟩ := Except.exists_of_bind_eq_ok h
    obtain ⟨hpasses, rfl⟩ := requiredText_eq_ok_iff.mp hformat
    obtain ⟨hpasses', rfl⟩ := requiredText_eq_ok_iff.mp hname
    dsimp only at h
    rw [if_neg (by rw [Bool.not_eq_true]; exact haccepted)] at h
    cases h
    exact ⟨⟨hpasses, hpasses'⟩, rfl⟩
  · rintro ⟨⟨hpasses, hpasses'⟩, rfl⟩
    rw [requiredText_eq_ok_iff.mpr ⟨hpasses, rfl⟩, requiredText_eq_ok_iff.mpr ⟨hpasses', rfl⟩]
    show (if _ then _ else _) = _
    rw [if_neg (by rw [Bool.not_eq_true]; exact haccepted)]
    rfl

/-- A readable file that nobody changes can be described. -/
theorem describeFile_of_readable (hstill : mount.library.Still) {relativePath : String}
    (h : mount.Readable (posixParts relativePath)) (format : String) (tick : ℕ) :
    ∃ frozen tick', mount.describeFile relativePath format tick = .ok (frozen, tick') := by
  obtain ⟨i, hentry, hsize, hpatience⟩ := h
  have hdisk := hstill.disk_eq
  have hopenFile : mount.openFile (posixParts relativePath) tick = .ok (i, tick + 1) := by
    rw [Mount.openFile, hdisk, hentry]
  have hopen : mount.openFileBeneath (posixParts relativePath) maxEbookBytes tick
      = .ok (i, tick + 2) := by
    refine Offline.bind_eq_ok_iff.mpr ⟨i, tick + 1, hopenFile, ?_⟩
    refine Offline.bind_eq_ok_iff.mpr ⟨_, tick + 2, rfl, ?_⟩
    refine Offline.bind_eq_ok_iff.mpr ⟨(), tick + 2, Offline.refuse_eq_ok_iff.mpr ⟨?_, rfl⟩, rfl⟩
    show ¬ maxEbookBytes < ((mount.library.disk (tick + 1)).inode i).bytes.length
    rw [hdisk]
    omega
  have hloop : ∃ last, mount.library.readLoop i Mount.chunkBytes none mount.patience [] (tick + 3)
      = some (some (mount.library.start.inode i).bytes, last) :=
    SharedFiles.History.readLoop_of_still hstill (by decide) [] (tick + 3) rfl
      (by simpa using hpatience)
  obtain ⟨last, hloop⟩ := hloop
  have hread : mount.readAll i none (.securePath "") (tick + 3)
      = .ok ((mount.library.start.inode i).bytes, last) := by
    rw [Mount.readAll, hloop]
  have hsame : mount.identityAt i (tick + 2) = mount.identityAt i last := by
    rw [Mount.identityAt, Mount.identityAt, hdisk, hdisk]
  refine ⟨⟨relativePath, format, (mount.identityAt i (tick + 2)).size, i.device, i.inode,
    (mount.identityAt i (tick + 2)).mtimeNs, (mount.identityAt i (tick + 2)).ctimeNs,
    mount.sha256 (mount.library.start.inode i).bytes⟩, last + 1, ?_⟩
  refine Offline.bind_eq_ok_iff.mpr ⟨(mount.identityAt i (tick + 2),
    (mount.library.start.inode i).bytes, mount.identityAt i last), last + 1, ?_, ?_⟩
  · rw [Offline.rethrow_eq_ok_iff]
    refine Offline.bind_eq_ok_iff.mpr ⟨i, tick + 2, hopen, ?_⟩
    refine Offline.bind_eq_ok_iff.mpr ⟨_, tick + 3, rfl, ?_⟩
    exact Offline.bind_eq_ok_iff.mpr ⟨_, last, hread, rfl⟩
  · exact Offline.bind_eq_ok_iff.mpr
      ⟨(), last + 1, Offline.refuse_eq_ok_iff.mpr ⟨not_not.mpr hsame, rfl⟩, rfl⟩

/-- What the loop over the formats takes, and what it makes of them. -/
theorem loadFormats_eq_ok {bookPath : List String} {seen : List String} {rows : List DataRow}
    (hrows : ∀ row ∈ rows, row.Supported py) {tick tick' : ℕ} {frozen : List FrozenFile}
    (h : loadFormats py mount bookPath seen rows tick = .ok (frozen, tick')) :
    (∀ row ∈ rows, row.passes) ∧ (rows.map (·.canonical py)).Nodup ∧
      (∀ row ∈ rows, row.canonical py ∉ seen) ∧
      frozen.map (fun f => (f.format, f.relativePath))
        = rows.map fun row => (row.canonical py, row.relative py bookPath) := by
  induction rows generalizing seen tick frozen with
  | nil =>
    obtain ⟨rfl, -⟩ := Offline.pure_eq_ok_iff.mp h
    exact ⟨fun row hrow => absurd hrow List.not_mem_nil, List.nodup_nil,
      fun row hrow => absurd hrow List.not_mem_nil, rfl⟩
  | cons row rows ih =>
    rw [loadFormats] at h
    obtain ⟨p, s, hlift, h⟩ := Offline.bind_eq_ok_iff.mp h
    obtain ⟨hpath, rfl⟩ := Offline.lift_eq_ok_iff.mp hlift
    obtain ⟨hpasses, rfl⟩ := (formatPath_eq_ok_iff (hrows row List.mem_cons_self)).mp hpath
    obtain ⟨_, s, hrefuse, h⟩ := Offline.bind_eq_ok_iff.mp h
    obtain ⟨hfresh, rfl⟩ := Offline.refuse_eq_ok_iff.mp hrefuse
    obtain ⟨first, s, hdescribe, h⟩ := Offline.bind_eq_ok_iff.mp h
    obtain ⟨rest, s', hrest, h⟩ := Offline.bind_eq_ok_iff.mp h
    cases h
    obtain ⟨hrelative, hformat, -, -⟩ := Mount.describeFile_spec hdescribe
    obtain ⟨hall, hnodup, hseen, hmap⟩ :=
      ih (fun r hr => hrows r (List.mem_cons_of_mem _ hr)) hrest
    refine ⟨List.forall_mem_cons.mpr ⟨hpasses, hall⟩, ?_, ?_, ?_⟩
    · rw [List.map_cons, List.nodup_cons]
      refine ⟨fun hmem => ?_, hnodup⟩
      obtain ⟨r, hr, heq⟩ := List.mem_map.mp hmem
      exact hseen r hr (heq ▸ List.mem_cons_self)
    · exact List.forall_mem_cons.mpr
        ⟨hfresh, fun r hr hmem => hseen r hr (List.mem_cons_of_mem _ hmem)⟩
    · rw [List.map_cons, List.map_cons, hmap, hrelative, hformat]

/-- The loop over the formats takes rows that get through, in readable files. -/
theorem loadFormats_of_passes (hstill : mount.library.Still) {bookPath : List String}
    {seen : List String} {rows : List DataRow} (hrows : ∀ row ∈ rows, row.Supported py)
    (hreadable : ∀ row ∈ rows, mount.Readable (posixParts (row.relative py bookPath)))
    (hpasses : ∀ row ∈ rows, row.passes) (hnodup : (rows.map (·.canonical py)).Nodup)
    (hseen : ∀ row ∈ rows, row.canonical py ∉ seen) (tick : ℕ) :
    ∃ frozen tick', loadFormats py mount bookPath seen rows tick = .ok (frozen, tick') := by
  induction rows generalizing seen tick with
  | nil => exact ⟨[], tick, rfl⟩
  | cons row rows ih =>
    rw [List.map_cons, List.nodup_cons] at hnodup
    obtain ⟨frozen, s, hdescribe⟩ := describeFile_of_readable hstill
      (hreadable row List.mem_cons_self) (row.canonical py) tick
    have hloaded : ∃ rest last,
        loadFormats py mount bookPath (row.canonical py :: seen) rows s = .ok (rest, last) := ih
      (fun r hr => hrows r (List.mem_cons_of_mem _ hr))
      (fun r hr => hreadable r (List.mem_cons_of_mem _ hr))
      (fun r hr => hpasses r (List.mem_cons_of_mem _ hr)) hnodup.2 (fun r hr hmem => by
        rcases List.mem_cons.mp hmem with heq | hmem
        · exact hnodup.1 (heq ▸ List.mem_map_of_mem hr)
        · exact hseen r (List.mem_cons_of_mem _ hr) hmem) s
    obtain ⟨rest, last, hrest⟩ := hloaded
    have hpath : formatPath py bookPath row = .ok (row.canonical py, row.relative py bookPath) :=
      (formatPath_eq_ok_iff (hrows row List.mem_cons_self)).mpr ⟨hpasses row List.mem_cons_self, rfl⟩
    refine ⟨frozen :: rest, last, ?_⟩
    refine Offline.bind_eq_ok_iff.mpr ⟨_, tick, Offline.lift_eq_ok_iff.mpr ⟨hpath, rfl⟩, ?_⟩
    refine Offline.bind_eq_ok_iff.mpr ⟨(), tick,
      Offline.refuse_eq_ok_iff.mpr ⟨hseen row List.mem_cons_self, rfl⟩, ?_⟩
    refine Offline.bind_eq_ok_iff.mpr ⟨frozen, s, hdescribe, ?_⟩
    exact Offline.bind_eq_ok_iff.mpr ⟨rest, last, hrest, rfl⟩

theorem loadIdentifiers_eq_ok_iff {known : List (String × String)} {rows : List IdentifierRow}
    {identifiers : List (String × String)} :
    loadIdentifiers py known rows = .ok identifiers ↔
      (∀ row ∈ rows, row.passes) ∧ (rows.map (·.kind py)).Nodup ∧
        (∀ row ∈ rows, row.kind py ∉ Assoc.keys known) ∧
        identifiers = known ++ rows.map fun row => (row.kind py, row.val.orEmpty) := by
  induction rows generalizing known with
  | nil =>
    rw [loadIdentifiers, List.map_nil, List.map_nil, List.append_nil]
    exact ⟨fun h => ⟨fun row hrow => absurd hrow List.not_mem_nil, List.nodup_nil,
      fun row hrow => absurd hrow List.not_mem_nil, (Except.ok.inj h).symm⟩,
      fun h => congrArg Except.ok h.2.2.2.symm⟩
  | cons row rows ih =>
    have hkeys : ∀ r : IdentifierRow, r.kind py ∉ Assoc.keys (known ++ [(row.kind py, row.val.orEmpty)])
        ↔ r.kind py ∉ Assoc.keys known ∧ r.kind py ≠ row.kind py := by
      intro r
      rw [Assoc.keys, List.map_append, List.mem_append, not_or]
      simp [Assoc.keys]
    rw [loadIdentifiers, List.map_cons, List.nodup_cons]
    constructor
    · intro h
      obtain ⟨type, htype, h⟩ := Except.exists_of_bind_eq_ok h
      obtain ⟨value, hvalue, h⟩ := Except.exists_of_bind_eq_ok h
      obtain ⟨hpasses, rfl⟩ := requiredText_eq_ok_iff.mp htype
      obtain ⟨hpasses', rfl⟩ := requiredText_eq_ok_iff.mp hvalue
      dsimp only at h
      split at h
      · cases h
      · rename_i hfresh
        rw [Option.not_isSome_iff_eq_none, Assoc.get?_eq_none_iff] at hfresh
        obtain ⟨hall, hnodup, hnew, rfl⟩ := ih.mp h
        refine ⟨List.forall_mem_cons.mpr ⟨⟨hpasses, hpasses'⟩, hall⟩, ⟨fun hmem => ?_, hnodup⟩,
          List.forall_mem_cons.mpr ⟨hfresh, fun r hr => ((hkeys r).mp (hnew r hr)).1⟩, ?_⟩
        · obtain ⟨r, hr, heq⟩ := List.mem_map.mp hmem
          exact ((hkeys r).mp (hnew r hr)).2 heq
        · rw [List.append_assoc]
          rfl
    · rintro ⟨hall, ⟨hhead, hnodup⟩, hnew, rfl⟩
      obtain ⟨⟨hpasses, hpasses'⟩, hall⟩ := List.forall_mem_cons.mp hall
      obtain ⟨hfresh, hnew⟩ := List.forall_mem_cons.mp hnew
      rw [requiredText_eq_ok_iff.mpr ⟨hpasses, rfl⟩, requiredText_eq_ok_iff.mpr ⟨hpasses', rfl⟩]
      show (if _ then _ else _) = _
      have hnone : ¬ (Assoc.get? (py.lower row.type.orEmpty) known).isSome = true := by
        rw [Option.not_isSome_iff_eq_none]
        exact Assoc.get?_eq_none_iff.mpr hfresh
      rw [if_neg hnone]
      refine ih.mpr ⟨hall, hnodup, fun r hr => (hkeys r).mpr ⟨hnew r hr, fun heq => ?_⟩, ?_⟩
      · exact hhead (heq ▸ List.mem_map_of_mem hr)
      · rw [List.append_assoc]
        rfl

/-! ### A book -/

/-- Every name the book is linked to gets through. -/
def LinkedTable.Legible (table : LinkedTable) (bookId : ℤ) : Prop :=
  ∀ link ∈ table.links, link.book = bookId → ∀ row ∈ table.rows, row.id = link.target →
    row.name.passes false = true

instance (table : LinkedTable) (bookId : ℤ) : Decidable (table.Legible bookId) :=
  inferInstanceAs (Decidable (∀ link ∈ table.links, link.book = bookId → ∀ row ∈ table.rows,
    row.id = link.target → row.name.passes false = true))

/-- The text columns of a book get through `_single_text`, and no two of its formats or identifier
types are the same when written in one case. -/
structure CalibreDb.Legible (py : Runtime) (db : CalibreDb) (row : BooksRow) : Prop where
  title : row.title.passes false = true
  authorSort : row.authorSort.passes true = true
  pubdate : row.pubdate.passes true = true
  timestamp : row.timestamp.passes true = true
  uuid : row.uuid.passes true = true
  lastModified : row.lastModified.passes true = true
  authors : db.authors.Legible row.id
  publishers : db.publishers.Legible row.id
  series : db.series.Legible row.id
  languages : db.languages.Legible row.id
  tags : db.tags.Legible row.id
  comments : ∀ comment ∈ db.comments, comment.book = row.id → comment.text.passes false = true
  formats : ∀ r ∈ db.data, r.book = row.id → r.passes
  formatsDistinct : ((db.data.filter fun r => r.book = row.id).map (·.canonical py)).Nodup
  identifiers : ∀ r ∈ db.identifiers, r.book = row.id → r.passes
  typesDistinct : ((db.identifiers.filter fun r => r.book = row.id).map (·.kind py)).Nodup

/-- A database and a library as Calibre leaves them: the schema, the keys and references of the
tables, paths and formats, at most one publisher, series and comment for each book, and files that can
be read and that nobody changes. -/
structure CalibreDb.Stocked (py : Runtime) (mount : Mount) (db : CalibreDb) : Prop where
  marker : (db.userVersion, db.applicationId) ∈ supportedSchemaMarkers
  tables : ∀ required ∈ requiredColumns, ∃ columns,
    Assoc.get? required.1 db.columns = some columns ∧ ∀ column ∈ required.2, column ∈ columns
  positive : ∀ row ∈ db.books, 0 < row.id
  unique : (db.books.map (·.id)).Nodup
  paths : ∀ row ∈ db.books, ∃ parts, safeRelativePath row.path "book path" = .ok parts
  indices : ∀ row ∈ db.books, ∃ q, row.seriesIndex = some q
  authors : db.authors.Sound
  publishers : db.publishers.Sound
  series : db.series.Sound
  languages : db.languages.Sound
  tags : db.tags.Sound
  onePublisher : ∀ row ∈ db.books,
    (db.publishers.links.filter fun link => link.book = row.id).length ≤ 1
  oneSeries : ∀ row ∈ db.books, (db.series.links.filter fun link => link.book = row.id).length ≤ 1
  oneComment : ∀ row ∈ db.books, (db.comments.filter fun r => r.book = row.id).length ≤ 1
  supported : ∀ row ∈ db.books, ∀ r ∈ db.data, r.book = row.id → r.Supported py
  still : mount.library.Still
  readable : ∀ row ∈ db.books, ∀ parts, safeRelativePath row.path "book path" = .ok parts →
    ∀ r ∈ db.data, r.book = row.id → mount.Readable (posixParts (r.relative py parts))

theorem perm_commentsOf (db : CalibreDb) (bookId : ℤ) :
    (db.commentsOf bookId).Perm ((db.comments.filter fun r => r.book = bookId).map (·.text)) :=
  (perm_orderBy _ _).map _

theorem perm_dataOf (db : CalibreDb) (bookId : ℤ) :
    (db.dataOf bookId).Perm (db.data.filter fun r => r.book = bookId) :=
  List.perm_insertionSort _ _

theorem perm_identifiersOf (db : CalibreDb) (bookId : ℤ) :
    (db.identifiersOf bookId).Perm (db.identifiers.filter fun r => r.book = bookId) :=
  List.perm_insertionSort _ _

theorem forall_names_iff {table : LinkedTable} {order : List LinkRow → List LinkRow}
    (hperm : ∀ links, (order links).Perm links) {bookId : ℤ} :
    (∀ cell ∈ table.names order bookId, cell.passes false = true) ↔ table.Legible bookId := by
  constructor
  · exact fun h link hlink hbook row hrow hid =>
      h _ ((mem_names hperm).mpr ⟨link, hlink, hbook, row, hrow, hid, rfl⟩)
  · intro h cell hcell
    obtain ⟨link, hlink, hbook, row, hrow, hid, rfl⟩ := (mem_names hperm).mp hcell
    exact h link hlink hbook row hrow hid

theorem forall_filter_iff {ρ : Type} {rows sorted : List ρ} {book : ρ → ℤ} {bookId : ℤ}
    (hperm : sorted.Perm (rows.filter fun r => book r = bookId)) {P : ρ → Prop} :
    (∀ r ∈ sorted, P r) ↔ ∀ r ∈ rows, book r = bookId → P r := by
  constructor
  · exact fun h r hr hbook =>
      h r (hperm.mem_iff.mpr (List.mem_filter.mpr ⟨hr, decide_eq_true hbook⟩))
  · intro h r hr
    obtain ⟨hr, hbook⟩ := List.mem_filter.mp (hperm.mem_iff.mp hr)
    exact h r hr (of_decide_eq_true hbook)

theorem forall_commentsOf_iff {bookId : ℤ} :
    (∀ cell ∈ db.commentsOf bookId, cell.passes false = true) ↔
      ∀ comment ∈ db.comments, comment.book = bookId → comment.text.passes false = true := by
  rw [← forall_filter_iff (perm_orderBy CommentRow.id _), CalibreDb.commentsOf]
  exact List.forall_mem_map

/-- The record of a book, from its row and what belongs to it. -/
def recordOf (libraryPath : String) (db : CalibreDb) (row : BooksRow) (bookPath : List String)
    (formats : List FrozenFile) (identifiers : List (String × String)) (seriesIndex : ℚ) : Dict := [
  ("id", .int row.id),
  ("title", .optStr row.title.shown),
  ("authors", .strs ((db.authors.names byLinkId row.id).map Cell.orEmpty)),
  ("author_sort", .optStr row.authorSort.shown),
  ("publisher", .optStr ((db.publishers.names byLinkId row.id).head?.bind Cell.shown)),
  ("pubdate", .optStr row.pubdate.shown),
  ("series", .optStr ((db.series.names byLinkId row.id).head?.bind Cell.shown)),
  ("series_index", .float seriesIndex),
  ("identifiers", .strDict identifiers),
  ("languages", .strs ((db.languages.names byItemOrder row.id).map Cell.orEmpty)),
  ("tags", .strs ((db.tags.names byLinkId row.id).map Cell.orEmpty)),
  ("comments", .optStr ((db.commentsOf row.id).head?.bind Cell.shown)),
  ("formats", .strs (formats.map fun f => beneath libraryPath (posixParts f.relativePath))),
  ("cover", .optStr (if row.hasCover then some (beneath libraryPath (bookPath ++ ["cover.jpg"]))
    else none)),
  ("timestamp", .optStr row.timestamp.shown),
  ("uuid", .optStr row.uuid.shown),
  ("last_modified", .optStr row.lastModified.shown)]

/-- The columns that `bookMetadata` reads get through. -/
structure CalibreDb.MetadataLegible (db : CalibreDb) (row : BooksRow) : Prop where
  title : row.title.passes false = true
  authors : ∀ cell ∈ db.authors.names byLinkId row.id, cell.passes false = true
  authorSort : row.authorSort.passes true = true
  publishers : ∀ cell ∈ db.publishers.names byLinkId row.id, cell.passes false = true
  pubdate : row.pubdate.passes true = true
  series : ∀ cell ∈ db.series.names byLinkId row.id, cell.passes false = true
  languages : ∀ cell ∈ db.languages.names byItemOrder row.id, cell.passes false = true
  tags : ∀ cell ∈ db.tags.names byLinkId row.id, cell.passes false = true
  comments : ∀ cell ∈ db.commentsOf row.id, cell.passes false = true
  timestamp : row.timestamp.passes true = true
  uuid : row.uuid.passes true = true
  lastModified : row.lastModified.passes true = true

/-- No more than one name where `_one_name` reads. -/
structure CalibreDb.Single (db : CalibreDb) (row : BooksRow) : Prop where
  publishers : (db.publishers.names byLinkId row.id).length ≤ 1
  series : (db.series.names byLinkId row.id).length ≤ 1
  comments : (db.commentsOf row.id).length ≤ 1

theorem bookMetadata_eq_ok_iff {row : BooksRow} (hsingle : db.Single row) {bookPath : List String}
    {formats : List FrozenFile} {identifiers : List (String × String)} {metadata : Dict} :
    bookMetadata libraryPath db row bookPath formats identifiers = .ok metadata ↔
      db.MetadataLegible row ∧ ∃ q, row.seriesIndex = some q ∧
        metadata = recordOf libraryPath db row bookPath formats identifiers q := by
  rw [bookMetadata]
  constructor
  · intro h
    obtain ⟨title, hfield, h⟩ := Except.exists_of_bind_eq_ok h
    obtain ⟨htitle, rfl⟩ := singleText_eq_ok_iff.mp hfield
    obtain ⟨authors, hfield, h⟩ := Except.exists_of_bind_eq_ok h
    obtain ⟨hauthors, rfl⟩ := manyNames_eq_ok_iff.mp hfield
    obtain ⟨authorSort, hfield, h⟩ := Except.exists_of_bind_eq_ok h
    obtain ⟨hauthorSort, rfl⟩ := singleText_eq_ok_iff.mp hfield
    obtain ⟨publisher, hfield, h⟩ := Except.exists_of_bind_eq_ok h
    obtain ⟨hpublisher, rfl⟩ := (oneName_eq_ok_iff hsingle.publishers).mp hfield
    obtain ⟨pubdate, hfield, h⟩ := Except.exists_of_bind_eq_ok h
    obtain ⟨hpubdate, rfl⟩ := singleText_eq_ok_iff.mp hfield
    obtain ⟨series, hfield, h⟩ := Except.exists_of_bind_eq_ok h
    obtain ⟨hseries, rfl⟩ := (oneName_eq_ok_iff hsingle.series).mp hfield
    obtain ⟨q, hq, h⟩ := Except.exists_of_bind_eq_ok h
    have hindex : row.seriesIndex = some q := by
      cases hsome : row.seriesIndex with
      | none =>
        rw [hsome] at hq
        cases hq
      | some q' =>
        rw [hsome] at hq
        cases hq
        rfl
    obtain ⟨languages, hfield, h⟩ := Except.exists_of_bind_eq_ok h
    obtain ⟨hlanguages, rfl⟩ := manyNames_eq_ok_iff.mp hfield
    obtain ⟨tags, hfield, h⟩ := Except.exists_of_bind_eq_ok h
    obtain ⟨htags, rfl⟩ := manyNames_eq_ok_iff.mp hfield
    obtain ⟨comments, hfield, h⟩ := Except.exists_of_bind_eq_ok h
    obtain ⟨hcomments, rfl⟩ := (oneName_eq_ok_iff hsingle.comments).mp hfield
    obtain ⟨timestamp, hfield, h⟩ := Except.exists_of_bind_eq_ok h
    obtain ⟨htimestamp, rfl⟩ := singleText_eq_ok_iff.mp hfield
    obtain ⟨uuid, hfield, h⟩ := Except.exists_of_bind_eq_ok h
    obtain ⟨huuid, rfl⟩ := singleText_eq_ok_iff.mp hfield
    obtain ⟨lastModified, hfield, h⟩ := Except.exists_of_bind_eq_ok h
    obtain ⟨hlastModified, rfl⟩ := singleText_eq_ok_iff.mp hfield
    exact ⟨⟨htitle, hauthors, hauthorSort, hpublisher, hpubdate, hseries, hlanguages, htags,
      hcomments, htimestamp, huuid, hlastModified⟩, q, hindex, (Except.ok.inj h).symm⟩
  · rintro ⟨h, q, hindex, rfl⟩
    rw [singleText_eq_ok_iff.mpr ⟨h.title, rfl⟩, manyNames_eq_ok_iff.mpr ⟨h.authors, rfl⟩,
      singleText_eq_ok_iff.mpr ⟨h.authorSort, rfl⟩,
      (oneName_eq_ok_iff hsingle.publishers).mpr ⟨h.publishers, rfl⟩,
      singleText_eq_ok_iff.mpr ⟨h.pubdate, rfl⟩,
      (oneName_eq_ok_iff hsingle.series).mpr ⟨h.series, rfl⟩, hindex,
      manyNames_eq_ok_iff.mpr ⟨h.languages, rfl⟩, manyNames_eq_ok_iff.mpr ⟨h.tags, rfl⟩,
      (oneName_eq_ok_iff hsingle.comments).mpr ⟨h.comments, rfl⟩,
      singleText_eq_ok_iff.mpr ⟨h.timestamp, rfl⟩, singleText_eq_ok_iff.mpr ⟨h.uuid, rfl⟩,
      singleText_eq_ok_iff.mpr ⟨h.lastModified, rfl⟩]
    rfl

/-- What is read of a book is legible, and the rest of what makes it so is about its formats and
identifiers. -/
theorem CalibreDb.legible_iff {row : BooksRow} :
    db.Legible py row ↔ db.MetadataLegible row ∧
      ((∀ r ∈ db.dataOf row.id, r.passes) ∧ ((db.dataOf row.id).map (·.canonical py)).Nodup) ∧
      (∀ r ∈ db.identifiersOf row.id, r.passes) ∧
      ((db.identifiersOf row.id).map (·.kind py)).Nodup := by
  have hformats := ((perm_dataOf db row.id).map (DataRow.canonical py)).nodup_iff
  have htypes := ((perm_identifiersOf db row.id).map (IdentifierRow.kind py)).nodup_iff
  constructor
  · intro h
    refine ⟨⟨h.title, (forall_names_iff (perm_orderBy _)).mpr h.authors, h.authorSort,
      (forall_names_iff (perm_orderBy _)).mpr h.publishers, h.pubdate,
      (forall_names_iff (perm_orderBy _)).mpr h.series,
      (forall_names_iff (List.perm_insertionSort _)).mpr h.languages,
      (forall_names_iff (perm_orderBy _)).mpr h.tags, forall_commentsOf_iff.mpr h.comments,
      h.timestamp, h.uuid, h.lastModified⟩, ⟨?_, hformats.mpr h.formatsDistinct⟩, ?_,
      htypes.mpr h.typesDistinct⟩
    · exact (forall_filter_iff (perm_dataOf db row.id)).mpr h.formats
    · exact (forall_filter_iff (perm_identifiersOf db row.id)).mpr h.identifiers
  · rintro ⟨h, ⟨hdata, hcanonical⟩, hidentifiers, hkinds⟩
    exact {
      title := h.title
      authorSort := h.authorSort
      pubdate := h.pubdate
      timestamp := h.timestamp
      uuid := h.uuid
      lastModified := h.lastModified
      authors := (forall_names_iff (perm_orderBy _)).mp h.authors
      publishers := (forall_names_iff (perm_orderBy _)).mp h.publishers
      series := (forall_names_iff (perm_orderBy _)).mp h.series
      languages := (forall_names_iff (List.perm_insertionSort _)).mp h.languages
      tags := (forall_names_iff (perm_orderBy _)).mp h.tags
      comments := forall_commentsOf_iff.mp h.comments
      formats := (forall_filter_iff (perm_dataOf db row.id)).mp hdata
      formatsDistinct := hformats.mp hcanonical
      identifiers := (forall_filter_iff (perm_identifiersOf db row.id)).mp hidentifiers
      typesDistinct := htypes.mp hkinds }

theorem CalibreDb.Stocked.single (hdb : db.Stocked py mount) {row : BooksRow}
    (hrow : row ∈ db.books) : db.Single row := by
  refine ⟨length_names_le_one hdb.publishers (perm_orderBy _) (hdb.onePublisher row hrow),
    length_names_le_one hdb.series (perm_orderBy _) (hdb.oneSeries row hrow), ?_⟩
  rw [(perm_commentsOf db row.id).length_eq, List.length_map]
  exact hdb.oneComment row hrow

/-- The frozen book of a row. -/
structure BookOf (py : Runtime) (libraryPath : String) (db : CalibreDb) (row : BooksRow)
    (book : FrozenBook) : Prop where
  bookId : book.bookId = row.id
  exists_parts : ∃ parts q, safeRelativePath row.path "book path" = .ok parts ∧
    row.seriesIndex = some q ∧
    book.formats.map (fun f => (f.format, f.relativePath))
      = (db.dataOf row.id).map (fun r => (r.canonical py, r.relative py parts)) ∧
    book.metadata = recordOf libraryPath db row parts book.formats
      ((db.identifiersOf row.id).map fun r => (r.kind py, r.val.orEmpty)) q

theorem supported_of_stocked (hdb : db.Stocked py mount) {row : BooksRow} (hrow : row ∈ db.books) :
    ∀ r ∈ db.dataOf row.id, r.Supported py :=
  (forall_filter_iff (perm_dataOf db row.id)).mpr (hdb.supported row hrow)

/-- A pass of the loop that takes the book: the book is legible, and frozen as it stands. -/
theorem loadBook_eq_ok (hdb : db.Stocked py mount) {row : BooksRow} (hrow : row ∈ db.books)
    {known : List FrozenBook} {tick tick' : ℕ} {book : FrozenBook}
    (h : loadBook py mount libraryPath db known row tick = .ok (book, tick')) :
    db.Legible py row ∧ BookOf py libraryPath db row book := by
  rw [loadBook] at h
  obtain ⟨_, s, hrefuse, h⟩ := Offline.bind_eq_ok_iff.mp h
  obtain ⟨-, rfl⟩ := Offline.refuse_eq_ok_iff.mp hrefuse
  obtain ⟨parts, s, hlift, h⟩ := Offline.bind_eq_ok_iff.mp h
  obtain ⟨hpath, rfl⟩ := Offline.lift_eq_ok_iff.mp hlift
  obtain ⟨formats, s, hformats, h⟩ := Offline.bind_eq_ok_iff.mp h
  obtain ⟨identifiers, s', hlift', h⟩ := Offline.bind_eq_ok_iff.mp h
  obtain ⟨hidentifiers, rfl⟩ := Offline.lift_eq_ok_iff.mp hlift'
  obtain ⟨metadata, s', hlift'', h⟩ := Offline.bind_eq_ok_iff.mp h
  obtain ⟨hmetadata, rfl⟩ := Offline.lift_eq_ok_iff.mp hlift''
  cases h
  obtain ⟨hdata, hcanonical, -, hmap⟩ := loadFormats_eq_ok (supported_of_stocked hdb hrow) hformats
  obtain ⟨htypes, hkinds, -, rfl⟩ := loadIdentifiers_eq_ok_iff.mp hidentifiers
  obtain ⟨hlegible, q, hindex, hrecord⟩ := (bookMetadata_eq_ok_iff (hdb.single hrow)).mp hmetadata
  exact ⟨CalibreDb.legible_iff.mpr ⟨hlegible, ⟨hdata, hcanonical⟩, htypes, hkinds⟩,
    ⟨rfl, parts, q, hpath, hindex, hmap, hrecord⟩⟩

/-- A legible book is taken. -/
theorem loadBook_of_legible (hdb : db.Stocked py mount) {row : BooksRow} (hrow : row ∈ db.books)
    (hlegible : db.Legible py row) {known : List FrozenBook}
    (hknown : row.id ∉ known.map (·.bookId)) (tick : ℕ) :
    ∃ book tick', loadBook py mount libraryPath db known row tick = .ok (book, tick') := by
  obtain ⟨hmetadata, ⟨hdata, hcanonical⟩, htypes, hkinds⟩ := CalibreDb.legible_iff.mp hlegible
  obtain ⟨parts, hpath⟩ := hdb.paths row hrow
  obtain ⟨q, hindex⟩ := hdb.indices row hrow
  obtain ⟨formats, last, hformats⟩ := loadFormats_of_passes hdb.still
    (supported_of_stocked hdb hrow)
    ((forall_filter_iff (perm_dataOf db row.id)).mpr (hdb.readable row hrow parts hpath))
    hdata hcanonical (fun r hr => List.not_mem_nil) tick
  have hloaded : ∃ identifiers, loadIdentifiers py [] (db.identifiersOf row.id) = .ok identifiers :=
    ⟨_, loadIdentifiers_eq_ok_iff.mpr ⟨htypes, hkinds, fun r hr => List.not_mem_nil, rfl⟩⟩
  obtain ⟨identifiers, hidentifiers⟩ := hloaded
  have hmade : ∃ metadata, bookMetadata libraryPath db row parts formats identifiers = .ok metadata :=
    ⟨_, (bookMetadata_eq_ok_iff (hdb.single hrow)).mpr ⟨hmetadata, q, hindex, rfl⟩⟩
  obtain ⟨metadata, hrecord⟩ := hmade
  have haccepted : ¬ (row.id ≤ 0 ∨ row.id ∈ known.map (·.bookId)) := by
    rintro (h | h)
    · have := hdb.positive row hrow
      omega
    · exact hknown h
  refine ⟨⟨row.id, metadata, formats⟩, last, ?_⟩
  refine Offline.bind_eq_ok_iff.mpr ⟨(), tick, Offline.refuse_eq_ok_iff.mpr ⟨haccepted, rfl⟩, ?_⟩
  refine Offline.bind_eq_ok_iff.mpr ⟨parts, tick, Offline.lift_eq_ok_iff.mpr ⟨hpath, rfl⟩, ?_⟩
  refine Offline.bind_eq_ok_iff.mpr ⟨formats, last, hformats, ?_⟩
  refine Offline.bind_eq_ok_iff.mpr ⟨_, last, Offline.lift_eq_ok_iff.mpr ⟨hidentifiers, rfl⟩, ?_⟩
  exact Offline.bind_eq_ok_iff.mpr ⟨_, last, Offline.lift_eq_ok_iff.mpr ⟨hrecord, rfl⟩, rfl⟩

/-! ### The whole inventory -/

/-- The loop over the rows: one book for each, in their order. -/
theorem loadRows_eq_ok (hdb : db.Stocked py mount) {rows : List BooksRow}
    (hrows : ∀ row ∈ rows, row ∈ db.books) {known books : List FrozenBook} {tick tick' : ℕ}
    (h : loadRows py mount libraryPath db known rows tick = .ok (books, tick')) :
    (∀ row ∈ rows, db.Legible py row) ∧
      ∃ new, books = known ++ new ∧ List.Forall₂ (BookOf py libraryPath db) rows new := by
  induction rows generalizing known tick with
  | nil =>
    obtain ⟨rfl, -⟩ := Offline.pure_eq_ok_iff.mp h
    exact ⟨fun row hrow => absurd hrow List.not_mem_nil, [], (List.append_nil _).symm, .nil⟩
  | cons row rows ih =>
    rw [loadRows] at h
    obtain ⟨book, s, hbook, h⟩ := Offline.bind_eq_ok_iff.mp h
    obtain ⟨hlegible, hbookOf⟩ := loadBook_eq_ok hdb (hrows row List.mem_cons_self) hbook
    obtain ⟨hall, new, rfl, hnew⟩ := ih (fun r hr => hrows r (List.mem_cons_of_mem _ hr)) h
    refine ⟨List.forall_mem_cons.mpr ⟨hlegible, hall⟩, book :: new, ?_, .cons hbookOf hnew⟩
    rw [List.append_assoc]
    rfl

theorem loadRows_of_legible (hdb : db.Stocked py mount) {rows : List BooksRow}
    (hrows : ∀ row ∈ rows, row ∈ db.books) (hlegible : ∀ row ∈ rows, db.Legible py row)
    (hnodup : (rows.map (·.id)).Nodup) {known : List FrozenBook}
    (hknown : ∀ row ∈ rows, row.id ∉ known.map (·.bookId)) (tick : ℕ) :
    ∃ books tick', loadRows py mount libraryPath db known rows tick = .ok (books, tick') := by
  induction rows generalizing known tick with
  | nil => exact ⟨known, tick, rfl⟩
  | cons row rows ih =>
    rw [List.map_cons, List.nodup_cons] at hnodup
    have hfirst : ∃ book s, loadBook py mount libraryPath db known row tick = .ok (book, s) :=
      loadBook_of_legible hdb (hrows row List.mem_cons_self) (hlegible row List.mem_cons_self)
        (hknown row List.mem_cons_self) tick
    obtain ⟨book, s, hbook⟩ := hfirst
    have hid : book.bookId = row.id := (loadBook_eq_ok hdb (hrows row List.mem_cons_self) hbook).2.bookId
    have hnew : ∀ r ∈ rows, r.id ∉ (known ++ [book]).map (·.bookId) := by
      intro r hr hmem
      rw [List.map_append, List.mem_append, List.map_singleton, List.mem_singleton, hid] at hmem
      rcases hmem with hmem | heq
      · exact hknown r (List.mem_cons_of_mem _ hr) hmem
      · exact hnodup.1 (heq ▸ List.mem_map_of_mem hr)
    obtain ⟨books, last, hrest⟩ := ih (fun r hr => hrows r (List.mem_cons_of_mem _ hr))
      (fun r hr => hlegible r (List.mem_cons_of_mem _ hr)) hnodup.2 hnew s
    exact ⟨books, last, Offline.bind_eq_ok_iff.mpr ⟨book, s, hbook, hrest⟩⟩

end Loading

end Bookwarden
