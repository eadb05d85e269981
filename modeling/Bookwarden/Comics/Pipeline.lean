import Bookwarden.Lib.Assoc
import Bookwarden.Verification.Engine

/-!
# Declared metadata and the comic pipeline

`enrich_comic_observations` of `comics/pipeline.py` fills gaps in the declared and in the observed
record from what a comic's file, its cover and Komf say, and `_build_declared` of `audit/engine.py`
makes of the declared record what the verification compares.

## Main definitions

* `World` — the files and the services that are asked
* `enrichComicObservations`, `buildDeclared`
* `CalibreOnly` — the fields that are left as Calibre has them

## Main results

* `get_merge_of_ne_null`, `get_merge_of_notMem` — what filling leaves as it is
* `declared_from_calibre` — two contents of a book leave such fields the same
* `declared_from_content` — but not the others
-/

namespace Bookwarden.Comics

open Verification

/-- A dictionary of metadata. -/
abbrev Metadata := List (String × Value)

/-- `d.get(key)`. -/
def get (m : Metadata) (key : String) : Value := (Assoc.get? key m).getD .null

/-- Python's runtime, and `int` of a string; `none` when it raises. -/
structure ComicRuntime extends RuleRuntime where
  parseInt : String → Option LoadedInt

variable (py : ComicRuntime)

/-! ### Conversions -/

/-- The integer of a Boolean. -/
def intOfBool (b : Bool) : LoadedInt :=
  ⟨b.toInt, by
    have hone : 1 < 10 ^ 4300 := Nat.one_lt_pow (by decide) (by decide)
    have hle : b.toInt.natAbs ≤ 1 := by cases b <;> decide
    exact lt_of_le_of_lt hle hone⟩

/-- `int(value)`; `none` is the `TypeError` or `ValueError` that is handled. -/
def intOf : Value → Except PyError (Option LoadedInt)
  | .bool b => .ok (some (intOfBool b))
  | .int n => .ok (some n)
  | .float (.finite q) =>
    let n : ℤ := if 0 ≤ q then ⌊q⌋ else ⌈q⌉
    if h : n.natAbs < 10 ^ 4300 then .ok (some ⟨n, h⟩)
    else .error ⟨.other, "int too large"⟩
  | .float .nan => .ok none
  | .float (.infinite _) => .error ⟨.other, "cannot convert float infinity to integer"⟩
  | .str s => .ok (py.parseInt s)
  | _ => .ok none

/-- `float(v)` or `int(v)`, by the field, in `_merge`. -/
def mergeValue (key : String) (v : Value) : Except PyError Value :=
  if key = "chapter" ∨ key = "series_position" then
    (Verification.floatOf py.toRuleRuntime v).map fun x => (x.map Value.float).getD v
  else if key = "volume" then (intOf py v).map fun n => (n.map Value.int).getD v
  else .ok v

/-! ### ComicInfo -/

/-- `str.zfill(2)`. -/
def zfill2 (s : String) : String :=
  match s.toList with
  | [] => "00"
  | [c] => if c = '+' ∨ c = '-' then String.ofList [c, '0'] else String.ofList ['0', c]
  | _ => s

/-- The pieces of a text at commas. -/
def commaList (s : String) : Value :=
  .list (((split ',' s).filter fun a => strip a ≠ "").map fun a => .str (strip a))

/-- The value of one element. -/
def elementValue (key text : String) : Value :=
  let val := strip text
  if key = "authors" ∨ key = "tags" then commaList val
  else if key = "series_index" ∨ key = "chapter" then
    match py.parseDouble val with
    | some x => .float x
    | none => .str val
  else if key = "volume" then
    match py.parseInt val with
    | some n => .int n
    | none => .str val
  else .str val

/-- `mappings`. -/
def mappings : List (String × String) :=
  [("Title", "title"), ("Series", "series"), ("Number", "series_index"), ("Volume", "volume"),
    ("Chapter", "chapter"), ("Writer", "authors"), ("Publisher", "publisher"), ("Year", "year"),
    ("Month", "month"), ("Genre", "tags")]

/-- `str` of a year or a month. -/
def textOf : Value → String
  | .str s => s
  | _ => ""

/-- `parse_comic_info_xml_data`, from the texts of the elements. -/
def parseComicInfo (elements : String → Option String) : Metadata :=
  let metadata : Metadata := mappings.filterMap fun m =>
    match elements m.1 with
    | none => none
    | some text => if text = "" then none else some (m.2, elementValue py m.2 text)
  match Assoc.get? "year" metadata with
  | none => metadata
  | some year =>
    let month := ((Assoc.get? "month" metadata).map textOf).getD "01"
    let rest := Assoc.erase "month" (Assoc.erase "year" metadata)
    Assoc.set "published_date" (.str (textOf year ++ "-" ++ zfill2 month ++ "-01")) rest

/-! ### The pipeline -/

/-- `settings.manga_mode`. -/
structure MangaMode where
  enabled : Bool
  komf : Bool

/-- The metadata of the first Komf candidate. -/
structure KomfMetadata where
  volume : Value
  chapter : Value
  seriesPosition : Value
  series : Value

/-- What the files and the services say. Where the code logs an exception and goes on, there is
nothing. -/
structure World where
  /-- The path exists. -/
  fileExists : String → Bool
  /-- The elements of the `ComicInfo.xml` in a file. -/
  comicInfo : String → Option (String → Option String)
  /-- What the vision model reads on a cover. -/
  vision : String → Option Metadata
  /-- What it reads on the cover in a file. -/
  coverVision : String → Option Metadata
  /-- The best candidate for a title and authors. -/
  komf : Value → Value → Option KomfMetadata

/-- `path.suffix.lower() in (".cbz", ".cbr")`. -/
def isComicPath (path : String) : Bool :=
  let ext := py.lower (pathSuffix path)
  ext = "cbz" || ext = "cbr"

/-- Missing values are filled for some keys. -/
def fillMissing (keys : List String) (m src : Metadata) : Metadata :=
  keys.foldl (fun m k =>
    if (get m k).isNull && !(get src k).isNull then Assoc.set k (get src k) m else m) m

/-- The keys that vision can fill. -/
def visionKeys : List String := ["volume", "chapter", "series_position", "series", "title"]

/-- The result of vision, if it is asked. -/
def visionResult (manga : MangaMode) (w : World) (bookPath coverPath : Option String) :
    Option Metadata :=
  if manga.enabled then
    match coverPath.filter w.fileExists with
    | some cover => w.vision cover
    | none => (bookPath.filter (isComicPath py)).bind w.coverVision
  else none

/-- `a or b`. -/
def orElse (a b : Value) : Value := if a.truthy then a else b

/-- The lookup in Komf. -/
def mergeKomf (manga : MangaMode) (w : World) (declared comicMeta : Metadata) : Metadata :=
  if manga.komf then
    let title := orElse (get comicMeta "series") (orElse (get comicMeta "title")
      (orElse (get declared "series") (get declared "title")))
    if title.truthy then
      match w.komf title (get declared "authors") with
      | none => comicMeta
      | some best =>
        let m := fillMissing ["volume", "chapter", "series_position"] comicMeta
          [("volume", best.volume), ("chapter", best.chapter), ("series_position", best.seriesPosition)]
        if best.series.truthy && !(get m "series").truthy then Assoc.set "series" best.series m else m
    else comicMeta
  else comicMeta

/-- `comic_meta`. -/
def comicMeta (manga : MangaMode) (w : World) (bookPath coverPath : Option String)
    (declared : Metadata) : Metadata :=
  let fromFile := (((bookPath.filter (isComicPath py)).bind w.comicInfo).map
    (parseComicInfo py)).getD []
  let withVision := match visionResult py manga w bookPath coverPath with
    | none => fromFile
    | some vision => fillMissing visionKeys fromFile vision
  mergeKomf manga w declared withVision

/-- One round of `_merge`. -/
def mergeEntry (target : Metadata) (entry : String × Value) : Except PyError Metadata :=
  if !entry.2.isNull && (get target entry.1).isNull then
    (mergeValue py entry.1 entry.2).map fun v => Assoc.set entry.1 v target
  else .ok target

/-- `_merge`. -/
def merge (target src : Metadata) : Except PyError Metadata := src.foldlM (mergeEntry py) target

/-- The keys that are looked at again when there was a cover. -/
def coverKeys : List String := ["volume", "chapter", "series_position"]

/-- The last loop over the declared record, which handles every exception. -/
def fillFromCover (declared vision : Metadata) : Metadata :=
  coverKeys.foldl (fun m k =>
    if (Assoc.get? k vision).isSome && (get m k).isNull then
      Assoc.set k (match mergeValue py k (get vision k) with
        | .ok v => v
        | .error _ => get vision k) m
    else m) declared

/-- `enrich_comic_observations`. -/
def enrichComicObservations (manga : MangaMode) (w : World) (bookPath coverPath : Option String)
    (declared observed : Metadata) : Except PyError (Metadata × Metadata) := do
  let src := comicMeta py manga w bookPath coverPath declared
  let enrichedDeclared ← merge py declared src
  let enrichedObserved ← merge py observed src
  match visionResult py manga w bookPath coverPath with
  | none => return (enrichedDeclared, enrichedObserved)
  | some vision =>
    return (fillFromCover py enrichedDeclared vision,
      Assoc.set "cover_vision" (.dict vision) enrichedObserved)

/-! ### `_build_declared` -/

/-- A `BookRecord`, as far as it is read here. -/
structure Book where
  currentMetadata : Metadata
  /-- The `path` of each file that is a dictionary. -/
  files : List (Option String)

/-- The ISBN among the identifiers. -/
def isbnOf (current : Metadata) : Except PyError Value :=
  match get current "identifiers" with
  | .dict ids => .ok (get ids "isbn")
  | v => if v.truthy then .error ⟨.other, "object has no attribute 'get'"⟩ else .ok .null

/-- `raw_decl`. -/
def rawDeclared (current : Metadata) : Except PyError Metadata :=
  (isbnOf current).map fun isbn =>
    [("title", get current "title"), ("authors", orElse (get current "authors") (.list [])),
      ("publisher", get current "publisher"), ("published_date", get current "pubdate"),
      ("language", get current "languages"), ("series", get current "series"),
      ("series_index", get current "series_index"), ("isbn", isbn),
      ("volume", get current "volume"), ("chapter", get current "chapter"),
      ("series_position", get current "series_position")]

/-- The first file, if it exists. -/
def firstFile (w : World) (book : Book) : Option String :=
  (book.files.head?.bind id).filter fun p => p ≠ "" && w.fileExists p

/-- `DeclaredMetadata` of an enriched record. -/
def declaredOf (m : Metadata) : DeclaredMetadata where
  title := get m "title"
  authors := orElse (get m "authors") (.list [])
  publisher := get m "publisher"
  publishedDate := get m "published_date"
  language := get m "language"
  series := get m "series"
  seriesIndex := get m "series_index"
  volume := get m "volume"
  chapter := get m "chapter"
  seriesPosition := get m "series_position"
  isbn := get m "isbn"

/-- `_build_declared`. -/
def buildDeclared (manga : MangaMode) (w : World) (book : Book) : Except PyError DeclaredMetadata := do
  let raw ← rawDeclared book.currentMetadata
  let path := (firstFile w book).filter (isComicPath py)
  let enriched ← enrichComicObservations py manga w path none raw []
  return declaredOf enriched.1

/-! ### What filling leaves as it is -/

variable {py} {manga : MangaMode} {w w' : World} {m m' : Metadata} {k key : String} {v : Value}

theorem get_set (m : Metadata) (k key : String) (v : Value) :
    get (Assoc.set k v m) key = if key = k then v else get m key := by
  rw [get, Assoc.get?_set]
  split <;> rfl

/-- A value that is there is not filled. -/
theorem get_mergeEntry_of_ne_null {entry : String × Value} (h : mergeEntry py m entry = .ok m')
    (hkey : (get m key).isNull = false) : get m' key = get m key := by
  rw [mergeEntry] at h
  split at h
  · rename_i hgap
    obtain ⟨v, -, rfl⟩ := Except.exists_of_map_eq_ok h
    rw [get_set]
    split
    · rename_i heq
      rw [← heq, hkey, Bool.and_false] at hgap
      cases hgap
    · rfl
  · rw [Except.ok.inj h]

theorem get_mergeEntry_of_ne {entry : String × Value} (h : mergeEntry py m entry = .ok m')
    (hkey : key ≠ entry.1) : get m' key = get m key := by
  rw [mergeEntry] at h
  split at h
  · obtain ⟨v, -, rfl⟩ := Except.exists_of_map_eq_ok h
    rw [get_set, if_neg hkey]
  · rw [Except.ok.inj h]

theorem get_merge_of_ne_null {src : Metadata} (h : merge py m src = .ok m')
    (hkey : (get m key).isNull = false) : get m' key = get m key := by
  induction src generalizing m with
  | nil => rw [Except.ok.inj h]
  | cons entry src ih =>
    rw [merge, List.foldlM_cons] at h
    obtain ⟨next, hentry, hrest⟩ := Except.exists_of_bind_eq_ok h
    have hnext := get_mergeEntry_of_ne_null hentry hkey
    rw [ih hrest (hnext ▸ hkey), hnext]

theorem get_merge_of_notMem {src : Metadata} (h : merge py m src = .ok m')
    (hkey : key ∉ Assoc.keys src) : get m' key = get m key := by
  induction src generalizing m with
  | nil => rw [Except.ok.inj h]
  | cons entry src ih =>
    rw [merge, List.foldlM_cons] at h
    obtain ⟨next, hentry, hrest⟩ := Except.exists_of_bind_eq_ok h
    rw [ih hrest fun hmem => hkey (List.mem_cons_of_mem _ hmem),
      get_mergeEntry_of_ne hentry fun heq => hkey (List.mem_cons.mpr (Or.inl heq))]

/-- A loop over keys leaves a value that each round leaves. -/
theorem get_foldl {step : Metadata → String → Metadata} {keys : List String} {P : Value → Prop}
    (hstep : ∀ m, ∀ k ∈ keys, P (get m key) → get (step m k) key = get m key)
    (hm : P (get m key)) : get (keys.foldl step m) key = get m key := by
  induction keys generalizing m with
  | nil => rfl
  | cons k keys ih =>
    have hfirst := hstep m k List.mem_cons_self hm
    rw [List.foldl_cons, ih (fun m k hk => hstep m k (List.mem_cons_of_mem _ hk)) (hfirst ▸ hm),
      hfirst]

theorem get_fillFromCover_of_ne_null {vision : Metadata} (hkey : (get m key).isNull = false) :
    get (fillFromCover py m vision) key = get m key := by
  refine get_foldl (P := fun v => v.isNull = false) (fun m k _ hm => ?_) hkey
  split
  · rename_i hgap
    rw [get_set]
    split
    · rename_i heq
      rw [← heq, hm, Bool.and_false] at hgap
      cases hgap
    · rfl
  · rfl

theorem get_fillFromCover_of_notMem {vision : Metadata} (hkey : key ∉ coverKeys) :
    get (fillFromCover py m vision) key = get m key := by
  refine get_foldl (P := fun _ => True) (fun m k hk _ => ?_) trivial
  split
  · have hne : key ≠ k := fun heq => hkey (by rwa [heq])
    rw [get_set, if_neg hne]
  · rfl

/-! ### The keys that are filled -/

/-- The keys of `comic_meta`. -/
def comicKeys : List String := mappings.map Prod.snd ++ ["published_date", "series_position"]

/-- All keys are among those of `comic_meta`. -/
def Comic (m : Metadata) : Prop := ∀ k ∈ Assoc.keys m, k ∈ comicKeys

theorem Comic.set (hm : Comic m) (hk : k ∈ comicKeys) (v : Value) : Comic (Assoc.set k v m) := by
  intro key hkey
  by_cases hmem : k ∈ Assoc.keys m
  · rw [Assoc.keys_set_of_mem hmem] at hkey
    exact hm key hkey
  · rw [Assoc.keys_set_of_notMem hmem] at hkey
    rcases List.mem_append.mp hkey with hkey | hkey
    · exact hm key hkey
    · exact List.mem_singleton.mp hkey ▸ hk

theorem Comic.erase (hm : Comic m) (k : String) : Comic (Assoc.erase k m) := by
  intro key hkey
  obtain ⟨entry, hentry, rfl⟩ := List.mem_map.mp hkey
  exact hm _ (List.mem_map_of_mem (List.mem_of_mem_filter hentry))

theorem comic_parseComicInfo (elements : String → Option String) :
    Comic (parseComicInfo py elements) := by
  have hmapped : Comic (mappings.filterMap fun m =>
      match elements m.1 with
      | none => none
      | some text => if text = "" then none else some (m.2, elementValue py m.2 text)) := by
    intro key hkey
    obtain ⟨entry, hentry, rfl⟩ := List.mem_map.mp hkey
    obtain ⟨mapping, hmapping, hvalue⟩ := List.mem_filterMap.mp hentry
    have hkey : entry.1 = mapping.2 := by
      cases htext : elements mapping.1 with
      | none =>
        rw [htext] at hvalue
        cases hvalue
      | some text =>
        rw [htext] at hvalue
        simp only at hvalue
        have hentry : (mapping.2, elementValue py mapping.2 text) = entry :=
          Option.some.inj (Option.ite_none_left_eq_some.mp hvalue).2
        rw [← hentry]
    rw [hkey]
    exact List.mem_append_left _ (List.mem_map_of_mem hmapping)
  rw [parseComicInfo]
  simp only
  split
  · exact hmapped
  · exact ((hmapped.erase "year").erase "month").set (by decide) _

theorem comic_fillMissing {keys : List String} (hkeys : ∀ k ∈ keys, k ∈ comicKeys) (hm : Comic m)
    (src : Metadata) : Comic (fillMissing keys m src) := by
  rw [fillMissing]
  induction keys generalizing m with
  | nil => exact hm
  | cons k keys ih =>
    rw [List.foldl_cons]
    refine ih (fun k hk => hkeys k (List.mem_cons_of_mem _ hk)) ?_
    split
    · exact hm.set (hkeys k List.mem_cons_self) _
    · exact hm

theorem comic_mergeKomf (hm : Comic m) (declared : Metadata) :
    Comic (mergeKomf manga w declared m) := by
  rw [mergeKomf]
  split
  · simp only
    split
    · split
      · exact hm
      · have hkeys : ∀ k ∈ ["volume", "chapter", "series_position"], k ∈ comicKeys := by decide
        have hfilled := comic_fillMissing hkeys hm
        split
        · exact (hfilled _).set (by decide) _
        · exact hfilled _
    · exact hm
  · exact hm

theorem comic_comicMeta (bookPath coverPath : Option String) (declared : Metadata) :
    Comic (comicMeta py manga w bookPath coverPath declared) := by
  have hfile : Comic ((((bookPath.filter (isComicPath py)).bind w.comicInfo).map
      (parseComicInfo py)).getD []) := by
    cases (bookPath.filter (isComicPath py)).bind w.comicInfo with
    | none => exact fun k hk => (nomatch hk)
    | some elements => exact comic_parseComicInfo elements
  rw [comicMeta]
  refine comic_mergeKomf ?_ declared
  split
  · exact hfile
  · exact comic_fillMissing (by decide) hfile _

/-! ### What is declared -/

/-- The declared fields, with their keys. -/
def declaredFields : List (String × (DeclaredMetadata → Value)) :=
  [("title", (·.title)), ("authors", (·.authors)), ("publisher", (·.publisher)),
    ("published_date", (·.publishedDate)), ("language", (·.language)), ("series", (·.series)),
    ("series_index", (·.seriesIndex)), ("volume", (·.volume)), ("chapter", (·.chapter)),
    ("series_position", (·.seriesPosition)), ("isbn", (·.isbn))]

/-- A field that the pipeline leaves as Calibre has it: one that it never fills, or one that there is
no gap in. -/
def CalibreOnly (raw : Metadata) (key : String) : Prop :=
  key ∈ ["authors", "language", "isbn"] ∨ (get raw key).isNull = false

/-- The pipeline leaves such fields. -/
theorem get_enriched {bookPath : Option String} {raw observed : Metadata}
    {enriched : Metadata × Metadata}
    (h : enrichComicObservations py manga w bookPath none raw observed = .ok enriched)
    (hauthors : (get raw "authors").isNull = false) (hkey : CalibreOnly raw key) :
    get enriched.1 key = get raw key := by
  have hkept : (get raw key).isNull = false ∨ key ∉ comicKeys ∧ key ∉ coverKeys := by
    rcases hkey with hkey | hkey
    · rcases List.mem_cons.mp hkey with rfl | hkey
      · exact Or.inl hauthors
      · have hfew : ∀ k ∈ ["language", "isbn"], k ∉ comicKeys ∧ k ∉ coverKeys := by decide
        exact Or.inr (hfew key hkey)
    · exact Or.inl hkey
  obtain ⟨merged, hmerged, hrest⟩ := Except.exists_of_bind_eq_ok h
  obtain ⟨_, -, hresult⟩ := Except.exists_of_bind_eq_ok hrest
  have hmerge : get merged key = get raw key := by
    rcases hkept with hnull | ⟨hnotMem, -⟩
    · exact get_merge_of_ne_null hmerged hnull
    · exact get_merge_of_notMem hmerged fun hmem => hnotMem (comic_comicMeta _ _ _ key hmem)
  split at hresult
  · rw [← Except.ok.inj hresult]
    exact hmerge
  · rename_i vision _
    rw [← Except.ok.inj hresult]
    show get (fillFromCover py merged vision) key = get raw key
    rw [← hmerge] at hkept ⊢
    rcases hkept with hnull | ⟨-, hnotMem⟩
    · exact get_fillFromCover_of_ne_null hnull
    · exact get_fillFromCover_of_notMem hnotMem

theorem isNull_orElse_list (v : Value) : (orElse v (.list [])).isNull = false := by
  rw [orElse]
  split
  · rename_i htruthy
    cases v <;> first | rfl | cases htruthy
  · rfl

theorem orElse_orElse (v : Value) : orElse (orElse v (.list [])) (.list []) = orElse v (.list []) := by
  by_cases hv : v.truthy = true
  · rw [orElse, orElse, if_pos hv, if_pos hv]
  · rw [orElse, orElse, if_neg hv, if_neg (by simp [Value.truthy])]

/-- What is declared in such a field is what Calibre has. -/
theorem declared_eq_raw {book : Book} {d : DeclaredMetadata}
    (h : buildDeclared py manga w book = .ok d) :
    ∃ raw, rawDeclared book.currentMetadata = .ok raw ∧
      ∀ f ∈ declaredFields, CalibreOnly raw f.1 → f.2 d = get raw f.1 := by
  obtain ⟨raw, hraw, hrest⟩ := Except.exists_of_bind_eq_ok h
  obtain ⟨enriched, henriched, hd⟩ := Except.exists_of_bind_eq_ok hrest
  obtain ⟨isbn, -, hrawIs⟩ := Except.exists_of_map_eq_ok hraw
  have hauthorsIs : get raw "authors" = orElse (get book.currentMetadata "authors") (.list []) := by
    rw [← hrawIs]
    rfl
  have hauthors : (get raw "authors").isNull = false := by
    rw [hauthorsIs]
    exact isNull_orElse_list _
  have hget : ∀ key, CalibreOnly raw key → get enriched.1 key = get raw key := fun key hkey =>
    get_enriched henriched hauthors hkey
  refine ⟨raw, hraw, fun f hf hkey => ?_⟩
  rw [← Except.ok.inj hd]
  have hfield := hget f.1 hkey
  simp only [declaredFields, List.mem_cons, List.not_mem_nil, or_false] at hf
  rcases hf with rfl | rfl | rfl | rfl | rfl | rfl | rfl | rfl | rfl | rfl | rfl
  case inr.inl =>
    show orElse (get enriched.1 "authors") (.list []) = get raw "authors"
    rw [hfield, hauthorsIs, orElse_orElse]
  all_goals exact hfield

/-- Two contents of a book leave the same in every field that the pipeline does not fill: the authors,
the language, the ISBN, and whatever Calibre has a value for. -/
theorem declared_from_calibre (py : ComicRuntime) (manga : MangaMode) (book : Book) (w w' : World)
    (d d' : DeclaredMetadata) (h : buildDeclared py manga w book = .ok d)
    (h' : buildDeclared py manga w' book = .ok d') :
    ∃ raw, rawDeclared book.currentMetadata = .ok raw ∧
      ∀ f ∈ declaredFields, CalibreOnly raw f.1 → f.2 d = get raw f.1 ∧ f.2 d' = get raw f.1 := by
  obtain ⟨raw, hraw, hd⟩ := declared_eq_raw h
  obtain ⟨raw', hraw', hd'⟩ := declared_eq_raw h'
  rw [hraw] at hraw'
  refine ⟨raw, hraw, fun f hf hkey => ⟨hd f hf hkey, ?_⟩⟩
  rw [Except.ok.inj hraw'] at hkey ⊢
  exact hd' f hf hkey

/-! ### One book -/

/-- Python's runtime on ASCII text, where no text is an integer. -/
def ComicRuntime.ascii : ComicRuntime where
  toRuleRuntime := RuleRuntime.ascii
  parseInt _ := none

/-- A book without a series. -/
def oneVolume : Book where
  currentMetadata := [("title", .str "Saga 1"), ("authors", .list [.str "Vaughan"])]
  files := [some "saga.cbz"]

/-- Its file says a series, or nothing. -/
def sagaFile (series : Option String) : World where
  fileExists path := path == "saga.cbz"
  comicInfo _ := some fun tag => if tag = "Series" then series else none
  vision _ := none
  coverVision _ := none
  komf _ _ := none

/-- Neither vision nor Komf. -/
def MangaMode.off : MangaMode := ⟨false, false⟩

/-- The series of its file is declared. -/
theorem declared_oneVolume (series : Option String) (hseries : series = none ∨ series = some "Saga") :
    ∃ d, buildDeclared .ascii .off (sagaFile series) oneVolume = .ok d ∧
      d.title = .str "Saga 1" ∧ d.series = (series.map Value.str).getD .null := by
  rcases hseries with rfl | rfl
  · exact ⟨_, rfl, rfl, rfl⟩
  · exact ⟨_, rfl, rfl, rfl⟩

theorem declared_from_calibre_oneVolume :
    ∃ d d', d.title = .str "Saga 1" ∧ d'.title = .str "Saga 1" ∧
      ∃ raw, rawDeclared oneVolume.currentMetadata = .ok raw ∧
        ∀ f ∈ declaredFields, CalibreOnly raw f.1 → f.2 d = get raw f.1 ∧ f.2 d' = get raw f.1 := by
  obtain ⟨d, hd, htitle, -⟩ := declared_oneVolume none (Or.inl rfl)
  obtain ⟨d', hd', htitle', -⟩ := declared_oneVolume (some "Saga") (Or.inr rfl)
  exact ⟨d, d', htitle, htitle', declared_from_calibre .ascii .off oneVolume (sagaFile none)
    (sagaFile (some "Saga")) d d' hd hd'⟩

/-- What is declared depends on the content. -/
theorem declared_from_content :
    ¬ ∀ (manga : MangaMode) (book : Book) (w w' : World) (d d' : DeclaredMetadata),
      buildDeclared .ascii manga w book = .ok d → buildDeclared .ascii manga w' book = .ok d' →
        d = d' := by
  intro h
  obtain ⟨d, hd, -, hseries⟩ := declared_oneVolume none (Or.inl rfl)
  obtain ⟨d', hd', -, hseries'⟩ := declared_oneVolume (some "Saga") (Or.inr rfl)
  have heq : d = d' := h .off oneVolume _ _ d d' hd hd'
  rw [heq, hseries'] at hseries
  cases hseries

end Bookwarden.Comics
