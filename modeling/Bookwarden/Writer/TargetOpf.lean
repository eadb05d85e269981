import Bookwarden.Writer.Readback
import Bookwarden.Lib.Regroup
import Bookwarden.Lib.Xml

/-!
# The target OPF

The writer sends Calibre one complete document: the exported OPF of the book with the patch built
into it. An OPF cannot say that a field has no value, so `set_metadata` first clears the optional
fields the document lacks, and then loads the document; the rollback does the same with the export.

Every edit of `_build_target_opf` takes one kind of metadata element out and appends new ones, so
the whole of it is a list of edits of different groups. The document is a tree here; what happens
to it on the way through the file is `Element.reread`.

## Where the missing fields and the patch part

A patch may set the languages or the identifiers to nothing. The target has no element for them
then, and they are named missing: clearing them is how the empty value reaches Calibre.

## Main definitions

* `buildTargetOpf`, `replaceDc` — of `apply/engine.py`
* `missingOptionalOpfFields`, `setMetadata` — of `calibre/cli.py`
* `patchEdits` — what a patch puts into a document
* `MetadataFrame` — what a patch leaves of the metadata
* `Calibredb` — what `calibredb` does with the commands

## Main results

* `setMetadata_run` — after clearing and loading, every optional field is what the document says
* `target_opf_frame` — the target has the patch and otherwise the backup, and rolls back
-/

namespace Bookwarden

open Xml

namespace Opf

/-! ### Names -/

/-- `DC`. -/
def DC : String := "http://purl.org/dc/elements/1.1/"

/-- `OPF`. -/
def OPF : String := "http://www.idpf.org/2007/opf"

def dc (tag : String) : QName := ⟨DC, tag⟩

def opf (tag : String) : QName := ⟨OPF, tag⟩

/-- An attribute name without a namespace. -/
def attr (name : String) : QName := ⟨"", name⟩

/-! ### `_build_target_opf` -/

/-- `SubElement(metadata, DC tag)` with its text. -/
def dcElement (tag value : String) : Element := { tag := dc tag, text := value }

/-- The identifier element of `_build_target_opf`. -/
def identifierElement (py : Runtime) (scheme value : String) : Element :=
  { tag := dc "identifier", attrib := [(opf "scheme", py.upper scheme)], text := value }

/-- The meta element of `_build_target_opf`. -/
def metaElement (name content : String) : Element :=
  { tag := opf "meta", attrib := [(attr "name", name), (attr "content", content)] }

/-- `_replace_dc`. -/
def replaceDc (metadata : Element) (tag : String) (values : List String) : Element :=
  { metadata with
    children := metadata.children.filter (fun e => e.tag ≠ dc tag) ++ values.map (dcElement tag) }

/-- `sorted(items())` of a dictionary: its keys are distinct, so the values are never compared. -/
def sortedItems {α : Type} (kvs : List (String × α)) : List (String × α) :=
  kvs.insertionSort fun a b => a.1 ≤ b.1

/-- `value if isinstance(value, list) else [value]`. -/
def asList : Json → List Json
  | .arr xs => xs
  | v => [v]

/-- `scalar_fields`. -/
def scalarFields : List (String × String) :=
  [("title", "title"), ("publisher", "publisher"), ("pubdate", "date")]

/-- The loop over `scalar_fields`. -/
def editScalars (py : Runtime) (patch : Dict) (metadata : Element) : Element :=
  scalarFields.foldl (fun acc f =>
    if patch.has f.1 then replaceDc acc f.2 [(patch.get f.1).toStr py] else acc) metadata

/-- The branches for `authors` and `languages`. -/
def editList (py : Runtime) (patch : Dict) (field tag : String) (metadata : Element) : Element :=
  if patch.has field then
    replaceDc metadata tag ((asList (patch.get field)).map (Json.toStr py))
  else metadata

/-- The branch for `identifiers`. -/
def editIdentifiers (py : Runtime) (patch : Dict) (metadata : Element) : Element :=
  match patch.get "identifiers" with
  | .obj kvs =>
    { metadata with
      children := metadata.children.filter (fun e => e.tag ≠ dc "identifier")
        ++ (sortedItems kvs).map fun item => identifierElement py item.1 (item.2.toStr py) }
  | _ => metadata

/-- One round of the loop over the series fields. -/
def editMeta (py : Runtime) (patch : Dict) (field name : String) (metadata : Element) : Element :=
  if patch.has field then
    { metadata with
      children :=
        metadata.children.filter
          (fun e => ¬(e.tag = opf "meta" ∧ e.get (attr "name") = some name))
        ++ [metaElement name ((patch.get field).toStr py)] }
  else metadata

/-- The edits of the metadata element, in their order. -/
def editMetadata (py : Runtime) (patch : Dict) (metadata : Element) : Element :=
  let metadata := editScalars py patch metadata
  let metadata := editList py patch "authors" "creator" metadata
  let metadata := editList py patch "languages" "language" metadata
  let metadata := editIdentifiers py patch metadata
  let metadata := editMeta py patch "series" "calibre:series" metadata
  editMeta py patch "series_index" "calibre:series_index" metadata

/-- `_build_target_opf`, from the parsed backup to the tree it writes. -/
def buildTargetOpf (py : Runtime) (root : Element) (patch : Dict) : Except PyError Element :=
  match root.find (opf "metadata") with
  | none => .error ⟨.value, "backup OPF has no metadata element"⟩
  | some metadata =>
    .ok { root with
      children :=
        Element.replaceFirst (opf "metadata") (editMetadata py patch metadata) root.children }

/-! ### `set_metadata` -/

/-- The pairs of `_missing_optional_opf_fields`. -/
def optionalDcFields : List (String × String) :=
  [("publisher", "publisher"), ("pubdate", "date"), ("languages", "language"),
    ("identifiers", "identifier")]

local instance lawfulBEq_optionString : LawfulBEq (Option String) := inferInstance

/-- `_missing_optional_opf_fields`, of the document at a path. -/
def missingOptionalOpfFields (opfPath : String) (root : Element) : Except PyError (List String) :=
  match root.find (opf "metadata") with
  | none => .error ⟨.other, "OPF metadata element is missing: " ++ opfPath⟩
  | some metadata =>
    let missing := (optionalDcFields.filter fun f => (metadata.find (dc f.2)).isNone).map Prod.fst
    let metaNames := (metadata.findall (opf "meta")).map fun e => e.get (attr "name")
    .ok (if some "calibre:series" ∈ metaNames then missing else missing ++ ["series"])

/-- The commands that `set_metadata` runs. -/
inductive Command
  /-- `calibredb set_metadata ID --field NAME: …`. -/
  | clear (bookId : ℕ) (fields : List String)
  /-- `calibredb set_metadata ID PATH`. -/
  | load (bookId : ℕ) (root : Element)

/-- `set_metadata` and `set_metadata_from_fd`. -/
def setMetadata (bookId : ℕ) (opfPath : String) (root : Element) :
    Except PyError (List Command) := do
  let missing ← missingOptionalOpfFields opfPath root
  if missing = [] then .ok [.load bookId root]
  else .ok [.clear bookId missing, .load bookId root]

/-! ### `calibredb` -/

/-- The fields that `set_metadata` clears when a document lacks them. -/
inductive OptionalField
  | publisher
  | pubdate
  | languages
  | identifiers
  | series
  deriving DecidableEq, Repr

/-- The kind of a metadata element: its name, and the `name` of a `meta`. -/
structure Kind where
  tag : QName
  metaName : Option String
  deriving DecidableEq

def kind (e : Element) : Kind :=
  ⟨e.tag, if e.tag = opf "meta" then e.get (attr "name") else none⟩

namespace OptionalField

/-- Calibre's name of the field. -/
def name : OptionalField → String
  | publisher => "publisher"
  | pubdate => "pubdate"
  | languages => "languages"
  | identifiers => "identifiers"
  | series => "series"

/-- The elements that say the field. -/
def kind : OptionalField → Kind
  | publisher => ⟨dc "publisher", none⟩
  | pubdate => ⟨dc "date", none⟩
  | languages => ⟨dc "language", none⟩
  | identifiers => ⟨dc "identifier", none⟩
  | series => ⟨opf "meta", some "calibre:series"⟩

/-- What a document has of the field. -/
def elements (f : OptionalField) (root : Element) : List Element :=
  match root.find (opf "metadata") with
  | none => []
  | some metadata => metadata.children.filter fun e => Opf.kind e = f.kind

/-- A patch gives the field. -/
def SetBy (p : CanonicalPatch) : OptionalField → Prop
  | publisher => p.publisher ≠ none
  | pubdate => p.pubdate ≠ none
  | languages => p.languages ≠ none
  | identifiers => p.identifiers ≠ none
  | series => p.series ≠ none

/-- A patch gives the field no value. -/
def EmptiedBy (p : CanonicalPatch) : OptionalField → Prop
  | languages => p.languages = some []
  | identifiers => p.identifiers = some []
  | _ => False

end OptionalField

/-- What `calibredb` makes of a field: the value it stores for the elements of a document, and the
value of a cleared field. -/
structure Calibredb (α : Type*) where
  stored : OptionalField → List Element → α
  blank : OptionalField → α

/-- The optional fields of every book of a library. -/
abbrev Books (α : Type*) := ℕ → OptionalField → α

namespace Calibredb

variable {α : Type*} (db : Calibredb α)

/-- One command; a document changes only the fields that it has. -/
def run (library : Books α) : Command → Books α
  | .clear bookId fields =>
    Function.update library bookId fun f =>
      if f.name ∈ fields then db.blank f else library bookId f
  | .load bookId root =>
    Function.update library bookId fun f =>
      if f.elements root = [] then library bookId f else db.stored f (f.elements root)

def runAll (library : Books α) (commands : List Command) : Books α :=
  commands.foldl db.run library

/-- What a document says of a field, when a lacking field is empty. -/
def reading (root : Element) (f : OptionalField) : α :=
  if f.elements root = [] then db.blank f else db.stored f (f.elements root)

end Calibredb

/-! ### A patch as edits of different kinds -/

variable (py : Runtime)

/-- The edit of a Dublin Core element. -/
def dcEdit (tag : String) (values : Option (List String)) : List (Kind × List Element) :=
  values.toList.map fun vs => (⟨dc tag, none⟩, vs.map (dcElement tag))

/-- The edit of the identifiers. -/
def identifierEdit (ids : Option Identifiers) : List (Kind × List Element) :=
  ids.toList.map fun ids =>
    (⟨dc "identifier", none⟩, (sortedItems ids).map fun a => identifierElement py a.1 a.2)

/-- The edit of a named meta. -/
def metaEdit (name : String) (content : Option String) : List (Kind × List Element) :=
  content.toList.map fun v => (⟨opf "meta", some name⟩, [metaElement name v])

/-- The kinds of elements a patch replaces and what it puts in their place. -/
def patchEdits (p : CanonicalPatch) : List (Kind × List Element) :=
  dcEdit "title" (p.title.map fun v => [v])
    ++ dcEdit "publisher" (p.publisher.map fun v => [v])
    ++ dcEdit "date" (p.pubdate.map fun v => [v])
    ++ dcEdit "creator" p.authors
    ++ dcEdit "language" p.languages
    ++ identifierEdit py p.identifiers
    ++ metaEdit "calibre:series" p.series
    ++ metaEdit "calibre:series_index" (p.seriesIndex.map fun q => Json.toStr py (.float q))

/-- The kinds of elements that a patch concerns. -/
def patchedKinds (p : CanonicalPatch) : List Kind := (patchEdits py p).map Prod.fst

variable {py} {p : CanonicalPatch} {metadata e : Element}

theorem opf_meta_ne_dc (tag : String) : opf "meta" ≠ dc tag := by
  intro h
  have hns : OPF = DC := congrArg QName.namespaceName h
  exact absurd hns (by decide)

/-- A kind without a `meta` name is just the name of the element. -/
theorem kind_eq_dc_iff {tag : String} : kind e = ⟨dc tag, none⟩ ↔ e.tag = dc tag := by
  constructor
  · exact fun h => congrArg Kind.tag h
  · intro h
    have hne : e.tag ≠ opf "meta" := fun hm => opf_meta_ne_dc tag (hm.symm.trans h)
    rw [kind, if_neg hne, h]

theorem kind_eq_meta_iff {name : String} :
    kind e = ⟨opf "meta", some name⟩ ↔ e.tag = opf "meta" ∧ e.get (attr "name") = some name := by
  constructor
  · intro h
    have htag : e.tag = opf "meta" := congrArg Kind.tag h
    have hname := congrArg Kind.metaName h
    rw [kind, if_pos htag] at hname
    exact ⟨htag, hname⟩
  · rintro ⟨htag, hname⟩
    rw [kind, if_pos htag, htag, hname]

theorem filter_kind_dc (tag : String) (l : List Element) :
    l.filter (fun e => kind e = ⟨dc tag, none⟩) = l.filter fun e => e.tag = dc tag :=
  List.filter_congr fun _ _ => decide_eq_decide.mpr kind_eq_dc_iff

/-- Edits of the children, with everything else of the element as it was. -/
def applyEdits (edits : List (Kind × List Element)) (metadata : Element) : Element :=
  { metadata with children := Regroup.replaceAll kind edits metadata.children }

@[simp] theorem applyEdits_nil (metadata : Element) : applyEdits [] metadata = metadata := by
  cases metadata
  rfl

theorem applyEdits_append (edits edits' : List (Kind × List Element)) (metadata : Element) :
    applyEdits (edits ++ edits') metadata = applyEdits edits' (applyEdits edits metadata) := by
  simp only [applyEdits, Regroup.replaceAll_append]

theorem replaceDc_eq (tag : String) (values : List String) :
    replaceDc metadata tag values = applyEdits (dcEdit tag (some values)) metadata := by
  have hkept : metadata.children.filter (fun e => e.tag ≠ dc tag) =
      metadata.children.filter fun e => kind e ≠ ⟨dc tag, none⟩ :=
    List.filter_congr fun _ _ => decide_eq_decide.mpr (not_congr kind_eq_dc_iff.symm)
  rw [replaceDc, hkept]
  rfl

section Dump

variable {patch : Dict} {field tag name : String}

/-- A field that a dictionary has once and for all is found by `has` and by `get`. -/
theorem has_get_of_get? {v : Option Json} (h : Assoc.get? field patch = v) :
    patch.has field = v.isSome ∧ patch.get field = v.getD .null := by
  rw [Dict.has, Dict.get, h]
  exact ⟨rfl, rfl⟩

theorem editScalar_eq {v : Option String} (h : Assoc.get? field patch = v.map .str) :
    (if patch.has field then replaceDc metadata tag [(patch.get field).toStr py] else metadata) =
      applyEdits (dcEdit tag (v.map fun s => [s])) metadata := by
  obtain ⟨hhas, hget⟩ := has_get_of_get? h
  rw [hhas, hget]
  cases v with
  | none => exact (applyEdits_nil metadata).symm
  | some s => exact replaceDc_eq tag [s]

theorem editList_eq {v : Option (List String)} (h : Assoc.get? field patch = v.map .strs) :
    editList py patch field tag metadata = applyEdits (dcEdit tag v) metadata := by
  obtain ⟨hhas, hget⟩ := has_get_of_get? h
  rw [editList, hhas, hget]
  cases v with
  | none => exact (applyEdits_nil metadata).symm
  | some vs =>
    have hstrs : (vs.map Json.str).map (Json.toStr py) = vs := by
      rw [List.map_map]
      exact List.map_id vs
    show replaceDc metadata tag ((vs.map Json.str).map (Json.toStr py)) = _
    rw [hstrs, replaceDc_eq]

/-- Sorting by the keys does not look at the values. -/
theorem sortedItems_map {α β : Type} (f : α → β) (kvs : List (String × α)) :
    sortedItems (kvs.map fun a => (a.1, f a.2)) = (sortedItems kvs).map fun a => (a.1, f a.2) :=
  (List.map_insertionSort _ _ (fun a : String × α => (a.1, f a.2)) kvs fun _ _ _ _ => Iff.rfl).symm

theorem editIdentifiers_eq {ids : Option Identifiers}
    (h : Assoc.get? "identifiers" patch = ids.map .strDict) :
    editIdentifiers py patch metadata = applyEdits (identifierEdit py ids) metadata := by
  obtain ⟨-, hget⟩ := has_get_of_get? h
  rw [editIdentifiers, hget]
  cases ids with
  | none => exact (applyEdits_nil metadata).symm
  | some ids =>
    have hkept : metadata.children.filter (fun e => e.tag ≠ dc "identifier") =
        metadata.children.filter fun e => kind e ≠ ⟨dc "identifier", none⟩ :=
      List.filter_congr fun _ _ => decide_eq_decide.mpr (not_congr kind_eq_dc_iff.symm)
    show ({ metadata with
      children := metadata.children.filter (fun e => e.tag ≠ dc "identifier")
        ++ (sortedItems (ids.map fun a => (a.1, Json.str a.2))).map
          fun item => identifierElement py item.1 (item.2.toStr py) } : Element) = _
    rw [hkept, sortedItems_map, List.map_map]
    rfl

theorem editMeta_eq {α : Type} {render : α → Json} {v : Option α}
    (h : Assoc.get? field patch = v.map render) :
    editMeta py patch field name metadata =
      applyEdits (metaEdit name (v.map fun a => (render a).toStr py)) metadata := by
  obtain ⟨hhas, hget⟩ := has_get_of_get? h
  rw [editMeta, hhas, hget]
  cases v with
  | none => exact (applyEdits_nil metadata).symm
  | some a =>
    have hkept : metadata.children.filter
          (fun e => ¬(e.tag = opf "meta" ∧ e.get (attr "name") = some name)) =
        metadata.children.filter fun e => kind e ≠ ⟨opf "meta", some name⟩ :=
      List.filter_congr fun _ _ => decide_eq_decide.mpr (not_congr kind_eq_meta_iff.symm)
    show ({ metadata with
      children := metadata.children.filter
          (fun e => ¬(e.tag = opf "meta" ∧ e.get (attr "name") = some name))
        ++ [metaElement name ((render a).toStr py)] } : Element) = _
    rw [hkept]
    rfl

end Dump

/-- The edits of the code are the edits of the patch. -/
theorem editMetadata_dump (metadata : Element) :
    editMetadata py p.dump metadata = applyEdits (patchEdits py p) metadata := by
  have htitle : ∀ m, (if p.dump.has "title" then replaceDc m "title" [(p.dump.get "title").toStr py]
      else m) = applyEdits (dcEdit "title" (p.title.map fun v => [v])) m :=
    fun _ => editScalar_eq (by simp [CanonicalPatch.dump, Assoc.get?_append])
  have hpublisher : ∀ m, (if p.dump.has "publisher" then
      replaceDc m "publisher" [(p.dump.get "publisher").toStr py] else m) =
        applyEdits (dcEdit "publisher" (p.publisher.map fun v => [v])) m :=
    fun _ => editScalar_eq (by simp [CanonicalPatch.dump, Assoc.get?_append])
  have hpubdate : ∀ m, (if p.dump.has "pubdate" then
      replaceDc m "date" [(p.dump.get "pubdate").toStr py] else m) =
        applyEdits (dcEdit "date" (p.pubdate.map fun v => [v])) m :=
    fun _ => editScalar_eq (by simp [CanonicalPatch.dump, Assoc.get?_append])
  have hauthors : ∀ m, editList py p.dump "authors" "creator" m =
      applyEdits (dcEdit "creator" p.authors) m :=
    fun _ => editList_eq (by simp [CanonicalPatch.dump, Assoc.get?_append])
  have hlanguages : ∀ m, editList py p.dump "languages" "language" m =
      applyEdits (dcEdit "language" p.languages) m :=
    fun _ => editList_eq (by simp [CanonicalPatch.dump, Assoc.get?_append])
  have hidentifiers : ∀ m, editIdentifiers py p.dump m =
      applyEdits (identifierEdit py p.identifiers) m :=
    fun _ => editIdentifiers_eq (by simp [CanonicalPatch.dump, Assoc.get?_append])
  have hseries : ∀ m, editMeta py p.dump "series" "calibre:series" m =
      applyEdits (metaEdit "calibre:series" p.series) m := by
    intro m
    have hid : p.series.map (fun s => (Json.str s).toStr py) = p.series := by
      cases p.series <;> rfl
    rw [← hid]
    exact editMeta_eq (by simp [CanonicalPatch.dump, Assoc.get?_append])
  have hindex : ∀ m, editMeta py p.dump "series_index" "calibre:series_index" m =
      applyEdits (metaEdit "calibre:series_index"
        (p.seriesIndex.map fun q => Json.toStr py (.float q))) m :=
    fun _ => editMeta_eq (by simp [CanonicalPatch.dump, Assoc.get?_append])
  simp only [editMetadata, editScalars, scalarFields, List.foldl_cons, List.foldl_nil, patchEdits,
    applyEdits_append, htitle, hpublisher, hpubdate, hauthors, hlanguages, hidentifiers, hseries,
    hindex]

/-! ### The edits are of different kinds -/

theorem keys_dcEdit (tag : String) (values : Option (List String)) :
    ((dcEdit tag values).map Prod.fst).Sublist [⟨dc tag, none⟩] := by
  cases values with
  | none => exact List.nil_sublist _
  | some vs => exact List.Sublist.refl _

theorem keys_identifierEdit (ids : Option Identifiers) :
    ((identifierEdit py ids).map Prod.fst).Sublist [⟨dc "identifier", none⟩] := by
  cases ids with
  | none => exact List.nil_sublist _
  | some ids => exact List.Sublist.refl _

theorem keys_metaEdit (name : String) (content : Option String) :
    ((metaEdit name content).map Prod.fst).Sublist [⟨opf "meta", some name⟩] := by
  cases content with
  | none => exact List.nil_sublist _
  | some v => exact List.Sublist.refl _

theorem patchedKinds_sublist :
    (patchedKinds py p).Sublist [⟨dc "title", none⟩, ⟨dc "publisher", none⟩, ⟨dc "date", none⟩,
      ⟨dc "creator", none⟩, ⟨dc "language", none⟩, ⟨dc "identifier", none⟩,
      ⟨opf "meta", some "calibre:series"⟩, ⟨opf "meta", some "calibre:series_index"⟩] := by
  simp only [patchedKinds, patchEdits, List.map_append]
  exact (((((((keys_dcEdit "title" _).append (keys_dcEdit "publisher" _)).append
    (keys_dcEdit "date" _)).append (keys_dcEdit "creator" _)).append
    (keys_dcEdit "language" _)).append (keys_identifierEdit _)).append
    (keys_metaEdit "calibre:series" _)).append (keys_metaEdit "calibre:series_index" _)

theorem own_dcEdit {tag : String} {values : Option (List String)} {edit : Kind × List Element}
    (h : edit ∈ dcEdit tag values) : ∀ e ∈ edit.2, kind e = edit.1 := by
  obtain ⟨vs, -, rfl⟩ := List.mem_map.mp h
  intro e he
  obtain ⟨v, -, rfl⟩ := List.mem_map.mp he
  exact kind_eq_dc_iff.mpr rfl

theorem own_identifierEdit {ids : Option Identifiers} {edit : Kind × List Element}
    (h : edit ∈ identifierEdit py ids) : ∀ e ∈ edit.2, kind e = edit.1 := by
  obtain ⟨ids, -, rfl⟩ := List.mem_map.mp h
  intro e he
  obtain ⟨a, -, rfl⟩ := List.mem_map.mp he
  exact kind_eq_dc_iff.mpr rfl

theorem own_metaEdit {name : String} {content : Option String} {edit : Kind × List Element}
    (h : edit ∈ metaEdit name content) : ∀ e ∈ edit.2, kind e = edit.1 := by
  obtain ⟨v, -, rfl⟩ := List.mem_map.mp h
  intro e he
  rw [List.mem_singleton.mp he]
  have hname : (metaElement name v).get (attr "name") = some name := by
    simp [Element.get, metaElement, Assoc.get?]
  exact kind_eq_meta_iff.mpr ⟨rfl, hname⟩

theorem keyed_patchEdits : Regroup.Keyed kind (patchEdits py p) where
  nodup := List.Nodup.sublist patchedKinds_sublist (by decide)
  own := by
    intro edit hedit
    simp only [patchEdits, List.mem_append] at hedit
    rcases hedit with ((((((h | h) | h) | h) | h) | h) | h) | h
    · exact own_dcEdit h
    · exact own_dcEdit h
    · exact own_dcEdit h
    · exact own_dcEdit h
    · exact own_dcEdit h
    · exact own_identifierEdit h
    · exact own_metaEdit h
    · exact own_metaEdit h

/-! ### The patched metadata -/

/-- The metas of a name. -/
def metas (metadata : Element) (name : String) : List Element :=
  metadata.children.filter fun e => e.tag = opf "meta" ∧ e.get (attr "name") = some name

/-- What a patch leaves of a metadata element: the patched kinds are the values of the patch, and
everything else is there as before and in its order. -/
structure MetadataFrame (py : Runtime) (p : CanonicalPatch) (before after : Element) : Prop where
  title : ∀ v, p.title = some v → after.findall (dc "title") = [dcElement "title" v]
  publisher : ∀ v, p.publisher = some v → after.findall (dc "publisher") = [dcElement "publisher" v]
  pubdate : ∀ v, p.pubdate = some v → after.findall (dc "date") = [dcElement "date" v]
  authors : ∀ vs, p.authors = some vs → after.findall (dc "creator") = vs.map (dcElement "creator")
  languages : ∀ vs, p.languages = some vs →
    after.findall (dc "language") = vs.map (dcElement "language")
  identifiers : ∀ ids, p.identifiers = some ids → after.findall (dc "identifier") =
    (sortedItems ids).map fun a => identifierElement py a.1 a.2
  series : ∀ v, p.series = some v →
    metas after "calibre:series" = [metaElement "calibre:series" v]
  seriesIndex : ∀ q, p.seriesIndex = some q → metas after "calibre:series_index" =
    [metaElement "calibre:series_index" (Json.toStr py (.float q))]
  others : after.children.filter (fun e => kind e ∉ patchedKinds py p) =
    before.children.filter fun e => kind e ∉ patchedKinds py p
  head : after.head = before.head ∧ after.text = before.text ∧ after.tail = before.tail

theorem findall_applyEdits {tag : String} (values : List String)
    (h : dcEdit tag (some values) ⊆ patchEdits py p) :
    (applyEdits (patchEdits py p) metadata).findall (dc tag) = values.map (dcElement tag) := by
  rw [Element.findall, ← filter_kind_dc]
  exact Regroup.group_replaceAll_of_mem keyed_patchEdits (h List.mem_cons_self) _

theorem metas_applyEdits {name content : String}
    (h : metaEdit name (some content) ⊆ patchEdits py p) :
    metas (applyEdits (patchEdits py p) metadata) name = [metaElement name content] := by
  have hkind : ∀ l : List Element,
      l.filter (fun e => e.tag = opf "meta" ∧ e.get (attr "name") = some name) =
        l.filter fun e => kind e = ⟨opf "meta", some name⟩ := fun l =>
    List.filter_congr fun _ _ => decide_eq_decide.mpr kind_eq_meta_iff.symm
  rw [metas, hkind]
  exact Regroup.group_replaceAll_of_mem keyed_patchEdits (h List.mem_cons_self) _

theorem metadataFrame_applyEdits (metadata : Element) :
    MetadataFrame py p metadata (applyEdits (patchEdits py p) metadata) where
  title v h := findall_applyEdits [v] fun e he => by simp_all [patchEdits]
  publisher v h := findall_applyEdits [v] fun e he => by simp_all [patchEdits]
  pubdate v h := findall_applyEdits [v] fun e he => by simp_all [patchEdits]
  authors vs h := findall_applyEdits vs fun e he => by simp_all [patchEdits]
  languages vs h := findall_applyEdits vs fun e he => by simp_all [patchEdits]
  identifiers ids h := by
    have hmem : identifierEdit py (some ids) ⊆ patchEdits py p := fun e he => by
      simp_all [patchEdits]
    rw [Element.findall, ← filter_kind_dc]
    exact Regroup.group_replaceAll_of_mem keyed_patchEdits (hmem List.mem_cons_self) _
  series v h := metas_applyEdits fun e he => by simp_all [patchEdits]
  seriesIndex q h := metas_applyEdits fun e he => by simp_all [patchEdits]
  others := by
    have hkeyed : Regroup.Keyed kind (patchEdits py p) := keyed_patchEdits
    exact Regroup.others_replaceAll hkeyed metadata.children
  head := ⟨rfl, rfl, rfl⟩

/-! ### The target document -/

/-- The first element of a name is found, with what stands before and after it. -/
theorem find_split {tag : QName} {l : List Element} {m : Element}
    (h : l.find? (fun c => c.tag = tag) = some m) :
    ∃ pre post, l = pre ++ m :: post ∧ (∀ e ∈ pre, e.tag ≠ tag) ∧
      ∀ new, Element.replaceFirst tag new l = pre ++ new :: post := by
  induction l with
  | nil => cases h
  | cons c cs ih =>
    rw [List.find?_cons] at h
    by_cases hc : c.tag = tag
    · rw [decide_eq_true hc] at h
      obtain rfl := Option.some.inj h
      exact ⟨[], cs, rfl, by simp, fun new => if_pos hc⟩
    · rw [decide_eq_false hc] at h
      obtain ⟨pre, post, rfl, hpre, hnew⟩ := ih h
      refine ⟨c :: pre, post, rfl, ?_, fun new => ?_⟩
      · intro e he
        rcases List.mem_cons.mp he with rfl | he
        · exact hc
        · exact hpre e he
      · rw [Element.replaceFirst, if_neg hc, hnew]
        rfl

theorem find_middle {tag : QName} {pre post : List Element} {m : Element} (htag : m.tag = tag)
    (hpre : ∀ e ∈ pre, e.tag ≠ tag) :
    (pre ++ m :: post).find? (fun c => c.tag = tag) = some m := by
  have hnone : pre.find? (fun c => c.tag = tag) = none := by
    simpa [List.find?_eq_none] using hpre
  rw [List.find?_append, hnone, Option.none_or, List.find?_cons, decide_eq_true htag]

/-- What the code builds for a canonical patch. -/
theorem buildTargetOpf_dump (py : Runtime) (p : CanonicalPatch) {backup : Element}
    (h : backup.find (opf "metadata") = some metadata) :
    ∃ pre post, backup.children = pre ++ metadata :: post ∧
      buildTargetOpf py backup p.dump =
        .ok { backup with children := pre ++ applyEdits (patchEdits py p) metadata :: post } ∧
      ({ backup with children := pre ++ applyEdits (patchEdits py p) metadata :: post } :
        Element).find (opf "metadata") = some (applyEdits (patchEdits py p) metadata) := by
  obtain ⟨pre, post, hchildren, hpre, hnew⟩ := find_split h
  have htag : metadata.tag = opf "metadata" := of_decide_eq_true (List.find?_some h :)
  refine ⟨pre, post, hchildren, ?_, find_middle htag hpre⟩
  simp only [buildTargetOpf, h, editMetadata_dump, hnew]

/-- A patch whose texts XML hands on unchanged: legal characters, and no carriage return in the
text of an element. -/
def PatchCarried (py : Runtime) (p : CanonicalPatch) : Prop :=
  ∀ edit ∈ patchEdits py p, ∀ e ∈ edit.2, e.carried = true

instance : Decidable (PatchCarried py p) :=
  inferInstanceAs (Decidable (∀ edit ∈ patchEdits py p, ∀ e ∈ edit.2, e.carried = true))

theorem carried_iff : e.carried = true ↔
    e.attrib.all (fun a => legal a.2) = true ∧ plain e.text = true ∧
      (∀ c ∈ e.children, c.carried = true) ∧ plain e.tail = true := by
  obtain ⟨tag, attrib, text, children, tail⟩ := e
  rw [Element.carried, Bool.and_eq_true, Bool.and_eq_true, Bool.and_eq_true, allCarried_iff]
  tauto

theorem carried_applyEdits (hpatch : PatchCarried py p) (h : metadata.carried = true) :
    (applyEdits (patchEdits py p) metadata).carried = true := by
  obtain ⟨hattrib, htext, hchildren, htail⟩ := carried_iff.mp h
  refine carried_iff.mpr ⟨hattrib, htext, fun c hc => ?_, htail⟩
  have hc : c ∈ Regroup.replaceAll kind (patchEdits py p) metadata.children := hc
  rw [Regroup.replaceAll_eq keyed_patchEdits, List.mem_append] at hc
  rcases hc with hold | hnew
  · exact hchildren c (List.mem_filter.mp hold).1
  · obtain ⟨edit, hedit, hc⟩ := List.mem_flatMap.mp hnew
    exact hpatch edit hedit c hc

/-! ### The optional fields of a document -/

theorem elements_of_find {root : Element} (h : root.find (opf "metadata") = some metadata)
    (f : OptionalField) :
    f.elements root = metadata.children.filter fun e => kind e = f.kind := by
  rw [OptionalField.elements, h]

theorem elements_eq_nil_iff {root : Element} (h : root.find (opf "metadata") = some metadata)
    {f : OptionalField} : f.elements root = [] ↔ ∀ e ∈ metadata.children, kind e ≠ f.kind := by
  rw [elements_of_find h, List.filter_eq_nil_iff]
  simp only [decide_eq_true_eq, ne_eq]

theorem find_isNone_iff {tag : String} : (metadata.find (dc tag)).isNone = true ↔
    ∀ e ∈ metadata.children, kind e ≠ ⟨dc tag, none⟩ := by
  simp only [Option.isNone_iff_eq_none, Element.find, List.find?_eq_none, decide_eq_true_eq, ne_eq,
    kind_eq_dc_iff]

/-- The missing fields are those that the document has no element of. -/
theorem missing_iff {root : Element} (h : root.find (opf "metadata") = some metadata)
    (opfPath : String) :
    ∃ missing, missingOptionalOpfFields opfPath root = .ok missing ∧
      ∀ f : OptionalField, f.name ∈ missing ↔ f.elements root = [] := by
  have hseries : some "calibre:series" ∉
      (metadata.findall (opf "meta")).map (fun e => e.get (attr "name")) ↔
        ∀ e ∈ metadata.children, kind e ≠ ⟨opf "meta", some "calibre:series"⟩ := by
    simp [Element.findall, kind_eq_meta_iff]
  have hdc := fun tag => @find_isNone_iff metadata tag
  simp only [missingOptionalOpfFields, h]
  refine ⟨_, rfl, fun f => ?_⟩
  rw [elements_eq_nil_iff h]
  split
  · rename_i hin
    have hsome := (not_congr hseries).mp (not_not.mpr hin)
    cases f <;> simp only [OptionalField.kind, ← hdc, iff_false_right hsome] <;>
      simp [optionalDcFields, OptionalField.name]
  · rename_i hout
    have hnone := hseries.mp hout
    cases f <;> simp only [OptionalField.kind, ← hdc, iff_true_right hnone] <;>
      simp [optionalDcFields, OptionalField.name]

/-- Clearing the missing fields and loading the document makes every optional field of the book
what the document says. -/
theorem setMetadata_run {root : Element} (h : root.find (opf "metadata") = some metadata)
    (bookId : ℕ) (opfPath : String) :
    ∃ commands, setMetadata bookId opfPath root = .ok commands ∧
      ∀ (α : Type) (db : Calibredb α) (library : Books α),
        db.runAll library commands = Function.update library bookId (db.reading root) := by
  obtain ⟨missing, hmissing, hnames⟩ := missing_iff h opfPath
  have hload : ∀ (α : Type) (db : Calibredb α) (fields : OptionalField → α),
      (∀ f : OptionalField, f.elements root = [] → fields f = db.blank f) → (fun f : OptionalField =>
        if f.elements root = [] then fields f else db.stored f (f.elements root)) =
          db.reading root := by
    intro α db fields hblank
    funext f
    by_cases hf : f.elements root = []
    · rw [if_pos hf, hblank f hf, Calibredb.reading, if_pos hf]
    · rw [if_neg hf, Calibredb.reading, if_neg hf]
  simp only [setMetadata, hmissing]
  by_cases hnil : missing = []
  · refine ⟨[.load bookId root], by simp [hnil, bind, Except.bind],
      fun α db library => ?_⟩
    -- nothing is missing, so the document has every field
    have hall : ∀ f : OptionalField, f.elements root = [] → library bookId f = db.blank f := by
      intro f hf
      rw [← hnames f, hnil] at hf
      cases hf
    show Function.update library bookId _ = _
    rw [hload α db _ hall]
  · refine ⟨[.clear bookId missing, .load bookId root], by simp [hnil, bind, Except.bind],
      fun α db library => ?_⟩
    have hcleared : ∀ f : OptionalField, f.elements root = [] →
        db.run library (.clear bookId missing) bookId f = db.blank f := by
      intro f hf
      simp only [Calibredb.run, Function.update_self]
      exact if_pos ((hnames f).mpr hf)
    show Function.update (Function.update library bookId _) bookId _ = _
    rw [Function.update_idem, hload α db _ hcleared]

/-- What a patch gives an optional field. -/
def OptionalField.given (py : Runtime) (p : CanonicalPatch) :
    OptionalField → Option (List Element)
  | publisher => p.publisher.map fun v => [dcElement "publisher" v]
  | pubdate => p.pubdate.map fun v => [dcElement "date" v]
  | languages => p.languages.map fun vs => vs.map (dcElement "language")
  | identifiers => p.identifiers.map fun ids =>
    (sortedItems ids).map fun a => identifierElement py a.1 a.2
  | series => p.series.map fun v => [metaElement "calibre:series" v]

theorem given_eq_none_iff {f : OptionalField} : f.given py p = none ↔ ¬f.SetBy p := by
  cases f <;> simp [OptionalField.given, OptionalField.SetBy]

theorem given_eq_nil_iff {f : OptionalField} : f.given py p = some [] ↔ f.EmptiedBy p := by
  have hsorted : ∀ ids : Identifiers, sortedItems ids = [] ↔ ids = [] := fun ids => by
    rw [← List.length_eq_zero_iff, sortedItems, List.length_insertionSort, List.length_eq_zero_iff]
  cases f <;> simp [OptionalField.given, OptionalField.EmptiedBy, hsorted]

theorem mem_patchEdits_of_given {f : OptionalField} {news : List Element}
    (h : f.given py p = some news) : (f.kind, news) ∈ patchEdits py p := by
  cases f <;> simp only [OptionalField.given, Option.map_eq_some_iff] at h <;>
    obtain ⟨v, hv, rfl⟩ := h <;>
    simp [patchEdits, OptionalField.kind, dcEdit, identifierEdit, metaEdit, hv]

theorem kind_notMem_of_given {f : OptionalField} (h : f.given py p = none) :
    f.kind ∉ patchedKinds py p := by
  have hdc : ∀ tag tag' : String, (dc tag = dc tag') = (tag = tag') := fun tag tag' => by simp [dc]
  cases f <;> simp only [OptionalField.given, Option.map_eq_none_iff] at h <;>
    simp [patchedKinds, patchEdits, OptionalField.kind, dcEdit, identifierEdit, metaEdit, h, hdc,
      eq_comm]

/-- The optional field of the patched metadata is what the patch gives, or what it was. -/
theorem elements_applyEdits (f : OptionalField) :
    (applyEdits (patchEdits py p) metadata).children.filter (fun e => kind e = f.kind) =
      (f.given py p).getD (metadata.children.filter fun e => kind e = f.kind) := by
  cases hgiven : f.given py p with
  | none =>
    exact Regroup.group_replaceAll_of_notMem keyed_patchEdits (kind_notMem_of_given hgiven) _
  | some news =>
    exact Regroup.group_replaceAll_of_mem keyed_patchEdits (mem_patchEdits_of_given hgiven) _

/-! ### The document in the file -/

theorem find_rereadAll {tag : QName} {es es' : List Element} {m : Element}
    (h : rereadAll es = some es') (hfind : es.find? (fun c => c.tag = tag) = some m) :
    ∃ m', es'.find? (fun c => c.tag = tag) = some m' ∧ m.reread = some m' := by
  induction es generalizing es' with
  | nil => cases hfind
  | cons e es ih =>
    simp only [rereadAll, Option.bind_eq_bind, Option.bind_eq_some_iff, Option.some.injEq] at h
    obtain ⟨e', he, rest, hrest, rfl⟩ := h
    have htag : e'.tag = e.tag := congrArg Prod.fst (Element.reread_eq_some he).1
    rw [List.find?_cons] at hfind ⊢
    rw [htag]
    by_cases hc : e.tag = tag
    · rw [decide_eq_true hc] at hfind ⊢
      obtain rfl := Option.some.inj hfind
      exact ⟨e', rfl, he⟩
    · rw [decide_eq_false hc] at hfind ⊢
      exact ih hrest hfind

/-- The kind of an element is in its name and its attributes. -/
theorem kind_eq_of_head {e e' : Element} (h : e.head = e'.head) : kind e = kind e' := by
  have htag : e.tag = e'.tag := congrArg Prod.fst h
  have hattrib : e.attrib = e'.attrib := congrArg Prod.snd h
  simp only [kind, Element.get, htag, hattrib]

/-- A document has the same fields before and after it went through the file. -/
theorem elements_reread {root written : Element} (h : root.reread = some written)
    (hfind : root.find (opf "metadata") = some metadata) :
    (∃ metadata', written.find (opf "metadata") = some metadata') ∧
      ∀ f : OptionalField, f.elements written = [] ↔ f.elements root = [] := by
  obtain ⟨-, hchildren⟩ := Element.reread_eq_some h
  obtain ⟨metadata', hfind', hreread⟩ := find_rereadAll hchildren hfind
  refine ⟨⟨metadata', hfind'⟩, fun f => ?_⟩
  have hheads := map_head_rereadAll (Element.reread_eq_some hreread).2
  have hkinds : metadata'.children.map kind = metadata.children.map kind := by
    have hfactor : ∀ l : List Element, l.map kind =
        (l.map Element.head).map fun a => kind { tag := a.1, attrib := a.2 } := by
      intro l
      rw [List.map_map]
      exact List.map_congr_left fun e _ => kind_eq_of_head rfl
    rw [hfactor, hheads, ← hfactor]
  have hmem : ∀ l : List Element, (∀ e ∈ l, kind e ≠ f.kind) ↔ f.kind ∉ l.map kind := by
    intro l
    simp [List.mem_map]
  rw [elements_eq_nil_iff hfind', elements_eq_nil_iff hfind, hmem, hmem, hkinds]

/-! ### The frame -/

/-- The target has the values of the patch and otherwise the backup. In the file its missing
fields are those that the patch empties and those that it leaves alone and the backup lacks, and
applying the target and then the backup leaves the optional fields as they were. The file has just
the target when XML hands on every character of the patch and of the backup. -/
theorem target_opf_frame (py : Runtime) (p : CanonicalPatch) {backup metadata : Element}
    (h : backup.find (opf "metadata") = some metadata) :
    ∃ (target metadata' : Element) (pre post : List Element),
      buildTargetOpf py backup p.dump = .ok target ∧
      backup.children = pre ++ metadata :: post ∧
      target = { backup with children := pre ++ metadata' :: post } ∧
      target.find (opf "metadata") = some metadata' ∧
      MetadataFrame py p metadata metadata' ∧
      (backup.carried = true → PatchCarried py p → target.reread = some target) ∧
      ∀ written, target.reread = some written → ∀ (opfPath backupPath : String) (bookId : ℕ),
        (∃ missing lacking, missingOptionalOpfFields opfPath written = .ok missing ∧
          missingOptionalOpfFields backupPath backup = .ok lacking ∧
          ∀ f : OptionalField, f.name ∈ missing ↔
            f.EmptiedBy p ∨ ¬f.SetBy p ∧ f.name ∈ lacking) ∧
        ∃ apply rollback, setMetadata bookId opfPath written = .ok apply ∧
          setMetadata bookId backupPath backup = .ok rollback ∧
          ∀ (α : Type) (db : Calibredb α) (library : Books α),
            library bookId = db.reading backup →
            db.runAll library apply =
              Function.update library bookId (db.reading written) ∧
            (∀ f : OptionalField, written = target → ¬f.SetBy p →
              db.reading written f = library bookId f) ∧
            db.runAll (db.runAll library apply) rollback = library := by
  obtain ⟨pre, post, hchildren, hbuild, hfind⟩ := buildTargetOpf_dump py p h
  have helements : ∀ f : OptionalField,
      f.elements { backup with children := pre ++ applyEdits (patchEdits py p) metadata :: post } =
        (f.given py p).getD (f.elements backup) := by
    intro f
    rw [elements_of_find hfind, elements_of_find h, elements_applyEdits]
  refine ⟨_, _, pre, post, hbuild, hchildren, rfl, hfind, metadataFrame_applyEdits metadata, ?_,
    fun written hwritten opfPath backupPath bookId => ?_⟩
  · intro hbackup hpatch
    obtain ⟨hattrib, htext, hcarried, htail⟩ := carried_iff.mp hbackup
    rw [hchildren] at hcarried
    refine Element.reread_of_carried _ (carried_iff.mpr ⟨hattrib, htext, fun c hc => ?_, htail⟩)
    rcases List.mem_append.mp hc with hpre | hrest
    · exact hcarried c (List.mem_append_left _ hpre)
    · rcases List.mem_cons.mp hrest with rfl | hpost
      · exact carried_applyEdits hpatch (hcarried metadata (by simp))
      · exact hcarried c (List.mem_append_right _ (List.mem_cons_of_mem _ hpost))
  · obtain ⟨⟨metadata', hfind'⟩, hsame⟩ := elements_reread hwritten hfind
    obtain ⟨missing, hmissing, hnames⟩ := missing_iff hfind' opfPath
    obtain ⟨lacking, hlacking, hlacks⟩ := missing_iff h backupPath
    refine ⟨⟨missing, lacking, hmissing, hlacking, fun f => ?_⟩, ?_⟩
    · rw [hnames, hlacks, hsame, helements, ← @given_eq_nil_iff py, ← @given_eq_none_iff py]
      cases f.given py p with
      | none => simp
      | some news => simp
    · obtain ⟨apply, happly, hrunApply⟩ := setMetadata_run hfind' bookId opfPath
      obtain ⟨rollback, hrollback, hrunRollback⟩ := setMetadata_run h bookId backupPath
      refine ⟨apply, rollback, happly, hrollback, fun α db library hlibrary => ?_⟩
      refine ⟨hrunApply α db library, ?_, ?_⟩
      · rintro f rfl hset
        rw [hlibrary, Calibredb.reading, Calibredb.reading, helements,
          given_eq_none_iff.mpr hset, Option.getD_none]
      · rw [hrunApply, hrunRollback, Function.update_idem, ← hlibrary, Function.update_eq_self]

/-- The export of a book with a title, a language and a note. -/
def exampleBackup : Element :=
  { tag := opf "package"
    children := [
      { tag := opf "metadata"
        children := [dcElement "title" "Notes", dcElement "language" "en",
          dcElement "description" "A & B"] },
      { tag := opf "guide" }] }

theorem exampleBackup_frame :
    ∃ target, buildTargetOpf Runtime.ascii exampleBackup
        ({ title := some "Sketches", languages := some [] } : CanonicalPatch).dump = .ok target ∧
      target.reread = some target ∧ ∃ missing,
        missingOptionalOpfFields "target.opf" target = .ok missing ∧ "languages" ∈ missing := by
  obtain ⟨target, _, _, _, hbuild, -, -, -, -, hcarried, hfile⟩ :=
    target_opf_frame Runtime.ascii { title := some "Sketches", languages := some [] }
      (show exampleBackup.find (opf "metadata") = some _ from rfl)
  have hreread := hcarried (by decide) (by decide)
  obtain ⟨⟨missing, _, hmissing, -, hnames⟩, -⟩ := hfile target hreread "target.opf" "" 1
  exact ⟨target, hbuild, hreread, missing, hmissing, (hnames .languages).mpr (.inl rfl)⟩

/-- What is read from the file of a target. -/
def writtenTarget (py : Runtime) (backup : Element) (p : CanonicalPatch) : Option Element :=
  (buildTargetOpf py backup p.dump).toOption.bind Element.reread

/-- A language patch without a language names the languages missing; a carriage return in a title
arrives as a line feed; a control character in a title leaves a file that cannot be read. -/
theorem cleared_languages_are_missing :
    ((writtenTarget Runtime.ascii exampleBackup { languages := some [] }).bind fun written =>
        (missingOptionalOpfFields "target.opf" written).toOption) =
      some ["publisher", "pubdate", "languages", "identifiers", "series"] ∧
    (writtenTarget Runtime.ascii exampleBackup { title := some "A\rB" }).map (fun written =>
        (written.find (opf "metadata")).map fun metadata =>
          (metadata.findall (dc "title")).map Element.text) = some (some ["A\nB"]) ∧
    (writtenTarget Runtime.ascii exampleBackup { title := some "\x01" }).isNone = true := by
  refine ⟨by decide, by decide, by decide⟩

end Opf

end Bookwarden
