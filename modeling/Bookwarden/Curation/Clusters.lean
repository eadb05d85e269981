import Mathlib.Data.Finset.Dedup
import Bookwarden.Curation.Duplicates

/-!
# What the clusters are

The clusters are the classes, of two and more books, of the equivalence that same ISBN and same author
and title generate; a book without a title has no title in common with any other.

## Main definitions

* `SameWork`, `Linked` — two books, and the ids of two books
* `summary` — what does not depend on the order of the books

## Main results

* `exists_roots` — the clusters by the roots of the disjoint sets
* `mem_clusters_iff`
* `clusterDuplicates_spec`
-/

namespace Bookwarden.Curation

open DisjointSetUnion

variable {py : RuleRuntime}

/-- The canonical ISBN-13 of a book. -/
def canonicalIsbn (b : BookNode) : Option String := b.isbn.bind validateIsbn

/-- Two books with the same canonical ISBN, or with the same cleaned author and title. -/
def SameWork (py : RuleRuntime) (b b' : BookNode) : Prop :=
  (∃ isbn, canonicalIsbn b = some isbn ∧ canonicalIsbn b' = some isbn) ∨
    ∃ key, titleKey py b = some key ∧ titleKey py b' = some key

/-- The ids of two of the books that are the same work. -/
def Linked (py : RuleRuntime) (books : List BookNode) (u v : ℤ) : Prop :=
  ∃ b ∈ books, ∃ b' ∈ books, b.bookId = u ∧ b'.bookId = v ∧ SameWork py b b'

/-- The ids are connected. -/
def Connected (py : RuleRuntime) (books : List BookNode) : ℤ → ℤ → Prop :=
  Relation.EqvGen (Linked py books)

/-- No ISBN is a text that the cleanser does not survive. -/
def WellFormed (books : List BookNode) : Prop :=
  ∀ b ∈ books, ∀ isbn, b.isbn = some isbn → ¬StrayX isbn

/-! ### The first loop -/

/-- The pairs of a key and an id, for the books that have a key. -/
def keyed {κ : Type} (key : BookNode → Option κ) (books : List BookNode) : List (κ × ℤ) :=
  books.filterMap fun b => (key b).map fun k => (k, b.bookId)

theorem mem_keyed {κ : Type} {key : BookNode → Option κ} {books : List BookNode} {k : κ} {id : ℤ} :
    (k, id) ∈ keyed key books ↔ ∃ b ∈ books, key b = some k ∧ b.bookId = id := by
  rw [keyed, List.mem_filterMap]
  refine exists_congr fun b => and_congr_right fun _ => ?_
  rw [Option.map_eq_some_iff]
  simp

theorem validateAndConvertIsbn_eq_canonicalIsbn (hpy : LawfulUpper py.toRuntime) {b : BookNode}
    (h : ∀ isbn, b.isbn = some isbn → ¬StrayX isbn) :
    EntityCleanser.validateAndConvertIsbn py.toRuntime b.isbn = .ok (canonicalIsbn b) :=
  EntityCleanser.validateAndConvertIsbn_eq_bind hpy h

theorem canonicalIsbn_ne_empty {b : BookNode} {isbn : String} (h : canonicalIsbn b = some isbn) :
    isbn ≠ "" := by
  obtain ⟨s, -, hs⟩ := Option.bind_eq_some_iff.mp h
  exact canonical_ne_empty hs

/-- One round: the book is an item, and is filed under its keys. -/
theorem indexBook_eq (hpy : LawfulUpper py.toRuntime) {b : BookNode}
    (h : ∀ isbn, b.isbn = some isbn → ¬StrayX isbn) (index : CandidateIndex) :
    indexBook py index b = .ok {
      dsu := (index.dsu.find b.bookId).1
      byIsbn := fileUnder (canonicalIsbn b) b.bookId index.byIsbn
      byCleanTitle := fileUnder (titleKey py b) b.bookId index.byCleanTitle } := by
  have hfilter : (canonicalIsbn b).filter (fun isbn => isbn ≠ "") = canonicalIsbn b := by
    cases hisbn : canonicalIsbn b with
    | none => rfl
    | some isbn => simp [canonicalIsbn_ne_empty hisbn]
  rw [indexBook, validateAndConvertIsbn_eq_canonicalIsbn hpy h]
  simp only [bind, Except.bind, pure, Except.pure, hfilter]

/-- What the first loop has done after some books. -/
structure Indexed (py : RuleRuntime) (books : List BookNode) (index : CandidateIndex) : Prop where
  dsu : index.dsu.Represents fun _ _ => False
  byIsbn : index.byIsbn = Grouping.collect (keyed canonicalIsbn books)
  byCleanTitle : index.byCleanTitle = Grouping.collect (keyed (titleKey py) books)

theorem fileUnder_keyed {κ : Type} [DecidableEq κ] (key : BookNode → Option κ)
    (books : List BookNode) (b : BookNode) :
    fileUnder (key b) b.bookId (Grouping.collect (keyed key books)) =
      Grouping.collect (keyed key (books ++ [b])) := by
  rw [keyed, keyed, List.filterMap_append, List.filterMap_cons, List.filterMap_nil]
  cases key b with
  | none =>
    rw [Option.map_none, List.append_nil]
    rfl
  | some k =>
    have hconcat := Grouping.collect_concat
      (books.filterMap fun b => (key b).map fun k => (k, b.bookId)) (k, b.bookId)
    exact hconcat.symm

/-- One more book. -/
theorem Indexed.step (hpy : LawfulUpper py.toRuntime) {books : List BookNode}
    {index : CandidateIndex} (hdone : Indexed py books index) {b : BookNode}
    (h : ∀ isbn, b.isbn = some isbn → ¬StrayX isbn) :
    ∃ index', indexBook py index b = .ok index' ∧ Indexed py (books ++ [b]) index' := by
  refine ⟨_, indexBook_eq hpy h index, hdone.dsu.find b.bookId, ?_, ?_⟩
  · rw [← fileUnder_keyed, ← hdone.byIsbn]
  · rw [← fileUnder_keyed, ← hdone.byCleanTitle]

theorem exists_indexed (hpy : LawfulUpper py.toRuntime) {books : List BookNode}
    (h : WellFormed books) :
    ∃ index, books.foldlM (indexBook py) {} = .ok index ∧ Indexed py books index := by
  induction books using List.reverseRecOn with
  | nil => exact ⟨{}, rfl, .empty, rfl, rfl⟩
  | append_singleton books b ih =>
    obtain ⟨index, hindex, hdone⟩ := ih fun c hc => h c (List.mem_append_left _ hc)
    obtain ⟨index', hround, hdone'⟩ :=
      hdone.step hpy (h b (List.mem_append_right _ List.mem_cons_self))
    refine ⟨index', ?_, hdone'⟩
    rw [List.foldlM_append, hindex]
    show (List.foldlM (indexBook py) index [b]) = _
    rw [List.foldlM_cons, hround]
    rfl

/-! ### The unions -/

theorem unionGroups_eq {κ : Type} (dsu : DisjointSetUnion ℤ) (groups : List (κ × List ℤ)) :
    unionGroups dsu groups = dsu.unionAll (groups.flatMap fun group => starPairs group.2) := by
  rw [unionGroups, DisjointSetUnion.unionAll]
  induction groups generalizing dsu with
  | nil => rfl
  | cons group groups ih =>
    rw [List.foldl_cons, ih, List.flatMap_cons, List.foldl_append]
    rfl

/-- The pairs that are united for a key. -/
def stars {κ : Type} [DecidableEq κ] (pairs : List (κ × ℤ)) : List (ℤ × ℤ) :=
  (Grouping.collect pairs).flatMap fun group => starPairs group.2

/-- The two of a pair have a key in common. -/
theorem exists_key_of_mem_stars {κ : Type} [DecidableEq κ] {pairs : List (κ × ℤ)} {u v : ℤ}
    (h : (u, v) ∈ stars pairs) : ∃ k, (k, u) ∈ pairs ∧ (k, v) ∈ pairs := by
  obtain ⟨⟨k, g⟩, hg, hstar⟩ := List.mem_flatMap.mp h
  obtain ⟨-, rfl⟩ := Grouping.mem_collect.mp hg
  refine ⟨k, ?_⟩
  rw [← Grouping.mem_group, ← Grouping.mem_group]
  cases hgroup : Grouping.group k pairs with
  | nil =>
    rw [hgroup] at hstar
    cases hstar
  | cons first others =>
    rw [hgroup] at hstar
    obtain ⟨other, hother, heq⟩ := List.mem_map.mp hstar
    obtain ⟨rfl, rfl⟩ := Prod.mk.inj heq
    exact ⟨List.mem_cons_self, List.mem_cons_of_mem _ hother⟩

/-- Two with a key in common are each united with the first that has it. -/
theorem eqvGen_of_key {κ : Type} [DecidableEq κ] {pairs : List (κ × ℤ)} {R : ℤ → ℤ → Prop}
    (hR : ∀ u v, (u, v) ∈ stars pairs → R u v) {k : κ} {u v : ℤ} (hu : (k, u) ∈ pairs)
    (hv : (k, v) ∈ pairs) : Relation.EqvGen R u v := by
  rw [← Grouping.mem_group] at hu hv
  cases hgroup : Grouping.group k pairs with
  | nil =>
    rw [hgroup] at hu
    cases hu
  | cons first others =>
    have hmem : (k, first :: others) ∈ Grouping.collect pairs :=
      Grouping.mem_collect.mpr ⟨List.cons_ne_nil _ _, hgroup.symm⟩
    have hfirst : ∀ w ∈ first :: others, Relation.EqvGen R first w := by
      intro w hw
      rcases List.mem_cons.mp hw with rfl | hw
      · exact .refl w
      · exact .rel _ _ (hR _ _ (List.mem_flatMap.mpr
          ⟨_, hmem, List.mem_map.mpr ⟨w, hw, rfl⟩⟩))
    rw [hgroup] at hu hv
    exact .trans _ _ _ (.symm _ _ (hfirst u hu)) (hfirst v hv)

/-- The unions generate the equivalence that the links generate. -/
theorem eqvGen_stars_iff {books : List BookNode} {u v : ℤ} :
    Relation.EqvGen (fun u v => (u, v) ∈ stars (keyed canonicalIsbn books) ∨
      (u, v) ∈ stars (keyed (titleKey py) books)) u v ↔ Connected py books u v := by
  constructor
  · refine fun h => h.mono fun u v huv => ?_
    rcases huv with huv | huv
    · obtain ⟨k, hu, hv⟩ := exists_key_of_mem_stars huv
      obtain ⟨b, hb, hk, rfl⟩ := mem_keyed.mp hu
      obtain ⟨b', hb', hk', rfl⟩ := mem_keyed.mp hv
      exact ⟨b, hb, b', hb', rfl, rfl, .inl ⟨k, hk, hk'⟩⟩
    · obtain ⟨k, hu, hv⟩ := exists_key_of_mem_stars huv
      obtain ⟨b, hb, hk, rfl⟩ := mem_keyed.mp hu
      obtain ⟨b', hb', hk', rfl⟩ := mem_keyed.mp hv
      exact ⟨b, hb, b', hb', rfl, rfl, .inr ⟨k, hk, hk'⟩⟩
  · intro h
    induction h with
    | rel u v huv =>
      obtain ⟨b, hb, b', hb', rfl, rfl, hsame⟩ := huv
      rcases hsame with ⟨k, hk, hk'⟩ | ⟨k, hk, hk'⟩
      · exact eqvGen_of_key (fun _ _ => .inl) (mem_keyed.mpr ⟨b, hb, hk, rfl⟩)
          (mem_keyed.mpr ⟨b', hb', hk', rfl⟩)
      · exact eqvGen_of_key (fun _ _ => .inr) (mem_keyed.mpr ⟨b, hb, hk, rfl⟩)
          (mem_keyed.mpr ⟨b', hb', hk', rfl⟩)
    | refl u => exact .refl u
    | symm u v _ ih => exact .symm _ _ ih
    | trans u v w _ _ ih ih' => exact .trans _ _ _ ih ih'

/-! ### The members of a root -/

/-- The root of an id. -/
def rootIn (d : DisjointSetUnion ℤ) (id : ℤ) : ℤ := (d.find id).2

theorem rootIn_eq_iff {d : DisjointSetUnion ℤ} {R : ℤ → ℤ → Prop} (h : d.Represents R) {u v : ℤ} :
    rootIn d u = rootIn d v ↔ Relation.EqvGen R u v := by
  have hu := (find_spec h.valid u).root
  have hv := (find_spec h.valid v).root
  rw [← h.same, Forest.sameTree_iff_of_rootOf hu]
  exact ⟨fun heq => by rw [rootIn, rootIn] at heq; rwa [heq], fun hroot => hroot.unique hv⟩

/-- The last loop but one collects the ids under their roots. -/
theorem foldl_collectMember {d : DisjointSetUnion ℤ} (hd : d.Valid) (books : List BookNode) :
    (books.foldl collectMember (d, [])).2 =
      Grouping.collect (books.map fun b => (rootIn d b.bookId, b.bookId)) := by
  have hrun : (books.foldl collectMember (d, [])).1.Valid ∧
      (∀ u root, Forest.RootOf (books.foldl collectMember (d, [])).1.parentOf u root ↔
        Forest.RootOf d.parentOf u root) ∧
      (books.foldl collectMember (d, [])).2 =
        Grouping.collect (books.map fun b => (rootIn d b.bookId, b.bookId)) := by
    induction books using List.reverseRecOn with
    | nil => exact ⟨hd, fun _ _ => Iff.rfl, rfl⟩
    | append_singleton books b ih =>
      obtain ⟨hvalid, hroots, hmembers⟩ := ih
      have hfound := find_spec hvalid b.bookId
      have hroot : ((books.foldl collectMember (d, [])).1.find b.bookId).2 = rootIn d b.bookId :=
        ((hroots _ _).mp hfound.root).unique (find_spec hd b.bookId).root
      rw [List.foldl_append, List.map_append]
      refine ⟨hfound.valid, fun u root => (hfound.same u root).trans (hroots u root), ?_⟩
      show Grouping.push ((books.foldl collectMember (d, [])).1.find b.bookId).2 b.bookId
        (books.foldl collectMember (d, [])).2 = _
      rw [hroot, hmembers]
      exact (Grouping.collect_concat _ (rootIn d b.bookId, b.bookId)).symm
  exact hrun.2.2

/-! ### The clusters -/

/-- The books with one root. -/
def membersOf (rootOf : ℤ → ℤ) (books : List BookNode) (root : ℤ) : List BookNode :=
  books.filter fun b => rootOf b.bookId = root

theorem mem_of_mem_membersOf {rootOf : ℤ → ℤ} {books : List BookNode} {root : ℤ} {b : BookNode}
    (h : b ∈ membersOf rootOf books root) : b ∈ books := List.mem_of_mem_filter h

theorem group_roots (rootOf : ℤ → ℤ) (books : List BookNode) (root : ℤ) :
    Grouping.group root (books.map fun b => (rootOf b.bookId, b.bookId)) =
      (membersOf rootOf books root).map BookNode.bookId := by
  rw [Grouping.group, membersOf, List.filter_map, List.map_map]
  rfl

/-- Every member is found again by its id. -/
theorem filterMap_byId {books members : List BookNode} (hids : (books.map BookNode.bookId).Nodup)
    (hmembers : ∀ b ∈ members, b ∈ books) :
    (members.map BookNode.bookId).filterMap (fun id =>
      Assoc.get? id (Assoc.update [] (books.map fun b => (b.bookId, b)))) = members := by
  have hkeys : Assoc.keys (books.map fun b => (b.bookId, b)) = books.map BookNode.bookId := by
    rw [Assoc.keys, List.map_map]
    rfl
  have hget : ∀ b ∈ books,
      Assoc.get? b.bookId (Assoc.update [] (books.map fun b => (b.bookId, b))) = some b := by
    intro b hb
    rw [Assoc.get?_update (by rw [hkeys]; exact hids), Assoc.get?_nil, Option.or_none]
    exact Assoc.get?_of_mem (by rw [hkeys]; exact hids) (List.mem_map.mpr ⟨b, hb, rfl⟩)
  induction members with
  | nil => rfl
  | cons b members ih =>
    rw [List.map_cons, List.filterMap_cons]
    simp only [hget b (hmembers b List.mem_cons_self),
      ih fun c hc => hmembers c (List.mem_cons_of_mem _ hc)]

/-- The clusters, by a function that gives connected ids the same root. -/
theorem exists_roots (hpy : LawfulUpper py.toRuntime) {books : List BookNode}
    (hids : (books.map BookNode.bookId).Nodup) (h : WellFormed books) :
    ∃ (rootOf : ℤ → ℤ) (clusters : List DuplicateCluster),
      (∀ u v, rootOf u = rootOf v ↔ Connected py books u v) ∧
      clusterDuplicates py books = .ok clusters ∧
      clusters = (Grouping.collect (books.map fun b => (rootOf b.bookId, b.bookId))).filterMap
        fun entry => if entry.2.length ≤ 1 then none
          else some (makeCluster py entry.1 entry.2 (membersOf rootOf books entry.1)) := by
  obtain ⟨index, hindex, hdone⟩ := exists_indexed hpy h
  have hunited : (unionGroups (unionGroups index.dsu index.byIsbn) index.byCleanTitle).Represents
      fun u v => (u, v) ∈ stars (keyed canonicalIsbn books) ∨
        (u, v) ∈ stars (keyed (titleKey py) books) := by
    rw [unionGroups_eq, unionGroups_eq, hdone.byIsbn, hdone.byCleanTitle]
    refine ((hdone.dsu.unionAll _).unionAll _).congr fun u v => ?_
    rw [false_or]
    rfl
  refine ⟨rootIn (unionGroups (unionGroups index.dsu index.byIsbn) index.byCleanTitle), _,
    fun u v => (rootIn_eq_iff hunited).trans eqvGen_stars_iff, ?_, rfl⟩
  rw [clusterDuplicates, hindex]
  show Except.ok _ = Except.ok _
  rw [foldl_collectMember hunited.valid, Except.ok.injEq]
  refine List.filterMap_congr fun entry hentry => ?_
  obtain ⟨root, ids⟩ := entry
  obtain ⟨-, rfl⟩ := Grouping.mem_collect.mp hentry
  simp only [clusterOf, group_roots]
  rw [filterMap_byId hids fun b hb => mem_of_mem_membersOf hb]

/-- A cluster is the books with the root of one of them, if they are two or more. -/
theorem mem_clusters_iff {rootOf : ℤ → ℤ} {books : List BookNode} {c : DuplicateCluster} :
    c ∈ (Grouping.collect (books.map fun b => (rootOf b.bookId, b.bookId))).filterMap
        (fun entry => if entry.2.length ≤ 1 then none
          else some (makeCluster py entry.1 entry.2 (membersOf rootOf books entry.1))) ↔
      ∃ b ∈ books, 2 ≤ (membersOf rootOf books (rootOf b.bookId)).length ∧
        c = makeCluster py (rootOf b.bookId)
          ((membersOf rootOf books (rootOf b.bookId)).map BookNode.bookId)
          (membersOf rootOf books (rootOf b.bookId)) := by
  rw [List.mem_filterMap]
  constructor
  · rintro ⟨⟨root, ids⟩, hentry, hc⟩
    obtain ⟨hne, rfl⟩ := Grouping.mem_collect.mp hentry
    rw [group_roots] at hne hc
    rw [ne_eq, List.map_eq_nil_iff] at hne
    obtain ⟨b, hb⟩ := List.exists_mem_of_ne_nil _ hne
    obtain ⟨hbooks, hroot⟩ := List.mem_filter.mp hb
    obtain rfl := of_decide_eq_true hroot
    simp only [List.length_map] at hc
    by_cases hlength : (membersOf rootOf books (rootOf b.bookId)).length ≤ 1
    · rw [if_pos hlength] at hc
      cases hc
    · rw [if_neg hlength, Option.some.injEq] at hc
      exact ⟨b, hbooks, by omega, hc.symm⟩
  · rintro ⟨b, hb, hlength, rfl⟩
    refine ⟨(rootOf b.bookId, (membersOf rootOf books (rootOf b.bookId)).map BookNode.bookId),
      Grouping.mem_collect.mpr ⟨?_, (group_roots _ _ _).symm⟩, ?_⟩
    · rw [ne_eq, List.map_eq_nil_iff]
      exact List.ne_nil_of_mem (List.mem_filter.mpr ⟨hb, decide_eq_true rfl⟩)
    · rw [if_neg (by simp only [List.length_map]; omega)]

/-! ### Clones -/

/-- A format and its digest, brought to one form. -/
def normalized (py : RuleRuntime) (p : String × String) : String × String :=
  (py.upper (strip p.1), py.lower (strip p.2))

theorem foldlM_addFormatHash {pairs acc m : List (String × String)}
    (hacc : (Assoc.keys acc).Nodup) :
    pairs.foldlM (addFormatHash py) acc = some m ↔
      m = acc ++ pairs.map (normalized py) ∧
        (∀ p ∈ pairs.map (normalized py), p.1 ≠ "" ∧ isHexDigest p.2 = true) ∧
        (Assoc.keys (acc ++ pairs.map (normalized py))).Nodup := by
  induction pairs generalizing acc with
  | nil =>
    rw [List.map_nil, List.append_nil]
    constructor
    · intro h
      exact ⟨(Option.some.inj h).symm, fun p hp => (by cases hp), hacc⟩
    · rintro ⟨rfl, -, -⟩
      rfl
  | cons p pairs ih =>
    have hsplit : acc ++ (p :: pairs).map (normalized py) =
        (acc ++ [normalized py p]) ++ pairs.map (normalized py) := by simp
    rw [List.foldlM_cons, addFormatHash, List.map_cons, List.forall_mem_cons, ← List.map_cons, hsplit]
    by_cases hnew : (normalized py p).1 ∈ Assoc.keys acc
    · rw [if_pos (.inr (.inr hnew))]
      refine ⟨fun h => (by cases h), fun h => ?_⟩
      have hnodup := h.2.2
      rw [Assoc.keys, List.append_assoc, List.map_append, List.nodup_append] at hnodup
      exact absurd rfl (hnodup.2.2 _ hnew _ List.mem_cons_self)
    · by_cases hvalid : (normalized py p).1 ≠ "" ∧ isHexDigest (normalized py p).2 = true
      · have hset : Assoc.set (py.upper (strip p.1)) (py.lower (strip p.2)) acc =
            acc ++ [normalized py p] := Assoc.set_of_notMem hnew _
        have hnext : (Assoc.keys (acc ++ [normalized py p])).Nodup := by
          rw [← hset]
          exact Assoc.nodup_keys_set hacc _ _
        rw [if_neg (by
          rintro (h | h | h)
          · exact hvalid.1 h
          · exact Bool.false_ne_true (h.symm.trans hvalid.2)
          · exact hnew h), hset]
        show List.foldlM (addFormatHash py) (acc ++ [normalized py p]) pairs = some m ↔ _
        rw [ih hnext]
        simp only [hvalid, and_self, true_and, ne_eq, not_false_eq_true]
      · rw [if_pos (by
          by_cases hempty : (normalized py p).1 = ""
          · exact .inl hempty
          · exact .inr (.inl (Bool.eq_false_iff.mpr fun h => hvalid ⟨hempty, h⟩)))]
        exact ⟨fun h => (by cases h), fun h => absurd h.2.1.1 hvalid⟩

/-- A complete map has a valid digest for every format, and no format twice. -/
theorem completeFormatHashes_eq_some_iff {b : BookNode} {m : List (String × String)} :
    completeFormatHashes py b = some m ↔
      b.formats ≠ [] ∧ b.formats.length = b.fileHashes.length ∧
        m = (b.formats.zip b.fileHashes).map (normalized py) ∧
        (∀ p ∈ m, p.1 ≠ "" ∧ isHexDigest p.2 = true) ∧ (Assoc.keys m).Nodup := by
  rw [completeFormatHashes]
  by_cases hempty : b.formats = []
  · simp [hempty]
  by_cases hlength : b.formats.length = b.fileHashes.length
  · have hnil : (Assoc.keys ([] : List (String × String))).Nodup := List.nodup_nil
    rw [if_neg (by simp [hempty, hlength]), foldlM_addFormatHash hnil, List.nil_append]
    constructor
    · rintro ⟨rfl, hvalid, hnodup⟩
      exact ⟨hempty, hlength, rfl, hvalid, hnodup⟩
    · rintro ⟨-, -, rfl, hvalid, hnodup⟩
      exact ⟨rfl, hvalid, hnodup⟩
  · rw [if_pos (.inr hlength)]
    exact ⟨fun h => (by cases h), fun h => absurd h.2.1 hlength⟩

theorem nodup_of_completeFormatHashes {b : BookNode} {m : List (String × String)}
    (h : completeFormatHashes py b = some m) : (Assoc.keys m).Nodup :=
  (completeFormatHashes_eq_some_iff.mp h).2.2.2.2

/-- Equal dictionaries give the same value for every key. -/
theorem sameMapping_iff {m m' : List (String × String)} (hm : (Assoc.keys m).Nodup)
    (hm' : (Assoc.keys m').Nodup) :
    sameMapping m m' = true ↔ ∀ k, Assoc.get? k m = Assoc.get? k m' := by
  have hlengths : ∀ l : List (String × String), (Assoc.keys l).length = l.length := fun l =>
    List.length_map _
  rw [sameMapping, Bool.and_eq_true, decide_eq_true_iff, List.all_eq_true]
  constructor
  · rintro ⟨hlength, hall⟩ k
    have hsome : ∀ {k v}, Assoc.get? k m = some v → Assoc.get? k m' = some v := fun h =>
      of_decide_eq_true (hall _ (Assoc.mem_of_get? h))
    have hsub : Assoc.keys m ⊆ Assoc.keys m' := by
      intro k hk
      obtain ⟨v, hv⟩ := Assoc.mem_keys_iff.mp hk
      exact Assoc.mem_keys_iff.mpr ⟨v, hsome hv⟩
    have hperm : (Assoc.keys m).Perm (Assoc.keys m') :=
      (List.subperm_of_subset hm hsub).perm_of_length_le (by rw [hlengths, hlengths, hlength])
    cases hk : Assoc.get? k m with
    | some v => exact (hsome hk).symm
    | none =>
      rw [Assoc.get?_eq_none_iff, hperm.mem_iff] at hk
      exact (Assoc.get?_eq_none_iff.mpr hk).symm
  · intro h
    have hperm : (Assoc.keys m).Perm (Assoc.keys m') := by
      refine (List.perm_ext_iff_of_nodup hm hm').mpr fun k => ?_
      rw [Assoc.mem_keys_iff, Assoc.mem_keys_iff, h k]
    refine ⟨by rw [← hlengths m, ← hlengths m', hperm.length_eq], fun p hp => ?_⟩
    exact decide_eq_true ((h p.1).symm.trans (Assoc.get?_of_mem hm hp))

/-- Every member has a complete map, and all maps are the same. -/
theorem isClone_iff {members : List BookNode} :
    isClone py members = true ↔ members ≠ [] ∧ ∃ m, ∀ b ∈ members,
      ∃ m', completeFormatHashes py b = some m' ∧ ∀ k, Assoc.get? k m' = Assoc.get? k m := by
  cases members with
  | nil => simp [isClone]
  | cons b rest =>
    rw [isClone, List.map_cons]
    cases hb : completeFormatHashes py b with
    | none =>
      refine ⟨fun h => (by cases h), fun ⟨_, m, hall⟩ => ?_⟩
      obtain ⟨m', hm', -⟩ := hall b List.mem_cons_self
      rw [hb] at hm'
      cases hm'
    | some first =>
      have hfirst := nodup_of_completeFormatHashes hb
      simp only [List.all_map, List.all_eq_true, Function.comp_apply, Option.any_eq_true]
      constructor
      · intro h
        refine ⟨List.cons_ne_nil _ _, first, fun c hc => ?_⟩
        rcases List.mem_cons.mp hc with rfl | hc
        · exact ⟨first, hb, fun _ => rfl⟩
        · obtain ⟨m', hm', hsame⟩ := h c hc
          exact ⟨m', hm', (sameMapping_iff (nodup_of_completeFormatHashes hm') hfirst).mp hsame⟩
      · rintro ⟨-, m, hall⟩ c hc
        obtain ⟨m', hm', hsame⟩ := hall c (List.mem_cons_of_mem _ hc)
        obtain ⟨m'', hm'', hsame'⟩ := hall b List.mem_cons_self
        obtain rfl := Option.some.inj (hb.symm.trans hm'')
        exact ⟨m', hm', (sameMapping_iff (nodup_of_completeFormatHashes hm') hfirst).mpr
          fun k => (hsame k).trans (hsame' k).symm⟩

theorem classify_clone_iff {members : List BookNode} :
    (classify py members).1 = .clone ↔ isClone py members = true := by
  rw [classify]
  by_cases h : isClone py members = true
  · simp [h]
  · rw [if_neg h]
    refine ⟨fun hclone => ?_, fun hclone => absurd hclone h⟩
    split at hclone
    · cases hclone
    · cases hclone

/-- The order of the members does not matter. -/
theorem classify_perm {members members' : List BookNode} (h : members.Perm members') :
    classify py members = classify py members' := by
  have hclone : isClone py members = isClone py members' := by
    rw [Bool.eq_iff_iff, isClone_iff, isClone_iff]
    refine and_congr (not_congr ?_) (exists_congr fun m => forall_congr' fun b => ?_)
    · rw [← List.length_eq_zero_iff, ← List.length_eq_zero_iff, h.length_eq]
    · rw [h.mem_iff]
  have hformats : (members.flatMap BookNode.formats).Perm (members'.flatMap BookNode.formats) :=
    h.flatMap_right _
  rw [classify, classify, hclone]
  simp only [hformats.nodup_iff, h.length_eq, hformats.mem_iff]

theorem canonicalId_mem {members : List BookNode} (h : members ≠ []) :
    canonicalId (members.map BookNode.bookId) members ∈ members.map BookNode.bookId := by
  rw [canonicalId]
  cases hfind : members.find? fun m => "EPUB" ∈ m.formats with
  | some m => exact List.mem_map.mpr ⟨m, List.mem_of_find?_eq_some hfind, rfl⟩
  | none =>
    cases hmin : (members.map BookNode.bookId).min? with
    | none =>
      rw [List.min?_eq_none_iff, List.map_eq_nil_iff] at hmin
      exact absurd hmin h
    | some least => exact List.min?_mem hmin

/-! ### The partition -/

/-- What a cluster has that does not depend on the order of the books. -/
def summary (c : DuplicateCluster) : Finset ℤ × DuplicateType × ℚ :=
  (c.memberBookIds.toFinset, c.clusterType, c.confidence)

/-- The clusters are the classes of two and more books, with their types. -/
structure ClustersOf (py : RuleRuntime) (books : List BookNode) (clusters : List DuplicateCluster) :
    Prop where
  component : ∀ c ∈ clusters, 2 ≤ c.memberBookIds.length ∧ c.memberBookIds.Nodup ∧
    ∃ b ∈ books, ∀ id, id ∈ c.memberBookIds ↔
      id ∈ books.map BookNode.bookId ∧ Connected py books b.bookId id
  complete : ∀ b ∈ books, ∀ b' ∈ books, b.bookId ≠ b'.bookId →
    Connected py books b.bookId b'.bookId → ∃ c ∈ clusters, b.bookId ∈ c.memberBookIds
  disjoint : clusters.Pairwise fun c c' => c.memberBookIds.Disjoint c'.memberBookIds
  clone : ∀ c ∈ clusters, c.clusterType = .clone ↔ ∃ m, ∀ b ∈ books,
    b.bookId ∈ c.memberBookIds → ∃ m', completeFormatHashes py b = some m' ∧
      ∀ k, Assoc.get? k m' = Assoc.get? k m
  canonical : ∀ c ∈ clusters, c.canonicalBookId ∈ c.memberBookIds

section Roots

variable {rootOf : ℤ → ℤ} {books : List BookNode}

theorem mem_membersOf {root : ℤ} {b : BookNode} :
    b ∈ membersOf rootOf books root ↔ b ∈ books ∧ rootOf b.bookId = root := by
  rw [membersOf, List.mem_filter, decide_eq_true_iff]

theorem nodup_membersOf (hids : (books.map BookNode.bookId).Nodup) (root : ℤ) :
    ((membersOf rootOf books root).map BookNode.bookId).Nodup :=
  hids.sublist (List.filter_sublist.map _)

theorem mem_ids_membersOf {root id : ℤ} :
    id ∈ (membersOf rootOf books root).map BookNode.bookId ↔
      id ∈ books.map BookNode.bookId ∧ rootOf id = root := by
  rw [List.mem_map, List.mem_map]
  constructor
  · rintro ⟨b, hb, rfl⟩
    obtain ⟨hbooks, hroot⟩ := mem_membersOf.mp hb
    exact ⟨⟨b, hbooks, rfl⟩, hroot⟩
  · rintro ⟨⟨b, hb, rfl⟩, hroot⟩
    exact ⟨b, mem_membersOf.mpr ⟨hb, hroot⟩, rfl⟩

/-- A book is the one with its id. -/
theorem mem_membersOf_of_id {root : ℤ} {b : BookNode}
    (hb : b ∈ books) (h : b.bookId ∈ (membersOf rootOf books root).map BookNode.bookId) :
    b ∈ membersOf rootOf books root :=
  mem_membersOf.mpr ⟨hb, (mem_ids_membersOf.mp h).2⟩

theorem disjoint_clusters :
    ((Grouping.collect (books.map fun b => (rootOf b.bookId, b.bookId))).filterMap
      (fun entry => if entry.2.length ≤ 1 then none
        else some (makeCluster py entry.1 entry.2 (membersOf rootOf books entry.1)))).Pairwise
      fun c c' => c.memberBookIds.Disjoint c'.memberBookIds := by
  have hkeys := List.pairwise_map.mp
    (Grouping.nodup_keys_collect (books.map fun b => (rootOf b.bookId, b.bookId)))
  have hdisjoint := hkeys.imp_of_mem (S := fun p q : ℤ × List ℤ => p.2.Disjoint q.2)
    fun {p q} hp hq hne id hidp hidq => by
      obtain ⟨-, hgp⟩ := Grouping.mem_collect.mp hp
      obtain ⟨-, hgq⟩ := Grouping.mem_collect.mp hq
      rw [hgp, group_roots, mem_ids_membersOf] at hidp
      rw [hgq, group_roots, mem_ids_membersOf] at hidq
      exact hne (hidp.2.symm.trans hidq.2)
  refine hdisjoint.filterMap _ fun p q hpq c hc c' hc' => ?_
  by_cases hp : p.2.length ≤ 1
  · rw [if_pos hp] at hc
    cases hc
  by_cases hq : q.2.length ≤ 1
  · rw [if_pos hq] at hc'
    cases hc'
  rw [if_neg hp] at hc
  rw [if_neg hq] at hc'
  rw [← Option.some.inj hc, ← Option.some.inj hc']
  exact hpq

end Roots

/-- What the clusters are, and that nothing of it depends on the order of the books. -/
theorem clustersOf_of_roots {rootOf : ℤ → ℤ} {books : List BookNode}
    (hids : (books.map BookNode.bookId).Nodup)
    (hroots : ∀ u v, rootOf u = rootOf v ↔ Connected py books u v) :
    ClustersOf py books
      ((Grouping.collect (books.map fun b => (rootOf b.bookId, b.bookId))).filterMap
        fun entry => if entry.2.length ≤ 1 then none
          else some (makeCluster py entry.1 entry.2 (membersOf rootOf books entry.1))) where
  component c hc := by
    obtain ⟨b, hb, hlength, rfl⟩ := mem_clusters_iff.mp hc
    refine ⟨by rwa [makeCluster, List.length_map], nodup_membersOf hids _, b, hb, fun id => ?_⟩
    rw [← hroots, eq_comm (a := rootOf b.bookId)]
    exact mem_ids_membersOf
  complete b hb b' hb' hne h := by
    have hself : b ∈ membersOf rootOf books (rootOf b.bookId) := mem_membersOf.mpr ⟨hb, rfl⟩
    have hother : b' ∈ membersOf rootOf books (rootOf b.bookId) :=
      mem_membersOf.mpr ⟨hb', ((hroots _ _).mpr h).symm⟩
    refine ⟨_, mem_clusters_iff.mpr ⟨b, hb, ?_, rfl⟩, List.mem_map.mpr ⟨b, hself, rfl⟩⟩
    by_contra hshort
    match hmembers : membersOf rootOf books (rootOf b.bookId) with
    | [] =>
      rw [hmembers] at hself
      cases hself
    | [x] =>
      rw [hmembers, List.mem_singleton] at hself hother
      exact hne (by rw [hself, hother])
    | _ :: _ :: _ =>
      rw [hmembers, List.length_cons, List.length_cons] at hshort
      omega
  disjoint := disjoint_clusters
  clone c hc := by
    obtain ⟨b, hb, hlength, rfl⟩ := mem_clusters_iff.mp hc
    have hne : membersOf rootOf books (rootOf b.bookId) ≠ [] :=
      List.ne_nil_of_mem (mem_membersOf.mpr ⟨hb, rfl⟩)
    show (classify py _).1 = .clone ↔ _
    rw [classify_clone_iff, isClone_iff]
    refine ⟨fun h => ?_, fun h => ⟨hne, ?_⟩⟩
    · obtain ⟨m, hall⟩ := h.2
      exact ⟨m, fun x hx hid => hall x (mem_membersOf_of_id hx hid)⟩
    · obtain ⟨m, hall⟩ := h
      exact ⟨m, fun x hx => hall x (mem_of_mem_membersOf hx) (List.mem_map.mpr ⟨x, hx, rfl⟩)⟩
  canonical c hc := by
    obtain ⟨b, hb, -, rfl⟩ := mem_clusters_iff.mp hc
    exact canonicalId_mem (List.ne_nil_of_mem (mem_membersOf.mpr ⟨hb, rfl⟩))

/-! ### The order of the books -/

theorem ClustersOf.nodup_summary {books : List BookNode} {clusters : List DuplicateCluster}
    (h : ClustersOf py books clusters) : (clusters.map summary).Nodup := by
  refine List.pairwise_map.mpr (h.disjoint.imp_of_mem fun {c c'} hc _ hdisjoint heq => ?_)
  obtain ⟨hlength, -, -⟩ := h.component c hc
  obtain ⟨id, hid⟩ := List.exists_mem_of_length_pos (show 0 < c.memberBookIds.length by omega)
  have hsame : c.memberBookIds.toFinset = c'.memberBookIds.toFinset := congrArg Prod.fst heq
  have hid' : id ∈ c'.memberBookIds := by
    rwa [← List.mem_toFinset, ← hsame, List.mem_toFinset]
  exact hdisjoint hid hid'

theorem linked_iff_of_perm {books books' : List BookNode} (h : books.Perm books') :
    Linked py books = Linked py books' := by
  funext u v
  simp only [Linked, h.mem_iff]

/-- In another order the members of a root are the same. -/
theorem perm_membersOf {rootOf rootOf' : ℤ → ℤ} {books books' : List BookNode}
    (h : books.Perm books') (hroots : ∀ u v, rootOf u = rootOf v ↔ rootOf' u = rootOf' v) (u : ℤ) :
    (membersOf rootOf books (rootOf u)).Perm (membersOf rootOf' books' (rootOf' u)) := by
  have hsame : membersOf rootOf books (rootOf u) = membersOf rootOf' books (rootOf' u) := by
    refine List.filter_congr fun b _ => ?_
    rw [decide_eq_decide]
    exact hroots b.bookId u
  rw [hsame]
  exact h.filter _

/-- Every cluster is one of the other order, but for the order of its members. -/
theorem exists_summary {rootOf rootOf' : ℤ → ℤ} {books books' : List BookNode}
    (h : books.Perm books') (hroots : ∀ u v, rootOf u = rootOf v ↔ rootOf' u = rootOf' v)
    {c : DuplicateCluster}
    (hc : c ∈ (Grouping.collect (books.map fun b => (rootOf b.bookId, b.bookId))).filterMap
      fun entry => if entry.2.length ≤ 1 then none
        else some (makeCluster py entry.1 entry.2 (membersOf rootOf books entry.1))) :
    ∃ c' ∈ (Grouping.collect (books'.map fun b => (rootOf' b.bookId, b.bookId))).filterMap
      (fun entry => if entry.2.length ≤ 1 then none
        else some (makeCluster py entry.1 entry.2 (membersOf rootOf' books' entry.1))),
      summary c' = summary c := by
  obtain ⟨b, hb, hlength, rfl⟩ := mem_clusters_iff.mp hc
  have hperm := perm_membersOf h hroots b.bookId
  refine ⟨_, mem_clusters_iff.mpr ⟨b, h.mem_iff.mp hb, hperm.length_eq ▸ hlength, rfl⟩, ?_⟩
  have hids : ((membersOf rootOf' books' (rootOf' b.bookId)).map BookNode.bookId).toFinset =
      ((membersOf rootOf books (rootOf b.bookId)).map BookNode.bookId).toFinset :=
    (List.toFinset_eq_of_perm _ _ (hperm.map _)).symm
  rw [summary, summary, makeCluster, makeCluster, classify_perm hperm, hids]

/-- The clusters are the connected components with two and more books, of the relation to have the
same canonical ISBN, or the same cleaned author and the same title. They and their types do not
depend on the order of the books, a cluster is of clones if all its books have the same complete map
of formats, and its canonical book is one of it. -/
theorem clusterDuplicates_spec (hpy : LawfulUpper py.toRuntime) (books : List BookNode)
    (hids : (books.map BookNode.bookId).Nodup) (h : WellFormed books) :
    ∃ clusters, clusterDuplicates py books = .ok clusters ∧ ClustersOf py books clusters ∧
      ∀ books', books.Perm books' → ∃ clusters', clusterDuplicates py books' = .ok clusters' ∧
        (clusters'.map summary).Perm (clusters.map summary) := by
  obtain ⟨rootOf, clusters, hroots, hclusters, rfl⟩ := exists_roots hpy hids h
  have hspec := clustersOf_of_roots hids hroots
  refine ⟨_, hclusters, hspec, fun books' hperm => ?_⟩
  have hids' : (books'.map BookNode.bookId).Nodup := (hperm.map _).nodup_iff.mp hids
  have hformed' : WellFormed books' := fun b hb => h b (hperm.mem_iff.mpr hb)
  obtain ⟨rootOf', clusters', hroots', hclusters', rfl⟩ := exists_roots hpy hids' hformed'
  refine ⟨_, hclusters', ?_⟩
  have hsame : ∀ u v, rootOf u = rootOf v ↔ rootOf' u = rootOf' v := fun u v => by
    rw [hroots, hroots', Connected, Connected, linked_iff_of_perm hperm]
  refine (List.perm_ext_iff_of_nodup (clustersOf_of_roots hids' hroots').nodup_summary
    hspec.nodup_summary).mpr fun s => ?_
  rw [List.mem_map, List.mem_map]
  constructor
  · rintro ⟨c, hc, rfl⟩
    exact exists_summary hperm.symm (fun u v => (hsame u v).symm) hc
  · rintro ⟨c, hc, rfl⟩
    exact exists_summary hperm hsame hc

/-- A book, and a scan of it with the same ISBN in another form. -/
def paperDune : BookNode where
  bookId := 1
  title := "Dune"
  cleanedTitle := "Dune"
  author := "Frank Herbert"
  isbn := some "0-306-40615-2"
  formats := ["EPUB"]

def scannedDune : BookNode where
  bookId := 2
  title := "Dune (scan)"
  cleanedTitle := "Dune (scan)"
  author := "unknown"
  isbn := some "9780306406157"
  formats := ["PDF"]

theorem clusterDuplicates_dune :
    ∃ clusters, clusterDuplicates .ascii [paperDune, scannedDune] = .ok clusters ∧
      ClustersOf .ascii [paperDune, scannedDune] clusters ∧
      ∀ books', [paperDune, scannedDune].Perm books' → ∃ clusters',
        clusterDuplicates .ascii books' = .ok clusters' ∧
          (clusters'.map summary).Perm (clusters.map summary) := by
  have hupper : LawfulUpper RuleRuntime.ascii.toRuntime := lawfulUpper_ascii
  refine clusterDuplicates_spec hupper [paperDune, scannedDune] (by decide) ?_
  have hpaper : ¬StrayX "0-306-40615-2" := by decide
  have hscanned : ¬StrayX "9780306406157" := by decide
  intro b hb isbn hisbn
  rcases List.mem_pair.mp hb with rfl | rfl
  · obtain rfl := Option.some.inj hisbn
    exact hpaper
  · obtain rfl := Option.some.inj hisbn
    exact hscanned

/-- Two books of one author without a title are not linked. -/
def untitled (bookId : ℤ) : BookNode where
  bookId := bookId
  title := "(2020)"
  cleanedTitle := ""
  author := "Frank Herbert"
  isbn := none
  formats := ["EPUB"]

theorem untitled_books_are_not_linked :
    clusterDuplicates .ascii [untitled 1, untitled 2] = .ok [] ∧
      EntityCleanser.cleanAuthorName .ascii (untitled 1).author =
        EntityCleanser.cleanAuthorName .ascii (untitled 2).author ∧
      RuleRuntime.ascii.lower (untitled 1).cleanedTitle =
        RuleRuntime.ascii.lower (untitled 2).cleanedTitle := by
  decide

end Bookwarden.Curation
