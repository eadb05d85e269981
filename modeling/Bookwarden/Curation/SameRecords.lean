import Bookwarden.Curation.Consolidator
import Bookwarden.Identity.Identifiers

/-!
# Sound and complete clusters

Two records denote the same ISBN-13 when their stored texts have the same canonical form. They are of
the same work when their titles and their authors agree up to letter case, punctuation, white space
and leading articles, with letters and digits of any script; `+` and `#` count as well, which tell
one programming language from another.

The consolidator compares cleaned texts instead: an ISBN-10 and the ISBN-13 it stands for are two
texts, and a letter outside ASCII is no letter.

## Main definitions

* `SameIsbn`, `SameWork`, `SoundComplete`
* `Comparable`

## Main results

* `soundComplete_iff`
* `two_forms_of_an_isbn`
-/

namespace Bookwarden.Curation.Consolidator

section Notions

variable (py : RuleRuntime)

/-- A letter or digit of any script, white space, `+` or `#`. -/
def isSignificant (c : Char) : Bool :=
  (py.isWord c && c != '_') || isSpace c || c = '+' || c = '#'

/-- The texts agree up to letter case, punctuation, white space and leading articles. -/
def SameText (s t : String) : Prop :=
  normalForm py (isSignificant py) s = normalForm py (isSignificant py) t

/-- Titles and authors agree. -/
structure SameWork (r r' : BookRow) : Prop where
  title : SameText py (r.title.getD "") (r'.title.getD "")
  authors : SameText py (r.authors.getD "") (r'.authors.getD "")

/-- The stored texts are valid and denote the same ISBN-13. -/
def SameIsbn (r r' : BookRow) : Prop :=
  ∃ canonical, r.isbn.bind validateIsbn = some canonical ∧
    r'.isbn.bind validateIsbn = some canonical

/-- The two books are in one of the clusters. -/
def Together (clusters : List DuplicateCluster) (r r' : BookRow) : Prop :=
  ∃ c ∈ clusters, r.bookId ∈ c.bookIds ∧ r'.bookId ∈ c.bookIds

/-- What the clusters of a library owe to its books. -/
structure SoundComplete (rows : List BookRow) (clusters : List DuplicateCluster) : Prop where
  isbn : ∀ r ∈ rows, ∀ r' ∈ rows, r.bookId ≠ r'.bookId → SameIsbn r r' → Together clusters r r'
  work : ∀ r ∈ rows, ∀ r' ∈ rows, r.bookId ≠ r'.bookId → SameWork py r r' → Together clusters r r'
  sound : ∀ c ∈ clusters, c.clusterType = "multi_format_duplicate" →
    ∀ r ∈ rows, ∀ r' ∈ rows, r.bookId ≠ r'.bookId → r.bookId ∈ c.bookIds → r'.bookId ∈ c.bookIds →
      SameWork py r r'
  merge : ∀ c ∈ clusters, c.recommendation = "MERGE_FORMATS" →
    ∀ r ∈ rows, ∀ r' ∈ rows, r.bookId ≠ r'.bookId → r.bookId ∈ c.bookIds → r'.bookId ∈ c.bookIds →
      ∀ fmt, ¬(fmt ∈ (entryOf py r).formats ∧ fmt ∈ (entryOf py r').formats)

/-- The same normalized title and author, neither empty, or the same cleaned ISBN, which is
accepted. -/
def SameKey (r r' : BookRow) : Prop :=
  (∃ k, titleKey py (entryOf py r) = some k ∧ titleKey py (entryOf py r') = some k) ∨
    ∃ k, isbnKey py (entryOf py r) = some k ∧ isbnKey py (entryOf py r') = some k

/-- The keys tell what they stand for. -/
structure Comparable (rows : List BookRow) : Prop where
  isbn : ∀ r ∈ rows, ∀ r' ∈ rows, r.bookId ≠ r'.bookId → SameIsbn r r' → SameKey py r r'
  work : ∀ r ∈ rows, ∀ r' ∈ rows, r.bookId ≠ r'.bookId → SameWork py r r' → SameKey py r r'
  titles : ∀ r ∈ rows, ∀ r' ∈ rows, r.bookId ≠ r'.bookId →
    (∃ k, titleKey py (entryOf py r) = some k ∧ titleKey py (entryOf py r') = some k) →
      SameWork py r r'

end Notions

variable {py : RuleRuntime} {rows : List BookRow} {c : DuplicateCluster}

/-! ### The clusters of a key -/

theorem mem_keyed {κ : Type} {key : Entry → Option κ} {entries : List Entry} {k : κ} {e : Entry} :
    (k, e) ∈ keyed key entries ↔ e ∈ entries ∧ key e = some k := by
  rw [keyed, List.mem_filterMap]
  constructor
  · rintro ⟨e', he', hk⟩
    obtain ⟨k', hk', heq⟩ := Option.map_eq_some_iff.mp hk
    obtain ⟨rfl, rfl⟩ := Prod.mk.inj heq
    exact ⟨he', hk'⟩
  · rintro ⟨he, hk⟩
    exact ⟨e, he, by rw [hk]; rfl⟩

/-- The clusters of the groups of a key. -/
def clustersOf {κ : Type} [DecidableEq κ] (key : Entry → Option κ)
    (cluster : κ × List Entry → Option DuplicateCluster) (entries : List Entry) :
    List DuplicateCluster :=
  (Grouping.collect (keyed key entries)).filterMap cluster

section Clusters

variable {clusterType : String} {complementary other : ℚ} {details : List (String × String)}
  {group : List Entry}

theorem clusterOf_eq_some
    (h : clusterOf clusterType complementary other details group = some c) :
    c.bookIds = group.map Entry.bookId ∧ c.clusterType = clusterType ∧
      (c.recommendation = "MERGE_FORMATS" →
        isComplementary (Assoc.update [] (group.map fun e => (e.bookId, e.formats))) = true) := by
  match group with
  | [] => cases h
  | [e] => cases h
  | primary :: duplicate :: duplicates =>
    rw [clusterOf, Option.some.injEq] at h
    subst h
    refine ⟨rfl, rfl, ?_⟩
    intro hmerge
    by_contra hnot
    have hother : "INSPECT_MANUALLY" = "MERGE_FORMATS" := (if_neg hnot).symm.trans hmerge
    exact absurd hother (by decide)

theorem exists_clusterOf (h : 1 < group.length) :
    ∃ c, clusterOf clusterType complementary other details group = some c := by
  match group with
  | [] => simp at h
  | [e] => simp at h
  | primary :: duplicate :: duplicates => exact ⟨_, rfl⟩

end Clusters

/-- What a kind of cluster makes of a group. -/
structure MakesClusters {κ : Type} (cluster : κ × List Entry → Option DuplicateCluster)
    (clusterType : String) : Prop where
  spec : ∀ {k group c}, cluster (k, group) = some c →
    c.bookIds = group.map Entry.bookId ∧ c.clusterType = clusterType ∧
      (c.recommendation = "MERGE_FORMATS" →
        isComplementary (Assoc.update [] (group.map fun e => (e.bookId, e.formats))) = true)
  exists_of_length : ∀ {k group}, 1 < group.length → ∃ c, cluster (k, group) = some c

theorem titleCluster_makes : MakesClusters titleCluster "multi_format_duplicate" :=
  ⟨clusterOf_eq_some, exists_clusterOf⟩

theorem isbnCluster_makes : MakesClusters isbnCluster "isbn_collision" :=
  ⟨clusterOf_eq_some, exists_clusterOf⟩

/-- A cluster of a key: its members are the books with the key, and where it recommends to merge, no
format is held twice. -/
structure ClusterOfKey {κ : Type} (py : RuleRuntime) (rows : List BookRow) (key : Entry → Option κ)
    (c : DuplicateCluster) : Prop where
  members : ∃ k, ∀ r ∈ rows, r.bookId ∈ c.bookIds ↔ key (entryOf py r) = some k
  merge : c.recommendation = "MERGE_FORMATS" → ∀ r ∈ rows, ∀ r' ∈ rows, r.bookId ≠ r'.bookId →
    r.bookId ∈ c.bookIds → r'.bookId ∈ c.bookIds →
      ∀ fmt, ¬(fmt ∈ (entryOf py r).formats ∧ fmt ∈ (entryOf py r').formats)

theorem eq_of_bookId (hids : (rows.map BookRow.bookId).Nodup) {r r' : BookRow} (hr : r ∈ rows)
    (hr' : r' ∈ rows) (h : r.bookId = r'.bookId) : r = r' :=
  List.inj_on_of_nodup_map hids hr hr' h

/-- The formats of different books are different formats. -/
theorem formats_disjoint {group : List Entry} (hids : (group.map Entry.bookId).Nodup)
    (hcomplementary :
      isComplementary (Assoc.update [] (group.map fun e => (e.bookId, e.formats))) = true)
    {e e' : Entry} (he : e ∈ group) (he' : e' ∈ group) (hne : e.bookId ≠ e'.bookId) (fmt : String) :
    ¬(fmt ∈ e.formats ∧ fmt ∈ e'.formats) := by
  rintro ⟨hfmt, hfmt'⟩
  have hkeys : Assoc.keys (group.map fun e => (e.bookId, e.formats)) = group.map Entry.bookId :=
    List.map_map
  have hmap : Assoc.update [] (group.map fun e => (e.bookId, e.formats)) =
      group.map fun e => (e.bookId, e.formats) := by
    refine Assoc.update_of_nodup ?_
    rw [List.nil_append, hkeys]
    exact hids
  rw [hmap, isComplementary, List.flatMap_map, decide_eq_true_eq] at hcomplementary
  have hpairs := (List.nodup_flatMap.mp hcomplementary.2).2
  have hsymm : Std.Symm (Function.onFun List.Disjoint fun e : Entry => e.formats) :=
    ⟨fun _ _ h => h.symm⟩
  have hentries : e ≠ e' := fun h => hne (congrArg Entry.bookId h)
  have hdisjoint := hpairs.forall he he' hentries
  exact hdisjoint hfmt hfmt'

/-- The group of a key has the entries with that key. -/
theorem group_keyed {κ : Type} [DecidableEq κ] (key : Entry → Option κ) (k : κ)
    (entries : List Entry) :
    Grouping.group k (keyed key entries) = entries.filter fun e => key e = some k := by
  induction entries with
  | nil => rfl
  | cons e entries ih =>
    have hstep : keyed key (e :: entries) =
        ((key e).map fun k => (k, e)).toList ++ keyed key entries := by
      rw [keyed, List.filterMap_cons]
      cases key e <;> rfl
    rw [Grouping.group] at ih ⊢
    rw [hstep]
    cases hkey : key e with
    | none =>
      rw [List.filter_cons_of_neg (by simp [hkey])]
      exact ih
    | some k' =>
      show ((((k', e) :: keyed key entries).filter _).map _) = _
      by_cases h : k' = k
      · rw [List.filter_cons_of_pos (by simp [h]), List.map_cons, ih,
          List.filter_cons_of_pos (by simp [hkey, h])]
      · rw [List.filter_cons_of_neg (by simp [h]), ih, List.filter_cons_of_neg (by simp [hkey, h])]

section OneKey

variable {κ : Type} [DecidableEq κ] {key : Entry → Option κ}
  {cluster : κ × List Entry → Option DuplicateCluster} {clusterType : String}

theorem clusterOfKey_of_mem (hids : (rows.map BookRow.bookId).Nodup)
    (hcluster : MakesClusters cluster clusterType)
    (hc : c ∈ clustersOf key cluster (rows.map (entryOf py))) :
    ClusterOfKey py rows key c ∧ c.clusterType = clusterType := by
  obtain ⟨⟨k, group⟩, hgroup, hsome⟩ := List.mem_filterMap.mp hc
  have hfilter : group = (rows.map (entryOf py)).filter fun e => key e = some k := by
    rw [(Grouping.mem_collect.mp hgroup).2, group_keyed]
  obtain ⟨hbooks, htype, hmerge⟩ := hcluster.spec hsome
  have hmem : ∀ r ∈ rows, r.bookId ∈ c.bookIds ↔ key (entryOf py r) = some k := by
    intro r hr
    rw [hbooks, hfilter]
    constructor
    · intro hid
      obtain ⟨e, he, hid⟩ := List.mem_map.mp hid
      obtain ⟨he, hkey⟩ := List.mem_filter.mp he
      obtain ⟨r', hr', rfl⟩ := List.mem_map.mp he
      have hsame : r' = r := eq_of_bookId hids hr' hr hid
      subst hsame
      exact of_decide_eq_true hkey
    · intro hkey
      have hentry : entryOf py r ∈ (rows.map (entryOf py)).filter fun e => key e = some k :=
        List.mem_filter.mpr ⟨List.mem_map_of_mem hr, decide_eq_true hkey⟩
      exact List.mem_map.mpr ⟨entryOf py r, hentry, rfl⟩
  refine ⟨⟨⟨k, hmem⟩, ?_⟩, htype⟩
  intro hrecommended r hr r' hr' hne hbook hbook'
  have hnodup : (group.map Entry.bookId).Nodup := by
    have hall : ((rows.map (entryOf py)).map Entry.bookId).Nodup := by
      rw [List.map_map]
      exact hids
    rw [hfilter]
    exact hall.sublist (List.filter_sublist.map _)
  have hin : ∀ r ∈ rows, r.bookId ∈ c.bookIds → entryOf py r ∈ group := by
    intro r hr hbook
    rw [hfilter]
    exact List.mem_filter.mpr ⟨List.mem_map_of_mem hr, decide_eq_true ((hmem r hr).mp hbook)⟩
  exact formats_disjoint hnodup (hmerge hrecommended) (hin r hr hbook) (hin r' hr' hbook') hne

theorem exists_cluster (hcluster : MakesClusters cluster clusterType) {r r' : BookRow}
    (hr : r ∈ rows) (hr' : r' ∈ rows) (hne : r.bookId ≠ r'.bookId) {k : κ} (hk : key (entryOf py r) = some k)
    (hk' : key (entryOf py r') = some k) :
    ∃ c ∈ clustersOf key cluster (rows.map (entryOf py)),
      r.bookId ∈ c.bookIds ∧ r'.bookId ∈ c.bookIds := by
  have hin : ∀ r ∈ rows, key (entryOf py r) = some k →
      entryOf py r ∈ Grouping.group k (keyed key (rows.map (entryOf py))) := by
    intro r hr hk
    exact Grouping.mem_group.mpr (mem_keyed.mpr ⟨List.mem_map_of_mem hr, hk⟩)
  have hlength : 1 < (Grouping.group k (keyed key (rows.map (entryOf py)))).length := by
    have hentry := hin r hr hk
    have hentry' := hin r' hr' hk'
    match hgroup : Grouping.group k (keyed key (rows.map (entryOf py))) with
    | [] => rw [hgroup] at hentry; cases hentry
    | [e] =>
      rw [hgroup, List.mem_singleton] at hentry hentry'
      exact absurd (congrArg Entry.bookId (hentry.trans hentry'.symm)) hne
    | e :: e' :: entries => simp
  obtain ⟨c, hc⟩ : ∃ c, cluster (k, _) = some c := hcluster.exists_of_length hlength
  have hcollect : (k, Grouping.group k (keyed key (rows.map (entryOf py)))) ∈
      Grouping.collect (keyed key (rows.map (entryOf py))) := by
    refine Grouping.mem_collect.mpr ⟨?_, rfl⟩
    exact List.ne_nil_of_mem (hin r hr hk)
  obtain ⟨hbooks, -, -⟩ := hcluster.spec hc
  refine ⟨c, List.mem_filterMap.mpr ⟨_, hcollect, hc⟩, ?_, ?_⟩
  · rw [hbooks]
    exact List.mem_map.mpr ⟨_, hin r hr hk, rfl⟩
  · rw [hbooks]
    exact List.mem_map.mpr ⟨_, hin r' hr' hk', rfl⟩

end OneKey

/-! ### All clusters -/

/-- Clusters with the same `bids` have the same books. -/
theorem mem_bookIds_iff_of_bids {c c' : DuplicateCluster} (h : c.bids = c'.bids) (id : ℤ) :
    id ∈ c.bookIds ↔ id ∈ c'.bookIds := by
  have hperm : c.bookIds.Perm c'.bookIds := by
    calc c.bookIds.Perm c.bids := (List.perm_insertionSort _ _).symm
      _ = c'.bids := h
      _ |>.Perm c'.bookIds := List.perm_insertionSort _ _
  exact hperm.mem_iff

/-- Every cluster of a key is there, or one of the same books. -/
theorem together_of_sameKey {r r' : BookRow} (hr : r ∈ rows) (hr' : r' ∈ rows)
    (hne : r.bookId ≠ r'.bookId) (h : SameKey py r r') :
    Together (findMultiFormatDuplicates py rows) r r' := by
  have hkept : ∃ c ∈ findMultiFormatDuplicates py rows, ∃ c' : DuplicateCluster, c.bids = c'.bids ∧
      r.bookId ∈ c'.bookIds ∧ r'.bookId ∈ c'.bookIds := by
    rcases h with ⟨k, hk, hk'⟩ | ⟨k, hk, hk'⟩
    · obtain ⟨c', hc', hboth⟩ := exists_cluster titleCluster_makes hr hr' hne hk hk'
      obtain ⟨b, hb, hbids⟩ := @KeepFirst.exists_mem_addAll _ _ _ DuplicateCluster.bids _ _ _
        (List.mem_append_right [] hc')
      exact ⟨b, KeepFirst.mem_addAll_of_mem hb, c', hbids, hboth⟩
    · obtain ⟨c', hc', hboth⟩ := exists_cluster isbnCluster_makes hr hr' hne hk hk'
      obtain ⟨b, hb, hbids⟩ := @KeepFirst.exists_mem_addAll _ _ _ DuplicateCluster.bids _ _ _
        (List.mem_append_right _ hc')
      exact ⟨b, hb, c', hbids, hboth⟩
  obtain ⟨c, hc, c', hbids, hboth⟩ := hkept
  exact ⟨c, hc, (mem_bookIds_iff_of_bids hbids _).mpr hboth.1,
    (mem_bookIds_iff_of_bids hbids _).mpr hboth.2⟩

/-- A cluster there is one of the titles and authors or one of the ISBNs. -/
theorem clusterOfKey_of_mem_all (hids : (rows.map BookRow.bookId).Nodup) :
    ∀ c ∈ findMultiFormatDuplicates py rows,
      (ClusterOfKey py rows (titleKey py) c ∧ c.clusterType = "multi_format_duplicate") ∨
        (ClusterOfKey py rows (isbnKey py) c ∧ c.clusterType = "isbn_collision") := by
  refine KeepFirst.forall_mem_addAll (KeepFirst.forall_mem_addAll ?_ ?_) ?_
  · intro c hc
    cases hc
  · intro c hc
    exact Or.inl (clusterOfKey_of_mem hids titleCluster_makes hc)
  · intro c hc
    exact Or.inr (clusterOfKey_of_mem hids isbnCluster_makes hc)

theorem sameKey_of_together (hids : (rows.map BookRow.bookId).Nodup) {r r' : BookRow} (hr : r ∈ rows)
    (hr' : r' ∈ rows) (h : Together (findMultiFormatDuplicates py rows) r r') : SameKey py r r' := by
  obtain ⟨c, hc, hbook, hbook'⟩ := h
  rcases clusterOfKey_of_mem_all hids c hc with ⟨hcluster, -⟩ | ⟨hcluster, -⟩
  · obtain ⟨k, hmem⟩ := hcluster.members
    exact Or.inl ⟨k, (hmem r hr).mp hbook, (hmem r' hr').mp hbook'⟩
  · obtain ⟨k, hmem⟩ := hcluster.members
    exact Or.inr ⟨k, (hmem r hr).mp hbook, (hmem r' hr').mp hbook'⟩

/-- A cluster of titles and authors has the books of one key. -/
theorem sameTitleKey_of_titleCluster (hids : (rows.map BookRow.bookId).Nodup)
    (hc : c ∈ findMultiFormatDuplicates py rows) (htype : c.clusterType = "multi_format_duplicate")
    {r r' : BookRow} (hr : r ∈ rows) (hr' : r' ∈ rows) (hbook : r.bookId ∈ c.bookIds)
    (hbook' : r'.bookId ∈ c.bookIds) :
    ∃ k, titleKey py (entryOf py r) = some k ∧ titleKey py (entryOf py r') = some k := by
  rcases clusterOfKey_of_mem_all hids c hc with ⟨hcluster, -⟩ | ⟨-, htype'⟩
  · obtain ⟨k, hmem⟩ := hcluster.members
    exact ⟨k, (hmem r hr).mp hbook, (hmem r' hr').mp hbook'⟩
  · rw [htype'] at htype
    exact absurd htype (by decide)

/-- Books with the same normalized title and author are in a cluster of titles and authors. -/
theorem exists_titleCluster (hids : (rows.map BookRow.bookId).Nodup) {r r' : BookRow} (hr : r ∈ rows)
    (hr' : r' ∈ rows) (hne : r.bookId ≠ r'.bookId) {k : String × String}
    (hk : titleKey py (entryOf py r) = some k) (hk' : titleKey py (entryOf py r') = some k) :
    ∃ c ∈ findMultiFormatDuplicates py rows, c.clusterType = "multi_format_duplicate" ∧
      r.bookId ∈ c.bookIds ∧ r'.bookId ∈ c.bookIds := by
  obtain ⟨c, hc, hboth⟩ := exists_cluster titleCluster_makes hr hr' hne hk hk'
  obtain ⟨b, hb, hbids⟩ := @KeepFirst.exists_mem_addAll _ _ _ DuplicateCluster.bids _ _ _
    (List.mem_append_right [] hc)
  have htype : ∀ b ∈ KeepFirst.addAll DuplicateCluster.bids []
      (clustersOf (titleKey py) titleCluster (rows.map (entryOf py))),
      b.clusterType = "multi_format_duplicate" := by
    refine KeepFirst.forall_mem_addAll (fun c hc => nomatch hc) fun c hc => ?_
    exact (clusterOfKey_of_mem hids titleCluster_makes hc).2
  exact ⟨b, KeepFirst.mem_addAll_of_mem hb, htype b hb, (mem_bookIds_iff_of_bids hbids _).mpr hboth.1,
    (mem_bookIds_iff_of_bids hbids _).mpr hboth.2⟩

/-! ### When the clusters are those of the works -/

/-- Sound and complete exactly when equal keys mean the same work, and the same work or ISBN means
equal keys. -/
theorem soundComplete_iff (py : RuleRuntime) (rows : List BookRow)
    (hids : (rows.map BookRow.bookId).Nodup) :
    SoundComplete py rows (findMultiFormatDuplicates py rows) ↔ Comparable py rows := by
  constructor
  · intro h
    refine ⟨?_, ?_, ?_⟩
    · intro r hr r' hr' hne hsame
      exact sameKey_of_together hids hr hr' (h.isbn r hr r' hr' hne hsame)
    · intro r hr r' hr' hne hsame
      exact sameKey_of_together hids hr hr' (h.work r hr r' hr' hne hsame)
    · rintro r hr r' hr' hne ⟨k, hk, hk'⟩
      obtain ⟨c, hc, htype, hbook, hbook'⟩ := exists_titleCluster hids hr hr' hne hk hk'
      exact h.sound c hc htype r hr r' hr' hne hbook hbook'
  · intro h
    refine ⟨?_, ?_, ?_, ?_⟩
    · intro r hr r' hr' hne hsame
      exact together_of_sameKey hr hr' hne (h.isbn r hr r' hr' hne hsame)
    · intro r hr r' hr' hne hsame
      exact together_of_sameKey hr hr' hne (h.work r hr r' hr' hne hsame)
    · intro c hc htype r hr r' hr' hne hbook hbook'
      exact h.titles r hr r' hr' hne (sameTitleKey_of_titleCluster hids hc htype hr hr' hbook hbook')
    · intro c hc
      rcases clusterOfKey_of_mem_all hids c hc with ⟨hcluster, -⟩ | ⟨hcluster, -⟩
      · exact hcluster.merge
      · exact hcluster.merge

/-! ### Two forms of an ISBN -/

/-- A record with a format and an ISBN. -/
def record (bookId : ℤ) (title fmt isbn : String) : BookRow :=
  { bookId := bookId, title := some title, authors := some "Frank Herbert", formats := some fmt,
    isbn := some isbn }

theorem soundComplete_dune :
    SoundComplete .ascii [record 1 "Dune" "EPUB" "9780306406157", record 2 "The Dune" "PDF" ""]
      (findMultiFormatDuplicates .ascii
        [record 1 "Dune" "EPUB" "9780306406157", record 2 "The Dune" "PDF" ""]) := by
  have hkey : ∀ r ∈ [record 1 "Dune" "EPUB" "9780306406157", record 2 "The Dune" "PDF" ""],
      titleKey .ascii (entryOf .ascii r) = some ("dune", "frank herbert") := by decide
  have htitle : ∀ r ∈ [record 1 "Dune" "EPUB" "9780306406157", record 2 "The Dune" "PDF" ""],
      normalForm .ascii (isSignificant .ascii) (r.title.getD "") = "dune" := by decide
  have hauthors : ∀ r ∈ [record 1 "Dune" "EPUB" "9780306406157", record 2 "The Dune" "PDF" ""],
      normalForm .ascii (isSignificant .ascii) (r.authors.getD "") = "frank herbert" := by decide
  refine (soundComplete_iff .ascii _ (by decide)).mpr ⟨?_, ?_, ?_⟩
  · intro r hr r' hr' _ _
    exact Or.inl ⟨_, hkey r hr, hkey r' hr'⟩
  · intro r hr r' hr' _ _
    exact Or.inl ⟨_, hkey r hr, hkey r' hr'⟩
  · intro r hr r' hr' _ _
    exact ⟨(htitle r hr).trans (htitle r' hr').symm, (hauthors r hr).trans (hauthors r' hr').symm⟩

/-- The ISBN-10 and the ISBN-13 of one book: no cluster has both records. -/
theorem two_forms_of_an_isbn :
    ¬SoundComplete .ascii
      [record 1 "Dune" "EPUB" "0306406152", record 2 "Arrakis" "PDF" "9780306406157"]
      (findMultiFormatDuplicates .ascii
        [record 1 "Dune" "EPUB" "0306406152", record 2 "Arrakis" "PDF" "9780306406157"]) := by
  intro h
  have hsame : SameIsbn (record 1 "Dune" "EPUB" "0306406152")
      (record 2 "Arrakis" "PDF" "9780306406157") :=
    ⟨"9780306406157", by decide, by decide⟩
  have hnone : findMultiFormatDuplicates .ascii
      [record 1 "Dune" "EPUB" "0306406152", record 2 "Arrakis" "PDF" "9780306406157"] = [] := by
    decide
  rw [hnone] at h
  obtain ⟨c, hc, -⟩ := h.isbn _ List.mem_cons_self _ (List.mem_cons_of_mem _ List.mem_cons_self)
    (by decide) hsame
  cases hc

end Bookwarden.Curation.Consolidator
