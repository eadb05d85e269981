import Mathlib.Data.List.Dedup
import Bookwarden.Identity.Identifiers
import Bookwarden.Lib.EditDistance
import Bookwarden.Providers.Consensus
import Bookwarden.Verification.Spaces

/-!
# Similarity of texts

The rows of `FuzzyMatcher.ratio` hold the edit distances of prefixes, so that the ratio is one less the
edit distance over the greater length. The ratio of token sets takes the ratio of the normalized texts
into account, and a text that is normalized stays as it is when it is normalized again, as far as
decompositions and lower case are what Unicode says.

## Main definitions

* `LawfulUnicode` — decomposition and lower case
* `Settled` — what `normalize_str` leaves as it is
* `RatioCorrect`

## Main results

* `levenshtein_eq` — the two rows compute the edit distance
* `normalizeStr_idem`
* `ratio_correct`
-/

namespace Bookwarden.Consensus.FuzzyMatcher

open EditDistance

/-! ### The rows -/

/-- The inner loop makes the rest of the next row. -/
theorem levenshteinCells_row (ch1 : Char) (l p q : List Char) :
    levenshteinCells ch1 (distance (l ++ [ch1]) p) (row l p q) q = (row (l ++ [ch1]) p q).tail := by
  induction q generalizing p with
  | nil => rfl
  | cons ch2 q ih =>
    have hcell : min (min (distance l (p ++ [ch2]) + 1) (distance (l ++ [ch1]) p + 1))
        (distance l p + if ch1 = ch2 then 0 else 1) = distance (l ++ [ch1]) (p ++ [ch2]) :=
      (distance_concat ch1 ch2 l p).symm
    obtain ⟨above, habove⟩ := row_eq_cons l (p ++ [ch2]) q
    obtain ⟨next, hnext⟩ := row_eq_cons (l ++ [ch1]) (p ++ [ch2]) q
    have hrest := ih (p ++ [ch2])
    rw [habove, hnext] at hrest
    rw [row, row, habove, hnext, levenshteinCells]
    simp only [hcell, hrest, List.tail_cons]

/-- The outer loop goes from the row of a text to that of a longer one. -/
theorem levenshteinRows_row (c2 l c1 : List Char) :
    levenshteinRows c2 l.length (row l [] c2) c1 = row (l ++ c1) [] c2 := by
  induction c1 generalizing l with
  | nil => rw [levenshteinRows, List.append_nil]
  | cons ch1 c1 ih =>
    have hstart : distance (l ++ [ch1]) [] = l.length + 1 := by
      rw [distance_nil_right, List.length_append, List.length_singleton]
    have hnext : (l.length + 1) :: levenshteinCells ch1 (l.length + 1) (row l [] c2) c2
        = row (l ++ [ch1]) [] c2 := by
      obtain ⟨rest, hrest⟩ := row_eq_cons (l ++ [ch1]) [] c2
      rw [← hstart, levenshteinCells_row, hrest, List.tail_cons]
    have hrows := ih (l ++ [ch1])
    rw [List.length_append, List.length_singleton, List.append_assoc, List.singleton_append] at hrows
    rw [levenshteinRows, hnext, hrows]

/-- The first row. -/
theorem row_nil (p q : List Char) : row [] p q = List.range' p.length (q.length + 1) := by
  induction q generalizing p with
  | nil =>
    rw [row, distance_nil_left]
    rfl
  | cons ch q ih =>
    rw [row, distance_nil_left, ih, List.length_append, List.length_singleton, List.length_cons]
    rfl

/-- The program computes the edit distance. -/
theorem levenshtein_eq (c1 c2 : List Char) : levenshtein c1 c2 = distance c1 c2 := by
  have hfirst : List.range (c2.length + 1) = row [] [] c2 := by
    rw [row_nil, List.range_eq_range']
    rfl
  have hrows := levenshteinRows_row c2 [] c1
  rw [List.length_nil, List.nil_append] at hrows
  rw [levenshtein, hfirst, hrows, getLastD_row, List.nil_append]

/-! ### The ratio -/

variable (py : RuleRuntime)

/-- The normalized text. -/
def normal (s : String) : List Char := (normalizeStr py s).toList

/-- The greater of the lengths of the normalized texts. -/
def greaterLength (a b : String) : ℕ := max (normal py a).length (normal py b).length

variable {py}

theorem ratio_of_both_empty {a b : String} (ha : normal py a = []) (hb : normal py b = []) :
    ratio py a b = 1 := if_pos ⟨ha, hb⟩

theorem ratio_of_one_empty {a b : String} (h : ¬(normal py a = [] ∧ normal py b = []))
    (hone : normal py a = [] ∨ normal py b = []) : ratio py a b = 0 := by
  show (if normal py a = [] ∧ normal py b = [] then (1 : ℚ)
    else if normal py a = [] ∨ normal py b = [] then 0 else _) = 0
  rw [if_neg h, if_pos hone]

/-- The distance is at most the greater length, as a quotient. -/
theorem quotient_le_one (l m : List Char) :
    (distance l m : ℚ) / ((max l.length m.length : ℕ) : ℚ) ≤ 1 := by
  refine div_le_one_of_le₀ ?_ (Nat.cast_nonneg _)
  exact Nat.cast_le.mpr (distance_le_max l m)

theorem ratio_of_nonempty {a b : String} (h : ¬(normal py a = [] ∨ normal py b = [])) :
    ratio py a b = 1 - (distance (normal py a) (normal py b) : ℚ) / (greaterLength py a b : ℚ) := by
  have hboth : ¬(normal py a = [] ∧ normal py b = []) := fun hand => h (Or.inl hand.1)
  show (if normal py a = [] ∧ normal py b = [] then (1 : ℚ)
    else if normal py a = [] ∨ normal py b = [] then 0
    else if normal py a = normal py b then 1
    else max 0 (1 - (levenshtein (if (normal py a).length < (normal py b).length then normal py b
      else normal py a) (if (normal py a).length < (normal py b).length then normal py a
      else normal py b) : ℚ) / ((max (if (normal py a).length < (normal py b).length then normal py b
      else normal py a).length (if (normal py a).length < (normal py b).length then normal py a
      else normal py b).length : ℕ) : ℚ))) = _
  rw [if_neg hboth, if_neg h]
  have hle := quotient_le_one (normal py a) (normal py b)
  by_cases heq : normal py a = normal py b
  · rw [if_pos heq, heq, distance_self, Nat.cast_zero, zero_div, sub_zero]
  · rw [if_neg heq, levenshtein_eq]
    -- which of the texts comes first makes no difference
    by_cases hlength : (normal py a).length < (normal py b).length
    · rw [if_pos hlength, if_pos hlength, distance_comm, max_comm (normal py b).length]
      exact max_eq_right (sub_nonneg.mpr hle)
    · rw [if_neg hlength, if_neg hlength]
      exact max_eq_right (sub_nonneg.mpr hle)

theorem ratio_comm (a b : String) : ratio py a b = ratio py b a := by
  by_cases hboth : normal py a = [] ∧ normal py b = []
  · rw [ratio_of_both_empty hboth.1 hboth.2, ratio_of_both_empty hboth.2 hboth.1]
  · by_cases hone : normal py a = [] ∨ normal py b = []
    · rw [ratio_of_one_empty hboth hone,
        ratio_of_one_empty (fun h => hboth ⟨h.2, h.1⟩) (Or.comm.mp hone)]
    · rw [ratio_of_nonempty hone, ratio_of_nonempty fun h => hone (Or.comm.mp h), distance_comm,
        greaterLength, max_comm]
      rfl

theorem ratio_nonneg (a b : String) : 0 ≤ ratio py a b := by
  by_cases hboth : normal py a = [] ∧ normal py b = []
  · rw [ratio_of_both_empty hboth.1 hboth.2]
    exact zero_le_one
  · by_cases hone : normal py a = [] ∨ normal py b = []
    · rw [ratio_of_one_empty hboth hone]
    · rw [ratio_of_nonempty hone]
      exact sub_nonneg.mpr (quotient_le_one _ _)

theorem ratio_le_one (a b : String) : ratio py a b ≤ 1 := by
  by_cases hboth : normal py a = [] ∧ normal py b = []
  · rw [ratio_of_both_empty hboth.1 hboth.2]
  · by_cases hone : normal py a = [] ∨ normal py b = []
    · rw [ratio_of_one_empty hboth hone]
      exact zero_le_one
    · rw [ratio_of_nonempty hone]
      exact sub_le_self _ (div_nonneg (Nat.cast_nonneg _) (Nat.cast_nonneg _))

theorem ratio_eq_one_iff (a b : String) :
    ratio py a b = 1 ↔ normalizeStr py a = normalizeStr py b := by
  have hnormal : normalizeStr py a = normalizeStr py b ↔ normal py a = normal py b :=
    String.toList_inj.symm
  rw [hnormal]
  by_cases hboth : normal py a = [] ∧ normal py b = []
  · rw [ratio_of_both_empty hboth.1 hboth.2, hboth.1, hboth.2]
    simp
  · by_cases hone : normal py a = [] ∨ normal py b = []
    · rw [ratio_of_one_empty hboth hone]
      refine ⟨fun h => absurd h zero_ne_one, fun h => ?_⟩
      rw [h, or_self] at hone
      exact absurd ⟨h.trans hone, hone⟩ hboth
    · have hpositive : greaterLength py a b ≠ 0 := by
        have hne : (normal py a).length ≠ 0 := fun h => hone (Or.inl (List.eq_nil_of_length_eq_zero h))
        rw [greaterLength]
        omega
      rw [ratio_of_nonempty hone, sub_eq_self, div_eq_zero_iff, Nat.cast_eq_zero, Nat.cast_eq_zero,
        distance_eq_zero_iff]
      exact or_iff_left hpositive

/-! ### Normalizing twice -/

variable (py) in
/-- A character that has no decomposition and is no combining mark. -/
def Plain (c : Char) : Prop :=
  py.nfkd (String.singleton c) = String.singleton c ∧ py.combining c = false

variable (py) in
/-- A character and what lower case makes of it. -/
structure SameKind (c d : Char) : Prop where
  plain : Plain py d
  word : py.isWord d = py.isWord c
  space : isSpace d = isSpace c
  same : isSpace c = true → d = c

variable (py) in
/-- What Unicode says about decompositions and lower case: a decomposition is of characters that have
none, and plain characters are one by one put into lower case, which is plain and stays. -/
structure LawfulUnicode : Prop where
  nfkd_decomposed : ∀ s, ∀ c ∈ (py.nfkd s).toList, py.nfkd (String.singleton c) = String.singleton c
  nfkd_plain : ∀ s, (∀ c ∈ s.toList, Plain py c) → py.nfkd s = s
  lower_plain : ∀ s, (∀ c ∈ s.toList, Plain py c) →
    List.Forall₂ (SameKind py) s.toList (py.lower s).toList
  lower_lower : ∀ s, (∀ c ∈ s.toList, Plain py c) → py.lower (py.lower s) = py.lower s

variable (py) in
/-- A text that `normalize_str` leaves as it is, up to its case. -/
structure Settled (cs : List Char) : Prop where
  plain : ∀ c ∈ cs, Plain py c
  kept : ∀ c ∈ cs, (py.isWord c || isSpace c) = true
  collapsed : collapseSpaces cs = cs
  stripped : stripChars cs = cs

theorem plain_blank : Plain py ' ' :=
  ⟨py.nfkd_ascii _ (by decide), py.combining_ascii _ (by decide)⟩

/-- The text before it is put into lower case. -/
theorem settled_of_kept {cs : List Char} (hplain : ∀ c ∈ cs, Plain py c) :
    Settled py (stripChars (collapseSpaces
      (cs.map fun c => if py.isWord c || isSpace c then c else ' '))) := by
  have hstrip : ∀ {l : List Char} {c : Char}, c ∈ stripChars l → c ∈ l := fun h =>
    (List.dropWhile_suffix _).subset ((List.rdropWhile_prefix _ _).subset h)
  have hmem : ∀ c ∈ stripChars (collapseSpaces
      (cs.map fun c => if py.isWord c || isSpace c then c else ' ')),
      Plain py c ∧ (py.isWord c || isSpace c) = true := by
    intro c hc
    have hblank : Plain py ' ' ∧ (py.isWord ' ' || isSpace ' ') = true :=
      ⟨plain_blank, by rw [show isSpace ' ' = true by decide, Bool.or_true]⟩
    rcases mem_collapseSpaces (hstrip hc) with hc | rfl
    · obtain ⟨d, hd, rfl⟩ := List.mem_map.mp hc
      by_cases hkept : (py.isWord d || isSpace d) = true
      · rw [if_pos hkept]
        exact ⟨hplain d hd, hkept⟩
      · rw [if_neg hkept]
        exact hblank
    · exact hblank
  exact ⟨fun c hc => (hmem c hc).1, fun c hc => (hmem c hc).2,
    collapseSpaces_stripChars (collapseSpaces_idem _), stripChars_idem _⟩

/-- Lower case leaves the spaces of a text where they are. -/
theorem collapsed_of_sameKind {cs ds : List Char} (h : List.Forall₂ (SameKind py) cs ds)
    (hcs : collapseSpaces cs = cs) : collapseSpaces ds = ds := by
  induction h with
  | nil => rfl
  | @cons c d cs ds hcd htail ih =>
    obtain ⟨hrest, hspace⟩ := collapseSpaces_cons_eq_self.mp hcs
    refine collapseSpaces_cons_eq_self.mpr ⟨ih hrest, fun hd => ?_⟩
    rw [hcd.space] at hd
    refine ⟨(hcd.same hd).trans (hspace hd).1, fun e he => ?_⟩
    cases htail with
    | nil => cases he
    | cons hnext _ =>
      rw [← Option.some.inj he, hnext.space]
      exact (hspace hd).2 _ rfl

theorem stripped_of_sameKind {cs ds : List Char} (h : List.Forall₂ (SameKind py) cs ds)
    (hcs : stripChars cs = cs) : stripChars ds = ds := by
  have hfirst : ∀ {l m : List Char}, List.Forall₂ (SameKind py) l m →
      (∀ c ∈ l.head?, isSpace c = false) → ∀ d ∈ m.head?, isSpace d = false := by
    intro l m hlm hl d hd
    cases hlm with
    | nil => cases hd
    | cons hcd _ =>
      rw [← Option.some.inj hd, hcd.space]
      exact hl _ rfl
  refine stripChars_eq_self (hfirst h fun c hc => ?_) ?_
  · exact isSpace_head_stripChars (hcs.symm ▸ hc)
  · intro d hd
    rw [← List.head?_reverse] at hd
    refine hfirst (List.rel_reverse h) (fun c hc => ?_) d hd
    rw [List.head?_reverse] at hc
    exact isSpace_last_stripChars (hcs.symm ▸ hc)

theorem exists_sameKind {cs ds : List Char} (h : List.Forall₂ (SameKind py) cs ds) {d : Char}
    (hd : d ∈ ds) : ∃ c ∈ cs, SameKind py c d := by
  induction h with
  | nil => cases hd
  | @cons c e cs ds hce _ ih =>
    rcases List.mem_cons.mp hd with rfl | hd
    · exact ⟨c, List.mem_cons_self, hce⟩
    · obtain ⟨c', hc', hkind⟩ := ih hd
      exact ⟨c', List.mem_cons_of_mem _ hc', hkind⟩

theorem Settled.of_sameKind {cs ds : List Char} (hcs : Settled py cs)
    (h : List.Forall₂ (SameKind py) cs ds) : Settled py ds where
  plain d hd := by
    obtain ⟨c, -, hkind⟩ := exists_sameKind h hd
    exact hkind.plain
  kept d hd := by
    obtain ⟨c, hc, hkind⟩ := exists_sameKind h hd
    rw [hkind.word, hkind.space]
    exact hcs.kept c hc
  collapsed := collapsed_of_sameKind h hcs.collapsed
  stripped := stripped_of_sameKind h hcs.stripped

/-- Of a settled text, only the case changes. -/
theorem normalizeStr_of_settled (hpy : LawfulUnicode py) {s : String} (h : Settled py s.toList) :
    normalizeStr py s = py.lower s := by
  have hmarks : (s.toList.filter fun c => !py.combining c) = s.toList :=
    List.filter_eq_self.mpr fun c hc => by rw [(h.plain c hc).2, Bool.not_false]
  have hkept : (s.toList.map fun c => if py.isWord c || isSpace c then c else ' ') = s.toList := by
    have hid : ∀ c ∈ s.toList, (if py.isWord c || isSpace c then c else ' ') = c :=
      fun c hc => if_pos (h.kept c hc)
    rw [List.map_congr_left hid, List.map_id']
  rw [normalizeStr, hpy.nfkd_plain s h.plain]
  simp only [hmarks, hkept, h.collapsed, strip, h.stripped, String.ofList_toList]

/-- A normalized text stays as it is. -/
theorem normalizeStr_idem (hpy : LawfulUnicode py) (s : String) :
    normalizeStr py (normalizeStr py s) = normalizeStr py s := by
  have hplain : ∀ c ∈ (py.nfkd s).toList.filter fun c => !py.combining c, Plain py c := by
    intro c hc
    obtain ⟨hmem, hmark⟩ := List.mem_filter.mp hc
    exact ⟨hpy.nfkd_decomposed s c hmem, by simpa using hmark⟩
  have hbefore := settled_of_kept hplain
  obtain ⟨t, ht⟩ : ∃ t, t = String.ofList (stripChars (collapseSpaces
      (((py.nfkd s).toList.filter fun c => !py.combining c).map fun c =>
        if py.isWord c || isSpace c then c else ' '))) := ⟨_, rfl⟩
  have hnormal : normalizeStr py s = py.lower t := by
    rw [ht, normalizeStr, strip, String.toList_ofList]
  have hsettled : Settled py t.toList := by
    rw [ht, String.toList_ofList]
    exact hbefore
  rw [hnormal, normalizeStr_of_settled hpy (hsettled.of_sameKind (hpy.lower_plain t hsettled.plain)),
    hpy.lower_lower t hsettled.plain]

/-! ### Sets of tokens -/

theorem sorted_eq_of_mem_iff {xs ys : List String} (hxs : xs.Nodup) (hys : ys.Nodup)
    (h : ∀ x, x ∈ xs ↔ x ∈ ys) : sorted xs = sorted ys := by
  have hperm : (sorted xs).Perm (sorted ys) :=
    (List.perm_insertionSort _ xs).trans
      (((List.perm_ext_iff_of_nodup hxs hys).mpr h).trans (List.perm_insertionSort _ ys).symm)
  exact hperm.eq_of_pairwise (fun a b _ _ => String.le_antisymm) (List.pairwise_insertionSort _ xs)
    (List.pairwise_insertionSort _ ys)

theorem tokenSetRatio_comm (a b : String) : tokenSetRatio py a b = tokenSetRatio py b a := by
  have hnodup1 : (distinct (splitSpaces (normalizeStr py a))).Nodup := List.nodup_dedup _
  have hnodup2 : (distinct (splitSpaces (normalizeStr py b))).Nodup := List.nodup_dedup _
  rw [tokenSetRatio, tokenSetRatio]
  simp only
  generalize distinct (splitSpaces (normalizeStr py a)) = t1 at hnodup1 ⊢
  generalize distinct (splitSpaces (normalizeStr py b)) = t2 at hnodup2 ⊢
  have hmem : ∀ t, t ∈ t1.filter (fun t => t ∈ t2) ↔ t ∈ t2.filter (fun t => t ∈ t1) := by
    intro t
    simp [and_comm]
  have hinter : sorted (t1.filter fun t => t ∈ t2) = sorted (t2.filter fun t => t ∈ t1) :=
    sorted_eq_of_mem_iff (hnodup1.filter _) (hnodup2.filter _) hmem
  have hrest : ∀ ts : List String, (ts.filter fun t => t ∉ t1.filter fun t => t ∈ t2)
      = ts.filter fun t => t ∉ t2.filter fun t => t ∈ t1 := fun ts =>
    List.filter_congr fun t _ => by rw [decide_eq_decide, hmem]
  rw [hinter, hrest t1, hrest t2]
  by_cases hempty : t1 = [] ∨ t2 = []
  · rw [if_pos hempty, if_pos (Or.comm.mp hempty)]
  · rw [if_neg hempty, if_neg fun h => hempty (Or.comm.mp h)]
    generalize " ".intercalate (sorted (t2.filter fun t => t ∈ t1)) = sInter
    generalize strip (sInter ++ " " ++ " ".intercalate
      (sorted (t1.filter fun t => t ∉ t2.filter fun t => t ∈ t1))) = sD1
    generalize strip (sInter ++ " " ++ " ".intercalate
      (sorted (t2.filter fun t => t ∉ t2.filter fun t => t ∈ t1))) = sD2
    rw [ratio_comm sD1 sD2, ratio_comm (normalizeStr py a), max_comm (if sInter ≠ "" then _ else _)]

/-- The ratio of the texts is one of those that the ratio of their tokens is the greatest of. -/
theorem ratio_le_tokenSetRatio (hpy : LawfulUnicode py) {a b : String}
    (ha : splitSpaces (normalizeStr py a) ≠ []) (hb : splitSpaces (normalizeStr py b) ≠ []) :
    ratio py a b ≤ tokenSetRatio py a b := by
  have htokens : ∀ s : String, splitSpaces s ≠ [] → distinct (splitSpaces s) ≠ [] := by
    intro s hs hempty
    exact hs ((List.dedup_eq_nil _).mp hempty)
  have hsame : ratio py a b = ratio py (normalizeStr py a) (normalizeStr py b) := by
    simp only [ratio, normalizeStr_idem hpy]
  rw [tokenSetRatio]
  simp only
  rw [if_neg fun h => h.elim (htokens _ ha) (htokens _ hb), hsame]
  exact le_max_right _ _

/-! ### The ratios together -/

variable (py) in
/-- What the ratios of two texts are. -/
structure RatioCorrect (a b : String) : Prop where
  ratio_eq : normal py a ≠ [] → normal py b ≠ [] →
    ∃ d, IsLeast {n | Edits n (normal py a) (normal py b)} d ∧
      ratio py a b = 1 - (d : ℚ) / (greaterLength py a b : ℚ)
  both_empty : normal py a = [] → normal py b = [] → ratio py a b = 1
  one_empty : ¬(normal py a = [] ↔ normal py b = []) → ratio py a b = 0
  comm : ratio py a b = ratio py b a
  nonneg : 0 ≤ ratio py a b
  le_one : ratio py a b ≤ 1
  eq_one_iff : ratio py a b = 1 ↔ normalizeStr py a = normalizeStr py b
  tokenSet_comm : tokenSetRatio py a b = tokenSetRatio py b a
  le_tokenSet : splitSpaces (normalizeStr py a) ≠ [] → splitSpaces (normalizeStr py b) ≠ [] →
    ratio py a b ≤ tokenSetRatio py a b

/-- The ratio is one less the edit distance over the greater length, and that of the token sets is
at least as large. -/
theorem ratio_correct (hpy : LawfulUnicode py) (a b : String) : RatioCorrect py a b where
  ratio_eq ha hb := ⟨distance (normal py a) (normal py b), isLeast_distance _ _,
    ratio_of_nonempty fun h => h.elim ha hb⟩
  both_empty := ratio_of_both_empty
  one_empty h := by
    refine ratio_of_one_empty (fun hboth => h ⟨fun _ => hboth.2, fun _ => hboth.1⟩) ?_
    by_contra hnone
    exact h ⟨fun ha => absurd (Or.inl ha) hnone, fun hb => absurd (Or.inr hb) hnone⟩
  comm := ratio_comm a b
  nonneg := ratio_nonneg a b
  le_one := ratio_le_one a b
  eq_one_iff := ratio_eq_one_iff a b
  tokenSet_comm := tokenSetRatio_comm a b
  le_tokenSet := ratio_le_tokenSetRatio hpy

/-! ### ASCII text -/

theorem plain_ascii (c : Char) : Plain .ascii c := ⟨rfl, rfl⟩

theorem isAlphanum_iff (c : Char) : c.isAlphanum = true ↔
    (65 ≤ c.toNat ∧ c.toNat ≤ 90) ∨ (97 ≤ c.toNat ∧ c.toNat ≤ 122) ∨
      (48 ≤ c.toNat ∧ c.toNat ≤ 57) := by
  delta Char.isAlphanum Char.isAlpha Char.isUpper Char.isLower Char.isDigit
  simp [UInt32.le_iff_toNat_le, or_assoc]

theorem isWord_toLower (c : Char) :
    RuleRuntime.ascii.isWord c.toLower = RuleRuntime.ascii.isWord c := by
  show (c.toLower.isAlphanum || c.toLower == '_') = (c.isAlphanum || c == '_')
  rcases toLower_cases c with h | ⟨hupper, h⟩
  · rw [h]
  · have hc : c.isAlphanum = true := (isAlphanum_iff c).mpr (by omega)
    have hlower : c.toLower.isAlphanum = true := (isAlphanum_iff _).mpr (by omega)
    rw [hc, hlower, Bool.true_or, Bool.true_or]

theorem toLower_of_isSpace {c : Char} (hc : isSpace c = true) : c.toLower = c := by
  rcases toLower_cases c with h | ⟨hupper, -⟩
  · exact h
  · simp only [isSpace, Bool.or_eq_true, Bool.and_eq_true, decide_eq_true_eq, beq_iff_eq] at hc
    omega

theorem sameKind_toLower (c : Char) : SameKind .ascii c c.toLower where
  plain := plain_ascii _
  word := isWord_toLower c
  space := isSpace_toLower c
  same := toLower_of_isSpace

theorem lower_ascii (s : String) : (RuleRuntime.ascii.lower s).toList = s.toList.map Char.toLower :=
  String.toList_ofList

theorem lawfulUnicode_ascii : LawfulUnicode .ascii where
  nfkd_decomposed _ c _ := (plain_ascii c).1
  nfkd_plain _ _ := rfl
  lower_plain s _ := by
    rw [lower_ascii, List.forall₂_map_right_iff]
    exact List.forall₂_same.mpr fun c _ => sameKind_toLower c
  lower_lower s _ := by
    rw [← String.toList_inj, lower_ascii, lower_ascii, List.map_map]
    exact List.map_congr_left fun c _ => toLower_toLower c

/-- Two spellings with a token in common. -/
theorem ratio_correct_ascii : RatioCorrect .ascii "The Hobbit" "hobit, the" :=
  ratio_correct lawfulUnicode_ascii _ _

end Bookwarden.Consensus.FuzzyMatcher
