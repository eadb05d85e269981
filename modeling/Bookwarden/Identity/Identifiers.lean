import Bookwarden.CanonicalJson
import Bookwarden.Identity.Evidence

/-!
# Normal identifier maps

Every identifier map of the auditor passes through `_normalize_identifiers`, some of them more than
once: evidence is normalized when it is read, compared, merged with the current record, and read
again from a sealed package. A map that came out of the function once comes out unchanged, as long
as lowering a name twice does the same as lowering it once.

## Main definitions

* `LowerStable` — what is needed of `str.lower`
* `Normal` — what comes out of `_normalize_identifiers`

## Main results

* `validateIsbn_idem` — the canonical ISBN is its own canonical form
* `normalizeIdentifiers_normal`, `Normal.normalize` — normalizing gives a normal map, and changes
  no normal map
* `Normal.update` — one normal map over another is normal
* `dumps_strDict_congr` — the canonical text of a map depends only on its values
-/

namespace Bookwarden

variable {py : Runtime}

/-! ### Stripped strings -/

theorem stripChars_eq_self {cs : List Char} (hhead : ∀ c ∈ cs.head?, isSpace c = false)
    (hlast : ∀ c ∈ cs.getLast?, isSpace c = false) : stripChars cs = cs := by
  rw [stripChars]
  have hdrop : cs.dropWhile isSpace = cs := by
    cases cs with
    | nil => rfl
    | cons c cs => rw [List.dropWhile_cons_of_neg (by simp [hhead c rfl])]
  rw [hdrop, List.rdropWhile_eq_self_iff]
  intro hne
  rw [hlast _ (List.getLast?_eq_some_getLast hne)]
  exact Bool.false_ne_true

theorem isSpace_head_stripChars {cs : List Char} {c : Char} (hc : c ∈ (stripChars cs).head?) :
    isSpace c = false := by
  -- the first character survived `dropWhile`
  have hpre : stripChars cs <+: cs.dropWhile isSpace := List.rdropWhile_prefix _ _
  have hhead : (cs.dropWhile isSpace).head? = some c := by
    obtain ⟨tail, htail⟩ := hpre
    rw [← htail, List.head?_append, hc]
    rfl
  by_contra hsp
  rw [Bool.not_eq_false] at hsp
  have hnot := List.head?_dropWhile_not isSpace cs
  rw [hhead] at hnot
  simp [hsp] at hnot

theorem isSpace_last_stripChars {cs : List Char} {c : Char} (hc : c ∈ (stripChars cs).getLast?) :
    isSpace c = false := by
  have hne : stripChars cs ≠ [] := by
    intro hnil
    rw [hnil] at hc
    cases hc
  have hlast := List.rdropWhile_last_not isSpace (cs.dropWhile isSpace) hne
  rw [Option.mem_def, List.getLast?_eq_some_getLast hne] at hc
  rw [← Option.some.inj hc]
  exact Bool.eq_false_iff.mpr hlast

theorem stripChars_idem (cs : List Char) : stripChars (stripChars cs) = stripChars cs :=
  stripChars_eq_self (fun _ hc => isSpace_head_stripChars hc) fun _ hc => isSpace_last_stripChars hc

@[simp] theorem strip_strip (s : String) : strip (strip s) = strip s := by
  rw [strip, strip, String.toList_ofList, stripChars_idem]

theorem isSpace_of_isDigit {c : Char} (h : c.isDigit = true) : isSpace c = false := by
  have hrange : 48 ≤ c.toNat ∧ c.toNat ≤ 57 := by
    simpa [Char.isDigit, Char.le_def, UInt32.le_iff_toNat_le] using h
  simp only [isSpace, Bool.or_eq_false_iff, Bool.and_eq_false_iff, decide_eq_false_iff_not,
    beq_eq_false_iff_ne]
  omega

theorem strip_of_digits {s : String} (h : ∀ c ∈ s.toList, c.isDigit = true) : strip s = s := by
  rw [strip, stripChars_eq_self (fun c hc => isSpace_of_isDigit (h c (List.mem_of_head? hc)))
    fun c hc => isSpace_of_isDigit (h c (List.mem_of_getLast? hc)), String.ofList_toList]

/-! ### Canonical ISBNs -/

/-- Thirteen digits with the right last one. -/
def IsIsbn13 (cs : List Char) : Prop :=
  cs.length = 13 ∧ (∀ c ∈ cs, c.isDigit = true) ∧
    (10 - isbn13Sum (cs.take 12) % 10) % 10 = digitVal (cs.getD 12 ' ')

/-- The characters of a cleaned ISBN. -/
def IsbnChars (cs : List Char) : Prop := ∀ c ∈ cs, c.isDigit = true ∨ c = 'X'

theorem isbnChars_clean (value : String) : IsbnChars (upperX (cleanIsbn value)) := by
  intro c hc
  rw [upperX, List.mem_map] at hc
  obtain ⟨d, hd, rfl⟩ := hc
  rw [cleanIsbn, List.mem_filter] at hd
  by_cases hx : d = 'x'
  · exact .inr (if_pos hx)
  · rw [if_neg hx]
    simpa [hx] using hd.2

theorem cleanIsbn_of_chars {cs : List Char} (h : IsbnChars cs) :
    cleanIsbn (String.ofList cs) = cs := by
  rw [cleanIsbn, String.toList_ofList, List.filter_eq_self]
  intro c hc
  rcases h c hc with hd | rfl
  · rw [hd]
    rfl
  · rfl

theorem upperX_of_chars {cs : List Char} (h : IsbnChars cs) : upperX cs = cs := by
  rw [upperX]
  refine (List.map_congr_left fun c hc => ?_).trans (List.map_id cs)
  have hne : c ≠ 'x' := by
    rintro rfl
    simpa using h 'x' hc
  rw [if_neg hne, id]

theorem IsIsbn13.chars {cs : List Char} (h : IsIsbn13 cs) : IsbnChars cs :=
  fun c hc => .inl (h.2.1 c hc)

theorem IsIsbn13.validate {cs : List Char} (h : IsIsbn13 cs) :
    validateIsbn (String.ofList cs) = some (String.ofList cs) := by
  have hclean := cleanIsbn_of_chars h.chars
  have hupper := upperX_of_chars h.chars
  have hvalid : isbn13ChecksumValid (String.ofList cs) = true := by
    simp only [isbn13ChecksumValid, hclean, Bool.and_eq_true, decide_eq_true_eq, List.all_eq_true]
    exact ⟨⟨h.1, h.2.1⟩, h.2.2⟩
  simp [validateIsbn, hclean, hupper, h.1, hvalid]

theorem digitChar_mod (n : ℕ) :
    (Nat.digitChar (n % 10)).isDigit = true ∧ digitVal (Nat.digitChar (n % 10)) = n % 10 := by
  have hall : ∀ k < 10, (Nat.digitChar k).isDigit = true ∧ digitVal (Nat.digitChar k) = k := by
    decide
  exact hall (n % 10) (Nat.mod_lt n (by omega))

/-- Twelve digits and their check digit. -/
theorem isIsbn13_check {body : List Char} (hlen : body.length = 12)
    (hdigits : ∀ c ∈ body, c.isDigit = true) :
    IsIsbn13 (body ++ [Nat.digitChar ((10 - isbn13Sum body % 10) % 10)]) := by
  obtain ⟨hdigit, hval⟩ := digitChar_mod (10 - isbn13Sum body % 10)
  refine ⟨by simp [hlen], fun c hc => ?_, ?_⟩
  · rcases List.mem_append.mp hc with hc | hc
    · exact hdigits c hc
    · rw [List.mem_singleton.mp hc]
      exact hdigit
  · have htake : (body ++ [Nat.digitChar ((10 - isbn13Sum body % 10) % 10)]).take 12 = body := by
      rw [List.take_append_of_le_length (by omega), List.take_of_length_le (by omega)]
    have hlast : (body ++ [Nat.digitChar ((10 - isbn13Sum body % 10) % 10)]).getD 12 ' '
        = Nat.digitChar ((10 - isbn13Sum body % 10) % 10) := by
      simp [List.getD_eq_getElem?_getD, hlen]
    rw [htake, hlast, hval]

/-- Whatever is accepted is given out as thirteen digits with a right checksum. -/
theorem isIsbn13_of_validate {value canonical : String} (h : validateIsbn value = some canonical) :
    IsIsbn13 canonical.toList := by
  have hchars := isbnChars_clean value
  simp only [validateIsbn] at h
  generalize upperX (cleanIsbn value) = s at h hchars
  split at h
  · rename_i hten
    rw [Bool.and_eq_true, decide_eq_true_eq] at hten
    obtain ⟨hlen, hvalid⟩ := hten
    rw [← Option.some.inj h, String.toList_ofList]
    refine isIsbn13_check (by simp [hlen]) fun c hc => ?_
    rcases List.mem_append.mp hc with hc | hc
    · simp only [List.mem_cons, List.not_mem_nil, or_false] at hc
      rcases hc with rfl | rfl | rfl <;> decide
    · simp only [isbn10ChecksumValid, cleanIsbn_of_chars hchars, upperX_of_chars hchars,
        Bool.and_eq_true, List.all_eq_true] at hvalid
      exact hvalid.1.1.2 c hc
  · split at h
    · rename_i hthirteen
      rw [Bool.and_eq_true, decide_eq_true_eq] at hthirteen
      obtain ⟨hlen, hvalid⟩ := hthirteen
      rw [← Option.some.inj h, String.toList_ofList]
      simp only [isbn13ChecksumValid, cleanIsbn_of_chars hchars, Bool.and_eq_true,
        List.all_eq_true, decide_eq_true_eq] at hvalid
      exact ⟨hlen, hvalid.1.2, hvalid.2⟩
    · cases h

/-- The canonical ISBN is its own canonical form. -/
theorem validateIsbn_idem {value canonical : String} (h : validateIsbn value = some canonical) :
    validateIsbn canonical = some canonical := by
  have hvalid := (isIsbn13_of_validate h).validate
  rwa [String.ofList_toList] at hvalid

theorem strip_canonical {value canonical : String} (h : validateIsbn value = some canonical) :
    strip canonical = canonical :=
  strip_of_digits (isIsbn13_of_validate h).2.1

theorem canonical_ne_empty {value canonical : String} (h : validateIsbn value = some canonical) :
    canonical ≠ "" := by
  rintro rfl
  have hlen := (isIsbn13_of_validate h).1
  simp at hlen

/-! ### Normal maps -/

/-- Lowering a stripped name again changes nothing. -/
def LowerStable (py : Runtime) : Prop :=
  ∀ s, py.lower (strip (py.lower (strip s))) = py.lower (strip s)

theorem toLower_cases (c : Char) : c.toLower = c ∨
    ((65 ≤ c.toNat ∧ c.toNat ≤ 90) ∧ c.toLower.toNat = c.toNat + 32) := by
  by_cases h : c.val ≥ 'A'.val ∧ c.val ≤ 'Z'.val
  · right
    have hrange : 65 ≤ c.toNat ∧ c.toNat ≤ 90 := by
      simpa [UInt32.le_iff_toNat_le] using h
    refine ⟨hrange, ?_⟩
    show (Char.toLower c).val.toNat = c.val.toNat + 32
    delta Char.toLower
    rw [dif_pos h]
    have hval : c.val.toNat ≤ 90 := hrange.2
    show (c.val + ('a'.val - 'A'.val)).toNat = c.val.toNat + 32
    rw [UInt32.toNat_add]
    exact Nat.mod_eq_of_lt (by simp; omega)
  · left
    delta Char.toLower
    rw [dif_neg h]

theorem isSpace_toLower (c : Char) : isSpace c.toLower = isSpace c := by
  rcases toLower_cases c with h | ⟨hrange, h⟩
  · rw [h]
  · have hletter : ∀ n : ℕ, 65 ≤ n → n ≤ 122 → ∀ d : Char, d.toNat = n → isSpace d = false := by
      intro n hlow hhigh d hd
      simp only [isSpace, hd, Bool.or_eq_false_iff, Bool.and_eq_false_iff, decide_eq_false_iff_not,
        beq_eq_false_iff_ne]
      omega
    rw [hletter _ (by omega) (by omega) _ h, hletter _ (by omega) (by omega) c rfl]

theorem toLower_toLower (c : Char) : c.toLower.toLower = c.toLower := by
  rcases toLower_cases c with h | ⟨hrange, h⟩
  · rw [h, h]
  · rcases toLower_cases c.toLower with h' | ⟨hrange', -⟩
    · exact h'
    · omega

theorem lowerStable_ascii : LowerStable .ascii := by
  intro s
  have hlower : ∀ cs : List Char, Runtime.ascii.lower (String.ofList cs) =
      String.ofList (cs.map Char.toLower) := fun cs => by
    show String.ofList ((String.ofList cs).toList.map Char.toLower) = _
    rw [String.toList_ofList]
  have hstrip : stripChars ((stripChars s.toList).map Char.toLower)
      = (stripChars s.toList).map Char.toLower := by
    refine stripChars_eq_self (fun c hc => ?_) fun c hc => ?_
    · rw [List.head?_map, Option.mem_def, Option.map_eq_some_iff] at hc
      obtain ⟨d, hd, rfl⟩ := hc
      rw [isSpace_toLower, isSpace_head_stripChars hd]
    · rw [List.getLast?_map, Option.mem_def, Option.map_eq_some_iff] at hc
      obtain ⟨d, hd, rfl⟩ := hc
      rw [isSpace_toLower, isSpace_last_stripChars hd]
  have hmap : ((stripChars s.toList).map Char.toLower).map Char.toLower
      = (stripChars s.toList).map Char.toLower := by
    rw [List.map_map]
    exact List.map_congr_left fun c _ => toLower_toLower c
  rw [strip.eq_def s, hlower, strip, String.toList_ofList, hstrip, hlower, hmap]

/-- A pair that `_normalize_identifiers` keeps as it is. -/
structure NormalPair (py : Runtime) (p : String × String) : Prop where
  name : py.lower (strip p.1) = p.1
  name_ne : p.1 ≠ ""
  value : strip p.2 = p.2
  value_ne : p.2 ≠ ""
  isbn : p.1 = "isbn" → validateIsbn p.2 = some p.2

/-- What comes out of `_normalize_identifiers`. -/
structure Normal (py : Runtime) (ids : Identifiers) : Prop where
  nodup : (Assoc.keys ids).Nodup
  pairs : ∀ p ∈ ids, NormalPair py p

theorem Normal.nil : Normal py [] := ⟨List.nodup_nil, by simp⟩

theorem mem_set {ids : Identifiers} {k v : String} {p : String × String}
    (h : p ∈ Assoc.set k v ids) : p = (k, v) ∨ p ∈ ids := by
  induction ids with
  | nil => simpa [Assoc.set] using h
  | cons q ids ih =>
    obtain ⟨a, w⟩ := q
    rw [Assoc.set] at h
    split at h
    · rcases List.mem_cons.mp h with h | h
      · exact .inl h
      · exact .inr (List.mem_cons_of_mem _ h)
    · rcases List.mem_cons.mp h with h | h
      · exact .inr (h ▸ List.mem_cons_self)
      · exact (ih h).imp id (List.mem_cons_of_mem _)

theorem Normal.set {ids : Identifiers} (h : Normal py ids) {k v : String}
    (hp : NormalPair py (k, v)) : Normal py (Assoc.set k v ids) where
  nodup := Assoc.nodup_keys_set h.nodup k v
  pairs := by
    intro p hmem
    rcases mem_set hmem with rfl | hmem
    · exact hp
    · exact h.pairs p hmem

/-- One normal map written over another. -/
theorem Normal.update {ids ids' : Identifiers} (h : Normal py ids) (h' : Normal py ids') :
    Normal py (Assoc.update ids ids') := by
  have hpairs := h'.pairs
  clear h'
  induction ids' generalizing ids with
  | nil => exact h
  | cons p ids' ih =>
    exact ih (h.set (hpairs p List.mem_cons_self)) fun q hq => hpairs q (List.mem_cons_of_mem _ hq)

theorem normalizeIdentifier_normal (hpy : LowerStable py) {ids : Identifiers} (h : Normal py ids)
    (item : String × String) : Normal py (normalizeIdentifier py ids item) := by
  have hname : py.lower (strip (py.lower (strip item.1))) = py.lower (strip item.1) := hpy item.1
  simp only [normalizeIdentifier]
  split
  · rename_i hns
    cases hvalid : validateIsbn (strip item.2) with
    | none => exact h
    | some canonical =>
      exact h.set ⟨hname, by simp [hns], strip_canonical hvalid, canonical_ne_empty hvalid,
        fun _ => validateIsbn_idem hvalid⟩
  · rename_i hns
    split
    · rename_i hne
      exact h.set ⟨hname, hne.1, strip_strip _, hne.2, fun heq => absurd heq hns⟩
    · exact h

theorem normalizeIdentifiers_normal (hpy : LowerStable py) (value : Identifiers) :
    Normal py (normalizeIdentifiers py value) := by
  rw [normalizeIdentifiers]
  have hnil : Normal py [] := Normal.nil
  generalize ([] : Identifiers) = done at hnil ⊢
  induction value generalizing done with
  | nil => exact hnil
  | cons item value ih => exact ih _ (normalizeIdentifier_normal hpy hnil item)

theorem normalizeIdentifier_of_normal {p : String × String} (hp : NormalPair py p)
    (ids : Identifiers) : normalizeIdentifier py ids p = Assoc.set p.1 p.2 ids := by
  simp only [normalizeIdentifier, hp.name, hp.value]
  split
  · rename_i hns
    rw [hp.isbn hns]
  · rw [if_pos ⟨hp.name_ne, hp.value_ne⟩]

/-- Normalizing changes no normal map. -/
theorem Normal.normalize {ids : Identifiers} (h : Normal py ids) :
    normalizeIdentifiers py ids = ids := by
  have hfold : ∀ done : Identifiers, ids.foldl (normalizeIdentifier py) done
      = Assoc.update done ids := by
    have hpairs := h.pairs
    clear h
    induction ids with
    | nil => exact fun _ => rfl
    | cons p ids ih =>
      intro done
      rw [List.foldl_cons, normalizeIdentifier_of_normal (hpairs p List.mem_cons_self),
        ih fun q hq => hpairs q (List.mem_cons_of_mem _ hq)]
      rfl
  rw [normalizeIdentifiers, hfold, Assoc.update_of_nodup (by simpa using h.nodup), List.nil_append]

/-- A part of a normal map is normal. -/
theorem Normal.filter {ids : Identifiers} (h : Normal py ids) (keep : String × String → Bool) :
    Normal py (ids.filter keep) where
  nodup := h.nodup.sublist (List.filter_sublist.map Prod.fst)
  pairs := fun p hp => h.pairs p (List.mem_of_mem_filter hp)

/-- The strings of a dictionary of strings. -/
@[simp] theorem strItems_strDict (ids : Identifiers) :
    strItems py (ids.map fun p => (p.1, Json.str p.2)) = ids := by
  rw [strItems, List.map_map]
  exact List.map_id ids

@[simp] theorem readStrItems_strDict (ids : Identifiers) :
    readStrItems (ids.map fun p => (p.1, Json.str p.2)) = some ids := by
  induction ids with
  | nil => rfl
  | cons p ids ih =>
    rw [List.map_cons, readStrItems, ih]
    rfl

/-- Reading a normal map as the `identifiers` field of a patch gives it back. -/
theorem readIdentifiers_normal {ids : Identifiers} (h : Normal py ids) :
    readIdentifiers py (.strDict ids) = some (some ids) := by
  simp [readIdentifiers, Json.strDict, h.normalize]

/-! ### The canonical text of a map -/

/-- The canonical text of an object does not depend on the order of its keys. -/
theorem dumps_obj_of_perm {kvs kvs' : Dict} (hnodup : (Assoc.keys kvs).Nodup)
    (h : kvs.Perm kvs') : dumps py (.obj kvs) = dumps py (.obj kvs') := by
  have hsorted : kvs.insertionSort Json.keyLe = kvs'.insertionSort Json.keyLe := by
    have hsort : ∀ d : Dict, (d.insertionSort Json.keyLe).Pairwise Json.keyLe :=
      List.pairwise_insertionSort _
    refine List.Perm.eq_of_pairwise (fun a b ha hb hab hba => ?_) (hsort kvs) (hsort kvs')
      (((List.perm_insertionSort _ _).trans h).trans (List.perm_insertionSort _ _).symm)
    -- two entries with equal keys are one entry
    have hkey : a.1 = b.1 := String.toList_inj.mp (le_antisymm hab hba)
    have ha' : (a.1, a.2) ∈ kvs := (List.perm_insertionSort _ _).mem_iff.mp ha
    have hb' : (b.1, b.2) ∈ kvs := h.symm.mem_iff.mp ((List.perm_insertionSort _ _).mem_iff.mp hb)
    rw [← hkey] at hb'
    have hval := (Assoc.get?_of_mem hnodup ha').symm.trans (Assoc.get?_of_mem hnodup hb')
    exact Prod.ext hkey (Option.some.inj hval)
  rw [dumps, dumps, dumpsChars_obj, dumpsChars_obj, hsorted]

/-- Two maps with the same values have the same canonical text. -/
theorem dumps_strDict_congr {ids ids' : Identifiers} (h : (Assoc.keys ids).Nodup)
    (h' : (Assoc.keys ids').Nodup) (hget : ∀ k, Assoc.get? k ids = Assoc.get? k ids') :
    dumps py (.strDict ids) = dumps py (.strDict ids') := by
  have hperm : ids.Perm ids' := by
    refine (List.perm_ext_iff_of_nodup (List.Nodup.of_map _ h) (List.Nodup.of_map _ h')).mpr
      fun p => ⟨fun hp => ?_, fun hp => ?_⟩
    · exact Assoc.mem_of_get? ((hget p.1).symm.trans (Assoc.get?_of_mem h hp))
    · exact Assoc.mem_of_get? ((hget p.1).trans (Assoc.get?_of_mem h' hp))
  refine dumps_obj_of_perm ?_ (hperm.map _)
  rw [Assoc.keys, List.map_map]
  exact h

end Bookwarden
