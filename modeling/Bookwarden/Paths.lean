import Bookwarden.Python

/-!
# The components of a path

`posixpath.normpath` goes through the components once. Where none of them is `..`, it drops the empty
ones and the dots and leaves the others as they are; and the components of a path that is joined from
components are these components.

## Main results

* `split_intercalate`, `no_slash_of_mem_split`
* `normpath_relative` — the normal form of a relative path that goes up nowhere
* `pathParts_normpath` — the normal form of an absolute path has names only
-/

namespace Bookwarden

/-- The characters of a piece are characters of the text, and none is the separator. -/
theorem mem_of_mem_splitOnP {p : Char → Bool} {cs piece : List Char} (h : piece ∈ cs.splitOnP p) :
    ∀ c ∈ piece, p c = false ∧ c ∈ cs := by
  induction cs generalizing piece with
  | nil =>
    rw [List.splitOnP_nil, List.mem_singleton] at h
    rw [h]
    exact fun c hc => nomatch hc
  | cons b cs ih =>
    have hold : ∀ piece ∈ cs.splitOnP p, ∀ c ∈ piece, p c = false ∧ c ∈ b :: cs := fun piece hp c hc =>
      ⟨(ih hp c hc).1, List.mem_cons_of_mem b (ih hp c hc).2⟩
    rw [List.splitOnP_cons_eq_if_modifyHead] at h
    by_cases hb : p b = true
    · rw [if_pos hb] at h
      rcases List.mem_cons.mp h with rfl | h
      · exact fun c hc => nomatch hc
      · exact hold piece h
    · rw [if_neg hb] at h
      cases hsplit : cs.splitOnP p with
      | nil => exact absurd hsplit (List.splitOnP_ne_nil p cs)
      | cons first pieces =>
        rw [hsplit] at hold
        rw [hsplit, List.modifyHead_cons] at h
        rcases List.mem_cons.mp h with rfl | h
        · intro c hc
          rcases List.mem_cons.mp hc with rfl | hc
          · exact ⟨Bool.eq_false_iff.mpr hb, List.mem_cons_self⟩
          · exact hold first List.mem_cons_self c hc
        · exact hold piece (List.mem_cons_of_mem first h)

theorem mem_of_mem_splitOn {a : Char} {cs piece : List Char} (h : piece ∈ cs.splitOn a) :
    ∀ c ∈ piece, c ≠ a ∧ c ∈ cs := by
  intro c hc
  rw [List.splitOn_eq_splitOnP] at h
  obtain ⟨hne, hmem⟩ := mem_of_mem_splitOnP h c hc
  exact ⟨beq_eq_false_iff_ne.mp hne, hmem⟩

/-- A component has no slash. -/
theorem no_slash_of_mem_split {p c : String} (h : c ∈ split '/' p) : '/' ∉ c.toList := by
  obtain ⟨piece, hpiece, rfl⟩ := List.mem_map.mp h
  rw [String.toList_ofList]
  exact fun hslash => (mem_of_mem_splitOn hpiece '/' hslash).1 rfl

theorem toList_join (comps : List String) :
    ("/".intercalate comps).toList = ['/'].intercalate (comps.map String.toList) :=
  String.toList_intercalate

/-- Joined components are the components of the path. -/
theorem split_intercalate {comps : List String} (h : ∀ c ∈ comps, '/' ∉ c.toList)
    (hne : comps ≠ []) : split '/' ("/".intercalate comps) = comps := by
  have hpieces : ∀ piece ∈ comps.map String.toList, '/' ∉ piece := by
    intro piece hpiece
    obtain ⟨c, hc, rfl⟩ := List.mem_map.mp hpiece
    exact h c hc
  have hne' : comps.map String.toList ≠ [] := fun hnil => hne (List.map_eq_nil_iff.mp hnil)
  rw [split, toList_join, List.splitOn_intercalate '/' hpieces hne', List.map_map]
  exact (List.map_congr_left fun c _ => String.ofList_toList).trans (List.map_id comps)

/-- The characters of joined components are theirs and slashes. -/
theorem mem_toList_join {comps : List String} {ch : Char} (h : ch ∈ ("/".intercalate comps).toList) :
    ch = '/' ∨ ∃ c ∈ comps, ch ∈ c.toList := by
  rw [toList_join] at h
  induction comps with
  | nil => cases h
  | cons c comps ih =>
    cases comps with
    | nil =>
      rw [List.map_singleton, List.intercalate_singleton] at h
      exact Or.inr ⟨c, List.mem_cons_self, h⟩
    | cons c' comps =>
      rw [List.map_cons, List.map_cons, List.intercalate_cons_cons, ← List.map_cons] at h
      rcases List.mem_append.mp h with h | h
      · rcases List.mem_append.mp h with h | h
        · exact Or.inr ⟨c, List.mem_cons_self, h⟩
        · exact Or.inl (List.mem_singleton.mp h)
      · rcases ih h with h | ⟨d, hd, hch⟩
        · exact Or.inl h
        · exact Or.inr ⟨d, List.mem_cons_of_mem c hd, hch⟩

theorem join_ne_empty {comps : List String} (h : ∀ c ∈ comps, c ≠ "") (hne : comps ≠ []) :
    "/".intercalate comps ≠ "" := by
  intro hempty
  have hchars : ['/'].intercalate (comps.map String.toList) = [] :=
    (toList_join comps).symm.trans (congrArg String.toList hempty)
  cases comps with
  | nil => exact hne rfl
  | cons c comps =>
    cases comps with
    | nil =>
      rw [List.map_singleton, List.intercalate_singleton] at hchars
      exact h c List.mem_cons_self (String.toList_inj.mp hchars)
    | cons d comps =>
      rw [List.map_cons, List.map_cons, List.intercalate_cons_cons] at hchars
      simp at hchars

/-- A character of a component is one of the path. -/
theorem mem_toList_of_mem_split {p c : String} (hc : c ∈ split '/' p) {ch : Char}
    (hch : ch ∈ c.toList) : ch ∈ p.toList := by
  obtain ⟨piece, hpiece, rfl⟩ := List.mem_map.mp hc
  rw [String.toList_ofList] at hch
  exact (mem_of_mem_splitOn hpiece ch hch).2

/-! ### Normal forms -/

/-- A component that `normpath` keeps, if it is not `..`. -/
def isKept (c : String) : Bool := c ≠ "" && c ≠ "."

theorem ne_empty_of_isKept {c : String} (h : isKept c = true) : c ≠ "" := by
  rintro rfl
  cases h

theorem ne_dot_of_isKept {c : String} (h : isKept c = true) : c ≠ "." := by
  rintro rfl
  cases h

theorem foldl_normComponent {comps : List String} (hup : ".." ∉ comps) (slashes : ℕ)
    (done : List String) :
    comps.foldl (normComponent slashes) done = (comps.filter isKept).reverse ++ done := by
  induction comps generalizing done with
  | nil => rfl
  | cons c comps ih =>
    have hc : c ≠ ".." := fun h => hup (h ▸ List.mem_cons_self)
    have hrest := ih (fun h => hup (List.mem_cons_of_mem c h))
    rw [List.foldl_cons, hrest]
    by_cases hkept : isKept c = true
    · have hskip : ¬(c = "" ∨ c = ".") := by
        simpa [isKept] using hkept
      rw [normComponent, if_neg hskip, if_pos (Or.inl hc), List.filter_cons_of_pos hkept,
        List.reverse_cons, List.append_assoc]
      rfl
    · have hskip : c = "" ∨ c = "." := by
        by_contra hnot
        exact hkept (by simpa [isKept] using hnot)
      rw [normComponent, if_pos hskip, List.filter_cons_of_neg hkept]

theorem initialSlashes_relative {p : String} (h : startsWith p "/" = false) :
    initialSlashes p = 0 := by
  have hone : ['/'].isPrefixOf p.toList = false := h
  have htwo : startsWith p "//" = false := by
    show ['/', '/'].isPrefixOf p.toList = false
    cases hp : p.toList with
    | nil => rfl
    | cons c cs =>
      rw [hp] at hone
      have hc : ('/' == c) = false := by simpa [List.isPrefixOf] using hone
      rw [List.isPrefixOf_cons_cons, hc, Bool.false_and]
  rw [initialSlashes, htwo, h]
  rfl

/-- Of a relative path that goes up nowhere, `normpath` keeps the components. -/
theorem normpath_relative {p : String} (hne : p ≠ "") (hrel : startsWith p "/" = false)
    (hup : ".." ∉ split '/' p) :
    normpath p =
      if (split '/' p).filter isKept = [] then "."
      else "/".intercalate ((split '/' p).filter isKept) := by
  rw [normpath, if_neg hne, initialSlashes_relative hrel, foldl_normComponent hup, List.append_nil,
    List.reverse_reverse]
  show (if "" ++ "/".intercalate ((split '/' p).filter isKept) = "" then "."
    else "" ++ "/".intercalate ((split '/' p).filter isKept)) = _
  rw [String.empty_append]
  by_cases hkept : (split '/' p).filter isKept = []
  · rw [hkept]
    rfl
  · have hparts : ∀ c ∈ (split '/' p).filter isKept, c ≠ "" := by
      intro c hc
      exact ne_empty_of_isKept (List.mem_filter.mp hc).2
    rw [if_neg (join_ne_empty hparts hkept), if_neg hkept]

/-! ### Absolute paths -/

/-- A component that a walk can take: a name. -/
structure IsName (c : String) : Prop where
  ne_empty : c ≠ ""
  ne_dot : c ≠ "."
  ne_up : c ≠ ".."
  no_slash : '/' ∉ c.toList

/-- Below the root there is nothing to go up to. -/
theorem isName_foldl_normComponent {comps : List String} (hslash : ∀ c ∈ comps, '/' ∉ c.toList)
    {slashes : ℕ} (habs : slashes ≠ 0) {done : List String} (hdone : ∀ c ∈ done, IsName c) :
    ∀ c ∈ comps.foldl (normComponent slashes) done, IsName c := by
  induction comps generalizing done with
  | nil => exact hdone
  | cons c comps ih =>
    rw [List.foldl_cons]
    refine ih (fun c' hc' => hslash c' (List.mem_cons_of_mem c hc')) fun c' hc' => ?_
    rw [normComponent] at hc'
    split at hc'
    · exact hdone c' hc'
    · rename_i hkept
      split at hc'
      · rename_i hkeep
        rcases List.mem_cons.mp hc' with rfl | hc'
        · have hup : c' ≠ ".." := by
            rcases hkeep with h | ⟨h, -⟩ | h
            · exact h
            · exact absurd h habs
            · exact absurd rfl (hdone ".." (List.mem_of_mem_head? h)).ne_up
          exact ⟨fun h => hkept (Or.inl h), fun h => hkept (Or.inr h), hup, hslash c' List.mem_cons_self⟩
        · exact hdone c' hc'
      · exact hdone c' (List.mem_of_mem_tail hc')

theorem pathParts_snd (p : String) : (pathParts p).2 = (split '/' p).filter isKept := rfl

/-- The components of slashes and a joined path. -/
theorem split_slashes (k : ℕ) (s : String) :
    split '/' (String.ofList (List.replicate k '/') ++ s) = List.replicate k "" ++ split '/' s := by
  induction k with
  | zero =>
    rw [List.replicate_zero, List.replicate_zero, List.nil_append]
    exact congrArg (split '/') (String.empty_append ..)
  | succ k ih =>
    rw [List.replicate_succ, List.replicate_succ, List.cons_append, ← ih, split, split,
      String.toList_append, String.toList_append, String.toList_ofList, String.toList_ofList,
      List.cons_append, List.splitOn_eq_splitOnP, List.splitOnP_cons_eq_if_modifyHead,
      if_pos (beq_self_eq_true '/'), ← List.splitOn_eq_splitOnP, List.map_cons]

theorem filter_isKept_split {comps : List String} (hcomps : ∀ c ∈ comps, IsName c) :
    (split '/' ("/".intercalate comps)).filter isKept = comps := by
  by_cases hne : comps = []
  · rw [hne]
    decide
  · rw [split_intercalate (fun c hc => (hcomps c hc).no_slash) hne]
    refine List.filter_eq_self.mpr fun c hc => ?_
    simp [isKept, (hcomps c hc).ne_empty, (hcomps c hc).ne_dot]

/-- Slashes and a joined path begin with these slashes. -/
theorem initialSlashes_slashes {comps : List String} (hcomps : ∀ c ∈ comps, IsName c) {k : ℕ}
    (hk : k = 1 ∨ k = 2) :
    initialSlashes (String.ofList (List.replicate k '/') ++ "/".intercalate comps) = k := by
  -- the joined path does not begin with a slash
  have hhead : ∀ rest, ("/".intercalate comps).toList ≠ '/' :: rest := by
    intro rest heq
    cases comps with
    | nil => cases heq
    | cons c comps =>
      have hc := hcomps c List.mem_cons_self
      rw [toList_join, List.map_cons] at heq
      have hfirst : ∃ x xs, c.toList = x :: xs := by
        refine List.exists_cons_of_ne_nil fun hnil => hc.ne_empty ?_
        exact String.toList_eq_nil_iff.mp hnil
      obtain ⟨x, xs, hx⟩ := hfirst
      have hx' : x = '/' := by
        cases comps with
        | nil =>
          rw [List.map_nil, List.intercalate_singleton, hx] at heq
          exact (List.cons.inj heq).1
        | cons c' comps =>
          rw [List.map_cons, List.intercalate_cons_cons, hx] at heq
          exact (List.cons.inj heq).1
      exact hc.no_slash (by rw [hx, hx']; exact List.mem_cons_self)
  have hnot : ['/'].isPrefixOf ("/".intercalate comps).toList = false := by
    cases hjoin : ("/".intercalate comps).toList with
    | nil => rfl
    | cons x xs =>
      have hne : x ≠ '/' := fun h => hhead xs (by rw [hjoin, h])
      simp [List.isPrefixOf, hne.symm]
  rcases hk with rfl | rfl
  · have h1 : startsWith (String.ofList ['/'] ++ "/".intercalate comps) "/" = true := by
      rw [startsWith, String.toList_append]
      rfl
    have h2 : startsWith (String.ofList ['/'] ++ "/".intercalate comps) "//" = false := by
      rw [startsWith, String.toList_append]
      exact hnot
    show initialSlashes (String.ofList ['/'] ++ "/".intercalate comps) = 1
    rw [initialSlashes, h1, h2]
    rfl
  · have h2 : startsWith (String.ofList ['/', '/'] ++ "/".intercalate comps) "//" = true := by
      rw [startsWith, String.toList_append]
      rfl
    have h3 : startsWith (String.ofList ['/', '/'] ++ "/".intercalate comps) "///" = false := by
      rw [startsWith, String.toList_append]
      exact hnot
    show initialSlashes (String.ofList ['/', '/'] ++ "/".intercalate comps) = 2
    rw [initialSlashes, h2, h3]
    rfl

theorem initialSlashes_absolute {p : String} (h : startsWith p "/" = true) :
    initialSlashes p = 1 ∨ initialSlashes p = 2 := by
  rw [initialSlashes, h]
  split
  · exact Or.inr rfl
  · exact Or.inl rfl

/-- The components of the normal form of an absolute path are names. -/
theorem pathParts_normpath {p : String} (h : startsWith p "/" = true) :
    (pathParts (normpath p)).1 = initialSlashes p ∧ (∀ c ∈ (pathParts (normpath p)).2, IsName c) ∧
      startsWith (normpath p) "/" = true := by
  have hslashes := initialSlashes_absolute h
  have hne : p ≠ "" := by
    rintro rfl
    cases h
  have hnames := isName_foldl_normComponent (fun c hc => @no_slash_of_mem_split p c hc)
    (show initialSlashes p ≠ 0 by omega) (List.forall_mem_nil IsName)
  generalize hcomps : ((split '/' p).foldl (normComponent (initialSlashes p)) []).reverse = comps
  have hcomponents : ∀ c ∈ comps, IsName c := by
    intro c hc
    rw [← hcomps, List.mem_reverse] at hc
    exact hnames c hc
  have hfirst : startsWith (String.ofList (List.replicate (initialSlashes p) '/') ++
      "/".intercalate comps) "/" = true := by
    rw [startsWith, String.toList_append, String.toList_ofList]
    rcases hslashes with hk | hk <;>
    · rw [hk]
      rfl
  have hnormal : normpath p = String.ofList (List.replicate (initialSlashes p) '/') ++
      "/".intercalate comps := by
    rw [normpath, if_neg hne]
    simp only [hcomps]
    rw [if_neg]
    intro hempty
    rw [hempty] at hfirst
    cases hfirst
  rw [hnormal]
  refine ⟨initialSlashes_slashes hcomponents hslashes, ?_, hfirst⟩
  have hparts : (pathParts (String.ofList (List.replicate (initialSlashes p) '/') ++
      "/".intercalate comps)).2 = comps := by
    rw [pathParts_snd, split_slashes, List.filter_append, filter_isKept_split hcomponents]
    have hnone : (List.replicate (initialSlashes p) "").filter isKept = [] :=
      List.filter_eq_nil_iff.mpr fun c hc => by rw [List.eq_of_mem_replicate hc]; decide
    rw [hnone, List.nil_append]
  rw [hparts]
  exact hcomponents

end Bookwarden
