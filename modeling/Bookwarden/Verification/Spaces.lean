import Bookwarden.Identity.Identifiers
import Bookwarden.Paths
import Bookwarden.Verification.Value

/-!
# White space

Collapsing runs of white space (`re.sub(r"\s+", " ", ·)`), stripping, and splitting at white space
(`str.split()`), and how they work together: a text that is collapsed or stripped stays so, and the
words of joined words are the words.

## Main results

* `collapseSpaces_idem`, `collapseSpaces_stripChars`, `stripChars_collapseSpaces`
* `splitSpaces_append`, `splitSpaces_join`, `join_splitSpaces`
-/

namespace Bookwarden

/-! ### Collapsed spaces -/

/-- A space is dropped when another follows it. -/
theorem collapseSpaces_cons (c : Char) (cs : List Char) :
    collapseSpaces (c :: cs) =
      if isSpace c = true then
        if cs.head?.any isSpace = true then collapseSpaces cs else ' ' :: collapseSpaces cs
      else c :: collapseSpaces cs := by
  cases cs with
  | nil => rfl
  | cons d cs => rfl

theorem length_collapseSpaces_le (cs : List Char) : (collapseSpaces cs).length ≤ cs.length := by
  induction cs with
  | nil => exact Nat.le_refl 0
  | cons c cs ih =>
    rw [collapseSpaces_cons, List.length_cons]
    split
    · split
      · exact Nat.le_succ_of_le ih
      · exact Nat.succ_le_succ ih
    · exact Nat.succ_le_succ ih

/-- Collapsing leaves a text as it is when every space in it is a blank that no other follows. -/
theorem collapseSpaces_cons_eq_self {c : Char} {cs : List Char} :
    collapseSpaces (c :: cs) = c :: cs ↔
      collapseSpaces cs = cs ∧
        (isSpace c = true → c = ' ' ∧ ∀ d ∈ cs.head?, isSpace d = false) := by
  have hnext : cs.head?.any isSpace = true ↔ ¬∀ d ∈ cs.head?, isSpace d = false := by
    cases cs with
    | nil => simp
    | cons d cs => simp
  rw [collapseSpaces_cons]
  split
  · rename_i hc
    split
    · rename_i hspace
      constructor
      · intro h
        have hshort := length_collapseSpaces_le cs
        rw [h, List.length_cons] at hshort
        omega
      · rintro ⟨-, h⟩
        exact absurd (h hc).2 (hnext.mp hspace)
    · rename_i hspace
      have hno := not_not.mp fun h => hspace (hnext.mpr h)
      constructor
      · intro h
        obtain ⟨hblank, hrest⟩ := List.cons.inj h
        exact ⟨hrest, fun _ => ⟨hblank.symm, hno⟩⟩
      · rintro ⟨hrest, h⟩
        rw [hrest, (h hc).1]
  · rename_i hc
    constructor
    · intro h
      exact ⟨(List.cons.inj h).2, fun hspace => absurd hspace hc⟩
    · rintro ⟨hrest, -⟩
      rw [hrest]

/-- The first character stays, up to the kind of the space. -/
theorem head?_collapseSpaces {cs : List Char} {d : Char} (h : d ∈ (collapseSpaces cs).head?) :
    (cs.head?.any isSpace = true → d = ' ') ∧ (¬cs.head?.any isSpace = true → isSpace d = false) := by
  induction cs with
  | nil => cases h
  | cons c cs ih =>
    rw [collapseSpaces_cons] at h
    split at h
    · rename_i hc
      refine ⟨fun _ => ?_, fun hno => absurd hc hno⟩
      split at h
      · rename_i hspace
        exact (ih h).1 hspace
      · exact (Option.some.inj h).symm
    · rename_i hc
      refine ⟨fun hspace => absurd hspace hc, fun _ => ?_⟩
      rw [← Option.some.inj h]
      simpa using hc

theorem collapseSpaces_idem (cs : List Char) :
    collapseSpaces (collapseSpaces cs) = collapseSpaces cs := by
  induction cs with
  | nil => rfl
  | cons c cs ih =>
    rw [collapseSpaces_cons]
    split
    · split
      · exact ih
      · rename_i hspace
        refine collapseSpaces_cons_eq_self.mpr ⟨ih, fun _ => ⟨rfl, fun d hd => ?_⟩⟩
        exact (head?_collapseSpaces hd).2 hspace
    · rename_i hc
      exact collapseSpaces_cons_eq_self.mpr ⟨ih, fun h => absurd h hc⟩

theorem collapseSpaces_suffix {cs ds : List Char} (h : collapseSpaces (cs ++ ds) = cs ++ ds) :
    collapseSpaces ds = ds := by
  induction cs with
  | nil => exact h
  | cons c cs ih => exact ih (collapseSpaces_cons_eq_self.mp h).1

theorem collapseSpaces_prefix {cs ds : List Char} (h : collapseSpaces (cs ++ ds) = cs ++ ds) :
    collapseSpaces cs = cs := by
  induction cs with
  | nil => rfl
  | cons c cs ih =>
    obtain ⟨hrest, hspace⟩ := collapseSpaces_cons_eq_self.mp h
    refine collapseSpaces_cons_eq_self.mpr ⟨ih hrest, fun hc => ⟨(hspace hc).1, fun d hd => ?_⟩⟩
    refine (hspace hc).2 d ?_
    show d ∈ (cs ++ ds).head?
    rw [List.head?_append, Option.mem_def.mp hd]
    rfl

/-- Stripping leaves a text collapsed. -/
theorem collapseSpaces_stripChars {cs : List Char} (h : collapseSpaces cs = cs) :
    collapseSpaces (stripChars cs) = stripChars cs := by
  have hdrop : collapseSpaces (cs.dropWhile isSpace) = cs.dropWhile isSpace := by
    rw [← List.takeWhile_append_dropWhile (p := isSpace) (l := cs)] at h
    exact collapseSpaces_suffix h
  obtain ⟨rest, hrest⟩ : stripChars cs <+: cs.dropWhile isSpace := List.rdropWhile_prefix _ _
  rw [← hrest] at hdrop
  exact collapseSpaces_prefix hdrop

theorem mem_collapseSpaces {cs : List Char} {c : Char} (h : c ∈ collapseSpaces cs) :
    c ∈ cs ∨ c = ' ' := by
  induction cs with
  | nil => cases h
  | cons d cs ih =>
    have htail : c ∈ collapseSpaces cs → c ∈ d :: cs ∨ c = ' ' := fun hmem =>
      (ih hmem).imp_left fun hcs => List.mem_cons_of_mem _ hcs
    rw [collapseSpaces_cons] at h
    split at h
    · split at h
      · exact htail h
      · rcases List.mem_cons.mp h with rfl | h
        · exact Or.inr rfl
        · exact htail h
    · rcases List.mem_cons.mp h with rfl | h
      · exact Or.inl List.mem_cons_self
      · exact htail h

theorem getLast?_collapseSpaces {cs : List Char} {d : Char} (hd : d ∈ cs.getLast?)
    (hspace : isSpace d = false) : d ∈ (collapseSpaces cs).getLast? := by
  induction cs with
  | nil => cases hd
  | cons c cs ih =>
    cases cs with
    | nil =>
      have hcd : c = d := Option.some.inj hd
      rw [collapseSpaces_cons, hcd, hspace]
      rfl
    | cons e cs =>
      have hrest := ih (by rwa [List.getLast?_cons_cons] at hd)
      have hkept : ∀ x : Char, d ∈ (x :: collapseSpaces (e :: cs)).getLast? := by
        intro x
        rw [Option.mem_def] at hrest ⊢
        rw [List.getLast?_cons, hrest]
        rfl
      rw [collapseSpaces_cons]
      split
      · split
        · exact hrest
        · exact hkept ' '
      · exact hkept c

/-- Collapsing leaves a text stripped. -/
theorem stripChars_collapseSpaces {cs : List Char} (h : stripChars cs = cs) :
    stripChars (collapseSpaces cs) = collapseSpaces cs := by
  refine stripChars_eq_self (fun d hd => ?_) fun d hd => ?_
  · refine (head?_collapseSpaces hd).2 fun hfirst => ?_
    cases hcs : cs with
    | nil =>
      rw [hcs] at hfirst
      cases hfirst
    | cons c rest =>
      have hc : c ∈ (stripChars cs).head? := by
        rw [h, hcs]
        rfl
      rw [hcs] at hfirst
      have hno := isSpace_head_stripChars hc
      rw [show isSpace c = true from hfirst] at hno
      cases hno
  · cases hlast : cs.getLast? with
    | none =>
      rw [List.getLast?_eq_none_iff.mp hlast] at hd
      cases hd
    | some e =>
      have he : isSpace e = false := isSpace_last_stripChars (h.symm ▸ hlast)
      have hkept := getLast?_collapseSpaces hlast he
      rw [← Option.some.inj ((Option.mem_def.mp hkept).symm.trans hd)]
      exact he

/-! ### Words -/

/-- A word: it is not empty, and there is no space in it. -/
structure IsWord (w : String) : Prop where
  ne_empty : w ≠ ""
  no_space : ∀ c ∈ w.toList, isSpace c = false

theorem isWord_of_mem {s w : String} (h : w ∈ splitSpaces s) :
    IsWord w ∧ ∀ c ∈ w.toList, c ∈ s.toList := by
  obtain ⟨piece, hpiece, rfl⟩ := List.mem_map.mp h
  obtain ⟨hmem, hne⟩ := List.mem_filter.mp hpiece
  rw [decide_eq_true_eq] at hne
  rw [String.toList_ofList]
  refine ⟨⟨fun hempty => hne ?_, ?_⟩, fun c hc => (mem_of_mem_splitOnP hmem c hc).2⟩
  · exact String.ofList_eq_empty_iff.mp hempty
  · rw [String.toList_ofList]
    exact fun c hc => (mem_of_mem_splitOnP hmem c hc).1

/-- A space separates the words before it from those behind it. -/
theorem splitSpaces_space {s before behind : String} {c : Char} (hc : isSpace c = true)
    (h : s.toList = before.toList ++ c :: behind.toList) :
    splitSpaces s = splitSpaces before ++ splitSpaces behind := by
  rw [splitSpaces, h, List.splitOnP_append_cons _ _ hc, List.filter_append, List.map_append]
  rfl

theorem splitSpaces_of_isWord {w : String} (h : IsWord w) : splitSpaces w = [w] := by
  have hne : w.toList ≠ [] := fun hempty => h.ne_empty (String.toList_eq_nil_iff.mp hempty)
  have hkept : [w.toList].filter (fun w => w ≠ []) = [w.toList] :=
    List.filter_eq_self.mpr (by simpa using hne)
  rw [splitSpaces, List.splitOnP_eq_singleton h.no_space, hkept, List.map_singleton,
    String.ofList_toList]

/-- The words of joined words are the words. -/
theorem splitSpaces_join {ws : List String} (h : ∀ w ∈ ws, IsWord w) :
    splitSpaces (" ".intercalate ws) = ws := by
  induction ws with
  | nil => rfl
  | cons w ws ih =>
    cases ws with
    | nil =>
      rw [String.intercalate_singleton]
      exact splitSpaces_of_isWord (h w List.mem_cons_self)
    | cons w' ws =>
      have hrest := ih fun x hx => h x (List.mem_cons_of_mem w hx)
      have hjoin : (" ".intercalate (w :: w' :: ws)).toList
          = w.toList ++ ' ' :: (" ".intercalate (w' :: ws)).toList := by
        rw [String.intercalate_cons_cons]
        simp
      rw [splitSpaces_space (by decide) hjoin, hrest,
        splitSpaces_of_isWord (h w List.mem_cons_self)]
      rfl

/-- A text in which no word is found is white space. -/
theorem isSpace_of_splitSpaces_eq_nil {s : String} (h : splitSpaces s = []) :
    ∀ c ∈ s.toList, isSpace c = true := by
  by_contra hword
  obtain ⟨c, hc, hspace⟩ : ∃ c ∈ s.toList, isSpace c = false := by
    simpa using hword
  rw [splitSpaces, List.map_eq_nil_iff, List.filter_eq_nil_iff] at h
  -- no piece is left, so that the pieces have no character that is not a space
  have hkept : ∀ cs : List Char, (∀ w ∈ cs.splitOnP isSpace, ¬decide (w ≠ []) = true) →
      ∀ c ∈ cs, isSpace c = true := by
    intro cs
    induction cs with
    | nil => exact fun _ c hc => nomatch hc
    | cons d cs ih =>
      intro hpieces
      rw [List.splitOnP_cons_eq_if_modifyHead] at hpieces
      by_cases hd : isSpace d = true
      · rw [if_pos hd] at hpieces
        exact List.forall_mem_cons.mpr
          ⟨hd, ih fun w hw => hpieces w (List.mem_cons_of_mem _ hw)⟩
      · rw [if_neg hd] at hpieces
        cases hsplit : cs.splitOnP isSpace with
        | nil => exact absurd hsplit (List.splitOnP_ne_nil isSpace cs)
        | cons first pieces =>
          rw [hsplit, List.modifyHead_cons] at hpieces
          exact absurd (decide_eq_true (List.cons_ne_nil d first))
            (hpieces _ List.mem_cons_self)
  rw [hkept _ h c hc] at hspace
  cases hspace

/-- A stripped text without words is empty. -/
theorem eq_empty_of_splitSpaces_eq_nil {s : String} (hs : strip s = s) (h : splitSpaces s = []) :
    s = "" := by
  cases hcs : s.toList with
  | nil => exact String.toList_eq_nil_iff.mp hcs
  | cons c cs =>
    have hhead : c ∈ (stripChars s.toList).head? := by
      rw [← String.toList_ofList (l := stripChars s.toList), ← strip, hs, hcs]
      rfl
    have hspace := isSpace_head_stripChars hhead
    rw [isSpace_of_splitSpaces_eq_nil h c (hcs ▸ List.mem_cons_self)] at hspace
    cases hspace

theorem splitSpaces_strip {s : String} (h : splitSpaces (strip s) = []) : strip s = "" :=
  eq_empty_of_splitSpaces_eq_nil (strip_strip s) h

theorem head_no_space {s : String} (hs : strip s = s) {c : Char} (hc : c ∈ s.toList.head?) :
    isSpace c = false := by
  have hchars : stripChars s.toList = s.toList := by
    rw [← String.toList_ofList (l := stripChars s.toList), ← strip, hs]
  exact isSpace_head_stripChars (hchars.symm ▸ hc)

theorem last_no_space {s : String} (hs : strip s = s) {c : Char} (hc : c ∈ s.toList.getLast?) :
    isSpace c = false := by
  have hchars : stripChars s.toList = s.toList := by
    rw [← String.toList_ofList (l := stripChars s.toList), ← strip, hs]
  exact isSpace_last_stripChars (hchars.symm ▸ hc)

/-- A stripped text that is one word for `split` is this word. -/
theorem eq_of_splitSpaces_eq_singleton {s w : String} (hs : strip s = s)
    (h : splitSpaces s = [w]) : w = s := by
  by_cases hspace : ∀ c ∈ s.toList, isSpace c = false
  · have hne : s ≠ "" := by
      rintro rfl
      cases h
    rw [splitSpaces_of_isWord ⟨hne, hspace⟩] at h
    exact (List.cons.inj h).1.symm
  · -- a space inside leaves a word before it and one behind it
    obtain ⟨c, hc, hcspace⟩ : ∃ c ∈ s.toList, isSpace c = true := by
      simpa using hspace
    obtain ⟨before, behind, hsplit⟩ := List.append_of_mem hc
    have hwords := @splitSpaces_space s (String.ofList before) (String.ofList behind) c hcspace
      (by rw [String.toList_ofList, String.toList_ofList, hsplit])
    have hbefore : splitSpaces (String.ofList before) ≠ [] := by
      intro hnil
      have hall := isSpace_of_splitSpaces_eq_nil hnil
      rw [String.toList_ofList] at hall
      cases before with
      | nil =>
        have hfirst := head_no_space hs (c := c) (by rw [hsplit]; rfl)
        rw [hcspace] at hfirst
        cases hfirst
      | cons d before =>
        have hfirst := head_no_space hs (c := d) (by rw [hsplit]; rfl)
        rw [hall d List.mem_cons_self] at hfirst
        cases hfirst
    have hbehind : splitSpaces (String.ofList behind) ≠ [] := by
      intro hnil
      have hall := isSpace_of_splitSpaces_eq_nil hnil
      rw [String.toList_ofList] at hall
      have hlast : ∃ d ∈ s.toList.getLast?, isSpace d = true := by
        cases hend : behind.getLast? with
        | none =>
          rw [List.getLast?_eq_none_iff] at hend
          exact ⟨c, by rw [hsplit, hend, List.getLast?_concat]; rfl, hcspace⟩
        | some d =>
          refine ⟨d, ?_, hall d (List.mem_of_getLast? hend)⟩
          rw [hsplit, List.getLast?_append, List.getLast?_cons, hend]
          rfl
      obtain ⟨d, hd, hdspace⟩ := hlast
      rw [last_no_space hs hd] at hdspace
      cases hdspace
    rw [h] at hwords
    have hlength := congrArg List.length hwords
    rw [List.length_append, List.length_singleton] at hlength
    have h1 := List.length_pos_of_ne_nil hbefore
    have h2 := List.length_pos_of_ne_nil hbehind
    omega

end Bookwarden
