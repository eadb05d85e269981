import Bookwarden.Verification.Spaces
import Bookwarden.Verification.Total

/-!
# Author names, normalized again

The two forms of an author's name (`rules/authority.py`). The display form puts what follows the first
comma of a name before what precedes it: a second comma moves to the front, and white space between
the two sides is not looked at any more. The sort form stays, and has the words of the name; only a
name without words has none.

## Main definitions

* `LawfulNameCase` — what the letters' case does to commas and articles
* `SortForm` — the branches of `compute_author_sort`
* `StableName` — what a second normalization should leave
* `NormalizesOnce` — the names of which it is true

## Main results

* `normalizeAuthorDisplay_idem_iff`
* `stableName_iff`
-/

namespace Bookwarden.Verification

/-- A comma is not a letter; ASCII text has its lower case; and articles are capitalized. -/
structure LawfulNameCase (py : RuleRuntime) : Prop where
  lower_ascii : ∀ s, isAscii s = true → py.lower s = String.ofList (s.toList.map Char.toLower)
  lower_comma : ∀ s, ',' ∈ s.toList → ',' ∈ (py.lower s).toList
  capitalize_the : ∀ s, py.lower s = "the" → py.capitalize s = "The"
  capitalize_der : ∀ s, py.lower s = "der" → py.capitalize s = "Der"

variable {py : RuleRuntime}

/-! ### The display form -/

/-- What stands before the first comma. -/
def lastPart (n : String) : String := strip (String.ofList (n.toList.takeWhile (· ≠ ',')))

/-- What stands behind the first comma. -/
def firstPart (n : String) : String :=
  strip (String.ofList ((n.toList.dropWhile (· ≠ ',')).drop 1))

variable (py) in
/-- What `normalize_author_display` puts before the last name. -/
def displayHead (first : String) : String :=
  if py.lower first ∈ ["saint", "st."] then "Saint"
  else if py.lower first ∈ ["pope", "papa"] then "Pope"
  else if py.lower first ∈ ["the", "der"] then py.capitalize first
  else first

theorem normalizeAuthorDisplay_inverted {name : String} (h : ',' ∈ (strip name).toList) :
    normalizeAuthorDisplay py name
      = displayHead py (firstPart (strip name)) ++ " " ++ lastPart (strip name) := by
  have hne : name ≠ "" := by
    rintro rfl
    cases h
  have hcomma : (strip name).toList.contains ',' = true := List.contains_iff_mem.mpr h
  rw [normalizeAuthorDisplay, if_neg hne]
  simp only [hcomma, if_true]
  rw [displayHead, firstPart, lastPart]
  split
  · rfl
  · split
    · rfl
    · split
      · rfl
      · rfl

theorem normalizeAuthorDisplay_direct {name : String} (h : ',' ∉ (strip name).toList) :
    normalizeAuthorDisplay py name = String.ofList (collapseSpaces (strip name).toList) := by
  by_cases hne : name = ""
  · subst hne
    rfl
  · have hcomma : (strip name).toList.contains ',' = false := by simpa using h
    rw [normalizeAuthorDisplay, if_neg hne]
    simp only [hcomma]
    rfl

/-- Words between single blanks. -/
structure SingleBlanks (s : String) : Prop where
  ne_empty : s ≠ ""
  collapsed : collapseSpaces s.toList = s.toList

instance (s : String) : Decidable (SingleBlanks s) :=
  decidable_of_iff (s ≠ "" ∧ collapseSpaces s.toList = s.toList) ⟨fun h => ⟨h.1, h.2⟩,
    fun h => ⟨h.ne_empty, h.collapsed⟩⟩

theorem toList_strip (s : String) : (strip s).toList = stripChars s.toList := by
  rw [strip, String.toList_ofList]

theorem stripChars_toList {s : String} (h : strip s = s) : stripChars s.toList = s.toList := by
  rw [← toList_strip, h]

/-- Collapsing looks at each side of a blank by itself. -/
theorem collapseSpaces_blank {cs ds : List Char} (hcs : collapseSpaces cs = cs)
    (hds : collapseSpaces ds = ds) (hlast : ∀ c ∈ cs.getLast?, isSpace c = false)
    (hfirst : ∀ d ∈ ds.head?, isSpace d = false) :
    collapseSpaces (cs ++ ' ' :: ds) = cs ++ ' ' :: ds := by
  induction cs with
  | nil => exact collapseSpaces_cons_eq_self.mpr ⟨hds, fun _ => ⟨rfl, hfirst⟩⟩
  | cons c cs ih =>
    obtain ⟨hrest, hspace⟩ := collapseSpaces_cons_eq_self.mp hcs
    have hwhole := ih hrest fun d hd => hlast d <| by
      rw [Option.mem_def, List.getLast?_cons, Option.mem_def.mp hd]
      rfl
    refine collapseSpaces_cons_eq_self.mpr ⟨hwhole, fun hc => ⟨(hspace hc).1, fun d hd => ?_⟩⟩
    cases cs with
    | nil =>
      have hno := hlast c rfl
      rw [hc] at hno
      cases hno
    | cons e cs => exact (hspace hc).2 d hd

/-- A text without commas that is put together from two stripped sides is left as it is just when
each side is. -/
theorem display_joined_iff {head last : String} (hhead : strip head = head)
    (hlast : strip last = last) (hcomma : ',' ∉ (head ++ " " ++ last).toList) :
    normalizeAuthorDisplay py (head ++ " " ++ last) = head ++ " " ++ last ↔
      SingleBlanks head ∧ SingleBlanks last := by
  have hchars : (head ++ " " ++ last).toList = head.toList ++ ' ' :: last.toList := by
    simp
  have hsub : ∀ {l : List Char} {c : Char}, c ∈ stripChars l → c ∈ l := fun h =>
    (List.dropWhile_suffix _).subset ((List.rdropWhile_prefix _ _).subset h)
  have hstripped : ',' ∉ (strip (head ++ " " ++ last)).toList := fun h =>
    hcomma (hsub (toList_strip _ ▸ h))
  rw [normalizeAuthorDisplay_direct hstripped, ← String.toList_inj, String.toList_ofList,
    toList_strip, hchars]
  constructor
  · intro h
    -- a result of both steps is left by each of them
    have hstrip : stripChars (head.toList ++ ' ' :: last.toList) = head.toList ++ ' ' :: last.toList := by
      have hboth := stripChars_collapseSpaces (stripChars_idem (head.toList ++ ' ' :: last.toList))
      rwa [h] at hboth
    have hcollapse : collapseSpaces (head.toList ++ ' ' :: last.toList)
        = head.toList ++ ' ' :: last.toList := by rwa [hstrip] at h
    refine ⟨⟨fun hempty => ?_, collapseSpaces_prefix hcollapse⟩, fun hempty => ?_, ?_⟩
    · rw [hempty] at hstrip
      have hfirst : ' ' ∈ (stripChars ("".toList ++ ' ' :: last.toList)).head? := by
        rw [hstrip]
        rfl
      cases isSpace_head_stripChars hfirst
    · rw [hempty] at hstrip
      have hend : ' ' ∈ (stripChars (head.toList ++ ' ' :: "".toList)).getLast? := by
        rw [hstrip]
        exact List.getLast?_concat
      cases isSpace_last_stripChars hend
    · exact (collapseSpaces_cons_eq_self.mp (collapseSpaces_suffix hcollapse)).1
  · rintro ⟨hhead', hlast'⟩
    have hnotempty : head.toList ≠ [] ∧ last.toList ≠ [] :=
      ⟨fun h => hhead'.ne_empty (String.toList_eq_nil_iff.mp h),
        fun h => hlast'.ne_empty (String.toList_eq_nil_iff.mp h)⟩
    have hstrip : stripChars (head.toList ++ ' ' :: last.toList)
        = head.toList ++ ' ' :: last.toList := by
      refine stripChars_eq_self (fun c hc => ?_) fun c hc => ?_
      · rw [List.head?_append_of_ne_nil _ hnotempty.1] at hc
        exact head_no_space hhead hc
      · rw [List.getLast?_append_of_ne_nil _ (List.cons_ne_nil _ _), List.getLast?_cons] at hc
        cases hend : last.toList.getLast? with
        | none => exact absurd (List.getLast?_eq_none_iff.mp hend) hnotempty.2
        | some d =>
          rw [hend] at hc
          rw [← Option.some.inj hc]
          exact last_no_space hlast hend
    rw [hstrip]
    exact collapseSpaces_blank hhead'.collapsed hlast'.collapsed (fun c hc => last_no_space hhead hc)
      fun c hc => head_no_space hlast hc

/-! ### Commas -/

theorem count_stripChars_le (cs : List Char) : (stripChars cs).count ',' ≤ cs.count ',' :=
  ((List.rdropWhile_prefix _ _).sublist.trans (List.dropWhile_suffix _).sublist).count_le ','

/-- Stripping keeps what is no space. -/
theorem mem_stripChars {cs : List Char} {c : Char} (h : c ∈ cs) (hc : isSpace c = false) :
    c ∈ stripChars cs := by
  have hdrop : ∀ l : List Char, c ∈ l → c ∈ l.dropWhile isSpace := by
    intro l hl
    rw [← List.takeWhile_append_dropWhile (p := isSpace) (l := l)] at hl
    refine (List.mem_append.mp hl).resolve_left fun htake => ?_
    rw [List.mem_takeWhile_imp htake] at hc
    cases hc
  rw [stripChars, List.rdropWhile]
  exact List.mem_reverse.mpr (hdrop _ (List.mem_reverse.mpr (hdrop cs h)))

theorem comma_notMem_lastPart (n : String) : ',' ∉ (lastPart n).toList := by
  intro h
  rw [lastPart, toList_strip, String.toList_ofList] at h
  have hmem := (List.dropWhile_suffix _).subset ((List.rdropWhile_prefix _ _).subset h)
  have hno := List.mem_takeWhile_imp hmem
  simp at hno

/-- What stands behind the first comma has a comma less. -/
theorem count_firstPart_lt {n : String} (h : ',' ∈ n.toList) :
    (firstPart n).toList.count ',' < n.toList.count ',' := by
  have hbehind : ∀ l : List Char, ',' ∈ l →
      ((l.dropWhile (· ≠ ',')).drop 1).count ',' < l.count ',' := by
    intro l hl
    induction l with
    | nil => cases hl
    | cons c cs ih =>
      by_cases hc : c = ','
      · rw [hc, List.dropWhile_cons_of_neg (by simp), List.count_cons_self]
        exact Nat.lt_succ_self _
      · rw [List.dropWhile_cons_of_pos (by simpa using hc), List.count_cons_of_ne hc]
        exact ih ((List.mem_cons.mp hl).resolve_left fun heq => hc heq.symm)
  refine lt_of_le_of_lt ?_ (hbehind n.toList h)
  rw [firstPart, toList_strip, String.toList_ofList]
  exact count_stripChars_le _

theorem count_displayHead_le (hpy : LawfulNameCase py) (first : String) :
    (displayHead py first).toList.count ',' ≤ first.toList.count ',' := by
  rw [displayHead]
  split
  · exact Nat.zero_le _
  · split
    · exact Nat.zero_le _
    · split
      · rename_i harticle
        rcases List.mem_cons.mp harticle with hthe | hder
        · rw [hpy.capitalize_the first hthe]
          exact Nat.zero_le _
        · rw [hpy.capitalize_der first (List.mem_singleton.mp hder)]
          exact Nat.zero_le _
      · exact le_refl _

theorem strip_displayHead (hpy : LawfulNameCase py) {first : String} (h : strip first = first) :
    strip (displayHead py first) = displayHead py first := by
  rw [displayHead]
  split
  · decide
  · split
    · decide
    · split
      · rename_i harticle
        rcases List.mem_cons.mp harticle with hthe | hder
        · rw [hpy.capitalize_the first hthe]
          decide
        · rw [hpy.capitalize_der first (List.mem_singleton.mp hder)]
          decide
      · exact h

variable (py) in
/-- A name without a comma, or one whose two sides are words between single blanks and have no
further comma. -/
def KeepsDisplay (name : String) : Prop :=
  ',' ∈ (strip name).toList →
    ',' ∉ (displayHead py (firstPart (strip name))).toList ∧
      SingleBlanks (displayHead py (firstPart (strip name))) ∧ SingleBlanks (lastPart (strip name))

instance (name : String) : Decidable (KeepsDisplay py name) :=
  inferInstanceAs (Decidable (_ → _ ∧ _ ∧ _))

/-- **The display form** is left by a second normalization just for these names. -/
theorem normalizeAuthorDisplay_idem_iff (hpy : LawfulNameCase py) (name : String) :
    normalizeAuthorDisplay py (normalizeAuthorDisplay py name) = normalizeAuthorDisplay py name ↔
      KeepsDisplay py name := by
  by_cases hinverted : ',' ∈ (strip name).toList
  · rw [normalizeAuthorDisplay_inverted hinverted]
    have hkeeps : KeepsDisplay py name ↔
        ',' ∉ (displayHead py (firstPart (strip name))).toList ∧
          SingleBlanks (displayHead py (firstPart (strip name))) ∧
            SingleBlanks (lastPart (strip name)) := forall_prop_of_true hinverted
    rw [hkeeps]
    have hlast := comma_notMem_lastPart (strip name)
    have hlaststrip : strip (lastPart (strip name)) = lastPart (strip name) := strip_strip _
    have hheadstrip : strip (displayHead py (firstPart (strip name)))
        = displayHead py (firstPart (strip name)) := strip_displayHead hpy (strip_strip _)
    generalize displayHead py (firstPart (strip name)) = head at hheadstrip ⊢
    generalize lastPart (strip name) = last at hlast hlaststrip ⊢
    have hchars : (head ++ " " ++ last).toList = head.toList ++ ' ' :: last.toList := by
      simp
    by_cases hcomma : ',' ∈ head.toList
    · -- the second pass moves another comma
      refine iff_of_false (fun h => ?_) fun h => h.1 hcomma
      have hstripped : ',' ∈ (strip (head ++ " " ++ last)).toList := by
        rw [toList_strip, hchars]
        exact mem_stripChars (List.mem_append_left _ hcomma) (by decide)
      have hcount := count_firstPart_lt hstripped
      have hless := count_displayHead_le hpy (firstPart (strip (head ++ " " ++ last)))
      have hstrip := count_stripChars_le (head ++ " " ++ last).toList
      rw [← toList_strip] at hstrip
      have hwhole := congrArg (fun s : String => s.toList.count ',') h
      simp only [normalizeAuthorDisplay_inverted hstripped] at hwhole
      have hlast' := List.count_eq_zero.mpr (comma_notMem_lastPart (strip (head ++ " " ++ last)))
      have hright : (displayHead py (firstPart (strip (head ++ " " ++ last))) ++ " "
          ++ lastPart (strip (head ++ " " ++ last))).toList.count ','
          = (displayHead py (firstPart (strip (head ++ " " ++ last)))).toList.count ',' := by
        rw [String.toList_append, String.toList_append, List.count_append, List.count_append, hlast']
        rfl
      omega
    · have hnone : ',' ∉ (head ++ " " ++ last).toList := by
        rw [hchars]
        simp [hcomma, hlast]
      rw [display_joined_iff hheadstrip hlaststrip hnone]
      exact (and_iff_right hcomma).symm
  · rw [normalizeAuthorDisplay_direct hinverted]
    refine iff_of_true ?_ fun h => absurd h hinverted
    have hstrip : strip (String.ofList (collapseSpaces (strip name).toList))
        = String.ofList (collapseSpaces (strip name).toList) := by
      rw [strip, String.toList_ofList, stripChars_collapseSpaces (stripChars_toList (strip_strip name))]
    have hdirect : ',' ∉ (strip (String.ofList (collapseSpaces (strip name).toList))).toList := by
      rw [hstrip, String.toList_ofList]
      intro h
      rcases mem_collapseSpaces h with h | h
      · exact hinverted h
      · cases h
    rw [normalizeAuthorDisplay_direct hdirect, hstrip, String.toList_ofList, collapseSpaces_idem]

/-! ### The sort form -/

/-- A name with a saint's title. -/
def IsSaint (n : String) : Prop :=
  (startsWith n "Saint " || startsWith n "St. " || startsWith n "San ") = true

instance (n : String) : Decidable (IsSaint n) := inferInstanceAs (Decidable (_ = true))

/-- A name with a pope's title. -/
def IsPope (n : String) : Prop := (startsWith n "Pope " || startsWith n "Papa ") = true

instance (n : String) : Decidable (IsPope n) := inferInstanceAs (Decidable (_ = true))

variable (py) in
/-- The table has the name. -/
def IsCorporate (n : String) : Prop := Assoc.get? (py.lower n) corporateEntities ≠ none

instance (n : String) : Decidable (IsCorporate py n) := inferInstanceAs (Decidable (_ ≠ _))

/-- The words that stay before a compound surname. -/
def givenWords (n surname : String) : List String :=
  (splitSpaces n).take ((splitSpaces n).length - (splitSpaces surname).length)

variable (py) in
/-- The branches of `compute_author_sort` for a stripped name that is not empty. -/
inductive SortForm (n : String) : String → Prop
  | corporate {sort : String} (h : Assoc.get? (py.lower n) corporateEntities = some sort) :
      SortForm n sort
  | comma (h : ',' ∈ n.toList) : SortForm n n
  | saint (h : IsSaint n) : SortForm n (afterTitle ["Saint", "St.", "San"] n ++ ", Saint")
  | pope (h : IsPope n) : SortForm n (afterTitle ["Pope", "Papa"] n ++ ", Pope")
  | word (h : splitSpaces n = [n]) (hcorporate : ¬IsCorporate py n) (hcomma : ',' ∉ n.toList)
      (hsaint : ¬IsSaint n) (hpope : ¬IsPope n) : SortForm n n
  | compound {surname : String}
      (h : Assoc.get? (authorityKey py n) compoundSurnameAuthority = some surname)
      (hgiven : givenWords n surname ≠ []) :
      SortForm n (surname ++ ", " ++ " ".intercalate (givenWords n surname))
  | surname (k : ℕ) (hk : 1 ≤ k) (hless : k < (splitSpaces n).length)
      (hcompound : ∀ surname, Assoc.get? (authorityKey py n) compoundSurnameAuthority = some surname →
        givenWords n surname = []) :
      SortForm n (surnameFirst (splitSpaces n) k)

theorem join_eq_empty_iff {ws : List String} (h : ∀ w ∈ ws, IsWord w) :
    " ".intercalate ws = "" ↔ ws = [] := by
  constructor
  · intro hempty
    have hwords := splitSpaces_join h
    rw [hempty] at hwords
    exact hwords.symm
  · rintro rfl
    rfl

theorem isWord_givenWords (n surname : String) : ∀ w ∈ givenWords n surname, IsWord w :=
  fun _ hw => (isWord_of_mem (List.mem_of_mem_take hw)).1

/-- A name that is not blank has a sort form, which one of the branches makes. -/
theorem sortForm {name : String} (hne : name ≠ "") (hblank : ¬IsBlankName name) :
    ∃ sort, computeAuthorSort py name = .ok sort ∧ SortForm py (strip name) sort := by
  have hwords : splitSpaces (strip name) ≠ [] := fun hnil => hblank ⟨hne, splitSpaces_strip hnil⟩
  rw [computeAuthorSort, if_neg hne]
  dsimp only
  cases hcorporate : Assoc.get? (py.lower (strip name)) corporateEntities with
  | some sort => exact ⟨sort, rfl, .corporate hcorporate⟩
  | none =>
    by_cases hcomma : (strip name).toList.contains ',' = true
    · exact ⟨_, if_pos hcomma, .comma (List.contains_iff_mem.mp hcomma)⟩
    rw [if_neg hcomma]
    by_cases hsaint : IsSaint (strip name)
    · exact ⟨_, if_pos hsaint, .saint hsaint⟩
    rw [if_neg (show ¬(startsWith (strip name) "Saint " || startsWith (strip name) "St. " ||
      startsWith (strip name) "San ") = true from hsaint)]
    by_cases hpope : IsPope (strip name)
    · exact ⟨_, if_pos hpope, .pope hpope⟩
    rw [if_neg (show ¬(startsWith (strip name) "Pope " || startsWith (strip name) "Papa ") = true
      from hpope)]
    cases hsplit : splitSpaces (strip name) with
    | nil => exact absurd hsplit hwords
    | cons first rest =>
      cases rest with
      | nil =>
        have hfirst := eq_of_splitSpaces_eq_singleton (strip_strip name) hsplit
        refine ⟨first, rfl, ?_⟩
        rw [hfirst] at hsplit ⊢
        exact .word hsplit (fun h => h hcorporate) (fun h => hcomma (List.contains_iff_mem.mpr h))
          hsaint hpope
      | cons second rest =>
        have hlength : 2 ≤ (splitSpaces (strip name)).length := by
          rw [hsplit, List.length_cons, List.length_cons]
          omega
        dsimp only
        rw [← hsplit]
        cases hcompound : compoundSort py (strip name) (splitSpaces (strip name)) with
        | some sort =>
          refine ⟨sort, rfl, ?_⟩
          rw [compoundSort] at hcompound
          cases hkey : Assoc.get? (authorityKey py (strip name)) compoundSurnameAuthority with
          | none =>
            rw [hkey] at hcompound
            cases hcompound
          | some surname =>
            rw [hkey] at hcompound
            dsimp only at hcompound
            split at hcompound
            · cases hcompound
            · rename_i hgiven
              rw [← Option.some.inj hcompound]
              exact .compound hkey fun h => hgiven ((join_eq_empty_iff
                (isWord_givenWords (strip name) surname)).mpr h)
        | none =>
          have hgiven : ∀ surname, Assoc.get? (authorityKey py (strip name)) compoundSurnameAuthority
              = some surname → givenWords (strip name) surname = [] := by
            intro surname hkey
            rw [compoundSort, hkey] at hcompound
            dsimp only at hcompound
            split at hcompound
            · rename_i hempty
              exact (join_eq_empty_iff (isWord_givenWords (strip name) surname)).mp hempty
            · cases hcompound
          have hparticle : ∀ k, ∀ sort, particleSort py (splitSpaces (strip name)) k = some sort →
              SortForm py (strip name) sort := by
            intro k sort h
            rw [particleSort] at h
            split at h
            · cases h
            · rename_i hless
              dsimp only at h
              have hsort := (Option.ite_none_right_eq_some.mp h).2
              rw [← Option.some.inj hsort]
              exact .surname (k + 1) (by omega) (by omega) hgiven
          cases hor : (particleSort py (splitSpaces (strip name)) 2).or
            (particleSort py (splitSpaces (strip name)) 1) with
          | some sort =>
            refine ⟨sort, rfl, ?_⟩
            rcases Option.or_eq_some_iff.mp hor with h | ⟨-, h⟩
            · exact hparticle 2 sort h
            · exact hparticle 1 sort h
          | none => exact ⟨_, if_neg hwords, .surname 1 (le_refl 1) hlength hgiven⟩

theorem not_isCorporate_of_comma (hpy : LawfulNameCase py) {s : String} (h : ',' ∈ s.toList) :
    Assoc.get? (py.lower s) corporateEntities = none := by
  have hkeys : ∀ k ∈ Assoc.keys corporateEntities, ',' ∉ k.toList := by decide
  exact Assoc.get?_eq_none_iff.mpr fun hmem => hkeys _ hmem (hpy.lower_comma s h)

/-- A stripped name with a comma is its own sort form. -/
theorem computeAuthorSort_of_comma (hpy : LawfulNameCase py) {s : String} (hs : strip s = s)
    (h : ',' ∈ s.toList) : computeAuthorSort py s = .ok s := by
  have hne : s ≠ "" := by
    rintro rfl
    cases h
  rw [computeAuthorSort, if_neg hne, hs]
  dsimp only
  rw [not_isCorporate_of_comma hpy h]
  exact if_pos (List.contains_iff_mem.mpr h)

theorem strip_eq_self {s : String} (hfirst : ∀ c ∈ s.toList.head?, isSpace c = false)
    (hlast : ∀ c ∈ s.toList.getLast?, isSpace c = false) : strip s = s := by
  rw [strip, stripChars_eq_self hfirst hlast, String.ofList_toList]

/-- Two sides and a comma, which no space is before or behind. -/
theorem strip_joined {before behind : String}
    (hfirst : ∀ c ∈ before.toList.head?, isSpace c = false)
    (hlast : ∀ c ∈ behind.toList.getLast?, isSpace c = false) (hne : behind ≠ "") :
    strip (before ++ ", " ++ behind) = before ++ ", " ++ behind := by
  have hchars : (before ++ ", " ++ behind).toList = before.toList ++ ',' :: ' ' :: behind.toList := by
    simp
  refine strip_eq_self (fun c hc => ?_) fun c hc => ?_
  · rw [hchars] at hc
    cases hbefore : before.toList with
    | nil =>
      rw [hbefore] at hc
      rw [← Option.some.inj hc]
      rfl
    | cons d ds =>
      rw [hbefore] at hc
      exact hfirst c (by rw [hbefore]; exact hc)
  · rw [hchars, List.getLast?_append_of_ne_nil _ (List.cons_ne_nil _ _), List.getLast?_cons_cons,
      List.getLast?_cons] at hc
    cases hend : behind.toList.getLast? with
    | none => exact absurd (String.toList_eq_nil_iff.mp (List.getLast?_eq_none_iff.mp hend)) hne
    | some d =>
      rw [hend] at hc
      rw [← Option.some.inj hc]
      exact hlast d hend

theorem head?_many (p : Char → Bool) (cs : List Char) :
    (Matcher.many p cs).head? = some (cs.dropWhile p) := by
  induction cs with
  | nil => rfl
  | cons c cs ih =>
    rw [Matcher.many]
    by_cases hc : p c = true
    · rw [if_pos hc, List.head?_append, ih, List.dropWhile_cons_of_pos hc]
      rfl
    · rw [if_neg hc, List.dropWhile_cons_of_neg hc]
      rfl

/-- No space is left at the beginning when a title is taken away. -/
theorem head_afterTitle {titles : List String} {n : String} (hn : strip n = n) {c : Char}
    (hc : c ∈ (afterTitle titles n).toList.head?) : isSpace c = false := by
  rw [afterTitle, String.toList_ofList] at hc
  cases hmatch : (((Matcher.oneOf (titles.map literal)).andThen (Matcher.many1 isSpace))
      n.toList).head? with
  | none =>
    rw [hmatch] at hc
    exact head_no_space hn hc
  | some rest =>
    rw [hmatch, Option.getD_some] at hc
    rw [Matcher.andThen, List.head?_flatMap] at hmatch
    obtain ⟨title, -, hspaces⟩ := List.exists_of_findSome?_eq_some hmatch
    cases title with
    | nil => cases hspaces
    | cons d ds =>
      rw [Matcher.many1, Matcher.andThen, Matcher.char] at hspaces
      split at hspaces
      · rw [List.flatMap_singleton, head?_many] at hspaces
        rw [← Option.some.inj hspaces] at hc
        have hnot := List.head?_dropWhile_not isSpace ds
        rw [Option.mem_def.mp hc] at hnot
        simpa using hnot
      · cases hspaces

theorem toList_join_cons (w w' : String) (ws : List String) :
    (" ".intercalate (w :: w' :: ws)).toList
      = w.toList ++ ' ' :: (" ".intercalate (w' :: ws)).toList := by
  rw [String.intercalate_cons_cons]
  simp

theorem head_join {ws : List String} (h : ∀ w ∈ ws, IsWord w) :
    ∀ c ∈ (" ".intercalate ws).toList.head?, isSpace c = false := by
  intro c hc
  cases ws with
  | nil => cases hc
  | cons w ws =>
    have hw := h w List.mem_cons_self
    have hne : w.toList ≠ [] := fun hnil => hw.ne_empty (String.toList_eq_nil_iff.mp hnil)
    cases ws with
    | nil =>
      rw [String.intercalate_singleton] at hc
      exact hw.no_space c (List.mem_of_head? hc)
    | cons w' ws =>
      rw [toList_join_cons, List.head?_append_of_ne_nil _ hne] at hc
      exact hw.no_space c (List.mem_of_head? hc)

theorem last_join {ws : List String} (h : ∀ w ∈ ws, IsWord w) :
    ∀ c ∈ (" ".intercalate ws).toList.getLast?, isSpace c = false := by
  intro c hc
  induction ws with
  | nil => cases hc
  | cons w ws ih =>
    cases ws with
    | nil =>
      rw [String.intercalate_singleton] at hc
      exact (h w List.mem_cons_self).no_space c (List.mem_of_getLast? hc)
    | cons w' ws =>
      have hrest : ∀ x ∈ w' :: ws, IsWord x := fun x hx => h x (List.mem_cons_of_mem w hx)
      have hne : (" ".intercalate (w' :: ws)).toList ≠ [] := fun hnil =>
        List.cons_ne_nil w' ws ((join_eq_empty_iff hrest).mp (String.toList_eq_nil_iff.mp hnil))
      rw [toList_join_cons, List.getLast?_append_of_ne_nil _ (List.cons_ne_nil _ _),
        List.getLast?_cons] at hc
      cases hend : (" ".intercalate (w' :: ws)).toList.getLast? with
      | none => exact absurd (List.getLast?_eq_none_iff.mp hend) hne
      | some d =>
        rw [hend] at hc
        have hdc : d = c := Option.some.inj hc
        exact ih hrest (hdc ▸ Option.mem_def.mpr hend)

theorem computeAuthorSort_of_corporate {s sort : String} (hs : strip s = s) (hne : s ≠ "")
    (h : Assoc.get? (py.lower s) corporateEntities = some sort) :
    computeAuthorSort py s = .ok sort := by
  rw [computeAuthorSort, if_neg hne, hs]
  dsimp only
  rw [h]

/-- An entry of the table has a comma, or is the entry of its own name. -/
theorem corporate_entries : ∀ p ∈ corporateEntities, strip p.2 = p.2 ∧ p.2 ≠ "" ∧
    (',' ∈ p.2.toList ∨ isAscii p.2 = true ∧
      Assoc.get? (String.ofList (p.2.toList.map Char.toLower)) corporateEntities = some p.2) := by
  decide

theorem computeAuthorSort_joined (hpy : LawfulNameCase py) {before behind : String}
    (hfirst : ∀ c ∈ before.toList.head?, isSpace c = false)
    (hlast : ∀ c ∈ behind.toList.getLast?, isSpace c = false) (hne : behind ≠ "") :
    computeAuthorSort py (before ++ ", " ++ behind) = .ok (before ++ ", " ++ behind) :=
  computeAuthorSort_of_comma hpy (strip_joined hfirst hlast hne) (by simp)

/-- No white space stands at the place of an option. -/
theorem isSpace_of_mem {o : Option Char} (h : o.all (fun c => !isSpace c) = true) :
    ∀ c ∈ o, isSpace c = false := by
  intro c hc
  rw [hc, Option.all_some] at h
  exact Bool.not_eq_true' _ ▸ h

/-- **The sort form** of a stripped name is its own sort form. -/
theorem SortForm.idem (hpy : LawfulNameCase py) {n sort : String} (hn : strip n = n)
    (h : SortForm py n sort) : computeAuthorSort py sort = .ok sort := by
  have hwords : ∀ w ∈ splitSpaces n, IsWord w := fun w hw => (isWord_of_mem hw).1
  cases h with
  | corporate h =>
    obtain ⟨hstrip, hne, hcomma | ⟨hascii, hentry⟩⟩ := corporate_entries _ (Assoc.mem_of_get? h)
    · exact computeAuthorSort_of_comma hpy hstrip hcomma
    · refine computeAuthorSort_of_corporate hstrip hne ?_
      rw [hpy.lower_ascii _ hascii]
      exact hentry
  | comma h => exact computeAuthorSort_of_comma hpy hn h
  | saint h =>
    rw [show ", Saint" = ", " ++ "Saint" by decide, ← String.append_assoc]
    exact computeAuthorSort_joined hpy (fun c hc => head_afterTitle hn hc)
      (isSpace_of_mem (by decide)) (by decide)
  | pope h =>
    rw [show ", Pope" = ", " ++ "Pope" by decide, ← String.append_assoc]
    exact computeAuthorSort_joined hpy (fun c hc => head_afterTitle hn hc)
      (isSpace_of_mem (by decide)) (by decide)
  | word h hcorporate hcomma hsaint hpope =>
    have hne : n ≠ "" := by
      rintro rfl
      cases h
    rw [computeAuthorSort, if_neg hne, hn]
    dsimp only
    rw [not_not.mp hcorporate, h, if_neg (fun hc => hcomma (List.contains_iff_mem.mp hc)),
      if_neg (show ¬(startsWith n "Saint " || startsWith n "St. " || startsWith n "San ") = true
        from hsaint),
      if_neg (show ¬(startsWith n "Pope " || startsWith n "Papa ") = true from hpope)]
  | @compound surname h hgiven =>
    have hsurname : ∀ p ∈ compoundSurnameAuthority, p.2.toList.head?.all (fun c => !isSpace c) = true := by
      decide
    refine computeAuthorSort_joined hpy (isSpace_of_mem (hsurname _ (Assoc.mem_of_get? h)))
      (last_join (isWord_givenWords n surname)) fun hempty => ?_
    exact hgiven ((join_eq_empty_iff (isWord_givenWords n surname)).mp hempty)
  | surname k hk hless hcompound =>
    have hgiven : ∀ w ∈ (splitSpaces n).take ((splitSpaces n).length - k), IsWord w :=
      fun w hw => hwords w (List.mem_of_mem_take hw)
    refine computeAuthorSort_joined hpy (head_join fun w hw => hwords w (List.mem_of_mem_drop hw))
      (last_join hgiven) fun hempty => ?_
    have hnil := congrArg List.length ((join_eq_empty_iff hgiven).mp hempty)
    rw [List.length_take, List.length_nil] at hnil
    omega

/-! ### The words of the sort form -/

/-- A text without its commas. -/
def withoutCommas (s : String) : String := String.ofList (s.toList.filter (· ≠ ','))

variable (py) in
/-- The words up to case and diacritics. -/
def wordKeys (s : String) : List String := (splitSpaces s).map (authorityKey py)

variable (py) in
/-- Words without a comma, and none of the listed forms. -/
structure PlainName (n : String) : Prop where
  words : 2 ≤ (splitSpaces n).length
  comma : ',' ∉ n.toList
  corporate : ¬IsCorporate py n
  saint : ¬IsSaint n
  pope : ¬IsPope n

instance (n : String) : Decidable (PlainName py n) :=
  decidable_of_iff (2 ≤ (splitSpaces n).length ∧ ',' ∉ n.toList ∧ ¬IsCorporate py n ∧ ¬IsSaint n ∧
    ¬IsPope n) ⟨fun ⟨h1, h2, h3, h4, h5⟩ => ⟨h1, h2, h3, h4, h5⟩,
      fun h => ⟨h.words, h.comma, h.corporate, h.saint, h.pope⟩⟩

/-- The two sides are parted by their comma. -/
theorem splitSpaces_withoutCommas {before behind : String} (hbefore : ',' ∉ before.toList)
    (hbehind : ',' ∉ behind.toList) :
    splitSpaces (withoutCommas (before ++ ", " ++ behind))
      = splitSpaces before ++ splitSpaces behind := by
  refine splitSpaces_space (c := ' ') (by decide) ?_
  have hkept : ∀ s : String, ',' ∉ s.toList → s.toList.filter (· ≠ ',') = s.toList := fun s hs =>
    List.filter_eq_self.mpr fun c hc => decide_eq_true fun heq => hs (heq ▸ hc)
  rw [withoutCommas, String.toList_ofList, String.toList_append, String.toList_append,
    List.filter_append, List.filter_append, hkept before hbefore, hkept behind hbehind,
    List.append_assoc]
  rfl

theorem comma_notMem_join {ws : List String} (h : ∀ w ∈ ws, ',' ∉ w.toList) :
    ',' ∉ (" ".intercalate ws).toList := by
  induction ws with
  | nil => exact fun hmem => nomatch hmem
  | cons w ws ih =>
    cases ws with
    | nil =>
      rw [String.intercalate_singleton]
      exact h w List.mem_cons_self
    | cons w' ws =>
      have hrest := ih fun x hx => h x (List.mem_cons_of_mem w hx)
      rw [toList_join_cons, List.mem_append, List.mem_cons]
      rintro (hmem | hmem | hmem)
      · exact h w List.mem_cons_self hmem
      · cases hmem
      · exact hrest hmem

theorem comma_notMem_words {n : String} (hcomma : ',' ∉ n.toList) {ws : List String}
    (h : ∀ w ∈ ws, w ∈ splitSpaces n) : ',' ∉ (" ".intercalate ws).toList :=
  comma_notMem_join fun w hw hc => hcomma ((isWord_of_mem (h w hw)).2 ',' hc)

/-- Words that are put first are the same words. -/
theorem words_surnameFirst {n : String} (hcomma : ',' ∉ n.toList) (k : ℕ) :
    (splitSpaces (withoutCommas (surnameFirst (splitSpaces n) k))).Perm (splitSpaces n) := by
  have hwords : ∀ w ∈ splitSpaces n, IsWord w := fun w hw => (isWord_of_mem hw).1
  have hdrop : ∀ w ∈ (splitSpaces n).drop ((splitSpaces n).length - k), w ∈ splitSpaces n :=
    fun w hw => List.mem_of_mem_drop hw
  have htake : ∀ w ∈ (splitSpaces n).take ((splitSpaces n).length - k), w ∈ splitSpaces n :=
    fun w hw => List.mem_of_mem_take hw
  rw [surnameFirst, splitSpaces_withoutCommas (comma_notMem_words hcomma hdrop)
    (comma_notMem_words hcomma htake), splitSpaces_join fun w hw => hwords w (hdrop w hw),
    splitSpaces_join fun w hw => hwords w (htake w hw)]
  exact List.perm_append_comm.trans (List.Perm.of_eq (List.take_append_drop _ _))

variable (py) in
/-- The last words of a known author's name are the compound surname, up to case and diacritics. -/
def KeepsSurname (n : String) : Prop :=
  PlainName py n → ∀ p ∈ compoundSurnameAuthority, p.1 = authorityKey py n → givenWords n p.2 ≠ [] →
    ((splitSpaces p.2).map (authorityKey py)).Perm
      (((splitSpaces n).drop ((splitSpaces n).length - (splitSpaces p.2).length)).map
        (authorityKey py))

instance (n : String) : Decidable (KeepsSurname py n) :=
  inferInstanceAs (Decidable (_ → ∀ p ∈ compoundSurnameAuthority, _ → _ → List.Perm _ _))

variable (py) in
/-- The sort form has the words of the name, in some order. -/
def Reorders (name : String) : Prop :=
  ∃ sort, computeAuthorSort py name = .ok sort ∧
    (wordKeys py (withoutCommas sort)).Perm (wordKeys py (strip name))

/-- A plain name's sort form has its words, unless a compound surname stands for other words. -/
theorem reorders_iff {name : String} (hplain : PlainName py (strip name)) :
    Reorders py name ↔ KeepsSurname py (strip name) := by
  have hne : name ≠ "" := by
    rintro rfl
    exact absurd hplain.words (by decide)
  have hblank : ¬IsBlankName name := by
    rintro ⟨-, hstrip⟩
    have hwords := hplain.words
    rw [hstrip] at hwords
    exact absurd hwords (by decide)
  obtain ⟨sort, hsort, hform⟩ := sortForm hne hblank
  have hreorders : Reorders py name ↔
      (wordKeys py (withoutCommas sort)).Perm (wordKeys py (strip name)) := by
    constructor
    · rintro ⟨sort', hsort', hperm⟩
      rw [hsort] at hsort'
      exact Except.ok.inj hsort' ▸ hperm
    · exact fun hperm => ⟨sort, hsort, hperm⟩
  have hkeys : (Assoc.keys compoundSurnameAuthority).Nodup := by decide
  rw [hreorders]
  cases hform with
  | corporate h => exact absurd (fun hnone => by rw [hnone] at h; cases h) hplain.corporate
  | comma h => exact absurd h hplain.comma
  | saint h => exact absurd h hplain.saint
  | pope h => exact absurd h hplain.pope
  | word h =>
    have hwords := hplain.words
    rw [h] at hwords
    exact absurd hwords (by simp)
  | surname k hk hless hcompound =>
    refine iff_of_true ((words_surnameFirst hplain.comma k).map _) fun _ p hp hkey hgiven => ?_
    have hget : Assoc.get? (authorityKey py (strip name)) compoundSurnameAuthority = some p.2 :=
      hkey ▸ Assoc.get?_of_mem hkeys hp
    exact absurd (hcompound p.2 hget) hgiven
  | @compound surname h hgiven =>
    have hsurname : ∀ p ∈ compoundSurnameAuthority, ',' ∉ p.2.toList := by decide
    have htake : ∀ w ∈ givenWords (strip name) surname, w ∈ splitSpaces (strip name) :=
      fun w hw => List.mem_of_mem_take hw
    have hsplit : wordKeys py (strip name)
        = (givenWords (strip name) surname).map (authorityKey py) ++
          ((splitSpaces (strip name)).drop ((splitSpaces (strip name)).length
            - (splitSpaces surname).length)).map (authorityKey py) := by
      rw [← List.map_append, givenWords, List.take_append_drop]
      rfl
    rw [wordKeys, splitSpaces_withoutCommas (hsurname _ (Assoc.mem_of_get? h))
      (comma_notMem_words hplain.comma htake),
      splitSpaces_join (isWord_givenWords (strip name) surname), hsplit, List.map_append]
    -- the given names are on both sides
    rw [List.perm_append_comm.congr_left, List.perm_append_left_iff]
    constructor
    · intro hperm _ p hp hkey _
      have hget := Assoc.get?_of_mem hkeys hp
      rw [hkey, h] at hget
      rwa [← Option.some.inj hget]
    · exact fun hkeeps => hkeeps hplain _ (Assoc.mem_of_get? h) rfl hgiven

/-! ### Both forms -/

variable (py) in
/-- What a second normalization of a name should leave, and what the first should do. -/
structure StableName (name : String) : Prop where
  display : normalizeAuthorDisplay py (normalizeAuthorDisplay py name) = normalizeAuthorDisplay py name
  sort : ∃ sort, computeAuthorSort py name = .ok sort ∧ computeAuthorSort py sort = .ok sort
  reorders : PlainName py (strip name) → Reorders py name

variable (py) in
/-- The names that are normalized once and for all. -/
structure NormalizesOnce (name : String) : Prop where
  display : KeepsDisplay py name
  words : ¬IsBlankName name
  surname : KeepsSurname py (strip name)

theorem sort_stable_iff (hpy : LawfulNameCase py) (name : String) :
    (∃ sort, computeAuthorSort py name = .ok sort ∧ computeAuthorSort py sort = .ok sort) ↔
      ¬IsBlankName name := by
  constructor
  · rintro ⟨sort, hsort, -⟩ hblank
    rw [computeAuthorSort_blank hblank] at hsort
    cases hsort
  · intro hblank
    by_cases hne : name = ""
    · exact ⟨"", if_pos hne, if_pos rfl⟩
    · obtain ⟨sort, hsort, hform⟩ := @sortForm py _ hne hblank
      exact ⟨sort, hsort, hform.idem hpy (strip_strip name)⟩

/-- A name is stable just when it has a word, its sides are words between single blanks with one
comma at most, and a compound surname in it is spelled like the known one. -/
theorem stableName_iff (hpy : LawfulNameCase py) (name : String) :
    StableName py name ↔ NormalizesOnce py name := by
  constructor
  · intro h
    refine ⟨(normalizeAuthorDisplay_idem_iff hpy name).mp h.display,
      (sort_stable_iff hpy name).mp h.sort, fun hplain => ?_⟩
    exact (reorders_iff hplain).mp (h.reorders hplain) hplain
  · intro h
    exact ⟨(normalizeAuthorDisplay_idem_iff hpy name).mpr h.display,
      (sort_stable_iff hpy name).mpr h.words, fun hplain => (reorders_iff hplain).mpr h.surname⟩

/-- A letter in upper case, of its lower case. -/
theorem eq_or_eq_of_toLower {c d e : Char} (h : c.toLower = d)
    (hde : d.toNat = e.toNat + 32) : c = d ∨ c = e := by
  rcases toLower_cases c with hsame | ⟨-, hupper⟩
  · exact Or.inl (hsame.symm.trans h)
  · rw [h, hde] at hupper
    exact Or.inr (char_eq_of_toNat (by omega))

theorem capitalize_ofList_cons (c : Char) (cs : List Char) :
    RuleRuntime.ascii.capitalize (String.ofList (c :: cs)) =
      String.ofList (c.toUpper :: cs.map Char.toLower) := by
  dsimp only [RuleRuntime.ascii]
  rw [String.toList_ofList]

/-- The words whose lower case begins with a letter and goes on with others. -/
theorem capitalize_ascii {s : String} {d e : Char} {ds : List Char}
    (h : RuleRuntime.ascii.lower s = String.ofList (d :: ds)) (hde : d.toNat = e.toNat + 32)
    (hupper : d.toUpper = e ∧ e.toUpper = e) :
    RuleRuntime.ascii.capitalize s = String.ofList (e :: ds) := by
  have hchars : s.toList.map Char.toLower = d :: ds := String.ofList_injective h
  obtain ⟨c, cs, hs, hc, hcs⟩ := List.map_eq_cons_iff.mp hchars
  have hfirst : c.toUpper = e := by
    rcases eq_or_eq_of_toLower hc hde with rfl | rfl
    · exact hupper.1
    · exact hupper.2
  obtain rfl : s = String.ofList (c :: cs) := by rw [← hs, String.ofList_toList]
  rw [capitalize_ofList_cons, hfirst, hcs]

theorem lawfulNameCase_ascii : LawfulNameCase .ascii where
  lower_ascii _ _ := rfl
  lower_comma s h := by
    rw [show (RuleRuntime.ascii.lower s).toList = s.toList.map Char.toLower from String.toList_ofList]
    exact List.mem_map.mpr ⟨',', h, by decide⟩
  capitalize_the _ h := @capitalize_ascii _ 't' 'T' ['h', 'e'] h (by decide) (by decide)
  capitalize_der _ h := @capitalize_ascii _ 'd' 'D' ['e', 'r'] h (by decide) (by decide)

/-- A name with a particle. -/
theorem stableName_iff_cervantes :
    StableName .ascii "Miguel de Cervantes" ↔ NormalizesOnce .ascii "Miguel de Cervantes" :=
  stableName_iff lawfulNameCase_ascii _

/-- A second comma moves to the front, and white space has no sort form. -/
theorem king_moves_again :
    normalizeAuthorDisplay .ascii "King, Martin Luther, Jr." = "Martin Luther, Jr. King" ∧
    normalizeAuthorDisplay .ascii "Martin Luther, Jr. King" = "Jr. King Martin Luther" ∧
    computeAuthorSort .ascii " " = .error ⟨.other, "list index out of range"⟩ ∧
    ¬StableName .ascii "King, Martin Luther, Jr." ∧ ¬StableName .ascii " " := by
  have hfirst : normalizeAuthorDisplay .ascii "King, Martin Luther, Jr."
      = "Martin Luther, Jr. King" := by decide
  have hsecond : normalizeAuthorDisplay .ascii "Martin Luther, Jr. King"
      = "Jr. King Martin Luther" := by decide
  have hblank : computeAuthorSort .ascii " " = .error ⟨.other, "list index out of range"⟩ := by
    decide
  refine ⟨hfirst, hsecond, hblank, fun h => ?_, fun h => ?_⟩
  · have hdisplay := h.display
    rw [hfirst, hsecond] at hdisplay
    exact absurd hdisplay (by decide)
  · obtain ⟨sort, hsort, -⟩ := h.sort
    rw [hblank] at hsort
    cases hsort

end Bookwarden.Verification
