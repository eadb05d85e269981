import Bookwarden.Isbn.Agreement
import Bookwarden.Verification.Verdict

/-!
# The ISBN rule

`verify_isbn` of `verification/rules.py` confirms two ISBNs that are the same text, or of which one
is the other's ISBN-13. It looks at the checksum of the pair, not of the one it converts: ten
characters with a wrong checksum are converted as well, if `int` reads them, and raise if it does not.

## Main definitions

* `verifyIsbn`
* `IsbnRuleExact` — what is asked of the rule at two texts
* `Misconverted`, `SameIsbn10`, `BlankSwap` — where it fails

## Main results

* `isbnRuleExact_iff` — it is exact everywhere else
-/

namespace Bookwarden.Verification

variable (py : RuleRuntime)

/-! ### The rule -/

/-- `re.sub(r"[\s-]", "", ·)`. -/
def cleanSeparators (s : String) : String :=
  String.ofList (s.toList.filter fun c => !(isSpace c || c = '-'))

/-- `_isbn_is_valid`. -/
def isbnIsValid (s : String) : Bool :=
  let s := cleanSeparators s
  if s.toList.length = 13 then isbn13ChecksumValid s
  else if s.toList.length = 10 then isbn10ChecksumValid s
  else false

/-- `int` of one character. -/
def intOf (c : Char) : Except PyError ℕ :=
  match py.decimal c with
  | some d => .ok d
  | none => .error ⟨.value, "invalid literal for int() with base 10: " ++
      py.reprValue (.str (String.ofList [c]))⟩

/-- The weighted sum of thirteen digits. -/
def weighted13 (ds : List ℕ) : ℕ :=
  (ds.zipIdx.map fun p => p.1 * (if p.2 % 2 = 0 then 1 else 3)).sum

/-- `_isbn13_from_isbn10`. -/
def isbn13FromIsbn10 (s : String) : Except PyError String :=
  let body := ['9', '7', '8'] ++ s.toList.take 9
  (body.mapM (intOf py)).map fun ds =>
    String.ofList (body ++ [Nat.digitChar ((10 - weighted13 ds % 10) % 10)])

/-- `_is_isbn10`. -/
def isIsbn10Length (s : String) : Bool := (cleanSeparators s).toList.length = 10

/-- The ten characters convert to the thirteen of a valid ISBN. -/
def convertsTo (ten thirteen : String) (valid : Bool) : Except PyError Bool :=
  if isIsbn10Length ten && thirteen.toList.length = 13 && valid then
    (isbn13FromIsbn10 py ten).map fun converted => converted = thirteen
  else .ok false

/-- `declared_clean` and `observed_clean`; nothing is the empty text. -/
def isbnText (v : Value) : String := if v.truthy then cleanSeparators (v.toStr py) else ""

/-- `verify_isbn` of two texts that are not empty. -/
def compareIsbns (declared observed : String) (pageRange : Option String) :
    Except PyError FieldVerdict := do
  let declValid := isbnIsValid declared
  let obsValid := isbnIsValid observed
  let verdict : FieldVerdict :=
    { field := "isbn", declaredValue := .str declared, observedValue := .str observed
      verdict := .ambiguous, confidence := 30, reason := "Both ISBNs have invalid checksums." }
  if !declValid && !obsValid then return verdict
  if declared = observed then
    return { verdict with
      verdict := .confirmed, confidence := 99, reason := "ISBNs match exactly." }
  if ← convertsTo py declared observed obsValid then
    return { verdict with
      verdict := .confirmed, confidence := 90
      reason := "Declared ISBN-10 converts to observed ISBN-13." }
  if ← convertsTo py observed declared declValid then
    return { verdict with
      verdict := .confirmed, confidence := 90
      reason := "Observed ISBN-10 converts to declared ISBN-13." }
  if declValid && obsValid then
    return { verdict with
      verdict := .mismatch, confidence := 98, riskFlags := ["isbn_conflict"]
      evidence := [⟨"isbn_block", observed, pageRange, 98⟩]
      reason := "ISBN conflict: declared " ++ declared ++ " but book has " ++ observed ++ "."
      requiresReview := true }
  if obsValid && !declValid then
    return { verdict with
      verdict := .mismatch, confidence := 92, riskFlags := ["isbn_conflict"]
      reason := "Declared ISBN has invalid checksum; book has valid " ++ observed ++ "."
      requiresReview := true }
  if declValid && !obsValid then
    return { verdict with
      verdict := .mismatch, confidence := 88, riskFlags := ["isbn_conflict"]
      reason := "Observed ISBN " ++ observed ++ " has invalid checksum."
      requiresReview := true }
  return { verdict with
    confidence := 40, reason := "ISBN values differ but neither has a valid checksum." }

/-- `verify_isbn`. -/
def verifyIsbn (declared observed : Value) (pageRange : Option String) :
    Except PyError FieldVerdict :=
  let d := isbnText py declared
  let o := isbnText py observed
  if d = "" ∧ o = "" then
    .ok { field := "isbn", declaredValue := .null, verdict := .ambiguous, confidence := 0
          reason := "No ISBN declared and none observed." }
  else if d = "" then
    if isbnIsValid o then
      .ok { field := "isbn", declaredValue := .null, observedValue := .str o, verdict := .missing
            confidence := 95, evidence := [⟨"isbn_block", o, pageRange, 95⟩]
            reason := "Found valid ISBN " ++ o ++ " on copyright page; not declared in Calibre." }
    else
      .ok { field := "isbn", declaredValue := .null, observedValue := .str o
            verdict := .ambiguous, confidence := 40
            reason := "Found ISBN-shaped string " ++ py.reprValue (.str o) ++
              " but checksum invalid." }
  else if o = "" then
    .ok { field := "isbn", declaredValue := .str d, verdict := .ambiguous, confidence := 50
          reason := "ISBN declared but no ISBN found on extracted copyright page." }
  else compareIsbns py d o pageRange

/-! ### What is asked of it -/

/-- The ISBN-13 that a text with a valid checksum denotes. -/
def denotes (s : String) : Option String := if isbnIsValid s then validateIsbn s else none

/-- What is asked of the verdict on two texts. -/
structure IsbnRuleExact (d o : String) (pageRange : Option String) (v : FieldVerdict) : Prop where
  /-- It confirms texts that denote the same ISBN-13, and no others. -/
  confirmed : v.verdict = .confirmed ↔ ∃ isbn, denotes d = some isbn ∧ denotes o = some isbn
  /-- Texts that denote different ones are in conflict. -/
  conflict : ∀ isbn isbn', denotes d = some isbn → denotes o = some isbn' → isbn ≠ isbn' →
    v.verdict = .mismatch ∧ "isbn_conflict" ∈ v.riskFlags ∧ v.requiresReview = true
  /-- It does not matter which of the two is declared. -/
  swap : d ≠ "" → o ≠ "" → ∃ w, verifyIsbn py (.str o) (.str d) pageRange = .ok w ∧
    w.verdict = v.verdict ∧ w.riskFlags = v.riskFlags

/-- Ten characters without a valid checksum next to a valid ISBN-13. One of the first nine is no
digit, or they are the nine digits of the ISBN-13. -/
structure Misconverted (ten thirteen : String) : Prop where
  length : (cleanSeparators ten).toList.length = 10
  invalid : isbnIsValid ten = false
  length' : (cleanSeparators thirteen).toList.length = 13
  valid : isbnIsValid thirteen = true
  chars : (∃ c ∈ (cleanSeparators ten).toList.take 9, py.decimal c = none) ∨
    (cleanSeparators thirteen).toList.take 12 =
      ['9', '7', '8'] ++ (cleanSeparators ten).toList.take 9

/-- Two ways to write the check digit of one valid ISBN-10. -/
def SameIsbn10 (d o : String) : Prop :=
  isbnIsValid d = true ∧ isbnIsValid o = true ∧ (cleanSeparators d).toList.length = 10 ∧
    (cleanSeparators o).toList.length = 10 ∧ cleanSeparators d ≠ cleanSeparators o ∧
      upperX (cleanSeparators d).toList = upperX (cleanSeparators o).toList

/-- A text of separators next to a valid ISBN. -/
def BlankSwap (blank isbn : String) : Prop :=
  blank ≠ "" ∧ cleanSeparators blank = "" ∧ isbnIsValid isbn = true

/-- Where the rule is not exact. -/
def IsbnPitfall (d o : String) : Prop :=
  Misconverted py d o ∨ Misconverted py o d ∨ SameIsbn10 d o ∨ BlankSwap d o ∨ BlankSwap o d

variable {py} {d o : String} {pageRange : Option String}

/-! ### Separators -/

@[simp] theorem cleanSeparators_idem (s : String) :
    cleanSeparators (cleanSeparators s) = cleanSeparators s := by
  simp only [cleanSeparators, String.toList_ofList, List.filter_filter, Bool.and_self]

@[simp] theorem cleanSeparators_empty : cleanSeparators "" = "" := rfl

@[simp] theorem isbnIsValid_clean (s : String) :
    isbnIsValid (cleanSeparators s) = isbnIsValid s := by
  rw [isbnIsValid, isbnIsValid, cleanSeparators_idem]

@[simp] theorem isbnText_str (s : String) : isbnText py (.str s) = cleanSeparators s := by
  rw [isbnText]
  by_cases hs : s = ""
  · rw [hs]
    rfl
  · simp [hs]

/-- No character of an ISBN is a separator. -/
theorem cleanIsbn_clean (s : String) : cleanIsbn (cleanSeparators s) = cleanIsbn s := by
  rw [cleanIsbn, cleanSeparators, String.toList_ofList, List.filter_filter, cleanIsbn]
  refine List.filter_congr fun c _ => ?_
  have hX : isSpace 'X' = false ∧ isSpace 'x' = false := by decide
  by_cases hdigit : c.isDigit = true
  · have hspace := isSpace_of_isDigit hdigit
    have hdash : c ≠ '-' := by
      rintro rfl
      exact absurd hdigit (by decide)
    simp [hdigit, hspace, hdash]
  · by_cases hupper : c = 'X'
    · simp [hupper, hX.1]
    · by_cases hlower : c = 'x'
      · simp [hlower, hX.2]
      · simp [hdigit, hupper, hlower]

@[simp] theorem denotes_clean (s : String) : denotes (cleanSeparators s) = denotes s := by
  rw [denotes, denotes, isbnIsValid_clean, validateIsbn, validateIsbn, cleanIsbn_clean]

/-- The filter keeps a text whose length it keeps. -/
theorem cleanIsbn_of_length {s : String} (h : (cleanIsbn s).length = s.toList.length) :
    cleanIsbn s = s.toList :=
  List.filter_sublist.eq_of_length h

/-! ### Valid texts -/

/-- A valid text has ten or thirteen characters, and they are those of an ISBN. -/
theorem valid_cases (hd : cleanSeparators d = d) (h : isbnIsValid d = true) :
    (IsIsbn13 d.toList ∧ denotes d = some d) ∨
      (IsIsbn10 (upperX d.toList) ∧ d.toList.length = 10 ∧ denotes d =
        some (String.ofList (['9', '7', '8'] ++ (upperX d.toList).take 9 ++ [Nat.digitChar
          ((10 - isbn13Sum (['9', '7', '8'] ++ (upperX d.toList).take 9) % 10) % 10)]))) := by
  have hdenotes : denotes d = validateIsbn d := if_pos h
  rw [isbnIsValid, hd] at h
  split at h
  · rename_i hlength
    have hvalid := (isbn13ChecksumValid_iff d).mp h
    have hsame := cleanIsbn_of_length (hvalid.1.trans hlength.symm)
    refine .inl ⟨hsame ▸ hvalid, ?_⟩
    rw [hdenotes, validateIsbn_of_isbn13 hvalid, hsame, String.ofList_toList]
  · split at h
    · rename_i hlength
      have hvalid := (isbn10ChecksumValid_iff d).mp h
      have hten := hvalid.length
      rw [length_upperX] at hten
      have hsame := cleanIsbn_of_length (hten.trans hlength.symm)
      refine .inr ⟨hsame ▸ hvalid, hlength, ?_⟩
      rw [hdenotes, validateIsbn_of_isbn10 hvalid, hsame]
    · cases h

theorem isbn13_of_valid (hd : cleanSeparators d = d) (h : isbnIsValid d = true)
    (hlength : d.toList.length = 13) : IsIsbn13 d.toList ∧ denotes d = some d := by
  rcases valid_cases hd h with hthirteen | ⟨-, hten, -⟩
  · exact hthirteen
  · omega

/-- The first nine digits of an ISBN-10 are not changed by writing its last character large. -/
theorem take_upperX {cs : List Char} (h : ∀ c ∈ (upperX cs).take 9, c.isDigit = true) :
    (upperX cs).take 9 = cs.take 9 := by
  rw [upperX, ← List.map_take] at h ⊢
  refine (List.map_congr_left fun c hc => ?_).trans (List.map_id _)
  have hdigit := h _ (List.mem_map_of_mem hc)
  by_cases hx : c = 'x'
  · rw [if_pos hx] at hdigit
    exact absurd hdigit (by decide)
  · rw [if_neg hx, id]

/-! ### Conversion -/

theorem mapM_intOf {cs : List Char} (h : ∀ c ∈ cs, c.isDigit = true) :
    cs.mapM (intOf py) = .ok (cs.map digitVal) :=
  mapM_ok fun c hc => by
    rw [intOf, py.decimal_digit c (h c hc)]
    rfl

theorem weighted13_map (cs : List Char) : weighted13 (cs.map digitVal) = isbn13Sum cs := by
  rw [weighted13, isbn13Sum, List.zipIdx_map, List.map_map]
  rfl

theorem prefix_digits {cs : List Char} (h : ∀ c ∈ cs, c.isDigit = true) :
    ∀ c ∈ ['9', '7', '8'] ++ cs, c.isDigit = true := by
  intro c hc
  rcases List.mem_append.mp hc with hc | hc
  · simp only [List.mem_cons, List.not_mem_nil, or_false] at hc
    rcases hc with rfl | rfl | rfl <;> decide
  · exact h c hc

/-- Nine digits are converted. -/
theorem isbn13FromIsbn10_digits (h : ∀ c ∈ d.toList.take 9, c.isDigit = true) :
    isbn13FromIsbn10 py d = .ok (String.ofList (['9', '7', '8'] ++ d.toList.take 9 ++
      [Nat.digitChar ((10 - isbn13Sum (['9', '7', '8'] ++ d.toList.take 9) % 10) % 10)])) := by
  simp only [isbn13FromIsbn10, mapM_intOf (prefix_digits h), Except.map, weighted13_map]

/-- A character that `int` does not read raises. -/
theorem isbn13FromIsbn10_error (h : ∃ c ∈ d.toList.take 9, py.decimal c = none) :
    ∃ e, isbn13FromIsbn10 py d = .error e := by
  obtain ⟨c, hc, hnone⟩ := h
  have hraise : ∃ e, intOf py c = .error e := by
    rw [intOf, hnone]
    exact ⟨_, rfl⟩
  obtain ⟨e, he⟩ := hraise
  obtain ⟨e', he'⟩ := mapM_error (l := ['9', '7', '8'] ++ d.toList.take 9)
    (List.mem_append_right _ hc) he
  exact ⟨e', by rw [isbn13FromIsbn10, he']; rfl⟩

/-- The others are converted to something that begins with them. -/
theorem isbn13FromIsbn10_ok (h : ¬∃ c ∈ d.toList.take 9, py.decimal c = none) :
    ∃ check, isbn13FromIsbn10 py d =
      .ok (String.ofList (['9', '7', '8'] ++ d.toList.take 9 ++ [check])) := by
  have hint : ∀ c ∈ ['9', '7', '8'] ++ d.toList.take 9,
      intOf py c = .ok ((py.decimal c).getD 0) := by
    intro c hc
    have hsome : ∃ n, py.decimal c = some n := by
      rcases List.mem_append.mp hc with hc | hc
      · have hdigit := @prefix_digits [] (by simp) c (by simpa using hc)
        exact ⟨_, py.decimal_digit c hdigit⟩
      · refine Option.ne_none_iff_exists'.mp fun hnone => h ⟨c, hc, hnone⟩
    obtain ⟨n, hn⟩ := hsome
    rw [intOf, hn]
    rfl
  rw [isbn13FromIsbn10, mapM_ok hint]
  exact ⟨_, rfl⟩

/-- A valid ISBN-13 is what ten characters convert to when it begins with them. -/
theorem isbn13FromIsbn10_eq_iff (ho : IsIsbn13 o.toList) (hlength : d.toList.length = 10) :
    isbn13FromIsbn10 py d = .ok o ↔
      o.toList.take 12 = ['9', '7', '8'] ++ d.toList.take 9 := by
  have hbody : (['9', '7', '8'] ++ d.toList.take 9).length = 12 := by
    rw [List.length_append, List.length_take, hlength]
    rfl
  constructor
  · intro hconvert
    have hread : ¬∃ c ∈ d.toList.take 9, py.decimal c = none := fun hnone => by
      obtain ⟨e, he⟩ := isbn13FromIsbn10_error hnone
      rw [he] at hconvert
      cases hconvert
    obtain ⟨check, hcheck⟩ := isbn13FromIsbn10_ok hread
    rw [hcheck, Except.ok.injEq] at hconvert
    rw [← hconvert, String.toList_ofList, List.take_append_of_le_length (by omega),
      List.take_of_length_le (by omega)]
  · intro htake
    have hdigits : ∀ c ∈ d.toList.take 9, c.isDigit = true := fun c hc =>
      ho.2.1 c (List.mem_of_mem_take (htake ▸ List.mem_append_right _ hc))
    have hlast : o.toList.getD 12 ' ' = Nat.digitChar
        ((10 - isbn13Sum (['9', '7', '8'] ++ d.toList.take 9) % 10) % 10) := by
      obtain ⟨hdigit, hval⟩ :=
        digitChar_mod (10 - isbn13Sum (['9', '7', '8'] ++ d.toList.take 9) % 10)
      refine digitVal_inj (ho.2.1 _ ?_) hdigit ?_
      · have hmem := List.mem_append_right (o.toList.take 12)
          (List.mem_singleton_self (o.toList.getD 12 ' '))
        rwa [← eq_take_append_getD ho.1] at hmem
      · rw [hval, ← htake, ho.2.2]
    rw [isbn13FromIsbn10_digits hdigits, ← hlast, ← htake, ← eq_take_append_getD ho.1,
      String.ofList_toList]

/-! ### The outcome of a comparison -/

/-- The part of a verdict that is compared. -/
def outcome (v : FieldVerdict) : VerdictKind × List String × Bool :=
  (v.verdict, v.riskFlags, v.requiresReview)

/-- One of the two converts to the other. -/
def crossFormat (py : RuleRuntime) (d o : String) : Except PyError Bool := do
  if ← convertsTo py d o (isbnIsValid o) then return true
  convertsTo py o d (isbnIsValid d)

/-- The outcome, by the validity of the two texts and their conversion. -/
def compared (py : RuleRuntime) (d o : String) : Except PyError (VerdictKind × List String × Bool) :=
  if (isbnIsValid d || isbnIsValid o) = false then .ok (.ambiguous, [], false)
  else if d = o then .ok (.confirmed, [], false)
  else (crossFormat py d o).map fun same =>
    if same then (.confirmed, [], false) else (.mismatch, ["isbn_conflict"], true)

theorem compareIsbns_outcome (d o : String) :
    (compareIsbns py d o pageRange).map outcome = compared py d o := by
  rw [compareIsbns, compared, crossFormat]
  generalize convertsTo py d o (isbnIsValid o) = x
  generalize convertsTo py o d (isbnIsValid d) = y
  generalize isbnIsValid d = dv
  generalize isbnIsValid o = ov
  by_cases heq : d = o
  · cases dv <;> cases ov <;> simp only [heq] <;> rfl
  · cases x with
    | error e => cases dv <;> cases ov <;> simp only [heq] <;> rfl
    | ok a =>
      cases y with
      | error e => cases a <;> cases dv <;> cases ov <;> simp only [heq] <;> rfl
      | ok b => cases a <;> cases b <;> cases dv <;> cases ov <;> simp only [heq] <;> rfl

/-- A text of ten characters and one of thirteen call for one conversion. -/
theorem convertsTo_of_not {valid : Bool} (hd : cleanSeparators d = d)
    (h : ¬(d.toList.length = 10 ∧ o.toList.length = 13 ∧ valid = true)) :
    convertsTo py d o valid = .ok false := by
  rw [convertsTo, if_neg]
  simpa [isIsbn10Length, hd, and_assoc] using h

theorem convertsTo_of {valid : Bool} (hd : cleanSeparators d = d) (hten : d.toList.length = 10)
    (hthirteen : o.toList.length = 13) (hvalid : valid = true) :
    convertsTo py d o valid = (isbn13FromIsbn10 py d).map fun converted => decide (converted = o) := by
  rw [convertsTo, if_pos]
  simp [isIsbn10Length, hd, hten, hthirteen, hvalid]

theorem crossFormat_left (hd : cleanSeparators d = d) (ho : cleanSeparators o = o)
    (hten : d.toList.length = 10) :
    crossFormat py d o = convertsTo py d o (isbnIsValid o) := by
  rw [crossFormat, convertsTo_of_not ho (by omega)]
  cases convertsTo py d o (isbnIsValid o) with
  | error e => rfl
  | ok a => cases a <;> rfl

theorem crossFormat_right (hd : cleanSeparators d = d) (hten : d.toList.length ≠ 10) :
    crossFormat py d o = convertsTo py o d (isbnIsValid d) := by
  rw [crossFormat, convertsTo_of_not hd (by omega)]
  rfl

theorem crossFormat_comm (hd : cleanSeparators d = d) (ho : cleanSeparators o = o) :
    crossFormat py d o = crossFormat py o d := by
  by_cases hdten : d.toList.length = 10
  · rw [crossFormat_left hd ho hdten]
    by_cases hoten : o.toList.length = 10
    · rw [crossFormat_left ho hd hoten, convertsTo_of_not hd (by omega),
        convertsTo_of_not ho (by omega)]
    · rw [crossFormat_right ho hoten]
  · rw [crossFormat_right hd hdten]
    by_cases hoten : o.toList.length = 10
    · rw [crossFormat_left ho hd hoten]
    · rw [crossFormat_right ho hoten, convertsTo_of_not hd (by omega),
        convertsTo_of_not ho (by omega)]

theorem compared_comm (hd : cleanSeparators d = d) (ho : cleanSeparators o = o) :
    compared py d o = compared py o d := by
  rw [compared, compared, crossFormat_comm hd ho, Bool.or_comm]
  by_cases heq : d = o
  · rw [heq]
  · have hne : ¬o = d := fun h => heq h.symm
    simp only [if_neg heq, if_neg hne]

/-! ### Where it is exact -/

/-- The conversion finds out whether two texts denote the same ISBN-13. -/
def CrossExact (py : RuleRuntime) (d o : String) : Prop :=
  ∃ same, crossFormat py d o = .ok same ∧
    (same = true ↔ isbnIsValid d = true ∧ isbnIsValid o = true ∧ denotes d = denotes o)

theorem crossExact_comm (hd : cleanSeparators d = d) (ho : cleanSeparators o = o) :
    CrossExact py d o ↔ CrossExact py o d := by
  rw [CrossExact, CrossExact, crossFormat_comm hd ho]
  have hand : (isbnIsValid d = true ∧ isbnIsValid o = true ∧ denotes d = denotes o) ↔
      (isbnIsValid o = true ∧ isbnIsValid d = true ∧ denotes o = denotes d) := by
    rw [and_left_comm, eq_comm (a := denotes d)]
  simp only [hand]

/-- An invalid text is not to be converted to a valid one. -/
theorem crossExact_invalid_iff (hd : cleanSeparators d = d) (ho : cleanSeparators o = o)
    (hdv : isbnIsValid d = false) (hov : isbnIsValid o = true) :
    CrossExact py d o ↔ ¬Misconverted py d o := by
  have hnot : ¬(isbnIsValid d = true ∧ isbnIsValid o = true ∧ denotes d = denotes o) := by
    rw [hdv]
    simp
  have hfalse : CrossExact py d o ↔ crossFormat py d o = .ok false := by
    constructor
    · rintro ⟨same, hsame, hiff⟩
      rw [hsame, Bool.eq_false_iff.mpr fun h => hnot (hiff.mp h)]
    · exact fun h => ⟨false, h, by simp [hnot]⟩
  rw [hfalse]
  by_cases hlength : d.toList.length = 10 ∧ o.toList.length = 13
  · obtain ⟨hten, hthirteen⟩ := hlength
    rw [crossFormat_left hd ho hten, convertsTo_of hd hten hthirteen hov]
    have hisbn := (isbn13_of_valid ho hov hthirteen).1
    constructor
    · rintro hconvert ⟨-, -, -, -, hchars⟩
      rw [hd, ho] at hchars
      rcases hchars with hnone | htake
      · obtain ⟨e, he⟩ := isbn13FromIsbn10_error hnone
        rw [he] at hconvert
        cases hconvert
      · rw [(isbn13FromIsbn10_eq_iff hisbn hten).mpr htake, Except.map, Except.ok.injEq,
          decide_eq_false_iff_not] at hconvert
        exact hconvert rfl
    · intro hmis
      have hchars : ¬((∃ c ∈ d.toList.take 9, py.decimal c = none) ∨
          o.toList.take 12 = ['9', '7', '8'] ++ d.toList.take 9) := fun hchars =>
        hmis ⟨by rwa [hd], hdv, by rwa [ho], hov, by rwa [hd, ho]⟩
      rw [not_or] at hchars
      obtain ⟨check, hcheck⟩ := isbn13FromIsbn10_ok hchars.1
      rw [hcheck, Except.map, Except.ok.injEq, decide_eq_false_iff_not]
      intro heq
      rw [heq] at hcheck
      exact hchars.2 ((isbn13FromIsbn10_eq_iff hisbn hten).mp hcheck)
  · -- the other text has the ten characters, or none has
    have hconvert : crossFormat py d o = .ok false := by
      by_cases hten : d.toList.length = 10
      · rw [crossFormat_left hd ho hten, convertsTo_of_not hd (by omega)]
      · rw [crossFormat_right hd hten, convertsTo_of_not ho]
        rw [hdv]
        simp
    refine iff_of_true hconvert fun hmis => hlength ?_
    have hten := hmis.length
    have hthirteen := hmis.length'
    rw [hd] at hten
    rw [ho] at hthirteen
    exact ⟨hten, hthirteen⟩

/-- Ten characters and thirteen that are both valid. -/
theorem crossExact_mixed (hd : cleanSeparators d = d) (ho : cleanSeparators o = o)
    (hdv : isbnIsValid d = true) (hov : isbnIsValid o = true) (hten : d.toList.length = 10)
    (hthirteen : o.toList.length = 13) : CrossExact py d o := by
  obtain ⟨-, hoself⟩ := isbn13_of_valid ho hov hthirteen
  rcases valid_cases hd hdv with ⟨hisbn, -⟩ | ⟨hisbn, -, hdself⟩
  · have hlength := hisbn.1
    omega
  · have htake := take_upperX hisbn.digits
    have hdigits : ∀ c ∈ d.toList.take 9, c.isDigit = true := htake ▸ hisbn.digits
    rw [CrossExact, crossFormat_left hd ho hten, convertsTo_of hd hten hthirteen hov,
      isbn13FromIsbn10_digits hdigits]
    refine ⟨_, rfl, ?_⟩
    rw [decide_eq_true_eq, hdself, hoself, htake, Option.some.injEq]
    exact ⟨fun h => ⟨hdv, hov, h⟩, fun h => h.2.2⟩

/-- Two valid texts are told apart unless they are two ways to write one ISBN-10. -/
theorem crossExact_valid_iff (hd : cleanSeparators d = d) (ho : cleanSeparators o = o)
    (hdv : isbnIsValid d = true) (hov : isbnIsValid o = true) (hne : d ≠ o) :
    CrossExact py d o ↔ ¬SameIsbn10 d o := by
  rcases valid_cases hd hdv with ⟨hdisbn, hdself⟩ | ⟨hdisbn, hdten, hdself⟩
  · have hdlength := hdisbn.1
    have hsame : ¬SameIsbn10 d o := by
      rintro ⟨-, -, hlength, -⟩
      rw [hd] at hlength
      omega
    refine iff_of_true ?_ hsame
    rcases valid_cases ho hov with ⟨hoisbn, hoself⟩ | ⟨-, hoten, -⟩
    · have holength := hoisbn.1
      refine ⟨false, ?_, ?_⟩
      · rw [crossFormat_right hd (by omega), convertsTo_of_not ho (by omega)]
      · simp [hdself, hoself, hne]
    · exact (crossExact_comm hd ho).mpr (crossExact_mixed ho hd hov hdv hoten hdlength)
  · rcases valid_cases ho hov with ⟨hoisbn, -⟩ | ⟨hoisbn, hoten, hoself⟩
    · have holength := hoisbn.1
      have hsame : ¬SameIsbn10 d o := by
        rintro ⟨-, -, -, hlength, -⟩
        rw [ho] at hlength
        omega
      exact iff_of_true (crossExact_mixed hd ho hdv hov hdten holength) hsame
    · have hconvert : crossFormat py d o = .ok false := by
        rw [crossFormat_left hd ho hdten, convertsTo_of_not hd (by omega)]
      have hiff : denotes d = denotes o ↔ upperX d.toList = upperX o.toList := by
        rw [hdself, hoself, Option.some.injEq]
        constructor
        · intro h
          have hlists := String.ofList_injective h
          have hlength : (['9', '7', '8'] ++ (upperX d.toList).take 9).length =
              (['9', '7', '8'] ++ (upperX o.toList).take 9).length := by
            simp [hdten, hoten]
          have hbody := (List.append_inj hlists hlength).1
          exact hdisbn.eq_of_take hoisbn (List.append_cancel_left hbody)
        · intro h
          rw [h]
      rw [CrossExact, hconvert, SameIsbn10, hd, ho, hiff]
      simp [hdv, hov, hdten, hoten, hne]

/-- **Two texts that are not blank.** -/
theorem crossExact_iff (hd : cleanSeparators d = d) (ho : cleanSeparators o = o) (hne : d ≠ o)
    (hvalid : ¬(isbnIsValid d = false ∧ isbnIsValid o = false)) :
    CrossExact py d o ↔ ¬(Misconverted py d o ∨ Misconverted py o d ∨ SameIsbn10 d o) := by
  have hmis : ∀ {a b : String}, isbnIsValid a = true → ¬Misconverted py a b := fun ha hmis => by
    rw [hmis.invalid] at ha
    cases ha
  have hmis' : ∀ {a b : String}, isbnIsValid b = false → ¬Misconverted py a b := fun hb hmis => by
    rw [hmis.valid] at hb
    cases hb
  cases hdv : isbnIsValid d with
  | true =>
    cases hov : isbnIsValid o with
    | true =>
      rw [crossExact_valid_iff hd ho hdv hov hne]
      simp [hmis hdv, hmis hov]
    | false =>
      rw [crossExact_comm hd ho, crossExact_invalid_iff ho hd hov hdv]
      simp [hmis hdv, SameIsbn10, hov]
  | false =>
    cases hov : isbnIsValid o with
    | true =>
      rw [crossExact_invalid_iff hd ho hdv hov]
      simp [hmis hov, SameIsbn10, hdv]
    | false => exact absurd ⟨hdv, hov⟩ hvalid

/-! ### Two texts -/

theorem valid_of_denotes {isbn : String} (h : denotes d = some isbn) : isbnIsValid d = true := by
  rw [denotes] at h
  split at h
  · assumption
  · cases h

theorem exists_denotes (h : isbnIsValid d = true) : ∃ isbn, denotes d = some isbn := by
  rw [← isbnIsValid_clean] at h
  rw [← denotes_clean]
  rcases valid_cases (cleanSeparators_idem d) h with ⟨-, hself⟩ | ⟨-, -, hself⟩
  · exact ⟨_, hself⟩
  · exact ⟨_, hself⟩

theorem denotes_same_iff : (∃ isbn, denotes d = some isbn ∧ denotes o = some isbn) ↔
    isbnIsValid d = true ∧ isbnIsValid o = true ∧ denotes d = denotes o := by
  constructor
  · rintro ⟨isbn, hd, ho⟩
    exact ⟨valid_of_denotes hd, valid_of_denotes ho, hd.trans ho.symm⟩
  · rintro ⟨hd, -, heq⟩
    obtain ⟨isbn, hisbn⟩ := exists_denotes hd
    exact ⟨isbn, hisbn, heq ▸ hisbn⟩

theorem verifyIsbn_of_ne (hd : cleanSeparators d ≠ "") (ho : cleanSeparators o ≠ "") :
    verifyIsbn py (.str d) (.str o) pageRange =
      compareIsbns py (cleanSeparators d) (cleanSeparators o) pageRange := by
  simp only [verifyIsbn, isbnText_str, hd, ho, false_and, if_false]

/-- What is asked of the outcome on two texts that are not blank. -/
structure OutcomeExact (d o : String) (k : VerdictKind × List String × Bool) : Prop where
  confirmed : k.1 = .confirmed ↔ ∃ isbn, denotes d = some isbn ∧ denotes o = some isbn
  conflict : ∀ isbn isbn', denotes d = some isbn → denotes o = some isbn' → isbn ≠ isbn' →
    k.1 = .mismatch ∧ "isbn_conflict" ∈ k.2.1 ∧ k.2.2 = true

/-- The two directions of a comparison have one outcome. -/
theorem exact_iff_outcome (hd : cleanSeparators d ≠ "") (ho : cleanSeparators o ≠ "") :
    (∃ v, verifyIsbn py (.str d) (.str o) pageRange = .ok v ∧ IsbnRuleExact py d o pageRange v) ↔
      ∃ k, compared py (cleanSeparators d) (cleanSeparators o) = .ok k ∧ OutcomeExact d o k := by
  have hdo := @compareIsbns_outcome py pageRange (cleanSeparators d)
    (cleanSeparators o)
  have hod := @compareIsbns_outcome py pageRange (cleanSeparators o)
    (cleanSeparators d)
  rw [compared_comm (cleanSeparators_idem o) (cleanSeparators_idem d)] at hod
  rw [verifyIsbn_of_ne hd ho]
  constructor
  · rintro ⟨v, hv, hexact⟩
    rw [hv] at hdo
    exact ⟨outcome v, hdo.symm, hexact.confirmed, hexact.conflict⟩
  · rintro ⟨k, hk, hexact⟩
    rw [hk] at hdo hod
    cases hv : compareIsbns py (cleanSeparators d) (cleanSeparators o) pageRange with
    | error e =>
      rw [hv] at hdo
      cases hdo
    | ok v =>
      cases hw : compareIsbns py (cleanSeparators o) (cleanSeparators d) pageRange with
      | error e =>
        rw [hw] at hod
        cases hod
      | ok w =>
        rw [hv, Except.map, Except.ok.injEq] at hdo
        rw [hw, Except.map, Except.ok.injEq] at hod
        rw [← hdo] at hexact
        have hkinds := congrArg Prod.fst (hod.trans hdo.symm)
        have hflags := congrArg (fun p => p.2.1) (hod.trans hdo.symm)
        refine ⟨v, rfl, hexact.confirmed, hexact.conflict, fun _ _ => ⟨w, ?_, hkinds, hflags⟩⟩
        rw [verifyIsbn_of_ne ho hd, hw]

theorem misconverted_clean :
    Misconverted py (cleanSeparators d) (cleanSeparators o) ↔ Misconverted py d o := by
  constructor
  · rintro ⟨hlength, hinvalid, hlength', hvalid, hchars⟩
    rw [cleanSeparators_idem] at hlength hlength'
    rw [cleanSeparators_idem, cleanSeparators_idem] at hchars
    exact ⟨hlength, isbnIsValid_clean d ▸ hinvalid, hlength', isbnIsValid_clean o ▸ hvalid, hchars⟩
  · intro h
    constructor
    · rw [cleanSeparators_idem]
      exact h.length
    · rw [isbnIsValid_clean]
      exact h.invalid
    · rw [cleanSeparators_idem]
      exact h.length'
    · rw [isbnIsValid_clean]
      exact h.valid
    · rw [cleanSeparators_idem, cleanSeparators_idem]
      exact h.chars

theorem outcomeExact_iff :
    (∃ k, compared py (cleanSeparators d) (cleanSeparators o) = .ok k ∧ OutcomeExact d o k) ↔
      ¬(Misconverted py d o ∨ Misconverted py o d ∨ SameIsbn10 d o) := by
  have hsame := denotes_same_iff (d := d) (o := o)
  by_cases hinvalid : isbnIsValid d = false ∧ isbnIsValid o = false
  · -- neither denotes anything
    have hnone : ¬∃ isbn, denotes d = some isbn ∧ denotes o = some isbn := by
      rw [hsame, hinvalid.1]
      simp
    refine iff_of_true ⟨(.ambiguous, [], false), ?_, by simp [hnone], ?_⟩ ?_
    · rw [compared, if_pos (by simp [hinvalid])]
    · intro isbn isbn' hd
      rw [valid_of_denotes hd] at hinvalid
      exact absurd hinvalid.1 (by decide)
    · rintro (hmis | hmis | hten)
      · rw [hmis.valid] at hinvalid
        exact absurd hinvalid.2 (by decide)
      · rw [hmis.valid] at hinvalid
        exact absurd hinvalid.1 (by decide)
      · rw [hten.1] at hinvalid
        exact absurd hinvalid.1 (by decide)
  have hsome : ¬(isbnIsValid d || isbnIsValid o) = false := by
    rwa [Bool.or_eq_false_iff]
  by_cases heq : cleanSeparators d = cleanSeparators o
  · -- both are the same valid text
    have hvalid : isbnIsValid d = isbnIsValid o := by
      rw [← isbnIsValid_clean d, heq, isbnIsValid_clean]
    have hdenotes : denotes d = denotes o := by rw [← denotes_clean d, heq, denotes_clean]
    have hd : isbnIsValid d = true := by
      rw [← hvalid, and_self, Bool.not_eq_false] at hinvalid
      exact hinvalid
    refine iff_of_true ⟨(.confirmed, [], false), ?_, ?_, ?_⟩ ?_
    · rw [compared, isbnIsValid_clean, isbnIsValid_clean, if_neg hsome, if_pos heq]
    · rw [hsame]
      exact iff_of_true rfl ⟨hd, hvalid ▸ hd, hdenotes⟩
    · intro isbn isbn' hisbn hisbn' hne
      rw [hdenotes, hisbn', Option.some.injEq] at hisbn
      exact absurd hisbn.symm hne
    · rintro (hmis | hmis | hten)
      · exact absurd (hmis.invalid.symm.trans (hvalid.trans hmis.valid)) (by decide)
      · exact absurd (hmis.invalid.symm.trans (hvalid.symm.trans hmis.valid)) (by decide)
      · exact hten.2.2.2.2.1 heq
  · have hcross := @crossExact_iff py _ _ (cleanSeparators_idem d) (cleanSeparators_idem o) heq
      (by simpa using hinvalid)
    have hsep : SameIsbn10 (cleanSeparators d) (cleanSeparators o) ↔ SameIsbn10 d o := by
      simp only [SameIsbn10, isbnIsValid_clean, cleanSeparators_idem]
    rw [misconverted_clean, misconverted_clean, hsep] at hcross
    rw [← hcross, CrossExact]
    simp only [compared, isbnIsValid_clean, if_neg hsome, if_neg heq, denotes_clean]
    constructor
    · rintro ⟨k, hk, hexact⟩
      cases hcross : crossFormat py (cleanSeparators d) (cleanSeparators o) with
      | error e =>
        rw [hcross] at hk
        cases hk
      | ok same =>
        rw [hcross, Except.map, Except.ok.injEq] at hk
        refine ⟨same, rfl, ?_⟩
        rw [← hsame, ← hexact.confirmed, ← hk]
        cases same <;> decide
    · rintro ⟨same, hcross, hiff⟩
      rw [hcross, Except.map]
      refine ⟨_, rfl, ?_, ?_⟩
      · rw [hsame, ← hiff]
        cases same <;> decide
      · intro isbn isbn' hd ho hne
        have hsame : same = false := by
          rw [Bool.eq_false_iff]
          intro htrue
          have hdenotes := (hiff.mp htrue).2.2
          rw [hd, ho, Option.some.injEq] at hdenotes
          exact hne hdenotes
        rw [hsame]
        decide

/-! ### A blank text -/

theorem not_valid_of_blank (h : cleanSeparators d = "") : isbnIsValid d = false := by
  rw [← isbnIsValid_clean, h]
  decide

theorem ne_empty_of_valid (h : isbnIsValid d = true) : cleanSeparators d ≠ "" ∧ d ≠ "" := by
  have hne : cleanSeparators d ≠ "" := fun hblank => by
    rw [not_valid_of_blank hblank] at h
    cases h
  refine ⟨hne, ?_⟩
  rintro rfl
  exact hne rfl

theorem verifyIsbn_blank_declared (hd : cleanSeparators d = "") :
    ∃ v, verifyIsbn py (.str d) (.str o) pageRange = .ok v ∧
      v.verdict = (if isbnIsValid o then .missing else .ambiguous) ∧ v.riskFlags = [] := by
  simp only [verifyIsbn, isbnText_str, hd, true_and, if_true, isbnIsValid_clean]
  by_cases ho : cleanSeparators o = ""
  · rw [if_pos ho, not_valid_of_blank ho]
    exact ⟨_, rfl, rfl, rfl⟩
  · rw [if_neg ho]
    split
    · exact ⟨_, rfl, rfl, rfl⟩
    · exact ⟨_, rfl, rfl, rfl⟩

theorem verifyIsbn_blank_observed (ho : cleanSeparators o = "") :
    ∃ v, verifyIsbn py (.str d) (.str o) pageRange = .ok v ∧ v.verdict = .ambiguous ∧
      v.riskFlags = [] := by
  by_cases hd : cleanSeparators d = ""
  · obtain ⟨v, hv, hkind, hflags⟩ := @verifyIsbn_blank_declared py _ o pageRange hd
    rw [not_valid_of_blank ho] at hkind
    exact ⟨v, hv, hkind, hflags⟩
  · simp only [verifyIsbn, isbnText_str, hd, ho, false_and, if_false, if_true]
    exact ⟨_, rfl, rfl, rfl⟩

/-- Next to a blank text there is nothing to confirm, and no conflict. Only the two directions may
differ. -/
theorem blank_exact_iff (h : isbnIsValid d = false ∨ isbnIsValid o = false) {v w : FieldVerdict}
    (hv : verifyIsbn py (.str d) (.str o) pageRange = .ok v)
    (hw : verifyIsbn py (.str o) (.str d) pageRange = .ok w) (hflags : w.riskFlags = v.riskFlags)
    (hconfirmed : v.verdict ≠ .confirmed) :
    (∃ v, verifyIsbn py (.str d) (.str o) pageRange = .ok v ∧ IsbnRuleExact py d o pageRange v) ↔
      (d ≠ "" → o ≠ "" → w.verdict = v.verdict) := by
  have hnone : ∀ isbn isbn', denotes d = some isbn → denotes o = some isbn' → False := by
    intro isbn isbn' hd ho
    rw [valid_of_denotes hd, valid_of_denotes ho] at h
    exact h.elim (fun h => Bool.noConfusion h) fun h => Bool.noConfusion h
  constructor
  · rintro ⟨v', hv', hexact⟩ hd ho
    obtain ⟨w', hw', hkind, -⟩ := hexact.swap hd ho
    rw [hv, Except.ok.injEq] at hv'
    rw [hw, Except.ok.injEq] at hw'
    rw [hv', hw', hkind]
  · intro hkind
    refine ⟨v, hv, ?_, fun _ _ hd ho => (hnone _ _ hd ho).elim, fun hd ho => ?_⟩
    · exact iff_of_false hconfirmed fun ⟨_, hd, ho⟩ => hnone _ _ hd ho
    · exact ⟨w, hw, hkind hd ho, hflags⟩

/-- **The ISBN rule.** It is exact for two texts unless one of them is ten characters with a wrong
checksum that are converted to the other all the same, or that cannot be converted, unless they are
one ISBN-10 with its check digit written in two ways, and unless a text of separators is swapped with
a valid ISBN. -/
theorem isbnRuleExact_iff (py : RuleRuntime) (d o : String) (pageRange : Option String) :
    (∃ v, verifyIsbn py (.str d) (.str o) pageRange = .ok v ∧ IsbnRuleExact py d o pageRange v) ↔
      ¬IsbnPitfall py d o := by
  have hblank : ∀ {a b : String}, cleanSeparators a = "" → ¬Misconverted py a b ∧
      ¬Misconverted py b a ∧ ¬SameIsbn10 a b ∧ ¬SameIsbn10 b a := by
    intro a b ha
    have hinvalid := not_valid_of_blank ha
    refine ⟨fun h => ?_, fun h => ?_, fun h => ?_, fun h => ?_⟩
    · have hlength := h.length
      rw [ha] at hlength
      cases hlength
    · have hlength := h.length'
      rw [ha] at hlength
      cases hlength
    · rw [h.1] at hinvalid
      cases hinvalid
    · rw [h.2.1] at hinvalid
      cases hinvalid
  by_cases hd : cleanSeparators d = ""
  · obtain ⟨v, hv, hkind, hflags⟩ := @verifyIsbn_blank_declared py _ o pageRange hd
    obtain ⟨w, hw, hkind', hflags'⟩ := @verifyIsbn_blank_observed py o _ pageRange hd
    have hdinvalid := not_valid_of_blank hd
    rw [blank_exact_iff (.inl hdinvalid) hv hw (hflags'.trans hflags.symm)
      (by rw [hkind]; split <;> decide), hkind, hkind']
    obtain ⟨hmis, hmis', hsame, -⟩ := hblank (b := o) hd
    simp only [IsbnPitfall, hmis, hmis', hsame, BlankSwap, hd, hdinvalid, false_or, Bool.false_eq_true,
      and_false, or_false, true_and]
    cases ho : isbnIsValid o with
    | true => simp [(ne_empty_of_valid ho).2]
    | false => simp
  · by_cases ho : cleanSeparators o = ""
    · obtain ⟨v, hv, hkind, hflags⟩ := @verifyIsbn_blank_observed py d _ pageRange ho
      obtain ⟨w, hw, hkind', hflags'⟩ := @verifyIsbn_blank_declared py _ d pageRange ho
      have hoinvalid := not_valid_of_blank ho
      rw [blank_exact_iff (.inr hoinvalid) hv hw (hflags'.trans hflags.symm)
        (by rw [hkind]; decide), hkind, hkind']
      obtain ⟨hmis, hmis', -, hsame⟩ := hblank (b := d) ho
      simp only [IsbnPitfall, hmis, hmis', hsame, BlankSwap, ho, hoinvalid, false_or,
        Bool.false_eq_true, and_false, true_and]
      cases hdv : isbnIsValid d with
      | true => simp [(ne_empty_of_valid hdv).2]
      | false => simp
    · rw [exact_iff_outcome hd ho, outcomeExact_iff]
      simp [IsbnPitfall, BlankSwap, hd, ho]

/-- An article number of ten characters next to an ISBN-13: the conversion raises. -/
theorem article_number_raises :
    verifyIsbn .ascii (.str "B00ABCDEFG") (.str "978-0-306-40615-7") none =
        .error ⟨.value, "invalid literal for int() with base 10: 'B'"⟩ ∧
      ¬∃ v, verifyIsbn .ascii (.str "B00ABCDEFG") (.str "978-0-306-40615-7") none = .ok v ∧
        IsbnRuleExact .ascii "B00ABCDEFG" "978-0-306-40615-7" none v := by
  have hraises : verifyIsbn .ascii (.str "B00ABCDEFG") (.str "978-0-306-40615-7") none =
      .error ⟨.value, "invalid literal for int() with base 10: 'B'"⟩ := by rfl
  refine ⟨hraises, ?_⟩
  rintro ⟨v, hv, -⟩
  rw [hraises] at hv
  cases hv

/-- An ISBN-10 with a wrong check digit is confirmed. -/
example : (verifyIsbn .ascii (.str "0306406153") (.str "9780306406157") none).map outcome =
    .ok (.confirmed, [], false) := by rfl

end Bookwarden.Verification
