import Bookwarden.Exceptions
import Bookwarden.Isbn.Canonical

/-!
# The three canonicalizers

Duplicates, consensus and identity each bring an ISBN to its canonical form with a function of their
own: `canonical_isbn13` of `rules/isbn.py`, `to_canonical_isbn13` of the container miner and
`validate_and_convert_isbn` of the entity cleanser. The first two look whether the first nine of ten
characters are digits before they add them up. The third does not, and a text with an `X` among them
makes it raise.

## Main definitions

* `Miner.toCanonicalIsbn13`, `EntityCleanser.validateAndConvertIsbn`
* `LawfulUpper` — what is needed of `str.upper`
* `StrayX` — the texts that the cleanser does not survive

## Main results

* `EntityCleanser.validateAndConvertIsbn_eq`, `EntityCleanser.validateAndConvertIsbn_stray` — what
  the cleanser does
* `canonicalizers_agree_iff` — when the three agree
-/

namespace Bookwarden

/-! ### The functions -/

namespace Miner

/-- `validate_isbn10` of the miner, the text of `isbn10_checksum_valid` again. -/
def validateIsbn10 (s : String) : Bool := isbn10ChecksumValid s

/-- `validate_isbn13` of the miner, the text of `isbn13_checksum_valid` again. -/
def validateIsbn13 (s : String) : Bool := isbn13ChecksumValid s

/-- `to_canonical_isbn13`. -/
def toCanonicalIsbn13 (s : String) : Option String :=
  let clean := upperX (cleanIsbn s)
  if clean.length = 13 && validateIsbn13 (String.ofList clean) then some (String.ofList clean)
  else if clean.length = 10 && validateIsbn10 (String.ofList clean) then
    let body := ['9', '7', '8'] ++ clean.take 9
    some (String.ofList (body ++ [Nat.digitChar ((10 - isbn13Sum body % 10) % 10)]))
  else none

end Miner

/-- The class `[0-9Xx]`. -/
def isIsbnChar (c : Char) : Bool := c.isDigit || c = 'X' || c = 'x'

/-- `int(c)` of one ASCII character. -/
def intOfChar (c : Char) : Except PyError ℕ :=
  if c.isDigit then .ok (digitVal c)
  else .error ⟨.value, "invalid literal for int() with base 10: '" ++ String.ofList [c] ++ "'"⟩

namespace EntityCleanser

/-- `sum(int(clean[i]) * (10 - i) for i in range(9))`. -/
def sumIsbn10 (clean : List Char) : Except PyError ℕ := do
  let terms ← (clean.take 9).zipIdx.mapM fun p => (intOfChar p.1).map fun d => d * (10 - p.2)
  .ok terms.sum

/-- The value of the last of ten characters; `none` is the `-1` of the code. -/
def lastOfIsbn10 (c : Char) : Option ℕ :=
  if c = 'X' then some 10 else if c.isDigit then some (digitVal c) else none

/-- The ten characters with their checksum, converted. -/
def convertIsbn10 (clean : List Char) (s : ℕ) : Option String :=
  match lastOfIsbn10 (clean.getD 9 ' ') with
  | none => none
  | some last =>
    if (s + last) % 11 ≠ 0 then none
    else
      let base := ['9', '7', '8'] ++ clean.take 9
      some (String.ofList (base ++ [Nat.digitChar ((10 - isbn13Sum base % 10) % 10)]))

/-- `validate_and_convert_isbn`. -/
def validateAndConvertIsbn (py : Runtime) (rawIsbn : Option String) :
    Except PyError (Option String) :=
  match rawIsbn with
  | none => .ok none
  | some raw =>
    if raw = "" then .ok none
    else
      let clean := (py.upper raw).toList.filter isIsbnChar
      if clean.length = 10 then (sumIsbn10 clean).map (convertIsbn10 clean)
      else if clean.length = 13 ∧ clean.all Char.isDigit then
        if (10 - isbn13Sum (clean.take 12) % 10) % 10 = digitVal (clean.getD 12 ' ') then
          .ok (some (String.ofList clean))
        else .ok none
      else .ok none

end EntityCleanser

/-- `str.upper` maps every character by itself. Digits and `X` stay, `x` becomes `X`, and nothing
else becomes one of them. -/
def LawfulUpper (py : Runtime) : Prop :=
  ∃ up : Char → List Char, (∀ s, (py.upper s).toList = s.toList.flatMap up) ∧
    (∀ c, isIsbnChar c = true → up c = [if c = 'x' then 'X' else c]) ∧
    ∀ c, isIsbnChar c = false → ∀ d ∈ up c, isIsbnChar d = false

/-- Ten characters are left, and an `X` is not the last of them. -/
def StrayX (s : String) : Prop :=
  (cleanIsbn s).length = 10 ∧ 'X' ∈ (upperX (cleanIsbn s)).take 9

instance (s : String) : Decidable (StrayX s) := inferInstanceAs (Decidable (_ ∧ _))

variable {py : Runtime}

/-! ### Two orders of the same cleaning -/

/-- Upper case before the filter is upper case after it. -/
theorem filter_upper (hpy : LawfulUpper py) (s : String) :
    (py.upper s).toList.filter isIsbnChar = upperX (cleanIsbn s) := by
  obtain ⟨up, hmap, hisbn, hother⟩ := hpy
  rw [hmap, upperX, cleanIsbn]
  show _ = (s.toList.filter isIsbnChar).map _
  induction s.toList with
  | nil => rfl
  | cons c cs ih =>
    rw [List.flatMap_cons, List.filter_append, ih]
    by_cases hc : isIsbnChar c = true
    · have hup : isIsbnChar (if c = 'x' then 'X' else c) = true := by
        split
        · rfl
        · exact hc
      rw [hisbn c hc, List.filter_cons_of_pos hup, List.filter_nil, List.filter_cons_of_pos hc]
      rfl
    · have hnone : (up c).filter isIsbnChar = [] := by
        refine List.filter_eq_nil_iff.mpr fun d hd => ?_
        rw [hother c (Bool.eq_false_iff.mpr hc) d hd]
        exact Bool.false_ne_true
      rw [hnone, List.nil_append, List.filter_cons_of_neg hc]

@[simp] theorem length_upperX (cs : List Char) : (upperX cs).length = cs.length :=
  List.length_map _

/-- A character of a cleaned text that is no digit is an `X`. -/
theorem isDigit_of_mem_clean {s : String} {c : Char} (hc : c ∈ upperX (cleanIsbn s))
    (hX : c ≠ 'X') : c.isDigit = true :=
  (isbnChars_clean s c hc).resolve_right hX

theorem not_strayX_iff {s : String} (h : (cleanIsbn s).length = 10) :
    ¬StrayX s ↔ ∀ c ∈ (upperX (cleanIsbn s)).take 9, c.isDigit = true := by
  have hXdigit : ('X' : Char).isDigit = false := by decide
  constructor
  · intro hstray c hc
    refine isDigit_of_mem_clean (List.mem_of_mem_take hc) ?_
    rintro rfl
    exact hstray ⟨h, hc⟩
  · intro hdigits hstray
    have hX := hdigits 'X' hstray.2
    rw [hXdigit] at hX
    cases hX

/-! ### The canonical form by the cleaned characters -/

theorem validateIsbn_of_upper {s : String} (h : IsIsbn13 (upperX (cleanIsbn s))) :
    validateIsbn s = some (String.ofList (upperX (cleanIsbn s))) := by
  have hchars := isbnChars_clean s
  have hvalid : isbn13ChecksumValid (String.ofList (upperX (cleanIsbn s))) = true := by
    rwa [isbn13ChecksumValid_iff, cleanIsbn_of_chars hchars]
  have hlength := h.1
  rw [length_upperX] at hlength
  simp [validateIsbn, hlength, hvalid]

theorem validateIsbn_eq_none {s : String} (h10 : ¬IsIsbn10 (upperX (cleanIsbn s)))
    (h13 : ¬IsIsbn13 (upperX (cleanIsbn s))) : validateIsbn s = none := by
  have hchars := isbnChars_clean s
  have hten : isbn10ChecksumValid (String.ofList (upperX (cleanIsbn s))) = false := by
    rwa [← Bool.not_eq_true, isbn10ChecksumValid_iff, cleanIsbn_of_chars hchars,
      upperX_of_chars hchars]
  have hthirteen : isbn13ChecksumValid (String.ofList (upperX (cleanIsbn s))) = false := by
    rwa [← Bool.not_eq_true, isbn13ChecksumValid_iff, cleanIsbn_of_chars hchars]
  simp [validateIsbn, hten, hthirteen]

/-- Of ten characters that begin with nine digits, the cleanser's checksum is the canonicalizer's. -/
theorem validateIsbn_of_length10 {s : String} (h10 : (upperX (cleanIsbn s)).length = 10)
    (hdigits : ∀ c ∈ (upperX (cleanIsbn s)).take 9, c.isDigit = true) :
    validateIsbn s = EntityCleanser.convertIsbn10 (upperX (cleanIsbn s))
      (isbn10Sum ((upperX (cleanIsbn s)).take 9)) := by
  have hlast : ((upperX (cleanIsbn s)).getD 9 ' ').isDigit = true ∨
      (upperX (cleanIsbn s)).getD 9 ' ' = 'X' := by
    have hsplit := eq_take_append_getD h10
    refine isbnChars_clean s _ ?_
    rw [hsplit]
    exact List.mem_append_right _ (by rw [← hsplit]; exact List.mem_singleton_self _)
  have hvalue : EntityCleanser.lastOfIsbn10 ((upperX (cleanIsbn s)).getD 9 ' ') =
      some (if (upperX (cleanIsbn s)).getD 9 ' ' = 'X' then 10
        else digitVal ((upperX (cleanIsbn s)).getD 9 ' ')) := by
    rw [EntityCleanser.lastOfIsbn10]
    by_cases hX : (upperX (cleanIsbn s)).getD 9 ' ' = 'X'
    · rw [if_pos hX, if_pos hX]
    · rw [if_neg hX, if_neg hX, if_pos (hlast.resolve_right hX)]
  rw [EntityCleanser.convertIsbn10, hvalue]
  by_cases hvalid : IsIsbn10 (upperX (cleanIsbn s))
  · rw [validateIsbn_of_isbn10 hvalid]
    exact (if_neg (not_not.mpr hvalid.check)).symm
  · have h13 : ¬IsIsbn13 (upperX (cleanIsbn s)) := fun h13 => by
      have hlength := h13.1
      omega
    rw [validateIsbn_eq_none hvalid h13]
    exact (if_pos fun hcheck => hvalid ⟨h10, hdigits, hlast, hcheck⟩).symm

/-! ### The cleanser -/

theorem mapM_ok {α β : Type} {f : α → Except PyError β} {g : α → β} {l : List α}
    (h : ∀ a ∈ l, f a = .ok (g a)) : l.mapM f = .ok (l.map g) := by
  induction l with
  | nil => rfl
  | cons a l ih =>
    rw [List.mapM_cons, h a List.mem_cons_self, ih fun b hb => h b (List.mem_cons_of_mem _ hb)]
    rfl

/-- A loop that raises somewhere raises. -/
theorem mapM_error {α β : Type} {f : α → Except PyError β} {l : List α} {a : α} {e : PyError}
    (ha : a ∈ l) (h : f a = .error e) : ∃ e', l.mapM f = .error e' := by
  induction l with
  | nil => cases ha
  | cons b l ih =>
    rw [List.mapM_cons]
    cases hb : f b with
    | error e' => exact ⟨e', rfl⟩
    | ok v =>
      have hne : a ≠ b := by
        rintro rfl
        rw [h] at hb
        cases hb
      obtain ⟨e', he'⟩ := ih ((List.mem_cons.mp ha).resolve_left hne)
      rw [he']
      exact ⟨e', rfl⟩

namespace EntityCleanser

theorem sumIsbn10_eq {clean : List Char} (h : ∀ c ∈ clean.take 9, c.isDigit = true) :
    sumIsbn10 clean = .ok (isbn10Sum (clean.take 9)) := by
  have hterms : ∀ p ∈ (clean.take 9).zipIdx,
      ((intOfChar p.1).map fun d => d * (10 - p.2)) = .ok (digitVal p.1 * (10 - p.2)) := by
    intro p hp
    rw [intOfChar, if_pos (h p.1 (List.fst_mem_of_mem_zipIdx hp))]
    rfl
  rw [sumIsbn10, mapM_ok hterms]
  rfl

theorem sumIsbn10_error {clean : List Char} (h : 'X' ∈ clean.take 9) :
    ∃ e, sumIsbn10 clean = .error e := by
  obtain ⟨i, hget⟩ := List.mem_iff_getElem?.mp h
  have hi : ('X', i) ∈ (clean.take 9).zipIdx := List.mem_zipIdx_iff_getElem?.mpr hget
  have hraise : intOfChar 'X' = .error ⟨.value, "invalid literal for int() with base 10: 'X'"⟩ :=
    rfl
  obtain ⟨e, he⟩ := mapM_error (f := fun p : Char × ℕ => (intOfChar p.1).map fun d => d * (10 - p.2)) hi
    (by rw [hraise]; rfl)
  exact ⟨e, by rw [sumIsbn10, he]; rfl⟩

/-- On a text with a stray `X` the cleanser raises. -/
theorem validateAndConvertIsbn_stray (hpy : LawfulUpper py) {s : String} (h : StrayX s) :
    ∃ e, validateAndConvertIsbn py (some s) = .error e := by
  have hne : s ≠ "" := by
    rintro rfl
    exact absurd h.1 (by decide)
  obtain ⟨e, he⟩ := sumIsbn10_error h.2
  refine ⟨e, ?_⟩
  simp only [validateAndConvertIsbn, if_neg hne, filter_upper hpy, length_upperX, h.1, he]
  rfl

/-- On any other text it finds the canonical form. -/
theorem validateAndConvertIsbn_eq (hpy : LawfulUpper py) {s : String} (h : ¬StrayX s) :
    validateAndConvertIsbn py (some s) = .ok (validateIsbn s) := by
  by_cases hempty : s = ""
  · rw [hempty]
    rfl
  simp only [validateAndConvertIsbn, if_neg hempty, filter_upper hpy]
  by_cases h10 : (upperX (cleanIsbn s)).length = 10
  · have hdigits := (not_strayX_iff ((length_upperX _).symm.trans h10)).mp h
    rw [if_pos h10, sumIsbn10_eq hdigits, validateIsbn_of_length10 h10 hdigits]
    rfl
  · rw [if_neg h10]
    by_cases hvalid : IsIsbn13 (upperX (cleanIsbn s))
    · have hall : (upperX (cleanIsbn s)).all Char.isDigit = true :=
        List.all_eq_true.mpr hvalid.2.1
      rw [if_pos ⟨hvalid.1, hall⟩, if_pos hvalid.2.2, validateIsbn_of_upper hvalid]
    · rw [validateIsbn_eq_none (fun hten => h10 hten.length) hvalid]
      split
      · rename_i hand
        exact if_neg fun hcheck => hvalid ⟨hand.1, List.all_eq_true.mp hand.2, hcheck⟩
      · rfl

theorem validateAndConvertIsbn_eq_bind (hpy : LawfulUpper py) {raw : Option String}
    (h : ∀ s, raw = some s → ¬StrayX s) :
    validateAndConvertIsbn py raw = .ok (raw.bind validateIsbn) := by
  cases raw with
  | none => rfl
  | some s => exact validateAndConvertIsbn_eq hpy (h s rfl)

end EntityCleanser

/-! ### Agreement -/

/-- The miner looks at the two lengths in the other order. -/
theorem Miner.toCanonicalIsbn13_eq (s : String) : toCanonicalIsbn13 s = validateIsbn s := by
  simp only [toCanonicalIsbn13, validateIsbn, validateIsbn10, validateIsbn13, Bool.and_eq_true,
    decide_eq_true_eq]
  by_cases h13 : (upperX (cleanIsbn s)).length = 13
  · have h10 : ¬(upperX (cleanIsbn s)).length = 10 := by omega
    simp only [h13, true_and, if_neg (fun hand : 13 = 10 ∧ _ => absurd hand.1 (by decide))]
  · simp only [h13, false_and, if_false]

/-- The three canonicalizers return, and return the same, on every text but those that leave ten
characters with an `X` before the last. -/
theorem canonicalizers_agree_iff (hpy : LawfulUpper py) (s : String) :
    (Miner.toCanonicalIsbn13 s = validateIsbn s ∧
      EntityCleanser.validateAndConvertIsbn py (some s) = .ok (validateIsbn s)) ↔ ¬StrayX s := by
  constructor
  · rintro ⟨-, hcleanser⟩ hstray
    obtain ⟨e, he⟩ := EntityCleanser.validateAndConvertIsbn_stray hpy hstray
    rw [he] at hcleanser
    cases hcleanser
  · intro hstray
    exact ⟨Miner.toCanonicalIsbn13_eq s, EntityCleanser.validateAndConvertIsbn_eq hpy hstray⟩

/-- Only the lower case letters have an upper case in ASCII. -/
theorem toUpper_eq_self {c : Char} (h : ¬(97 ≤ c.toNat ∧ c.toNat ≤ 122)) : c.toUpper = c := by
  delta Char.toUpper
  rw [dif_neg]
  rintro ⟨hlow, hhigh⟩
  exact h ⟨UInt32.le_iff_toNat_le.mp hlow, UInt32.le_iff_toNat_le.mp hhigh⟩

theorem lawfulUpper_ascii : LawfulUpper .ascii := by
  have hletters : ∀ n < 123, 97 ≤ n → (Char.ofNat n = 'x' ∧ (Char.ofNat n).toUpper = 'X') ∨
      (isIsbnChar (Char.ofNat n) = false ∧ isIsbnChar (Char.ofNat n).toUpper = false) := by
    decide
  have hletter : ∀ c : Char, 97 ≤ c.toNat ∧ c.toNat ≤ 122 → (c = 'x' ∧ c.toUpper = 'X') ∨
      (isIsbnChar c = false ∧ isIsbnChar c.toUpper = false) := by
    intro c hc
    have hcase := hletters c.toNat (by omega) hc.1
    rwa [Char.ofNat_toNat] at hcase
  refine ⟨fun c => [c.toUpper], fun s => ?_, fun c hc => ?_, fun c hc d hd => ?_⟩
  · show (String.ofList (s.toList.map Char.toUpper)).toList = _
    rw [String.toList_ofList, List.map_eq_flatMap]
  · by_cases hrange : 97 ≤ c.toNat ∧ c.toNat ≤ 122
    · rcases hletter c hrange with ⟨rfl, -⟩ | ⟨hnot, -⟩
      · rfl
      · rw [hnot] at hc
        cases hc
    · have hx : c ≠ 'x' := by
        rintro rfl
        exact hrange (by decide)
      show [c.toUpper] = _
      rw [toUpper_eq_self hrange, if_neg hx]
  · rw [List.mem_singleton.mp hd]
    by_cases hrange : 97 ≤ c.toNat ∧ c.toNat ≤ 122
    · rcases hletter c hrange with ⟨rfl, -⟩ | ⟨-, hupper⟩
      · cases hc
      · exact hupper
    · rwa [toUpper_eq_self hrange]

theorem canonicalizers_agree_isbn10 :
    Miner.toCanonicalIsbn13 "0-306-40615-2" = validateIsbn "0-306-40615-2" ∧
      EntityCleanser.validateAndConvertIsbn .ascii (some "0-306-40615-2") =
        .ok (validateIsbn "0-306-40615-2") :=
  (canonicalizers_agree_iff lawfulUpper_ascii "0-306-40615-2").mpr (by decide)

/-- Ten characters with an `X` in front: two canonicalizers find no ISBN, the third raises. -/
theorem cleanser_raises_on_stray_x :
    validateIsbn "X306406152" = none ∧ Miner.toCanonicalIsbn13 "X306406152" = none ∧
      EntityCleanser.validateAndConvertIsbn .ascii (some "X306406152") =
        .error ⟨.value, "invalid literal for int() with base 10: 'X'"⟩ := by
  decide

end Bookwarden
