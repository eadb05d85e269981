import Bookwarden.Identity.Identifiers

/-!
# What a canonical ISBN is

The auditor compares editions by the canonical ISBN-13 of whatever text it finds. This file says
what an ISBN-13 is, independently of the program, and which texts get a canonical form that is one.

An ISBN-10 becomes an ISBN-13 of the prefix 978, and two of them with one canonical form are the same
ISBN-10. Thirteen digits are taken as they are, whatever their prefix: an article number of another
system has the same checksum, and is accepted.

## Main definitions

* `IsIsbn` — an ISBN-13
* `LawfulIsbn` — the laws that a text obeys under `canonical_isbn13`

## Main results

* `lawfulIsbn_iff` — a text obeys them unless it is an article number that is no ISBN
-/

namespace Bookwarden

/-! ### ISBN-13 -/

/-- The prefixes of the ISBN ranges. -/
def Bookland (cs : List Char) : Prop :=
  cs.take 3 = ['9', '7', '8'] ∨ cs.take 3 = ['9', '7', '9']

instance (cs : List Char) : Decidable (Bookland cs) := inferInstanceAs (Decidable (_ ∨ _))

/-- An ISBN-13: thirteen digits in the ISBN ranges whose sum with the weights 1 and 3 is a multiple
of 10. -/
structure IsIsbn (s : String) : Prop where
  length : s.toList.length = 13
  digits : ∀ c ∈ s.toList, c.isDigit = true
  range : Bookland s.toList
  check : isbn13Sum s.toList % 10 = 0

/-- What is asked of `canonical_isbn13` at a text. -/
structure LawfulIsbn (s : String) : Prop where
  /-- A canonical form is an ISBN-13. -/
  isbn : ∀ canonical, validateIsbn s = some canonical → IsIsbn canonical
  /-- It is its own canonical form. -/
  fixed : ∀ canonical, validateIsbn s = some canonical → validateIsbn canonical = some canonical
  /-- Every valid ISBN has one. -/
  defined : isbn10ChecksumValid s = true ∨ isbn13ChecksumValid s = true →
    (validateIsbn s).isSome = true
  /-- No other ISBN-10 has the same one. -/
  distinct : isbn10ChecksumValid s = true → ∀ t, isbn10ChecksumValid t = true →
    validateIsbn s = validateIsbn t → upperX (cleanIsbn s) = upperX (cleanIsbn t)

/-! ### Sums -/

theorem isbn13Sum_append (cs : List Char) (c : Char) :
    isbn13Sum (cs ++ [c]) =
      isbn13Sum cs + digitVal c * (if cs.length % 2 = 0 then 1 else 3) := by
  simp [isbn13Sum, List.zipIdx_append]

theorem isDigit_bounds {c : Char} (h : c.isDigit = true) : 48 ≤ c.toNat ∧ c.toNat ≤ 57 := by
  simpa [Char.isDigit, UInt32.le_iff_toNat_le] using h

theorem digitVal_le {c : Char} (h : c.isDigit = true) : digitVal c ≤ 9 := by
  have hbounds := isDigit_bounds h
  rw [digitVal]
  omega

theorem digitVal_inj {c d : Char} (hc : c.isDigit = true) (hd : d.isDigit = true)
    (h : digitVal c = digitVal d) : c = d := by
  have hcb := isDigit_bounds hc
  have hdb := isDigit_bounds hd
  rw [digitVal, digitVal] at h
  exact Char.toNat_inj.mp (by omega)

/-- The last of the characters is the one that is looked up. -/
theorem eq_take_append_getD {cs : List Char} {n : ℕ} (h : cs.length = n + 1) :
    cs = cs.take n ++ [cs.getD n ' '] := by
  have hn : n < cs.length := by omega
  have hget : cs.getD n ' ' = cs[n] := by
    rw [List.getD_eq_getElem?_getD, List.getElem?_eq_getElem (by omega), Option.getD_some]
  have hdrop : cs.drop n = [cs.getD n ' '] := by
    rw [hget, List.drop_eq_getElem_cons (by omega), List.drop_of_length_le (by omega)]
  rw [← hdrop, List.take_append_drop]

/-- The last digit is the right one exactly when the weighted sum is a multiple of 10. -/
theorem IsIsbn13.check {cs : List Char} (h : IsIsbn13 cs) : isbn13Sum cs % 10 = 0 := by
  obtain ⟨hlen, hdigits, hcheck⟩ := h
  have hsplit := eq_take_append_getD hlen
  have hlast : cs.getD 12 ' ' ∈ cs := by
    have hmem : cs.getD 12 ' ' ∈ cs.take 12 ++ [cs.getD 12 ' '] :=
      List.mem_append_right _ (List.mem_singleton_self _)
    rwa [← hsplit] at hmem
  have hval := digitVal_le (hdigits _ hlast)
  have hsum : isbn13Sum cs = isbn13Sum (cs.take 12) + digitVal (cs.getD 12 ' ') := by
    conv_lhs => rw [hsplit]
    rw [isbn13Sum_append]
    simp [hlen]
  rw [hsum]
  omega

/-! ### ISBN-10 -/

/-- A valid ISBN-10: nine digits and the character that makes the weighted sum a multiple of 11. -/
structure IsIsbn10 (cs : List Char) : Prop where
  length : cs.length = 10
  digits : ∀ c ∈ cs.take 9, c.isDigit = true
  last : (cs.getD 9 ' ').isDigit = true ∨ cs.getD 9 ' ' = 'X'
  check : (isbn10Sum (cs.take 9) + (if cs.getD 9 ' ' = 'X' then 10 else digitVal (cs.getD 9 ' '))) % 11
    = 0

theorem isbn10ChecksumValid_iff (s : String) :
    isbn10ChecksumValid s = true ↔ IsIsbn10 (upperX (cleanIsbn s)) := by
  simp only [isbn10ChecksumValid, Bool.and_eq_true, Bool.or_eq_true, decide_eq_true_eq,
    List.all_eq_true]
  constructor
  · rintro ⟨⟨⟨hlen, hdigits⟩, hlast⟩, hcheck⟩
    exact ⟨hlen, hdigits, hlast, hcheck⟩
  · rintro ⟨hlen, hdigits, hlast, hcheck⟩
    exact ⟨⟨⟨hlen, hdigits⟩, hlast⟩, hcheck⟩

/-- The first nine digits determine the last character. -/
theorem IsIsbn10.eq_of_take {cs ds : List Char} (hc : IsIsbn10 cs) (hd : IsIsbn10 ds)
    (h : cs.take 9 = ds.take 9) : cs = ds := by
  have hcheck := hc.check
  have hcheck' := hd.check
  rw [h] at hcheck
  have hlast : cs.getD 9 ' ' = ds.getD 9 ' ' := by
    have hX : ('X' : Char).isDigit = false := by decide
    rcases hc.last with hcl | hcl <;> rcases hd.last with hdl | hdl
    · have hcX : cs.getD 9 ' ' ≠ 'X' := fun hx => by rw [hx, hX] at hcl; cases hcl
      have hdX : ds.getD 9 ' ' ≠ 'X' := fun hx => by rw [hx, hX] at hdl; cases hdl
      rw [if_neg hcX] at hcheck
      rw [if_neg hdX] at hcheck'
      have hcle := digitVal_le hcl
      have hdle := digitVal_le hdl
      exact digitVal_inj hcl hdl (by omega)
    · have hcX : cs.getD 9 ' ' ≠ 'X' := fun hx => by rw [hx, hX] at hcl; cases hcl
      rw [if_neg hcX] at hcheck
      rw [if_pos hdl] at hcheck'
      have hcle := digitVal_le hcl
      omega
    · have hdX : ds.getD 9 ' ' ≠ 'X' := fun hx => by rw [hx, hX] at hdl; cases hdl
      rw [if_pos hcl] at hcheck
      rw [if_neg hdX] at hcheck'
      have hdle := digitVal_le hdl
      omega
    · rw [hcl, hdl]
  rw [eq_take_append_getD hc.length, eq_take_append_getD hd.length, h, hlast]

/-! ### The canonical form -/

/-- The canonical form of a text: that of an ISBN-10, or the thirteen digits themselves. -/
theorem validateIsbn_of_isbn10 {s : String} (h : IsIsbn10 (upperX (cleanIsbn s))) :
    validateIsbn s = some (String.ofList (['9', '7', '8'] ++ (upperX (cleanIsbn s)).take 9 ++
      [Nat.digitChar ((10 - isbn13Sum (['9', '7', '8'] ++ (upperX (cleanIsbn s)).take 9) % 10) % 10)]))
    := by
  have hchars := isbnChars_clean s
  have hvalid : isbn10ChecksumValid (String.ofList (upperX (cleanIsbn s))) = true := by
    rwa [isbn10ChecksumValid_iff, cleanIsbn_of_chars hchars, upperX_of_chars hchars]
  simp [validateIsbn, h.length, hvalid]

theorem isbn13ChecksumValid_iff (s : String) :
    isbn13ChecksumValid s = true ↔ IsIsbn13 (cleanIsbn s) := by
  simp only [isbn13ChecksumValid, Bool.and_eq_true, decide_eq_true_eq, List.all_eq_true]
  exact and_assoc

theorem upperX_of_isbn13 {s : String} (h : IsIsbn13 (cleanIsbn s)) :
    upperX (cleanIsbn s) = cleanIsbn s := upperX_of_chars h.chars

theorem validateIsbn_of_isbn13 {s : String} (h : IsIsbn13 (cleanIsbn s)) :
    validateIsbn s = some (String.ofList (cleanIsbn s)) := by
  have hvalid := h.validate
  have hclean := cleanIsbn_of_chars h.chars
  rw [validateIsbn, hclean] at hvalid
  rwa [validateIsbn]

/-- Thirteen digits are an ISBN if and only if their prefix is one. -/
theorem isIsbn_of_isbn13 {cs : List Char} (h : IsIsbn13 cs) :
    IsIsbn (String.ofList cs) ↔ Bookland cs := by
  constructor
  · intro hisbn
    have hrange := hisbn.range
    rwa [String.toList_ofList] at hrange
  · intro hrange
    have hcheck := h.check
    rw [← String.toList_ofList (l := cs)] at h hrange hcheck
    exact ⟨h.1, h.2.1, hrange, hcheck⟩

/-- A text without a valid ISBN has no canonical form. -/
theorem valid_of_validateIsbn {s canonical : String} (h : validateIsbn s = some canonical) :
    IsIsbn10 (upperX (cleanIsbn s)) ∨ IsIsbn13 (cleanIsbn s) := by
  have hchars := isbnChars_clean s
  simp only [validateIsbn] at h
  split at h
  · rename_i hten
    rw [Bool.and_eq_true] at hten
    have hvalid := (isbn10ChecksumValid_iff _).mp hten.2
    rw [cleanIsbn_of_chars hchars, upperX_of_chars hchars] at hvalid
    exact .inl hvalid
  · split at h
    · rename_i hthirteen
      rw [Bool.and_eq_true] at hthirteen
      have hvalid := (isbn13ChecksumValid_iff _).mp hthirteen.2
      rw [cleanIsbn_of_chars hchars] at hvalid
      -- an upper-case `X` would be no digit, so nothing was turned into upper case
      have hsame : upperX (cleanIsbn s) = cleanIsbn s := by
        rw [upperX]
        refine (List.map_congr_left fun c hc => ?_).trans (List.map_id _)
        by_cases hx : c = 'x'
        · have hX : 'X' ∈ upperX (cleanIsbn s) :=
            List.mem_map.mpr ⟨c, hc, if_pos hx⟩
          exact absurd (hvalid.2.1 'X' hX) (by decide)
        · rw [if_neg hx, id]
      rw [hsame] at hvalid
      exact .inr hvalid
    · cases h

/-- What is asked of the canonical form, where the text is no article number outside the ISBN
ranges. -/
theorem isIsbn_of_validate {s canonical : String} (h : validateIsbn s = some canonical)
    (hrange : isbn13ChecksumValid s = true → Bookland (cleanIsbn s)) : IsIsbn canonical := by
  have hthirteen := isIsbn13_of_validate h
  rw [← String.ofList_toList (s := canonical), isIsbn_of_isbn13 hthirteen]
  rcases valid_of_validateIsbn h with hten | hvalid
  · rw [validateIsbn_of_isbn10 hten, Option.some.injEq] at h
    rw [← h, String.toList_ofList]
    exact .inl rfl
  · rw [validateIsbn_of_isbn13 hvalid, Option.some.injEq] at h
    rw [← h, String.toList_ofList]
    exact hrange ((isbn13ChecksumValid_iff s).mpr hvalid)

/-- Two valid ISBN-10 with one canonical form are one ISBN-10. -/
theorem isbn10_eq_of_validateIsbn {s t : String} (hs : isbn10ChecksumValid s = true)
    (ht : isbn10ChecksumValid t = true) (h : validateIsbn s = validateIsbn t) :
    upperX (cleanIsbn s) = upperX (cleanIsbn t) := by
  rw [isbn10ChecksumValid_iff] at hs ht
  rw [validateIsbn_of_isbn10 hs, validateIsbn_of_isbn10 ht, Option.some.injEq] at h
  have hlist := String.ofList_injective h
  have hlength : (['9', '7', '8'] ++ (upperX (cleanIsbn s)).take 9).length =
      (['9', '7', '8'] ++ (upperX (cleanIsbn t)).take 9).length := by
    simp [hs.length, ht.length]
  have hbody := (List.append_inj hlist hlength).1
  exact hs.eq_of_take ht (List.append_cancel_left hbody)

/-- **Canonical ISBNs.** A text obeys the laws if and only if it is no valid thirteen-digit number
outside the ISBN ranges. -/
theorem lawfulIsbn_iff (s : String) :
    LawfulIsbn s ↔ (isbn13ChecksumValid s = true → Bookland (cleanIsbn s)) := by
  constructor
  · intro h hvalid
    have hthirteen := (isbn13ChecksumValid_iff s).mp hvalid
    exact (isIsbn_of_isbn13 hthirteen).mp (h.isbn _ (validateIsbn_of_isbn13 hthirteen))
  · intro hrange
    refine ⟨fun _ h => isIsbn_of_validate h hrange, fun _ h => validateIsbn_idem h, ?_,
      fun hs _ ht h => isbn10_eq_of_validateIsbn hs ht h⟩
    rintro (hten | hthirteen)
    · rw [validateIsbn_of_isbn10 ((isbn10ChecksumValid_iff s).mp hten)]
      rfl
    · rw [validateIsbn_of_isbn13 ((isbn13ChecksumValid_iff s).mp hthirteen)]
      rfl

/-- The article number of a pencil is accepted as an ISBN. -/
theorem article_number_accepted :
    validateIsbn "4006381333931" = some "4006381333931" ∧ ¬ IsIsbn "4006381333931" := by
  refine ⟨by decide +kernel, fun h => ?_⟩
  exact absurd h.range (by decide)

end Bookwarden
