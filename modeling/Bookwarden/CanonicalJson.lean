import Bookwarden.Lib.Delimited
import Bookwarden.Python

/-!
# What the canonical text determines

`json.dumps` with sorted keys and no spaces writes two values alike exactly when they are the same
value but for the order of keys. The texts of numbers end where a separator begins, strings end at
their closing quote because a quote inside is escaped, and lists and objects end at their bracket;
so the text of a value, in front of anything that can follow it in a JSON text, determines the value
and where it ends.

How a float is printed is the runtime's. `FloatText` says what is needed of it.

## Main definitions

* `FloatText` — floats have their own number texts
* `Json.canon` — the value with the keys of every object in order

## Main results

* `quoteChars_append_inj` — a quoted string
* `dumps_inj` — values with the same canonical text are equal up to the order of keys
* `hashJson_inj` — so are values with the same hash, when SHA-256 has no collision
-/

namespace Bookwarden

open Delimited

/-! ### Decimal texts -/

theorem digitChar_inj {a b : ℕ} (ha : a < 16) (hb : b < 16) (h : Nat.digitChar a = Nat.digitChar b) :
    a = b := by
  have hall : ∀ a < 16, ∀ b < 16, Nat.digitChar a = Nat.digitChar b → a = b := by decide
  exact hall a ha b hb h

theorem toDigits_inj {m n : ℕ} (h : Nat.toDigits 10 m = Nat.toDigits 10 n) : m = n := by
  induction m using Nat.strong_induction_on generalizing n with
  | _ m ih =>
    by_cases hm : m < 10
    · rw [Nat.toDigits_of_lt_base hm] at h
      by_cases hn : n < 10
      · rw [Nat.toDigits_of_lt_base hn, List.cons.injEq] at h
        exact digitChar_inj (by omega) (by omega) h.1
      · rw [Nat.toDigits_of_base_le (by omega) (by omega)] at h
        have hlen := congrArg List.length h
        have hpos : 0 < (Nat.toDigits 10 (n / 10)).length := Nat.length_toDigits_pos
        simp only [List.length_singleton, List.length_append] at hlen
        omega
    · rw [Nat.toDigits_of_base_le (by omega) (by omega)] at h
      by_cases hn : n < 10
      · rw [Nat.toDigits_of_lt_base hn] at h
        have hlen := congrArg List.length h
        have hpos : 0 < (Nat.toDigits 10 (m / 10)).length := Nat.length_toDigits_pos
        simp only [List.length_singleton, List.length_append] at hlen
        omega
      · rw [Nat.toDigits_of_base_le (by omega : 1 < 10) (by omega : 10 ≤ n)] at h
        obtain ⟨hdiv, hmod⟩ := List.append_inj' h rfl
        have hdiv' : m / 10 = n / 10 := ih (m / 10) (by omega) hdiv
        have hmod' : m % 10 = n % 10 := digitChar_inj (by omega) (by omega) (List.cons.inj hmod).1
        omega

/-- The text of an integer: a minus sign for a negative one, then digits. -/
theorem toList_toString_int (n : ℤ) :
    (toString n).toList = if n < 0 then '-' :: Nat.toDigits 10 n.natAbs
      else Nat.toDigits 10 n.natAbs := by
  cases n with
  | ofNat k =>
    rw [if_neg (by simp)]
    exact Nat.toList_repr
  | negSucc k =>
    rw [if_pos (Int.negSucc_lt_zero k)]
    show ("-" ++ Nat.repr (k + 1)).toList = _
    rw [String.toList_append, Nat.toList_repr]
    rfl

/-- A character of a decimal text. -/
theorem mem_toString_int {n : ℤ} {c : Char} (h : c ∈ (toString n).toList) :
    c = '-' ∨ c.isDigit = true := by
  have hdigit : c ∈ Nat.toDigits 10 n.natAbs → c.isDigit = true := fun h =>
    Nat.isDigit_of_mem_toDigits (by decide) (by decide) h
  rw [toList_toString_int] at h
  split at h
  · exact (List.mem_cons.mp h).imp_right hdigit
  · exact .inr (hdigit h)

theorem toString_int_ne_nil (n : ℤ) : (toString n).toList ≠ [] := by
  rw [toList_toString_int]
  split
  · exact List.cons_ne_nil _ _
  · exact Nat.toDigits_ne_nil

theorem toString_int_inj {m n : ℤ} (h : (toString m).toList = (toString n).toList) : m = n := by
  have hminus : ∀ k l : ℕ, '-' :: Nat.toDigits 10 k ≠ Nat.toDigits 10 l := by
    intro k l h
    have hdigit := Nat.isDigit_of_mem_toDigits (by decide) (by decide)
      (h ▸ List.mem_cons_self .. : '-' ∈ Nat.toDigits 10 l)
    exact absurd hdigit (by decide)
  rw [toList_toString_int, toList_toString_int] at h
  split at h
  · split at h
    · have habs := toDigits_inj (List.cons.inj h).2
      omega
    · exact absurd h (hminus _ _)
  · split at h
    · exact absurd h.symm (hminus _ _)
    · have habs := toDigits_inj h
      omega

/-! ### Quoted strings -/

theorem hex4_append_inj {m n : ℕ} (hm : m < 0x10000) (hn : n < 0x10000) {x y : List Char}
    (h : hex4 m ++ x = hex4 n ++ y) : m = n ∧ x = y := by
  obtain ⟨hhex, hrest⟩ := List.append_inj h rfl
  simp only [hex4, List.cons.injEq, and_true] at hhex
  have h₁ := digitChar_inj (by omega) (by omega) hhex.1
  have h₂ := digitChar_inj (by omega) (by omega) hhex.2.1
  have h₃ := digitChar_inj (by omega) (by omega) hhex.2.2.1
  have h₄ := digitChar_inj (by omega) (by omega) hhex.2.2.2
  exact ⟨by omega, hrest⟩

/-- What a backslash and one letter stand for. -/
def unescape : Char → Option ℕ
  | '"' => some 34
  | '\\' => some 92
  | 'n' => some 10
  | 'r' => some 13
  | 't' => some 9
  | 'b' => some 8
  | 'f' => some 12
  | _ => none

/-- The four shapes of an escaped character. -/
inductive Escaped (c : Char) : List Char → Prop
  | plain (hquote : c ≠ '"') (hslash : c ≠ '\\') : Escaped c [c]
  | short (e : Char) (he : unescape e = some c.toNat) : Escaped c ['\\', e]
  | unit (h : c.toNat < 0x10000) : Escaped c ('\\' :: 'u' :: hex4 c.toNat)
  | pair (h : 0x10000 ≤ c.toNat) : Escaped c ('\\' :: 'u' ::
      (hex4 (0xD800 + (c.toNat - 0x10000) / 1024)
        ++ '\\' :: 'u' :: hex4 (0xDC00 + (c.toNat - 0x10000) % 1024)))

theorem escapeChar_escaped (c : Char) : Escaped c (escapeChar c) := by
  rw [escapeChar]
  split_ifs with hquote hslash hn hr ht hb hf hplain hunit
  · exact .short '"' (by rw [hquote]; rfl)
  · exact .short '\\' (by rw [hslash]; rfl)
  · exact .short 'n' (by rw [hn]; rfl)
  · exact .short 'r' (by rw [hr]; rfl)
  · exact .short 't' (by rw [ht]; rfl)
  · exact .short 'b' (by rw [hb]; rfl)
  · exact .short 'f' (by rw [hf]; rfl)
  · exact .plain hquote hslash
  · exact .unit hunit
  · exact .pair (Nat.le_of_not_lt hunit)

theorem char_toNat_bound (c : Char) : c.toNat < 0x110000 ∧ (c.toNat < 0xD800 ∨ 0xDFFF < c.toNat) := by
  rcases c.valid with h | h
  · exact ⟨by have : c.toNat < 0xD800 := h; omega, .inl h⟩
  · exact ⟨h.2, .inr h.1⟩

theorem char_eq_of_toNat {c d : Char} (h : c.toNat = d.toNat) : c = d := Char.toNat_inj.mp h

/-- The shapes form a prefix code. -/
theorem Escaped.append_inj {c d : Char} {u v x y : List Char} (hu : Escaped c u) (hv : Escaped d v)
    (h : u ++ x = v ++ y) : c = d ∧ x = y := by
  have hnone : unescape 'u' = none := rfl
  cases hu with
  | plain hquote hslash =>
    cases hv with
    | plain _ _ =>
      obtain ⟨hcd, hxy⟩ := List.cons.inj h
      exact ⟨hcd, hxy⟩
    | short e he => exact absurd (List.cons.inj h).1 hslash
    | unit hd => exact absurd (List.cons.inj h).1 hslash
    | pair hd => exact absurd (List.cons.inj h).1 hslash
  | short e he =>
    cases hv with
    | plain hquote hslash => exact absurd (List.cons.inj h).1.symm hslash
    | short e' he' =>
      obtain ⟨hee, hxy⟩ := List.cons.inj (List.cons.inj h).2
      rw [hee, he'] at he
      exact ⟨char_eq_of_toNat (Option.some.inj he).symm, hxy⟩
    | unit hd =>
      rw [(List.cons.inj (List.cons.inj h).2).1, hnone] at he
      exact absurd he (by simp)
    | pair hd =>
      rw [(List.cons.inj (List.cons.inj h).2).1, hnone] at he
      exact absurd he (by simp)
  | unit hc =>
    cases hv with
    | plain hquote hslash => exact absurd (List.cons.inj h).1.symm hslash
    | short e' he' =>
      rw [← (List.cons.inj (List.cons.inj h).2).1, hnone] at he'
      exact absurd he' (by simp)
    | unit hd =>
      obtain ⟨hcd, hxy⟩ := hex4_append_inj hc hd (List.cons.inj (List.cons.inj h).2).2
      exact ⟨char_eq_of_toNat hcd, hxy⟩
    | pair hd =>
      -- no character is a surrogate
      have hdbound := char_toNat_bound d
      have hcbound := char_toNat_bound c
      simp only [List.cons_append, List.append_assoc, List.cons.injEq, true_and] at h
      obtain ⟨hcd, -⟩ := hex4_append_inj hc (by omega) h
      omega
  | pair hc =>
    have hcbound := char_toNat_bound c
    cases hv with
    | plain hquote hslash => exact absurd (List.cons.inj h).1.symm hslash
    | short e' he' =>
      rw [← (List.cons.inj (List.cons.inj h).2).1, hnone] at he'
      exact absurd he' (by simp)
    | unit hd =>
      have hdbound := char_toNat_bound d
      simp only [List.cons_append, List.append_assoc, List.cons.injEq, true_and] at h
      obtain ⟨hcd, -⟩ := hex4_append_inj (by omega) hd h
      omega
    | pair hd =>
      have hdbound := char_toNat_bound d
      simp only [List.cons_append, List.append_assoc, List.cons.injEq, true_and] at h
      obtain ⟨hhigh, hmore⟩ := hex4_append_inj (by omega) (by omega) h
      simp only [List.cons.injEq, true_and] at hmore
      obtain ⟨hlow, hxy⟩ := hex4_append_inj (by omega) (by omega) hmore
      exact ⟨char_eq_of_toNat (by omega), hxy⟩

theorem Escaped.ne_quote {c : Char} {u x y : List Char} (hu : Escaped c u) :
    u ++ x ≠ '"' :: y := by
  cases hu with
  | plain hquote _ => exact fun h => hquote (List.cons.inj h).1
  | short e _ => exact fun h => absurd (List.cons.inj h).1 (by decide)
  | unit _ => exact fun h => absurd (List.cons.inj h).1 (by decide)
  | pair _ => exact fun h => absurd (List.cons.inj h).1 (by decide)

/-- A quoted string determines the string and its end. -/
theorem quoteChars_append_inj {s t : String} {r r' : List Char}
    (h : quoteChars s ++ r = quoteChars t ++ r') : s = t ∧ r = r' := by
  rw [quoteChars, quoteChars, List.cons_append, List.cons_append, List.append_assoc,
    List.append_assoc, List.singleton_append, List.singleton_append] at h
  obtain ⟨hst, hr⟩ := flatMap_append_inj
    (fun a b _ _ h => (escapeChar_escaped a).append_inj (escapeChar_escaped b) h)
    (fun a _ _ => (escapeChar_escaped a).ne_quote) (List.cons.inj h).2
  exact ⟨String.toList_inj.mp hst, hr⟩

/-! ### Values -/

/-- Floats are printed as number texts of their own: not empty, with the first character of no other
value and without a separator, distinct, and none the text of an integer. -/
structure FloatText (py : Runtime) : Prop where
  lead : ∀ q, ∃ c rest, (py.floatRepr q).toList = c :: rest ∧ (c = '-' ∨ c.isDigit = true)
  token : ∀ q, ∀ c ∈ (py.floatRepr q).toList, c ≠ ',' ∧ c ≠ ']' ∧ c ≠ '\x7d'
  injective : Function.Injective py.floatRepr
  notInt : ∀ q (n : ℤ), py.floatRepr q ≠ toString n

namespace Json

/-- Keys in the order `sort_keys` writes them. -/
abbrev keyLe {ρ : Type} (a b : String × ρ) : Prop := a.1.toList ≤ b.1.toList

mutual

/-- The value with the keys of every object in order. -/
def canon : Json → Json
  | arr xs => arr (canonList xs)
  | obj kvs => obj ((canonEntries kvs).insertionSort keyLe)
  | v => v

def canonList : List Json → List Json
  | [] => []
  | x :: xs => canon x :: canonList xs

def canonEntries : Dict → Dict
  | [] => []
  | (k, v) :: kvs => (k, canon v) :: canonEntries kvs

end

theorem canonList_eq_map (xs : List Json) : canonList xs = xs.map canon := by
  induction xs with
  | nil => rfl
  | cons x xs ih => rw [canonList, ih, List.map_cons]

theorem canonEntries_eq_map (kvs : Dict) : canonEntries kvs = kvs.map fun p => (p.1, canon p.2) := by
  induction kvs with
  | nil => rfl
  | cons p kvs ih =>
    obtain ⟨k, v⟩ := p
    rw [canonEntries, ih, List.map_cons]

/-- Sorting the canonical entries is sorting the entries. -/
theorem canon_obj (kvs : Dict) :
    canon (.obj kvs) = .obj ((kvs.insertionSort keyLe).map fun p => (p.1, canon p.2)) := by
  rw [canon, canonEntries_eq_map,
    List.map_insertionSort keyLe keyLe (fun p : String × Json => (p.1, canon p.2)) kvs
      fun a _ b _ => Iff.rfl]

end Json

variable {py : Runtime}

theorem dumpsList_eq_map (xs : List Json) : dumpsList py xs = xs.map (dumpsChars py) := by
  induction xs with
  | nil => rw [dumpsList, List.map_nil]
  | cons x xs ih => rw [dumpsList, ih, List.map_cons]

variable (py) in
/-- The text of one entry. -/
def entryChars (p : String × Json) : List Char := quoteChars p.1 ++ ':' :: dumpsChars py p.2

theorem dumpsEntries_eq_map (kvs : Dict) :
    dumpsEntries py kvs = kvs.map fun p => (p.1.toList, entryChars py p) := by
  induction kvs with
  | nil => rw [dumpsEntries, List.map_nil]
  | cons p kvs ih =>
    obtain ⟨k, v⟩ := p
    rw [dumpsEntries, ih, List.map_cons]
    rfl

/-- An object is written as its entries in the order of their keys. -/
theorem dumpsChars_obj (kvs : Dict) : dumpsChars py (.obj kvs)
    = '\x7b' :: ([','].intercalate ((kvs.insertionSort Json.keyLe).map (entryChars py))
        ++ ['\x7d']) := by
  have hsort := List.map_insertionSort Json.keyLe (fun a b : List Char × List Char => a.1 ≤ b.1)
    (fun p : String × Json => (p.1.toList, entryChars py p)) kvs fun a _ b _ => Iff.rfl
  rw [dumpsChars]
  simp only [dumpsEntries_eq_map]
  rw [← hsort, List.map_map]
  rfl

theorem dumpsChars_arr (xs : List Json) : dumpsChars py (.arr xs)
    = '[' :: ([','].intercalate (xs.map (dumpsChars py)) ++ [']']) := by
  rw [dumpsChars, dumpsList_eq_map]

/-- What the first character of a text says about the value: its constructor, with one class for
all numbers. -/
def leadClass (c : Char) : ℕ :=
  if c = 'n' then 0 else if c = 't' ∨ c = 'f' then 1 else if c = '"' then 3
  else if c = '[' then 4 else if c = '\x7b' then 5 else 2

/-- The class of a value. -/
def Json.shape : Json → ℕ
  | null => 0
  | bool _ => 1
  | int _ | float _ => 2
  | str _ => 3
  | arr _ => 4
  | obj _ => 5

theorem leadClass_number {c : Char} (h : c = '-' ∨ c.isDigit = true) : leadClass c = 2 := by
  have hne : ∀ d ∈ ['n', 't', 'f', '"', '[', '\x7b'], c ≠ d := by
    rintro d hd rfl
    rcases h with rfl | h
    · exact absurd hd (by decide)
    · simp only [List.mem_cons, List.not_mem_nil, or_false] at hd
      rcases hd with rfl | rfl | rfl | rfl | rfl | rfl <;> exact absurd h (by decide)
  simp only [List.mem_cons, List.not_mem_nil, or_false, forall_eq_or_imp, forall_eq] at hne
  simp [leadClass, hne]

/-- The text of a value starts with a character of its class. -/
theorem exists_lead (hpy : FloatText py) (v : Json) :
    ∃ c rest, dumpsChars py v = c :: rest ∧ leadClass c = v.shape := by
  cases v with
  | null => exact ⟨'n', _, rfl, rfl⟩
  | bool b =>
    cases b with
    | true => exact ⟨'t', _, rfl, rfl⟩
    | false => exact ⟨'f', _, rfl, rfl⟩
  | int n =>
    obtain ⟨c, rest, htext⟩ := List.exists_cons_of_ne_nil (toString_int_ne_nil n)
    refine ⟨c, rest, htext, leadClass_number (mem_toString_int (n := n) ?_)⟩
    rw [htext]
    exact List.mem_cons_self ..
  | float q =>
    obtain ⟨c, rest, htext, hlead⟩ := hpy.lead q
    exact ⟨c, rest, htext, leadClass_number hlead⟩
  | str s => exact ⟨'"', _, rfl, rfl⟩
  | arr xs => exact ⟨'[', _, dumpsChars_arr xs, rfl⟩
  | obj kvs => exact ⟨'\x7b', _, dumpsChars_obj kvs, rfl⟩

theorem shape_eq_of_append_eq (hpy : FloatText py) {v w : Json} {r r' : List Char}
    (h : dumpsChars py v ++ r = dumpsChars py w ++ r') : v.shape = w.shape := by
  obtain ⟨c, rest, hc, hclass⟩ := exists_lead hpy v
  obtain ⟨d, rest', hd, hclass'⟩ := exists_lead hpy w
  rw [hc, hd] at h
  rw [← hclass, ← hclass', (List.cons.inj h).1]

/-- What can follow a value. -/
def Separator (c : Char) : Prop := c = ',' ∨ c = ']' ∨ c = '\x7d'

variable (py) in
/-- The text of `v` in front of a separator, or at the end, determines `v` up to the order of keys,
and its end. -/
abbrev Determined (v : Json) : Prop :=
  Delimits (Stops Separator) (dumpsChars py) (fun v w => v.canon = w.canon) v

/-- No character of a number is a separator. -/
theorem not_separator_of_number (hpy : FloatText py) {v : Json} (hv : v.shape = 2) :
    ∀ c ∈ dumpsChars py v, ¬ Separator c := by
  intro c hc hsep
  cases v with
  | int n =>
    have hseparator : c ≠ '-' ∧ c.isDigit = false := by
      rcases hsep with rfl | rfl | rfl <;> decide
    rcases mem_toString_int (n := n) hc with h | h
    · exact hseparator.1 h
    · rw [hseparator.2] at h
      exact absurd h (by simp)
  | float q =>
    obtain ⟨hcomma, hbracket, hbrace⟩ := hpy.token q c hc
    rcases hsep with h | h | h
    · exact hcomma h
    · exact hbracket h
    · exact hbrace h
  | null | bool _ | str _ | arr _ | obj _ => exact absurd hv (by simp [Json.shape])

theorem number_inj (hpy : FloatText py) {v w : Json} (hv : v.shape = 2) (hw : w.shape = 2)
    (h : dumpsChars py v = dumpsChars py w) : v = w := by
  cases v with
  | int m =>
    cases w with
    | int n => rw [toString_int_inj h]
    | float q => exact absurd (String.toList_inj.mp h).symm (hpy.notInt q m)
    | null | bool _ | str _ | arr _ | obj _ => exact absurd hw (by simp [Json.shape])
  | float p =>
    cases w with
    | int n => exact absurd (String.toList_inj.mp h) (hpy.notInt p n)
    | float q => rw [hpy.injective (String.toList_inj.mp h)]
    | null | bool _ | str _ | arr _ | obj _ => exact absurd hw (by simp [Json.shape])
  | null | bool _ | str _ | arr _ | obj _ => exact absurd hv (by simp [Json.shape])

theorem determined_number (hpy : FloatText py) {v : Json} (hv : v.shape = 2) : Determined py v := by
  intro w r r' hr hr' h
  have hw : w.shape = 2 := (shape_eq_of_append_eq hpy h).symm.trans hv
  obtain ⟨htext, hrest⟩ := append_inj_of_stops (not_separator_of_number hpy hv)
    (not_separator_of_number hpy hw) hr hr' h
  exact ⟨by rw [number_inj hpy hv hw htext], hrest⟩

theorem determined_null (hpy : FloatText py) : Determined py .null := by
  intro w r r' hr hr' h
  have hw := shape_eq_of_append_eq hpy h
  cases w with
  | null => exact ⟨rfl, List.append_cancel_left h⟩
  | bool _ | int _ | float _ | str _ | arr _ | obj _ => exact absurd hw (by simp [Json.shape])

theorem determined_bool (hpy : FloatText py) (b : Bool) : Determined py (.bool b) := by
  intro w r r' hr hr' h
  have hw := shape_eq_of_append_eq hpy h
  cases w with
  | bool b' =>
    have hbb : b = b' := by
      cases b <;> cases b' <;> first | rfl | exact absurd (List.cons.inj h).1 (by decide)
    subst hbb
    exact ⟨rfl, List.append_cancel_left h⟩
  | null | int _ | float _ | str _ | arr _ | obj _ => exact absurd hw (by simp [Json.shape])

theorem determined_str (hpy : FloatText py) (s : String) : Determined py (.str s) := by
  intro w r r' hr hr' h
  have hw := shape_eq_of_append_eq hpy h
  cases w with
  | str t =>
    obtain ⟨hst, hrest⟩ := quoteChars_append_inj h
    exact ⟨by rw [hst], hrest⟩
  | null | bool _ | int _ | float _ | arr _ | obj _ => exact absurd hw (by simp [Json.shape])

theorem stops_comma (r : List Char) : Stops Separator (',' :: r) := stops_cons (.inl rfl) r

theorem stops_bracket (r : List Char) : Stops Separator (']' :: r) := stops_cons (.inr (.inl rfl)) r

theorem stops_brace (r : List Char) : Stops Separator ('\x7d' :: r) := stops_cons (.inr (.inr rfl)) r

/-- No value starts like the end of a list. -/
theorem ne_bracket (hpy : FloatText py) (v : Json) (r r' : List Char) :
    dumpsChars py v ++ r ≠ ']' :: r' := by
  obtain ⟨c, rest, hc, hclass⟩ := exists_lead hpy v
  rw [hc, List.cons_append]
  intro h
  -- the bracket would be the first character of a number
  rw [(List.cons.inj h).1] at hclass hc
  have hv : v.shape = 2 := hclass.symm
  refine not_separator_of_number hpy hv ']' ?_ (.inr (.inl rfl))
  rw [hc]
  exact List.mem_cons_self ..

theorem determined_arr (hpy : FloatText py) {xs : List Json} (hxs : ∀ x ∈ xs, Determined py x) :
    Determined py (.arr xs) := by
  intro w r r' hr hr' h
  have hw := shape_eq_of_append_eq hpy h
  cases w with
  | arr ys =>
    rw [dumpsChars_arr, dumpsChars_arr, List.cons_append, List.cons_append, List.append_assoc,
      List.append_assoc] at h
    obtain ⟨hall, hrest⟩ := intercalate_append_inj stops_comma stops_bracket (by decide)
      (ne_bracket hpy) hxs (List.cons.inj h).2
    have hcanon : xs.map Json.canon = ys.map Json.canon := by
      rw [← List.forall₂_eq_eq_eq, List.forall₂_map_left_iff, List.forall₂_map_right_iff]
      exact hall
    refine ⟨?_, hrest⟩
    show Json.canon (.arr xs) = Json.canon (.arr ys)
    rw [Json.canon, Json.canon, Json.canonList_eq_map, Json.canonList_eq_map, hcanon]
  | null | bool _ | int _ | float _ | str _ | obj _ => exact absurd hw (by simp [Json.shape])

/-- An entry determines its key, its value and its end. -/
theorem determined_entry {p : String × Json} (hp : Determined py p.2) :
    Delimits (Stops Separator) (entryChars py)
      (fun p q => p.1 = q.1 ∧ p.2.canon = q.2.canon) p := by
  intro q r r' hr hr' h
  rw [entryChars, entryChars, List.append_assoc, List.append_assoc] at h
  obtain ⟨hkey, hvalue⟩ := quoteChars_append_inj h
  obtain ⟨hcanon, hrest⟩ := hp q.2 r r' hr hr' (List.cons.inj hvalue).2
  exact ⟨⟨hkey, hcanon⟩, hrest⟩

theorem determined_obj (hpy : FloatText py) {kvs : Dict} (hkvs : ∀ p ∈ kvs, Determined py p.2) :
    Determined py (.obj kvs) := by
  intro w r r' hr hr' h
  have hw := shape_eq_of_append_eq hpy h
  cases w with
  | obj kvs' =>
    rw [dumpsChars_obj, dumpsChars_obj, List.cons_append, List.cons_append, List.append_assoc,
      List.append_assoc] at h
    have hentries : ∀ p ∈ kvs.insertionSort Json.keyLe, Delimits (Stops Separator) (entryChars py)
        (fun p q => p.1 = q.1 ∧ p.2.canon = q.2.canon) p := by
      intro p hp
      exact determined_entry (hkvs p ((List.mem_insertionSort Json.keyLe).mp hp))
    have hopen : ∀ (p : String × Json) (r r' : List Char), entryChars py p ++ r ≠ '\x7d' :: r' := by
      intro p r r' h
      exact absurd (List.cons.inj h).1 (by decide)
    obtain ⟨hall, hrest⟩ := intercalate_append_inj stops_comma stops_brace (by decide) hopen
      hentries (List.cons.inj h).2
    have hcanon : (kvs.insertionSort Json.keyLe).map (fun p => (p.1, p.2.canon))
        = (kvs'.insertionSort Json.keyLe).map (fun p => (p.1, p.2.canon)) := by
      rw [← List.forall₂_eq_eq_eq, List.forall₂_map_left_iff, List.forall₂_map_right_iff]
      exact hall.imp fun p q hpq => Prod.ext hpq.1 hpq.2
    refine ⟨?_, hrest⟩
    show Json.canon (.obj kvs) = Json.canon (.obj kvs')
    rw [Json.canon_obj, Json.canon_obj, hcanon]
  | null | bool _ | int _ | float _ | str _ | arr _ => exact absurd hw (by simp [Json.shape])

mutual

theorem determined (hpy : FloatText py) : ∀ v : Json, Determined py v
  | .null => determined_null hpy
  | .bool b => determined_bool hpy b
  | .int n => determined_number hpy rfl
  | .float q => determined_number hpy rfl
  | .str s => determined_str hpy s
  | .arr xs => determined_arr hpy (determined_list hpy xs)
  | .obj kvs => determined_obj hpy (determined_entries hpy kvs)

theorem determined_list (hpy : FloatText py) : ∀ xs : List Json, ∀ x ∈ xs, Determined py x
  | [] => List.forall_mem_nil _
  | y :: ys => List.forall_mem_cons.mpr ⟨determined hpy y, determined_list hpy ys⟩

theorem determined_entries (hpy : FloatText py) : ∀ kvs : Dict, ∀ p ∈ kvs, Determined py p.2
  | [] => List.forall_mem_nil _
  | (_, v) :: kvs => List.forall_mem_cons.mpr ⟨determined hpy v, determined_entries hpy kvs⟩

end

/-- **The canonical text.** Values with the same text are equal up to the order of keys. -/
theorem dumps_inj (hpy : FloatText py) {v w : Json} (h : dumps py v = dumps py w) :
    v.canon = w.canon := by
  have htext : dumpsChars py v = dumpsChars py w := String.ofList_injective h
  have happend : dumpsChars py v ++ [] = dumpsChars py w ++ [] := by rw [htext]
  exact (determined hpy v w [] [] (stops_nil _) (stops_nil _) happend).1

/-- Values with the same hash are equal up to the order of keys, when SHA-256 has no collision. -/
theorem hashJson_inj (hpy : FloatText py) (hsha : Function.Injective py.sha256) {v w : Json}
    (h : hashJson py v = hashJson py w) : v.canon = w.canon :=
  dumps_inj hpy (hsha h)

/-- Objects that are equal up to the order of keys have the same values, up to the order of keys,
under every key. -/
theorem Json.get?_of_canon_eq {kvs kvs' : Dict} (hkeys : (Assoc.keys kvs).Nodup)
    (h : canon (.obj kvs) = canon (.obj kvs')) (k : String) :
    (Assoc.get? k kvs).map canon = (Assoc.get? k kvs').map canon := by
  have hsorted : ∀ kvs : Dict, ((kvs.insertionSort keyLe).map fun p => (p.1, canon p.2)).Perm
      (kvs.map fun p => (p.1, canon p.2)) := by
    intro kvs
    exact (List.perm_insertionSort keyLe kvs).map _
  rw [canon_obj, canon_obj, Json.obj.injEq] at h
  have hperm : (kvs.map fun p => (p.1, canon p.2)).Perm (kvs'.map fun p => (p.1, canon p.2)) := by
    refine (hsorted kvs).symm.trans ?_
    rw [h]
    exact hsorted kvs'
  have hnodup : (Assoc.keys (kvs.map fun p => (p.1, canon p.2))).Nodup := by
    rw [Assoc.keys, List.map_map]
    exact hkeys
  rw [← Assoc.get?_map, ← Assoc.get?_map]
  exact Assoc.get?_eq_of_perm hnodup hperm k

/-- Objects with the same keys in the same order, equal up to the order of keys, have their entries
equal one by one. -/
theorem Json.canonEntries_eq_of_canon_eq {kvs kvs' : Dict} (hnodup : (Assoc.keys kvs).Nodup)
    (hkeys : Assoc.keys kvs = Assoc.keys kvs') (h : canon (.obj kvs) = canon (.obj kvs')) :
    canonEntries kvs = canonEntries kvs' := by
  have hcanon : ∀ d : Dict, Assoc.keys (canonEntries d) = Assoc.keys d := by
    intro d
    rw [canonEntries_eq_map, Assoc.keys, List.map_map]
    rfl
  refine Assoc.ext_of_keys ?_ ?_ fun k => ?_
  · rwa [hcanon]
  · rw [hcanon, hcanon, hkeys]
  · rw [canonEntries_eq_map, canonEntries_eq_map, Assoc.get?_map, Assoc.get?_map]
    exact Json.get?_of_canon_eq hnodup h k

/-! ### The concrete runtime -/

/-- A mark that no integer text has. -/
theorem notMem_toString_int {c : Char} (hminus : c ≠ '-') (hdigit : c.isDigit = false) (n : ℤ) :
    c ∉ (toString n).toList := by
  intro h
  rcases mem_toString_int h with h | h
  · exact hminus h
  · rw [hdigit] at h
    exact absurd h (by simp)

/-- The mark between the two parts of a float: a point in front of a zero, or a fraction bar in
front of the denominator. -/
theorem floatRepr_ascii (q : ℚ) : (Runtime.ascii.floatRepr q).toList
    = (toString q.num).toList ++
      if q.den = 1 then ['.', '0'] else '/' :: (toString (q.den : ℤ)).toList := by
  show (if q.den = 1 then toString q.num ++ ".0" else toString q.num ++ "/" ++ toString q.den).toList
    = _
  split
  · rw [String.toList_append]
    rfl
  · rw [String.toList_append, String.toList_append, List.append_assoc]
    rfl

theorem floatText_ascii : FloatText .ascii where
  lead q := by
    obtain ⟨c, rest, htext⟩ := List.exists_cons_of_ne_nil (toString_int_ne_nil q.num)
    rw [floatRepr_ascii, htext]
    refine ⟨c, _, List.cons_append, mem_toString_int (n := q.num) ?_⟩
    rw [htext]
    exact List.mem_cons_self ..
  token q c hc := by
    have hint : ∀ {n : ℤ}, c ∈ (toString n).toList → c ≠ ',' ∧ c ≠ ']' ∧ c ≠ '\x7d' := by
      rintro n h
      refine ⟨?_, ?_, ?_⟩ <;>
        · rintro rfl
          exact notMem_toString_int (by decide) (by decide) n h
    rw [floatRepr_ascii, List.mem_append] at hc
    rcases hc with hc | hc
    · exact hint hc
    · split at hc
      · rcases List.mem_pair.mp hc with rfl | rfl <;> decide
      · rcases List.mem_cons.mp hc with rfl | hc
        · decide
        · exact hint hc
  injective p q h := by
    have htext := congrArg String.toList h
    rw [floatRepr_ascii, floatRepr_ascii] at htext
    have hpoint : ∀ r : ℚ, ∀ c ∈ (toString r.num).toList, ¬ (c = '.' ∨ c = '/') := by
      rintro r c hc (rfl | rfl)
      · exact notMem_toString_int (by decide) (by decide) _ hc
      · exact notMem_toString_int (by decide) (by decide) _ hc
    have hstop : ∀ r : ℚ, Stops (fun c => c = '.' ∨ c = '/')
        (if r.den = 1 then ['.', '0'] else '/' :: (toString (r.den : ℤ)).toList) := by
      intro r
      split
      · exact stops_cons (.inl rfl) _
      · exact stops_cons (.inr rfl) _
    obtain ⟨hnum, hden⟩ := append_inj_of_stops (hpoint p) (hpoint q) (hstop p) (hstop q) htext
    refine Rat.ext (toString_int_inj hnum) ?_
    split at hden
    · split at hden
      · omega
      · exact absurd (List.cons.inj hden).1 (by decide)
    · split at hden
      · exact absurd (List.cons.inj hden).1 (by decide)
      · exact_mod_cast toString_int_inj (List.cons.inj hden).2
  notInt q n h := by
    have htext := congrArg String.toList h
    rw [floatRepr_ascii] at htext
    split at htext
    · exact notMem_toString_int (c := '.') (by decide) (by decide) n (by rw [← htext]; simp)
    · exact notMem_toString_int (c := '/') (by decide) (by decide) n (by rw [← htext]; simp)

end Bookwarden
