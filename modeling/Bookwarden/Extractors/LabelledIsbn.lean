import Bookwarden.Extractors.Multiformat
import Bookwarden.Isbn.Canonical
import Mathlib.Data.List.Dedup

/-!
# Labelled ISBNs

What `ISBN_CONTEXT_RE` finds in a text. After a label it takes as many digits, `X`, spaces and hyphens
as it can, up to twenty-two characters, so a number that follows an ISBN on its line is taken with it,
and what is taken is then no ISBN. What it finds is always labelled.

## Main definitions

* `Written` — an ISBN written with single spaces or hyphens between its digits
* `EndsThere` — nothing that could be taken with a number follows it
* `IsLabel` — a label, as the expression accepts it

## Main results

* `contexts_append` — a text is searched in parts, cut where a label begins
* `labelled_isbn` — when a labelled ISBN is recognized, and that whatever is recognized is labelled
-/

namespace Bookwarden

open Matcher

/-! ### The expression -/

/-- `[0-9Xx\s-]`. -/
def isbnInner (c : Char) : Bool := isbnChar c || isSpace c || c = '-'

theorem isbnGroup_eq : isbnGroup = andThen (char isbnChar)
    (andThen (exactly isbnInner 8) (andThen (upTo isbnInner 12) (char isbnChar))) := rfl

theorem isbnInner_of_isbnChar (c : Char) (h : isbnChar c = true) : isbnInner c = true := by
  rw [isbnInner, h]
  rfl

theorem toUpper_of_not_lower {c : Char} (h : c.toNat < 97 ∨ 122 < c.toNat) : c.toUpper = c := by
  delta Char.toUpper
  rw [dif_neg]
  rintro ⟨hlow, hhigh⟩
  have hlow' : 97 ≤ c.toNat := hlow
  have hhigh' : c.toNat ≤ 122 := hhigh
  omega

/-- No character of a number begins a label. -/
theorem labelChar_of_isbnInner {c : Char} (h : isbnInner c = true) : labelChar 'I' c = false := by
  have hother : ∀ c : Char, c ≠ 'I' → (c.toNat < 97 ∨ 122 < c.toNat) → c.toNat ≠ 0x130 →
      c.toNat ≠ 0x131 → labelChar 'I' c = false := by
    intro c hc hcase h130 h131
    simp [labelChar, toUpper_of_not_lower hcase, hc, h130, h131]
  simp only [isbnInner, isbnChar, Bool.or_eq_true, decide_eq_true_eq] at h
  rcases h with (((h | rfl) | rfl) | h) | rfl
  · have hbounds := isDigit_bounds h
    refine hother c ?_ (by omega) (by omega) (by omega)
    rintro rfl
    exact absurd h (by decide)
  · decide
  · decide
  · have hspace : c.toNat ≤ 32 ∨ c.toNat = 0x85 ∨ c.toNat = 0xA0 ∨ 0x1680 ≤ c.toNat := by
      simp [isSpace] at h
      omega
    refine hother c ?_ (by omega) (by omega) (by omega)
    rintro rfl
    exact absurd h (by decide)
  · decide

theorem matchIsbnContext_of_isbnInner {c : Char} (h : isbnInner c = true) (cs : List Char) :
    matchIsbnContext (c :: cs) = none := by
  rw [matchIsbnContext, isbnLabel, andThen, char_cons_of_not (labelChar_of_isbnInner h)]
  rfl

/-! ### Labels -/

/-- A label of `ISBN_CONTEXT_RE`: `ISBN` in any case, `-10` or `-13`, and a colon or a space amid
whitespace. -/
def IsLabel (label : List Char) : Prop :=
  ∃ i s b n suffix before mark after, label = i :: s :: b :: n :: (suffix ++ before ++ mark :: after) ∧
    labelChar 'I' i = true ∧ labelChar 'S' s = true ∧ labelChar 'B' b = true ∧
    labelChar 'N' n = true ∧ suffix ∈ [[], ['-', '1', '0'], ['-', '1', '3']] ∧
    (∀ c ∈ before, isSpace c = true) ∧ (mark = ':' ∨ mark = ' ') ∧ ∀ c ∈ after, isSpace c = true

theorem reads_isbnLabel : Reads isbnLabel IsLabel := by
  intro cs rest h
  have hsuffix : Reads (optional (andThen (char fun c => decide (c = '-'))
      (andThen (char fun c => decide (c = '1')) (char fun c => decide (c = '0') || decide (c = '3')))))
      fun w => w ∈ [[], ['-', '1', '0'], ['-', '1', '3']] := by
    intro cs rest h
    obtain ⟨w, hw, hcs⟩ := ((reads_char fun c => decide (c = '-')).andThen
      ((reads_char fun c => decide (c = '1')).andThen
        (reads_char fun c => decide (c = '0') || decide (c = '3')))).optional cs rest h
    refine ⟨w, ?_, hcs⟩
    rcases hw with rfl | ⟨_, _, ⟨a, ha, rfl⟩, ⟨_, _, ⟨b, hb, rfl⟩, ⟨c, hc, rfl⟩, rfl⟩, rfl⟩
    · exact List.mem_cons_self
    · rw [of_decide_eq_true ha, of_decide_eq_true hb]
      rw [Bool.or_eq_true, decide_eq_true_eq, decide_eq_true_eq] at hc
      rcases hc with rfl | rfl <;> decide
  have hmark : Reads (char fun c => decide (c = ':') || decide (c = ' '))
      fun w => ∃ mark, (mark = ':' ∨ mark = ' ') ∧ w = [mark] := by
    intro cs rest h
    obtain ⟨w, ⟨mark, hmark, hw⟩, hcs⟩ := reads_char _ cs rest h
    rw [Bool.or_eq_true, decide_eq_true_eq, decide_eq_true_eq] at hmark
    exact ⟨w, ⟨mark, hmark, hw⟩, hcs⟩
  obtain ⟨label, hlabel, hcs⟩ := (reads_char (labelChar 'I')).andThen
    ((reads_char (labelChar 'S')).andThen ((reads_char (labelChar 'B')).andThen
      ((reads_char (labelChar 'N')).andThen (hsuffix.andThen ((reads_many isSpace).andThen
        (hmark.andThen (reads_many isSpace))))))) cs rest h
  obtain ⟨_, _, ⟨i, hi, rfl⟩, ⟨_, _, ⟨s, hs, rfl⟩, ⟨_, _, ⟨b, hb, rfl⟩, ⟨_, _, ⟨n, hn, rfl⟩,
    ⟨suffix, _, hsuffix, ⟨before, _, hbefore, ⟨_, after, ⟨mark, hmark, rfl⟩, hafter, rfl⟩, rfl⟩, rfl⟩,
      rfl⟩, rfl⟩, rfl⟩, rfl⟩ := hlabel
  refine ⟨_, ⟨i, s, b, n, suffix, before, mark, after, ?_, hi, hs, hb, hn, hsuffix, hbefore, hmark,
    hafter⟩, hcs⟩
  simp only [List.singleton_append, List.append_assoc]

/-- What the group of the expression takes. -/
theorem reads_isbnGroup : Reads isbnGroup fun w => 10 ≤ w.length ∧ w.length ≤ 22 ∧
    ∀ c ∈ w, isbnInner c = true := by
  intro cs rest h
  rw [isbnGroup_eq] at h
  obtain ⟨w, hw, hcs⟩ := (reads_char isbnChar).andThen ((reads_exactly isbnInner 8).andThen
    ((reads_upTo isbnInner 12).andThen (reads_char isbnChar))) cs rest h
  obtain ⟨_, _, ⟨c, hc, rfl⟩, ⟨u, _, ⟨hu, hinner⟩, ⟨v, _, ⟨hv, hinner'⟩, ⟨d, hd, rfl⟩, rfl⟩, rfl⟩, rfl⟩ :=
    hw
  refine ⟨_, ⟨?_, ?_, fun e he => ?_⟩, hcs⟩
  · simp only [List.length_append, List.length_singleton]
    omega
  · simp only [List.length_append, List.length_singleton]
    omega
  · simp only [List.mem_append, List.mem_singleton] at he
    rcases he with rfl | he | he | rfl
    · exact isbnInner_of_isbnChar e hc
    · exact hinner e he
    · exact hinner' e he
    · exact isbnInner_of_isbnChar e hd

theorem matchIsbnContext_reads {cs group rest : List Char}
    (h : matchIsbnContext cs = some (group, rest)) :
    ∃ label, IsLabel label ∧ cs = label ++ group ++ rest ∧ 10 ≤ group.length ∧ group.length ≤ 22 ∧
      ∀ c ∈ group, isbnInner c = true := by
  rw [matchIsbnContext] at h
  obtain ⟨afterLabel, hmem, hfound⟩ := List.exists_of_findSome?_eq_some h
  obtain ⟨rest', hrest, heq⟩ := Option.map_eq_some_iff.mp hfound
  obtain ⟨label, hlabel, rfl⟩ := reads_isbnLabel cs afterLabel hmem
  obtain ⟨w, ⟨hlow, hhigh, hw⟩, rfl⟩ := reads_isbnGroup afterLabel rest' (List.mem_of_mem_head? hrest)
  rw [List.length_append, Nat.add_sub_cancel, List.take_left, Prod.mk.injEq] at heq
  obtain ⟨rfl, rfl⟩ := heq
  exact ⟨label, hlabel, (List.append_assoc label w rest').symm, hlow, hhigh, hw⟩

/-! ### Searching in parts -/

/-- What `findall` finds. -/
def contexts (cs : List Char) : List String := findIsbnContexts (cs.length + 1) cs

theorem isbnContexts_eq (text : String) : isbnContexts text = contexts text.toList := rfl

theorem length_lt_of_match {cs group rest : List Char}
    (h : matchIsbnContext cs = some (group, rest)) : rest.length < cs.length := by
  obtain ⟨label, -, rfl, hlow, -, -⟩ := matchIsbnContext_reads h
  simp only [List.length_append]
  omega

/-- The search does not run out of fuel. -/
theorem findIsbnContexts_eq {fuel : ℕ} {cs : List Char} (h : cs.length < fuel) :
    findIsbnContexts fuel cs = contexts cs := by
  have hstable : ∀ (fuel fuel' : ℕ) (cs : List Char), cs.length < fuel → cs.length < fuel' →
      findIsbnContexts fuel cs = findIsbnContexts fuel' cs := by
    intro fuel
    induction fuel with
    | zero => exact fun fuel' cs h => absurd h (Nat.not_lt_zero _)
    | succ fuel ih =>
      intro fuel' cs h h'
      cases fuel' with
      | zero => exact absurd h' (Nat.not_lt_zero _)
      | succ fuel' =>
        cases cs with
        | nil => rfl
        | cons c cs =>
          rw [List.length_cons] at h h'
          rw [findIsbnContexts, findIsbnContexts]
          cases hmatch : matchIsbnContext (c :: cs) with
          | none => exact ih fuel' cs (by omega) (by omega)
          | some found =>
            obtain ⟨group, rest⟩ := found
            have hlt := length_lt_of_match hmatch
            rw [List.length_cons] at hlt
            exact congrArg _ (ih fuel' rest (by omega) (by omega))
  exact hstable fuel (cs.length + 1) cs h (Nat.lt_succ_self _)

theorem contexts_of_match {cs group rest : List Char}
    (h : matchIsbnContext cs = some (group, rest)) :
    contexts cs = String.ofList group :: contexts rest := by
  have hlt := length_lt_of_match h
  cases cs with
  | nil => exact absurd hlt (Nat.not_lt_zero _)
  | cons c cs =>
    rw [contexts, findIsbnContexts, h]
    exact congrArg _ (findIsbnContexts_eq hlt)

theorem contexts_cons_of_none {c : Char} {cs : List Char} (h : matchIsbnContext (c :: cs) = none) :
    contexts (c :: cs) = contexts cs := by
  rw [contexts, findIsbnContexts, h]
  exact findIsbnContexts_eq (Nat.lt_succ_self _)

/-- No label begins within a number. -/
theorem contexts_append_of_isbnInner {w : List Char} (h : ∀ c ∈ w, isbnInner c = true)
    (cs : List Char) : contexts (w ++ cs) = contexts cs := by
  induction w with
  | nil => rfl
  | cons c w ih =>
    obtain ⟨hc, hw⟩ := List.forall_mem_cons.mp h
    rw [List.cons_append, contexts_cons_of_none (matchIsbnContext_of_isbnInner hc _), ih hw]

theorem matchIsbnContext_nil : matchIsbnContext [] = none := rfl

theorem avoids_isbnGroup : Avoids isbnGroup 'I' := by
  have hchar : isbnChar 'I' = false := by decide
  have hinner : isbnInner 'I' = false := by decide
  rw [isbnGroup_eq]
  exact (avoids_char hchar).andThen ((avoids_exactly hinner 8).andThen
    ((avoids_upTo hinner 12).andThen (avoids_char hchar)))

/-- The label after its first letter. -/
def labelTail : Matcher Char :=
  andThen (char (labelChar 'S')) <| andThen (char (labelChar 'B')) <|
  andThen (char (labelChar 'N')) <|
  andThen (optional (andThen (char (· = '-')) (andThen (char (· = '1'))
    (char fun c => c = '0' || c = '3')))) <|
  andThen (many isSpace) <| andThen (char fun c => c = ':' || c = ' ') (many isSpace)

theorem isbnLabel_eq : isbnLabel = andThen (char (labelChar 'I')) labelTail := rfl

theorem avoids_labelTail : Avoids labelTail 'I' := by
  have hspace : isSpace 'I' = false := by decide
  have hsuffix : Avoids (optional (andThen (char fun c => decide (c = '-'))
      (andThen (char fun c => decide (c = '1')) (char fun c => decide (c = '0') || decide (c = '3')))))
      'I' :=
    ((avoids_char (p := fun c => decide (c = '-')) (by decide)).andThen
      ((avoids_char (p := fun c => decide (c = '1')) (by decide)).andThen
        (avoids_char (p := fun c => decide (c = '0') || decide (c = '3')) (by decide)))).optional
  have hmark : Avoids (char fun c => decide (c = ':') || decide (c = ' ')) 'I' :=
    avoids_char (by decide)
  exact (avoids_char (by decide)).andThen ((avoids_char (by decide)).andThen
    ((avoids_char (by decide)).andThen (hsuffix.andThen ((avoids_many hspace).andThen
      (hmark.andThen (avoids_many hspace))))))

/-- A match that begins before the letter `I` ends before it. -/
theorem matchIsbnContext_append (c : Char) (u t : List Char) :
    matchIsbnContext (c :: u ++ 'I' :: t)
      = (matchIsbnContext (c :: u)).map fun found => (found.1, found.2 ++ 'I' :: t) := by
  have hlabel : isbnLabel (c :: u ++ 'I' :: t) = (isbnLabel (c :: u)).map (· ++ 'I' :: t) := by
    rw [isbnLabel_eq, List.cons_append, andThen, andThen, char, char]
    split
    · rw [List.flatMap_singleton, List.flatMap_singleton]
      exact avoids_labelTail u t
    · rfl
  rw [matchIsbnContext, matchIsbnContext, hlabel, List.findSome?_map, List.map_findSome?]
  congr 1
  funext afterLabel
  rw [Function.comp_apply, Function.comp_apply, avoids_isbnGroup afterLabel t, List.head?_map]
  cases hrest : (isbnGroup afterLabel).head? with
  | none => rfl
  | some rest =>
    obtain ⟨w, -, rfl⟩ := reads_isbnGroup afterLabel rest (List.mem_of_mem_head? hrest)
    show some (((w ++ rest) ++ 'I' :: t).take (((w ++ rest) ++ 'I' :: t).length
      - (rest ++ 'I' :: t).length), rest ++ 'I' :: t)
      = some ((w ++ rest).take ((w ++ rest).length - rest.length), rest ++ 'I' :: t)
    have hlength : ((w ++ rest) ++ 'I' :: t).length - (rest ++ 'I' :: t).length = w.length := by
      simp only [List.length_append]
      omega
    rw [hlength, List.length_append, Nat.add_sub_cancel, List.append_assoc, List.take_left,
      List.take_left]

/-- A text is searched in parts, cut where a label begins. -/
theorem contexts_append (u t : List Char) :
    contexts (u ++ 'I' :: t) = contexts u ++ contexts ('I' :: t) := by
  -- by induction on the length of the first part, since a match may take any number of characters
  have hlength : ∀ (n : ℕ) (u : List Char), u.length < n →
      contexts (u ++ 'I' :: t) = contexts u ++ contexts ('I' :: t) := by
    intro n
    induction n with
    | zero => exact fun u h => absurd h (Nat.not_lt_zero _)
    | succ n ih =>
      intro u hu
      cases u with
      | nil => rfl
      | cons c u =>
        have happend := matchIsbnContext_append c u t
        cases hmatch : matchIsbnContext (c :: u) with
        | none =>
          rw [hmatch] at happend
          have hfirst : contexts (c :: u ++ 'I' :: t) = contexts (u ++ 'I' :: t) :=
            contexts_cons_of_none happend
          rw [hfirst, contexts_cons_of_none hmatch, ih u (by rw [List.length_cons] at hu; omega)]
        | some found =>
          obtain ⟨group, rest⟩ := found
          have hlt := length_lt_of_match hmatch
          rw [hmatch] at happend
          rw [contexts_of_match happend, contexts_of_match hmatch, ih rest (by omega), List.cons_append]
  exact hlength (u.length + 1) u (Nat.lt_succ_self _)

/-! ### A label and a number -/

/-- A written number with its digits: between two of them there may be one space or hyphen. -/
inductive Written : List Char → List Char → Prop
  | last {d : Char} (hd : isbnChar d = true) : Written [d] [d]
  | next {d : Char} {s ds : List Char} (hd : isbnChar d = true) (h : Written s ds) :
    Written (d :: s) (d :: ds)
  | apart {d mark : Char} {s ds : List Char} (hd : isbnChar d = true)
    (hmark : mark = ' ' ∨ mark = '-') (h : Written s ds) : Written (d :: mark :: s) (d :: ds)

/-- `ISBN`, `ISBN-10` or `ISBN-13`, and a colon or a space. -/
def plainLabels : List String := ["ISBN:", "ISBN ", "ISBN-10:", "ISBN-10 ", "ISBN-13:", "ISBN-13 "]

/-- The remainder of a text after a number of `n` characters has no digit or `X` that could be taken
with it: within twenty-two characters, after spaces and hyphens only. -/
def EndsThere (n : ℕ) (rest : List Char) : Prop :=
  n ≤ 22 ∧ ∀ gap c after, rest = gap ++ c :: after → (∀ d ∈ gap, isSpace d = true ∨ d = '-') →
    n + gap.length < 22 → isbnChar c = false

theorem isSpace_of_isbnChar {c : Char} (h : isbnChar c = true) : isSpace c = false := by
  simp only [isbnChar, Bool.or_eq_true, decide_eq_true_eq] at h
  rcases h with (h | rfl) | rfl
  · have hbounds := isDigit_bounds h
    simp [isSpace]
    omega
  · decide
  · decide

/-- A plain label is read in one way. -/
theorem isbnLabel_plain {label : String} (h : label ∈ plainLabels) {c : Char} (hc : isbnChar c = true)
    (cs : List Char) : isbnLabel (label.toList ++ c :: cs) = [c :: cs] := by
  have hspace : isSpace c = false := isSpace_of_isbnChar hc
  have hcolon : c ≠ ':' := by
    rintro rfl
    exact absurd hc (by decide)
  have hblank : c ≠ ' ' := by
    rintro rfl
    exact absurd hspace (by decide)
  have hi : labelChar 'I' 'I' = true := by decide
  have hs : labelChar 'S' 'S' = true := by decide
  have hb : labelChar 'B' 'B' = true := by decide
  have hn : labelChar 'N' 'N' = true := by decide
  have h1 : isSpace ':' = false := by decide
  have h2 : isSpace ' ' = true := by decide
  have h3 : isSpace '-' = false := by decide
  simp only [plainLabels, List.mem_cons, List.not_mem_nil, or_false] at h
  rcases h with rfl | rfl | rfl | rfl | rfl | rfl <;>
    simp [isbnLabel, andThen, char, Matcher.optional, many, hi, hs, hb, hn, h1, h2, h3, hspace, hcolon, hblank]

namespace Written

variable {s ds : List Char}

theorem inner (h : Written s ds) : ∀ c ∈ s, isbnInner c = true := by
  induction h with
  | last hd => exact fun c hc => List.mem_singleton.mp hc ▸ isbnInner_of_isbnChar _ hd
  | next hd _ ih => exact List.forall_mem_cons.mpr ⟨isbnInner_of_isbnChar _ hd, ih⟩
  | apart hd hmark _ ih =>
    refine List.forall_mem_cons.mpr ⟨isbnInner_of_isbnChar _ hd, List.forall_mem_cons.mpr ⟨?_, ih⟩⟩
    rcases hmark with rfl | rfl <;> decide

/-- The digits are what is left when the marks are dropped. -/
theorem filter (h : Written s ds) : s.filter isbnChar = ds := by
  induction h with
  | last hd => exact List.filter_cons_of_pos hd
  | next hd _ ih => rw [List.filter_cons_of_pos hd, ih]
  | @apart d mark s ds hd hmark _ ih =>
    have hskip : isbnChar mark = false := by
      rcases hmark with rfl | rfl <;> decide
    rw [List.filter_cons_of_pos hd, List.filter_cons_of_neg (by rw [hskip]; decide), ih]

theorem length_le (h : Written s ds) : ds.length ≤ s.length := by
  rw [← h.filter]
  exact List.length_filter_le _ _

theorem length_lt (h : Written s ds) : s.length < 2 * ds.length := by
  induction h with
  | last hd => exact Nat.one_lt_two
  | next hd _ ih =>
    simp only [List.length_cons]
    omega
  | apart hd hmark _ ih =>
    simp only [List.length_cons]
    omega

theorem exists_head (h : Written s ds) : ∃ c t, s = c :: t ∧ isbnChar c = true := by
  cases h with
  | last hd => exact ⟨_, _, rfl, hd⟩
  | next hd _ => exact ⟨_, _, rfl, hd⟩
  | apart hd _ _ => exact ⟨_, _, rfl, hd⟩

theorem exists_last (h : Written s ds) : ∃ t d, s = t ++ [d] ∧ isbnChar d = true := by
  induction h with
  | last hd => exact ⟨[], _, rfl, hd⟩
  | next hd _ ih =>
    obtain ⟨t, d, rfl, hlast⟩ := ih
    exact ⟨_ :: t, d, rfl, hlast⟩
  | apart hd _ _ ih =>
    obtain ⟨t, d, rfl, hlast⟩ := ih
    exact ⟨_ :: _ :: t, d, rfl, hlast⟩

/-- A written number can be cut at any place, or at the place before it. -/
theorem exists_prefix (h : Written s ds) {n : ℕ} (hpos : 0 < n) (hn : n ≤ s.length) :
    ∃ w es t, s = w ++ t ∧ Written w es ∧ (w.length = n ∨ w.length + 1 = n) := by
  induction h generalizing n with
  | @last d hd => exact ⟨[d], [d], [], rfl, .last hd, .inl (by simp at hn ⊢; omega)⟩
  | @next d s ds hd _ ih =>
    rcases Nat.lt_or_ge 1 n with hlt | hle
    · obtain ⟨w, es, t, rfl, hw, hlength⟩ := ih (n := n - 1) (by omega)
        (by rw [List.length_cons] at hn; omega)
      refine ⟨d :: w, d :: es, t, rfl, .next hd hw, ?_⟩
      rw [List.length_cons]
      omega
    · exact ⟨[d], [d], s, rfl, .last hd, .inl (by rw [List.length_singleton]; omega)⟩
  | @apart d mark s ds hd hmark _ ih =>
    rcases Nat.lt_or_ge 2 n with hlt | hle
    · obtain ⟨w, es, t, rfl, hw, hlength⟩ := ih (n := n - 2) (by omega)
        (by rw [List.length_cons, List.length_cons] at hn; omega)
      refine ⟨d :: mark :: w, d :: es, t, rfl, .apart hd hmark hw, ?_⟩
      rw [List.length_cons, List.length_cons]
      omega
    · exact ⟨[d], [d], mark :: s, rfl, .last hd, by rw [List.length_singleton]; omega⟩

end Written

/-- The group of the expression takes a written number, and then as far as it can. -/
theorem head?_isbnGroup {w ds : List Char} (hw : Written w ds) (h10 : 10 ≤ w.length)
    (h22 : w.length ≤ 22) (rest : List Char) :
    (isbnGroup (w ++ rest)).head? = some (trail isbnInner isbnChar (22 - w.length) rest) := by
  obtain ⟨c, t, rfl, hc⟩ := hw.exists_head
  obtain ⟨u, d, hlast, hd⟩ := hw.exists_last
  have hinner := (List.forall_mem_cons.mp hw.inner).2
  cases u with
  | nil =>
    rw [hlast] at h10
    simp at h10
  | cons c' u =>
    rw [List.cons_append, List.cons.injEq] at hlast
    obtain ⟨rfl, rfl⟩ := hlast
    have hu : ∀ e ∈ u, isbnInner e = true := fun e he => hinner e (List.mem_append_left _ he)
    have hfirst : ∀ e ∈ u.take 8, isbnInner e = true := fun e he => hu e (List.mem_of_mem_take he)
    have hmore : ∀ e ∈ u.drop 8, isbnInner e = true := fun e he => hu e (List.mem_of_mem_drop he)
    simp only [List.length_cons, List.length_append, List.length_nil] at h10 h22 ⊢
    have height : (u.take 8).length = 8 := by
      rw [List.length_take]
      omega
    have hexactly := exactly_append hfirst (u.drop 8 ++ d :: rest)
    rw [height] at hexactly
    have hsplit : u ++ [d] ++ rest = u.take 8 ++ (u.drop 8 ++ d :: rest) := by
      rw [← List.append_assoc, List.take_append_drop, List.append_assoc, List.singleton_append]
    rw [isbnGroup_eq, List.cons_append, hsplit, andThen, char_cons hc, List.flatMap_singleton, andThen,
      hexactly, List.flatMap_singleton,
      head?_upTo_append isbnInner_of_isbnChar hmore hd (by rw [List.length_drop]; omega),
      List.length_drop]
    congr 2
    omega

/-- Nothing that could be taken with a number follows it exactly when nothing is. -/
theorem endsThere_iff {n : ℕ} {rest : List Char} :
    EndsThere n rest ↔ n ≤ 22 ∧ trail isbnInner isbnChar (22 - n) rest = rest := by
  have hcases := trail_cases isbnInner_of_isbnChar (22 - n) rest
  constructor
  · rintro ⟨hn, hends⟩
    refine ⟨hn, ?_⟩
    rcases hcases with ⟨htrail, -⟩ | ⟨w, d, hsplit, hw, hlength, hd⟩
    · exact htrail
    · -- the first digit that is read on is one that follows the number
      exfalso
      have hfirst : ∀ w : List Char, (∀ c ∈ w, isbnInner c = true) → ∀ after, ∃ gap c after',
          w ++ d :: after = gap ++ c :: after' ∧ (∀ e ∈ gap, isSpace e = true ∨ e = '-') ∧
            gap.length ≤ w.length ∧ isbnChar c = true := by
        intro w
        induction w with
        | nil =>
          exact fun _ after => ⟨[], d, after, rfl, fun e he => absurd he List.not_mem_nil,
            Nat.le_refl _, hd⟩
        | cons c w ih =>
          intro hw after
          obtain ⟨hc, hw⟩ := List.forall_mem_cons.mp hw
          cases hisbn : isbnChar c with
          | true =>
            exact ⟨[], c, w ++ d :: after, rfl, fun e he => absurd he List.not_mem_nil,
              Nat.zero_le _, hisbn⟩
          | false =>
            obtain ⟨gap, c', after', hsplit, hgap, hlength, hc'⟩ := ih hw after
            have hmark : isSpace c = true ∨ c = '-' := by
              rw [isbnInner, hisbn, Bool.false_or, Bool.or_eq_true, decide_eq_true_eq] at hc
              exact hc
            refine ⟨c :: gap, c', after', congrArg _ hsplit, List.forall_mem_cons.mpr ⟨hmark, hgap⟩, ?_,
              hc'⟩
            simp only [List.length_cons]
            omega
      obtain ⟨gap, c, after, hgapSplit, hgap, hle, hc⟩ := hfirst w hw (trail isbnInner isbnChar (22 - n) rest)
      rw [← hsplit] at hgapSplit
      rw [hends gap c after hgapSplit hgap (by omega)] at hc
      cases hc
  · rintro ⟨hn, htrail⟩
    refine ⟨hn, fun gap c after hsplit hgap hlength => ?_⟩
    rcases hcases with ⟨-, hnone⟩ | ⟨w, d, hread, -, -, -⟩
    · refine hnone gap c after hsplit (fun e he => ?_) (by omega)
      rw [isbnInner, Bool.or_eq_true, Bool.or_eq_true, decide_eq_true_eq]
      exact (hgap e he).imp_left Or.inr
    · rw [htrail] at hread
      have hlength := congrArg List.length hread
      simp only [List.length_append, List.length_cons] at hlength
      omega

/-! ### The numbers -/

theorem cleanIsbn_ofList (cs : List Char) : cleanIsbn (String.ofList cs) = cs.filter isbnChar := by
  rw [cleanIsbn, String.toList_ofList]
  rfl

theorem validateIsbn_length {value isbn : String} (h : validateIsbn value = some isbn) :
    (cleanIsbn value).length = 10 ∨ (cleanIsbn value).length = 13 := by
  rcases valid_of_validateIsbn h with hten | hthirteen
  · have hlength := hten.length
    rw [upperX, List.length_map] at hlength
    exact .inl hlength
  · exact .inr hthirteen.1

/-- A number that is read on has another canonical form, or none. -/
theorem eq_of_length_ten {ds : List Char} (h : ds.length = 10) :
    ∃ a0 a1 a2 a3 a4 a5 a6 a7 a8 a9, ds = [a0, a1, a2, a3, a4, a5, a6, a7, a8, a9] := by
  refine ⟨ds[0], ds[1], ds[2], ds[3], ds[4], ds[5], ds[6], ds[7], ds[8], ds[9],
    List.ext_getElem h fun i _ hi => ?_⟩
  rcases i with _ | _ | _ | _ | _ | _ | _ | _ | _ | _ | i <;> first | rfl | (simp at hi; omega)

theorem validateIsbn_extended {value longer isbn : String} {more : List Char}
    (h : validateIsbn value = some isbn) (hmore : more ≠ [])
    (hclean : cleanIsbn longer = cleanIsbn value ++ more) : validateIsbn longer ≠ some isbn := by
  intro hlonger
  have hlength := validateIsbn_length h
  have hlength' := validateIsbn_length hlonger
  have hpos : 0 < more.length := List.length_pos_of_ne_nil hmore
  rw [hclean, List.length_append] at hlength'
  -- an ISBN-10 that three digits turn into an ISBN-13 is left
  have hten : (cleanIsbn value).length = 10 := by omega
  rcases valid_of_validateIsbn hlonger with hvalid | hvalid
  · have := hvalid.length
    rw [upperX, List.length_map, hclean, List.length_append] at this
    omega
  rcases valid_of_validateIsbn h with hvalue | hvalue
  swap
  · have := hvalue.1
    omega
  have hdigits : ∀ c ∈ cleanIsbn value, c.isDigit = true :=
    fun c hc => hvalid.2.1 c (by rw [hclean]; exact List.mem_append_left _ hc)
  have hupper : upperX (cleanIsbn value) = cleanIsbn value := by
    rw [upperX]
    refine (List.map_congr_left fun c hc => ?_).trans (List.map_id _)
    refine if_neg ?_
    rintro rfl
    exact absurd (hdigits _ hc) (by decide)
  rw [validateIsbn_of_isbn13 hvalid, hclean, ← h, validateIsbn_of_isbn10 hvalue, hupper,
    Option.some.injEq] at hlonger
  rw [hupper] at hvalue
  have hlist := String.ofList_injective hlonger
  generalize cleanIsbn value = ds at hlist hvalue hten
  -- its digits repeat 978
  obtain ⟨a0, a1, a2, a3, a4, a5, a6, a7, a8, a9, rfl⟩ := eq_of_length_ten hten
  simp only [List.cons_append, List.nil_append, List.take_succ_cons, List.take_zero,
    List.cons.injEq] at hlist
  obtain ⟨rfl, rfl, rfl, rfl, rfl, rfl, rfl, rfl, rfl, rfl, -⟩ := hlist
  exact absurd hvalue.check (by decide)

/-! ### Recognition -/

/-- After a plain label, the expression takes a written number and then as far as it can. -/
theorem matchIsbnContext_written {label : String} (hlabel : label ∈ plainLabels) {w ds : List Char}
    (hw : Written w ds) (h10 : 10 ≤ w.length) (h22 : w.length ≤ 22) (rest : List Char) :
    ∃ more, rest = more ++ trail isbnInner isbnChar (22 - w.length) rest ∧
      (more = [] ∨ ∃ u d, more = u ++ [d] ∧ isbnChar d = true) ∧
      matchIsbnContext (label.toList ++ (w ++ rest))
        = some (w ++ more, trail isbnInner isbnChar (22 - w.length) rest) := by
  have hmore : ∃ more, rest = more ++ trail isbnInner isbnChar (22 - w.length) rest ∧
      (more = [] ∨ ∃ u d, more = u ++ [d] ∧ isbnChar d = true) := by
    rcases trail_cases isbnInner_of_isbnChar (22 - w.length) rest with ⟨htrail, -⟩ | ⟨u, d, hsplit, -, -, hd⟩
    · exact ⟨[], htrail.symm, .inl rfl⟩
    · refine ⟨u ++ [d], ?_, .inr ⟨u, d, rfl, hd⟩⟩
      rw [List.append_assoc]
      exact hsplit
  obtain ⟨more, hsplit, hmore⟩ := hmore
  refine ⟨more, hsplit, hmore, ?_⟩
  have hgroup := head?_isbnGroup hw h10 h22 rest
  have hread : isbnLabel (label.toList ++ (w ++ rest)) = [w ++ rest] := by
    obtain ⟨c, t, rfl, hc⟩ := hw.exists_head
    exact isbnLabel_plain hlabel hc (t ++ rest)
  generalize trail isbnInner isbnChar (22 - w.length) rest = remaining at hsplit hgroup ⊢
  rw [matchIsbnContext, hread, List.findSome?_cons, hgroup, Option.map_some]
  have htake : (w ++ rest).take ((w ++ rest).length - remaining.length) = w ++ more := by
    rw [hsplit, ← List.append_assoc, List.length_append, Nat.add_sub_cancel, List.take_left]
  rw [htake]

/-- What is searched after a match is what follows the number. -/
theorem contexts_of_group {cs w more remaining : List Char}
    (h : matchIsbnContext cs = some (w ++ more, remaining)) :
    contexts cs = String.ofList (w ++ more) :: contexts (more ++ remaining) := by
  obtain ⟨-, -, -, -, -, hinner⟩ := matchIsbnContext_reads h
  rw [contexts_of_match h,
    contexts_append_of_isbnInner fun c hc => hinner c (List.mem_append_right _ hc)]

theorem contexts_written {label : String} (hlabel : label ∈ plainLabels) {s ds : List Char}
    (hs : Written s ds) {isbn : String} (hisbn : validateIsbn (String.ofList s) = some isbn)
    (rest : List Char) :
    ∃ group, contexts (label.toList ++ (s ++ rest)) = String.ofList group :: contexts rest ∧
      (validateIsbn (String.ofList group) = some isbn ↔ EndsThere s.length rest) := by
  have hlength := validateIsbn_length hisbn
  rw [cleanIsbn_ofList, hs.filter] at hlength
  have hle := hs.length_le
  rcases Nat.lt_or_ge 22 s.length with hlong | hshort
  · -- too long: what is taken has eleven or twelve digits
    obtain ⟨w, es, t, rfl, hw, hcut⟩ := hs.exists_prefix (n := 22) (by omega) (by omega)
    obtain ⟨more, hsplit, -, hmatch⟩ :=
      matchIsbnContext_written hlabel hw (by omega) (by omega) (t ++ rest)
    have hinner : ∀ c ∈ t, isbnInner c = true := fun c hc => hs.inner c (List.mem_append_right _ hc)
    refine ⟨w ++ more, ?_, iff_of_false (fun hgroup => ?_) fun hends => ?_⟩
    · rw [List.append_assoc, contexts_of_group hmatch, ← hsplit, contexts_append_of_isbnInner hinner]
    · obtain ⟨-, -, -, -, hgroupLength, -⟩ := matchIsbnContext_reads hmatch
      rw [List.length_append] at hgroupLength hlong
      have htaken : more <+: t ++ rest := ⟨_, hsplit.symm⟩
      have hstarts : more <+: t :=
        List.prefix_of_prefix_length_le htaken (List.prefix_append t rest) (by omega)
      obtain ⟨t', rfl⟩ := hstarts
      obtain ⟨u, d, hlast, hd⟩ := hs.exists_last
      have hrest : t' ≠ [] := by
        rintro rfl
        rw [List.append_nil] at hlong
        omega
      have hdropped : 0 < (t'.filter isbnChar).length := by
        refine List.length_pos_of_mem (List.mem_filter.mpr ⟨?_, hd⟩)
        have hd' : (w ++ (more ++ t')).getLast? = some d := by rw [hlast, List.getLast?_concat]
        rw [List.getLast?_append_of_ne_nil _ (by simp [hrest]),
          List.getLast?_append_of_ne_nil _ hrest] at hd'
        exact List.mem_of_getLast? hd'
      have hdigits := hs.filter
      rw [List.filter_append, List.filter_append, hw.filter] at hdigits
      have hlt := hw.length_lt
      have hcount := validateIsbn_length hgroup
      rw [cleanIsbn_ofList, List.filter_append, hw.filter] at hcount
      rw [← hdigits] at hlength
      simp only [List.length_append] at hlength hcount
      omega
    · exact absurd hends.1 (by omega)
  · obtain ⟨more, hsplit, hmore, hmatch⟩ := matchIsbnContext_written hlabel hs (by omega) hshort rest
    refine ⟨s ++ more, ?_, ?_⟩
    · rw [contexts_of_group hmatch, ← hsplit]
    · rw [endsThere_iff]
      rcases hmore with rfl | ⟨u, d, rfl, hd⟩
      · rw [List.append_nil]
        exact iff_of_true hisbn ⟨hshort, hsplit.symm⟩
      · have hdigit : (u ++ [d]).filter isbnChar ≠ [] := List.ne_nil_of_mem
          (List.mem_filter.mpr ⟨List.mem_append_right _ (List.mem_singleton_self d), hd⟩)
        refine iff_of_false (validateIsbn_extended hisbn hdigit ?_) ?_
        · rw [cleanIsbn_ofList, cleanIsbn_ofList, List.filter_append]
        · rintro ⟨-, htrail⟩
          have hlengths := congrArg List.length hsplit
          rw [htrail] at hlengths
          simp only [List.length_append, List.length_singleton] at hlengths
          omega

theorem mem_isbnCandidates {isbn text : String} :
    isbn ∈ isbnCandidates text ↔ ∃ group ∈ contexts text.toList, validateIsbn group = some isbn := by
  rw [isbnCandidates, distinct, List.mem_dedup, List.mem_filterMap, isbnContexts_eq]

theorem exists_I_of_plainLabels {label : String} (h : label ∈ plainLabels) :
    ∃ tail, label.toList = 'I' :: tail := by
  simp only [plainLabels, List.mem_cons, List.not_mem_nil, or_false] at h
  rcases h with rfl | rfl | rfl | rfl | rfl | rfl <;> exact ⟨_, rfl⟩

/-- What is found is labelled. -/
theorem exists_label_of_mem_contexts {cs : List Char} {group : String} (h : group ∈ contexts cs) :
    ∃ before label after, cs = before ++ label ++ group.toList ++ after ∧ IsLabel label := by
  have hlength : ∀ (n : ℕ) (cs : List Char), cs.length < n → group ∈ contexts cs →
      ∃ before label after, cs = before ++ label ++ group.toList ++ after ∧ IsLabel label := by
    intro n
    induction n with
    | zero => exact fun cs hlength => absurd hlength (Nat.not_lt_zero _)
    | succ n ih =>
      intro cs hlength h
      cases hmatch : matchIsbnContext cs with
      | none =>
        cases cs with
        | nil => exact absurd h List.not_mem_nil
        | cons c cs =>
          rw [contexts_cons_of_none hmatch] at h
          obtain ⟨before, label, after, rfl, hlabel⟩ :=
            ih cs (by rw [List.length_cons] at hlength; omega) h
          exact ⟨c :: before, label, after, rfl, hlabel⟩
      | some found =>
        obtain ⟨taken, rest⟩ := found
        have hlt := length_lt_of_match hmatch
        obtain ⟨label, hlabel, hsplit, -, -, -⟩ := matchIsbnContext_reads hmatch
        rw [contexts_of_match hmatch] at h
        rcases List.mem_cons.mp h with rfl | h
        · exact ⟨[], label, rest, by rw [hsplit, String.toList_ofList]; rfl, hlabel⟩
        · obtain ⟨before, label', after, hrest, hlabel'⟩ := ih rest (by omega) h
          refine ⟨label ++ taken ++ before, label', after, ?_, hlabel'⟩
          rw [hsplit, hrest]
          simp only [List.append_assoc]
  exact hlength (cs.length + 1) cs (Nat.lt_succ_self _) h

/-- **Labelled ISBNs.** A labelled ISBN is recognized exactly when it is no longer than twenty-two
characters and nothing that could be taken with it follows, or it is recognized elsewhere in the text
too. Whatever is recognized is the canonical form of a valid ISBN after a label. -/
theorem labelled_isbn {label s : String} {ds : List Char} {isbn : String}
    (hlabel : label ∈ plainLabels) (hs : Written s.toList ds) (hisbn : validateIsbn s = some isbn)
    (before rest : String) :
    (isbn ∈ isbnCandidates (before ++ label ++ s ++ rest) ↔
      EndsThere s.toList.length rest.toList ∨ isbn ∈ isbnCandidates before ∨
        isbn ∈ isbnCandidates rest) ∧
    ∀ text, ∀ isbn ∈ isbnCandidates text, ∃ before label s after,
      text.toList = before ++ label ++ s ++ after ∧ IsLabel label ∧
        validateIsbn (String.ofList s) = some isbn := by
  constructor
  · rw [← String.ofList_toList (s := s)] at hisbn
    obtain ⟨group, hcontexts, hgroup⟩ := contexts_written hlabel hs hisbn rest.toList
    obtain ⟨tail, htail⟩ := exists_I_of_plainLabels hlabel
    have htext : contexts (before ++ label ++ s ++ rest).toList
        = contexts before.toList ++ String.ofList group :: contexts rest.toList := by
      rw [← hcontexts]
      simp only [String.toList_append, List.append_assoc]
      rw [htail, List.cons_append, contexts_append]
    rw [mem_isbnCandidates, mem_isbnCandidates, mem_isbnCandidates, htext, ← hgroup]
    constructor
    · rintro ⟨found, hfound, hvalid⟩
      rcases List.mem_append.mp hfound with hfound | hfound
      · exact .inr (.inl ⟨found, hfound, hvalid⟩)
      · rcases List.mem_cons.mp hfound with rfl | hfound
        · exact .inl hvalid
        · exact .inr (.inr ⟨found, hfound, hvalid⟩)
    · rintro (hvalid | ⟨found, hfound, hvalid⟩ | ⟨found, hfound, hvalid⟩)
      · exact ⟨_, List.mem_append_right _ List.mem_cons_self, hvalid⟩
      · exact ⟨found, List.mem_append_left _ hfound, hvalid⟩
      · exact ⟨found, List.mem_append_right _ (List.mem_cons_of_mem _ hfound), hvalid⟩
  · intro text isbn hisbn
    obtain ⟨group, hgroup, hvalid⟩ := mem_isbnCandidates.mp hisbn
    obtain ⟨before, label, after, hsplit, hlabel⟩ := exists_label_of_mem_contexts hgroup
    exact ⟨before, label, group.toList, after, hsplit, hlabel, by rwa [String.ofList_toList]⟩

/-- An ISBN-10 of four groups. -/
theorem written_four_groups : Written "0-306-40615-2".toList "0306406152".toList :=
  .apart rfl (.inr rfl) (.next rfl (.next rfl (.apart rfl (.inr rfl) (.next rfl (.next rfl (.next rfl
    (.next rfl (.apart rfl (.inr rfl) (.last rfl)))))))))

/-- At the end of the text an ISBN is recognized. -/
theorem isbn_at_end :
    "9780306406157" ∈ isbnCandidates ("Copyright " ++ "ISBN " ++ "0-306-40615-2" ++ "") := by
  have hlabel : "ISBN " ∈ plainLabels := by decide
  have hisbn : validateIsbn "0-306-40615-2" = some "9780306406157" := by decide +kernel
  refine (labelled_isbn hlabel written_four_groups hisbn "Copyright " "").1.mpr
    (.inl ⟨by decide, fun gap c after h => ?_⟩)
  exact absurd h.symm (by simp)

/-- On one line with the year it is not. -/
theorem year_after_isbn :
    "ISBN " ∈ plainLabels ∧ (∃ ds, Written "0-306-40615-2".toList ds) ∧
      validateIsbn "0-306-40615-2" = some "9780306406157" ∧
      "9780306406157" ∉ isbnCandidates ("Copyright " ++ "ISBN " ++ "0-306-40615-2" ++ " 2005") := by
  refine ⟨by decide, ⟨_, written_four_groups⟩, by decide +kernel, by decide +kernel⟩

end Bookwarden
