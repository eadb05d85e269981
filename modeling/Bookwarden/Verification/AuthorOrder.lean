import Bookwarden.Lib.Pairing
import Bookwarden.Verification.Total

/-!
# The order of the authors

Lists of authors are compared as sets, so their order should not matter. It does in one place: the
match with transliteration tolerance puts the set of normal forms next to the list of names, and looks
at a normal form and the name that happens to stand there as at one author.

Whether some order, or every order, makes that match is a matter of counting the normal forms without
a transliteration and the names without a common surname.

## Main definitions

* `AlwaysPaired`, `SometimesPaired` — the counts
* `NamesMatch`, `AuthorRuleSound` — what is asked of the rule

## Main results

* `forall_matchedInPairs_iff`, `exists_matchedInPairs_iff` — the match in every and in some order
* `authorRuleSound_iff` — where the order does not matter
-/

namespace Bookwarden.Verification

variable (py : RuleRuntime)

/-- The distinct normal forms of names. -/
def displaySet (names : List String) : List String :=
  ((named names).map (normalizeDisplay py)).dedup

/-- A normal form has a transliteration among others. -/
def hasTransliteration (forms : List String) (e : String) : Bool :=
  forms.any fun f => isTransliterationMatch py e f

/-- A name has a surname in common with one of others. -/
def hasSurname (names : List String) (a : String) : Bool := names.any fun b => surnameMatch py a b

/-- Half of the match, in every order: no normal form is without a transliteration, or every name has
a surname in common with so many of the others that they cannot all be cut off. -/
def AlwaysCovered (names others : List String) : Prop :=
  (∀ e ∈ displaySet py names, hasTransliteration py (displaySet py others) e = true) ∨
    ∀ a ∈ names, others.length - (displaySet py others).length < others.countP (surnameMatch py a)

/-- The match, in every order. -/
def AlwaysPaired (declared observed : List String) : Prop :=
  AlwaysCovered py declared observed ∧ AlwaysCovered py observed declared

/-- Half of the match, in some order: the normal forms without a transliteration and the names without
a common surname fit next to each other. -/
def CanBeCovered (forms otherForms names others : List String) : Prop :=
  forms.countP (fun e => !hasTransliteration py otherForms e) +
    names.countP (fun a => !hasSurname py others a) ≤ forms.length

/-- The match, in some order: as many names as there are normal forms are left on both sides. -/
def SometimesPaired (declared observed : List String) : Prop :=
  ∃ declared₀ observed₀ : List String, declared₀.Subperm declared ∧ observed₀.Subperm observed ∧
    declared₀.length = (displaySet py declared).length ∧
    observed₀.length = (displaySet py observed).length ∧
    CanBeCovered py (displaySet py declared) (displaySet py observed) declared₀ observed₀ ∧
    CanBeCovered py (displaySet py observed) (displaySet py declared) observed₀ declared₀

variable {py}

/-! ### The match as a pairing -/

theorem named_named (l : List String) : named (named l) = named l := by
  simp [named, List.filter_filter]

theorem named_of_perm {l l' : List String} (h : l'.Perm l) : (named l').Perm (named l) := h.filter _

theorem length_displaySet_le (l : List String) : (displaySet py l).length ≤ l.length := by
  have hdedup : (displaySet py l).length ≤ ((named l).map (normalizeDisplay py)).length :=
    (List.dedup_sublist _).length_le
  rw [List.length_map] at hdedup
  exact hdedup.trans (List.length_filter_le _ _)

theorem any_zip_iff {α β : Type} {p : α → Bool} {q : β → Bool} {xs : List α} {ys : List β}
    (h : xs.length ≤ ys.length) : ((xs.zip ys).any fun z => p z.1 || q z.2) = true ↔
      xs.any p = true ∨ (ys.take xs.length).any q = true := by
  induction xs generalizing ys with
  | nil => simp
  | cons x xs ih =>
    cases ys with
    | nil => cases h
    | cons y ys =>
      rw [List.zip_cons_cons, List.any_cons, List.any_cons, List.length_cons, List.take_succ_cons,
        List.any_cons, Bool.or_eq_true, ih (Nat.le_of_succ_le_succ h)]
      simp only [Bool.or_eq_true]
      tauto

theorem pairsCovered_iff {forms otherForms names others : List String}
    (h : otherForms.length ≤ others.length) :
    pairsCovered py (forms.zip names) (otherForms.zip others) = true ↔
      ∀ z ∈ forms.zip names, hasTransliteration py otherForms z.1 = true ∨
        hasSurname py (others.take otherForms.length) z.2 = true := by
  rw [pairsCovered, List.all_eq_true]
  exact forall₂_congr fun z _ => any_zip_iff h

theorem hasTransliteration_congr {forms forms' : List String} (h : forms'.Perm forms) (e : String) :
    hasTransliteration py forms' e = hasTransliteration py forms e := h.any_eq

theorem hasSurname_congr {names names' : List String} (h : names'.Perm names) (a : String) :
    hasSurname py names' a = hasSurname py names a := h.any_eq

/-- Two lists with the orders of their normal forms. -/
structure Arranged (declared observed : List String) (e f d o : List String) : Prop where
  declForms : e.Perm (displaySet py declared)
  obsForms : f.Perm (displaySet py observed)
  decl : d.Perm declared
  obs : o.Perm observed

variable {declared observed e f d o : List String}

theorem matchedInPairs_iff (h : @Arranged py declared observed e f d o)
    (hlength : declared.length = observed.length) :
    matchedInPairs py e f d o = true ↔
      (∀ z ∈ e.zip d, hasTransliteration py (displaySet py observed) z.1 = true ∨
        hasSurname py (o.take (displaySet py observed).length) z.2 = true) ∧
      ∀ z ∈ f.zip o, hasTransliteration py (displaySet py declared) z.1 = true ∨
        hasSurname py (d.take (displaySet py declared).length) z.2 = true := by
  have hlengths : d.length = o.length := by
    rw [h.decl.length_eq, h.obs.length_eq, hlength]
  have hf : f.length ≤ o.length := by
    rw [h.obsForms.length_eq, h.obs.length_eq]
    exact length_displaySet_le observed
  have he : e.length ≤ d.length := by
    rw [h.declForms.length_eq, h.decl.length_eq]
    exact length_displaySet_le declared
  rw [matchedInPairs, Bool.and_eq_true, Bool.and_eq_true, decide_eq_true_eq, pairsCovered_iff hf,
    pairsCovered_iff he, h.obsForms.length_eq, h.declForms.length_eq]
  simp only [hlengths, true_and, hasTransliteration_congr h.obsForms,
    hasTransliteration_congr h.declForms]

/-! ### Some order, every order -/

theorem zip_append_of_length {α β : Type} {xs : List α} {ys zs : List β}
    (h : xs.length = ys.length) : xs.zip (ys ++ zs) = xs.zip ys := by
  have hzip := @List.zip_append _ _ xs [] ys zs h
  rwa [List.append_nil, List.zip_nil_left, List.append_nil] at hzip

theorem zip_take_of_length {α β : Type} {xs : List α} {ys : List β} (h : xs.length ≤ ys.length) :
    xs.zip ys = xs.zip (ys.take xs.length) := by
  have htake : (ys.take xs.length).length = xs.length := by
    rw [List.length_take]
    omega
  conv_lhs => rw [← List.take_append_drop xs.length ys]
  exact zip_append_of_length htake.symm

theorem perm_append_of_subperm {l l₀ : List String} (h : l₀.Subperm l) :
    ∃ rest, l.Perm (l₀ ++ rest) := by
  obtain ⟨l₁, hperm, hsub⟩ := h
  obtain ⟨rest, hrest⟩ := hsub.exists_perm_append
  exact ⟨rest, hrest.trans (hperm.append_right rest)⟩

/-- Half of the match, from an arrangement. -/
theorem canBeCovered_of_zip {forms others : List String} {e d : List String}
    (he : e.Perm (displaySet py declared)) (hd : d.Perm declared)
    (h : ∀ z ∈ e.zip d, hasTransliteration py forms z.1 = true ∨
      hasSurname py others z.2 = true) :
    CanBeCovered py (displaySet py declared) forms (d.take (displaySet py declared).length)
      others := by
  have hle : e.length ≤ d.length := by
    rw [he.length_eq, hd.length_eq]
    exact length_displaySet_le declared
  rw [CanBeCovered, ← he.countP_eq, ← he.length_eq]
  rw [zip_take_of_length hle] at h
  exact Pairing.countP_le_of_zip (by rw [List.length_take]; omega) h

theorem exists_matchedInPairs_iff (hlength : declared.length = observed.length) :
    (∃ e f d o, @Arranged py declared observed e f d o ∧ matchedInPairs py e f d o = true) ↔
      SometimesPaired py declared observed := by
  constructor
  · rintro ⟨e, f, d, o, h, hmatched⟩
    rw [matchedInPairs_iff h hlength] at hmatched
    have hd := @length_displaySet_le py declared
    have ho := @length_displaySet_le py observed
    refine ⟨d.take (displaySet py declared).length, o.take (displaySet py observed).length,
      (List.take_sublist _ _).subperm.trans h.decl.subperm,
      (List.take_sublist _ _).subperm.trans h.obs.subperm, ?_, ?_,
      canBeCovered_of_zip h.declForms h.decl hmatched.1,
      canBeCovered_of_zip h.obsForms h.obs hmatched.2⟩
    · rw [List.length_take, h.decl.length_eq, min_eq_left hd]
    · rw [List.length_take, h.obs.length_eq, min_eq_left ho]
  · rintro ⟨d₀, o₀, hdsub, hosub, hdlength, holength, hdecl, hobs⟩
    obtain ⟨e, d₁, he, hd₁, hpairs⟩ := (Pairing.exists_pairing_iff hdlength.symm).mpr hdecl
    obtain ⟨f, o₁, hf, ho₁, hpairs'⟩ := (Pairing.exists_pairing_iff holength.symm).mpr hobs
    obtain ⟨drest, hdrest⟩ := perm_append_of_subperm hdsub
    obtain ⟨orest, horest⟩ := perm_append_of_subperm hosub
    have harranged : @Arranged py declared observed e f (d₁ ++ drest) (o₁ ++ orest) :=
      ⟨he, hf, (hd₁.append_right _).trans hdrest.symm, (ho₁.append_right _).trans horest.symm⟩
    have hdtake : (d₁ ++ drest).take (displaySet py declared).length = d₁ := by
      rw [← hdlength, ← hd₁.length_eq, List.take_left']
      rfl
    have hotake : (o₁ ++ orest).take (displaySet py observed).length = o₁ := by
      rw [← holength, ← ho₁.length_eq, List.take_left']
      rfl
    refine ⟨e, f, d₁ ++ drest, o₁ ++ orest, harranged, (matchedInPairs_iff harranged hlength).mpr ?_⟩
    rw [zip_append_of_length (by rw [he.length_eq, hd₁.length_eq, hdlength]),
      zip_append_of_length (by rw [hf.length_eq, ho₁.length_eq, holength]), hdtake, hotake]
    simp only [hasSurname_congr hd₁, hasSurname_congr ho₁]
    exact ⟨hpairs, hpairs'⟩

/-- Half of the match, in every order. -/
theorem forall_covered_iff {names others : List String} :
    (∀ e d o : List String, e.Perm (displaySet py names) → d.Perm names → o.Perm others →
      ∀ z ∈ e.zip d, hasTransliteration py (displaySet py others) z.1 = true ∨
        hasSurname py (o.take (displaySet py others).length) z.2 = true) ↔
      AlwaysCovered py names others := by
  have hk := @length_displaySet_le py others
  rw [AlwaysCovered]
  constructor
  · intro h
    rw [or_iff_not_imp_left]
    intro hgap a ha
    rw [← Pairing.forall_take_iff hk]
    intro o ho
    have hcovered := (Pairing.forall_pairing_iff
      (q := hasSurname py (o.take (displaySet py others).length))).mp
      fun e d he hd => h e d o he hd ho
    have hsurname := hcovered.resolve_left hgap a ha
    rw [hasSurname, List.any_eq_true] at hsurname
    exact hsurname
  · intro h e d o he hd ho
    refine Pairing.forall_pairing_iff.mpr ?_ e d he hd
    refine h.imp_right fun hmany a ha => ?_
    obtain ⟨b, hb, hmatch⟩ := (Pairing.forall_take_iff hk).mpr (hmany a ha) o ho
    rw [hasSurname, List.any_eq_true]
    exact ⟨b, hb, hmatch⟩

theorem forall_matchedInPairs_iff (hlength : declared.length = observed.length) :
    (∀ e f d o, @Arranged py declared observed e f d o →
      matchedInPairs py e f d o = true) ↔ AlwaysPaired py declared observed := by
  rw [AlwaysPaired, ← forall_covered_iff, ← forall_covered_iff]
  constructor
  · intro h
    constructor
    · intro e d o he hd ho
      have harranged : @Arranged py declared observed e (displaySet py observed) d o :=
        ⟨he, .refl _, hd, ho⟩
      exact ((matchedInPairs_iff harranged hlength).mp (h _ _ _ _ harranged)).1
    · intro f o d hf ho hd
      have harranged : @Arranged py declared observed (displaySet py declared) f d o :=
        ⟨.refl _, hf, hd, ho⟩
      exact ((matchedInPairs_iff harranged hlength).mp (h _ _ _ _ harranged)).2
  · rintro ⟨hdecl, hobs⟩ e f d o harranged
    rw [matchedInPairs_iff harranged hlength]
    exact ⟨hdecl e d o harranged.declForms harranged.decl harranged.obs,
      hobs f o d harranged.obsForms harranged.obs harranged.decl⟩

/-! ### What does not depend on the order -/

/-- What is compared of two verdicts. -/
def outcomeOf (v : FieldVerdict) : VerdictKind × ℕ × List String × Bool :=
  (v.verdict, v.confidence, v.riskFlags, v.requiresReview)

theorem any_any_perm {α β : Type} {p : α → β → Bool} {xs xs' : List α} {ys ys' : List β}
    (hx : xs'.Perm xs) (hy : ys'.Perm ys) :
    (xs'.any fun x => ys'.any (p x)) = xs.any fun x => ys.any (p x) := by
  rw [hx.any_eq]
  exact congrArg xs.any (funext fun x => hy.any_eq)

theorem all_any_perm {α β : Type} {p : α → β → Bool} {xs xs' : List α} {ys ys' : List β}
    (hx : xs'.Perm xs) (hy : ys'.Perm ys) :
    (xs'.all fun x => ys'.any (p x)) = xs.all fun x => ys.any (p x) := by
  rw [hx.all_eq]
  exact congrArg xs.all (funext fun x => hy.any_eq)

theorem sameSet_perm {a a' b b' : List String} (ha : a'.Perm a) (hb : b'.Perm b) :
    sameSet a' b' = sameSet a b := by
  rw [sameSet, sameSet, ha.all_eq, hb.all_eq]
  congr 1
  · exact congrArg a.all (funext fun x => by simp only [hb.mem_iff])
  · exact congrArg b.all (funext fun x => by simp only [ha.mem_iff])

theorem extraNames_perm {a a' b b' : List String} (ha : a'.Perm a) (hb : b'.Perm b) :
    (extraNames py a' b').Perm (extraNames py a b) := by
  have hfun : (fun x => !b'.any fun y => isTransliterationMatch py x y || surnameMatch py x y) =
      fun x => !b.any fun y => isTransliterationMatch py x y || surnameMatch py x y :=
    funext fun x => by rw [hb.any_eq]
  rw [extraNames, extraNames, hfun]
  exact ha.filter _

variable {pageRange : Option String} {quality : String}

/-- The comparison of names has the same outcome in two orders that both match or both do not. -/
theorem compareAuthors_perm {e' f' d' o' : List String} (he : e'.Perm e) (hf : f'.Perm f)
    (hd : d'.Perm d) (ho : o'.Perm o)
    (hmatched : matchedInPairs py e' f' d' o' = matchedInPairs py e f d o) :
    outcomeOf (compareAuthors py e' f' d' o' pageRange) =
      outcomeOf (compareAuthors py e f d o pageRange) := by
  have hsentinels : e'.all (· ∈ sentinels) = e.all (· ∈ sentinels) := he.all_eq
  have hcommon : e'.any (· ∈ f') = e.any (· ∈ f) := by
    rw [he.any_eq]
    exact congrArg e.any (funext fun x => by simp only [hf.mem_iff])
  have hcross : cross py e' f' = cross py e f := any_any_perm he hf
  have hsurnames : (d'.any fun a => o'.any fun b => surnameMatch py a b) =
      d.any fun a => o.any fun b => surnameMatch py a b := any_any_perm hd ho
  have hdecl : coveredBy py e' f' = coveredBy py e f := all_any_perm he hf
  have hobs : coveredBy py f' e' = coveredBy py f e := all_any_perm hf he
  have hextra : extraNames py d' o' = [] ↔ extraNames py d o = [] := by
    rw [← List.length_eq_zero_iff, (extraNames_perm hd ho).length_eq, List.length_eq_zero_iff]
  simp only [compareAuthors, hmatched, hsentinels, hcommon, hcross, hsurnames, hdecl, hobs, hextra]
  split_ifs <;> simp [outcomeOf, hextra]

/-- Only the match in pairs confirms. -/
theorem compareAuthors_confirmed_iff :
    (compareAuthors py e f d o pageRange).verdict = .confirmed ↔
      matchedInPairs py e f d o = true := by
  simp only [compareAuthors]
  split_ifs <;> simp [*]

theorem mapM_toOption_perm {g : String → Except PyError String} {l l' : List String}
    (h : l'.Perm l) : (∃ e, l'.mapM g = .error e) ∧ (∃ e, l.mapM g = .error e) ∨
      ∃ k k', l'.mapM g = .ok k' ∧ l.mapM g = .ok k ∧ k'.Perm k := by
  by_cases hok : ∀ a ∈ l, ∃ b, g a = .ok b
  · have hvalue : ∀ a ∈ l, g a = .ok ((g a).toOption.getD "") := by
      intro a ha
      obtain ⟨b, hb⟩ := hok a ha
      rw [hb]
      rfl
    exact .inr ⟨_, _, mapM_ok fun a ha => hvalue a (h.mem_iff.mp ha), mapM_ok hvalue, h.map _⟩
  · push Not at hok
    obtain ⟨a, ha, hnone⟩ := hok
    have herror : ∃ e, g a = .error e := by
      cases hga : g a with
      | error e => exact ⟨e, rfl⟩
      | ok b => exact absurd hga (hnone b)
    obtain ⟨e, he⟩ := herror
    exact .inl ⟨mapM_error (h.mem_iff.mpr ha) he, mapM_error ha he⟩

theorem authorsEqual_perm {d' o' : List String} (hd : d'.Perm d) (ho : o'.Perm o) :
    (authorsEqual py d' o').toOption = (authorsEqual py d o).toOption := by
  have hdn := named_of_perm hd
  have hon := named_of_perm ho
  rw [authorsEqual, authorsEqual, sameSet_perm (hdn.map _) (hon.map _)]
  cases sameSet ((named d).map (normalizeString py)) ((named o).map (normalizeString py)) with
  | true => rfl
  | false =>
    rw [sameSet_perm (hdn.map (normalizeDisplay py)) (hon.map (normalizeDisplay py))]
    cases sameSet ((named d).map (normalizeDisplay py)) ((named o).map (normalizeDisplay py)) with
    | true => rfl
    | false =>
      rcases mapM_toOption_perm (g := normalizeSort py) hdn with ⟨⟨x, hx⟩, y, hy⟩ | ⟨k, k', hk', hk, hkk⟩
      · rw [hx, hy]
        rfl
      · rcases mapM_toOption_perm (g := normalizeSort py) hon with
          ⟨⟨x, hx⟩, y, hy⟩ | ⟨l, l', hl', hl, hll⟩
        · rw [hk, hk', hx, hy]
          rfl
        · rw [hk, hk', hl, hl']
          simp [bind, Except.bind, pure, Except.pure, sameSet_perm hkk hll]

/-! ### Orders of sets -/

/-- Every order of a set is some order. -/
theorem exists_setOrder {l e : List String} (hnodup : e.Nodup) (hmem : ∀ s, s ∈ e ↔ s ∈ l) :
    ∃ order : SetOrder, order.enumerate l = e := by
  classical
  refine ⟨⟨fun l' => if l' = l then e else l'.dedup, fun l' => ?_, fun l' s => ?_⟩, if_pos rfl⟩
  · split
    · exact hnodup
    · exact List.nodup_dedup l'
  · split
    · rename_i heq
      rw [heq]
      exact hmem s
    · exact List.mem_dedup

/-- The normal forms, in the order of a set. -/
def orderedForms (py : RuleRuntime) (order : SetOrder) (names : List String) : List String :=
  order.enumerate ((named names).map (normalizeDisplay py))

theorem orderedForms_perm {order : SetOrder} {names names' : List String}
    (h : names'.Perm names) : (orderedForms py order names').Perm (displaySet py names) := by
  refine (List.perm_ext_iff_of_nodup (order.nodup _) (List.nodup_dedup _)).mpr fun s => ?_
  rw [List.mem_dedup, order.mem]
  exact ((named_of_perm h).map _).mem_iff

theorem exists_orderedForms {names names' : List String} (h : names'.Perm names) {e : List String}
    (he : e.Perm (displaySet py names)) : ∃ order, orderedForms py order names' = e := by
  refine exists_setOrder (he.nodup_iff.mpr (List.nodup_dedup _)) fun s => ?_
  rw [he.mem_iff, displaySet, List.mem_dedup]
  exact ((named_of_perm h).map _).mem_iff.symm

theorem authorList_strs (l : List String) : authorList py (.strs l) = named l := by
  rw [Value.strs, authorList, named, List.filter_map, List.map_map]
  have htruthy : Value.truthy ∘ Value.str = fun a => decide (a ≠ "") := rfl
  have htext : Value.toStr py ∘ Value.str = id := rfl
  rw [htruthy, htext, List.map_id]

/-! ### The rule -/

/-- The outcome of the rule on two lists of names, if it returns. -/
def authorOutcome (py : RuleRuntime) (declOrder obsOrder : SetOrder) (declared observed : List String)
    (pageRange : Option String) (quality : String) :
    Option (VerdictKind × ℕ × List String × Bool) :=
  (verifyAuthors py declOrder obsOrder (.strs declared) (.strs observed) pageRange
    quality).toOption.map outcomeOf

/-- Two names match: exactly in one of the normal forms, by transliteration or by surname. -/
def NamesMatch (py : RuleRuntime) (a b : String) : Prop :=
  normalizeString py a = normalizeString py b ∨ normalizeDisplay py a = normalizeDisplay py b ∨
    (∃ sort, normalizeSort py a = .ok sort ∧ normalizeSort py b = .ok sort) ∨
    isTransliterationMatch py (normalizeDisplay py a) (normalizeDisplay py b) = true ∨
    surnameMatch py a b = true

/-- What is asked of the rule at two lists of names. -/
structure AuthorRuleSound (py : RuleRuntime) (declared observed : List String)
    (pageRange : Option String) (quality : String) : Prop where
  /-- Neither the order of the lists nor that of the sets matters. -/
  orderFree : ∀ declared' observed', declared'.Perm declared → observed'.Perm observed →
    ∀ s t s' t', authorOutcome py s t declared observed pageRange quality =
      authorOutcome py s' t' declared' observed' pageRange quality
  /-- Lists are confirmed only if every name matches one of the others. -/
  matched : ∀ s t v, verifyAuthors py s t (.strs declared) (.strs observed) pageRange quality = .ok v →
    v.verdict = .confirmed →
      (∀ a ∈ named declared, ∃ b ∈ named observed, NamesMatch py a b) ∧
        ∀ b ∈ named observed, ∃ a ∈ named declared, NamesMatch py b a

/-- Where the order does not matter: the names are equal as sets, or not compared, or their numbers
differ, or every order makes the match, or none does. -/
def OrderIrrelevant (py : RuleRuntime) (declared observed : List String) : Prop :=
  authorsEqual py declared observed ≠ .ok false ∨ declared.length ≠ observed.length ∨
    AlwaysPaired py declared observed ∨ ¬SometimesPaired py declared observed

theorem authorOutcome_eq {s t : SetOrder} (hd : named declared ≠ []) (ho : named observed ≠ []) :
    authorOutcome py s t declared observed pageRange quality =
      (authorsEqual py (named declared) (named observed)).toOption.map fun same =>
        if same then (if quality = "low" then (.ambiguous, 55, [], false) else (.confirmed, 99, [], false))
        else outcomeOf (compareAuthors py (orderedForms py s (named declared))
          (orderedForms py t (named observed)) (named declared) (named observed) pageRange) := by
  rw [authorOutcome, verifyAuthors]
  simp only [authorList_strs, hd, ho, false_and, if_false]
  cases authorsEqual py (named declared) (named observed) with
  | error e => rfl
  | ok same =>
    cases same with
    | true => by_cases hquality : quality = "low" <;> simp [hquality] <;> rfl
    | false => rfl

/-! ### Names that match -/

theorem sameSet_comm (a b : List String) : sameSet a b = sameSet b a := Bool.and_comm _ _

theorem exists_of_sameSet {f : String → String} {a b : List String}
    (h : sameSet (a.map f) (b.map f) = true) {x : String} (hx : x ∈ a) :
    ∃ y ∈ b, f x = f y := by
  rw [sameSet, Bool.and_eq_true, List.all_eq_true] at h
  have hmem := h.1 (f x) (List.mem_map_of_mem hx)
  rw [decide_eq_true_eq, List.mem_map] at hmem
  obtain ⟨y, hy, heq⟩ := hmem
  exact ⟨y, hy, heq.symm⟩

/-- The values of a loop that returned. -/
theorem eq_map_of_mapM {g : String → Except PyError String} {l k : List String}
    (h : l.mapM g = .ok k) :
    (∀ a ∈ l, g a = .ok ((g a).toOption.getD "")) ∧ k = l.map fun a => (g a).toOption.getD "" := by
  have hok := ContentVerificationEngine.exists_mapM_iff.mp ⟨k, h⟩
  have hvalue : ∀ a ∈ l, g a = .ok ((g a).toOption.getD "") := by
    intro a ha
    obtain ⟨b, hb⟩ := hok a ha
    rw [hb]
    rfl
  refine ⟨hvalue, ?_⟩
  rw [mapM_ok hvalue, Except.ok.injEq] at h
  exact h.symm

theorem authorsEqual_comm_true (h : authorsEqual py d o = .ok true) :
    authorsEqual py o d = .ok true := by
  rw [authorsEqual] at h ⊢
  rw [sameSet_comm ((named o).map (normalizeString py)),
    sameSet_comm ((named o).map (normalizeDisplay py))]
  split_ifs at h ⊢
  · rfl
  · rfl
  · cases hd : (named d).mapM (normalizeSort py) with
    | error e =>
      rw [hd] at h
      cases h
    | ok k =>
      cases ho : (named o).mapM (normalizeSort py) with
      | error e =>
        rw [hd, ho] at h
        cases h
      | ok l =>
        rw [hd, ho] at h
        have hsame : sameSet k l = true := by simpa [bind, Except.bind, pure, Except.pure] using h
        rw [sameSet_comm] at hsame
        simp [bind, Except.bind, pure, Except.pure, hsame]

theorem namesMatch_of_equal (h : authorsEqual py d o = .ok true) {a : String} (ha : a ∈ named d) :
    ∃ b ∈ named o, NamesMatch py a b := by
  rw [authorsEqual] at h
  split_ifs at h with hstring hdisplay
  · obtain ⟨b, hb, heq⟩ := exists_of_sameSet hstring ha
    exact ⟨b, hb, .inl heq⟩
  · obtain ⟨b, hb, heq⟩ := exists_of_sameSet hdisplay ha
    exact ⟨b, hb, .inr (.inl heq)⟩
  · cases hd : (named d).mapM (normalizeSort py) with
    | error e =>
      rw [hd] at h
      cases h
    | ok k =>
      cases ho : (named o).mapM (normalizeSort py) with
      | error e =>
        rw [hd, ho] at h
        cases h
      | ok l =>
        rw [hd, ho] at h
        have hsame : sameSet k l = true := by simpa [bind, Except.bind, pure, Except.pure] using h
        obtain ⟨hdvalue, rfl⟩ := eq_map_of_mapM hd
        obtain ⟨hovalue, rfl⟩ := eq_map_of_mapM ho
        obtain ⟨b, hb, heq⟩ := exists_of_sameSet hsame ha
        refine ⟨b, hb, .inr (.inr (.inl ⟨_, hdvalue a ha, ?_⟩))⟩
        rw [heq]
        exact hovalue b hb

/-- In a match that every order makes, every name matches one of the others. -/
theorem namesMatch_of_covered {names others : List String}
    (h : AlwaysCovered py (named names) (named others)) {a : String} (ha : a ∈ named names) :
    ∃ b ∈ named others, NamesMatch py a b := by
  rcases h with hforms | hmany
  · have hform : normalizeDisplay py a ∈ displaySet py (named names) := by
      rw [displaySet, List.mem_dedup, named_named]
      exact List.mem_map_of_mem ha
    have htrans := hforms _ hform
    rw [hasTransliteration, List.any_eq_true] at htrans
    obtain ⟨f, hf, hmatch⟩ := htrans
    rw [displaySet, List.mem_dedup, named_named, List.mem_map] at hf
    obtain ⟨b, hb, rfl⟩ := hf
    exact ⟨b, hb, .inr (.inr (.inr (.inl hmatch)))⟩
  · have hpos : 0 < (named others).countP (surnameMatch py a) := by
      have hcount := hmany a ha
      omega
    obtain ⟨b, hb, hmatch⟩ := List.countP_pos_iff.mp hpos
    exact ⟨b, hb, .inr (.inr (.inr (.inr hmatch)))⟩

/-! ### Where the order does not matter -/

/-- Without names on one side the order does not matter. -/
theorem authorOutcome_of_nil {declared' observed' : List String} {s t s' t' : SetOrder}
    (h : named declared = [] ∨ named observed = []) (hd : declared'.Perm declared)
    (ho : observed'.Perm observed) :
    authorOutcome py s t declared observed pageRange quality =
      authorOutcome py s' t' declared' observed' pageRange quality := by
  have hdnil : named declared' = [] ↔ named declared = [] := by
    rw [← List.length_eq_zero_iff, (named_of_perm hd).length_eq, List.length_eq_zero_iff]
  have honil : named observed' = [] ↔ named observed = [] := by
    rw [← List.length_eq_zero_iff, (named_of_perm ho).length_eq, List.length_eq_zero_iff]
  rw [authorOutcome, authorOutcome, verifyAuthors, verifyAuthors]
  simp only [authorList_strs, hdnil, honil]
  by_cases hdeclared : named declared = []
  · by_cases hobserved : named observed = []
    · rw [if_pos ⟨hdeclared, hobserved⟩, if_pos ⟨hdeclared, hobserved⟩]
    · have hboth : ¬(named declared = [] ∧ named observed = []) := fun h => hobserved h.2
      rw [if_neg hboth, if_neg hboth, if_pos hdeclared, if_pos hdeclared]
      rfl
  · have hboth : ¬(named declared = [] ∧ named observed = []) := fun h => hdeclared h.1
    have hobserved := h.resolve_left hdeclared
    rw [if_neg hboth, if_neg hboth, if_neg hdeclared, if_neg hdeclared, if_pos hobserved,
      if_pos hobserved]
    rfl

/-- The lists and orders of two runs of the rule. -/
theorem arranged_of_orders {declared' observed' : List String} (s t : SetOrder)
    (hd : declared'.Perm declared) (ho : observed'.Perm observed) :
    @Arranged py (named declared) (named observed) (orderedForms py s (named declared'))
      (orderedForms py t (named observed')) (named declared') (named observed') :=
  ⟨orderedForms_perm (named_of_perm hd), orderedForms_perm (named_of_perm ho), named_of_perm hd,
    named_of_perm ho⟩

/-- In two orders that both match or both do not, the outcome is the same. -/
theorem authorOutcome_of_perm {declared' observed' : List String} {s t s' t' : SetOrder}
    (hdne : named declared ≠ []) (hone : named observed ≠ []) (hd : declared'.Perm declared)
    (ho : observed'.Perm observed)
    (hmatched : authorsEqual py (named declared) (named observed) = .ok false →
      matchedInPairs py (orderedForms py s (named declared)) (orderedForms py t (named observed))
        (named declared) (named observed) =
      matchedInPairs py (orderedForms py s' (named declared')) (orderedForms py t' (named observed'))
        (named declared') (named observed')) :
    authorOutcome py s t declared observed pageRange quality =
      authorOutcome py s' t' declared' observed' pageRange quality := by
  have hdne' : named declared' ≠ [] := fun h => hdne (by
    rw [← List.length_eq_zero_iff, ← (named_of_perm hd).length_eq, h]
    rfl)
  have hone' : named observed' ≠ [] := fun h => hone (by
    rw [← List.length_eq_zero_iff, ← (named_of_perm ho).length_eq, h]
    rfl)
  rw [authorOutcome_eq hdne hone, authorOutcome_eq hdne' hone',
    authorsEqual_perm (named_of_perm hd) (named_of_perm ho)]
  cases hequal : authorsEqual py (named declared) (named observed) with
  | error e => rfl
  | ok same =>
    cases same with
    | true => rfl
    | false =>
      have h := @arranged_of_orders py _ _ _ _ s t (.refl declared) (.refl observed)
      have h' := @arranged_of_orders py _ _ _ _ s' t' hd ho
      exact congrArg some (compareAuthors_perm (h.declForms.trans h'.declForms.symm)
        (h.obsForms.trans h'.obsForms.symm) (h.decl.trans h'.decl.symm) (h.obs.trans h'.obs.symm)
        (hmatched hequal))

/-- An arrangement of the names is one of the lists they come from. -/
theorem exists_named_eq {l d : List String} (h : d.Perm (named l)) :
    ∃ l', l'.Perm l ∧ named l' = d := by
  have hsplit : (named l ++ l.filter fun a => !decide (a ≠ "")).Perm l :=
    List.filter_append_perm _ l
  refine ⟨d ++ l.filter fun a => !decide (a ≠ ""), (h.append_right _).trans hsplit, ?_⟩
  have hd : named d = d := by
    refine List.filter_eq_self.mpr fun a ha => ?_
    exact (List.mem_filter.mp (h.mem_iff.mp ha)).2
  rw [named, List.filter_append, List.filter_filter]
  show named d ++ _ = d
  rw [hd]
  simp

/-- An arrangement is realized by orders of the lists and of the sets. -/
theorem authorOutcome_of_arranged (hequal : authorsEqual py (named declared) (named observed) = .ok false)
    (hdne : named declared ≠ []) (hone : named observed ≠ [])
    (h : @Arranged py (named declared) (named observed) e f d o) :
    ∃ declared' observed' s t, declared'.Perm declared ∧ observed'.Perm observed ∧
      authorOutcome py s t declared' observed' pageRange quality =
        some (outcomeOf (compareAuthors py e f d o pageRange)) := by
  obtain ⟨declared', hd, rfl⟩ := exists_named_eq h.decl
  obtain ⟨observed', ho, rfl⟩ := exists_named_eq h.obs
  obtain ⟨s, hs⟩ := exists_orderedForms (named_of_perm hd) h.declForms
  obtain ⟨t, ht⟩ := exists_orderedForms (named_of_perm ho) h.obsForms
  have hdne' : named declared' ≠ [] := fun hnil => hdne (by
    rw [← List.length_eq_zero_iff, ← (named_of_perm hd).length_eq, hnil]
    rfl)
  have hone' : named observed' ≠ [] := fun hnil => hone (by
    rw [← List.length_eq_zero_iff, ← (named_of_perm ho).length_eq, hnil]
    rfl)
  refine ⟨declared', observed', s, t, hd, ho, ?_⟩
  rw [authorOutcome_eq hdne' hone', authorsEqual_perm (named_of_perm hd) (named_of_perm ho), hequal,
    hs, ht]
  rfl

theorem orderFree_iff (hdne : named declared ≠ []) (hone : named observed ≠ []) :
    (∀ declared' observed', declared'.Perm declared → observed'.Perm observed →
      ∀ s t s' t', authorOutcome py s t declared observed pageRange quality =
        authorOutcome py s' t' declared' observed' pageRange quality) ↔
      OrderIrrelevant py (named declared) (named observed) := by
  rw [OrderIrrelevant]
  constructor
  · intro h
    by_contra hrelevant
    push Not at hrelevant
    obtain ⟨hequal, hlength, hnot, hsome⟩ := hrelevant
    obtain ⟨e, f, d, o, harranged, hmatched⟩ := (exists_matchedInPairs_iff hlength).mpr hsome
    rw [← forall_matchedInPairs_iff hlength] at hnot
    push Not at hnot
    obtain ⟨e', f', d', o', harranged', hunmatched⟩ := hnot
    obtain ⟨D, O, s, t, hD, hO, hout⟩ :=
      @authorOutcome_of_arranged _ _ _ _ _ _ _ pageRange quality hequal hdne hone harranged
    obtain ⟨D', O', s', t', hD', hO', hout'⟩ :=
      @authorOutcome_of_arranged _ _ _ _ _ _ _ pageRange quality hequal hdne hone harranged'
    have hsame := (h D O hD hO .plain .plain s t).symm.trans (h D' O' hD' hO' .plain .plain s' t')
    rw [hout, hout', Option.some.injEq] at hsame
    have hkind := congrArg Prod.fst hsame
    exact hunmatched (compareAuthors_confirmed_iff.mp
      (hkind.symm.trans (compareAuthors_confirmed_iff.mpr hmatched)))
  · intro hirrelevant declared' observed' hd ho s t s' t'
    refine authorOutcome_of_perm hdne hone hd ho fun hequal => ?_
    have h := @arranged_of_orders py _ _ _ _ s t (.refl declared) (.refl observed)
    have h' := @arranged_of_orders py _ _ _ _ s' t' hd ho
    by_cases hlength : (named declared).length = (named observed).length
    · rcases hirrelevant with hne | hne | halways | hnever
      · exact absurd hequal hne
      · exact absurd hlength hne
      · have hall := (forall_matchedInPairs_iff hlength).mpr halways
        rw [hall _ _ _ _ h, hall _ _ _ _ h']
      · have hnone : ∀ {e f d o : List String}, @Arranged py (named declared) (named observed)
            e f d o → matchedInPairs py e f d o = false := fun harranged =>
          Bool.eq_false_iff.mpr fun hmatched =>
            hnever ((exists_matchedInPairs_iff hlength).mp ⟨_, _, _, _, harranged, hmatched⟩)
        rw [hnone h, hnone h']
    · have hfalse : ∀ {e f d o : List String}, d.Perm (named declared) → o.Perm (named observed) →
          matchedInPairs py e f d o = false := by
        intro e f d o hd ho
        have hlengths : d.length ≠ o.length := by
          rw [hd.length_eq, ho.length_eq]
          exact hlength
        rw [matchedInPairs, decide_eq_false hlengths, Bool.false_and]
      rw [hfalse h.decl h.obs, hfalse h'.decl h'.obs]

/-- Where the order does not matter, only lists whose names match are confirmed. -/
theorem namesMatch_of_confirmed (hirrelevant : OrderIrrelevant py (named declared) (named observed))
    {s t : SetOrder} {v : FieldVerdict}
    (h : verifyAuthors py s t (.strs declared) (.strs observed) pageRange quality = .ok v)
    (hconfirmed : v.verdict = .confirmed) :
    (∀ a ∈ named declared, ∃ b ∈ named observed, NamesMatch py a b) ∧
      ∀ b ∈ named observed, ∃ a ∈ named declared, NamesMatch py b a := by
  rw [verifyAuthors] at h
  simp only [authorList_strs] at h
  by_cases hdnil : named declared = []
  · by_cases honil : named observed = []
    · rw [if_pos ⟨hdnil, honil⟩] at h
      cases h
      cases hconfirmed
    · rw [if_neg fun h => honil h.2, if_pos hdnil] at h
      cases h
      cases hconfirmed
  by_cases honil : named observed = []
  · rw [if_neg fun h => hdnil h.1, if_neg hdnil, if_pos honil] at h
    cases h
    cases hconfirmed
  rw [if_neg fun h => hdnil h.1, if_neg hdnil, if_neg honil] at h
  cases hequal : authorsEqual py (named declared) (named observed) with
  | error e =>
    rw [hequal] at h
    cases h
  | ok same =>
    rw [hequal] at h
    cases same with
    | true =>
      have hself : ∀ l : List String, named (named l) = named l := named_named
      refine ⟨fun a ha => ?_, fun b hb => ?_⟩
      · obtain ⟨b, hb, hmatch⟩ := namesMatch_of_equal hequal (a := a) (by rwa [hself])
        exact ⟨b, hself observed ▸ hb, hmatch⟩
      · obtain ⟨a, ha, hmatch⟩ :=
          namesMatch_of_equal (authorsEqual_comm_true hequal) (a := b) (by rwa [hself])
        exact ⟨a, hself declared ▸ ha, hmatch⟩
    | false =>
      cases h
      have hmatched := compareAuthors_confirmed_iff.mp hconfirmed
      have harranged := @arranged_of_orders py _ _ _ _ s t (.refl declared) (.refl observed)
      have hlength : (named declared).length = (named observed).length := by
        rw [matchedInPairs, Bool.and_eq_true, decide_eq_true_eq] at hmatched
        exact hmatched.1
      rcases hirrelevant with hne | hne | halways | hnever
      · exact absurd hequal hne
      · exact absurd hlength hne
      · exact ⟨fun a ha => namesMatch_of_covered halways.1 ha,
          fun b hb => namesMatch_of_covered halways.2 hb⟩
      · exact absurd ((exists_matchedInPairs_iff hlength).mp ⟨_, _, _, _, harranged, hmatched⟩) hnever

/-- **The order of the authors.** The rule is independent of it, and confirms only lists whose names
match, exactly where the match in pairs is made by every order or by none, or is not reached. -/
theorem authorRuleSound_iff (py : RuleRuntime) (declared observed : List String)
    (pageRange : Option String) (quality : String) :
    AuthorRuleSound py declared observed pageRange quality ↔
      OrderIrrelevant py (named declared) (named observed) := by
  by_cases hnil : named declared = [] ∨ named observed = []
  · have hirrelevant : OrderIrrelevant py (named declared) (named observed) := by
      rcases hnil with hnil | hnil
      · by_cases honil : named observed = []
        · refine .inl ?_
          rw [hnil, honil]
          exact fun h => Bool.noConfusion (Except.ok.inj h)
        · refine .inr (.inl fun hlength => honil ?_)
          rw [hnil] at hlength
          exact List.length_eq_zero_iff.mp hlength.symm
      · by_cases hdnil : named declared = []
        · refine .inl ?_
          rw [hnil, hdnil]
          exact fun h => Bool.noConfusion (Except.ok.inj h)
        · refine .inr (.inl fun hlength => hdnil ?_)
          rw [hnil] at hlength
          exact List.length_eq_zero_iff.mp hlength
    refine iff_of_true ⟨fun _ _ hd ho _ _ _ _ => authorOutcome_of_nil hnil hd ho, ?_⟩ hirrelevant
    exact fun _ _ _ h hconfirmed => namesMatch_of_confirmed hirrelevant h hconfirmed
  · rw [not_or] at hnil
    rw [← @orderFree_iff _ _ _ pageRange quality hnil.1 hnil.2]
    refine ⟨fun h => h.orderFree, fun h => ⟨h, fun _ _ _ hok hconfirmed => ?_⟩⟩
    exact namesMatch_of_confirmed ((orderFree_iff hnil.1 hnil.2).mp h) hok hconfirmed

/-- The order of the last occurrences, backwards. -/
def SetOrder.backwards : SetOrder where
  enumerate l := l.dedup.reverse
  nodup l := List.nodup_reverse.mpr (List.nodup_dedup l)
  mem _ _ := List.mem_reverse.trans List.mem_dedup

/-- The same two lists with the sets in one order are a mismatch, and with the sets in the other they
are confirmed, although one name matches none of the others. -/
theorem set_order_confirms :
    authorOutcome .ascii .plain .plain ["Anna Bell", "Carl Doe"] ["Anna Bell", "Karl Dow"] none
        "high" = some (.mismatch, 80, [], false) ∧
      authorOutcome .ascii .backwards .backwards ["Anna Bell", "Carl Doe"]
        ["Anna Bell", "Karl Dow"] none "high" = some (.confirmed, 88, [], false) := by
  decide +kernel

end Bookwarden.Verification
