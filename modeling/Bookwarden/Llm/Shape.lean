import Bookwarden.Verification.Value

/-!
# Values up to their text

A request to a model is a value of any shape. What it tells is in its strings. The strings under
`role` and `type` only name what a dictionary is, and what an image item has under `image_url` is
picture data; every other string is text. Two requests that differ in their text alone are therefore
two values with the same image under a rewriting of all texts to one.

## Main definitions

* `Value.mapText` — rewrite every text
* `Value.texts`, `Value.hasImage`
* `SameButText`

## Main results

* `Value.mapText_eq_self_iff` — a rewriting keeps a value exactly if it keeps every text of it
* `eq_of_sameButText` — a value without text differs from no other in text alone
-/

namespace Bookwarden

/-- A dictionary with any values. -/
abbrev Entries := List (String × Value)

/-- `item.get("type") == name`. -/
def hasType (name : String) (kvs : Entries) : Bool :=
  match Assoc.get? "type" kvs with
  | some (.str t) => t = name
  | _ => false

/-- What an entry holds is no text: the name of a role or of a type, or the data of an image item. -/
def isTag (image : Bool) (key : String) : Value → Bool
  | .str _ => key ∈ ["role", "type"] || image && key = "image_url"
  | _ => image && key = "image_url"

namespace Value

mutual

/-- Rewrite every text of a value. -/
def mapText (f : String → String) : Value → Value
  | .str s => .str (f s)
  | .list xs => .list (mapTexts f xs)
  | .dict kvs => .dict (mapEntries f (hasType "image_url" kvs) kvs)
  | .null => .null
  | .bool b => .bool b
  | .int n => .int n
  | .float x => .float x

def mapTexts (f : String → String) : List Value → List Value
  | [] => []
  | v :: vs => v.mapText f :: mapTexts f vs

def mapEntries (f : String → String) (image : Bool) : Entries → Entries
  | [] => []
  | (k, v) :: kvs => (k, if isTag image k v then v else v.mapText f) :: mapEntries f image kvs

end

mutual

/-- The texts of a value. -/
def texts : Value → List String
  | .str s => [s]
  | .list xs => textsAll xs
  | .dict kvs => textsEntries (hasType "image_url" kvs) kvs
  | _ => []

def textsAll : List Value → List String
  | [] => []
  | v :: vs => v.texts ++ textsAll vs

def textsEntries (image : Bool) : Entries → List String
  | [] => []
  | (k, v) :: kvs => (if isTag image k v then [] else v.texts) ++ textsEntries image kvs

end

mutual

/-- An image item is somewhere in the value. -/
def hasImage : Value → Bool
  | .list xs => hasImages xs
  | .dict kvs => hasType "image_url" kvs || hasImageEntries kvs
  | _ => false

def hasImages : List Value → Bool
  | [] => false
  | v :: vs => v.hasImage || hasImages vs

def hasImageEntries : Entries → Bool
  | [] => false
  | (_, v) :: kvs => v.hasImage || hasImageEntries kvs

end

variable {f g : String → String}

/-! ### Rewriting the texts -/

@[simp] theorem mapText_str (s : String) : mapText f (.str s) = .str (f s) := by rw [mapText]

@[simp] theorem mapText_list (xs : List Value) : mapText f (.list xs) = .list (mapTexts f xs) := by
  rw [mapText]

theorem mapText_dict (kvs : Entries) :
    mapText f (.dict kvs) = .dict (mapEntries f (hasType "image_url" kvs) kvs) := by
  rw [mapText]

theorem mapEntries_cons (image : Bool) (k : String) (v : Value) (kvs : Entries) :
    mapEntries f image ((k, v) :: kvs) =
      (k, if isTag image k v then v else v.mapText f) :: mapEntries f image kvs := by
  rw [mapEntries]

@[simp] theorem isTag_mapText (image : Bool) (k : String) (v : Value) :
    isTag image k (v.mapText f) = isTag image k v := by
  cases v <;> simp [isTag, mapText]

theorem get?_mapEntries (image : Bool) (k : String) (kvs : Entries) :
    Assoc.get? k (mapEntries f image kvs) = (Assoc.get? k kvs).map fun v =>
      if isTag image k v then v else v.mapText f := by
  induction kvs with
  | nil => simp [mapEntries]
  | cons p kvs ih =>
    obtain ⟨a, v⟩ := p
    rw [mapEntries_cons, Assoc.get?_cons, Assoc.get?_cons, ih]
    by_cases h : a = k
    · subst h
      simp
    · simp [h]

@[simp] theorem hasType_mapEntries (name : String) (image : Bool) (kvs : Entries) :
    hasType name (mapEntries f image kvs) = hasType name kvs := by
  rw [hasType, hasType, get?_mapEntries]
  cases Assoc.get? "type" kvs with
  | none => rfl
  | some v => cases v <;> simp [isTag, mapText]

theorem keys_mapEntries (image : Bool) (kvs : Entries) :
    Assoc.keys (mapEntries f image kvs) = Assoc.keys kvs := by
  induction kvs with
  | nil => simp [mapEntries]
  | cons p kvs ih =>
    obtain ⟨a, v⟩ := p
    rw [mapEntries_cons]
    exact congrArg (a :: ·) ih

mutual

theorem mapText_mapText : ∀ v : Value, (v.mapText g).mapText f = v.mapText (f ∘ g)
  | .str s => by simp
  | .list xs => by rw [mapText_list, mapText_list, mapText_list, mapTexts_mapTexts xs]
  | .dict kvs => by
    rw [mapText_dict, mapText_dict, mapText_dict, hasType_mapEntries, mapEntries_mapEntries _ kvs]
  | .null => by simp [mapText]
  | .bool b => by simp [mapText]
  | .int n => by simp [mapText]
  | .float x => by simp [mapText]

theorem mapTexts_mapTexts : ∀ xs : List Value, mapTexts f (mapTexts g xs) = mapTexts (f ∘ g) xs
  | [] => by simp [mapTexts]
  | v :: vs => by simp only [mapTexts, mapText_mapText v, mapTexts_mapTexts vs]

theorem mapEntries_mapEntries (image : Bool) : ∀ kvs : Entries,
    mapEntries f image (mapEntries g image kvs) = mapEntries (f ∘ g) image kvs
  | [] => by simp [mapEntries]
  | (k, v) :: kvs => by
    rw [mapEntries_cons, mapEntries_cons, mapEntries_cons, mapEntries_mapEntries image kvs]
    by_cases h : isTag image k v = true
    · simp [h]
    · simp [h, mapText_mapText v]

end

mutual

theorem texts_mapText : ∀ v : Value, (v.mapText f).texts = v.texts.map f
  | .str s => by simp [texts]
  | .list xs => by rw [mapText_list, texts, texts, textsAll_mapTexts xs]
  | .dict kvs => by
    rw [mapText_dict, texts, texts, hasType_mapEntries, textsEntries_mapEntries _ kvs]
  | .null => by simp [mapText, texts]
  | .bool b => by simp [mapText, texts]
  | .int n => by simp [mapText, texts]
  | .float x => by simp [mapText, texts]

theorem textsAll_mapTexts : ∀ xs : List Value, textsAll (mapTexts f xs) = (textsAll xs).map f
  | [] => by simp [mapTexts, textsAll]
  | v :: vs => by
    simp only [mapTexts, textsAll, texts_mapText v, textsAll_mapTexts vs, List.map_append]

theorem textsEntries_mapEntries (image : Bool) : ∀ kvs : Entries,
    textsEntries image (mapEntries f image kvs) = (textsEntries image kvs).map f
  | [] => by simp [mapEntries, textsEntries]
  | (k, v) :: kvs => by
    rw [mapEntries_cons, textsEntries, textsEntries, textsEntries_mapEntries image kvs,
      List.map_append]
    by_cases h : isTag image k v = true
    · simp [h]
    · simp [h, texts_mapText v]

end

mutual

/-- A rewriting that keeps every text of a value keeps the value, and no other does. -/
theorem mapText_eq_self_iff : ∀ v : Value, v.mapText f = v ↔ ∀ s ∈ v.texts, f s = s
  | .str s => by simp [texts]
  | .list xs => by rw [mapText_list, texts, list.injEq, mapTexts_eq_self_iff xs]
  | .dict kvs => by rw [mapText_dict, texts, dict.injEq, mapEntries_eq_self_iff _ kvs]
  | .null => by simp [mapText, texts]
  | .bool b => by simp [mapText, texts]
  | .int n => by simp [mapText, texts]
  | .float x => by simp [mapText, texts]

theorem mapTexts_eq_self_iff : ∀ xs : List Value, mapTexts f xs = xs ↔ ∀ s ∈ textsAll xs, f s = s
  | [] => by simp [mapTexts, textsAll]
  | v :: vs => by
    rw [mapTexts, textsAll, List.cons.injEq, mapText_eq_self_iff v, mapTexts_eq_self_iff vs,
      List.forall_mem_append]

theorem mapEntries_eq_self_iff (image : Bool) : ∀ kvs : Entries,
    mapEntries f image kvs = kvs ↔ ∀ s ∈ textsEntries image kvs, f s = s
  | [] => by simp [mapEntries, textsEntries]
  | (k, v) :: kvs => by
    rw [mapEntries_cons, textsEntries, List.cons.injEq, mapEntries_eq_self_iff image kvs,
      List.forall_mem_append]
    by_cases h : isTag image k v = true
    · simp [h]
    · simp [h, mapText_eq_self_iff v]

end

end Value

/-! ### The same but for the text -/

/-- All texts blanked. -/
def blank : String → String := fun _ => ""

/-- A letter more in every text. -/
def lengthen (s : String) : String := s ++ "x"

theorem lengthen_ne (s : String) : lengthen s ≠ s := by
  intro h
  have hlength := congrArg String.length h
  simp [lengthen] at hlength

/-- Two values that differ in their text alone. -/
def SameButText (v v' : Value) : Prop := v.mapText blank = v'.mapText blank

theorem sameButText_lengthen (v : Value) : SameButText v (v.mapText lengthen) :=
  (Value.mapText_mapText (f := blank) (g := lengthen) v).symm

/-- Only what has no text stays the same when every text gets longer. -/
theorem texts_eq_nil_of_lengthen {v : Value} (h : v.mapText lengthen = v) : v.texts = [] := by
  rw [Value.mapText_eq_self_iff] at h
  exact List.eq_nil_iff_forall_not_mem.mpr fun s hs => lengthen_ne s (h s hs)

theorem eq_of_sameButText {v v' : Value} (htext : v.texts = []) (h : SameButText v v') :
    v' = v := by
  have htext' : v'.texts = [] := by
    have htexts := congrArg Value.texts h
    rw [Value.texts_mapText, Value.texts_mapText, htext] at htexts
    exact List.map_eq_nil_iff.mp htexts.symm
  have hself : ∀ w : Value, w.texts = [] → w.mapText blank = w := by
    intro w hw
    rw [Value.mapText_eq_self_iff, hw]
    intro s hs
    cases hs
  rw [← hself v htext, ← hself v' htext', h]

end Bookwarden
