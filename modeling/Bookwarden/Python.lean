import Mathlib.Algebra.GroupWithZero.Nat
import Mathlib.Data.Char
import Mathlib.Data.List.Sort
import Mathlib.Data.List.DropRight
import Mathlib.Data.List.Lex
import Mathlib.Data.Rat.Defs
import Bookwarden.Lib.Assoc

/-!
# The Python values the auditor computes with

Calibre records, evidence values and database JSON columns are all JSON values, and the code reads
them with a small part of Python: `==` on values, `json.dumps(sort_keys=True)`, `str.strip`,
`str.split`, the path functions of `os.path`. This file has that part.

## What is a parameter

`Runtime` collects what cannot be read from the repository: the Unicode tables behind `lower`,
`upper`, `casefold`, NFKC and the regular expression `\w`, the printing and parsing of floats, `str` of a
value that is not a string, SHA-256, and the working directory. Theorems quantify over it; the
concrete runtime `Runtime.ascii` agrees with Python on ASCII text and is what the examples run on.

Floats are finite, and are represented by their rational value; `Runtime.floatRepr` prints them.
-/

namespace Bookwarden

/-- A JSON value. Objects keep their insertion order, as Python dictionaries do. -/
inductive Json
  | null
  | bool (b : Bool)
  | int (n : ℤ)
  | float (q : ℚ)
  | str (s : String)
  | arr (xs : List Json)
  | obj (kvs : List (String × Json))
  deriving Repr

/-- A Python dictionary with string keys. -/
abbrev Dict := List (String × Json)

/-- What the code takes from Python's runtime and its data tables. -/
structure Runtime where
  /-- `str.lower`. -/
  lower : String → String
  /-- `str.upper`. -/
  upper : String → String
  /-- `str.casefold`. -/
  casefold : String → String
  /-- `unicodedata.normalize("NFKC", ·)`. -/
  nfkc : String → String
  /-- The characters matched by `\w`. -/
  isWord : Char → Bool
  /-- `repr` of a float. -/
  floatRepr : ℚ → String
  /-- `float` of a string; `none` when it raises. -/
  parseFloat : String → Option ℚ
  /-- `str` of a value that is not a string. -/
  repr : Json → String
  /-- The hexadecimal SHA-256 of an ASCII text. -/
  sha256 : String → String
  /-- `os.getcwd()`. -/
  cwd : String

/-! ### Strings -/

/-- `str.isspace` of one character. -/
def isSpace (c : Char) : Bool :=
  let n := c.toNat
  (9 ≤ n && n ≤ 13) || (28 ≤ n && n ≤ 32) || n == 0x85 || n == 0xA0 || n == 0x1680
    || (0x2000 ≤ n && n ≤ 0x200A) || n == 0x2028 || n == 0x2029 || n == 0x202F || n == 0x205F
    || n == 0x3000

/-- `str.strip` on the characters. -/
def stripChars (cs : List Char) : List Char := (cs.dropWhile isSpace).rdropWhile isSpace

/-- `str.strip`. -/
def strip (s : String) : String := String.ofList (stripChars s.toList)

/-- `str.split` at one character. -/
def split (c : Char) (s : String) : List String := (s.toList.splitOn c).map String.ofList

/-- `s.rsplit(c, 1)[-1]`: what follows the last `c`, or the whole string. -/
def afterLast (c : Char) (s : String) : String :=
  String.ofList (s.toList.reverse.takeWhile (· ≠ c)).reverse

/-- `str.replace` of one character by another. -/
def replaceChar (a b : Char) (s : String) : String :=
  String.ofList (s.toList.map fun c => if c = a then b else c)

/-- `str.startswith`. -/
def startsWith (s p : String) : Bool := p.toList.isPrefixOf s.toList

/-- `str.removeprefix`. -/
def removePrefix (s p : String) : String :=
  if startsWith s p then String.ofList (s.toList.drop p.toList.length) else s

/-- `sorted` on strings: by code points, stable. -/
def sorted (xs : List String) : List String := xs.insertionSort (· ≤ ·)

/-- A set of strings, as the list of its distinct members. -/
def distinct (xs : List String) : List String := xs.dedup

/-! ### JSON values -/

namespace Json

/-- The numeric value of a number or a Boolean. -/
def num? : Json → Option ℚ
  | bool b => some (if b then 1 else 0)
  | int n => some n
  | float q => some q
  | _ => none

mutual

/-- Structural equality. -/
def beq : Json → Json → Bool
  | null, null => true
  | bool a, bool b => a == b
  | int a, int b => a == b
  | float a, float b => a == b
  | str a, str b => a == b
  | arr xs, arr ys => beqList xs ys
  | obj xs, obj ys => beqEntries xs ys
  | _, _ => false

def beqList : List Json → List Json → Bool
  | [], [] => true
  | x :: xs, y :: ys => beq x y && beqList xs ys
  | _, _ => false

def beqEntries : List (String × Json) → List (String × Json) → Bool
  | [], [] => true
  | (k, v) :: xs, (l, w) :: ys => k == l && beq v w && beqEntries xs ys
  | _, _ => false

end

mutual

theorem beq_refl : ∀ v : Json, beq v v = true
  | null => rfl
  | bool b => by simp [beq]
  | int n => by simp [beq]
  | float q => by simp [beq]
  | str s => by simp [beq]
  | arr xs => by rw [beq]; exact beqList_refl xs
  | obj kvs => by rw [beq]; exact beqEntries_refl kvs

theorem beqList_refl : ∀ xs : List Json, beqList xs xs = true
  | [] => rfl
  | x :: xs => by rw [beqList, beq_refl x, beqList_refl xs]; rfl

theorem beqEntries_refl : ∀ kvs : List (String × Json), beqEntries kvs kvs = true
  | [] => rfl
  | (k, v) :: kvs => by rw [beqEntries, beq_refl v, beqEntries_refl kvs]; simp

end

mutual

theorem beq_sound : ∀ {v w : Json}, beq v w = true → v = w
  | null, w, h => by cases w <;> simp_all [beq]
  | bool b, w, h => by cases w <;> simp_all [beq]
  | int n, w, h => by cases w <;> simp_all [beq]
  | float q, w, h => by cases w <;> simp_all [beq]
  | str s, w, h => by cases w <;> simp_all [beq]
  | arr xs, arr ys, h => by rw [beq] at h; rw [beqList_sound h]
  | obj xs, obj ys, h => by rw [beq] at h; rw [beqEntries_sound h]
  | arr _, null, h | arr _, bool _, h | arr _, int _, h | arr _, float _, h | arr _, str _, h
  | arr _, obj _, h | obj _, null, h | obj _, bool _, h | obj _, int _, h | obj _, float _, h
  | obj _, str _, h | obj _, arr _, h => by simp [beq] at h

theorem beqList_sound : ∀ {xs ys : List Json}, beqList xs ys = true → xs = ys
  | [], [], _ => rfl
  | [], _ :: _, h | _ :: _, [], h => by simp [beqList] at h
  | x :: xs, y :: ys, h => by
    rw [beqList, Bool.and_eq_true] at h
    rw [beq_sound h.1, beqList_sound h.2]

theorem beqEntries_sound : ∀ {xs ys : List (String × Json)}, beqEntries xs ys = true → xs = ys
  | [], [], _ => rfl
  | [], _ :: _, h | _ :: _, [], h => by simp [beqEntries] at h
  | (k, v) :: xs, (l, w) :: ys, h => by
    rw [beqEntries, Bool.and_eq_true, Bool.and_eq_true] at h
    rw [LawfulBEq.eq_of_beq h.1.1, beq_sound h.1.2, beqEntries_sound h.2]

end

instance : DecidableEq Json := fun v w =>
  decidable_of_iff (beq v w = true) ⟨beq_sound, fun h => h ▸ beq_refl v⟩

mutual

/-- `==` of two values, without the identity shortcut: numbers and Booleans compare by value,
dictionaries as maps. -/
def valueEq : Json → Json → Bool
  | null, null => true
  | str a, str b => a == b
  | arr xs, arr ys => valueEqList xs ys
  | obj xs, obj ys => xs.length == ys.length && valueEqEntries xs ys
  | v, w => match num? v, num? w with
    | some p, some q => p == q
    | _, _ => false

def valueEqList : List Json → List Json → Bool
  | [], [] => true
  | x :: xs, y :: ys => valueEq x y && valueEqList xs ys
  | _, _ => false

def valueEqEntries : List (String × Json) → List (String × Json) → Bool
  | [], _ => true
  | (k, v) :: xs, ys => (match Assoc.get? k ys with
    | some w => valueEq v w
    | none => false) && valueEqEntries xs ys

end

/-- Python's `==`. A value equals itself by identity; otherwise the contents decide. -/
def pyEq (v w : Json) : Bool := beq v w || valueEq v w

@[simp] theorem pyEq_refl (v : Json) : pyEq v v = true := by simp [pyEq, beq_refl]

/-- `bool(value)`. -/
def truthy : Json → Bool
  | null => false
  | bool b => b
  | int n => n != 0
  | float q => q != 0
  | str s => s != ""
  | arr xs => !xs.isEmpty
  | obj kvs => !kvs.isEmpty

/-- `v or w`. -/
def orElse (v w : Json) : Json := if v.truthy then v else w

/-- `str(value)`. -/
def toStr (py : Runtime) : Json → String
  | str s => s
  | v => py.repr v

/-- A list of strings as a value. -/
def strs (xs : List String) : Json := arr (xs.map str)

/-- A dictionary of strings as a value. -/
def strDict (kvs : List (String × String)) : Json := obj (kvs.map fun p => (p.1, str p.2))

/-- An optional string, `None` as `null`. -/
def optStr : Option String → Json
  | none => null
  | some s => str s

/-! #### Equality with values of a known shape -/

attribute [local simp] beq beqList beqEntries valueEq valueEqList valueEqEntries num?

theorem pyEq_str_iff {v : Json} {s : String} : pyEq v (.str s) = true ↔ v = .str s := by
  cases v <;> simp [pyEq, beq, valueEq, num?]

theorem valueEqList_strs {xs : List Json} {ys : List String}
    (h : valueEqList xs (ys.map .str) = true) : xs = ys.map .str := by
  induction xs generalizing ys with
  | nil => cases ys <;> simp_all [valueEqList]
  | cons x xs ih =>
    cases ys with
    | nil => simp [valueEqList] at h
    | cons y ys =>
      simp only [List.map_cons, valueEqList, Bool.and_eq_true] at h
      have hx : x = .str y := pyEq_str_iff.mp (by simp [pyEq, h.1])
      rw [hx, ih h.2, List.map_cons]

/-- Only the same list of strings equals a list of strings. -/
theorem pyEq_strs_iff {v : Json} {ys : List String} :
    pyEq v (.strs ys) = true ↔ v = .strs ys := by
  refine ⟨fun h => ?_, fun h => h ▸ pyEq_refl v⟩
  rw [pyEq, Bool.or_eq_true] at h
  rcases h with h | h
  · exact beq_sound h
  · cases v with
    | arr xs =>
      rw [strs, valueEq] at h
      rw [valueEqList_strs h, strs]
    | _ => simp [strs, valueEq, num?] at h

theorem valueEqList_strs_left {ys : List String} {xs : List Json}
    (h : valueEqList (ys.map .str) xs = true) : xs = ys.map .str := by
  induction xs generalizing ys with
  | nil => cases ys <;> simp_all [valueEqList]
  | cons x xs ih =>
    cases ys with
    | nil => simp [valueEqList] at h
    | cons y ys =>
      simp only [List.map_cons, valueEqList, Bool.and_eq_true] at h
      have hx : x = .str y := by cases x <;> simp_all [valueEq, num?]
      rw [hx, ih h.2, List.map_cons]

theorem pyEq_strs_left_iff {v : Json} {ys : List String} :
    pyEq (.strs ys) v = true ↔ v = .strs ys := by
  refine ⟨fun h => ?_, fun h => h ▸ pyEq_refl _⟩
  rw [pyEq, Bool.or_eq_true] at h
  rcases h with h | h
  · exact (beq_sound h).symm
  · cases v with
    | arr xs =>
      rw [strs, valueEq] at h
      rw [valueEqList_strs_left h, strs]
    | _ => simp [strs, valueEq, num?] at h

theorem exists_obj_of_pyEq_obj {v : Json} {kvs : Dict} (h : pyEq v (.obj kvs) = true) :
    ∃ kvs', v = .obj kvs' := by
  cases v with
  | obj kvs' => exact ⟨kvs', rfl⟩
  | _ => simp [pyEq, beq, valueEq, num?] at h

theorem exists_obj_of_obj_pyEq {v : Json} {kvs : Dict} (h : pyEq (.obj kvs) v = true) :
    ∃ kvs', v = .obj kvs' := by
  cases v with
  | obj kvs' => exact ⟨kvs', rfl⟩
  | _ => simp [pyEq, beq, valueEq, num?] at h

theorem valueEqEntries_get {xs ys : Dict} (h : valueEqEntries xs ys = true) {k : String} {v : Json}
    (hv : Assoc.get? k xs = some v) : ∃ w, Assoc.get? k ys = some w ∧ valueEq v w = true := by
  induction xs with
  | nil => cases hv
  | cons p xs ih =>
    obtain ⟨k', v'⟩ := p
    rw [valueEqEntries, Bool.and_eq_true] at h
    rw [Assoc.get?_cons] at hv
    by_cases hk : k' = k
    · rw [if_pos hk, Option.some.injEq] at hv
      subst hk hv
      cases hw : Assoc.get? k' ys with
      | none => simp [hw] at h
      | some w => exact ⟨w, rfl, by simpa [hw] using h.1⟩
    · rw [if_neg hk] at hv
      exact ih h.2 hv

/-- Equal dictionaries have the same strings under the same keys. -/
theorem get_str_of_pyEq_obj {xs ys : Dict} (h : pyEq (.obj xs) (.obj ys) = true) {k s : String}
    (hs : Assoc.get? k xs = some (.str s)) : Assoc.get? k ys = some (.str s) := by
  rw [pyEq, Bool.or_eq_true] at h
  rcases h with h | h
  · have heq : xs = ys := Json.obj.inj (beq_sound h)
    rw [← heq]
    exact hs
  · rw [valueEq, Bool.and_eq_true] at h
    obtain ⟨w, hw, hval⟩ := valueEqEntries_get h.2 hs
    rw [hw]
    cases w <;> simp_all [valueEq, num?]

theorem pyEq_null_left_iff {v : Json} : pyEq .null v = true ↔ v = .null := by
  cases v <;> simp [pyEq, beq, valueEq, num?]

theorem pyEq_null_right_iff {v : Json} : pyEq v .null = true ↔ v = .null := by
  cases v <;> simp [pyEq, beq, valueEq, num?]

end Json

/-- `d.get(key)`. -/
def Dict.get (d : Dict) (key : String) : Json := (Assoc.get? key d).getD .null

/-- `d.get(key, default)`. -/
def Dict.getD (d : Dict) (key : String) (default : Json) : Json :=
  (Assoc.get? key d).getD default

/-- `set(d)`: does the dictionary have the key? -/
def Dict.has (d : Dict) (key : String) : Bool := (Assoc.get? key d).isSome

theorem Dict.getD_of_get {d : Dict} {key : String} {default v : Json} (h : d.get key = v)
    (hv : v ≠ .null) : d.getD key default = v := by
  rw [Dict.get] at h
  rw [Dict.getD]
  cases hget : Assoc.get? key d with
  | none => simp_all
  | some w => simpa [hget] using h

/-! ### `json.dumps(value, sort_keys=True, separators=(",", ":"), ensure_ascii=True)` -/

/-- Four hexadecimal digits. -/
def hex4 (n : ℕ) : List Char :=
  [Nat.digitChar (n / 4096 % 16), Nat.digitChar (n / 256 % 16), Nat.digitChar (n / 16 % 16),
    Nat.digitChar (n % 16)]

/-- One character of a JSON string, `ensure_ascii` style. -/
def escapeChar (c : Char) : List Char :=
  if c = '"' then ['\\', '"']
  else if c = '\\' then ['\\', '\\']
  else if c = '\n' then ['\\', 'n']
  else if c = '\r' then ['\\', 'r']
  else if c = '\t' then ['\\', 't']
  else if c.toNat = 8 then ['\\', 'b']
  else if c.toNat = 12 then ['\\', 'f']
  else if 32 ≤ c.toNat ∧ c.toNat < 127 then [c]
  else if c.toNat < 0x10000 then ['\\', 'u'] ++ hex4 c.toNat
  else
    -- a surrogate pair
    let n := c.toNat - 0x10000
    ['\\', 'u'] ++ hex4 (0xD800 + n / 1024) ++ ['\\', 'u'] ++ hex4 (0xDC00 + n % 1024)

/-- A JSON string literal. -/
def quoteChars (s : String) : List Char := '"' :: (s.toList.flatMap escapeChar ++ ['"'])

mutual

/-- The canonical text of a value, by characters. -/
def dumpsChars (py : Runtime) : Json → List Char
  | .null => ['n', 'u', 'l', 'l']
  | .bool b => if b then ['t', 'r', 'u', 'e'] else ['f', 'a', 'l', 's', 'e']
  | .int n => (toString n).toList
  | .float q => (py.floatRepr q).toList
  | .str s => quoteChars s
  | .arr xs => '[' :: ([','].intercalate (dumpsList py xs) ++ [']'])
  | .obj kvs =>
    let entries := (dumpsEntries py kvs).insertionSort fun a b => a.1 ≤ b.1
    '\x7b' :: ([','].intercalate (entries.map Prod.snd) ++ ['\x7d'])

def dumpsList (py : Runtime) : List Json → List (List Char)
  | [] => []
  | x :: xs => dumpsChars py x :: dumpsList py xs

/-- The entries of an object as texts, each with the key it is sorted by. -/
def dumpsEntries (py : Runtime) : List (String × Json) → List (List Char × List Char)
  | [] => []
  | (k, v) :: r => (k.toList, quoteChars k ++ ':' :: dumpsChars py v) :: dumpsEntries py r

end

/-- The canonical text of a value. -/
def dumps (py : Runtime) (v : Json) : String := String.ofList (dumpsChars py v)

/-- `_hash_json`, `_canonical_json_hash`, `_record_sha`: SHA-256 of the canonical text. -/
def hashJson (py : Runtime) (v : Json) : String := py.sha256 (dumps py v)

/-! ### Paths -/

/-- One component in the loop of `posixpath.normpath`; `done` is reversed. -/
def normComponent (slashes : ℕ) (done : List String) (comp : String) : List String :=
  if comp = "" ∨ comp = "." then done
  else if comp ≠ ".." ∨ (slashes = 0 ∧ done = []) ∨ done.head? = some ".." then comp :: done
  else done.tail

/-- The number of leading slashes `posixpath.normpath` keeps. -/
def initialSlashes (p : String) : ℕ :=
  if startsWith p "//" && !startsWith p "///" then 2 else if startsWith p "/" then 1 else 0

/-- `posixpath.normpath`. -/
def normpath (p : String) : String :=
  if p = "" then "." else
    let comps := ((split '/' p).foldl (normComponent (initialSlashes p)) []).reverse
    let r := String.ofList (List.replicate (initialSlashes p) '/') ++ "/".intercalate comps
    if r = "" then "." else r

/-- `posixpath.isabs`. -/
def isAbsPath (p : String) : Bool := startsWith p "/"

/-- `posixpath.join` of two parts. -/
def joinPath (a b : String) : String :=
  if startsWith b "/" then b
  else if a = "" ∨ a.toList.getLast? = some '/' then a ++ b else a ++ "/" ++ b

/-- `os.path.normpath(os.path.abspath(p))`, which `Path` and `str` leave as it is. -/
def canonicalPath (py : Runtime) (p : String) : String :=
  normpath (normpath (if isAbsPath p then p else joinPath py.cwd p))

/-- `Path(p).parts`: the anchor and the components. -/
def pathParts (p : String) : ℕ × List String :=
  (initialSlashes p, (split '/' p).filter fun c => c ≠ "" && c ≠ ".")

/-- `Path(p).is_relative_to(root)`. -/
def isRelativeTo (p root : String) : Bool :=
  (pathParts p).1 == (pathParts root).1 && (pathParts root).2.isPrefixOf (pathParts p).2

/-- `Path(p).suffix.removeprefix(".")`. -/
def pathSuffix (p : String) : String :=
  let name := ((pathParts p).2.getLast?.getD "").toList
  let ext := name.reverse.takeWhile (· ≠ '.')
  if ext.length = name.length ∨ ext = [] ∨ ext.length + 1 = name.length then ""
  else String.ofList ext.reverse

/-! ### A concrete runtime -/

/-- Python's runtime on ASCII text. Its SHA-256 is the identity, an injective stand-in. -/
def Runtime.ascii : Runtime where
  lower s := String.ofList (s.toList.map Char.toLower)
  upper s := String.ofList (s.toList.map Char.toUpper)
  casefold s := String.ofList (s.toList.map Char.toLower)
  nfkc s := s
  isWord c := c.isAlphanum || c == '_'
  floatRepr q := if q.den = 1 then toString q.num ++ ".0" else toString q.num ++ "/" ++ toString q.den
  parseFloat _ := none
  repr _ := ""
  sha256 s := s
  cwd := "/"

example : dumps .ascii (.obj [("b", .int 3), ("a", .strs ["x\n", "é"])])
    = "\x7b\"a\":[\"x\\n\",\"\\u00e9\"],\"b\":3\x7d" := by decide

example : canonicalPath .ascii "a//b/../c/." = "/a/c" := by decide

end Bookwarden
