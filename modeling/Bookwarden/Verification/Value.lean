import Bookwarden.Exceptions
import Bookwarden.Python
import Bookwarden.Lib.Double
import Bookwarden.Lib.Matcher
import Bookwarden.Lib.SequenceMatcher

/-!
# The values that are verified

What Calibre declares and what a book shows are values of any JSON type, as Python's `json` loads
them: a float may be an infinity or no number at all, and an integer has at most 4300 digits, since
`json.loads` refuses a longer one. Within that bound `str` of every value exists. Texts are sequences
of Unicode scalar values.

## What is a parameter

`RuleRuntime` adds to the runtime what the rules take from Python: the decomposition NFKD with its
combining characters, the decimal digits of Unicode, case-insensitive letters of the regular
expressions, and how values and numbers are printed and read, with the little that is known of each.
`RuleRuntime.ascii` is Python's on ASCII text, except that it reads no numbers but whole ones,
infinity and NaN.

Similarities are exact: the quotient of two lengths and a threshold with two decimals round to
different floats unless they are equal, as long as the texts have less than 10 ^ 13 characters.
-/

namespace Bookwarden

/-- An integer that `json.loads` accepts. -/
abbrev LoadedInt := { n : ℤ // n.natAbs < 10 ^ 4300 }

/-- A JSON value as Python loads it. -/
inductive Value
  | null
  | bool (b : Bool)
  | int (n : LoadedInt)
  | float (x : Double)
  | str (s : String)
  | list (xs : List Value)
  | dict (kvs : List (String × Value))

/-- A list or a dictionary. -/
def Value.isContainer : Value → Bool
  | .list _ => true
  | .dict _ => true
  | _ => false

/-- `str.isascii`. -/
def isAscii (s : String) : Bool := s.toList.all fun c => c.toNat < 128

/-- What the rules take from Python's runtime. -/
structure RuleRuntime extends Runtime where
  /-- `unicodedata.normalize("NFKD", ·)`. -/
  nfkd : String → String
  /-- `unicodedata.combining`. -/
  combining : Char → Bool
  /-- `int` of one character; `none` when it raises. -/
  decimal : Char → Option ℕ
  /-- `str.capitalize`. -/
  capitalize : String → String
  /-- The letter of a pattern matches the character under `re.IGNORECASE`. -/
  ignoreCase : Char → Char → Bool
  /-- `repr`. -/
  reprValue : Value → String
  /-- `float` of a string; `none` when it raises. -/
  parseDouble : String → Option Double
  /-- `str` of a float. -/
  doubleRepr : Double → String
  /-- `f"{x:.2f}"`. -/
  twoDecimals : ℚ → String
  lower_empty : lower "" = ""
  isWord_ascii : ∀ c, c.toNat < 128 → isWord c = (c.isAlphanum || c == '_')
  nfkd_ascii : ∀ s, isAscii s = true → nfkd s = s
  combining_ascii : ∀ c, c.toNat < 128 → combining c = false
  decimal_digit : ∀ c, c.isDigit = true → decimal c = some (c.toNat - 48)
  repr_dict_nil : reprValue (.dict []) = "\x7b\x7d"
  parseDouble_empty : parseDouble "" = none
  /-- The text of a list or a dictionary begins with its bracket. -/
  parseDouble_repr : ∀ v, v.isContainer = true → parseDouble (strip (reprValue v)) = none

namespace Value

/-- `bool(value)`. -/
def truthy : Value → Bool
  | null => false
  | bool b => b
  | int n => n.1 ≠ 0
  | float x => x ≠ .finite 0
  | str s => s ≠ ""
  | list xs => !xs.isEmpty
  | dict kvs => !kvs.isEmpty

/-- `value is None`. -/
def isNull : Value → Bool
  | null => true
  | _ => false

/-- `str(value)`, the `repr` of whatever is not a string. -/
def toStr (py : RuleRuntime) : Value → String
  | str s => s
  | v => py.reprValue v

@[simp] theorem toStr_str (py : RuleRuntime) (s : String) : toStr py (str s) = s := rfl

@[simp] theorem isNull_str (s : String) : (str s).isNull = false := rfl

@[simp] theorem truthy_str (s : String) : (str s).truthy = decide (s ≠ "") := rfl

/-- A list of strings as a value. -/
def strs (xs : List String) : Value := list (xs.map str)

theorem isNull_iff {v : Value} : v.isNull = true ↔ v = null := by
  cases v <;> simp [isNull]

end Value

/-! ### Texts -/

/-- The pieces that `str.split()` makes, at runs of white space. -/
def splitSpaces (s : String) : List String :=
  ((s.toList.splitOnP isSpace).filter fun w => w ≠ []).map String.ofList

/-- `str.lower().endswith(ending)`. -/
def endsWithLower (py : Runtime) (s ending : String) : Bool :=
  ending.toList.isSuffixOf (py.lower s).toList

/-- `needle in s`. -/
def hasInfix (needle s : List Char) : Bool := s.tails.any fun t => needle.isPrefixOf t

/-- `re.sub(r"\s+", " ", ·)`. -/
def collapseSpaces : List Char → List Char
  | [] => []
  | c :: cs =>
    if isSpace c then
      match cs with
      | [] => [' ']
      | d :: _ => if isSpace d then collapseSpaces cs else ' ' :: collapseSpaces cs
    else c :: collapseSpaces cs

/-- An expression at a place in a text; the character before it is known, if there is one. -/
abbrev Expression := Option Char → Matcher Char

/-- `re.sub("", ·)`: the first match at the leftmost place, and then on behind it. The number is
what is left to skip of a match. -/
def deleteMatches (m : Expression) : Option Char → ℕ → List Char → List Char
  | _, _, [] => []
  | _, skip + 1, c :: cs => deleteMatches m (some c) skip cs
  | before, 0, c :: cs =>
    match (m before (c :: cs)).head? with
    | none => c :: deleteMatches m (some c) 0 cs
    | some rest =>
      if rest.length < (c :: cs).length then
        deleteMatches m (some c) ((c :: cs).length - rest.length - 1) cs
      else c :: deleteMatches m (some c) 0 cs

/-- `re.search`. -/
def searchMatch (m : Matcher Char) (cs : List Char) : Bool := cs.tails.any fun t => !(m t).isEmpty

/-- `_fuzzy_ratio`. -/
def fuzzyRatio (a b : String) : ℚ := SequenceMatcher.ratio a.toList b.toList

@[simp] theorem fuzzyRatio_self (a : String) : fuzzyRatio a a = 1 := SequenceMatcher.ratio_self _

/-- The letters of a word, in any case. -/
def wordOf (py : RuleRuntime) (w : String) : Matcher Char :=
  w.toList.foldr (fun c m => (Matcher.char (py.ignoreCase c)).andThen m) fun cs => [cs]

/-- A word of exactly these characters. -/
def literal (w : String) : Matcher Char :=
  w.toList.foldr (fun c m => (Matcher.char fun d => d = c).andThen m) fun cs => [cs]

/-! ### The runtime on ASCII text -/

mutual

/-- `repr` of a value, for texts without characters to escape. -/
def Value.plainRepr : Value → List Char
  | .null => "None".toList
  | .bool b => (if b then "True" else "False").toList
  | .int n => (toString n.1).toList
  | .float _ => "0.0".toList
  | .str s => '\'' :: (s.toList ++ ['\''])
  | .list xs => '[' :: ([',', ' '].intercalate (Value.plainReprs xs) ++ [']'])
  | .dict kvs => '\x7b' :: ([',', ' '].intercalate (Value.plainEntries kvs) ++ ['\x7d'])

def Value.plainReprs : List Value → List (List Char)
  | [] => []
  | v :: vs => v.plainRepr :: Value.plainReprs vs

def Value.plainEntries : List (String × Value) → List (List Char)
  | [] => []
  | (k, v) :: kvs => ('\'' :: (k.toList ++ ['\'', ':', ' '] ++ v.plainRepr)) ::
      Value.plainEntries kvs

end

/-- `float` of a whole number, of `inf` and of `nan`. -/
def plainDouble (s : String) : Option Double :=
  let cs := stripChars s.toList
  if cs = ['i', 'n', 'f'] then some (.infinite false)
  else if cs = ['n', 'a', 'n'] then some .nan
  else if cs ≠ [] ∧ cs.all Char.isDigit then
    some (Double.round ((cs.foldl (fun n c => 10 * n + (c.toNat - 48)) 0 : ℕ) : ℚ))
  else none

theorem stripChars_bracketed {a b : Char} (ha : isSpace a = false) (hb : isSpace b = false)
    (cs : List Char) : stripChars (a :: (cs ++ [b])) = a :: (cs ++ [b]) := by
  rw [stripChars, List.dropWhile_cons_of_neg (by rw [ha]; decide), ← List.cons_append,
    List.rdropWhile_concat_neg _ _ _ (by rw [hb]; decide)]

theorem plainDouble_bracketed {a b : Char} (ha : isSpace a = false) (hb : isSpace b = false)
    (hi : a ≠ 'i') (hn : a ≠ 'n') (hdigit : a.isDigit = false) (cs : List Char) :
    plainDouble (strip (String.ofList (a :: (cs ++ [b])))) = none := by
  rw [plainDouble, strip, String.toList_ofList, String.toList_ofList, stripChars_bracketed ha hb,
    stripChars_bracketed ha hb]
  simp [hi, hn, hdigit]

theorem plainDouble_repr (v : Value) (h : v.isContainer = true) :
    plainDouble (strip (String.ofList v.plainRepr)) = none := by
  cases v with
  | list xs =>
    rw [Value.plainRepr]
    exact plainDouble_bracketed (by decide) (by decide) (by decide) (by decide) (by decide) _
  | dict kvs =>
    rw [Value.plainRepr]
    exact plainDouble_bracketed (by decide) (by decide) (by decide) (by decide) (by decide) _
  | _ => cases h

/-- `f"{x:.2f}"` of a number from 0 to 9. -/
def plainTwoDecimals (q : ℚ) : String :=
  let n := (Double.roundHalfEven (q * 100)).toNat
  String.ofList [Nat.digitChar (n / 100), '.', Nat.digitChar (n / 10 % 10), Nat.digitChar (n % 10)]

/-- Python's runtime on ASCII text. -/
def RuleRuntime.ascii : RuleRuntime where
  toRuntime := Runtime.ascii
  nfkd s := s
  combining _ := false
  decimal c := if c.isDigit then some (c.toNat - 48) else none
  capitalize s := String.ofList (match s.toList with
    | [] => []
    | c :: cs => c.toUpper :: cs.map Char.toLower)
  ignoreCase a b := a.toLower == b.toLower
  reprValue v := String.ofList v.plainRepr
  parseDouble := plainDouble
  doubleRepr _ := "0.0"
  twoDecimals := plainTwoDecimals
  lower_empty := by decide
  isWord_ascii _ _ := rfl
  nfkd_ascii _ _ := rfl
  combining_ascii _ _ := rfl
  decimal_digit _ h := if_pos h
  repr_dict_nil := by decide
  parseDouble_empty := by decide
  parseDouble_repr := plainDouble_repr

end Bookwarden
