import Bookwarden.Verification.Value

/-!
# Texts as the rules compare them

The normal form of a title, a name or a publisher (`_normalize_text` of `verification/rules.py`), the
cleaning of titles (`rules/lexical.py`), and the two forms of an author's name
(`rules/authority.py`).
-/

namespace Bookwarden.Verification

variable (py : RuleRuntime)

/-! ### `_normalize_text` -/

/-- `\s+` and a word. -/
def spaceWord (w : String) : Matcher Char := (Matcher.many1 isSpace).andThen (wordOf py w)

/-- A word, and `(?:\s+edition)?`. -/
def editionWord (w : String) : Matcher Char :=
  (wordOf py w).andThen (Matcher.optional (spaceWord py "edition"))

/-- `\d+`. -/
def digits : Matcher Char := Matcher.many1 fun c => (py.decimal c).isSome

/-- A word, `\s+` and `\d+`. -/
def numberedWord (w : String) : Matcher Char :=
  ((wordOf py w).andThen (Matcher.many1 isSpace)).andThen (digits py)

/-- The alternatives of `_EDITION_TAGS`. -/
def editionAlternatives : List (Matcher Char) :=
  [editionWord py "special", editionWord py "anniversary",
    (((wordOf py "collector").andThen (Matcher.optional (literal "'"))).andThen
      (Matcher.optional (wordOf py "s"))).andThen
        (Matcher.optional (spaceWord py "edition")),
    editionWord py "deluxe", wordOf py "hardcover", wordOf py "paperback",
    editionWord py "first",
    ((digits py).andThen (Matcher.oneOf (["st", "nd", "rd", "th"].map (wordOf py)))).andThen
      (Matcher.optional (spaceWord py "edition")),
    editionWord py "1st", editionWord py "2nd", editionWord py "3rd",
    editionWord py "revised", editionWord py "updated", editionWord py "expanded",
    editionWord py "complete", editionWord py "definitive", editionWord py "illustrated",
    editionWord py "gift",
    (wordOf py "boxed").andThen (Matcher.optional (spaceWord py "set")),
    wordOf py "set", editionWord py "omnibus", editionWord py "annotated",
    editionWord py "unabridged", editionWord py "abridged", wordOf py "preview",
    wordOf py "novel", wordOf py "edition",
    (wordOf py "vol").andThen (Matcher.optional (literal ".")),
    wordOf py "volume", numberedWord py "book", numberedWord py "part",
    numberedWord py "chapter", digits py]

/-- `_EDITION_TAGS`. -/
def editionTags : Matcher Char :=
  (((((Matcher.many isSpace).andThen (Matcher.char fun c => c = '(' || c = '[')).andThen
    (Matcher.oneOf (editionAlternatives py))).andThen (Matcher.many isSpace)).andThen
      (Matcher.char fun c => c = ')' || c = ']'))

/-- `_EDITION_TAGS.search`. -/
def hasEditionTag (s : String) : Bool := searchMatch (editionTags py) s.toList

/-- `_normalize_text` of a text. -/
def normalizeString (s : String) : String :=
  let cs := (py.nfkd s).toList.filter fun c => !py.combining c
  let cs := deleteMatches (fun _ => editionTags py) none 0 cs
  let cs := cs.map fun c => if py.isWord c || isSpace c then c else ' '
  py.lower (strip (String.ofList (collapseSpaces cs)))

/-- `_normalize_text`. -/
def normalizeText : Value → String
  | .null => ""
  | .list xs => normalizeString py (" ".intercalate (xs.map (Value.toStr py)))
  | v => normalizeString py (v.toStr py)

/-! ### `clean_title` -/

/-- `\bv\d+(\.\d+)+\b`. -/
def versionTag : Expression := fun before cs =>
  if before.any py.isWord then []
  else
    let body := ((wordOf py "v").andThen (digits py)).andThen
      (((Matcher.char (· = '.')).andThen (digits py)).andThen
        (Matcher.repeats ((Matcher.char (· = '.')).andThen (digits py)) cs.length))
    (body cs).filter fun rest => !rest.head?.any py.isWord

/-- `^microsoft word\s*-\s*`. -/
def microsoftWord : Expression := fun before cs =>
  if before.isSome then []
  else ((((wordOf py "microsoft word").andThen (Matcher.many isSpace)).andThen
    (Matcher.char (· = '-'))).andThen (Matcher.many isSpace)) cs

/-- `JUNK_PATTERNS`. -/
def junkPatterns : List Expression :=
  [fun _ => wordOf py "[welib.org]", fun _ => wordOf py "(z-library)",
    fun _ => wordOf py "[z-lib.org]", fun _ => wordOf py "[oceanofpdf.com]",
    fun _ => wordOf py "[libgen.li]", fun _ => wordOf py "[b-ok.org]",
    versionTag py, fun _ => wordOf py "[ocr]", fun _ => wordOf py "[retail]",
    fun _ => wordOf py "[leather bound]", fun _ => wordOf py "(illustrated)",
    fun _ => wordOf py "(annotated)", microsoftWord py,
    fun _ => (wordOf py "_print").andThen Matcher.atEnd]

/-- `FILE_EXTENSIONS`. -/
def fileExtensions : List String := [".epub", ".pdf", ".mobi", ".azw3", ".djvu", ".cbz", ".cbr"]

/-- One round of the loop over the extensions. -/
def dropExtension (t ext : String) : String :=
  if endsWithLower py.toRuntime t ext then
    strip (String.ofList (t.toList.take (t.toList.length - ext.toList.length)))
  else t

/-- One round of the loop over the patterns. -/
def dropJunk (t : String) (pattern : Expression) : String :=
  strip (String.ofList (deleteMatches pattern none 0 t.toList))

/-- `[\s\-_:.]`. -/
def isEdge (c : Char) : Bool := isSpace c || c = '-' || c = '_' || c = ':' || c = '.'

/-- `\(\s*\)|\[\s*\]`. -/
def emptyBrackets : Matcher Char :=
  Matcher.oneOf [
    ((Matcher.char (· = '(')).andThen (Matcher.many isSpace)).andThen (Matcher.char (· = ')')),
    ((Matcher.char (· = '[')).andThen (Matcher.many isSpace)).andThen (Matcher.char (· = ']'))]

/-- `clean_title`. -/
def cleanTitle (rawTitle : String) : String :=
  if rawTitle = "" then ""
  else
    let t := fileExtensions.foldl (dropExtension py) (strip rawTitle)
    let t := (junkPatterns py).foldl dropJunk t
    let cs := collapseSpaces ((t.toList.dropWhile isEdge).rdropWhile isEdge)
    let t := strip (String.ofList (deleteMatches (fun _ => emptyBrackets) none 0 cs))
    String.ofList (collapseSpaces t.toList)

/-! ### Names of authors -/

/-- `normalize_author_display`. -/
def normalizeAuthorDisplay (name : String) : String :=
  if name = "" then ""
  else
    let n := strip name
    if n.toList.contains ',' then
      let last := strip (String.ofList (n.toList.takeWhile (· ≠ ',')))
      let first := strip (String.ofList ((n.toList.dropWhile (· ≠ ',')).drop 1))
      if py.lower first ∈ ["saint", "st."] then "Saint " ++ last
      else if py.lower first ∈ ["pope", "papa"] then "Pope " ++ last
      else if py.lower first ∈ ["the", "der"] then py.capitalize first ++ " " ++ last
      else first ++ " " ++ last
    else String.ofList (collapseSpaces n.toList)

/-- `CORPORATE_ENTITIES`. -/
def corporateEntities : List (String × String) :=
  [("the economist", "Economist, The"), ("the new yorker", "New Yorker, The"),
    ("financial times", "Financial Times"), ("der spiegel", "Spiegel, Der"),
    ("spiegel online", "Spiegel Online"),
    ("the wall street journal", "Wall Street Journal, The"), ("nature", "Nature"),
    ("lonely planet", "Lonely Planet"), ("harvard business review", "Harvard Business Review")]

/-- `COMPOUND_SURNAME_AUTHORITY`. -/
def compoundSurnameAuthority : List (String × String) :=
  [("mario vargas llosa", "Vargas Llosa"), ("gabriel garcia marquez", "García Márquez")]

/-- `NOBLE_PARTICLES`. -/
def nobleParticles : List String :=
  ["von", "van", "de", "del", "della", "da", "di", "du", "des", "der", "den", "el", "al", "fitz",
    "mac", "mc"]

/-- `MULTIWORD_NOBLE_PARTICLES`. -/
def multiwordNobleParticles : List String := ["de la", "de las", "de los", "van der"]

/-- `_authority_key`. -/
def authorityKey (name : String) : String :=
  let withoutMarks := (py.nfkd name).toList.filter fun c => !py.combining c
  py.casefold (strip (String.ofList (collapseSpaces withoutMarks)))

/-- `re.sub(r"^(…)\s+", "", n)` for a name that begins with one of the words and a space. -/
def afterTitle (titles : List String) (n : String) : String :=
  String.ofList (((((Matcher.oneOf (titles.map literal)).andThen
    (Matcher.many1 isSpace)) n.toList).head?).getD n.toList)

/-- The last words of a name, a comma, and the words before them. -/
def surnameFirst (words : List String) (surnameWords : ℕ) : String :=
  " ".intercalate (words.drop (words.length - surnameWords)) ++ ", " ++
    " ".intercalate (words.take (words.length - surnameWords))

/-- One round of the loop over the particles. -/
def particleSort (words : List String) (particleWords : ℕ) : Option String :=
  if words.length < particleWords + 2 then none
  else
    let particle := py.casefold (" ".intercalate
      ((words.drop (words.length - (particleWords + 1))).take particleWords))
    let known := if particleWords = 2 then decide (particle ∈ multiwordNobleParticles)
      else decide (particle ∈ nobleParticles)
    if known then some (surnameFirst words (particleWords + 1)) else none

/-- The compound surname of a known author, when something is left of the name. -/
def compoundSort (n : String) (words : List String) : Option String :=
  match Assoc.get? (authorityKey py n) compoundSurnameAuthority with
  | none => none
  | some surname =>
    let given := " ".intercalate (words.take (words.length - (splitSpaces surname).length))
    if given = "" then none else some (surname ++ ", " ++ given)

/-- `compute_author_sort`. The last word of a name without words is an `IndexError`. -/
def computeAuthorSort (name : String) : Except PyError String :=
  if name = "" then .ok ""
  else
    let n := strip name
    match Assoc.get? (py.lower n) corporateEntities with
    | some sort => .ok sort
    | none =>
      if n.toList.contains ',' then .ok n
      else if startsWith n "Saint " || startsWith n "St. " || startsWith n "San " then
        .ok (afterTitle ["Saint", "St.", "San"] n ++ ", Saint")
      else if startsWith n "Pope " || startsWith n "Papa " then
        .ok (afterTitle ["Pope", "Papa"] n ++ ", Pope")
      else
        match splitSpaces n with
        | [word] => .ok word
        | words =>
          match compoundSort py n words with
          | some sort => .ok sort
          | none =>
            match (particleSort py words 2).or (particleSort py words 1) with
            | some sort => .ok sort
            | none =>
              if words = [] then .error ⟨.other, "list index out of range"⟩
              else .ok (surnameFirst words 1)

/-! ### Letters of another script -/

/-- `_CYRILLIC_TO_LATIN`. -/
def cyrillicToLatin : List (Char × String) :=
  [('а', "a"), ('б', "b"), ('в', "v"), ('г', "g"), ('д', "d"), ('е', "e"), ('ё', "e"),
    ('ж', "zh"), ('з', "z"), ('и', "i"), ('й', "y"), ('к', "k"), ('л', "l"), ('м', "m"),
    ('н', "n"), ('о', "o"), ('п', "p"), ('р', "r"), ('с', "s"), ('т', "t"), ('у', "u"),
    ('ф', "f"), ('х', "kh"), ('ц', "ts"), ('ч', "ch"), ('ш', "sh"), ('щ', "shch"), ('ъ', ""),
    ('ы', "y"), ('ь', ""), ('э', "e"), ('ю', "yu"), ('я', "ya")]

/-- `_transliterate_cyrillic`. -/
def transliterateCyrillic (s : String) : String :=
  String.ofList ((py.lower s).toList.flatMap fun c =>
    ((Assoc.get? c cyrillicToLatin).map String.toList).getD [c])

/-- `_cross_script_similarity`. -/
def crossScriptSimilarity (a b : String) : ℚ :=
  fuzzyRatio (transliterateCyrillic py a) (transliterateCyrillic py b)

end Bookwarden.Verification
