import Mathlib.Data.List.Basic
import Mathlib.Tactic.Common
import Bookwarden.Lib.Assoc

/-!
# XML element trees, written and read again

The tree of a document as a non-validating parser builds it: names are resolved, comments and
processing instructions are gone, and character data is kept before the first child (`text`) and
after the element (`tail`). Writing a tree escapes its character data; reading it back normalizes
line ends and attribute values, and refuses characters that no document may contain. The two are
not inverse: a carriage return in element text is written as itself and comes back as a line feed,
while one in an attribute is written as a reference and survives.

## Main definitions

* `Xml.Element`, `Element.find`, `Element.findall`, `Element.replaceFirst`
* `Xml.escapeCdata`, `Xml.escapeAttrib` — how character data is written
* `Xml.readCdata`, `Xml.readAttrib` — how it is read
* `Xml.Element.reread` — a tree written and read again
* `Xml.Element.carried` — no character of the tree is changed or refused on the way

## Main results

* `Xml.Element.reread_of_carried` — such a tree comes back as itself
* `Xml.map_head_rereadAll` — names and attributes come back in any case
-/

namespace Xml

/-- A name with its namespace; without one the namespace is empty. -/
structure QName where
  namespaceName : String
  localName : String
  deriving DecidableEq, Repr

/-- An element. Missing text is the empty text. -/
structure Element where
  tag : QName
  attrib : List (QName × String) := []
  text : String := ""
  children : List Element := []
  tail : String := ""

namespace Element

/-- The name and the attributes. -/
def head (e : Element) : QName × List (QName × String) := (e.tag, e.attrib)

/-- `element.get(name)`. -/
def get (e : Element) (name : QName) : Option String := Assoc.get? name e.attrib

/-- `element.findall(tag)`: the children with a name. -/
def findall (e : Element) (tag : QName) : List Element := e.children.filter fun c => c.tag = tag

/-- `element.find(tag)`: the first child with a name. -/
def find (e : Element) (tag : QName) : Option Element := e.children.find? fun c => c.tag = tag

/-- The list with its first element of a name replaced. -/
def replaceFirst (tag : QName) (new : Element) : List Element → List Element
  | [] => []
  | c :: cs => if c.tag = tag then new :: cs else c :: replaceFirst tag new cs

end Element

/-! ### Character data -/

/-- The characters a document may contain. -/
def isXmlChar (c : Char) : Bool :=
  let n := c.toNat
  n == 9 || n == 10 || n == 13 || (0x20 ≤ n && n ≤ 0xD7FF) || (0xE000 ≤ n && n ≤ 0xFFFD)
    || 0x10000 ≤ n

/-- A unit of character data in a document: a character itself, or a reference to it. -/
inductive CharUnit
  | raw (c : Char)
  | ref (c : Char)
  deriving DecidableEq, Repr

/-- Character data between tags, as it is written. -/
def escapeCdata (cs : List Char) : List CharUnit :=
  cs.map fun c => if c ∈ ['&', '<', '>'] then .ref c else .raw c

/-- An attribute value, as it is written. -/
def escapeAttrib (cs : List Char) : List CharUnit :=
  cs.map fun c => if c ∈ ['&', '<', '>', '"', '\r', '\n', '\t'] then .ref c else .raw c

/-- Line ends are line feeds before anything else is read; `afterCr` after a carriage return. -/
def lineEnds (afterCr : Bool) : List CharUnit → List CharUnit
  | [] => []
  | u :: us =>
    if u = .raw '\r' then .raw '\n' :: lineEnds true us
    else if afterCr ∧ u = .raw '\n' then lineEnds false us
    else u :: lineEnds false us

/-- A unit between tags. -/
def readUnit : CharUnit → Option Char
  | .raw c => if isXmlChar c ∧ c ∉ ['&', '<'] then some c else none
  | .ref c => if isXmlChar c then some c else none

/-- A unit of an attribute value; white space that is not a reference is a space. -/
def readAttribUnit : CharUnit → Option Char
  | .raw c =>
    if c ∈ ['\n', '\t'] then some ' '
    else if isXmlChar c ∧ c ∉ ['&', '<', '"'] then some c else none
  | .ref c => if isXmlChar c then some c else none

/-- Character data between tags, as it is read; `none` when the document is not well formed. -/
def readCdata (us : List CharUnit) : Option (List Char) := (lineEnds false us).mapM readUnit

/-- An attribute value, as it is read. -/
def readAttrib (us : List CharUnit) : Option (List Char) := (lineEnds false us).mapM readAttribUnit

/-- Text written and read again. -/
def rereadText (s : String) : Option String :=
  (readCdata (escapeCdata s.toList)).map String.ofList

/-- An attribute value written and read again. -/
def rereadValue (s : String) : Option String :=
  (readAttrib (escapeAttrib s.toList)).map String.ofList

/-- The attributes written and read again. -/
def rereadAttrib : List (QName × String) → Option (List (QName × String))
  | [] => some []
  | (name, value) :: rest => do
    let value ← rereadValue value
    let rest ← rereadAttrib rest
    some ((name, value) :: rest)

mutual

/-- An element written and read again; `none` when what was written is not well formed. -/
def Element.reread : Element → Option Element
  | ⟨tag, attrib, text, children, tail⟩ => do
    let attrib ← rereadAttrib attrib
    let text ← rereadText text
    let children ← rereadAll children
    let tail ← rereadText tail
    some ⟨tag, attrib, text, children, tail⟩

def rereadAll : List Element → Option (List Element)
  | [] => some []
  | e :: es => do
    let e ← e.reread
    let es ← rereadAll es
    some (e :: es)

end

/-- The characters that come back from element text. -/
def plain (s : String) : Bool := s.toList.all fun c => isXmlChar c && c != '\r'

/-- The characters that come back from an attribute value. -/
def legal (s : String) : Bool := s.toList.all isXmlChar

mutual

/-- Every character of the element comes back when it is written and read again. -/
def Element.carried : Element → Bool
  | ⟨_, attrib, text, children, tail⟩ =>
    attrib.all (fun a => legal a.2) && plain text && allCarried children && plain tail

def allCarried : List Element → Bool
  | [] => true
  | e :: es => e.carried && allCarried es

end

theorem allCarried_iff {es : List Element} :
    allCarried es = true ↔ ∀ e ∈ es, e.carried = true := by
  induction es with
  | nil => simp [allCarried]
  | cons e es ih => simp [allCarried, ih]

/-! ### What comes back -/

/-- Without a carriage return there is nothing to normalize. -/
theorem lineEnds_of_notMem {us : List CharUnit} (h : .raw '\r' ∉ us) : lineEnds false us = us := by
  induction us with
  | nil => rfl
  | cons u us ih =>
    rw [List.mem_cons, not_or] at h
    have hne : ¬(u = .raw '\r') := fun hu => h.1 hu.symm
    rw [lineEnds, if_neg hne, if_neg (by simp), ih h.2]

theorem readUnit_escape {c : Char} (h : isXmlChar c = true) :
    readUnit (if c ∈ ['&', '<', '>'] then .ref c else .raw c) = some c := by
  split
  · simp [readUnit, h]
  · rename_i hc
    have hraw : c ∉ ['&', '<'] := fun hmem => hc (by simp at hmem ⊢; tauto)
    exact if_pos ⟨h, hraw⟩

theorem readAttribUnit_escape (c : Char) :
    readAttribUnit (if c ∈ ['&', '<', '>', '"', '\r', '\n', '\t'] then .ref c else .raw c) =
      if isXmlChar c then some c else none := by
  split
  · rfl
  · rename_i hc
    have hspace : c ∉ ['\n', '\t'] := fun hmem => hc (by simp at hmem ⊢; tauto)
    have hraw : c ∉ ['&', '<', '"'] := fun hmem => hc (by simp at hmem ⊢; tauto)
    simp only [readAttribUnit, if_neg hspace, hraw, not_false_eq_true, and_true]

theorem readCdata_escapeCdata {cs : List Char} (h : ∀ c ∈ cs, isXmlChar c = true ∧ c ≠ '\r') :
    readCdata (escapeCdata cs) = some cs := by
  have hcr : .raw '\r' ∉ escapeCdata cs := by
    intro hmem
    obtain ⟨c, hc, heq⟩ := List.mem_map.mp hmem
    split at heq
    · cases heq
    · exact (h c hc).2 (CharUnit.raw.inj heq)
  rw [readCdata, lineEnds_of_notMem hcr, escapeCdata]
  induction cs with
  | nil => rfl
  | cons c cs ih =>
    have hrest := ih (fun d hd => h d (List.mem_cons_of_mem _ hd)) fun hmem =>
      hcr (List.mem_cons_of_mem _ hmem)
    rw [List.map_cons, List.mapM_cons, readUnit_escape (h c List.mem_cons_self).1, hrest]
    rfl

theorem readAttrib_escapeAttrib (cs : List Char) :
    readAttrib (escapeAttrib cs) = if cs.all isXmlChar then some cs else none := by
  have hcr : .raw '\r' ∉ escapeAttrib cs := by
    intro hmem
    obtain ⟨c, hc, heq⟩ := List.mem_map.mp hmem
    split at heq
    · cases heq
    · rename_i hnot
      exact hnot (by rw [CharUnit.raw.inj heq]; decide)
  rw [readAttrib, lineEnds_of_notMem hcr, escapeAttrib]
  induction cs with
  | nil => rfl
  | cons c cs ih =>
    have hrest := ih fun hmem => hcr (List.mem_cons_of_mem _ hmem)
    rw [List.map_cons, List.mapM_cons, readAttribUnit_escape, hrest, List.all_cons]
    by_cases hc : isXmlChar c = true
    · by_cases hcs : cs.all isXmlChar = true <;> simp [hc, hcs]
    · simp [hc]

theorem rereadText_of_plain {s : String} (h : plain s = true) : rereadText s = some s := by
  have hchars : ∀ c ∈ s.toList, isXmlChar c = true ∧ c ≠ '\r' := by
    simpa [plain] using h
  rw [rereadText, readCdata_escapeCdata hchars, Option.map_some, String.ofList_toList]

theorem rereadValue_eq (s : String) : rereadValue s = if legal s then some s else none := by
  rw [rereadValue, readAttrib_escapeAttrib, legal]
  split
  · rw [Option.map_some, String.ofList_toList]
  · rfl

/-- Attributes come back as they were, or not at all. -/
theorem rereadAttrib_eq (attrib : List (QName × String)) :
    rereadAttrib attrib = if attrib.all (fun a => legal a.2) then some attrib else none := by
  induction attrib with
  | nil => rfl
  | cons a rest ih =>
    obtain ⟨name, value⟩ := a
    rw [rereadAttrib, rereadValue_eq, ih, List.all_cons]
    by_cases hvalue : legal value = true
    · by_cases hrest : rest.all (fun a => legal a.2) = true <;> simp [hvalue, hrest]
    · simp [hvalue]

mutual

/-- An element whose characters all come back comes back as itself. -/
theorem Element.reread_of_carried : (e : Element) → e.carried = true → e.reread = some e
  | ⟨tag, attrib, text, children, tail⟩, h => by
    simp only [Element.carried, Bool.and_eq_true] at h
    obtain ⟨⟨⟨hattrib, htext⟩, hchildren⟩, htail⟩ := h
    rw [Element.reread, rereadAttrib_eq, if_pos hattrib, rereadText_of_plain htext,
      rereadAll_of_carried children hchildren, rereadText_of_plain htail]
    rfl

theorem rereadAll_of_carried : (es : List Element) → allCarried es = true →
    rereadAll es = some es
  | [], _ => rfl
  | e :: es, h => by
    rw [allCarried, Bool.and_eq_true] at h
    rw [rereadAll, e.reread_of_carried h.1, rereadAll_of_carried es h.2]
    rfl

end

theorem Element.reread_eq_some {e e' : Element} (h : e.reread = some e') :
    e'.head = e.head ∧ rereadAll e.children = some e'.children := by
  obtain ⟨tag, attrib, text, children, tail⟩ := e
  simp only [Element.reread, Option.bind_eq_bind, Option.bind_eq_some_iff, rereadAttrib_eq,
    Option.ite_none_right_eq_some, Option.some.injEq] at h
  obtain ⟨_, ⟨-, rfl⟩, _, -, children', hchildren, _, -, rfl⟩ := h
  exact ⟨rfl, hchildren⟩

/-- Whatever comes back has the names and the attributes that were written. -/
theorem map_head_rereadAll {es es' : List Element} (h : rereadAll es = some es') :
    es'.map Element.head = es.map Element.head := by
  induction es generalizing es' with
  | nil =>
    cases h
    rfl
  | cons e es ih =>
    simp only [rereadAll, Option.bind_eq_bind, Option.bind_eq_some_iff, Option.some.injEq] at h
    obtain ⟨e', he, rest, hrest, rfl⟩ := h
    rw [List.map_cons, List.map_cons, (Element.reread_eq_some he).1, ih hrest]

end Xml
