import Bookwarden.Extractors.ZipMember
import Bookwarden.Paths

/-!
# The limits of ZIP extraction

Every chunk is counted before the next one is read, so that a call returns no more than its limit and
holds no more than one chunk beyond it, and calls that share a tracker return no more than the quota
in all: a call that overdraws the tracker raises, and leaves it so that every later one does.

An accepted name has components that are neither empty nor dots, and it is a name that is accepted as
it is. The control characters that are refused are those below U+0020; DEL and the C1 controls pass.

## Main definitions

* `IsMemberPath` — what a sanitized name is
* `WithinLimits` — what the calls on one tracker keep to

## Main results

* `zip_within_limits`
* `delete_passes`
-/

namespace Bookwarden.Zip

section Notions

/-- A control character of Unicode, C0, DEL or C1. -/
def isControl (c : Char) : Bool := c.toNat < 32 || (127 ≤ c.toNat && c.toNat < 160)

/-- A control character of C0. -/
def isC0Control (c : Char) : Bool := c.toNat < 32

/-- A relative path without empty components, dots, control characters and backslashes. -/
structure IsMemberPath (control : Char → Bool) (clean : String) : Prop where
  nonempty : clean ≠ ""
  relative : startsWith clean "/" = false
  components : ∀ c ∈ split '/' clean, c ≠ "" ∧ c ≠ "." ∧ c ≠ ".."
  controls : ∀ c ∈ clean.toList, control c = false
  backslashes : '\\' ∉ clean.toList

/-- An accepted name is such a path, and is accepted as it is. -/
def SanitizesTo (texts : Texts) (control : Char → Bool) : Prop :=
  ∀ name clean, sanitizeMemberPath texts name = .ok clean →
    IsMemberPath control clean ∧ sanitizeMemberPath texts clean = .ok clean

/-- The bytes that a call returns. -/
def ReadResult.returned (r : ReadResult) : ℕ :=
  match r.outcome with
  | .ok bytes => bytes.length
  | .error _ => 0

/-- No call returns more than its limit or buffers more than a chunk beyond it, and all calls together
return no more than the quota. -/
structure WithinLimits (texts : Texts) (calls : List Call) : Prop where
  each : List.Forall₂ (fun call r => (∀ bytes, r.outcome = .ok bytes → bytes.length ≤ call.maxBytes) ∧
    r.buffered ≤ call.maxBytes + chunkBytes) calls (readSequence texts calls 0)
  total : ((readSequence texts calls 0).map ReadResult.returned).sum ≤ maxCumulativeBytes

end Notions

variable {texts : Texts}

/-! ### Names -/

/-- What is checked of a name with its backslashes replaced. -/
structure Accepted (raw : String) : Prop where
  nonempty : raw ≠ ""
  controls : ∀ c ∈ raw.toList, 32 ≤ c.toNat
  relative : startsWith raw "/" = false
  noUp : ".." ∉ split '/' raw
  kept : (split '/' raw).filter isKept ≠ []

theorem pathParts_eq (p : String) : (pathParts p).2 = (split '/' p).filter isKept := rfl

theorem up_mem_pathParts {p : String} : ".." ∈ (pathParts p).2 ↔ ".." ∈ split '/' p := by
  rw [pathParts_eq, List.mem_filter]
  exact and_iff_left (by decide)

theorem Accepted.normpath {raw : String} (h : Accepted raw) :
    normpath raw = "/".intercalate ((split '/' raw).filter isKept) := by
  rw [normpath_relative h.nonempty h.relative h.noUp, if_neg h.kept]

theorem Accepted.split_normpath {raw : String} (h : Accepted raw) :
    split '/' (Bookwarden.normpath raw) = (split '/' raw).filter isKept := by
  rw [h.normpath]
  exact split_intercalate (fun c hc => no_slash_of_mem_split (List.mem_filter.mp hc).1) h.kept

/-- The components of the normal form. -/
theorem Accepted.component {raw : String} (h : Accepted raw) {c : String}
    (hc : c ∈ split '/' (Bookwarden.normpath raw)) :
    c ≠ "" ∧ c ≠ "." ∧ c ≠ ".." ∧ c ∈ split '/' raw := by
  rw [h.split_normpath] at hc
  obtain ⟨hmem, hkept⟩ := List.mem_filter.mp hc
  exact ⟨ne_empty_of_isKept hkept, ne_dot_of_isKept hkept, fun hup => h.noUp (hup ▸ hmem), hmem⟩

/-- A path that begins with `../` has the component `..`. -/
theorem up_mem_split_of_startsWith {p : String} (h : startsWith p "../" = true) :
    ".." ∈ split '/' p := by
  obtain ⟨rest, hrest⟩ := List.isPrefixOf_iff_prefix.mp h
  have hchars : p.toList = ['.', '.'] ++ '/' :: rest := hrest.symm
  rw [split, hchars, List.splitOn_append_cons_self_of_not_mem (by decide)]
  exact List.mem_map.mpr ⟨['.', '.'], List.mem_cons_self, rfl⟩

theorem sanitizeMemberPath_eq_ok_iff {name clean : String} :
    sanitizeMemberPath texts name = .ok clean ↔
      Accepted (replaceChar '\\' '/' name) ∧ clean = normpath (replaceChar '\\' '/' name) := by
  rw [sanitizeMemberPath]
  generalize replaceChar '\\' '/' name = raw
  simp only
  constructor
  · intro h
    split at h
    · cases h
    · next hfirst =>
      split at h
      · cases h
      · next hsecond =>
        split at h
        · cases h
        · next hthird =>
          split at h
          · cases h
          · simp only [not_or, Bool.not_eq_true, List.any_eq_false, decide_eq_true_eq, not_lt]
              at hfirst hsecond hthird
            have hup : ".." ∉ split '/' raw := fun hup =>
              hsecond.2 (up_mem_pathParts.mpr hup)
            have hkept : (split '/' raw).filter isKept ≠ [] := by
              intro hnil
              refine hthird.2.1 ?_
              rw [normpath_relative hfirst.1 hsecond.1 hup, if_pos hnil]
            exact ⟨⟨hfirst.1, hfirst.2.2, hsecond.1, hup, hkept⟩, (Except.ok.inj h).symm⟩
  · rintro ⟨haccepted, rfl⟩
    have hnul : '\x00' ∉ raw.toList := fun hmem => absurd (haccepted.controls _ hmem) (by decide)
    have hcontrols : ¬(raw.toList.any fun c => c.toNat < 32) = true := by
      rw [Bool.not_eq_true, List.any_eq_false]
      intro c hc
      have hle := haccepted.controls c hc
      rw [decide_eq_true_eq]
      omega
    have hup : ".." ∉ split '/' (normpath raw) := fun hmem => (haccepted.component hmem).2.2.1 rfl
    have hnot : ∀ c, split '/' c = [c] → (c = "" ∨ c = "." ∨ c = "..") → normpath raw ≠ c := by
      rintro c hsplit hc heq
      have hmem : c ∈ split '/' (normpath raw) := by
        rw [heq, hsplit]
        exact List.mem_singleton_self c
      obtain ⟨hempty, hdot, hdots, -⟩ := haccepted.component hmem
      rcases hc with rfl | rfl | rfl
      · exact hempty rfl
      · exact hdot rfl
      · exact hdots rfl
    have hstarts : ¬startsWith (normpath raw) "../" = true := fun h =>
      hup (up_mem_split_of_startsWith h)
    rw [if_neg, if_neg, if_neg, if_neg]
    · exact fun h => hup (up_mem_pathParts.mp h)
    · rintro (h | h | h | h)
      · exact hnot "" (by decide) (Or.inl rfl) h
      · exact hnot "." (by decide) (Or.inr (Or.inl rfl)) h
      · exact hstarts h
      · exact hnot ".." (by decide) (Or.inr (Or.inr rfl)) h
    · rintro (h | h)
      · rw [haccepted.relative] at h
        cases h
      · exact haccepted.noUp (up_mem_pathParts.mp h)
    · rintro (h | h | h)
      · exact haccepted.nonempty h
      · exact hnul h
      · exact hcontrols h

/-- The characters of the normal form are those of the name, and slashes. -/
theorem Accepted.mem_toList {raw : String} (h : Accepted raw) {ch : Char}
    (hch : ch ∈ (Bookwarden.normpath raw).toList) : ch = '/' ∨ ch ∈ raw.toList := by
  rw [h.normpath] at hch
  rcases mem_toList_join hch with hslash | ⟨c, hc, hch⟩
  · exact Or.inl hslash
  · exact Or.inr (mem_toList_of_mem_split (List.mem_filter.mp hc).1 hch)

theorem Accepted.controls_normpath {raw : String} (h : Accepted raw) :
    ∀ c ∈ (Bookwarden.normpath raw).toList, 32 ≤ c.toNat := by
  intro c hc
  rcases h.mem_toList hc with rfl | hc
  · decide
  · exact h.controls c hc

/-- A normal form is accepted. -/
theorem Accepted.accepted_normpath {raw : String} (h : Accepted raw) :
    Accepted (Bookwarden.normpath raw) := by
  have hparts : ∀ c ∈ (split '/' raw).filter isKept, c ≠ "" := fun c hc =>
    ne_empty_of_isKept (List.mem_filter.mp hc).2
  refine ⟨?_, h.controls_normpath, ?_, fun hup => (h.component hup).2.2.1 rfl, ?_⟩
  · rw [h.normpath]
    exact join_ne_empty hparts h.kept
  · by_contra hslash
    rw [Bool.not_eq_false] at hslash
    obtain ⟨rest, hrest⟩ := List.isPrefixOf_iff_prefix.mp hslash
    have hchars : (Bookwarden.normpath raw).toList = [] ++ '/' :: rest := hrest.symm
    have hmem : "" ∈ split '/' (Bookwarden.normpath raw) := by
      rw [split, hchars, List.splitOn_append_cons_self_of_not_mem (List.not_mem_nil)]
      exact List.mem_map.mpr ⟨[], List.mem_cons_self, rfl⟩
    exact (h.component hmem).1 rfl
  · rw [h.split_normpath, List.filter_filter]
    simp only [Bool.and_self]
    exact h.kept

theorem Accepted.normpath_normpath {raw : String} (h : Accepted raw) :
    Bookwarden.normpath (Bookwarden.normpath raw) = Bookwarden.normpath raw := by
  rw [h.accepted_normpath.normpath, h.split_normpath, List.filter_filter, h.normpath]
  simp only [Bool.and_self]

theorem no_backslash_replaceChar (name : String) : '\\' ∉ (replaceChar '\\' '/' name).toList := by
  intro hmem
  rw [replaceChar, String.toList_ofList] at hmem
  obtain ⟨c, -, hc⟩ := List.mem_map.mp hmem
  by_cases h : c = '\\'
  · rw [if_pos h] at hc
    exact absurd hc (by decide)
  · rw [if_neg h] at hc
    exact h hc

theorem replaceChar_of_notMem {s : String} (h : '\\' ∉ s.toList) : replaceChar '\\' '/' s = s := by
  have hmap : s.toList.map (fun c => if c = '\\' then '/' else c) = s.toList := by
    refine (List.map_congr_left fun c hc => ?_).trans (List.map_id _)
    refine if_neg fun heq : c = '\\' => h ?_
    rw [← heq]
    exact hc
  rw [replaceChar, hmap, String.ofList_toList]

/-- An accepted name has the components, and is accepted as it is. -/
theorem sanitizesTo (texts : Texts) : SanitizesTo texts isC0Control := by
  intro name clean h
  obtain ⟨haccepted, rfl⟩ := sanitizeMemberPath_eq_ok_iff.mp h
  have hnormal := haccepted.accepted_normpath
  have hbackslash : '\\' ∉ (normpath (replaceChar '\\' '/' name)).toList := by
    intro hmem
    rcases haccepted.mem_toList hmem with hslash | hmem
    · exact absurd hslash (by decide)
    · exact no_backslash_replaceChar name hmem
  refine ⟨⟨hnormal.nonempty, hnormal.relative, ?_, ?_, hbackslash⟩, ?_⟩
  · intro c hc
    obtain ⟨hempty, hdot, hup, -⟩ := haccepted.component hc
    exact ⟨hempty, hdot, hup⟩
  · intro c hc
    have hle := hnormal.controls c hc
    exact decide_eq_false (by omega)
  · refine sanitizeMemberPath_eq_ok_iff.mpr ?_
    rw [replaceChar_of_notMem hbackslash]
    exact ⟨hnormal, haccepted.normpath_normpath.symm⟩

/-! ### One call -/

/-- What a call does to its tracker, and what it returns and buffers. -/
structure Keeps (maxBytes count : ℕ) (r : ReadResult) : Prop where
  returned : ∀ bytes, r.outcome = .ok bytes → bytes.length ≤ maxBytes
  buffered : r.buffered ≤ maxBytes + chunkBytes
  tracker : count + r.returned ≤ r.tracker.getD count
  quota : count ≤ maxCumulativeBytes → r.returned ≠ 0 → r.tracker.getD count ≤ maxCumulativeBytes
  overrun : maxCumulativeBytes < count → r.returned = 0

/-- A call that raises with a tracker that has not gone back. -/
theorem Keeps.raised {maxBytes count : ℕ} {e : PyError} {tracker : Option ℕ} {buffered : ℕ}
    (htracker : count ≤ tracker.getD count) (hbuffered : buffered ≤ maxBytes + chunkBytes) :
    Keeps maxBytes count ⟨.error e, tracker, buffered⟩ :=
  ⟨by simp, hbuffered, htracker, fun _ h => absurd rfl h, fun _ => rfl⟩

theorem readLoop_keeps (safeName : String) {maxBytes count : ℕ}
    (chunks : List (Except PyError Chunk)) {buffer : Bytes} (hbuffer : buffer.length ≤ maxBytes)
    (hquota : count + buffer.length ≤ maxCumulativeBytes) :
    Keeps maxBytes count
      (readLoop safeName maxBytes chunks buffer (some (count + buffer.length))) := by
  have hreturn : Keeps maxBytes count ⟨.ok buffer, some (count + buffer.length), buffer.length⟩ := by
    refine ⟨?_, Nat.le_trans hbuffer (Nat.le_add_right _ _), le_refl _, fun _ _ => hquota,
      fun hover => by omega⟩
    intro bytes hbytes
    cases hbytes
    exact hbuffer
  induction chunks generalizing buffer with
  | nil => exact hreturn
  | cons read chunks ih =>
    cases read with
    | error e => exact Keeps.raised (Nat.le_add_right _ _) (by omega)
    | ok chunk =>
      have hshort := chunk.short
      have hlength : (buffer ++ chunk.bytes).length = buffer.length + chunk.bytes.length :=
        List.length_append
      rw [readLoop]
      split
      · exact hreturn
      · simp only
        split
        · exact Keeps.raised (Nat.le_add_right _ _) (by omega)
        · next hfits =>
          split
          · next hover =>
            refine Keeps.raised ?_ (by omega)
            show count ≤ count + buffer.length + chunk.bytes.length
            omega
          · next hleft =>
            have hquota' : count + (buffer ++ chunk.bytes).length ≤ maxCumulativeBytes := by omega
            rw [Nat.add_assoc, ← hlength]
            have hbuffer' : (buffer ++ chunk.bytes).length ≤ maxBytes := by omega
            refine ih hbuffer' hquota' ⟨?_, Nat.le_trans hbuffer' (Nat.le_add_right _ _), le_refl _,
              fun _ _ => hquota', fun h => by omega⟩
            intro bytes hbytes
            cases hbytes
            exact hbuffer'

/-- A call keeps to its limits, whatever the archive. -/
theorem readZipMemberSafely_keeps (texts : Texts) (z : ZipFile) (memberName : String)
    (maxBytes count : ℕ) :
    Keeps maxBytes count (readZipMemberSafely texts z memberName maxBytes (some count)) := by
  have hraised : ∀ e, Keeps maxBytes count ⟨.error e, some count, 0⟩ := fun e =>
    Keeps.raised (le_refl _) (Nat.zero_le _)
  rw [readZipMemberSafely]
  split
  · exact hraised _
  · split
    · exact hraised _
    · split
      · exact hraised _
      · split
        · exact hraised _
        · next hquota =>
          split
          · exact hraised _
          · rw [overQuota, decide_eq_true_eq, not_lt] at hquota
            exact readLoop_keeps _ _ (Nat.zero_le _) (by rw [List.length_nil]; omega)

/-! ### All calls -/

theorem readSequence_total (texts : Texts) (calls : List Call) (count : ℕ) :
    count + ((readSequence texts calls count).map ReadResult.returned).sum ≤
      max count maxCumulativeBytes := by
  induction calls generalizing count with
  | nil => exact Nat.le_max_left _ _
  | cons call calls ih =>
    rw [readSequence]
    simp only [List.map_cons, List.sum_cons]
    have hkeeps := readZipMemberSafely_keeps texts call.archive call.memberName call.maxBytes count
    generalize readZipMemberSafely texts call.archive call.memberName call.maxBytes (some count) = r
      at hkeeps ⊢
    have hrest := ih (r.tracker.getD count)
    have htracker := hkeeps.tracker
    have hquota := hkeeps.quota
    have hover := hkeeps.overrun
    omega

theorem readSequence_each (texts : Texts) (calls : List Call) (count : ℕ) :
    List.Forall₂ (fun call r => (∀ bytes, r.outcome = .ok bytes → bytes.length ≤ call.maxBytes) ∧
      r.buffered ≤ call.maxBytes + chunkBytes) calls (readSequence texts calls count) := by
  induction calls generalizing count with
  | nil => exact List.Forall₂.nil
  | cons call calls ih =>
    have hkeeps := readZipMemberSafely_keeps texts call.archive call.memberName call.maxBytes count
    exact List.Forall₂.cons ⟨hkeeps.returned, hkeeps.buffered⟩ (ih _)

/-- Extraction stays inside its limits, and names inside the archive. -/
theorem zip_within_limits (texts : Texts) :
    (∀ calls, WithinLimits texts calls) ∧ SanitizesTo texts isC0Control := by
  refine ⟨fun calls => ⟨readSequence_each texts calls 0, ?_⟩, sanitizesTo texts⟩
  have htotal := readSequence_total texts calls 0
  rw [Nat.zero_max, Nat.zero_add] at htotal
  exact htotal

/-- DEL is a control character that passes. -/
theorem delete_passes : ¬SanitizesTo ⟨fun s => s, fun _ => ""⟩ isControl := by
  intro h
  have hok : sanitizeMemberPath ⟨fun s => s, fun _ => ""⟩ "a\x7f" = .ok "a\x7f" := by decide
  have hcontrols := (h _ _ hok).1.controls '\x7f' (by decide)
  exact absurd hcontrols (by decide)

end Bookwarden.Zip
