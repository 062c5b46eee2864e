import ThemedShell.Text.Blank
import ThemedShell.Text.Lowercase

/-!
# Laws of lower case

No lower-case form is a letter that has one itself (`caseRuns_avoid`), so a second lower-casing
changes nothing: the form of a sigma depends on its place, but in a lower-cased text no capital sigma
is left (`lowercase_lowercase`). Lower-casing neither makes a blank of another character nor anything
else of a blank (`isBlank_lowerLetter`).
-/
namespace ThemedShell.Text

/-! ## Runs of letters -/

namespace CaseRun

/-- The last of the lower-case forms. -/
def lastTarget (r : CaseRun) : Nat := r.target + (r.last - r.first)

/-- The run has every other letter, or one letter only. -/
def alternates (r : CaseRun) : Bool := r.step == 2 || r.first == r.last

/-- No lower-case form of the first run is a letter of the second: the forms stand before or behind
the letters, or at every other place between them. -/
def avoids (r s : CaseRun) : Bool :=
  s.last.blt r.target || r.lastTarget.blt s.first ||
    r.alternates && s.alternates && (r.target + s.first) % 2 == 1

variable {r s : CaseRun} {n : Nat}

theorem has_iff : r.has n = true ↔ r.first ≤ n ∧ n ≤ r.last ∧ (n - r.first) % r.step = 0 := by
  simp [has, and_assoc]

theorem lower_le_lastTarget (h : r.has n = true) :
    r.target ≤ r.lower n ∧ r.lower n ≤ r.lastTarget := by
  obtain ⟨first, last, -⟩ := has_iff.1 h
  rw [lower, lastTarget]
  omega

theorem even_of_alternates (alternates : r.alternates = true) (h : r.has n = true) :
    (n - r.first) % 2 = 0 := by
  obtain ⟨first, last, spaced⟩ := has_iff.1 h
  rcases Bool.or_eq_true_iff.1 alternates with two | one
  · rwa [eq_of_beq two] at spaced
  · have : r.first = r.last := eq_of_beq one
    omega

theorem has_lower_of_avoids (h : r.avoids s = true) (hn : r.has n = true) :
    s.has (r.lower n) = false := by
  cases other : s.has (r.lower n) with
  | false => rfl
  | true =>
    obtain ⟨above, below⟩ := lower_le_lastTarget hn
    obtain ⟨first, last, -⟩ := has_iff.1 other
    simp only [avoids, Bool.or_eq_true, Bool.and_eq_true, Nat.blt_eq, beq_iff_eq] at h
    rcases h with (before | behind) | ⟨⟨hr, hs⟩, parity⟩
    · omega
    · omega
    · have even := even_of_alternates hr hn
      have even' := even_of_alternates hs other
      obtain ⟨start, -, -⟩ := has_iff.1 hn
      rw [lower] at *
      omega

end CaseRun

/-! ## The table -/

theorem caseRuns_avoid : (caseRuns.all fun r => caseRuns.all r.avoids) = true := by
  decide +kernel

/-- The capital I with a dot is no lower-case form. -/
theorem caseRuns_avoid_dottedCapitalI :
    (caseRuns.all fun r => r.avoids ⟨dottedCapitalI.toNat, dottedCapitalI.toNat, 1, 0⟩) = true := by
  decide +kernel

/-- The lower-case forms are code points of characters. -/
theorem caseRuns_valid :
    (caseRuns.all fun r => r.lastTarget.blt 0xD800 ||
      Nat.blt 0xDFFF r.target && r.lastTarget.blt 0x110000) = true := by
  decide +kernel

/-- Neither the letters nor their lower-case forms are blanks. -/
theorem caseRuns_solid :
    (caseRuns.all fun r => blankRanges.all fun (first, last) =>
      (r.last.blt first || last.blt r.first) && (r.lastTarget.blt first || last.blt r.target)) =
        true := by
  decide +kernel

/-! ## Letters -/

/-- A character has no lower-case form of its own, or it is a letter of a run. -/
theorem lowerLetter_cases (c : Char) :
    (lowerLetter c = c ∧ caseRuns.find? (·.has c.toNat) = none) ∨
      ∃ r ∈ caseRuns, r.has c.toNat = true ∧ (lowerLetter c).toNat = r.lower c.toNat := by
  rw [lowerLetter]
  cases found : caseRuns.find? (·.has c.toNat) with
  | none => exact .inl ⟨rfl, rfl⟩
  | some r =>
    have mem : r ∈ caseRuns := List.mem_of_find?_eq_some found
    have has : r.has c.toNat = true := by simpa using List.find?_some found
    have valid := List.all_eq_true.1 caseRuns_valid r mem
    obtain ⟨above, below⟩ := CaseRun.lower_le_lastTarget has
    simp only [Bool.or_eq_true, Bool.and_eq_true, Nat.blt_eq] at valid
    have isChar : (r.lower c.toNat).isValidChar := by
      rcases valid with low | ⟨high, bounded⟩
      · exact .inl (by omega)
      · exact .inr ⟨by omega, by omega⟩
    have form : (Char.ofNat (r.lower c.toNat)).toNat = r.lower c.toNat := by
      rw [Char.ofNat, dif_pos isChar]
      rfl
    exact .inr ⟨r, mem, has, form⟩

/-- A lower-case form is no letter of a run. -/
theorem find?_lowerLetter (c : Char) : caseRuns.find? (·.has (lowerLetter c).toNat) = none := by
  rcases lowerLetter_cases c with ⟨same, none⟩ | ⟨r, mem, has, form⟩
  · rw [same, none]
  · rw [form, List.find?_eq_none]
    intro s hs
    have avoids := List.all_eq_true.1 (List.all_eq_true.1 caseRuns_avoid r mem) s hs
    simp [CaseRun.has_lower_of_avoids avoids has]

theorem lowerLetter_lowerLetter (c : Char) : lowerLetter (lowerLetter c) = lowerLetter c := by
  conv => lhs; rw [lowerLetter, find?_lowerLetter]

theorem lowerLetter_ne_capitalSigma (c : Char) : lowerLetter c ≠ capitalSigma := by
  intro h
  have none := find?_lowerLetter c
  rw [h] at none
  exact absurd none (by decide)

theorem lowerLetter_ne_dottedCapitalI {c : Char} (h : c ≠ dottedCapitalI) :
    lowerLetter c ≠ dottedCapitalI := by
  rcases lowerLetter_cases c with ⟨same, -⟩ | ⟨r, mem, has, form⟩
  · rwa [same]
  · intro dotted
    have avoids := List.all_eq_true.1 caseRuns_avoid_dottedCapitalI r mem
    have other := CaseRun.has_lower_of_avoids avoids has
    rw [← form, dotted] at other
    exact absurd other (by decide)

/-- A letter is a blank neither before nor after it is lower-cased. -/
theorem isBlank_lowerLetter (c : Char) : isBlank (lowerLetter c) = isBlank c := by
  rcases lowerLetter_cases c with ⟨same, -⟩ | ⟨r, mem, has, form⟩
  · rw [same]
  · obtain ⟨first, last, -⟩ := CaseRun.has_iff.1 has
    obtain ⟨above, below⟩ := CaseRun.lower_le_lastTarget has
    -- The run keeps clear of each range of blanks, on both sides.
    have clear : ∀ b ∈ blankRanges, (r.last < b.1 ∨ b.2 < r.first) ∧
        (r.lastTarget < b.1 ∨ b.2 < r.target) := by
      simpa only [List.all_eq_true, Bool.and_eq_true, Bool.or_eq_true, Nat.blt_eq] using
        List.all_eq_true.1 caseRuns_solid r mem
    have solid : isBlank c = false := by
      rw [isBlank, Bool.eq_false_iff, ne_eq, CharClass.has_iff]
      rintro ⟨b, hb, low, high⟩
      have := (clear b hb).1
      omega
    have solid' : isBlank (lowerLetter c) = false := by
      rw [isBlank, Bool.eq_false_iff, ne_eq, CharClass.has_iff, form]
      rintro ⟨b, hb, low, high⟩
      have := (clear b hb).2
      omega
    rw [solid, solid']

/-! ## Texts -/

/-- Lower-casing leaves the character alone, wherever it stands. -/
structure Lowered (c : Char) : Prop where
  ne_capitalSigma : c ≠ capitalSigma
  ne_dottedCapitalI : c ≠ dottedCapitalI
  lowerLetter_eq : lowerLetter c = c

theorem Lowered.lowerAt_eq {c : Char} (h : Lowered c) (before after : List Char) :
    lowerAt before c after = [c] := by
  rw [lowerAt, if_neg h.ne_capitalSigma, if_neg h.ne_dottedCapitalI, h.lowerLetter_eq]

/-- What a character is lower-cased to stays, and is a blank only if the character is one. -/
theorem of_mem_lowerAt {before after : List Char} {c d : Char} (h : d ∈ lowerAt before c after) :
    Lowered d ∧ isBlank d = isBlank c := by
  rw [lowerAt] at h
  split at h
  · next sigma =>
    rw [List.mem_singleton.1 h, sigma, lowerSigma]
    split
    · exact ⟨⟨by decide, by decide, by decide⟩, by decide⟩
    · exact ⟨⟨by decide, by decide, by decide⟩, by decide⟩
  · split at h
    · next dotted =>
      rw [dotted]
      rcases List.mem_cons.1 h with rfl | h
      · exact ⟨⟨by decide, by decide, by decide⟩, by decide⟩
      · rw [List.mem_singleton.1 h]
        exact ⟨⟨by decide, by decide, by decide⟩, by decide⟩
    · next dotted =>
      rw [List.mem_singleton.1 h]
      exact ⟨⟨lowerLetter_ne_capitalSigma c, lowerLetter_ne_dottedCapitalI dotted,
        lowerLetter_lowerLetter c⟩, isBlank_lowerLetter c⟩

theorem lowerAt_ne_nil (before : List Char) (c : Char) (after : List Char) :
    lowerAt before c after ≠ [] := by
  rw [lowerAt]
  split
  · simp
  · split <;> simp

theorem of_mem_lowerFrom {cs before : List Char} {d : Char} (h : d ∈ lowerFrom before cs) :
    Lowered d ∧ ∃ c ∈ cs, isBlank d = isBlank c := by
  induction cs generalizing before with
  | nil => cases h
  | cons c rest ih =>
    rcases List.mem_append.1 h with h | h
    · obtain ⟨lowered, blank⟩ := of_mem_lowerAt h
      exact ⟨lowered, c, List.mem_cons_self, blank⟩
    · obtain ⟨lowered, other, mem, blank⟩ := ih h
      exact ⟨lowered, other, List.mem_cons_of_mem c mem, blank⟩

theorem lowerFrom_eq_nil {before cs : List Char} : lowerFrom before cs = [] ↔ cs = [] := by
  cases cs with
  | nil => simp [lowerFrom]
  | cons c rest => simp [lowerFrom, lowerAt_ne_nil]

theorem lowerFrom_of_lowered {cs : List Char} (h : ∀ c ∈ cs, Lowered c) (before : List Char) :
    lowerFrom before cs = cs := by
  induction cs generalizing before with
  | nil => rfl
  | cons c rest ih =>
    obtain ⟨first, others⟩ := List.forall_mem_cons.1 h
    rw [lowerFrom, first.lowerAt_eq, ih others, List.singleton_append]

/-- **Lower case is final.** -/
theorem lowercase_lowercase (s : String) : lowercase (lowercase s) = lowercase s := by
  rw [← String.toList_inj, toList_lowercase, toList_lowercase]
  exact lowerFrom_of_lowered (fun _ h => (of_mem_lowerFrom h).1) []

theorem lowercase_eq_empty {s : String} : lowercase s = "" ↔ s = "" := by
  rw [← String.toList_eq_nil_iff, toList_lowercase, lowerFrom_eq_nil, String.toList_eq_nil_iff]

/-- A word stays a word in lower case. -/
theorem lowercase_solid {s : String} (h : s.toList.any isBlank = false) :
    (lowercase s).toList.any isBlank = false := by
  rw [List.any_eq_false] at *
  intro d hd
  rw [toList_lowercase] at hd
  obtain ⟨-, c, hc, same⟩ := of_mem_lowerFrom hd
  rw [same]
  exact h c hc

end ThemedShell.Text
