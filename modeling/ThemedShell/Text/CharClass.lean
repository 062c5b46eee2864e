/-!
# Classes of characters

A class of characters is a list of ranges of code points, ends included. The tables of this
library that follow a Unicode property are written in this form.
-/
namespace ThemedShell.Text

/-- Ranges of code points, first and last included. -/
abbrev CharClass := List (Nat × Nat)

/-- A character belongs to a class if one of the ranges holds its code point. -/
def CharClass.has (ranges : CharClass) (c : Char) : Bool :=
  ranges.any fun (first, last) => first ≤ c.toNat && c.toNat ≤ last

theorem CharClass.has_iff (ranges : CharClass) (c : Char) :
    ranges.has c = true ↔ ∃ r ∈ ranges, r.1 ≤ c.toNat ∧ c.toNat ≤ r.2 := by
  simp [CharClass.has, List.any_eq_true]

end ThemedShell.Text
