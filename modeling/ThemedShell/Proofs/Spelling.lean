import Mathlib.Data.List.Forall2
import ThemedShell.Proofs.Lowercase
import ThemedShell.Proofs.Turn

/-!
# Spellings of verbs

Small Latin letters are lower-case forms of very little: of themselves, of their capitals and, in the
case of the `k`, of the Kelvin sign (`lowerLetter_eq_iff`). The characters that are lower-cased in
ways of their own, the capital I with a dot and the sigma, come to something else. So a word is
lower-cased to such letters one by one (`lowercase_eq_iff`), and the words that are built in are
the spellings of the nine verbs (`verbs_are_spelled`).
-/
namespace ThemedShell

namespace Text

/-! ## Letters -/

/-- The sign of the unit Kelvin, which has the small `k` as its lower-case form. -/
def kelvinSign : Char := '\u212a'

/-- The character is the small letter, its capital or, for a `k`, the Kelvin sign. -/
def Writes (c letter : Char) : Prop :=
  c = letter ∨ c = letter.toUpper ∨ letter = 'k' ∧ c = kelvinSign

instance (c letter : Char) : Decidable (Writes c letter) :=
  inferInstanceAs (Decidable (_ ∨ _))

theorem toNat_of_isLower {letter : Char} (small : letter.isLower = true) :
    0x61 ≤ letter.toNat ∧ letter.toNat ≤ 0x7A := by
  obtain ⟨low, high⟩ := Bool.and_eq_true_iff.1 small
  exact ⟨UInt32.le_iff_toNat_le.1 (of_decide_eq_true low),
    UInt32.le_iff_toNat_le.1 (of_decide_eq_true high)⟩

/-- Apart from the capital Latin letters and the Kelvin sign, no run has lower-case forms among the
small Latin letters. -/
theorem caseRuns_latin :
    (caseRuns.all fun r => Nat.blt 0x7A r.target || r.lastTarget.blt 0x61 ||
      r == ⟨0x41, 0x5A, 1, 0x61⟩ || r == ⟨kelvinSign.toNat, kelvinSign.toNat, 1, 0x6B⟩) = true := by
  decide +kernel

/-- What holds of the twenty-six small letters holds of every small letter. -/
theorem forall_small {P : Char → Prop} (h : ∀ i : Fin 26, P (Char.ofNat (0x61 + i))) {letter : Char}
    (small : letter.isLower = true) : P letter := by
  obtain ⟨low, high⟩ := toNat_of_isLower small
  have := h ⟨letter.toNat - 0x61, by omega⟩
  rwa [Nat.add_sub_cancel' low, Char.ofNat_toNat] at this

theorem lowerLetter_of_isLower {letter : Char} (small : letter.isLower = true) :
    lowerLetter letter = letter ∧ lowerLetter letter.toUpper = letter :=
  forall_small (P := fun l => lowerLetter l = l ∧ lowerLetter l.toUpper = l) (by decide +kernel) small

theorem toNat_toUpper {letter : Char} (small : letter.isLower = true) :
    letter.toUpper.toNat = letter.toNat - 0x20 :=
  forall_small (P := fun l => l.toUpper.toNat = l.toNat - 0x20) (by decide +kernel) small

theorem lowerLetter_eq_iff {c letter : Char} (small : letter.isLower = true) :
    lowerLetter c = letter ↔ Writes c letter := by
  constructor
  · intro h
    obtain ⟨low, high⟩ := toNat_of_isLower small
    rcases lowerLetter_cases c with ⟨same, -⟩ | ⟨r, mem, has, form⟩
    · exact .inl (same.symm.trans h)
    · obtain ⟨first, last, -⟩ := CaseRun.has_iff.1 has
      obtain ⟨above, below⟩ := CaseRun.lower_le_lastTarget has
      rw [h] at form
      have latin := List.all_eq_true.1 caseRuns_latin r mem
      simp only [Bool.or_eq_true, Nat.blt_eq, beq_iff_eq] at latin
      rcases latin with ((far | near) | rfl) | rfl
      · omega
      · omega
      · -- The capitals are as far apart as the small letters.
        refine .inr (.inl (Char.toNat_inj.1 ?_))
        rw [toNat_toUpper small, form, CaseRun.lower]
        dsimp only at *
        omega
      · refine .inr (.inr ⟨Char.toNat_inj.1 ?_, Char.toNat_inj.1 (by dsimp only at *; omega)⟩)
        rw [form, CaseRun.lower]
        dsimp only at *
        have : 'k'.toNat = 0x6B := rfl
        omega
  · rintro (rfl | rfl | ⟨rfl, rfl⟩)
    · exact (lowerLetter_of_isLower small).1
    · exact (lowerLetter_of_isLower small).2
    · decide +kernel

/-! ## Words -/

/-- The word is the verb, character by character, in any case. -/
def Spells (word verb : String) : Prop := List.Forall₂ Writes word.toList verb.toList

instance (word verb : String) : Decidable (Spells word verb) :=
  inferInstanceAs (Decidable (List.Forall₂ Writes word.toList verb.toList))

/-- A character that is lower-cased to small letters is lower-cased to one. -/
theorem lowerAt_eq_of_small {before after : List Char} {c : Char}
    (small : ∀ d ∈ lowerAt before c after, d.isLower = true) :
    lowerAt before c after = [lowerLetter c] := by
  unfold lowerAt at small ⊢
  split at small
  · have sigma := small _ (List.mem_singleton_self _)
    unfold lowerSigma at sigma
    split at sigma <;> exact absurd sigma (by decide)
  · split at small
    · exact absurd (small '\u0307' (by simp)) (by decide)
    · next sigma dotted => rw [if_neg sigma, if_neg dotted]

theorem lowerAt_of_writes {c letter : Char} (small : letter.isLower = true) (h : Writes c letter)
    (before after : List Char) : lowerAt before c after = [letter] := by
  have lowered := (lowerLetter_eq_iff small).2 h
  -- What stays or becomes something other than a small letter is not `c`.
  have apart : ∀ d, (lowerLetter d).isLower = false → c ≠ d := by
    rintro d large rfl
    rw [lowered, small] at large
    cases large
  rw [lowerAt, if_neg (apart capitalSigma (by decide)), if_neg (apart dottedCapitalI (by decide)),
    lowered]

/-- What is lower-cased to small letters is lower-cased to them one by one. -/
theorem lowerFrom_eq_iff {letters : List Char} (small : ∀ letter ∈ letters, letter.isLower = true)
    {cs before : List Char} : lowerFrom before cs = letters ↔ List.Forall₂ Writes cs letters := by
  induction cs generalizing letters before with
  | nil => simp [lowerFrom, eq_comm]
  | cons c rest ih =>
    constructor
    · intro h
      have own : lowerAt before c rest = [lowerLetter c] :=
        lowerAt_eq_of_small fun d hd =>
          small d (by rw [← h, lowerFrom]; exact List.mem_append_left _ hd)
      rw [lowerFrom, own, List.singleton_append] at h
      subst h
      obtain ⟨first, others⟩ := List.forall_mem_cons.1 small
      exact .cons ((lowerLetter_eq_iff first).1 rfl) ((ih others).1 rfl)
    · intro h
      obtain ⟨letter, others, written, rest', rfl⟩ := List.forall₂_cons_left_iff.1 h
      obtain ⟨first, small'⟩ := List.forall_mem_cons.1 small
      rw [lowerFrom, lowerAt_of_writes first written, (ih small').2 rest',
        List.singleton_append]

theorem lowercase_eq_iff {word verb : String} (small : ∀ c ∈ verb.toList, c.isLower = true) :
    lowercase word = verb ↔ Spells word verb := by
  rw [← String.toList_inj, toList_lowercase, lowerFrom_eq_iff small, Spells]

/-- Small letters are written in ASCII, but for the Kelvin sign. -/
theorem ascii_or_kelvinSign {cs letters : List Char} (h : List.Forall₂ Writes cs letters)
    (small : ∀ letter ∈ letters, letter.isLower = true) :
    ∀ c ∈ cs, c.toNat < 0x80 ∨ c = kelvinSign := by
  induction h with
  | nil => simp
  | @cons c letter _ _ written _ ih =>
    obtain ⟨first, others⟩ := List.forall_mem_cons.1 small
    obtain ⟨-, high⟩ := toNat_of_isLower first
    refine List.forall_mem_cons.2 ⟨?_, ih others⟩
    rcases written with rfl | rfl | ⟨-, kelvin⟩
    · exact .inl (by omega)
    · rw [toNat_toUpper first]
      exact .inl (by omega)
    · exact .inr kelvin

end Text

/-! ## Verbs -/

theorem Builtin.isLower_verb (b : Builtin) : ∀ c ∈ b.verb.toList, c.isLower = true := by
  rw [← List.all_eq_true]
  rcases b with _ | _ | _ | _ | _ | ⟨_ | _⟩ | _ | _ <;> decide

theorem Builtin.ofVerb?_lowercase {word : String} {b : Builtin} :
    ofVerb? (Text.lowercase word) = some b ↔ Text.Spells word b.verb := by
  rw [ofVerb?_eq_some, Text.lowercase_eq_iff b.isLower_verb]

theorem isBuiltin_iff {word : String} :
    isBuiltin word = true ↔ ∃ b : Builtin, Text.Spells word b.verb := by
  rw [isBuiltin, Option.isSome_iff_exists]
  exact exists_congr fun _ => Builtin.ofVerb?_lowercase

/-- **Spellings of verbs.** A word is built in exactly if it is one of the nine verbs, letter by letter,
in small letters, in capitals or with a Kelvin sign for a `k`; so it has no other character that is
not ASCII. A line goes to the built-in that its first word spells, with the argument, and to be run
whole if that word spells none. -/
theorem verbs_are_spelled {σ : Type} (host : Host σ) :
    (∀ word, isBuiltin word = true ↔ ∃ b : Builtin, Text.Spells word b.verb) ∧
    (∀ word, isBuiltin word = true → ∀ c ∈ word.toList, c.toNat < 0x80 ∨ c = Text.kelvinSign) ∧
    ∀ line, let text := Text.trim line
      let first := Submission.word line
      (∀ b : Builtin,
        (Builtin.ofVerb? (Submission.parse text).verb = some b ↔ Text.Spells first b.verb) ∧
        (Text.Spells first b.verb →
          Interpreter.dispatch host text = b.run host (Submission.parse line).argument)) ∧
      ((∀ b : Builtin, ¬ Text.Spells first b.verb) →
        Interpreter.dispatch host text = Command.runExternal host text) := by
  have meant : ∀ line (b : Builtin), Builtin.ofVerb? (Submission.parse line).verb = some b ↔
      Text.Spells (Submission.word line) b.verb := fun line b => by
    rw [Submission.verb_eq, Builtin.ofVerb?_lowercase]
  refine ⟨fun _ => isBuiltin_iff, ?ascii, fun line => ⟨fun b => ⟨?meant, ?spelled⟩, ?unknown⟩⟩
  case ascii =>
    intro word known
    obtain ⟨b, spelled⟩ := isBuiltin_iff.1 known
    exact Text.ascii_or_kelvinSign spelled b.isLower_verb
  case meant => rw [Submission.parse_trim, meant]
  case spelled =>
    intro spelled
    rw [Request.dispatch_eq, Request.ofLine_trim, (meant line b).2 spelled]
    rfl
  case unknown =>
    intro unknown
    have none : Builtin.ofVerb? (Submission.parse line).verb = none :=
      Option.eq_none_iff_forall_ne_some.2 fun b h => unknown b ((meant line b).1 h)
    rw [Request.dispatch_eq, Request.ofLine_trim, none]
    rfl

/-- A Kelvin sign for a `k`, and a dotted capital I that is no `i`. -/
theorem kelvin_line_makes_directory :
    let line := " m\u212aDIR  new logs\n"
    let other := "ex\u0130t now"
    isBuiltin "m\u212aDIR" = true ∧
      (∀ c ∈ "m\u212aDIR".toList, c.toNat < 0x80 ∨ c = Text.kelvinSign) ∧
      Text.Spells (Submission.word line) Builtin.makeDirectory.verb ∧
      Interpreter.dispatch .bare (Text.trim line) = Builtin.makeDirectory.run .bare "new logs" ∧
      (∀ b : Builtin, ¬ Text.Spells (Submission.word other) b.verb) ∧
      Interpreter.dispatch .bare (Text.trim other) = Command.runExternal .bare other := by
  intro line other
  obtain ⟨known, plain, routed⟩ := verbs_are_spelled Host.bare
  have mkdir : isBuiltin "m\u212aDIR" = true := (known _).2 ⟨.makeDirectory, by decide⟩
  have spelled : Text.Spells (Submission.word line) Builtin.makeDirectory.verb := by decide
  have argument : (Submission.parse line).argument = "new logs" := by decide
  have unspelled : ∀ b : Builtin, ¬ Text.Spells (Submission.word other) b.verb := by
    rintro (_ | _ | _ | _ | _ | ⟨_ | _⟩ | _ | _) <;> decide
  have whole : Text.trim other = other := by decide
  have made := ((routed line).1 .makeDirectory).2 spelled
  have handedOver := (routed other).2 unspelled
  refine ⟨mkdir, plain _ mkdir, spelled, ?_, unspelled, ?_⟩
  · rw [made, argument]
  · rw [handedOver, whole]

end ThemedShell
