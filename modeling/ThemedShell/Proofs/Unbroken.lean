import ThemedShell.Proofs.AsciiBytes
import ThemedShell.Proofs.Components
import ThemedShell.Proofs.Submission
import ThemedShell.ShellError

/-!
# Texts on one line

A text is unbroken if no line feed is in it. A path whose bytes hold none is shown as such a text, and
resolving keeps it so (`Path.unbroken_resolve`). The messages of errors are put together from fixed
texts and from what the errors carry; if this is unbroken, so is the message, however deep the errors
are nested (`CommandError.unbroken_message`).
-/
namespace ThemedShell

namespace Text

/-- No line feed is in the text. -/
def Unbroken (s : String) : Prop := '\n' ∉ s.toList

instance (s : String) : Decidable (Unbroken s) := inferInstanceAs (Decidable (¬ _))

/-- For texts that are given by their characters. -/
theorem unbroken_ofList {cs : List Char} (h : '\n' ∉ cs) : Unbroken (.ofList cs) := by
  simpa [Unbroken] using h

theorem Unbroken.append {s t : String} (hs : Unbroken s) (ht : Unbroken t) :
    Unbroken (s ++ t) := by
  simpa [Unbroken] using ⟨hs, ht⟩

theorem Unbroken.of_sublist {s t : String} (ht : Unbroken t) (h : s.toList.Sublist t.toList) :
    Unbroken s :=
  fun mem => ht (h.subset mem)

theorem stripBlanks_sublist (cs : List Char) : (stripBlanks cs).Sublist cs := by
  have cut : stripBlanks cs <+: dropBlanks cs := dropBlanksEnd_prefix _
  exact cut.sublist.trans (List.dropWhile_sublist _)

theorem Unbroken.trim {s : String} (h : Unbroken s) : Unbroken (trim s) :=
  h.of_sublist (by rw [toList_trim]; exact stripBlanks_sublist s.toList)

theorem unbroken_repr (n : Nat) : Unbroken n.repr := by
  intro mem
  rw [Nat.toList_repr] at mem
  have := Nat.isDigit_of_mem_toDigits (by decide) (by decide) mem
  exact absurd this (by decide)

theorem unbroken_toString (n : Int) : Unbroken (toString n) := by
  cases n with
  | ofNat n => exact unbroken_repr n
  | negSucc n => exact (unbroken_ofList (by decide)).append (unbroken_repr (n + 1))

end Text

/-! ## Paths -/

namespace Path

/-- No byte of the path is a line feed. -/
def Unbroken (p : Path) : Prop := Text.byteOf '\n' ∉ p.bytes

instance (p : Path) : Decidable p.Unbroken := inferInstanceAs (Decidable (¬ _))

theorem unbroken_ofString {s : String} (h : Text.Unbroken s) : (ofString s).Unbroken :=
  (Text.mem_encode (by decide) s).not.2 h

theorem Unbroken.display {p : Path} (h : p.Unbroken) : Text.Unbroken p.display :=
  fun mem => h (Text.byteOf_mem_of_mem_decodeLossy (by decide) (by decide) mem)

theorem Unbroken.join {p other : Path} (hp : p.Unbroken) (hother : other.Unbroken) :
    (p.join other).Unbroken := by
  have feed : Text.byteOf '\n' ≠ slash := by decide
  unfold Path.join
  split
  · exact hother
  · split
    · simpa [Unbroken, feed] using ⟨hp, hother⟩
    · simpa [Unbroken] using ⟨hp, hother⟩

/-- Normalizing adds no bytes but slashes. -/
theorem Unbroken.normalize {p : Path} (h : p.Unbroken) : p.normalize.Unbroken := by
  have feed : Text.byteOf '\n' ≠ slash := by decide
  have names : ([slash].intercalate (normalNames p.components)).Sublist p.bytes := by
    have := intercalate_sublist ((normalNames_sublist p).trans List.filter_sublist) [slash]
    rwa [List.intercalate_splitOn] at this
  intro mem
  rcases List.mem_append.1 mem with mem | mem
  · split at mem
    · exact feed (List.mem_singleton.1 mem)
    · cases mem
  · exact h (names.subset mem)

/-- What stands behind the tilde stands at the end of the text. -/
theorem homeRest?_suffix {cs rest : List Char} (h : homeRest? cs = some rest) : rest <:+ cs := by
  unfold homeRest? at h
  split at h
  · exact Option.some.inj h ▸ List.nil_suffix
  · exact Option.some.inj h ▸ ⟨['~', '/'], rfl⟩
  · exact Option.some.inj h ▸ ⟨['~', '\\'], rfl⟩
  · cases h

theorem unbroken_expand {home : Option Path} (hhome : ∀ p ∈ home, p.Unbroken) {s : String}
    (h : Text.Unbroken s) {p : Path} (expanded : expand home s = some p) : p.Unbroken := by
  unfold expand at expanded
  split at expanded
  · exact Option.some.inj expanded ▸ unbroken_ofString h
  · exact hhome p expanded
  · next rest _ behind =>
    obtain ⟨directory, known, rfl⟩ := Option.map_eq_some_iff.1 expanded
    have hrest : Text.Unbroken (.ofList rest) := by
      refine h.of_sublist ?_
      rw [String.toList_ofList]
      exact (homeRest?_suffix behind).sublist
    exact (hhome directory known).join (unbroken_ofString hrest)

/-- What a text stands for is unbroken if the text is, and all that it is seen from. -/
theorem unbroken_resolve {home : Option Path} (hhome : ∀ p ∈ home, p.Unbroken) {base : Path}
    (hbase : base.Unbroken) {s : String} (h : Text.Unbroken s) {target : Path}
    (resolved : resolve home base s = some target) : target.Unbroken := by
  obtain ⟨p, expanded, rfl⟩ := Option.map_eq_some_iff.1 resolved
  exact (hbase.join (unbroken_expand hhome h expanded)).normalize

end Path

/-! ## Errors -/

open Text (unbroken_ofList)

/-- What the error carries is unbroken. -/
def External.Error.Unbroken : External.Error → Prop
  | .launch command source => Text.Unbroken command ∧ Text.Unbroken source.message
  | .missingDirectory directory => directory.Unbroken

def ReadError.Unbroken : ReadError → Prop
  | .endOfInput | .interrupted => True
  | .system source => Text.Unbroken source.message

def FlagError.Unbroken : FlagError → Prop
  | .missingValue argument | .unknown argument => Text.Unbroken argument

def ShellError.Unbroken : ShellError → Prop
  | .read cause => cause.Unbroken
  | .system source => Text.Unbroken source.message
  | .homeNotFound => True
  | .invalidStart directory => directory.Unbroken
  | .flag cause => cause.Unbroken
  | .interruptHandler message => Text.Unbroken message

def CommandError.Unbroken : CommandError → Prop
  | .pathNotFound text | .alreadyExists text => Text.Unbroken text
  | .unrecognizedColor name hint => Text.Unbroken name ∧ Text.Unbroken hint
  | .external cause => cause.Unbroken
  | .system action source => Text.Unbroken action ∧ Text.Unbroken source.message
  | .path cause => cause.Unbroken

theorem External.Error.unbroken_message :
    ∀ {e : External.Error}, e.Unbroken → Text.Unbroken e.message
  | .launch _ _, ⟨command, source⟩ =>
    (((unbroken_ofList (by decide)).append command).append (unbroken_ofList (by decide))).append
      source
  | .missingDirectory _, h => (unbroken_ofList (by decide)).append (Path.Unbroken.display h)

theorem ReadError.unbroken_message : ∀ {e : ReadError}, e.Unbroken → Text.Unbroken e.message
  | .endOfInput, _ | .interrupted, _ => unbroken_ofList (by decide)
  | .system _, h => h

theorem FlagError.unbroken_message : ∀ {e : FlagError}, e.Unbroken → Text.Unbroken e.message
  | .missingValue _, h =>
    ((unbroken_ofList (by decide)).append h).append (unbroken_ofList (by decide))
  | .unknown _, h => (unbroken_ofList (by decide)).append h

theorem ShellError.unbroken_message : ∀ {e : ShellError}, e.Unbroken → Text.Unbroken e.message
  | .read _, h => (unbroken_ofList (by decide)).append (ReadError.unbroken_message h)
  | .system _, h => (unbroken_ofList (by decide)).append h
  | .homeNotFound, _ => unbroken_ofList (by decide)
  | .invalidStart _, h => (unbroken_ofList (by decide)).append (Path.Unbroken.display h)
  | .flag _, h => (unbroken_ofList (by decide)).append (FlagError.unbroken_message h)
  | .interruptHandler _, h => (unbroken_ofList (by decide)).append h

/-- **Errors are told in one line**, if all that they carry is unbroken. -/
theorem CommandError.unbroken_message : ∀ {e : CommandError}, e.Unbroken → Text.Unbroken e.message
  | .pathNotFound _, h | .alreadyExists _, h =>
    ((unbroken_ofList (by decide)).append h).append (unbroken_ofList (by decide))
  | .unrecognizedColor _ _, ⟨name, hint⟩ =>
    ((((unbroken_ofList (by decide)).append name).append (unbroken_ofList (by decide))).append
      hint).append (unbroken_ofList (by decide))
  | .external _, h => (unbroken_ofList (by decide)).append (External.Error.unbroken_message h)
  | .system _ _, ⟨action, source⟩ =>
    (((unbroken_ofList (by decide)).append action).append (unbroken_ofList (by decide))).append
      source
  | .path _, h => (unbroken_ofList (by decide)).append (ShellError.unbroken_message h)

end ThemedShell
