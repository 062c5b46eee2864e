import ThemedShell.Proofs.AsciiBytes
import ThemedShell.Proofs.CanonicalPath
import ThemedShell.Proofs.Listing

/-!
# Names that begin with a tilde

Only a tilde that stands alone or before a separator means the home directory (`isHomePath_iff`); every
other text is taken as it is written, whatever the home directory. So an entry whose name begins with a
tilde is reached by this name (`literal_tilde_is_reached`), unless the name is the tilde alone or has a
backslash behind it: here the backslash counts as a separator, though it is none anywhere else
(`backslash_leads_home`).
-/
namespace ThemedShell

namespace Path

/-! ## Texts that mean the home directory -/

/-- The text is a tilde, alone or before a slash or a backslash. -/
def BeginsAtHome (s : String) : Prop :=
  s = "~" ∨ ['~', '/'] <+: s.toList ∨ ['~', '\\'] <+: s.toList

instance (s : String) : Decidable (BeginsAtHome s) := inferInstanceAs (Decidable (_ ∨ _))

theorem isHomePath_iff {s : String} : isHomePath s = true ↔ BeginsAtHome s := by
  have alone : s = "~" ↔ s.toList = ['~'] := by rw [← String.toList_inj]; rfl
  rw [isHomePath, BeginsAtHome, alone]
  generalize s.toList = cs
  constructor
  · intro home
    unfold homeRest? at home
    split at home
    · exact .inl rfl
    · exact .inr (.inl ⟨_, rfl⟩)
    · exact .inr (.inr ⟨_, rfl⟩)
    · cases home
  · rintro (rfl | ⟨rest, rfl⟩ | ⟨rest, rfl⟩) <;> rfl

/-- **Literal texts.** The texts that mean no home directory are just those that are taken as they are
written whatever the home directory, even if there is none. -/
theorem resolve_literal_iff {s : String} :
    (∀ (home : Option Path) (base : Path),
      resolve home base s = some (base.join (ofString s)).normalize) ↔ ¬ BeginsAtHome s := by
  rw [← isHomePath_iff, Bool.not_eq_true]
  constructor
  · intro literal
    by_contra home
    have missing : resolve none root s = none :=
      resolve_eq_none.2 ⟨rfl, Bool.of_not_eq_false home⟩
    rw [literal] at missing
    cases missing
  · exact resolve_of_not_home

/-- Behind a tilde, a backslash is as good as a slash. -/
theorem resolve_backslash (home : Option Path) (base : Path) (rest : String) :
    resolve home base ("~\\" ++ rest) = resolve home base ("~/" ++ rest) := by
  have behind : homeRest? ("~\\" ++ rest).toList = homeRest? ("~/" ++ rest).toList := by
    simp [homeRest?]
  have slash : homeRest? ("~/" ++ rest).toList = some rest.toList := by simp [homeRest?]
  simp only [resolve, expand, behind, slash]
  cases rest.toList <;> rfl

/-! ## Names -/

/-- A text without slashes that has a tilde in it can be the name of an entry. -/
theorem isName_of_tilde {name : String} (tilde : '~' ∈ name.toList) (noSlash : '/' ∉ name.toList) :
    IsName (Text.encode name) := by
  have written : Text.byteOf '~' ∈ Text.encode name := (Text.mem_encode (by decide) name).2 tilde
  refine ⟨?_, ?_, ?_, (Text.mem_encode (c := '/') (by decide) name).not.2 noSlash⟩
  all_goals
    intro other
    rw [other] at written
    exact absurd written (by decide)

/-- A name joined to a path leads to the entry of this name. -/
theorem normalize_join_of_isName {name : FileName} (isName : IsName name) (base : Path) :
    (base.join ⟨name⟩).normalize = base.normalize.entry name := by
  have relative := isAbsolute_of_isName isName
  have single : components ⟨name⟩ = [.name name] := by
    have := components_ofNames (List.forall_mem_singleton.2 isName) false
    simpa [ofNames] using this
  have names : ∀ name ∈ normalNames base.components, IsName name :=
    fun _ => isName_of_mem_normalNames
  rw [normalize, isAbsolute_join_of_relative relative, components_join relative, single,
    normalNames_concat_name, ← join_ofNames names isName, entry, normalize]

end Path

/-- **Names with a tilde are literal.** A text that begins with a tilde means the home directory if
nothing or a separator stands behind the tilde, a backslash being as good as a slash. Exactly the
other texts are taken as they are written, for every home directory and seen from every path. So a
name that begins with a tilde leads `cd` and `ls` to the entry of this name, unless it is the tilde
alone or has a backslash behind it. -/
theorem literal_tilde_is_reached {σ : Type} (host : Host σ) (argument : String) :
    (¬ Path.BeginsAtHome argument ↔ ∀ (home : Option Path) (base : Path),
      Path.resolve home base argument = some (base.join (.ofString argument)).normalize) ∧
    (∀ rest, argument = "~\\" ++ rest → ∀ (home : Option Path) (base : Path),
      Path.resolve home base argument = Path.resolve home base ("~/" ++ rest)) ∧
    (argument.toList.head? = some '~' → '/' ∉ argument.toList → argument ≠ "~" →
      ¬ ['~', '\\'] <+: argument.toList → ∀ run : Run σ,
      let here := run.session.directory
      let there := here.normalize.entry (Text.encode argument)
      let moved := (Command.changeDirectory host argument).perform run
      (here.IsNormal → there = here.entry (Text.encode argument)) ∧
      (moved.1 = .ok .proceed ↔ run.answer (host.isDirectory there) = true) ∧
      (moved.1 = .ok .proceed → moved.2.session.directory = there) ∧
      (Command.list host argument).perform run =
        (Command.listAt host argument there).perform run) := by
  refine ⟨Path.resolve_literal_iff.symm, ?backslash, ?name⟩
  case backslash =>
    rintro rest rfl home base
    exact Path.resolve_backslash home base rest
  case name =>
    intro first noSlash notAlone noBackslash run here there moved
    have tilde : '~' ∈ argument.toList := List.mem_of_head? first
    have literal : ¬ Path.BeginsAtHome argument := by
      rintro (alone | ⟨rest, slash⟩ | backslash)
      · exact notAlone alone
      · exact noSlash (by simp [← slash])
      · exact noBackslash backslash
    have named : Text.isBlankText argument = false := by
      rw [Text.isBlankText, List.all_eq_false]
      exact ⟨'~', tilde, by decide⟩
    have resolved : Path.resolve host.home here argument = some there := by
      rw [Path.resolve_literal_iff.2 literal]
      exact congrArg some
        (Path.normalize_join_of_isName (Path.isName_of_tilde tilde noSlash) here)
    have succeeds := Command.changeDirectory_succeeds named resolved
    refine ⟨fun normal => ?_, succeeds, fun success => ?_,
      Command.perform_list_of_resolved named resolved⟩
    · show here.normalize.entry _ = _
      rw [normal.normalize_eq]
    · have arrives := (Command.changeDirectory_arrives named resolved (succeeds.1 success)).1
      show moved.2.session.directory = there
      rw [show moved.2.session = _ from arrives]

/-- A name with a second tilde, a blank and dots in it. -/
theorem moved_to_tilde_name :
    let argument := "~ ..~\\"
    let moved := (Command.changeDirectory Host.bare argument).perform .bare
    argument.toList.head? = some '~' ∧ '/' ∉ argument.toList ∧ argument ≠ "~" ∧
      ¬ ['~', '\\'] <+: argument.toList ∧ moved.1 = .ok .proceed ∧
      moved.2.session.directory = .ofString "/~ ..~\\" := by
  intro argument moved
  have first : argument.toList.head? = some '~' := by decide
  have noSlash : '/' ∉ argument.toList := by decide
  have notAlone : argument ≠ "~" := by decide
  have noBackslash : ¬ ['~', '\\'] <+: argument.toList := by decide
  obtain ⟨-, succeeds, arrives, -⟩ :=
    (literal_tilde_is_reached Host.bare argument).2.2 first noSlash notAlone noBackslash .bare
  have success : moved.1 = .ok .proceed := succeeds.2 rfl
  exact ⟨first, noSlash, notAlone, noBackslash, success, (arrives success).trans (by decide +kernel)⟩

/-- A name with a backslash behind its tilde leads below the home directory, so to another place for
another home, and not to the entry of this name. -/
theorem backslash_leads_home :
    let base := Path.ofString "/srv/data"
    let argument := "~\\x"
    let ada := Path.resolve (some (.ofString "/home/ada")) base argument
    let bob := Path.resolve (some (.ofString "/home/bob")) base argument
    base.isAbsolute = true ∧ argument ≠ "~" ∧ ¬ ['~', '/'] <+: argument.toList ∧
      ada = some (.ofString "/home/ada/x") ∧ bob = some (.ofString "/home/bob/x") ∧ ada ≠ bob ∧
      (base.join (.ofString argument)).normalize = .ofString "/srv/data/~\\x" ∧
      ada ≠ some (base.join (.ofString argument)).normalize := by
  decide +kernel

end ThemedShell
