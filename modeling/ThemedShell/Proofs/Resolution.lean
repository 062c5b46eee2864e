import ThemedShell.Proofs.Components
import ThemedShell.Proofs.Turn

/-!
# Resolution in stages

What a user writes may be resolved in stages: the text before a slash first, and the text behind it
as seen from there. So, as long as asking changes no answers, two changes of directory in a row are
as good as one (`two_moves_in_one`).
-/
namespace ThemedShell

/-! ## Texts as paths -/

namespace Text

theorem encode_append (s t : String) : encode (s ++ t) = encode s ++ encode t := by
  simp [encode]

theorem encode_eq_nil {s : String} : encode s = [] ↔ s = "" := by
  rw [encode, List.flatMap_eq_nil_iff, ← String.toList_eq_nil_iff, List.eq_nil_iff_forall_not_mem]
  refine forall₂_congr fun c _ => ⟨fun h => ?_, False.elim⟩
  have := Char.utf8Size_pos c
  rw [← String.length_utf8EncodeChar, h] at this
  exact absurd this (by decide)

end Text

namespace Path

theorem bytes_ofString_slash (a b : String) :
    (ofString (a ++ "/" ++ b)).bytes = (ofString a).bytes ++ slash :: (ofString b).bytes := by
  simp [ofString, Text.encode_append, show Text.encode "/" = [slash] from by decide]

theorem bytes_ofString_ne_nil {a : String} (h : a ≠ "") : (ofString a).bytes ≠ [] :=
  fun empty => h (Text.encode_eq_nil.1 empty)

/-- What stands behind a slash does not matter for what is joined before it. -/
theorem bytes_join_slash {first : Text.Octets} (h : first ≠ []) (p : Path) (rest : Text.Octets) :
    (p.join ⟨first ++ slash :: rest⟩).bytes = (p.join ⟨first⟩).bytes ++ slash :: rest := by
  have absolute : (⟨first ++ slash :: rest⟩ : Path).isAbsolute = (⟨first⟩ : Path).isAbsolute := by
    obtain ⟨b, first, rfl⟩ := List.exists_cons_of_ne_nil h
    rfl
  cases ha : (⟨first⟩ : Path).isAbsolute with
  | true => rw [join_of_isAbsolute ha, join_of_isAbsolute (absolute.trans ha)]
  | false =>
    rw [join_of_relative ha, join_of_relative (absolute.trans ha)]
    simp

/-- A relative path may be joined behind a slash or as it stands. -/
theorem normalize_slash {other : Path} (h : other.isAbsolute = false) {p : Path}
    (hp : p.bytes ≠ []) :
    normalize ⟨p.bytes ++ slash :: other.bytes⟩ = (p.join other).normalize := by
  apply normalize_congr
  · rw [isAbsolute_join_of_relative h]
    obtain ⟨b, rest, hbytes⟩ := List.exists_cons_of_ne_nil hp
    simp [isAbsolute, hbytes]
  · rw [components_slash, components_join h]

/-! ## Home paths -/

theorem homeRest?_slash {cs : List Char} (h : cs ≠ []) (none : homeRest? cs = none)
    (rest : List Char) : homeRest? (cs ++ '/' :: rest) = .none := by
  match cs with
  | [] => exact absurd rfl h
  | [c] =>
    have : c ≠ '~' := by
      rintro rfl
      exact absurd none (by decide)
    simp [homeRest?, this]
  | c :: d :: cs =>
    -- The first two characters settle it, and they are there already.
    unfold homeRest? at none ⊢
    split at none <;> simp_all

theorem isHomePath_slash {a : String} (h : a ≠ "") (hhome : isHomePath a = false) (b : String) :
    isHomePath (a ++ "/" ++ b) = false := by
  have none : homeRest? a.toList = none := by simpa [isHomePath] using hhome
  have := homeRest?_slash (String.toList_eq_nil_iff.not.2 h) none b.toList
  simpa [isHomePath] using this

/-- A text that is no home path stands for itself. -/
theorem resolve_of_not_home {s : String} (h : isHomePath s = false) (home : Option Path)
    (base : Path) : resolve home base s = some (base.join (ofString s)).normalize := by
  have none : homeRest? s.toList = none := by simpa [isHomePath] using h
  simp [resolve, expand, none]

/-- Only a home path may stand for nothing, and only if no home is known. -/
theorem resolve_eq_none {home : Option Path} {base : Path} {s : String} :
    resolve home base s = none ↔ home = none ∧ isHomePath s = true := by
  rw [resolve, Option.map_eq_none_iff, expand, isHomePath]
  cases homeRest? s.toList with
  | none => simp
  | some rest => cases rest <;> simp

/-- **Resolution in stages.** -/
theorem resolve_slash {a b : String} (ha : a ≠ "") (hahome : isHomePath a = false)
    (hb : (ofString b).isAbsolute = false) (hbhome : isHomePath b = false) (home : Option Path)
    (base : Path) :
    resolve home base (a ++ "/" ++ b) =
      (resolve home base a).bind fun target => resolve home target b := by
  have hne := bytes_ofString_ne_nil ha
  have hjoined : (base.join (ofString a)).bytes ≠ [] := by
    unfold join
    split
    · exact hne
    · split <;> simp [hne]
  have whole : (base.join (ofString (a ++ "/" ++ b))).normalize =
      ((base.join (ofString a)).join (ofString b)).normalize := by
    rw [← normalize_slash hb hjoined, ← bytes_join_slash hne, ← bytes_ofString_slash]
  rw [resolve_of_not_home (isHomePath_slash ha hahome b), resolve_of_not_home hahome,
    Option.bind_some, resolve_of_not_home hbhome, normalize_join_normalize, whole]

end Path

/-! ## Moving in stages -/

variable {σ : Type}

namespace Text

theorem isBlankText_append (s t : String) :
    isBlankText (s ++ t) = (isBlankText s && isBlankText t) := by
  simp [isBlankText]

end Text

namespace Command

/-- Where nothing is resolved, no home is known. -/
theorem changeDirectory_of_unresolved {host : Host σ} {argument : String} {run : Run σ}
    (named : Text.isBlankText argument = false)
    (resolved : Path.resolve host.home run.session.directory argument = none) :
    (changeDirectory host argument).perform run = (.error (.path .homeNotFound), run) := by
  rw [perform_changeDirectory, named, if_neg (by simp), resolved]

/-- With an argument that is not blank, `cd` succeeds exactly if there is a directory at the path
that the argument stands for; the session is then there. -/
theorem changeDirectory_succeeds {host : Host σ} {argument : String} {run : Run σ}
    (named : Text.isBlankText argument = false) {target : Path}
    (resolved : Path.resolve host.home run.session.directory argument = some target) :
    ((changeDirectory host argument).perform run).1 = .ok .proceed ↔
      run.answer (host.isDirectory target) = true := by
  rw [perform_changeDirectory, named, resolved]
  by_cases found : run.answer (host.isDirectory target) = true <;> simp [found]

theorem changeDirectory_arrives {host : Host σ} {argument : String} {run : Run σ}
    (named : Text.isBlankText argument = false) {target : Path}
    (resolved : Path.resolve host.home run.session.directory argument = some target)
    (found : run.answer (host.isDirectory target) = true) :
    ((changeDirectory host argument).perform run).2.session =
        { run.session with directory := target } ∧
      ((changeDirectory host argument).perform run).2.host =
        (run.after (host.isDirectory target)).host := by
  rw [perform_changeDirectory, named, resolved]
  simp [found]

end Command

/-- **Two moves in one.** Let `a` and `b` be no home paths, `a` not empty and `b` relative. To resolve
`a/b` is to resolve `a` and then, from there, `b`. If asking the machine for directories changes
none of its answers and neither text is blank, a session that can move by `a` and then by `b` can
move by `a/b`, and is then the same. -/
theorem two_moves_in_one (host : Host σ) (a b : String) (ha : a ≠ "")
    (hahome : Path.isHomePath a = false) (hb : (Path.ofString b).isAbsolute = false)
    (hbhome : Path.isHomePath b = false) :
    (∀ base : Path, ∃ first second, Path.resolve host.home base a = some first ∧
      Path.resolve host.home first b = some second ∧
      Path.resolve host.home base (a ++ "/" ++ b) = some second) ∧
    ∀ run : Run σ,
      (∀ asked path, (run.after (host.isDirectory asked)).answer (host.isDirectory path) =
        run.answer (host.isDirectory path)) →
      Text.isBlankText a = false → Text.isBlankText b = false →
      let once := (Command.changeDirectory host a).perform run
      let twice := (Command.changeDirectory host b).perform once.2
      let directly := (Command.changeDirectory host (a ++ "/" ++ b)).perform run
      once.1 = .ok .proceed → twice.1 = .ok .proceed →
      directly.1 = .ok .proceed ∧ directly.2.session = twice.2.session := by
  have stages : ∀ base : Path, ∃ first second, Path.resolve host.home base a = some first ∧
      Path.resolve host.home first b = some second ∧
      Path.resolve host.home base (a ++ "/" ++ b) = some second := by
    intro base
    have hfirst := Path.resolve_of_not_home hahome host.home base
    have hsecond := Path.resolve_of_not_home hbhome host.home
      (base.join (Path.ofString a)).normalize
    refine ⟨_, _, hfirst, hsecond, ?_⟩
    rw [Path.resolve_slash ha hahome hb hbhome, hfirst, Option.bind_some, hsecond]
  refine ⟨stages, ?_⟩
  intro run still blanka blankb once twice directly honce htwice
  obtain ⟨first, second, hfirst, hsecond, hwhole⟩ := stages run.session.directory
  have foundFirst := (Command.changeDirectory_succeeds blanka hfirst).1 honce
  obtain ⟨hsession, hhost⟩ := Command.changeDirectory_arrives blanka hfirst foundFirst
  have hsecond' : Path.resolve host.home once.2.session.directory b = some second := by
    rw [hsession]
    exact hsecond
  have foundSecond := (Command.changeDirectory_succeeds blankb hsecond').1 htwice
  obtain ⟨hsession', -⟩ := Command.changeDirectory_arrives blankb hsecond' foundSecond
  have blank : Text.isBlankText (a ++ "/" ++ b) = false := by
    simp [Text.isBlankText_append, blanka]
  -- The question that the second move has put is answered alike before the first.
  have found : run.answer (host.isDirectory second) = true := by
    rw [← still first second]
    rw [Run.answer, hhost] at foundSecond
    exact foundSecond
  refine ⟨(Command.changeDirectory_succeeds blank hwhole).2 found, ?_⟩
  rw [(Command.changeDirectory_arrives blank hwhole found).1, hsession', hsession]

/-- Down and up in the first move, down again in the second. -/
theorem moved_down_to_www :
    let host : Host Unit :=
      { Host.bare with isDirectory := fun path => pure (["/srv", "/srv/www"].contains path.display) }
    let a := "srv/www/.."
    let b := ".//www/"
    let once := (Command.changeDirectory host a).perform .bare
    let twice := (Command.changeDirectory host b).perform once.2
    let directly := (Command.changeDirectory host (a ++ "/" ++ b)).perform .bare
    Path.isHomePath a = false ∧ (Path.ofString b).isAbsolute = false ∧ once.1 = .ok .proceed ∧
      twice.1 = .ok .proceed ∧ directly.1 = .ok .proceed ∧
      directly.2.session = twice.2.session := by
  intro host a b once twice directly
  have hahome : Path.isHomePath a = false := by decide
  have hb : (Path.ofString b).isAbsolute = false := by decide
  have honce : once.1 = .ok .proceed := by decide +kernel
  have htwice : twice.1 = .ok .proceed := by decide +kernel
  have moves := (two_moves_in_one host a b (by decide) hahome hb (by decide)).2 .bare
    (fun _ _ => rfl) (by decide) (by decide) honce htwice
  exact ⟨hahome, hb, honce, htwice, moves⟩

end ThemedShell
