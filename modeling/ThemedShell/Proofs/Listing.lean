import ThemedShell.Proofs.Resolution

/-!
# Listing from elsewhere

A listing asks the machine and looks neither at the session nor at what has been told before, so it
comes to the same from anywhere (`exists_listAt`). Hence `ls` with an argument is as good as `cd` with
it and then `ls` without one, and fails where `cd` does (`listing_there`).
-/
namespace ThemedShell

variable {σ : Type}

namespace Command

/-- **A listing comes to the same from anywhere.** Where there is a directory, listing it has one
result, leads the machine to one state and tells one thing in all runs on the machine in one state,
and it does not find that there is none. -/
theorem exists_listAt (host : Host σ) (target : Path) (s : σ)
    (found : (host.isDirectory target s).1 = true) :
    ∃ result t calls, (∀ shown, result ≠ .error (.pathNotFound shown)) ∧
      ∀ (argument : String) (run : Run σ), run.host = s →
        (listAt host argument target).perform run =
          (result, { run with host := t }.told calls) := by
  have asked : ∀ run : Run σ, run.host = s → run.answer (host.isDirectory target) = true := by
    rintro run rfl
    exact found
  generalize hopened : host.listDirectory target (host.isDirectory target s).2 = opened
  obtain ⟨listed, t⟩ := opened
  have answered : ∀ run : Run σ, run.host = s →
      (run.after (host.isDirectory target)).answer (host.listDirectory target) = listed ∧
      (run.after (host.isDirectory target)).after (host.listDirectory target) =
        { run with host := t } := by
    rintro run rfl
    exact ⟨congrArg Prod.fst hopened,
      congrArg (fun host => { run with host }) (congrArg Prod.snd hopened)⟩
  cases listed with
  | error source =>
    refine ⟨.error (listingError source), t, [], by simp [listingError], fun argument run hs => ?_⟩
    simp [perform_listAt, asked run hs, answered run hs, Run.told]
  | ok entries =>
    let sorted := classify host target (readable entries).1
    cases hread : (readable entries).2 with
    | some source =>
      refine ⟨.error (listingError source), (sorted t).2, [], by simp [listingError],
        fun argument run hs => ?_⟩
      simp only [perform_listAt, asked run hs, answered run hs, hread, if_true, Run.told,
        List.append_nil]
      rfl
    | none =>
      refine ⟨.ok .proceed, (sorted t).2,
        (Line.plain ("Contents of '" ++ target.display ++ "':")
          :: (Listing.ofEntries (sorted t).1).lines).map .append, by simp, fun argument run hs => ?_⟩
      simp only [perform_listAt, asked run hs, answered run hs, hread, if_true]
      rfl

/-- `ls` leaves the session as it is. -/
theorem session_list (host : Host σ) (argument : String) (run : Run σ) :
    ((list host argument).perform run).2.session = run.session := by
  have effect := Request.perform_effect host (.builtin .list argument) run
  change Request.Effect host run _ ((list host argument).perform run).1
    ((list host argument).perform run).2 at effect
  generalize (list host argument).perform run = left at effect ⊢
  obtain ⟨result, left⟩ := left
  cases effect with
  | failed => rfl
  | wrote => rfl

theorem perform_list_empty (host : Host σ) (run : Run σ) :
    (list host "").perform run = (listAt host "" run.session.directory).perform run := by
  rw [perform_list]
  rfl

section

variable {host : Host σ} {argument : String} {target : Path} {run : Run σ}
  (named : Text.isBlankText argument = false)
include named

theorem perform_list_of_resolved
    (resolved : Path.resolve host.home run.session.directory argument = some target) :
    (list host argument).perform run = (listAt host argument target).perform run := by
  rw [perform_list, listTarget, named, if_neg (by simp), resolved]

theorem list_of_unresolved
    (resolved : Path.resolve host.home run.session.directory argument = none) :
    (list host argument).perform run = (.error (.path .homeNotFound), run) := by
  rw [perform_list, listTarget, named, if_neg (by simp), resolved]

variable (resolved : Path.resolve host.home run.session.directory argument = some target)
include resolved

/-- `ls` finds no path where there is no directory. -/
theorem list_notFound_iff :
    ((list host argument).perform run).1 = .error (.pathNotFound argument) ↔
      run.answer (host.isDirectory target) = false := by
  rw [perform_list_of_resolved named resolved]
  cases found : run.answer (host.isDirectory target) with
  | true =>
    obtain ⟨result, t, calls, found', alike⟩ := exists_listAt host target run.host found
    rw [alike argument run rfl]
    simp [found']
  | false => simp [perform_listAt, found, named]

/-- `cd` finds no path where there is no directory. -/
theorem changeDirectory_notFound_iff :
    ((changeDirectory host argument).perform run).1 = .error (.pathNotFound argument) ↔
      run.answer (host.isDirectory target) = false := by
  rw [perform_changeDirectory, named, resolved]
  cases found : run.answer (host.isDirectory target) with
  | true => simp [found]
  | false => simp [found]

end

end Command

/-- **Listing there.** With an argument that is not blank, `ls` leaves the session as it is and finds no
path exactly where `cd` finds none. Otherwise, unless a home directory is asked for and none is known,
`cd` succeeds; and if asking for directories leaves the machine as it is, then from where `cd` leads
`ls` without an argument has the same result, tells the same and leaves the machine in the same state.
In a normal directory that is still there, `ls` comes to the same without an argument and with a
dot. -/
theorem listing_there (host : Host σ) (run : Run σ) :
    (∀ argument, Text.isBlankText argument = false →
      let listed := (Command.list host argument).perform run
      let moved := (Command.changeDirectory host argument).perform run
      let there := (Command.list host "").perform moved.2
      listed.2.session = run.session ∧
      (listed.1 = .error (.pathNotFound argument) ↔ moved.1 = .error (.pathNotFound argument)) ∧
      (listed.1 ≠ .error (.pathNotFound argument) →
        host.home.isSome = true ∨ Path.isHomePath argument = false →
        moved.1 = .ok .proceed ∧
        ((∀ path, run.after (host.isDirectory path) = run) →
          there.1 = listed.1 ∧ there.2.host = listed.2.host ∧
          ∃ calls, listed.2.calls = run.calls ++ calls ∧
            there.2.calls = moved.2.calls ++ calls))) ∧
    (run.session.directory.IsNormal → run.answer (host.isDirectory run.session.directory) = true →
      (Command.list host "").perform run = (Command.list host ".").perform run) := by
  constructor
  · intro argument named listed moved there
    refine ⟨Command.session_list host argument run, ?_⟩
    cases resolved : Path.resolve host.home run.session.directory argument with
    | none =>
      have unlisted : listed = _ := Command.list_of_unresolved named resolved
      have unmoved : moved = _ := Command.changeDirectory_of_unresolved named resolved
      obtain ⟨unknown, home⟩ := Path.resolve_eq_none.1 resolved
      exact ⟨by simp [unlisted, unmoved], fun _ known => by simp [unknown, home] at known⟩
    | some target =>
      have lists := Command.list_notFound_iff named resolved
      refine ⟨lists.trans (Command.changeDirectory_notFound_iff named resolved).symm,
        fun notMissing _ => ?_⟩
      have found : run.answer (host.isDirectory target) = true := by
        by_contra missing
        exact notMissing (lists.2 (Bool.of_not_eq_true missing))
      refine ⟨(Command.changeDirectory_succeeds named resolved).2 found, fun steady => ?_⟩
      obtain ⟨session, host'⟩ := Command.changeDirectory_arrives named resolved found
      obtain ⟨result, t, calls, -, alike⟩ := Command.exists_listAt host target run.host found
      have here : listed = (result, { run with host := t }.told calls) := by
        rw [show listed = _ from Command.perform_list_of_resolved named resolved,
          alike argument run rfl]
      have elsewhere : there = (result, { moved.2 with host := t }.told calls) := by
        have directory : moved.2.session.directory = target := by rw [session]
        rw [steady] at host'
        rw [show there = _ from Command.perform_list_empty host moved.2, directory,
          alike "" moved.2 host']
      rw [here, elsewhere]
      exact ⟨rfl, rfl, calls, rfl, rfl⟩
  · intro normal found
    have dot : Path.resolve host.home run.session.directory "." = some run.session.directory := by
      rw [Path.resolve_of_not_home (by decide), Path.normalize_join_dot, normal.normalize_eq]
    obtain ⟨result, t, calls, -, alike⟩ := Command.exists_listAt host _ run.host found
    rw [Command.perform_list_empty, Command.perform_list_of_resolved (by decide) dot,
      alike "" run rfl, alike "." run rfl]

/-- A directory and a file below `/srv`, in a roundabout way of writing. -/
theorem listed_from_srv :
    let host : Host Unit :=
      { Host.bare with
        isDirectory := fun path => pure (["/", "/srv", "/srv/www"].contains path.display)
        listDirectory := fun _ =>
          pure (.ok [.ok (Text.encode "note"), .ok (Text.encode "www")]) }
    let argument := "./srv//www/.."
    let listed := (Command.list host argument).perform .bare
    let moved := (Command.changeDirectory host argument).perform .bare
    let there := (Command.list host "").perform moved.2
    Text.isBlankText argument = false ∧ (∀ path, Run.bare.after (host.isDirectory path) = .bare) ∧
      listed.1 = .ok .proceed ∧ Path.isHomePath argument = false ∧
      moved.1 = .ok .proceed ∧ there.1 = listed.1 ∧
      (∃ calls, listed.2.calls = Run.bare.calls ++ calls ∧
        there.2.calls = moved.2.calls ++ calls) ∧
      listed.2.calls = [.append (.plain "Contents of '/srv':"),
        .append ⟨.directory, "  <DIR> www"⟩, .append ⟨.file, "  note"⟩] ∧
      Path.root.IsNormal ∧ Run.bare.answer (host.isDirectory .root) = true ∧
      (Command.list host "").perform .bare = (Command.list host ".").perform .bare := by
  intro host argument listed moved there
  have named : Text.isBlankText argument = false := by decide
  have steady : ∀ path, Run.bare.after (host.isDirectory path) = .bare := fun _ => rfl
  have success : listed.1 = .ok .proceed := by decide +kernel
  have literal : Path.isHomePath argument = false := by decide
  have told : listed.2.calls = [.append (.plain "Contents of '/srv':"),
      .append ⟨.directory, "  <DIR> www"⟩, .append ⟨.file, "  note"⟩] := by decide +kernel
  have normal : Path.root.IsNormal := ⟨[], by simp, rfl⟩
  have found : Run.bare.answer (host.isDirectory .root) = true := by decide +kernel
  have all := listing_there host .bare
  obtain ⟨moves, alike⟩ := (all.1 argument named).2.2 (by rw [success]; simp) (.inr literal)
  obtain ⟨same, -, calls⟩ := alike steady
  refine ⟨named, steady, success, literal, moves, same, ?_, told, normal, found,
    all.2 normal found⟩
  simpa only [listed, moved, there] using calls

end ThemedShell
