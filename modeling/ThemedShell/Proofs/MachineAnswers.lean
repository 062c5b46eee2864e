import ThemedShell.CommandRunner
import ThemedShell.Proofs.Asking
import ThemedShell.Proofs.NewDirectory
import ThemedShell.Proofs.SamePlace
import ThemedShell.Proofs.Unbroken

/-!
# Error texts of a machine

All errors of a tree of files have numbers, and the system describes each number in one line. A runner
reports a command line that it could not run by this line or by the directory it was to run in. So
nothing that a machine answers brings a line feed into an error (`unbroken_of_moves`).
-/
namespace ThemedShell

open Text (unbroken_ofList)

/-- If the answer is an error, its text is unbroken. A command line that could not be run is reported
by itself or by its directory. -/
def HostCall.Unbroken : HostCall → Prop
  | .isDirectory _ _ | .occupied _ _ => True
  | .createDirectory _ answer => ∀ source, answer = .error source → Text.Unbroken source.message
  | .listDirectory _ answer =>
    (∀ source, answer = .error source → Text.Unbroken source.message) ∧
      ∀ entries, answer = .ok entries →
        ∀ source, .error source ∈ entries → Text.Unbroken source.message
  | .launch commandLine directory answer => ∀ cause, answer = .error cause →
    cause = .missingDirectory directory ∨
      ∃ source, cause = .launch commandLine source ∧ Text.Unbroken source.message

/-! ## Numbered errors -/

namespace SystemError

theorem unbroken_descriptions : ∀ entry ∈ descriptions, Text.Unbroken entry.2 := by
  unfold descriptions
  simp only [List.forall_mem_cons]
  and_intros
  all_goals first | exact unbroken_ofList (by decide) | exact List.forall_mem_nil _

theorem unbroken_describe (number : Int) : Text.Unbroken (describe number) := by
  unfold describe
  cases found : descriptions.lookup number with
  | none => exact (unbroken_ofList (by decide)).append (Text.unbroken_toString number)
  | some text =>
    obtain ⟨before, behind, all, -⟩ := List.lookup_eq_some_iff.1 found
    exact unbroken_descriptions (number, text) (by rw [all]; simp)

def Numbered (e : SystemError) : Prop := ∃ number, e = .os number

theorem Numbered.unbroken_message {e : SystemError} : e.Numbered → Text.Unbroken e.message := by
  rintro ⟨number, rfl⟩
  exact (((unbroken_describe number).append (unbroken_ofList (by decide))).append
    (Text.unbroken_toString number)).append (unbroken_ofList (by decide))

end SystemError

namespace FileTree

open SystemError (Numbered)

variable {root : Node} {base : Location} {path : Path} {follow : Bool} {e : SystemError}

/-- Each branch of a walk goes on, fails with an error of its own, or ends at a place. -/
theorem numbered_walkFrom {links : Nat} {here : List FileName} :
    ∀ {steps : List Text.Octets}, walkFrom root follow links here steps = .error e → e.Numbered
  | [], h => by
    rw [walkFrom] at h
    cases h
  | step :: rest, h => by
    rw [walkFrom] at h
    repeat' split at h
    all_goals first
      | exact numbered_walkFrom h
      | exact ⟨_, (Except.error.inj h).symm⟩
      | cases h
termination_by steps => (links, steps.length)

theorem numbered_walk (h : walk root base path follow = .error e) : e.Numbered := by
  unfold walk at h
  split at h
  · exact ⟨_, (Except.error.inj h).symm⟩
  · split at h
    · exact ⟨_, (Except.error.inj h).symm⟩
    · exact numbered_walkFrom h

theorem numbered_locate (h : locate root base path follow = .error e) : e.Numbered := by
  unfold locate at h
  split at h
  · next walked => exact Except.error.inj h ▸ numbered_walk walked
  · exact ⟨_, (Except.error.inj h).symm⟩
  · cases h

theorem numbered_listDirectory (h : listDirectory root base path = .error e) : e.Numbered := by
  unfold listDirectory find at h
  cases located : locate root base path true with
  | error source =>
    rw [located] at h
    exact Except.error.inj h ▸ numbered_locate located
  | ok location =>
    rw [located, Except.map] at h
    split at h
    · next same => cases same
    · cases h
    · exact ⟨_, (Except.error.inj h).symm⟩

theorem numbered_createDirectory (h : createDirectory root base path = .error e) :
    e.Numbered := by
  unfold createDirectory at h
  split at h
  · exact ⟨_, (Except.error.inj h).symm⟩
  · split at h
    · next walked => exact Except.error.inj h ▸ numbered_walk walked
    · exact ⟨_, (Except.error.inj h).symm⟩
    · cases h

end FileTree

/-! ## Answers -/

theorem Machine.unbroken_nulInName : Text.Unbroken nulInName.message := unbroken_ofList (by decide)

/-- A runner of command lines reports these or their directory. -/
theorem CommandRunner.unbroken_run (environment : Environment) (line : String) (directory : Path)
    (machine : Machine) :
    (HostCall.launch line directory (run environment line directory machine).1).Unbroken := by
  unfold run
  intro cause h
  split at h
  · exact .inl (Except.error.inj h).symm
  · split at h
    · exact .inl (Except.error.inj h).symm
    · split at h
      · exact .inr ⟨_, (Except.error.inj h).symm, unbroken_ofList (by decide)⟩
      · cases h

/-- **No error is broken that a machine answers with**, if none of its runner is. -/
theorem Machine.unbroken_of_moves {home : Option Path} {runner : Runner Machine}
    (runs : ∀ line directory m,
      (HostCall.launch line directory (runner line directory m).1).Unbroken)
    {m n : Machine} {call : HostCall} (h : (host home runner).Moves m n call) :
    call.Unbroken := by
  cases call with
  | isDirectory | occupied => trivial
  | createDirectory path answer =>
    rintro source rfl
    have answered : (createDirectory path m).1 = .error source := congrArg Prod.fst h
    rw [createDirectory_eq] at answered
    split at answered
    · exact Except.error.inj answered ▸ unbroken_nulInName
    · split at answered
      · next made =>
        exact Except.error.inj answered ▸ (FileTree.numbered_createDirectory made).unbroken_message
      · cases answered
  | listDirectory path answer =>
    have answered : (listDirectory path m).1 = answer := congrArg Prod.fst h
    rw [listDirectory_eq] at answered
    dsimp only at answered
    split at answered
    · subst answered
      exact ⟨fun source same => Except.error.inj same ▸ unbroken_nulInName, nofun⟩
    · cases listed : FileTree.listDirectory m.root m.here path with
      | error e =>
        rw [listed] at answered
        subst answered
        exact ⟨fun source same =>
          Except.error.inj same ▸ (FileTree.numbered_listDirectory listed).unbroken_message, nofun⟩
      | ok names =>
        rw [listed] at answered
        subst answered
        refine ⟨nofun, fun entries same source mem => ?_⟩
        rw [← Except.ok.inj same] at mem
        simp at mem
  | launch line directory answer =>
    have answered : (runner line directory m).1 = answer := congrArg Prod.fst h
    exact answered ▸ runs line directory m

end ThemedShell
