import ThemedShell.Proofs.Watch

/-!
# What requests ask

`Asks` says which questions a request may put, given where the session is and what the request
comes to. A request keeps every relation between machine states that its questions keep
(`perform_keeps`); applied to the record of a watched host this bounds what is asked, and ties the
states of the machine before and after to the record (`asked_spec`).
-/
namespace ThemedShell

variable {σ : Type}

namespace Host

/-- In state `s` the question is answered as the call says, which leads to state `t`. -/
def Moves (host : Host σ) (s t : σ) : HostCall → Prop
  | .isDirectory path answer => host.isDirectory path s = (answer, t)
  | .occupied path answer => host.occupied path s = (answer, t)
  | .createDirectory path answer => host.createDirectory path s = (answer, t)
  | .listDirectory path answer => host.listDirectory path s = (answer, t)
  | .launch commandLine directory answer => host.launch commandLine directory s = (answer, t)

/-- One question after the other leads from the first state to the second. -/
def Exchange (host : Host σ) : List HostCall → σ → σ → Prop
  | [], s, t => s = t
  | call :: rest, s, t => ∃ u, host.Moves s u call ∧ host.Exchange rest u t

theorem Exchange.append {host : Host σ} :
    ∀ {calls more : List HostCall} {s t u : σ}, host.Exchange calls s t → host.Exchange more t u →
      host.Exchange (calls ++ more) s u
  | [], _, _, _, _, rfl, h => h
  | _ :: _, _, _, _, _, ⟨v, move, rest⟩, h => ⟨v, move, rest.append h⟩

/-- The states before and after each question of a kind are related. -/
def Keeps (host : Host σ) (kind : HostCall → Prop) (R : σ → σ → Prop) : Prop :=
  ∀ s t call, kind call → host.Moves s t call → R s t

theorem Keeps.mono {host : Host σ} {kind more : HostCall → Prop} {R : σ → σ → Prop}
    (h : host.Keeps more R) (sub : ∀ call, kind call → more call) : host.Keeps kind R :=
  fun s t call hk => h s t call (sub call hk)

/-- A relation that each question of an exchange keeps holds from its first state to its last. -/
theorem Exchange.keeps {host : Host σ} {kind : HostCall → Prop} {R : σ → σ → Prop}
    (refl : ∀ s, R s s) (trans : ∀ s t u, R s t → R t u → R s u) (h : host.Keeps kind R) :
    ∀ {calls : List HostCall} {s t : σ}, host.Exchange calls s t → (∀ call ∈ calls, kind call) →
      R s t
  | [], s, _, rfl, _ => refl s
  | call :: rest, s, t, ⟨u, move, exchange⟩, all =>
    trans s u t (h s u call (all call (by simp)) move)
      (exchange.keeps refl trans h fun c hc => all c (by simp [hc]))

end Host

namespace Request

/-- The question may be put by a request that is made at `here` and comes to `result`. -/
def Asks (home : Option Path) (here : Path) (result : Except CommandError Outcome) :
    Request → HostCall → Prop
  | .builtin .changeDirectory argument, .isDirectory path answer =>
    Path.resolve home here argument = some path ∧ answer = result.isOk
  | .builtin .list argument, .isDirectory path _ =>
    ∃ target, Command.listTarget home here argument = some target ∧
      (path = target ∨ ∃ name, path = target.entry name)
  | .builtin .list argument, .listDirectory path _ =>
    Command.listTarget home here argument = some path
  | .builtin .makeDirectory argument, .occupied path _ => path = here.join (.ofString argument)
  | .builtin .makeDirectory argument, .createDirectory path answer =>
    path = here.join (.ofString argument) ∧ answer.isOk = result.isOk
  | .builtin .exec argument, .launch commandLine directory answer =>
    commandLine = argument ∧ directory = here ∧ answer.isOk = result.isOk
  | .external line, .launch commandLine directory answer =>
    commandLine = line ∧ directory = here ∧ answer.isOk = result.isOk
  | _, _ => False

variable {host : Host σ} {R : σ → σ → Prop}

theorem classify_keeps (refl : ∀ s, R s s) (trans : ∀ s t u, R s t → R t u → R s u)
    (target : Path) (keeps : ∀ name s, R s (host.isDirectory (target.entry name) s).2) :
    ∀ (names : List FileName) (run : Run σ),
      R run.host (run.after (Command.classify host target names)).host
  | [], run => refl run.host
  | name :: rest, run => by
    rw [(Command.classify_cons host target name rest run).2]
    exact trans _ _ _ (keeps name run.host)
      (classify_keeps refl trans target keeps rest (run.after (host.isDirectory (target.entry name))))

theorem runExternal_keeps (commandLine : String) (run : Run σ)
    (keeps : host.Keeps ((Request.external commandLine).Asks host.home run.session.directory
      ((Command.runExternal host commandLine).perform run).1) R) :
    R run.host ((Command.runExternal host commandLine).perform run).2.host := by
  revert keeps
  rw [Command.perform_runExternal]
  dsimp only
  split
  · next h =>
    exact fun keeps => keeps _ _ (.launch commandLine run.session.directory _)
      ⟨rfl, rfl, congrArg Except.isOk h⟩ rfl
  · next h =>
    exact fun keeps => keeps _ _ (.launch commandLine run.session.directory _)
      ⟨rfl, rfl, congrArg Except.isOk h⟩ rfl

theorem exec_keeps (refl : ∀ s, R s s) (argument : String) (run : Run σ)
    (keeps : host.Keeps ((Request.builtin .exec argument).Asks host.home run.session.directory
      ((Command.exec host argument).perform run).1) R) :
    R run.host ((Command.exec host argument).perform run).2.host := by
  revert keeps
  rw [Command.perform_exec]
  split
  · exact fun _ => refl _
  · refine fun keeps => runExternal_keeps argument run (keeps.mono fun call h => ?_)
    cases call <;> exact h

theorem changeDirectory_keeps (refl : ∀ s, R s s) (argument : String) (run : Run σ)
    (keeps : host.Keeps ((Request.builtin .changeDirectory argument).Asks host.home
      run.session.directory ((Command.changeDirectory host argument).perform run).1) R) :
    R run.host ((Command.changeDirectory host argument).perform run).2.host := by
  revert keeps
  rw [Command.perform_changeDirectory]
  split
  · exact fun _ => refl _
  · split
    · exact fun _ => refl _
    · next target resolved =>
      split
      · next found =>
        exact fun keeps => keeps _ _ (.isDirectory target _) ⟨resolved, found⟩ rfl
      · next found =>
        exact fun keeps =>
          keeps _ _ (.isDirectory target _) ⟨resolved, Bool.of_not_eq_true found⟩ rfl

theorem listAt_keeps (refl : ∀ s, R s s) (trans : ∀ s t u, R s t → R t u → R s u)
    {argument : String} {target : Path} (run : Run σ) {result : Except CommandError Outcome}
    (named : Command.listTarget host.home run.session.directory argument = some target)
    (keeps : host.Keeps ((Request.builtin .list argument).Asks host.home run.session.directory
      result) R) :
    R run.host ((Command.listAt host argument target).perform run).2.host := by
  have looked : ∀ s, R s (host.isDirectory target s).2 := fun s =>
    keeps _ _ (.isDirectory target _) ⟨target, named, .inl rfl⟩ rfl
  have opened : ∀ s, R s (host.listDirectory target s).2 := fun s =>
    keeps _ _ (.listDirectory target _) named rfl
  have sorted := classify_keeps refl trans target fun name s =>
    keeps _ _ (.isDirectory (target.entry name) _) ⟨target, named, .inr ⟨name, rfl⟩⟩ rfl
  rw [Command.perform_listAt]
  dsimp only
  split
  · refine trans _ _ _ (looked run.host) ?_
    split
    · exact opened _
    · next entries _ =>
      have apart := sorted (Command.readable entries).1
        ((run.after (host.isDirectory target)).after (host.listDirectory target))
      refine trans _ _ _ (opened _) ?_
      split
      · exact apart
      · exact apart
  · exact looked run.host

theorem makeDirectory_keeps (refl : ∀ s, R s s) (trans : ∀ s t u, R s t → R t u → R s u)
    (argument : String) (run : Run σ)
    (keeps : host.Keeps ((Request.builtin .makeDirectory argument).Asks host.home
      run.session.directory ((Command.makeDirectory host argument).perform run).1) R) :
    R run.host ((Command.makeDirectory host argument).perform run).2.host := by
  revert keeps
  rw [Command.perform_makeDirectory]
  dsimp only
  split
  · exact fun _ => refl _
  · split
    · exact fun keeps => keeps _ _ (.occupied _ _) rfl rfl
    · split
      · next made =>
        intro keeps
        exact trans _ _ _ (keeps _ _ (.occupied _ _) rfl rfl)
          (keeps _ _ (.createDirectory _ _) ⟨rfl, congrArg Except.isOk made⟩ rfl)
      · next made =>
        intro keeps
        exact trans _ _ _ (keeps _ _ (.occupied _ _) rfl rfl)
          (keeps _ _ (.createDirectory _ _) ⟨rfl, congrArg Except.isOk made⟩ rfl)

/-- **A request keeps what its questions keep.** -/
theorem perform_keeps (refl : ∀ s, R s s) (trans : ∀ s t u, R s t → R t u → R s u)
    (request : Request) (run : Run σ)
    (keeps : host.Keeps (request.Asks host.home run.session.directory
      (request.perform host run).1) R) :
    R run.host (request.perform host run).2.host := by
  cases request with
  | external commandLine => exact runExternal_keeps commandLine run keeps
  | builtin b argument =>
    cases b <;> simp only [perform, action, Builtin.run] at keeps ⊢
    case help | clear | exit => exact refl _
    case changeDirectory => exact changeDirectory_keeps refl argument run keeps
    case list =>
      rw [Command.perform_list]
      split
      · exact refl _
      · next named => exact listAt_keeps refl trans run named keeps
    case makeDirectory => exact makeDirectory_keeps refl trans argument run keeps
    case color layer =>
      rw [Command.perform_setColor]
      split <;> exact refl _
    case exec => exact exec_keeps refl argument run keeps

/-! ## The record -/

/-- The record grows by calls of a kind, and these lead from the first state to the second. -/
def Recorded (host : Host σ) (kind : HostCall → Prop) (s t : σ × List HostCall) : Prop :=
  ∃ calls, t.2 = s.2 ++ calls ∧ (∀ call ∈ calls, kind call) ∧ host.Exchange calls s.1 t.1

theorem Recorded.refl (host : Host σ) (kind : HostCall → Prop) (s : σ × List HostCall) :
    Recorded host kind s s :=
  ⟨[], by simp, by simp, rfl⟩

theorem Recorded.trans {host : Host σ} {kind : HostCall → Prop} (s t u : σ × List HostCall) :
    Recorded host kind s t → Recorded host kind t u → Recorded host kind s u := by
  rintro ⟨calls, hcalls, kind₁, exchange₁⟩ ⟨more, hmore, kind₂, exchange₂⟩
  refine ⟨calls ++ more, by rw [hmore, hcalls, List.append_assoc], fun call hcall => ?_,
    exchange₁.append exchange₂⟩
  rcases List.mem_append.1 hcall with h | h
  · exact kind₁ call h
  · exact kind₂ call h

/-- Each question of a watched host puts itself on the record. -/
theorem watched_keeps (host : Host σ) (kind : HostCall → Prop) :
    host.watched.Keeps kind (Recorded host kind) := by
  intro s t call hkind move
  refine ⟨[call], ?_, by simpa using hkind, t.1, ?_, rfl⟩ <;>
    cases call <;> obtain ⟨rfl, rfl⟩ := Prod.mk.inj move <;> rfl

/-- **What is on the record.** Each question is one that the request may put, and together they lead
the machine from its state before the request to its state after it. -/
theorem asked_spec (host : Host σ) (request : Request) (run : Run σ) :
    (∀ call ∈ request.asked host run,
      request.Asks host.home run.session.directory (request.perform host run).1 call) ∧
    host.Exchange (request.asked host run) run.host (request.perform host run).2.host := by
  obtain ⟨calls, hcalls, kind, exchange⟩ := perform_keeps
    (Recorded.refl host _) Recorded.trans request run.watched (watched_keeps host _)
  have : request.asked host run = calls := by simpa [asked, Run.watched] using hcalls
  rw [this, perform_watched]
  exact ⟨kind, exchange⟩

end Request

end ThemedShell
