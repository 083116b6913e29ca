import SlashCommands.Proofs.Serving.Record

/-!
# Sessions

A session is a manager together with the state of the registry that it publishes to, whatever that
state is and whenever the registry fails.  `Session.run` makes calls on a manager one after the
other.  The main statement, `Session.dispatch_gated`, says for every invocation in every such
sequence that its action is started exactly if the command is kept and none of its gates stays
closed.
-/

namespace SlashCommands

/-- A call on a manager. -/
inductive ManagerCall
  | add (definition : Definition)
  | reset
  | publish
  | dispatch (interaction : Interaction) (responder : Responder)
  | autocomplete (interaction : Interaction) (responder : Responder)

/-- What a call on a manager answers; serving leaves a record. -/
inductive ManagerAnswer
  | added
  | cleared (result : Except RegistryFailure Nat)
  | published (result : Except RegistryFailure PublishReport)
  | dispatched (record : List Event) (outcome : DispatchOutcome)
  | completed (record : List Event) (outcome : CompletionOutcome)

/-- A manager and the state of its registry. -/
structure Session (σ : Type) where
  manager : Manager
  remote : σ

namespace Session

variable {σ : Type} (registry : Registry (StateM σ))

/-- Makes a call. -/
def call (s : Session σ) : ManagerCall → ManagerAnswer × Session σ
  | .add d => (.added, { s with manager := s.manager.add d })
  | .reset =>
    let (result, remote) := (s.manager.reset registry).run s.remote
    (.cleared result, { s with remote := remote })
  | .publish =>
    let ((result, manager), remote) := (s.manager.publish registry).run s.remote
    (.published result, ⟨manager, remote⟩)
  | .dispatch i responder =>
    let (record, outcome) := (s.manager.dispatch i).run responder
    (.dispatched record outcome, s)
  | .autocomplete i responder =>
    let (record, outcome) := (s.manager.autocomplete i).run responder
    (.completed record outcome, s)

/-- Makes calls one after the other. -/
def run (s : Session σ) : List ManagerCall → List ManagerAnswer × Session σ
  | [] => ([], s)
  | c :: rest =>
    let (answer, next) := s.call registry c
    let (answers, last) := next.run rest
    (answer :: answers, last)

variable {registry} {s : Session σ}

theorem run_cons (c : ManagerCall) (rest : List ManagerCall) :
    s.run registry (c :: rest) =
      ((s.call registry c).1 :: ((s.call registry c).2.run registry rest).1,
        ((s.call registry c).2.run registry rest).2) := rfl

theorem run_append (before after : List ManagerCall) :
    s.run registry (before ++ after) =
      ((s.run registry before).1 ++ ((s.run registry before).2.run registry after).1,
        ((s.run registry before).2.run registry after).2) := by
  induction before generalizing s with
  | nil => rfl
  | cons c rest ih => rw [List.cons_append, run_cons, run_cons, ih]; rfl

theorem length_run (calls : List ManagerCall) : (s.run registry calls).1.length = calls.length := by
  induction calls generalizing s with
  | nil => rfl
  | cons c rest ih => rw [run_cons, List.length_cons, ih, List.length_cons]

/-- What each call keeps is kept by calls one after the other. -/
theorem run_invariant {P : Session σ → Prop} (hstep : ∀ s c, P s → P (call registry s c).2)
    (h : P s) (calls : List ManagerCall) : P (s.run registry calls).2 := by
  induction calls generalizing s with
  | nil => exact h
  | cons c rest ih =>
    rw [run_cons]
    exact ih (hstep s c h)

theorem settings_publish (m : Manager) (remote : σ) :
    ((m.publish registry).run remote).1.2.settings = m.settings := by
  rw [Manager.publish, StateT.run_bind]
  -- the rest depends on the result of the operations alone
  generalize (registry.perform m.cache.publishPlan).run remote = performed
  obtain ⟨result, remote⟩ := performed
  cases result with
  | ok done => rfl
  | error failure => rfl

/-- No call changes the settings. -/
theorem settings_call (s : Session σ) (c : ManagerCall) :
    (s.call registry c).2.manager.settings = s.manager.settings := by
  cases c with
  | publish => exact settings_publish s.manager s.remote
  | _ => rfl

theorem settings_run (calls : List ManagerCall) :
    (s.run registry calls).2.manager.settings = s.manager.settings :=
  run_invariant (P := fun t => t.manager.settings = s.manager.settings)
    (fun t c h => (settings_call t c).trans h) rfl calls

/-- **Nothing gets past the gates.**  Whatever calls are made on a manager before and after,
whatever it keeps and whenever its registry fails, every invocation that it serves among them is
decided by the gates of the command kept at that point, and changes neither what is kept nor the
registry. -/
theorem dispatch_gated (registry : Registry (StateM σ)) (s : Session σ)
    (before after : List ManagerCall) (i : Interaction) (responder : Responder) :
    let here := (s.run registry before).2
    ∃ record outcome,
      (s.run registry (before ++ .dispatch i responder :: after)).1[before.length]? =
          some (.dispatched record outcome) ∧
        (s.run registry (before ++ [.dispatch i responder])).2 = here ∧
        Gated s.manager.settings (here.manager.cache.get? i.commandName) i responder record
          outcome := by
  intro here
  let played := (here.manager.dispatch i).run responder
  refine ⟨played.1, played.2, ?_, ?_, ?_⟩
  · -- there is one answer for each call before, so the next answer is that of the invocation
    rw [run_append, List.getElem?_append_right (Nat.le_of_eq (length_run before)), length_run,
      Nat.sub_self, run_cons, List.getElem?_cons_zero]
    rfl
  · rw [run_append]
    rfl
  · -- the settings at that point are those at the start
    have hgated := here.manager.gated_run_dispatch i responder
    rwa [settings_run] at hgated

end Session

end SlashCommands
