import SlashCommands.Hub
import SlashCommands.Proofs.Publishing.Refresh

/-!
# Interrupted publishing

A registry may fail at any operation.  `Registry.traced` keeps a record of the calls made on a
registry and does not interfere (`RegistryTask.run_traced`).  The main statement,
`RegistryTask.stops_at_failure`, says of resetting, publishing and setting up that a failure
leaves all definitions as they are, that the calls made are those that would have been made without
it, up to the one that fails, and that nothing is registered if the scopes could not be emptied.
-/

namespace SlashCommands

/-- A call on a registry with its answer. -/
structure RegistryCall where
  operation : Operation
  answer : Except String Unit

/-- A call that the registry accepts. -/
def RegistryCall.accepted (op : Operation) : RegistryCall := ⟨op, .ok ()⟩

/-- Holds of the calls that are made when an operation of a plan fails: those before it, which are
accepted, and the one that fails.  None follows. -/
def StopsAt (plan : List Operation) (calls : List RegistryCall) (failure : RegistryFailure) :
    Prop :=
  ∃ done rest, plan = done ++ failure.operation :: rest ∧
    calls = done.map .accepted ++ [⟨failure.operation, .error failure.cause⟩]

/-- Holds of the calls with which a plan is carried out, to its end or up to a failure. -/
def CarriesOut (plan : List Operation) (calls : List RegistryCall) : Option RegistryFailure → Prop
  | none => calls = plan.map .accepted
  | some failure => StopsAt plan calls failure

namespace CarriesOut

variable {plan : List Operation} {calls : List RegistryCall} {failure? : Option RegistryFailure}

theorem nil : CarriesOut [] [] none := rfl

/-- A plan goes on after an accepted call. -/
theorem cons (op : Operation) (h : CarriesOut plan calls failure?) :
    CarriesOut (op :: plan) (.accepted op :: calls) failure? := by
  cases failure? with
  | none => exact congrArg (RegistryCall.accepted op :: ·) h
  | some failure =>
    obtain ⟨done, rest, rfl, rfl⟩ := h
    exact ⟨op :: done, rest, rfl, rfl⟩

/-- A plan ends with a call that fails. -/
theorem fail (op : Operation) (cause : String) (rest : List Operation) :
    CarriesOut (op :: rest) [⟨op, .error cause⟩] (some ⟨op, cause⟩) :=
  ⟨[], rest, rfl, rfl⟩

/-- Only operations of the plan are called. -/
theorem operation_mem (h : CarriesOut plan calls failure?) {call : RegistryCall}
    (hcall : call ∈ calls) : call.operation ∈ plan := by
  cases failure? with
  | none =>
    obtain rfl : calls = plan.map .accepted := h
    obtain ⟨op, hop, rfl⟩ := List.mem_map.mp hcall
    exact hop
  | some failure =>
    obtain ⟨done, rest, rfl, rfl⟩ := h
    rcases List.mem_append.mp hcall with hcall | hcall
    · obtain ⟨op, hop, rfl⟩ := List.mem_map.mp hcall
      exact List.mem_append_left _ hop
    · obtain rfl := List.mem_singleton.mp hcall
      exact List.mem_append_right _ List.mem_cons_self

end CarriesOut

/-- The failure in a result, if it is one. -/
def RegistryFailure.ofResult? {α : Type} : Except RegistryFailure α → Option RegistryFailure
  | .ok _ => none
  | .error failure => some failure

theorem RegistryFailure.ofResult?_map {α β : Type} (f : α → β)
    (result : Except RegistryFailure α) : ofResult? (result.map f) = ofResult? result := by
  cases result <;> rfl

namespace Registry

variable {σ : Type}

/-- The registry with a record of the calls made on it. -/
def traced (registry : Registry (StateM σ)) : Registry (StateM (List RegistryCall × σ)) :=
  fun op => do
    let (calls, remote) ← get
    let (answer, remote) := (registry op).run remote
    set (calls ++ [⟨op, answer⟩], remote)
    return answer

variable (registry : Registry (StateM σ))

theorem run_traced (op : Operation) (calls : List RegistryCall) (remote : σ) :
    (registry.traced op).run (calls, remote) =
      (((registry op).run remote).1, calls ++ [⟨op, ((registry op).run remote).1⟩],
        ((registry op).run remote).2) := rfl

/-- The record has the calls with which operations are carried out; apart from that the registry
does the same. -/
theorem run_traced_perform (ops : List Operation) (calls : List RegistryCall) (remote : σ) :
    ∃ made,
      (registry.traced.perform ops).run (calls, remote) =
        (((registry.perform ops).run remote).1, calls ++ made,
          ((registry.perform ops).run remote).2) ∧
      CarriesOut ops made (RegistryFailure.ofResult? ((registry.perform ops).run remote).1) := by
  induction ops generalizing calls remote with
  | nil => exact ⟨[], by rw [List.append_nil]; rfl, .nil⟩
  | cons op rest ih =>
    rw [perform, perform, StateT.run_bind, StateT.run_bind, run_traced]
    -- the answer to the first operation decides whether there are more calls
    generalize (registry op).run remote = answered
    obtain ⟨answer, remote⟩ := answered
    cases answer with
    | error cause => exact ⟨[⟨op, .error cause⟩], rfl, .fail op cause rest⟩
    | ok =>
      obtain ⟨made, hrun, hcarries⟩ := ih (calls ++ [.accepted op]) remote
      refine ⟨.accepted op :: made, ?_, hcarries.cons op⟩
      rw [← List.append_cons] at hrun
      exact hrun

/-- Of two plans one after the other the second is begun if the first does not fail. -/
theorem run_perform_append (ops ops' : List Operation) (remote : σ) :
    (registry.perform (ops ++ ops')).run remote =
      match (registry.perform ops).run remote with
      | (.ok (), after) => (registry.perform ops').run after
      | (.error failure, after) => (.error failure, after) := by
  induction ops generalizing remote with
  | nil => rfl
  | cons op rest ih =>
    rw [List.cons_append, perform, perform, StateT.run_bind, StateT.run_bind]
    generalize (registry op).run remote = answered
    obtain ⟨answer, remote⟩ := answered
    cases answer with
    | error cause => rfl
    | ok => exact ih remote

/-- The registry that does not work in a guild; apart from that it accepts and remembers
everything. -/
def refusing (guild : String) : Registry (StateM (List Operation)) :=
  fun op => if op.scope = some guild then return .error "refused" else recording op

end Registry

/-! ### What the manager does at its registry -/

namespace Manager

variable {σ : Type} (m : Manager) (registry : Registry (StateM σ)) (remote : σ)

/-- The manager after the operations of its definitions have been carried out, or not. -/
def afterPublishing (m : Manager) : Except RegistryFailure Unit → Manager
  | .ok () => { m with cache := m.cache.published }
  | .error _ => m

theorem run_reset :
    let performed := (registry.perform m.cache.resetPlan).run remote
    (m.reset registry).run remote =
      (performed.1.map fun _ => m.cache.guilds.length, performed.2) := by
  rw [reset, StateT.run_bind]
  generalize (registry.perform m.cache.resetPlan).run remote = performed
  obtain ⟨result, remote⟩ := performed
  cases result <;> rfl

theorem run_publish :
    let performed := (registry.perform m.cache.publishPlan).run remote
    (m.publish registry).run remote =
      ((performed.1.map fun _ => m.cache.publishReport, m.afterPublishing performed.1),
        performed.2) := by
  rw [publish, StateT.run_bind]
  generalize (registry.perform m.cache.publishPlan).run remote = performed
  obtain ⟨result, remote⟩ := performed
  cases result <;> rfl

/-- Emptying the scopes and registering the definitions amounts to one plan. -/
theorem run_republish :
    let performed := (registry.perform m.cache.refreshPlan).run remote
    (m.republish registry).run remote =
      ((performed.1.map fun _ =>
          { m.cache.publishReport with clearedGuilds := m.cache.guilds.length },
        m.afterPublishing performed.1), performed.2) := by
  rw [republish, StateT.run_bind, run_reset, Cache.refreshPlan, Registry.run_perform_append]
  -- the definitions are registered only if all scopes could be emptied
  generalize (registry.perform m.cache.resetPlan).run remote = cleared
  obtain ⟨result, remote⟩ := cleared
  cases result with
  | error failure => rfl
  | ok =>
    show StateT.run (m.publish registry >>= _) remote = _
    rw [StateT.run_bind, run_publish]
    dsimp only
    generalize (registry.perform m.cache.publishPlan).run remote = performed
    obtain ⟨result, remote⟩ := performed
    cases result <;> rfl

end Manager

/-- What a manager does at its registry. -/
inductive RegistryTask
  | reset
  | publish
  | setUp (hub : Hub)

namespace RegistryTask

/-- Does a task: tells the failure that stops it, if there is one, and leaves the manager. -/
def run {μ : Type → Type} [Monad μ] (m : Manager) (registry : Registry μ) :
    RegistryTask → μ (Option RegistryFailure × Manager)
  | .reset => do
    let result ← m.reset registry
    return (RegistryFailure.ofResult? result, m)
  | .publish => do
    let (result, m) ← m.publish registry
    return (RegistryFailure.ofResult? result, m)
  | .setUp hub => do
    let (result, m, _) ← m.initializeCommands hub registry
    return (RegistryFailure.ofResult? result, m)

/-- The operations of a task. -/
def plan (m : Manager) : RegistryTask → List Operation
  | .reset => m.cache.resetPlan
  | .publish => m.cache.publishPlan
  | .setUp _ => m.cache.refreshPlan

/-- The manager after the operations of a task have been carried out, or not. -/
def after (m : Manager) (result : Except RegistryFailure Unit) : RegistryTask → Manager
  | .reset => m
  | .publish => m.afterPublishing result
  | .setUp _ => m.afterPublishing result

/-- A failure leaves the manager as it is. -/
theorem after_error (m : Manager) (failure : RegistryFailure) (task : RegistryTask) :
    task.after m (.error failure) = m := by
  cases task <;> rfl

variable {σ : Type} (m : Manager) (registry : Registry (StateM σ))

/-- A task carries out its operations and is decided by their result. -/
theorem run_eq (task : RegistryTask) (remote : σ) :
    let performed := (registry.perform (task.plan m)).run remote
    (task.run m registry).run remote =
      ((RegistryFailure.ofResult? performed.1, task.after m performed.1), performed.2) := by
  cases task with
  | reset =>
    rw [run, StateT.run_bind, Manager.run_reset]
    exact congrArg (fun failure? => ((failure?, m), _)) (RegistryFailure.ofResult?_map _ _)
  | publish =>
    rw [run, StateT.run_bind, Manager.run_publish]
    exact congrArg (fun failure? => ((failure?, _), _)) (RegistryFailure.ofResult?_map _ _)
  | setUp hub =>
    rw [run, Manager.initializeCommands, StateT.run_bind, StateT.run_bind, Manager.run_republish]
    exact congrArg (fun failure? => ((failure?, _), _)) (RegistryFailure.ofResult?_map _ _)

/-- The calls that a task makes on a registry in some state. -/
def callsMade (remote : σ) (task : RegistryTask) : List RegistryCall :=
  ((task.run m registry.traced).run ([], remote)).2.1

/-- A record of the calls does not change what a task does, and has the calls with which the
operations of the task are carried out. -/
theorem run_traced (task : RegistryTask) (calls : List RegistryCall) (remote : σ) :
    ∃ made,
      (task.run m registry.traced).run (calls, remote) =
        (((task.run m registry).run remote).1, calls ++ made,
          ((task.run m registry).run remote).2) ∧
      CarriesOut (task.plan m) made ((task.run m registry).run remote).1.1 := by
  obtain ⟨made, hrun, hcarries⟩ := registry.run_traced_perform (task.plan m) calls remote
  rw [run_eq, run_eq, hrun]
  exact ⟨made, rfl, hcarries⟩

/-- The calls that a task makes carry out its operations. -/
theorem carriesOut_callsMade (task : RegistryTask) (remote : σ) :
    CarriesOut (task.plan m) (task.callsMade m registry remote)
      ((task.run m registry).run remote).1.1 := by
  obtain ⟨made, hrun, hcarries⟩ := run_traced m registry task [] remote
  rw [callsMade, hrun]
  exact hcarries

/-- If no operation fails, a task makes a call for each of its operations. -/
theorem run_recording (task : RegistryTask) :
    ((task.run m .recording).run []).2 = task.plan m := by
  rw [run_eq, Registry.run_perform Registry.accepts_recording]
  exact Registry.foldl_after_recording (task.plan m) []

/-- A failure to empty the scopes is all that setting up comes to. -/
theorem callsMade_setUp_of_failure (hub : Hub) {remote : σ} {failure : RegistryFailure}
    (h : ((reset.run m registry).run remote).1.1 = some failure) :
    (setUp hub).callsMade m registry remote = reset.callsMade m registry remote := by
  obtain ⟨made, hrun, -⟩ := registry.run_traced_perform m.cache.resetPlan [] remote
  rw [run_eq] at h
  rw [callsMade, callsMade, run_eq, run_eq, plan, plan, Cache.refreshPlan,
    Registry.run_perform_append, hrun]
  rw [plan] at h
  -- both tasks begin by emptying the scopes, and that has failed
  generalize (registry.perform m.cache.resetPlan).run remote = performed at *
  obtain ⟨result, remote⟩ := performed
  cases result with
  | ok => cases h
  | error failure => rfl

/-- No operation that empties a scope registers anything. -/
theorem not_isCreate_of_mem_resetPlan {c : Cache} {op : Operation} (h : op ∈ c.resetPlan) :
    op.isCreateGlobal = false ∧ op.isCreateGuild = false := by
  rcases List.mem_cons.mp h with rfl | h
  · exact ⟨rfl, rfl⟩
  · obtain ⟨guild, -, rfl⟩ := List.mem_map.mp h
    exact ⟨rfl, rfl⟩

/-- **A failure stops everything and changes nothing.**  Whenever resetting, publishing or setting
up fails, whatever the definitions and whichever operation it is, all definitions stay exactly as
they are, and the calls made on the registry are those of the same task on a registry that never
fails, up to the first that fails, with none after it.  If setting up cannot empty the scopes, it
registers nothing. -/
theorem stops_at_failure (task : RegistryTask) (remote : σ) {failure : RegistryFailure}
    (h : ((task.run m registry).run remote).1.1 = some failure) :
    ((task.run m registry).run remote).1.2.cache = m.cache ∧
      StopsAt ((task.run m .recording).run []).2 (task.callsMade m registry remote) failure ∧
      ∀ hub, task = .setUp hub → ((reset.run m registry).run remote).1.1.isSome →
        ∀ call ∈ task.callsMade m registry remote,
          call.operation.isCreateGlobal = false ∧ call.operation.isCreateGuild = false := by
  have hcarries := carriesOut_callsMade m registry task remote
  rw [h] at hcarries
  refine ⟨?_, ?_, ?_⟩
  · -- what is kept depends on the result of the operations alone
    rw [run_eq] at h ⊢
    generalize (registry.perform (task.plan m)).run remote = performed at *
    obtain ⟨result, remote⟩ := performed
    cases result with
    | ok => cases h
    | error failure => exact congrArg Manager.cache (task.after_error m failure)
  · rw [run_recording]
    exact hcarries
  · -- then the calls are those of resetting, whose operations register nothing
    rintro hub rfl hreset call hcall
    obtain ⟨failure', hreset⟩ := Option.isSome_iff_exists.mp hreset
    rw [callsMade_setUp_of_failure m registry hub hreset] at hcall
    have hmem := (carriesOut_callsMade m registry reset remote).operation_mem hcall
    exact not_isCreate_of_mem_resetPlan hmem

/-- Two definitions are set up at a registry that does not work in the second of their guilds: one
guild is emptied, and nothing is registered. -/
theorem setUp_stops_at_guild :
    let m := (Manager.new {}).addAll [.room, .ping]
    let task := setUp .empty
    ((task.run m (.refusing "2")).run []).1.1 = some ⟨.clearGuild "2", "refused"⟩ ∧
      ((task.run m (.refusing "2")).run []).1.2.cache = m.cache ∧
      StopsAt ((task.run m .recording).run []).2
        [.accepted .clearGlobal, .accepted (.clearGuild "1"), ⟨.clearGuild "2", .error "refused"⟩]
        ⟨.clearGuild "2", "refused"⟩ := by
  intro m task
  have h : ((task.run m (.refusing "2")).run []).1.1 = some ⟨.clearGuild "2", "refused"⟩ := rfl
  obtain ⟨hcache, hstops, -⟩ := stops_at_failure m (.refusing "2") task [] h
  exact ⟨h, hcache, hstops⟩

end RegistryTask

end SlashCommands
