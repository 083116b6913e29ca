import SlashCommands.Proofs.Publishing.Store
import SlashCommands.Proofs.Serving.Session

/-!
# Bringing the registry up to date

A manager that resets and then publishes issues the operations of what it keeps, in a fixed order,
and reports how many of each kind these were (`Session.run_reset_publish`).  With `Store.Mirrors` it
says what the registry has in the end.
-/

namespace SlashCommands

namespace Registry

variable {σ : Type} {registry : Registry (StateM σ)}

/-- Holds of registries that carry out every operation. -/
def Accepts (registry : Registry (StateM σ)) : Prop :=
  ∀ op remote, ((registry op).run remote).1 = .ok ()

/-- The state of a registry after an operation. -/
def after (registry : Registry (StateM σ)) (remote : σ) (op : Operation) : σ :=
  ((registry op).run remote).2

theorem Accepts.run_eq (h : registry.Accepts) (op : Operation) (remote : σ) :
    (registry op).run remote = (.ok (), registry.after remote op) :=
  Prod.ext (h op remote) rfl

theorem run_perform (h : registry.Accepts) (ops : List Operation) (remote : σ) :
    (registry.perform ops).run remote = (.ok (), ops.foldl registry.after remote) := by
  induction ops generalizing remote with
  | nil => rfl
  | cons op rest ih =>
    rw [perform, StateT.run_bind, h.run_eq]
    exact ih (registry.after remote op)

theorem accepts_recording : recording.Accepts := fun _ _ => rfl

/-- The recording registry has the operations in the end. -/
theorem foldl_after_recording (ops before : List Operation) :
    ops.foldl recording.after before = before ++ ops := by
  induction ops generalizing before with
  | nil => rw [List.foldl_nil, List.append_nil]
  | cons op rest ih =>
    rw [List.foldl_cons, ih]
    exact List.append_assoc before [op] rest

end Registry

/-- Holds of the operations that empty the global scope, then each guild that a definition in a
cache is scoped to, and then register the definitions: each in its guilds, or globally if it has
none.  Guilds and definitions come in the byte order of their names. -/
def Cache.RefreshedBy (c : Cache) (ops : List Operation) : Prop :=
  ∃ guilds definitions,
    ListsInOrder id c.Reaches guilds ∧ ListsInOrder (·.name) c.Holds definitions ∧
    (∀ d ∈ definitions, ListsInOrder id (fun g => d.guilds.contains g) d.guilds.keys) ∧
    ops = .clearGlobal :: guilds.map .clearGuild ++ definitions.flatMap fun d =>
      if d.guilds.isEmpty then [.createGlobal d.schema]
      else d.guilds.keys.map fun g => .createGuild g d.schema

namespace Cache

variable {c : Cache}

theorem refreshedBy_refreshPlan (h : c.IsKeyed) : c.RefreshedBy c.refreshPlan :=
  ⟨c.guilds, c.sorted, listsInOrder_guilds c, listsInOrder_sorted h,
    fun d _ => NameSet.listsInOrder_keys d.guilds, rfl⟩

/-- A cache determines the operations that refresh it. -/
theorem RefreshedBy.unique {ops ops' : List Operation} (h : c.RefreshedBy ops)
    (h' : c.RefreshedBy ops') : ops = ops' := by
  obtain ⟨guilds, definitions, hguilds, hdefinitions, -, rfl⟩ := h
  obtain ⟨guilds', definitions', hguilds', hdefinitions', -, rfl⟩ := h'
  rw [hguilds.unique hguilds', hdefinitions.unique hdefinitions']

end Cache

namespace Definition

/-- A command without arguments. -/
def bare (name : String) (guilds : List String) : Definition :=
  { name := name
    description := "Does nothing"
    kind := .chatInput
    nodes := []
    choices := .empty
    defaults := .empty
    requires := []
    channels := .empty
    guilds := .ofNames guilds
    completers := .empty
    action := .nothing
    published := none }

/-- A command in two guilds. -/
def room : Definition := bare "room" ["2", "1"]

/-- A command everywhere. -/
def ping : Definition := bare "ping" []

end Definition

namespace Session

variable {σ : Type} {registry : Registry (StateM σ)}

theorem call_reset (h : registry.Accepts) (s : Session σ) :
    s.call registry .reset =
      (.cleared (.ok s.manager.cache.guilds.length),
        { s with remote := s.manager.cache.resetPlan.foldl registry.after s.remote }) := by
  rw [call, Manager.reset, StateT.run_bind, Registry.run_perform h]
  rfl

theorem call_publish (h : registry.Accepts) (s : Session σ) :
    s.call registry .publish =
      (.published (.ok s.manager.cache.publishReport),
        { manager := { s.manager with cache := s.manager.cache.published }
          remote := s.manager.cache.publishPlan.foldl registry.after s.remote }) := by
  rw [call, Manager.publish, StateT.run_bind, Registry.run_perform h]
  rfl

/-- **Resetting and publishing** brings the registry to what is kept.  A manager with whatever
definitions issues the operations that refresh its cache, exactly these and in this order; it
answers with the numbers of emptied guilds and of registrations; and on any store the operations
leave exactly the schemas of the definitions where these belong. -/
theorem run_reset_publish (h : registry.Accepts) (settings : ManagerSettings)
    (definitions : List Definition) (remote : σ) :
    let m := (Manager.new settings).addAll definitions
    ∃ ops, m.cache.RefreshedBy ops ∧
      run registry ⟨m, remote⟩ [.reset, .publish] =
        ([.cleared (.ok (ops.countP Operation.isClearGuild)),
            .published (.ok ⟨ops.countP Operation.isCreateGlobal,
              ops.countP Operation.isCreateGuild, 0⟩)],
          ⟨{ m with cache := m.cache.published }, ops.foldl registry.after remote⟩) ∧
      ∀ store : Store, Store.Mirrors m.cache store (store.replay ops) := by
  intro m
  have hkeyed : m.cache.IsKeyed := Cache.isKeyed_addAll Cache.isKeyed_empty definitions
  refine ⟨m.cache.refreshPlan, Cache.refreshedBy_refreshPlan hkeyed, ?_,
    Store.mirrors_replay hkeyed⟩
  rw [Cache.countP_isClearGuild, Cache.countP_isCreateGlobal hkeyed,
    Cache.countP_isCreateGuild hkeyed, run_cons, call_reset h, run_cons, call_publish h,
    Cache.refreshPlan, List.foldl_append]
  rfl

theorem run_reset_publish_recording :
    (run .recording ⟨(Manager.new {}).addAll [.room, .ping], []⟩ [.reset, .publish]).2.remote =
      [.clearGlobal, .clearGuild "1", .clearGuild "2", .createGlobal Definition.ping.schema,
        .createGuild "1" Definition.room.schema, .createGuild "2" Definition.room.schema] := by
  have hkeyed : ((Manager.new {}).addAll [.room, .ping]).cache.IsKeyed :=
    Cache.isKeyed_addAll Cache.isKeyed_empty _
  obtain ⟨ops, hops, hrun, -⟩ :=
    run_reset_publish Registry.accepts_recording {} [.room, .ping] []
  rw [hrun, hops.unique (Cache.refreshedBy_refreshPlan hkeyed)]
  dsimp only
  rw [Registry.foldl_after_recording, Cache.refreshPlan, Cache.publishPlan,
    Cache.sorted_eq_values hkeyed]
  rfl

end Session

end SlashCommands
