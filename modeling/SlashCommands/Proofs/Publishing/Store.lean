import Mathlib.Logic.Function.Basic
import SlashCommands.Proofs.Publishing.Plan

/-!
# The remote store

A `Store` has schemas under the names of their commands, globally and in each guild.  An operation
changes one scope and no other (`Store.apply_self`, `Store.apply_of_ne`).  The main statement,
`Store.mirrors_replay`, says that the operations of a cache leave its schemas where its definitions
belong, nothing else there, and all other scopes as they are.
-/

namespace SlashCommands

/-- The schemas that the platform stores, under the names of their commands: in each guild, and for
`none` globally. -/
abbrev Store := Option String → Keyed String CommandSchema

namespace Operation

/-- The scope in which an operation works. -/
def scope : Operation → Option String
  | .clearGlobal => none
  | .clearGuild guild => some guild
  | .createGlobal _ => none
  | .createGuild guild _ => some guild

/-- What an operation leaves of the schemas in its scope: nothing, or the same with one more, which
takes the place of one with its name. -/
def change (stored : Keyed String CommandSchema) : Operation → Keyed String CommandSchema
  | .clearGlobal => .empty
  | .clearGuild _ => .empty
  | .createGlobal schema => stored.insert schema.name schema
  | .createGuild _ schema => stored.insert schema.name schema

end Operation

namespace Definition

/-- Holds of the scopes in which a definition is registered: its guilds, or globally if it has
none. -/
def belongsTo (d : Definition) : Option String → Bool
  | none => d.guilds.isEmpty
  | some guild => d.guilds.contains guild

end Definition

namespace Store

/-- Carries out an operation. -/
def apply (store : Store) (op : Operation) : Store :=
  Function.update store op.scope (op.change (store op.scope))

/-- Carries out operations one after the other. -/
def replay (store : Store) (ops : List Operation) : Store := ops.foldl apply store

/-- Holds of what becomes of a store when every scope that a cache reaches, and the global one, gets
exactly the schemas of the definitions that belong there, and nothing else changes. -/
structure Mirrors (c : Cache) (before after : Store) : Prop where
  global : ∀ name schema, (after none).get? name = some schema ↔
    ∃ d, c.Holds d ∧ d.guilds.isEmpty ∧ d.name = name ∧ d.schema = schema
  guild : ∀ guild, c.Reaches guild → ∀ name schema,
    (after (some guild)).get? name = some schema ↔
      ∃ d, c.Holds d ∧ d.guilds.contains guild ∧ d.name = name ∧ d.schema = schema
  other : ∀ guild, ¬ c.Reaches guild → after (some guild) = before (some guild)

theorem apply_self (store : Store) (op : Operation) :
    store.apply op op.scope = op.change (store op.scope) :=
  Function.update_self ..

theorem apply_of_ne {op : Operation} {scope : Option String} (h : scope ≠ op.scope)
    (store : Store) : store.apply op scope = store scope :=
  Function.update_of_ne h ..

theorem replay_cons (store : Store) (op : Operation) (rest : List Operation) :
    store.replay (op :: rest) = (store.apply op).replay rest := rfl

theorem replay_append (store : Store) (ops ops' : List Operation) :
    store.replay (ops ++ ops') = (store.replay ops).replay ops' :=
  List.foldl_append

/-! ### Operations in guilds -/

section

variable {op : String → Operation} (hscope : ∀ guild, (op guild).scope = some guild)

include hscope

theorem replay_guilds_global (store : Store) (guilds : List String) :
    store.replay (guilds.map op) none = store none := by
  induction guilds generalizing store with
  | nil => rfl
  | cons first rest ih =>
    have hne : none ≠ (op first).scope := by
      rw [hscope]
      exact (Option.some_ne_none first).symm
    rw [List.map_cons, replay_cons, ih, apply_of_ne hne]

/-- What is done in several guilds is done in each, and doing it twice is no more than once. -/
theorem replay_guilds {f : Keyed String CommandSchema → Keyed String CommandSchema}
    (hchange : ∀ guild stored, (op guild).change stored = f stored)
    (hf : ∀ stored, f (f stored) = f stored) (store : Store) (guilds : List String)
    (guild : String) :
    store.replay (guilds.map op) (some guild) =
      if guild ∈ guilds then f (store (some guild)) else store (some guild) := by
  induction guilds generalizing store with
  | nil => rfl
  | cons first rest ih =>
    rw [List.map_cons, replay_cons, ih]
    by_cases h : guild = first
    · -- if the guild comes again in the rest, nothing more happens to it
      subst h
      have hself : store.apply (op guild) (some guild) = f (store (some guild)) := by
        rw [← hscope, apply_self, hchange]
      rw [hself, hf, ite_self, if_pos List.mem_cons_self]
    · have hne : some guild ≠ (op first).scope := by
        rw [hscope]
        exact fun heq => h (Option.some.inj heq)
      rw [apply_of_ne hne]
      simp only [List.mem_cons, h, false_or]

end

/-! ### The operations of a cache -/

theorem replay_resetPlan_global (store : Store) (c : Cache) :
    store.replay c.resetPlan none = .empty := by
  rw [Cache.resetPlan, replay_cons, replay_guilds_global fun _ => rfl]
  exact apply_self store .clearGlobal

theorem replay_resetPlan_guild (store : Store) (c : Cache) (guild : String) :
    store.replay c.resetPlan (some guild) =
      if guild ∈ c.guilds then .empty else store (some guild) := by
  rw [Cache.resetPlan, replay_cons,
    replay_guilds (fun _ => rfl) (f := fun _ => .empty) (fun _ _ => rfl) fun _ => rfl,
    apply_of_ne (Option.some_ne_none guild)]

/-- A definition's schema is put into the scopes where the definition belongs. -/
theorem replay_definition (store : Store) (d : Definition) (scope : Option String) :
    store.replay d.publishPlan scope =
      if d.belongsTo scope then (store scope).insert d.name d.schema else store scope := by
  rw [Definition.publishPlan]
  cases scope with
  | none =>
    rw [Definition.belongsTo]
    split
    · exact apply_self store (.createGlobal d.schema)
    · exact replay_guilds_global (fun _ => rfl) store _
  | some guild =>
    rw [Definition.belongsTo]
    split
    · next hempty =>
      rw [Keyed.contains_eq_false_of_isEmpty hempty]
      have hne : some guild ≠ (Operation.createGlobal d.schema).scope := Option.some_ne_none guild
      exact apply_of_ne hne store
    · rw [replay_guilds (fun _ => rfl) (f := fun stored => stored.insert d.name d.schema)
        (fun _ _ => rfl) fun stored => stored.insert_insert _ _ _]
      simp only [Keyed.mem_keys_iff]

theorem replay_definitions (store : Store) (ds : List Definition) (scope : Option String) :
    store.replay (ds.flatMap Definition.publishPlan) scope =
      ((ds.filter (·.belongsTo scope)).map fun d => (d.name, d.schema)).foldl
        (fun m entry => m.insert entry.1 entry.2) (store scope) := by
  induction ds generalizing store with
  | nil => rfl
  | cons d rest ih =>
    rw [List.flatMap_cons, replay_append, ih, replay_definition, List.filter_cons]
    split <;> rfl

variable {c : Cache} {scope : Option String}

/-- A scope that has been emptied gets the schemas of the definitions that belong there. -/
theorem get?_replay_publishPlan (h : c.IsKeyed) {store : Store} (hempty : store scope = .empty)
    (name : String) (schema : CommandSchema) :
    (store.replay c.publishPlan scope).get? name = some schema ↔
      ∃ d, c.Holds d ∧ d.belongsTo scope ∧ d.name = name ∧ d.schema = schema := by
  have hlisted := Cache.listsInOrder_sorted h
  have hnodup : (((c.sorted.filter (·.belongsTo scope)).map fun d =>
      (d.name, d.schema)).map (·.1)).Nodup := by
    rw [List.map_map]
    exact hlisted.nodup_map_name.sublist (List.filter_sublist.map _)
  rw [Cache.publishPlan, replay_definitions, hempty, ← Keyed.ofList,
    Keyed.get?_ofList_eq_some_iff hnodup]
  simp [hlisted.mem_iff, and_assoc]

/-- **The operations of a cache bring a store to what the cache has**: every scope that it reaches
ends with exactly the schemas of the definitions that belong there, whatever was there before. -/
theorem mirrors_replay (h : c.IsKeyed) (store : Store) :
    Mirrors c store (store.replay c.refreshPlan) := by
  rw [Cache.refreshPlan, replay_append]
  refine ⟨get?_replay_publishPlan h (replay_resetPlan_global store c), fun guild hreached => ?_,
    fun guild hother => ?_⟩
  · have hmem : guild ∈ c.guilds := ((Cache.listsInOrder_guilds c).mem_iff guild).mpr hreached
    have hempty : store.replay c.resetPlan (some guild) = .empty := by
      rw [replay_resetPlan_guild, if_pos hmem]
    exact get?_replay_publishPlan h hempty
  · -- neither plan has an operation in this guild
    have hnot : guild ∉ c.guilds := mt ((Cache.listsInOrder_guilds c).mem_iff guild).mp hother
    have hsame : store.replay c.resetPlan (some guild) = store (some guild) := by
      rw [replay_resetPlan_guild, if_neg hnot]
    have hnone : c.sorted.filter (·.belongsTo (some guild)) = [] := by
      refine List.filter_eq_nil_iff.mpr fun d hd hbelongs => hother ⟨d, ?_, hbelongs⟩
      exact ((Cache.listsInOrder_sorted h).mem_iff d).mp hd
    rw [Cache.publishPlan, replay_definitions, hnone, ← hsame]
    rfl

end Store

end SlashCommands
