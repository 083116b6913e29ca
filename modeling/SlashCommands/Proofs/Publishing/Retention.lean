import Mathlib.Data.List.Induction
import SlashCommands.Proofs.Draft.Calls
import SlashCommands.Proofs.Publishing.Interruption

/-!
# What a manager keeps

Whatever calls are made on a manager, the definition under a name is the last one that was added
under it, and it has its schema if the definitions have been published since.
`Cache.get?_published` says what publishing does to the definitions, and caches that agree up to
schemas have the same plans (`Cache.Agrees.publishPlan_eq`).  The main statement,
`Session.kept_after_run`, adds that publishing again repeats the same operations and that the order
in which definitions were added does not show.
-/

namespace SlashCommands

namespace Definition

/-- The definition without its schema. -/
def unpublished (d : Definition) : Definition := { d with published := none }

/-- Holds of the definitions that calls on a new draft grow to. -/
def IsBuilt (d : Definition) : Prop :=
  ∃ calls, (Draft.empty.applyAll calls).build = .ok d

/-- A definition that has just been built has no schema. -/
theorem IsBuilt.published_eq {d : Definition} (h : d.IsBuilt) : d.published = none := by
  obtain ⟨calls, h⟩ := h
  rw [Draft.build] at h
  split at h
  · cases h
  · cases h
  · cases h
    rfl

/-- The last of some definitions with a name. -/
def latest? (name : String) (ds : List Definition) : Option Definition :=
  ds.reverse.find? (·.name == name)

theorem latest?_concat (name : String) (ds : List Definition) (d : Definition) :
    latest? name (ds ++ [d]) = if d.name == name then some d else latest? name ds := by
  rw [latest?, List.reverse_concat, List.find?_cons]
  cases d.name == name <;> rfl

theorem latest?_append (name : String) (ds ds' : List Definition) :
    latest? name (ds ++ ds') = (latest? name ds').or (latest? name ds) := by
  rw [latest?, List.reverse_append, List.find?_append]
  rfl

end Definition

/-- What is added is found under its name. -/
theorem Manager.get?_add (m : Manager) (d : Definition) (name : String) :
    (m.add d).cache.get? name = if d.name == name then some d else m.cache.get? name := by
  rw [add, Keyed.get?_insert]
  by_cases h : d.name = name
  · rw [if_pos h.symm, if_pos (beq_iff_eq.mpr h)]
  · rw [if_neg (Ne.symm h), if_neg (mt beq_iff_eq.mp h)]

/-- Of definitions that are added the last with a name is found, and what was there before if there
is none. -/
theorem Manager.get?_addAll (m : Manager) (ds : List Definition) (name : String) :
    (m.addAll ds).cache.get? name = (Definition.latest? name ds).or (m.cache.get? name) := by
  induction ds using List.reverseRecOn with
  | nil => rfl
  | append_singleton ds d ih =>
    rw [addAll, List.foldl_concat, get?_add, Definition.latest?_concat]
    split
    · rfl
    · exact ih

/-! ### Caches that agree up to schemas -/

namespace Cache

variable {c c' : Cache}

/-- Holds of two caches with the same definitions, with or without schemas. -/
def Agrees (c c' : Cache) : Prop :=
  c.mapValues Definition.unpublished = c'.mapValues Definition.unpublished

theorem agrees_of_get? (h : ∀ name, (c.get? name).map Definition.unpublished =
    (c'.get? name).map Definition.unpublished) : c.Agrees c' :=
  Keyed.ext_get? fun name => by
    rw [Keyed.get?_mapValues, Keyed.get?_mapValues, h]

theorem Agrees.get?_eq (h : c.Agrees c') (name : String) :
    (c.get? name).map Definition.unpublished = (c'.get? name).map Definition.unpublished := by
  rw [← Keyed.get?_mapValues, ← Keyed.get?_mapValues, h]

theorem Agrees.values_eq (h : c.Agrees c') :
    c.values.map Definition.unpublished = c'.values.map Definition.unpublished := by
  rw [← Keyed.values_mapValues, ← Keyed.values_mapValues, h]

/-- The scopes to empty do not depend on the schemas. -/
theorem Agrees.resetPlan_eq (h : c.Agrees c') : c.resetPlan = c'.resetPlan := by
  have guilds_eq (c : Cache) : c.values.flatMap (·.guilds.keys) =
      (c.values.map Definition.unpublished).flatMap (·.guilds.keys) := by
    rw [List.flatMap_map]
    rfl
  rw [resetPlan, resetPlan, guilds, guilds, guilds_eq c, guilds_eq c', h.values_eq]

theorem publishPlan_eq (h : c.IsKeyed) :
    c.publishPlan = (c.values.map Definition.unpublished).flatMap Definition.publishPlan := by
  rw [publishPlan, sorted_eq_values h, List.flatMap_map]
  rfl

/-- The definitions to register do not depend on the schemas. -/
theorem Agrees.publishPlan_eq (h : c.Agrees c') (hkeyed : c.IsKeyed) (hkeyed' : c'.IsKeyed) :
    c.publishPlan = c'.publishPlan := by
  rw [Cache.publishPlan_eq hkeyed, Cache.publishPlan_eq hkeyed', h.values_eq]

/-! ### Publishing -/

/-- Publishing gives each definition its schema and leaves it where it is. -/
theorem get?_published (h : c.IsKeyed) (name : String) :
    c.published.get? name = (c.get? name).map Definition.attachSchema := by
  have hlisted := listsInOrder_sorted h
  -- no two definitions have the same name, so none takes the place of another
  have hnodup : (((c.sorted.map Definition.attachSchema).map fun d => (d.name, d)).map
      (·.1)).Nodup := by
    simpa [Function.comp_def, Definition.attachSchema] using hlisted.nodup_map_name
  refine Option.ext fun d => ?_
  rw [published, ofDefinitions, Keyed.get?_ofList_eq_some_iff hnodup, Option.map_eq_some_iff]
  simp only [List.map_map, List.mem_map, Function.comp_apply, Prod.mk.injEq]
  constructor
  · rintro ⟨d', hd', rfl, rfl⟩
    obtain ⟨key, hkey⟩ := (hlisted.mem_iff d').mp hd'
    obtain rfl : d'.name = key := h key d' hkey
    exact ⟨d', hkey, rfl⟩
  · rintro ⟨d', hd', rfl⟩
    exact ⟨d', (hlisted.mem_iff d').mpr ⟨name, hd'⟩, h name d' hd', rfl⟩

theorem isKeyed_published (h : c.IsKeyed) : c.published.IsKeyed := by
  intro name d hd
  rw [get?_published h, Option.map_eq_some_iff] at hd
  obtain ⟨d', hd', rfl⟩ := hd
  exact h name d' hd'

theorem agrees_published (h : c.IsKeyed) : c.published.Agrees c :=
  agrees_of_get? fun name => by
    rw [get?_published h, Option.map_map]
    rfl

/-- Publishing what has been published changes nothing. -/
theorem published_published (h : c.IsKeyed) : c.published.published = c.published :=
  Keyed.ext_get? fun name => by
    rw [get?_published (isKeyed_published h), get?_published h, Option.map_map]
    rfl

end Cache

/-! ### Logs of calls -/

namespace ManagerCall

/-- The definition that a call adds. -/
def added? : ManagerCall → Option Definition
  | .add d => some d
  | _ => none

/-- Holds of the calls that add a definition under a name. -/
def adds (name : String) (c : ManagerCall) : Bool := c.added?.any (·.name == name)

/-- The operations of a call. -/
def plan (m : Manager) : ManagerCall → List Operation
  | .reset => m.cache.resetPlan
  | .publish => m.cache.publishPlan
  | _ => []

end ManagerCall

namespace ManagerAnswer

/-- Holds of the answer that all definitions have been published. -/
def isPublished : ManagerAnswer → Bool
  | .published (.ok _) => true
  | _ => false

/-- The failure that an answer tells of. -/
def failure? : ManagerAnswer → Option RegistryFailure
  | .cleared result => RegistryFailure.ofResult? result
  | .published result => RegistryFailure.ofResult? result
  | _ => none

end ManagerAnswer

namespace Session

/-- The definition that was added last under a name. -/
def lastAdded? (name : String) (calls : List ManagerCall) : Option Definition :=
  Definition.latest? name (calls.filterMap ManagerCall.added?)

/-- Holds if, in a log of calls and answers, all definitions have been published since one was last
added under a name. -/
def publishedSince (name : String) (log : List (ManagerCall × ManagerAnswer)) : Bool :=
  (log.reverse.takeWhile fun entry => !entry.1.adds name).any (·.2.isPublished)

theorem lastAdded?_concat (name : String) (calls : List ManagerCall) (c : ManagerCall) :
    lastAdded? name (calls ++ [c]) = if c.adds name then c.added? else lastAdded? name calls := by
  rw [lastAdded?, List.filterMap_append]
  cases c with
  | add d =>
    show Definition.latest? name (_ ++ [d]) = _
    rw [Definition.latest?_concat]
    rfl
  | _ => exact congrArg (Definition.latest? name) (List.append_nil _)

theorem publishedSince_concat (name : String) (log : List (ManagerCall × ManagerAnswer))
    (c : ManagerCall) (answer : ManagerAnswer) :
    publishedSince name (log ++ [(c, answer)]) =
      (!c.adds name && (answer.isPublished || publishedSince name log)) := by
  rw [publishedSince, List.reverse_concat, List.takeWhile_cons]
  cases c.adds name <;> rfl

variable {σ : Type} (registry : Registry (StateM σ))

/-- The log of calls made one after the other. -/
def log (s : Session σ) (calls : List ManagerCall) : List (ManagerCall × ManagerAnswer) :=
  calls.zip (s.run registry calls).1

/-- The calls that a call on the manager makes on the registry. -/
def callsMade (s : Session σ) (c : ManagerCall) : List RegistryCall :=
  (call registry.traced ⟨s.manager, [], s.remote⟩ c).2.remote.1

theorem run_concat (s : Session σ) (calls : List ManagerCall) (c : ManagerCall) :
    (s.run registry (calls ++ [c])).2 = ((s.run registry calls).2.call registry c).2 := by
  rw [run_append]
  rfl

theorem log_concat (s : Session σ) (calls : List ManagerCall) (c : ManagerCall) :
    s.log registry (calls ++ [c]) =
      s.log registry calls ++ [(c, ((s.run registry calls).2.call registry c).1)] := by
  rw [log, run_append, List.zip_append (length_run calls).symm]
  rfl

/-! ### What a call does to the definitions -/

variable {registry} {s : Session σ}

theorem isKeyed_call (s : Session σ) (c : ManagerCall) (h : s.manager.cache.IsKeyed) :
    (s.call registry c).2.manager.cache.IsKeyed := by
  cases c with
  | add d => exact h.insert d
  | publish =>
    rw [call, Manager.run_publish]
    generalize ((registry.perform s.manager.cache.publishPlan).run s.remote).1 = result
    cases result with
    | ok => exact Cache.isKeyed_published h
    | error failure => exact h
  | _ => exact h

theorem isKeyed_run (h : s.manager.cache.IsKeyed) (calls : List ManagerCall) :
    (s.run registry calls).2.manager.cache.IsKeyed :=
  run_invariant isKeyed_call h calls

/-- A definition is added, or all get their schemas, or nothing changes. -/
theorem get?_call (h : s.manager.cache.IsKeyed) (c : ManagerCall) (name : String) :
    (s.call registry c).2.manager.cache.get? name =
      if c.adds name then c.added?
      else if (s.call registry c).1.isPublished then
        (s.manager.cache.get? name).map Definition.attachSchema
      else s.manager.cache.get? name := by
  cases c with
  | add d => exact Manager.get?_add s.manager d name
  | publish =>
    rw [call, Manager.run_publish]
    generalize ((registry.perform s.manager.cache.publishPlan).run s.remote).1 = result
    cases result with
    | ok => exact Cache.get?_published h name
    | error failure => rfl
  | _ => rfl

/-- What is kept under a name is what was added last, with its schema if all definitions have been
published since. -/
theorem get?_run (settings : ManagerSettings) (remote : σ) {calls : List ManagerCall}
    (hbuilt : ∀ d, .add d ∈ calls → d.IsBuilt) (name : String) :
    (run registry ⟨.new settings, remote⟩ calls).2.manager.cache.get? name =
      (lastAdded? name calls).map fun d =>
        { d with
          published := if publishedSince name (log registry ⟨.new settings, remote⟩ calls) then
            some d.schema else none } := by
  induction calls using List.reverseRecOn with
  | nil => rfl
  | append_singleton calls c ih =>
    have hkeyed : (run registry ⟨.new settings, remote⟩ calls).2.manager.cache.IsKeyed :=
      isKeyed_run Cache.isKeyed_empty calls
    rw [run_concat, get?_call hkeyed, lastAdded?_concat, log_concat, publishedSince_concat,
      ih fun d hd => hbuilt d (List.mem_append_left _ hd)]
    by_cases hadds : c.adds name
    · -- the new definition has no schema yet
      rw [if_pos hadds, if_pos hadds, hadds, Bool.not_true, Bool.false_and]
      cases c with
      | add d =>
        have hnone := (hbuilt d (List.mem_append_right _ List.mem_cons_self)).published_eq
        simp [ManagerCall.added?, ← hnone]
      | _ => cases hadds
    · -- nothing is added under the name, and the schemas are attached just in case all is published
      rw [if_neg hadds, if_neg hadds, Bool.eq_false_of_not_eq_true hadds, Bool.not_false,
        Bool.true_and]
      split
      · next hpublished =>
        rw [hpublished, Bool.true_or, Option.map_map]
        rfl
      · next hpublished =>
        rw [Bool.eq_false_of_not_eq_true hpublished, Bool.false_or]

/-! ### What a call does at the registry -/

/-- A call on the manager carries out its operations, and tells of the failure that stops them. -/
theorem call_perform (registry : Registry (StateM σ)) (s : Session σ) (c : ManagerCall) :
    let performed := (registry.perform (c.plan s.manager)).run s.remote
    (s.call registry c).1.failure? = RegistryFailure.ofResult? performed.1 ∧
      (s.call registry c).2.remote = performed.2 := by
  cases c with
  | reset =>
    rw [call, Manager.run_reset]
    exact ⟨RegistryFailure.ofResult?_map _ _, rfl⟩
  | publish =>
    rw [call, Manager.run_publish]
    exact ⟨RegistryFailure.ofResult?_map _ _, rfl⟩
  | _ => exact ⟨rfl, rfl⟩

/-- The calls on the registry are decided by the operations of the call on the manager. -/
theorem callsMade_eq (registry : Registry (StateM σ)) (s : Session σ) (c : ManagerCall) :
    s.callsMade registry c =
      ((registry.traced.perform (c.plan s.manager)).run ([], s.remote)).2.1 := by
  obtain ⟨-, hremote⟩ := call_perform registry.traced ⟨s.manager, [], s.remote⟩ c
  rw [callsMade, hremote]

/-- The calls on the registry carry out the operations of the call on the manager. -/
theorem carriesOut_callsMade (registry : Registry (StateM σ)) (s : Session σ) (c : ManagerCall) :
    CarriesOut (c.plan s.manager) (s.callsMade registry c) (s.call registry c).1.failure? := by
  obtain ⟨made, hrun, hcarries⟩ :=
    registry.run_traced_perform (c.plan s.manager) [] s.remote
  obtain ⟨hfailure, -⟩ := call_perform registry s c
  rw [callsMade_eq, hrun, hfailure]
  exact hcarries

theorem cache_call_publish (registry : Registry (StateM σ)) (s : Session σ) :
    (s.call registry .publish).2.manager.cache =
      if (s.call registry .publish).1.isPublished then s.manager.cache.published
      else s.manager.cache := by
  rw [call, Manager.run_publish]
  generalize ((registry.perform s.manager.cache.publishPlan).run s.remote).1 = result
  cases result <;> rfl

/-- Publishing again makes the same calls, to the end or up to a failure, and changes nothing. -/
theorem publish_again (h : s.manager.cache.IsKeyed) {report : PublishReport}
    (hpublished : (s.call registry .publish).1 = .published (.ok report)) :
    let next := (s.call registry .publish).2
    (next.call registry .publish).2.manager.cache = next.manager.cache ∧
      CarriesOut ((s.callsMade registry .publish).map (·.operation))
        (next.callsMade registry .publish) (next.call registry .publish).1.failure? := by
  intro next
  have hcache : next.manager.cache = s.manager.cache.published := by
    rw [cache_call_publish, hpublished]
    rfl
  constructor
  · rw [cache_call_publish, hcache, Cache.published_published h, ite_self]
  · have hfirst := carriesOut_callsMade registry s .publish
    rw [hpublished] at hfirst
    -- all calls of the first time were accepted, so their operations are the whole plan
    have hoperations : (s.callsMade registry .publish).map (·.operation) =
        next.manager.cache.publishPlan := by
      rw [show s.callsMade registry .publish = _ from hfirst, List.map_map, hcache,
        (Cache.agrees_published h).publishPlan_eq (Cache.isKeyed_published h) h]
      exact List.map_id _
    rw [hoperations]
    exact carriesOut_callsMade registry next .publish

/-- Managers whose definitions agree up to schemas make the same calls on a registry. -/
theorem callsMade_congr {m m' : Manager} (h : m.cache.Agrees m'.cache) (hkeyed : m.cache.IsKeyed)
    (hkeyed' : m'.cache.IsKeyed) (remote : σ) (c : ManagerCall) :
    callsMade registry ⟨m, remote⟩ c = callsMade registry ⟨m', remote⟩ c := by
  have hplan : c.plan m = c.plan m' := by
    cases c with
    | reset => exact h.resetPlan_eq
    | publish => exact h.publishPlan_eq hkeyed hkeyed'
    | _ => rfl
  rw [callsMade_eq, callsMade_eq, hplan]

/-- **A manager keeps what was added last.**  Whatever calls are made on a new manager, and whenever
its registry fails, each definition is under its own name; it is the last one that was added under
that name, and it has its schema just in case all definitions have been published since.  Publishing
right after it has succeeded makes the same calls again, unless it fails before the end, and changes
no definition.  After other calls that leave the same last definitions, on whatever registry and in
whatever order, the same calls are made on a registry. -/
theorem kept_after_run (registry : Registry (StateM σ)) (settings : ManagerSettings) (remote : σ)
    {calls : List ManagerCall} (hbuilt : ∀ d, .add d ∈ calls → d.IsBuilt) :
    let s := (run registry ⟨.new settings, remote⟩ calls).2
    s.manager.cache.IsKeyed ∧
      (∀ name, s.manager.cache.get? name = (lastAdded? name calls).map fun d =>
        { d with
          published := if publishedSince name (log registry ⟨.new settings, remote⟩ calls) then
            some d.schema else none }) ∧
      (∀ report, (s.call registry .publish).1 = .published (.ok report) →
        let next := (s.call registry .publish).2
        (next.call registry .publish).2.manager.cache = next.manager.cache ∧
          CarriesOut ((s.callsMade registry .publish).map (·.operation))
            (next.callsMade registry .publish) (next.call registry .publish).1.failure?) ∧
      ∀ (τ : Type) (registry' : Registry (StateM τ)) settings' remote' (calls' : List ManagerCall),
        (∀ d, .add d ∈ calls' → d.IsBuilt) →
        (∀ name, lastAdded? name calls = lastAdded? name calls') →
        let s' := (run registry' ⟨.new settings', remote'⟩ calls').2
        ∀ (υ : Type) (shared : Registry (StateM υ)) state c,
          callsMade shared ⟨s.manager, state⟩ c = callsMade shared ⟨s'.manager, state⟩ c := by
  intro s
  have hkeyed : s.manager.cache.IsKeyed := isKeyed_run Cache.isKeyed_empty calls
  refine ⟨hkeyed, get?_run settings remote hbuilt, fun report => publish_again hkeyed, ?_⟩
  intro τ registry' settings' remote' calls' hbuilt' hlast s' υ shared state c
  have hkeyed' : s'.manager.cache.IsKeyed := isKeyed_run Cache.isKeyed_empty calls'
  refine callsMade_congr (Cache.agrees_of_get? fun name => ?_) hkeyed hkeyed' state c
  rw [get?_run settings remote hbuilt, get?_run settings' remote' hbuilt', Option.map_map,
    Option.map_map, hlast]
  rfl

/-- A definition is published, and then another one is added. -/
theorem kept_ping_and_room :
    let calls : List ManagerCall := [.add .ping, .publish, .add .room]
    let s := (run .recording ⟨.new {}, []⟩ calls).2
    (∀ d, .add d ∈ calls → d.IsBuilt) ∧
      s.manager.cache.get? "ping" = some Definition.ping.attachSchema ∧
      s.manager.cache.get? "room" = some .room ∧ s.manager.cache.get? "pong" = none := by
  intro calls s
  have hbuilt : ∀ d, .add d ∈ calls → d.IsBuilt := by
    intro d hd
    simp only [calls, List.mem_cons, ManagerCall.add.injEq, reduceCtorEq, List.not_mem_nil,
      or_false, false_or] at hd
    rcases hd with rfl | rfl
    · exact ⟨[.setCommand "ping" "Does nothing"], rfl⟩
    · exact ⟨[.setCommand "room" "Does nothing", .addGuild "2", .addGuild "1"], rfl⟩
  obtain ⟨-, hget, -⟩ := kept_after_run .recording {} [] hbuilt
  have hlog : log .recording ⟨.new {}, []⟩ calls =
      [(.add .ping, .added), (.publish, .published (.ok ⟨1, 0, 0⟩)), (.add .room, .added)] := by
    rw [log, run_cons, run_cons, call_publish Registry.accepts_recording]
    rfl
  refine ⟨hbuilt, ?_, ?_, ?_⟩
  · rw [hget, hlog]
    rfl
  · rw [hget, hlog]
    rfl
  · rw [hget]
    rfl

end Session

end SlashCommands
