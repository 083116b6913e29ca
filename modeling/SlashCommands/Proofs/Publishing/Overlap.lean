import Mathlib.Data.List.DropRight
import SlashCommands.Proofs.Publishing.Retention
import SlashCommands.Proofs.Serving.Record

/-!
# Adding while publishing

Publishing waits for the registry at every operation, and definitions may be added meanwhile.
`Pending` programs make the waiting visible: publishing on `Registry.pending` stops at each
operation, and with the answers of a registry it becomes what it is on that registry
(`Manager.play_publish`).  An `Overlap` steps through it, and `Manager.add` can come between any two
steps.  The main statement, `Overlap.keeps_last_iff`, says which definitions are there in the end.
Publishing puts back what it found at its start, so what is added under a new name while it waits is
lost (`Overlap.lost_room`).
-/

namespace SlashCommands

/-- A program that waits for the answers of a registry. -/
inductive Pending (α : Type) : Type
  | finished (result : α)
  | waiting (op : Operation) (next : Except String Unit → Pending α)

namespace Pending

variable {α β : Type}

/-- Goes on with what a program results in. -/
def bind (p : Pending α) (f : α → Pending β) : Pending β :=
  match p with
  | .finished result => f result
  | .waiting op next => .waiting op fun answer => (next answer).bind f

instance : Monad Pending where
  pure := .finished
  bind := bind

variable {μ : Type → Type} [Monad μ]

/-- Lets a registry answer. -/
def play (registry : Registry μ) : Pending α → μ α
  | .finished result => pure result
  | .waiting op next => do
    let answer ← registry op
    (next answer).play registry

theorem play_bind [LawfulMonad μ] (registry : Registry μ) (p : Pending α) (f : α → Pending β) :
    (p >>= f).play registry = p.play registry >>= fun result => (f result).play registry := by
  induction p with
  | finished result => exact (pure_bind (m := μ) result fun result => (f result).play registry).symm
  | waiting op next ih =>
    show (registry op >>= fun answer => (next answer >>= f).play registry) =
      (registry op >>= fun answer => (next answer).play registry) >>= _
    rw [bind_assoc]
    exact bind_congr ih

end Pending

/-- The registry that leaves its answers open. -/
def Registry.pending : Registry Pending := fun op => .waiting op .finished

section

variable {μ : Type → Type} [Monad μ] [LawfulMonad μ] (registry : Registry μ)

theorem Registry.play_pending (op : Operation) : (pending op).play registry = registry op :=
  bind_pure (registry op)

theorem Registry.play_perform (ops : List Operation) :
    (pending.perform ops).play registry = registry.perform ops := by
  induction ops with
  | nil => rfl
  | cons op rest ih =>
    rw [perform, perform, Pending.play_bind, play_pending]
    refine bind_congr fun answer => ?_
    cases answer with
    | ok => exact ih
    | error cause => rfl

/-- With the answers of a registry, publishing is publishing on that registry. -/
theorem Manager.play_publish (m : Manager) :
    (m.publish .pending).play registry = m.publish registry := by
  rw [publish, publish, Pending.play_bind, Registry.play_perform]
  refine bind_congr fun result => ?_
  cases result <;> rfl

end

namespace Manager

variable (m : Manager)

theorem addAll_append (ds ds' : List Definition) :
    m.addAll (ds ++ ds') = (m.addAll ds).addAll ds' := List.foldl_append

theorem addAll_concat (ds : List Definition) (d : Definition) :
    m.addAll (ds ++ [d]) = (m.addAll ds).add d := by
  rw [addAll_append]
  rfl

theorem settings_addAll (ds : List Definition) : (m.addAll ds).settings = m.settings := by
  induction ds generalizing m with
  | nil => rfl
  | cons d rest ih => exact ih (m.add d)

/-- What is written when publishing ends well. -/
theorem cache_of_publish {σ : Type} {m : Manager} {registry : Registry (StateM σ)} {remote now : σ}
    {report : PublishReport} {written : Manager}
    (h : (m.publish registry).run remote = ((.ok report, written), now)) :
    written.cache = m.cache.published := by
  rw [run_publish] at h
  generalize (registry.perform m.cache.publishPlan).run remote = performed at h
  obtain ⟨result, now⟩ := performed
  cases result <;> cases h
  rfl

/-- An invocation is ignored just in case nothing is kept under its name. -/
theorem run_dispatch_eq_ignored_iff (i : Interaction) (responder : Responder) :
    ((m.dispatch i).run responder).2 = .ignored ↔ m.cache.get? i.commandName = none := by
  have hgated := m.gated_run_dispatch i responder
  refine ⟨fun hignored => ?_, fun hnone => (hgated.ignored hnone).2⟩
  rw [hignored] at hgated
  cases hkept : m.cache.get? i.commandName with
  | none => rfl
  | some d =>
    rw [hkept] at hgated
    cases hdenial : d.denial? i with
    | some denial => cases (hgated.denied d denial rfl hdenial).1
    | none =>
      have houtcome := congrArg Prod.snd (hgated.allowed d rfl hdenial)
      rw [Definition.performance] at houtcome
      generalize ((d.action (d.invocation i)).run responder).2 = result at houtcome
      cases result <;> cases houtcome

end Manager

/-- What publishing results in: the report or a failure, and the manager with what is published. -/
abbrev Publication := Pending (Except RegistryFailure PublishReport × Manager)

/-- A manager, the state of its registry, and how far publishing has come if it has begun. -/
structure Overlap (σ : Type) where
  manager : Manager
  remote : σ
  publication : Option Publication

/-- What can happen next: a definition is added, publishing begins, or the registry answers. -/
inductive OverlapStep
  | add (definition : Definition)
  | start
  | answer

namespace OverlapStep

/-- The definition that a step adds. -/
def added? : OverlapStep → Option Definition
  | .add d => some d
  | _ => none

/-- The definitions that steps add. -/
def added (steps : List OverlapStep) : List Definition := steps.filterMap added?

theorem added_append (steps steps' : List OverlapStep) :
    added (steps ++ steps') = added steps ++ added steps' := List.filterMap_append

theorem added_map_add (ds : List Definition) : added (ds.map .add) = ds := by
  rw [added, List.filterMap_map]
  exact List.filterMap_some

/-- Holds of the steps that add something. -/
def isAdd (step : OverlapStep) : Bool := step.added?.isSome

/-- The steps from the first on that adds nothing. -/
def fromStart (steps : List OverlapStep) : List OverlapStep := steps.dropWhile isAdd

/-- The definitions that are added before publishing begins. -/
def addedBefore (steps : List OverlapStep) : List Definition := added (steps.takeWhile isAdd)

/-- The definitions that are added while publishing waits, if it has ended. -/
def addedDuring (steps : List OverlapStep) : List Definition :=
  added ((fromStart steps).rdropWhile isAdd)

/-- The definitions that are added after publishing has ended, if it has. -/
def addedAfter (steps : List OverlapStep) : List Definition :=
  added ((fromStart steps).rtakeWhile isAdd)

/-- The last definition of a name was added after publishing, or during it, or before. -/
theorem latest?_added (name : String) (steps : List OverlapStep) :
    Definition.latest? name (added steps) = (Definition.latest? name (addedAfter steps)).or
      ((Definition.latest? name (addedDuring steps)).or
        (Definition.latest? name (addedBefore steps))) := by
  have hsplit : added steps = addedBefore steps ++ (addedDuring steps ++ addedAfter steps) := by
    rw [addedBefore, addedDuring, addedAfter, ← added_append, List.rdropWhile_append_rtakeWhile,
      ← added_append, fromStart, List.takeWhile_append_dropWhile]
  rw [hsplit, Definition.latest?_append, Definition.latest?_append, Option.or_assoc]

theorem addedBefore_append (before : List Definition) (steps : List OverlapStep) :
    addedBefore (before.map .add ++ .start :: steps) = before := by
  rw [addedBefore]
  induction before with
  | nil => rfl
  | cons d rest ih => exact congrArg (d :: ·) ih

theorem fromStart_append (before : List Definition) (steps : List OverlapStep) :
    fromStart (before.map .add ++ .start :: steps) = .start :: steps := by
  induction before with
  | nil => rfl
  | cons d rest ih => exact ih

theorem rtakeWhile_append (steps : List OverlapStep) (after : List Definition) :
    (steps ++ after.map add).rtakeWhile isAdd = steps.rtakeWhile isAdd ++ after.map add := by
  induction after using List.reverseRecOn with
  | nil => rw [List.map_nil, List.append_nil, List.append_nil]
  | append_singleton after d ih =>
    rw [List.map_append, ← List.append_assoc, ← List.append_assoc, ← ih]
    exact List.rtakeWhile_concat_pos isAdd _ (.add d) rfl

theorem addedAfter_append (before : List Definition) {during : List OverlapStep}
    (hlast : (OverlapStep.start :: during).rtakeWhile isAdd = []) (after : List Definition) :
    addedAfter (before.map .add ++ .start :: (during ++ after.map .add)) = after := by
  rw [addedAfter, fromStart_append, ← List.cons_append, rtakeWhile_append, hlast, List.nil_append,
    added_map_add]

end OverlapStep

namespace Overlap

open OverlapStep (added addedBefore addedDuring addedAfter isAdd)

variable {σ : Type} (registry : Registry (StateM σ))

/-- Publishing goes on until it waits or ends.  If it ends well, its definitions take the place of
all that are kept. -/
def proceed (m : Manager) (remote : σ) : Publication → Overlap σ
  | .finished (.ok report, written) =>
    ⟨{ m with cache := written.cache }, remote, some (.finished (.ok report, written))⟩
  | publication => ⟨m, remote, some publication⟩

/-- Takes a step, if it can be taken: publishing begins once, and the registry answers when it is
waited for. -/
def step (s : Overlap σ) : OverlapStep → Option (Overlap σ)
  | .add d => some { s with manager := s.manager.add d }
  | .start =>
    match s.publication with
    | none => some (proceed s.manager s.remote (s.manager.publish .pending))
    | some _ => none
  | .answer =>
    match s.publication with
    | some (.waiting op next) =>
      let (answer, remote) := (registry op).run s.remote
      some (proceed s.manager remote (next answer))
    | _ => none

/-- Takes steps one after the other. -/
def run (s : Overlap σ) (steps : List OverlapStep) : Option (Overlap σ) :=
  steps.foldlM (step registry) s

theorem run_concat (s : Overlap σ) (steps : List OverlapStep) (next : OverlapStep) :
    s.run registry (steps ++ [next]) =
      (s.run registry steps).bind fun here => here.step registry next := by
  rw [run, List.foldlM_append]
  show (List.foldlM _ _ _ >>= fun here => step registry here next >>= pure) = _
  simp only [bind_pure]
  rfl

/-- What steps lead to.  Until publishing has ended well, the definitions that are added are kept,
and what becomes of it is what would have become of it on what was kept when it began.  When it ends
well, what it has written takes the place of what is kept, and definitions that are added from then
on are kept again. -/
inductive Reaches (m : Manager) (remote : σ) : List OverlapStep → Overlap σ → Prop
  | idle (before : List Definition) :
    Reaches m remote (before.map .add) ⟨m.addAll before, remote, none⟩
  | unwritten (before : List Definition) (during : List OverlapStep) (now : σ)
    {publication : Publication}
    (hplay : (publication.play registry).run now =
      ((m.addAll before).publish registry).run remote)
    (hopen : ∀ report written, publication ≠ .finished (.ok report, written)) :
    Reaches m remote (before.map .add ++ .start :: during)
      ⟨m.addAll (before ++ added during), now, some publication⟩
  | written (before : List Definition) (during : List OverlapStep) (after : List Definition)
    (now : σ) {report : PublishReport} {written : Manager}
    (hlast : (OverlapStep.start :: during).rtakeWhile isAdd = [])
    (hpublish : ((m.addAll before).publish registry).run remote = ((.ok report, written), now)) :
    Reaches m remote (before.map .add ++ .start :: (during ++ after.map .add))
      ⟨{ m with cache := written.cache }.addAll after, now,
        some (.finished (.ok report, written))⟩

variable {registry} {m : Manager} {remote : σ} {steps : List OverlapStep} {s next : Overlap σ}

/-- Publishing goes on after it has begun or after an answer. -/
theorem reaches_proceed (before : List Definition) (during : List OverlapStep) {now : σ}
    {publication : Publication} (hlast : (OverlapStep.start :: during).rtakeWhile isAdd = [])
    (hplay : (publication.play registry).run now =
      ((m.addAll before).publish registry).run remote) :
    Reaches registry m remote (before.map .add ++ .start :: during)
      (proceed (m.addAll (before ++ added during)) now publication) := by
  cases publication with
  | waiting op next => exact .unwritten before during now hplay nofun
  | finished result =>
    obtain ⟨result, written⟩ := result
    cases result with
    | error failure => exact .unwritten before during now hplay nofun
    | ok report =>
      -- what has been added since the start is not in what is written
      have hreaches := Reaches.written before during [] now hlast hplay.symm
      rw [List.map_nil, List.append_nil] at hreaches
      show Reaches registry m remote _
        ⟨⟨(m.addAll (before ++ added during)).settings, written.cache⟩, now, _⟩
      rw [Manager.settings_addAll]
      exact hreaches

/-- What one step leads to. -/
theorem Reaches.step (h : Reaches registry m remote steps s) {c : OverlapStep}
    (hstep : s.step registry c = some next) : Reaches registry m remote (steps ++ [c]) next := by
  cases c with
  | add d =>
    obtain rfl := Option.some.inj hstep
    cases h with
    | idle before =>
      have hreaches : Reaches registry m remote _ _ := .idle (before ++ [d])
      rwa [List.map_append, Manager.addAll_concat] at hreaches
    | unwritten before during now hplay hopen =>
      have hreaches := Reaches.unwritten before (during ++ [.add d]) now hplay hopen
      rwa [OverlapStep.added_append, ← List.append_assoc, ← List.cons_append, ← List.append_assoc,
        show added [.add d] = [d] from rfl, Manager.addAll_concat] at hreaches
    | written before during after now hlast hpublish =>
      have hreaches := Reaches.written before during (after ++ [d]) now hlast hpublish
      rwa [List.map_append, Manager.addAll_concat, ← List.append_assoc, ← List.cons_append,
        ← List.append_assoc] at hreaches
  | start =>
    cases h with
    | idle before =>
      obtain rfl := Option.some.inj hstep
      have hplay := congrArg (·.run remote) ((m.addAll before).play_publish registry)
      have hreaches := reaches_proceed before [] rfl hplay
      rwa [show added [] = [] from rfl, List.append_nil] at hreaches
    | _ => cases hstep
  | answer =>
    cases h with
    | @unwritten before during now publication hplay =>
      cases publication with
      | finished result => cases hstep
      | waiting op response =>
        obtain rfl := Option.some.inj hstep
        -- the answer has brought the registry to a new state, from which the rest is played
        have hanswered :
            ((response ((registry op).run now).1).play registry).run ((registry op).run now).2 =
              ((m.addAll before).publish registry).run remote := hplay
        rw [List.append_assoc, List.cons_append]
        have hreaches := reaches_proceed before (during ++ [.answer])
          (List.rtakeWhile_concat_neg _ (.start :: during) .answer (by decide)) hanswered
        rwa [OverlapStep.added_append, show added [.answer] = [] from rfl,
          List.append_nil] at hreaches
    | _ => cases hstep

/-- What steps one after the other lead to. -/
theorem reaches_run (m : Manager) (remote : σ) (steps : List OverlapStep) :
    ∀ {final}, run registry ⟨m, remote, none⟩ steps = some final →
      Reaches registry m remote steps final := by
  -- by induction from the end, since it matters whether publishing has ended before the last step
  induction steps using List.reverseRecOn with
  | nil =>
    intro final h
    obtain rfl := Option.some.inj h
    exact .idle []
  | append_singleton steps c ih =>
    intro final h
    rw [run_concat] at h
    obtain ⟨here, hhere, hstep⟩ := Option.bind_eq_some_iff.mp h
    exact (ih hhere).step hstep

/-! ### Nothing in between -/

/-- With nothing in between, publishing goes on to its end. -/
theorem run_answers (registry : Registry (StateM σ)) (m : Manager) (remote : σ)
    (p : Publication) :
    ∃ count, run registry (proceed m remote p) (.replicate count .answer) =
      some (proceed m ((p.play registry).run remote).2
        (.finished ((p.play registry).run remote).1)) := by
  induction p generalizing remote with
  | finished result => exact ⟨0, rfl⟩
  | waiting op next ih =>
    obtain ⟨count, hrun⟩ := ih ((registry op).run remote).1 ((registry op).run remote).2
    exact ⟨count + 1, hrun⟩

/-- Stepping through publishing with nothing in between is publishing. -/
theorem run_start_answers (registry : Registry (StateM σ)) (m : Manager) (remote : σ) :
    let published := (m.publish registry).run remote
    ∃ count, run registry ⟨m, remote, none⟩ (.start :: .replicate count .answer) =
      some ⟨published.1.2, published.2, some (.finished published.1)⟩ := by
  intro published
  obtain ⟨count, hrun⟩ := run_answers registry m remote (m.publish .pending)
  refine ⟨count, Eq.trans hrun (congrArg some ?_)⟩
  rw [Manager.play_publish]
  show proceed m published.2 (.finished published.1) = _
  rw [show published = _ from m.run_publish registry remote]
  generalize (registry.perform m.cache.publishPlan).run remote = performed
  obtain ⟨result, now⟩ := performed
  cases result <;> rfl

/-! ### What is there in the end -/

/-- If publishing ends well, what it found at its start is there with its schemas, and what is added
after its end. -/
theorem Reaches.kept (h : Reaches registry m remote steps s) (hkeyed : m.cache.IsKeyed)
    {report : PublishReport} {written : Manager}
    (hdone : s.publication = some (.finished (.ok report, written))) :
    let found := m.addAll (addedBefore steps)
    (found.publish registry).run remote = ((.ok report, written), s.remote) ∧
      ∀ name, s.manager.cache.get? name =
        (Definition.latest? name (addedAfter steps)).or
          ((found.cache.get? name).map Definition.attachSchema) := by
  cases h with
  | idle => cases hdone
  | unwritten before during now hplay hopen =>
    exact (hopen report written (Option.some.inj hdone)).elim
  | written before during after now hlast hpublish =>
    cases hdone
    rw [OverlapStep.addedBefore_append, OverlapStep.addedAfter_append before hlast]
    refine ⟨hpublish, fun name => ?_⟩
    rw [Manager.get?_addAll, Manager.cache_of_publish hpublish,
      Cache.get?_published (Cache.isKeyed_addAll hkeyed before)]

/-- **What a publication keeps.**  Definitions are added while a manager publishes, and publishing
ends well, as it would have ended without them.  Then under each name the manager has what was added
last after the end, and if nothing was, what publishing found at its start, with its schema.  So the
last definition of a name is there, up to its schema, just in case it was not added while publishing
waited, unless it only repeats what publishing found.  An invocation is ignored just in case
publishing found nothing under its name and nothing was added after it. -/
theorem keeps_last_iff (h : m.cache.IsKeyed) {final : Overlap σ} {report : PublishReport}
    {written : Manager} (hrun : run registry ⟨m, remote, none⟩ steps = some final)
    (hdone : final.publication = some (.finished (.ok report, written))) :
    let found := m.addAll (addedBefore steps)
    (found.publish registry).run remote = ((.ok report, written), final.remote) ∧
      ∀ name,
        let found? := found.cache.get? name
        let after? := Definition.latest? name (addedAfter steps)
        final.manager.cache.get? name = after?.or (found?.map Definition.attachSchema) ∧
          (∀ d, Definition.latest? name (added steps) = some d →
            ((final.manager.cache.get? name).map Definition.unpublished = some d.unpublished ↔
              Definition.latest? name (addedDuring steps) = none ∨ after? = some d ∨
                found?.map Definition.unpublished = some d.unpublished)) ∧
          ∀ i responder, i.commandName = name →
            (((final.manager.dispatch i).run responder).2 = .ignored ↔
              after? = none ∧ found? = none) := by
  intro found
  obtain ⟨hpublish, hkept⟩ := (reaches_run m remote steps hrun).kept h hdone
  refine ⟨hpublish, fun name => ?_⟩
  intro found? after?
  have hname : final.manager.cache.get? name = after?.or (found?.map Definition.attachSchema) :=
    hkept name
  refine ⟨hname, ?_, ?_⟩
  · intro d hd
    rw [OverlapStep.latest?_added, show Definition.latest? name _ = after? from rfl] at hd
    rw [hname]
    cases hafter : after? with
    | some d' =>
      rw [hafter, Option.some_or] at hd
      exact ⟨fun _ => .inr (.inl hd), fun _ => congrArg (Option.map Definition.unpublished) hd⟩
    | none =>
      rw [hafter, Option.none_or] at hd
      rw [Option.none_or, Option.map_map]
      refine ⟨fun hsame => .inr (.inr hsame), ?_⟩
      rintro (hduring | hnone | hsame)
      · -- what was added before the start has been found
        rw [hduring, Option.none_or] at hd
        rw [show found? = _ from m.get?_addAll _ name, hd]
        rfl
      · cases hnone
      · exact hsame
  · rintro i responder rfl
    rw [Manager.run_dispatch_eq_ignored_iff, hname, Option.or_eq_none_iff, Option.map_eq_none_iff]

/-- Publishing one command waits for one answer. -/
theorem run_start_ping (rest : List OverlapStep) :
    let m := (Manager.new {}).add .ping
    run .recording ⟨.new {}, [], none⟩ (.add .ping :: .start :: rest) =
      run .recording ⟨m, [], some (.waiting (.createGlobal Definition.ping.schema) fun
        | .ok () => .finished (.ok ⟨1, 0, 0⟩, { m with cache := m.cache.published })
        | .error cause => .finished (.error ⟨.createGlobal Definition.ping.schema, cause⟩, m))⟩
        rest := by
  intro m
  have hkeyed : m.cache.IsKeyed := Cache.isKeyed_empty.insert .ping
  have hpublish : m.publish .pending = .waiting (.createGlobal Definition.ping.schema) fun
      | .ok () => .finished (.ok ⟨1, 0, 0⟩, { m with cache := m.cache.published })
      | .error cause => .finished (.error ⟨.createGlobal Definition.ping.schema, cause⟩, m) := by
    rw [Manager.publish, Cache.publishPlan, Cache.sorted_eq_values hkeyed]
    show Pending.waiting _ _ = _
    congr 1
    funext answer
    cases answer <;> rfl
  show run .recording (proceed m [] (m.publish .pending)) rest = _
  rw [hpublish]
  rfl

/-- A command is published, and another one is added after the end: both are there. -/
theorem keeps_last_room :
    let steps : List OverlapStep := [.add .ping, .start, .answer, .add .room]
    ∃ final report written, run .recording ⟨.new {}, [], none⟩ steps = some final ∧
      final.publication = some (.finished (.ok report, written)) ∧
      final.manager.cache.get? "ping" = some Definition.ping.attachSchema ∧
      final.manager.cache.get? "room" = some .room := by
  intro steps
  let m := (Manager.new {}).add .ping
  have hrun : run .recording ⟨.new {}, [], none⟩ steps =
      some ⟨{ m with cache := m.cache.published }.add .room,
        [.createGlobal Definition.ping.schema],
        some (.finished (.ok ⟨1, 0, 0⟩, { m with cache := m.cache.published }))⟩ := by
    rw [run_start_ping]
    rfl
  obtain ⟨-, hkept⟩ := keeps_last_iff Cache.isKeyed_empty hrun rfl
  exact ⟨_, _, _, hrun, rfl, (hkept "ping").1, (hkept "room").1⟩

/-- Another command is added while publishing waits for the registry: publishing ends well, and the
command is not there. -/
theorem lost_room :
    let steps : List OverlapStep := [.add .ping, .start, .add .room, .answer]
    ∃ final report written, run .recording ⟨.new {}, [], none⟩ steps = some final ∧
      final.publication = some (.finished (.ok report, written)) ∧
      final.manager.cache.get? "room" = none ∧
      ∀ i responder, i.commandName = "room" →
        ((final.manager.dispatch i).run responder).2 = .ignored := by
  intro steps
  let m := (Manager.new {}).add .ping
  have hrun : run .recording ⟨.new {}, [], none⟩ steps =
      some ⟨{ m with cache := m.cache.published }, [.createGlobal Definition.ping.schema],
        some (.finished (.ok ⟨1, 0, 0⟩, { m with cache := m.cache.published }))⟩ := by
    rw [run_start_ping]
    rfl
  have hlost : m.cache.published.get? "room" = none := by
    have hkeyed : m.cache.IsKeyed := Cache.isKeyed_empty.insert .ping
    rw [Cache.get?_published hkeyed]
    rfl
  refine ⟨_, _, _, hrun, rfl, hlost, fun i responder hi => ?_⟩
  rw [Manager.run_dispatch_eq_ignored_iff, hi]
  exact hlost

end Overlap

end SlashCommands
