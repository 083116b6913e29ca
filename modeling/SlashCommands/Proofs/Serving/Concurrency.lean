import SlashCommands.Proofs.Publishing.Overlap
import SlashCommands.Proofs.Serving.Wiring

/-!
# Serving while publishing

Many interactions may be in flight at once, and meanwhile the definitions are published or the
scopes are emptied.  A `Visit` is one interaction in flight: its command is looked up, then it is
decided what to do, and then the conversation takes one step after the other (`Visit.step`).  A job
at the registry waits for one answer after the other, and publishing has its definitions put in
place at the end (`Manager.play_begin` says that this is publishing).  A `Traffic` takes these steps
in any order.  What a step changes for the other visits is nothing but schemas, which serving does
not read.  So each visit is where it would be alone after as many steps of its own (`Visit.At`), and
the main statement, `Traffic.served_as_alone`, says that it ends as it would end alone.
-/

namespace SlashCommands

namespace Pending

variable {α β : Type}

/-- Holds of programs whose results have a property, whatever the answers are. -/
def Yields (P : α → Prop) : Pending α → Prop
  | .finished result => P result
  | .waiting _ next => ∀ answer, (next answer).Yields P

theorem yields_bind {Q : β → Prop} (p : Pending α) {f : α → Pending β}
    (h : ∀ result, (f result).Yields Q) : (p >>= f).Yields Q := by
  induction p with
  | finished result => exact h result
  | waiting op next ih => exact ih

theorem Yields.bind {P : α → Prop} {Q : β → Prop} {p : Pending α} {f : α → Pending β}
    (h : p.Yields P) (hnext : ∀ result, P result → (f result).Yields Q) : (p >>= f).Yields Q := by
  induction p with
  | finished result => exact hnext result h
  | waiting op next ih => exact fun answer => ih answer (h answer)

end Pending

/-! ### Visits -/

/-- An interaction in flight, and who answers the messages that are sent for it. -/
structure Visit where
  kind : EventKind
  interaction : Interaction
  responder : Responder

/-- How serving a visit ended. -/
inductive VisitOutcome
  | dispatched (outcome : DispatchOutcome)
  | completed (outcome : CompletionOutcome)

/-- How far serving a visit has come: not begun, or with what has been found under the name of its
command, or with a record and the rest of a conversation. -/
inductive Stage
  | arrived
  | found (kept : Option Definition)
  | talking (record : List Event) (rest : Conversation VisitOutcome)

namespace Stage

/-- What has happened so far. -/
def record : Stage → List Event
  | .talking record _ => record
  | _ => []

/-- The record and the outcome, once serving has ended. -/
def ended? : Stage → Option (List Event × VisitOutcome)
  | .talking record (.finish outcome) => some (record, outcome)
  | _ => none

end Stage

namespace Visit

/-- What serving a visit leaves when nothing else happens. -/
def alone (v : Visit) (m : Manager) : List Event × VisitOutcome :=
  match v.kind with
  | .command =>
    let (record, outcome) := (m.dispatch v.interaction).run v.responder
    (record, .dispatched outcome)
  | .autocomplete =>
    let (record, outcome) := (m.autocomplete v.interaction).run v.responder
    (record, .completed outcome)

/-- What is to be done once a visit has found something or nothing. -/
def answer (v : Visit) (settings : ManagerSettings) (kept : Option Definition) :
    Conversation VisitOutcome :=
  match v.kind with
  | .command =>
    let dispatched : Conversation DispatchOutcome := match kept with
      | none => .finish .ignored
      | some d => Manager.serve settings d v.interaction
    dispatched.bind fun outcome => .finish (.dispatched outcome)
  | .autocomplete =>
    let completed : Conversation CompletionOutcome := match kept with
      | none => .finish .ignored
      | some d => Manager.suggest settings d v.interaction
    completed.bind fun outcome => .finish (.completed outcome)

/-- The next step of a visit as a manager stands, if it has not ended. -/
def step (v : Visit) (m : Manager) : Stage → Option Stage
  | .arrived => some (.found (m.cache.get? v.interaction.commandName))
  | .found kept => some (.talking [] (v.answer m.settings kept))
  | .talking _ (.finish _) => none
  | .talking record (.mark mark rest) => some (.talking (record ++ [.marked mark]) rest)
  | .talking record (.send message next) =>
    let answer := v.responder (record.countP Event.isSent) message
    let event := .sent message (match answer with | .ok _ => false | .error _ => true)
    some (.talking (record ++ [event]) (next answer))

variable {v : Visit} {m : Manager}

/-- Looking up a command and then doing what is to be done is serving the visit. -/
theorem run_answer (v : Visit) (m : Manager) :
    (v.answer m.settings (m.cache.get? v.interaction.commandName)).run v.responder = v.alone m := by
  obtain ⟨kind, i, responder⟩ := v
  cases kind with
  | command => exact (m.dispatch i).run_bind_finish responder VisitOutcome.dispatched
  | autocomplete => exact (m.autocomplete i).run_bind_finish responder VisitOutcome.completed

/-- Serving does not read schemas. -/
theorem answer_unpublished (v : Visit) (settings : ManagerSettings) (kept : Option Definition) :
    v.answer settings (kept.map Definition.unpublished) = v.answer settings kept := by
  obtain ⟨kind, i, responder⟩ := v
  cases kind <;> cases kept <;> rfl

/-- What a record comes to when the rest of the conversation is held. -/
def complete (v : Visit) (record : List Event) (rest : Conversation VisitOutcome) :
    List Event × VisitOutcome :=
  let (events, outcome) := rest.runFrom v.responder (record.countP Event.isSent)
  (record ++ events, outcome)

/-- A step moves one event from the rest of a conversation to the record. -/
theorem step_talking {record : List Event} {rest : Conversation VisitOutcome} {next : Stage}
    (h : v.step m (.talking record rest) = some next) :
    ∃ event rest', next = .talking (record ++ [event]) rest' ∧
      v.complete (record ++ [event]) rest' = v.complete record rest := by
  cases rest with
  | finish outcome => cases h
  | mark mark rest =>
    obtain rfl := Option.some.inj h
    refine ⟨_, rest, rfl, ?_⟩
    rw [complete, complete, List.countP_append]
    exact Prod.ext (List.append_assoc ..) rfl
  | send message next =>
    obtain rfl := Option.some.inj h
    refine ⟨_, _, rfl, ?_⟩
    rw [complete, complete, List.countP_append]
    exact Prod.ext (List.append_assoc ..) rfl

/-- Where a visit is after so many steps of its own, whatever else has happened: it has found what
it would have found, up to schemas, and what it comes to is what it would have come to alone. -/
inductive At (m : Manager) (v : Visit) : Nat → Stage → Prop
  | arrived : At m v 0 .arrived
  | found {kept : Option Definition}
    (hkept : kept.map Definition.unpublished =
      (m.cache.get? v.interaction.commandName).map Definition.unpublished) :
    At m v 1 (.found kept)
  | talking {count : Nat} {record : List Event} {rest : Conversation VisitOutcome}
    (hcount : count = record.length + 2) (hcomplete : v.complete record rest = v.alone m) :
    At m v count (.talking record rest)

variable {now : Manager} {count : Nat} {stage next : Stage}

/-- A step leads to the place after one step more, if nothing but schemas has changed. -/
theorem At.step (h : At m v count stage) (hsettings : now.settings = m.settings)
    (hagrees : now.cache.Agrees m.cache) (hstep : v.step now stage = some next) :
    At m v (count + 1) next := by
  cases h with
  | arrived =>
    obtain rfl := Option.some.inj hstep
    exact .found (hagrees.get?_eq _)
  | found hkept =>
    obtain rfl := Option.some.inj hstep
    -- a schema that has been attached meanwhile makes no difference to what is to be done
    refine .talking rfl ?_
    rw [← v.run_answer m, ← v.answer_unpublished _ (m.cache.get? _), ← hkept,
      v.answer_unpublished, hsettings]
    rfl
  | talking hcount hcomplete =>
    obtain ⟨event, rest, rfl, hsame⟩ := step_talking hstep
    refine .talking ?_ (hsame.trans hcomplete)
    rw [hcount, List.length_append, List.length_singleton]

/-- A visit has ended just in case it has taken a step for each event that it leaves, and two
before. -/
theorem At.ended_iff (h : At m v count stage) :
    stage.ended?.isSome ↔ count = (v.alone m).1.length + 2 := by
  cases h with
  | arrived => simp [Stage.ended?]
  | found hkept => simp [Stage.ended?]
  | @talking _ record rest hcount hcomplete =>
    rw [← hcomplete, complete, hcount, List.length_append]
    cases rest <;> simp [Stage.ended?, Conversation.runFrom]

/-- A visit takes no more steps than alone. -/
theorem At.count_le (h : At m v count stage) : count ≤ (v.alone m).1.length + 2 := by
  cases h with
  | arrived => exact Nat.zero_le _
  | found hkept => omega
  | talking hcount hcomplete =>
    rw [hcount, ← hcomplete, complete, List.length_append]
    omega

/-- A visit that has not ended can take a step. -/
theorem exists_step (v : Visit) (m : Manager) (h : stage.ended? = none) :
    ∃ next, v.step m stage = some next := by
  cases stage with
  | talking record rest =>
    cases rest with
    | finish outcome => cases h
    | _ => exact ⟨_, rfl⟩
  | _ => exact ⟨_, rfl⟩

/-- The record of a visit is at any time the beginning of what it leaves alone. -/
theorem At.record_begins (h : At m v count stage) : stage.record <+: (v.alone m).1 := by
  cases h with
  | talking hcount hcomplete =>
    rw [← hcomplete]
    exact List.prefix_append _ _
  | _ => exact List.nil_prefix

/-- A visit that has ended has left what it leaves alone. -/
theorem At.eq_alone (h : At m v count stage) {ended : List Event × VisitOutcome}
    (hended : stage.ended? = some ended) : ended = v.alone m := by
  cases h with
  | @talking _ record rest hcount hcomplete =>
    cases rest with
    | finish outcome =>
      obtain rfl := Option.some.inj hended
      rw [← hcomplete]
      exact Prod.ext (List.append_nil record).symm rfl
    | _ => cases hended
  | _ => cases hended

end Visit

/-! ### Jobs -/

/-- Holds of caches in which each definition is under its own name, and which differ from another
one in nothing but schemas. -/
structure Cache.Repeats (c c' : Cache) : Prop where
  isKeyed : c.IsKeyed
  agrees : c.Agrees c'

theorem Cache.Repeats.published {c c' : Cache} (h : c.Repeats c') : c.published.Repeats c' :=
  ⟨isKeyed_published h.isKeyed, Eq.trans (agrees_published h.isKeyed) h.agrees⟩

/-- What can be done at the registry while interactions are served. -/
inductive Job
  | publish
  | reset

/-- A job on its way: it waits for the registry, and in the end there may be definitions to put in
place of those that are kept. -/
abbrev Errand := Pending (Option Cache)

namespace Manager

/-- Begins a job.  Only publishing that has not failed has definitions to put in place. -/
def begin (m : Manager) : Job → Errand
  | .publish => do
    let (result, written) ← m.publish .pending
    return result.toOption.map fun _ => written.cache
  | .reset => do
    let _ ← m.reset .pending
    return none

/-- With the answers of a registry, a job is what the manager does on that registry. -/
theorem play_begin {μ : Type → Type} [Monad μ] [LawfulMonad μ] (registry : Registry μ)
    (m : Manager) (job : Job) :
    (m.begin job).play registry = match job with
      | .publish => do
        let (result, written) ← m.publish registry
        return result.toOption.map fun _ => written.cache
      | .reset => do
        let _ ← m.reset registry
        return none := by
  cases job with
  | publish =>
    rw [begin, Pending.play_bind, play_publish]
    rfl
  | reset =>
    have hreset : (m.reset .pending).play registry = m.reset registry := by
      rw [reset, reset, Pending.play_bind, Registry.play_perform]
      refine bind_congr fun result => ?_
      cases result <;> rfl
    rw [begin, Pending.play_bind, hreset]
    rfl

/-- Whether publishing fails or not, what it results in repeats what it began with. -/
theorem yields_publish {m : Manager} {c : Cache} (h : m.cache.Repeats c) :
    (m.publish .pending).Yields fun (_, written) => written.cache.Repeats c := by
  refine Pending.yields_bind _ fun result => ?_
  cases result with
  | ok => exact h.published
  | error failure => exact h

/-- What a job has to put in place repeats what it began with. -/
theorem yields_begin {m : Manager} {c : Cache} (h : m.cache.Repeats c) (job : Job) :
    (m.begin job).Yields fun written => ∀ c', written = some c' → c'.Repeats c := by
  cases job with
  | publish =>
    refine (yields_publish h).bind fun (result, written) hwritten => ?_
    rintro _ hsome
    obtain ⟨_, -, rfl⟩ := Option.map_eq_some_iff.mp hsome
    exact hwritten
  | reset => exact Pending.yields_bind _ fun _ => nofun

end Manager

/-! ### Traffic -/

/-- A manager, the state of its registry, how far the visits have come, and the jobs that have been
begun. -/
structure Traffic (ι κ σ : Type) where
  manager : Manager
  remote : σ
  stages : ι → Stage
  errands : κ → Option Errand

/-- Whose turn it is. -/
inductive Turn (ι κ : Type)
  | visit (who : ι)
  | job (which : κ)
  deriving DecidableEq

namespace Traffic

variable {ι κ σ : Type} [DecidableEq ι] [DecidableEq κ]

/-- Nothing has begun. -/
def start (m : Manager) (remote : σ) : Traffic ι κ σ :=
  ⟨m, remote, fun _ => .arrived, fun _ => none⟩

variable (visits : ι → Visit) (jobs : κ → Job) (registry : Registry (StateM σ))

/-- Takes a step, if it can be taken.  A visit takes its next step.  A job begins, or the registry
answers it, or what it has to put in place takes the place of what is kept. -/
def step (t : Traffic ι κ σ) : Turn ι κ → Option (Traffic ι κ σ)
  | .visit who => do
    let stage ← (visits who).step t.manager (t.stages who)
    return { t with stages := Function.update t.stages who stage }
  | .job which =>
    match t.errands which with
    | none =>
      let errand := t.manager.begin (jobs which)
      some { t with errands := Function.update t.errands which (some errand) }
    | some (.waiting op next) =>
      let (answer, remote) := (registry op).run t.remote
      some { t with
        remote := remote
        errands := Function.update t.errands which (some (next answer)) }
    | some (.finished (some written)) =>
      some { t with
        manager := { t.manager with cache := written }
        errands := Function.update t.errands which (some (.finished none)) }
    | some (.finished none) => none

/-- Takes steps one after the other. -/
def run (t : Traffic ι κ σ) (turns : List (Turn ι κ)) : Option (Traffic ι κ σ) :=
  turns.foldlM (step visits jobs registry) t

theorem run_append (t : Traffic ι κ σ) (turns turns' : List (Turn ι κ)) :
    t.run visits jobs registry (turns ++ turns') =
      (t.run visits jobs registry turns).bind fun here => here.run visits jobs registry turns' :=
  List.foldlM_append

theorem run_singleton (t : Traffic ι κ σ) (turn : Turn ι κ) :
    t.run visits jobs registry [turn] = t.step visits jobs registry turn :=
  Option.bind_fun_some _

/-- Holds of the traffic after some turns if what is kept differs from what was kept in nothing but
schemas, which holds of what jobs have to put in place as well, and if each visit is where it would
be alone. -/
structure Undisturbed (m : Manager) (turns : List (Turn ι κ)) (t : Traffic ι κ σ) : Prop where
  settings_eq : t.manager.settings = m.settings
  repeats : t.manager.cache.Repeats m.cache
  errands : ∀ which errand, t.errands which = some errand →
    errand.Yields fun written => ∀ c, written = some c → c.Repeats m.cache
  visits : ∀ who, (visits who).At m (turns.count (.visit who)) (t.stages who)

variable {visits jobs registry} {m : Manager} {turns : List (Turn ι κ)} {t next : Traffic ι κ σ}

theorem undisturbed_start (h : m.cache.IsKeyed) (remote : σ) :
    Undisturbed visits m ([] : List (Turn ι κ)) (start m remote) where
  settings_eq := rfl
  repeats := ⟨h, rfl⟩
  errands := nofun
  visits := fun _ => .arrived

/-- The step of one visit does not touch the others. -/
theorem Undisturbed.visit (h : Undisturbed visits m turns t) {who : ι} {stage : Stage}
    (hstep : (visits who).step t.manager (t.stages who) = some stage) :
    Undisturbed visits m (turns ++ [.visit who])
      { t with stages := Function.update t.stages who stage } where
  settings_eq := h.settings_eq
  repeats := h.repeats
  errands := h.errands
  visits := by
    intro other
    rw [List.count_append, List.count_singleton]
    dsimp only
    by_cases heq : other = who
    · subst heq
      rw [Function.update_self, beq_self_eq_true, if_pos rfl]
      exact (h.visits other).step h.settings_eq h.repeats.agrees hstep
    · have hne : (Turn.visit who == (.visit other : Turn ι κ)) = false :=
        beq_false_of_ne fun hturn => heq (Turn.visit.inj hturn).symm
      rw [Function.update_of_ne heq, hne]
      exact h.visits other

/-- The step of a job does not touch the visits. -/
theorem Undisturbed.job (h : Undisturbed visits m turns t) (which : κ) {manager : Manager}
    {remote : σ} {errand : Errand} (hsettings : manager.settings = m.settings)
    (hrepeats : manager.cache.Repeats m.cache)
    (herrand : errand.Yields fun written => ∀ c, written = some c → c.Repeats m.cache) :
    Undisturbed visits m (turns ++ [.job which])
      ⟨manager, remote, t.stages, Function.update t.errands which (some errand)⟩ where
  settings_eq := hsettings
  repeats := hrepeats
  errands := by
    intro other errand' herrand'
    dsimp only at herrand'
    by_cases heq : other = which
    · subst heq
      rw [Function.update_self] at herrand'
      obtain rfl := Option.some.inj herrand'
      exact herrand
    · rw [Function.update_of_ne heq] at herrand'
      exact h.errands other errand' herrand'
  visits := by
    intro who
    rw [List.count_append, List.count_singleton]
    exact h.visits who

/-- Every step leaves the visits undisturbed. -/
theorem Undisturbed.step (h : Undisturbed visits m turns t) {turn : Turn ι κ}
    (hstep : t.step visits jobs registry turn = some next) :
    Undisturbed visits m (turns ++ [turn]) next := by
  cases turn with
  | visit who =>
    obtain ⟨stage, hstage, heq⟩ := Option.bind_eq_some_iff.mp hstep
    obtain rfl := Option.some.inj heq
    exact h.visit hstage
  | job which =>
    rw [Traffic.step] at hstep
    split at hstep
    · obtain rfl := Option.some.inj hstep
      exact h.job which h.settings_eq h.repeats (Manager.yields_begin h.repeats (jobs which))
    · next op response hwaiting =>
      -- the rest of the job was prepared for any answer
      obtain rfl := Option.some.inj hstep
      exact h.job which h.settings_eq h.repeats (h.errands which _ hwaiting _)
    · next written hdone =>
      -- what is put in place repeats what has been there
      obtain rfl := Option.some.inj hstep
      exact h.job which h.settings_eq (h.errands which _ hdone written rfl) nofun
    · cases hstep

theorem undisturbed_run (h : m.cache.IsKeyed) (remote : σ) (turns : List (Turn ι κ)) :
    ∀ {final}, run visits jobs registry (start m remote) turns = some final →
      Undisturbed visits m turns final := by
  -- from the end, since the steps of a visit are counted over all turns before
  induction turns using List.reverseRecOn with
  | nil =>
    intro final hrun
    obtain rfl := Option.some.inj hrun
    exact undisturbed_start h remote
  | append_singleton turns turn ih =>
    intro final hrun
    rw [run_append] at hrun
    obtain ⟨here, hhere, hstep⟩ := Option.bind_eq_some_iff.mp hrun
    rw [run_singleton] at hstep
    exact (ih hhere).step hstep

/-- A visit can take all the steps that it takes alone, and then it has ended. -/
theorem Undisturbed.exists_run (h : Undisturbed visits m turns t) (registry : Registry (StateM σ))
    (who : ι) {left : Nat}
    (hleft : turns.count (.visit who) + left = ((visits who).alone m).1.length + 2) :
    ∃ last, t.run visits jobs registry (.replicate left (.visit who)) = some last ∧
      (last.stages who).ended? = some ((visits who).alone m) := by
  -- as long as steps are left the visit has not ended, so it can take one of them
  induction left generalizing t turns with
  | zero =>
    obtain ⟨ended, hended⟩ := Option.isSome_iff_exists.mp ((h.visits who).ended_iff.mpr hleft)
    exact ⟨t, rfl, hended.trans (congrArg some ((h.visits who).eq_alone hended))⟩
  | succ left ih =>
    have hopen : (t.stages who).ended? = none := by
      rw [← Option.not_isSome_iff_eq_none, (h.visits who).ended_iff]
      omega
    obtain ⟨stage, hstage⟩ := (visits who).exists_step t.manager hopen
    have hcount : List.count (.visit who) (turns ++ [Turn.visit who]) + left =
        ((visits who).alone m).1.length + 2 := by
      rw [List.count_append, List.count_singleton_self]
      omega
    obtain ⟨last, hrun, hended⟩ := ih (h.visit hstage) hcount
    refine ⟨last, ?_, hended⟩
    rw [List.replicate_succ, ← List.singleton_append, run_append, run_singleton, Traffic.step,
      hstage]
    exact hrun

/-- **Visits are served as if each was alone.**  Interactions are in flight, and definitions are
published and scopes emptied, at a registry that may fail at any call; all of it goes on in any
order.  At any time the record of a visit, with the actions that were started, the completers that
were consulted and the messages that were sent, is the beginning of what the visit leaves alone.
Once it has ended, its whole record and its outcome are the same as alone, after as many steps.  And
it does end, whatever is under way, if it takes the steps that it has left. -/
theorem served_as_alone (h : m.cache.IsKeyed) (visits : ι → Visit) (jobs : κ → Job)
    (registry : Registry (StateM σ)) (remote : σ) {turns : List (Turn ι κ)}
    {final : Traffic ι κ σ} (hrun : run visits jobs registry (start m remote) turns = some final)
    (who : ι) :
    let alone := (visits who).alone m
    let taken := turns.count (.visit who)
    (final.stages who).record <+: alone.1 ∧
      (∀ ended, (final.stages who).ended? = some ended →
        ended = alone ∧ taken = alone.1.length + 2) ∧
      ∃ left, taken + left = alone.1.length + 2 ∧
        ∃ last, final.run visits jobs registry (.replicate left (.visit who)) = some last ∧
          (last.stages who).ended? = some alone := by
  intro alone taken
  have hundisturbed := undisturbed_run h remote turns hrun
  have hat := hundisturbed.visits who
  refine ⟨hat.record_begins, fun ended hended => ⟨hat.eq_alone hended, ?_⟩, ?_⟩
  · exact hat.ended_iff.mp (Option.isSome_of_eq_some hended)
  · obtain ⟨left, hleft⟩ := Nat.exists_eq_add_of_le hat.count_le
    exact ⟨left, hleft.symm, hundisturbed.exists_run registry who hleft.symm⟩

/-- Two invocations of `ping`.  The reply to the second one fails. -/
def pings (second : Bool) : Visit :=
  ⟨.command, .ping, fun _ _ => if second then .error "gone" else .ok ()⟩

/-- While a command is published, one invocation finds it without its schema, and another one with
it.  Both are served as if they were alone. -/
theorem served_as_alone_pings :
    let m := (Manager.new {}).add .pong
    let turns : List (Turn Bool Unit) :=
      [.job (), .visit false, .visit false, .job (), .visit false, .job (), .visit true]
    m.cache.IsKeyed ∧
      ∃ final, run pings (fun _ => .publish) .recording (start m []) turns = some final ∧
        final.manager.cache = m.cache.published ∧
        (final.stages false).record <+: ((pings false).alone m).1 ∧
        ∃ last, final.run pings (fun _ => .publish) .recording (.replicate 3 (.visit true)) =
            some last ∧
          (last.stages true).ended? = some
            ([.marked (.started (Definition.pong.invocation .ping)),
              .sent (.reply ⟨"pong", false⟩) true], .dispatched .actionFailed) := by
  intro m turns
  have hkeyed : m.cache.IsKeyed := Cache.isKeyed_empty.insert .pong
  have hbegin : m.begin .publish = .waiting (.createGlobal Definition.pong.schema) fun answer =>
      .finished (answer.toOption.map fun _ => m.cache.published) := by
    rw [Manager.begin, Manager.publish, Cache.publishPlan, Cache.sorted_eq_values hkeyed]
    show Pending.waiting _ _ = _
    congr 1
    funext answer
    cases answer <;> rfl
  obtain ⟨final, hrun, hcache⟩ : ∃ final,
      run pings (fun _ => .publish) .recording (start m []) turns = some final ∧
        final.manager.cache = m.cache.published := by
    show ∃ final, run pings _ .recording
      { start m [] with errands := Function.update _ () (some (m.begin .publish)) } turns.tail =
        some final ∧ _
    rw [hbegin]
    exact ⟨_, rfl, rfl⟩
  obtain ⟨hbegun, -, -⟩ :=
    served_as_alone hkeyed pings (fun _ => .publish) .recording [] hrun false
  obtain ⟨-, -, left, hleft, hlast⟩ :=
    served_as_alone hkeyed pings (fun _ => .publish) .recording [] hrun true
  obtain rfl : left = 3 := Nat.add_left_cancel hleft
  exact ⟨hkeyed, final, hrun, hcache, hbegun, hlast⟩

end Traffic

end SlashCommands
