import SlashCommands.Hub
import SlashCommands.Proofs.Publishing.Retention

/-!
# Subscriptions

A `Site` is a session with the hub at which interactions are announced.  Each time its manager is
initialized it is subscribed once more, whether the registry fails or not (`Site.hub_run`), and all
subscriptions serve what is announced, at the same time.  `Conversation.weaves_join` says that
conversations that are held at the same time leave their own records, woven into one.  The main
statement, `Site.emit_after_run`, counts: an announced interaction is served as often as the manager
has been initialized, exactly once after exactly one initialization (`consists_one_iff`) and twice
after two (`Site.emit_pong_twice`).
-/

namespace SlashCommands

/-- The answers of a responder after so many messages. -/
def Responder.after (responder : Responder) (count : Nat) : Responder :=
  fun n => responder (count + n)

namespace Conversation

variable {α : Type}

/-- After so many messages a conversation is played with the later answers. -/
theorem runFrom_add (responder : Responder) (c : Conversation α) (first second : Nat) :
    c.runFrom responder (first + second) = c.runFrom (responder.after first) second := by
  induction c generalizing second with
  | finish result => rfl
  | mark m rest ih => rw [runFrom, runFrom, ih]
  | send message rest ih =>
    rw [runFrom, runFrom, Nat.add_assoc, ih]
    rfl

end Conversation

/-! ### Conversations at the same time -/

/-- Holds of a record into which others are woven: each event is the next one of one of them. -/
inductive Weaves : List (List Event) → List Event → Prop
  | done {parts : List (List Event)} (h : ∀ part ∈ parts, part = []) : Weaves parts []
  | next {parts : List (List Event)} {n : Nat} {event : Event} {part record : List Event}
    (hpart : parts[n]? = some (event :: part)) (rest : Weaves (parts.set n part) record) :
    Weaves parts (event :: record)

namespace Weaves

variable {parts : List (List Event)} {part record : List Event}

theorem nil_cons (h : Weaves parts record) : Weaves ([] :: parts) record := by
  induction h with
  | done h => exact .done (List.forall_mem_cons.mpr ⟨rfl, h⟩)
  | @next _ n _ _ _ hpart _ ih => exact .next (n := n + 1) hpart ih

/-- What is in turn is woven. -/
theorem append (h : Weaves parts record) : Weaves (part :: parts) (part ++ record) := by
  induction part with
  | nil => exact h.nil_cons
  | cons event part ih => exact .next (n := 0) rfl ih

end Weaves

/-- A single record is woven into itself only. -/
theorem Weaves.eq_of_singleton {part record : List Event} (h : Weaves [part] record) :
    record = part := by
  generalize hparts : [part] = parts at h
  induction h generalizing part with
  | done h =>
    subst hparts
    exact (h part List.mem_cons_self).symm
  | @next _ n _ _ _ hpart _ ih =>
    subst hparts
    cases n with
    | zero =>
      cases hpart
      rw [ih rfl]
    | succ n => cases hpart

/-- Holds of a record into which so many parts of a kind are woven, and nothing else. -/
def Consists (p : List Event → Prop) (count : Nat) (record : List Event) : Prop :=
  ∃ parts, Weaves parts record ∧ parts.length = count ∧ ∀ part ∈ parts, p part

/-- A record that consists of a single part is that part. -/
theorem consists_one_iff {p : List Event → Prop} {record : List Event} :
    Consists p 1 record ↔ p record := by
  constructor
  · rintro ⟨parts, hweaves, hlength, hparts⟩
    obtain ⟨part, rfl⟩ := List.length_eq_one_iff.mp hlength
    rw [hweaves.eq_of_singleton]
    exact hparts part List.mem_cons_self
  · intro h
    have hweaves : Weaves [record] (record ++ []) := Weaves.append (.done (by simp))
    rw [List.append_nil] at hweaves
    exact ⟨[record], hweaves, rfl, List.forall_mem_singleton.mpr h⟩

namespace Conversation

variable {α : Type}

/-- The event of a message that is answered. -/
def answered (message : Message) (answer : Except String Unit) : Event :=
  .sent message (match answer with | .ok _ => false | .error _ => true)

/-- Holds of a conversation and a record that it leaves if it is answered in some way. -/
inductive Leaves : Conversation α → List Event → Prop
  | finish (result : α) : Leaves (.finish result) []
  | mark (m : Mark) {next : Conversation α} {record : List Event} (h : Leaves next record) :
    Leaves (.mark m next) (.marked m :: record)
  | send (message : Message) {next : Except String Unit → Conversation α}
    (answer : Except String Unit) {record : List Event} (h : Leaves (next answer) record) :
    Leaves (.send message next) (answered message answer :: record)

theorem leaves_runFrom (responder : Responder) (c : Conversation α) (count : Nat) :
    c.Leaves (c.runFrom responder count).1 := by
  induction c generalizing count with
  | finish result => exact .finish result
  | mark m rest ih => exact .mark m (ih count)
  | send message rest ih => exact .send message (responder count message) (ih _ (count + 1))

/-- A responder that gives one answer before those of another. -/
def answering (answer : Except String Unit) (responder : Responder) : Responder
  | 0, _ => answer
  | count + 1, message => responder count message

theorem run_send_answering (message : Message) (next : Except String Unit → Conversation α)
    (answer : Except String Unit) (responder : Responder) :
    ((Conversation.send message next).run (answering answer responder)).1 =
      answered message answer :: ((next answer).run responder).1 := by
  have hrest : (next answer).runFrom (answering answer responder) 1 = (next answer).run responder := by
    rw [← Nat.add_zero 1, runFrom_add, run]
    congr 1
    funext count
    rw [Responder.after, Nat.add_comm]
    rfl
  rw [← hrest]
  rfl

/-- What a conversation leaves, it leaves with some responder. -/
theorem Leaves.exists_run {c : Conversation α} {record : List Event} (h : c.Leaves record) :
    ∃ responder, record = (c.run responder).1 := by
  induction h with
  | finish result => exact ⟨fun _ _ => .ok (), rfl⟩
  | mark m _ ih =>
    obtain ⟨responder, rfl⟩ := ih
    exact ⟨responder, rfl⟩
  | send message answer _ ih =>
    obtain ⟨responder, rfl⟩ := ih
    exact ⟨answering answer responder, (run_send_answering message _ answer responder).symm⟩

/-- In a list that fits another after one of its elements was replaced, that element can be put
back together with anything that fits it. -/
theorem exists_of_forall₂_set {β γ : Type} {R : β → γ → Prop} {xs : List β} {ys : List γ} {n : Nat}
    {a b : β} (h : List.Forall₂ R (xs.set n a) ys) (hb : xs[n]? = some b) :
    ∃ y, ys[n]? = some y ∧ R a y ∧ ∀ z, R b z → List.Forall₂ R xs (ys.set n z) := by
  induction xs generalizing n ys with
  | nil => cases hb
  | cons x xs ih =>
    cases n with
    | zero =>
      cases hb
      cases h with
      | cons hay hrest => exact ⟨_, rfl, hay, fun z hz => .cons hz hrest⟩
    | succ n =>
      cases h with
      | cons hxy hrest =>
        obtain ⟨y, hy, hay, hset⟩ := ih hrest hb
        exact ⟨y, hy, hay, fun z hz => .cons hxy (hset z hz)⟩

theorem weaves_inTurn (responder : Responder) (conversations : List (Conversation Unit))
    (count : Nat) :
    ∃ parts, List.Forall₂ Leaves conversations parts ∧
      Weaves parts ((inTurn conversations).runFrom responder count).1 := by
  induction conversations generalizing count with
  | nil => exact ⟨[], .nil, .done (by simp)⟩
  | cons c rest ih =>
    rw [inTurn, runFrom_bind]
    obtain ⟨parts, hleaves, hweaves⟩ :=
      ih (count + (c.runFrom responder count).1.countP Event.isSent)
    exact ⟨_ :: parts, .cons (leaves_runFrom responder c count) hleaves, hweaves.append⟩

/-- A conversation goes on with an event. -/
theorem weaves_of_set {conversations : List (Conversation Unit)} {n : Nat}
    {c next : Conversation Unit} {event : Event} {record : List Event}
    (hc : conversations[n]? = some c)
    (hevent : ∀ part, next.Leaves part → c.Leaves (event :: part))
    (h : ∃ parts, List.Forall₂ Leaves (conversations.set n next) parts ∧ Weaves parts record) :
    ∃ parts, List.Forall₂ Leaves conversations parts ∧ Weaves parts (event :: record) := by
  obtain ⟨parts, hleaves, hweaves⟩ := h
  -- the event goes in front of what the conversation leaves from there on
  obtain ⟨part, hpart, hnext, hset⟩ := exists_of_forall₂_set hleaves hc
  obtain ⟨hn, hget⟩ := List.getElem?_eq_some_iff.mp hpart
  have hfirst : (parts.set n (event :: part))[n]? = some (event :: part) :=
    List.getElem?_set_self hn
  have hrest : Weaves ((parts.set n (event :: part)).set n part) record := by
    rwa [List.set_set, ← hget, List.set_getElem_self]
  exact ⟨_, hset _ (hevent part hnext), .next hfirst hrest⟩

/-- Whatever the schedule, conversations that are held at the same time leave their records, woven
into one. -/
theorem weaves_join (responder : Responder) (schedule : List Nat)
    (conversations : List (Conversation Unit)) (count : Nat) :
    ∃ parts, List.Forall₂ Leaves conversations parts ∧
      Weaves parts ((join schedule conversations).runFrom responder count).1 := by
  induction schedule generalizing conversations count with
  | nil => exact weaves_inTurn responder conversations count
  | cons n schedule ih =>
    rw [join]
    split
    · next m next hmark =>
      exact weaves_of_set hmark (fun _ h => .mark m h) (ih (conversations.set n next) count)
    · next message next hsend =>
      exact weaves_of_set hsend (fun _ h => .send message (responder count message) h)
        (ih (conversations.set n (next (responder count message))) (count + 1))
    · exact ih conversations count

end Conversation

/-! ### What a subscription leaves -/

namespace Listener

variable {m : Manager} {i : Interaction} {d : Definition}

theorem run_dispatching (responder : Responder) :
    ((dispatching m i).run responder).1 = ((m.dispatch i).run responder).1 :=
  congrArg Prod.fst (Conversation.run_bind_finish responder (m.dispatch i) fun _ => ())

theorem run_completing (responder : Responder) :
    ((completing m i).run responder).1 = ((m.autocomplete i).run responder).1 :=
  congrArg Prod.fst (Conversation.run_bind_finish responder (m.autocomplete i) fun _ => ())

theorem run_dispatching_of_allowed (hkept : m.cache.get? i.commandName = some d)
    (h : d.denial? i = none) (responder : Responder) :
    ((dispatching m i).run responder).1 = (d.performance i responder).1 := by
  rw [run_dispatching]
  exact congrArg Prod.fst ((m.gated_run_dispatch i responder).allowed d hkept h)

theorem run_dispatching_of_denied {denial : Denial} (hkept : m.cache.get? i.commandName = some d)
    (h : d.denial? i = some denial) (responder : Responder) :
    ∃ failed, ((dispatching m i).run responder).1 =
      [.sent (.reply ⟨m.settings.denialMessage, true⟩) failed] := by
  rw [run_dispatching]
  exact ((m.gated_run_dispatch i responder).denied d denial hkept h).2

theorem run_completing_of_target {option : SuppliedOption} {completer : Completer}
    (hkept : m.cache.get? i.commandName = some d)
    (h : Manager.completionTarget? d i = some (option, completer)) (responder : Responder) :
    ∃ suggestions failed, ((completing m i).run responder).1 =
      .marked (.consulted ⟨i.subcommand, option.name⟩ option) :: ((completer option i).record ++
        [.sent (.suggest suggestions) failed]) := by
  rw [run_completing, Manager.autocomplete, hkept]
  obtain ⟨failed, hrun⟩ := Manager.run_suggest_of_target m.settings h responder
  exact ⟨_, failed, congrArg Prod.fst hrun⟩

end Listener

/-! ### Sites -/

/-- A session and the hub at which interactions are announced. -/
structure Site (σ : Type) where
  session : Session σ
  hub : Hub

/-- A call at a site. -/
inductive SiteCall
  | manager (call : ManagerCall)
  | initializeCommands
  | initializeAutocomplete
  | emit (schedule : List Nat) (kind : EventKind) (interaction : Interaction)
    (responder : Responder)

/-- Holds of the calls that subscribe the manager to interactions of a kind. -/
def SiteCall.subscribes : EventKind → SiteCall → Bool
  | .command, .initializeCommands => true
  | .autocomplete, .initializeAutocomplete => true
  | _, _ => false

/-- What a call at a site answers; announcing leaves a record and tells how many listeners ran. -/
inductive SiteAnswer
  | manager (answer : ManagerAnswer)
  | initialized (result : Except RegistryFailure PublishReport)
  | subscribed
  | emitted (record : List Event) (listeners : Nat)

/-- A command that answers. -/
def Definition.pong : Definition := { bare "ping" [] with action := .reply "pong" false }

/-- An invocation of it. -/
def Interaction.ping : Interaction := ⟨"1", "ping", .chatInput, none, [], ⟨"7", none⟩, none, none⟩

namespace Site

variable {σ : Type} (registry : Registry (StateM σ))

/-- Makes a call. -/
def call (s : Site σ) : SiteCall → SiteAnswer × Site σ
  | .manager c =>
    let (answer, session) := s.session.call registry c
    (.manager answer, { s with session := session })
  | .initializeCommands =>
    let ((result, manager, hub), remote) :=
      (s.session.manager.initializeCommands s.hub registry).run s.session.remote
    (.initialized result, ⟨⟨manager, remote⟩, hub⟩)
  | .initializeAutocomplete => (.subscribed, { s with hub := s.hub.initializeAutocomplete })
  | .emit schedule kind i responder =>
    let (record, count) := (s.hub.emit schedule kind s.session.manager i).run responder
    (.emitted record count, s)

/-- Makes calls one after the other. -/
def run (s : Site σ) : List SiteCall → List SiteAnswer × Site σ
  | [] => ([], s)
  | c :: rest =>
    let (answer, next) := s.call registry c
    let (answers, last) := next.run rest
    (answer :: answers, last)

/-- The hub with so many subscriptions of a manager to invocations and to requests for
suggestions. -/
def wired (invocations requests : Nat) : Hub :=
  ⟨.replicate invocations .dispatching, .replicate requests .completing⟩

variable {registry}

theorem run_cons (s : Site σ) (c : SiteCall) (rest : List SiteCall) :
    (s.run registry (c :: rest)).2 = ((s.call registry c).2.run registry rest).2 := rfl

/-- Whatever becomes of the registry, initializing subscribes the manager once more. -/
theorem hub_call (registry : Registry (StateM σ)) (session : Session σ) (n k : Nat) (c : SiteCall) :
    (call registry ⟨session, wired n k⟩ c).2.hub =
      wired (n + if c.subscribes .command then 1 else 0)
        (k + if c.subscribes .autocomplete then 1 else 0) := by
  cases c with
  | initializeCommands =>
    rw [call, Manager.initializeCommands, StateT.run_bind]
    show Hub.subscribe (wired n k) .command .dispatching = _
    rw [Hub.subscribe, wired, ← List.replicate_succ']
    rfl
  | initializeAutocomplete =>
    show Hub.subscribe (wired n k) .autocomplete .completing = _
    rw [Hub.subscribe, wired, ← List.replicate_succ']
    rfl
  | _ => rfl

/-- A manager that is initialized at a registry without failures has published. -/
theorem manager_initializeCommands (h : registry.Accepts) (s : Site σ) :
    (s.call registry .initializeCommands).2.session.manager =
      { s.session.manager with cache := s.session.manager.cache.published } := by
  rw [call, Manager.initializeCommands, StateT.run_bind, Manager.run_republish,
    Registry.run_perform h]
  rfl

/-- A hub has a subscription for every initialization, also for those that failed. -/
theorem hub_run (registry : Registry (StateM σ)) (session : Session σ) (n k : Nat)
    (calls : List SiteCall) :
    (run registry ⟨session, wired n k⟩ calls).2.hub =
      wired (n + calls.countP (·.subscribes .command))
        (k + calls.countP (·.subscribes .autocomplete)) := by
  induction calls generalizing session n k with
  | nil => rfl
  | cons c rest ih =>
    have hhub := hub_call registry session n k c
    rw [run_cons]
    generalize call registry ⟨session, wired n k⟩ c = called at hhub ⊢
    obtain ⟨answer, session, hub⟩ := called
    obtain rfl : hub = _ := hhub
    dsimp only
    rw [ih, List.countP_cons, List.countP_cons, Nat.add_assoc, Nat.add_assoc, Nat.add_comm (ite ..),
      Nat.add_comm (ite ..)]

/-- What is announced at a wired hub leaves a part for every subscription to its kind. -/
theorem consists_emit {m : Manager} {i : Interaction} {p : List Event → Prop} {n k : Nat}
    {kind : EventKind} {listener : Listener} {count : Nat}
    (hlisteners : (wired n k).listeners kind = .replicate count listener)
    (h : ∀ responder, p ((listener m i).run responder).1) (schedule : List Nat)
    (responder : Responder) :
    Consists p count (((wired n k).emit schedule kind m i).run responder).1 := by
  rw [Hub.emit, hlisteners, List.map_replicate]
  show Consists p count (((Conversation.join schedule (.replicate count (listener m i))).bind
    fun _ => .finish (List.replicate count listener).length).run responder).1
  rw [Conversation.run_bind_finish]
  obtain ⟨parts, hleaves, hweaves⟩ :=
    Conversation.weaves_join responder schedule (.replicate count (listener m i)) 0
  refine ⟨parts, hweaves, ?_, fun part hpart => ?_⟩
  · rw [← hleaves.length_eq, List.length_replicate]
  · -- every part was left by the same listener, and so by one of its runs
    obtain ⟨k, hk, rfl⟩ := List.getElem_of_mem hpart
    have hleft : k < (List.replicate count (listener m i)).length := hleaves.length_eq ▸ hk
    have hpart := hleaves.get hleft hk
    rw [List.get_eq_getElem, List.getElem_replicate] at hpart
    obtain ⟨responder, hrun⟩ := hpart.exists_run
    exact (show parts[k] = _ from hrun) ▸ h responder

/-- **An announced interaction is served once for each initialization.**  Whatever calls are made at
a new hub, with whatever definitions and whichever operations the registry refuses, the hub has one
subscription for each time that the manager was initialized, whether that failed or not.  So an
invocation of a kept command starts its action that often if the gates allow it, and otherwise gets
that many replies and nothing else; a request that has a completer for its target gets suggestions
as often as completion was initialized.  The subscriptions may get in each other's way in any
order. -/
theorem emit_after_run (registry : Registry (StateM σ)) (session : Session σ)
    (calls : List SiteCall) (i : Interaction) (schedule : List Nat) (responder : Responder) :
    let here := (run registry ⟨session, .empty⟩ calls).2
    let m := here.session.manager
    let n := calls.countP (·.subscribes .command)
    let k := calls.countP (·.subscribes .autocomplete)
    here.hub = wired n k ∧
      (∀ d, m.cache.get? i.commandName = some d → d.denial? i = none →
        Consists (fun part => ∃ responder, part = (d.performance i responder).1) n
          ((here.hub.emit schedule .command m i).run responder).1) ∧
      (∀ d denial, m.cache.get? i.commandName = some d → d.denial? i = some denial →
        Consists (fun part => ∃ failed,
          part = [.sent (.reply ⟨m.settings.denialMessage, true⟩) failed]) n
          ((here.hub.emit schedule .command m i).run responder).1) ∧
      ∀ d option completer, m.cache.get? i.commandName = some d →
        Manager.completionTarget? d i = some (option, completer) →
        Consists (fun part => ∃ suggestions failed,
          part = .marked (.consulted ⟨i.subcommand, option.name⟩ option) ::
            ((completer option i).record ++ [.sent (.suggest suggestions) failed])) k
          ((here.hub.emit schedule .autocomplete m i).run responder).1 := by
  intro here m n k
  have hhub : here.hub = wired n k := by
    have h := hub_run registry session 0 0 calls
    rwa [Nat.zero_add, Nat.zero_add] at h
  refine ⟨hhub, ?_, ?_, ?_⟩
  · intro d hkept hallowed
    rw [hhub]
    exact consists_emit rfl
      (fun responder => ⟨_, Listener.run_dispatching_of_allowed hkept hallowed responder⟩) schedule
      responder
  · intro d denial hkept hdenied
    rw [hhub]
    exact consists_emit rfl (Listener.run_dispatching_of_denied hkept hdenied) schedule responder
  · intro d option completer hkept htarget
    rw [hhub]
    exact consists_emit rfl (Listener.run_completing_of_target hkept htarget) schedule responder

/-- A manager with a command is initialized twice.  One invocation of the command starts its action
twice, and two replies are sent, one subscription after the other or both at the same time. -/
theorem emit_pong_twice :
    let calls : List SiteCall :=
      [.manager (.add .pong), .initializeCommands, .initializeCommands]
    let here := (run .recording ⟨⟨.new {}, []⟩, .empty⟩ calls).2
    let pong := Definition.pong.attachSchema
    let started : Event := .marked (.started (pong.invocation .ping))
    let replied : Event := .sent (.reply ⟨"pong", false⟩) false
    here.session.manager.cache.get? "ping" = some pong ∧ pong.denial? .ping = none ∧
      ((here.hub.emit [] .command here.session.manager .ping).run fun _ _ => .ok ()).1 =
        [started, replied, started, replied] ∧
      ((here.hub.emit [0, 1] .command here.session.manager .ping).run fun _ _ => .ok ()).1 =
        [started, started, replied, replied] := by
  intro calls here pong started replied
  let m := (Manager.new {}).add .pong
  have hkeyed : m.cache.IsKeyed := Cache.isKeyed_empty.insert .pong
  -- the second time changes nothing that the first has published
  have hmanager : here.session.manager = { m with cache := m.cache.published.published } := by
    rw [show here = (run .recording _ calls).2 from rfl, run_cons, run_cons,
      run_cons, run, manager_initializeCommands Registry.accepts_recording,
      manager_initializeCommands Registry.accepts_recording]
    rfl
  have hkept : here.session.manager.cache.get? "ping" = some pong := by
    rw [hmanager]
    show m.cache.published.published.get? "ping" = _
    rw [Cache.published_published hkeyed, Cache.get?_published hkeyed]
    rfl
  have hhub : here.hub = wired 2 0 := hub_run _ _ 0 0 calls
  refine ⟨hkept, rfl, ?_⟩
  have hdispatch : here.session.manager.dispatch .ping = Manager.serve {} pong .ping := by
    rw [Manager.dispatch, show Interaction.ping.commandName = "ping" from rfl, hkept, hmanager]
    rfl
  rw [hhub]
  simp only [Hub.emit, wired, Hub.listeners, List.replicate, List.map_cons, List.map_nil,
    Listener.dispatching, hdispatch]
  exact ⟨rfl, rfl⟩

end Site

end SlashCommands
