import SlashCommands.Manager

/-!
# Records of served invocations

`Conversation.runFrom_bind` says that playing one conversation after another joins their records.
From it follows what serving an invocation leaves: a single reply if the invocation is denied
(`Manager.run_serve_of_denied`), and otherwise what the action leaves, after the mark that it was
started (`Manager.run_serve_of_allowed`).  `Manager.gated_run_dispatch` puts the cases together.
`Manager.run_suggest_of_target` says what serving a request for suggestions leaves.
-/

namespace SlashCommands

/-- Holds of messages in a record. -/
def Event.isSent : Event → Bool
  | .sent _ _ => true
  | .marked _ => false

namespace Conversation

variable {α β : Type}

/-- The second of two conversations goes on with the count of the messages sent in the first. -/
theorem runFrom_bind (responder : Responder) (c : Conversation α) (next : α → Conversation β)
    (count : Nat) :
    (c.bind next).runFrom responder count =
      let first := c.runFrom responder count
      let second := (next first.2).runFrom responder (count + first.1.countP Event.isSent)
      (first.1 ++ second.1, second.2) := by
  induction c generalizing count with
  | finish result => simp [bind, runFrom]
  | mark m rest ih => simp [bind, runFrom, ih, Event.isSent]
  | send message rest ih =>
    simp only [bind, runFrom, ih, List.cons_append]
    rw [List.countP_cons_of_pos (by rfl), Nat.add_right_comm, Nat.add_assoc]

theorem run_bind_finish (responder : Responder) (c : Conversation α) (f : α → β) :
    (c.bind fun a => .finish (f a)).run responder =
      ((c.run responder).1, f (c.run responder).2) := by
  rw [run, runFrom_bind]
  simp [runFrom, run]

end Conversation

/-- The outcome of an action that was started. -/
def DispatchOutcome.ofResult : Except String Unit → DispatchOutcome
  | .ok () => .completed
  | .error _ => .actionFailed

namespace Definition

/-- What the action gets when an interaction invokes the command. -/
def invocation (d : Definition) (i : Interaction) : Invocation :=
  ⟨d.toSignature, i, .ofInteraction d.nodes d.defaults i⟩

/-- What starting the action once leaves. -/
def performance (d : Definition) (i : Interaction) (responder : Responder) :
    List Event × DispatchOutcome :=
  let done := (d.action (d.invocation i)).run responder
  (.marked (.started (d.invocation i)) :: done.1, .ofResult done.2)

end Definition

/-- Holds of what serving an invocation leaves if the gates of the kept command decide: its action
is started just in case there is such a command and it does not deny the invocation; then it is
started once, and whether it fails is the outcome.  A denied invocation is answered by a single
reply, for the member alone, and nothing else happens, whether that reply fails or not. -/
structure Gated (settings : ManagerSettings) (kept : Option Definition) (i : Interaction)
    (responder : Responder) (record : List Event) (outcome : DispatchOutcome) : Prop where
  started_iff : (∃ invocation, Event.marked (.started invocation) ∈ record) ↔
    ∃ d, kept = some d ∧ d.denial? i = none
  allowed : ∀ d, kept = some d → d.denial? i = none →
    (record, outcome) = d.performance i responder
  denied : ∀ d denial, kept = some d → d.denial? i = some denial →
    outcome = .denied denial ∧
      ∃ failed, record = [.sent (.reply ⟨settings.denialMessage, true⟩) failed]
  ignored : kept = none → record = [] ∧ outcome = .ignored

namespace Manager

variable (settings : ManagerSettings) {d : Definition} {i : Interaction}

/-- A denied invocation is answered by one reply, and that is all, whether it fails or not. -/
theorem run_serve_of_denied {denial : Denial} (h : d.denial? i = some denial)
    (responder : Responder) :
    ∃ failed, (serve settings d i).run responder =
      ([.sent (.reply ⟨settings.denialMessage, true⟩) failed], .denied denial) := by
  rw [serve, h]
  exact ⟨_, rfl⟩

/-- An allowed invocation starts the action once. -/
theorem run_serve_of_allowed (h : d.denial? i = none) (responder : Responder) :
    (serve settings d i).run responder = d.performance i responder := by
  have hserve : serve settings d i = .mark (.started (d.invocation i))
      ((d.action (d.invocation i)).bind fun result => .finish (.ofResult result)) := by
    rw [serve, h]
    show Conversation.mark _ ((d.action (d.invocation i)).bind _) = _
    -- what is left are the two ways to end with the outcome
    congr
    funext result
    cases result <;> rfl
  rw [hserve]
  show (let rest := Conversation.run responder _; (_ :: rest.1, rest.2)) = _
  rw [Conversation.run_bind_finish]
  rfl

/-- Serving is decided by the gates of the kept command. -/
theorem gated_run_dispatch (m : Manager) (i : Interaction) (responder : Responder) :
    Gated m.settings (m.cache.get? i.commandName) i responder
      ((m.dispatch i).run responder).1 ((m.dispatch i).run responder).2 := by
  rw [dispatch]
  cases hkept : m.cache.get? i.commandName with
  | none =>
    exact
      { started_iff := by simp [Conversation.run, Conversation.runFrom]
        allowed := by simp
        denied := by simp
        ignored := fun _ => ⟨rfl, rfl⟩ }
  | some d =>
    dsimp only
    cases hdenial : d.denial? i with
    | none =>
      rw [run_serve_of_allowed m.settings hdenial]
      refine ⟨?_, ?_, ?_, by simp⟩
      · exact ⟨fun _ => ⟨d, rfl, hdenial⟩, fun _ => ⟨d.invocation i, List.mem_cons_self⟩⟩
      · rintro _ ⟨rfl⟩ -
        rfl
      · rintro _ denial ⟨rfl⟩ hdenied
        rw [hdenial] at hdenied
        cases hdenied
    | some denial =>
      obtain ⟨failed, hrun⟩ := run_serve_of_denied m.settings hdenial responder
      rw [hrun]
      refine ⟨?_, ?_, ?_, by simp⟩
      · constructor
        · rintro ⟨invocation, hmem⟩
          cases List.mem_singleton.mp hmem
        · rintro ⟨_, ⟨rfl⟩, hallowed⟩
          rw [hdenial] at hallowed
          cases hallowed
      · rintro _ ⟨rfl⟩ hallowed
        rw [hdenial] at hallowed
        cases hallowed
      · rintro _ _ ⟨rfl⟩ hdenied
        rw [hdenial] at hdenied
        cases hdenied
        exact ⟨rfl, failed, rfl⟩

end Manager

/-! ### Requests for suggestions -/

/-- What a completer suggests for an option: as many texts as the settings allow, and none if it
fails. -/
def Completer.suggestions (completer : Completer) (settings : ManagerSettings)
    (option : SuppliedOption) (i : Interaction) : List Suggestion :=
  match (completer option i).result with
  | .ok texts => (texts.take settings.maxSuggestions).map Suggestion.ofText
  | .error _ => []

namespace Consultation

/-- Whoever answers, a consultation leaves its own record. -/
theorem run_converse_bind {α : Type} (c : Consultation)
    (next : Except String (List String) → Conversation α) (responder : Responder) :
    (c.converse.bind next).run responder =
      (c.record ++ ((next c.result).run responder).1, ((next c.result).run responder).2) := by
  induction c with
  | finish result => rfl
  | note text rest ih =>
    show (let played := (rest.converse.bind next).run responder; (_ :: played.1, played.2)) = _
    rw [ih]
    rfl

/-- A consultation leaves notes and nothing else. -/
theorem eq_worked_of_mem_record {c : Consultation} {event : Event} (h : event ∈ c.record) :
    ∃ text, event = .marked (.worked text) := by
  induction c with
  | finish result => cases h
  | note text rest ih =>
    rcases List.mem_cons.mp h with rfl | h
    · exact ⟨text, rfl⟩
    · exact ih h

end Consultation

namespace Manager

variable {d : Definition} {i : Interaction} {option : SuppliedOption} {completer : Completer}

/-- Completing an option consults its completer once, with what it does on the way, and what it
suggests is sent, whether that fails or not. -/
theorem run_suggest_of_target (settings : ManagerSettings)
    (h : completionTarget? d i = some (option, completer)) (responder : Responder) :
    ∃ failed, (suggest settings d i).run responder =
      (.marked (.consulted ⟨i.subcommand, option.name⟩ option) ::
          ((completer option i).record ++
            [.sent (.suggest (completer.suggestions settings option i)) failed]),
        .suggested (completer.suggestions settings option i).length) := by
  rw [suggest, h, Completer.suggestions]
  show ∃ failed, (let rest := Conversation.run responder (Conversation.bind _ _);
    (_ :: rest.1, rest.2)) = _
  rw [Consultation.run_converse_bind]
  cases (completer option i).result with
  | ok texts => exact ⟨_, rfl⟩
  | error cause =>
    dsimp only
    rw [List.take_nil, List.map_nil]
    exact ⟨_, rfl⟩

end Manager

end SlashCommands
