import SlashCommands.Proofs.Draft.WellFormed
import SlashCommands.Proofs.Pattern.Evaluation
import SlashCommands.Proofs.Serving.Decoding
import SlashCommands.Proofs.Serving.Reading
import SlashCommands.Proofs.Serving.Record

/-!
# What the member supplies

A payload nests the options of a subcommand in it, and in its group if it has one.  Wherever the
options are, an action reads the values that the member supplies for the arguments of the invoked
scope, and defaults for the others: `Payload.Invokes.dispatch_reads_supplied`.  On the way there
`Payload.Invokes.exists_toEvent` says what a payload is brought into.
-/

namespace SlashCommands

/-! ### Names and values -/

/-- With distinct names, a name finds the value that is paired with it. -/
theorem find?_of_mem_of_nodup {values : List (String × OptionValue)} {name : String}
    {value : OptionValue} (hnodup : (values.map Prod.fst).Nodup) (h : (name, value) ∈ values) :
    values.find? (·.1 == name) = some (name, value) := by
  induction values with
  | nil => cases h
  | cons pair rest ih =>
    rw [List.map_cons, List.nodup_cons] at hnodup
    rcases List.mem_cons.mp h with rfl | h
    · rw [List.find?_cons_of_pos (by simp)]
    · have hne : pair.1 ≠ name := by
        rintro rfl
        exact hnodup.1 (List.mem_map.mpr ⟨_, h, rfl⟩)
      rw [List.find?_cons_of_neg (by simpa using hne)]
      exact ih hnodup.2 h

namespace Interaction

/-- Holds if the options of an interaction have the given names and values. -/
def Supplies (i : Interaction) (values : List (String × OptionValue)) : Prop :=
  i.options.map (fun o => (o.name, o.value)) = values.map fun (name, value) => (name, some value)

variable {i : Interaction} {values : List (String × OptionValue)} {name : String}

theorem Supplies.bind_value_option? (h : i.Supplies values) (name : String) :
    (i.option? name).bind (·.value) = (values.find? (·.1 == name)).map (·.2) := by
  have hfind := congrArg (fun pairs => (pairs.find? (·.1 == name)).bind (·.2)) h
  simp only [List.find?_map, Option.bind_map] at hfind
  refine hfind.trans ?_
  show (values.find? (·.1 == name)).bind (fun pair => some pair.2) = _
  cases values.find? (·.1 == name) with
  | none => rfl
  | some pair => rfl

theorem Supplies.value_of_mem (h : i.Supplies values) (hnodup : (values.map Prod.fst).Nodup)
    {value : OptionValue} (hmem : (name, value) ∈ values) :
    (i.option? name).bind (·.value) = some value := by
  rw [h.bind_value_option?, find?_of_mem_of_nodup hnodup hmem]
  rfl

theorem Supplies.isSome_value_iff (h : i.Supplies values) :
    ((i.option? name).bind (·.value)).isSome ↔ ∃ value, (name, value) ∈ values := by
  rw [h.bind_value_option?, Option.isSome_map, List.find?_isSome]
  constructor
  · rintro ⟨⟨other, value⟩, hmem, heq⟩
    obtain rfl : other = name := beq_iff_eq.mp heq
    exact ⟨value, hmem⟩
  · rintro ⟨value, hmem⟩
    exact ⟨_, hmem, by simp⟩

theorem Supplies.value_of_not_mem (h : i.Supplies values) (hnot : ∀ value, (name, value) ∉ values) :
    (i.option? name).bind (·.value) = none := by
  rw [← Option.not_isSome_iff_eq_none, h.isSome_value_iff]
  rintro ⟨value, hmem⟩
  exact hnot value hmem

end Interaction

/-! ### Payloads -/

namespace Payload

/-- Holds of payloads that invoke a command that is typed into the chat, with values for options in
a scope, each supplied once, and with a channel and a member that can be read. -/
structure Invokes (p : Payload) (command : String) (scope : Option String)
    (values : List (String × OptionValue)) : Prop where
  type : p.type = commandType
  data : ∃ data, p.data = some data ∧ data.name = command ∧
    (data.type = none ∨ data.type = some CommandKind.chatInput.code) ∧
      ∃ supplied, PayloadOption.Carries supplied scope data.options ∧
        supplied.map (fun o => (o.name, o.value)) =
          values.map fun (name, value) => (name, some value)
  names_nodup : (values.map Prod.fst).Nodup
  channel : ∃ channel, p.channelRef = .ok channel
  member : ∃ member, p.member.mapM PayloadMember.toMember = .ok member

variable {p : Payload} {command : String} {scope : Option String}
  {values : List (String × OptionValue)}

theorem commandKind_of_chatInput {data : PayloadData}
    (h : data.type = none ∨ data.type = some CommandKind.chatInput.code) :
    commandKind data = .ok .chatInput := by
  rcases h with h | h
  · rw [commandKind, h]
  · rw [commandKind, h]
    rfl

/-- A payload that invokes a command is brought into an interaction with that command, in the scope
and with the values that the member supplies. -/
theorem Invokes.exists_toEvent (h : p.Invokes command scope values) :
    ∃ i, p.toInteraction = .ok i ∧ p.toEvent = .ok (.command, i) ∧ i.commandName = command ∧
      i.subcommand = scope ∧ i.Supplies values := by
  obtain ⟨data, hdata, rfl, htype, supplied, hcarries, hvalues⟩ := h.data
  obtain ⟨channel, hchannel⟩ := h.channel
  obtain ⟨member, hmember⟩ := h.member
  have hread : p.toInteraction = .ok ⟨p.id, data.name, .chatInput, scope,
      supplied.map PayloadOption.toSupplied, channel, p.guildId, member⟩ := by
    refine toInteraction_eq_ok_iff.mpr ⟨data, _, _, _, hdata, commandKind_of_chatInput htype,
      hchannel, hmember, ?_⟩
    rw [PayloadOption.flatten_of_carries hcarries]
  refine ⟨_, hread, ?_, rfl, rfl, ?_⟩
  · rw [toEvent, eventKind?, if_pos h.type, hread]
    rfl
  · rw [Interaction.Supplies, List.map_map]
    exact hvalues

end Payload

/-! ### From the payload to the action -/

/-- Holds if what is read under a name in a scope is the value supplied for it or, if there is none,
the default recorded for it in that scope, else the one at top level, if there is one. -/
structure Definition.ReadsAs (d : Definition) (scope : Option String)
    (values : List (String × OptionValue)) (name : String) (read : Option OptionValue) : Prop where
  supplied : ∀ value, (name, value) ∈ values → read = some value
  default : (∀ value, (name, value) ∉ values) →
    read = (d.defaults.get? ⟨scope, name⟩).or (d.defaults.get? ⟨none, name⟩)

namespace Definition

variable {d : Definition} {i : Interaction} {values : List (String × OptionValue)} {name : String}
  {read : Option OptionValue}

theorem readsAs_of_supplies (h : i.Supplies values) (hnodup : (values.map Prod.fst).Nodup)
    (hread : read = ((i.option? name).bind (·.value)).or
      ((d.invocation i).arguments.default? name)) :
    d.ReadsAs i.subcommand values name read where
  supplied := fun value hmem => by rw [hread, h.value_of_mem hnodup hmem, Option.some_or]
  default := fun hnot => by
    rw [hread, h.value_of_not_mem hnot, Option.none_or]
    rfl

end Definition

/-- **What the member supplies is what the action reads.**  A payload that invokes a kept
definition, built by any calls, and passes its gates is announced as an invocation.  Serving it
starts the action of the definition once, and the action reads every argument and every flag of the
invoked scope as supplied, else by default; it has the flags that are supplied. -/
theorem Payload.Invokes.dispatch_reads_supplied {calls : List Call} {d : Definition}
    (hbuild : (Draft.empty.applyAll calls).build = .ok d) {m : Manager}
    {published : Option CommandSchema}
    (hkept : m.cache.get? d.name = some { d with published := published }) {p : Payload}
    {scope : Option String} {values : List (String × OptionValue)}
    (hinvokes : p.Invokes d.name scope values)
    (hgates : ∀ i, p.toInteraction = .ok i → d.denial? i = none) :
    ∃ i, p.toEvent = .ok (.command, i) ∧
      (∀ responder, (m.dispatch i).run responder = d.performance i responder) ∧
      ∀ e ∈ Node.entriesOf scope d.nodes,
        (e.kind = .arg ∧ d.ReadsAs scope values e.name ((d.invocation i).arguments.arg? e.name)) ∨
        (e.kind = .flag ∧
          d.ReadsAs scope values e.name ((d.invocation i).arguments.flag? e.name) ∧
          ((d.invocation i).arguments.hasFlag e.name ↔ ∃ value, (e.name, value) ∈ values)) := by
  obtain ⟨i, hread, hevent, hname, rfl, hsupplies⟩ := hinvokes.exists_toEvent
  refine ⟨i, hevent, fun responder => ?_, fun e he => ?_⟩
  · rw [Manager.dispatch, hname, hkept]
    exact Manager.run_serve_of_allowed m.settings (hgates i hread) responder
  · have hnodup := hinvokes.names_nodup
    -- being built is what rules out that a subcommand stands among the arguments
    have hwell := (Draft.wellFormed_applyAll calls).build hbuild
    rcases (hwell.declared.consistent _ e he).kind with hkind | hkind
    · have hne : e.kind ≠ .flag := by simp [hkind]
      exact .inl ⟨hkind,
        d.readsAs_of_supplies hsupplies hnodup (Arguments.arg?_ofInteraction he hne)⟩
    · refine .inr ⟨hkind,
        d.readsAs_of_supplies hsupplies hnodup (Arguments.flag?_ofInteraction he hkind), ?_⟩
      have hflag : (d.invocation i).arguments.hasFlag e.name = _ :=
        Arguments.hasFlag_ofInteraction he hkind
      rw [hflag, hsupplies.isSome_value_iff]

/-! ### A greeting -/

/-- A subcommand with an argument that has a default, and with a flag. -/
def Definition.greeting : Definition :=
  { name := "greet"
    description := "Greets"
    kind := .chatInput
    nodes := [.subcommand ⟨"friend", "friend",
      [⟨.arg, "string", true, "who", "Whom", none, none, none⟩,
        ⟨.flag, "string", true, "l", "How", some "loudly", none, none⟩]⟩]
    choices := .empty
    defaults := Keyed.empty.insert ⟨some "friend", "who"⟩ (.string "you")
    requires := []
    channels := .empty
    guilds := .empty
    completers := .empty
    action := .nothing
    published := none }

/-- The calls that declare it. -/
def Call.greeting : List Call :=
  [.setCommand "greet" "Greets",
    .addArgument { ArgumentOptions.plain "friend [who]" "Whom" with
      default := some (.string "you") },
    .addArgument (.plain "friend (-l loudly)" "How")]

/-- The subcommand with the flag alone. -/
def PayloadOption.greeting : PayloadOption :=
  ⟨"friend", 1, none, [⟨"l", 5, some (.boolean true), [], false⟩], false⟩

/-- A payload that supplies the flag alone, in a group. -/
def Payload.greeting : Payload :=
  { id := "1"
    token := "t"
    type := 2
    data := some ⟨"greet", some 1, [⟨"group", 2, none, [.greeting], false⟩]⟩
    guildId := none
    channelId := some "7"
    channel := none
    member := none }

theorem Draft.build_greeting : (empty.applyAll Call.greeting).build = .ok Definition.greeting := by
  have hwho : Pattern.tokens "friend [who]" = .ok [⟨.command, false, "friend", "string", none, 0⟩,
      ⟨.arg, true, "who", "string", none, 1⟩] :=
    Pattern.tokens_of_splitWithin? rfl rfl
  have hloudly : Pattern.tokens "friend (-l loudly)" = .ok
      [⟨.command, false, "friend", "string", none, 0⟩,
        ⟨.flag, true, "l", "string", some "loudly", 1⟩] :=
    Pattern.tokens_of_splitWithin? rfl rfl
  rw [Call.greeting, applyAll_cons, applyAll_cons, applyAll_cons, applyAll_nil]
  simp only [apply, addArgument, ArgumentOptions.plain, hwho, hloudly]
  rfl

theorem Payload.invokes_greeting :
    greeting.Invokes "greet" (some "friend") [("l", .boolean true)] where
  type := rfl
  data := ⟨_, rfl, rfl, .inr rfl, PayloadOption.greeting.options,
    @PayloadOption.Carries.group _ _ .greeting [] [] rfl rfl (by simp) rfl rfl, rfl⟩
  names_nodup := by simp
  channel := ⟨_, rfl⟩
  member := ⟨_, rfl⟩

theorem Payload.dispatch_greeting :
    ∃ i, greeting.toEvent = .ok (.command, i) ∧
      (Definition.greeting.invocation i).arguments.arg? "who" = some (.string "you") ∧
      (Definition.greeting.invocation i).arguments.flag? "l" = some (.boolean true) ∧
      (Definition.greeting.invocation i).arguments.hasFlag "l" := by
  have hkept : ((Manager.new {}).add .greeting).cache.get? "greet" =
      some { Definition.greeting with published := none } :=
    Keyed.get?_insert_self _ _ _
  obtain ⟨i, hevent, -, hreads⟩ := Payload.Invokes.dispatch_reads_supplied Draft.build_greeting
    hkept Payload.invokes_greeting (fun i hi => rfl)
  refine ⟨i, hevent, ?_⟩
  rcases hreads _ (.head _) with ⟨-, hwho⟩ | ⟨hkind, -⟩
  · rcases hreads _ (.tail _ (.head _)) with ⟨hkind, -⟩ | ⟨-, hloudly, hhas⟩
    · cases hkind
    · exact ⟨hwho.default (by simp), hloudly.supplied _ (.head _), hhas.mpr ⟨_, .head _⟩⟩
  · cases hkind

end SlashCommands
