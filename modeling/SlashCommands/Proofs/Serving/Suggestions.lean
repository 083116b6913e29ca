import SlashCommands.Proofs.Schema.Presentation
import SlashCommands.Proofs.Serving.Answering

/-!
# Suggestions

The schema of a command tells the platform for which options to ask for suggestions, and the manager
looks for a completer when it is asked.  The schema finds its keys in the tree of arguments, the
manager finds them in the interaction; `Definition.asksFor_schema_iff` and `Manager.suggest_congr`
say that both come down to the completers of a scope.  The main statement,
`Manager.completes_as_asked`, puts them together.
-/

namespace SlashCommands

/-- Holds of schemas with an option of that name in that scope which asks for suggestions. -/
def Datum.AsksFor (schema : Datum) (key : Key) : Prop :=
  ∃ o ∈ schema.optionsIn key.scope, o.get? "name" = some (.text key.name) ∧ o.IsCompleted

/-! ### What the schema asks for -/

namespace Definition

variable {d : Definition}

/-- An option of a subcommand asks for nothing. -/
theorem not_isCompleted_subcommand (s : Subcommand) :
    ¬ (d.optionSchema (.subcommand s)).toDatum.IsCompleted := by
  simp [Datum.IsCompleted, optionSchema, OptionSchema.toDatum, Datum.get?]

/-- The schema of a command from the chat asks for the arguments that have a completer. -/
theorem asksFor_schema_iff (h : d.WellFormed) (hkind : d.kind = .chatInput) {key : Key} :
    d.schema.toDatum.AsksFor key ↔ d.completers.contains key := by
  obtain ⟨scope, name⟩ := key
  have hmenu : d.kind.isContextMenu = false := by rw [hkind]; rfl
  constructor
  · rintro ⟨o, ho, hname, hcompleted⟩
    rcases (mem_optionsIn_iff hmenu).mp ho with ⟨e, he, rfl⟩ | ⟨-, s, -, rfl⟩
    · have hpresents := presentsArgument_argumentSchema h he
      rw [hpresents.name_eq] at hname
      obtain rfl : e.name = name := Datum.text.inj (Option.some.inj hname)
      exact hpresents.completed_iff.mp hcompleted
    · exact absurd hcompleted (not_isCompleted_subcommand s)
  · intro hkey
    obtain ⟨e, he, rfl⟩ := h.declared.completers_declared _ hkey
    have hpresents := presentsArgument_argumentSchema h he
    exact ⟨_, (mem_optionsIn_iff hmenu).mpr (.inl ⟨e, he, rfl⟩), hpresents.name_eq,
      hpresents.completed_iff.mpr hkey⟩

end Definition

/-! ### What the manager completes -/

namespace Manager

variable {d : Definition} {i : Interaction} {option : SuppliedOption} {completer : Completer}

/-- A focused option with a completer is completed, whatever the other options are. -/
theorem completionTarget?_of_focused (hfocused : i.focused? = some option)
    (hcompleter : d.completers.get? ⟨i.subcommand, option.name⟩ = some completer) :
    completionTarget? d i = some (option, completer) :=
  completionTarget?_eq_some_iff.mpr
    (.focused (Interaction.focused?_eq_some_iff.mp hfocused) hcompleter)

/-- What is completed has a completer in the scope of the interaction. -/
theorem get?_of_completionTarget? (h : completionTarget? d i = some (option, completer)) :
    d.completers.get? ⟨i.subcommand, option.name⟩ = some completer := by
  cases completionTarget?_eq_some_iff.mp h with
  | focused _ hcompleter => exact hcompleter
  | first _ _ _ hcompleter => exact hcompleter

/-- Only completers of the scope of the interaction are consulted. -/
theorem scope_of_consulted {settings : ManagerSettings} {responder : Responder} {key : Key}
    (h : .marked (.consulted key option) ∈ ((suggest settings d i).run responder).1) :
    key = ⟨i.subcommand, option.name⟩ ∧ d.completers.contains key := by
  cases htarget : completionTarget? d i with
  | none =>
    rw [suggest, htarget] at h
    cases h
  | some target =>
    obtain ⟨failed, hrun⟩ := run_suggest_of_target settings htarget responder
    rw [hrun] at h
    rcases List.mem_cons.mp h with h | h
    · cases h
      refine ⟨rfl, ?_⟩
      rw [Keyed.contains, get?_of_completionTarget? htarget]
      rfl
    · -- what the completer does on the way is no consultation, and neither is the message
      rcases List.mem_append.mp h with h | h
      · obtain ⟨_, ⟨⟩⟩ := Consultation.eq_worked_of_mem_record h
      · cases List.mem_singleton.mp h

/-- Completers of other scopes do not matter. -/
theorem suggest_congr (settings : ManagerSettings) {other : Definition}
    (h : ∀ name, other.completers.get? ⟨i.subcommand, name⟩ =
      d.completers.get? ⟨i.subcommand, name⟩) :
    suggest settings other i = suggest settings d i := by
  have htarget : completionTarget? other i = completionTarget? d i := by
    rw [completionTarget?, completionTarget?]
    simp only [h]
  rw [suggest, suggest, htarget]

end Manager

/-! ### Asking and completing -/

/-- Holds of a manager that serves the requests for suggestions that the schema of a definition asks
for.  The schema asks for exactly the options that have a completer.  If such an option is the first
that is focused, its completer is consulted once and for this option, and what it suggests is sent;
so the request is not ignored.  Completers of other scopes are not consulted, and could be any. -/
structure CompletesAsAsked (m : Manager) (d : Definition) : Prop where
  asks_iff : ∀ key, d.schema.toDatum.AsksFor key ↔ d.completers.contains key
  serves : ∀ key, d.schema.toDatum.AsksFor key → ∃ completer,
    d.completers.get? key = some completer ∧
    ∀ (i : Interaction) (responder : Responder) (focused : SuppliedOption),
      i.commandName = d.name → i.subcommand = key.scope → i.focused? = some focused →
      focused.name = key.name → ∃ failed, (m.autocomplete i).run responder =
        (.marked (.consulted key focused) :: ((completer focused i).record ++
            [.sent (.suggest (completer.suggestions m.settings focused i)) failed]),
          .suggested (completer.suggestions m.settings focused i).length)
  confined : ∀ (i : Interaction) (responder : Responder) key option, i.commandName = d.name →
    .marked (.consulted key option) ∈ ((m.autocomplete i).run responder).1 →
    key = ⟨i.subcommand, option.name⟩ ∧ d.completers.contains key
  independent : ∀ (i : Interaction) (other : Definition), i.commandName = d.name →
    (∀ name, other.completers.get? ⟨i.subcommand, name⟩ =
      d.completers.get? ⟨i.subcommand, name⟩) →
    m.autocomplete i = Manager.suggest m.settings other i

namespace Manager

variable {m : Manager} {d : Definition}

/-- **What a schema asks for is completed.**  Whatever calls a command from the chat is built by, a
manager that keeps it, with or without its schema, serves what its schema asks for. -/
theorem completes_as_asked {calls : List Call}
    (hbuild : (Draft.empty.applyAll calls).build = .ok d) (hkind : d.kind = .chatInput)
    {published : Option CommandSchema}
    (hkept : m.cache.get? d.name = some { d with published := published }) :
    CompletesAsAsked m d := by
  have hwell := Draft.wellFormed_of_build hbuild
  have hserved (i : Interaction) (hi : i.commandName = d.name) :
      m.autocomplete i = suggest m.settings { d with published := published } i := by
    rw [autocomplete, hi, hkept]
  refine ⟨fun key => Definition.asksFor_schema_iff hwell hkind, ?_, ?_, ?_⟩
  · intro key hasks
    obtain ⟨completer, hcompleter⟩ := Option.isSome_iff_exists.mp
      ((Definition.asksFor_schema_iff hwell hkind).mp hasks)
    refine ⟨completer, hcompleter, fun i responder focused hi hscope hfocused hname => ?_⟩
    -- the key that the manager looks up is the one that the schema asks for
    have hkey : key = ⟨i.subcommand, focused.name⟩ := by rw [hscope, hname]
    rw [hserved i hi, hkey]
    rw [hkey] at hcompleter
    exact run_suggest_of_target m.settings
      (completionTarget?_of_focused hfocused hcompleter) responder
  · intro i responder key option hi hmem
    rw [hserved i hi] at hmem
    exact scope_of_consulted hmem
  · intro i other hi hsame
    rw [hserved i hi]
    exact (suggest_congr m.settings hsame).symm

end Manager

/-- A request for suggestions while somebody is named. -/
def Interaction.rollFor : Interaction :=
  ⟨"1", "roll", .chatInput, some "for", [⟨"note", none, false⟩, ⟨"who", none, true⟩],
    ⟨"7", none⟩, none, none⟩

/-- The completer of `roll` is asked for, and it is consulted on the option that is typed. -/
theorem Manager.completes_as_asked_roll :
    let m := (Manager.new {}).add .roll
    (Draft.empty.applyAll Definition.rollCalls).build = .ok .roll ∧
      m.cache.get? "roll" = some { Definition.roll with published := none } ∧
      CompletesAsAsked m .roll ∧
      (m.autocomplete .rollFor).run (fun _ _ => .ok ()) =
        ([.marked (.consulted ⟨some "for", "who"⟩ ⟨"who", none, true⟩),
          .sent (.suggest [.ofText "me"]) false], .suggested 1) := by
  intro m
  have hkept : m.cache.get? Definition.roll.name =
      some { Definition.roll with published := none } := rfl
  exact ⟨Definition.build_roll, hkept, completes_as_asked Definition.build_roll rfl hkept, rfl⟩

end SlashCommands
