import SlashCommands.Proofs.Serving.Record
import SlashCommands.Proofs.Settings.Loading

/-!
# Requests for suggestions are answered once

`Definition.Completes` says which option is completed when somebody types, and `AnswersOnce` what
serving the request leaves: nothing, or one completer consulted once and one message sent, whatever
comes of either.  The main statement, `Manager.answers_once`, adds that the message has no more
suggestions than the platform takes if the settings were loaded.

* `Manager.completionTarget?_eq_some_iff` and `Manager.completionTarget?_eq_none_iff` say how the
  option is found.
* `Manager.answersOnce_run_autocomplete` has the record; how long the message is follows from it
  (`AnswersOnce.length_le`).
-/

namespace SlashCommands

/-- Holds of the first option of an interaction that is being typed. -/
def Interaction.IsFirstFocused (i : Interaction) (option : SuppliedOption) : Prop :=
  ∃ before after, i.options = before ++ option :: after ∧ option.focused ∧
    ∀ o ∈ before, o.focused = false

/-- Holds of the option of an interaction that is completed, and of the completer that it has in the
scope of the interaction: the option that is being typed, if it has one, and otherwise the first
that has one. -/
inductive Definition.Completes (d : Definition) (i : Interaction) :
    SuppliedOption → Completer → Prop
  | focused {option : SuppliedOption} {completer : Completer} (hfocused : i.IsFirstFocused option)
    (hcompleter : d.completers.get? ⟨i.subcommand, option.name⟩ = some completer) :
    Completes d i option completer
  | first {option : SuppliedOption} {completer : Completer} {before after : List SuppliedOption}
    (hfocused : ∀ o, i.IsFirstFocused o → d.completers.get? ⟨i.subcommand, o.name⟩ = none)
    (hoptions : i.options = before ++ option :: after)
    (hbefore : ∀ o ∈ before, d.completers.get? ⟨i.subcommand, o.name⟩ = none)
    (hcompleter : d.completers.get? ⟨i.subcommand, option.name⟩ = some completer) :
    Completes d i option completer

/-- Holds of what serving a request for suggestions leaves if it is answered once.  It is ignored
just in case the command is not kept or none of the options has a completer in the scope of the
interaction; then nothing happens.  Otherwise the completer of one option is consulted once, with
what it does on the way, and then one message is sent: as many of its texts as the settings allow,
from the first on, or none if it failed.  How many that are is the outcome, whether sending them
fails or not. -/
structure AnswersOnce (settings : ManagerSettings) (kept : Option Definition) (i : Interaction)
    (record : List Event) (outcome : CompletionOutcome) : Prop where
  ignored_iff : outcome = .ignored ↔
    ∀ d, kept = some d → ∀ o ∈ i.options, d.completers.get? ⟨i.subcommand, o.name⟩ = none
  silent : outcome = .ignored → record = []
  completed : outcome ≠ .ignored → ∃ d option completer, kept = some d ∧
    d.Completes i option completer
  answered : ∀ d option completer texts, kept = some d → d.Completes i option completer →
    (completer option i).result = .ok texts ∨
      (∃ cause, (completer option i).result = .error cause) ∧ texts = [] →
    ∃ failed, record =
        .marked (.consulted ⟨i.subcommand, option.name⟩ option) :: ((completer option i).record ++
          [.sent (.suggest ((texts.take settings.maxSuggestions).map fun text => ⟨text, text⟩))
            failed]) ∧
      outcome = .suggested (min texts.length settings.maxSuggestions)

/-! ### The option that is completed -/

theorem Interaction.focused?_eq_some_iff {i : Interaction} {option : SuppliedOption} :
    i.focused? = some option ↔ i.IsFirstFocused option := by
  rw [focused?, List.find?_eq_some_iff_append, IsFirstFocused]
  simp only [Bool.not_eq_eq_eq_not, Bool.not_true]
  constructor
  · rintro ⟨hfocused, before, after, hoptions, hbefore⟩
    exact ⟨before, after, hoptions, hfocused, hbefore⟩
  · rintro ⟨before, after, hoptions, hfocused, hbefore⟩
    exact ⟨hfocused, before, after, hoptions, hbefore⟩

namespace Manager

variable {d : Definition} {i : Interaction} {option : SuppliedOption} {completer : Completer}

/-- An option is found together with its completer. -/
theorem withCompleter_eq_some_iff {o : SuppliedOption} :
    (d.completers.get? ⟨i.subcommand, o.name⟩).map (o, ·) = some (option, completer) ↔
      o = option ∧ d.completers.get? ⟨i.subcommand, option.name⟩ = some completer := by
  rw [Option.map_eq_some_iff]
  constructor
  · rintro ⟨_, hget, heq⟩
    obtain ⟨rfl, rfl⟩ := Prod.mk.inj heq
    exact ⟨rfl, hget⟩
  · rintro ⟨rfl, hget⟩
    exact ⟨completer, hget, rfl⟩

theorem completionTarget?_eq_some_iff :
    completionTarget? d i = some (option, completer) ↔ d.Completes i option completer := by
  rw [completionTarget?, Option.or_eq_some_iff, Option.bind_eq_some_iff, Option.bind_eq_none_iff,
    List.findSome?_eq_some_iff]
  simp only [Interaction.focused?_eq_some_iff, withCompleter_eq_some_iff, Option.map_eq_none_iff]
  constructor
  · rintro (⟨o, hfocused, rfl, hget⟩ | ⟨hfocused, before, o, after, hoptions, ⟨rfl, hget⟩, hbefore⟩)
    · exact .focused hfocused hget
    · exact .first hfocused hoptions hbefore hget
  · intro h
    cases h with
    | focused hfocused hget => exact .inl ⟨option, hfocused, rfl, hget⟩
    | first hfocused hoptions hbefore hget =>
      exact .inr ⟨hfocused, _, option, _, hoptions, ⟨rfl, hget⟩, hbefore⟩

theorem completionTarget?_eq_none_iff :
    completionTarget? d i = none ↔
      ∀ o ∈ i.options, d.completers.get? ⟨i.subcommand, o.name⟩ = none := by
  rw [completionTarget?, Option.or_eq_none_iff, Option.bind_eq_none_iff,
    List.findSome?_eq_none_iff]
  simp only [Option.map_eq_none_iff]
  constructor
  · exact And.right
  · -- what is being typed is one of the options
    exact fun h => ⟨fun o hfocused => h o (List.mem_of_find?_eq_some hfocused), h⟩

/-! ### What is left -/

theorem suggestions_of_answer {settings : ManagerSettings} {texts : List String}
    (h : (completer option i).result = .ok texts ∨
      (∃ cause, (completer option i).result = .error cause) ∧ texts = []) :
    completer.suggestions settings option i =
      (texts.take settings.maxSuggestions).map fun text => ⟨text, text⟩ := by
  rw [Completer.suggestions]
  rcases h with hok | ⟨⟨cause, herror⟩, rfl⟩
  · rw [hok]
    rfl
  · rw [herror, List.take_nil, List.map_nil]

/-- Nothing is done for a request that finds no completer. -/
theorem answersOnce_of_forall_none {settings : ManagerSettings} {kept : Option Definition}
    (h : ∀ d, kept = some d → ∀ o ∈ i.options, d.completers.get? ⟨i.subcommand, o.name⟩ = none) :
    AnswersOnce settings kept i [] .ignored where
  ignored_iff := iff_of_true rfl h
  silent := fun _ => rfl
  completed := fun hne => absurd rfl hne
  answered := fun d option completer texts hkept hcompletes => by
    rw [← completionTarget?_eq_some_iff, completionTarget?_eq_none_iff.mpr (h d hkept)]
      at hcompletes
    cases hcompletes

/-- The completer that is found is consulted, and what it suggests is sent. -/
theorem answersOnce_of_target {settings : ManagerSettings} {failed : Bool}
    (htarget : completionTarget? d i = some (option, completer)) :
    AnswersOnce settings (some d) i
      (.marked (.consulted ⟨i.subcommand, option.name⟩ option) :: ((completer option i).record ++
        [.sent (.suggest (completer.suggestions settings option i)) failed]))
      (.suggested (completer.suggestions settings option i).length) where
  ignored_iff := by
    refine iff_of_false (by simp) fun h => ?_
    rw [completionTarget?_eq_none_iff.mpr (h d rfl)] at htarget
    cases htarget
  silent := by simp
  completed := fun _ => ⟨d, option, completer, rfl, completionTarget?_eq_some_iff.mp htarget⟩
  answered := by
    rintro _ option' completer' texts ⟨rfl⟩ hcompletes hanswer
    -- the option that is completed is the one that was found
    rw [completionTarget?_eq_some_iff.mpr hcompletes] at htarget
    cases htarget
    rw [suggestions_of_answer hanswer, List.length_map, List.length_take, Nat.min_comm]
    exact ⟨failed, rfl, rfl⟩

/-- Whoever answers it, a request for suggestions is answered once. -/
theorem answersOnce_run_autocomplete (m : Manager) (i : Interaction) (responder : Responder) :
    AnswersOnce m.settings (m.cache.get? i.commandName) i ((m.autocomplete i).run responder).1
      ((m.autocomplete i).run responder).2 := by
  rw [autocomplete]
  cases hkept : m.cache.get? i.commandName with
  | none => exact answersOnce_of_forall_none (by simp)
  | some d =>
    dsimp only
    cases htarget : completionTarget? d i with
    | none =>
      rw [suggest, htarget]
      refine answersOnce_of_forall_none ?_
      rintro _ ⟨rfl⟩
      exact completionTarget?_eq_none_iff.mp htarget
    | some target =>
      obtain ⟨failed, hrun⟩ := run_suggest_of_target m.settings htarget responder
      rw [hrun]
      exact answersOnce_of_target htarget

end Manager

/-- No message has more suggestions than the settings allow. -/
theorem AnswersOnce.length_le {settings : ManagerSettings} {kept : Option Definition}
    {i : Interaction} {record : List Event} {outcome : CompletionOutcome}
    (h : AnswersOnce settings kept i record outcome) {found : List Suggestion} {failed : Bool}
    (hsent : .sent (.suggest found) failed ∈ record) : found.length ≤ settings.maxSuggestions := by
  by_cases hignored : outcome = .ignored
  · rw [h.silent hignored] at hsent
    cases hsent
  · obtain ⟨d, option, completer, hkept, hcompletes⟩ := h.completed hignored
    obtain ⟨texts, htexts⟩ : ∃ texts, (completer option i).result = .ok texts ∨
        (∃ cause, (completer option i).result = .error cause) ∧ texts = [] := by
      cases (completer option i).result with
      | ok texts => exact ⟨texts, .inl rfl⟩
      | error cause => exact ⟨[], .inr ⟨⟨cause, rfl⟩, rfl⟩⟩
    obtain ⟨_, hrecord, -⟩ := h.answered d option completer texts hkept hcompletes htexts
    rw [hrecord] at hsent
    -- the completer itself leaves no message
    obtain ⟨⟨⟩⟩ | hsent := List.mem_cons.mp hsent
    obtain hsent | hsent := List.mem_append.mp hsent
    · obtain ⟨_, ⟨⟩⟩ := Consultation.eq_worked_of_mem_record hsent
    · cases List.mem_singleton.mp hsent
      rw [List.length_map, List.length_take]
      exact Nat.min_le_left _ _

/-- **A request for suggestions is answered once**, whatever the completer and whoever answers do,
and with no more suggestions than the platform takes if the settings of the manager were loaded. -/
theorem Manager.answers_once (m : Manager) (i : Interaction) (responder : Responder) :
    AnswersOnce m.settings (m.cache.get? i.commandName) i ((m.autocomplete i).run responder).1
        ((m.autocomplete i).run responder).2 ∧
      ∀ {σ : Type} (toml : Toml.Codec) (host : Host (StateM σ)) env path flags (before after : σ)
        (s : Settings), (Settings.load toml host env path flags).run before = (.ok s, after) →
        m.settings = s.toManagerSettings →
        ∀ found failed, .sent (.suggest found) failed ∈ ((m.autocomplete i).run responder).1 →
          found.length ≤ 25 := by
  have hanswers := answersOnce_run_autocomplete m i responder
  refine ⟨hanswers, fun toml host env path flags before after s hload hsettings found failed hsent =>
    ?_⟩
  have hle : found.length ≤ s.maxSuggestions := by
    have hlength := hanswers.length_le hsent
    rwa [hsettings] at hlength
  exact Nat.le_trans hle (Settings.maxSuggestions_le_of_load hload)

end SlashCommands
