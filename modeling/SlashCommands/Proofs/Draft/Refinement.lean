import SlashCommands.Proofs.Draft.Log
import SlashCommands.Proofs.Draft.Refusal
import SlashCommands.Proofs.Draft.WellFormed

/-!
# Drafts and their logs

The log of a draft consists of the declarations of the calls that it has accepted
(`Draft.declarations`).  The main statement, `Draft.refines_of_build`, says that what a draft is
built to can be read off the log: its arguments scope by scope, its subcommands with their places
and descriptions, and for every key the suggestions and the default that were declared last.

* `Draft.Records` is the invariant: what a draft has so far is what its log says.
* `Draft.records_apply` is the step, one call that is accepted or refused; the calls that declare
  have lemmas of their own (`Draft.records_addSubcommand`, `Draft.records_addArgument`).
* `Draft.records_applyAll` is the run, by induction on the calls.
-/

namespace SlashCommands

namespace Completion

/-- The completer, if the suggestions come from one. -/
def completer? : Completion → Option Completer
  | .autocomplete completer => some completer
  | .choices _ => none

/-- The choices, if the suggestions are choices. -/
def choices? : Completion → Option (List String)
  | .autocomplete _ => none
  | .choices texts => some texts

end Completion

open Declaration (latest completionOf defaultOf)

/-- Holds of definitions that declare what a log says, all of it and nothing else.  The suggestions
for an argument, and its default, are those that were declared last under its key. -/
structure Definition.Refines (d : Definition) (log : List Declaration) : Prop where
  entries : ∀ scope, Node.entriesOf scope d.nodes = Declaration.entriesIn scope log
  nodes : d.nodes = Declaration.nodes log
  subcommands_nodup : (Node.subcommandNames d.nodes).Nodup
  mem_subcommands : ∀ name, name ∈ Node.subcommandNames d.nodes ↔ Declaration.Mentions log name
  completers : ∀ key, d.completers.get? key =
    (latest (completionOf key) log).bind Completion.completer?
  choices : ∀ key, d.choices.get? key = (latest (completionOf key) log).bind Completion.choices?
  defaults : ∀ key, d.defaults.get? key = latest (defaultOf key) log

namespace Draft

/-- The declarations of the calls that are accepted when all are made one after the other. -/
def declarations (d : Draft) (calls : List Call) : List Declaration :=
  (d.accepted calls).filterMap Declaration.ofCall?

/-- The invariant of drafts: what has been declared is what the log says. -/
structure Records (d : Draft) (log : List Declaration) : Prop where
  nodes : d.nodes = Declaration.nodes log
  completers : ∀ key, d.completers.get? key =
    (latest (completionOf key) log).bind Completion.completer?
  choices : ∀ key, d.choices.get? key = (latest (completionOf key) log).bind Completion.choices?
  defaults : ∀ key, d.defaults.get? key = latest (defaultOf key) log

variable {d : Draft} {log : List Declaration}

theorem records_empty : empty.Records [] where
  nodes := rfl
  completers := fun _ => rfl
  choices := fun _ => rfl
  defaults := fun _ => rfl

/-! ### What is recorded for a key -/

theorem completers_setCompletion (d : Draft) (key other : Key) (completion : Option Completion) :
    (d.setCompletion key completion).completers.get? other =
      if other = key ∧ completion.isSome then completion.bind Completion.completer?
      else d.completers.get? other := by
  rcases completion with - | (completer | texts)
  · simp [setCompletion]
  · simp [setCompletion, Keyed.get?_insert, Completion.completer?]
  · simp [setCompletion, Keyed.get?_erase, Completion.completer?]

theorem choices_setCompletion (d : Draft) (key other : Key) (completion : Option Completion) :
    (d.setCompletion key completion).choices.get? other =
      if other = key ∧ completion.isSome then completion.bind Completion.choices?
      else d.choices.get? other := by
  rcases completion with - | (completer | texts)
  · simp [setCompletion]
  · simp [setCompletion, Keyed.get?_erase, Completion.choices?]
  · simp [setCompletion, Keyed.get?_insert, Completion.choices?]

theorem defaults_setDefault (d : Draft) (key other : Key) (optional : Bool)
    (default : Option OptionValue) :
    (d.setDefault key optional default).defaults.get? other =
      if other = key ∧ optional ∧ default.isSome then default else d.defaults.get? other := by
  cases default with
  | none => simp [setDefault]
  | some value => cases optional <;> simp [setDefault, Keyed.get?_insert]

theorem setDefault_frame (d : Draft) (key : Key) (optional : Bool)
    (default : Option OptionValue) :
    ∃ defaults, d.setDefault key optional default = { d with defaults := defaults } := by
  cases default with
  | none => exact ⟨_, rfl⟩
  | some value => cases optional <;> exact ⟨_, rfl⟩

theorem setCompletion_frame (d : Draft) (key : Key) (completion : Option Completion) :
    ∃ completers choices,
      d.setCompletion key completion = { d with completers := completers, choices := choices } := by
  rcases completion with - | (completer | texts) <;> exact ⟨_, _, rfl⟩

/-! ### What is recorded with arguments

The suggestions for the last argument of a pattern and its default are recorded one after the other,
and keep out of each other's way. -/

theorem declareWith_frame (d : Draft) (o : ArgumentOptions) (tokens : List Token)
    (target : Token) :
    ∃ completers choices defaults, d.declareWith o tokens target =
      { d.declare o tokens with
        completers := completers, choices := choices, defaults := defaults } := by
  obtain ⟨defaults, hdefaults⟩ := setDefault_frame
    ((d.declare o tokens).setCompletion ⟨Token.scope? tokens, target.name⟩ o.completion)
    ⟨Token.scope? tokens, target.name⟩ target.optional o.default
  obtain ⟨completers, choices, hcompletion⟩ := setCompletion_frame (d.declare o tokens)
    ⟨Token.scope? tokens, target.name⟩ o.completion
  exact ⟨completers, choices, defaults, by rw [declareWith, hdefaults, hcompletion]⟩

theorem nodes_declareWith (d : Draft) (o : ArgumentOptions) (tokens : List Token)
    (target : Token) : (d.declareWith o tokens target).nodes = (d.declare o tokens).nodes := by
  obtain ⟨completers, choices, defaults, heq⟩ := declareWith_frame d o tokens target
  rw [heq]

theorem completers_declareWith (d : Draft) (o : ArgumentOptions) (tokens : List Token)
    (target : Token) (other : Key) :
    (d.declareWith o tokens target).completers.get? other =
      if other = ⟨Token.scope? tokens, target.name⟩ ∧ o.completion.isSome then
        o.completion.bind Completion.completer?
      else d.completers.get? other := by
  obtain ⟨defaults, hdefaults⟩ := setDefault_frame
    ((d.declare o tokens).setCompletion ⟨Token.scope? tokens, target.name⟩ o.completion)
    ⟨Token.scope? tokens, target.name⟩ target.optional o.default
  rw [declareWith, hdefaults]
  exact completers_setCompletion _ _ _ _

theorem choices_declareWith (d : Draft) (o : ArgumentOptions) (tokens : List Token)
    (target : Token) (other : Key) :
    (d.declareWith o tokens target).choices.get? other =
      if other = ⟨Token.scope? tokens, target.name⟩ ∧ o.completion.isSome then
        o.completion.bind Completion.choices?
      else d.choices.get? other := by
  obtain ⟨defaults, hdefaults⟩ := setDefault_frame
    ((d.declare o tokens).setCompletion ⟨Token.scope? tokens, target.name⟩ o.completion)
    ⟨Token.scope? tokens, target.name⟩ target.optional o.default
  rw [declareWith, hdefaults]
  exact choices_setCompletion _ _ _ _

theorem defaults_declareWith (d : Draft) (o : ArgumentOptions) (tokens : List Token)
    (target : Token) (other : Key) :
    (d.declareWith o tokens target).defaults.get? other =
      if other = ⟨Token.scope? tokens, target.name⟩ ∧ target.optional ∧ o.default.isSome then
        o.default
      else d.defaults.get? other := by
  obtain ⟨completers, choices, hcompletion⟩ := setCompletion_frame (d.declare o tokens)
    ⟨Token.scope? tokens, target.name⟩ o.completion
  rw [declareWith, defaults_setDefault, hcompletion]
  rfl

/-! ### The last declaration -/

/-- The suggestions declared last are those of the last declaration, or else those of the log before
it. -/
theorem bind_latest_concat {α : Type} (read : Completion → Option α) (key : Key)
    (m : Declaration) :
    (latest (completionOf key) (log ++ [m])).bind read =
      if (completionOf key m).isSome then (completionOf key m).bind read
      else (latest (completionOf key) log).bind read := by
  rw [Declaration.latest_concat]
  cases completionOf key m <;> simp

/-! ### The declaration of tokens -/

variable {o : ArgumentOptions} {tokens : List Token} {target : Token}

theorem scope_ofTokens (o : ArgumentOptions) (tokens : List Token) :
    (Declaration.ofTokens o tokens).scope = Token.scope? tokens := by
  cases tokens with
  | nil => rfl
  | cons t rest =>
    by_cases h : t.kind = .command
    · simp [Declaration.ofTokens, Token.scope?, h]
    · simp [Declaration.ofTokens, Token.scope?, h]

theorem entries_eq_dropLast (o : ArgumentOptions) (arguments : List Token) :
    o.entries arguments = arguments.dropLast.map (·.toEntry o.description none none) ++
      arguments.getLast?.toList.map (·.toEntry o.description o.min o.max) := by
  induction arguments with
  | nil => rfl
  | cons t rest ih =>
    cases rest with
    | nil => rfl
    | cons u rest =>
      rw [ArgumentOptions.entries, ih, List.dropLast_cons_cons, List.getLast?_cons_cons,
        List.map_cons, List.cons_append]
      simp

theorem arguments_eq_filter (tokens : List Token) :
    Token.arguments tokens = tokens.filter (·.kind ≠ .command) := by
  rw [Token.arguments]
  congr
  funext t
  cases t.kind <;> rfl

theorem entries_ofTokens (o : ArgumentOptions) (tokens : List Token) :
    (Declaration.ofTokens o tokens).entries = o.entries (Token.arguments tokens) := by
  rw [arguments_eq_filter, entries_eq_dropLast]
  rfl

theorem target_ofTokens (o : ArgumentOptions) (tokens : List Token) :
    (Declaration.ofTokens o tokens).target = (Token.arguments tokens).getLast? := by
  rw [arguments_eq_filter]
  rfl

/-- The arguments of tokens are added to the nodes of a log as to those of a draft. -/
theorem nodes_concat_ofTokens (log : List Declaration) (o : ArgumentOptions)
    (tokens : List Token) :
    Declaration.nodes (log ++ [Declaration.ofTokens o tokens]) =
      Node.append (Token.scope? tokens) (o.entries (Token.arguments tokens))
        (Declaration.nodes log) := by
  rw [Declaration.nodes_concat, entries_ofTokens, scope_ofTokens]
  cases hscope : Token.scope? tokens with
  | none => rfl
  | some name =>
    have hlabel : (Declaration.ofTokens o tokens).label = name := by
      show (Declaration.ofTokens o tokens).scope.getD "" = name
      rw [scope_ofTokens, hscope, Option.getD_some]
    rw [hlabel]
    rfl

theorem completionOf_ofTokens (h : (Token.arguments tokens).getLast? = some target) (key : Key) :
    completionOf key (Declaration.ofTokens o tokens) =
      if key = ⟨Token.scope? tokens, target.name⟩ then o.completion else none := by
  rw [completionOf, target_ofTokens, h, scope_ofTokens]
  simp only [Option.any_some, decide_eq_true_eq]
  rfl

theorem defaultOf_ofTokens (h : (Token.arguments tokens).getLast? = some target) (key : Key) :
    defaultOf key (Declaration.ofTokens o tokens) =
      if key = ⟨Token.scope? tokens, target.name⟩ ∧ target.optional then o.default else none := by
  rw [defaultOf, target_ofTokens, h, scope_ofTokens]
  simp only [Option.any_some, decide_eq_true_eq]
  rfl

/-- The suggestions declared last for a key are those of the tokens, if they declare any for it. -/
theorem bind_latest_concat_ofTokens {α : Type} (read : Completion → Option α)
    (h : (Token.arguments tokens).getLast? = some target) (key : Key) :
    (latest (completionOf key) (log ++ [Declaration.ofTokens o tokens])).bind read =
      if key = ⟨Token.scope? tokens, target.name⟩ ∧ o.completion.isSome then o.completion.bind read
      else (latest (completionOf key) log).bind read := by
  rw [bind_latest_concat, completionOf_ofTokens h]
  by_cases hkey : key = ⟨Token.scope? tokens, target.name⟩
  · simp [hkey]
  · simp [hkey]

/-- The default declared last for a key is that of the tokens, if they declare one for it. -/
theorem latest_defaultOf_concat_ofTokens (h : (Token.arguments tokens).getLast? = some target)
    (key : Key) :
    latest (defaultOf key) (log ++ [Declaration.ofTokens o tokens]) =
      if key = ⟨Token.scope? tokens, target.name⟩ ∧ target.optional ∧ o.default.isSome then
        o.default
      else latest (defaultOf key) log := by
  rw [Declaration.latest_concat, defaultOf_ofTokens h]
  by_cases hkey : key = ⟨Token.scope? tokens, target.name⟩
  · cases target.optional <;> cases o.default <;> simp [hkey]
  · simp [hkey]

/-- A declaration without arguments says nothing about suggestions and defaults. -/
theorem Records.of_no_target (h : d.Records log) {m : Declaration} (hm : m.target = none)
    {nodes : List Node} (hnodes : nodes = Declaration.nodes (log ++ [m])) :
    Records { d with nodes := nodes } (log ++ [m]) := by
  have hcompletion (key : Key) : completionOf key m = none := by simp [completionOf, hm]
  have hdefault (key : Key) : defaultOf key m = none := by simp [defaultOf, hm]
  refine ⟨hnodes, fun key => ?_, fun key => ?_, fun key => ?_⟩
  · rw [bind_latest_concat, hcompletion]
    exact h.completers key
  · rw [bind_latest_concat, hcompletion]
    exact h.choices key
  · rw [Declaration.latest_concat, hdefault, Option.none_or]
    exact h.defaults key

/-! ### Calls that declare -/

theorem records_addSubcommand (h : d.Records log) (name description : String) :
    Records { d with nodes := Node.ensure name description d.nodes }
      (log ++ [Declaration.ofSubcommand name description]) := by
  refine h.of_no_target rfl ?_
  rw [Declaration.nodes_concat, h.nodes]
  exact (Node.extend_nil name _).symm

theorem records_declareWith (h : d.Records log)
    (hlast : (Token.arguments tokens).getLast? = some target) :
    (d.declareWith o tokens target).Records (log ++ [Declaration.ofTokens o tokens]) := by
  refine ⟨?_, fun key => ?_, fun key => ?_, fun key => ?_⟩
  · rw [nodes_declareWith, nodes_concat_ofTokens, ← h.nodes]
    rfl
  · rw [bind_latest_concat_ofTokens _ hlast, ← h.completers, completers_declareWith]
  · rw [bind_latest_concat_ofTokens _ hlast, ← h.choices, choices_declareWith]
  · rw [latest_defaultOf_concat_ofTokens hlast, ← h.defaults, defaults_declareWith]

/-! ### Calls -/

/-- What a call adds to the log: its declaration, if it is accepted. -/
def logged (call : Call) : Except Fault Unit → List Declaration
  | .ok () => (Declaration.ofCall? call).toList
  | .error _ => []

theorem logged_of_none {call : Call} (hcall : Declaration.ofCall? call = none)
    (result : Except Fault Unit) : logged call result = [] := by
  cases result with
  | ok => rw [logged, hcall, Option.toList_none]
  | error fault => rfl

/-- A call that declares nothing adds nothing to the log. -/
theorem Records.of_ofCall?_none {call : Call} (h : d.Records log)
    (hcall : Declaration.ofCall? call = none) (result : Except Fault Unit) :
    d.Records (log ++ logged call result) := by
  rw [logged_of_none hcall, List.append_nil]
  exact h

/-- The invariant looks at the arguments and what is recorded for them, and at nothing else. -/
theorem Records.frame (h : d.Records log) {d' : Draft} (hnodes : d'.nodes = d.nodes)
    (hcompleters : d'.completers = d.completers) (hchoices : d'.choices = d.choices)
    (hdefaults : d'.defaults = d.defaults) : d'.Records log := by
  refine ⟨?_, ?_, ?_, ?_⟩
  · rw [hnodes]
    exact h.nodes
  · rw [hcompleters]
    exact h.completers
  · rw [hchoices]
    exact h.choices
  · rw [hdefaults]
    exact h.defaults

theorem records_setDescription (h : d.Records log) (description : String) :
    (d.setDescription description).1.Records log := by
  rw [setDescription]
  split
  · exact h
  · split
    · exact h
    · exact h.frame rfl rfl rfl rfl

theorem records_setCommand (h : d.Records log) (name description : String) :
    (d.setCommand name description).1.Records log := by
  rw [setCommand]
  split
  · exact h
  · have hnamed : Records { d with command := some name } log := h.frame rfl rfl rfl rfl
    exact records_setDescription hnamed description

theorem records_addArgument (h : d.Records log) (o : ArgumentOptions) :
    (d.addArgument o).1.Records (log ++ logged (.addArgument o) (d.addArgument o).2) := by
  rcases addArgument_cases d o with ⟨fault, heq⟩ | ⟨tokens, htokens, hcases⟩
  · rw [heq]
    simpa [refuse, logged] using h
  · have hlogged : logged (.addArgument o) (.ok ()) = [Declaration.ofTokens o tokens] := by
      rw [logged, Declaration.ofCall?, htokens, Option.toList_some]
    rcases hcases with ⟨hnone, -, heq⟩ | ⟨target, hlast, -, heq⟩
    · rw [heq, accept, hlogged]
      refine h.of_no_target ?_ ?_
      · rw [target_ofTokens, hnone, List.getLast?_nil]
      · rw [nodes_concat_ofTokens, h.nodes]
    · rw [heq, accept, hlogged]
      exact records_declareWith h hlast

theorem records_whenNamed {operation : String} {change : Draft → Outcome} {call : Call}
    (h : d.Records log) (hchange : (change d).1.Records (log ++ logged call (change d).2)) :
    (d.whenNamed operation change).1.Records
      (log ++ logged call (d.whenNamed operation change).2) := by
  rcases whenNamed_cases d operation change with heq | heq
  · rw [heq, refuse, logged, List.append_nil]
    exact h
  · rw [heq]
    exact hchange

/-- Every call keeps the invariant, with what it adds to the log. -/
theorem records_apply (h : d.Records log) (call : Call) :
    (d.apply call).1.Records (log ++ logged call (d.apply call).2) := by
  cases call with
  | setCommand name description =>
    exact (records_setCommand h name description).of_ofCall?_none rfl _
  | setDescription description => exact (records_setDescription h description).of_ofCall?_none rfl _
  | setKind kind =>
    refine Records.of_ofCall?_none ?_ rfl _
    exact h.frame rfl rfl rfl rfl
  | addSubcommand name description =>
    exact records_whenNamed h (records_addSubcommand h name description)
  | addArgument options => exact records_whenNamed h (records_addArgument h options)
  | addRequire value =>
    refine records_whenNamed h (Records.of_ofCall?_none ?_ rfl _)
    rw [addRequirement]
    split
    · exact h
    · exact h.frame rfl rfl rfl rfl
  | addChannel channel =>
    refine records_whenNamed h (Records.of_ofCall?_none ?_ rfl _)
    exact h.frame rfl rfl rfl rfl
  | addGuild guild =>
    refine records_whenNamed h (Records.of_ofCall?_none ?_ rfl _)
    exact h.frame rfl rfl rfl rfl
  | setAction action =>
    refine records_whenNamed h (Records.of_ofCall?_none ?_ rfl _)
    exact h.frame rfl rfl rfl rfl

theorem declarations_cons (d : Draft) (call : Call) (rest : List Call) :
    d.declarations (call :: rest) =
      logged call (d.apply call).2 ++ (d.apply call).1.declarations rest := by
  rw [declarations, accepted]
  rcases d.apply call with ⟨d', - | -⟩
  · rfl
  · dsimp only
    rw [List.filterMap_cons, logged]
    cases Declaration.ofCall? call <;> rfl

/-- A run of calls adds its declarations to the log. -/
theorem records_applyAll (h : d.Records log) (calls : List Call) :
    (d.applyAll calls).Records (log ++ d.declarations calls) := by
  induction calls generalizing d log with
  | nil =>
    rw [applyAll_nil, declarations, accepted, List.filterMap_nil, List.append_nil]
    exact h
  | cons call rest ih =>
    rw [applyAll_cons, declarations_cons, ← List.append_assoc]
    exact ih (records_apply h call)

theorem Records.build (h : d.Records log) {definition : Definition}
    (hbuild : d.build = .ok definition) : definition.Refines log := by
  obtain ⟨-, hnodes, hcompleters, hchoices, hdefaults, -⟩ := build_fields hbuild
  rw [h.nodes] at hnodes
  refine ⟨fun scope => ?_, hnodes, ?_, fun name => ?_, ?_, ?_, ?_⟩
  · rw [hnodes, Declaration.entriesOf_nodes]
  · rw [hnodes]
    exact Declaration.nodup_subcommandNames_nodes log
  · rw [hnodes, Declaration.mem_subcommandNames_nodes]
  · rw [hcompleters]
    exact h.completers
  · rw [hchoices]
    exact h.choices
  · rw [hdefaults]
    exact h.defaults

/-- **A definition is what was declared**: whatever calls a draft is grown by, refused ones among
them, what it is built to declares exactly what the accepted calls declare, in their order, and
records for each argument the suggestions and the default that came last. -/
theorem refines_of_build {calls : List Call} {definition : Definition}
    (h : (empty.applyAll calls).build = .ok definition) :
    definition.Refines (empty.declarations calls) :=
  Records.build (records_applyAll records_empty calls) h

theorem refines_redeclaring :
    ∃ definition, (empty.applyAll redeclaring).build = .ok definition ∧
      definition.Refines (empty.declarations redeclaring) := by
  have hcomplete : (empty.applyAll redeclaring).IsComplete :=
    applyAll_invariant isComplete_apply (d := empty.applyAll (redeclaring.take 2)) ⟨rfl, rfl⟩
      (redeclaring.drop 2)
  obtain ⟨definition, hbuild⟩ := exists_build_of_isComplete hcomplete
  exact ⟨definition, hbuild, refines_of_build hbuild⟩

end Draft

end SlashCommands
