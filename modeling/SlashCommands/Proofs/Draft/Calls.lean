import SlashCommands.Draft

/-!
# Calls on a draft

`Draft.addArgument_cases` says what a call that adds arguments can do, and `Draft.apply_addArgument`
and its like what calls come to on a draft with a name.  `Draft.applyAll_invariant` carries what
every call keeps over to sequences of calls, refused ones among them.
-/

namespace SlashCommands.Draft

/-- The draft with the arguments of some tokens. -/
def declare (d : Draft) (o : ArgumentOptions) (tokens : List Token) : Draft :=
  { d with nodes := Node.append (Token.scope? tokens) (o.entries (Token.arguments tokens)) d.nodes }

/-- The draft with the arguments of some tokens and what belongs to the last of them. -/
def declareWith (d : Draft) (o : ArgumentOptions) (tokens : List Token) (target : Token) : Draft :=
  ((d.declare o tokens).setCompletion ⟨Token.scope? tokens, target.name⟩ o.completion).setDefault
    ⟨Token.scope? tokens, target.name⟩ target.optional o.default

/-- A call that adds arguments is refused and leaves the draft as it is, or it adds the arguments of
a pattern: none if the pattern selects a subcommand and nothing belongs to an argument, and
otherwise some of which the last is a number if there are bounds. -/
theorem addArgument_cases (d : Draft) (o : ArgumentOptions) :
    (∃ fault, d.addArgument o = d.refuse fault) ∨
      ∃ tokens, Pattern.tokens o.pattern = .ok tokens ∧
        (Token.arguments tokens = [] ∧ o.targetsArgument = false ∧
            d.addArgument o = accept (d.declare o tokens) ∨
          ∃ target, (Token.arguments tokens).getLast? = some target ∧
            (o.isBounded → isNumericDatatype target.datatype) ∧
            d.addArgument o = accept (d.declareWith o tokens target)) := by
  rw [addArgument]
  cases htokens : Pattern.tokens o.pattern with
  | error fault => exact .inl ⟨fault, rfl⟩
  | ok tokens =>
    dsimp only
    cases hlast : (Token.arguments tokens).getLast? with
    | none =>
      dsimp only
      cases htarget : o.targetsArgument with
      | true => exact .inl ⟨_, rfl⟩
      | false => exact .inr ⟨tokens, rfl, .inl ⟨List.getLast?_eq_none_iff.mp hlast, rfl, rfl⟩⟩
    | some target =>
      dsimp only
      split
      · exact .inl ⟨_, rfl⟩
      · next hbound =>
        refine .inr ⟨tokens, rfl, .inr ⟨target, hlast, fun hbounded => ?_, rfl⟩⟩
        rw [hbounded, Bool.true_and, Bool.not_eq_true', Bool.not_eq_false] at hbound
        exact hbound

/-- Adding arguments changes nothing but the arguments and what is recorded for them. -/
theorem addArgument_frame (d : Draft) (o : ArgumentOptions) :
    ∃ nodes completers choices defaults, (d.addArgument o).1 =
      { d with
        nodes := nodes, completers := completers, choices := choices, defaults := defaults } := by
  rcases addArgument_cases d o with ⟨fault, heq⟩ | ⟨tokens, -, ⟨-, -, heq⟩ | ⟨target, -, -, heq⟩⟩
  · rw [heq]
    exact ⟨_, _, _, _, rfl⟩
  · rw [heq]
    exact ⟨_, _, _, _, rfl⟩
  · rw [heq, accept, declareWith]
    rcases o.completion with - | (completer | texts) <;> rcases o.default with - | value <;>
      cases target.optional <;> exact ⟨_, _, _, _, rfl⟩

/-- A change that needs the name of the command is made or refused. -/
theorem whenNamed_cases (d : Draft) (operation : String) (change : Draft → Outcome) :
    d.whenNamed operation change = d.refuse (.commandNotSet operation) ∨
      d.whenNamed operation change = change d := by
  rw [whenNamed]
  split
  · exact .inr rfl
  · exact .inl rfl

theorem whenNamed_of_isSome {d : Draft} (h : d.command.isSome) (operation : String)
    (change : Draft → Outcome) : d.whenNamed operation change = change d :=
  if_pos h

/-- What holds of a draft and after a change holds if the change is refused for lack of a name. -/
theorem whenNamed_keeps {P : Draft → Prop} {d : Draft} {operation : String}
    {change : Draft → Outcome} (h : P d) (hchange : P (change d).1) :
    P (d.whenNamed operation change).1 := by
  rcases whenNamed_cases d operation change with heq | heq
  · rw [heq]
    exact h
  · rw [heq]
    exact hchange

/-! ### Calls on a draft with a name -/

section

variable {d : Draft}

theorem apply_addSubcommand (hnamed : d.command.isSome) (name description : String) :
    d.apply (.addSubcommand name description) =
      accept { d with nodes := Node.ensure name description d.nodes } := by
  rw [apply]
  exact whenNamed_of_isSome hnamed _ _

theorem apply_addArgument (hnamed : d.command.isSome) (o : ArgumentOptions) :
    d.apply (.addArgument o) = d.addArgument o := by
  rw [apply]
  exact whenNamed_of_isSome hnamed _ _

theorem apply_addRequire (hnamed : d.command.isSome) (value : String) :
    d.apply (.addRequire value) = accept (d.addRequirement (.classify value)) := by
  rw [apply]
  exact whenNamed_of_isSome hnamed _ _

theorem apply_addChannel (hnamed : d.command.isSome) (channel : String) :
    d.apply (.addChannel channel) = accept { d with channels := d.channels.insert channel () } := by
  rw [apply]
  exact whenNamed_of_isSome hnamed _ _

theorem apply_addGuild (hnamed : d.command.isSome) (guild : String) :
    d.apply (.addGuild guild) = accept { d with guilds := d.guilds.insert guild () } := by
  rw [apply]
  exact whenNamed_of_isSome hnamed _ _

theorem apply_setAction (hnamed : d.command.isSome) (action : Action) :
    d.apply (.setAction action) = accept { d with action := action } := by
  rw [apply]
  exact whenNamed_of_isSome hnamed _ _

end

/-! ### Sequences of calls -/

@[simp]
theorem applyAll_nil (d : Draft) : d.applyAll [] = d := rfl

@[simp]
theorem applyAll_cons (d : Draft) (call : Call) (rest : List Call) :
    d.applyAll (call :: rest) = (d.apply call).1.applyAll rest := rfl

/-- What holds of a draft and is kept by every call holds after any calls. -/
theorem applyAll_invariant {P : Draft → Prop} (hstep : ∀ d call, P d → P (apply d call).1)
    {d : Draft} (h : P d) (calls : List Call) : P (d.applyAll calls) := by
  induction calls generalizing d with
  | nil => exact h
  | cons call rest ih =>
    rw [applyAll_cons]
    exact ih (hstep d call h)

/-! ### Drafts that can be built -/

/-- Holds of drafts that have a name and a description. -/
def IsComplete (d : Draft) : Prop :=
  d.command.isSome ∧ d.description.isSome

theorem exists_build_of_isComplete {d : Draft} (h : d.IsComplete) :
    ∃ definition, d.build = .ok definition := by
  obtain ⟨name, hname⟩ := Option.isSome_iff_exists.mp h.1
  obtain ⟨description, hdescription⟩ := Option.isSome_iff_exists.mp h.2
  rw [build, hname, hdescription]
  exact ⟨_, rfl⟩

/-- What a draft is built to has its description, its arguments and its requirements. -/
theorem build_fields {d : Draft} {definition : Definition} (h : d.build = .ok definition) :
    d.description = some definition.description ∧ definition.nodes = d.nodes ∧
      definition.completers = d.completers ∧ definition.choices = d.choices ∧
      definition.defaults = d.defaults ∧ definition.requires = d.requires := by
  rw [build] at h
  split at h
  · cases h
  · cases h
  · next hdescription =>
    cases h
    exact ⟨hdescription, rfl, rfl, rfl, rfl, rfl⟩

/-- A draft that can be built still can after any call. -/
theorem isComplete_apply (d : Draft) (call : Call) (h : d.IsComplete) :
    (d.apply call).1.IsComplete := by
  have of_description {d : Draft} (h : d.IsComplete) (description : String) :
      (d.setDescription description).1.IsComplete := by
    rw [setDescription]
    split
    · exact h
    · split
      · exact h
      · exact ⟨h.1, rfl⟩
  cases call with
  | setCommand name description =>
    obtain ⟨existing, hexisting⟩ := Option.isSome_iff_exists.mp h.1
    rw [apply, setCommand, hexisting]
    exact h
  | setDescription description => exact of_description h description
  | setKind kind => exact h
  | addSubcommand name description => exact whenNamed_keeps h h
  | addArgument options =>
    obtain ⟨nodes, completers, choices, defaults, heq⟩ := addArgument_frame d options
    refine whenNamed_keeps h ?_
    rw [heq]
    exact h
  | addRequire value =>
    refine whenNamed_keeps h ?_
    rw [addRequirement]
    split <;> exact h
  | addChannel channel => exact whenNamed_keeps h h
  | addGuild guild => exact whenNamed_keeps h h
  | setAction action => exact whenNamed_keeps h h

end SlashCommands.Draft
