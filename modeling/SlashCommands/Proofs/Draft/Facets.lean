import SlashCommands.Proofs.Draft.Refinement

/-!
# Independent calls

Each call is on one facet of a draft, and on a draft with a name facets do not get into each other's
way.  `Draft.restrict` is the draft with one facet and without the others:

* `Draft.apply_restrict`: a call does the same to its facet, and answers the same, if the draft has
  no other facets;
* `Draft.restrict_apply_of_ne`: it leaves the other facets as they are;
* `Draft.restrict_applyAll` and `Draft.filter_answers`: so a run of calls makes of a facet what the
  calls on this facet alone make of it.

The main statement, `Draft.interleavings_agree`, says that the order of calls on different facets
does not matter, and neither does the order of channels or of guilds; and that it changes nothing to
add a channel, a guild, a requirement or a subcommand that has been added before.
-/

namespace SlashCommands

namespace Call

/-- What a call is on. -/
inductive Facet
  | naming
  | description
  | kind
  | action
  | requires
  | channels
  | guilds
  | arguments
  deriving DecidableEq

/-- The facet that a call is on. -/
def facet : Call → Facet
  | .setCommand _ _ => .naming
  | .setDescription _ => .description
  | .setKind _ => .kind
  | .addSubcommand _ _ => .arguments
  | .addArgument _ => .arguments
  | .addRequire _ => .requires
  | .addChannel _ => .channels
  | .addGuild _ => .guilds
  | .setAction _ => .action

/-- Holds of two ways to interleave the same calls on the facets: the calls on each facet come in
the same order. -/
def Interleave (calls calls' : List Call) : Prop :=
  ∀ f, calls.filter (·.facet == f) = calls'.filter (·.facet == f)

/-- Holds of a call and one that adds the same once more; a subcommand may come with another
description. -/
inductive IsRepeatedBy : Call → Call → Prop
  | channel (channel : String) : IsRepeatedBy (.addChannel channel) (.addChannel channel)
  | guild (guild : String) : IsRepeatedBy (.addGuild guild) (.addGuild guild)
  | require (value : String) : IsRepeatedBy (.addRequire value) (.addRequire value)
  | subcommand (name description description' : String) :
      IsRepeatedBy (.addSubcommand name description) (.addSubcommand name description')

end Call

open Call (Facet Interleave)

namespace Draft

/-- What is answered to calls that are made one after the other. -/
def answers (d : Draft) : List Call → List (Call × Except Fault Unit)
  | [] => []
  | call :: rest => (call, (d.apply call).2) :: (d.apply call).1.answers rest

/-- Holds of calls of which it does not matter which comes first: the draft is the same afterwards,
and each call is answered in the same way. -/
structure Commute (d : Draft) (call call' : Call) : Prop where
  draft_eq : ((d.apply call).1.apply call').1 = ((d.apply call').1.apply call).1
  answer_eq : (d.apply call).2 = ((d.apply call').1.apply call).2
  answer_eq' : ((d.apply call).1.apply call').2 = (d.apply call').2

/-- The draft with its name and one facet, and without the others. -/
def restrict (d : Draft) (f : Facet) : Draft :=
  let bare := { empty with command := d.command }
  match f with
  | .naming => bare
  | .description => { bare with description := d.description }
  | .kind => { bare with kind := d.kind }
  | .action => { bare with action := d.action }
  | .requires => { bare with requires := d.requires }
  | .channels => { bare with channels := d.channels }
  | .guilds => { bare with guilds := d.guilds }
  | .arguments =>
    { bare with
      nodes := d.nodes, completers := d.completers, choices := d.choices, defaults := d.defaults }

variable {d d' : Draft} {call call' again : Call} {f : Facet}

@[simp]
theorem command_restrict (d : Draft) (f : Facet) : (d.restrict f).command = d.command := by
  cases f <;> rfl

/-- Drafts that have all facets in common are equal. -/
theorem eq_of_restrict_eq (h : ∀ f, d.restrict f = d'.restrict f) : d = d' := by
  have same {α : Type} (field : Draft → α) (f : Facet) :
      field (d.restrict f) = field (d'.restrict f) := congrArg field (h f)
  have hcommand : d.command = d'.command := same command .naming
  have hdescription : d.description = d'.description := same description .description
  have hkind : d.kind = d'.kind := same kind .kind
  have haction : d.action = d'.action := same action .action
  have hrequires : d.requires = d'.requires := same requires .requires
  have hchannels : d.channels = d'.channels := same channels .channels
  have hguilds : d.guilds = d'.guilds := same guilds .guilds
  have hnodes : d.nodes = d'.nodes := same nodes .arguments
  have hcompleters : d.completers = d'.completers := same completers .arguments
  have hchoices : d.choices = d'.choices := same choices .arguments
  have hdefaults : d.defaults = d'.defaults := same defaults .arguments
  cases d
  cases d'
  simp_all only

/-! ### One call -/

/-- The name of a draft is not changed any more. -/
theorem command_apply (hnamed : d.command.isSome) (call : Call) :
    (d.apply call).1.command = d.command := by
  cases call with
  | setCommand name description =>
    obtain ⟨existing, hexisting⟩ := Option.isSome_iff_exists.mp hnamed
    rw [apply, setCommand, hexisting]
    exact hexisting
  | setDescription description =>
    rw [apply, setDescription]
    split
    · rfl
    · split <;> rfl
  | setKind kind => rfl
  | addSubcommand name description => rw [apply_addSubcommand hnamed, accept]
  | addArgument o =>
    obtain ⟨nodes, completers, choices, defaults, heq⟩ := addArgument_frame d o
    rw [apply_addArgument hnamed, heq]
  | addRequire value =>
    rw [apply_addRequire hnamed, addRequirement]
    split <;> rfl
  | addChannel channel => rw [apply_addChannel hnamed, accept]
  | addGuild guild => rw [apply_addGuild hnamed, accept]
  | setAction action => rw [apply_setAction hnamed, accept]

theorem addArgument_restrict (d : Draft) (o : ArgumentOptions) :
    (d.restrict .arguments).addArgument o =
      ((d.addArgument o).1.restrict .arguments, (d.addArgument o).2) := by
  rw [addArgument, addArgument]
  cases Pattern.tokens o.pattern with
  | error fault => rfl
  | ok tokens =>
    dsimp only
    cases (Token.arguments tokens).getLast? with
    | none =>
      dsimp only
      split <;> rfl
    | some target =>
      dsimp only
      split
      · rfl
      · rcases o.completion with - | (completer | texts) <;> rcases o.default with - | value <;>
          cases target.optional <;> rfl

/-- A call does the same to its own facet whatever the others are, and is answered in the same
way. -/
theorem apply_restrict (hnamed : d.command.isSome) (hfacet : call.facet = f) :
    (d.restrict f).apply call = ((d.apply call).1.restrict f, (d.apply call).2) := by
  subst hfacet
  have hnamed' (f : Facet) : (d.restrict f).command.isSome := by rwa [command_restrict]
  cases call with
  | setCommand name description =>
    obtain ⟨existing, hexisting⟩ := Option.isSome_iff_exists.mp hnamed
    rw [apply, apply, setCommand, setCommand, command_restrict, hexisting]
    rfl
  | setDescription description =>
    rw [apply, apply, setDescription, setDescription]
    show (if _ then _ else if d.description.isSome then _ else _) = _
    split
    · rfl
    · split <;> rfl
  | setKind kind => rfl
  | addSubcommand name description =>
    rw [apply_addSubcommand hnamed, apply_addSubcommand (hnamed' _)]
    rfl
  | addArgument o =>
    rw [apply_addArgument hnamed, apply_addArgument (hnamed' _)]
    exact addArgument_restrict d o
  | addRequire value =>
    rw [apply_addRequire hnamed, apply_addRequire (hnamed' _), addRequirement, addRequirement]
    show accept (if d.requires.contains _ then _ else _) = _
    split <;> rfl
  | addChannel channel =>
    rw [apply_addChannel hnamed, apply_addChannel (hnamed' _)]
    rfl
  | addGuild guild =>
    rw [apply_addGuild hnamed, apply_addGuild (hnamed' _)]
    rfl
  | setAction action =>
    rw [apply_setAction hnamed, apply_setAction (hnamed' _)]
    rfl

/-- A call leaves the facets of other calls as they are. -/
theorem restrict_apply_of_ne (hnamed : d.command.isSome) (hfacet : call.facet ≠ f) :
    (d.apply call).1.restrict f = d.restrict f := by
  -- what a call changes shows in its own facet only, so `f` is that facet or nothing changes
  cases call with
  | setCommand name description =>
    obtain ⟨existing, hexisting⟩ := Option.isSome_iff_exists.mp hnamed
    rw [apply, setCommand, hexisting]
    rfl
  | setDescription description =>
    rw [apply, setDescription]
    split
    · rfl
    · split
      · rfl
      · cases f <;> first | rfl | exact absurd rfl hfacet
  | setKind kind => cases f <;> first | rfl | exact absurd rfl hfacet
  | addSubcommand name description =>
    rw [apply_addSubcommand hnamed]
    cases f <;> first | rfl | exact absurd rfl hfacet
  | addArgument o =>
    obtain ⟨nodes, completers, choices, defaults, heq⟩ := addArgument_frame d o
    rw [apply_addArgument hnamed, heq]
    cases f <;> first | rfl | exact absurd rfl hfacet
  | addRequire value =>
    rw [apply_addRequire hnamed, addRequirement]
    split
    · rfl
    · cases f <;> first | rfl | exact absurd rfl hfacet
  | addChannel channel =>
    rw [apply_addChannel hnamed]
    cases f <;> first | rfl | exact absurd rfl hfacet
  | addGuild guild =>
    rw [apply_addGuild hnamed]
    cases f <;> first | rfl | exact absurd rfl hfacet
  | setAction action =>
    rw [apply_setAction hnamed]
    cases f <;> first | rfl | exact absurd rfl hfacet

/-! ### A run of calls -/

theorem command_applyAll (hnamed : d.command.isSome) (calls : List Call) :
    (d.applyAll calls).command = d.command :=
  applyAll_invariant (P := fun d' => d'.command = d.command)
    (fun d' call h => (command_apply (by rwa [h]) call).trans h) rfl calls

/-- A run of calls makes of a facet what the calls on this facet alone make of it. -/
theorem restrict_applyAll (hnamed : d.command.isSome) (f : Facet) (calls : List Call) :
    (d.applyAll calls).restrict f = (d.restrict f).applyAll (calls.filter (·.facet == f)) := by
  induction calls generalizing d with
  | nil => rfl
  | cons call rest ih =>
    have hnamed' : (d.apply call).1.command.isSome := by rwa [command_apply hnamed]
    rw [applyAll_cons, ih hnamed', List.filter_cons]
    by_cases hfacet : call.facet = f
    · rw [if_pos (beq_iff_eq.mpr hfacet), applyAll_cons, apply_restrict hnamed hfacet]
    · rw [if_neg (mt beq_iff_eq.mp hfacet), restrict_apply_of_ne hnamed hfacet]

/-- The calls on a facet are answered as if there were no others. -/
theorem filter_answers (hnamed : d.command.isSome) (f : Facet) (calls : List Call) :
    (d.answers calls).filter (·.1.facet == f) =
      (d.restrict f).answers (calls.filter (·.facet == f)) := by
  induction calls generalizing d with
  | nil => rfl
  | cons call rest ih =>
    have hnamed' : (d.apply call).1.command.isSome := by rwa [command_apply hnamed]
    rw [answers, List.filter_cons, List.filter_cons, ih hnamed']
    by_cases hfacet : call.facet = f
    · rw [if_pos (beq_iff_eq.mpr hfacet), if_pos (beq_iff_eq.mpr hfacet), answers,
        apply_restrict hnamed hfacet]
    · rw [if_neg (mt beq_iff_eq.mp hfacet), if_neg (mt beq_iff_eq.mp hfacet),
        restrict_apply_of_ne hnamed hfacet]

/-- Ways to interleave the same calls lead to the same draft. -/
theorem applyAll_eq_of_interleave (hnamed : d.command.isSome) {calls calls' : List Call}
    (h : Interleave calls calls') : d.applyAll calls = d.applyAll calls' :=
  eq_of_restrict_eq fun f => by
    rw [restrict_applyAll hnamed, restrict_applyAll hnamed, h f]

/-! ### Calls on one facet -/

/-- Calls that are always accepted commute if the changes do that they make. -/
theorem commute_of_accepted (hnamed : d.command.isSome) {change change' : Draft → Draft}
    (hcall : ∀ d : Draft, d.command.isSome → d.apply call = accept (change d))
    (hcall' : ∀ d : Draft, d.command.isSome → d.apply call' = accept (change' d))
    (h : change' (change d) = change (change' d)) : d.Commute call call' := by
  have hafter : (change d).command.isSome := by
    have hkept := command_apply hnamed call
    rw [hcall d hnamed] at hkept
    exact hkept ▸ hnamed
  have hafter' : (change' d).command.isSome := by
    have hkept := command_apply hnamed call'
    rw [hcall' d hnamed] at hkept
    exact hkept ▸ hnamed
  refine ⟨?_, ?_, ?_⟩
  · rw [hcall d hnamed, hcall' d hnamed]
    show ((change d).apply call').1 = ((change' d).apply call).1
    rw [hcall' _ hafter, hcall _ hafter', h]
  · rw [hcall d hnamed, hcall' d hnamed]
    show _ = ((change' d).apply call).2
    rw [hcall _ hafter']
    rfl
  · rw [hcall d hnamed, hcall' d hnamed]
    show ((change d).apply call').2 = _
    rw [hcall' _ hafter]
    rfl

/-- Channels are added in any order. -/
theorem commute_addChannel (hnamed : d.command.isSome) (channel channel' : String) :
    d.Commute (.addChannel channel) (.addChannel channel') := by
  have hcomm : (d.channels.insert channel ()).insert channel' () =
      (d.channels.insert channel' ()).insert channel () :=
    Keyed.insert_comm d.channels fun _ => rfl
  refine commute_of_accepted hnamed (fun _ h => apply_addChannel h channel)
    (fun _ h => apply_addChannel h channel') ?_
  exact congrArg (fun channels => { d with channels := channels }) hcomm

/-- Guilds are added in any order. -/
theorem commute_addGuild (hnamed : d.command.isSome) (guild guild' : String) :
    d.Commute (.addGuild guild) (.addGuild guild') := by
  have hcomm : (d.guilds.insert guild ()).insert guild' () =
      (d.guilds.insert guild' ()).insert guild () :=
    Keyed.insert_comm d.guilds fun _ => rfl
  refine commute_of_accepted hnamed (fun _ h => apply_addGuild h guild)
    (fun _ h => apply_addGuild h guild') ?_
  exact congrArg (fun guilds => { d with guilds := guilds }) hcomm

/-! ### Calls that are repeated -/

/-- Holds of a draft that has what a call adds: a channel, a guild, a requirement or a
subcommand. -/
def HasAdded (d : Draft) : Call → Prop
  | .addChannel channel => d.channels.contains channel
  | .addGuild guild => d.guilds.contains guild
  | .addRequire value => .classify value ∈ d.requires
  | .addSubcommand name _ => name ∈ Node.subcommandNames d.nodes
  | _ => False

theorem hasAdded_restrict : (d.restrict call.facet).HasAdded call ↔ d.HasAdded call := by
  cases call <;> exact Iff.rfl

theorem requires_prefix_addRequirement (d : Draft) (r : Requirement) :
    d.requires <+: (d.addRequirement r).requires := by
  rw [addRequirement]
  split
  · exact List.prefix_refl _
  · exact List.prefix_append _ _

theorem mem_requires_addRequirement (d : Draft) (r : Requirement) :
    r ∈ (d.addRequirement r).requires := by
  rw [addRequirement]
  split
  · next h => exact List.contains_iff_mem.mp h
  · exact List.mem_append_right _ List.mem_cons_self

/-- Adding arguments adds at most a subcommand. -/
theorem subcommandNames_prefix_addArgument (d : Draft) (o : ArgumentOptions) :
    Node.subcommandNames d.nodes <+: Node.subcommandNames (d.addArgument o).1.nodes := by
  rcases addArgument_cases d o with ⟨fault, heq⟩ | ⟨tokens, -, ⟨-, -, heq⟩ | ⟨target, -, -, heq⟩⟩
  · rw [heq]
    exact List.prefix_refl _
  · rw [heq]
    exact Node.subcommandNames_prefix_append _ _ _
  · rw [heq]
    show _ <+: Node.subcommandNames (d.declareWith o tokens target).nodes
    rw [nodes_declareWith]
    exact Node.subcommandNames_prefix_append _ _ _

/-- A call that can be repeated has what it adds. -/
theorem hasAdded_apply (hnamed : d.command.isSome) (hagain : call.IsRepeatedBy again) :
    (d.apply call).1.HasAdded call := by
  cases hagain with
  | channel channel =>
    rw [apply_addChannel hnamed]
    exact (Keyed.contains_insert _ _ _ _).mpr (.inl rfl)
  | guild guild =>
    rw [apply_addGuild hnamed]
    exact (Keyed.contains_insert _ _ _ _).mpr (.inl rfl)
  | require value =>
    rw [apply_addRequire hnamed]
    exact mem_requires_addRequirement d _
  | subcommand name description description' =>
    rw [apply_addSubcommand hnamed]
    exact Node.mem_subcommandNames_ensure description

/-- What has been added stays. -/
theorem HasAdded.apply (h : d.HasAdded call) (hnamed : d.command.isSome) (other : Call) :
    (d.apply other).1.HasAdded call := by
  by_cases hfacet : other.facet = call.facet
  · -- only calls that add are on these facets, and they take nothing away
    cases call with
    | addChannel channel =>
      cases other <;> cases hfacet
      rw [apply_addChannel hnamed]
      exact (Keyed.contains_insert _ _ _ _).mpr (.inr h)
    | addGuild guild =>
      cases other <;> cases hfacet
      rw [apply_addGuild hnamed]
      exact (Keyed.contains_insert _ _ _ _).mpr (.inr h)
    | addRequire value =>
      cases other <;> cases hfacet
      rw [apply_addRequire hnamed]
      exact (requires_prefix_addRequirement d _).subset h
    | addSubcommand name description =>
      cases other <;> cases hfacet
      · rw [apply_addSubcommand hnamed]
        exact (Node.subcommandNames_prefix_ensure _ _ _).subset h
      · rw [apply_addArgument hnamed]
        exact (subcommandNames_prefix_addArgument d _).subset h
    | setCommand | setDescription | setKind | addArgument | setAction => exact h.elim
  · rw [← hasAdded_restrict, restrict_apply_of_ne hnamed hfacet]
    exact hasAdded_restrict.mpr h

theorem HasAdded.applyAll (h : d.HasAdded call) (hnamed : d.command.isSome) (calls : List Call) :
    (d.applyAll calls).HasAdded call := by
  have hboth : (d.applyAll calls).command.isSome ∧ (d.applyAll calls).HasAdded call :=
    applyAll_invariant (P := fun d' => d'.command.isSome ∧ d'.HasAdded call)
      (fun d' other h' => ⟨by rw [command_apply h'.1]; exact h'.1, h'.2.apply h'.1 other⟩)
      ⟨hnamed, h⟩ calls
  exact hboth.2

/-- What is there need not be added. -/
theorem HasAdded.apply_again (h : d.HasAdded call) (hnamed : d.command.isSome)
    (hagain : call.IsRepeatedBy again) : d.apply again = d.accept := by
  have present {m : NameSet} {name : String} (h : m.contains name) : m.insert name () = m := by
    obtain ⟨value, hget⟩ := Option.isSome_iff_exists.mp h
    exact Keyed.insert_of_get?_eq_some hget
  cases hagain with
  | channel channel => rw [apply_addChannel hnamed, present h]
  | guild guild => rw [apply_addGuild hnamed, present h]
  | require value =>
    rw [apply_addRequire hnamed, addRequirement, if_pos (List.contains_iff_mem.mpr h)]
  | subcommand name description description' =>
    rw [apply_addSubcommand hnamed, Node.ensure, if_pos (Node.any_isSubcommand_iff.mpr h)]

/-- **Independent calls commute.**  On a draft with a name, ways to interleave the same calls on the
facets lead to the same draft, which is built to the same, and every call is answered in the same
way; calls that are refused are no exception.  It does not matter either in which order channels are
added, or guilds; and to add a channel, a guild, a requirement or a subcommand again, at once or
after other calls, changes nothing. -/
theorem interleavings_agree (d : Draft) (hnamed : d.command.isSome) :
    (∀ calls calls', Interleave calls calls' →
        d.applyAll calls = d.applyAll calls' ∧
          (d.applyAll calls).build = (d.applyAll calls').build ∧
          ∀ f, (d.answers calls).filter (·.1.facet == f) =
            (d.answers calls').filter (·.1.facet == f)) ∧
      (∀ channel channel', d.Commute (.addChannel channel) (.addChannel channel')) ∧
      (∀ guild guild', d.Commute (.addGuild guild) (.addGuild guild')) ∧
      ∀ call between again, call.IsRepeatedBy again →
        (d.applyAll (call :: between)).apply again = (d.applyAll (call :: between)).accept := by
  refine ⟨fun calls calls' h => ?_, commute_addChannel hnamed, commute_addGuild hnamed,
    fun call between again hagain => ?_⟩
  · have heq : d.applyAll calls = d.applyAll calls' := applyAll_eq_of_interleave hnamed h
    refine ⟨heq, congrArg build heq, fun f => ?_⟩
    rw [filter_answers hnamed, filter_answers hnamed, h f]
  · have hnamed' : (d.apply call).1.command.isSome := by rwa [command_apply hnamed]
    have hall : (d.applyAll (call :: between)).command.isSome := by
      rwa [command_applyAll hnamed]
    have hadded : (d.applyAll (call :: between)).HasAdded call :=
      (hasAdded_apply hnamed hagain).applyAll hnamed' between
    exact hadded.apply_again hall hagain

/-- Two ways to declare the same command: the second description is refused in both, and so is the
pattern without an end.  A channel that comes again is there already. -/
theorem interleavings_agree_tag :
    let d := empty.applyAll [.setCommand "tag" ""]
    let declared : List Call := [.setDescription "Shows", .addArgument (.plain "set <name" "Sets"),
      .setDescription "Sets", .addChannel "2", .addSubcommand "get" "Gets", .addChannel "1"]
    let declared' : List Call := [.addArgument (.plain "set <name" "Sets"), .addChannel "2",
      .addSubcommand "get" "Gets", .addChannel "1", .setDescription "Shows", .setDescription "Sets"]
    d.applyAll declared = d.applyAll declared' ∧
      (d.answers declared).filter (·.1.facet == .description) =
        (d.answers declared').filter (·.1.facet == .description) ∧
      (d.answers declared').filter (·.1.facet == .description) =
        [(.setDescription "Shows", .ok ()),
          (.setDescription "Sets", .error (.duplicateDescription "tag"))] ∧
      (d.applyAll (.addChannel "2" :: declared)).apply (.addChannel "2") =
        (d.applyAll (.addChannel "2" :: declared)).accept := by
  intro d declared declared'
  have hinterleave : Interleave declared declared' := fun f => by cases f <;> rfl
  obtain ⟨hagree, -, -, hagain⟩ := interleavings_agree d rfl
  obtain ⟨hdraft, -, hanswers⟩ := hagree declared declared' hinterleave
  exact ⟨hdraft, hanswers .description, filter_answers rfl .description declared',
    hagain _ declared _ (.channel "2")⟩

end Draft

end SlashCommands
