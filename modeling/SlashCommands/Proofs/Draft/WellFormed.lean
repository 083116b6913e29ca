import Mathlib.Tactic.Set
import SlashCommands.Proofs.Draft.Calls
import SlashCommands.Proofs.Draft.Entries
import SlashCommands.Proofs.Draft.Nodes

/-!
# Well-formed definitions

Whatever calls are made on a new draft, and whichever of them are refused, a definition that the
draft grows to is well formed (`Draft.wellFormed_of_build`).  The invariant is `Draft.WellFormed`;
each call keeps it (`Draft.wellFormed_apply`).  Its part on arguments and what is recorded for them
by key, `WellDeclared`, has a lemma for each way in which it grows.
-/

namespace SlashCommands

namespace Node

/-- Holds if a key names an argument in its scope. -/
def Declares (nodes : List Node) (key : Key) : Prop :=
  ∃ e ∈ entriesOf key.scope nodes, e.name = key.name

/-- Holds if a key names an optional argument in its scope. -/
def DeclaresOptional (nodes : List Node) (key : Key) : Prop :=
  ∃ e ∈ entriesOf key.scope nodes, e.name = key.name ∧ e.optional

end Node

/-- Holds if subcommands have distinct names, every argument is consistent, no argument has both
choices and a completer, and whatever is recorded under a key belongs to an argument, a default to
an optional one. -/
structure WellDeclared (nodes : List Node) (completers : Keyed Key Completer)
    (choices : Keyed Key (List String)) (defaults : Keyed Key OptionValue) : Prop where
  names_nodup : (Node.subcommandNames nodes).Nodup
  consistent : ∀ scope, ∀ e ∈ Node.entriesOf scope nodes, e.Consistent
  not_both : ∀ key, ¬ (completers.contains key ∧ choices.contains key)
  completers_declared : ∀ key, completers.contains key → Node.Declares nodes key
  choices_declared : ∀ key, choices.contains key → Node.Declares nodes key
  defaults_declared : ∀ key, defaults.contains key → Node.DeclaresOptional nodes key

/-- Holds of definitions that have a description, require nothing twice and declare their arguments
well. -/
structure Definition.WellFormed (d : Definition) : Prop where
  description_ne_empty : d.description ≠ ""
  declared : WellDeclared d.nodes d.completers d.choices d.defaults
  requires_nodup : d.requires.Nodup

namespace WellDeclared

variable {nodes : List Node} {completers : Keyed Key Completer}
  {choices : Keyed Key (List String)} {defaults : Keyed Key OptionValue} {key : Key}

theorem nothing : WellDeclared [] .empty .empty .empty where
  names_nodup := .nil
  consistent := fun scope e he => by cases he
  not_both := by simp
  completers_declared := by simp
  choices_declared := by simp
  defaults_declared := by simp

/-- Nodes may grow: new nodes that have all arguments of the old ones, and no inconsistent ones, are
as well declared. -/
theorem grow (h : WellDeclared nodes completers choices defaults) {larger : List Node}
    (hnames : (Node.subcommandNames larger).Nodup)
    (hconsistent : ∀ scope, ∀ e ∈ Node.entriesOf scope larger, e.Consistent)
    (hsub : ∀ scope, Node.entriesOf scope nodes ⊆ Node.entriesOf scope larger) :
    WellDeclared larger completers choices defaults where
  names_nodup := hnames
  consistent := hconsistent
  not_both := h.not_both
  completers_declared := fun key hkey => by
    obtain ⟨e, he, hname⟩ := h.completers_declared key hkey
    exact ⟨e, hsub _ he, hname⟩
  choices_declared := fun key hkey => by
    obtain ⟨e, he, hname⟩ := h.choices_declared key hkey
    exact ⟨e, hsub _ he, hname⟩
  defaults_declared := fun key hkey => by
    obtain ⟨e, he, hname⟩ := h.defaults_declared key hkey
    exact ⟨e, hsub _ he, hname⟩

theorem ensure (h : WellDeclared nodes completers choices defaults) (name description : String) :
    WellDeclared (Node.ensure name description nodes) completers choices defaults := by
  refine h.grow (Node.nodup_subcommandNames_ensure h.names_nodup description) ?_ ?_
  · intro scope e he
    rw [Node.entriesOf_ensure] at he
    exact h.consistent scope e he
  · intro scope
    rw [Node.entriesOf_ensure]
    exact List.Subset.refl _

theorem append (h : WellDeclared nodes completers choices defaults) (scope : Option String)
    {entries : List Entry} (hentries : ∀ e ∈ entries, e.Consistent) :
    WellDeclared (Node.append scope entries nodes) completers choices defaults := by
  refine h.grow (Node.nodup_subcommandNames_append h.names_nodup scope entries) ?_ ?_
  · intro other e he
    rw [Node.entriesOf_append h.names_nodup] at he
    rcases List.mem_append.mp he with he | he
    · exact h.consistent other e he
    · split at he
      · exact hentries e he
      · cases he
  · intro other
    rw [Node.entriesOf_append h.names_nodup]
    exact List.subset_append_left _ _

/-- A completer takes the place of choices. -/
theorem insertCompleter (h : WellDeclared nodes completers choices defaults)
    (hkey : Node.Declares nodes key) (completer : Completer) :
    WellDeclared nodes (completers.insert key completer) (choices.erase key) defaults where
  names_nodup := h.names_nodup
  consistent := h.consistent
  not_both := Keyed.not_contains_both_insert_erase h.not_both key completer
  completers_declared := Keyed.forall_contains_insert h.completers_declared hkey completer
  choices_declared := Keyed.forall_contains_erase h.choices_declared key
  defaults_declared := h.defaults_declared

/-- Choices take the place of a completer. -/
theorem insertChoices (h : WellDeclared nodes completers choices defaults)
    (hkey : Node.Declares nodes key) (texts : List String) :
    WellDeclared nodes (completers.erase key) (choices.insert key texts) defaults where
  names_nodup := h.names_nodup
  consistent := h.consistent
  not_both := by
    intro other hboth
    -- the lemma on insertion and removal has the two maps the other way round
    have hnot := fun key hkey => h.not_both key (And.symm hkey)
    exact Keyed.not_contains_both_insert_erase hnot key texts other hboth.symm
  completers_declared := Keyed.forall_contains_erase h.completers_declared key
  choices_declared := Keyed.forall_contains_insert h.choices_declared hkey texts
  defaults_declared := h.defaults_declared

theorem insertDefault (h : WellDeclared nodes completers choices defaults)
    (hkey : Node.DeclaresOptional nodes key) (value : OptionValue) :
    WellDeclared nodes completers choices (defaults.insert key value) where
  names_nodup := h.names_nodup
  consistent := h.consistent
  not_both := h.not_both
  completers_declared := h.completers_declared
  choices_declared := h.choices_declared
  defaults_declared := Keyed.forall_contains_insert h.defaults_declared hkey value

end WellDeclared

/-! ### Drafts -/

namespace Draft

/-- The invariant of drafts: a definition that is well formed as soon as the draft has a description
and a name. -/
structure WellFormed (d : Draft) : Prop where
  description_ne_empty : ∀ text, d.description = some text → text ≠ ""
  declared : WellDeclared d.nodes d.completers d.choices d.defaults
  requires_nodup : d.requires.Nodup

variable {d : Draft}

theorem wellFormed_empty : empty.WellFormed where
  description_ne_empty := by simp [empty]
  declared := .nothing
  requires_nodup := .nil

theorem wellFormed_setDescription (h : d.WellFormed) (description : String) :
    (d.setDescription description).1.WellFormed := by
  rw [setDescription]
  split
  · exact h
  · next hne =>
    split
    · exact h
    · refine ⟨fun text htext => ?_, h.declared, h.requires_nodup⟩
      obtain rfl := Option.some.inj htext
      simpa using hne

theorem wellFormed_setCommand (h : d.WellFormed) (name description : String) :
    (d.setCommand name description).1.WellFormed := by
  rw [setCommand]
  split
  · exact h
  · have hnamed : WellFormed { d with command := some name } :=
      ⟨h.description_ne_empty, h.declared, h.requires_nodup⟩
    exact wellFormed_setDescription hnamed description

theorem wellFormed_addRequirement (h : d.WellFormed) (r : Requirement) :
    (d.addRequirement r).WellFormed := by
  rw [addRequirement]
  split
  · exact h
  · next hnew =>
    have hfresh : r ∉ d.requires := by simpa using hnew
    refine ⟨h.description_ne_empty, h.declared, List.nodup_append.mpr ⟨h.requires_nodup, ?_, ?_⟩⟩
    · simp
    · intro a ha b hb
      rw [List.mem_singleton.mp hb]
      exact fun heq => hfresh (heq ▸ ha)

theorem wellFormed_declare (h : d.WellFormed) {o : ArgumentOptions} {tokens : List Token}
    (hentries : ∀ e ∈ o.entries (Token.arguments tokens), e.Consistent) :
    (d.declare o tokens).WellFormed :=
  ⟨h.description_ne_empty, h.declared.append _ hentries, h.requires_nodup⟩

theorem wellFormed_setCompletion (h : d.WellFormed) {key : Key} (hkey : Node.Declares d.nodes key)
    (completion : Option Completion) : (d.setCompletion key completion).WellFormed := by
  rcases completion with - | (completer | texts)
  · exact h
  · exact ⟨h.description_ne_empty, h.declared.insertCompleter hkey completer, h.requires_nodup⟩
  · exact ⟨h.description_ne_empty, h.declared.insertChoices hkey texts, h.requires_nodup⟩

theorem nodes_setCompletion (d : Draft) (key : Key) (completion : Option Completion) :
    (d.setCompletion key completion).nodes = d.nodes := by
  rcases completion with - | (completer | texts) <;> rfl

theorem wellFormed_setDefault (h : d.WellFormed) {key : Key} {optional : Bool}
    (hkey : optional → Node.DeclaresOptional d.nodes key) (default : Option OptionValue) :
    (d.setDefault key optional default).WellFormed := by
  cases default with
  | none => exact h
  | some value =>
    rw [setDefault]
    split
    · next hoptional =>
      exact ⟨h.description_ne_empty, h.declared.insertDefault (hkey hoptional) value,
        h.requires_nodup⟩
    · exact h

/-- The arguments of a pattern and what belongs to the last of them keep the invariant, since that
one is then declared under its key. -/
theorem wellFormed_declareWith (h : d.WellFormed) {o : ArgumentOptions} {tokens : List Token}
    {target : Token} (hentries : ∀ e ∈ o.entries (Token.arguments tokens), e.Consistent)
    (hlast : (Token.arguments tokens).getLast? = some target) :
    (d.declareWith o tokens target).WellFormed := by
  set key : Key := ⟨Token.scope? tokens, target.name⟩ with hkey_def
  set entry := target.toEntry o.description o.min o.max with hentry_def
  -- the target declares the last of the new arguments, at the end of the scope of its key
  have hmem : entry ∈ Node.entriesOf key.scope (d.declare o tokens).nodes := by
    show entry ∈ Node.entriesOf _ (Node.append _ _ d.nodes)
    rw [Node.entriesOf_append h.declared.names_nodup]
    simp only [hkey_def, ite_true, List.mem_append]
    exact .inr (ArgumentOptions.toEntry_mem_entries hlast)
  have hdeclares : Node.Declares (d.declare o tokens).nodes key := ⟨entry, hmem, rfl⟩
  refine wellFormed_setDefault (wellFormed_setCompletion (wellFormed_declare h hentries)
    hdeclares o.completion) (fun hoptional => ?_) o.default
  rw [nodes_setCompletion]
  exact ⟨entry, hmem, rfl, hoptional⟩

theorem wellFormed_addArgument (h : d.WellFormed) (o : ArgumentOptions) :
    (d.addArgument o).1.WellFormed := by
  rcases addArgument_cases d o with ⟨fault, heq⟩ | ⟨tokens, htokens, hcases⟩
  · rw [heq]
    exact h
  · have hregular : ∀ t ∈ tokens, t.Regular := fun t ht => Token.regular_of_mem_tokens htokens ht
    rcases hcases with ⟨hnone, -, heq⟩ | ⟨target, hlast, hbound, heq⟩
    · rw [heq]
      refine wellFormed_declare h fun e he => ?_
      rw [hnone] at he
      cases he
    · rw [heq]
      refine wellFormed_declareWith h (fun e he => ?_) hlast
      refine ArgumentOptions.consistent_of_mem_entries hregular (fun t ht hbounded => ?_) he
      obtain rfl := Option.some.inj (hlast.symm.trans ht)
      exact hbound hbounded

/-- Every call keeps the invariant, refused or not. -/
theorem wellFormed_apply (d : Draft) (call : Call) (h : d.WellFormed) :
    (d.apply call).1.WellFormed := by
  cases call with
  | setCommand name description => exact wellFormed_setCommand h name description
  | setDescription description => exact wellFormed_setDescription h description
  | setKind kind => exact ⟨h.description_ne_empty, h.declared, h.requires_nodup⟩
  | addSubcommand name description =>
    exact whenNamed_keeps h
      ⟨h.description_ne_empty, h.declared.ensure name description, h.requires_nodup⟩
  | addArgument options => exact whenNamed_keeps h (wellFormed_addArgument h options)
  | addRequire value => exact whenNamed_keeps h (wellFormed_addRequirement h (.classify value))
  | addChannel channel =>
    exact whenNamed_keeps h ⟨h.description_ne_empty, h.declared, h.requires_nodup⟩
  | addGuild guild =>
    exact whenNamed_keeps h ⟨h.description_ne_empty, h.declared, h.requires_nodup⟩
  | setAction action =>
    exact whenNamed_keeps h ⟨h.description_ne_empty, h.declared, h.requires_nodup⟩

theorem wellFormed_applyAll (calls : List Call) : (empty.applyAll calls).WellFormed :=
  applyAll_invariant wellFormed_apply wellFormed_empty calls

theorem WellFormed.build (h : d.WellFormed) {definition : Definition}
    (hbuild : d.build = .ok definition) : definition.WellFormed := by
  obtain ⟨hdescription, hnodes, hcompleters, hchoices, hdefaults, hrequires⟩ := build_fields hbuild
  refine ⟨h.description_ne_empty _ hdescription, ?_, ?_⟩
  · rw [hnodes, hcompleters, hchoices, hdefaults]
    exact h.declared
  · rw [hrequires]
    exact h.requires_nodup

/-- **Every definition is well formed**: whatever calls a draft is grown by, refused ones among
them, what it is built to has a description, subcommands with distinct names, consistent arguments,
nothing recorded that does not belong to an argument, and no requirement twice. -/
theorem wellFormed_of_build {calls : List Call} {definition : Definition}
    (h : (empty.applyAll calls).build = .ok definition) : definition.WellFormed :=
  (wellFormed_applyAll calls).build h

/-- Calls that declare an argument of a subcommand twice, with choices first and with a completer
then, some of them refused. -/
def redeclaring : List Call :=
  [.setDescription "Tools", .setCommand "user" "", .setDescription "Other tools",
    .addArgument { ArgumentOptions.plain "info [who: user] (-s silent)" "Who" with
      completion := some (.choices ["a", "b"]), default := some (.boolean true) },
    .addArgument { ArgumentOptions.plain "info <s: int>" "How" with
      completion := some (.autocomplete (.always ["c"])) },
    .addArgument (.plain "info [who" "Who"), .addRequire "@a", .addRequire "@a"]

theorem wellFormed_redeclaring :
    ∃ definition, (empty.applyAll redeclaring).build = .ok definition ∧ definition.WellFormed := by
  have hcomplete : (empty.applyAll redeclaring).IsComplete :=
    applyAll_invariant isComplete_apply (d := empty.applyAll (redeclaring.take 2)) ⟨rfl, rfl⟩
      (redeclaring.drop 2)
  obtain ⟨definition, hbuild⟩ := exists_build_of_isComplete hcomplete
  exact ⟨definition, hbuild, wellFormed_of_build hbuild⟩

end Draft

end SlashCommands
