import Mathlib.Data.List.Forall2
import SlashCommands.Manifest
import SlashCommands.Proofs.Draft.Adding

/-!
# Compiling a manifest

What can be wrong with a manifest is said without compiling it: `ArgumentManifest.IsSound` and
`CommandManifest.Compiles` say what arguments and commands must be like, and `IsRefusedFor`, at each
of the three levels, which fault is reported.  The main statement, `Manifest.compiles_exactly`, says
that compiling decides just so, and that each definition is what its command alone compiles to.

* `ArgumentManifest.check` is what decides about an argument, on any draft with a name.
* `CommandManifest.compile_eq_error_iff` goes through the calls of a command: only its arguments and
  its description can be refused.
* `Manifest.compileAfter_eq_error_iff` goes through the commands: nothing but their names is kept
  from one to the next.
-/

namespace SlashCommands

/-! ### Faults -/

namespace ArgumentManifest

/-- Holds of arguments whose suggestions come from two sources. -/
def HasTwoSources (a : ArgumentManifest) : Prop :=
  a.choices.isSome ∧ a.autocomplete.isSome

instance (a : ArgumentManifest) : Decidable a.HasTwoSources :=
  inferInstanceAs (Decidable (_ ∧ _))

/-- Holds of arguments that bring something for the last argument of their pattern. -/
def BringsSomething (a : ArgumentManifest) : Prop :=
  a.choices.isSome ∨ a.autocomplete.isSome ∨ a.default.isSome ∨ a.min.isSome ∨ a.max.isSome

/-- Holds of arguments that are declared without a fault: their suggestions come from one source at
most and their pattern is one, which has an argument if they bring something for it, and a number as
its last if they bring bounds. -/
structure IsSound (a : ArgumentManifest) : Prop where
  one_source : ¬ a.HasTwoSources
  pattern : ∃ tokens, Pattern.tokens a.pattern = .ok tokens
  selector : ∀ t, Pattern.tokens a.pattern = .ok [t] → t.kind = .command → ¬ a.BringsSomething
  bounds : a.min.isSome ∨ a.max.isSome → ∀ tokens last, Pattern.tokens a.pattern = .ok tokens →
    tokens.getLast? = some last → last.datatype ∈ numericDatatypes

/-- Holds of the fault of arguments.  Two sources of suggestions count before the pattern. -/
inductive IsRefusedFor (a : ArgumentManifest) : CompileFault → Prop
  | twoSources (h : a.HasTwoSources) : IsRefusedFor a (.choicesAndAutocomplete a.pattern)
  | pattern {fault : Fault} (hsource : ¬ a.HasTwoSources)
    (h : Pattern.tokens a.pattern = .error fault) : IsRefusedFor a (.refused fault)
  | noTarget {t : Token} (hsource : ¬ a.HasTwoSources) (h : Pattern.tokens a.pattern = .ok [t])
    (hkind : t.kind = .command) (hgiven : a.BringsSomething) :
    IsRefusedFor a (.refused (.noArgumentTarget a.pattern))
  | bound {tokens : List Token} {last : Token} (hsource : ¬ a.HasTwoSources)
    (h : Pattern.tokens a.pattern = .ok tokens) (hlast : tokens.getLast? = some last)
    (hkind : last.kind ≠ .command) (hbounded : a.min.isSome ∨ a.max.isSome)
    (hdatatype : last.datatype ∉ numericDatatypes) :
    IsRefusedFor a (.refused (.numericBound last.name last.datatype))

end ArgumentManifest

/-- Holds of the fault of the first of several arguments that are not sound. -/
def ArgumentManifest.FirstRefusal (arguments : List ArgumentManifest) (fault : CompileFault) :
    Prop :=
  ∃ before a after, arguments = before ++ a :: after ∧ (∀ b ∈ before, b.IsSound) ∧
    a.IsRefusedFor fault

namespace CommandManifest

/-- Holds of commands that compile: their arguments are sound and their description is not empty. -/
structure Compiles (c : CommandManifest) : Prop where
  arguments : ∀ a ∈ c.arguments, a.IsSound
  description : c.description ≠ ""

/-- Holds of the fault of a command: that of the first argument that is not sound, or that it has no
description if all arguments are. -/
inductive IsRefusedFor (c : CommandManifest) : CompileFault → Prop
  | argument {fault : CompileFault} (h : ArgumentManifest.FirstRefusal c.arguments fault) :
    IsRefusedFor c fault
  | description (harguments : ∀ a ∈ c.arguments, a.IsSound) (h : c.description = "") :
    IsRefusedFor c (.refused (.missingDescription c.name))

/-- Holds of the fault of a command that comes after commands of some names.  That it has one of
these names counts before what is wrong with the command itself. -/
inductive IsRefusedAfter (names : List String) (c : CommandManifest) : ManifestFault → Prop
  | declaredTwice (hname : c.name ∈ names) : IsRefusedAfter names c (.declaredTwice c.name)
  | invalidCommand {fault : CompileFault} (hname : c.name ∉ names) (h : c.IsRefusedFor fault) :
    IsRefusedAfter names c (.invalidCommand c.name fault)

/-- Holds of commands that compile and have different names. -/
def CompileTogether (commands : List CommandManifest) : Prop :=
  (commands.map (·.name)).Nodup ∧ ∀ c ∈ commands, c.Compiles

end CommandManifest

/-- Holds of the fault of a manifest: that of the first command that has the name of an earlier one
or does not compile. -/
def Manifest.IsRefusedFor (m : Manifest) (fault : ManifestFault) : Prop :=
  ∃ before c after, m.commands = before ++ c :: after ∧
    CommandManifest.CompileTogether before ∧ c.IsRefusedAfter (before.map (·.name)) fault

/-- A list is divided at its head or at a place in its tail. -/
theorem exists_divided_cons_iff {α : Type} {R : List α → α → Prop} {x : α} {l : List α} :
    (∃ before y after, x :: l = before ++ y :: after ∧ R before y) ↔
      R [] x ∨ ∃ before y after, l = before ++ y :: after ∧ R (x :: before) y := by
  constructor
  · rintro ⟨before, y, after, heq, hR⟩
    cases before with
    | nil =>
      obtain ⟨rfl, rfl⟩ := List.cons.inj heq
      exact .inl hR
    | cons z before =>
      obtain ⟨rfl, rfl⟩ := List.cons.inj heq
      exact .inr ⟨before, y, after, rfl, hR⟩
  · rintro (hR | ⟨before, y, after, rfl, hR⟩)
    · exact ⟨[], x, l, rfl, hR⟩
    · exact ⟨x :: before, y, after, rfl, hR⟩

/-- Each element of a list is related to something just in case the list is related to one. -/
theorem exists_forall₂_iff {α β : Type} {R : α → β → Prop} {l : List α} :
    (∃ l', List.Forall₂ R l l') ↔ ∀ a ∈ l, ∃ b, R a b := by
  induction l with
  | nil => exact iff_of_true ⟨[], .nil⟩ (List.forall_mem_nil _)
  | cons a l ih =>
    rw [List.forall_mem_cons, ← ih]
    constructor
    · rintro ⟨_, hall⟩
      cases hall with
      | cons hab hrest => exact ⟨⟨_, hab⟩, _, hrest⟩
    · rintro ⟨⟨b, hab⟩, l', hrest⟩
      exact ⟨b :: l', .cons hab hrest⟩

/-! ### Arguments -/

namespace ArgumentManifest

variable {a : ArgumentManifest} {fault : CompileFault}

/-- The options of arguments whose suggestions come from one source at most. -/
def options (a : ArgumentManifest) : ArgumentOptions where
  pattern := a.pattern
  description := a.description
  default := a.default
  completion :=
    match a.choices, a.autocomplete with
    | some texts, _ => some (.choices texts)
    | none, some texts => some (.autocomplete (.ofList texts))
    | none, none => none
  min := a.min
  max := a.max

theorem toOptions_of_hasTwoSources (h : a.HasTwoSources) :
    a.toOptions = .error (.choicesAndAutocomplete a.pattern) := by
  obtain ⟨choices, hchoices⟩ := Option.isSome_iff_exists.mp h.1
  obtain ⟨texts, htexts⟩ := Option.isSome_iff_exists.mp h.2
  rw [toOptions, hchoices, htexts]
  rfl

theorem toOptions_of_not_hasTwoSources (h : ¬ a.HasTwoSources) : a.toOptions = .ok a.options := by
  rw [toOptions, options]
  cases hchoices : a.choices with
  | none => cases a.autocomplete <;> rfl
  | some choices =>
    cases htexts : a.autocomplete with
    | none => rfl
    | some texts => exact absurd ⟨by rw [hchoices]; rfl, by rw [htexts]; rfl⟩ h

theorem bringsSomething_iff :
    a.BringsSomething ↔ a.options.default.isSome ∨ a.options.completion.isSome ∨
      a.options.min.isSome ∨ a.options.max.isSome := by
  have hcompletion : a.options.completion.isSome ↔ a.choices.isSome ∨ a.autocomplete.isSome := by
    rw [options]
    cases a.choices <;> cases a.autocomplete <;> simp
  rw [hcompletion, BringsSomething]
  show _ ↔ a.default.isSome ∨ _ ∨ a.min.isSome ∨ a.max.isSome
  simp only [or_assoc, or_left_comm]

/-- Arguments with one source of suggestions have the faults of the call that declares them. -/
theorem isRefusedFor_refused_iff {fault : Fault} (h : ¬ a.HasTwoSources) :
    a.IsRefusedFor (.refused fault) ↔ a.options.IsRefusedFor fault := by
  constructor
  · intro hfault
    cases hfault with
    | pattern _ htokens => exact .pattern htokens
    | noTarget _ htokens hkind hgiven =>
      exact .noTarget htokens hkind (bringsSomething_iff.mp hgiven)
    | bound _ htokens hlast hkind hbounded hdatatype =>
      exact .bound htokens hlast hkind hbounded hdatatype
  · intro hfault
    cases hfault with
    | pattern htokens => exact .pattern h htokens
    | noTarget htokens hkind hgiven =>
      exact .noTarget h htokens hkind (bringsSomething_iff.mpr hgiven)
    | bound htokens hlast hkind hbounded hdatatype =>
      exact .bound h htokens hlast hkind hbounded hdatatype

/-- Arguments are sound if they have no fault. -/
theorem isSound_iff : a.IsSound ↔ ∀ fault, ¬ a.IsRefusedFor fault := by
  constructor
  · intro h fault hfault
    cases hfault with
    | twoSources hsources => exact h.one_source hsources
    | pattern _ htokens =>
      obtain ⟨tokens, hok⟩ := h.pattern
      cases htokens.symm.trans hok
    | noTarget _ htokens hkind hgiven => exact h.selector _ htokens hkind hgiven
    | bound _ htokens hlast _ hbounded hdatatype =>
      exact hdatatype (h.bounds hbounded _ _ htokens hlast)
  · intro h
    have hsource : ¬ a.HasTwoSources := fun hsources => h _ (.twoSources hsources)
    refine ⟨hsource, ?_, fun t htokens hkind hgiven => ?_,
      fun hbounded tokens last htokens hlast => ?_⟩
    · cases htokens : Pattern.tokens a.pattern with
      | ok tokens => exact ⟨tokens, rfl⟩
      | error fault => exact absurd (.pattern hsource htokens) (h _)
    · exact h _ (.noTarget hsource htokens hkind hgiven)
    · by_contra hdatatype
      by_cases hkind : last.kind = .command
      · -- bounds are something that a lone selector must not bring
        obtain rfl := Token.eq_singleton_of_getLast? htokens hlast hkind
        exact h _ (.noTarget hsource htokens hkind (.inr (.inr (.inr hbounded))))
      · exact h _ (.bound hsource htokens hlast hkind hbounded hdatatype)

/-- What declaring arguments comes to on a draft with a name. -/
def check (a : ArgumentManifest) : Except CompileFault Unit :=
  if a.HasTwoSources then .error (.choicesAndAutocomplete a.pattern)
  else (Draft.empty.addArgument a.options).2.mapError .refused

theorem check_eq_error_iff : a.check = .error fault ↔ a.IsRefusedFor fault := by
  rw [check]
  split
  · next hsources =>
    constructor
    · intro h
      cases h
      exact .twoSources hsources
    · intro h
      cases h with
      | twoSources => rfl
      | _ hsource => exact absurd hsources hsource
  · next hsource =>
    cases hresult : (Draft.empty.addArgument a.options).2 with
    | ok result =>
      have hnone := Draft.addArgument_eq_ok_iff.mp hresult
      refine iff_of_false nofun fun h => ?_
      cases fault with
      | choicesAndAutocomplete =>
        cases h with
        | twoSources hsources => exact hsource hsources
      | refused fault => exact hnone fault ((isRefusedFor_refused_iff hsource).mp h)
    | error found =>
      have hfound := Draft.addArgument_eq_error_iff.mp hresult
      constructor
      · intro h
        cases h
        exact (isRefusedFor_refused_iff hsource).mpr hfound
      · intro h
        cases fault with
        | choicesAndAutocomplete =>
          cases h with
          | twoSources hsources => exact absurd hsources hsource
        | refused fault =>
          have hother := Draft.addArgument_eq_error_iff (d := .empty).mpr
            ((isRefusedFor_refused_iff hsource).mp h)
          rw [hother] at hresult
          cases hresult
          rfl

theorem check_eq_ok_iff : a.check = .ok () ↔ a.IsSound := by
  rw [isSound_iff]
  simp only [← check_eq_error_iff]
  cases a.check with
  | ok => exact iff_of_true rfl nofun
  | error fault => exact iff_of_false nofun fun h => h fault rfl

end ArgumentManifest

/-- Whether a call that adds arguments is refused does not depend on the draft. -/
theorem Draft.addArgument_snd (d : Draft) (o : ArgumentOptions) :
    (d.addArgument o).2 = (empty.addArgument o).2 := by
  cases h : (empty.addArgument o).2 with
  | ok => exact addArgument_eq_ok_iff.mpr (addArgument_eq_ok_iff.mp h)
  | error fault => exact addArgument_eq_error_iff.mpr (addArgument_eq_error_iff.mp h)

/-! ### Commands -/

namespace CommandManifest

/-- Holds of drafts that have the name and the description of a command. -/
structure Begins (c : CommandManifest) (d : Draft) : Prop where
  command_eq : d.command = some c.name
  description_eq : d.description = if c.description = "" then none else some c.description

variable {c : CommandManifest} {d : Draft} {fault : CompileFault}

theorem Begins.isSome (h : c.Begins d) : d.command.isSome := by
  rw [h.command_eq]
  rfl

/-- Calls that are accepted one after the other are accepted together. -/
theorem exists_callAll {P : Draft → Prop} {calls : List Call}
    (hstep : ∀ call ∈ calls, ∀ d, P d → ∃ d', d.apply call = d'.accept ∧ P d') {d : Draft}
    (h : P d) : ∃ d', callAll d calls = .ok d' ∧ P d' := by
  induction calls generalizing d with
  | nil => exact ⟨d, rfl, h⟩
  | cons call rest ih =>
    rw [List.forall_mem_cons] at hstep
    obtain ⟨d', haccept, h'⟩ := hstep.1 d h
    obtain ⟨d'', hrest, h''⟩ := ih hstep.2 h'
    refine ⟨d'', ?_, h''⟩
    rw [callAll, Draft.applyWhileAccepted, haccept]
    exact hrest

/-- Holds of the calls that every draft with a name accepts, and that change neither the name nor
the description. -/
def IsRoutine : Call → Prop
  | .setCommand _ _ | .setDescription _ | .addArgument _ => False
  | _ => True

theorem Begins.accepts (h : c.Begins d) {call : Call} (hcall : IsRoutine call) :
    ∃ d', d.apply call = d'.accept ∧ c.Begins d' := by
  obtain ⟨hcommand, hdescription⟩ := h
  have hnamed : d.command.isSome := Begins.isSome ⟨hcommand, hdescription⟩
  cases call with
  | setCommand | setDescription | addArgument => exact hcall.elim
  | setKind kind => exact ⟨_, rfl, hcommand, hdescription⟩
  | addSubcommand => exact ⟨_, Draft.apply_addSubcommand hnamed _ _, hcommand, hdescription⟩
  | addRequire value =>
    refine ⟨_, Draft.apply_addRequire hnamed _, ?_⟩
    rw [Draft.addRequirement]
    split <;> exact ⟨hcommand, hdescription⟩
  | addChannel => exact ⟨_, Draft.apply_addChannel hnamed _, hcommand, hdescription⟩
  | addGuild => exact ⟨_, Draft.apply_addGuild hnamed _, hcommand, hdescription⟩
  | setAction => exact ⟨_, Draft.apply_setAction hnamed _, hcommand, hdescription⟩

/-- The first call brings the name and the description. -/
theorem exists_apply_setCommand (c : CommandManifest) :
    ∃ d, Draft.empty.apply (.setCommand c.name c.description) = d.accept ∧ c.Begins d := by
  show ∃ d, Draft.setDescription { Draft.empty with command := some c.name } c.description =
    d.accept ∧ c.Begins d
  rw [Draft.setDescription]
  by_cases hempty : c.description = ""
  · rw [if_pos (by rw [hempty]; rfl)]
    exact ⟨_, rfl, rfl, (if_pos hempty).symm⟩
  · rw [if_neg (by simpa using hempty)]
    exact ⟨_, rfl, rfl, (if_neg hempty).symm⟩

/-- Nothing that comes before the arguments is refused. -/
theorem exists_callAll_openingCalls (c : CommandManifest) :
    ∃ d, callAll .empty c.openingCalls = .ok d ∧ c.Begins d := by
  obtain ⟨d, hfirst, hbegins⟩ := c.exists_apply_setCommand
  have hroutine : ∀ call ∈ (c.kind.map Call.setKind).toList ++
      c.subcommands.map (fun s => Call.addSubcommand s.name s.description), IsRoutine call := by
    intro call hcall
    rw [List.mem_append, Option.mem_toList, Option.map_eq_some_iff, List.mem_map] at hcall
    rcases hcall with ⟨_, -, rfl⟩ | ⟨_, -, rfl⟩ <;> trivial
  obtain ⟨d', hrest, hbegins'⟩ :=
    exists_callAll (fun call hcall d h => h.accepts (hroutine call hcall)) hbegins
  refine ⟨d', ?_, hbegins'⟩
  rw [openingCalls, List.cons_append, callAll, Draft.applyWhileAccepted, hfirst]
  exact hrest

/-- Nothing that comes after the arguments is refused. -/
theorem exists_callAll_closingCalls (h : c.Begins d) :
    ∃ d', callAll d c.closingCalls = .ok d' ∧ c.Begins d' := by
  have hroutine : ∀ call ∈ c.closingCalls, IsRoutine call := by
    intro call hcall
    simp only [closingCalls, List.mem_append, List.mem_map, Option.mem_toList,
      Option.map_eq_some_iff] at hcall
    rcases hcall with ((⟨_, -, rfl⟩ | ⟨_, -, rfl⟩) | ⟨_, -, rfl⟩) | ⟨_, -, rfl⟩ <;> trivial
  exact exists_callAll (fun call hcall d h => h.accepts (hroutine call hcall)) h

/-- Arguments are declared on any draft with a name if they are sound. -/
theorem declare_cons (h : c.Begins d) (a : ArgumentManifest) (rest : List ArgumentManifest) :
    declare d (a :: rest) =
      a.check.bind fun _ => declare (d.addArgument a.options).1 rest := by
  rw [declare, ArgumentManifest.check]
  split
  · next hsources =>
    rw [ArgumentManifest.toOptions_of_hasTwoSources hsources]
    rfl
  · next hsource =>
    rw [ArgumentManifest.toOptions_of_not_hasTwoSources hsource, ← Draft.addArgument_snd d]
    show (callAll d [.addArgument a.options]).bind (declare · rest) = _
    rw [callAll, Draft.applyWhileAccepted, Draft.apply_addArgument h.isSome]
    cases d.addArgument a.options with
    | mk d' answer => cases answer <;> rfl

theorem Begins.addArgument (h : c.Begins d) (o : ArgumentOptions) :
    c.Begins (d.addArgument o).1 := by
  obtain ⟨nodes, completers, choices, defaults, heq⟩ := Draft.addArgument_frame d o
  rw [heq]
  exact ⟨h.command_eq, h.description_eq⟩

/-- The arguments of a command are refused for the fault of the first that is not sound. -/
theorem declare_eq_error_iff {arguments : List ArgumentManifest} (h : c.Begins d) :
    declare d arguments = .error fault ↔ ArgumentManifest.FirstRefusal arguments fault := by
  rw [ArgumentManifest.FirstRefusal]
  induction arguments generalizing d with
  | nil =>
    refine iff_of_false nofun ?_
    rintro ⟨before, a, after, heq, -⟩
    simp at heq
  | cons a rest ih =>
    rw [declare_cons h, exists_divided_cons_iff (R := fun (before : List ArgumentManifest)
      (a : ArgumentManifest) => (∀ b ∈ before, b.IsSound) ∧ a.IsRefusedFor fault)]
    cases hcheck : a.check with
    | ok =>
      have hsound := ArgumentManifest.check_eq_ok_iff.mp hcheck
      have hnot := ArgumentManifest.isSound_iff.mp hsound fault
      show declare (d.addArgument a.options).1 rest = .error fault ↔ _
      rw [ih (h.addArgument a.options)]
      simp only [List.forall_mem_cons, hsound, hnot, and_false, false_or, true_and]
    | error found =>
      have hfound := ArgumentManifest.check_eq_error_iff.mp hcheck
      have hunsound : ¬ a.IsSound := fun hsound =>
        ArgumentManifest.isSound_iff.mp hsound found hfound
      simp only [List.forall_mem_cons, List.not_mem_nil, false_imp_iff, implies_true, hunsound,
        false_and, and_false, exists_false, or_false, true_and,
        ← ArgumentManifest.check_eq_error_iff, hcheck, Except.bind, Except.error.injEq]

/-- Arguments are declared if all of them are sound. -/
theorem exists_declare_iff {arguments : List ArgumentManifest} (h : c.Begins d) :
    (∃ d', declare d arguments = .ok d') ↔ ∀ a ∈ arguments, a.IsSound := by
  induction arguments generalizing d with
  | nil => exact iff_of_true ⟨d, rfl⟩ (List.forall_mem_nil _)
  | cons a rest ih =>
    rw [declare_cons h, List.forall_mem_cons, ← ArgumentManifest.check_eq_ok_iff]
    cases a.check with
    | ok =>
      rw [and_iff_right rfl]
      exact ih (h.addArgument a.options)
    | error found => exact iff_of_false (fun h => nomatch h) (fun h => nomatch h.1)

theorem Begins.declare {arguments : List ArgumentManifest} {d' : Draft} (h : c.Begins d)
    (hok : declare d arguments = .ok d') : c.Begins d' := by
  induction arguments generalizing d with
  | nil =>
    cases hok
    exact h
  | cons a rest ih =>
    rw [declare_cons h] at hok
    cases hcheck : a.check with
    | ok =>
      rw [hcheck] at hok
      exact ih (h.addArgument a.options) hok
    | error found =>
      rw [hcheck] at hok
      cases hok

/-- A draft with the name of a command is built unless the description of the command is empty. -/
theorem Begins.build_cases (h : c.Begins d) :
    c.description = "" ∧ d.build = .error (.missingDescription c.name) ∨
      c.description ≠ "" ∧ ∃ definition, d.build = .ok definition ∧ definition.name = c.name := by
  rw [Draft.build, h.command_eq, h.description_eq]
  by_cases hempty : c.description = ""
  · rw [if_pos hempty]
    exact .inl ⟨hempty, rfl⟩
  · rw [if_neg hempty]
    exact .inr ⟨hempty, _, rfl, rfl⟩

/-- A command comes to the fault of its first argument that is not sound, to the fault that it has
no description, or to a definition with its name. -/
theorem compile_cases (c : CommandManifest) :
    (∃ found, c.compile = .error found ∧ (¬ ∀ a ∈ c.arguments, a.IsSound) ∧
        ∀ fault, ArgumentManifest.FirstRefusal c.arguments fault ↔ found = fault) ∨
      (∀ a ∈ c.arguments, a.IsSound) ∧
        (∀ fault, ¬ ArgumentManifest.FirstRefusal c.arguments fault) ∧
        (c.description = "" ∧ c.compile = .error (.refused (.missingDescription c.name)) ∨
          c.description ≠ "" ∧ ∃ definition, c.compile = .ok definition ∧
            definition.name = c.name) := by
  obtain ⟨opened, hopened, hbegins⟩ := c.exists_callAll_openingCalls
  have hcompile : c.compile = (declare opened c.arguments).bind fun declared =>
      (callAll declared c.closingCalls).bind fun closed => closed.build.mapError .refused := by
    rw [compile, hopened]
    rfl
  simp only [← declare_eq_error_iff hbegins, ← exists_declare_iff hbegins]
  cases hdeclare : declare opened c.arguments with
  | error found =>
    refine .inl ⟨found, ?_, by simp, by simp⟩
    rw [hcompile, hdeclare]
    rfl
  | ok declared =>
    refine .inr ⟨⟨declared, rfl⟩, by simp, ?_⟩
    obtain ⟨closed, hclosed, hbegins'⟩ := exists_callAll_closingCalls (hbegins.declare hdeclare)
    rw [hcompile, hdeclare, Except.bind, hclosed, Except.bind]
    rcases hbegins'.build_cases with ⟨hempty, hbuild⟩ | ⟨hne, definition, hbuild, hname⟩
    · rw [hbuild]
      exact .inl ⟨hempty, rfl⟩
    · rw [hbuild]
      exact .inr ⟨hne, definition, rfl, hname⟩

theorem isRefusedFor_iff :
    c.IsRefusedFor fault ↔ ArgumentManifest.FirstRefusal c.arguments fault ∨
      (∀ a ∈ c.arguments, a.IsSound) ∧ c.description = "" ∧
        fault = .refused (.missingDescription c.name) := by
  constructor
  · intro h
    cases h with
    | argument h => exact .inl h
    | description harguments h => exact .inr ⟨harguments, h, rfl⟩
  · rintro (h | ⟨harguments, h, rfl⟩)
    · exact .argument h
    · exact .description harguments h

/-- A command is refused for the fault that it has. -/
theorem compile_eq_error_iff : c.compile = .error fault ↔ c.IsRefusedFor fault := by
  rw [isRefusedFor_iff]
  rcases c.compile_cases with
    ⟨found, h, hunsound, hfirst⟩ | ⟨hsound, hnone, ⟨hempty, h⟩ | ⟨hne, definition, h, -⟩⟩
  · simp [h, hfirst, hunsound]
  · rw [and_iff_right hsound]
    simp [h, hnone, hempty, eq_comm]
  · simp [h, hnone, hne]

theorem exists_compile_iff : (∃ definition, c.compile = .ok definition) ↔ c.Compiles := by
  rcases c.compile_cases with
    ⟨found, h, hunsound, -⟩ | ⟨hsound, -, ⟨hempty, h⟩ | ⟨hne, definition, h, -⟩⟩
  · exact iff_of_false (by simp [h]) fun hcompiles => hunsound hcompiles.arguments
  · exact iff_of_false (by simp [h]) fun hcompiles => hcompiles.description hempty
  · exact iff_of_true ⟨definition, h⟩ ⟨hsound, hne⟩

/-- A definition has the name of the command that compiles to it. -/
theorem name_of_compile {definition : Definition} (hcompile : c.compile = .ok definition) :
    definition.name = c.name := by
  rcases c.compile_cases with ⟨found, h, -⟩ | ⟨-, -, ⟨-, h⟩ | ⟨-, built, h, hname⟩⟩
  · cases hcompile.symm.trans h
  · cases hcompile.symm.trans h
  · cases hcompile.symm.trans h
    exact hname

theorem isRefusedAfter_iff_of_mem {names : List String} {fault : ManifestFault}
    (hname : c.name ∈ names) : c.IsRefusedAfter names fault ↔ fault = .declaredTwice c.name := by
  constructor
  · intro h
    cases h with
    | declaredTwice => rfl
    | invalidCommand hnew => exact absurd hname hnew
  · rintro rfl
    exact .declaredTwice hname

theorem isRefusedAfter_iff_of_not_mem {names : List String} {fault : ManifestFault}
    (hname : c.name ∉ names) : c.IsRefusedAfter names fault ↔
      ∃ cause, c.compile = .error cause ∧ fault = .invalidCommand c.name cause := by
  constructor
  · intro h
    cases h with
    | declaredTwice hmem => exact absurd hmem hname
    | invalidCommand _ h => exact ⟨_, compile_eq_error_iff.mpr h, rfl⟩
  · rintro ⟨cause, h, rfl⟩
    exact .invalidCommand hname (compile_eq_error_iff.mp h)

/-- Of earlier names it only counts which they are. -/
theorem isRefusedAfter_congr {names names' : List String} {fault : ManifestFault}
    (h : ∀ name, name ∈ names ↔ name ∈ names') :
    c.IsRefusedAfter names fault ↔ c.IsRefusedAfter names' fault := by
  have of_iff {names names' : List String} (h : ∀ name, name ∈ names ↔ name ∈ names')
      (hrefused : c.IsRefusedAfter names fault) : c.IsRefusedAfter names' fault := by
    cases hrefused with
    | declaredTwice hname => exact .declaredTwice ((h _).mp hname)
    | invalidCommand hname hc => exact .invalidCommand (fun hmem => hname ((h _).mpr hmem)) hc
  exact ⟨of_iff h, of_iff fun name => (h name).symm⟩

/-- A fault tells the name of the command that is refused for it. -/
theorem IsRefusedAfter.names_command {names : List String} {fault : ManifestFault}
    (h : c.IsRefusedAfter names fault) :
    ("command '" ++ c.name ++ "'").toList <:+: fault.message.toList := by
  cases h with
  | declaredTwice =>
    show _ <:+: ("command '" ++ c.name ++ "' is declared twice").toList
    refine ⟨[], " is declared twice".toList, ?_⟩
    simp
  | @invalidCommand cause =>
    show _ <:+: ("invalid command '" ++ c.name ++ "': " ++ cause.message).toList
    refine ⟨"invalid ".toList, (": " ++ cause.message).toList, ?_⟩
    simp

end CommandManifest

/-! ### Manifests -/

namespace Manifest

open CommandManifest

variable {names : List String} {commands : List CommandManifest} {c : CommandManifest}

theorem compileAfter_cons_of_mem (h : c.name ∈ names) (rest : List CommandManifest) :
    compileAfter names (c :: rest) = .error (.declaredTwice c.name) := by
  rw [compileAfter, if_pos (by simpa using h)]

theorem compileAfter_cons_of_not_mem (h : c.name ∉ names) (rest : List CommandManifest) :
    compileAfter names (c :: rest) =
      (c.compile.mapError (.invalidCommand c.name)).bind fun d =>
        (compileAfter (c.name :: names) rest).map (d :: ·) := by
  rw [compileAfter, if_neg (by simpa using h)]
  cases c.compile with
  | error fault => rfl
  | ok d => cases compileAfter (c.name :: names) rest <;> rfl

/-- Commands are compiled one by one, as long as their names are new. -/
theorem compileAfter_eq_ok_iff {definitions : List Definition} :
    compileAfter names commands = .ok definitions ↔
      (commands.map (·.name)).Nodup ∧ (∀ c ∈ commands, c.name ∉ names) ∧
        List.Forall₂ (fun c d => c.compile = .ok d) commands definitions := by
  induction commands generalizing names definitions with
  | nil =>
    rw [compileAfter, Except.ok.injEq]
    simp [eq_comm]
  | cons c rest ih =>
    rw [List.map_cons, List.nodup_cons, List.forall_mem_cons]
    by_cases hname : c.name ∈ names
    · rw [compileAfter_cons_of_mem hname]
      exact iff_of_false nofun fun h => h.2.1.1 hname
    · rw [compileAfter_cons_of_not_mem hname, List.forall₂_cons_left_iff]
      cases hcompile : c.compile with
      | error fault => exact iff_of_false nofun fun ⟨_, _, _, _, hc, _⟩ => nomatch hc
      | ok d =>
        constructor
        · intro h
          cases hrest : compileAfter (c.name :: names) rest with
          | error fault =>
            rw [hrest] at h
            cases h
          | ok ds =>
            rw [hrest] at h
            cases h
            obtain ⟨hnodup, hnew, hall⟩ := ih.mp hrest
            simp only [List.mem_cons, not_or] at hnew
            refine ⟨⟨?_, hnodup⟩, ⟨hname, fun b hb => (hnew b hb).2⟩, d, ds, rfl, hall, rfl⟩
            rw [List.mem_map]
            rintro ⟨b, hb, heq⟩
            exact (hnew b hb).1 heq
        · rintro ⟨⟨hfresh, hnodup⟩, ⟨-, hnew⟩, _, ds, ⟨rfl⟩, hall, rfl⟩
          have hrest : compileAfter (c.name :: names) rest = .ok ds := by
            refine ih.mpr ⟨hnodup, fun b hb => ?_, hall⟩
            rw [List.mem_cons, not_or]
            exact ⟨fun heq => hfresh (List.mem_map.mpr ⟨b, hb, heq⟩), hnew b hb⟩
          rw [hrest]
          rfl

/-- Holds of the fault of the first of several commands that cannot be compiled after commands of
some names and those before it. -/
def FirstRefusal (names : List String) (commands : List CommandManifest) (fault : ManifestFault) :
    Prop :=
  ∃ before c after, commands = before ++ c :: after ∧
    ((∀ b ∈ before, b.name ∉ names) ∧ CompileTogether before) ∧
    c.IsRefusedAfter (before.map (·.name) ++ names) fault

/-- The first command is refused, or it compiles and its name is one more to avoid. -/
theorem firstRefusal_cons_iff {rest : List CommandManifest} {fault : ManifestFault} :
    FirstRefusal names (c :: rest) fault ↔
      c.IsRefusedAfter names fault ∨
        (c.name ∉ names ∧ c.Compiles) ∧ FirstRefusal (c.name :: names) rest fault := by
  rw [FirstRefusal, exists_divided_cons_iff (R := fun (before : List CommandManifest)
    (c : CommandManifest) => ((∀ b ∈ before, b.name ∉ names) ∧ CompileTogether before) ∧
      c.IsRefusedAfter (before.map (·.name) ++ names) fault)]
  refine or_congr (by simp [CompileTogether]) ?_
  -- the name of the head moves from the commands before to the names to avoid
  have hbefore (before : List CommandManifest) :
      ((∀ b ∈ c :: before, b.name ∉ names) ∧ CompileTogether (c :: before)) ↔
        (c.name ∉ names ∧ c.Compiles) ∧
          (∀ b ∈ before, b.name ∉ c.name :: names) ∧ CompileTogether before := by
    simp only [CompileTogether, List.forall_mem_cons, List.map_cons, List.nodup_cons]
    simp only [List.mem_map, List.mem_cons, not_or, not_exists, not_and, imp_and, forall_and]
    tauto
  have hnames (before : List CommandManifest) (y : CommandManifest) :
      y.IsRefusedAfter ((c :: before).map (·.name) ++ names) fault ↔
        y.IsRefusedAfter (before.map (·.name) ++ c.name :: names) fault :=
    isRefusedAfter_congr (by simp [or_left_comm])
  simp only [hbefore, hnames, FirstRefusal]
  constructor
  · rintro ⟨before, y, after, heq, ⟨hc, htogether⟩, hy⟩
    exact ⟨hc, before, y, after, heq, htogether, hy⟩
  · rintro ⟨hc, before, y, after, heq, htogether, hy⟩
    exact ⟨before, y, after, heq, ⟨hc, htogether⟩, hy⟩

/-- The first command that cannot be compiled after those before it decides. -/
theorem compileAfter_eq_error_iff {fault : ManifestFault} :
    compileAfter names commands = .error fault ↔ FirstRefusal names commands fault := by
  induction commands generalizing names with
  | nil =>
    refine iff_of_false nofun ?_
    rintro ⟨before, c, after, heq, -⟩
    simp at heq
  | cons c rest ih =>
    rw [firstRefusal_cons_iff]
    by_cases hname : c.name ∈ names
    · rw [compileAfter_cons_of_mem hname, isRefusedAfter_iff_of_mem hname, Except.error.injEq,
        eq_comm]
      simp [hname]
    · rw [compileAfter_cons_of_not_mem hname, isRefusedAfter_iff_of_not_mem hname,
        ← exists_compile_iff, ← ih]
      cases c.compile with
      | error found => simp [Except.mapError, Except.bind, eq_comm]
      | ok d =>
        cases compileAfter (c.name :: names) rest <;>
          simp [Except.mapError, Except.bind, Except.map, hname]

theorem definitions_eq_error_iff {m : Manifest} {fault : ManifestFault} :
    m.definitions = .error fault ↔ m.IsRefusedFor fault := by
  rw [definitions, compileAfter_eq_error_iff, FirstRefusal, IsRefusedFor]
  simp

theorem definitions_eq_ok_iff {m : Manifest} {ds : List Definition} :
    m.definitions = .ok ds ↔ (m.commands.map (·.name)).Nodup ∧
      List.Forall₂ (fun c d => c.compile = .ok d) m.commands ds := by
  rw [definitions, compileAfter_eq_ok_iff]
  simp

/-- A manifest of one command has the definition of that command. -/
theorem definitions_singleton (c : CommandManifest) (d : Definition) :
    (Manifest.mk [c]).definitions = .ok [d] ↔ c.compile = .ok d := by
  rw [definitions_eq_ok_iff]
  simp

/-- A manifest has definitions if its commands compile and have different names. -/
theorem exists_definitions_iff {m : Manifest} :
    (∃ ds, m.definitions = .ok ds) ↔
      (m.commands.map (·.name)).Nodup ∧ ∀ c ∈ m.commands, ∃ d, c.compile = .ok d := by
  simp only [definitions_eq_ok_iff, exists_and_left, exists_forall₂_iff]

/-- **Compiling a manifest is exact.**  A manifest has definitions just in case the names of its
commands are different and each of them compiles, and then they are the definitions that the
commands have alone, in order.  A command compiles if nothing is wrong with it, and otherwise it is
refused for the first thing that is; a manifest is refused for its first command that repeats a name
or does not compile, and the fault tells the name of this command. -/
theorem compiles_exactly (m : Manifest) :
    ((∃ ds, m.definitions = .ok ds) ↔
        (m.commands.map (·.name)).Nodup ∧ ∀ c ∈ m.commands, ∃ d, c.compile = .ok d) ∧
      (∀ ds, m.definitions = .ok ds →
        List.Forall₂ (fun c d => c.compile = .ok d ∧ (Manifest.mk [c]).definitions = .ok [d] ∧
          d.name = c.name) m.commands ds) ∧
      (∀ c ∈ m.commands, ((∃ d, c.compile = .ok d) ↔ c.Compiles) ∧
        ∀ fault, c.compile = .error fault ↔ c.IsRefusedFor fault) ∧
      (∀ fault, m.definitions = .error fault ↔ m.IsRefusedFor fault) ∧
      ∀ fault, m.definitions = .error fault → ∃ before c after,
        m.commands = before ++ c :: after ∧ CompileTogether before ∧
          c.IsRefusedAfter (before.map (·.name)) fault ∧
          ("command '" ++ c.name ++ "'").toList <:+: fault.message.toList := by
  refine ⟨exists_definitions_iff, fun ds h => ?_,
    fun c _ => ⟨exists_compile_iff, fun fault => compile_eq_error_iff⟩,
    fun fault => definitions_eq_error_iff, fun fault h => ?_⟩
  · refine (definitions_eq_ok_iff.mp h).2.imp fun c d hcompile => ?_
    exact ⟨hcompile, (definitions_singleton c d).mpr hcompile, name_of_compile hcompile⟩
  · obtain ⟨before, c, after, heq, htogether, hc⟩ := definitions_eq_error_iff.mp h
    exact ⟨before, c, after, heq, htogether, hc, hc.names_command⟩

end Manifest

end SlashCommands
