import Mathlib.Data.List.Forall2
import SlashCommands.CommandLine.Run
import SlashCommands.Proofs.Serving.Reading

/-!
# Resolved arguments

`Node.Visits` describes a walk over the arguments of a command in single steps.  For each argument
that is visited there is one that is resolved, flags apart from the others and both in the order of
the walk (`Resolved.Answers`).

* `Resolved.Answers.push` is one step: an argument that is added answers one more visit.
* `Resolved.Answers.foldl_pushNode` is the walk, by induction on its steps, from any arguments that
  have been resolved before.

The main statement, `Definition.resolves_entries`, says so for every definition and interaction; the
line about the definition has the numbers of arguments and flags that are resolved; and interactions
with the same subcommand and the same values resolve to the same.
-/

namespace SlashCommands

/-- Holds of nodes and the arguments that a walk over them visits, in order.  The walk visits an
argument and goes on; in a subcommand, it goes on with the arguments that are left in it. -/
inductive Node.Visits : List Node → List (Option String × Entry) → Prop
  | nil : Visits [] []
  | argument (e : Entry) {rest : List Node} {visited : List (Option String × Entry)}
      (h : Visits rest visited) : Visits (.argument e :: rest) ((none, e) :: visited)
  | leave (name description : String) {rest : List Node}
      {visited : List (Option String × Entry)} (h : Visits rest visited) :
      Visits (.subcommand ⟨name, description, []⟩ :: rest) visited
  | enter (name description : String) (e : Entry) {entries : List Entry} {rest : List Node}
      {visited : List (Option String × Entry)}
      (h : Visits (.subcommand ⟨name, description, entries⟩ :: rest) visited) :
      Visits (.subcommand ⟨name, description, e :: entries⟩ :: rest) ((some name, e) :: visited)

namespace Node

variable {nodes : List Node} {visited : List (Option String × Entry)}

theorem visits_walk (nodes : List Node) : Visits nodes (walk nodes) := by
  induction nodes with
  | nil => exact .nil
  | cons node rest ih =>
    cases node with
    | argument e => exact .argument e ih
    | subcommand s =>
      obtain ⟨name, description, entries⟩ := s
      -- the arguments of the subcommand come one after the other, then the rest
      induction entries with
      | nil => exact .leave name description ih
      | cons e entries ihentries => exact .enter name description e ihentries

theorem Visits.eq_walk (h : Visits nodes visited) : visited = walk nodes := by
  induction h with
  | nil => rfl
  | argument e _ ih =>
    rw [ih]
    rfl
  | leave name description _ ih =>
    rw [ih]
    rfl
  | enter name description e _ ih =>
    rw [ih]
    rfl

end Node

/-- Holds of an argument that is resolved for one that has been visited: it has its name, its scope
and the rest of what is declared, no value if the interaction does not see it, and otherwise the
value of the first option with its name, if there is one. -/
structure ResolvedArgument.Resolves (i : Interaction) (v : Option String × Entry)
    (r : ResolvedArgument) : Prop where
  name_eq : r.name = v.2.name
  scope_eq : r.scope = v.1
  kind_eq : r.kind = v.2.kind
  datatype_eq : r.datatype = v.2.datatype
  optional_eq : r.optional = v.2.optional
  flag_eq : r.flag = v.2.flag
  unseen : ¬ i.Sees v.1 → r.value = none
  seen : i.Sees v.1 → ∀ value, r.value = some value ↔ i.Gives v.2.name value

namespace ResolvedArgument

variable {i i' : Interaction} {v : Option String × Entry} {r r' : ResolvedArgument}

theorem resolves_ofEntry (i : Interaction) (v : Option String × Entry) :
    (ofEntry i v.1 v.2).Resolves i v where
  name_eq := rfl
  scope_eq := rfl
  kind_eq := rfl
  datatype_eq := rfl
  optional_eq := rfl
  flag_eq := rfl
  unseen := fun h => suppliedValue_of_not_sees h _
  seen := fun h value => by
    rw [Interaction.gives_iff, ← suppliedValue_of_sees h]
    rfl

/-- For an argument that has been visited there is one way to resolve it. -/
theorem Resolves.unique (h : r.Resolves i v) (h' : r'.Resolves i v) : r = r' := by
  have hvalue : r.value = r'.value := by
    by_cases hsees : i.Sees v.1
    · refine Option.ext fun value => ?_
      rw [h.seen hsees, h'.seen hsees]
    · rw [h.unseen hsees, h'.unseen hsees]
  obtain ⟨hname, hscope, hkind, hdatatype, hoptional, hflag, -, -⟩ := h
  obtain ⟨hname', hscope', hkind', hdatatype', hoptional', hflag', -, -⟩ := h'
  cases r
  cases r'
  simp_all only

/-- Only the subcommand and what is given under the name of the argument matter. -/
theorem Resolves.congr (h : r.Resolves i v) (hsubcommand : i'.subcommand = i.subcommand)
    (hgives : ∀ value, i'.Gives v.2.name value ↔ i.Gives v.2.name value) : r.Resolves i' v := by
  have hsees : i'.Sees v.1 ↔ i.Sees v.1 := by
    rw [Interaction.Sees, Interaction.Sees, hsubcommand]
  exact
    { h with
      unseen := fun hnot => h.unseen (mt hsees.mpr hnot)
      seen := fun hsees' value => (h.seen (hsees.mp hsees') value).trans (hgives value).symm }

end ResolvedArgument

/-- Holds of resolved arguments, one for each that has been visited: the flags, and the arguments
that are none, each in the order of the visits. -/
structure Resolved.Answers (i : Interaction) (visited : List (Option String × Entry))
    (r : Resolved) : Prop where
  args : List.Forall₂ (ResolvedArgument.Resolves i) (visited.filter fun v => !v.2.isFlag) r.args
  flags : List.Forall₂ (ResolvedArgument.Resolves i) (visited.filter fun v => v.2.isFlag) r.flags

namespace Resolved

variable {i i' : Interaction} {nodes : List Node} {visited : List (Option String × Entry)}
  {v : Option String × Entry} {r r' : Resolved}

/-! ### The walk -/

/-- One step: an argument that is added answers one more visit. -/
theorem Answers.push (h : r.Answers i visited) (v : Option String × Entry) :
    (r.push (.ofEntry i v.1 v.2)).Answers i (visited ++ [v]) := by
  have hresolves : List.Forall₂ (ResolvedArgument.Resolves i) [v] [.ofEntry i v.1 v.2] :=
    .cons (ResolvedArgument.resolves_ofEntry i v) .nil
  by_cases hflag : v.2.isFlag
  · have hpush : r.push (.ofEntry i v.1 v.2) =
        { r with flags := r.flags ++ [.ofEntry i v.1 v.2] } := if_pos hflag
    rw [hpush]
    refine ⟨?_, ?_⟩
    · rw [List.filter_append, List.filter_cons_of_neg (by simpa using hflag), List.filter_nil,
        List.append_nil]
      exact h.args
    · rw [List.filter_append, List.filter_cons_of_pos (by simpa using hflag), List.filter_nil]
      exact List.rel_append h.flags hresolves
  · have hpush : r.push (.ofEntry i v.1 v.2) =
        { r with args := r.args ++ [.ofEntry i v.1 v.2] } := if_neg hflag
    rw [hpush]
    refine ⟨?_, ?_⟩
    · rw [List.filter_append, List.filter_cons_of_pos (by simpa using hflag), List.filter_nil]
      exact List.rel_append h.args hresolves
    · rw [List.filter_append, List.filter_cons_of_neg (by simpa using hflag), List.filter_nil,
        List.append_nil]
      exact h.flags

/-- What has been answered stays answered, and the nodes that are left add what a walk visits in
them. -/
theorem Answers.foldl_pushNode {before : List (Option String × Entry)} (hr : r.Answers i before)
    (h : Node.Visits nodes visited) :
    (nodes.foldl (pushNode i) r).Answers i (before ++ visited) := by
  induction h generalizing r before with
  | nil =>
    rw [List.append_nil]
    exact hr
  | argument e _ ih =>
    rw [List.append_cons]
    exact ih (hr.push (none, e))
  | leave name description _ ih => exact ih hr
  | enter name description e _ ih =>
    -- the loop over the subcommand goes on with the arguments that are left in it
    rw [List.append_cons]
    exact ih (hr.push (some name, e))

/-- What is resolved are the arguments that a walk visits. -/
theorem answers_of_visits (h : Node.Visits nodes visited) (i : Interaction) :
    (ofNodes nodes i).Answers i visited := by
  have hnone : Answers i [] ⟨[], []⟩ := ⟨.nil, .nil⟩
  exact hnone.foldl_pushNode h

theorem forall₂_resolves_unique {visited : List (Option String × Entry)}
    {rs rs' : List ResolvedArgument} (h : List.Forall₂ (ResolvedArgument.Resolves i) visited rs)
    (h' : List.Forall₂ (ResolvedArgument.Resolves i) visited rs') : rs = rs' := by
  induction h generalizing rs' with
  | nil =>
    cases h'
    rfl
  | cons hr _ ih =>
    cases h' with
    | cons hr' hrest' => rw [hr.unique hr', ih hrest']

/-- There is one way to answer what has been visited. -/
theorem Answers.unique (h : r.Answers i visited) (h' : r'.Answers i visited) : r = r' := by
  have hargs : r.args = r'.args := forall₂_resolves_unique h.args h'.args
  have hflags : r.flags = r'.flags := forall₂_resolves_unique h.flags h'.flags
  cases r
  cases r'
  simp_all only

/-- Only the subcommand and what is given under the names of the arguments matter. -/
theorem Answers.congr (h : r.Answers i visited) (hsubcommand : i'.subcommand = i.subcommand)
    (hgives : ∀ v ∈ visited, ∀ value, i'.Gives v.2.name value ↔ i.Gives v.2.name value) :
    r.Answers i' visited := by
  have hcongr {vs : List (Option String × Entry)} {rs : List ResolvedArgument}
      (hmem : ∀ v ∈ vs, v ∈ visited)
      (hresolves : List.Forall₂ (ResolvedArgument.Resolves i) vs rs) :
      List.Forall₂ (ResolvedArgument.Resolves i') vs rs := by
    have hboth := (List.forall₂_and_left vs rs).mpr ⟨fun v hv => hgives v (hmem v hv), hresolves⟩
    exact hboth.imp fun v r h => h.2.congr hsubcommand h.1
  exact ⟨hcongr (fun _ => List.mem_of_mem_filter) h.args,
    hcongr (fun _ => List.mem_of_mem_filter) h.flags⟩

theorem Answers.length_args (h : r.Answers i visited) :
    r.args.length = (visited.filter fun v => !v.2.isFlag).length :=
  h.args.length_eq.symm

theorem Answers.length_flags (h : r.Answers i visited) :
    r.flags.length = (visited.filter fun v => v.2.isFlag).length :=
  h.flags.length_eq.symm

/-- Nothing is lost. -/
theorem Answers.length_add (h : r.Answers i visited) :
    r.args.length + r.flags.length = visited.length := by
  have hsplit := (List.filter_append_perm (fun v => v.2.isFlag) visited).length_eq
  rw [h.length_args, h.length_flags, Nat.add_comm, ← List.length_append]
  exact hsplit

end Resolved

namespace Definition

/-- **Resolving loses and reorders nothing.**  Whatever is declared and whatever an interaction
supplies, there is one resolved argument for each that is declared, with what is declared for it,
and flags and the others each come in the order of the walk over the declaration.  An argument that
the interaction sees has the value of the first option with its name, and other arguments have none.
The line about the definition has the numbers of these arguments and flags, and an interaction with
the same subcommand that gives the same values for the declared names resolves to the same. -/
theorem resolves_entries (d : Definition) (i : Interaction) :
    let r := Resolved.ofNodes d.nodes i
    (∀ visited, Node.Visits d.nodes visited ↔ visited = d.entries) ∧
      r.Answers i d.entries ∧
      r.args.length + r.flags.length = d.entries.length ∧
      CommandLine.summary d =
        "/" ++ CommandLine.padEnd 20 d.name ++ " " ++ CommandLine.padEnd 10 d.kind.name
          ++ s!" args={r.args.length} flags={r.flags.length} "
          ++ (if d.guilds.isEmpty then "global" else s!"guilds={d.guilds.size}") ++ "\n" ∧
      ∀ i' : Interaction, i'.subcommand = i.subcommand →
        (∀ v ∈ d.entries, ∀ value, i'.Gives v.2.name value ↔ i.Gives v.2.name value) →
        Resolved.ofNodes d.nodes i' = r := by
  intro r
  have hvisits : Node.Visits d.nodes d.entries := Node.visits_walk d.nodes
  have hanswers : r.Answers i d.entries := Resolved.answers_of_visits hvisits i
  refine ⟨fun visited => ⟨Node.Visits.eq_walk, ?_⟩, hanswers, hanswers.length_add, ?_, ?_⟩
  · rintro rfl
    exact hvisits
  · have hargs : r.args.length = d.entries.length - r.flags.length :=
      Nat.eq_sub_of_add_eq hanswers.length_add
    rw [hargs, hanswers.length_flags]
    rfl
  · intro i' hsubcommand hgives
    have hanswers' : (Resolved.ofNodes d.nodes i').Answers i' d.entries :=
      Resolved.answers_of_visits hvisits i'
    exact hanswers'.unique (hanswers.congr hsubcommand hgives)

/-- A command with the subcommands of a ban. -/
def moderation : Definition :=
  { name := "user"
    description := "Moderates"
    kind := .chatInput
    nodes := Node.moderation
    choices := .empty
    defaults := .empty
    requires := []
    channels := .empty
    guilds := .empty
    completers := .empty
    action := .nothing
    published := none }

/-- The ban has the first target in both subcommands of its name, and no reason.  A ban with nothing
but this target resolves to the same. -/
theorem resolves_entries_ban :
    let r := Resolved.ofNodes moderation.nodes .ban
    let plain : Interaction :=
      { Interaction.ban with id := "2", options := [.ofValue "target" (.string "7")] }
    r.Answers .ban moderation.entries ∧
      r.args.map (·.value) = [none, some (.string "7"), none, some (.string "7")] ∧
      r.flags.map (·.value) = [some (.string "7")] ∧
      r.args.length + r.flags.length = moderation.entries.length ∧
      Resolved.ofNodes moderation.nodes plain = r := by
  intro r plain
  obtain ⟨-, hanswers, hlength, -, hsame⟩ := resolves_entries moderation .ban
  refine ⟨hanswers, rfl, rfl, hlength, hsame plain rfl fun v hv value => ?_⟩
  -- the second target, which is left out, is not read
  have hoption : ∀ v ∈ moderation.entries,
      (plain.option? v.2.name).bind (·.value) =
        (Interaction.ban.option? v.2.name).bind (·.value) := by
    simp [Signature.entries, moderation, Node.moderation, Node.walk, Node.entries, Entry.plain,
      Interaction.option?, Interaction.ban, plain, SuppliedOption.ofValue]
  rw [Interaction.gives_iff, Interaction.gives_iff, hoption v hv]

end Definition

end SlashCommands
