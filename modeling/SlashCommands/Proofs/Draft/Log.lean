import Mathlib.Data.List.Induction
import SlashCommands.Proofs.Draft.Nodes

/-!
# Logs of declarations

A `Declaration` is what one accepted call declares: a subcommand, arguments in a scope, and what
belongs to the last of them.  From a list of declarations, the log, it can be read off what a
command has: `Declaration.entriesIn` are the arguments of a scope, `Declaration.nodes` the arguments
and the subcommands in the order in which they are first mentioned, and `Declaration.latest` is what
was said last on something.

The main statement is `Declaration.nodes_concat`: the nodes of a log with one more declaration are
those of the log to which its arguments are added, where they belong.
-/

namespace SlashCommands

/-- What an accepted call declares.  The scope is the subcommand that the call mentions, and the
label describes that subcommand if nothing has mentioned it before. -/
structure Declaration where
  scope : Option String
  label : String
  entries : List Entry
  target : Option Token
  completion : Option Completion
  default : Option OptionValue

namespace Declaration

/-- The declaration of a subcommand. -/
def ofSubcommand (name description : String) : Declaration :=
  ⟨some name, description, [], none, none, none⟩

/-- The declaration that tokens make.  Each token that does not select a subcommand declares an
argument, and the last of these has the bounds.  Only the first token can select a subcommand; it
then labels it by its name. -/
def ofTokens (o : ArgumentOptions) (tokens : List Token) : Declaration :=
  let selected := (tokens.head?.filter (·.kind = .command)).map (·.name)
  let arguments := tokens.filter (·.kind ≠ .command)
  { scope := selected
    label := selected.getD ""
    entries := arguments.dropLast.map (·.toEntry o.description none none) ++
      arguments.getLast?.toList.map (·.toEntry o.description o.min o.max)
    target := arguments.getLast?
    completion := o.completion
    default := o.default }

/-- What a call declares when it is accepted. -/
def ofCall? : Call → Option Declaration
  | .addSubcommand name description => some (ofSubcommand name description)
  | .addArgument o =>
    match Pattern.tokens o.pattern with
    | .ok tokens => some (ofTokens o tokens)
    | .error _ => none
  | _ => none

/-! ### Reading a log -/

/-- The arguments that a log declares in a scope, in order. -/
def entriesIn (scope : Option String) (log : List Declaration) : List Entry :=
  (log.filter (·.scope = scope)).flatMap (·.entries)

/-- The nodes of declarations in the order in which they are first mentioned, given the arguments of
the subcommands and the subcommands that have been mentioned before. -/
def nodesAfter (entries : String → List Entry) (mentioned : List String) :
    List Declaration → List Node
  | [] => []
  | m :: rest =>
    match m.scope with
    | none => m.entries.map .argument ++ nodesAfter entries mentioned rest
    | some name =>
      if name ∈ mentioned then nodesAfter entries mentioned rest
      else .subcommand ⟨name, m.label, entries name⟩ :: nodesAfter entries (name :: mentioned) rest

/-- The nodes of a log: arguments at top level where they are declared, and each subcommand where it
is first mentioned, with the label from there and all arguments that the log declares in it. -/
def nodes (log : List Declaration) : List Node :=
  nodesAfter (fun name => entriesIn (some name) log) [] log

/-- What the declarations of a log said last on something. -/
def latest {α : Type} (f : Declaration → Option α) (log : List Declaration) : Option α :=
  (log.filterMap f).getLast?

/-- Where the suggestions for an argument come from, if the declaration says so: if the argument is
the last that it declares. -/
def completionOf (key : Key) (m : Declaration) : Option Completion :=
  if m.target.any fun t => key = ⟨m.scope, t.name⟩ then m.completion else none

/-- The default of an argument, if the declaration says so: if the argument is optional and the last
that it declares. -/
def defaultOf (key : Key) (m : Declaration) : Option OptionValue :=
  if m.target.any fun t => key = ⟨m.scope, t.name⟩ ∧ t.optional then m.default else none

variable {log : List Declaration} {m : Declaration} {name : String} {scope : Option String}

theorem latest_concat {α : Type} (f : Declaration → Option α) :
    latest f (log ++ [m]) = (f m).or (latest f log) := by
  rw [latest, List.filterMap_append, List.getLast?_append]
  cases h : f m with
  | none => simp [h, latest]
  | some a => simp [h]

theorem entriesIn_concat :
    entriesIn scope (log ++ [m]) =
      entriesIn scope log ++ if m.scope = scope then m.entries else [] := by
  rw [entriesIn, List.filter_append, List.flatMap_append, ← entriesIn]
  by_cases h : m.scope = scope
  · simp [h]
  · simp [h]

/-! ### Subcommands in the nodes of a log -/

/-- Holds if a log mentions a subcommand. -/
def Mentions (log : List Declaration) (name : String) : Prop :=
  ∃ m ∈ log, m.scope = some name

instance : Decidable (Mentions log name) :=
  inferInstanceAs (Decidable (∃ m ∈ log, m.scope = some name))

theorem mentions_cons {rest : List Declaration} :
    Mentions (m :: rest) name ↔ m.scope = some name ∨ Mentions rest name := by
  simp [Mentions]

theorem not_mentions_nil : ¬ Mentions [] name := by
  simp [Mentions]

theorem entriesIn_of_not_mentions (h : ¬ Mentions log name) : entriesIn (some name) log = [] := by
  rw [entriesIn, List.flatMap_eq_nil_iff]
  intro m hm
  obtain ⟨hmem, hscope⟩ := List.mem_filter.mp hm
  exact absurd ⟨m, hmem, by simpa using hscope⟩ h

variable {entries : String → List Entry} {mentioned : List String}

theorem subcommandNames_arguments_append (es : List Entry) (rest : List Node) :
    Node.subcommandNames (es.map .argument ++ rest) = Node.subcommandNames rest := by
  induction es with
  | nil => rfl
  | cons e es ih => exact ih

theorem mem_subcommandNames_nodesAfter :
    name ∈ Node.subcommandNames (nodesAfter entries mentioned log) ↔
      name ∉ mentioned ∧ Mentions log name := by
  induction log generalizing mentioned with
  | nil => simp [nodesAfter, Node.subcommandNames, not_mentions_nil]
  | cons m rest ih =>
    rw [nodesAfter, mentions_cons]
    cases hscope : m.scope with
    | none =>
      dsimp only
      rw [subcommandNames_arguments_append, ih]
      simp
    | some other =>
      dsimp only
      split
      · next hmem =>
        rw [ih, and_congr_right_iff]
        intro hnot
        have hne : ¬ other = name := fun heq => hnot (heq ▸ hmem)
        simp [hne]
      · next hnew =>
        rw [Node.subcommandNames, List.mem_cons, ih, List.mem_cons, Option.some_inj]
        by_cases heq : name = other
        · simp [heq, hnew]
        · simp [heq, Ne.symm heq]

theorem nodup_subcommandNames_nodesAfter :
    (Node.subcommandNames (nodesAfter entries mentioned log)).Nodup := by
  induction log generalizing mentioned with
  | nil => exact .nil
  | cons m rest ih =>
    rw [nodesAfter]
    cases hscope : m.scope with
    | none =>
      dsimp only
      rw [subcommandNames_arguments_append]
      exact ih
    | some other =>
      dsimp only
      split
      · exact ih
      · refine List.nodup_cons.mpr ⟨fun hmem => ?_, ih⟩
        exact (mem_subcommandNames_nodesAfter.mp hmem).1 List.mem_cons_self

/-! ### One more declaration -/

/-- Only the arguments of subcommands that are mentioned matter. -/
theorem nodesAfter_congr {entries' : String → List Entry}
    (h : ∀ name, name ∉ mentioned → Mentions log name → entries' name = entries name) :
    nodesAfter entries' mentioned log = nodesAfter entries mentioned log := by
  induction log generalizing mentioned with
  | nil => rfl
  | cons m rest ih =>
    rw [nodesAfter, nodesAfter]
    cases hscope : m.scope with
    | none =>
      dsimp only
      rw [ih fun name hnot hrest => h name hnot (mentions_cons.mpr (.inr hrest))]
    | some other =>
      dsimp only
      split
      · exact ih fun name hnot hrest => h name hnot (mentions_cons.mpr (.inr hrest))
      · next hnew =>
        have hrest : nodesAfter entries' (other :: mentioned) rest =
            nodesAfter entries (other :: mentioned) rest :=
          ih fun name hnot hrest => h name (List.not_mem_of_not_mem_cons hnot)
            (mentions_cons.mpr (.inr hrest))
        rw [h other hnew (mentions_cons.mpr (.inl hscope)), hrest]

/-- Arguments are added to a subcommand where it is mentioned first. -/
theorem extend_nodesAfter {entries' : String → List Entry} {es : List Entry}
    (hself : entries' name = entries name ++ es)
    (hother : ∀ other, other ≠ name → entries' other = entries other) (hnew : name ∉ mentioned) :
    Node.extend name es (nodesAfter entries mentioned log) = nodesAfter entries' mentioned log := by
  induction log generalizing mentioned with
  | nil => rfl
  | cons m rest ih =>
    rw [nodesAfter, nodesAfter]
    cases hscope : m.scope with
    | none =>
      dsimp only
      rw [Node.extend_arguments_append, ih hnew]
    | some other =>
      dsimp only
      split
      · exact ih hnew
      · next hnot =>
        rw [Node.extend]
        by_cases heq : other = name
        · -- the subcommand is mentioned here, and the rest has no node for it
          subst heq
          have hrest : nodesAfter entries' (other :: mentioned) rest =
              nodesAfter entries (other :: mentioned) rest :=
            nodesAfter_congr fun name hne _ => hother name (List.ne_of_not_mem_cons hne)
          rw [if_pos rfl, hself, hrest]
        · rw [if_neg heq, hother other heq, ih]
          exact List.not_mem_cons_of_ne_of_not_mem (Ne.symm heq) hnew

/-- One more declaration adds its arguments at top level, or its subcommand unless it has been
mentioned. -/
theorem nodesAfter_concat :
    nodesAfter entries mentioned (log ++ [m]) =
      nodesAfter entries mentioned log ++
        match m.scope with
        | none => m.entries.map .argument
        | some name =>
          if name ∈ mentioned ∨ Mentions log name then []
          else [.subcommand ⟨name, m.label, entries name⟩] := by
  induction log generalizing mentioned with
  | nil =>
    rw [List.nil_append, nodesAfter, nodesAfter]
    cases m.scope with
    | none => simp [nodesAfter]
    | some name => simp [nodesAfter, not_mentions_nil]
  | cons first rest ih =>
    rw [List.cons_append, nodesAfter, nodesAfter]
    cases hfirst : first.scope with
    | none =>
      dsimp only
      rw [ih, List.append_assoc]
      simp only [mentions_cons, hfirst, reduceCtorEq, false_or]
    | some other =>
      dsimp only
      split
      · next hmem =>
        rw [ih]
        have hiff (name : String) : name ∈ mentioned ∨ Mentions (first :: rest) name ↔
            name ∈ mentioned ∨ Mentions rest name := by
          rw [mentions_cons, hfirst, Option.some_inj]
          constructor
          · rintro (h | rfl | h)
            · exact .inl h
            · exact .inl hmem
            · exact .inr h
          · exact Or.imp_right .inr
        simp only [hiff]
      · rw [ih, List.cons_append]
        have hiff (name : String) : name ∈ other :: mentioned ∨ Mentions rest name ↔
            name ∈ mentioned ∨ Mentions (first :: rest) name := by
          rw [mentions_cons, hfirst, Option.some_inj, List.mem_cons, @eq_comm _ name, or_assoc,
            or_left_comm]
        simp only [hiff]

/-- Declared arguments are added to the nodes of a log where they belong. -/
theorem nodes_concat (log : List Declaration) (m : Declaration) :
    nodes (log ++ [m]) =
      match m.scope with
      | none => nodes log ++ m.entries.map .argument
      | some name => Node.extend name m.entries (Node.ensure name m.label (nodes log)) := by
  rw [nodes, nodesAfter_concat]
  cases hscope : m.scope with
  | none =>
    dsimp only
    rw [nodes, nodesAfter_congr fun name _ _ => ?_]
    rw [entriesIn_concat]
    simp [hscope]
  | some name =>
    dsimp only
    have hself : entriesIn (some name) (log ++ [m]) = entriesIn (some name) log ++ m.entries := by
      rw [entriesIn_concat, if_pos hscope]
    have hother (other : String) (hne : other ≠ name) :
        entriesIn (some other) (log ++ [m]) = entriesIn (some other) log := by
      have hne' : ¬ m.scope = some other := fun heq =>
        hne (Option.some.inj (heq.symm.trans hscope))
      rw [entriesIn_concat, if_neg hne', List.append_nil]
    by_cases hmentioned : Mentions log name
    · -- there is a node for the subcommand, and it gets the arguments
      have hknown : (nodes log).any (Node.isSubcommand name) :=
        Node.any_isSubcommand_iff.mpr (mem_subcommandNames_nodesAfter.mpr
          ⟨List.not_mem_nil, hmentioned⟩)
      rw [if_pos (.inr hmentioned), List.append_nil, Node.ensure, if_pos hknown, nodes,
        extend_nodesAfter hself hother List.not_mem_nil]
    · -- the node is new and has no other arguments; those before it stay as they are
      have hnew : ¬ (nodes log).any (Node.isSubcommand name) = true := fun hany =>
        hmentioned (mem_subcommandNames_nodesAfter.mp (Node.any_isSubcommand_iff.mp hany)).2
      have hnil : entriesIn (some name) log = [] := entriesIn_of_not_mentions hmentioned
      have hbefore : nodesAfter (fun name => entriesIn (some name) (log ++ [m])) [] log =
          nodes log :=
        nodesAfter_congr fun other _ hother' => hother other fun heq => hmentioned (heq ▸ hother')
      rw [if_neg (by simpa using hmentioned), Node.ensure, if_neg hnew, hbefore, hself, hnil,
        List.nil_append, Node.extend_concat_new]
      · exact fun hmem => hnew (Node.any_isSubcommand_iff.mpr hmem)

theorem nodup_subcommandNames_nodes (log : List Declaration) :
    (Node.subcommandNames (nodes log)).Nodup :=
  nodup_subcommandNames_nodesAfter

theorem mem_subcommandNames_nodes :
    name ∈ Node.subcommandNames (nodes log) ↔ Mentions log name := by
  rw [nodes, mem_subcommandNames_nodesAfter]
  simp

/-- The nodes of a log have the arguments that it declares, scope by scope. -/
theorem entriesOf_nodes (scope : Option String) (log : List Declaration) :
    Node.entriesOf scope (nodes log) = entriesIn scope log := by
  induction log using List.reverseRecOn with
  | nil => rfl
  | append_singleton log m ih =>
    rw [nodes_concat, entriesIn_concat]
    cases hscope : m.scope with
    | none =>
      dsimp only
      rw [Node.entriesOf_append_arguments, ih]
      simp only [@eq_comm _ none]
    | some name =>
      dsimp only
      by_cases heq : scope = some name
      · subst heq
        rw [Node.entriesOf_extend_self m.entries (Node.mem_subcommandNames_ensure m.label)
          (Node.nodup_subcommandNames_ensure (nodup_subcommandNames_nodes log) m.label),
          Node.entriesOf_ensure, ih, if_pos rfl]
      · rw [Node.entriesOf_extend_of_ne m.entries heq, Node.entriesOf_ensure, ih,
          if_neg (Ne.symm heq), List.append_nil]

end Declaration

end SlashCommands
