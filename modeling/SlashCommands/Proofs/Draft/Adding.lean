import SlashCommands.Proofs.Draft.Refinement
import SlashCommands.Proofs.Pattern.Grammar

/-!
# Adding arguments

`ArgumentOptions.IsRefusedFor` says which fault a call that adds arguments has, and `Draft.AddsOnly`
what such a call leaves as it is.  The main statement, `Draft.addArgument_exact`, is that a draft
with a name refuses the call for this fault and no other, and that nothing changes on a draft that
accepts it but the scope that the pattern selects and what is recorded for the last token.

* `Token.getLast?_arguments`: the last argument of a pattern is its last token, if it has arguments.
* `Draft.addArgument_eq_error_iff` has the faults; they do not depend on the draft.
* `Node.exists_kept_append`: nodes keep their places when arguments are added.
-/

namespace SlashCommands

/-! ### Faults -/

/-- Only the first token of a pattern can select a subcommand, so the last argument is the last
token or there is none. -/
theorem Token.getLast?_arguments {pattern : String} {tokens : List Token}
    (h : Pattern.tokens pattern = .ok tokens) :
    (arguments tokens).getLast? = tokens.getLast?.filter (·.kind ≠ .command) := by
  obtain ⟨first, rest, rfl, hrest⟩ := Pattern.exists_cons_of_tokens h
  have harguments : arguments rest = rest :=
    List.filter_eq_self.mpr fun t ht => by simpa using hrest t ht
  have hcons : arguments (first :: rest) = arguments [first] ++ rest := by
    rw [← List.singleton_append, arguments, List.filter_append, ← arguments, ← arguments,
      harguments]
  rw [hcons, List.getLast?_append, List.getLast?_cons]
  cases hlast : rest.getLast? with
  | none =>
    rw [Option.none_or, Option.getD_none]
    cases hkind : first.kind <;> simp [arguments, Option.filter_some, hkind]
  | some last =>
    have hne := hrest last (List.mem_of_getLast? hlast)
    simp [Option.filter_some, hne]

/-- A pattern whose last token selects a subcommand has no other token. -/
theorem Token.eq_singleton_of_getLast? {pattern : String} {tokens : List Token} {last : Token}
    (h : Pattern.tokens pattern = .ok tokens) (hlast : tokens.getLast? = some last)
    (hkind : last.kind = .command) : tokens = [last] := by
  obtain ⟨first, rest, rfl, hrest⟩ := Pattern.exists_cons_of_tokens h
  cases rest with
  | nil =>
    rw [List.getLast?_singleton] at hlast
    rw [Option.some.inj hlast]
  | cons t rest =>
    rw [List.getLast?_cons_cons] at hlast
    exact absurd hkind (hrest last (List.mem_of_getLast? hlast))

/-- Holds of the fault for which a call that adds arguments is refused: the fault of the pattern, or
that it only selects a subcommand although something belongs to an argument, or that there are
bounds and the last token is no number. -/
inductive ArgumentOptions.IsRefusedFor (o : ArgumentOptions) : Fault → Prop
  | pattern {fault : Fault} (h : Pattern.tokens o.pattern = .error fault) : IsRefusedFor o fault
  | noTarget {t : Token} (h : Pattern.tokens o.pattern = .ok [t]) (hkind : t.kind = .command)
      (hgiven : o.default.isSome ∨ o.completion.isSome ∨ o.min.isSome ∨ o.max.isSome) :
      IsRefusedFor o (.noArgumentTarget o.pattern)
  | bound {tokens : List Token} {last : Token} (h : Pattern.tokens o.pattern = .ok tokens)
      (hlast : tokens.getLast? = some last) (hkind : last.kind ≠ .command)
      (hbounded : o.min.isSome ∨ o.max.isSome) (hdatatype : last.datatype ∉ numericDatatypes) :
      IsRefusedFor o (.numericBound last.name last.datatype)

namespace ArgumentOptions

variable {o : ArgumentOptions}

theorem isBounded_iff : o.isBounded ↔ o.min.isSome ∨ o.max.isSome := by
  rw [isBounded, Bool.or_eq_true]

theorem targetsArgument_iff :
    o.targetsArgument ↔
      o.default.isSome ∨ o.completion.isSome ∨ o.min.isSome ∨ o.max.isSome := by
  rw [targetsArgument, Bool.or_eq_true, Bool.or_eq_true, isBounded_iff, or_assoc]

end ArgumentOptions

theorem isNumericDatatype_iff {datatype : String} :
    isNumericDatatype datatype ↔ datatype ∈ numericDatatypes := by
  rw [isNumericDatatype, List.contains_iff_mem]

namespace Draft

variable {d : Draft} {o : ArgumentOptions} {tokens : List Token} {last : Token} {fault : Fault}

/-- A pattern that only selects a subcommand has no place for what belongs to an argument. -/
theorem addArgument_of_selector (htokens : Pattern.tokens o.pattern = .ok [last])
    (hkind : last.kind = .command) :
    (d.addArgument o).2 =
      if o.targetsArgument then .error (.noArgumentTarget o.pattern) else .ok () := by
  have hnone : (Token.arguments [last]).getLast? = none := by
    rw [Token.getLast?_arguments htokens]
    simp [hkind]
  rw [addArgument, htokens]
  dsimp only
  rw [hnone]
  dsimp only
  split <;> rfl

/-- A pattern whose last token declares an argument needs a number there if there are bounds. -/
theorem addArgument_of_argument (htokens : Pattern.tokens o.pattern = .ok tokens)
    (hlast : tokens.getLast? = some last) (hkind : last.kind ≠ .command) :
    (d.addArgument o).2 =
      if o.isBounded && !isNumericDatatype last.datatype then
        .error (.numericBound last.name last.datatype)
      else .ok () := by
  have htarget : (Token.arguments tokens).getLast? = some last := by
    rw [Token.getLast?_arguments htokens, hlast]
    simp [hkind]
  rw [addArgument, htokens]
  dsimp only
  rw [htarget]
  dsimp only
  split <;> rfl

/-- A call that adds arguments is refused for the faults that it has, whatever the draft is. -/
theorem addArgument_eq_error_iff : (d.addArgument o).2 = .error fault ↔ o.IsRefusedFor fault := by
  constructor
  · intro h
    cases htokens : Pattern.tokens o.pattern with
    | error fault' =>
      rw [addArgument, htokens] at h
      cases h
      exact .pattern htokens
    | ok tokens =>
      obtain ⟨first, rest, heq, -⟩ := Pattern.exists_cons_of_tokens htokens
      obtain ⟨last, hlast⟩ : ∃ last, tokens.getLast? = some last := by
        rw [heq, List.getLast?_cons]
        exact ⟨_, rfl⟩
      by_cases hkind : last.kind = .command
      · -- the last token is the first, or it would not select a subcommand
        obtain rfl := Token.eq_singleton_of_getLast? htokens hlast hkind
        rw [addArgument_of_selector htokens hkind] at h
        split at h
        · next hgiven =>
          cases h
          exact .noTarget htokens hkind (ArgumentOptions.targetsArgument_iff.mp hgiven)
        · cases h
      · rw [addArgument_of_argument htokens hlast hkind] at h
        split at h
        · next hbound =>
          cases h
          rw [Bool.and_eq_true, Bool.not_eq_true'] at hbound
          refine .bound htokens hlast hkind (ArgumentOptions.isBounded_iff.mp hbound.1) ?_
          rw [← isNumericDatatype_iff, hbound.2]
          exact Bool.false_ne_true
        · cases h
  · intro h
    cases h with
    | pattern htokens =>
      rw [addArgument, htokens]
      rfl
    | noTarget htokens hkind hgiven =>
      rw [addArgument_of_selector htokens hkind,
        if_pos (ArgumentOptions.targetsArgument_iff.mpr hgiven)]
    | bound htokens hlast hkind hbounded hdatatype =>
      have hno : isNumericDatatype _ = false :=
        Bool.eq_false_iff.mpr fun hnum => hdatatype (isNumericDatatype_iff.mp hnum)
      rw [addArgument_of_argument htokens hlast hkind, ArgumentOptions.isBounded_iff.mpr hbounded,
        hno]
      rfl

theorem addArgument_eq_ok_iff :
    (d.addArgument o).2 = .ok () ↔ ∀ fault, ¬ o.IsRefusedFor fault := by
  constructor
  · intro h fault hrefused
    rw [addArgument_eq_error_iff.mpr hrefused] at h
    cases h
  · intro h
    cases hresult : (d.addArgument o).2 with
    | ok => rfl
    | error fault => exact absurd (addArgument_eq_error_iff.mp hresult) (h fault)

end Draft

/-! ### What stays as it is -/

/-- Holds of a node and what becomes of it when arguments are added in a scope: it stays as it is,
or it is a subcommand of that scope and has more arguments after those that it had. -/
inductive Node.KeptIn (scope : Option String) : Node → Node → Prop
  | same (node : Node) : KeptIn scope node node
  | extended (s : Subcommand) (more : List Entry) (h : scope = some s.name) :
      KeptIn scope (.subcommand s) (.subcommand { s with entries := s.entries ++ more })

namespace Node

/-- The nodes to which a subcommand's arguments are added keep their places, whatever follows. -/
theorem exists_kept_extend (name : String) (entries : List Entry) (nodes extra : List Node) :
    ∃ kept new, extend name entries (nodes ++ extra) = kept ++ new ∧
      List.Forall₂ (KeptIn (some name)) nodes kept := by
  induction nodes with
  | nil => exact ⟨[], _, rfl, .nil⟩
  | cons node rest ih =>
    obtain ⟨kept, new, heq, hkept⟩ := ih
    cases node with
    | argument e =>
      refine ⟨.argument e :: kept, new, ?_, .cons (.same _) hkept⟩
      rw [List.cons_append, extend, heq, List.cons_append]
      intro s h
      cases h
    | subcommand s =>
      rw [List.cons_append, extend]
      split
      · next h =>
        -- the arguments go here, and the rest is not looked at
        have hsame : List.Forall₂ (KeptIn (some name)) rest rest :=
          List.forall₂_same.mpr fun node _ => .same node
        exact ⟨_, extra, rfl, .cons (.extended s entries (by rw [h])) hsame⟩
      · refine ⟨.subcommand s :: kept, new, ?_, .cons (.same _) hkept⟩
        rw [heq, List.cons_append]

/-- The nodes to which arguments are added keep their places. -/
theorem exists_kept_append (scope : Option String) (entries : List Entry) (nodes : List Node) :
    ∃ kept new, append scope entries nodes = kept ++ new ∧
      List.Forall₂ (KeptIn scope) nodes kept := by
  cases scope with
  | none => exact ⟨nodes, _, rfl, List.forall₂_same.mpr fun node _ => .same node⟩
  | some name =>
    rw [append, ensure]
    split
    · have h := exists_kept_extend name entries nodes []
      rwa [List.append_nil] at h
    · exact exists_kept_extend name entries nodes _

/-- What is kept has its arguments still, in the same order. -/
theorem entriesOf_sublist_of_kept {scope : Option String} {nodes kept : List Node}
    (h : List.Forall₂ (KeptIn scope) nodes kept) (other : Option String) (new : List Node) :
    (entriesOf other nodes).Sublist (entriesOf other (kept ++ new)) := by
  induction h with
  | nil => exact List.nil_sublist _
  | @cons node _ _ _ hnode _ ih =>
    rw [List.cons_append]
    cases hnode with
    | same =>
      cases node with
      | argument e =>
        rw [entriesOf, entriesOf]
        split
        · exact ih.cons_cons e
        · exact ih
      | subcommand s =>
        rw [entriesOf, entriesOf]
        split
        · exact ih.append_left s.entries
        · exact ih
    | extended s more _ =>
      rw [entriesOf, entriesOf]
      split
      · exact (List.sublist_append_left s.entries more).append ih
      · exact ih

theorem entriesOf_append_of_ne {scope other : Option String} (h : other ≠ scope)
    (entries : List Entry) (nodes : List Node) :
    entriesOf other (append scope entries nodes) = entriesOf other nodes := by
  cases scope with
  | none => rw [append, entriesOf_append_arguments, if_neg h, List.append_nil]
  | some name => rw [append, entriesOf_extend_of_ne entries h, entriesOf_ensure]

end Node

/-- Holds of a draft and what becomes of it when the arguments of a pattern are added in a scope.
The nodes that were there keep their places and what they had, and other scopes have the same
arguments as before.  What is recorded under a key stays, but for the key of the last token: there
suggestions change if the call brings some, and the default if it brings one and the token is
optional. -/
structure Draft.AddsOnly (d : Draft) (o : ArgumentOptions) (scope : Option String) (last : Token)
    (d' : Draft) : Prop where
  command_eq : d'.command = d.command
  description_eq : d'.description = d.description
  kind_eq : d'.kind = d.kind
  requires_eq : d'.requires = d.requires
  channels_eq : d'.channels = d.channels
  guilds_eq : d'.guilds = d.guilds
  action_eq : d'.action = d.action
  nodes_kept : ∃ kept new, d'.nodes = kept ++ new ∧ List.Forall₂ (Node.KeptIn scope) d.nodes kept
  entries_eq : ∀ other, other ≠ scope → Node.entriesOf other d'.nodes = Node.entriesOf other d.nodes
  entries_sublist : ∀ other,
    (Node.entriesOf other d.nodes).Sublist (Node.entriesOf other d'.nodes)
  entries_prefix : (Node.subcommandNames d.nodes).Nodup →
    Node.entriesOf scope d.nodes <+: Node.entriesOf scope d'.nodes
  completers_eq : ∀ key, key ≠ ⟨scope, last.name⟩ ∨ o.completion = none →
    d'.completers.get? key = d.completers.get? key
  choices_eq : ∀ key, key ≠ ⟨scope, last.name⟩ ∨ o.completion = none →
    d'.choices.get? key = d.choices.get? key
  defaults_eq : ∀ key, key ≠ ⟨scope, last.name⟩ ∨ o.default = none ∨ last.optional = false →
    d'.defaults.get? key = d.defaults.get? key

namespace Draft

variable {d : Draft} {o : ArgumentOptions} {tokens : List Token} {last : Token}

/-- Only the maps need be looked at: the arguments themselves go where they belong. -/
theorem addsOnly_of_recorded {completers : Keyed Key Completer}
    {choices : Keyed Key (List String)} {defaults : Keyed Key OptionValue}
    (hcompleters : ∀ key : Key, key ≠ ⟨Token.scope? tokens, last.name⟩ ∨ o.completion = none →
      completers.get? key = d.completers.get? key)
    (hchoices : ∀ key : Key, key ≠ ⟨Token.scope? tokens, last.name⟩ ∨ o.completion = none →
      choices.get? key = d.choices.get? key)
    (hdefaults : ∀ key : Key,
      key ≠ ⟨Token.scope? tokens, last.name⟩ ∨ o.default = none ∨ last.optional = false →
      defaults.get? key = d.defaults.get? key) :
    d.AddsOnly o (Token.scope? tokens) last
      { d.declare o tokens with
        completers := completers, choices := choices, defaults := defaults } where
  command_eq := rfl
  description_eq := rfl
  kind_eq := rfl
  requires_eq := rfl
  channels_eq := rfl
  guilds_eq := rfl
  action_eq := rfl
  nodes_kept := Node.exists_kept_append _ _ _
  entries_eq := fun _ hne => Node.entriesOf_append_of_ne hne _ _
  entries_sublist := fun other => by
    obtain ⟨kept, new, heq, hkept⟩ :=
      Node.exists_kept_append (Token.scope? tokens) (o.entries (Token.arguments tokens)) d.nodes
    show List.Sublist _ (Node.entriesOf other (Node.append _ _ d.nodes))
    rw [heq]
    exact Node.entriesOf_sublist_of_kept hkept other new
  entries_prefix := fun hnodup => by
    show _ <+: Node.entriesOf _ (Node.append _ _ _)
    rw [Node.entriesOf_append hnodup]
    exact List.prefix_append _ _
  completers_eq := hcompleters
  choices_eq := hchoices
  defaults_eq := hdefaults

theorem addsOnly_declare (d : Draft) (o : ArgumentOptions) (tokens : List Token) (last : Token) :
    d.AddsOnly o (Token.scope? tokens) last (d.declare o tokens) :=
  addsOnly_of_recorded (fun _ _ => rfl) (fun _ _ => rfl) (fun _ _ => rfl)

/-- What belongs to the last argument is recorded under its key, if there is something to record. -/
theorem addsOnly_declareWith (d : Draft) (o : ArgumentOptions) (tokens : List Token)
    (last : Token) : d.AddsOnly o (Token.scope? tokens) last (d.declareWith o tokens last) := by
  have hcompletion {key : Key} (h : key ≠ ⟨Token.scope? tokens, last.name⟩ ∨ o.completion = none) :
      ¬ (key = ⟨Token.scope? tokens, last.name⟩ ∧ o.completion.isSome) := by
    rintro ⟨hkey, hsome⟩
    rcases h with hne | hnone
    · exact hne hkey
    · simp [hnone] at hsome
  have hdefault {key : Key}
      (h : key ≠ ⟨Token.scope? tokens, last.name⟩ ∨ o.default = none ∨ last.optional = false) :
      ¬ (key = ⟨Token.scope? tokens, last.name⟩ ∧ last.optional ∧ o.default.isSome) := by
    rintro ⟨hkey, hoptional, hsome⟩
    rcases h with hne | hnone | hrequired
    · exact hne hkey
    · simp [hnone] at hsome
    · simp [hrequired] at hoptional
  have hcompleters := completers_declareWith d o tokens last
  have hchoices := choices_declareWith d o tokens last
  have hdefaults := defaults_declareWith d o tokens last
  obtain ⟨completers, choices, defaults, heq⟩ := declareWith_frame d o tokens last
  rw [heq] at hcompleters hchoices hdefaults ⊢
  refine addsOnly_of_recorded (fun key h => ?_) (fun key h => ?_) (fun key h => ?_)
  · exact (hcompleters key).trans (if_neg (hcompletion h))
  · exact (hchoices key).trans (if_neg (hcompletion h))
  · exact (hdefaults key).trans (if_neg (hdefault h))

/-- An accepted call has a pattern with tokens, and adds only what they declare. -/
theorem addsOnly_of_accepted (h : (d.addArgument o).2 = .ok ()) :
    ∃ tokens last, Pattern.tokens o.pattern = .ok tokens ∧ tokens.getLast? = some last ∧
      d.AddsOnly o (Token.scope? tokens) last (d.addArgument o).1 := by
  rcases addArgument_cases d o with ⟨fault, heq⟩ | ⟨tokens, htokens, hcases⟩
  · rw [heq] at h
    cases h
  · have hlast := Token.getLast?_arguments htokens
    rcases hcases with ⟨hnone, -, heq⟩ | ⟨last, htarget, -, heq⟩
    · obtain ⟨first, rest, rfl, -⟩ := Pattern.exists_cons_of_tokens htokens
      refine ⟨_, _, htokens, List.getLast?_cons, ?_⟩
      rw [heq]
      exact addsOnly_declare d o _ _
    · rw [hlast, Option.filter_eq_some_iff] at htarget
      refine ⟨tokens, last, htokens, htarget.1, ?_⟩
      rw [heq]
      exact addsOnly_declareWith d o tokens last

/-- **Adding arguments is exact.**  A draft with a name refuses a call that adds arguments for the
fault that the call has, and accepts it if there is none.  If it refuses the call, it stays as it
is; if it accepts the call, nothing changes but the scope that the first token selects and what is
recorded for the last token, as far as the call brings something for it. -/
theorem addArgument_exact (d : Draft) (hnamed : d.command.isSome) (o : ArgumentOptions) :
    let outcome := d.apply (.addArgument o)
    (∀ fault, outcome.2 = .error fault ↔ o.IsRefusedFor fault) ∧
      (outcome.2 = .ok () ↔ ∀ fault, ¬ o.IsRefusedFor fault) ∧
      (∀ fault, outcome.2 = .error fault → outcome.1 = d) ∧
      (outcome.2 = .ok () →
        ∃ tokens last, Pattern.tokens o.pattern = .ok tokens ∧ tokens.getLast? = some last ∧
          d.AddsOnly o (Token.scope? tokens) last outcome.1) := by
  intro outcome
  have heq : outcome = d.addArgument o := apply_addArgument hnamed o
  rw [heq]
  refine ⟨fun fault => addArgument_eq_error_iff, addArgument_eq_ok_iff, fun fault h => ?_,
    addsOnly_of_accepted⟩
  exact addArgument_of_refused h

/-- A ban with a default reason adds to its subcommand; a bound for the first of two arguments comes
too late. -/
theorem addArgument_exact_ban :
    let d := empty.applyAll [.setCommand "user" "Manages", .addSubcommand "info" "Shows"]
    let ban := { ArgumentOptions.plain "ban <target: user> [reason]" "Bans" with
      default := some (.string "spam") }
    let warn := { ArgumentOptions.plain "<count: int> [note]" "Warns" with min := some 1.0 }
    d.command.isSome ∧
      (d.apply (.addArgument ban)).2 = .ok () ∧
      (∃ last : Token, last.name = "reason" ∧
        d.AddsOnly ban (some "ban") last (d.apply (.addArgument ban)).1) ∧
      (d.apply (.addArgument warn)).2 = .error (.numericBound "note" "string") ∧
      (d.apply (.addArgument warn)).1 = d := by
  intro d ban warn
  have hban : Pattern.tokens "ban <target: user> [reason]" =
      .ok [⟨.command, false, "ban", "string", none, 0⟩,
        ⟨.arg, false, "target", "user", none, 1⟩, ⟨.arg, true, "reason", "string", none, 2⟩] :=
    Pattern.tokens_of_splitWithin? rfl rfl
  have hwarn : Pattern.tokens "<count: int> [note]" = .ok [⟨.arg, false, "count", "int", none, 0⟩,
      ⟨.arg, true, "note", "string", none, 1⟩] :=
    Pattern.tokens_of_splitWithin? rfl rfl
  obtain ⟨-, haccepted, -, hadds⟩ := addArgument_exact d rfl ban
  obtain ⟨hrefused, -, hkept, -⟩ := addArgument_exact d rfl warn
  have hok : (d.apply (.addArgument ban)).2 = .ok () := by
    refine haccepted.mpr fun fault h => ?_
    cases h with
    | pattern h => cases hban.symm.trans h
    | noTarget h => cases hban.symm.trans h
    | bound _ _ _ hbounded => simp [ban, ArgumentOptions.plain] at hbounded
  have herror : (d.apply (.addArgument warn)).2 = .error (.numericBound "note" "string") :=
    (hrefused _).mpr (@ArgumentOptions.IsRefusedFor.bound warn _
      ⟨.arg, true, "note", "string", none, 1⟩ hwarn rfl (by decide) (.inl rfl) (by decide))
  obtain ⟨tokens, last, htokens, hlast, honly⟩ := hadds hok
  cases hban.symm.trans htokens
  cases hlast
  exact ⟨rfl, hok, ⟨_, rfl, honly⟩, herror, hkept _ herror⟩

end Draft

end SlashCommands
