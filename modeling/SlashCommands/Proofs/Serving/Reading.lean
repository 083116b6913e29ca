import SlashCommands.Arguments
import SlashCommands.Proofs.Draft.Nodes

/-!
# What an action reads

An action sees the arguments at top level and those of the invoked subcommand.  Under the name of
such an argument it reads the value of the first option with that name, and else a default.  The
search stops at the first argument that it finds, and `Arguments.found?_eq_some_iff` says why this is
enough: all arguments of one name that are seen have the same value.  The main statement,
`Arguments.reads_live_or_default`, says what is read under any name, and that other subcommands have
no part in it.
-/

namespace SlashCommands

variable {nodes : List Node} {defaults : Keyed Key OptionValue} {i : Interaction} {e : Entry}
  {flag : Bool} {name : String} {value : OptionValue}

/-! ### Options -/

/-- Holds of the value of the first option with a name. -/
def Interaction.Gives (i : Interaction) (name : String) (value : OptionValue) : Prop :=
  ∃ before o after, i.options = before ++ o :: after ∧ (∀ other ∈ before, other.name ≠ name) ∧
    o.name = name ∧ o.value = some value

theorem Interaction.gives_iff :
    i.Gives name value ↔ (i.option? name).bind (·.value) = some value := by
  simp only [Gives, option?, Option.bind_eq_some_iff, List.find?_eq_some_iff_append, beq_iff_eq,
    Bool.not_eq_true', beq_eq_false_iff_ne]
  constructor
  · rintro ⟨before, o, after, hoptions, hbefore, hname, hvalue⟩
    exact ⟨o, ⟨hname, before, after, hoptions, hbefore⟩, hvalue⟩
  · rintro ⟨o, ⟨hname, before, after, hoptions, hbefore⟩, hvalue⟩
    exact ⟨before, o, after, hoptions, hbefore, hname, hvalue⟩

/-! ### Arguments that are seen -/

/-- Holds of the scopes that an interaction sees: top level and the subcommand that it invokes. -/
def Interaction.Sees (i : Interaction) (scope : Option String) : Prop :=
  scope = none ∨ scope = i.subcommand

theorem suppliedValue_of_sees {scope : Option String} (h : i.Sees scope) (name : String) :
    suppliedValue i scope name = (i.option? name).bind (·.value) := by
  rw [suppliedValue, if_pos]
  rcases h with rfl | rfl
  · simp
  · simp

theorem suppliedValue_of_not_sees {scope : Option String} (h : ¬ i.Sees scope) (name : String) :
    suppliedValue i scope name = none := by
  rw [suppliedValue, if_neg]
  intro hscope
  rw [Bool.or_eq_true, Option.isNone_iff_eq_none, beq_iff_eq] at hscope
  exact h (hscope.imp_right Eq.symm)

/-- Holds if a flag of that name, or an argument that is no flag, is declared in a scope that an
interaction sees. -/
def Interaction.SeesDeclared (i : Interaction) (nodes : List Node) (flag : Bool) (name : String) :
    Prop :=
  ∃ scope, i.Sees scope ∧ ∃ e ∈ Node.entriesOf scope nodes, e.isFlag = flag ∧ e.name = name

/-- Holds of the nodes that matter in a scope: arguments at top level, and subcommands with its
name. -/
def Node.isSeenFrom (scope : Option String) : Node → Bool
  | .argument _ => true
  | .subcommand s => scope == some s.name

/-- Other subcommands have no arguments in a scope that is seen. -/
theorem Node.entriesOf_filter {scope : Option String} (h : i.Sees scope) (nodes : List Node) :
    entriesOf scope (nodes.filter (isSeenFrom i.subcommand)) = entriesOf scope nodes := by
  induction nodes with
  | nil => rfl
  | cons node rest ih =>
    cases node with
    | argument e =>
      rw [List.filter_cons_of_pos rfl, entriesOf, entriesOf, ih]
    | subcommand s =>
      by_cases hs : i.subcommand = some s.name
      · rw [List.filter_cons_of_pos (by simpa [isSeenFrom] using hs), entriesOf, entriesOf, ih]
      · have hne : ¬ scope = some s.name := by
          rintro rfl
          rcases h with h | h
          · cases h
          · exact hs h.symm
        rw [List.filter_cons_of_neg (by simpa [isSeenFrom] using hs), entriesOf, if_neg hne, ih]

theorem Interaction.seesDeclared_congr {nodes' : List Node}
    (h : nodes'.filter (Node.isSeenFrom i.subcommand) =
      nodes.filter (Node.isSeenFrom i.subcommand)) :
    i.SeesDeclared nodes' flag name ↔ i.SeesDeclared nodes flag name := by
  have hentries {scope : Option String} (hsees : i.Sees scope) :
      Node.entriesOf scope nodes' = Node.entriesOf scope nodes := by
    rw [← Node.entriesOf_filter hsees nodes', h, Node.entriesOf_filter hsees]
  constructor
  · rintro ⟨scope, hsees, hdeclared⟩
    exact ⟨scope, hsees, hentries hsees ▸ hdeclared⟩
  · rintro ⟨scope, hsees, hdeclared⟩
    exact ⟨scope, hsees, (hentries hsees).symm ▸ hdeclared⟩

namespace Resolved

/-- The flags, or the arguments that are none. -/
def sort (r : Resolved) : Bool → List ResolvedArgument
  | true => r.flags
  | false => r.args

/-- What a walk over the declared arguments pairs with values. -/
theorem mem_sort_iff {r : ResolvedArgument} :
    r ∈ (ofNodes nodes i).sort flag ↔
      ∃ scope, ∃ e ∈ Node.entriesOf scope nodes, e.isFlag = flag ∧ r = .ofEntry i scope e := by
  have hsort : (ofNodes nodes i).sort flag =
      ((Node.walk nodes).map fun entry => ResolvedArgument.ofEntry i entry.1 entry.2).filter
        fun r => (r.kind == .flag) == flag := by
    rw [ofNodes_eq_walk]
    cases flag with
    | true => simp [sort]
    | false => simp [sort, bne]
  rw [hsort, List.mem_filter, List.mem_map, beq_iff_eq]
  constructor
  · rintro ⟨⟨⟨scope, e⟩, hmem, rfl⟩, hkind⟩
    exact ⟨scope, e, Node.mem_walk_iff.mp hmem, hkind, rfl⟩
  · rintro ⟨scope, e, hmem, hkind, rfl⟩
    exact ⟨⟨(scope, e), Node.mem_walk_iff.mpr hmem, rfl⟩, hkind⟩

end Resolved

namespace Arguments

/-! ### What is found -/

/-- A search ends at an argument of the wanted name in the scope of the arguments or at top level,
if there is one. -/
theorem find?_eq_some {a : Arguments} {among : List ResolvedArgument} {r : ResolvedArgument}
    (h : a.find? among name = some r) :
    r ∈ among ∧ r.name = name ∧ (r.scope = none ∨ r.scope = a.scope) := by
  rw [find?, Option.or_eq_some_iff] at h
  rcases h with hfound | ⟨-, hfound⟩
  · have hkey := List.find?_some hfound
    rw [Bool.and_eq_true, beq_iff_eq, beq_iff_eq] at hkey
    exact ⟨List.mem_of_find?_eq_some hfound, hkey.1, .inr hkey.2⟩
  · have hkey := List.find?_some hfound
    rw [Bool.and_eq_true, beq_iff_eq, Option.isNone_iff_eq_none] at hkey
    exact ⟨List.mem_of_find?_eq_some hfound, hkey.1, .inl hkey.2⟩

theorem exists_find?_eq_some (a : Arguments) {among : List ResolvedArgument} {r : ResolvedArgument}
    (hmem : r ∈ among) (hscope : r.scope = none ∨ r.scope = a.scope) :
    ∃ r', a.find? among r.name = some r' := by
  rw [← Option.isSome_iff_exists, find?, Option.isSome_or, Bool.or_eq_true, List.find?_isSome,
    List.find?_isSome]
  rcases hscope with hscope | hscope
  · exact .inr ⟨r, hmem, by simp [hscope]⟩
  · exact .inl ⟨r, hmem, by simp [hscope]⟩

/-- The value that a search among the flags, or among the arguments that are none, comes to. -/
def found? (nodes : List Node) (i : Interaction) (flag : Bool) (name : String) :
    Option OptionValue :=
  ((ofInteraction nodes .empty i).find? ((Resolved.ofNodes nodes i).sort flag) name).bind (·.value)

/-- A search comes to a value just in case an argument of that name is seen and the first option of
that name has the value. -/
theorem found?_eq_some_iff :
    found? nodes i flag name = some value ↔
      i.SeesDeclared nodes flag name ∧ i.Gives name value := by
  rw [found?, Interaction.gives_iff]
  constructor
  · intro h
    obtain ⟨r, hr, hvalue⟩ := Option.bind_eq_some_iff.mp h
    obtain ⟨hmem, rfl, hsees⟩ := find?_eq_some hr
    obtain ⟨scope, e, he, hflag, rfl⟩ := Resolved.mem_sort_iff.mp hmem
    refine ⟨⟨scope, hsees, e, he, hflag, rfl⟩, ?_⟩
    rw [← hvalue]
    exact (suppliedValue_of_sees hsees _).symm
  · rintro ⟨⟨scope, hsees, e, he, hflag, rfl⟩, hvalue⟩
    have hmem : .ofEntry i scope e ∈ (Resolved.ofNodes nodes i).sort flag :=
      Resolved.mem_sort_iff.mpr ⟨scope, e, he, hflag, rfl⟩
    obtain ⟨r, hr⟩ := (ofInteraction nodes .empty i).exists_find?_eq_some hmem hsees
    refine Option.bind_eq_some_iff.mpr ⟨r, hr, ?_⟩
    -- it need not be `e` that is found, but it has the same name, and in the scopes that are seen
    -- nothing else decides about its value
    obtain ⟨hr, hname, hsees'⟩ := find?_eq_some hr
    obtain ⟨scope', e', -, -, rfl⟩ := Resolved.mem_sort_iff.mp hr
    rw [← hvalue, ← show e'.name = e.name from hname]
    exact suppliedValue_of_sees hsees' _

theorem arg?_eq (name : String) :
    (ofInteraction nodes defaults i).arg? name =
      (found? nodes i false name).or ((ofInteraction nodes defaults i).default? name) := rfl

theorem flag?_eq (name : String) :
    (ofInteraction nodes defaults i).flag? name =
      (found? nodes i true name).or ((ofInteraction nodes defaults i).default? name) := rfl

theorem hasFlag_eq (name : String) :
    (ofInteraction nodes defaults i).hasFlag name = (found? nodes i true name).isSome := rfl

/-- Under the name of an argument that is seen, a search comes to what is supplied under it. -/
theorem found?_of_seesDeclared (h : i.SeesDeclared nodes flag name) :
    found? nodes i flag name = (i.option? name).bind (·.value) := by
  refine Option.ext fun value => ?_
  rw [found?_eq_some_iff, ← Interaction.gives_iff]
  exact and_iff_right h

theorem found?_of_mem (he : e ∈ Node.entriesOf i.subcommand nodes) :
    found? nodes i e.isFlag e.name = (i.option? e.name).bind (·.value) :=
  found?_of_seesDeclared ⟨_, .inr rfl, e, he, rfl, rfl⟩

/-- The value of an argument in scope is the one supplied under its name, else a default. -/
theorem arg?_ofInteraction (he : e ∈ Node.entriesOf i.subcommand nodes) (hkind : e.kind ≠ .flag) :
    (ofInteraction nodes defaults i).arg? e.name =
      ((i.option? e.name).bind (·.value)).or
        ((ofInteraction nodes defaults i).default? e.name) := by
  have hflag : e.isFlag = false := by simpa [Entry.isFlag] using hkind
  rw [arg?_eq, ← hflag, found?_of_mem he]

/-- The value of a flag in scope is the one supplied under its name, else a default. -/
theorem flag?_ofInteraction (he : e ∈ Node.entriesOf i.subcommand nodes) (hkind : e.kind = .flag) :
    (ofInteraction nodes defaults i).flag? e.name =
      ((i.option? e.name).bind (·.value)).or
        ((ofInteraction nodes defaults i).default? e.name) := by
  have hflag : e.isFlag = true := by simpa [Entry.isFlag] using hkind
  rw [flag?_eq, ← hflag, found?_of_mem he]

/-- A flag in scope is there if a value is supplied under its name; defaults do not count. -/
theorem hasFlag_ofInteraction (he : e ∈ Node.entriesOf i.subcommand nodes)
    (hkind : e.kind = .flag) :
    (ofInteraction nodes defaults i).hasFlag e.name =
      ((i.option? e.name).bind (·.value)).isSome := by
  have hflag : e.isFlag = true := by simpa [Entry.isFlag] using hkind
  rw [hasFlag_eq, ← hflag, found?_of_mem he]

/-! ### What is read -/

/-- Holds of what is read under a name: the value supplied for an argument that is seen, else the
default in the scope of the interaction, else the one at top level, if there is one. -/
structure Reads (seen : Prop) (defaults : Keyed Key OptionValue) (i : Interaction) (name : String)
    (read : Option OptionValue) : Prop where
  live : ∀ value, seen → i.Gives name value → read = some value
  default : ¬ (seen ∧ ∃ value, i.Gives name value) →
    read = (defaults.get? ⟨i.subcommand, name⟩).or (defaults.get? ⟨none, name⟩)

theorem reads_or_default :
    Reads (i.SeesDeclared nodes flag name) defaults i name
      ((found? nodes i flag name).or ((ofInteraction nodes defaults i).default? name)) where
  live value hseen hgives := by
    rw [found?_eq_some_iff.mpr ⟨hseen, hgives⟩, Option.some_or]
  default hnot := by
    have hnone : found? nodes i flag name = none := by
      refine Option.eq_none_iff_forall_ne_some.mpr fun value hfound => hnot ?_
      obtain ⟨hseen, hgives⟩ := found?_eq_some_iff.mp hfound
      exact ⟨hseen, value, hgives⟩
    rw [hnone, Option.none_or]
    rfl

theorem found?_congr {nodes' : List Node}
    (h : nodes'.filter (Node.isSeenFrom i.subcommand) =
      nodes.filter (Node.isSeenFrom i.subcommand)) :
    found? nodes' i flag name = found? nodes i flag name := by
  refine Option.ext fun value => ?_
  rw [found?_eq_some_iff, found?_eq_some_iff, Interaction.seesDeclared_congr h]

/-- **Live value or default.**  Whatever arguments are declared, several of one name included, the
value of a name is the one that the first option of that name has, if an argument of that name is
declared at top level or in the invoked subcommand; else it is a default.  Flags are read in the same
way, and a flag is there if it is declared and supplied, whatever the defaults are.  Nothing changes
if other subcommands are changed, added or removed, or defaults in their scopes. -/
theorem reads_live_or_default (nodes : List Node) (defaults : Keyed Key OptionValue)
    (i : Interaction) (name : String) :
    let a := ofInteraction nodes defaults i
    Reads (i.SeesDeclared nodes false name) defaults i name (a.arg? name) ∧
      Reads (i.SeesDeclared nodes true name) defaults i name (a.flag? name) ∧
      (a.hasFlag name ↔ i.SeesDeclared nodes true name ∧ ∃ value, i.Gives name value) ∧
      ∀ nodes' defaults',
        nodes'.filter (Node.isSeenFrom i.subcommand) =
          nodes.filter (Node.isSeenFrom i.subcommand) →
        (∀ key : Key, i.Sees key.scope → defaults'.get? key = defaults.get? key) →
        let a' := ofInteraction nodes' defaults' i
        a'.arg? name = a.arg? name ∧ a'.flag? name = a.flag? name ∧
          a'.hasFlag name = a.hasFlag name := by
  intro a
  refine ⟨reads_or_default, reads_or_default, ?_, ?_⟩
  · rw [hasFlag_eq, Option.isSome_iff_exists]
    simp only [found?_eq_some_iff, exists_and_left]
  · intro nodes' defaults' hnodes hdefaults a'
    have hdefault : a'.default? name = a.default? name := by
      show (defaults'.get? ⟨i.subcommand, name⟩).or (defaults'.get? ⟨none, name⟩) = _
      rw [hdefaults ⟨i.subcommand, name⟩ (.inr rfl), hdefaults ⟨none, name⟩ (.inl rfl)]
      rfl
    rw [arg?_eq, arg?_eq, flag?_eq, flag?_eq, hasFlag_eq, hasFlag_eq, found?_congr hnodes,
      found?_congr hnodes, hdefault]
    exact ⟨rfl, rfl, rfl⟩

end Arguments

/-! ### A ban -/

/-- An argument, or a flag, of that name. -/
def Entry.plain (kind : TokenKind) (name : String) : Entry :=
  ⟨kind, "string", true, name, name, none, none, none⟩

/-- Two subcommands of one name with an argument and a flag of one name; another subcommand has the
argument too. -/
def Node.moderation : List Node :=
  [.subcommand ⟨"info", "Shows", [.plain .arg "target"]⟩,
    .subcommand ⟨"ban", "Bans", [.plain .arg "target", .plain .arg "reason"]⟩,
    .subcommand ⟨"ban", "Bans", [.plain .flag "target", .plain .arg "target"]⟩]

/-- A ban with a target, twice, and without a reason. -/
def Interaction.ban : Interaction :=
  ⟨"1", "user", .chatInput, some "ban",
    [⟨"target", some (.string "7"), false⟩, ⟨"target", some (.string "8"), false⟩],
    ⟨"9", none⟩, none, none⟩

/-- The first target is read, as an argument and as a flag, and a default reason.  The target stays
the same without the other subcommand and with a default for it. -/
theorem Arguments.reads_ban :
    let defaults := Keyed.empty.insert ⟨some "ban", "reason"⟩ (.string "spam")
    let defaults' := defaults.insert ⟨some "info", "target"⟩ (.string "me")
    let a := ofInteraction Node.moderation defaults .ban
    a.arg? "target" = some (.string "7") ∧ a.flag? "target" = some (.string "7") ∧
      a.hasFlag "target" ∧ a.arg? "reason" = some (.string "spam") ∧
      (ofInteraction Node.moderation.tail defaults' .ban).arg? "target" = some (.string "7") := by
  intro defaults defaults' a
  have hgives : Interaction.ban.Gives "target" (.string "7") :=
    ⟨[], _, _, rfl, by simp, rfl, rfl⟩
  have hreason : ¬ ∃ value, Interaction.ban.Gives "reason" value := by
    simp [Interaction.gives_iff, Interaction.option?, Interaction.ban]
  obtain ⟨harg, hflag, hhas, hsame⟩ := reads_live_or_default Node.moderation defaults .ban "target"
  obtain ⟨hreads, -⟩ := reads_live_or_default Node.moderation defaults .ban "reason"
  have hseen (flag : Bool) : Interaction.ban.SeesDeclared Node.moderation flag "target" := by
    refine ⟨some "ban", .inr rfl, .plain (if flag then .flag else .arg) "target", ?_, ?_, rfl⟩
    · cases flag <;> simp [Node.moderation, Node.entriesOf]
    · cases flag <;> rfl
  have hdefaults (key : Key) (hsees : Interaction.ban.Sees key.scope) :
      defaults'.get? key = defaults.get? key := by
    rw [Keyed.get?_insert, if_neg]
    rintro rfl
    simp [Interaction.Sees, Interaction.ban] at hsees
  have htarget := harg.live _ (hseen false) hgives
  obtain ⟨harg', -⟩ := hsame Node.moderation.tail defaults' rfl hdefaults
  exact ⟨htarget, hflag.live _ (hseen true) hgives, hhas.mpr ⟨hseen true, _, hgives⟩,
    hreads.default fun h => hreason h.2, harg'.trans htarget⟩

end SlashCommands
