import Mathlib.Data.List.Forall2
import SlashCommands.Proofs.Draft.WellFormed
import SlashCommands.Proofs.Pattern.Evaluation
import SlashCommands.Schema.OfDefinition

/-!
# What a schema presents

The datum of a schema is read here as the platform reads it, key by key.  `PresentsArgument`,
`PresentsSubcommand` and `PresentsCommand` say which datum presents an argument, a subcommand and a
command: what stands under each key, what does not, and how options are arranged in a list.  The
main statement, `Definition.presentsCommand_schema`, says that the schema of every definition
presents it.  `Definition.mem_optionsIn_iff` finds the options of a scope in the schema.
-/

namespace SlashCommands

section

variable {α β : Type}

theorem stablePartition_perm (p : α → Bool) (xs : List α) : (stablePartition p xs).Perm xs :=
  List.filter_append_perm p xs

theorem stablePartition_map (p : β → Bool) (f : α → β) (xs : List α) :
    stablePartition p (xs.map f) = (stablePartition (fun x => p (f x)) xs).map f := by
  rw [stablePartition, stablePartition, List.filter_map, List.filter_map, List.map_append]
  rfl

/-- Nothing without the property comes before something with it. -/
theorem pairwise_stablePartition (p : α → Bool) (xs : List α) :
    (stablePartition p xs).Pairwise fun a b => p b → p a := by
  refine List.pairwise_append.mpr ⟨?_, ?_, ?_⟩
  · exact List.pairwise_of_forall_mem_list fun a ha b _ _ => (List.mem_filter.mp ha).2
  · refine List.pairwise_of_forall_mem_list fun a _ b hb hp => ?_
    have hnot := (List.mem_filter.mp hb).2
    rw [hp] at hnot
    cases hnot
  · exact fun a ha b _ _ => (List.mem_filter.mp ha).2

end

namespace Node

variable {nodes : List Node} {e : Entry}

theorem mem_entriesOf_iff {scope : Option String} :
    e ∈ entriesOf scope nodes ↔ ∃ node ∈ nodes, (scope, e) ∈ node.entries := by
  rw [← mem_walk_iff, walk, List.mem_flatMap]

theorem mem_entriesOf_none_iff : e ∈ entriesOf none nodes ↔ .argument e ∈ nodes := by
  rw [mem_entriesOf_iff]
  constructor
  · rintro ⟨node, hnode, he⟩
    cases node with
    | argument e' =>
      obtain ⟨-, rfl⟩ := Prod.mk.inj (List.mem_singleton.mp he)
      exact hnode
    | subcommand s =>
      obtain ⟨_, -, heq⟩ := List.mem_map.mp he
      cases heq
  · exact fun h => ⟨_, h, List.mem_singleton.mpr rfl⟩

theorem mem_entriesOf_some_iff {name : String} :
    e ∈ entriesOf (some name) nodes ↔
      ∃ s, .subcommand s ∈ nodes ∧ s.name = name ∧ e ∈ s.entries := by
  rw [mem_entriesOf_iff]
  constructor
  · rintro ⟨node, hnode, he⟩
    cases node with
    | argument e' => cases List.mem_singleton.mp he
    | subcommand s =>
      obtain ⟨e', he', heq⟩ := List.mem_map.mp he
      cases heq
      exact ⟨s, hnode, rfl, he'⟩
  · rintro ⟨s, hs, rfl, he⟩
    exact ⟨_, hs, List.mem_map.mpr ⟨e, he, rfl⟩⟩

end Node

namespace Datum

/-! ### Reading tables -/

/-- Holds of tables with an entry under a key. -/
def Has (key : String) (d : Datum) : Prop := (d.get? key).isSome

/-- The items of the list under a key; there are none without such a list. -/
def itemsAt (key : String) (d : Datum) : List Datum :=
  match d.get? key with
  | some (.list items) => items
  | _ => []

@[simp]
theorem lookup?_nil (key : String) : lookup? key [] = none := rfl

/-- What has been found before is there in the end if the entries do not find anything. -/
theorem foldl_eq_or_lookup? (key : String) (found : Option Datum)
    (entries : List (String × Datum)) :
    entries.foldl (fun found entry => if entry.1 == key then some entry.2 else found) found =
      (lookup? key entries).or found := by
  induction entries generalizing found with
  | nil => rfl
  | cons entry rest ih =>
    rw [lookup?, List.foldl_cons, ih, List.foldl_cons, ih, Option.or_assoc]
    cases entry.1 == key <;> rfl

/-- An entry is found unless the same key comes again later. -/
@[simp]
theorem lookup?_cons (key : String) (entry : String × Datum) (rest : List (String × Datum)) :
    lookup? key (entry :: rest) =
      (lookup? key rest).or (if entry.1 == key then some entry.2 else none) :=
  foldl_eq_or_lookup? key _ rest

/-- Of two runs of entries the second has the last word. -/
@[simp]
theorem lookup?_append (key : String) (xs ys : List (String × Datum)) :
    lookup? key (xs ++ ys) = (lookup? key ys).or (lookup? key xs) := by
  induction xs with
  | nil => simp
  | cons entry rest ih => rw [List.cons_append, lookup?_cons, ih, lookup?_cons, Option.or_assoc]

@[simp]
theorem lookup?_entryIf (key key' : String) (condition : Bool) (value : Datum) :
    lookup? key (Schema.entryIf condition key' value) =
      if condition && key' == key then some value else none := by
  cases condition <;> rfl

@[simp]
theorem lookup?_entryOf {α : Type} (key key' : String) (value : Option α) (datum : α → Datum) :
    lookup? key (Schema.entryOf value key' datum) =
      if key' == key then value.map datum else none := by
  cases value with
  | none => exact (ite_self none).symm
  | some value => rfl

/-! ### Options in a list -/

/-- Holds of options that must be supplied. -/
def IsRequired (o : Datum) : Prop := o.get? "required" = some (.bool true)

/-- Holds of options that ask for suggestions while they are typed. -/
def IsCompleted (o : Datum) : Prop := o.get? "autocomplete" = some (.bool true)

/-- Holds of a list of options with exactly one for each of some parts of a declaration, in which
nothing that need not be supplied comes before something that must be. -/
structure Arranges {α : Type} (presents : α → Datum → Prop) (parts : List α)
    (options : List Datum) : Prop where
  paired : ∃ arranged, arranged.Perm parts ∧ List.Forall₂ presents arranged options
  required_first : options.Pairwise fun a b => b.IsRequired → a.IsRequired

/-- Holds of the options that stand for the subcommand with a name. -/
def isSubcommand (name : String) (o : Datum) : Bool :=
  match o.get? "type", o.get? "name" with
  | some (.int type), some (.text name') => type == Schema.subcommandType && name' == name
  | _, _ => false

/-- The options of a scope in a schema: those at top level, or those of a subcommand. -/
def optionsIn (schema : Datum) : Option String → List Datum
  | none => schema.itemsAt "options"
  | some name => ((schema.itemsAt "options").filter (isSubcommand name)).flatMap (itemsAt "options")

/-- Parts with the required ones first are arranged. -/
theorem arranges_stablePartition {α β : Type} {presents : α → Datum → Prop} {parts : List α}
    {option : α → β} {required : β → Bool} {datum : β → Datum}
    (hpresents : ∀ part ∈ parts, presents part (datum (option part)))
    (hrequired : ∀ o, (datum o).IsRequired ↔ required o) :
    Arranges presents parts ((stablePartition required (parts.map option)).map datum) where
  paired := by
    -- the parts in the order in which their options come
    refine ⟨_, stablePartition_perm (fun part => required (option part)) parts, ?_⟩
    rw [stablePartition_map, List.map_map, List.forall₂_map_right_iff]
    refine List.forall₂_same.mpr fun part hpart => hpresents part ?_
    exact (stablePartition_perm _ parts).mem_iff.mp hpart
  required_first := by
    rw [List.pairwise_map]
    refine (pairwise_stablePartition required _).imp fun {a b} hab hb => ?_
    exact (hrequired a).mpr (hab ((hrequired b).mp hb))

end Datum

/-! ### Keys of options and schemas -/

namespace ArgumentSchema

variable (a : ArgumentSchema)

theorem isRequired_toDatum : a.toDatum.IsRequired ↔ a.required := by
  simp [Datum.IsRequired, toDatum, Datum.get?]

theorem isCompleted_toDatum : a.toDatum.IsCompleted ↔ a.autocomplete := by
  simp [Datum.IsCompleted, toDatum, Datum.get?]

theorem get?_type_toDatum : a.toDatum.get? "type" = some (.int a.type) := by
  simp [toDatum, Datum.get?]

theorem get?_name_toDatum : a.toDatum.get? "name" = some (.text a.name) := by
  simp [toDatum, Datum.get?]

theorem has_choices_toDatum : a.toDatum.Has "choices" ↔ a.choices ≠ [] := by
  simp [Datum.Has, toDatum, Datum.get?]

theorem itemsAt_choices_toDatum :
    a.toDatum.itemsAt "choices" = a.choices.map ChoiceSchema.toDatum := by
  cases h : a.choices <;> simp [Datum.itemsAt, toDatum, Datum.get?, h]

theorem get?_min_toDatum : a.toDatum.get? "min_value" = a.minValue.map SchemaValue.toDatum := by
  simp [toDatum, Datum.get?]

theorem get?_max_toDatum : a.toDatum.get? "max_value" = a.maxValue.map SchemaValue.toDatum := by
  simp [toDatum, Datum.get?]

theorem not_has_options_toDatum : ¬ a.toDatum.Has "options" := by
  simp [Datum.Has, toDatum, Datum.get?]

end ArgumentSchema

namespace OptionSchema

variable (name description : String) (options : List ArgumentSchema)

theorem isRequired_toDatum (o : OptionSchema) : o.toDatum.IsRequired ↔ o.required := by
  cases o with
  | argument a => exact a.isRequired_toDatum
  | subcommand name description options =>
    simp [Datum.IsRequired, toDatum, Datum.get?, required]

theorem get?_subcommand :
    (subcommand name description options).toDatum.get? "type" =
        some (.int Schema.subcommandType) ∧
      (subcommand name description options).toDatum.get? "name" = some (.text name) ∧
      (subcommand name description options).toDatum.get? "description" =
        some (.text description) := by
  simp [toDatum, Datum.get?]

theorem has_options_subcommand :
    (subcommand name description options).toDatum.Has "options" ↔ options ≠ [] := by
  cases options <;> simp [Datum.Has, toDatum, Datum.get?]

theorem itemsAt_options_subcommand :
    (subcommand name description options).toDatum.itemsAt "options" =
      options.map ArgumentSchema.toDatum := by
  cases options <;> simp [Datum.itemsAt, toDatum, Datum.get?]

end OptionSchema

namespace CommandSchema

variable (s : CommandSchema)

theorem get?_description_toDatum : s.toDatum.get? "description" = s.description.map .text := by
  simp [toDatum, Datum.get?]

theorem has_options_toDatum : s.toDatum.Has "options" ↔ s.options ≠ [] := by
  simp [Datum.Has, toDatum, Datum.get?]

theorem itemsAt_options_toDatum :
    s.toDatum.itemsAt "options" = s.options.map OptionSchema.toDatum := by
  cases h : s.options <;> simp [Datum.itemsAt, toDatum, Datum.get?, h]

end CommandSchema

/-! ### What presents what -/

namespace Definition

/-- Holds of an option that presents an argument in a scope: it has the type of the argument, which
is not that of subcommands, and its name; it is required just in case the argument is not optional;
it asks for suggestions just in case the argument has a completer, and has the choices of the
argument, in order, if there are any, but never both; it has the bounds that the argument has, and
only if it is an option of integers or numbers; and it has no options of its own. -/
structure PresentsArgument (d : Definition) (scope : Option String) (e : Entry) (o : Datum) :
    Prop where
  type_eq : o.get? "type" = some (.int e.optionKind.code)
  type_ne : o.get? "type" ≠ some (.int Schema.subcommandType)
  name_eq : o.get? "name" = some (.text e.name)
  required_iff : o.IsRequired ↔ ¬ e.optional
  completed_iff : o.IsCompleted ↔ d.completers.contains ⟨scope, e.name⟩
  has_choices_iff : o.Has "choices" ↔
    ∃ texts, d.choices.get? ⟨scope, e.name⟩ = some texts ∧ texts ≠ []
  choice_names : ∀ texts, d.choices.get? ⟨scope, e.name⟩ = some texts →
    (o.itemsAt "choices").map (·.get? "name") = texts.map fun text => some (.text text)
  not_both : ¬ (o.Has "choices" ∧ o.IsCompleted)
  has_min_iff : o.Has "min_value" ↔ e.min.isSome
  has_max_iff : o.Has "max_value" ↔ e.max.isSome
  type_of_bounded : o.Has "min_value" ∨ o.Has "max_value" →
    o.get? "type" = some (.int 4) ∨ o.get? "type" = some (.int 10)
  flat : ¬ o.Has "options"

/-- Holds of an option that presents a subcommand: it has the type of subcommands, the name and the
description of the subcommand, and the options of its arguments; it is not required, and it has
nothing that only options of arguments have. -/
structure PresentsSubcommand (d : Definition) (s : Subcommand) (o : Datum) : Prop where
  type_eq : o.get? "type" = some (.int Schema.subcommandType)
  name_eq : o.get? "name" = some (.text s.name)
  description_eq : o.get? "description" = some (.text s.description)
  plain : ∀ key ∈ ["required", "choices", "autocomplete", "min_value", "max_value"], ¬ o.Has key
  arranges : Datum.Arranges (d.PresentsArgument (some s.name)) s.entries (o.itemsAt "options")

/-- Holds of an option that presents a part of a declaration. -/
def PresentsNode (d : Definition) : Node → Datum → Prop
  | .argument e => d.PresentsArgument none e
  | .subcommand s => d.PresentsSubcommand s

/-- Holds of a schema that presents a command: one from the chat by its description and its options,
one from a menu by neither. -/
structure PresentsCommand (d : Definition) (schema : Datum) : Prop where
  description_eq : d.kind.isContextMenu = false →
    schema.get? "description" = some (.text d.description)
  arranges : d.kind.isContextMenu = false →
    Datum.Arranges d.PresentsNode d.nodes (schema.itemsAt "options")
  bare : d.kind.isContextMenu → ¬ schema.Has "description" ∧ ¬ schema.Has "options"

variable {d : Definition}

theorem code_ne_subcommandType (kind : OptionKind) : kind.code ≠ Schema.subcommandType := by
  cases kind <;> decide

theorem code_of_isNumeric {kind : OptionKind} (h : kind.isNumeric) :
    kind.code = 4 ∨ kind.code = 10 := by
  cases kind with
  | integer => exact .inl rfl
  | number => exact .inr rfl
  | _ => cases h

/-- Bounds are shown as they are if only numbers are bounded. -/
theorem isSome_bound? {kind : OptionKind} {bound : Option Float}
    (h : bound.isSome → kind.isNumeric) : (bound? kind bound).isSome = bound.isSome := by
  cases bound with
  | none => rw [bound?]; split <;> rfl
  | some b => rw [bound?, if_pos (h rfl)]; rfl

/-- A bounded argument has a numeric datatype, which stands for a numeric kind. -/
theorem WellFormed.isNumeric_of_bounded (h : d.WellFormed) {scope : Option String} {e : Entry}
    (he : e ∈ Node.entriesOf scope d.nodes) (hbounded : e.min.isSome ∨ e.max.isSome) :
    e.optionKind.isNumeric := by
  have hmem := (h.declared.consistent scope e he).numeric_of_bounded hbounded
  rw [Entry.optionKind, OptionKind.isNumeric_ofDatatype, isNumericDatatype]
  exact List.contains_iff_mem.mpr hmem

theorem presentsArgument_argumentSchema (h : d.WellFormed) {scope : Option String} {e : Entry}
    (he : e ∈ Node.entriesOf scope d.nodes) :
    d.PresentsArgument scope e (d.argumentSchema scope e).toDatum := by
  have hnumeric := h.isNumeric_of_bounded he
  have hmin : (d.argumentSchema scope e).toDatum.Has "min_value" ↔ e.min.isSome := by
    rw [Datum.Has, ArgumentSchema.get?_min_toDatum, Option.isSome_map]
    show (bound? e.optionKind e.min).isSome ↔ _
    rw [isSome_bound? fun hsome => hnumeric (.inl hsome)]
  have hmax : (d.argumentSchema scope e).toDatum.Has "max_value" ↔ e.max.isSome := by
    rw [Datum.Has, ArgumentSchema.get?_max_toDatum, Option.isSome_map]
    show (bound? e.optionKind e.max).isSome ↔ _
    rw [isSome_bound? fun hsome => hnumeric (.inr hsome)]
  have hchoices : (d.argumentSchema scope e).toDatum.Has "choices" ↔
      ∃ texts, d.choices.get? ⟨scope, e.name⟩ = some texts ∧ texts ≠ [] := by
    rw [ArgumentSchema.has_choices_toDatum]
    show List.map _ ((d.choices.get? ⟨scope, e.name⟩).getD []) ≠ [] ↔ _
    cases d.choices.get? ⟨scope, e.name⟩ <;> simp
  have hcompleted : (d.argumentSchema scope e).toDatum.IsCompleted ↔
      d.completers.contains ⟨scope, e.name⟩ := ArgumentSchema.isCompleted_toDatum _
  exact
    { type_eq := ArgumentSchema.get?_type_toDatum _
      type_ne := by
        rw [ArgumentSchema.get?_type_toDatum]
        intro heq
        exact code_ne_subcommandType e.optionKind
          (Int.ofNat.inj (Datum.int.inj (Option.some.inj heq)))
      name_eq := ArgumentSchema.get?_name_toDatum _
      required_iff := by
        rw [ArgumentSchema.isRequired_toDatum]
        simp [argumentSchema]
      completed_iff := hcompleted
      has_choices_iff := hchoices
      choice_names := by
        intro texts htexts
        rw [ArgumentSchema.itemsAt_choices_toDatum, argumentSchema, htexts, Option.getD_some,
          List.map_map, List.map_map]
        refine List.map_congr_left fun text _ => ?_
        simp [ChoiceSchema.toDatum, Datum.get?]
      not_both := by
        -- a draft removes the choices of an argument that gets a completer, and the other way round
        rintro ⟨hhas, hcompletes⟩
        obtain ⟨texts, htexts, -⟩ := hchoices.mp hhas
        refine h.declared.not_both ⟨scope, e.name⟩ ⟨hcompleted.mp hcompletes, ?_⟩
        rw [Keyed.contains, htexts]
        rfl
      has_min_iff := hmin
      has_max_iff := hmax
      type_of_bounded := by
        intro hhas
        rw [hmin, hmax] at hhas
        rw [ArgumentSchema.get?_type_toDatum]
        rcases code_of_isNumeric (hnumeric hhas) with hcode | hcode
        · exact .inl (by rw [argumentSchema, hcode]; rfl)
        · exact .inr (by rw [argumentSchema, hcode]; rfl)
      flat := ArgumentSchema.not_has_options_toDatum _ }

theorem presentsSubcommand_optionSchema (h : d.WellFormed) {s : Subcommand}
    (hs : .subcommand s ∈ d.nodes) :
    d.PresentsSubcommand s (d.optionSchema (.subcommand s)).toDatum where
  type_eq := (OptionSchema.get?_subcommand _ _ _).1
  name_eq := (OptionSchema.get?_subcommand _ _ _).2.1
  description_eq := (OptionSchema.get?_subcommand _ _ _).2.2
  plain := by
    simp [Datum.Has, optionSchema, OptionSchema.toDatum, Datum.get?]
  arranges := by
    rw [optionSchema, OptionSchema.itemsAt_options_subcommand]
    refine Datum.arranges_stablePartition (fun e he => ?_) ArgumentSchema.isRequired_toDatum
    exact presentsArgument_argumentSchema h (Node.mem_entriesOf_some_iff.mpr ⟨s, hs, rfl, he⟩)

/-! ### Options by scope -/

theorem mem_itemsAt_options_iff (hkind : d.kind.isContextMenu = false) {o : Datum} :
    o ∈ d.schema.toDatum.itemsAt "options" ↔
      ∃ node ∈ d.nodes, (d.optionSchema node).toDatum = o := by
  rw [CommandSchema.itemsAt_options_toDatum, schema, hkind]
  simp [(stablePartition_perm _ _).mem_iff]

theorem isSubcommand_optionSchema_argument (name : String) (e : Entry) :
    (d.optionSchema (.argument e)).toDatum.isSubcommand name = false := by
  rw [optionSchema, OptionSchema.toDatum, Datum.isSubcommand, ArgumentSchema.get?_type_toDatum,
    ArgumentSchema.get?_name_toDatum]
  have hne : ((d.argumentSchema none e).type : Int) ≠ Schema.subcommandType := fun heq =>
    code_ne_subcommandType e.optionKind (Int.ofNat.inj heq)
  simp [hne]

theorem isSubcommand_optionSchema_subcommand (name : String) (s : Subcommand) :
    (d.optionSchema (.subcommand s)).toDatum.isSubcommand name = (s.name == name) := by
  obtain ⟨htype, hname, -⟩ := OptionSchema.get?_subcommand s.name s.description
    (stablePartition (·.required) (s.entries.map (d.argumentSchema (some s.name))))
  rw [optionSchema, Datum.isSubcommand, htype, hname]
  simp

theorem optionsIn_of_isContextMenu (hkind : d.kind.isContextMenu) (scope : Option String) :
    d.schema.toDatum.optionsIn scope = [] := by
  have hnone : d.schema.toDatum.itemsAt "options" = [] := by
    rw [CommandSchema.itemsAt_options_toDatum, schema, hkind]
    rfl
  cases scope with
  | none => exact hnone
  | some name => rw [Datum.optionsIn, hnone]; rfl

/-- The options of a scope in the schema of a command from the chat are those of the arguments in
that scope, and at top level there are those of the subcommands as well. -/
theorem mem_optionsIn_iff (hkind : d.kind.isContextMenu = false) {scope : Option String}
    {o : Datum} :
    o ∈ d.schema.toDatum.optionsIn scope ↔
      (∃ e ∈ Node.entriesOf scope d.nodes, (d.argumentSchema scope e).toDatum = o) ∨
        scope = none ∧ ∃ s, .subcommand s ∈ d.nodes ∧
          (d.optionSchema (.subcommand s)).toDatum = o := by
  cases scope with
  | none =>
    rw [Datum.optionsIn, mem_itemsAt_options_iff hkind]
    constructor
    · rintro ⟨node, hnode, rfl⟩
      cases node with
      | argument e => exact .inl ⟨e, Node.mem_entriesOf_none_iff.mpr hnode, rfl⟩
      | subcommand s => exact .inr ⟨rfl, s, hnode, rfl⟩
    · rintro (⟨e, he, rfl⟩ | ⟨-, s, hs, rfl⟩)
      · exact ⟨_, Node.mem_entriesOf_none_iff.mp he, rfl⟩
      · exact ⟨_, hs, rfl⟩
  | some name =>
    -- only the option of a subcommand with this name is looked into
    rw [Datum.optionsIn, List.mem_flatMap]
    simp only [List.mem_filter, mem_itemsAt_options_iff hkind, reduceCtorEq, false_and, or_false]
    constructor
    · rintro ⟨_, ⟨⟨node, hnode, rfl⟩, hsub⟩, ho⟩
      cases node with
      | argument e =>
        rw [isSubcommand_optionSchema_argument] at hsub
        cases hsub
      | subcommand s =>
        rw [isSubcommand_optionSchema_subcommand, beq_iff_eq] at hsub
        subst hsub
        rw [optionSchema, OptionSchema.itemsAt_options_subcommand] at ho
        obtain ⟨a, ha, rfl⟩ := List.mem_map.mp ho
        obtain ⟨e, he, rfl⟩ := List.mem_map.mp ((stablePartition_perm _ _).mem_iff.mp ha)
        exact ⟨e, Node.mem_entriesOf_some_iff.mpr ⟨s, hnode, rfl, he⟩, rfl⟩
    · rintro ⟨e, he, rfl⟩
      obtain ⟨s, hs, rfl, hmem⟩ := Node.mem_entriesOf_some_iff.mp he
      refine ⟨_, ⟨⟨_, hs, rfl⟩, ?_⟩, ?_⟩
      · rw [isSubcommand_optionSchema_subcommand, beq_self_eq_true]
      · rw [optionSchema, OptionSchema.itemsAt_options_subcommand]
        refine List.mem_map_of_mem ((stablePartition_perm _ _).mem_iff.mpr ?_)
        exact List.mem_map_of_mem hmem

/-! ### Schemas of built definitions -/

/-- **A schema presents its definition.**  Whatever calls a draft is grown by, the schema of what it
is built to has a description and options just in case the command is not one of a menu.  The
options are those of the arguments and subcommands, one for each, those of a subcommand stand in its
own option, and required options come first in every list. -/
theorem presentsCommand_schema {calls : List Call}
    (h : (Draft.empty.applyAll calls).build = .ok d) : d.PresentsCommand d.schema.toDatum := by
  have hwell := Draft.wellFormed_of_build h
  exact
    { description_eq := by
        intro hkind
        rw [CommandSchema.get?_description_toDatum, schema, hkind]
        rfl
      arranges := by
        intro hkind
        rw [CommandSchema.itemsAt_options_toDatum, schema, hkind]
        refine Datum.arranges_stablePartition (fun node hnode => ?_) OptionSchema.isRequired_toDatum
        cases node with
        | argument e =>
          exact presentsArgument_argumentSchema hwell (Node.mem_entriesOf_none_iff.mpr hnode)
        | subcommand s => exact presentsSubcommand_optionSchema hwell hnode
      bare := by
        intro hkind
        rw [Datum.Has, CommandSchema.get?_description_toDatum, CommandSchema.has_options_toDatum,
          schema, hkind]
        simp }

/-- A command with an optional argument, a required one with choices and bounds, and a subcommand
with an argument that has a completer. -/
def roll : Definition :=
  { name := "roll"
    description := "Rolls dice"
    kind := .chatInput
    nodes := [.argument ⟨.arg, "string", true, "note", "Note", none, none, none⟩,
      .argument ⟨.arg, "int", false, "sides", "Sides", none, some 2.0, some 20.0⟩,
      .subcommand ⟨"for", "for", [⟨.arg, "user", true, "who", "Who", none, none, none⟩]⟩]
    choices := Keyed.empty.insert ⟨none, "sides"⟩ ["6", "20"]
    defaults := .empty
    requires := []
    channels := .empty
    guilds := .empty
    completers := Keyed.empty.insert ⟨some "for", "who"⟩ (.always ["me"])
    action := .nothing
    published := none }

/-- The calls that declare it. -/
def rollCalls : List Call :=
  [.setCommand "roll" "Rolls dice", .addArgument (.plain "[note]" "Note"),
    .addArgument { ArgumentOptions.plain "<sides: int>" "Sides" with
      completion := some (.choices ["6", "20"]), min := some 2.0, max := some 20.0 },
    .addArgument { ArgumentOptions.plain "for [who: user]" "Who" with
      completion := some (.autocomplete (.always ["me"])) }]

theorem build_roll : (Draft.empty.applyAll rollCalls).build = .ok roll := by
  have hnote : Pattern.tokens "[note]" = .ok [⟨.arg, true, "note", "string", none, 0⟩] :=
    Pattern.tokens_of_splitWithin? rfl rfl
  have hsides : Pattern.tokens "<sides: int>" = .ok [⟨.arg, false, "sides", "int", none, 0⟩] :=
    Pattern.tokens_of_splitWithin? rfl rfl
  have hwho : Pattern.tokens "for [who: user]" = .ok [⟨.command, false, "for", "string", none, 0⟩,
      ⟨.arg, true, "who", "user", none, 1⟩] :=
    Pattern.tokens_of_splitWithin? rfl rfl
  rw [rollCalls, Draft.applyAll_cons, Draft.applyAll_cons, Draft.applyAll_cons,
    Draft.applyAll_cons, Draft.applyAll_nil]
  simp only [Draft.apply, Draft.addArgument, ArgumentOptions.plain, hnote, hsides, hwho]
  rfl

/-- The required argument is presented before the one that is declared first. -/
theorem presentsCommand_roll :
    (Draft.empty.applyAll rollCalls).build = .ok roll ∧
      roll.PresentsCommand roll.schema.toDatum ∧
      (roll.schema.toDatum.itemsAt "options").map (·.get? "name") =
        [some (.text "sides"), some (.text "note"), some (.text "for")] :=
  ⟨build_roll, presentsCommand_schema build_roll, rfl⟩

end Definition

end SlashCommands
