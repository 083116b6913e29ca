import SlashCommands.Proofs.Schema.Presentation

/-!
# Required options first

`SplitsBy` takes a list apart into the elements with a property and the others and keeps the order
of both.  `Datum.OffersRequiredFirst` says how options come from the parts of a declaration: those
of the required parts, then those of the others, each in declared order, and no list if there are no
parts.

The main statement, `Definition.offersRequiredFirst_schema`, says that the schema of a command from
the chat offers options in this way at both levels, and that an option only depends on its node and
on what is recorded for arguments.
-/

namespace SlashCommands

/-- Holds of a list, its elements with a property, and the others, both in the order of the list. -/
inductive SplitsBy {α : Type} (p : α → Prop) : List α → List α → List α → Prop
  | nil : SplitsBy p [] [] []
  | first {x : α} {xs first rest : List α} (h : p x) (hrest : SplitsBy p xs first rest) :
      SplitsBy p (x :: xs) (x :: first) rest
  | rest {x : α} {xs first rest : List α} (h : ¬ p x) (hrest : SplitsBy p xs first rest) :
      SplitsBy p (x :: xs) first (x :: rest)

section

variable {α : Type} {p : α → Prop} {xs first rest : List α}

/-- Nothing is lost and nothing comes twice. -/
theorem SplitsBy.perm (h : SplitsBy p xs first rest) : (first ++ rest).Perm xs := by
  induction h with
  | nil => exact .nil
  | first _ _ ih => exact ih.cons _
  | rest _ _ ih => exact List.perm_middle.trans (ih.cons _)

/-- A test for the property takes the list apart. -/
theorem splitsBy_filter {q : α → Bool} (h : ∀ x, q x ↔ p x) (xs : List α) :
    SplitsBy p xs (xs.filter q) (xs.filter (!q ·)) := by
  induction xs with
  | nil => exact .nil
  | cons x rest ih =>
    by_cases hq : q x
    · rw [List.filter_cons_of_pos hq, List.filter_cons_of_neg (by simp [hq])]
      exact .first ((h x).mp hq) ih
    · rw [List.filter_cons_of_neg hq, List.filter_cons_of_pos (by simpa using hq)]
      exact .rest (mt (h x).mpr hq) ih

end

namespace Datum

/-- Holds of a datum that has an option for each of some parts under "options", required ones first
and in declared order otherwise, or no such key if there are no parts.  The option of a part is
required if the part is, and has its name. -/
structure OffersRequiredFirst {α : Type} (option : α → Datum) (name : α → String)
    (required : α → Prop) (parts : List α) (d : Datum) : Prop where
  has_iff : d.Has "options" ↔ parts ≠ []
  split : ∃ first rest, SplitsBy required parts first rest ∧ (first ++ rest).Perm parts ∧
    d.itemsAt "options" = (first ++ rest).map option
  required_iff : ∀ part, (option part).IsRequired ↔ required part
  name_eq : ∀ part, (option part).get? "name" = some (.text (name part))

variable {α β : Type} {option : α → β} {datum : β → Datum} {name : α → String}
  {required : α → Prop} {isRequired : β → Bool} {parts : List α} {d : Datum}

/-- The options of parts, put in order by a stable partition, are offered. -/
theorem offersRequiredFirst_stablePartition
    (hhas : d.Has "options" ↔ stablePartition isRequired (parts.map option) ≠ [])
    (hitems : d.itemsAt "options" = (stablePartition isRequired (parts.map option)).map datum)
    (hdatum : ∀ o, (datum o).IsRequired ↔ isRequired o)
    (hrequired : ∀ part, isRequired (option part) ↔ required part)
    (hname : ∀ part, (datum (option part)).get? "name" = some (.text (name part))) :
    d.OffersRequiredFirst (fun part => datum (option part)) name required parts where
  has_iff := by
    have hnil : stablePartition isRequired (parts.map option) = [] ↔ parts = [] := by
      rw [← List.length_eq_zero_iff, (stablePartition_perm _ _).length_eq, List.length_map,
        List.length_eq_zero_iff]
    rw [hhas, ne_eq, hnil]
  split := by
    have hsplit := splitsBy_filter hrequired parts
    refine ⟨_, _, hsplit, hsplit.perm, ?_⟩
    rw [hitems, stablePartition_map, List.map_map]
    rfl
  required_iff := fun part => (hdatum (option part)).trans (hrequired part)
  name_eq := hname

end Datum

/-- Holds of the nodes that must be supplied: arguments that are not optional. -/
def Node.IsRequired : Node → Prop
  | .argument e => e.optional = false
  | .subcommand _ => False

namespace Definition

variable {d : Definition}

theorem required_argumentSchema (d : Definition) (scope : Option String) (e : Entry) :
    (d.argumentSchema scope e).required ↔ e.optional = false := by
  rw [argumentSchema, Bool.not_eq_true']

theorem required_optionSchema (d : Definition) (node : Node) :
    (d.optionSchema node).required ↔ node.IsRequired := by
  cases node with
  | argument e => exact d.required_argumentSchema none e
  | subcommand s => simp [optionSchema, OptionSchema.required, Node.IsRequired]

theorem get?_name_optionSchema (d : Definition) (node : Node) :
    (d.optionSchema node).toDatum.get? "name" = some (.text node.name) := by
  cases node with
  | argument e => exact ArgumentSchema.get?_name_toDatum _
  | subcommand s => exact (OptionSchema.get?_subcommand _ _ _).2.1

/-- The options of a subcommand come from its arguments. -/
theorem offersRequiredFirst_subcommand (d : Definition) (s : Subcommand) :
    (d.optionSchema (.subcommand s)).toDatum.OffersRequiredFirst
      (fun e => (d.argumentSchema (some s.name) e).toDatum) Entry.name
      (fun e => e.optional = false) s.entries :=
  Datum.offersRequiredFirst_stablePartition
    (OptionSchema.has_options_subcommand _ _ _)
    (OptionSchema.itemsAt_options_subcommand _ _ _)
    ArgumentSchema.isRequired_toDatum
    (d.required_argumentSchema (some s.name))
    (fun _ => ArgumentSchema.get?_name_toDatum _)

/-- What an option shows is looked up by the names in its node. -/
theorem optionSchema_congr {d' : Definition} (hcompleters : d'.completers = d.completers)
    (hchoices : d'.choices = d.choices) (node : Node) :
    d'.optionSchema node = d.optionSchema node := by
  have hargument (scope : Option String) : d'.argumentSchema scope = d.argumentSchema scope := by
    funext e
    rw [argumentSchema, argumentSchema, hcompleters, hchoices]
  cases node with
  | argument e => rw [optionSchema, optionSchema, hargument]
  | subcommand s => rw [optionSchema, optionSchema, hargument]

/-- **Required options come first, and nothing else changes.**  The schema of a command from the
chat, built by a draft or not, has as options those of the required arguments and then those of the
other arguments and the subcommands, both in declared order and each once, and so has the option of
every subcommand.  The option of a node is the same in every definition that records the same
completers and choices, wherever the node stands. -/
theorem offersRequiredFirst_schema (d : Definition) (hkind : d.kind = .chatInput) :
    d.schema.toDatum.OffersRequiredFirst (fun node => (d.optionSchema node).toDatum) Node.name
        Node.IsRequired d.nodes ∧
      (∀ s : Subcommand, (d.optionSchema (.subcommand s)).toDatum.OffersRequiredFirst
        (fun e => (d.argumentSchema (some s.name) e).toDatum) Entry.name
        (fun e => e.optional = false) s.entries) ∧
      ∀ d' : Definition, d'.completers = d.completers → d'.choices = d.choices →
        ∀ node, d'.optionSchema node = d.optionSchema node := by
  have hoptions : d.schema.options =
      stablePartition (·.required) (d.nodes.map d.optionSchema) := by
    rw [schema, hkind]
    rfl
  refine ⟨?_, d.offersRequiredFirst_subcommand, fun d' => optionSchema_congr⟩
  refine Datum.offersRequiredFirst_stablePartition ?_ ?_ OptionSchema.isRequired_toDatum
    d.required_optionSchema d.get?_name_optionSchema
  · rw [CommandSchema.has_options_toDatum, hoptions]
  · rw [CommandSchema.itemsAt_options_toDatum, hoptions]

/-- A command with two optional arguments of one name around a subcommand, and required arguments
after them. -/
def mixed : Definition :=
  { roll with
    nodes :=
      [.argument ⟨.arg, "string", true, "note", "Note", none, none, none⟩,
        .subcommand ⟨"for", "for", [⟨.arg, "user", true, "who", "Who", none, none, none⟩,
          ⟨.arg, "int", false, "times", "Times", none, none, none⟩]⟩,
        .argument ⟨.flag, "bool", true, "note", "Note", some "n", none, none⟩,
        .argument ⟨.arg, "int", false, "sides", "Sides", none, none, none⟩,
        .argument ⟨.arg, "int", false, "dice", "Dice", none, none, none⟩] }

theorem offersRequiredFirst_mixed :
    mixed.kind = .chatInput ∧
      mixed.schema.toDatum.OffersRequiredFirst (fun node => (mixed.optionSchema node).toDatum)
        Node.name Node.IsRequired mixed.nodes ∧
      (∀ node, mixed.optionSchema node = roll.optionSchema node) ∧
      (mixed.schema.toDatum.itemsAt "options").map (·.get? "name") =
        [some (.text "sides"), some (.text "dice"), some (.text "note"), some (.text "for"),
          some (.text "note")] := by
  obtain ⟨hoffers, -, hsame⟩ := offersRequiredFirst_schema mixed rfl
  exact ⟨rfl, hoffers, fun node => (hsame roll rfl rfl node).symm, rfl⟩

end Definition

end SlashCommands
