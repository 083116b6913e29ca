import SlashCommands.Proofs.Pattern.Evaluation
import SlashCommands.Proofs.Schema.Presentation

/-!
# Nulls in schemas

A double that stands for no number has no datum, and a schema has `null` in its place.  The main
statement, `Definition.hasNull_schema_iff`, says that this is the only way in which a `null` gets
into a schema: a choice of an option that takes numbers spells such a double, or a bound is one.
Both are accepted (`Definition.hasNull_schema_pick`).  Every other value of a choice is a text or a
number, and every other bound is a number.
-/

namespace SlashCommands

open Decimal (Double)

namespace Datum

/-- Holds of data with `null` anywhere in them. -/
inductive HasNull : Datum → Prop
  | null : HasNull .null
  | item {items : List Datum} {item : Datum} (hmem : item ∈ items) (h : HasNull item) :
    HasNull (.list items)
  | entry {entries : List (String × Datum)} {entry : String × Datum} (hmem : entry ∈ entries)
    (h : HasNull entry.2) : HasNull (.table entries)

@[simp]
theorem hasNull_list_iff {items : List Datum} :
    HasNull (.list items) ↔ ∃ item ∈ items, item.HasNull := by
  constructor
  · rintro (_ | ⟨hmem, h⟩ | _)
    exact ⟨_, hmem, h⟩
  · rintro ⟨item, hmem, h⟩
    exact .item hmem h

/-- Holds of entries of which one has `null` anywhere in it. -/
def AnyNull (entries : List (String × Datum)) : Prop := ∃ entry ∈ entries, entry.2.HasNull

@[simp]
theorem hasNull_table_iff {entries : List (String × Datum)} :
    HasNull (.table entries) ↔ AnyNull entries := by
  constructor
  · rintro (_ | _ | ⟨hmem, h⟩)
    exact ⟨_, hmem, h⟩
  · rintro ⟨entry, hmem, h⟩
    exact .entry hmem h

@[simp]
theorem not_anyNull_nil : ¬ AnyNull [] := by simp [AnyNull]

@[simp]
theorem anyNull_cons_iff {entry : String × Datum} {rest : List (String × Datum)} :
    AnyNull (entry :: rest) ↔ entry.2.HasNull ∨ AnyNull rest := by
  rw [AnyNull, List.exists_mem_cons_iff]
  rfl

@[simp]
theorem anyNull_append_iff {xs ys : List (String × Datum)} :
    AnyNull (xs ++ ys) ↔ AnyNull xs ∨ AnyNull ys := by
  simp only [AnyNull, List.mem_append, or_and_right, exists_or]

@[simp]
theorem anyNull_entryIf_iff {condition : Bool} {key : String} {value : Datum} :
    AnyNull (Schema.entryIf condition key value) ↔ condition ∧ value.HasNull := by
  cases condition <;> simp [Schema.entryIf]

@[simp]
theorem anyNull_entryOf_iff {α : Type} {value : Option α} {key : String} {datum : α → Datum} :
    AnyNull (Schema.entryOf value key datum) ↔ ∃ a, value = some a ∧ (datum a).HasNull := by
  cases value <;> simp [Schema.entryOf]

@[simp]
theorem not_hasNull_text (s : String) : ¬ HasNull (.text s) := nofun

@[simp]
theorem not_hasNull_bool (b : Bool) : ¬ HasNull (.bool b) := nofun

@[simp]
theorem not_hasNull_int (n : Int) : ¬ HasNull (.int n) := nofun

@[simp]
theorem not_hasNull_float (x : Float) : ¬ HasNull (.float x) := nofun

@[simp]
theorem ne_nil_and_exists_mem_iff {α : Type} {xs : List α} {p : α → Prop} :
    (¬ xs = [] ∧ ∃ x, x ∈ xs ∧ p x) ↔ ∃ x, x ∈ xs ∧ p x :=
  and_iff_right_of_imp fun ⟨_, hmem, _⟩ => List.ne_nil_of_mem hmem

/-- Holds of numbers. -/
def IsNumber : Datum → Prop
  | .int _ => True
  | .float x => (Double.view x).isFinite
  | _ => False

end Datum

/-! ### Values of choices and bounds -/

/-- Holds of the texts that are read as a double which stands for no number. -/
def SpellsNoNumber (text : String) : Prop :=
  ∃ x, Decimal.readFloat? text = some x ∧ (Double.view x).isFinite = false

namespace SchemaValue

theorem hasNull_toDatum_iff {v : SchemaValue} :
    v.toDatum.HasNull ↔ ∃ x, v = .number x ∧ (Double.view x).isFinite = false := by
  cases v with
  | text s => simp [toDatum]
  | integer n => simp [toDatum]
  | number x =>
    rw [toDatum]
    cases h : (Double.view x).isFinite with
    | true => simp [h]
    | false => simp [h, Datum.HasNull.null]

/-- The datum of a value is one of four things. -/
theorem toDatum_cases (v : SchemaValue) :
    (∃ s, v = .text s ∧ v.toDatum = .text s) ∨ v.toDatum.IsNumber ∨ v.toDatum = .null := by
  cases v with
  | text s => exact .inl ⟨s, rfl, rfl⟩
  | integer n => exact .inr (.inl trivial)
  | number x =>
    rw [toDatum]
    split
    · next h => exact .inr (.inl h)
    · exact .inr (.inr rfl)

/-- A choice is published as `null` if its option takes numbers and it spells none. -/
theorem hasNull_ofChoice_iff {kind : OptionKind} {choice : String} :
    (ofChoice kind choice).toDatum.HasNull ↔ kind = .number ∧ SpellsNoNumber choice := by
  rw [hasNull_toDatum_iff]
  cases kind with
  | number =>
    rw [ofChoice, SpellsNoNumber]
    cases Decimal.readFloat? choice <;> simp
  | integer =>
    rw [ofChoice]
    cases Text.readSigned choice <;> simp
  | _ => simp [ofChoice]

/-- A bound is an integer or the double that it is. -/
theorem ofBound_cases (kind : OptionKind) (bound : Float) :
    (∃ n, ofBound kind bound = .integer n ∧ (Double.view bound).isFinite) ∨
      ofBound kind bound = .number bound := by
  unfold ofBound
  split
  · next h =>
    refine .inl ⟨_, rfl, ?_⟩
    -- only a finite double is whole
    cases hview : Double.view bound with
    | finite value => rfl
    | _ =>
      rw [hview] at h
      cases h
  · exact .inr rfl

/-- A bound is published as `null` if it stands for no number. -/
theorem hasNull_ofBound_iff {kind : OptionKind} {bound : Float} :
    (ofBound kind bound).toDatum.HasNull ↔ (Double.view bound).isFinite = false := by
  rw [hasNull_toDatum_iff]
  rcases ofBound_cases kind bound with ⟨n, heq, hfinite⟩ | heq
  · simp [heq, hfinite]
  · simp [heq]

theorem isNumber_or_null_ofBound (kind : OptionKind) (bound : Float) :
    (ofBound kind bound).toDatum.IsNumber ∨ (ofBound kind bound).toDatum = .null := by
  rcases (ofBound kind bound).toDatum_cases with ⟨s, heq, -⟩ | h
  · rcases ofBound_cases kind bound with ⟨n, heq', -⟩ | heq'
    · rw [heq'] at heq
      cases heq
    · rw [heq'] at heq
      cases heq
  · exact h

end SchemaValue

/-! ### Options and schemas -/

theorem ArgumentSchema.hasNull_toDatum_iff {a : ArgumentSchema} :
    a.toDatum.HasNull ↔ (∃ c ∈ a.choices, c.value.toDatum.HasNull) ∨
      (∃ v, a.minValue = some v ∧ v.toDatum.HasNull) ∨
        ∃ v, a.maxValue = some v ∧ v.toDatum.HasNull := by
  simp [toDatum, ChoiceSchema.toDatum, or_comm]

theorem OptionSchema.hasNull_subcommand_iff {name description : String}
    {options : List ArgumentSchema} :
    (subcommand name description options).toDatum.HasNull ↔ ∃ a ∈ options, a.toDatum.HasNull := by
  simp [toDatum]

theorem CommandSchema.hasNull_toDatum_iff {s : CommandSchema} :
    s.toDatum.HasNull ↔ ∃ o ∈ s.options, o.toDatum.HasNull := by
  simp [toDatum]

namespace Definition

variable {d : Definition}

/-- Holds if an argument in a scope has a choice that spells no number although the option takes
numbers, or a bound that stands for none. -/
def ShowsNull (d : Definition) (scope : Option String) (e : Entry) : Prop :=
  (e.optionKind = .number ∧ ∃ texts, d.choices.get? ⟨scope, e.name⟩ = some texts ∧
    ∃ text ∈ texts, SpellsNoNumber text) ∨
  ∃ bound, (e.min = some bound ∨ e.max = some bound) ∧ (Double.view bound).isFinite = false

theorem hasNull_bound?_iff {kind : OptionKind} {bound : Option Float}
    (h : bound.isSome → kind.isNumeric) :
    (∃ v, bound? kind bound = some v ∧ v.toDatum.HasNull) ↔
      ∃ b, bound = some b ∧ (Double.view b).isFinite = false := by
  cases bound with
  | none => rw [bound?]; split <;> simp
  | some b =>
    rw [bound?, if_pos (h rfl)]
    simp [SchemaValue.hasNull_ofBound_iff]

theorem hasNull_argumentSchema_iff {scope : Option String} {e : Entry}
    (h : e.min.isSome ∨ e.max.isSome → e.optionKind.isNumeric) :
    (d.argumentSchema scope e).toDatum.HasNull ↔ d.ShowsNull scope e := by
  rw [ArgumentSchema.hasNull_toDatum_iff, ShowsNull]
  refine or_congr ?_ ?_
  · simp only [argumentSchema, List.mem_map, exists_exists_and_eq_and,
      SchemaValue.hasNull_ofChoice_iff]
    cases d.choices.get? ⟨scope, e.name⟩ with
    | none => simp
    | some texts =>
      simp only [Option.getD_some, Option.some.injEq, exists_eq_left']
      constructor
      · rintro ⟨text, hmem, hkind, hspells⟩
        exact ⟨hkind, text, hmem, hspells⟩
      · rintro ⟨hkind, text, hmem, hspells⟩
        exact ⟨text, hmem, hkind, hspells⟩
  · simp only [argumentSchema, hasNull_bound?_iff fun hsome => h (.inl hsome),
      hasNull_bound?_iff fun hsome => h (.inr hsome), or_and_right, exists_or]

theorem hasNull_optionSchema_iff {node : Node} :
    (d.optionSchema node).toDatum.HasNull ↔
      ∃ scope e, (scope, e) ∈ node.entries ∧ (d.argumentSchema scope e).toDatum.HasNull := by
  cases node with
  | argument e =>
    rw [optionSchema, OptionSchema.toDatum]
    simp [Node.entries]
  | subcommand s =>
    rw [optionSchema, OptionSchema.hasNull_subcommand_iff]
    simp [Node.entries, (stablePartition_perm _ _).mem_iff]

/-- In the schema of a command from the chat there is a `null` just in case an argument shows one,
in whatever scope; in that of a command from a menu there is none. -/
theorem hasNull_toDatum_iff (h : d.WellFormed) :
    d.schema.toDatum.HasNull ↔ d.kind.isContextMenu = false ∧
      ∃ scope, ∃ e ∈ Node.entriesOf scope d.nodes, d.ShowsNull scope e := by
  have hshows (scope : Option String) (e : Entry) (he : e ∈ Node.entriesOf scope d.nodes) :
      (d.argumentSchema scope e).toDatum.HasNull ↔ d.ShowsNull scope e :=
    hasNull_argumentSchema_iff (h.isNumeric_of_bounded he)
  rw [CommandSchema.hasNull_toDatum_iff, schema]
  cases hkind : d.kind.isContextMenu with
  | true => simp
  | false =>
    -- required options come first, which does not change what there is
    simp only [Bool.false_eq_true, if_false, (stablePartition_perm _ _).mem_iff, List.mem_map,
      exists_exists_and_eq_and, hasNull_optionSchema_iff, true_and]
    constructor
    · rintro ⟨node, hnode, scope, e, he, hnull⟩
      have hmem := Node.mem_entriesOf_iff.mpr ⟨node, hnode, he⟩
      exact ⟨scope, e, hmem, (hshows scope e hmem).mp hnull⟩
    · rintro ⟨scope, e, hmem, hnull⟩
      obtain ⟨node, hnode, he⟩ := Node.mem_entriesOf_iff.mp hmem
      exact ⟨node, hnode, scope, e, he, (hshows scope e hmem).mpr hnull⟩

/-- The value of a choice in a schema is a text or a number, or `null`. -/
theorem value_of_mem_choices {scope : Option String} {e : Entry} {choice : Datum}
    (h : choice ∈ (d.argumentSchema scope e).toDatum.itemsAt "choices") :
    ∃ value, choice.get? "value" = some value ∧
      ((∃ s, value = .text s) ∨ value.IsNumber ∨ value = .null) := by
  rw [ArgumentSchema.itemsAt_choices_toDatum] at h
  obtain ⟨c, -, rfl⟩ := List.mem_map.mp h
  refine ⟨c.value.toDatum, by simp [ChoiceSchema.toDatum, Datum.get?], ?_⟩
  rcases c.value.toDatum_cases with ⟨s, -, heq⟩ | hcases
  · exact .inl ⟨s, heq⟩
  · exact .inr hcases

/-- A bound in a schema is a number, or `null`. -/
theorem isNumber_or_null_of_bound? {kind : OptionKind} {bound : Option Float} {value : Datum}
    (h : (bound? kind bound).map SchemaValue.toDatum = some value) :
    value.IsNumber ∨ value = .null := by
  rw [bound?] at h
  split at h
  · obtain ⟨v, hv, rfl⟩ := Option.map_eq_some_iff.mp h
    obtain ⟨b, -, rfl⟩ := Option.map_eq_some_iff.mp hv
    exact SchemaValue.isNumber_or_null_ofBound kind b
  · cases h

/-- **Where a schema has `null`.**  Whatever calls a draft is grown by, the schema of what it is
built to has `null` in it just in case it is a command from the chat, and an argument of an option
of numbers has a choice that spells infinity or no number, or an argument has a bound that is one of
these.  All other choices have a text or a number as their value, and all other bounds are
numbers. -/
theorem hasNull_schema_iff {calls : List Call}
    (h : (Draft.empty.applyAll calls).build = .ok d) :
    (d.schema.toDatum.HasNull ↔ d.kind.isContextMenu = false ∧
        ∃ scope, ∃ e ∈ Node.entriesOf scope d.nodes, d.ShowsNull scope e) ∧
      ∀ scope, ∀ o ∈ d.schema.toDatum.optionsIn scope,
        (∀ choice ∈ o.itemsAt "choices", ∃ value, choice.get? "value" = some value ∧
          ((∃ s, value = .text s) ∨ value.IsNumber ∨ value = .null)) ∧
        ∀ value, o.get? "min_value" = some value ∨ o.get? "max_value" = some value →
          value.IsNumber ∨ value = .null := by
  refine ⟨hasNull_toDatum_iff (Draft.wellFormed_of_build h), fun scope o ho => ?_⟩
  cases hkind : d.kind.isContextMenu with
  | true =>
    rw [optionsIn_of_isContextMenu hkind] at ho
    cases ho
  | false =>
    rcases (mem_optionsIn_iff hkind).mp ho with ⟨e, -, rfl⟩ | ⟨-, s, -, rfl⟩
    · refine ⟨fun choice hchoice => value_of_mem_choices hchoice, fun value hvalue => ?_⟩
      rw [ArgumentSchema.get?_min_toDatum, ArgumentSchema.get?_max_toDatum] at hvalue
      exact hvalue.elim isNumber_or_null_of_bound? isNumber_or_null_of_bound?
    · -- the option of a subcommand has neither choices nor bounds
      simp [optionSchema, OptionSchema.toDatum, Datum.itemsAt, Datum.get?]

/-- A command with an argument that takes numbers. -/
def pick (texts : List String) (max : Option Float) : Definition :=
  { name := "pick"
    description := "Picks"
    kind := .chatInput
    nodes := [.argument ⟨.arg, "num", false, "x", "X", none, none, max⟩]
    choices := Keyed.empty.insert ⟨none, "x"⟩ texts
    defaults := .empty
    requires := []
    channels := .empty
    guilds := .empty
    completers := .empty
    action := .nothing
    published := none }

/-- The calls that declare it. -/
def pickCalls (texts : List String) (max : Option Float) : List Call :=
  [.setCommand "pick" "Picks",
    .addArgument { ArgumentOptions.plain "<x: num>" "X" with
      completion := some (.choices texts), max := max }]

theorem build_pick (texts : List String) (max : Option Float) :
    (Draft.empty.applyAll (pickCalls texts max)).build = .ok (pick texts max) := by
  have htokens : Pattern.tokens "<x: num>" = .ok [⟨.arg, false, "x", "num", none, 0⟩] :=
    Pattern.tokens_of_splitWithin? rfl rfl
  rw [pickCalls, Draft.applyAll_cons, Draft.applyAll_cons, Draft.applyAll_nil]
  simp only [Draft.apply, Draft.addArgument, ArgumentOptions.plain, htokens]
  cases max <;> rfl

/-- A choice that is a number, one that is a text and a bound are published without `null`. -/
theorem not_hasNull_schema_pick :
    (Draft.empty.applyAll (pickCalls ["1.5", "many"] (some 20.0))).build =
        .ok (pick ["1.5", "many"] (some 20.0)) ∧
      ¬ (pick ["1.5", "many"] (some 20.0)).schema.toDatum.HasNull := by
  have hbuild := build_pick ["1.5", "many"] (some 20.0)
  refine ⟨hbuild, fun hnull => ?_⟩
  have hspells (text : String) (hfinite : (Decimal.readFloat? text).all
      fun x => (Double.view x).isFinite) : ¬ SpellsNoNumber text := by
    rintro ⟨x, hx, hnot⟩
    rw [hx, Option.all_some, hnot] at hfinite
    cases hfinite
  obtain ⟨-, scope, e, he, hshows⟩ := (hasNull_schema_iff hbuild).1.mp hnull
  cases scope with
  | some name => cases he
  | none =>
    obtain rfl := List.mem_singleton.mp he
    rcases hshows with ⟨-, texts, htexts, text, htext, hspelled⟩ | ⟨bound, hbound, hnot⟩
    · obtain rfl := Option.some.inj htexts
      rcases List.mem_cons.mp htext with rfl | htext
      · exact hspells "1.5" (by decide +kernel) hspelled
      · obtain rfl := List.mem_singleton.mp htext
        exact hspells "many" (by decide +kernel) hspelled
    · rcases hbound with hbound | hbound
      · cases hbound
      · obtain rfl := Option.some.inj hbound
        exact absurd hnot (by decide +kernel)

/-- A choice that spells no number and an infinite bound are accepted, and are published as
`null`. -/
theorem hasNull_schema_pick :
    ((Draft.empty.applyAll (pickCalls ["nan"] none)).build = .ok (pick ["nan"] none) ∧
        (pick ["nan"] none).schema.toDatum.HasNull) ∧
      (Draft.empty.applyAll (pickCalls [] (some Decimal.infinity))).build =
          .ok (pick [] (some Decimal.infinity)) ∧
        (pick [] (some Decimal.infinity)).schema.toDatum.HasNull := by
  refine ⟨⟨build_pick _ _, ?_⟩, build_pick _ _, ?_⟩
  · refine (hasNull_toDatum_iff (Draft.wellFormed_of_build (build_pick _ _))).mpr
      ⟨rfl, none, _, .head _, .inl ⟨rfl, ["nan"], rfl, "nan", .head _, Decimal.notANumber, ?_, ?_⟩⟩
    · rfl
    · decide +kernel
  · refine (hasNull_toDatum_iff (Draft.wellFormed_of_build (build_pick _ _))).mpr
      ⟨rfl, none, _, .head _, .inr ⟨Decimal.infinity, .inr rfl, ?_⟩⟩
    decide +kernel

end Definition

end SlashCommands
