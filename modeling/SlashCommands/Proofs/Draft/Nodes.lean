import SlashCommands.Draft

/-!
# Scopes in a list of nodes

`Node.entriesOf` lists the arguments of one scope and `Node.subcommandNames` the names of the
subcommands.  The main statement, `Node.entriesOf_append`, says that adding arguments in a scope
puts them at the end of that scope and leaves every other scope as it is, as long as no two
subcommands have the same name; `Node.nodup_subcommandNames_append` says that it stays that way.
-/

namespace SlashCommands.Node

/-- The names of the subcommands in a list of nodes, in order. -/
def subcommandNames : List Node → List String
  | [] => []
  | .argument _ :: rest => subcommandNames rest
  | .subcommand s :: rest => s.name :: subcommandNames rest

/-- The arguments in a scope, in order: those of the subcommands with a name, or those at top
level. -/
def entriesOf (scope : Option String) : List Node → List Entry
  | [] => []
  | .argument e :: rest => if scope = none then e :: entriesOf scope rest else entriesOf scope rest
  | .subcommand s :: rest =>
    if scope = some s.name then s.entries ++ entriesOf scope rest else entriesOf scope rest

variable {name : String} {scope : Option String} {nodes : List Node}

theorem subcommandNames_concat (description : String) (entries : List Entry) :
    subcommandNames (nodes ++ [.subcommand ⟨name, description, entries⟩]) =
      subcommandNames nodes ++ [name] := by
  induction nodes with
  | nil => rfl
  | cons node rest ih =>
    cases node with
    | argument e => simpa [subcommandNames] using ih
    | subcommand s => simpa [subcommandNames] using ih

theorem subcommandNames_append_arguments (entries : List Entry) :
    subcommandNames (nodes ++ entries.map .argument) = subcommandNames nodes := by
  induction nodes with
  | nil =>
    induction entries with
    | nil => rfl
    | cons e rest ih => simpa [subcommandNames] using ih
  | cons node rest ih =>
    cases node with
    | argument e => simpa [subcommandNames] using ih
    | subcommand s => simpa [subcommandNames] using ih

theorem any_isSubcommand_iff : nodes.any (isSubcommand name) ↔ name ∈ subcommandNames nodes := by
  induction nodes with
  | nil => simp [subcommandNames]
  | cons node rest ih =>
    cases node with
    | argument e => simpa [subcommandNames, isSubcommand] using ih
    | subcommand s =>
      rw [List.any_cons, Bool.or_eq_true, ih, subcommandNames, List.mem_cons, isSubcommand,
        beq_iff_eq, @eq_comm _ s.name]

/-- What a walk over all arguments meets in a scope are the arguments of that scope. -/
theorem mem_walk_iff {e : Entry} : (scope, e) ∈ walk nodes ↔ e ∈ entriesOf scope nodes := by
  induction nodes with
  | nil => simp [walk, entriesOf]
  | cons node rest ih =>
    rw [walk, List.flatMap_cons, List.mem_append, ← walk, ih]
    cases node with
    | argument e' =>
      by_cases h : scope = none
      · simp [entries, entriesOf, h]
      · simp [entries, entriesOf, h]
    | subcommand s =>
      by_cases h : scope = some s.name
      · simp [entries, entriesOf, h]
      · have hne : ¬ some s.name = scope := fun h' => h h'.symm
        simp [entries, entriesOf, h, hne]

theorem entriesOf_eq_nil_of_not_mem (h : name ∉ subcommandNames nodes) :
    entriesOf (some name) nodes = [] := by
  induction nodes with
  | nil => rfl
  | cons node rest ih =>
    cases node with
    | argument e => simpa [entriesOf] using ih h
    | subcommand s =>
      have hne : ¬ some name = some s.name := fun heq =>
        List.ne_of_not_mem_cons h (Option.some.inj heq)
      rw [entriesOf, if_neg hne]
      exact ih (List.not_mem_of_not_mem_cons h)

/-! ### New subcommands -/

theorem entriesOf_concat (scope : Option String) (description : String) :
    entriesOf scope (nodes ++ [.subcommand ⟨name, description, []⟩]) = entriesOf scope nodes := by
  induction nodes with
  | nil => simp [entriesOf]
  | cons node rest ih =>
    cases node with
    | argument e => simp only [List.cons_append, entriesOf, ih]
    | subcommand s => simp only [List.cons_append, entriesOf, ih]

theorem mem_subcommandNames_ensure (description : String) :
    name ∈ subcommandNames (ensure name description nodes) := by
  rw [ensure]
  split
  · next h => exact any_isSubcommand_iff.mp h
  · rw [subcommandNames_concat]
    simp

theorem nodup_subcommandNames_ensure (h : (subcommandNames nodes).Nodup) (description : String) :
    (subcommandNames (ensure name description nodes)).Nodup := by
  rw [ensure]
  split
  · exact h
  · next hnew =>
    have hfresh : name ∉ subcommandNames nodes := fun hmem => hnew (any_isSubcommand_iff.mpr hmem)
    rw [subcommandNames_concat, List.nodup_append]
    refine ⟨h, by simp, fun a ha b hb => ?_⟩
    rw [List.mem_singleton.mp hb]
    exact fun heq => hfresh (heq ▸ ha)

/-- The subcommands that were there keep their places before a new one. -/
theorem subcommandNames_prefix_ensure (name description : String) (nodes : List Node) :
    subcommandNames nodes <+: subcommandNames (ensure name description nodes) := by
  rw [ensure]
  split
  · exact List.prefix_refl _
  · rw [subcommandNames_concat]
    exact List.prefix_append _ _

/-- A new subcommand has no arguments, and it takes none from the others. -/
theorem entriesOf_ensure (scope : Option String) (description : String) :
    entriesOf scope (ensure name description nodes) = entriesOf scope nodes := by
  rw [ensure]
  split
  · rfl
  · exact entriesOf_concat scope description

/-! ### New arguments -/

theorem subcommandNames_extend (entries : List Entry) :
    subcommandNames (extend name entries nodes) = subcommandNames nodes := by
  induction nodes with
  | nil => rfl
  | cons node rest ih =>
    cases node with
    | argument e => simpa [extend, subcommandNames] using ih
    | subcommand s =>
      rw [extend]
      split
      · rfl
      · simpa [subcommandNames] using ih

theorem extend_nil (name : String) (nodes : List Node) : extend name [] nodes = nodes := by
  induction nodes with
  | nil => rfl
  | cons node rest ih =>
    cases node with
    | argument e => simpa [extend] using ih
    | subcommand s =>
      rw [extend, ih, List.append_nil]
      split <;> rfl

theorem extend_arguments_append (entries es : List Entry) :
    extend name entries (es.map .argument ++ nodes) =
      es.map .argument ++ extend name entries nodes := by
  induction es with
  | nil => rfl
  | cons e es ih => rw [List.map_cons, List.cons_append, extend, ih, List.cons_append]; nofun

/-- A new subcommand at the end takes the arguments for its name. -/
theorem extend_concat_new (h : name ∉ subcommandNames nodes) (description : String)
    (entries : List Entry) :
    extend name entries (nodes ++ [.subcommand ⟨name, description, []⟩]) =
      nodes ++ [.subcommand ⟨name, description, entries⟩] := by
  induction nodes with
  | nil => simp [extend]
  | cons node rest ih =>
    cases node with
    | argument e => simpa [extend] using ih h
    | subcommand s =>
      have hne : ¬ s.name = name := fun heq => List.ne_of_not_mem_cons h heq.symm
      rw [List.cons_append, extend, if_neg hne, ih (List.not_mem_of_not_mem_cons h),
        List.cons_append]

theorem entriesOf_extend_self (entries : List Entry) (hmem : name ∈ subcommandNames nodes)
    (hnodup : (subcommandNames nodes).Nodup) :
    entriesOf (some name) (extend name entries nodes) = entriesOf (some name) nodes ++ entries := by
  induction nodes with
  | nil => simp [subcommandNames] at hmem
  | cons node rest ih =>
    cases node with
    | argument e => simpa [extend, entriesOf] using ih hmem hnodup
    | subcommand s =>
      obtain ⟨hs, hrest⟩ := List.nodup_cons.mp hnodup
      rw [extend]
      split
      · next h =>
        -- the other nodes have no arguments in this scope, so the end of this one is its end
        have hnone := entriesOf_eq_nil_of_not_mem hs
        rw [h] at hnone
        simp [entriesOf, h, hnone]
      · next h =>
        have hmem' : name ∈ subcommandNames rest := by
          rcases List.mem_cons.mp hmem with heq | hmem'
          · exact absurd heq.symm h
          · exact hmem'
        have hne : ¬ some name = some s.name := fun heq => h (Option.some.inj heq).symm
        rw [entriesOf, if_neg hne, ih hmem' hrest, entriesOf, if_neg hne]

theorem entriesOf_extend_of_ne (entries : List Entry) (h : scope ≠ some name) :
    entriesOf scope (extend name entries nodes) = entriesOf scope nodes := by
  induction nodes with
  | nil => rfl
  | cons node rest ih =>
    cases node with
    | argument e => simp only [extend, entriesOf, ih]
    | subcommand s =>
      rw [extend]
      split
      · next hs =>
        have hne : ¬ scope = some s.name := fun heq => h (hs ▸ heq)
        simp only [entriesOf, if_neg hne]
      · simp only [entriesOf, ih]

theorem entriesOf_append_arguments (scope : Option String) (entries : List Entry) :
    entriesOf scope (nodes ++ entries.map .argument) =
      entriesOf scope nodes ++ if scope = none then entries else [] := by
  induction nodes with
  | nil =>
    induction entries with
    | nil => simp [entriesOf]
    | cons e rest ih =>
      by_cases h : scope = none
      · simpa [entriesOf, h] using ih
      · simpa [entriesOf, h] using ih
  | cons node rest ih =>
    cases node with
    | argument e =>
      rw [List.cons_append, entriesOf, ih, entriesOf]
      split <;> rfl
    | subcommand s =>
      rw [List.cons_append, entriesOf, ih, entriesOf]
      split
      · rw [List.append_assoc]
      · rfl

/-- Adding arguments in a scope leaves the names of the subcommands distinct. -/
theorem nodup_subcommandNames_append (h : (subcommandNames nodes).Nodup) (scope : Option String)
    (entries : List Entry) : (subcommandNames (append scope entries nodes)).Nodup := by
  cases scope with
  | none => rwa [append, subcommandNames_append_arguments]
  | some name =>
    rw [append, subcommandNames_extend]
    exact nodup_subcommandNames_ensure h name

/-- Adding arguments in a scope adds at most the subcommand of that scope. -/
theorem subcommandNames_prefix_append (scope : Option String) (entries : List Entry)
    (nodes : List Node) :
    subcommandNames nodes <+: subcommandNames (append scope entries nodes) := by
  cases scope with
  | none =>
    have hsame : subcommandNames (append none entries nodes) = subcommandNames nodes :=
      subcommandNames_append_arguments entries
    exact ⟨[], by rw [hsame, List.append_nil]⟩
  | some name =>
    rw [append, subcommandNames_extend]
    exact subcommandNames_prefix_ensure name name nodes

/-- Arguments added in a scope come last in that scope, and no other scope changes. -/
theorem entriesOf_append (h : (subcommandNames nodes).Nodup) (scope other : Option String)
    (entries : List Entry) :
    entriesOf other (append scope entries nodes) =
      entriesOf other nodes ++ if other = scope then entries else [] := by
  cases scope with
  | none => exact entriesOf_append_arguments other entries
  | some name =>
    rw [append]
    split
    · next heq =>
      rw [heq, entriesOf_extend_self entries (mem_subcommandNames_ensure name)
        (nodup_subcommandNames_ensure h name), entriesOf_ensure]
    · next hne => rw [entriesOf_extend_of_ne entries hne, entriesOf_ensure, List.append_nil]

end SlashCommands.Node
