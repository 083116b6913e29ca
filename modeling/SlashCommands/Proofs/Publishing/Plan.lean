import Mathlib.Data.List.Sort
import SlashCommands.Manager
import SlashCommands.Proofs.Text.ByteOrder

/-!
# What is published

The plans of a cache in terms of the definitions that it holds.  Definitions and guilds are listed
in the byte order of their names (`Cache.listsInOrder_sorted`, `Cache.listsInOrder_guilds`), and the
report counts the operations (`Cache.countP_operations`).  A cache that is filled by a manager has
each definition under its name (`Cache.isKeyed_addAll`).
-/

namespace SlashCommands

/-- Holds of a list that has exactly the elements with a property, each once, in the byte order of
their names. -/
structure ListsInOrder {α : Type} (name : α → String) (p : α → Prop) (xs : List α) : Prop where
  mem_iff : ∀ x, x ∈ xs ↔ p x
  ordered : xs.Pairwise fun x y => Text.bytes (name x) < Text.bytes (name y)

namespace ListsInOrder

variable {α : Type} {name : α → String} {p : α → Prop} {xs ys : List α}

theorem nodup_map_name (h : ListsInOrder name p xs) : (xs.map name).Nodup := by
  refine List.pairwise_map.mpr (h.ordered.imp fun hlt heq => ?_)
  rw [heq] at hlt
  exact List.lt_irrefl _ hlt

/-- There is only one such list. -/
theorem unique (h : ListsInOrder name p xs) (h' : ListsInOrder name p ys) : xs = ys := by
  have : Std.Asymm fun x y : α => Text.bytes (name x) < Text.bytes (name y) :=
    ⟨fun _ _ => List.lt_asymm⟩
  exact h.ordered.eq_of_mem_iff h'.ordered fun x => (h.mem_iff x).trans (h'.mem_iff x).symm

end ListsInOrder

theorem NameSet.listsInOrder_keys (s : NameSet) :
    ListsInOrder id (fun name => s.contains name) s.keys where
  mem_iff := fun _ => Keyed.mem_keys_iff
  ordered := s.pairwise_keys.imp fun h => Text.compare_eq_lt_iff.mp h

namespace Operation

/-- Holds of the operations that empty a guild. -/
def isClearGuild : Operation → Bool
  | .clearGuild _ => true
  | _ => false

/-- Holds of the operations that register a command globally. -/
def isCreateGlobal : Operation → Bool
  | .createGlobal _ => true
  | _ => false

/-- Holds of the operations that register a command in a guild. -/
def isCreateGuild : Operation → Bool
  | .createGuild .. => true
  | _ => false

end Operation

namespace Cache

/-- Holds of the definitions in a cache. -/
def Holds (c : Cache) (d : Definition) : Prop := ∃ name, c.get? name = some d

/-- Holds of the guilds that some definition in a cache is scoped to. -/
def Reaches (c : Cache) (guild : String) : Prop := ∃ d, c.Holds d ∧ d.guilds.contains guild

/-- Holds of caches in which each definition is under its own name. -/
def IsKeyed (c : Cache) : Prop := ∀ name d, c.get? name = some d → d.name = name

theorem listsInOrder_guilds (c : Cache) : ListsInOrder id c.Reaches c.guilds where
  mem_iff := fun guild => by
    rw [guilds, Keyed.mem_keys_iff, NameSet.contains_ofNames, List.mem_flatMap]
    simp only [Keyed.mem_values_iff, Keyed.mem_keys_iff]
    rfl
  ordered := (NameSet.listsInOrder_keys _).ordered

theorem isKeyed_empty : IsKeyed .empty := by
  intro name d h
  cases h

theorem IsKeyed.insert {c : Cache} (h : c.IsKeyed) (d : Definition) :
    IsKeyed (c.insert d.name d) := by
  intro name d' hd'
  rw [Keyed.get?_insert] at hd'
  split at hd'
  · next heq =>
    obtain rfl := Option.some.inj hd'
    exact heq.symm
  · exact h name d' hd'

theorem isKeyed_addAll {m : Manager} (h : m.cache.IsKeyed) (definitions : List Definition) :
    (m.addAll definitions).cache.IsKeyed := by
  induction definitions generalizing m with
  | nil => exact h
  | cons d rest ih => exact ih (h.insert d)

variable {c : Cache}

theorem pairwise_values (h : c.IsKeyed) :
    c.values.Pairwise fun a b => compare a.name b.name = .lt := by
  refine List.pairwise_map.mpr ((Keyed.sorted c).imp_of_mem fun {a b} ha hb hlt => ?_)
  rw [h a.1 a.2 (Keyed.get?_eq_some_iff.mpr ha), h b.1 b.2 (Keyed.get?_eq_some_iff.mpr hb)]
  exact hlt

/-- The values are in the order of their names already. -/
theorem sorted_eq_values (h : c.IsKeyed) : c.sorted = c.values :=
  List.mergeSort_of_pairwise ((pairwise_values h).imp fun hlt => by rw [hlt]; rfl)

theorem listsInOrder_sorted (h : c.IsKeyed) : ListsInOrder (·.name) c.Holds c.sorted where
  mem_iff := fun d => by
    rw [sorted_eq_values h]
    exact Keyed.mem_values_iff
  ordered := by
    rw [sorted_eq_values h]
    exact (pairwise_values h).imp fun hlt => Text.compare_eq_lt_iff.mp hlt

/-! ### The report counts the operations -/

theorem countP_isClearGuild_flatMap (ds : List Definition) :
    (ds.flatMap Definition.publishPlan).countP Operation.isClearGuild = 0 := by
  induction ds with
  | nil => rfl
  | cons d rest ih =>
    rw [List.flatMap_cons, List.countP_append, ih, Definition.publishPlan]
    split <;> simp [Operation.isClearGuild]

theorem countP_isCreateGlobal_flatMap (ds : List Definition) :
    (ds.flatMap Definition.publishPlan).countP Operation.isCreateGlobal =
      (ds.filter (·.guilds.isEmpty)).length := by
  induction ds with
  | nil => rfl
  | cons d rest ih =>
    rw [List.flatMap_cons, List.countP_append, ih, List.filter_cons, Definition.publishPlan]
    split
    · rw [List.length_cons, Nat.add_comm]
      rfl
    · simp [Operation.isCreateGlobal]

theorem countP_isCreateGuild_flatMap (ds : List Definition) :
    (ds.flatMap Definition.publishPlan).countP Operation.isCreateGuild =
      (ds.flatMap (·.guilds.keys)).length := by
  induction ds with
  | nil => rfl
  | cons d rest ih =>
    rw [List.flatMap_cons, List.countP_append, ih, List.flatMap_cons, List.length_append,
      Definition.publishPlan]
    split
    · next hempty =>
      rw [Keyed.keys_eq_nil_iff.mpr hempty]
      rfl
    · simp [Operation.isCreateGuild, Function.comp_def]

/-- The operations that empty and refill what the definitions in a cache belong to. -/
def refreshPlan (c : Cache) : List Operation := c.resetPlan ++ c.publishPlan

theorem countP_isClearGuild (c : Cache) :
    c.refreshPlan.countP Operation.isClearGuild = c.guilds.length := by
  rw [refreshPlan, List.countP_append, publishPlan, countP_isClearGuild_flatMap, resetPlan]
  simp [Operation.isClearGuild, Function.comp_def]

theorem countP_isCreateGlobal (h : c.IsKeyed) :
    c.refreshPlan.countP Operation.isCreateGlobal = c.publishReport.global := by
  rw [refreshPlan, List.countP_append, publishPlan, countP_isCreateGlobal_flatMap, resetPlan,
    sorted_eq_values h]
  simp [Operation.isCreateGlobal, publishReport]

theorem countP_isCreateGuild (h : c.IsKeyed) :
    c.refreshPlan.countP Operation.isCreateGuild = c.publishReport.guild := by
  rw [refreshPlan, List.countP_append, publishPlan, countP_isCreateGuild_flatMap, resetPlan,
    sorted_eq_values h]
  simp [Operation.isCreateGuild, publishReport]

end Cache

end SlashCommands
