/-!
# Keyed collections

`Keyed κ α` holds at most one value for a key and is kept in the order of its keys, so that two
collections with the same content are equal, in whatever order they were filled
(`Keyed.ext_get?`).  `NameSet` is the collection that has nothing but keys.
-/

namespace SlashCommands

/-- Values by key, in the order of the keys. -/
structure Keyed (κ α : Type) [Ord κ] where
  entries : List (κ × α)
  sorted : entries.Pairwise fun a b => compare a.1 b.1 = .lt

namespace Keyed

variable {κ α : Type} [Ord κ]

/-- Puts an entry at the place of its key, in exchange for an entry with the same key. -/
def insertEntry (key : κ) (value : α) : List (κ × α) → List (κ × α)
  | [] => [(key, value)]
  | entry :: rest =>
    match compare key entry.1 with
    | .lt => (key, value) :: entry :: rest
    | .eq => (key, value) :: rest
    | .gt => entry :: insertEntry key value rest

/-- The value under a key in a list of entries. -/
def lookup (key : κ) (entries : List (κ × α)) : Option α :=
  (entries.find? fun entry => compare key entry.1 == .eq).map (·.2)

theorem mem_insertEntry {key : κ} {value : α} {entries : List (κ × α)} {e : κ × α}
    (h : e ∈ insertEntry key value entries) : e = (key, value) ∨ e ∈ entries := by
  induction entries with
  | nil => simpa [insertEntry] using h
  | cons entry rest ih =>
    rw [insertEntry] at h
    split at h
    · simpa using h
    · rcases List.mem_cons.mp h with rfl | h
      · exact .inl rfl
      · exact .inr (List.mem_cons_of_mem _ h)
    · rcases List.mem_cons.mp h with rfl | h
      · exact .inr List.mem_cons_self
      · exact (ih h).imp_right (List.mem_cons_of_mem _)

theorem pairwise_insertEntry [Std.TransOrd κ] (key : κ) (value : α) {entries : List (κ × α)}
    (h : entries.Pairwise fun a b => compare a.1 b.1 = .lt) :
    (insertEntry key value entries).Pairwise fun a b => compare a.1 b.1 = .lt := by
  induction entries with
  | nil => simp [insertEntry]
  | cons entry rest ih =>
    have hrest := List.pairwise_cons.mp h
    rw [insertEntry]
    split
    · rename_i hlt
      refine List.pairwise_cons.mpr ⟨fun e he => ?_, h⟩
      rcases List.mem_cons.mp he with rfl | he
      · exact hlt
      · exact Std.TransCmp.lt_trans hlt (hrest.1 e he)
    · rename_i heq
      refine List.pairwise_cons.mpr ⟨fun e he => ?_, hrest.2⟩
      exact Std.TransCmp.lt_of_eq_of_lt heq (hrest.1 e he)
    · rename_i hgt
      refine List.pairwise_cons.mpr ⟨fun e he => ?_, ih hrest.2⟩
      rcases mem_insertEntry he with rfl | he
      · exact Std.OrientedCmp.lt_of_gt hgt
      · exact hrest.1 e he

/-- The collection without entries. -/
def empty : Keyed κ α := ⟨[], .nil⟩

instance : Inhabited (Keyed κ α) := ⟨empty⟩

/-- Holds of the collection without entries. -/
def isEmpty (m : Keyed κ α) : Bool := m.entries.isEmpty

/-- The number of entries. -/
def size (m : Keyed κ α) : Nat := m.entries.length

/-- The keys in order. -/
def keys (m : Keyed κ α) : List κ := m.entries.map (·.1)

/-- The values in the order of their keys. -/
def values (m : Keyed κ α) : List α := m.entries.map (·.2)

/-- The value under a key. -/
def get? (m : Keyed κ α) (key : κ) : Option α := lookup key m.entries

/-- Holds if there is a value under a key. -/
def contains (m : Keyed κ α) (key : κ) : Bool := (m.get? key).isSome

/-- Sets the value under a key. -/
def insert [Std.TransOrd κ] (m : Keyed κ α) (key : κ) (value : α) : Keyed κ α :=
  ⟨insertEntry key value m.entries, pairwise_insertEntry key value m.sorted⟩

/-- Removes the value under a key. -/
def erase (m : Keyed κ α) (key : κ) : Keyed κ α :=
  ⟨m.entries.filter fun entry => compare key entry.1 != .eq, m.sorted.filter _⟩

/-- The collection filled from a list; of several values for a key the last one stays. -/
def ofList [Std.TransOrd κ] (entries : List (κ × α)) : Keyed κ α :=
  entries.foldl (fun m entry => m.insert entry.1 entry.2) empty

/-! ### What a key finds -/

@[simp]
theorem get?_empty (key : κ) : (empty : Keyed κ α).get? key = none := rfl

@[simp]
theorem contains_empty (key : κ) : (empty : Keyed κ α).contains key = false := rfl

theorem lookup_insertEntry_self [Std.TransOrd κ] (key : κ) (value : α) (entries : List (κ × α)) :
    lookup key (insertEntry key value entries) = some value := by
  induction entries with
  | nil => simp [insertEntry, lookup]
  | cons entry rest ih =>
    rw [insertEntry]
    split
    · simp [lookup]
    · simp [lookup]
    · rename_i hgt
      simpa [lookup, hgt] using ih

theorem lookup_insertEntry_of_ne [Std.TransOrd κ] {key other : κ} (h : compare other key ≠ .eq)
    (value : α) (entries : List (κ × α)) :
    lookup other (insertEntry key value entries) = lookup other entries := by
  induction entries with
  | nil => simp [insertEntry, lookup, h]
  | cons entry rest ih =>
    rw [insertEntry]
    split
    · simp [lookup, h]
    · rename_i heq
      have hne : compare other entry.1 ≠ .eq := fun h' =>
        h (Std.TransCmp.eq_trans h' (Std.OrientedCmp.eq_comm.mp heq))
      simp [lookup, h, hne]
    · simp only [lookup, List.find?_cons]
      split
      · rfl
      · simpa [lookup] using ih

@[simp]
theorem get?_insert_self [Std.TransOrd κ] (m : Keyed κ α) (key : κ) (value : α) :
    (m.insert key value).get? key = some value :=
  lookup_insertEntry_self key value m.entries

theorem get?_insert_of_ne [Std.TransOrd κ] (m : Keyed κ α) {key other : κ}
    (h : compare other key ≠ .eq) (value : α) : (m.insert key value).get? other = m.get? other :=
  lookup_insertEntry_of_ne h value m.entries

@[simp]
theorem get?_erase_self [Std.TransOrd κ] (m : Keyed κ α) (key : κ) :
    (m.erase key).get? key = none := by
  simp [get?, erase, lookup]

theorem get?_erase_of_ne [Std.TransOrd κ] (m : Keyed κ α) {key other : κ}
    (h : compare other key ≠ .eq) : (m.erase key).get? other = m.get? other := by
  have key_of_eq : ∀ entry : κ × α, compare other entry.1 = .eq → compare key entry.1 ≠ .eq :=
    fun entry h1 h2 => h (Std.TransCmp.eq_trans h1 (Std.OrientedCmp.eq_comm.mp h2))
  obtain ⟨entries, sorted⟩ := m
  simp only [get?, erase, lookup]
  clear sorted
  induction entries with
  | nil => rfl
  | cons entry rest ih =>
    by_cases h1 : compare other entry.1 = .eq
    · simp [key_of_eq entry h1, h1]
    · by_cases h2 : compare key entry.1 = .eq
      · simpa [h1, h2] using ih
      · simpa [h1, h2] using ih

section

variable [Std.TransOrd κ] [Std.LawfulEqOrd κ] [DecidableEq κ]

/-- Insertion changes what its key finds and nothing else. -/
theorem get?_insert (m : Keyed κ α) (key other : κ) (value : α) :
    (m.insert key value).get? other = if other = key then some value else m.get? other := by
  split
  · next h => rw [h, get?_insert_self]
  · next h => exact get?_insert_of_ne m (fun h' => h (Std.LawfulEqCmp.eq_of_compare h')) value

/-- Removal changes what its key finds and nothing else. -/
theorem get?_erase (m : Keyed κ α) (key other : κ) :
    (m.erase key).get? other = if other = key then none else m.get? other := by
  split
  · next h => rw [h, get?_erase_self]
  · next h => exact get?_erase_of_ne m (fun h' => h (Std.LawfulEqCmp.eq_of_compare h'))

theorem contains_insert (m : Keyed κ α) (key other : κ) (value : α) :
    (m.insert key value).contains other ↔ other = key ∨ m.contains other := by
  rw [contains, get?_insert]
  split
  · next h => simp [h]
  · next h => simp [h, contains]

theorem contains_erase (m : Keyed κ α) (key other : κ) :
    (m.erase key).contains other ↔ other ≠ key ∧ m.contains other := by
  rw [contains, get?_erase]
  split
  · next h => simp [h]
  · next h => simp [h, contains]

/-- What holds of all keys still does after the insertion of one of which it holds. -/
theorem forall_contains_insert {p : κ → Prop} {m : Keyed κ α} (h : ∀ key, m.contains key → p key)
    {key : κ} (hkey : p key) (value : α) (other : κ)
    (hother : (m.insert key value).contains other) : p other := by
  rcases (contains_insert m key other value).mp hother with rfl | hother
  · exact hkey
  · exact h other hother

/-- What holds of all keys still does after a removal. -/
theorem forall_contains_erase {p : κ → Prop} {m : Keyed κ α} (h : ∀ key, m.contains key → p key)
    (key other : κ) (hother : (m.erase key).contains other) : p other :=
  h other ((contains_erase m key other).mp hother).2

/-- Collections without a common key have none after an insertion into one of them, if the key is
removed from the other. -/
theorem not_contains_both_insert_erase {β : Type} {m : Keyed κ α} {n : Keyed κ β}
    (h : ∀ key, ¬ (m.contains key ∧ n.contains key)) (key : κ) (value : α) (other : κ) :
    ¬ ((m.insert key value).contains other ∧ (n.erase key).contains other) := by
  rintro ⟨hm, hn⟩
  obtain ⟨hne, hn⟩ := (contains_erase n key other).mp hn
  rcases (contains_insert m key other value).mp hm with rfl | hm
  · exact hne rfl
  · exact h other ⟨hm, hn⟩

end

theorem lookup_eq_none_of_lt {key : κ} {entries : List (κ × α)}
    (h : ∀ e ∈ entries, compare key e.1 = .lt) : lookup key entries = none := by
  simp only [lookup, Option.map_eq_none_iff, List.find?_eq_none]
  intro e he
  simp [h e he]

theorem lookup_cons_self [Std.TransOrd κ] (entry : κ × α) (rest : List (κ × α)) :
    lookup entry.1 (entry :: rest) = some entry.2 := by
  simp [lookup]

theorem entries_eq_of_lookup [Std.TransOrd κ] [Std.LawfulEqOrd κ] {l₁ l₂ : List (κ × α)}
    (h₁ : l₁.Pairwise fun a b => compare a.1 b.1 = .lt)
    (h₂ : l₂.Pairwise fun a b => compare a.1 b.1 = .lt)
    (h : ∀ key, lookup key l₁ = lookup key l₂) : l₁ = l₂ := by
  induction l₁ generalizing l₂ with
  | nil =>
    cases l₂ with
    | nil => rfl
    | cons b rest =>
      have := h b.1
      rw [lookup_cons_self] at this
      simp [lookup] at this
  | cons a rest ih =>
    cases l₂ with
    | nil =>
      have := h a.1
      rw [lookup_cons_self] at this
      simp [lookup] at this
    | cons b rest' =>
      have ha := List.pairwise_cons.mp h₁
      have hb := List.pairwise_cons.mp h₂
      have heq : compare a.1 b.1 = .eq := by
        cases hc : compare a.1 b.1 with
        | eq => rfl
        | lt =>
          have hnone : lookup a.1 (b :: rest') = none := lookup_eq_none_of_lt fun e he => by
            rcases List.mem_cons.mp he with rfl | he
            · exact hc
            · exact Std.TransCmp.lt_trans hc (hb.1 e he)
          rw [← h, lookup_cons_self] at hnone
          cases hnone
        | gt =>
          have hba := Std.OrientedCmp.lt_of_gt hc
          have hnone : lookup b.1 (a :: rest) = none := lookup_eq_none_of_lt fun e he => by
            rcases List.mem_cons.mp he with rfl | he
            · exact hba
            · exact Std.TransCmp.lt_trans hba (ha.1 e he)
          rw [h, lookup_cons_self] at hnone
          cases hnone
      have hkey : a.1 = b.1 := Std.LawfulEqCmp.eq_of_compare heq
      have hvalue : a.2 = b.2 := by
        have := h a.1
        rw [lookup_cons_self, hkey, lookup_cons_self] at this
        exact Option.some.inj this
      have hab : a = b := Prod.ext hkey hvalue
      subst hab
      refine congrArg (a :: ·) (ih ha.2 hb.2 fun key => ?_)
      by_cases hk : compare key a.1 = .eq
      · have hkey' : key = a.1 := Std.LawfulEqCmp.eq_of_compare hk
        subst hkey'
        rw [lookup_eq_none_of_lt ha.1, lookup_eq_none_of_lt hb.1]
      · simpa [lookup, hk] using h key

/-- Two collections in which every key finds the same are equal. -/
theorem ext_get? [Std.TransOrd κ] [Std.LawfulEqOrd κ] {m₁ m₂ : Keyed κ α}
    (h : ∀ key, m₁.get? key = m₂.get? key) : m₁ = m₂ := by
  have := entries_eq_of_lookup m₁.sorted m₂.sorted h
  cases m₁; cases m₂
  simpa using this

/-! ### Keys and values -/

theorem keys_eq_nil_iff {m : Keyed κ α} : m.keys = [] ↔ m.isEmpty := by
  simp [keys, isEmpty]

theorem pairwise_keys (m : Keyed κ α) : m.keys.Pairwise fun a b => compare a b = .lt :=
  List.pairwise_map.mpr m.sorted

section

variable [Std.TransOrd κ] [Std.LawfulEqOrd κ]

theorem lookup_eq_some_iff {key : κ} {value : α} {entries : List (κ × α)}
    (h : entries.Pairwise fun a b => compare a.1 b.1 = .lt) :
    lookup key entries = some value ↔ (key, value) ∈ entries := by
  induction entries with
  | nil => simp [lookup]
  | cons entry rest ih =>
    obtain ⟨hfirst, hrest⟩ := List.pairwise_cons.mp h
    rw [List.mem_cons]
    by_cases heq : compare key entry.1 = .eq
    · obtain rfl := Std.LawfulEqCmp.eq_of_compare heq
      -- the key does not occur in the rest, where all keys are greater
      have hnot : (entry.1, value) ∉ rest := fun hmem => by
        simpa using hfirst _ hmem
      rw [lookup_cons_self]
      simp [hnot, Prod.ext_iff, eq_comm]
    · have hne : (key, value) ≠ entry := fun h' => heq (by simp [← h'])
      have hskip : lookup key (entry :: rest) = lookup key rest := by simp [lookup, heq]
      rw [hskip, ih hrest]
      simp [hne]

/-- What a key finds are the entries. -/
theorem get?_eq_some_iff {m : Keyed κ α} {key : κ} {value : α} :
    m.get? key = some value ↔ (key, value) ∈ m.entries :=
  lookup_eq_some_iff m.sorted

theorem mem_values_iff {m : Keyed κ α} {value : α} :
    value ∈ m.values ↔ ∃ key, m.get? key = some value := by
  simp [values, get?_eq_some_iff]

theorem mem_keys_iff {m : Keyed κ α} {key : κ} : key ∈ m.keys ↔ m.contains key := by
  simp [keys, contains, Option.isSome_iff_exists, get?_eq_some_iff]

theorem contains_eq_false_of_isEmpty {m : Keyed κ α} (h : m.isEmpty) (key : κ) :
    m.contains key = false := by
  rw [← Bool.not_eq_true, ← mem_keys_iff, keys_eq_nil_iff.mpr h]
  exact List.not_mem_nil

end

/-! ### Filling a collection -/

section

variable [Std.TransOrd κ] [Std.LawfulEqOrd κ] [DecidableEq κ]

/-- Only the last value for a key counts. -/
theorem insert_insert (m : Keyed κ α) (key : κ) (value value' : α) :
    (m.insert key value).insert key value' = m.insert key value' :=
  ext_get? fun other => by
    rw [get?_insert, get?_insert, get?_insert]
    split <;> rfl

/-- What a key finds anyway need not be put in. -/
theorem insert_of_get?_eq_some {m : Keyed κ α} {key : κ} {value : α}
    (h : m.get? key = some value) : m.insert key value = m :=
  ext_get? fun other => by
    rw [get?_insert]
    split
    · next heq => rw [heq, h]
    · rfl

/-- Values are put in in any order, unless they differ for one key. -/
theorem insert_comm (m : Keyed κ α) {key key' : κ} {value value' : α}
    (h : key = key' → value = value') :
    (m.insert key value).insert key' value' = (m.insert key' value').insert key value := by
  refine ext_get? fun other => ?_
  rw [get?_insert, get?_insert, get?_insert, get?_insert]
  by_cases hkey : other = key
  · by_cases hkey' : other = key'
    · simp only [if_pos hkey, if_pos hkey', h (hkey.symm.trans hkey')]
    · simp only [if_pos hkey, if_neg hkey']
  · simp only [if_neg hkey]

/-- If no key occurs twice, the entries that are put in are found, and what was there under other
keys. -/
theorem get?_foldl_insert_eq_some_iff {entries : List (κ × α)} (h : (entries.map (·.1)).Nodup)
    (m : Keyed κ α) {key : κ} {value : α} :
    (entries.foldl (fun m entry => m.insert entry.1 entry.2) m).get? key = some value ↔
      (key, value) ∈ entries ∨ key ∉ entries.map (·.1) ∧ m.get? key = some value := by
  induction entries generalizing m with
  | nil => simp
  | cons entry rest ih =>
    obtain ⟨hnot, hrest⟩ := List.nodup_cons.mp h
    rw [List.foldl_cons, ih hrest, get?_insert, List.mem_cons, List.map_cons, List.mem_cons]
    by_cases heq : key = entry.1
    · subst heq
      have hnew (value : α) : (entry.1, value) ∉ rest := fun hmem =>
        hnot (List.mem_map.mpr ⟨_, hmem, rfl⟩)
      simp [hnot, hnew, Prod.ext_iff, eq_comm]
    · have hne : (key, value) ≠ entry := fun h' => heq (congrArg Prod.fst h')
      simp [heq, hne]

theorem get?_ofList_eq_some_iff {entries : List (κ × α)} (h : (entries.map (·.1)).Nodup) {key : κ}
    {value : α} : (ofList entries).get? key = some value ↔ (key, value) ∈ entries := by
  rw [ofList, get?_foldl_insert_eq_some_iff h]
  simp

end

/-! ### Changing the values -/

section

variable {β : Type}

/-- The collection with a function applied to each value. -/
def mapValues (f : α → β) (m : Keyed κ α) : Keyed κ β :=
  ⟨m.entries.map fun entry => (entry.1, f entry.2), List.pairwise_map.mpr m.sorted⟩

theorem get?_mapValues (f : α → β) (m : Keyed κ α) (key : κ) :
    (m.mapValues f).get? key = (m.get? key).map f := by
  simp [get?, lookup, mapValues, List.find?_map, Function.comp_def]

theorem values_mapValues (f : α → β) (m : Keyed κ α) :
    (m.mapValues f).values = m.values.map f := by
  simp [values, mapValues]

end

end Keyed

/-- A set of names, in their order. -/
abbrev NameSet := Keyed String Unit

/-- The names of a set in order. -/
abbrev NameSet.toList (s : NameSet) : List String := Keyed.keys s

/-- Adds a name to a set. -/
abbrev NameSet.add (s : NameSet) (name : String) : NameSet := Keyed.insert s name ()

/-- The set of the names in a list. -/
def NameSet.ofNames (names : List String) : NameSet :=
  names.foldl NameSet.add Keyed.empty

theorem NameSet.contains_foldl_add (names : List String) (s : NameSet) (name : String) :
    (names.foldl NameSet.add s).contains name ↔ name ∈ names ∨ s.contains name := by
  induction names generalizing s with
  | nil => simp
  | cons first rest ih =>
    rw [List.foldl_cons, ih, Keyed.contains_insert, List.mem_cons]
    constructor
    · rintro (h | h | h)
      · exact .inl (.inr h)
      · exact .inl (.inl h)
      · exact .inr h
    · rintro ((h | h) | h)
      · exact .inr (.inl h)
      · exact .inl h
      · exact .inr (.inr h)

theorem NameSet.contains_ofNames {names : List String} {name : String} :
    (NameSet.ofNames names).contains name ↔ name ∈ names := by
  rw [ofNames, contains_foldl_add]
  simp

end SlashCommands
