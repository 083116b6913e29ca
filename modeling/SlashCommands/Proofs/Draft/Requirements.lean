import Mathlib.Data.List.Nodup
import SlashCommands.Proofs.Text.Casing
import SlashCommands.Requirement

/-!
# What a requirement means

A requirement is written as text, and a role may be called like a permission.
`Permission.IsSpelled` says which texts spell a permission, without the tables that find it, and
`Requirement.Means` which requirement a text means.  The main statement,
`Requirement.classifies_exactly`, says that a text is classified so and that the spelling of a
permission does not matter, and that the requirement is read back from its datum.
-/

namespace SlashCommands

namespace Permission

/-- The characters of a text without its underscores. -/
def letters (text : String) : List Char :=
  text.toList.filter (· != '_')

/-- Holds of a known permission and the texts that spell it: but for underscores, their upper case
is its name. -/
def IsSpelled (p : Permission) (text : String) : Prop :=
  p ∈ all ∧ Text.upper (letters text) = letters p.name

/-! ### The table -/

/-- No two permissions have the same name but for underscores. -/
theorem eq_of_letters_eq {p q : Permission} (hp : p ∈ all) (hq : q ∈ all)
    (h : letters p.name = letters q.name) : p = q := by
  have hnodup : (all.map fun p => letters p.name).Nodup := by decide +kernel
  exact List.inj_on_of_nodup_map hnodup hp hq h

/-- Names of permissions are in upper case. -/
theorem upper_letters_of_mem {p : Permission} (h : p ∈ all) :
    Text.upper (letters p.name) = letters p.name := by
  have hlarge : ∀ p ∈ all, p.name.toList.all (·.toNat < 'a'.toNat) := by decide +kernel
  have hsame : ∀ c ∈ letters p.name, Text.upperChar c = [c] := fun c hc =>
    Text.upperChar_of_lt
      (of_decide_eq_true (List.all_eq_true.mp (hlarge p h) c (List.mem_filter.mp hc).1))
  rw [Text.upper, List.flatMap_congr hsame, List.flatMap_singleton']

variable {p q : Permission} {text : String}

theorem isSpelled_name (h : p ∈ all) : p.IsSpelled p.name :=
  ⟨h, upper_letters_of_mem h⟩

theorem IsSpelled.unique (hp : p.IsSpelled text) (hq : q.IsSpelled text) : p = q :=
  eq_of_letters_eq hp.1 hq.1 (hp.2.symm.trans hq.2)

/-- The first permission that a text spells is the only one. -/
theorem named?_eq_some_iff : named? text = some p ↔ p.IsSpelled text := by
  have hfold (q : Permission) (hq : q ∈ all) :
      (fold q.name.toList == fold text.toList) = true ↔ q.IsSpelled text := by
    rw [beq_iff_eq, IsSpelled, and_iff_right hq, eq_comm]
    show Text.upper (letters text) = Text.upper (letters q.name) ↔ _
    rw [upper_letters_of_mem hq]
  rw [named?]
  constructor
  · intro h
    have hsame := List.find?_some h
    exact (hfold p (List.mem_of_find?_eq_some h)).mp hsame
  · intro h
    cases hfound : all.find? fun q => fold q.name.toList == fold text.toList with
    | none => exact absurd ((hfold p h.1).mpr h) (List.find?_eq_none.mp hfound p h.1)
    | some q =>
      have hsame := List.find?_some hfound
      have hq := (hfold q (List.mem_of_find?_eq_some hfound)).mp hsame
      rw [hq.unique h]

theorem named?_eq_none_iff : named? text = none ↔ ∀ p : Permission, ¬ p.IsSpelled text := by
  simp only [Option.eq_none_iff_forall_ne_some, ne_eq, named?_eq_some_iff]

end Permission

namespace Requirement

/-- Holds of texts that mean a role in any case. -/
def IsMarked (value : String) : Prop :=
  value.toList.head? = some '@'

/-- Holds of a text and the requirement that it means: the role after an at sign, or else the
permission that the text spells, or else the role that it names. -/
inductive Means (value : String) : Requirement → Prop
  | marked {role : String} (h : value = "@" ++ role) : Means value (.role role)
  | permission {p : Permission} (hmarked : ¬ IsMarked value) (h : p.IsSpelled value) :
    Means value (.permission p)
  | role (hmarked : ¬ IsMarked value) (h : ∀ p : Permission, ¬ p.IsSpelled value) :
    Means value (.role value)

/-- Holds of two texts one of which becomes the other when underscores are put in and left out and
the case of ASCII letters is changed. -/
inductive Respells : List Char → List Char → Prop
  | nil : Respells [] []
  | putIn {s t : List Char} (h : Respells s t) : Respells s ('_' :: t)
  | leaveOut {s t : List Char} (h : Respells s t) : Respells ('_' :: s) t
  | letter {s t : List Char} {c d : Char} (hcase : c.toUpper = d.toUpper) (h : Respells s t) :
    Respells (c :: s) (d :: t)

/-! ### Classification -/

variable {value : String} {r : Requirement}

theorem classify_append (role : String) : classify ("@" ++ role) = .role role := by
  have hlist : ("@" ++ role).toList = '@' :: role.toList := String.toList_append
  rw [classify, hlist]
  exact congrArg Requirement.role String.ofList_toList

theorem classify_of_not_isMarked (h : ¬ IsMarked value) :
    classify value =
      match Permission.named? value with
      | some known => .permission known
      | none => .role value := by
  rw [classify]
  split
  · next rest heq =>
    refine absurd ?_ h
    rw [IsMarked, heq, List.head?_cons]
  · rfl

/-- A marked text is an at sign and a role. -/
theorem exists_role_of_isMarked (h : IsMarked value) : ∃ role, value = "@" ++ role := by
  obtain ⟨rest, hrest⟩ := List.head?_eq_some_iff.mp h
  refine ⟨String.ofList rest, String.toList_inj.mp ?_⟩
  rw [hrest, String.toList_append, String.toList_ofList (l := rest)]
  rfl

/-- A text is classified as what it means. -/
theorem means_classify (value : String) : Means value (classify value) := by
  by_cases hmarked : IsMarked value
  · obtain ⟨role, rfl⟩ := exists_role_of_isMarked hmarked
    rw [classify_append]
    exact .marked rfl
  · rw [classify_of_not_isMarked hmarked]
    cases hnamed : Permission.named? value with
    | some p => exact .permission hmarked (Permission.named?_eq_some_iff.mp hnamed)
    | none => exact .role hmarked (Permission.named?_eq_none_iff.mp hnamed)

theorem Means.classify_eq (h : Means value r) : classify value = r := by
  cases h with
  | marked h => rw [h, classify_append]
  | permission hmarked h =>
    rw [classify_of_not_isMarked hmarked, Permission.named?_eq_some_iff.mpr h]
  | role hmarked h =>
    rw [classify_of_not_isMarked hmarked, Permission.named?_eq_none_iff.mpr h]

/-! ### Spelling -/

theorem toUpper_eq_underscore_iff {c : Char} : c.toUpper = '_' ↔ c = '_' := by
  rcases Text.toUpper_cases c with h | ⟨n, rfl⟩
  · rw [h]
  · have hno : ∀ n : Fin 26, (Char.ofNat ('a'.toNat + n)).toUpper ≠ '_' ∧
        Char.ofNat ('a'.toNat + n) ≠ '_' := by decide +kernel
    exact iff_of_false (hno n).1 (hno n).2

/-- Texts that differ in underscores and in the case of ASCII letters are compared as the same. -/
theorem Respells.fold_eq {s t : List Char} (h : Respells s t) :
    Permission.fold s = Permission.fold t := by
  induction h with
  | nil => rfl
  | putIn _ ih => exact ih
  | leaveOut _ ih => exact ih
  | @letter s t c d hcase _ ih =>
    have hunderscore : c = '_' ↔ d = '_' := by
      rw [← toUpper_eq_underscore_iff, hcase, toUpper_eq_underscore_iff]
    have hchar : Text.upperChar c = Text.upperChar d := by
      rw [← Text.upperChar_toUpper c, hcase, Text.upperChar_toUpper]
    by_cases hc : c = '_'
    · rw [hc, hunderscore.mp hc]
      exact ih
    · have hd : d ≠ '_' := fun hd => hc (hunderscore.mpr hd)
      rw [Permission.fold, Permission.fold, List.filter_cons_of_pos (by simpa using hc),
        List.filter_cons_of_pos (by simpa using hd), Text.upper, Text.upper, List.flatMap_cons,
        List.flatMap_cons, hchar]
      exact congrArg _ ih

theorem isSpelled_congr {other : String} (h : Respells value.toList other.toList)
    (p : Permission) : p.IsSpelled value ↔ p.IsSpelled other := by
  have heq : Text.upper (Permission.letters value) = Text.upper (Permission.letters other) :=
    h.fold_eq
  rw [Permission.IsSpelled, Permission.IsSpelled, heq]

theorem classify_eq_permission_iff {p : Permission} :
    classify value = .permission p ↔ ¬ IsMarked value ∧ p.IsSpelled value := by
  constructor
  · intro h
    have hmeans := means_classify value
    rw [h] at hmeans
    cases hmeans with
    | permission hmarked hspelled => exact ⟨hmarked, hspelled⟩
  · rintro ⟨hmarked, hspelled⟩
    exact (Means.permission hmarked hspelled).classify_eq

/-! ### Data -/

/-- A table with a kind and a value is read as its value is. -/
theorem ofDatum?_table (kind : String) (value : Datum) :
    ofDatum? (.table [("kind", .text kind), ("value", value)]) = valueOfDatum? kind value := rfl

/-- A requirement is read back from its datum, if it asks for a known permission or for a role. -/
theorem ofDatum?_toDatum (h : ∀ p, r = .permission p → p ∈ Permission.all) :
    ofDatum? r.toDatum = some r := by
  rw [toDatum, ofDatum?_table]
  cases r with
  | role wanted => rfl
  | permission p =>
    have hnamed : Permission.named? p.name = some p :=
      Permission.named?_eq_some_iff.mpr (Permission.isSpelled_name (h p rfl))
    show (Permission.named? p.name).map Requirement.permission = _
    rw [hnamed]
    rfl

/-- **Requirements mean what they spell.**  A text is classified as the requirement that it means,
and a permission that it spells is the only one.  Texts that spell alike are classified alike unless
an at sign marks one of them.  The requirement is read back from its datum. -/
theorem classifies_exactly (value : String) :
    (∀ r, classify value = r ↔ Means value r) ∧
      (∀ p q : Permission, p.IsSpelled value → q.IsSpelled value → p = q) ∧
      (∀ other, Respells value.toList other.toList → ¬ IsMarked value → ¬ IsMarked other →
        ∀ p, classify value = .permission p ↔ classify other = .permission p) ∧
      ofDatum? (classify value).toDatum = some (classify value) := by
  refine ⟨fun r => ⟨?_, Means.classify_eq⟩, fun p q => Permission.IsSpelled.unique, ?_, ?_⟩
  · rintro rfl
    exact means_classify value
  · intro other hrespells hvalue hother p
    rw [classify_eq_permission_iff, classify_eq_permission_iff, isSpelled_congr hrespells,
      and_iff_right hvalue, and_iff_right hother]
  · refine ofDatum?_toDatum fun p hp => ?_
    exact (classify_eq_permission_iff.mp hp).2.1

end Requirement

end SlashCommands
