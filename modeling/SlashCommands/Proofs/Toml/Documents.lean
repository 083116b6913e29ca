import SlashCommands.Proofs.Toml.Scalars

/-!
# Documents that are read back

`SpellsLines` describes the text of a document line by line, as it is written, and reading finds
these lines again.  The lines of tables with distinct names and distinct keys then build the tables
that were written.  The main statement is `read?_write`.
-/

namespace SlashCommands.Toml

/-- Holds of the keys that stand without quotes. -/
def IsBareKey (key : String) : Prop :=
  key.toList ≠ [] ∧ key.toList.all isBareKeyChar

instance (key : String) : Decidable (IsBareKey key) :=
  inferInstanceAs (Decidable (_ ∧ _))

/-- The keys of a table. -/
def Section.keys (s : Section) : List String :=
  s.entries.map (·.1)

/-- Holds of the tables that are read back. -/
structure Section.IsWritable (s : Section) : Prop where
  name : IsBareKey s.name
  key : ∀ key ∈ s.keys, IsBareKey key
  value : ∀ e ∈ s.entries, IsScalar e.2
  nodup : s.keys.Nodup

/-! ### Lines -/

/-- Holds of a text and the lines that it spells. -/
inductive SpellsLines : List Char → List Line → Prop
  | nil : SpellsLines [] []
  | empty {s : List Char} {lines : List Line} (h : SpellsLines s lines) :
    SpellsLines ('\n' :: s) lines
  | table {name : String} {s : List Char} {lines : List Line} (hname : IsBareKey name)
    (h : SpellsLines s lines) :
    SpellsLines ('[' :: (name.toList ++ ']' :: '\n' :: s)) (.table ⟨[], name⟩ :: lines)
  | pair {key : String} {value : Datum} {s : List Char} {lines : List Line} (hkey : IsBareKey key)
    (hvalue : IsScalar value) (h : SpellsLines s lines) :
    SpellsLines
      (key.toList ++ ' ' :: '=' :: ' ' :: ((scalar value).toList ++ '\n' :: s))
      (.pair ⟨[], key⟩ value :: lines)

theorem IsBareKey.isBareKeyChar {key : String} (h : IsBareKey key) :
    ∀ c ∈ key.toList, isBareKeyChar c :=
  List.all_eq_true.mp h.2

theorem IsBareKey.exists_cons {key : String} (h : IsBareKey key) :
    ∃ c tail, key.toList = c :: tail ∧ Toml.isBareKeyChar c := by
  cases hkey : key.toList with
  | nil => exact absurd hkey h.1
  | cons c tail => exact ⟨c, tail, rfl, h.isBareKeyChar c (hkey ▸ List.mem_cons_self)⟩

/-- A character that starts a line starts neither blanks, a comment nor an empty line. -/
theorem skipSpace_cons {c : Char} (hc : isSpace c = false) (s : List Char) :
    skipSpace (c :: s) = c :: s := by
  rw [skipSpace, List.dropWhile_cons_of_neg (by rw [hc]; exact Bool.false_ne_true)]

theorem isSpace_of_isBareKeyChar {c : Char} (hc : isBareKeyChar c) : isSpace c = false :=
  isSpace_eq_false_iff.mpr ⟨ne_of_holds hc rfl, ne_of_holds hc rfl⟩

/-- A bare key is read up to what cannot be part of it. -/
theorem readSimpleKey?_append {key : String} (h : IsBareKey key) {c : Char}
    (hc : isBareKeyChar c = false) (rest : List Char) :
    readSimpleKey? (key.toList ++ c :: rest) = some (key, c :: rest) := by
  obtain ⟨d, tail, hkey, hd⟩ := h.exists_cons
  have hstop : (key.toList ++ c :: rest).takeWhile isBareKeyChar = key.toList ∧
      (key.toList ++ c :: rest).dropWhile isBareKeyChar = c :: rest := by
    have hneg : ¬ isBareKeyChar c := by
      rw [hc]
      exact Bool.false_ne_true
    rw [List.takeWhile_append_of_pos h.isBareKeyChar, List.dropWhile_append_of_pos h.isBareKeyChar,
      List.takeWhile_cons_of_neg hneg, List.dropWhile_cons_of_neg hneg, List.append_nil]
    exact ⟨rfl, rfl⟩
  unfold readSimpleKey?
  split
  · next heq =>
    rw [hkey, List.cons_append] at heq
    exact absurd (List.cons.inj heq).1 (ne_of_holds hd rfl)
  · next heq =>
    rw [hkey, List.cons_append] at heq
    exact absurd (List.cons.inj heq).1 (ne_of_holds hd rfl)
  · dsimp only
    rw [hstop.1, hstop.2, if_neg (mt List.isEmpty_iff.mp h.1), String.ofList_toList]

/-- A bare key without a point after it is a path of its own. -/
theorem readKeyPath?_append {key : String} (h : IsBareKey key) {c : Char}
    (hc : isBareKeyChar c = false) {rest after : List Char} (hafter : skipSpace (c :: rest) = after)
    (hpoint : after.head? ≠ some '.') :
    readKeyPath? (key.toList ++ c :: rest) = some (⟨[], key⟩, after) := by
  have hskip : skipSpace (key.toList ++ c :: rest) = key.toList ++ c :: rest := by
    obtain ⟨d, tail, hkey, hd⟩ := h.exists_cons
    rw [hkey, List.cons_append, skipSpace_cons (isSpace_of_isBareKeyChar hd)]
  have hkeys (fuel : Nat) :
      readKeys? (fuel + 1) (key.toList ++ c :: rest) = some ([key], after) := by
    rw [readKeys?, hskip, readSimpleKey?_append h hc, Option.bind_eq_bind, Option.bind_some]
    dsimp only
    rw [hafter]
    split
    · exact absurd rfl hpoint
    · rfl
  rw [readKeyPath?, show depthLimit - 1 = 78 + 1 from rfl, hkeys]
  rfl

theorem readLineItem?_table {name : String} (hname : IsBareKey name) (rest : List Char) :
    readLineItem? ('[' :: (name.toList ++ ']' :: '\n' :: rest)) =
      some (.table ⟨[], name⟩, rest) := by
  have hpath : readKeyPath? (name.toList ++ ']' :: '\n' :: rest) =
      some (⟨[], name⟩, ']' :: '\n' :: rest) :=
    readKeyPath?_append hname rfl rfl (mt Option.some.inj (by decide))
  -- a bare key starts with no bracket, so this is no header of an array
  obtain ⟨c, tail, hcons, hc⟩ := hname.exists_cons
  rw [hcons, List.cons_append] at hpath ⊢
  unfold readLineItem?
  split
  · next heq => exact absurd (List.cons.inj (List.cons.inj heq).2).1 (ne_of_holds hc rfl)
  · next heq =>
    cases heq
    rw [hpath]
    rfl
  · next _ hno => exact absurd rfl (hno _)

theorem skipSpace_of_readString? {s : List Char} {read : String × List Char}
    (h : readString? s = some read) : skipSpace s = s := by
  unfold readString? at h
  split at h
  · rfl
  · rfl
  · rfl
  · rfl
  · cases h

/-- The blank between a key and its value is not the value's. -/
theorem skipSpace_scalar {value : Datum} (h : IsScalar value) (rest : List Char) :
    skipSpace ((scalar value).toList ++ '\n' :: rest) = (scalar value).toList ++ '\n' :: rest := by
  cases h with
  | text s => exact skipSpace_of_readString? (readString?_line s rest)
  | bool b => cases b <;> rfl
  | @int n _ =>
    obtain ⟨c, s, hs, hc⟩ := exists_intText_toList_eq_cons n
    have hspace : isSpace c = false := by
      rw [isSpace_eq_false_iff]
      rcases hc with hc | rfl
      · exact ⟨ne_of_holds hc rfl, ne_of_holds hc rfl⟩
      · decide
    show skipSpace ((Json.intText n).toList ++ '\n' :: rest) =
      (Json.intText n).toList ++ '\n' :: rest
    rw [hs, List.cons_append, skipSpace_cons hspace]

theorem readLineItem?_pair {key : String} (hkey : IsBareKey key) {value : Datum}
    (hvalue : IsScalar value) (rest : List Char) :
    readLineItem? (key.toList ++ ' ' :: '=' :: ' ' :: ((scalar value).toList ++ '\n' :: rest)) =
      some (.pair ⟨[], key⟩ value, rest) := by
  have hpath : readKeyPath?
      (key.toList ++ ' ' :: '=' :: ' ' :: ((scalar value).toList ++ '\n' :: rest)) =
      some (⟨[], key⟩, '=' :: ' ' :: ((scalar value).toList ++ '\n' :: rest)) :=
    readKeyPath?_append hkey rfl rfl (mt Option.some.inj (by decide))
  have hread (fuel : Nat) : readValue? (fuel + 1) 0
      (skipSpace (' ' :: ((scalar value).toList ++ '\n' :: rest))) = some (value, '\n' :: rest) := by
    show readValue? (fuel + 1) 0 (skipSpace ((scalar value).toList ++ '\n' :: rest)) = _
    rw [skipSpace_scalar hvalue, readValue?_scalar hvalue]
  obtain ⟨c, tail, hcons, hc⟩ := hkey.exists_cons
  rw [hcons, List.cons_append] at hpath ⊢
  unfold readLineItem?
  split
  · next heq => exact absurd (List.cons.inj heq).1 (ne_of_holds hc rfl)
  · next heq => exact absurd (List.cons.inj heq).1 (ne_of_holds hc rfl)
  · rw [hpath]
    show ((readValue? _ 0 _).bind _ : Option (Line × List Char)) = _
    rw [hread]
    rfl

/-! ### Sequences of lines -/

/-- Holds of the characters that the lines of `SpellsLines` start with. -/
def StartsLine (c : Char) : Prop :=
  c = '[' ∨ isBareKeyChar c

theorem StartsLine.ne {c d : Char} (hc : StartsLine c) (hbracket : '[' ≠ d)
    (hkey : isBareKeyChar d = false) : c ≠ d := by
  rcases hc with rfl | hc
  · exact hbracket
  · exact ne_of_holds hc hkey

theorem StartsLine.newline? {c : Char} (hc : StartsLine c) (s : List Char) :
    newline? (c :: s) = none := by
  unfold Toml.newline?
  split
  · next heq => exact absurd (List.cons.inj heq).1 (hc.ne (by decide) rfl)
  · next heq => exact absurd (List.cons.inj heq).1 (hc.ne (by decide) rfl)
  · rfl

theorem StartsLine.skipComment {c : Char} (hc : StartsLine c) (s : List Char) :
    skipComment (c :: s) = c :: s := by
  unfold Toml.skipComment
  split
  · next heq => exact absurd (List.cons.inj heq).1 (hc.ne (by decide) rfl)
  · rfl

/-- A line is read before those that follow it. -/
theorem readLineItems?_cons {c : Char} (hc : StartsLine c) {s rest : List Char} {line : Line}
    (h : readLineItem? (c :: s) = some (line, rest)) (fuel : Nat) :
    readLineItems? (fuel + 1) (c :: s) = (readLineItems? fuel rest).map (line :: ·) := by
  have hspace : isSpace c = false :=
    isSpace_eq_false_iff.mpr ⟨hc.ne (by decide) rfl, hc.ne (by decide) rfl⟩
  rw [readLineItems?, skipSpace_cons hspace, hc.skipComment]
  dsimp only
  rw [hc.newline?, h]
  dsimp only
  rw [Option.bind_eq_bind, Option.bind_some]
  cases readLineItems? fuel rest <;> rfl

/-- The lines that are spelled are read. -/
theorem readLineItems?_of_spellsLines {s : List Char} {lines : List Line} (h : SpellsLines s lines)
    {fuel : Nat} (hfuel : s.length < fuel) : readLineItems? fuel s = some lines := by
  obtain ⟨fuel, rfl⟩ : ∃ n, fuel = n + 1 := ⟨fuel - 1, by omega⟩
  induction h generalizing fuel with
  | nil => rfl
  | empty _ ih =>
    rw [List.length_cons] at hfuel
    obtain ⟨fuel, rfl⟩ : ∃ n, fuel = n + 1 := ⟨fuel - 1, by omega⟩
    exact ih fuel (by omega)
  | @table name s lines hname _ ih =>
    rw [List.length_cons, List.length_append, List.length_cons, List.length_cons] at hfuel
    obtain ⟨fuel, rfl⟩ : ∃ n, fuel = n + 1 := ⟨fuel - 1, by omega⟩
    rw [readLineItems?_cons (.inl rfl) (readLineItem?_table hname s), ih fuel (by omega)]
    rfl
  | @pair key value s lines hkey hvalue _ ih =>
    have hread := readLineItem?_pair hkey hvalue s
    rw [List.length_append, List.length_cons, List.length_cons, List.length_cons,
      List.length_append, List.length_cons] at hfuel
    obtain ⟨fuel, rfl⟩ : ∃ n, fuel = n + 1 := ⟨fuel - 1, by omega⟩
    obtain ⟨c, tail, hcons, hc⟩ := hkey.exists_cons
    rw [hcons, List.cons_append] at hread ⊢
    rw [readLineItems?_cons (.inr hc) hread, ih fuel (by omega)]
    rfl

/-- The lines of a table. -/
def Section.lines (s : Section) : List Line :=
  .table ⟨[], s.name⟩ :: s.entries.map fun e => .pair ⟨[], e.1⟩ e.2

theorem spellsLines_entries {entries : List (String × Datum)}
    (hkey : ∀ e ∈ entries, IsBareKey e.1) (hvalue : ∀ e ∈ entries, IsScalar e.2) {rest : List Char} {lines : List Line}
    (h : SpellsLines rest lines) :
    SpellsLines ((String.join (entries.map fun e => entryLine e.1 e.2)).toList ++ rest)
      ((entries.map fun e => .pair ⟨[], e.1⟩ e.2) ++ lines) := by
  induction entries with
  | nil =>
    show SpellsLines ((String.join []).toList ++ rest) lines
    rw [String.join_nil]
    exact h
  | cons e entries ih =>
    have hrest := ih (fun e' he' => hkey e' (List.mem_cons_of_mem e he'))
      fun e' he' => hvalue e' (List.mem_cons_of_mem e he')
    have hpair := SpellsLines.pair (hkey e List.mem_cons_self) (hvalue e List.mem_cons_self) hrest
    rw [List.map_cons, List.map_cons, String.join_cons, entryLine]
    simp only [String.toList_append, List.append_assoc]
    exact hpair

theorem spellsLines_section {s : Section} (hs : s.IsWritable) {rest : List Char} {lines : List Line}
    (h : SpellsLines rest lines) : SpellsLines (s.text.toList ++ rest) (s.lines ++ lines) := by
  have hkey (e : String × Datum) (he : e ∈ s.entries) : IsBareKey e.1 :=
    hs.key e.1 (List.mem_map_of_mem he)
  have htable := SpellsLines.table hs.name (spellsLines_entries hkey hs.value h)
  rw [Section.text]
  simp only [String.toList_append, List.append_assoc]
  exact htable

theorem spellsLines_write {sections : List Section} (hsections : ∀ s ∈ sections, s.IsWritable) :
    SpellsLines (write sections).toList (sections.flatMap Section.lines) := by
  unfold write
  induction sections with
  | nil => exact .nil
  | cons s sections ih =>
    have hs := hsections s List.mem_cons_self
    have hrest := ih fun s' hs' => hsections s' (List.mem_cons_of_mem s hs')
    rw [List.flatMap_cons]
    cases sections with
    | nil =>
      have h := spellsLines_section hs .nil
      rw [List.append_nil] at h
      exact h
    | cons s' sections =>
      have h := spellsLines_section hs (.empty hrest)
      rw [List.map_cons, List.map_cons, Json.intercalate, String.toList_append,
        String.toList_append, List.append_assoc]
      · exact h
      · exact List.cons_ne_nil _ _

/-! ### Tables -/

theorem Entries.find?_eq_none_iff {key : String} {entries : Entries} :
    entries.find? key = none ↔ key ∉ entries.map (·.1) := by
  rw [Entries.find?, Option.map_eq_none_iff, List.find?_eq_none, List.mem_map, not_exists]
  refine forall_congr' fun e => ?_
  rw [beq_iff_eq, not_and]

theorem Entries.put_of_find?_eq_none {key : String} {entries : Entries}
    (h : entries.find? key = none) (item : Item) :
    entries.put key item = entries ++ [(key, item)] := by
  rw [find?_eq_none_iff] at h
  induction entries with
  | nil => rfl
  | cons e entries ih =>
    rw [List.map_cons, List.mem_cons, not_or] at h
    rw [Entries.put, if_neg (mt beq_iff_eq.mp (Ne.symm h.1)), ih h.2, List.cons_append]

theorem addValue_of_find?_eq_none {key : String} {entries : Entries}
    (h : entries.find? key = none) (datum : Datum) :
    addValue ⟨[], key⟩ datum entries = some (entries ++ [(key, .value datum)]) := by
  show (if (entries.find? key).isSome then none else some (entries.put key (.value datum))) = _
  rw [h, Option.isSome_none, if_neg Bool.false_ne_true, Entries.put_of_find?_eq_none h]

/-- Values under new keys are added in their order. -/
theorem addValues_append (start : Entries) (entries : List (String × Datum))
    (h : (start.map (·.1) ++ entries.map (·.1)).Nodup) :
    addValues start (entries.map fun e => (⟨[], e.1⟩, e.2)) =
      some (start ++ entries.map fun e => (e.1, .value e.2)) := by
  induction entries generalizing start with
  | nil => exact congrArg some (List.append_nil start).symm
  | cons e entries ih =>
    have hnew : start.find? e.1 = none := by
      rw [Entries.find?_eq_none_iff]
      exact fun hmem => (List.nodup_append.mp h).2.2 _ hmem _ List.mem_cons_self rfl
    have hrest : ((start ++ [(e.1, Item.value e.2)]).map (·.1) ++ entries.map (·.1)).Nodup := by
      rw [List.map_append, List.append_assoc]
      exact h
    have hadd := ih _ hrest
    rw [List.append_assoc] at hadd
    rw [addValues, List.map_cons, List.foldlM_cons]
    show (addValue ⟨[], e.1⟩ e.2 start).bind (addValues · _) = _
    rw [addValue_of_find?_eq_none hnew, Option.bind_some]
    exact hadd

theorem addTable_of_find?_eq_none {name : String} {root : Entries} (h : root.find? name = none)
    {values : List (KeyPath × Datum)} {entries : Entries}
    (hvalues : addValues [] values = some entries) :
    addTable ⟨[], name⟩ values root = some (root ++ [(name, .table .header entries)]) := by
  rw [addTable]
  dsimp only [descend]
  rw [h]
  dsimp only
  rw [Option.bind_eq_bind, Option.bind_some, hvalues, Option.bind_some,
    Entries.put_of_find?_eq_none h]
  rfl

/-- What stands in a document for a table. -/
def Section.entry (s : Section) : String × Item :=
  (s.name, .table .header (s.entries.map fun e => (e.1, .value e.2)))

theorem takePairs_append (entries : List (String × Datum)) {rest : List Line}
    (h : takePairs rest = ([], rest)) :
    takePairs ((entries.map fun e => Line.pair ⟨[], e.1⟩ e.2) ++ rest) =
      (entries.map fun e => (⟨[], e.1⟩, e.2), rest) := by
  induction entries with
  | nil => exact h
  | cons e entries ih => rw [List.map_cons, List.map_cons, List.cons_append, takePairs, ih]

/-- No values stand before the first table. -/
theorem takePairs_flatMap_lines (sections : List Section) :
    takePairs (sections.flatMap Section.lines) = ([], sections.flatMap Section.lines) := by
  cases sections <;> rfl

/-- Tables under new names are added in their order. -/
theorem addSections_append {sections : List Section} (hsections : ∀ s ∈ sections, s.IsWritable)
    (root : Entries) (hnodup : (root.map (·.1) ++ sections.map (·.name)).Nodup) {fuel : Nat}
    (hfuel : sections.length ≤ fuel) :
    addSections fuel root (sections.flatMap Section.lines) =
      some (root ++ sections.map Section.entry) := by
  -- the root has the tables before; a step adds one, whose name is none of theirs
  induction sections generalizing root fuel with
  | nil =>
    rw [List.map_nil, List.append_nil]
    cases fuel <;> rfl
  | cons s sections ih =>
    obtain ⟨fuel, rfl⟩ := Nat.exists_eq_add_of_le' (Nat.le_trans (Nat.succ_pos _) hfuel)
    have hnew : root.find? s.name = none := by
      rw [Entries.find?_eq_none_iff]
      exact fun hmem => (List.nodup_append.mp hnodup).2.2 _ hmem _ List.mem_cons_self rfl
    have hvalues := addValues_append [] s.entries (hsections s List.mem_cons_self).nodup
    have hrestnodup : ((root ++ [s.entry]).map (·.1) ++ sections.map (·.name)).Nodup := by
      rw [List.map_append, List.append_assoc]
      exact hnodup
    have hrest := ih (fun s' hs' => hsections s' (List.mem_cons_of_mem s hs'))
      (root ++ [s.entry]) hrestnodup (Nat.le_of_succ_le_succ hfuel)
    rw [List.append_assoc] at hrest
    rw [List.flatMap_cons, Section.lines, List.cons_append, addSections,
      takePairs_append _ (takePairs_flatMap_lines sections)]
    dsimp only
    rw [addTable_of_find?_eq_none hnew hvalues, Option.bind_eq_bind, Option.bind_some]
    exact hrest

theorem entriesData_eq_map (entries : Entries) :
    entriesData entries = entries.map fun e => (e.1, e.2.toDatum) := by
  induction entries with
  | nil => rfl
  | cons e entries ih =>
    rw [entriesData, ih]
    rfl

theorem Section.toDatum_entry (s : Section) : s.entry.2.toDatum = .table s.entries := by
  rw [entry, Item.toDatum, entriesData_eq_map, List.map_map]
  exact congrArg Datum.table (List.map_id s.entries)

/-! ### Documents -/

theorem SpellsLines.ne_mark {s : List Char} {lines : List Line} (h : SpellsLines s lines)
    (rest : List Char) : s ≠ '\ufeff' :: rest := by
  intro heq
  cases h with
  | nil => cases heq
  | empty => exact absurd (List.cons.inj heq).1 (by decide)
  | table => exact absurd (List.cons.inj heq).1 (by decide)
  | pair hkey =>
    obtain ⟨c, tail, hcons, hc⟩ := hkey.exists_cons
    rw [hcons, List.cons_append] at heq
    exact absurd (List.cons.inj heq).1 (ne_of_holds hc rfl)

theorem length_le_length_flatMap_lines (sections : List Section) :
    sections.length ≤ (sections.flatMap Section.lines).length := by
  induction sections with
  | nil => exact Nat.le_refl 0
  | cons s sections ih =>
    rw [List.flatMap_cons, List.length_append, List.length_cons, Section.lines, List.length_cons]
    omega

/-- Tables with distinct names that can be read back are read back from the document that holds
them. -/
theorem read?_write {sections : List Section} (hsections : ∀ s ∈ sections, s.IsWritable)
    (hnodup : (sections.map (·.name)).Nodup) :
    read? (write sections) = some (documentDatum sections) := by
  have hspells := spellsLines_write hsections
  have hbuild : build? (sections.flatMap Section.lines) = some (sections.map Section.entry) := by
    rw [build?, takePairs_flatMap_lines]
    exact addSections_append hsections [] hnodup (length_le_length_flatMap_lines sections)
  have hdatum : entriesData (sections.map Section.entry) =
      sections.map fun s => (s.name, .table s.entries) := by
    rw [entriesData_eq_map, List.map_map]
    exact List.map_congr_left fun s _ => congrArg (s.name, ·) s.toDatum_entry
  unfold read?
  dsimp only
  split
  · next hmark => exact absurd hmark (hspells.ne_mark _)
  · rw [readLineItems?_of_spellsLines hspells (Nat.lt_succ_self _), Option.bind_eq_bind,
      Option.bind_some, hbuild, Option.bind_eq_bind, Option.bind_some, hdatum]
    rfl

end SlashCommands.Toml
