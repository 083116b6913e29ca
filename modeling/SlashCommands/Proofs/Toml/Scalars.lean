import SlashCommands.Proofs.Toml.Strings
import SlashCommands.Text.Integer
import SlashCommands.Toml.Reader
import SlashCommands.Toml.Writer

/-!
# Values that are read back

Texts, truth values and the integers of 64 bits are what a written document holds.  A number at the
end of its line could be taken for the beginning of a date, a time or a double as well; that it is
not is most of the work here.  The main statement is `readValue?_scalar`.
-/

namespace SlashCommands.Toml

/-- Holds of the values that stand on one line and are read back. -/
inductive IsScalar : Datum → Prop
  | text (s : String) : IsScalar (.text s)
  | bool (b : Bool) : IsScalar (.bool b)
  | int {n : Int} (hn : Datum.fitsInt64 n) : IsScalar (.int n)

/-! ### Digits -/

theorem head?_toDigits {n : Nat} (hn : n ≠ 0) : (Nat.toDigits 10 n).head? ≠ some '0' := by
  induction n using Nat.strongRecOn with
  | ind n ih =>
    rw [Nat.toDigits_eq_if (by decide)]
    split
    · exact mt (fun h => Nat.digitChar_eq_zero.mp (Option.some.inj h)) hn
    · next hlarge =>
      have hfront := ih (n / 10) (by omega) (by omega)
      cases hdigits : Nat.toDigits 10 (n / 10) with
      | nil => exact absurd hdigits Nat.toDigits_ne_nil
      | cons c digits =>
        rw [hdigits] at hfront
        exact hfront

/-- Holds if a list of characters is how the digits of a number are written: no zeros lead. -/
structure IsWhole (digits : List Char) (n : Nat) : Prop extends Text.Spells digits n where
  head? : digits ≠ ['0'] → digits.head? ≠ some '0'

theorem isWhole_toDigits (n : Nat) : IsWhole (Nat.toDigits 10 n) n where
  toSpells := Text.spells_toDigits n
  head? hne := by
    refine head?_toDigits ?_
    rintro rfl
    exact hne (Nat.toDigits_zero 10)

theorem readDigits?_line {digits : List Char} (hne : digits ≠ [])
    (hdigits : ∀ c ∈ digits, c.isDigit) (rest : List Char) :
    readDigits? Char.isDigit (digits ++ '\n' :: rest) = some (digits, '\n' :: rest) := by
  induction digits with
  | nil => exact absurd rfl hne
  | cons c digits ih =>
    rw [List.cons_append, readDigits?.eq_def]
    dsimp only
    rw [if_pos (hdigits c List.mem_cons_self)]
    cases digits with
    | nil => rfl
    | cons d digits =>
      have hd := hdigits d (List.mem_cons_of_mem c List.mem_cons_self)
      have hrest := ih (List.cons_ne_nil d digits) fun e he => hdigits e (List.mem_cons_of_mem c he)
      rw [List.cons_append] at hrest ⊢
      split
      · next heq => exact absurd (List.cons.inj heq).1 (ne_of_holds hd rfl)
      · next heq =>
        cases heq
        rw [if_pos hd, hrest]
        rfl
      · next heq => cases heq

theorem readWhole?_line {digits : List Char} {n : Nat} (h : IsWhole digits n) (rest : List Char) :
    readWhole? (digits ++ '\n' :: rest) = some (digits, '\n' :: rest) := by
  by_cases hzero : digits = ['0']
  · rw [hzero]
    rfl
  · have hread := readDigits?_line h.nonempty h.digit rest
    have hhead := h.head? hzero
    cases digits with
    | nil => exact absurd rfl h.nonempty
    | cons c digits =>
      rw [List.cons_append] at hread ⊢
      unfold readWhole?
      split
      · next heq => exact absurd (congrArg some (List.cons.inj heq).1) hhead
      · exact hread

/-! ### What a number is not -/

/-- What follows the digits of a date or a time is a mark, and a number has no marks. -/
theorem readMark?_of_readFixed? {digits rest after : List Char} {count value : Nat} {mark : Char}
    (hdigits : ∀ c ∈ digits, c.isDigit) (hmark : mark.isDigit = false) (hbreak : '\n' ≠ mark)
    (h : readFixed? count (digits ++ '\n' :: rest) = some (value, after)) :
    readMark? mark after = none := by
  unfold readFixed? at h
  dsimp only at h
  split at h
  · next hfixed =>
    rw [Bool.and_eq_true, decide_eq_true_eq] at hfixed
    have hcount : count ≤ digits.length := by
      -- otherwise the line break would be among the digits
      refine Nat.le_of_not_lt fun hlong => ?_
      obtain ⟨k, rfl⟩ := Nat.exists_eq_add_of_lt hlong
      rw [Nat.add_assoc, List.take_length_add_append, List.all_append, Bool.and_eq_true,
        List.take_succ_cons, List.all_cons, Bool.and_eq_true] at hfixed
      exact absurd hfixed.2.2.1 (by decide)
    cases h
    rw [List.drop_append_of_le_length hcount]
    cases hdrop : digits.drop count with
    | nil => exact if_neg (mt beq_iff_eq.mp hbreak)
    | cons c digits' =>
      have hc := hdigits c (List.mem_of_mem_drop (hdrop ▸ List.mem_cons_self))
      exact if_neg (mt beq_iff_eq.mp (ne_of_holds hc hmark))
  · cases h

theorem readFixed?_minus (count : Nat) (s : List Char) :
    readFixed? (count + 1) ('-' :: s) = none := by
  unfold readFixed?
  dsimp only
  rw [List.take_succ_cons, List.all_cons, show ('-').isDigit = false from rfl, Bool.false_and,
    Bool.and_false, if_neg Bool.false_ne_true]

theorem skipDateTime?_minus (s : List Char) : skipDateTime? ('-' :: s) = none := by
  have hdate : skipDate? ('-' :: s) = none := by
    rw [skipDate?, readFixed?_minus 3]
    rfl
  have htime : skipTime? ('-' :: s) = none := by
    rw [skipTime?, readPart?, readFixed?_minus 1]
    rfl
  rw [skipDateTime?, hdate]
  exact htime

theorem skipDateTime?_line {digits : List Char} (hdigits : ∀ c ∈ digits, c.isDigit)
    (rest : List Char) : skipDateTime? (digits ++ '\n' :: rest) = none := by
  have hdate : skipDate? (digits ++ '\n' :: rest) = none := by
    rw [skipDate?]
    cases hfixed : readFixed? 4 (digits ++ '\n' :: rest) with
    | none => rfl
    | some read =>
      have hmark : readMark? '-' read.2 = none :=
        readMark?_of_readFixed? hdigits rfl (by decide) hfixed
      show (readMark? '-' read.2).bind _ = none
      rw [hmark]
      rfl
  have htime : skipTime? (digits ++ '\n' :: rest) = none := by
    rw [skipTime?, readPart?]
    cases hfixed : readFixed? 2 (digits ++ '\n' :: rest) with
    | none => rfl
    | some read =>
      have hmark : readMark? ':' read.2 = none :=
        readMark?_of_readFixed? hdigits rfl (by decide) hfixed
      dsimp only
      split
      · show (readMark? ':' read.2).bind _ = none
        rw [hmark]
        rfl
      · rfl
  rw [skipDateTime?, hdate]
  exact htime

variable {digits : List Char} {n : Nat}

theorem IsWhole.exists_cons (h : IsWhole digits n) :
    ∃ c tail, digits = c :: tail ∧ c.isDigit := by
  cases digits with
  | nil => exact absurd rfl h.nonempty
  | cons c tail => exact ⟨c, tail, rfl, h.digit c List.mem_cons_self⟩

theorem takeSign_line (h : IsWhole digits n) (rest : List Char) :
    takeSign (digits ++ '\n' :: rest) = (false, digits ++ '\n' :: rest) := by
  obtain ⟨c, tail, rfl, hc⟩ := h.exists_cons
  unfold takeSign
  split
  · next heq => exact absurd (List.cons.inj heq).1 (ne_of_holds hc rfl)
  · next heq => exact absurd (List.cons.inj heq).1 (ne_of_holds hc rfl)
  · rfl

/-- A double has a point or an exponent. -/
theorem readFloat?_of_takeSign (h : IsWhole digits n) {s rest : List Char} {negative : Bool}
    (hs : takeSign s = (negative, digits ++ '\n' :: rest)) : readFloat? s = none := by
  have hnamed : readNamed? negative (digits ++ '\n' :: rest) = none := by
    obtain ⟨c, tail, rfl, hc⟩ := h.exists_cons
    unfold readNamed?
    split
    · next heq => exact absurd (List.cons.inj heq).1 (ne_of_holds hc rfl)
    · next heq => exact absurd (List.cons.inj heq).1 (ne_of_holds hc rfl)
    · rfl
  unfold readFloat?
  rw [hs]
  dsimp only
  rw [readWhole?_line h, hnamed]
  rfl

/-! ### Integers -/

theorem foldl_hexDigit? (hdigits : ∀ c ∈ digits, c.isDigit) (value : Nat) :
    digits.foldl (fun value c => 10 * value + (Json.hexDigit? c).getD 0) value =
      Nat.ofDigitChars 10 digits value := by
  induction digits generalizing value with
  | nil => rfl
  | cons c digits ih =>
    have hc : Json.hexDigit? c = some (c.toNat - '0'.toNat) := by
      rw [Json.hexDigit?, if_pos (hdigits c List.mem_cons_self)]
    rw [List.foldl_cons, Nat.ofDigitChars_cons, hc,
      ih fun d hd => hdigits d (List.mem_cons_of_mem c hd)]
    rfl

theorem IsWhole.baseValue (h : IsWhole digits n) : baseValue 10 digits = n := by
  rw [Toml.baseValue, foldl_hexDigit? h.digit, h.value]

/-- Holds of what does not start like an integer to another base. -/
def LacksBase (s : List Char) : Prop :=
  ∀ mark t, s = '0' :: mark :: t → mark.isDigit ∨ mark = '\n'

theorem lacksBase_line (h : IsWhole digits n) (rest : List Char) :
    LacksBase (digits ++ '\n' :: rest) := by
  obtain ⟨c, tail, rfl, -⟩ := h.exists_cons
  intro mark t heq
  cases tail with
  | nil =>
    cases heq
    exact .inr rfl
  | cons d tail =>
    cases heq
    exact .inl (h.digit _ (List.mem_cons_of_mem _ List.mem_cons_self))

theorem readInteger?_of_takeSign (h : IsWhole digits n) {s rest : List Char} {negative : Bool}
    (hs : takeSign s = (negative, digits ++ '\n' :: rest)) (hbase : LacksBase s) :
    readInteger? s = (integer? (if negative then -(n : Int) else n)).map (·, '\n' :: rest) := by
  have hother {mark : Char} {t : List Char} (hdigit : mark.isDigit = false) (hbreak : mark ≠ '\n') :
      s ≠ '0' :: mark :: t := by
    intro heq
    rcases hbase mark t heq with hmark | hmark
    · exact ne_of_holds hmark hdigit rfl
    · exact hbreak hmark
  unfold readInteger?
  split
  · exact absurd rfl (hother rfl (by decide))
  · exact absurd rfl (hother rfl (by decide))
  · exact absurd rfl (hother rfl (by decide))
  · rw [hs]
    dsimp only
    rw [readWhole?_line h, Option.bind_eq_bind, Option.bind_some]
    dsimp only
    rw [h.baseValue]
    cases integer? (if negative then -(n : Int) else n) <;> rfl

theorem readScalar?_of_takeSign (h : IsWhole digits n) {s rest : List Char} {negative : Bool}
    (hs : takeSign s = (negative, digits ++ '\n' :: rest)) (hbase : LacksBase s)
    (htime : skipDateTime? s = none) :
    readScalar? s = (integer? (if negative then -(n : Int) else n)).map (·, '\n' :: rest) := by
  rw [readScalar?, htime]
  dsimp only
  rw [readFloat?_of_takeSign h hs, Option.none_or, readInteger?_of_takeSign h hs hbase]

/-- An integer that fits is read at the end of its line. -/
theorem readScalar?_intText {n : Int} (hn : Datum.fitsInt64 n) (rest : List Char) :
    readScalar? ((Json.intText n).toList ++ '\n' :: rest) = some (.int n, '\n' :: rest) := by
  have hwhole := isWhole_toDigits n.natAbs
  have hdigits : (Decimal.digitText n.natAbs).toList = Nat.toDigits 10 n.natAbs :=
    String.toList_ofList
  have hread : integer? n = some (.int n) := if_pos hn
  unfold Json.intText Decimal.signed
  split
  · next hnegative =>
    have hvalue : -(n.natAbs : Int) = n := by
      rw [decide_eq_true_eq] at hnegative
      omega
    rw [String.toList_append, List.append_assoc, hdigits]
    have hsign : takeSign ('-' :: (Nat.toDigits 10 n.natAbs ++ '\n' :: rest)) =
        (true, Nat.toDigits 10 n.natAbs ++ '\n' :: rest) := rfl
    have hbase : LacksBase ('-' :: (Nat.toDigits 10 n.natAbs ++ '\n' :: rest)) := fun mark t heq =>
      absurd (List.cons.inj heq).1 (by decide)
    refine (readScalar?_of_takeSign hwhole hsign hbase (skipDateTime?_minus _)).trans ?_
    rw [if_pos rfl, hvalue, hread, Option.map_some]
  · next hnegative =>
    have hvalue : (n.natAbs : Int) = n := by
      rw [decide_eq_true_eq] at hnegative
      omega
    rw [hdigits, readScalar?_of_takeSign hwhole (takeSign_line hwhole rest)
      (lacksBase_line hwhole rest) (skipDateTime?_line hwhole.digit rest),
      if_neg Bool.false_ne_true, hvalue, hread, Option.map_some]

/-! ### Values -/

theorem readValue?_of_readString? {s rest : List Char} {text : String}
    (h : readString? s = some (text, rest)) (fuel depth : Nat) :
    readValue? (fuel + 1) depth s = some (.text text, rest) := by
  have hvalue : (readString? s).map (fun read => (Datum.text read.1, read.2)) =
      some (.text text, rest) := by
    rw [h]
    rfl
  rw [← hvalue]
  -- a string starts with a quote, and that is what the reader of values looks at
  unfold readString? at h
  split at h
  · rfl
  · rfl
  · rfl
  · rfl
  · cases h

theorem readValue?_of_number {c : Char} (hc : c.isDigit ∨ c = '-') (s : List Char)
    (fuel depth : Nat) : readValue? (fuel + 1) depth (c :: s) = readScalar? (c :: s) := by
  have hne {d : Char} {t : List Char} (hdigit : d.isDigit = false) (hminus : '-' ≠ d) :
      c :: s ≠ d :: t := by
    intro heq
    rcases hc with hc | rfl
    · exact ne_of_holds hc hdigit (List.cons.inj heq).1
    · exact hminus (List.cons.inj heq).1
  unfold readValue?
  dsimp only
  split
  · next heq => exact absurd heq (hne rfl (by decide))
  · next heq => exact absurd heq (hne rfl (by decide))
  · next heq => exact absurd heq (hne rfl (by decide))
  · next heq => exact absurd heq (hne rfl (by decide))
  · next heq => exact absurd heq (hne rfl (by decide))
  · next heq => exact absurd heq (hne rfl (by decide))
  · rfl

theorem exists_intText_toList_eq_cons (n : Int) :
    ∃ c s, (Json.intText n).toList = c :: s ∧ (c.isDigit ∨ c = '-') := by
  have hdigits : (Decimal.digitText n.natAbs).toList = Nat.toDigits 10 n.natAbs :=
    String.toList_ofList
  unfold Json.intText Decimal.signed
  split
  · exact ⟨'-', _, by rw [String.toList_append]; rfl, .inr rfl⟩
  · obtain ⟨c, tail, htail, hc⟩ := (isWhole_toDigits n.natAbs).exists_cons
    exact ⟨c, tail, hdigits.trans htail, .inl hc⟩

/-- Any value of these kinds is read at the end of its line. -/
theorem readValue?_scalar {value : Datum} (h : IsScalar value) (fuel depth : Nat)
    (rest : List Char) :
    readValue? (fuel + 1) depth ((scalar value).toList ++ '\n' :: rest) =
      some (value, '\n' :: rest) := by
  cases h with
  | text s => exact readValue?_of_readString? (readString?_line s rest) fuel depth
  | bool b => cases b <;> rfl
  | int hn =>
    have hread := readScalar?_intText hn rest
    obtain ⟨c, s, hs, hc⟩ := exists_intText_toList_eq_cons _
    show readValue? (fuel + 1) depth ((Json.intText _).toList ++ '\n' :: rest) = _
    rw [hs, List.cons_append] at hread ⊢
    rw [readValue?_of_number hc, hread]

end SlashCommands.Toml
