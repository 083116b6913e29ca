import SlashCommands.Toml.Quoted
import SlashCommands.Toml.Text

/-!
# Strings that are read back

A text is written in one of four ways, and each of them is read back.  `Writes` says what may stand
for a character between double quotes, which settles strings on one line.  Between three quotes
`SpellsBlock` describes the text piece by piece, with quotes in a row as one piece, and reading
follows the description (`readLines?_of_spellsBlock`).  The main statement is `readString?_quote`.
-/

namespace SlashCommands.Toml

/-! ### Characters -/

/-- Characters are told apart by what one is and the other is not. -/
theorem ne_of_holds {p : Char → Bool} {c d : Char} (hc : p c) (hd : p d = false) : c ≠ d := by
  rintro rfl
  rw [hd] at hc
  exact Bool.false_ne_true hc

theorem isSpace_eq_false_iff {c : Char} : isSpace c = false ↔ c ≠ ' ' ∧ c ≠ '\t' := by
  rw [isSpace, Bool.or_eq_false_iff, beq_eq_false_iff_ne, beq_eq_false_iff_ne]

/-- Holds of what may stand for a character between double quotes: the character itself, a line
break in a block, or an escape. -/
inductive Writes (block : Bool) : Char → List Char → Prop
  | plain {c : Char} (hplain : isPlain c) (hquote : c ≠ '"') (hslash : c ≠ '\\') :
    Writes block c [c]
  | newline (hblock : block) : Writes block '\n' ['\n']
  | escape {c : Char} {letters : List Char}
    (hread : ∀ rest, readEscape? (letters ++ rest) = some (c, rest))
    (hjoin : ∀ rest, skipLines? (letters ++ rest) = none) : Writes block c ('\\' :: letters)

theorem Writes.length_pos {block : Bool} {c : Char} {written : List Char}
    (h : Writes block c written) : 0 < written.length := by
  cases h <;> exact Nat.succ_pos _

/-- No quote stands for itself. -/
theorem Writes.head?_ne {block : Bool} {c : Char} {written : List Char}
    (h : Writes block c written) : written.head? ≠ some '"' := by
  cases h with
  | plain _ hquote => exact mt Option.some.inj hquote
  | newline | escape => exact mt Option.some.inj (by decide)

/-- An escape of one letter, of which no blank is one, is read at once. -/
theorem Writes.letter {block : Bool} {c : Char} {letter : Char}
    (hread : ∀ rest, readEscape? (letter :: rest) = some (c, rest))
    (hjoin : ∀ rest, skipLines? (letter :: rest) = none) : Writes block c ['\\', letter] :=
  .escape hread hjoin

theorem Writes.quote (block : Bool) : Writes block '"' ['\\', '"'] :=
  .letter (fun _ => rfl) fun _ => rfl

/-- The number of a character below `128` is read from its digits. -/
theorem hexValue?_hexFour : ∀ code < 128,
    ((Json.hexFour code).toList.map Char.toUpper).length = 4 ∧
      Json.hexValue? ((Json.hexFour code).toList.map Char.toUpper) = some code := by
  decide +kernel

theorem readEscape?_hexFour {c : Char} (hc : c.toNat < 128) (rest : List Char) :
    readEscape? ('u' :: (Json.hexFour c.toNat).toList.map Char.toUpper ++ rest) =
      some (c, rest) := by
  obtain ⟨hlength, hvalue⟩ := hexValue?_hexFour c.toNat hc
  -- only the number and the value of the digits matter from here on
  generalize (Json.hexFour c.toNat).toList.map Char.toUpper = digits at hlength hvalue ⊢
  have hvalid : c.toNat.isValidChar := c.valid
  have hcode : charOf? c.toNat = some c := by
    rw [charOf?, if_pos hvalid, Char.ofNat_toNat]
  show readEscape?.readCode? 4 (digits ++ rest) = _
  have hlong : ¬ (digits ++ rest).length < 4 := by
    rw [List.length_append]
    omega
  rw [readEscape?.readCode?, if_neg hlong, List.take_left' hlength, List.drop_left' hlength, hvalue,
    Option.bind_some, hcode, Option.map_some]

theorem writes_escapeChar (block : Bool) {c : Char} (hc : c ≠ '"') :
    Writes block c (escapeChar block c).toList := by
  unfold escapeChar
  split
  · exact .letter (fun _ => rfl) fun _ => rfl
  · exact .letter (fun _ => rfl) fun _ => rfl
  · split
    · next hblock => exact .newline hblock
    · exact .letter (fun _ => rfl) fun _ => rfl
  · exact .letter (fun _ => rfl) fun _ => rfl
  · exact .letter (fun _ => rfl) fun _ => rfl
  · exact .letter (fun _ => rfl) fun _ => rfl
  · next hslash =>
    split
    · next hcode =>
      have hlt : c.toNat < 128 := by
        rw [Bool.or_eq_true, decide_eq_true_eq, beq_iff_eq] at hcode
        omega
      have hread := readEscape?_hexFour hlt
      have hlist (digits : List Char) :
          ("\\u" ++ String.ofList digits).toList = '\\' :: ('u' :: digits) := by
        have hdigits : (String.ofList digits).toList = digits := String.toList_ofList
        rw [String.toList_append, hdigits]
        rfl
      rw [hlist]
      generalize (Json.hexFour c.toNat).toList.map Char.toUpper = digits at hread
      exact .escape hread fun _ => rfl
    · next hcode =>
      have hplain : isPlain c := by
        rw [Bool.or_eq_true, decide_eq_true_eq, beq_iff_eq, not_or, Nat.not_lt] at hcode
        rw [isPlain, Bool.or_eq_true, Bool.and_eq_true, decide_eq_true_eq, bne_iff_ne]
        exact .inr hcode
      have hlist : c.toString.toList = [c] := String.toList_singleton c
      rw [hlist]
      exact .plain hplain hc hslash

theorem isPlain_of_not_needsCode {c : Char} (hcode : needsCode c = false) (hbreak : c ≠ '\n') :
    isPlain c := by
  rw [needsCode, Bool.and_eq_false_iff, Bool.and_eq_false_iff, bne_eq_false_iff_eq,
    bne_eq_false_iff_eq, Bool.or_eq_false_iff, decide_eq_false_iff_not, beq_eq_false_iff_ne,
    Nat.not_lt] at hcode
  rw [isPlain, Bool.or_eq_true, Bool.and_eq_true, decide_eq_true_eq, beq_iff_eq, bne_iff_ne]
  rcases hcode with (htab | hline) | hplain
  · exact .inl htab
  · exact absurd hline hbreak
  · exact .inr hplain

theorem newline?_cons_of_isPlain {c : Char} (h : isPlain c) (s : List Char) :
    newline? (c :: s) = none := by
  unfold newline?
  split
  · next heq =>
    cases heq
    cases h
  · next heq =>
    cases heq
    cases h
  · rfl

/-! ### Strings on one line -/

theorem readLine?_of_writes {c : Char} {written : List Char} (h : Writes false c written)
    (fuel : Nat) (s : List Char) :
    readLine? '"' (fuel + 1) (written ++ s) =
      (readLine? '"' fuel s).map fun read => (c :: read.1, read.2) := by
  cases h with
  | plain hplain hquote hslash =>
    rw [List.cons_append, List.nil_append, readLine?, if_neg (mt beq_iff_eq.mp hquote),
      beq_eq_false_iff_ne.mpr hslash, Bool.false_and, if_neg Bool.false_ne_true, if_pos hplain]
  | newline hblock => cases hblock
  | @escape _ letters hread =>
    rw [List.cons_append, readLine?, if_neg (by decide), if_pos (by decide), hread,
      Option.bind_eq_bind, Option.bind_some]
    dsimp only
    cases readLine? '"' fuel s <;> rfl

/-- With escapes every text can stand between double quotes on one line. -/
theorem readLine?_escapeText (s rest : List Char) {run fuel : Nat}
    (hfuel : (escapeText false 0 run s).toList.length < fuel) :
    readLine? '"' fuel ((escapeText false 0 run s).toList ++ '"' :: rest) = some (s, rest) := by
  induction s generalizing run fuel with
  | nil =>
    obtain ⟨fuel, rfl⟩ := Nat.exists_eq_add_of_lt hfuel
    rfl
  | cons c s ih =>
    -- on one line no quote is allowed, so the run of quotes before makes no difference
    have hwrites : ∃ written, Writes false c written ∧
        (escapeText false 0 run (c :: s)).toList =
          written ++ (escapeText false 0 0 s).toList := by
      rw [escapeText]
      split
      · next hquote =>
        rw [if_neg (Nat.not_lt_zero run), String.toList_append, beq_iff_eq.mp hquote]
        exact ⟨_, .quote false, rfl⟩
      · next hquote =>
        rw [String.toList_append]
        exact ⟨_, writes_escapeChar false (mt beq_iff_eq.mpr hquote), rfl⟩
    obtain ⟨written, hwritten, htext⟩ := hwrites
    have hpos := hwritten.length_pos
    rw [htext, List.length_append] at hfuel
    obtain ⟨fuel, rfl⟩ : ∃ n, fuel = n + 1 := ⟨fuel - 1, by omega⟩
    rw [htext, List.append_assoc, readLine?_of_writes hwritten, ih (by omega)]
    rfl

/-- Text without single quotes and control characters stands for itself between single quotes. -/
theorem readLine?_literal {s : List Char} (rest : List Char)
    (h : ∀ c ∈ s, isPlain c ∧ c ≠ '\'') {fuel : Nat} (hfuel : s.length < fuel) :
    readLine? '\'' fuel (s ++ '\'' :: rest) = some (s, rest) := by
  induction s generalizing fuel with
  | nil =>
    obtain ⟨fuel, rfl⟩ := Nat.exists_eq_add_of_lt hfuel
    rfl
  | cons c s ih =>
    obtain ⟨hplain, hquote⟩ := h c List.mem_cons_self
    rw [List.length_cons] at hfuel
    obtain ⟨fuel, rfl⟩ : ∃ n, fuel = n + 1 := ⟨fuel - 1, by omega⟩
    have hrest := ih (fun d hd => h d (List.mem_cons_of_mem c hd)) (show s.length < fuel by omega)
    rw [List.cons_append, readLine?, if_neg (mt beq_iff_eq.mp hquote),
      show ('\'' == '"') = false from rfl, Bool.and_false, if_neg Bool.false_ne_true, if_pos hplain,
      hrest]
    rfl

/-! ### Blocks -/

/-- Holds of the quotes that strings stand between. -/
def IsQuote (c : Char) : Prop :=
  c = '"' ∨ c = '\''

/-- Holds of what stands between three quotes, the closing ones included, and the text that it
spells.  Quotes in a row are one piece; the closing ones are the last three of theirs. -/
inductive SpellsBlock (quote : Char) (rest : List Char) : List Char → List Char → Prop
  | close {count : Nat} (hcount : count < 3) :
    SpellsBlock quote rest (List.replicate (count + 3) quote ++ rest) (List.replicate count quote)
  | quotes {count : Nat} {s text : List Char} (hcount : count < 3) (hs : s.head? ≠ some quote)
    (h : SpellsBlock quote rest s text) :
    SpellsBlock quote rest (List.replicate count quote ++ s) (List.replicate count quote ++ text)
  | written {c : Char} {written s text : List Char} (hquote : quote = '"')
    (hwritten : Writes true c written) (h : SpellsBlock quote rest s text) :
    SpellsBlock quote rest (written ++ s) (c :: text)
  | itself {c : Char} {s text : List Char} (hquote : quote = '\'') (hne : c ≠ '\'')
    (hc : needsCode c = false) (h : SpellsBlock quote rest s text) :
    SpellsBlock quote rest (c :: s) (c :: text)

/-- Quotes in a row are read at once. -/
theorem readLines?_replicate {quote : Char} (hquote : IsQuote quote) {count : Nat}
    (hpos : 0 < count) {s : List Char} (hs : s.head? ≠ some quote) (fuel : Nat) :
    readLines? quote (fuel + 1) (List.replicate count quote ++ s) =
      if count < 3 then
        (readLines? quote fuel s).map fun read => (List.replicate count quote ++ read.1, read.2)
      else if count < 6 then some (List.replicate (count - 3) quote, s)
      else none := by
  obtain ⟨n, rfl⟩ : ∃ n, count = n + 1 := ⟨count - 1, by omega⟩
  have htake : (List.replicate (n + 1) quote ++ s).takeWhile (· == quote) =
      List.replicate (n + 1) quote := by
    have hend : s.takeWhile (· == quote) = [] := by
      cases s with
      | nil => rfl
      | cons c s =>
        have hne : (c == quote) = false := beq_eq_false_iff_ne.mpr fun h => hs (congrArg some h)
        rw [List.takeWhile_cons_of_neg (by rw [hne]; exact Bool.false_ne_true)]
    rw [List.takeWhile_append_of_pos fun c hc => beq_iff_eq.mpr (List.eq_of_mem_replicate hc), hend,
      List.append_nil]
  have hnewline : newline? (quote :: (List.replicate n quote ++ s)) = none := by
    rcases hquote with rfl | rfl <;> rfl
  rw [List.replicate_succ, List.cons_append] at htake ⊢
  rw [readLines?, hnewline]
  dsimp only
  rw [if_pos (beq_self_eq_true quote), htake, List.length_cons, List.length_replicate,
    List.drop_succ_cons, List.drop_left' List.length_replicate]
  rfl

theorem readLines?_of_writes {c : Char} {written : List Char} (h : Writes true c written)
    (fuel : Nat) (s : List Char) :
    readLines? '"' (fuel + 1) (written ++ s) =
      (readLines? '"' fuel s).map fun read => (c :: read.1, read.2) := by
  cases h with
  | plain hplain hquote hslash =>
    rw [List.cons_append, List.nil_append, readLines?, newline?_cons_of_isPlain hplain]
    dsimp only
    rw [if_neg (mt beq_iff_eq.mp hquote), beq_eq_false_iff_ne.mpr hslash, Bool.false_and,
      if_neg Bool.false_ne_true, if_pos hplain]
  | newline => rfl
  | @escape _ letters hread hjoin =>
    rw [List.cons_append, readLines?, newline?_cons_of_isPlain (by decide)]
    dsimp only
    rw [if_neg (by decide), if_pos (by decide), hjoin]
    dsimp only
    rw [hread, Option.bind_eq_bind, Option.bind_some]
    cases readLines? '"' fuel s <;> rfl

theorem readLines?_itself {c : Char} (hne : c ≠ '\'') (hc : needsCode c = false) (fuel : Nat)
    (s : List Char) :
    readLines? '\'' (fuel + 1) (c :: s) =
      (readLines? '\'' fuel s).map fun read => (c :: read.1, read.2) := by
  by_cases hbreak : c = '\n'
  · rw [hbreak]
    rfl
  · have hplain := isPlain_of_not_needsCode hc hbreak
    rw [readLines?, newline?_cons_of_isPlain hplain]
    dsimp only
    rw [if_neg (mt beq_iff_eq.mp hne), show ('\'' == '"') = false from rfl, Bool.and_false,
      if_neg Bool.false_ne_true, if_pos hplain]

/-- What is described is read. -/
theorem readLines?_of_spellsBlock {quote : Char} (hquote : IsQuote quote) {rest s text : List Char}
    (hrest : rest.head? ≠ some quote) (h : SpellsBlock quote rest s text) {fuel : Nat}
    (hfuel : s.length < fuel) : readLines? quote fuel s = some (text, rest) := by
  obtain ⟨fuel, rfl⟩ : ∃ n, fuel = n + 1 := ⟨fuel - 1, by omega⟩
  induction h generalizing fuel with
  | close hcount =>
    rw [readLines?_replicate hquote (Nat.succ_pos _) hrest, if_neg (by omega), if_pos (by omega)]
    rfl
  | @quotes count s text hcount hs _ ih =>
    rw [List.length_append, List.length_replicate] at hfuel
    -- no quotes at all are no step of the reader
    rcases count.eq_zero_or_pos with rfl | hpos
    · exact ih fuel (by omega)
    · obtain ⟨fuel, rfl⟩ : ∃ n, fuel = n + 1 := ⟨fuel - 1, by omega⟩
      rw [readLines?_replicate hquote hpos hs, if_pos hcount, ih fuel (by omega)]
      rfl
  | written heq hwritten _ ih =>
    subst heq
    have hpos := hwritten.length_pos
    rw [List.length_append] at hfuel
    obtain ⟨fuel, rfl⟩ : ∃ n, fuel = n + 1 := ⟨fuel - 1, by omega⟩
    rw [readLines?_of_writes hwritten, ih fuel (by omega)]
    rfl
  | itself heq hne hc _ ih =>
    subst heq
    rw [List.length_cons] at hfuel
    obtain ⟨fuel, rfl⟩ : ∃ n, fuel = n + 1 := ⟨fuel - 1, by omega⟩
    rw [readLines?_itself hne hc, ih fuel (by omega)]
    rfl

/-- Quotes before the closing ones are text. -/
theorem spellsBlock_close (quote : Char) (rest : List Char) {run : Nat} (hrun : run < 3) :
    SpellsBlock quote rest (List.replicate run quote ++ (quote :: quote :: quote :: rest))
      (List.replicate run quote ++ []) := by
  have h : SpellsBlock quote rest _ _ := .close hrun
  rw [← List.replicate_append_replicate, List.append_assoc] at h
  rw [List.append_nil]
  exact h

/-- With escapes every text can stand in a block between double quotes. -/
theorem spellsBlock_escapeText (rest s : List Char) {run : Nat} (hrun : run < 3) :
    SpellsBlock '"' rest
      (List.replicate run '"' ++ ((escapeText true 2 run s).toList ++ ('"' :: '"' :: '"' :: rest)))
      (List.replicate run '"' ++ s) := by
  induction s generalizing run with
  | nil => exact spellsBlock_close '"' rest hrun
  | cons c s ih =>
    -- what is written for a character is no quote, and so ends the run before it
    have hescaped {written : List Char} (hwritten : Writes true c written)
        (hhead : written.head? ≠ some '"') :
        SpellsBlock '"' rest
          (List.replicate run '"' ++
            (written ++ ((escapeText true 2 0 s).toList ++ ('"' :: '"' :: '"' :: rest))))
          (List.replicate run '"' ++ c :: s) := by
      refine .quotes hrun ?_ (.written rfl hwritten (@ih 0 (by decide)))
      cases written with
      | nil => cases hwritten
      | cons d written => exact hhead
    rw [escapeText]
    split
    · next hquote =>
      rw [beq_iff_eq] at hquote
      subst hquote
      split
      · next hallowed =>
        have h := ih (Nat.succ_lt_succ hallowed)
        rw [List.replicate_succ', List.append_assoc, List.append_assoc] at h
        rw [String.toList_append, List.append_assoc]
        exact h
      · rw [String.toList_append, List.append_assoc]
        exact hescaped (.quote true) (by decide)
    · next hquote =>
      rw [beq_iff_eq] at hquote
      have hwritten := writes_escapeChar true hquote
      rw [String.toList_append, List.append_assoc]
      exact hescaped hwritten hwritten.head?_ne

theorem spellsBlock_literal (rest : List Char) {s : List Char} (hs : ∀ c ∈ s, needsCode c = false)
    {run : Nat} (hrun : longestRun.go '\'' run s < 3) :
    SpellsBlock '\'' rest (List.replicate run '\'' ++ (s ++ '\'' :: '\'' :: '\'' :: rest))
      (List.replicate run '\'' ++ s) := by
  induction s generalizing run with
  | nil => exact spellsBlock_close '\'' rest hrun
  | cons c s ih =>
    replace ih {run : Nat} (hrun : longestRun.go '\'' run s < 3) :=
      ih (fun d hd => hs d (List.mem_cons_of_mem c hd)) hrun
    rw [longestRun.go] at hrun
    split at hrun
    · next hquote =>
      have h := ih hrun
      rw [List.replicate_succ', List.append_assoc, List.append_assoc] at h
      rw [beq_iff_eq.mp hquote]
      exact h
    · next hquote =>
      rw [beq_iff_eq] at hquote
      have hbefore := Nat.lt_of_le_of_lt (Nat.le_max_left ..) hrun
      have hrest := ih (Nat.lt_of_le_of_lt (Nat.le_max_right ..) hrun)
      have hhead : (c :: (s ++ '\'' :: '\'' :: '\'' :: rest)).head? ≠ some '\'' :=
        mt Option.some.inj hquote
      exact .quotes hbefore hhead (.itself rfl hquote (hs c List.mem_cons_self) hrest)

/-- Text without line breaks does not start a block with one. -/
theorem newline?_of_spellsBlock {quote : Char} (hquote : IsQuote quote) {rest s text : List Char}
    (h : SpellsBlock quote rest s text) (htext : '\n' ∉ text) : newline? s = none := by
  have hplain : isPlain quote := by
    rcases hquote with rfl | rfl <;> rfl
  induction h with
  | close => exact newline?_cons_of_isPlain hplain _
  | @quotes count s text _ _ _ ih =>
    cases count with
    | zero => exact ih htext
    | succ n => exact newline?_cons_of_isPlain hplain _
  | written _ hwritten =>
    cases hwritten with
    | plain hc => exact newline?_cons_of_isPlain hc _
    | newline => exact absurd List.mem_cons_self htext
    | escape => rfl
  | itself _ _ hc =>
    exact newline?_cons_of_isPlain
      (isPlain_of_not_needsCode hc fun heq => htext (heq ▸ List.mem_cons_self)) _

/-- A block is read, with an empty first line if its text has line breaks. -/
theorem readBlock?_of_spellsBlock {quote : Char} (hquote : IsQuote quote) {rest s : List Char}
    (hrest : rest.head? ≠ some quote) {text : String} (h : SpellsBlock quote rest s text.toList) :
    readBlock? quote ((if text.toList.contains '\n' then "\n" else "").toList ++ s) =
      some (text, rest) := by
  have hbody : (newline? ((if text.toList.contains '\n' then "\n" else "").toList ++ s)).getD
      ((if text.toList.contains '\n' then "\n" else "").toList ++ s) = s := by
    split
    · rfl
    · next hbreaks =>
      rw [List.contains_iff_mem] at hbreaks
      show (newline? s).getD s = s
      rw [newline?_of_spellsBlock hquote h hbreaks, Option.getD_none]
  unfold readBlock?
  dsimp only
  rw [hbody, readLines?_of_spellsBlock hquote hrest h (Nat.lt_succ_self _), Option.map_some,
    String.ofList_toList]

/-! ### The choice of a way to write -/

theorem le_longestRun_go (c : Char) (s : List Char) (run : Nat) : run ≤ longestRun.go c run s := by
  induction s generalizing run with
  | nil => exact Nat.le_refl run
  | cons d s ih =>
    rw [longestRun.go]
    split
    · exact Nat.le_trans (Nat.le_succ run) (ih (run + 1))
    · exact Nat.le_max_left ..

theorem not_mem_of_longestRun_eq_zero {c : Char} {s : List Char} (h : longestRun c s = 0) :
    c ∉ s := by
  rw [longestRun] at h
  induction s with
  | nil => exact List.not_mem_nil
  | cons d s ih =>
    rw [longestRun.go] at h
    split at h
    · have hpos : 1 ≤ longestRun.go c (0 + 1) s := le_longestRun_go c s 1
      omega
    · next hne =>
      rw [beq_iff_eq] at hne
      rw [Nat.zero_max] at h
      rw [List.mem_cons, not_or]
      exact ⟨fun heq => hne heq.symm, ih h⟩

/-- What a way to write asks of the text.  Between double quotes anything can be written. -/
def Style.Suits (s : List Char) : Style → Prop
  | .basic | .basicBlock => True
  | .literal => (∀ c ∈ s, needsCode c = false) ∧ '\'' ∉ s ∧ '\n' ∉ s
  | .literalBlock => (∀ c ∈ s, needsCode c = false) ∧ longestRun '\'' s < 3

theorem Style.choose_suits (s : List Char) : (Style.choose s).Suits s := by
  have hcode (h : s.any needsCode = false) : ∀ c ∈ s, needsCode c = false := by
    rw [List.any_eq_false] at h
    exact fun c hc => Bool.eq_false_iff.mpr (h c hc)
  unfold choose
  dsimp only
  split
  · trivial
  split
  · next h =>
    rw [Bool.and_eq_true, Bool.and_eq_true, Bool.not_eq_true', Bool.not_eq_true', beq_iff_eq] at h
    have hbreak : '\n' ∉ s := by
      rw [← List.contains_iff_mem, h.2]
      exact Bool.false_ne_true
    exact ⟨hcode h.1.1, not_mem_of_longestRun_eq_zero h.1.2, hbreak⟩
  split
  · trivial
  split
  · next h =>
    rw [Bool.and_eq_true, Bool.not_eq_true', decide_eq_true_eq] at h
    exact ⟨hcode h.1, Nat.lt_succ_of_le h.2⟩
  split
  · trivial
  · trivial

/-! ### Strings -/

/-- A string on one line is read, if no quote follows it: only then do two quotes at its front not
open a block. -/
theorem readString?_of_readLine? {q : Char} (hq : IsQuote q) {s rest : List Char} {text : String}
    (hread : readLine? q (s.length + 1) s = some (text.toList, rest))
    (hrest : rest.head? ≠ some q) : readString? (q :: s) = some (text, rest) := by
  have hquoted : readQuoted? q s = some (text, rest) := by
    rw [readQuoted?, hread]
    exact congrArg (fun t => some (t, rest)) String.ofList_toList
  have hblock (t : List Char) : s ≠ q :: q :: t := by
    -- the first of these would close an empty string, and the second would follow it
    rintro rfl
    rw [readLine?, if_pos (beq_self_eq_true q)] at hread
    exact hrest (congrArg (fun read => read.2.head?) (Option.some.inj hread)).symm
  rcases hq with rfl | rfl
  · unfold readString?
    split
    · next heq => exact absurd (List.cons.inj heq).2 (hblock _)
    · next heq => exact absurd (List.cons.inj heq).1 (by decide)
    · next heq => rw [← (List.cons.inj heq).2, hquoted]
    · next heq => exact absurd (List.cons.inj heq).1 (by decide)
    · next h _ => exact absurd rfl (h _)
  · unfold readString?
    split
    · next heq => exact absurd (List.cons.inj heq).1 (by decide)
    · next heq => exact absurd (List.cons.inj heq).2 (hblock _)
    · next heq => exact absurd (List.cons.inj heq).1 (by decide)
    · next heq => rw [← (List.cons.inj heq).2, hquoted]
    · next h => exact absurd rfl (h _)

/-- A written text is read back, if no quote follows it. -/
theorem readString?_quote (text : String) {rest : List Char}
    (hrest : ∀ q, IsQuote q → rest.head? ≠ some q) :
    readString? ((quote text).toList ++ rest) = some (text, rest) := by
  have hdouble : IsQuote '"' := .inl rfl
  have hsingle : IsQuote '\'' := .inr rfl
  have hsuits := Style.choose_suits text.toList
  unfold quote
  dsimp only
  split
  · rw [String.toList_append, String.toList_append, List.append_assoc, List.append_assoc]
    refine readString?_of_readLine? hdouble (readLine?_escapeText _ rest ?_) (hrest '"' hdouble)
    show _ < ((escapeText false 0 0 text.toList).toList ++ '"' :: rest).length + 1
    rw [List.length_append]
    exact Nat.lt_succ_of_le (Nat.le_add_right ..)
  · next hstyle =>
    rw [hstyle] at hsuits
    obtain ⟨hcode, hquote, hbreak⟩ := hsuits
    have hplain (c : Char) (hc : c ∈ text.toList) : isPlain c ∧ c ≠ '\'' :=
      ⟨isPlain_of_not_needsCode (hcode c hc) (ne_of_mem_of_not_mem hc hbreak),
        ne_of_mem_of_not_mem hc hquote⟩
    rw [String.toList_append, String.toList_append, List.append_assoc, List.append_assoc]
    refine readString?_of_readLine? hsingle (readLine?_literal rest hplain ?_) (hrest '\'' hsingle)
    show _ < (text.toList ++ '\'' :: rest).length + 1
    rw [List.length_append]
    exact Nat.lt_succ_of_le (Nat.le_add_right ..)
  · have hread := readBlock?_of_spellsBlock hdouble (hrest '"' hdouble)
      (spellsBlock_escapeText rest text.toList (by decide : 0 < 3))
    rw [String.toList_append, String.toList_append, String.toList_append, List.append_assoc,
      List.append_assoc, List.append_assoc]
    exact hread
  · next hstyle =>
    rw [hstyle] at hsuits
    have hread := readBlock?_of_spellsBlock hsingle (hrest '\'' hsingle)
      (spellsBlock_literal rest hsuits.1 hsuits.2)
    rw [String.toList_append, String.toList_append, String.toList_append, List.append_assoc,
      List.append_assoc, List.append_assoc]
    exact hread

/-- A written text is read back at the end of its line. -/
theorem readString?_line (text : String) (rest : List Char) :
    readString? ((quote text).toList ++ '\n' :: rest) = some (text, '\n' :: rest) := by
  refine readString?_quote text fun q hq => ?_
  rcases hq with rfl | rfl <;> exact mt Option.some.inj (by decide)

end SlashCommands.Toml
