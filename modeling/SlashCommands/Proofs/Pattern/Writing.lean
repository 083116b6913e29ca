import Mathlib.Data.List.Infix
import SlashCommands.Proofs.Pattern.Grammar

/-!
# Writing patterns

A declaration is written as a pattern: a subcommand as a word, arguments and flags as groups, with
blanks between them (`Pattern.Item.Writes`, `Pattern.Joined`).  The main statement,
`Pattern.tokens_of_written`, says that however a declaration is written, reading the pattern gives
its tokens.

The names, the texts of flags and the datatypes have to be such that they can be written
(`Pattern.Plain`, `Pattern.Item.Writable`).  Within a group a name ends at the first colon that a
blank follows, and a plus sign stands for a blank; the proofs go through the text of a group without
its brackets, `Pattern.bare`, which is the same for all ways to write it (`Pattern.bare_group`).
-/

namespace SlashCommands.Pattern

open Text (isBlank IsTrimmed trimChars splitOnce)

/-- The characters that have a meaning in a group. -/
def marks : List Char := ['<', '>', '[', ']', '(', ')', '+']

/-- What comes between a name and a datatype. -/
def separator : List Char := [':', ' ']

/-- Holds of texts without brackets and plus signs. -/
def Unmarked (text : List Char) : Prop :=
  ∀ c ∈ text, c ∉ marks

/-- Holds of texts that stand for themselves in a group: without brackets and plus signs, and
without blanks at the ends. -/
structure Plain (text : List Char) : Prop where
  unmarked : Unmarked text
  trimmed : IsTrimmed text

instance (text : List Char) : Decidable (Unmarked text) :=
  List.decidableBAll (fun c => c ∉ marks) text

instance (text : List Char) : Decidable (Plain text) :=
  decidable_of_iff (Unmarked text ∧ IsTrimmed text) ⟨fun h => ⟨h.1, h.2⟩, fun h => ⟨h.1, h.2⟩⟩

/-- The ways to write a text: its spaces as they are or as plus signs, the rest as it is. -/
def Spells (written text : List Char) : Prop :=
  List.Forall₂ (fun w c => w = c ∨ w = '+' ∧ c = ' ') written text

instance (written text : List Char) : Decidable (Spells written text) :=
  inferInstanceAs (Decidable (List.Forall₂ _ written text))

/-- How a datatype is written behind a name. -/
def typeSuffix : Option String → List Char
  | none => []
  | some datatype => separator ++ datatype.toList

/-- The datatype that is declared: in lower case, and `string` if there is none. -/
def declaredType : Option String → String
  | none => "string"
  | some datatype => Text.lowerText datatype

/-! ### Items and selectors -/

/-- An argument or a flag to be declared. -/
inductive Item
  | argument (optional : Bool) (name : String) (datatype : Option String)
  | flag (name text : String) (datatype : Option String)

namespace Item

/-- The ways to write an item. -/
inductive Writes : Item → List Char → Prop
  | required {name : String} {datatype : Option String} {written : List Char}
      (h : Spells written name.toList) :
      Writes (.argument false name datatype) ('<' :: (written ++ typeSuffix datatype ++ ['>']))
  | optional {name : String} {datatype : Option String} {written : List Char}
      (h : Spells written name.toList) :
      Writes (.argument true name datatype) ('[' :: (written ++ typeSuffix datatype ++ [']']))
  | flag {name : String} {datatype : Option String} :
      Writes (.flag name "" datatype) ('(' :: ('-' :: name.toList ++ typeSuffix datatype ++ [')']))
  | flagWithText {name text : String} {datatype : Option String} {written : List Char}
      (hne : text ≠ "") (h : Spells written text.toList) :
      Writes (.flag name text datatype)
        ('(' :: ('-' :: name.toList ++ ' ' :: written ++ typeSuffix datatype ++ [')']))

/-- The token that an item declares at a position. -/
def token (position : Nat) : Item → Token
  | .argument optional name datatype =>
    ⟨.arg, optional, name, declaredType datatype, none, position⟩
  | .flag name text datatype => ⟨.flag, true, name, declaredType datatype, some text, position⟩

/-- The datatype of an item, if it has one. -/
def datatype : Item → Option String
  | .argument _ _ datatype => datatype
  | .flag _ _ datatype => datatype

/-- What stands in the group of an item before the datatype, when spaces are written as they are. -/
def content : Item → List Char
  | .argument _ name _ => name.toList
  | .flag name text _ =>
    '-' :: (if text = "" then name.toList else name.toList ++ ' ' :: text.toList)

/-- Holds of datatypes that can be written. -/
def WritableType (datatype : Option String) : Prop :=
  ∀ d ∈ datatype, d ≠ "" ∧ Plain d.toList

instance (datatype : Option String) : Decidable (WritableType datatype) :=
  inferInstanceAs (Decidable (∀ d ∈ datatype, d ≠ "" ∧ Plain d.toList))

/-- Holds of items that can be written.  A name must not seem to end before its end, and no more a
flag with its text; the name of a flag ends at the first blank. -/
def Writable : Item → Prop
  | .argument _ name datatype =>
    name ≠ "" ∧ Plain name.toList ∧ ¬ separator <:+: name.toList ∧ WritableType datatype
  | .flag name text datatype =>
    name ≠ "" ∧ Plain name.toList ∧ (∀ c ∈ name.toList, isBlank c = false) ∧
      name.toList.head? ≠ some '-' ∧ Plain text.toList ∧
      (text ≠ "" → ¬ separator <:+: name.toList ++ ' ' :: text.toList) ∧ WritableType datatype

instance : DecidablePred Writable
  | .argument .. => inferInstanceAs (Decidable (_ ∧ _ ∧ _ ∧ _))
  | .flag name .. =>
    have : Decidable (∀ c ∈ name.toList, isBlank c = false) := List.decidableBAll _ _
    inferInstanceAs (Decidable (_ ∧ _ ∧ _ ∧ _ ∧ _ ∧ _ ∧ _))

end Item

/-- The word that selects a subcommand: its name, with plus signs for spaces. -/
def selectorWord (name : String) : List Char :=
  name.toList.map fun c => if c = ' ' then '+' else c

/-- Holds of the names of subcommands that can be written as a word. -/
structure WritableSelector (name : String) : Prop where
  ne_empty : name ≠ ""
  plain : Plain name.toList
  blank : ∀ c ∈ name.toList, isBlank c → c = ' '
  separated : ¬ separator <:+: name.toList

instance : DecidablePred WritableSelector := fun name =>
  have : Decidable (∀ c ∈ name.toList, isBlank c → c = ' ') := List.decidableBAll _ _
  decidable_of_iff
    (name ≠ "" ∧ Plain name.toList ∧ (∀ c ∈ name.toList, isBlank c → c = ' ') ∧
      ¬ separator <:+: name.toList)
    ⟨fun ⟨h₁, h₂, h₃, h₄⟩ => ⟨h₁, h₂, h₃, h₄⟩, fun ⟨h₁, h₂, h₃, h₄⟩ => ⟨h₁, h₂, h₃, h₄⟩⟩

/-- The tokens of a declaration. -/
def declaredTokens (selector : Option String) (items : List Item) : List Token :=
  match selector with
  | none => items.zipIdx.map fun item => item.1.token item.2
  | some name =>
    ⟨.command, false, name, "string", none, 0⟩ ::
      (items.zipIdx 1).map fun item => item.1.token item.2

/-- The ways to join raw tokens: with some blanks between them. -/
inductive Joined : List (List Char) → List Char → Prop
  | single (raw : List Char) : Joined [raw] raw
  | cons {raw next s : List Char} {raws : List (List Char)} (blanks : List Char)
      (hne : blanks ≠ []) (hblanks : ∀ c ∈ blanks, isBlank c) (rest : Joined (next :: raws) s) :
      Joined (raw :: next :: raws) (raw ++ (blanks ++ s))

/-! ### The text of a group -/

theorem unmarked_append {s t : List Char} : Unmarked (s ++ t) ↔ Unmarked s ∧ Unmarked t :=
  List.forall_mem_append

theorem unmarked_cons {c : Char} {s : List Char} :
    Unmarked (c :: s) ↔ c ∉ marks ∧ Unmarked s :=
  List.forall_mem_cons

theorem unmarked_typeSuffix {datatype : Option String} (h : Item.WritableType datatype) :
    Unmarked (typeSuffix datatype) := by
  cases datatype with
  | none => exact fun c hc => absurd hc List.not_mem_nil
  | some d =>
    have hseparator : Unmarked separator := by decide
    exact unmarked_append.mpr ⟨hseparator, (h d rfl).2.unmarked⟩

theorem bare_append (s t : List Char) : bare (s ++ t) = bare s ++ bare t := by
  rw [bare, List.filter_append, List.map_append]
  rfl

theorem bare_cons_of_isBracket {c : Char} (h : isBracket c) (s : List Char) :
    bare (c :: s) = bare s := by
  rw [bare, List.filter_cons_of_neg (by simp [h])]
  rfl

theorem isBracket_of_not_mem_marks {c : Char} (h : c ∉ marks) : isBracket c = false := by
  simp [marks] at h
  simp [isBracket, h]

theorem spells_refl (text : List Char) : Spells text text :=
  List.forall₂_same.mpr fun _ _ => .inl rfl

/-- However a text is written, without brackets it is that text. -/
theorem bare_of_spells {written text : List Char} (h : Spells written text)
    (hunmarked : Unmarked text) : bare written = text := by
  induction h with
  | nil => rfl
  | @cons w c written text hchar _ ih =>
    obtain ⟨hc, htext⟩ := unmarked_cons.mp hunmarked
    have hwritten : bare written = text := ih htext
    rcases hchar with rfl | ⟨rfl, rfl⟩
    · have hplus : w ≠ '+' := fun heq => hc (by simp [heq, marks])
      rw [bare, List.filter_cons_of_pos (by simp [isBracket_of_not_mem_marks hc]), List.map_cons,
        ← bare, hwritten]
      simp [hplus]
    · show ' ' :: bare written = ' ' :: text
      rw [hwritten]

/-- However a text is written, no bracket gets into it. -/
theorem not_mem_of_spells {close : Char} (hclose : close ∈ marks) (hplus : close ≠ '+')
    {written text : List Char} (h : Spells written text) (hunmarked : Unmarked text) :
    close ∉ written := by
  induction h with
  | nil => exact List.not_mem_nil
  | @cons w c written text hchar _ ih =>
    obtain ⟨hc, htext⟩ := unmarked_cons.mp hunmarked
    rw [List.mem_cons, not_or]
    refine ⟨fun heq => ?_, ih htext⟩
    rcases hchar with rfl | ⟨rfl, -⟩
    · exact hc (heq ▸ hclose)
    · exact hplus heq

/-- The name in a raw token ends where the datatype is written behind it. -/
theorem nameAndType_of_bare {raw name : List Char} {datatype : Option String}
    (h : bare raw = name ++ typeSuffix datatype) (htrimmed : IsTrimmed name)
    (hseparator : ¬ separator <:+: name) (hdatatype : Item.WritableType datatype) :
    nameAndType raw = (name, declaredType datatype) := by
  rw [nameAndType, h]
  cases datatype with
  | none =>
    have hnone : splitOnce [':', ' '] name = none := Text.splitOnce_of_not_infix hseparator
    rw [typeSuffix, List.append_nil, hnone, Text.trimChars_of_isTrimmed htrimmed]
    rfl
  | some d =>
    obtain ⟨hne, hplain⟩ := hdatatype d rfl
    have hsplit : splitOnce [':', ' '] (name ++ typeSuffix (some d)) = some (name, d.toList) :=
      Text.splitOnce_append (by decide) hseparator d.toList
    have hnonempty : ¬ d.toList.isEmpty = true := by simpa using hne
    rw [hsplit]
    dsimp only
    rw [Text.trimChars_of_isTrimmed htrimmed, Text.trimChars_of_isTrimmed hplain.trimmed,
      if_neg hnonempty]
    rfl

/-! ### Raw tokens in a text -/

/-- Holds of raw tokens that are split off where they stand, if no word goes on behind them. -/
def IsRaw (raw : List Char) : Prop :=
  ∀ s raws, (∀ c ∈ s.head?, ¬ InWord c) → Splits s raws → Splits (raw ++ s) (raw :: raws)

theorem isRaw_group {opening close : Char} (hopening : Encloses opening close) {body : List Char}
    (h : close ∉ body) : IsRaw (opening :: (body ++ [close])) := by
  intro s raws _ hrest
  have hsplits : Splits (opening :: (body ++ close :: s)) _ := .group hopening h hrest
  simpa using hsplits

theorem isRaw_word {word : List Char} (hne : word ≠ []) (h : ∀ c ∈ word, InWord c) : IsRaw word :=
  fun _ _ hend hrest => .word hne h hend hrest

theorem splits_blanks {blanks s : List Char} {raws : List (List Char)}
    (hblanks : ∀ c ∈ blanks, isBlank c) (h : Splits s raws) : Splits (blanks ++ s) raws := by
  induction blanks with
  | nil => exact h
  | cons c blanks ih =>
    obtain ⟨hc, hrest⟩ := List.forall_mem_cons.mp hblanks
    exact .blank hc (ih hrest)

/-- Raw tokens joined by blanks are split again. -/
theorem splits_of_joined {raws : List (List Char)} {s : List Char} (h : Joined raws s)
    (hraws : ∀ raw ∈ raws, IsRaw raw) : Splits s raws := by
  induction h with
  | single raw =>
    have hsplits := hraws raw List.mem_cons_self [] [] (by simp) .nil
    rwa [List.append_nil] at hsplits
  | cons blanks hne hblanks _ ih =>
    obtain ⟨hraw, hrest⟩ := List.forall_mem_cons.mp hraws
    -- the first of the blanks ends the raw token, even if that is a word
    refine hraw _ _ (fun c hc hword => ?_) (splits_blanks hblanks (ih hrest))
    obtain ⟨b, blanks, rfl⟩ := List.exists_cons_of_ne_nil hne
    obtain rfl : b = c := Option.some.inj hc
    have hblank : isBlank b = true := hblanks b List.mem_cons_self
    rw [hword.1] at hblank
    cases hblank

/-! ### Written groups

All groups are written in one way: the text before the datatype, however it is spelled, and the
datatype.  For a flag that text begins with a dash. -/

section

variable {opening close : Char} {written text : List Char} {datatype : Option String}

theorem isRaw_of_spells (hopening : Encloses opening close) (h : Spells written text)
    (hunmarked : Unmarked text) (hdatatype : Item.WritableType datatype) :
    IsRaw (opening :: (written ++ typeSuffix datatype ++ [close])) := by
  have hclose : close ∈ marks ∧ close ≠ '+' := by cases hopening <;> decide
  refine isRaw_group hopening ?_
  rw [List.mem_append, not_or]
  exact ⟨not_mem_of_spells hclose.1 hclose.2 h hunmarked, fun hmem =>
    unmarked_typeSuffix hdatatype close hmem hclose.1⟩

theorem nameAndType_of_spells (hopening : Encloses opening close) (h : Spells written text)
    (hplain : Plain text) (hseparator : ¬ separator <:+: text)
    (hdatatype : Item.WritableType datatype) :
    nameAndType (opening :: (written ++ typeSuffix datatype ++ [close])) =
      (text, declaredType datatype) := by
  have hbrackets : isBracket opening ∧ isBracket close := by cases hopening <;> decide
  have hsuffix := unmarked_typeSuffix hdatatype
  refine nameAndType_of_bare ?_ hplain.trimmed hseparator hdatatype
  rw [bare_cons_of_isBracket hbrackets.1, bare_append, bare_append,
    bare_of_spells h hplain.unmarked, bare_of_spells (spells_refl _) hsuffix,
    bare_cons_of_isBracket hbrackets.2]
  exact List.append_nil _

end

/-! ### Flags -/

theorem dropWhile_dash {name : List Char} (h : name.head? ≠ some '-') :
    ('-' :: name).dropWhile (· == '-') = name := by
  rw [List.dropWhile_cons_of_pos (by simp)]
  cases name with
  | nil => rfl
  | cons c name => exact List.dropWhile_cons_of_neg (by simpa using h)

theorem not_infix_space {name : List Char} (h : ∀ c ∈ name, isBlank c = false) :
    ¬ [' '] <:+: name := by
  intro hwithin
  have hspace := h ' ' (hwithin.subset (by simp))
  revert hspace
  decide

theorem flagParts_dash {name : List Char} (hhead : name.head? ≠ some '-')
    (hblank : ∀ c ∈ name, isBlank c = false) :
    flagParts ('-' :: name) = (String.ofList name, "") := by
  rw [flagParts, dropWhile_dash hhead, Text.splitOnce_of_not_infix (not_infix_space hblank)]

theorem flagParts_dash_text {name text : List Char} (hne : name ≠ [])
    (hhead : name.head? ≠ some '-') (hblank : ∀ c ∈ name, isBlank c = false)
    (htext : IsTrimmed text) :
    flagParts ('-' :: (name ++ ' ' :: text)) = (String.ofList name, String.ofList text) := by
  have hhead' : (name ++ ' ' :: text).head? ≠ some '-' := by
    cases name with
    | nil => exact absurd rfl hne
    | cons c name => exact hhead
  have hsplit : splitOnce [' '] (name ++ ' ' :: text) = some (name, text) :=
    Text.splitOnce_append (by simp) (not_infix_space hblank) text
  rw [flagParts, dropWhile_dash hhead', hsplit]
  dsimp only
  rw [Text.trimChars_of_isTrimmed htext]

theorem Plain.dash {s : List Char} (hne : s ≠ []) (h : Plain s) : Plain ('-' :: s) where
  unmarked := unmarked_cons.mpr ⟨by decide, h.unmarked⟩
  trimmed := by
    refine ⟨by simp; decide, ?_⟩
    rw [List.getLast?_cons_of_ne_nil hne]
    exact h.trimmed.2

theorem Plain.append_space {s t : List Char} (hs : s ≠ []) (h : Plain s) (ht : t ≠ [])
    (h' : Plain t) : Plain (s ++ ' ' :: t) where
  unmarked := unmarked_append.mpr ⟨h.unmarked, unmarked_cons.mpr ⟨by decide, h'.unmarked⟩⟩
  trimmed := by
    obtain ⟨c, s, rfl⟩ := List.exists_cons_of_ne_nil hs
    refine ⟨h.trimmed.1, ?_⟩
    rw [List.getLast?_append_of_ne_nil _ (by simp), List.getLast?_cons_of_ne_nil ht]
    exact h'.trimmed.2

theorem not_separator_infix_dash {s : List Char} (h : ¬ separator <:+: s) :
    ¬ separator <:+: '-' :: s := by
  intro hwithin
  rcases List.infix_cons_iff.mp hwithin with hstart | hrest
  · exact absurd (List.cons_prefix_cons.mp hstart).1 (by decide)
  · exact h hrest

/-! ### Written items -/

namespace Item

variable {item : Item}

/-- A written item is a group with its content, however it is spelled, and its datatype. -/
theorem Writes.exists_group {raw : List Char} (h : item.Writes raw) :
    ∃ opening close written, Encloses opening close ∧ Spells written item.content ∧
      raw = opening :: (written ++ typeSuffix item.datatype ++ [close]) := by
  cases h with
  | required h => exact ⟨'<', '>', _, .angle, h, rfl⟩
  | optional h => exact ⟨'[', ']', _, .square, h, rfl⟩
  | flag => exact ⟨'(', ')', _, .round, spells_refl _, rfl⟩
  | @flagWithText name text datatype written hne h =>
    refine ⟨'(', ')', '-' :: name.toList ++ ' ' :: written, .round, ?_, rfl⟩
    rw [content, if_neg hne]
    exact List.rel_append (spells_refl ('-' :: name.toList)) (.cons (.inl rfl) h)

theorem Writable.type (h : item.Writable) : WritableType item.datatype := by
  cases item with
  | argument optional name datatype => exact h.2.2.2
  | flag name text datatype => exact h.2.2.2.2.2.2

theorem Writable.plain (h : item.Writable) : Plain item.content := by
  cases item with
  | argument optional name datatype => exact h.2.1
  | flag name text datatype =>
    obtain ⟨hne, hname, -, -, htext, -⟩ := h
    have hne' : name.toList ≠ [] := by simpa using hne
    rw [content]
    split
    · exact hname.dash hne'
    · next htextne =>
      exact (hname.append_space hne' (by simpa using htextne) htext).dash (by simp)

theorem Writable.separated (h : item.Writable) : ¬ separator <:+: item.content := by
  cases item with
  | argument optional name datatype => exact h.2.2.1
  | flag name text datatype =>
    obtain ⟨-, -, hblank, -, -, hseparator, -⟩ := h
    rw [content]
    refine not_separator_infix_dash ?_
    split
    · -- there is a blank in the separator, and none in the name
      have hspace : [' '] <:+: separator := ⟨[':'], [], rfl⟩
      exact fun hwithin => not_infix_space hblank (hspace.trans hwithin)
    · next htextne => exact hseparator htextne

theorem flagParts_content {name text : String} {datatype : Option String}
    (h : (flag name text datatype).Writable) :
    flagParts (content (.flag name text datatype)) = (name, text) := by
  obtain ⟨hne, -, hblank, hhead, htext, -⟩ := h
  rw [content]
  split
  · next htextne => rw [flagParts_dash hhead hblank, String.ofList_toList, htextne]
  · rw [flagParts_dash_text (by simpa using hne) hhead hblank htext.trimmed, String.ofList_toList,
      String.ofList_toList]

theorem isRaw_of_writes {raw : List Char} (h : item.Writes raw) (hitem : item.Writable) :
    IsRaw raw := by
  obtain ⟨opening, close, written, hopening, hspells, rfl⟩ := h.exists_group
  exact isRaw_of_spells hopening hspells hitem.plain.unmarked hitem.type

theorem nameAndType_of_writes {raw : List Char} (h : item.Writes raw) (hitem : item.Writable) :
    nameAndType raw = (item.content, declaredType item.datatype) := by
  obtain ⟨opening, close, written, hopening, hspells, rfl⟩ := h.exists_group
  exact nameAndType_of_spells hopening hspells hitem.plain hitem.separated hitem.type

theorem stands_argument {raw : List Char} {optional : Bool} {name : String}
    {datatype : Option String} (hstart : [if optional then '[' else '<'] <+: raw)
    (hparts : nameAndType raw = (name.toList, declaredType datatype)) (total position : Nat) :
    Stands total position raw ((argument optional name datatype).token position) := by
  have hname : nameOf raw = name := by rw [nameOf, hparts, String.ofList_toList]
  have htype : typeOf raw = declaredType datatype := by rw [typeOf, hparts]
  rw [token, ← hname, ← htype]
  cases optional with
  | false => exact .required hstart
  | true => exact .optional hstart

theorem stands_flag {raw : List Char} {name text : String} {datatype : Option String}
    (hstart : ['(', '-'] <+: raw)
    (hparts : nameAndType raw = (content (.flag name text datatype), declaredType datatype))
    (hitem : (flag name text datatype).Writable) (total position : Nat) :
    Stands total position raw ((flag name text datatype).token position) := by
  have hflag : Stands total position raw _ := .flag hstart
  rw [typeOf, hparts, flagParts_content hitem] at hflag
  exact hflag

/-- A written item stands for its token, wherever it is. -/
theorem stands_of_writes {raw : List Char} (h : item.Writes raw) (hitem : item.Writable)
    (total position : Nat) : Stands total position raw (item.token position) := by
  have hparts := nameAndType_of_writes h hitem
  cases h with
  | required => exact stands_argument (by simp) hparts total position
  | optional => exact stands_argument (by simp) hparts total position
  | flag => exact stands_flag (by simp) hparts hitem total position
  | flagWithText => exact stands_flag (by simp) hparts hitem total position

end Item

/-! ### Written selectors -/

theorem inWord_of_mem_selectorWord {name : String} (h : WritableSelector name) {w : Char}
    (hw : w ∈ selectorWord name) : InWord w := by
  obtain ⟨c, hc, rfl⟩ := List.mem_map.mp hw
  split
  · exact isWordChar_iff.mp (by decide)
  · next hspace =>
    have hblank : isBlank c = false := by
      rw [← Bool.not_eq_true]
      exact fun hb => hspace (h.blank c hc hb)
    refine ⟨hblank, fun close hencloses => h.plain.unmarked c hc ?_⟩
    cases hencloses <;> decide

theorem isRaw_selectorWord {name : String} (h : WritableSelector name) :
    IsRaw (selectorWord name) :=
  isRaw_word (by simpa [selectorWord] using h.ne_empty) fun _ => inWord_of_mem_selectorWord h

theorem spells_selectorWord (name : String) : Spells (selectorWord name) name.toList := by
  rw [Spells, selectorWord, List.forall₂_map_left_iff]
  refine List.forall₂_same.mpr fun c _ => ?_
  split
  · next h => exact .inr ⟨rfl, h⟩
  · exact .inl rfl

/-- A word is neither an argument in brackets nor a flag. -/
theorem isSelector_of_inWord {word : List Char} (h : ∀ c ∈ word, InWord c) : IsSelector word := by
  have hopening {opening close : Char} (hencloses : Encloses opening close) (body : List Char) :
      ¬ opening :: body <+: word := fun hstart =>
    not_inWord_of_encloses hencloses (h opening (hstart.subset List.mem_cons_self))
  exact ⟨hopening .angle [], hopening .square [], hopening .round ['-']⟩

/-- A written selector stands for its token, if it leads others. -/
theorem stands_selectorWord {name : String} (h : WritableSelector name) {total : Nat}
    (htotal : total ≠ 1) :
    Stands total 0 (selectorWord name) ⟨.command, false, name, "string", none, 0⟩ := by
  have hparts : nameAndType (selectorWord name) = (name.toList, declaredType none) := by
    refine nameAndType_of_bare ?_ h.plain.trimmed h.separated (by simp [Item.WritableType])
    rw [bare_of_spells (spells_selectorWord name) h.plain.unmarked]
    exact (List.append_nil _).symm
  have hstands : Stands total 0 (selectorWord name) _ :=
    .selector (isSelector_of_inWord fun _ => inWord_of_mem_selectorWord h) (.inr htotal) rfl
  rw [nameOf, typeOf, hparts, String.ofList_toList] at hstands
  exact hstands

/-! ### Written patterns -/

theorem forall₂_stands_of_writes {items : List Item} {words : List (List Char)}
    (h : List.Forall₂ Item.Writes items words) (hitems : ∀ item ∈ items, item.Writable)
    (total position : Nat) :
    List.Forall₂ (fun raw t => Stands total raw.2 raw.1 t) (words.zipIdx position)
      ((items.zipIdx position).map fun item => item.1.token item.2) := by
  induction h generalizing position with
  | nil => exact .nil
  | @cons item word items words hfirst _ ih =>
    obtain ⟨hitem, hrest⟩ := List.forall_mem_cons.mp hitems
    rw [List.zipIdx_cons, List.zipIdx_cons, List.map_cons]
    exact .cons (Item.stands_of_writes hfirst hitem total position) (ih hrest (position + 1))

theorem isRaw_of_mem_words {items : List Item} {words : List (List Char)}
    (h : List.Forall₂ Item.Writes items words) (hitems : ∀ item ∈ items, item.Writable) :
    ∀ word ∈ words, IsRaw word := by
  induction h with
  | nil => simp
  | cons hfirst _ ih =>
    obtain ⟨hitem, hrest⟩ := List.forall_mem_cons.mp hitems
    exact List.forall_mem_cons.mpr ⟨Item.isRaw_of_writes hfirst hitem, ih hrest⟩

/-- **Reading undoes writing.**  However a declaration is written, with or without the selection of
a subcommand, with whatever blanks between its parts, the pattern gives exactly its tokens, in
order. -/
theorem tokens_of_written {selector : Option String} {items : List Item}
    {words : List (List Char)} {pattern : String}
    (hselector : ∀ name ∈ selector, WritableSelector name)
    (hitems : ∀ item ∈ items, item.Writable) (hne : items ≠ [])
    (hwords : List.Forall₂ Item.Writes items words)
    (hjoined : Joined (selector.toList.map selectorWord ++ words) pattern.toList) :
    tokens pattern = .ok (declaredTokens selector items) := by
  have hraws := isRaw_of_mem_words hwords hitems
  have hwordsne : words ≠ [] := by
    rintro rfl
    cases hwords
    exact hne rfl
  cases selector with
  | none =>
    have hsplits : Splits pattern.toList words := splits_of_joined hjoined hraws
    rw [tokens_of_splits hsplits hwordsne]
    exact interpret_of_stands (forall₂_stands_of_writes hwords hitems words.length 0)
  | some name =>
    have hname := hselector name rfl
    have hsplits : Splits pattern.toList (selectorWord name :: words) :=
      splits_of_joined hjoined (List.forall_mem_cons.mpr ⟨isRaw_selectorWord hname, hraws⟩)
    -- the word is not alone, as there are items, and so it is a selector and no argument
    have htotal : (selectorWord name :: words).length ≠ 1 := by
      simpa using hwordsne
    rw [tokens_of_splits hsplits (by simp)]
    refine interpret_of_stands ?_
    rw [List.zipIdx_cons]
    exact .cons (stands_selectorWord hname htotal) (forall₂_stands_of_writes hwords hitems _ 1)

/-- Items with spaces in a name and a text, a colon at the end of a name, and a datatype in
capitals. -/
def sampleItems : List Item :=
  [.argument false "é b" (some "INT"), .flag "f:" "" none, .flag "s" "x y" none]

/-- The groups of `sampleItems`, as they may be written. -/
def sampleWords : List (List Char) :=
  ["<é+b: INT>".toList, "(-f:)".toList, "(-s x+y)".toList]

theorem tokens_of_written_sample :
    tokens "set+up <é+b: INT>\t (-f:) (-s x+y)" = .ok
      [⟨.command, false, "set up", "string", none, 0⟩,
        ⟨.arg, false, "é b", "int", none, 1⟩,
        ⟨.flag, true, "f:", "string", some "", 2⟩,
        ⟨.flag, true, "s", "string", some "x y", 3⟩] := by
  have hwords : List.Forall₂ Item.Writes sampleItems sampleWords :=
    .cons (@Item.Writes.required _ _ "é+b".toList (by decide))
      (.cons .flag (.cons (@Item.Writes.flagWithText _ _ _ "x+y".toList (by decide) (by decide))
        .nil))
  have hspace : ∀ c ∈ [' '], isBlank c := List.forall_mem_singleton.mpr rfl
  have hjoined : Joined ((some "set up").toList.map selectorWord ++ sampleWords)
      "set+up <é+b: INT>\t (-f:) (-s x+y)".toList :=
    .cons [' '] (by simp) hspace
      (.cons ['\t', ' '] (by simp) (List.forall_mem_cons.mpr ⟨rfl, hspace⟩)
        (.cons [' '] (by simp) hspace (.single _)))
  have htype : Text.lowerText "INT" = "int" := by decide +kernel
  rw [tokens_of_written (by decide +kernel) (by decide +kernel) (by simp [sampleItems]) hwords
    hjoined, ← htype]
  rfl

end SlashCommands.Pattern
