import Mathlib.Data.List.Forall2
import Mathlib.Data.Nat.Find
import SlashCommands.Proofs.Pattern.Splitting

/-!
# The grammar of patterns

`Pattern.Stands` says which token a raw token stands for at its position, and `Pattern.Means` what a
whole pattern gives: tokens, or the fault in it.  The main statement, `Pattern.means_iff`, is that
`Pattern.tokens` gives this and nothing else.  Each case of `Means` is a lemma on `Pattern.tokens`,
and every pattern is in one of the cases (`Pattern.exists_means`).
-/

namespace SlashCommands.Pattern

open Text (isBlank)

/-- Holds of raw tokens that are neither arguments in brackets nor flags: words, and groups in round
brackets without a dash.  They select a subcommand, but for a word that stands alone. -/
def IsSelector (raw : List Char) : Prop :=
  ¬ ['<'] <+: raw ∧ ¬ ['['] <+: raw ∧ ¬ ['(', '-'] <+: raw

/-- The name in a raw token. -/
def nameOf (raw : List Char) : String := String.ofList (nameAndType raw).1

/-- The datatype in a raw token. -/
def typeOf (raw : List Char) : String := (nameAndType raw).2

/-- The token that a raw token stands for at a position in a pattern of `total` raw tokens. -/
inductive Stands (total position : Nat) (raw : List Char) : Token → Prop
  | required (h : ['<'] <+: raw) :
      Stands total position raw ⟨.arg, false, nameOf raw, typeOf raw, none, position⟩
  | optional (h : ['['] <+: raw) :
      Stands total position raw ⟨.arg, true, nameOf raw, typeOf raw, none, position⟩
  | flag (h : ['(', '-'] <+: raw) :
      Stands total position raw
        ⟨.flag, true, (flagParts (nameAndType raw).1).1, typeOf raw,
          some (flagParts (nameAndType raw).1).2, position⟩
  | alone (h : IsSelector raw) (hword : ¬ ['('] <+: raw) (htotal : total = 1) :
      Stands total position raw ⟨.arg, false, nameOf raw, typeOf raw, none, position⟩
  | selector (h : IsSelector raw) (hshape : ['('] <+: raw ∨ total ≠ 1) (hposition : position = 0) :
      Stands total position raw ⟨.command, false, nameOf raw, typeOf raw, none, position⟩

/-- Holds of raw tokens that select a subcommand where this is not possible. -/
def IsMisplaced (total position : Nat) (raw : List Char) : Prop :=
  IsSelector raw ∧ (['('] <+: raw ∨ total ≠ 1) ∧ 0 < position

/-- Holds of the first raw token that selects a subcommand and does not lead the others. -/
def FirstMisplaced (raws : List (List Char)) (i : Nat) (raw : List Char) : Prop :=
  1 ≤ i ∧ raws[i]? = some raw ∧ IsSelector raw ∧
    ∀ j other, 1 ≤ j → j < i → raws[j]? = some other → ¬ IsSelector other

/-- What a pattern gives. -/
inductive Means (pattern : String) : Except Fault (List Token) → Prop
  | unterminated (h : LeavesOpen pattern.toList) :
      Means pattern (.error (.unterminatedGroup pattern))
  | empty (h : ∀ c ∈ pattern.toList, isBlank c) : Means pattern (.error .emptyPattern)
  | misplaced {raws : List (List Char)} {i : Nat} {raw : List Char}
      (hsplits : Splits pattern.toList raws) (h : FirstMisplaced raws i raw) :
      Means pattern (.error (.misplacedSubcommand (String.ofList raw) i))
  | tokens {raws : List (List Char)} {tokens : List Token} (hsplits : Splits pattern.toList raws)
      (hne : raws ≠ []) (hplaced : ∀ i raw, ¬ FirstMisplaced raws i raw)
      (h : List.Forall₂ (fun raw t => Stands raws.length raw.2 raw.1 t) raws.zipIdx tokens) :
      Means pattern (.ok tokens)

/-! ### One raw token -/

variable {total position : Nat} {raw : List Char}

theorem ofRaw_of_stands {t : Token} (h : Stands total position raw t) :
    Token.ofRaw raw position total = .ok t := by
  cases h with
  | required h =>
    obtain ⟨body, rfl⟩ := h
    rfl
  | optional h =>
    obtain ⟨body, rfl⟩ := h
    rfl
  | flag h =>
    obtain ⟨body, rfl⟩ := h
    rfl
  | alone h hword htotal =>
    unfold Token.ofRaw
    dsimp only
    split
    · exact absurd (by simp) h.1
    · exact absurd (by simp) h.2.1
    · exact absurd (by simp) h.2.2
    · exact absurd (by simp) hword
    · rw [if_pos htotal]
      rfl
  | selector h hshape hposition =>
    have hfirst : ¬ 0 < position := by omega
    unfold Token.ofRaw
    dsimp only
    split
    · exact absurd (by simp) h.1
    · exact absurd (by simp) h.2.1
    · exact absurd (by simp) h.2.2
    · rw [if_neg hfirst]
      rfl
    · next hround =>
      have htotal : total ≠ 1 := hshape.resolve_left fun ⟨body, heq⟩ => hround body heq.symm
      rw [if_neg htotal, if_neg hfirst]
      rfl

theorem ofRaw_of_isMisplaced (h : IsMisplaced total position raw) :
    Token.ofRaw raw position total =
      .error (.misplacedSubcommand (String.ofList raw) position) := by
  obtain ⟨hselector, hshape, hposition⟩ := h
  unfold Token.ofRaw
  dsimp only
  split
  · exact absurd (by simp) hselector.1
  · exact absurd (by simp) hselector.2.1
  · exact absurd (by simp) hselector.2.2
  · rw [if_pos hposition]
  · next hround =>
    have htotal : total ≠ 1 := hshape.resolve_left fun ⟨body, heq⟩ => hround body heq.symm
    rw [if_neg htotal, if_pos hposition]

/-- A raw token stands for a token unless it is misplaced. -/
theorem exists_stands (h : ¬ IsMisplaced total position raw) :
    ∃ t, Stands total position raw t := by
  by_cases hangle : ['<'] <+: raw
  · exact ⟨_, .required hangle⟩
  · by_cases hsquare : ['['] <+: raw
    · exact ⟨_, .optional hsquare⟩
    · by_cases hflag : ['(', '-'] <+: raw
      · exact ⟨_, .flag hflag⟩
      · have hselector : IsSelector raw := ⟨hangle, hsquare, hflag⟩
        by_cases hshape : ['('] <+: raw ∨ total ≠ 1
        · have hposition : ¬ 0 < position := fun hpos => h ⟨hselector, hshape, hpos⟩
          exact ⟨_, .selector hselector hshape (by omega)⟩
        · rw [not_or, not_not] at hshape
          exact ⟨_, .alone hselector hshape.1 hshape.2⟩

/-! ### Raw tokens one after the other -/

theorem interpret_of_stands {raws : List (List Char)} {tokens : List Token}
    (h : List.Forall₂ (fun raw t => Stands total raw.2 raw.1 t) (raws.zipIdx position) tokens) :
    interpret total position raws = .ok tokens := by
  induction raws generalizing position tokens with
  | nil =>
    cases h
    rfl
  | cons raw rest ih =>
    rw [List.zipIdx_cons] at h
    cases h with
    | cons hfirst hrest =>
      rw [interpret, ofRaw_of_stands hfirst, ih hrest]
      rfl

theorem interpret_of_isMisplaced {raws : List (List Char)} {i : Nat}
    (hraw : raws[i]? = some raw) (h : IsMisplaced total (position + i) raw)
    (hbefore : ∀ j other, j < i → raws[j]? = some other →
      ¬ IsMisplaced total (position + j) other) :
    interpret total position raws =
      .error (.misplacedSubcommand (String.ofList raw) (position + i)) := by
  induction raws generalizing position i with
  | nil => simp at hraw
  | cons first rest ih =>
    cases i with
    | zero =>
      obtain rfl : first = raw := by simpa using hraw
      rw [Nat.add_zero] at h ⊢
      rw [interpret, ofRaw_of_isMisplaced h]
      rfl
    | succ i =>
      obtain ⟨t, ht⟩ := exists_stands (hbefore 0 first (Nat.succ_pos i) rfl)
      rw [Nat.add_zero] at ht
      have heq : position + (i + 1) = position + 1 + i := by omega
      rw [heq] at h ⊢
      rw [interpret, ofRaw_of_stands ht, ih (by simpa using hraw) h]
      · rfl
      · intro j other hj hother hmisplaced
        refine hbefore (j + 1) other (by omega) (by simpa using hother) ?_
        rwa [show position + (j + 1) = position + 1 + j by omega]

/-- Raw tokens of which none is misplaced all stand for tokens. -/
theorem exists_forall₂_stands (total position : Nat) {raws : List (List Char)}
    (h : ∀ i raw, raws[i]? = some raw → ¬ IsMisplaced total (position + i) raw) :
    ∃ tokens, List.Forall₂ (fun raw t => Stands total raw.2 raw.1 t) (raws.zipIdx position)
      tokens := by
  induction raws generalizing position with
  | nil => exact ⟨[], .nil⟩
  | cons raw rest ih =>
    obtain ⟨t, ht⟩ := exists_stands (h 0 raw rfl)
    obtain ⟨tokens, htokens⟩ := ih (position + 1) fun i other hother hmisplaced => by
      refine h (i + 1) other (by simpa using hother) ?_
      rwa [show position + (i + 1) = position + 1 + i by omega]
    rw [List.zipIdx_cons]
    exact ⟨t :: tokens, .cons ht htokens⟩

/-- In a whole pattern a raw token is misplaced if it selects a subcommand and another comes before
it. -/
theorem isMisplaced_iff {raws : List (List Char)} {i : Nat} (hraw : raws[i]? = some raw) :
    IsMisplaced raws.length i raw ↔ IsSelector raw ∧ 1 ≤ i := by
  constructor
  · exact fun h => ⟨h.1, h.2.2⟩
  · rintro ⟨hselector, hi⟩
    have hlt : i < raws.length := (List.getElem?_eq_some_iff.mp hraw).1
    exact ⟨hselector, .inr (by omega), hi⟩

/-- Where raw tokens after the first select a subcommand, one of them is the first to. -/
theorem exists_firstMisplaced {raws : List (List Char)}
    (h : ∃ i, 1 ≤ i ∧ ∃ raw, raws[i]? = some raw ∧ IsSelector raw) :
    ∃ i raw, FirstMisplaced raws i raw := by
  classical
  obtain ⟨hi, raw, hraw, hselector⟩ := Nat.find_spec h
  refine ⟨Nat.find h, raw, hi, hraw, hselector, fun j other hj hlt hother hselector' => ?_⟩
  exact Nat.find_min h hlt ⟨hj, other, hother, hselector'⟩

/-! ### Whole patterns -/

variable {pattern : String}

theorem tokens_of_splits {raws : List (List Char)} (h : Splits pattern.toList raws)
    (hne : raws ≠ []) : tokens pattern = interpret raws.length 0 raws := by
  rw [tokens, split?_of_splits h]
  cases raws with
  | nil => exact absurd rfl hne
  | cons raw rest => rfl

theorem tokens_of_means {result : Except Fault (List Token)} (h : Means pattern result) :
    tokens pattern = result := by
  cases h with
  | unterminated h => rw [tokens, split?_of_leavesOpen h]
  | empty h => rw [tokens, split?_of_splits (splits_nil_iff.mpr h)]
  | @misplaced raws i raw hsplits h =>
    obtain ⟨hi, hraw, hselector, hfirst⟩ := h
    have hne : raws ≠ [] := by
      rintro rfl
      simp at hraw
    rw [tokens_of_splits hsplits hne]
    have hmisplaced := (isMisplaced_iff hraw).mpr ⟨hselector, hi⟩
    rw [← Nat.zero_add i] at hmisplaced
    rw [interpret_of_isMisplaced hraw hmisplaced, Nat.zero_add]
    intro j other hj hother hmisplaced'
    rw [Nat.zero_add, isMisplaced_iff hother] at hmisplaced'
    exact hfirst j other hmisplaced'.2 hj hother hmisplaced'.1
  | tokens hsplits hne _ h =>
    rw [tokens_of_splits hsplits hne]
    exact interpret_of_stands h

/-- Every pattern gives something. -/
theorem exists_means (pattern : String) : ∃ result, Means pattern result := by
  rcases splits_or_leavesOpen pattern.toList with ⟨raws, hsplits⟩ | hopen
  · by_cases hne : raws = []
    · subst hne
      exact ⟨_, .empty (splits_nil_iff.mp hsplits)⟩
    · by_cases hmisplaced : ∃ i raw, FirstMisplaced raws i raw
      · obtain ⟨i, raw, h⟩ := hmisplaced
        exact ⟨_, .misplaced hsplits h⟩
      · have hplaced : ∀ i raw, ¬ FirstMisplaced raws i raw := fun i raw h =>
          hmisplaced ⟨i, raw, h⟩
        have hnone : ∀ i raw, raws[i]? = some raw → ¬ IsMisplaced raws.length (0 + i) raw := by
          intro i raw hraw h
          rw [Nat.zero_add, isMisplaced_iff hraw] at h
          exact hmisplaced (exists_firstMisplaced ⟨i, h.2, raw, hraw, h.1⟩)
        obtain ⟨tokens, htokens⟩ := exists_forall₂_stands raws.length 0 hnone
        exact ⟨_, .tokens hsplits hne hplaced htokens⟩
  · exact ⟨_, .unterminated hopen⟩

/-- A pattern gives what it means. -/
theorem tokens_eq_iff {result : Except Fault (List Token)} :
    tokens pattern = result ↔ Means pattern result := by
  refine ⟨fun h => ?_, tokens_of_means⟩
  obtain ⟨result', hmeans⟩ := exists_means pattern
  rw [tokens_of_means hmeans] at h
  exact h ▸ hmeans

theorem Stands.position_eq {t : Token} (h : Stands total position raw t) :
    t.position = position := by
  cases h <;> rfl

theorem Stands.position_of_command {t : Token} (h : Stands total position raw t)
    (hkind : t.kind = .command) : position = 0 := by
  cases h with
  | selector _ _ hposition => exact hposition
  | _ => cases hkind

/-- Tokens are numbered in order, and only the first selects a subcommand. -/
theorem positions_of_stands {raws : List (List Char)} {tokens : List Token}
    (h : List.Forall₂ (fun raw t => Stands total raw.2 raw.1 t) (raws.zipIdx position) tokens) :
    tokens.map (·.position) = List.range' position tokens.length ∧
      ∀ t ∈ tokens, t.kind = .command → t.position = 0 := by
  induction raws generalizing position tokens with
  | nil =>
    cases h
    exact ⟨rfl, by simp⟩
  | cons raw rest ih =>
    rw [List.zipIdx_cons] at h
    cases h with
    | @cons _ t _ others hfirst hrest =>
      obtain ⟨hpositions, hcommands⟩ := ih hrest
      refine ⟨?_, List.forall_mem_cons.mpr ⟨fun hkind => ?_, hcommands⟩⟩
      · rw [List.map_cons, hpositions, hfirst.position_eq, List.length_cons, List.range'_succ]
      · rw [hfirst.position_eq, hfirst.position_of_command hkind]

/-- A pattern has a token, and no token after the first selects a subcommand. -/
theorem exists_cons_of_tokens {ts : List Token} (h : tokens pattern = .ok ts) :
    ∃ first rest, ts = first :: rest ∧ ∀ t ∈ rest, t.kind ≠ .command := by
  cases tokens_eq_iff.mp h with
  | @tokens raws _ _ hne _ hstands =>
    cases raws with
    | nil => exact absurd rfl hne
    | cons raw raws =>
      rw [List.zipIdx_cons] at hstands
      cases hstands with
      | @cons _ first _ rest _ hrest =>
        obtain ⟨hpositions, hcommands⟩ := positions_of_stands hrest
        refine ⟨first, rest, rfl, fun t ht hkind => ?_⟩
        -- a selector has the position zero, and the rest is numbered from one on
        have hmem : t.position ∈ rest.map (·.position) := List.mem_map_of_mem ht
        rw [hpositions, hcommands t ht hkind, List.mem_range'_1] at hmem
        omega

/-- **The grammar of patterns.**  Every pattern gives what it means and nothing else: tokens, one
for each raw token, or the first fault that applies.  It leaves a group open or has exactly one
split into raw tokens.  Its tokens are numbered from zero on, and a subcommand can only be selected
by the first. -/
theorem means_iff (pattern : String) :
    (∀ result, tokens pattern = result ↔ Means pattern result) ∧
      (LeavesOpen pattern.toList ∧ (∀ raws, ¬ Splits pattern.toList raws) ∨
        ¬ LeavesOpen pattern.toList ∧ ∃! raws, Splits pattern.toList raws) ∧
      ∀ ts, tokens pattern = .ok ts →
        ts.map (·.position) = List.range ts.length ∧
          ∀ t ∈ ts, t.kind = .command → t.position = 0 := by
  refine ⟨fun result => tokens_eq_iff, ?_, fun ts h => ?_⟩
  · -- the recursive function decides which side holds, and as a function gives one split at most
    cases hsplit : split? pattern.toList with
    | none =>
      refine .inl ⟨split?_eq_none_iff.mp hsplit, fun raws h => ?_⟩
      rw [split?_of_splits h] at hsplit
      cases hsplit
    | some raws =>
      refine .inr ⟨fun h => ?_, raws, split?_eq_some_iff.mp hsplit, fun other h => ?_⟩
      · rw [split?_of_leavesOpen h] at hsplit
        cases hsplit
      · rw [split?_of_splits h] at hsplit
        exact Option.some.inj hsplit
  · cases tokens_eq_iff.mp h with
    | tokens _ _ _ hstands =>
      rw [List.range_eq_range']
      exact positions_of_stands hstands

end SlashCommands.Pattern
