import SlashCommands.Text.Case

/-!
# Case mapping

Lower-casing goes character by character, but for a capital sigma it looks at what stands around it.
So the lower case of a text need not begin with the lower case of its first part.
`Text.CutsAfterSigma` says where a text must be cut for that to happen, and the main statement,
`Text.lower_prefix_lower_append_iff`, that it happens at no other place.

Upper-casing goes character by character altogether; `Text.upperChar_of_lt` and
`Text.upperChar_toUpper` have what it does to ASCII letters.
-/

namespace SlashCommands.Text

/-- Holds of the characters that casing ignores. -/
def IsIgnored (c : Char) : Prop :=
  inRanges caseIgnorableRanges c

/-- Holds of the characters that have a case. -/
def IsCased (c : Char) : Prop :=
  inRanges casedRanges c

/-- Holds of texts in which a cased character comes first, apart from characters that casing
ignores. -/
def LeadsToCased (s : List Char) : Prop :=
  ∃ ignored c rest, s = ignored ++ c :: rest ∧ (∀ x ∈ ignored, IsIgnored x) ∧
    ¬ IsIgnored c ∧ IsCased c

/-- Holds of two parts of a text if they are cut apart in a word whose letters so far end in a
capital sigma: before the sigma there is a cased character, and after the cut there is one. -/
def CutsAfterSigma (p q : List Char) : Prop :=
  ∃ word ignored, p = word ++ 'Σ' :: ignored ∧ LeadsToCased word.reverse ∧
    (∀ x ∈ ignored, IsIgnored x) ∧ LeadsToCased q

/-! ### Looking for a cased character -/

section

variable {c : Char} {s t : List Char}

theorem casedAhead_cons_of_ignored (h : IsIgnored c) : casedAhead (c :: s) = casedAhead s := by
  rw [casedAhead, List.dropWhile_cons_of_pos h, casedAhead]

theorem casedAhead_cons_of_not_ignored (h : ¬ IsIgnored c) :
    casedAhead (c :: s) = inRanges casedRanges c := by
  rw [casedAhead, List.dropWhile_cons_of_neg h]

/-- The search for a cased character goes on behind a text only if that is ignored altogether. -/
theorem casedAhead_append_iff :
    casedAhead (s ++ t) ↔ casedAhead s ∨ (∀ x ∈ s, IsIgnored x) ∧ casedAhead t := by
  induction s with
  | nil => simp [casedAhead]
  | cons c s ih =>
    rw [List.cons_append, List.forall_mem_cons]
    by_cases hc : IsIgnored c
    · rw [casedAhead_cons_of_ignored hc, casedAhead_cons_of_ignored hc, ih, and_iff_right hc]
    · rw [casedAhead_cons_of_not_ignored hc, casedAhead_cons_of_not_ignored hc]
      simp [hc]

/-- There is nothing to find in what is ignored altogether. -/
theorem casedAhead_of_ignored (h : ∀ x ∈ s, IsIgnored x) : casedAhead s = false := by
  induction s with
  | nil => rfl
  | cons c s ih =>
    rw [List.forall_mem_cons] at h
    rw [casedAhead_cons_of_ignored h.1, ih h.2]

theorem casedAhead_iff : casedAhead s ↔ LeadsToCased s := by
  constructor
  · intro h
    induction s with
    | nil => cases h
    | cons c s ih =>
      by_cases hc : IsIgnored c
      · rw [casedAhead_cons_of_ignored hc] at h
        obtain ⟨ignored, d, rest, rfl, hignored, hd⟩ := ih h
        exact ⟨c :: ignored, d, rest, rfl, List.forall_mem_cons.mpr ⟨hc, hignored⟩, hd⟩
      · rw [casedAhead_cons_of_not_ignored hc] at h
        exact ⟨[], c, s, rfl, List.forall_mem_nil _, hc, h⟩
  · rintro ⟨ignored, c, rest, rfl, hignored, hc, hcased⟩
    refine casedAhead_append_iff.mpr (.inr ⟨hignored, ?_⟩)
    rw [casedAhead_cons_of_not_ignored hc]
    exact hcased

end

/-! ### The image of one character -/

/-- The lower case of a character, given what stands before it, nearest character first, and after
it. -/
def lowerImage (before : List Char) (c : Char) (rest : List Char) : List Char :=
  if c == 'Σ' then [if casedAhead before && !casedAhead rest then 'ς' else 'σ'] else lowerChar c

theorem lowerAfter_cons (before : List Char) (c : Char) (rest : List Char) :
    lowerAfter before (c :: rest) = lowerImage before c rest ++ lowerAfter (c :: before) rest := rfl

/-- Holds if a character is a capital sigma that is final as long as the text is not continued. -/
def IsLastSigma (before : List Char) (c : Char) (rest q : List Char) : Prop :=
  c = 'Σ' ∧ casedAhead before ∧ (∀ x ∈ rest, IsIgnored x) ∧ casedAhead q

section

variable {before : List Char} {c : Char} {rest q : List Char}

theorem lowerImage_of_isLastSigma (h : IsLastSigma before c rest q) :
    lowerImage before c rest = ['ς'] ∧ lowerImage before c (rest ++ q) = ['σ'] := by
  obtain ⟨rfl, hbefore, hrest, hq⟩ := h
  have hfinal : casedAhead rest = false := casedAhead_of_ignored hrest
  have hinner : casedAhead (rest ++ q) = true := casedAhead_append_iff.mpr (.inr ⟨hrest, hq⟩)
  simp [lowerImage, hbefore, hfinal, hinner]

/-- No other character looks beyond the end of its text. -/
theorem lowerImage_append_of_not_isLastSigma (h : ¬ IsLastSigma before c rest q) :
    lowerImage before c (rest ++ q) = lowerImage before c rest := by
  rw [lowerImage, lowerImage]
  by_cases hc : c = 'Σ'
  · subst hc
    cases hbefore : casedAhead before with
    | false => rfl
    | true =>
      have hsame : casedAhead (rest ++ q) = casedAhead rest := by
        rw [Bool.eq_iff_iff, casedAhead_append_iff, or_iff_left_iff_imp]
        exact fun hcut => absurd ⟨rfl, hbefore, hcut⟩ h
      rw [hsame]
  · simp [hc]

theorem length_lowerImage (rest' : List Char) :
    (lowerImage before c rest).length = (lowerImage before c rest').length := by
  rw [lowerImage, lowerImage]
  split <;> rfl

end

/-! ### Texts and their first parts -/

/-- Holds if a text that is continued after a cut has such a sigma, given what stands before it. -/
def CutsAfterSigmaFrom (before p q : List Char) : Prop :=
  ∃ word ignored, p = word ++ 'Σ' :: ignored ∧ casedAhead (word.reverse ++ before) ∧
    (∀ x ∈ ignored, IsIgnored x) ∧ casedAhead q

variable {before p q : List Char}

theorem cutsAfterSigmaFrom_cons_iff {c : Char} :
    CutsAfterSigmaFrom before (c :: p) q ↔
      IsLastSigma before c p q ∨ CutsAfterSigmaFrom (c :: before) p q := by
  constructor
  · rintro ⟨word, ignored, heq, hword, hcut⟩
    cases word with
    | nil =>
      obtain ⟨rfl, rfl⟩ := List.cons.inj heq
      exact .inl ⟨rfl, hword, hcut⟩
    | cons d word =>
      obtain ⟨rfl, rfl⟩ := List.cons.inj heq
      rw [List.reverse_cons, List.append_assoc] at hword
      exact .inr ⟨word, ignored, rfl, hword, hcut⟩
  · rintro (⟨rfl, hbefore, hcut⟩ | ⟨word, ignored, rfl, hword, hcut⟩)
    · exact ⟨[], p, rfl, hbefore, hcut⟩
    · refine ⟨c :: word, ignored, rfl, ?_, hcut⟩
      rw [List.reverse_cons, List.append_assoc]
      exact hword

/-- The lower case of a text begins with that of its first part unless the cut changes a sigma. -/
theorem lowerAfter_prefix_append_iff :
    lowerAfter before p <+: lowerAfter before (p ++ q) ↔ ¬ CutsAfterSigmaFrom before p q := by
  induction p generalizing before with
  | nil =>
    refine iff_of_true List.nil_prefix ?_
    rintro ⟨word, ignored, heq, -⟩
    simp at heq
  | cons c p ih =>
    rw [List.cons_append, lowerAfter_cons, lowerAfter_cons, cutsAfterSigmaFrom_cons_iff]
    by_cases hlast : IsLastSigma before c p q
    · -- the sigma is final before the cut is closed, and is not afterwards
      obtain ⟨hfinal, hinner⟩ := lowerImage_of_isLastSigma hlast
      rw [hfinal, hinner]
      simp [hlast]
    · rw [lowerImage_append_of_not_isLastSigma hlast, List.prefix_append_right_inj, ih]
      simp [hlast]

theorem length_lowerAfter_le_append (before p q : List Char) :
    (lowerAfter before p).length ≤ (lowerAfter before (p ++ q)).length := by
  induction p generalizing before with
  | nil => exact Nat.zero_le _
  | cons c p ih =>
    rw [List.cons_append, lowerAfter_cons, lowerAfter_cons, List.length_append,
      List.length_append, length_lowerImage (p ++ q)]
    exact Nat.add_le_add_left (ih (c :: before)) _

/-- **Where lower case keeps prefixes**: everywhere but in a word, after a capital sigma. -/
theorem lower_prefix_lower_append_iff (p q : List Char) :
    lower p <+: lower (p ++ q) ↔ ¬ CutsAfterSigma p q := by
  rw [lower, lower, lowerAfter_prefix_append_iff, CutsAfterSigmaFrom, CutsAfterSigma]
  simp only [List.append_nil, casedAhead_iff]

/-- A text that begins with the lower case of a whole text begins with that of its first part, or
that part is cut off after a sigma; then no text begins with both. -/
theorem lower_prefix_of_append {p q s : List Char} (h : lower (p ++ q) <+: s) :
    lower p <+: s ↔ ¬ CutsAfterSigma p q := by
  rw [← lower_prefix_lower_append_iff]
  constructor
  · exact fun hp => List.prefix_of_prefix_length_le hp h (length_lowerAfter_le_append [] p q)
  · exact fun hp => hp.trans h

/-! ### Upper case of ASCII letters -/

/-- The characters before the small letters of ASCII have no other upper case. -/
theorem upperChar_of_lt {c : Char} (h : c.toNat < 'a'.toNat) : upperChar c = [c] := by
  have hexpansions : ∀ e ∈ upperExpansions, 'a'.toNat ≤ e.1 := by decide +kernel
  have hruns : ∀ r ∈ upperRuns, 'a'.toNat ≤ r.first := by decide +kernel
  have hnone : upperExpansions.find? (·.1 == c.toNat) = none := by
    rw [List.find?_eq_none]
    intro e he heq
    have hle := hexpansions e he
    rw [beq_iff_eq.mp heq] at hle
    exact absurd h (Nat.not_lt.mpr hle)
  have hmiss : upperRuns.findSome? (·.image? c.toNat) = none := by
    rw [List.findSome?_eq_none_iff]
    intro r hr
    have hlt : ¬ r.first ≤ c.toNat := fun hle =>
      absurd h (Nat.not_lt.mpr (Nat.le_trans (hruns r hr) hle))
    simp [CaseRun.image?, hlt]
  rw [upperChar, mapCase, hnone]
  dsimp only
  rw [hmiss]

/-- A character is its own ASCII upper case, or it is a small letter. -/
theorem toUpper_cases (c : Char) :
    c.toUpper = c ∨ ∃ n : Fin 26, c = Char.ofNat ('a'.toNat + n) := by
  by_cases h : 'a'.val ≤ c.val ∧ c.val ≤ 'z'.val
  · refine .inr ⟨⟨c.toNat - 'a'.toNat, ?_⟩, ?_⟩
    · have hle : c.toNat ≤ 'z'.toNat := h.2
      exact Nat.lt_of_le_of_lt (Nat.sub_le_sub_right hle _) (by decide)
    · have hle : 'a'.toNat ≤ c.toNat := h.1
      rw [Nat.add_sub_cancel' hle, Char.ofNat_toNat]
  · exact .inl (dif_neg h)

/-- The full upper case of an ASCII letter does not depend on its case. -/
theorem upperChar_toUpper (c : Char) : upperChar c.toUpper = upperChar c := by
  rcases toUpper_cases c with h | ⟨n, rfl⟩
  · rw [h]
  · have hsmall : ∀ n : Fin 26, upperChar (Char.ofNat ('a'.toNat + n)) =
        [(Char.ofNat ('a'.toNat + n)).toUpper] := by decide +kernel
    have hlarge : ∀ n : Fin 26, (Char.ofNat ('a'.toNat + n)).toUpper.toNat < 'a'.toNat := by
      decide +kernel
    rw [hsmall, upperChar_of_lt (hlarge n)]

end SlashCommands.Text
