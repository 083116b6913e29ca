import SlashCommands.Draft

/-!
# What a pattern declares

Every argument that a pattern declares is consistent (`ArgumentOptions.consistent_of_mem_entries`):
it is an argument or a flag, a flag has a flag text and is optional, and only numbers are bounded.
Of the tokens this is known before bounds come in: `Token.Regular`.
-/

namespace SlashCommands

/-- Holds of declared arguments that say about themselves what goes together. -/
structure Entry.Consistent (e : Entry) : Prop where
  kind : e.kind = .arg ∨ e.kind = .flag
  flag_isSome_iff : e.flag.isSome ↔ e.kind = .flag
  optional_of_flag : e.kind = .flag → e.optional
  numeric_of_bounded : e.min.isSome ∨ e.max.isSome → e.datatype ∈ numericDatatypes

/-- Holds of tokens of which the flags, and only they, have a flag text, and are optional. -/
structure Token.Regular (t : Token) : Prop where
  flag_isSome_iff : t.flag.isSome ↔ t.kind = .flag
  optional_of_flag : t.kind = .flag → t.optional

namespace Token

variable {t : Token}

/-! ### Tokens -/

theorem regular_of_ofRaw {raw : List Char} {position total : Nat}
    (h : ofRaw raw position total = .ok t) : t.Regular := by
  -- a bare word is a subcommand if it comes first, and a fault anywhere else
  have of_word {name datatype : String} (hw : (if 0 < position then
        .error (.misplacedSubcommand (String.ofList raw) position)
      else .ok ⟨.command, false, name, datatype, none, position⟩ : Except Fault Token) = .ok t) :
      t.Regular := by
    split at hw
    · cases hw
    · cases hw
      exact ⟨by simp, by simp⟩
  rw [ofRaw] at h
  dsimp only at h
  split at h
  · cases h
    exact ⟨by simp, by simp⟩
  · cases h
    exact ⟨by simp, by simp⟩
  · cases h
    exact ⟨by simp, by simp⟩
  · exact of_word h
  · split at h
    · cases h
      exact ⟨by simp, by simp⟩
    · exact of_word h

theorem regular_of_interpret {total : Nat} {raws : List (List Char)} {position : Nat}
    {tokens : List Token} (h : Pattern.interpret total position raws = .ok tokens)
    (ht : t ∈ tokens) : t.Regular := by
  induction raws generalizing position tokens with
  | nil =>
    cases h
    cases ht
  | cons raw rest ih =>
    rw [Pattern.interpret] at h
    cases hraw : ofRaw raw position total with
    | error fault => rw [hraw] at h; cases h
    | ok token =>
      cases hrest : Pattern.interpret total (position + 1) rest with
      | error fault => rw [hraw, hrest] at h; cases h
      | ok others =>
        rw [hraw, hrest] at h
        cases h
        rcases List.mem_cons.mp ht with rfl | ht
        · exact regular_of_ofRaw hraw
        · exact ih hrest ht

/-- The flags of a pattern, and no other tokens, have flag texts, and they are optional. -/
theorem regular_of_mem_tokens {pattern : String} {tokens : List Token}
    (h : Pattern.tokens pattern = .ok tokens) (ht : t ∈ tokens) : t.Regular := by
  rw [Pattern.tokens] at h
  split at h
  · cases h
  · cases h
  · exact regular_of_interpret h ht

theorem mem_arguments {tokens : List Token} :
    t ∈ arguments tokens ↔ t ∈ tokens ∧ t.kind ≠ .command := by
  simp [arguments]

/-- A token that declares an argument declares a consistent one, if only numbers are bounded. -/
theorem consistent_toEntry (h : t.Regular) (hkind : t.kind ≠ .command) (description : String)
    {min max : Option Float} (hbound : min.isSome ∨ max.isSome → t.datatype ∈ numericDatatypes) :
    (t.toEntry description min max).Consistent where
  kind := by
    cases hk : t.kind with
    | arg => exact .inl hk
    | flag => exact .inr hk
    | command => exact absurd hk hkind
  flag_isSome_iff := h.flag_isSome_iff
  optional_of_flag := h.optional_of_flag
  numeric_of_bounded := hbound

end Token

/-! ### Declared arguments -/

namespace ArgumentOptions

variable {o : ArgumentOptions} {tokens : List Token}

/-- Each argument comes from a token, and only that of the last token has the bounds. -/
theorem mem_entries {e : Entry} (h : e ∈ o.entries tokens) :
    (∃ t ∈ tokens, e = t.toEntry o.description none none) ∨
      ∃ t, tokens.getLast? = some t ∧ e = t.toEntry o.description o.min o.max := by
  -- the cases are those of `entries`: no token, the last one, one before it
  induction tokens with
  | nil => cases h
  | cons t rest ih =>
    cases rest with
    | nil =>
      rw [entries, List.mem_singleton] at h
      exact .inr ⟨t, rfl, h⟩
    | cons t' rest =>
      rw [entries] at h
      · rcases List.mem_cons.mp h with rfl | h
        · exact .inl ⟨t, List.mem_cons_self, rfl⟩
        · rcases ih h with ⟨u, hu, rfl⟩ | ⟨u, hu, rfl⟩
          · exact .inl ⟨u, List.mem_cons_of_mem _ hu, rfl⟩
          · exact .inr ⟨u, by rwa [List.getLast?_cons_cons], rfl⟩
      · simp

/-- The last token declares the argument that has the bounds. -/
theorem toEntry_mem_entries {t : Token} (h : tokens.getLast? = some t) :
    t.toEntry o.description o.min o.max ∈ o.entries tokens := by
  induction tokens with
  | nil => cases h
  | cons u rest ih =>
    cases rest with
    | nil =>
      cases h
      simp [entries]
    | cons u' rest =>
      rw [List.getLast?_cons_cons] at h
      rw [entries]
      · exact List.mem_cons_of_mem _ (ih h)
      · simp

/-- All arguments that a pattern declares are consistent, if bounds come with a number as the last
argument. -/
theorem consistent_of_mem_entries {all : List Token} (hall : ∀ t ∈ all, t.Regular)
    (hbound : ∀ t, (Token.arguments all).getLast? = some t → o.isBounded →
      isNumericDatatype t.datatype) {e : Entry}
    (h : e ∈ o.entries (Token.arguments all)) : e.Consistent := by
  rcases mem_entries h with ⟨t, ht, rfl⟩ | ⟨t, ht, rfl⟩
  · obtain ⟨hmem, hkind⟩ := Token.mem_arguments.mp ht
    exact Token.consistent_toEntry (hall t hmem) hkind _ (by simp)
  · obtain ⟨hmem, hkind⟩ := Token.mem_arguments.mp (List.mem_of_getLast? ht)
    refine Token.consistent_toEntry (hall t hmem) hkind _ fun hsome => ?_
    have hnum := hbound t ht (by simpa [isBounded] using hsome)
    simpa [isNumericDatatype] using hnum

end ArgumentOptions

end SlashCommands
