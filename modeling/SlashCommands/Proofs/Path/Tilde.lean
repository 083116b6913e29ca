import SlashCommands.Path

/-!
# Home directories

A path is its `components`: slashes in a row count once, and so does a slash at the end, and a point
leads nowhere unless the path starts with it.  A relative path that is joined to another continues
its components (`components_join`).  The main statement, `expandTilde_stays_home`, says what this
makes of a tilde, and that only an absolute path after it leads out of the home directory.
-/

namespace SlashCommands.Path

/-! ### Components -/

/-- A component of a path: the root, the directory itself, the one above it, or a name. -/
inductive Component
  | root
  | here
  | up
  | name (text : String)
  deriving DecidableEq, Repr

/-- What a piece of a path leads to, if anywhere. -/
def Component.ofPiece? (piece : String) : Option Component :=
  if isIdle piece then none else if piece == ".." then some .up else some (.name piece)

/-- Where a path leads from its start. -/
def steps (path : String) : List Component :=
  (pieces path).filterMap Component.ofPiece?

/-- The components of a path. -/
def components (path : String) : List Component :=
  if isAbsolute path then .root :: steps path
  else if (pieces path).head? = some "." then .here :: steps path
  else steps path

theorem here_not_mem_steps (path : String) : .here ∉ steps path := by
  intro hmem
  obtain ⟨piece, -, hpiece⟩ := List.mem_filterMap.mp hmem
  rw [Component.ofPiece?] at hpiece
  split at hpiece
  · cases hpiece
  · split at hpiece <;> cases hpiece

theorem filter_steps (path : String) : (steps path).filter (· ≠ .here) = steps path := by
  refine List.filter_eq_self.mpr fun component hmem => decide_eq_true ?_
  rintro rfl
  exact here_not_mem_steps path hmem

/-- Of the components of a relative path only a point in front is no step. -/
theorem filter_components {path : String} (h : ¬ isAbsolute path) :
    (components path).filter (· ≠ .here) = steps path := by
  rw [components, if_neg h]
  split
  · rw [List.filter_cons_of_neg (by decide), filter_steps]
  · exact filter_steps path

theorem steps_append (path rest : String) :
    steps (path ++ "/" ++ rest) = steps path ++ steps rest := by
  rw [steps, pieces_append, List.filterMap_append]
  rfl

/-! ### Joined paths -/

section

variable {base rest : String}

theorem isAbsolute_append (h : isAbsolute base) : isAbsolute (base ++ rest) := by
  rw [isAbsolute, beq_iff_eq] at h ⊢
  rw [String.toList_append, List.head?_append, h]
  rfl

/-- An absolute path continues to be one, or gives way to one. -/
theorem isAbsolute_join (h : isAbsolute base) : isAbsolute (join base rest) := by
  rw [join]
  split
  · next hrest =>
    rcases Bool.or_eq_true_iff.mp hrest with hrest | hempty
    · exact hrest
    · rw [String.isEmpty_iff.mp hempty] at h
      cases h
  · split
    · exact isAbsolute_append h
    · exact isAbsolute_append (isAbsolute_append h)

theorem join_of_isAbsolute (h : isAbsolute rest) : join base rest = rest := by
  rw [join, h, Bool.true_or, if_pos rfl]

/-- A slash at the end of the path that is continued makes no difference. -/
theorem steps_join (hbase : isAbsolute base) (hrest : ¬ isAbsolute rest) :
    steps (join base rest) = steps base ++ steps rest := by
  have hempty : base.isEmpty = false := by
    refine Bool.eq_false_iff.mpr fun hempty => ?_
    rw [String.isEmpty_iff.mp hempty] at hbase
    cases hbase
  rw [join, hempty, Bool.or_false, if_neg hrest]
  split
  · next hslash =>
    obtain ⟨front, hfront⟩ := List.getLast?_eq_some_iff.mp (beq_iff_eq.mp hslash)
    have hsplit : base = String.ofList front ++ "/" ++ "" := by
      rw [← String.toList_inj, hfront, String.append_empty, String.toList_append,
        String.toList_ofList]
      rfl
    have hend : steps "" = [] := by decide +kernel
    have hjoined : base ++ rest = String.ofList front ++ "/" ++ rest := by
      rw [hsplit, String.append_empty]
    rw [hjoined, steps_append, hsplit, steps_append, hend, List.append_nil]
  · exact steps_append base rest

/-- A relative path that is joined to an absolute one continues its components; a point in front of
it falls away. -/
theorem components_join (hbase : isAbsolute base) (hrest : ¬ isAbsolute rest) :
    components (join base rest) = components base ++ (components rest).filter (· ≠ .here) := by
  rw [components, if_pos (isAbsolute_join hbase), components, if_pos hbase, steps_join hbase hrest,
    filter_components hrest, List.cons_append]

end

/-! ### Tildes -/

/-- A path with a tilde becomes absolute or stays as it is. -/
theorem isAbsolute_expandTilde_or_eq {home : String} (hhome : isAbsolute home) (path : String) :
    isAbsolute (expandTilde home path) ∨ expandTilde home path = path := by
  by_cases htilde : path = "~"
  · rw [htilde]
    exact .inl hhome
  · by_cases hstart : "~/".toList <+: path.toList
    · obtain ⟨rest, hrest⟩ := hstart
      have hlist : (String.ofList rest).toList = rest := String.toList_ofList
      have hpath : path = "~/" ++ String.ofList rest := by
        rw [← String.toList_inj, String.toList_append, hlist, hrest]
      rw [hpath, expandTilde_append]
      exact .inl (isAbsolute_join hhome)
    · exact .inr (expandTilde_eq_self htilde hstart)

theorem expandTilde_of_isAbsolute {home path : String} (h : isAbsolute path) :
    expandTilde home path = path := by
  refine expandTilde_eq_self ?_ ?_
  · rintro rfl
    cases h
  · rintro ⟨rest, hrest⟩
    rw [isAbsolute, ← hrest] at h
    cases h

/-- **A tilde stays under the home directory.**  A path that is neither a tilde nor starts with one
and a slash is left as it is, and a tilde becomes the home directory.  A path after a tilde and a
slash continues the components of the home directory, just in case it is not absolute; an absolute
one takes the place of the whole.  What has been expanded is not changed again. -/
theorem expandTilde_stays_home {home : String} (hhome : isAbsolute home) :
    (∀ path, path ≠ "~" → ¬ "~/".toList <+: path.toList → expandTilde home path = path) ∧
    expandTilde home "~" = home ∧
    (∀ rest, components (expandTilde home ("~/" ++ rest)) =
      components home ++ (components rest).filter (· ≠ .here) ↔ ¬ isAbsolute rest) ∧
    (∀ rest, isAbsolute rest → expandTilde home ("~/" ++ rest) = rest) ∧
    ∀ path, expandTilde home (expandTilde home path) = expandTilde home path := by
  refine ⟨fun path htilde hstart => expandTilde_eq_self htilde hstart,
    expandTilde_tilde home, fun rest => ?_, fun rest hrest => ?_, fun path => ?_⟩
  · rw [expandTilde_append]
    constructor
    · intro hcomponents hrest
      rw [join_of_isAbsolute hrest, components, if_pos hrest, components, if_pos hhome,
        List.filter_cons_of_pos (by decide)] at hcomponents
      -- two roots are one component too many
      have hlength := congrArg List.length hcomponents
      rw [filter_steps, List.length_cons, List.length_append, List.length_cons, List.length_cons]
        at hlength
      omega
    · exact components_join hhome
  · rw [expandTilde_append, join_of_isAbsolute hrest]
  · rcases isAbsolute_expandTilde_or_eq hhome path with habsolute | heq
    · exact expandTilde_of_isAbsolute habsolute
    · rw [heq, heq]

/-- A point, a double slash and a slash at the end make no difference under a home directory. -/
theorem expandTilde_stays_home_bot :
    components (expandTilde "/home/bot" ("~/" ++ "./commands//ban.toml/")) =
      components "/home/bot" ++ [.name "commands", .name "ban.toml"] := by
  have hhome : isAbsolute "/home/bot" := by decide +kernel
  obtain ⟨-, -, hunder, -, -⟩ := expandTilde_stays_home hhome
  rw [(hunder "./commands//ban.toml/").mpr (by decide +kernel)]
  decide +kernel

/-- A second slash after the tilde leads out of the home directory. -/
theorem expandTilde_leaves_home :
    expandTilde "/home/bot" "~//etc" = "/etc" ∧
      ¬ components "/home/bot" <+: components (expandTilde "/home/bot" "~//etc") := by
  decide +kernel

end SlashCommands.Path
