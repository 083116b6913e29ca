import SlashCommands.Settings.File

/-!
# Loading settings

Settings are loaded from a file, if it is there, and from the other sources.  `Settings.run_load`
says that this comes down to what the file has, and `Settings.fault?_of_ofSources` that what is
loaded has been checked.
-/

namespace SlashCommands.Settings

variable {toml : Toml.Codec} {s : Settings}

theorem maxSuggestions_le_of_fault?_eq_none (h : s.fault? = none) : s.maxSuggestions ≤ 25 := by
  rw [fault?] at h
  split at h
  · cases h
  · next hbounds =>
    rw [Bool.or_eq_true, decide_eq_true_eq, decide_eq_true_eq, not_or] at hbounds
    exact Nat.not_lt.mp hbounds.2

theorem ofSources_of_ofContent {path : String} {content : Option (Except FileFault String)}
    {file : Settings} (h : ofContent toml path content = .ok file) (env : Environment)
    (flags : SettingsFlags) (home : String) :
    ofSources toml path content env flags home =
      match (file.merge env flags home).fault? with
      | some fault => .error (.refused fault)
      | none => .ok (file.merge env flags home) := by
  rw [ofSources, h]
  rfl

/-- Settings of all sources have been checked. -/
theorem fault?_of_ofSources {path : String} {content : Option (Except FileFault String)}
    {env : Environment} {flags : SettingsFlags} {home : String}
    (h : ofSources toml path content env flags home = .ok s) : s.fault? = none := by
  cases hcontent : ofContent toml path content with
  | error fault =>
    rw [ofSources, hcontent] at h
    cases h
  | ok file =>
    rw [ofSources_of_ofContent hcontent] at h
    split at h
    · cases h
    · next hnone =>
      cases h
      exact hnone

/-- Loading reads the file if it is there, and puts the sources together. -/
theorem run_load {σ : Type} (toml : Toml.Codec) (host : Host (StateM σ)) (env : Environment)
    (path : Option String) (flags : SettingsFlags) (before : σ) :
    (load toml host env path flags).run before =
      let path := filePath host.home path
      let there := (host.exists? path).run before
      if there.1 then
        let content := (host.read path).run there.2
        (ofSources toml path (some content.1) env flags host.home, content.2)
      else (ofSources toml path none env flags host.home, there.2) := by
  rw [load, StateT.run_bind]
  dsimp only [bind, Id.run]
  split <;> rfl

/-- Settings that are loaded allow for no more suggestions than the platform takes. -/
theorem maxSuggestions_le_of_load {σ : Type} {host : Host (StateM σ)} {env : Environment}
    {path : Option String} {flags : SettingsFlags} {before after : σ}
    (h : (load toml host env path flags).run before = (.ok s, after)) : s.maxSuggestions ≤ 25 := by
  refine maxSuggestions_le_of_fault?_eq_none ?_
  rw [run_load] at h
  dsimp only at h
  split at h
  · exact fault?_of_ofSources (congrArg Prod.fst h)
  · exact fault?_of_ofSources (congrArg Prod.fst h)

end SlashCommands.Settings
