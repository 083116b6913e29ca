import SlashCommands.Proofs.Settings.Loading
import SlashCommands.Toml

/-!
# Merging settings

A document may leave any setting out; `StoredSettings` is what it says before defaults are filled
in.  `StoredSettings.effective` gives each setting from its own sources, and `merge_withDefaults`
says that this is what the file, the environment and the flags amount to.  The main statement,
`Settings.load_merges`, says when settings are loaded and which, and that what a file says does not
count where a flag replaces it.
-/

namespace SlashCommands

open Datum (fields? text? unsigned?)

/-! ### What a document says -/

/-- What a document says of the platform. -/
structure StoredPlatform where
  token : String := ""
  applicationId : String := ""
  apiBase : Option String := none
  deriving DecidableEq, Repr

/-- What a document says of the commands. -/
structure StoredCommands where
  denialMessage : Option String := none
  maxSuggestions : Option Nat := none
  manifest : Option String := none
  deriving DecidableEq, Repr

/-- What a document says of the settings. -/
structure StoredSettings where
  platform : StoredPlatform := {}
  commands : StoredCommands := {}
  deriving DecidableEq, Repr

/-- Reads what is said of the platform. -/
def StoredPlatform.ofDatum? (d : Datum) : Option StoredPlatform := do
  let f ← fields? .toml ["token", "application_id", "api_base"] d
  return {
    token := ← f.withDefault "token" "" text?
    applicationId := ← f.withDefault "application_id" "" text?
    apiBase := ← f.optionalLast "api_base" text? }

/-- Reads what is said of the commands. -/
def StoredCommands.ofDatum? (d : Datum) : Option StoredCommands := do
  let f ← fields? .toml ["denial_message", "max_suggestions", "manifest"] d
  return {
    denialMessage := ← f.optionalLast "denial_message" text?
    maxSuggestions := ← f.optionalLast "max_suggestions" (unsigned? 64)
    manifest := ← f.optionalLast "manifest" text? }

/-- Reads what is said of the settings; of a table that is missing nothing is said. -/
def StoredSettings.ofDatum? (d : Datum) : Option StoredSettings := do
  let f ← fields? .toml ["discord", "commands"] d
  return {
    platform := ← f.withDefault "discord" {} StoredPlatform.ofDatum?
    commands := ← f.withDefault "commands" {} StoredCommands.ofDatum? }

/-- The settings with what is said of the platform. -/
def StoredPlatform.fill (platform : StoredPlatform) (s : Settings) : Settings :=
  { s with
    token := platform.token
    applicationId := platform.applicationId
    apiBase := platform.apiBase.getD s.apiBase }

/-- The settings with what is said of the commands. -/
def StoredCommands.fill (commands : StoredCommands) (s : Settings) : Settings :=
  { s with
    denialMessage := commands.denialMessage.getD s.denialMessage
    maxSuggestions := commands.maxSuggestions.getD s.maxSuggestions
    manifest := commands.manifest.getD s.manifest }

/-- The settings that a document has; what it leaves out has its default. -/
def StoredSettings.withDefaults (file : StoredSettings) : Settings :=
  file.commands.fill (file.platform.fill {})

/-- What is made of a field can be made of its default and of what is read. -/
theorem Datum.Fields.withDefault_map {α β : Type} (f : Fields) (name : String) (value : α)
    (decode : Datum → Option α) (g : α → β) :
    f.withDefault name (g value) (fun d => (decode d).map g) =
      (f.withDefault name value decode).map g := by
  rw [withDefault, withDefault]
  cases f.find? name <;> rfl

theorem Settings.withPlatform?_eq (s : Settings) (d : Datum) :
    s.withPlatform? d = (StoredPlatform.ofDatum? d).map (·.fill s) := by
  simp only [withPlatform?, StoredPlatform.ofDatum?, Option.bind_eq_bind, Option.pure_def,
    Option.map_bind, Function.comp_def, Option.map_some, StoredPlatform.fill]

theorem Settings.withCommands?_eq (s : Settings) (d : Datum) :
    s.withCommands? d = (StoredCommands.ofDatum? d).map (·.fill s) := by
  simp only [withCommands?, StoredCommands.ofDatum?, Option.bind_eq_bind, Option.pure_def,
    Option.map_bind, Function.comp_def, Option.map_some, StoredCommands.fill]

/-- A document is read by reading what it says and filling in the defaults. -/
theorem Settings.ofDatum?_eq (d : Datum) :
    Settings.ofDatum? d = (StoredSettings.ofDatum? d).map StoredSettings.withDefaults := by
  -- a table that is missing leaves all as it is
  have hplatform (f : Datum.Fields) : f.withDefault "discord" {} (withPlatform? {}) =
      (f.withDefault "discord" {} StoredPlatform.ofDatum?).map (·.fill {}) := by
    rw [← Datum.Fields.withDefault_map, ← funext (withPlatform?_eq {})]
    rfl
  have hcommands (f : Datum.Fields) (s : Settings) : f.withDefault "commands" s (withCommands? s) =
      (f.withDefault "commands" {} StoredCommands.ofDatum?).map (·.fill s) := by
    rw [← Datum.Fields.withDefault_map, ← funext (withCommands?_eq s)]
    rfl
  simp only [Settings.ofDatum?, StoredSettings.ofDatum?, hplatform, hcommands, Option.bind_eq_bind,
    Option.pure_def, Option.map_eq_bind, Option.bind_assoc, Option.bind_some, Function.comp_def,
    StoredSettings.withDefaults]

/-! ### Precedence -/

/-- A credential: that of the flag; else the stored one, unless it is blank; else that of the
variable; else the stored one as it is. -/
def credential (flag : Option String) (stored : String) (fromEnvironment : Option String) :
    String :=
  match flag with
  | some value => value
  | none => if Text.isBlankText stored then fromEnvironment.getD stored else stored

namespace StoredSettings

/-- The settings that a file, the environment and flags give, each by its own sources. -/
def effective (file : StoredSettings) (env : Environment) (flags : SettingsFlags) (home : String) :
    Settings where
  token := credential flags.token file.platform.token env.token
  applicationId := credential flags.applicationId file.platform.applicationId env.applicationId
  apiBase := (flags.apiBase.or file.platform.apiBase).getD "https://discord.com/api/v10"
  denialMessage :=
    file.commands.denialMessage.getD "You do not have permission to use this command."
  maxSuggestions := file.commands.maxSuggestions.getD 25
  manifest := Path.expandTilde home ((flags.manifest.or file.commands.manifest).getD
    "~/.slashkit/commands.toml")

/-- Holds of files that say the same where no flag replaces it. -/
structure AgreesBesides (flags : SettingsFlags) (file other : StoredSettings) : Prop where
  token : flags.token = none → file.platform.token = other.platform.token
  applicationId :
    flags.applicationId = none → file.platform.applicationId = other.platform.applicationId
  apiBase : flags.apiBase = none → file.platform.apiBase = other.platform.apiBase
  denialMessage : file.commands.denialMessage = other.commands.denialMessage
  maxSuggestions : file.commands.maxSuggestions = other.commands.maxSuggestions
  manifest : flags.manifest = none → file.commands.manifest = other.commands.manifest

variable {file other : StoredSettings} {flags : SettingsFlags}

theorem credential_eq (flag : Option String) (stored : String) (fromEnvironment : Option String) :
    flag.getD (fillBlank stored fromEnvironment) = credential flag stored fromEnvironment := by
  cases flag <;> rfl

/-- Merging gives each setting by its own sources. -/
theorem merge_withDefaults (file : StoredSettings) (env : Environment) (flags : SettingsFlags)
    (home : String) : file.withDefaults.merge env flags home = file.effective env flags home := by
  have hor (flag stored : Option String) (value : String) :
      flag.getD (stored.getD value) = (flag.or stored).getD value := by
    cases flag <;> rfl
  rw [effective, ← credential_eq, ← credential_eq, ← hor, ← hor]
  rfl

/-- What a flag replaces does not count. -/
theorem effective_congr (h : AgreesBesides flags file other) (env : Environment) (home : String) :
    file.effective env flags home = other.effective env flags home := by
  have hcredential {flag : Option String} {stored stored' : String} (given : Option String)
      (hstored : flag = none → stored = stored') :
      credential flag stored given = credential flag stored' given := by
    cases flag with
    | none => rw [hstored rfl]
    | some value => rfl
  have hor {flag stored stored' : Option String} (hstored : flag = none → stored = stored') :
      flag.or stored = flag.or stored' := by
    cases flag with
    | none => rw [hstored rfl]
    | some value => rfl
  rw [effective, effective, hcredential env.token h.token,
    hcredential env.applicationId h.applicationId, hor h.apiBase, hor h.manifest, h.denialMessage,
    h.maxSuggestions]

/-- Holds of a file and what it says, given its content: a file that is not there says nothing, and
another must be readable and a document of settings. -/
inductive IsReadFrom (toml : Toml.Codec) : Option (Except FileFault String) → StoredSettings → Prop
  | absent : IsReadFrom toml none {}
  | document {text : String} {datum : Datum} {file : StoredSettings}
    (hread : toml.read? text = some datum) (hfile : ofDatum? datum = some file) :
    IsReadFrom toml (some (.ok text)) file

theorem ofContent_eq_ok_iff {toml : Toml.Codec} {path : String}
    {content : Option (Except FileFault String)} {s : Settings} :
    Settings.ofContent toml path content = .ok s ↔
      ∃ file, IsReadFrom toml content file ∧ s = file.withDefaults := by
  constructor
  · intro h
    unfold Settings.ofContent at h
    split at h
    · cases h
      exact ⟨{}, .absent, rfl⟩
    · cases h
    · next text =>
      split at h
      · next hs =>
        cases h
        obtain ⟨datum, hread, hs⟩ := Option.bind_eq_some_iff.mp hs
        rw [Settings.ofDatum?_eq] at hs
        obtain ⟨file, hfile, rfl⟩ := Option.map_eq_some_iff.mp hs
        exact ⟨file, .document hread hfile, rfl⟩
      · cases h
  · rintro ⟨file, hfile, rfl⟩
    cases hfile with
    | absent => rfl
    | @document text _ _ hread hfile =>
      have hs : (toml.read? text).bind Settings.ofDatum? = some file.withDefaults := by
        rw [hread, Option.bind_some, Settings.ofDatum?_eq, hfile]
        rfl
      simp only [Settings.ofContent, hs]

end StoredSettings

/-! ### Loading -/

/-- What a host has at a path, if anything. -/
def Host.content? {σ : Type} (host : Host (StateM σ)) (path : String) (before : σ) :
    Option (Except FileFault String) :=
  let there := (host.exists? path).run before
  if there.1 then some ((host.read path).run there.2).1 else none

theorem Files.content?_host (home path : String) (f : Files) :
    (host home).content? path f = if f.exists? path then some (f.read path) else none := rfl

namespace Settings

/-- Holds of settings that are not refused. -/
structure IsSound (s : Settings) : Prop where
  one_le : 1 ≤ s.maxSuggestions
  le_max : s.maxSuggestions ≤ 25
  denialMessage : ¬ Text.isBlankText s.denialMessage
  apiBase : ¬ Text.isBlankText s.apiBase

theorem fault?_eq_none_iff {s : Settings} : s.fault? = none ↔ s.IsSound := by
  rw [fault?]
  constructor
  · intro h
    split at h
    · cases h
    · next hbounds =>
      rw [Bool.or_eq_true, decide_eq_true_eq, decide_eq_true_eq, not_or] at hbounds
      split at h
      · cases h
      · next hdenial =>
        split at h
        · cases h
        · next hbase => exact ⟨by omega, Nat.not_lt.mp hbounds.2, hdenial, hbase⟩
  · intro h
    have hbounds : ¬ (s.maxSuggestions < 1 || SlashCommands.maxSuggestions < s.maxSuggestions) := by
      rw [Bool.or_eq_true, decide_eq_true_eq, decide_eq_true_eq, not_or]
      exact ⟨Nat.not_lt.mpr h.one_le, Nat.not_lt.mpr h.le_max⟩
    rw [if_neg hbounds, if_neg h.denialMessage, if_neg h.apiBase]

variable {σ : Type} {toml : Toml.Codec} {host : Host (StateM σ)} {env : Environment}
  {path : Option String} {flags : SettingsFlags} {before : σ}

/-- What is loaded depends on the content of the file only. -/
theorem load_fst (toml : Toml.Codec) (host : Host (StateM σ)) (env : Environment)
    (path : Option String) (flags : SettingsFlags) (before : σ) :
    ((load toml host env path flags).run before).1 =
      ofSources toml (filePath host.home path) (host.content? (filePath host.home path) before) env
        flags host.home := by
  rw [run_load, Host.content?]
  dsimp only
  split <;> rfl

/-- Settings that a file, the environment and flags give are loaded unless there is a fault. -/
theorem load_of_isReadFrom {file : StoredSettings}
    (h : StoredSettings.IsReadFrom toml (host.content? (filePath host.home path) before) file) :
    ((load toml host env path flags).run before).1 =
      (file.effective env flags host.home).fault?.elim (.ok (file.effective env flags host.home))
        fun fault => .error (.refused fault) := by
  rw [load_fst, ofSources_of_ofContent (StoredSettings.ofContent_eq_ok_iff.mpr ⟨file, h, rfl⟩),
    StoredSettings.merge_withDefaults]
  cases (file.effective env flags host.home).fault? <;> rfl

/-- If settings are loaded, then the file says something or is not there. -/
theorem exists_isReadFrom_of_load {s : Settings}
    (h : ((load toml host env path flags).run before).1 = .ok s) :
    ∃ file,
      StoredSettings.IsReadFrom toml (host.content? (filePath host.home path) before) file := by
  rw [load_fst, ofSources] at h
  cases hcontent :
      ofContent toml (filePath host.home path)
        (host.content? (filePath host.home path) before) with
  | error fault =>
    rw [hcontent] at h
    cases h
  | ok stored =>
    obtain ⟨file, hfile, -⟩ := StoredSettings.ofContent_eq_ok_iff.mp hcontent
    exact ⟨file, hfile⟩

/-- **Settings are merged and then checked.**  The file is the one that is given, or else the usual
one.  Settings are loaded if the file is not there, or can be read and is a document of settings, and
what it amounts to together with the environment and the flags is sound; and this is what is loaded.
If two files differ only where flags replace what they say, then what is loaded with either is the
same, and so is why nothing is. -/
theorem load_merges (toml : Toml.Codec) (host : Host (StateM σ)) (env : Environment)
    (path : Option String) (flags : SettingsFlags) (before : σ) :
    let content := host.content? (path.getD (Path.expandTilde host.home "~/.slashkit/config.toml"))
    let outcome (state : σ) := ((load toml host env path flags).run state).1
    (∀ s, outcome before = .ok s ↔ ∃ file, StoredSettings.IsReadFrom toml (content before) file ∧
      s = file.effective env flags host.home ∧ s.IsSound) ∧
    ∀ after file other, StoredSettings.IsReadFrom toml (content before) file →
      StoredSettings.IsReadFrom toml (content after) other →
      StoredSettings.AgreesBesides flags file other → outcome before = outcome after := by
  intro content outcome
  refine ⟨fun s => ⟨fun h => ?_, ?_⟩, fun after file other hfile hother hagrees => ?_⟩
  · obtain ⟨file, hfile⟩ := exists_isReadFrom_of_load h
    rw [show outcome before = _ from load_of_isReadFrom hfile] at h
    cases hfault : (file.effective env flags host.home).fault? with
    | some fault =>
      rw [hfault] at h
      cases h
    | none =>
      rw [hfault] at h
      cases h
      exact ⟨file, hfile, rfl, fault?_eq_none_iff.mp hfault⟩
  · rintro ⟨file, hfile, rfl, hsound⟩
    rw [show outcome before = _ from load_of_isReadFrom hfile, fault?_eq_none_iff.mpr hsound]
    rfl
  · rw [show outcome before = _ from load_of_isReadFrom hfile,
      show outcome after = _ from load_of_isReadFrom hother,
      StoredSettings.effective_congr hagrees]

/-- The token of the file goes before that of the environment, which fills in the application that
the file leaves out.  With a flag for the address it does not matter that the file has a blank
one. -/
theorem load_merges_sources :
    let files (address : String) : Files :=
      (Files.empty "/srv").put ["bot.toml"] (.file ("[discord]\ntoken = 'file'\napi_base = '" ++
        address ++ "'\n[commands]\nmax_suggestions = 5\n"))
    let env : Environment := { token := some "environment", applicationId := some "7" }
    let flags : SettingsFlags :=
      { apiBase := some "http://localhost", manifest := some "~/bot/commands.toml" }
    let outcome (before : Files) :=
      ((load Toml.codec (Files.host "/home/bot") env (some "bot.toml") flags).run before).1
    outcome (files " ") = .ok {
      token := "file"
      applicationId := "7"
      apiBase := "http://localhost"
      denialMessage := "You do not have permission to use this command."
      maxSuggestions := 5
      manifest := "/home/bot/bot/commands.toml" } ∧
    outcome (files " ") = outcome (files "http://bot") := by
  intro files env flags outcome
  have hread (address : String) (hexists : (files address).exists? "bot.toml")
      (hfile : ((((files address).read "bot.toml").toOption.bind Toml.codec.read?).bind
        StoredSettings.ofDatum?) =
          some ⟨{ token := "file", apiBase := some address }, { maxSuggestions := some 5 }⟩) :
      StoredSettings.IsReadFrom Toml.codec ((Files.host "/home/bot").content? "bot.toml"
        (files address)) ⟨{ token := "file", apiBase := some address },
          { maxSuggestions := some 5 }⟩ := by
    rw [Files.content?_host, if_pos hexists]
    cases htext : (files address).read "bot.toml" with
    | error fault =>
      rw [htext] at hfile
      cases hfile
    | ok text =>
      rw [htext] at hfile
      obtain ⟨datum, hdatum, hfile⟩ := Option.bind_eq_some_iff.mp hfile
      exact .document hdatum hfile
  have hblank := hread " " (by decide +kernel) (by decide +kernel)
  have hgiven := hread "http://bot" (by decide +kernel) (by decide +kernel)
  obtain ⟨hloads, hcongr⟩ :=
    load_merges Toml.codec (Files.host "/home/bot") env (some "bot.toml") flags (files " ")
  refine ⟨(hloads _).mpr ⟨_, hblank, by decide +kernel, ?_⟩, hcongr (files "http://bot") _ _ hblank
    hgiven ⟨fun _ => rfl, fun _ => rfl, fun h => (by cases h), rfl, rfl, fun _ => rfl⟩⟩
  exact ⟨by decide, by decide, by decide +kernel, by decide +kernel⟩

end Settings

end SlashCommands
