import SlashCommands.Proofs.Files.Writing
import SlashCommands.Proofs.Settings.Merging
import SlashCommands.Proofs.Toml.Documents

/-!
# Saving settings

A codec `ReadsBack` if it reads the documents that it writes for settings; the one that the program
runs with does (`Toml.codec_readsBack`).  Settings are read from their document
(`Settings.ofDatum?_documentDatum`), and merging leaves them alone if no flag is given, no variable
fills in a credential and the path of the manifest has no tilde.  The main statement,
`Settings.load_save`, puts this together with a host that keeps what is written.
-/

namespace SlashCommands

namespace Settings

open Datum (fields? text?)

variable {s : Settings}

/-! ### Documents -/

theorem fitsInt64_natCast_iff {n : Nat} : Datum.fitsInt64 n ↔ n ≤ 9223372036854775807 := by
  have hmin : Int64.minValue.toInt = -9223372036854775808 := by decide
  have hmax : Int64.maxValue.toInt = 9223372036854775807 := by decide
  rw [Datum.fitsInt64, Bool.and_eq_true, decide_eq_true_eq, decide_eq_true_eq, hmin, hmax]
  omega

theorem isWritable_sections (h : Datum.fitsInt64 s.maxSuggestions) :
    ∀ table ∈ s.sections, table.IsWritable := by
  refine List.forall_mem_cons.mpr ⟨?_, List.forall_mem_singleton.mpr ?_⟩
  · exact {
      name := show Toml.IsBareKey "discord" by decide +kernel
      key := show ∀ key ∈ ["token", "application_id", "api_base"], Toml.IsBareKey key by
        decide +kernel
      value := by
        simp only [List.forall_mem_cons, List.not_mem_nil, false_implies, implies_true, and_true]
        exact ⟨.text _, .text _, .text _⟩
      nodup := show ["token", "application_id", "api_base"].Nodup by decide +kernel }
  · exact {
      name := show Toml.IsBareKey "commands" by decide +kernel
      key := show ∀ key ∈ ["denial_message", "max_suggestions", "manifest"], Toml.IsBareKey key by
        decide +kernel
      value := by
        simp only [List.forall_mem_cons, List.not_mem_nil, false_implies, implies_true, and_true]
        exact ⟨.text _, .int h, .text _⟩
      nodup := show ["denial_message", "max_suggestions", "manifest"].Nodup by decide +kernel }

/-- Settings are read from the data that they are written as. -/
theorem ofDatum?_documentDatum (h : Datum.fitsInt64 s.maxSuggestions) :
    ofDatum? (Toml.documentDatum s.sections) = some s := by
  have hunsigned : Datum.unsigned? 64 (.int s.maxSuggestions) = some s.maxSuggestions := by
    have hle := fitsInt64_natCast_iff.mp h
    refine if_pos ⟨Int.natCast_nonneg _, ?_⟩
    rw [Int.toNat_natCast, Nat.one_shiftLeft]
    omega
  have hplatform : withPlatform? {} (.table [("token", .text s.token),
        ("application_id", .text s.applicationId), ("api_base", .text s.apiBase)]) =
      some { token := s.token, applicationId := s.applicationId, apiBase := s.apiBase } := by
    simp [withPlatform?, fields?, Datum.noRepeat, Datum.Fields.withDefault, Datum.Fields.find?,
      Datum.lookup?, Datum.Fields.optionalLast, Datum.Fields.nullable, text?]
  have hcommands (t : Settings) : withCommands? t (.table [
        ("denial_message", .text s.denialMessage), ("max_suggestions", .int s.maxSuggestions),
        ("manifest", .text s.manifest)]) =
      some { t with
        denialMessage := s.denialMessage
        maxSuggestions := s.maxSuggestions
        manifest := s.manifest } := by
    simp [withCommands?, fields?, Datum.noRepeat, Datum.Fields.withDefault, Datum.Fields.find?,
      Datum.lookup?, Datum.Fields.optionalLast, Datum.Fields.nullable, text?, hunsigned]
  simp [ofDatum?, Toml.documentDatum, sections, fields?, Datum.noRepeat, Datum.Fields.withDefault,
    Datum.Fields.find?, Datum.lookup?, hplatform, hcommands]

/-! ### Merging -/

/-- Merging leaves settings alone if no flag is given, their blank credentials are not filled in and
the path of the manifest has no tilde. -/
theorem merge_eq_self {env : Environment} {home : String}
    (htoken : Text.isBlankText s.token → env.token = none)
    (happlication : Text.isBlankText s.applicationId → env.applicationId = none)
    (hmanifest : Path.expandTilde home s.manifest = s.manifest) : s.merge env {} home = s := by
  have hfill {value : String} {other : Option String}
      (hother : Text.isBlankText value → other = none) : fillBlank value other = value := by
    rw [fillBlank]
    split
    · next hblank => rw [hother hblank, Option.getD_none]
    · rfl
  have hcredentials : s.fillCredentials env = s := by
    rw [fillCredentials, hfill htoken, hfill happlication]
  have hflags : s.applyFlags {} = s := rfl
  rw [merge, hcredentials, hflags, expandPaths, hmanifest]

end Settings

/-! ### Codecs -/

/-- Holds of codecs that read the documents that they write for settings. -/
def Toml.Codec.ReadsBack (toml : Toml.Codec) : Prop :=
  ∀ (s : Settings) (text : String), toml.write s.sections = .ok text →
    toml.read? text = some (Toml.documentDatum s.sections)

/-- The codec that the program runs with reads back what it writes. -/
theorem Toml.codec_readsBack : Toml.codec.ReadsBack := by
  intro s text hwrite
  have hnodup : (s.sections.map (·.name)).Nodup :=
    show ["discord", "commands"].Nodup by decide +kernel
  rw [show Toml.codec.write s.sections = if s.sections.all Section.fits then _ else _ from rfl]
    at hwrite
  split at hwrite
  · next hfits =>
    have hmax : Datum.fitsInt64 s.maxSuggestions := by
      have hcommands := List.all_eq_true.mp hfits _ (List.mem_cons_of_mem _ List.mem_cons_self)
      exact List.all_eq_true.mp hcommands _ (List.mem_cons_of_mem _ List.mem_cons_self)
    cases hwrite
    exact Toml.read?_write (Settings.isWritable_sections hmax) hnodup
  · cases hwrite

/-! ### Saving -/

/-- Holds if a host takes a file: the directory that the file lies in is made, if it lies in one,
and the file is written. -/
inductive Host.Takes {σ : Type} (host : Host (StateM σ)) (path content : String)
    (before after : σ) : Prop
  | bare (hparent : Path.parent? path = none)
    (hwrite : (host.write path content).run before = (.ok (), after))
  | within {parent : String} {between : σ} (hparent : Path.parent? path = some parent)
    (hdirectory : (host.makeDirectories parent).run before = (.ok (), between))
    (hwrite : (host.write path content).run between = (.ok (), after))

namespace Settings

variable {σ : Type} {toml : Toml.Codec} {host : Host (StateM σ)} {s : Settings}
  {path : Option String} {before after : σ}

/-- What a host takes is written once the directory is there. -/
theorem takes_iff {file content : String} :
    host.Takes file content before after ↔
      ∃ between, (makeParent host file).run before = (.ok (), between) ∧
        (host.write file content).run between = (.ok (), after) := by
  cases hparent : Path.parent? file with
  | none =>
    have hmade : (makeParent host file).run before = (.ok (), before) := by
      rw [makeParent, hparent]
      rfl
    rw [hmade]
    constructor
    · rintro (⟨-, hwrite⟩ | ⟨hparent', -, -⟩)
      · exact ⟨before, rfl, hwrite⟩
      · rw [hparent] at hparent'
        cases hparent'
    · rintro ⟨between, hbetween, hwrite⟩
      cases hbetween
      exact .bare hparent hwrite
  | some parent =>
    have hmade : (makeParent host file).run before =
        (((host.makeDirectories parent).run before).1.mapError (.directory parent),
          ((host.makeDirectories parent).run before).2) := by
      rw [makeParent, hparent]
      rfl
    rw [hmade]
    constructor
    · rintro (⟨hparent', -⟩ | ⟨hparent', hdirectory, hwrite⟩)
      · rw [hparent] at hparent'
        cases hparent'
      · cases hparent.symm.trans hparent'
        exact ⟨_, by rw [hdirectory]; rfl, hwrite⟩
    · rintro ⟨between, hbetween, hwrite⟩
      refine .within hparent ?_ hwrite
      generalize (host.makeDirectories parent).run before = made at hbetween
      obtain ⟨result, state⟩ := made
      cases result with
      | error fault => cases hbetween
      | ok =>
        cases hbetween
        rfl

/-- Settings are saved just in case their document can be written and the host takes it. -/
theorem run_save_eq_ok_iff :
    (save toml host s path).run before = (.ok (), after) ↔
      ∃ text, toml.write s.sections = .ok text ∧
        host.Takes (filePath host.home path) text before after := by
  simp only [takes_iff]
  rw [save, StateT.run_bind]
  generalize (makeParent host (filePath host.home path)).run before = made
  obtain ⟨result, between⟩ := made
  cases result with
  | error fault =>
    constructor
    · rintro ⟨⟩
    · rintro ⟨text, -, between, ⟨⟩, -⟩
  | ok =>
    cases toml.write s.sections with
    | error cause =>
      constructor
      · rintro ⟨⟩
      · rintro ⟨text, ⟨⟩, -⟩
    | ok text =>
      show (host.write (filePath host.home path) text >>= fun written =>
        pure (written.mapError (SaveFault.file _))).run between = _ ↔ _
      rw [StateT.run_bind]
      generalize hwrite : (host.write (filePath host.home path) text).run between = written
      obtain ⟨result, state⟩ := written
      constructor
      · intro h
        refine ⟨text, rfl, between, rfl, ?_⟩
        rw [hwrite]
        cases result with
        | error fault => cases h
        | ok =>
          cases h
          rfl
      · rintro ⟨_, ⟨rfl⟩, _, ⟨rfl⟩, h⟩
        rw [hwrite] at h
        cases h
        rfl

/-- Settings that a host keeps are loaded if merging leaves them alone. -/
theorem load_of_run_save (htoml : toml.ReadsBack) (hkeeps : host.Keeps) (hs : s.fault? = none)
    (hsave : (save toml host s path).run before = (.ok (), after)) {env : Environment}
    (hmerge : s.merge env {} host.home = s) : ((load toml host env path {}).run after).1 = .ok s := by
  obtain ⟨text, htext, htakes⟩ := run_save_eq_ok_iff.mp hsave
  obtain ⟨between, -, hwrite⟩ := takes_iff.mp htakes
  have hcontent : host.content? (filePath host.home path) after = some (.ok text) := by
    rw [Host.content?, hkeeps.exists? hwrite]
    dsimp only
    rw [if_pos rfl, hkeeps.read hwrite]
  -- so few suggestions fit a document
  have hread : (toml.read? text).bind ofDatum? = some s := by
    have hle := maxSuggestions_le_of_fault?_eq_none hs
    rw [htoml s text htext, Option.bind_some]
    exact ofDatum?_documentDatum (fitsInt64_natCast_iff.mpr (by omega))
  have hfile : ofContent toml (filePath host.home path) (some (.ok text)) = .ok s := by
    rw [ofContent, hread]
  rw [load_fst, hcontent, ofSources_of_ofContent hfile, hmerge, hs]

/-- **What is saved is loaded.**  With a codec that reads back what it writes and a host that keeps
what it takes: settings are saved just in case their document can be written and the host takes the
file.  Once they are saved, and if they have no fault and the path of the manifest has no tilde, the
same settings are loaded when neither variable is set, and whatever the variables are if no
credential is blank. -/
theorem load_save (htoml : toml.ReadsBack) (hkeeps : host.Keeps) (hs : s.fault? = none)
    (htilde : s.manifest ≠ "~") (hstart : ¬ "~/".toList <+: s.manifest.toList)
    (path : Option String) (before after : σ) :
    let file := path.getD (Path.expandTilde host.home "~/.slashkit/config.toml")
    let saved := (save toml host s path).run before = (.ok (), after)
    (saved ↔ ∃ text, toml.write s.sections = .ok text ∧ host.Takes file text before after) ∧
      (saved → ((load toml host {} path {}).run after).1 = .ok s) ∧
      (saved → ¬ Text.isBlankText s.token → ¬ Text.isBlankText s.applicationId →
        ∀ env, ((load toml host env path {}).run after).1 = .ok s) := by
  intro file saved
  have hmanifest : Path.expandTilde host.home s.manifest = s.manifest :=
    Path.expandTilde_eq_self htilde hstart
  refine ⟨run_save_eq_ok_iff, fun hsave => ?_, fun hsave htoken happlication env => ?_⟩
  · exact load_of_run_save htoml hkeeps hs hsave
      (merge_eq_self (fun _ => rfl) (fun _ => rfl) hmanifest)
  · exact load_of_run_save htoml hkeeps hs hsave (merge_eq_self
      (fun hblank => absurd hblank htoken) (fun hblank => absurd hblank happlication) hmanifest)

/-- Quotes and line breaks survive, and a tilde in front of a name is none. -/
theorem load_save_new_directory :
    let host := Files.host "/home/bot"
    let s : Settings := { token := "it's\n\"\"\"secret", manifest := "~bot/commands.toml" }
    ∃ after, (save Toml.codec host s (some "conf/bot.toml")).run (Files.empty "/srv") =
        (.ok (), after) ∧
      ((load Toml.codec host {} (some "conf/bot.toml") {}).run after).1 = .ok s := by
  intro host s
  have hrun {result : Except SaveFault Unit × Files} (h : result.1.toOption = some ()) :
      result = (.ok (), result.2) := by
    obtain ⟨outcome, files⟩ := result
    cases outcome with
    | error fault => cases h
    | ok => rfl
  have hsave : (save Toml.codec host s (some "conf/bot.toml")).run (Files.empty "/srv") =
      (.ok (), _) := hrun (by decide +kernel)
  -- which tree this is does not matter
  generalize ((save Toml.codec host s (some "conf/bot.toml")).run (Files.empty "/srv")).2 = after
    at hsave
  have hs : s.fault? = none := by decide +kernel
  obtain ⟨-, hload, -⟩ := load_save Toml.codec_readsBack (Files.host_keeps "/home/bot") hs
    (by decide +kernel) (by decide +kernel) (some "conf/bot.toml") (Files.empty "/srv") after
  exact ⟨after, hsave, hload hsave⟩

end Settings

end SlashCommands
