import SlashCommands.CommandLine.Run
import SlashCommands.Json
import SlashCommands.Proofs.Publishing.Refresh
import SlashCommands.Proofs.Rest.Retries
import SlashCommands.Toml
import SlashCommands.Url.Requests

/-!
# Dry runs

What a manifest comes to is told without the program (`ManifestComesTo`).  If it comes to
definitions, these are published on a registry: on the one that only remembers
(`run_replaceCommands_recording`), and on the platform (`run_replaceCommands_of_ok`).  The main
statement, `dryRun_shows_publish`, says that checking, publishing and a dry run fail together if the
manifest is not what it should be, and that otherwise a dry run prints what publishing sends to the
platform.
-/

namespace SlashCommands

/-- What carrying out operations comes to if these follow others. -/
theorem Registry.perform_append {m : Type → Type} [Monad m] [LawfulMonad m] (registry : Registry m)
    (ops ops' : List Operation) :
    registry.perform (ops ++ ops') = (do
      match ← registry.perform ops with
      | .ok () => registry.perform ops'
      | .error failure => return .error failure) := by
  induction ops with
  | nil => rw [List.nil_append, perform, pure_bind]
  | cons op rest ih =>
    rw [List.cons_append, perform, perform, bind_assoc]
    refine bind_congr fun result => ?_
    cases result with
    | ok => exact ih
    | error cause =>
      dsimp only
      rw [pure_bind]

/-- Holds of codecs that can print any value. -/
def Json.Codec.PrintsAll (json : Json.Codec) : Prop :=
  ∀ d, ∃ text, json.pretty d = .ok text

namespace CommandLine

/-! ### What becomes of a manifest -/

/-- Holds of what the content of a manifest comes to: why it cannot be used, or its definitions. -/
inductive ManifestComesTo (toml : Toml.Codec) (path : String) :
    Except FileFault String → Except Failure (List Definition) → Prop
  | unreadable (fault : FileFault) :
    ManifestComesTo toml path (.error fault) (.error (.unreadableManifest path fault))
  | malformed {text : String}
    (h : ∀ datum m, toml.read? text = some datum → Manifest.ofDatum? .toml datum ≠ some m) :
    ManifestComesTo toml path (.ok text) (.error (.malformedManifest path (toml.fault text)))
  | refused {text : String} {datum : Datum} {m : Manifest} {fault : ManifestFault}
    (hread : toml.read? text = some datum) (hm : Manifest.ofDatum? .toml datum = some m)
    (h : m.definitions = .error fault) :
    ManifestComesTo toml path (.ok text) (.error (.manifest fault))
  | sound {text : String} {datum : Datum} {m : Manifest} {definitions : List Definition}
    (hread : toml.read? text = some datum) (hm : Manifest.ofDatum? .toml datum = some m)
    (h : m.definitions = .ok definitions) : ManifestComesTo toml path (.ok text) (.ok definitions)

/-- What a manifest comes to is what the program makes of it. -/
theorem manifestComesTo_iff {toml : Toml.Codec} {path : String}
    {content : Except FileFault String} {result : Except Failure (List Definition)} :
    ManifestComesTo toml path content result ↔ definitionsOf toml path content = result := by
  have hofToml {text : String} {datum : Datum} {m : Manifest} (hread : toml.read? text = some datum)
      (hm : Manifest.ofDatum? .toml datum = some m) : Manifest.ofToml? toml text = some m := by
    rw [Manifest.ofToml?, hread, Option.bind_some, hm]
  constructor
  · intro h
    cases h with
    | unreadable fault => rfl
    | @malformed text h =>
      have hnone : Manifest.ofToml? toml text = none :=
        Option.bind_eq_none_iff.mpr fun datum hread =>
          Option.eq_none_iff_forall_ne_some.mpr (h datum · hread)
      rw [definitionsOf, hnone]
    | refused hread hm h =>
      rw [definitionsOf, hofToml hread hm]
      exact congrArg (Except.mapError Failure.manifest) h
    | sound hread hm h =>
      rw [definitionsOf, hofToml hread hm]
      exact congrArg (Except.mapError Failure.manifest) h
  · rintro rfl
    cases content with
    | error fault => exact .unreadable fault
    | ok text =>
      rw [definitionsOf]
      cases hm : Manifest.ofToml? toml text with
      | none =>
        refine .malformed fun datum m hread hdatum => ?_
        rw [hofToml hread hdatum] at hm
        cases hm
      | some m =>
        obtain ⟨datum, hread, hdatum⟩ := Option.bind_eq_some_iff.mp hm
        dsimp only
        cases hdefinitions : m.definitions with
        | error fault => exact .refused hread hdatum hdefinitions
        | ok definitions => exact .sound hread hdatum hdefinitions

section

variable {σ : Type} {world : World (StateM σ)} {s : Settings} {before : σ}

/-- No task is done with a manifest that comes to nothing. -/
theorem run_task_of_error {failure : Failure}
    (h : definitionsOf world.toml s.manifest ((world.host.read s.manifest).run before).1 =
      .error failure) (task : Task) :
    (task.run world s).run before =
      (.ofResult (.error failure), ((world.host.read s.manifest).run before).2) := by
  rw [Task.run, StateT.run_bind]
  dsimp only [bind]
  rw [h]
  rfl

/-- A task is done with the definitions that a manifest comes to. -/
theorem run_task_of_ok {definitions : List Definition}
    (h : definitionsOf world.toml s.manifest ((world.host.read s.manifest).run before).1 =
      .ok definitions) (task : Task) :
    (task.run world s).run before =
      (task.perform world s definitions).run ((world.host.read s.manifest).run before).2 := by
  rw [Task.run, StateT.run_bind]
  dsimp only [bind]
  rw [h]

end

/-! ### Publishing on a registry -/

/-- The manager with the definitions that are published. -/
def managerOf (s : Settings) (definitions : List Definition) : Manager :=
  (Manager.new s.toManagerSettings).addAll definitions

/-- What is reported when everything has been published. -/
def fullReport (s : Settings) (definitions : List Definition) : PublishReport :=
  { (managerOf s definitions).cache.publishReport with
    clearedGuilds := (managerOf s definitions).cache.guilds.length }

/-- Holds of the failures that come from the registry. -/
def Failure.isOfRegistry : Failure → Bool
  | .reset _ | .publish _ => true
  | _ => false

section

variable (s : Settings) (definitions : List Definition)

/-- Replacing the commands is carrying out two plans, the second if the first succeeds. -/
theorem replaceCommands_eq {m : Type → Type} [Monad m] [LawfulMonad m] (registry : Registry m) :
    replaceCommands registry s definitions = (do
      match ← registry.perform (managerOf s definitions).cache.resetPlan with
      | .error failure => return .error (.reset failure)
      | .ok () =>
        match ← registry.perform (managerOf s definitions).cache.publishPlan with
        | .error failure => return .error (.publish failure)
        | .ok () => return .ok (fullReport s definitions)) := by
  change (managerOf s definitions).reset registry >>= _ = _
  rw [Manager.reset, bind_assoc]
  refine bind_congr fun cleared => ?_
  cases cleared with
  | error failure => exact pure_bind _ _
  | ok =>
    rw [pure_bind]
    change (managerOf s definitions).publish registry >>= _ = _
    rw [Manager.publish, bind_assoc]
    refine bind_congr fun published => ?_
    cases published <;> exact pure_bind _ _

/-- The registry that only remembers takes what refreshes the commands. -/
theorem run_replaceCommands_recording :
    (replaceCommands Registry.recording s definitions).run [] =
      (.ok (fullReport s definitions), (managerOf s definitions).cache.refreshPlan) := by
  rw [replaceCommands_eq, StateT.run_bind, Registry.run_perform Registry.accepts_recording]
  change StateT.run (Registry.recording.perform _ >>= _) _ = _
  rw [StateT.run_bind, Registry.run_perform Registry.accepts_recording,
    Registry.foldl_after_recording, Registry.foldl_after_recording, List.nil_append]
  rfl

variable {s definitions} {registry : Registry Rest.Link} {t final : Rest.Traffic}

/-- If no operation of the plan fails, replacing the commands carries it out. -/
theorem run_replaceCommands_of_ok
    (h : (registry.perform (managerOf s definitions).cache.refreshPlan).run.run t =
      (.ok (.ok ()), final)) :
    (replaceCommands registry s definitions).run.run t =
      (.ok (.ok (fullReport s definitions)), final) := by
  rw [Cache.refreshPlan, Registry.perform_append, Rest.Link.run_bind] at h
  rw [replaceCommands_eq, Rest.Link.run_bind]
  -- the scopes can be emptied, for otherwise the plan would have failed
  generalize (registry.perform (managerOf s definitions).cache.resetPlan).run.run t = cleared
    at h ⊢
  obtain ⟨_ | _ | _, here⟩ := cleared
  · cases h
  · cases h
  · dsimp only at h ⊢
    rw [Rest.Link.run_bind, show (registry.perform (managerOf s definitions).cache.publishPlan).run.run
      here = _ from h]
    rfl

/-- Replacing the commands fails at the registry only. -/
theorem isOfRegistry_of_run_replaceCommands {failure : Failure}
    (h : ((replaceCommands registry s definitions).run.run t).1 = .ok (.error failure)) :
    failure.isOfRegistry := by
  rw [replaceCommands_eq, Rest.Link.run_bind] at h
  generalize (registry.perform (managerOf s definitions).cache.resetPlan).run.run t = cleared at h
  obtain ⟨_ | _ | _, here⟩ := cleared
  · cases h
  · cases h
    rfl
  · dsimp only at h
    rw [Rest.Link.run_bind] at h
    generalize (registry.perform (managerOf s definitions).cache.publishPlan).run.run here =
      published at h
    obtain ⟨_ | _ | _, now⟩ := published
    · cases h
    · cases h
      rfl
    · cases h

end

/-! ### What is printed and what is sent -/

/-- Holds of an operation and what is printed for it. -/
inductive IsPrintedAs : Operation → Datum → Prop
  | clearGlobal : IsPrintedAs .clearGlobal (.table [("op", .text "clear_global")])
  | clearGuild (guild : String) :
    IsPrintedAs (.clearGuild guild)
      (.table [("op", .text "clear_guild"), ("guild_id", .text guild)])
  | createGlobal (schema : CommandSchema) :
    IsPrintedAs (.createGlobal schema)
      (.table [("op", .text "create_global"), ("schema", schema.toDatum)])
  | createGuild (guild : String) (schema : CommandSchema) :
    IsPrintedAs (.createGuild guild schema)
      (.table [("op", .text "create_guild"), ("guild_id", .text guild),
        ("schema", schema.toDatum)])

theorem isPrintedAs_toDatum (op : Operation) : IsPrintedAs op op.toDatum := by
  cases op with
  | clearGlobal => exact .clearGlobal
  | clearGuild guild => exact .clearGuild guild
  | createGlobal schema => exact .createGlobal schema
  | createGuild guild schema => exact .createGuild guild schema

/-! ### Publishing definitions -/

open Rest (Delivers Grants IsSentFor IsTrimmed firstTries withRepeats)

/-- Holds if a dry run prints the operations of a plan, and publishing sends their requests.  These
are sent in order, and nothing else is, if the server grants them; each may have to be sent again
first.  If publishing fails, then at the registry. -/
structure ShowsPlan {μ : Type → Type} (world : World μ) (s : Settings) (plan : List Operation)
    (dry live : Outcome) : Prop where
  printed : ∃ printed text, List.Forall₂ IsPrintedAs plan printed ∧
    world.json.pretty (.list printed) = .ok text ∧ dry = .ofResult (.ok (text ++ "\n"))
  sent : ∃ base wanted, IsTrimmed s.apiBase base ∧
    List.Forall₂ (fun op request => ∃ purpose, IsSentFor base s.token s.applicationId op purpose
      request) plan wanted ∧
    (Delivers world.client world.server wanted →
      Grants world.client wanted.length world.server.answers →
      (∃ text, live.result = .ok (.ok text)) ∧
        live.requests = withRepeats world.server.answers wanted ∧
        firstTries false world.server.answers live.requests = wanted)
  failsAtRegistry : ∀ failure, live.result = .ok (.error failure) → failure.isOfRegistry

section

variable {s : Settings} {definitions : List Definition}

/-- The requests for a plan carry out its operations. -/
theorem forall₂_isSentFor (client : Rest.Client) (s : Settings) (plan : List Operation) :
    List.Forall₂ (fun op request => ∃ purpose, IsSentFor (Rest.trimSlashes s.apiBase) s.token
      s.applicationId op purpose request) plan ((apiOf client s).requests plan) := by
  have hbase : IsTrimmed (apiOf client s).base (Rest.trimSlashes s.apiBase) :=
    Rest.isTrimmed_trimSlashes s.apiBase
  refine List.forall₂_map_right_iff.mpr (List.forall₂_same.mpr fun op _ => ?_)
  exact ⟨((apiOf client s).errand op).purpose, (Rest.Api.errand_iff hbase).mpr rfl⟩

/-- The requests that carry out the operations of a plan are determined. -/
theorem eq_requests_of_forall₂ (client : Rest.Client) {base : String}
    (hbase : IsTrimmed s.apiBase base) {plan : List Operation} {wanted : List Rest.Request}
    (h : List.Forall₂ (fun op request => ∃ purpose, IsSentFor base s.token s.applicationId op
      purpose request) plan wanted) : wanted = (apiOf client s).requests plan := by
  induction h with
  | nil => rfl
  | cons hsent _ ih =>
    obtain ⟨purpose, hsent⟩ := hsent
    have hapi : IsTrimmed (apiOf client s).base base := hbase
    have herrand := (Rest.Api.errand_iff hapi).mp hsent
    rw [ih, Rest.Api.requests, Rest.Api.requests, List.map_cons, herrand]

/-- A dry run prints the plan. -/
theorem publishDefinitions_dryRun (client : Rest.Client) (server : Rest.Server) {json : Json.Codec}
    {text : String} (htext : json.pretty (.list
      ((managerOf s definitions).cache.refreshPlan.map Operation.toDatum)) = .ok text) :
    publishDefinitions client server json true s definitions = .ofResult (.ok (text ++ "\n")) := by
  rw [publishDefinitions, if_pos rfl, run_replaceCommands_recording]
  show Outcome.ofResult (planText json (managerOf s definitions).cache.refreshPlan) = _
  rw [planText, htext]

/-- With credentials, publishing is publishing on the platform. -/
theorem publishDefinitions_live (hs : s.missingCredential? = none) (client : Rest.Client)
    (server : Rest.Server) (json : Json.Codec) :
    let published := (replaceCommands (apiOf client s).registry s definitions).run.run (.start server)
    publishDefinitions client server json false s definitions =
      ⟨published.1.map (·.map reportText), published.2.requests⟩ := by
  rw [publishDefinitions, if_neg Bool.false_ne_true, hs]
  rfl

theorem showsPlan_refreshPlan {μ : Type → Type} {world : World μ} (hjson : world.json.PrintsAll)
    (hs : s.missingCredential? = none) :
    ShowsPlan world s (managerOf s definitions).cache.refreshPlan
      (publishDefinitions world.client world.server world.json true s definitions)
      (publishDefinitions world.client world.server world.json false s definitions) := by
  rw [publishDefinitions_live hs]
  generalize hplan : (managerOf s definitions).cache.refreshPlan = plan
  refine ⟨?_, ?_, fun failure hfailure => ?_⟩
  · obtain ⟨text, htext⟩ := hjson (.list (plan.map Operation.toDatum))
    refine ⟨plan.map Operation.toDatum, text, ?_, htext, ?_⟩
    · exact List.forall₂_map_right_iff.mpr
        (List.forall₂_same.mpr fun op _ => isPrintedAs_toDatum op)
    · rw [← hplan] at htext
      exact publishDefinitions_dryRun _ _ htext
  · refine ⟨Rest.trimSlashes s.apiBase, (apiOf world.client s).requests plan,
      Rest.isTrimmed_trimSlashes _, forall₂_isSentFor world.client s plan,
      fun hdelivers hgrants => ?_⟩
    obtain ⟨final, hfinal, hrequests⟩ := (apiOf world.client s).run_perform
      (t := .start world.server) hdelivers (by rwa [Rest.Api.requests, List.length_map] at hgrants)
    rw [← hplan] at hfinal
    rw [run_replaceCommands_of_ok hfinal]
    refine ⟨⟨_, rfl⟩, hrequests, ?_⟩
    rw [show final.requests = _ from hrequests]
    exact hgrants.firstTries_withRepeats false
  · generalize hpublished : (replaceCommands (apiOf world.client s).registry s definitions).run.run
      (.start world.server) = published at hfailure
    obtain ⟨_ | result, final⟩ := published
    · cases hfailure
    · cases result with
      | ok report => cases hfailure
      | error f =>
        cases hfailure
        exact isOfRegistry_of_run_replaceCommands (congrArg Prod.fst hpublished)

end

/-- **A dry run shows what publishing does.**  There are settings with credentials, and a manifest
may or may not be what it should be.  If it is not, then checking, publishing and a dry run fail for
the same reason, without a request.  Otherwise checking succeeds and a dry run prints a plan that
refreshes the commands, which is what publishing does on a server that grants its requests. -/
theorem dryRun_shows_publish {σ : Type} {world : World (StateM σ)} (hjson : world.json.PrintsAll)
    {s : Settings} (htoken : ¬ Text.isBlankText s.token)
    (happlication : ¬ Text.isBlankText s.applicationId) (token applicationId : Option String)
    (before : σ) :
    let manifest := (world.host.read s.manifest).run before
    let run (task : Task) := (task.run world s).run before
    let dry := run (.publish token applicationId true)
    let live := run (.publish token applicationId false)
    ∃ result, ManifestComesTo world.toml s.manifest manifest.1 result ∧
      (∀ failure, result = .error failure →
        run .check = (.ofResult (.error failure), manifest.2) ∧
          dry = (.ofResult (.error failure), manifest.2) ∧
          live = (.ofResult (.error failure), manifest.2)) ∧
      ∀ definitions, result = .ok definitions →
        (∃ text, run .check = (.ofResult (.ok text), manifest.2)) ∧
          dry.2 = manifest.2 ∧ live.2 = manifest.2 ∧
          ∃ plan, ((Manager.new s.toManagerSettings).addAll definitions).cache.RefreshedBy plan ∧
            ShowsPlan world s plan dry.1 live.1 := by
  intro manifest run dry live
  have hs : s.missingCredential? = none := by
    rw [Settings.missingCredential?, if_neg htoken, if_neg happlication]
  refine ⟨definitionsOf world.toml s.manifest manifest.1, manifestComesTo_iff.mpr rfl,
    fun failure hfailure => ?_, fun definitions hdefinitions => ?_⟩
  · have hrun := run_task_of_error hfailure
    exact ⟨hrun .check, hrun (.publish token applicationId true),
      hrun (.publish token applicationId false)⟩
  · have hrun := run_task_of_ok hdefinitions
    have hdry : dry = _ := hrun (.publish token applicationId true)
    have hlive : live = _ := hrun (.publish token applicationId false)
    rw [hdry, hlive]
    refine ⟨⟨_, hrun .check⟩, rfl, rfl, (managerOf s definitions).cache.refreshPlan, ?_, ?_⟩
    · exact Cache.refreshedBy_refreshPlan (Cache.isKeyed_addAll Cache.isKeyed_empty definitions)
    · exact showsPlan_refreshPlan hjson hs

/-- A command is published on a server that puts the second request off once: three requests are
sent, and without the repeat these are the two operations that the dry run prints. -/
theorem dryRun_shows_ping :
    let s : Settings :=
      { token := "secret", applicationId := "1", apiBase := "http://localhost/"
        manifest := "commands.toml" }
    let server : Rest.Server := ⟨true, [.response 200 "", .response 429 "", .response 201 ""]⟩
    let world : World (StateM Files) :=
      ⟨Files.host "/home/bot", {}, server, .byUrl, Toml.codec, Json.codec⟩
    let before := (Files.empty "/srv").put ["commands.toml"]
      (.file "[[command]]\nname = \"ping\"\ndescription = \"Ping\"\n")
    let run (task : Task) := ((task.run world s).run before).1
    let live := run (.publish none none false)
    run (.publish none none true) = .ofResult (.ok
        ("[\n  \x7b\n    \"op\": \"clear_global\"\n  \x7d,\n" ++
          "  \x7b\n    \"op\": \"create_global\",\n    \"schema\": \x7b\n" ++
          "      \"description\": \"Ping\",\n      \"name\": \"ping\",\n      \"type\": 1\n" ++
          "    \x7d\n  \x7d\n]\n")) ∧
      (∃ text, live.result = .ok (.ok text)) ∧
      live.requests.map (fun r => (r.method, r.url)) =
        [(.put, "http://localhost/applications/1/commands"),
          (.post, "http://localhost/applications/1/commands"),
          (.post, "http://localhost/applications/1/commands")] ∧
      (firstTries false server.answers live.requests).length = 2 := by
  intro s server world before run live
  have hplan : (definitionsOf world.toml s.manifest
      ((world.host.read s.manifest).run before).1).toOption.map (fun definitions =>
        let wanted := (apiOf world.client s).requests (managerOf s definitions).cache.refreshPlan
        (wanted.length, wanted.all fun request => world.client.fault? request == none)) =
      some (2, true) := by decide +kernel
  have htext : (run (.publish none none true)).result.toOption.bind Except.toOption = some
      ("[\n  \x7b\n    \"op\": \"clear_global\"\n  \x7d,\n" ++
        "  \x7b\n    \"op\": \"create_global\",\n    \"schema\": \x7b\n" ++
        "      \"description\": \"Ping\",\n      \"name\": \"ping\",\n      \"type\": 1\n" ++
        "    \x7d\n  \x7d\n]\n") := by decide +kernel
  have hrequests : live.requests.map (fun r => (r.method, r.url)) =
      [(.put, "http://localhost/applications/1/commands"),
        (.post, "http://localhost/applications/1/commands"),
        (.post, "http://localhost/applications/1/commands")] := by decide +kernel
  have hasked : world.client.askedWait? "" = none := by decide +kernel
  have hprints : world.json.PrintsAll := fun d => ⟨Json.pretty d, rfl⟩
  have htoken : ¬ Text.isBlankText s.token := by decide +kernel
  have happlication : ¬ Text.isBlankText s.applicationId := by decide +kernel
  obtain ⟨result, hresult, -, hgood⟩ :=
    dryRun_shows_publish hprints htoken happlication none none before
  rw [manifestComesTo_iff.mp hresult] at hplan
  cases result with
  | error failure => cases hplan
  | ok definitions =>
    obtain ⟨-, -, -, plan, hrefreshed, hshows⟩ := hgood definitions rfl
    obtain ⟨printed, text, -, -, hdry⟩ := hshows.printed
    obtain ⟨base, wanted, hbase, hsent, hgranted⟩ := hshows.sent
    -- only one plan refreshes the commands, and its two requests can be made and are granted
    have hunique : plan = (managerOf s definitions).cache.refreshPlan :=
      hrefreshed.unique (Cache.refreshedBy_refreshPlan
        (Cache.isKeyed_addAll Cache.isKeyed_empty definitions))
    have hwanted := eq_requests_of_forall₂ world.client hbase hsent
    rw [hunique] at hwanted
    obtain ⟨hlength, hmade⟩ := Prod.mk.inj (Option.some.inj hplan)
    rw [← hwanted] at hlength hmade
    have hdelivers : Delivers world.client world.server wanted :=
      ⟨rfl, fun request hmem => eq_of_beq (List.all_eq_true.mp hmade request hmem)⟩
    have hgrants : Grants world.client wanted.length world.server.answers := by
      rw [hlength]
      refine .success "" (by decide) (.rateLimit (fun _ h => ?_)
        (.success "" (by decide) (.nothing [])))
      rw [hasked] at h
      cases h
    obtain ⟨hpublished, -, hfirst⟩ := hgranted hdelivers hgrants
    have hdry : run (.publish none none true) = .ofResult (.ok (text ++ "\n")) := hdry
    refine ⟨?_, hpublished, hrequests, (congrArg List.length hfirst).trans hlength⟩
    rw [hdry] at htext ⊢
    exact congrArg (fun text => Outcome.ofResult (.ok text)) (Option.some.inj htext)

end CommandLine

end SlashCommands
