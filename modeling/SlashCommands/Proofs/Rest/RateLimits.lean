import SlashCommands.Proofs.Rest.Retries
import SlashCommands.Url.Requests

/-!
# Rate limits

A server `PutsOff` a request if it answers it with rate limits before it answers it for good.  An
exchange with it repeats the request once for each rate limit (`exchange_rateLimits`, by induction
on the rate limits), and what comes of an errand is the verdict on the last answer
(`Errand.run_of_putsOff`).  The main statement, `Api.retries_faithfully`, says so for everything that
the platform is called for, each with the request and the words of its endpoint.
-/

namespace SlashCommands.Rest

/-! ### Exchanges -/

/-- Any answer but a rate limit ends an exchange. -/
theorem exchange_of_ne_tooMany {status : Nat} (h : status ≠ 429) (client : Client) (body : String)
    (rest : List Answer) (request : Request) :
    exchange client request (.response status body :: rest) =
      ⟨[request], [], .ok (if isSuccess status then .ok body else .error (.refused body)), rest⟩ := by
  have hstatus : ¬ status = tooMany := h
  rw [exchange, if_neg hstatus]
  split <;> rfl

/-- Rate limits only make an exchange longer: each adds the same request and a wait in front. -/
theorem exchange_rateLimits {client : Client} {bodies : List String}
    (h : ∀ body ∈ bodies, client.CanBear body) (request : Request) (answers : List Answer) :
    let e := exchange client request answers
    exchange client request (bodies.map (Answer.response 429) ++ answers) =
      ⟨List.replicate bodies.length request ++ e.sent, bodies.map client.waitAfter ++ e.waits,
        e.outcome, e.answers⟩ := by
  intro e
  induction bodies with
  | nil => rfl
  | cons body bodies ih =>
    have hbody : client.CanBear body := h body List.mem_cons_self
    have hrest := ih fun b hb => h b (List.mem_cons_of_mem body hb)
    rw [List.map_cons, List.cons_append, exchange_rateLimit _ hbody, hrest]
    rfl

/-! ### Errands -/

/-- Holds if the next request is put off with rate limits that have these bodies, and is answered
with this status and body then. -/
structure Traffic.PutsOff (t : Traffic) (client : Client) (bodies : List String) (status : Nat)
    (body : String) (rest : List Answer) : Prop where
  reachable : t.server.reachable
  answers : t.server.answers = bodies.map (Answer.response 429) ++ .response status body :: rest
  bearable : ∀ body ∈ bodies, client.CanBear body
  final : status ≠ 429

/-- The verdict on an answer: its body, or the failure of what the request was for. -/
def verdict (purpose : String) (status : Nat) (body : String) : Except String String :=
  if 200 ≤ status ∧ status < 300 then .ok body else .error s!"discord {purpose} failed: {body}"

/-- Holds if a request, and nothing else, was sent once and again so many times, and the answers that
come after are left. -/
structure Request.IsSentAgain (request : Request) (count : Nat) (rest : List Answer)
    (before after : Traffic) : Prop where
  requests : after.requests = before.requests ++ List.replicate (count + 1) request
  server : after.server = { before.server with answers := rest }

/-- What comes of an errand whose request is answered for good. -/
def Errand.outcome (errand : Errand) (status : Nat) (body : String) : Except ErrandFault String :=
  if isSuccess status then .ok body else .error (.exchange errand (.refused body))

theorem Errand.outcome_mapError_message (errand : Errand) (status : Nat) (body : String) :
    (errand.outcome status body).mapError ErrandFault.message =
      verdict errand.purpose status body := by
  rw [outcome, verdict, if_congr isSuccess_iff rfl rfl]
  split <;> rfl

theorem Errand.outcome_mapError_explained (errand : Errand) (status : Nat) (body : String) :
    (errand.outcome status body).mapError ErrandFault.explained =
      verdict errand.purpose status body := by
  rw [outcome, verdict, if_congr isSuccess_iff rfl rfl]
  split <;> rfl

section

variable {t : Traffic} {client : Client} {bodies : List String} {status : Nat} {body : String}
  {rest : List Answer}

/-- An errand that is put off comes to the outcome of the answer that it gets then. -/
theorem Errand.run_of_putsOff (h : t.PutsOff client bodies status body rest) (errand : Errand)
    (hmade : client.fault? errand.request = none) :
    ∃ after, (errand.run client).run.run t = (.ok (errand.outcome status body), after) ∧
      errand.request.IsSentAgain bodies.length rest t after := by
  have he := exchange_rateLimits h.bearable errand.request (.response status body :: rest)
  rw [← h.answers, exchange_of_ne_tooMany h.final] at he
  refine ⟨t.add (exchange client errand.request t.server.answers), ?_, ?_, ?_⟩
  · have houtcome : (exchange client errand.request t.server.answers).outcome =
        .ok (if isSuccess status then .ok body else .error (.refused body)) := by rw [he]
    rw [Errand.run, Link.run_bind, run_send hmade h.reachable]
    dsimp only
    rw [houtcome, outcome]
    cases isSuccess status <;> rfl
  · rw [Traffic.requests_add, he, List.replicate_succ']
  · rw [Traffic.add, he]

end

/-! ### The platform -/

/-- The listing that the body of a success holds. -/
def readRoles (client : Client) (guild body : String) : Except String RoleListing :=
  ((client.read? body).bind listingOfDatum?).elim
    (.error s!"failed to decode roles of guild {guild}") .ok

section

variable {status : Nat} {body : String} {t after : Traffic}

/-- The registry passes the verdict on. -/
theorem Api.run_registry_of_run {api : Api} {op : Operation}
    (h : ((api.errand op).run api.client).run.run t =
      (.ok ((api.errand op).outcome status body), after)) :
    (api.registry op).run.run t =
      (.ok ((verdict (api.errand op).purpose status body).map fun _ => ()), after) := by
  rw [registry, Link.run_bind, h, ← Errand.outcome_mapError_explained]
  cases (api.errand op).outcome status body <;> rfl

/-- The directory passes a failure on and reads the body of a success. -/
theorem Api.run_directory_of_run {api : Api} {guild : String}
    (h : ((api.roles guild).run api.client).run.run t =
      (.ok ((api.roles guild).outcome status body), after)) :
    (api.directory guild).run.run t =
      (.ok ((verdict (api.roles guild).purpose status body).bind (readRoles api.client guild)),
        after) := by
  rw [directory, Link.run_bind, h, ← Errand.outcome_mapError_message]
  cases (api.roles guild).outcome status body with
  | error fault => rfl
  | ok body =>
    rw [show (Except.mapError ErrandFault.message (.ok body)).bind (readRoles api.client guild) =
      readRoles api.client guild body from rfl, readRoles]
    dsimp only
    cases (api.client.read? body).bind listingOfDatum? <;> rfl

/-- An answer to an interaction passes the verdict on. -/
theorem Callback.run_answer_of_run {c : Callback} {message : Message}
    (h : ((c.errand message).run c.client).run.run t =
      (.ok ((c.errand message).outcome status body), after)) :
    (c.answer message).run.run t =
      (.ok ((verdict (c.errand message).purpose status body).map fun _ => ()), after) := by
  rw [answer, Link.run_bind, h, ← Errand.outcome_mapError_explained]
  cases (c.errand message).outcome status body <;> rfl

end

/-- **Requests are repeated faithfully.**  A server puts a request off with any number of rate
limits and then answers it.  Whatever the platform is called for, the request for it is sent once and
again for each rate limit, and nothing else is.  The call succeeds just in case the last answer is a
success, and otherwise fails with what it was for and the body of that answer; for the roles of a
guild, the body of a success is read.  Of the rate limits nothing is seen in this but their
number. -/
theorem Api.retries_faithfully {client : Client} {t : Traffic} {bodies : List String} {status : Nat}
    {body : String} {rest : List Answer} (h : t.PutsOff client bodies status body rest)
    (api : Api) (c : Callback) (hclient : api.client = client ∧ c.client = client)
    {base site : String} (hbase : IsTrimmed api.base base) (hsite : IsTrimmed c.base site) :
    (∀ (op : Operation) (purpose : String) (request : Request),
      IsSentFor base api.token api.applicationId op purpose request →
      client.fault? request = none →
      ∃ after, (api.registry op).run.run t =
          (.ok ((verdict purpose status body).map fun _ => ()), after) ∧
        request.IsSentAgain bodies.length rest t after) ∧
    (∀ (message : Message) (purpose : String) (request : Request),
      IsCarriedBy site c.interactionId c.token message purpose request →
      client.fault? request = none →
      ∃ after, (c.answer message).run.run t =
          (.ok ((verdict purpose status body).map fun _ => ()), after) ∧
        request.IsSentAgain bodies.length rest t after) ∧
    ∀ guild : String, client.fault? (rolesRequest base api.token guild) = none →
      ∃ after, (api.directory guild).run.run t =
          (.ok ((verdict "list guild roles" status body).bind (readRoles client guild)), after) ∧
        (rolesRequest base api.token guild).IsSentAgain bodies.length rest t after := by
  obtain ⟨rfl, hc⟩ := hclient
  refine ⟨fun op purpose request hsent hmade => ?_, fun message purpose request hsent hmade => ?_,
    fun guild hmade => ?_⟩
  · have herrand := (Api.errand_iff hbase).mp hsent
    obtain ⟨after, hrun, hagain⟩ := Errand.run_of_putsOff h ⟨purpose, request⟩ hmade
    rw [← herrand] at hrun
    refine ⟨after, ?_, hagain⟩
    rw [api.run_registry_of_run hrun, herrand]
  · have herrand := Callback.errand_of_isCarriedBy hsite hsent
    obtain ⟨after, hrun, hagain⟩ := Errand.run_of_putsOff h ⟨purpose, request⟩ hmade
    rw [← herrand, ← hc] at hrun
    refine ⟨after, ?_, hagain⟩
    rw [c.run_answer_of_run hrun, herrand]
  · have herrand := Api.roles_eq hbase guild
    obtain ⟨after, hrun, hagain⟩ :=
      Errand.run_of_putsOff h ⟨"list guild roles", rolesRequest base api.token guild⟩ hmade
    rw [← herrand] at hrun
    refine ⟨after, ?_, hagain⟩
    rw [api.run_directory_of_run hrun, herrand]

/-- The platform puts off what it does not know twice: a guild whose commands are to be removed, an
interaction that is answered, and a guild whose roles are asked for. -/
theorem Api.retries_unknown :
    let api : Api := ⟨.byUrl, "http://localhost/", "secret", "1"⟩
    let c : Callback := ⟨.byUrl, "http://localhost//", "8", "key"⟩
    let before := Traffic.start ⟨true, [.response 429 "\x7b\"retry_after\": 2.5\x7d",
      .response 429 "later", .response 404 "Unknown"]⟩
    (∃ after, (api.registry (.clearGuild "7")).run.run before =
        (.ok (.error "discord clear guild commands failed: Unknown"), after) ∧
      after.requests = List.replicate 3 ⟨.put, "http://localhost/applications/1/guilds/7/commands",
        some "Bot secret", some (.list [])⟩) ∧
    (∃ after, (c.answer (.reply ⟨"pong", true⟩)).run.run before =
        (.ok (.error "discord interaction reply failed: Unknown"), after) ∧
      after.requests = List.replicate 3 ⟨.post, "http://localhost/interactions/8/key/callback",
        none, some (.table [("type", .int 4),
          ("data", .table [("content", .text "pong"), ("flags", .int 64)])])⟩) ∧
    ∃ after, (api.directory "7").run.run before =
        (.ok (.error "discord list guild roles failed: Unknown"), after) ∧
      after.requests = List.replicate 3 ⟨.get, "http://localhost/guilds/7/roles",
        some "Bot secret", none⟩ := by
  intro api c before
  -- the second body is no JSON and asks for nothing
  have hasked : ∀ body ∈ ["\x7b\"retry_after\": 2.5\x7d", "later"],
      (Client.byUrl.askedWait? body).all isWait = true := by decide +kernel
  have hputsOff :
      before.PutsOff .byUrl ["\x7b\"retry_after\": 2.5\x7d", "later"] 404 "Unknown" [] := by
    refine ⟨rfl, rfl, fun body hbody seconds hseconds => ?_, by decide⟩
    have hall := hasked body hbody
    rwa [hseconds] at hall
  have hbase : IsTrimmed api.base "http://localhost" := ⟨⟨1, by decide +kernel⟩, by decide +kernel⟩
  have hsite : IsTrimmed c.base "http://localhost" := ⟨⟨2, by decide +kernel⟩, by decide +kernel⟩
  obtain ⟨hregistry, hanswer, hdirectory⟩ :=
    Api.retries_faithfully hputsOff api c ⟨rfl, rfl⟩ hbase hsite
  refine ⟨?_, ?_, ?_⟩
  · obtain ⟨after, hrun, hsent⟩ := hregistry _ _ _ (.clearGuild "7") (by decide +kernel)
    exact ⟨after, hrun, hsent.requests⟩
  · obtain ⟨after, hrun, hsent⟩ := hanswer _ _ _ (.privateReply "pong") (by decide +kernel)
    exact ⟨after, hrun, hsent.requests⟩
  · obtain ⟨after, hrun, hsent⟩ := hdirectory "7" (by decide +kernel)
    exact ⟨after, hrun, hsent.requests⟩

end SlashCommands.Rest
