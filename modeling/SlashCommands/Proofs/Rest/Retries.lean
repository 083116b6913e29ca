import SlashCommands.Proofs.Publishing.Refresh
import SlashCommands.Proofs.Rest.Endpoints

/-!
# Sending again

A server that `Grants` a number of requests answers each of them with a success, if not at once,
then after it has put the request off a few times.  `withRepeats` tells what is sent to it, and
`firstTries` leaves the repeats out.  The main statement, `Api.run_perform`, says that the registry
of the platform carries out operations on such a server: their requests are sent in order, and each
again as often as it is put off.
-/

namespace SlashCommands.Rest

/-- Holds of the bodies of rate limits that ask for nothing or for a wait that can be waited. -/
def Client.CanBear (client : Client) (body : String) : Prop :=
  ∀ seconds, client.askedWait? body = some seconds → isWait seconds

/-- Holds of answers that grant a number of requests: each gets a success, after any number of rate
limits with waits that can be waited. -/
inductive Grants (client : Client) : Nat → List Answer → Prop
  | nothing (answers : List Answer) : Grants client 0 answers
  | success {status count : Nat} (body : String) {answers : List Answer}
    (hstatus : 200 ≤ status ∧ status < 300) (h : Grants client count answers) :
    Grants client (count + 1) (.response status body :: answers)
  | rateLimit {count : Nat} {body : String} {answers : List Answer} (hbody : client.CanBear body)
    (h : Grants client (count + 1) answers) :
    Grants client (count + 1) (.response 429 body :: answers)

/-- Holds of the answers after which a request is sent again. -/
def Answer.putsOff : Answer → Bool
  | .response status _ => status == 429
  | .dropped => false

/-- The requests that are sent when some are to be granted: each again as often as it is put off. -/
def withRepeats : List Answer → List Request → List Request
  | _, [] => []
  | [], wanted => wanted
  | answer :: answers, request :: wanted =>
    if answer.putsOff then request :: withRepeats answers (request :: wanted)
    else request :: withRepeats answers wanted

/-- The requests that are not repeats.  A request is a repeat if the one before it was put off. -/
def firstTries (repeats : Bool) (answers : List Answer) : List Request → List Request
  | [] => []
  | request :: requests =>
    let rest := firstTries (answers.head?.any Answer.putsOff) answers.tail requests
    if repeats then rest else request :: rest

/-! ### One request -/

theorem isSuccess_iff {status : Nat} : isSuccess status ↔ 200 ≤ status ∧ status < 300 := by
  rw [isSuccess, Bool.and_eq_true, decide_eq_true_eq, decide_eq_true_eq]

section

variable {client : Client} {status : Nat} (body : String) (answers : List Answer)

/-- A success does not put a request off. -/
theorem putsOff_of_isSuccess (h : 200 ≤ status ∧ status < 300) :
    (Answer.response status body).putsOff = false :=
  beq_eq_false_iff_ne.mpr (by omega)

theorem exchange_of_isSuccess (h : 200 ≤ status ∧ status < 300) (request : Request) :
    exchange client request (.response status body :: answers) =
      ⟨[request], [], .ok (.ok body), answers⟩ := by
  have hstatus : ¬ status = tooMany := beq_eq_false_iff_ne.mp (putsOff_of_isSuccess body h)
  rw [exchange, if_neg hstatus, if_pos (isSuccess_iff.mpr h)]

theorem withRepeats_of_isSuccess (h : 200 ≤ status ∧ status < 300) (request : Request)
    (wanted : List Request) :
    withRepeats (.response status body :: answers) (request :: wanted) =
      request :: withRepeats answers wanted := by
  rw [withRepeats, putsOff_of_isSuccess body h, if_neg Bool.false_ne_true]

/-- A rate limit is waited out unless it asks for a wait that cannot be waited. -/
theorem isWait_waitAfter {body : String} (h : client.CanBear body) :
    isWait (client.waitAfter body) := by
  have hasked : isWait ((client.askedWait? body).getD usualWait) := by
    cases hbody : client.askedWait? body with
    | none =>
      show isWait usualWait
      decide +kernel
    | some seconds => exact h seconds hbody
  rw [Client.waitAfter]
  split
  · exact hasked
  · show isWait leastWait
    decide +kernel

theorem exchange_rateLimit {body : String} (h : client.CanBear body) (request : Request) :
    exchange client request (.response 429 body :: answers) =
      (exchange client request answers).after request (client.waitAfter body) := by
  rw [exchange, if_pos (show 429 = tooMany from rfl)]
  exact if_pos (isWait_waitAfter h)

theorem withRepeats_rateLimit (request : Request) (wanted : List Request) :
    withRepeats (.response 429 body :: answers) (request :: wanted) =
      request :: withRepeats answers (request :: wanted) := by
  rw [withRepeats, if_pos (show (Answer.response 429 body).putsOff from rfl)]

end

/-- A request to a server that grants it is sent until it is granted. -/
theorem Grants.exchange {client : Client} {count : Nat} {answers : List Answer}
    (h : Grants client (count + 1) answers) (request : Request) :
    let e := Rest.exchange client request answers
    (∃ body, e.outcome = .ok (.ok body)) ∧ Grants client count e.answers ∧
      ∀ wanted, withRepeats answers (request :: wanted) =
        e.sent ++ withRepeats e.answers wanted := by
  generalize hcount : count + 1 = total at h
  induction h with
  | nothing => cases hcount
  | success body hstatus h =>
    obtain rfl := Nat.succ.inj hcount
    rw [exchange_of_isSuccess body _ hstatus]
    exact ⟨⟨body, rfl⟩, h, withRepeats_of_isSuccess body _ hstatus request⟩
  | @rateLimit _ body answers hbody _ ih =>
    -- the same request is put to the answers that are left
    obtain ⟨houtcome, hgrants, hsent⟩ := ih hcount
    rw [exchange_rateLimit answers hbody]
    refine ⟨houtcome, hgrants, fun wanted => ?_⟩
    rw [withRepeats_rateLimit, hsent]
    rfl

/-! ### Several requests -/

/-- Without the repeats, what is sent is what is to be granted. -/
theorem Grants.firstTries_withRepeats {client : Client} {wanted : List Request}
    {answers : List Answer} (h : Grants client wanted.length answers) (repeats : Bool) :
    firstTries repeats answers (withRepeats answers wanted) =
      if repeats then wanted.tail else wanted := by
  generalize hcount : wanted.length = count at h
  induction h generalizing wanted repeats with
  | nothing answers =>
    obtain rfl := List.length_eq_zero_iff.mp hcount
    rw [withRepeats]
    cases repeats <;> rfl
  | success body hstatus _ ih =>
    obtain ⟨request, wanted, rfl⟩ := List.exists_cons_of_length_eq_add_one hcount
    have hrest := ih false (Nat.succ.inj hcount)
    rw [if_neg Bool.false_ne_true] at hrest
    rw [withRepeats_of_isSuccess body _ hstatus, firstTries, List.head?_cons, List.tail_cons,
      List.tail_cons, Option.any_some, putsOff_of_isSuccess body hstatus, hrest]
  | @rateLimit _ body _ _ _ ih =>
    obtain ⟨request, wanted, rfl⟩ := List.exists_cons_of_length_eq_add_one hcount
    -- what is sent next is a repeat
    have hrest := ih true hcount
    rw [if_pos rfl, List.tail_cons] at hrest
    rw [withRepeats_rateLimit, firstTries, List.head?_cons, List.tail_cons, List.tail_cons,
      Option.any_some, show (Answer.response 429 body).putsOff = true from rfl, hrest]

theorem Traffic.requests_add (t : Traffic) (e : Exchange) :
    (t.add e).requests = t.requests ++ e.sent := by
  rw [requests, requests, add, List.flatMap_append, List.flatMap_singleton]

/-! ### The link -/

/-- What comes of two steps on a link: the second is taken unless the program has broken off. -/
theorem Link.run_bind {α β : Type} (first : Link α) (next : α → Link β) (t : Traffic) :
    (first >>= next).run.run t =
      match first.run.run t with
      | (.ok a, t) => (next a).run.run t
      | (.error panic, t) => (.error panic, t) := by
  rw [ExceptT.run_bind, StateT.run_bind]
  dsimp only [bind]
  generalize first.run.run t = taken
  obtain ⟨result, t⟩ := taken
  cases result <;> rfl

/-- A request that can be made is exchanged with a server that is reachable. -/
theorem run_send {client : Client} {request : Request} {t : Traffic}
    (hmade : client.fault? request = none) (hreachable : t.server.reachable) :
    (send client request).run.run t =
      let e := exchange client request t.server.answers
      (e.outcome, t.add e) := by
  obtain ⟨⟨reachable, answers⟩, exchanges⟩ := t
  obtain rfl : reachable = true := hreachable
  rw [send, hmade]
  dsimp only
  rw [Link.run_bind]
  show (ExceptT.run (do
    set ((⟨⟨true, answers⟩, exchanges⟩ : Traffic).add (exchange client request answers))
    liftExcept (exchange client request answers).outcome : Link _)).run _ = _
  cases (exchange client request answers).outcome <;> rfl

/-- Holds of a server that is reachable and requests that can be made. -/
structure Delivers (client : Client) (server : Server) (requests : List Request) : Prop where
  reachable : server.reachable
  made : ∀ request ∈ requests, client.fault? request = none

namespace Api

variable (api : Api) {t : Traffic}

/-- The requests that carry out operations. -/
def requests (ops : List Operation) : List Request :=
  ops.map fun op => (api.errand op).request

/-- An operation whose request is granted is carried out by one exchange. -/
theorem run_registry {op : Operation} {count : Nat} (hreachable : t.server.reachable)
    (hmade : api.client.fault? (api.errand op).request = none)
    (h : Grants api.client (count + 1) t.server.answers) :
    (api.registry op).run.run t =
      (.ok (.ok ()), t.add (exchange api.client (api.errand op).request t.server.answers)) := by
  obtain ⟨⟨body, houtcome⟩, -, -⟩ := h.exchange (api.errand op).request
  have hsend := run_send hmade hreachable
  dsimp only at hsend
  rw [houtcome] at hsend
  rw [registry, Link.run_bind, Errand.run, Link.run_bind, hsend]
  rfl

/-- **Operations become requests.**  On a server that grants them, operations are carried out; their
requests are sent in order, each again as often as it is put off, and nothing else is. -/
theorem run_perform {ops : List Operation}
    (hdelivers : Delivers api.client t.server (api.requests ops))
    (h : Grants api.client ops.length t.server.answers) :
    ∃ final, (api.registry.perform ops).run.run t = (.ok (.ok ()), final) ∧
      final.requests = t.requests ++ withRepeats t.server.answers (api.requests ops) := by
  induction ops generalizing t with
  | nil => exact ⟨t, rfl, by rw [requests, List.map_nil, withRepeats, List.append_nil]⟩
  | cons op rest ih =>
    let request := (api.errand op).request
    have hmade := hdelivers.made request List.mem_cons_self
    obtain ⟨-, hgrants, hsent⟩ := Grants.exchange h request
    have hrest : Delivers api.client (t.add (exchange api.client request t.server.answers)).server
        (api.requests rest) :=
      ⟨hdelivers.reachable, fun r hr => hdelivers.made r (List.mem_cons_of_mem request hr)⟩
    obtain ⟨final, hfinal, hrequests⟩ := ih hrest hgrants
    refine ⟨final, ?_, ?_⟩
    · rw [Registry.perform, Link.run_bind, run_registry api hdelivers.reachable hmade h]
      exact hfinal
    · rw [hrequests, Traffic.requests_add, List.append_assoc]
      exact congrArg (t.requests ++ ·) (hsent (api.requests rest)).symm

end Api

end SlashCommands.Rest
