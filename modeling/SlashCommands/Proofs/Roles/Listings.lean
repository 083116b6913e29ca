import Mathlib.Data.List.Forall2
import Mathlib.Data.List.Induction
import SlashCommands.RoleNames

/-!
# Listings over a run

Listings are looked up, forgotten and used to name roles, one call after the other, while the
directory may answer differently each time or fail.  A log is kept of what the directory was asked
and what was forgotten.  The main statement, `RoleSession.answers_from_log`, says that the log
decides every call: the last listing that the directory gave for a guild since the guild was
forgotten is the one to use, and only without one the directory is asked.
-/

namespace SlashCommands

/-! ### The log -/

/-- What a log of listings holds. -/
inductive RoleEvent
  | asked (guild : String) (answer : Except String RoleListing)
  | forgotten (guild : String)

namespace RoleEvent

/-- The guild that an event is about. -/
def guild : RoleEvent → String
  | .asked guild _ => guild
  | .forgotten guild => guild

/-- Holds if a guild is forgotten. -/
def forgets (guild : String) : RoleEvent → Bool
  | .asked _ _ => false
  | .forgotten other => other == guild

/-- The listing that the directory gives for a guild. -/
def listing? (guild : String) : RoleEvent → Option RoleListing
  | .asked other answer => if other == guild then answer.toOption else none
  | .forgotten _ => none

/-- The last listing that the directory gave for a guild since the guild was last forgotten. -/
def lastListing? (guild : String) (log : List RoleEvent) : Option RoleListing :=
  (log.reverse.takeWhile (!·.forgets guild)).findSome? (listing? guild)

theorem lastListing?_concat (guild : String) (log : List RoleEvent) (event : RoleEvent) :
    lastListing? guild (log ++ [event]) =
      if event.forgets guild then none
      else (event.listing? guild).or (lastListing? guild log) := by
  rw [lastListing?, List.reverse_concat, List.takeWhile_cons]
  cases event.forgets guild with
  | true => rfl
  | false =>
    rw [Bool.not_false, if_pos rfl, List.findSome?_cons]
    cases event.listing? guild <;> rfl

end RoleEvent

/-- The kept listings after an event. -/
def RoleNames.afterEvent (r : RoleNames) : RoleEvent → RoleNames
  | .asked guild answer => r.receive guild answer
  | .forgotten guild => r.forget guild

theorem RoleNames.lookup?_afterEvent (r : RoleNames) (event : RoleEvent) (guild : String) :
    (r.afterEvent event).lookup? guild =
      if event.forgets guild then none else (event.listing? guild).or (r.lookup? guild) := by
  cases event with
  | asked other answer =>
    rw [afterEvent, lookup?_receive, RoleEvent.listing?]
    by_cases h : other = guild
    · simp [h, RoleEvent.forgets]
    · simp [h, Ne.symm h, RoleEvent.forgets]
  | forgotten other =>
    rw [afterEvent, lookup?_forget, RoleEvent.forgets]
    by_cases h : other = guild
    · simp [h]
    · simp [h, Ne.symm h, RoleEvent.listing?]

/-- What a guild finds after an event depends on what it found before. -/
theorem RoleNames.lookup?_foldl_congr {r r' : RoleNames} {guild : String}
    (h : r.lookup? guild = r'.lookup? guild) (events : List RoleEvent) :
    (events.foldl afterEvent r).lookup? guild = (events.foldl afterEvent r').lookup? guild := by
  induction events generalizing r r' with
  | nil => exact h
  | cons event rest ih => exact ih (by rw [lookup?_afterEvent, lookup?_afterEvent, h])

/-- Events about other guilds do not change what a guild finds. -/
theorem RoleNames.lookup?_foldl_of_ne {events : List RoleEvent} {guild : String}
    (h : ∀ event ∈ events, event.guild ≠ guild) (r : RoleNames) :
    (events.foldl afterEvent r).lookup? guild = r.lookup? guild := by
  induction events generalizing r with
  | nil => rfl
  | cons event rest ih =>
    rw [List.foldl_cons, ih fun e he => h e (List.mem_cons_of_mem _ he), lookup?_afterEvent]
    have hne := h event List.mem_cons_self
    cases event <;> simp_all [RoleEvent.guild, RoleEvent.forgets, RoleEvent.listing?]

/-- Events in a log decide what is kept. -/
theorem RoleNames.lookup?_foldl_afterEvent (log : List RoleEvent) (guild : String) :
    (log.foldl afterEvent .empty).lookup? guild = RoleEvent.lastListing? guild log := by
  induction log using List.reverseRecOn with
  | nil => rfl
  | append_singleton log event ih =>
    rw [List.foldl_concat, lookup?_afterEvent, RoleEvent.lastListing?_concat, ih]

/-- The directory that gives fixed answers and has a log of what it is asked. -/
def RoleDirectory.logged (answers : String → Except String RoleListing) :
    RoleDirectory (StateM (List RoleEvent)) := fun guild => do
  modify (· ++ [.asked guild (answers guild)])
  return answers guild

/-- A lookup finds what is kept, or asks and keeps what is answered. -/
theorem RoleNames.run_namesFor (r : RoleNames) (answers : String → Except String RoleListing)
    (guild : String) (log : List RoleEvent) :
    (r.namesFor (.logged answers) guild).run log =
      match r.lookup? guild with
      | some listing => ((.ok listing, r), log)
      | none =>
        ((answers guild, r.receive guild (answers guild)),
          log ++ [.asked guild (answers guild)]) := by
  rw [namesFor]
  cases r.lookup? guild <;> rfl

/-! ### Calls -/

/-- A call that has to do with listings. -/
inductive RoleCall
  | namesFor (guild : String)
  | forget (guild : String)
  | resolve (interaction : Interaction)

/-- The guild whose listing a call has to do with, if there is one. -/
def RoleCall.guild? : RoleCall → Option String
  | .namesFor guild => some guild
  | .forget guild => some guild
  | .resolve i => i.member.bind fun _ => i.guildId

/-- A call and what the directory would answer at that time. -/
structure RoleTurn where
  call : RoleCall
  answers : String → Except String RoleListing

/-- Holds of the calls that have to do with the listing of a guild. -/
def RoleTurn.concerns (guild : String) (t : RoleTurn) : Bool :=
  t.call.guild? == some guild

/-- What a call comes to. -/
inductive RoleAnswer
  | listing (answer : Except String RoleListing)
  | forgotten
  | resolved (interaction : Interaction)

/-- What becomes of an interaction when the listing of its guild has been looked up. -/
def RoleAnswer.naming (i : Interaction) : RoleAnswer → RoleAnswer
  | .listing (.ok found) => .resolved (i.nameRoles found)
  | _ => .resolved i

/-- The kept listings and the log. -/
structure RoleSession where
  names : RoleNames
  log : List RoleEvent

namespace RoleSession

/-- Makes a call, given what the directory would answer. -/
def call (s : RoleSession) (answers : String → Except String RoleListing) :
    RoleCall → RoleAnswer × RoleSession
  | .namesFor guild =>
    let ((answer, names), log) := (s.names.namesFor (.logged answers) guild).run s.log
    (.listing answer, ⟨names, log⟩)
  | .forget guild => (.forgotten, ⟨s.names.forget guild, s.log ++ [.forgotten guild]⟩)
  | .resolve i =>
    let ((resolved, names), log) := (s.names.resolve (.logged answers) i).run s.log
    (.resolved resolved, ⟨names, log⟩)

/-- Takes a turn. -/
def take (s : RoleSession) (t : RoleTurn) : RoleAnswer × RoleSession :=
  s.call t.answers t.call

/-- The session after calls one after the other, from the start. -/
def after (turns : List RoleTurn) : RoleSession :=
  turns.foldl (fun s t => (s.take t).2) ⟨.empty, []⟩

theorem after_concat (turns : List RoleTurn) (t : RoleTurn) :
    after (turns ++ [t]) = ((after turns).take t).2 := List.foldl_append

variable (s : RoleSession) (answers : String → Except String RoleListing)

theorem call_namesFor (guild : String) :
    s.call answers (.namesFor guild) =
      match s.names.lookup? guild with
      | some listing => (.listing (.ok listing), s)
      | none => (.listing (answers guild),
          ⟨s.names.receive guild (answers guild), s.log ++ [.asked guild (answers guild)]⟩) := by
  rw [call, RoleNames.run_namesFor]
  cases s.names.lookup? guild <;> rfl

theorem exists_call_namesFor (guild : String) :
    ∃ answer, (s.call answers (.namesFor guild)).1 = .listing answer := by
  rw [call_namesFor]
  cases s.names.lookup? guild with
  | some listing => exact ⟨.ok listing, rfl⟩
  | none => exact ⟨answers guild, rfl⟩

/-- Without a guild or a member there is nothing to do. -/
theorem call_resolve_of_none {i : Interaction} (h : (RoleCall.resolve i).guild? = none) :
    s.call answers (.resolve i) = (.resolved i, s) := by
  have hnone : s.names.resolve (.logged answers) i = pure (i, s.names) := by
    unfold RoleNames.resolve
    split
    · next guild m hguild hmember =>
      rw [RoleCall.guild?, hmember] at h
      cases hguild.symm.trans h
    · rfl
  rw [call, hnone]
  rfl

/-- Naming roles looks up the listing of the guild. -/
theorem call_resolve {i : Interaction} {guild : String}
    (h : (RoleCall.resolve i).guild? = some guild) :
    s.call answers (.resolve i) =
      ((s.call answers (.namesFor guild)).1.naming i, (s.call answers (.namesFor guild)).2) := by
  obtain ⟨m, hmember, hguild⟩ := Option.bind_eq_some_iff.mp h
  rw [call_namesFor, call, RoleNames.resolve.eq_def, hguild, hmember]
  dsimp only
  rw [StateT.run_bind, RoleNames.run_namesFor]
  cases s.names.lookup? guild with
  | some listing => rfl
  | none =>
    dsimp only
    cases answers guild <;> rfl

/-- What is asked when the listing of a guild is looked up. -/
def requests (guild : String) : List RoleEvent :=
  match s.names.lookup? guild with
  | some _ => []
  | none => [.asked guild (answers guild)]

/-- What a call adds to the log. -/
def events : RoleCall → List RoleEvent
  | .namesFor guild => s.requests answers guild
  | .forget guild => [.forgotten guild]
  | .resolve i => (RoleCall.resolve i).guild?.elim [] (s.requests answers)

/-- The session after events. -/
def extend (events : List RoleEvent) : RoleSession :=
  ⟨events.foldl RoleNames.afterEvent s.names, s.log ++ events⟩

theorem extend_nil : s.extend [] = s := by
  rw [extend, List.foldl_nil, List.append_nil]

/-- A call does to what is kept what its events do. -/
theorem call_eq_extend (c : RoleCall) : (s.call answers c).2 = s.extend (s.events answers c) := by
  have hlookup (guild : String) :
      (s.call answers (.namesFor guild)).2 = s.extend (s.requests answers guild) := by
    rw [call_namesFor, requests]
    cases s.names.lookup? guild with
    | some listing => exact s.extend_nil.symm
    | none => rfl
  cases c with
  | namesFor guild => exact hlookup guild
  | forget guild => rfl
  | resolve i =>
    cases h : (RoleCall.resolve i).guild? with
    | none =>
      rw [call_resolve_of_none s answers h, events, h]
      exact s.extend_nil.symm
    | some guild =>
      rw [events, h, Option.elim_some, ← hlookup guild, call_resolve s answers h]

/-- All that a call adds to the log is about its guild. -/
theorem guild_of_mem_events {c : RoleCall} {event : RoleEvent} (h : event ∈ s.events answers c) :
    c.guild? = some event.guild := by
  have hrequests {guild : String} (h : event ∈ s.requests answers guild) :
      some guild = some event.guild := by
    rw [requests] at h
    split at h
    · cases h
    · rw [List.mem_singleton.mp h]
      rfl
  cases c with
  | namesFor guild => exact hrequests h
  | forget guild =>
    rw [List.mem_singleton.mp h]
    rfl
  | resolve i =>
    rw [events] at h
    cases hguild : (RoleCall.resolve i).guild? with
    | none =>
      rw [hguild] at h
      cases h
    | some guild =>
      rw [hguild] at h
      exact hrequests h

/-! ### Sessions -/

variable {s} {s' : RoleSession} {guild : String}

/-- Calls about other guilds do not change what a guild finds. -/
theorem lookup?_take_of_not_concerns {t : RoleTurn} (h : ¬ t.concerns guild) :
    (s.take t).2.names.lookup? guild = s.names.lookup? guild := by
  rw [take, call_eq_extend]
  refine RoleNames.lookup?_foldl_of_ne (fun event hevent heq => h ?_) s.names
  rw [RoleTurn.concerns, guild_of_mem_events s t.answers hevent, heq]
  exact beq_self_eq_true _

/-- What a guild finds decides what calls about it come to. -/
theorem take_congr (h : s.names.lookup? guild = s'.names.lookup? guild) {t : RoleTurn}
    (hconcerns : t.concerns guild) :
    (s.take t).1 = (s'.take t).1 ∧
      (s.take t).2.names.lookup? guild = (s'.take t).2.names.lookup? guild := by
  have hguild : t.call.guild? = some guild := eq_of_beq hconcerns
  obtain ⟨c, answers⟩ := t
  have hlookup : (s.call answers (.namesFor guild)).1 = (s'.call answers (.namesFor guild)).1 := by
    rw [call_namesFor, call_namesFor, h]
    cases s'.names.lookup? guild <;> rfl
  have hrequests : s.requests answers guild = s'.requests answers guild := by
    rw [requests, requests, h]
  rw [take, take, call_eq_extend, call_eq_extend]
  cases c with
  | namesFor other =>
    obtain rfl := Option.some.inj hguild
    refine ⟨hlookup, ?_⟩
    rw [events, events, hrequests]
    exact RoleNames.lookup?_foldl_congr h _
  | forget other => exact ⟨rfl, RoleNames.lookup?_foldl_congr h _⟩
  | resolve i =>
    rw [call_resolve s answers hguild, call_resolve s' answers hguild, hlookup, events, events,
      hguild, Option.elim_some, Option.elim_some, hrequests]
    exact ⟨rfl, RoleNames.lookup?_foldl_congr h _⟩

/-- The log has all that is kept. -/
theorem names_after (turns : List RoleTurn) :
    (after turns).names = (after turns).log.foldl RoleNames.afterEvent .empty := by
  induction turns using List.reverseRecOn with
  | nil => rfl
  | append_singleton turns t ih =>
    rw [after_concat, take, call_eq_extend, extend, List.foldl_append, ← ih]

theorem lookup?_after (turns : List RoleTurn) (guild : String) :
    (after turns).names.lookup? guild = RoleEvent.lastListing? guild (after turns).log := by
  rw [names_after, RoleNames.lookup?_foldl_afterEvent]

/-- A guild finds what it would find if there were no other guilds. -/
theorem lookup?_after_filter (turns : List RoleTurn) (guild : String) :
    (after turns).names.lookup? guild =
      (after (turns.filter (·.concerns guild))).names.lookup? guild := by
  induction turns using List.reverseRecOn with
  | nil => rfl
  | append_singleton turns t ih =>
    rw [List.filter_append, after_concat]
    by_cases h : t.concerns guild
    · rw [List.filter_singleton, h, cond_true, after_concat]
      exact (take_congr ih h).2
    · rw [List.filter_singleton, Bool.eq_false_iff.mpr h, cond_false, List.append_nil,
        lookup?_take_of_not_concerns h]
      exact ih

end RoleSession

/-! ### Naming roles -/

/-- Holds of a role and what comes of naming it: a name that is there stays, and a missing one is
what the listing has for the id. -/
structure NamesRole (listing : RoleListing) (role named : RoleRef) : Prop where
  id : named.id = role.id
  kept : ∀ name, role.name = some name → named.name = some name
  filled : role.name = none → named.name = listing.get? role.id

/-- Holds of an interaction with a member and what comes of naming the roles: nothing changes but
the names of roles. -/
structure NamesRoles (listing : RoleListing) (m : Member) (i named : Interaction) : Prop where
  rest : { named with member := i.member } = i
  member : ∃ m', named.member = some m' ∧ { m' with roles := m.roles } = m ∧
    List.Forall₂ (NamesRole listing) m.roles m'.roles

theorem namesRole_nameFrom (listing : RoleListing) (role : RoleRef) :
    NamesRole listing role (role.nameFrom listing) where
  id := rfl
  kept := fun name h => by rw [RoleRef.nameFrom, h, Option.some_or]
  filled := fun h => by rw [RoleRef.nameFrom, h, Option.none_or]

theorem namesRoles_nameRoles (listing : RoleListing) {i : Interaction} {m : Member}
    (h : i.member = some m) : NamesRoles listing m i (i.nameRoles listing) where
  rest := rfl
  member := by
    refine ⟨m.nameRoles listing, by rw [Interaction.nameRoles, h]; rfl, rfl, ?_⟩
    rw [Member.nameRoles, List.forall₂_map_right_iff, List.forall₂_same]
    exact fun role _ => namesRole_nameFrom listing role

/-- Holds of sessions whose log decides what calls come to. -/
structure RoleSession.FollowsLog (s : RoleSession) : Prop where
  /-- The last listing since the guild was forgotten is found, and nothing is asked. -/
  found : ∀ answers guild listing, RoleEvent.lastListing? guild s.log = some listing →
    s.call answers (.namesFor guild) = (.listing (.ok listing), s)
  /-- Without one the directory is asked once; if it fails, nothing is kept or lost. -/
  asked : ∀ answers guild, RoleEvent.lastListing? guild s.log = none →
    ∃ names, s.call answers (.namesFor guild) =
        (.listing (answers guild), ⟨names, s.log ++ [.asked guild (answers guild)]⟩) ∧
      ∀ message, answers guild = .error message → names = s.names
  /-- Roles are not named without a guild or a member. -/
  unnamed : ∀ answers i, i.guildId = none ∨ i.member = none →
    s.call answers (.resolve i) = (.resolved i, s)
  /-- Otherwise the listing is looked up in the same way, and roles are named if that succeeds. -/
  named : ∀ answers i guild m, i.guildId = some guild → i.member = some m →
    let looked := s.call answers (.namesFor guild)
    ∃ answer named, looked.1 = .listing answer ∧
      s.call answers (.resolve i) = (.resolved named, looked.2) ∧
      (∀ message, answer = .error message → named = i) ∧
      ∀ listing, answer = .ok listing → NamesRoles listing m i named

namespace RoleSession

/-- **The log decides.**  Calls are made one after the other, and the directory answers as it likes
each time.  Then a lookup finds the last listing that the directory gave for the guild since the
guild was forgotten; without one, and only then, the directory is asked, and a failure is returned
and changes nothing.  Naming roles uses the listing of the guild in the same way, and changes
nothing but names that were missing.  Calls about other guilds do not matter: without them, a call
comes to the same. -/
theorem answers_from_log (turns : List RoleTurn) :
    (after turns).FollowsLog ∧
      ∀ guild t, t.concerns guild →
        ((after turns).take t).1 = ((after (turns.filter (·.concerns guild))).take t).1 := by
  refine ⟨⟨?_, ?_, ?_, ?_⟩, fun guild t => ?_⟩
  · intro answers guild listing h
    rw [call_namesFor, lookup?_after, h]
  · intro answers guild h
    rw [call_namesFor, lookup?_after, h]
    refine ⟨_, rfl, fun message hfail => ?_⟩
    rw [hfail, RoleNames.receive_error]
  · intro answers i h
    refine call_resolve_of_none _ answers ?_
    rw [RoleCall.guild?]
    rcases h with h | h
    · rw [h]
      exact Option.bind_fun_none i.member
    · rw [h]
      rfl
  · intro answers i guild m hguild hmember looked
    have hconcerns : (RoleCall.resolve i).guild? = some guild := by
      rw [RoleCall.guild?, hmember, hguild]
      rfl
    have hcall := call_resolve (after turns) answers hconcerns
    obtain ⟨answer, hanswer⟩ := exists_call_namesFor (after turns) answers guild
    rw [hanswer] at hcall
    cases answer with
    | ok listing =>
      refine ⟨.ok listing, i.nameRoles listing, hanswer, hcall, (fun _ h => nomatch h), ?_⟩
      rintro _ ⟨⟩
      exact namesRoles_nameRoles listing hmember
    | error message =>
      exact ⟨.error message, i, hanswer, hcall, fun _ _ => rfl, fun _ h => nomatch h⟩
  · exact fun h => (take_congr (lookup?_after_filter turns guild) h).1

end RoleSession

end SlashCommands
