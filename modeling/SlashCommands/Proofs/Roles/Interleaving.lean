import Mathlib.Data.List.Induction
import SlashCommands.RoleNames

/-!
# Lookups at the same time

A lookup finds a kept listing, or asks the directory and waits for the answer.  While it waits,
other lookups may go on and listings may be forgotten.  `RoleLookups` steps through any number of
lookups; without other steps in between, a lookup is `RoleNames.namesFor` (`run_alone`).

The main statement, `RoleLookups.returns_forgotten_iff`, says when a lookup that starts after a
guild was forgotten comes to a listing from before: just in case the answer was waited for when the
guild was forgotten, and is kept when the lookup starts.  So a role may get its old name back
(`RoleLookups.returns_renamed`).
-/

namespace SlashCommands

/-- How far a lookup has come.  The times are those when the directory was asked. -/
inductive LookupPhase
  | missed
  | waiting (time : Nat)
  | ended (time : Nat) (answer : Except String RoleListing)

/-- How a lookup goes on from a time: if it asks, it does so then or later, and an answer is its
end. -/
inductive LookupPhase.Leads (since : Nat) : LookupPhase → LookupPhase → Prop
  | stays (phase : LookupPhase) : Leads since phase phase
  | asks {time : Nat} (h : since ≤ time) : Leads since .missed (.waiting time)
  | looksUp {time : Nat} (h : since ≤ time) (answer : Except String RoleListing) :
    Leads since .missed (.ended time answer)
  | receives (time : Nat) (answer : Except String RoleListing) :
    Leads since (.waiting time) (.ended time answer)

theorem LookupPhase.Leads.trans {since since' : Nat} {p q r : LookupPhase} (hle : since ≤ since')
    (h : p.Leads since q) (h' : q.Leads since' r) : p.Leads since r := by
  cases h with
  | stays =>
    cases h' with
    | stays => exact .stays p
    | asks htime => exact .asks (Nat.le_trans hle htime)
    | looksUp htime answer => exact .looksUp (Nat.le_trans hle htime) answer
    | receives time answer => exact .receives time answer
  | asks htime =>
    cases h' with
    | stays => exact .asks htime
    | receives time answer => exact .looksUp htime answer
  | looksUp htime answer =>
    cases h' with
    | stays => exact .looksUp htime answer
  | receives time answer =>
    cases h' with
    | stays => exact .receives time answer

/-- A lookup of the listing of a guild. -/
structure RoleLookup where
  guild : String
  phase : LookupPhase

/-- What is kept, and the lookups in the order of their starts. -/
structure RoleLookups where
  names : RoleNames
  /-- When the directory was asked for the listing of a guild that is kept. -/
  askedAt : String → Nat
  lookups : List RoleLookup
  /-- The number of steps so far. -/
  time : Nat

/-- What can happen next: a lookup starts, a lookup asks the directory, a lookup receives an answer,
or a guild is forgotten. -/
inductive LookupStep
  | start (guild : String)
  | ask (lookup : Nat)
  | receive (lookup : Nat) (answer : Except String RoleListing)
  | forget (guild : String)

namespace RoleLookups

/-- Nothing is kept, and there are no lookups. -/
def initial : RoleLookups := ⟨.empty, fun _ => 0, [], 0⟩

/-- How a lookup begins: with a kept listing it has ended at once. -/
def firstPhase (s : RoleLookups) (guild : String) : LookupPhase :=
  match s.names.lookup? guild with
  | some listing => .ended (s.askedAt guild) (.ok listing)
  | none => .missed

/-- When the directory was asked for what is kept after an answer. -/
def askedAtAfter (s : RoleLookups) (guild : String) (time : Nat) :
    Except String RoleListing → String → Nat
  | .ok _ => Function.update s.askedAt guild time
  | .error _ => s.askedAt

/-- Takes a step, if it can be taken. -/
def step (s : RoleLookups) : LookupStep → Option RoleLookups
  | .start guild => some { s with
      lookups := s.lookups ++ [⟨guild, s.firstPhase guild⟩]
      time := s.time + 1 }
  | .ask n =>
    match s.lookups[n]? with
    | some ⟨guild, .missed⟩ => some { s with
        lookups := s.lookups.set n ⟨guild, .waiting s.time⟩
        time := s.time + 1 }
    | _ => none
  | .receive n answer =>
    match s.lookups[n]? with
    | some ⟨guild, .waiting time⟩ => some {
        names := s.names.receive guild answer
        askedAt := s.askedAtAfter guild time answer
        lookups := s.lookups.set n ⟨guild, .ended time answer⟩
        time := s.time + 1 }
    | _ => none
  | .forget guild => some { s with
      names := s.names.forget guild
      time := s.time + 1 }

/-- Takes steps one after the other. -/
def run (s : RoleLookups) (steps : List LookupStep) : Option RoleLookups :=
  steps.foldlM step s

theorem run_cons (s : RoleLookups) (c : LookupStep) (steps : List LookupStep) :
    s.run (c :: steps) = (s.step c).bind fun next => next.run steps := rfl

theorem run_append (s : RoleLookups) (steps steps' : List LookupStep) :
    s.run (steps ++ steps') = (s.run steps).bind fun here => here.run steps' :=
  List.foldlM_append

theorem exists_of_run_append {s final : RoleLookups} {steps steps' : List LookupStep}
    (h : s.run (steps ++ steps') = some final) :
    ∃ here, s.run steps = some here ∧ here.run steps' = some final := by
  rw [run_append] at h
  exact Option.bind_eq_some_iff.mp h

theorem exists_of_run_cons {s final : RoleLookups} {c : LookupStep} {steps : List LookupStep}
    (h : s.run (c :: steps) = some final) :
    ∃ next, s.step c = some next ∧ next.run steps = some final := by
  rw [run_cons] at h
  exact Option.bind_eq_some_iff.mp h

variable {s next : RoleLookups} {c : LookupStep} {guild : String} {n : Nat}
  {answer : Except String RoleListing}

/-- Only a lookup that has found nothing asks. -/
theorem step_ask (h : s.step (.ask n) = some next) :
    ∃ guild, s.lookups[n]? = some ⟨guild, .missed⟩ ∧
      next = { s with
        lookups := s.lookups.set n ⟨guild, .waiting s.time⟩
        time := s.time + 1 } := by
  rw [step] at h
  split at h
  · next guild hn => exact ⟨guild, hn, (Option.some.inj h).symm⟩
  · cases h

/-- Only a lookup that waits receives an answer. -/
theorem step_receive (h : s.step (.receive n answer) = some next) :
    ∃ guild time, s.lookups[n]? = some ⟨guild, .waiting time⟩ ∧
      next = {
        names := s.names.receive guild answer
        askedAt := s.askedAtAfter guild time answer
        lookups := s.lookups.set n ⟨guild, .ended time answer⟩
        time := s.time + 1 } := by
  rw [step] at h
  split at h
  · next guild time hn => exact ⟨guild, time, hn, (Option.some.inj h).symm⟩
  · cases h

/-! ### One lookup alone -/

/-- The steps of a lookup with nothing in between. -/
def alone (s : RoleLookups) (answers : String → Except String RoleListing) (guild : String) :
    List LookupStep :=
  match s.names.lookup? guild with
  | some _ => [.start guild]
  | none => [.start guild, .ask s.lookups.length, .receive s.lookups.length (answers guild)]

/-- With nothing in between, a lookup is what it is on its own. -/
theorem run_alone (s : RoleLookups) (answers : String → Except String RoleListing)
    (guild : String) :
    let looked := Id.run (s.names.namesFor answers guild)
    ∃ final time, s.run (s.alone answers guild) = some final ∧ final.names = looked.2 ∧
      final.lookups = s.lookups ++ [⟨guild, .ended time looked.1⟩] := by
  intro looked
  have hlooked : looked = Id.run (s.names.namesFor answers guild) := rfl
  rw [RoleNames.namesFor] at hlooked
  rw [alone]
  cases hkept : s.names.lookup? guild with
  | some listing =>
    rw [hkept] at hlooked
    refine ⟨_, s.askedAt guild, rfl, congrArg Prod.snd hlooked.symm, ?_⟩
    rw [hlooked, firstPhase, hkept]
    rfl
  | none =>
    rw [hkept] at hlooked
    refine ⟨⟨s.names.receive guild (answers guild),
      s.askedAtAfter guild (s.time + 1) (answers guild),
      s.lookups ++ [⟨guild, .ended (s.time + 1) (answers guild)⟩], s.time + 3⟩, s.time + 1, ?_,
      congrArg Prod.snd hlooked.symm, by rw [hlooked]; rfl⟩
    have hset (l l' : RoleLookup) :
        (s.lookups ++ [l]).set s.lookups.length l' = s.lookups ++ [l'] := by
      rw [List.set_append_right _ _ (Nat.le_refl _), Nat.sub_self, List.set_cons_zero]
    simp only [run_cons, step, firstPhase, hkept, List.getElem?_concat_length, Option.bind_some,
      hset]
    rfl

/-! ### What one step does -/

/-- A lookup that receives an answer has ended with it. -/
theorem received_step {time : Nat} (h : s.step (.receive n answer) = some next)
    (hn : s.lookups[n]? = some ⟨guild, .waiting time⟩) :
    next.lookups[n]? = some ⟨guild, .ended time answer⟩ := by
  obtain ⟨other, time', hn', rfl⟩ := step_receive h
  cases hn.symm.trans hn'
  exact List.getElem?_set_self (List.getElem?_eq_some_iff.mp hn).1

theorem time_step (h : s.step c = some next) : next.time = s.time + 1 := by
  cases c with
  | start | forget => rw [← Option.some.inj h]
  | ask n =>
    obtain ⟨guild, -, rfl⟩ := step_ask h
    rfl
  | receive n answer =>
    obtain ⟨guild, time, -, rfl⟩ := step_receive h
    rfl

theorem firstPhase_ne_waiting (s : RoleLookups) (guild : String) (time : Nat) :
    s.firstPhase guild ≠ .waiting time := by
  rw [firstPhase]
  cases s.names.lookup? guild <;> exact nofun

theorem firstPhase_eq_ended {time : Nat} {listing : RoleListing}
    (h : s.firstPhase guild = .ended time (.ok listing)) :
    s.names.lookup? guild = some listing ∧ s.askedAt guild = time := by
  rw [firstPhase] at h
  cases hkept : s.names.lookup? guild with
  | some listing' =>
    rw [hkept] at h
    cases h
    exact ⟨rfl, rfl⟩
  | none =>
    rw [hkept] at h
    cases h

/-- Lookups are as they were, or as the step has made them. -/
theorem lookup_step (h : s.step c = some next) {k : Nat} {phase : LookupPhase}
    (hk : next.lookups[k]? = some ⟨guild, phase⟩) :
    s.lookups[k]? = some ⟨guild, phase⟩ ∨
      (c = .start guild ∧ phase = s.firstPhase guild) ∨
      (c = .ask k ∧ phase = .waiting s.time) ∨
      ∃ time answer, c = .receive k answer ∧ s.lookups[k]? = some ⟨guild, .waiting time⟩ ∧
        phase = .ended time answer := by
  cases c with
  | forget other =>
    obtain rfl := Option.some.inj h
    exact .inl hk
  | start other =>
    obtain rfl := Option.some.inj h
    rw [List.getElem?_append] at hk
    split at hk
    · exact .inl hk
    · rw [List.getElem?_singleton] at hk
      split at hk
      · cases hk
        exact .inr (.inl ⟨rfl, rfl⟩)
      · cases hk
  | ask n =>
    obtain ⟨other, hn, rfl⟩ := step_ask h
    by_cases hkn : n = k
    · subst hkn
      cases hk.symm.trans (List.getElem?_set_self (List.getElem?_eq_some_iff.mp hn).1)
      exact .inr (.inr (.inl ⟨rfl, rfl⟩))
    · exact .inl ((List.getElem?_set_ne hkn).symm.trans hk)
  | receive n answer =>
    obtain ⟨other, time, hn, rfl⟩ := step_receive h
    by_cases hkn : n = k
    · subst hkn
      cases hk.symm.trans (List.getElem?_set_self (List.getElem?_eq_some_iff.mp hn).1)
      exact .inr (.inr (.inr ⟨time, answer, rfl, hn, rfl⟩))
    · exact .inl ((List.getElem?_set_ne hkn).symm.trans hk)

/-- What is kept was kept, or the step has received it. -/
theorem kept_step (h : s.step c = some next) {listing : RoleListing}
    (hkept : next.names.lookup? guild = some listing) :
    (s.names.lookup? guild = some listing ∧ next.askedAt guild = s.askedAt guild) ∨
      ∃ k time, c = .receive k (.ok listing) ∧ s.lookups[k]? = some ⟨guild, .waiting time⟩ ∧
        next.askedAt guild = time := by
  cases c with
  | start other =>
    obtain rfl := Option.some.inj h
    exact .inl ⟨hkept, rfl⟩
  | forget other =>
    obtain rfl := Option.some.inj h
    rw [RoleNames.lookup?_forget] at hkept
    split at hkept
    · cases hkept
    · exact .inl ⟨hkept, rfl⟩
  | ask n =>
    obtain ⟨other, hn, rfl⟩ := step_ask h
    exact .inl ⟨hkept, rfl⟩
  | receive n answer =>
    obtain ⟨other, time, hn, rfl⟩ := step_receive h
    cases answer with
    | error message => exact .inl ⟨hkept, rfl⟩
    | ok received =>
      rw [RoleNames.lookup?_receive] at hkept
      split at hkept
      · next heq =>
        subst heq
        cases hkept
        exact .inr ⟨n, time, rfl, hn, Function.update_self ..⟩
      · next hne => exact .inl ⟨hkept, Function.update_of_ne hne ..⟩

/-! ### What becomes of a lookup -/

/-- What one step makes of a lookup. -/
theorem leads_step (h : s.step c = some next) {k : Nat} {phase : LookupPhase}
    (hk : s.lookups[k]? = some ⟨guild, phase⟩) :
    ∃ phase', next.lookups[k]? = some ⟨guild, phase'⟩ ∧ phase.Leads s.time phase' := by
  obtain ⟨hlt, -⟩ := List.getElem?_eq_some_iff.mp hk
  cases c with
  | start other =>
    obtain rfl := Option.some.inj h
    exact ⟨phase, (List.getElem?_append_left hlt).trans hk, .stays phase⟩
  | forget other =>
    obtain rfl := Option.some.inj h
    exact ⟨phase, hk, .stays phase⟩
  | ask n =>
    obtain ⟨other, hn, rfl⟩ := step_ask h
    by_cases hkn : n = k
    · subst hkn
      cases hk.symm.trans hn
      exact ⟨_, List.getElem?_set_self hlt, .asks (Nat.le_refl _)⟩
    · exact ⟨phase, (List.getElem?_set_ne hkn).trans hk, .stays phase⟩
  | receive n answer =>
    obtain ⟨other, time, hn, rfl⟩ := step_receive h
    by_cases hkn : n = k
    · subst hkn
      cases hk.symm.trans hn
      exact ⟨_, received_step h hk, .receives time answer⟩
    · exact ⟨phase, (List.getElem?_set_ne hkn).trans hk, .stays phase⟩

/-- A lookup that has ended stays as it is. -/
theorem ended_step (h : s.step c = some next) {k time : Nat}
    (hk : s.lookups[k]? = some ⟨guild, .ended time answer⟩) :
    next.lookups[k]? = some ⟨guild, .ended time answer⟩ := by
  obtain ⟨phase, hnext, hleads⟩ := leads_step h hk
  cases hleads
  exact hnext

/-- What steps make of a lookup. -/
theorem leads_run {steps : List LookupStep} {final : RoleLookups} (h : s.run steps = some final)
    {k : Nat} {phase : LookupPhase} (hk : s.lookups[k]? = some ⟨guild, phase⟩) :
    ∃ phase', final.lookups[k]? = some ⟨guild, phase'⟩ ∧ phase.Leads s.time phase' := by
  induction steps generalizing s phase with
  | nil =>
    obtain rfl := Option.some.inj h
    exact ⟨phase, hk, .stays phase⟩
  | cons c rest ih =>
    obtain ⟨next, hstep, hrest⟩ := exists_of_run_cons h
    obtain ⟨phase', hnext, hleads⟩ := leads_step hstep hk
    obtain ⟨phase'', hfinal, hleads'⟩ := ih hrest hnext
    exact ⟨phase'', hfinal, hleads.trans (by rw [time_step hstep]; exact Nat.le_succ _) hleads'⟩

/-! ### What is kept -/

/-- Holds if a lookup of a guild has asked the directory at a time and was given a listing. -/
def Gave (s : RoleLookups) (steps : List LookupStep) (guild : String) (time : Nat)
    (listing : RoleListing) : Prop :=
  ∃ k, steps[time]? = some (.ask k) ∧ .receive k (.ok listing) ∈ steps ∧
    s.lookups[k]? = some ⟨guild, .ended time (.ok listing)⟩

/-- Holds of what steps have led to: the directory was asked at the times that are kept, and it has
given the listings. -/
structure Accounted (s : RoleLookups) (steps : List LookupStep) : Prop where
  time : s.time = steps.length
  waiting : ∀ (k : Nat) guild time, s.lookups[k]? = some ⟨guild, .waiting time⟩ →
    steps[time]? = some (.ask k)
  ended : ∀ (k : Nat) guild time listing,
    s.lookups[k]? = some ⟨guild, .ended time (.ok listing)⟩ → s.Gave steps guild time listing
  kept : ∀ guild listing, s.names.lookup? guild = some listing →
    s.Gave steps guild (s.askedAt guild) listing

theorem Gave.step {steps : List LookupStep} {time : Nat} {listing : RoleListing}
    (h : s.Gave steps guild time listing) (hstep : s.step c = some next) :
    next.Gave (steps ++ [c]) guild time listing := by
  obtain ⟨k, hask, hreceive, hk⟩ := h
  obtain ⟨hlt, -⟩ := List.getElem?_eq_some_iff.mp hask
  exact ⟨k, (List.getElem?_append_left hlt).trans hask, List.mem_append_left _ hreceive,
    ended_step hstep hk⟩

theorem accounted_initial : initial.Accounted [] where
  time := rfl
  waiting := fun _ _ _ h => nomatch h
  ended := fun _ _ _ _ h => nomatch h
  kept := fun _ _ h => nomatch h

theorem Accounted.step {steps : List LookupStep} (h : s.Accounted steps)
    (hstep : s.step c = some next) : next.Accounted (steps ++ [c]) := by
  have hearlier {time : Nat} {c' : LookupStep} (hc' : steps[time]? = some c') :
      (steps ++ [c])[time]? = some c' :=
    (List.getElem?_append_left (List.getElem?_eq_some_iff.mp hc').1).trans hc'
  -- an answer is to what was asked when the lookup began to wait
  have hanswered {k time : Nat} {guild : String} {listing : RoleListing}
      (hc : c = .receive k (.ok listing)) (hk : s.lookups[k]? = some ⟨guild, .waiting time⟩) :
      next.Gave (steps ++ [c]) guild time listing := by
    subst hc
    exact ⟨k, hearlier (h.waiting k guild time hk), by simp, received_step hstep hk⟩
  refine ⟨?_, fun k guild time hk => ?_, fun k guild time listing hk => ?_,
    fun guild listing hkept => ?_⟩
  · rw [time_step hstep, h.time, List.length_append, List.length_singleton]
  · rcases lookup_step hstep hk with hk | ⟨-, hphase⟩ | ⟨rfl, hphase⟩ | ⟨_, _, -, -, hphase⟩
    · exact hearlier (h.waiting k guild time hk)
    · exact (firstPhase_ne_waiting s guild time hphase.symm).elim
    · cases hphase
      rw [h.time]
      exact List.getElem?_concat_length
    · cases hphase
  · rcases lookup_step hstep hk with
      hk | ⟨-, hphase⟩ | ⟨-, hphase⟩ | ⟨time', answer, hc, hk, hphase⟩
    · exact (h.ended k guild time listing hk).step hstep
    · obtain ⟨hkept, rfl⟩ := firstPhase_eq_ended hphase.symm
      exact (h.kept guild listing hkept).step hstep
    · cases hphase
    · cases hphase
      exact hanswered hc hk
  · rcases kept_step hstep hkept with ⟨hkept, hasked⟩ | ⟨k, time, hc, hk, hasked⟩
    · rw [hasked]
      exact (h.kept guild listing hkept).step hstep
    · rw [hasked]
      exact hanswered hc hk

theorem accounted_run {steps : List LookupStep} :
    ∀ {final}, initial.run steps = some final → final.Accounted steps := by
  induction steps using List.reverseRecOn with
  | nil =>
    intro final h
    obtain rfl := Option.some.inj h
    exact accounted_initial
  | append_singleton steps c ih =>
    intro final h
    obtain ⟨here, hhere, h⟩ := exists_of_run_append h
    obtain ⟨next, hstep, h⟩ := exists_of_run_cons h
    obtain rfl := Option.some.inj h
    exact (ih hhere).step hstep

/-! ### After a guild was forgotten -/

/-- Holds of what steps have led to since a guild was forgotten: lookups that wait for answers from
before have waited then, and if what is kept is from before, such a lookup has received it. -/
structure Follows (forgot s : RoleLookups) (guild : String) : Prop where
  time : forgot.time ≤ s.time
  waiting : ∀ (k : Nat) time, s.lookups[k]? = some ⟨guild, .waiting time⟩ → time < forgot.time →
    forgot.lookups[k]? = some ⟨guild, .waiting time⟩
  kept : ∀ listing, s.names.lookup? guild = some listing → s.askedAt guild < forgot.time →
    ∃ k : Nat, forgot.lookups[k]? = some ⟨guild, .waiting (s.askedAt guild)⟩ ∧
      s.lookups[k]? = some ⟨guild, .ended (s.askedAt guild) (.ok listing)⟩

theorem Follows.step {forgot : RoleLookups} (h : forgot.Follows s guild)
    (hstep : s.step c = some next) : forgot.Follows next guild := by
  refine ⟨?_, fun k time hk hlt => ?_, fun listing hkept hlt => ?_⟩
  · rw [time_step hstep]
    exact Nat.le_succ_of_le h.time
  · rcases lookup_step hstep hk with hk | ⟨-, hphase⟩ | ⟨-, hphase⟩ | ⟨_, _, -, -, hphase⟩
    · exact h.waiting k time hk hlt
    · exact (firstPhase_ne_waiting s guild time hphase.symm).elim
    · cases hphase
      exact (Nat.not_lt_of_le h.time hlt).elim
    · cases hphase
  · rcases kept_step hstep hkept with ⟨hkept, hasked⟩ | ⟨k, time, rfl, hk, hasked⟩
    · rw [hasked] at hlt ⊢
      obtain ⟨k, hforgot, hk⟩ := h.kept listing hkept hlt
      exact ⟨k, hforgot, ended_step hstep hk⟩
    · rw [hasked] at hlt ⊢
      exact ⟨k, h.waiting k time hk hlt, received_step hstep hk⟩

theorem follows_run {forgot : RoleLookups} (hforgot : forgot.names.lookup? guild = none)
    {steps : List LookupStep} {final : RoleLookups} (h : forgot.run steps = some final) :
    forgot.Follows final guild := by
  have hfollows : forgot.Follows forgot guild := by
    refine ⟨Nat.le_refl _, fun _ _ hk _ => hk, fun listing hkept => ?_⟩
    rw [hforgot] at hkept
    cases hkept
  suffices ∀ s, forgot.Follows s guild → s.run steps = some final → forgot.Follows final guild from
    this forgot hfollows h
  clear h hfollows
  induction steps with
  | nil =>
    intro s hs h
    obtain rfl := Option.some.inj h
    exact hs
  | cons c rest ih =>
    intro s hs h
    obtain ⟨next, hstep, hrest⟩ := exists_of_run_cons h
    exact ih next (hs.step hstep) hrest

/-- A lookup that has been given what was asked for before its start has found it. -/
theorem kept_of_ended {met started final : RoleLookups} {after : List LookupStep} {time : Nat}
    {listing : RoleListing} (hstart : met.step (.start guild) = some started)
    (hafter : started.run after = some final)
    (hk : final.lookups[met.lookups.length]? = some ⟨guild, .ended time (.ok listing)⟩)
    (hlt : time < met.time) :
    met.names.lookup? guild = some listing ∧ met.askedAt guild = time := by
  obtain rfl := Option.some.inj hstart
  obtain ⟨phase, hphase, hleads⟩ := leads_run hafter (List.getElem?_concat_length (l := met.lookups))
  cases hphase.symm.trans hk
  generalize hfirst : met.firstPhase guild = first at hleads
  cases hleads with
  | stays => exact firstPhase_eq_ended hfirst
  | looksUp h => exact (Nat.not_lt_of_le (Nat.le_of_succ_le h) hlt).elim
  | receives => exact (firstPhase_ne_waiting met guild time hfirst).elim

/-- **A forgotten listing that returns.**  Lookups go on at the same time while guilds are
forgotten, in any order of their steps.  A lookup that starts after its guild was forgotten comes to
a listing that the directory has given.  The directory was asked for it before the guild was
forgotten just in case a lookup waited for it then and has received it before the start, and it is
what is kept at the start. -/
theorem returns_forgotten_iff {before between after : List LookupStep} {final : RoleLookups}
    (h : initial.run (before ++ .forget guild :: (between ++ .start guild :: after)) =
      some final) :
    ∃ forgot met, initial.run before = some forgot ∧
      initial.run (before ++ .forget guild :: between) = some met ∧
      ∀ time listing,
        final.lookups[met.lookups.length]? = some ⟨guild, .ended time (.ok listing)⟩ →
          final.Gave (before ++ .forget guild :: (between ++ .start guild :: after)) guild time
            listing ∧
          (time < before.length ↔
            met.names.lookup? guild = some listing ∧
              ∃ k : Nat, forgot.lookups[k]? = some ⟨guild, .waiting time⟩ ∧
                met.lookups[k]? = some ⟨guild, .ended time (.ok listing)⟩) := by
  have hgave := (accounted_run h).ended
  obtain ⟨forgot, hbefore, h⟩ := exists_of_run_append h
  obtain ⟨cleared, hforget, h⟩ := exists_of_run_cons h
  obtain ⟨met, hbetween, h⟩ := exists_of_run_append h
  obtain ⟨started, hstart, hafter⟩ := exists_of_run_cons h
  have hforgot := accounted_run hbefore
  obtain rfl := Option.some.inj hforget
  have hcleared : (forgot.names.forget guild).lookup? guild = none := by
    rw [RoleNames.lookup?_forget, if_pos rfl]
  have hfollows := follows_run hcleared hbetween
  refine ⟨forgot, met, hbefore, ?_, fun time listing hk => ⟨hgave _ _ _ _ hk, fun hlt => ?_, ?_⟩⟩
  · rw [run_append, hbefore, Option.bind_some, run_cons, hforget, Option.bind_some, hbetween]
  · have hlt' : time < forgot.time + 1 := by
      rw [hforgot.time]
      exact Nat.lt_succ_of_lt hlt
    obtain ⟨hkept, rfl⟩ := kept_of_ended hstart hafter hk (Nat.lt_of_lt_of_le hlt' hfollows.time)
    exact ⟨hkept, hfollows.kept listing hkept hlt'⟩
  · rintro ⟨-, k, hwaits, -⟩
    exact (List.getElem?_eq_some_iff.mp (hforgot.waiting k guild time hwaits)).1

/-- A guild is forgotten when nothing is waited for, and the next lookup comes to what the directory
gives it. -/
theorem returns_current :
    let before : List LookupStep := [.start "g", .ask 0, .receive 0 (.ok (.ofList [("1", "Guest")]))]
    let after : List LookupStep := [.ask 1, .receive 1 (.ok (.ofList [("1", "Member")]))]
    let steps := before ++ .forget "g" :: ([] ++ .start "g" :: after)
    ∃ final, initial.run steps = some final ∧
      final.Gave steps "g" 5 (.ofList [("1", "Member")]) := by
  intro before after steps
  have hrun : ∃ final, initial.run steps = some final ∧
      final.lookups[1]? = some ⟨"g", .ended 5 (.ok (.ofList [("1", "Member")]))⟩ := ⟨_, rfl, rfl⟩
  obtain ⟨final, hrun, hended⟩ := hrun
  obtain ⟨forgot, met, -, hmet, hlooked⟩ := returns_forgotten_iff hrun
  have hlength : met.lookups.length = 1 := by
    rw [← Option.some.inj hmet]
    rfl
  exact ⟨final, hrun, (hlooked 5 _ (hlength ▸ hended)).1⟩

/-- A guild is forgotten after a role was renamed, while a lookup waits for an answer with the old
name.  The lookup receives it, and the next lookup starts after that and comes to the old name. -/
theorem returns_renamed :
    let steps : List LookupStep := [.start "g", .ask 0, .forget "g",
      .receive 0 (.ok (.ofList [("1", "Guest")])), .start "g"]
    ∃ final, initial.run steps = some final ∧ steps[1]? = some (.ask 0) ∧
      steps[2]? = some (.forget "g") ∧ steps[4]? = some (.start "g") ∧
      final.lookups[1]? = some ⟨"g", .ended 1 (.ok (.ofList [("1", "Guest")]))⟩ :=
  ⟨_, rfl, rfl, rfl, rfl, rfl⟩

end RoleLookups

end SlashCommands
