import SlashCommands.Proofs.Roles.Listings
import SlashCommands.Proofs.Serving.Decoding
import SlashCommands.Proofs.Serving.Gates

/-!
# Access by role names

A payload has the ids of the member's roles, and it is announced with or without their names.  The
main statement, `Payload.names_justified`, compares the two: naming the roles fails no payload and
saves none, it denies nobody who is let in without names, and it lets somebody in only through a role
that is required by the name that the listing of the guild has for it.
-/

namespace SlashCommands

/-! ### Interactions up to role names -/

/-- The role by its id alone. -/
def RoleRef.withoutName (role : RoleRef) : RoleRef := ⟨role.id, none⟩

/-- The member with the roles by id alone. -/
def Member.withoutRoleNames (m : Member) : Member :=
  { m with roles := m.roles.map RoleRef.withoutName }

/-- The interaction with the member's roles by id alone. -/
def Interaction.withoutRoleNames (i : Interaction) : Interaction :=
  { i with member := i.member.map Member.withoutRoleNames }

theorem Interaction.withoutRoleNames_nameRoles (listing : RoleListing) (i : Interaction) :
    (i.nameRoles listing).withoutRoleNames = i.withoutRoleNames := by
  have hroles (roles : List RoleRef) :
      (roles.map (RoleRef.nameFrom listing)).map RoleRef.withoutName =
        roles.map RoleRef.withoutName := by
    rw [List.map_map]
    rfl
  rw [withoutRoleNames, nameRoles, Option.map_map]
  cases hmember : i.member with
  | none => rw [withoutRoleNames, hmember]; rfl
  | some m =>
    rw [withoutRoleNames, hmember]
    simp only [Option.map_some, Function.comp_apply, Member.withoutRoleNames, Member.nameRoles,
      hroles]

/-! ### Naming and gates -/

section

variable {listing : RoleListing} {i : Interaction} {s : Signature}

theorem extendsMember_nameRoles (listing : RoleListing) (member : Option Member) :
    ExtendsMember (member.map (Member.nameRoles listing)) member := by
  rintro m rfl
  refine ⟨m.nameRoles listing, rfl, fun bit h => h, fun held hheld => ?_⟩
  have hnamed := namesRole_nameFrom listing held
  exact ⟨held.nameFrom listing, List.mem_map.mpr ⟨held, hheld, rfl⟩, hnamed.id, hnamed.kept⟩

/-- Names of roles have nothing to do with permissions. -/
theorem Requirement.isMet_permission_nameRoles {p : Permission} {member : Option Member} :
    (Requirement.permission p).IsMet (member.map (Member.nameRoles listing)) ↔
      (Requirement.permission p).IsMet member := by
  rw [isMet_permission_iff, isMet_permission_iff, Option.any_map]
  rfl

/-- A member whose roles had no names meets the requirement of a role by its id or by its name in
the listing. -/
theorem Interaction.isMet_role_nameRoles (h : i.HasUnnamedRoles) {r : String} :
    (Requirement.role r).IsMet (i.nameRoles listing).member ↔
      ∃ m, i.member = some m ∧ ∃ held ∈ m.roles, held.id = r ∨ listing.get? held.id = some r := by
  -- a role without a name gets the one in the listing, so what it is required by is known
  have hname {m : Member} (hm : i.member = some m) {held : RoleRef} (hheld : held ∈ m.roles) :
      (held.nameFrom listing).name = listing.get? held.id :=
    (namesRole_nameFrom listing held).filled (h m hm held hheld)
  constructor
  · rintro ⟨_, hm', held', hheld', hnamed⟩
    obtain ⟨m, hm, rfl⟩ := Option.map_eq_some_iff.mp hm'
    obtain ⟨held, hheld, rfl⟩ := List.mem_map.mp hheld'
    rw [hname hm hheld] at hnamed
    exact ⟨m, hm, held, hheld, hnamed⟩
  · rintro ⟨m, hm, held, hheld, hnamed⟩
    rw [← hname hm hheld] at hnamed
    exact ⟨m.nameRoles listing, Option.map_eq_some_iff.mpr ⟨m, hm, rfl⟩, held.nameFrom listing,
      List.mem_map.mpr ⟨held, hheld, rfl⟩, hnamed⟩

theorem Signature.denial?_nameRoles_eq_channel_iff :
    s.denial? (i.nameRoles listing) = some .channel ↔ s.denial? i = some .channel := by
  rw [denial?_eq_channel_iff, denial?_eq_channel_iff]
  rfl

theorem Signature.denial?_nameRoles_eq_permission_iff {p : Permission} :
    s.denial? (i.nameRoles listing) = some (.permission p) ↔
      s.denial? i = some (.permission p) := by
  rw [denial?_eq_permission_iff_firstUnmet, denial?_eq_permission_iff_firstUnmet, FirstUnmet,
    FirstUnmet]
  simp only [Interaction.nameRoles, Requirement.isMet_permission_nameRoles]
  rfl

end

/-! ### With and without names -/

/-- The listing that the roles of an interaction are named from: with a guild and a member, the one
that is kept of the guild, else the one that the directory gives for it, if it gives one. -/
def RoleNames.listingFor? (r : RoleNames) (answers : String → Except String RoleListing)
    (i : Interaction) : Option RoleListing :=
  (i.member.bind fun _ => i.guildId).bind fun guild =>
    (r.lookup? guild).or (answers guild).toOption

theorem RoleNames.run_resolve (r : RoleNames) (answers : String → Except String RoleListing)
    (i : Interaction) (log : List RoleEvent) :
    ((r.resolve (.logged answers) i).run log).1.1 =
      (r.listingFor? answers i).elim i i.nameRoles := by
  rw [resolve.eq_def, listingFor?]
  cases i.guildId with
  | none => cases i.member <;> rfl
  | some guild =>
    cases i.member with
    | none => rfl
    | some m =>
      dsimp only [Option.bind_some]
      rw [StateT.run_bind, run_namesFor]
      cases r.lookup? guild with
      | some listing => rfl
      | none =>
        dsimp only [Option.none_or]
        cases answers guild <;> rfl

namespace Payload

variable {p : Payload} (roles : RoleNames) (answers : String → Except String RoleListing)
  (log : List RoleEvent)

/-- A payload that is at fault is refused at once. -/
theorem run_toEventWithRoles_of_error {fault : PayloadFault} (h : p.toEvent = .error fault) :
    (p.toEventWithRoles roles (.logged answers)).run log = ((.error fault, roles), log) := by
  rw [toEventWithRoles, h]
  rfl

theorem run_toEventWithRoles_of_ok {kind : EventKind} {i : Interaction}
    (h : p.toEvent = .ok (kind, i)) :
    ((p.toEventWithRoles roles (.logged answers)).run log).1.1 =
      .ok (kind, (roles.listingFor? answers i).elim i i.nameRoles) := by
  rw [toEventWithRoles, h, ← RoleNames.run_resolve roles answers i log]
  rfl

theorem toInteraction_of_toEvent {kind : EventKind} {i : Interaction}
    (h : p.toEvent = .ok (kind, i)) : p.toInteraction = .ok i := by
  rw [toEvent] at h
  split at h
  · cases h
  · cases hi : p.toInteraction with
    | error fault =>
      rw [hi] at h
      cases h
    | ok i' =>
      rw [hi] at h
      cases h
      rfl

end Payload

/-- Holds of an interaction by role ids and the same interaction with names from a listing, if there
is one.  They differ in names of roles alone.  Who is let in without names is let in with them; only
for a role the gates can decide otherwise, and without a listing they do not.  The requirement of a
role is then met by its id, or if the listing has its name for a role of the member. -/
structure Interaction.NamedJustly (i : Interaction) (listing? : Option RoleListing)
    (named : Interaction) : Prop where
  rest : named.withoutRoleNames = i.withoutRoleNames
  allowed : ∀ s : Signature, s.denial? i = none → s.denial? named = none
  same : listing? = none → ∀ s : Signature, s.denial? named = s.denial? i
  channel : ∀ s : Signature, s.denial? named = some .channel ↔ s.denial? i = some .channel
  permission : ∀ (s : Signature) p,
    s.denial? named = some (.permission p) ↔ s.denial? i = some (.permission p)
  role : ∀ listing, listing? = some listing → ∀ r,
    Signature.missingRole? named.member (.role r) = none ↔
      ∃ m, i.member = some m ∧ ∃ held ∈ m.roles, held.id = r ∨ listing.get? held.id = some r

theorem Interaction.namedJustly_self (i : Interaction) : i.NamedJustly none i where
  rest := rfl
  allowed _ h := h
  same _ _ := rfl
  channel _ := Iff.rfl
  permission _ _ := Iff.rfl
  role _ h := by cases h

theorem Interaction.namedJustly_nameRoles {i : Interaction} (h : i.HasUnnamedRoles)
    (listing : RoleListing) : i.NamedJustly (some listing) (i.nameRoles listing) where
  rest := i.withoutRoleNames_nameRoles listing
  allowed _ hallowed :=
    Signature.denial?_eq_none_of_extends (extendsMember_nameRoles listing i.member) hallowed
  same hnone := by cases hnone
  channel _ := Signature.denial?_nameRoles_eq_channel_iff
  permission _ _ := Signature.denial?_nameRoles_eq_permission_iff
  role _ hlisting r := by
    obtain rfl := Option.some.inj hlisting
    rw [Signature.missingRole?_eq_none_iff]
    exact isMet_role_nameRoles h

/-- **Role names add only access that the listing justifies.**  With names, a payload is refused
exactly if it is refused without, for the same fault, and then the directory is not asked.  Otherwise
it is announced as the same kind of event, and the interaction is the same up to names that come from
the listing of its guild. -/
theorem Payload.names_justified (p : Payload) (roles : RoleNames)
    (answers : String → Except String RoleListing) (log : List RoleEvent) :
    let resolved := (p.toEventWithRoles roles (.logged answers)).run log
    (∀ fault, resolved.1.1 = .error fault ↔ p.toEvent = .error fault) ∧
      (∀ fault, p.toEvent = .error fault → resolved = ((.error fault, roles), log)) ∧
      ∀ kind i, p.toEvent = .ok (kind, i) → ∃ named, resolved.1.1 = .ok (kind, named) ∧
        i.NamedJustly (roles.listingFor? answers i) named := by
  intro resolved
  have hrefused (fault : PayloadFault) (h : p.toEvent = .error fault) :
      resolved = ((.error fault, roles), log) := run_toEventWithRoles_of_error roles answers log h
  have hannounced (kind : EventKind) (i : Interaction) (h : p.toEvent = .ok (kind, i)) :
      resolved.1.1 = .ok (kind, (roles.listingFor? answers i).elim i i.nameRoles) :=
    run_toEventWithRoles_of_ok roles answers log h
  refine ⟨fun fault => ⟨fun h => ?_, fun h => by rw [hrefused fault h]⟩, hrefused,
    fun kind i h => ⟨_, hannounced kind i h, ?_⟩⟩
  · cases hplain : p.toEvent with
    | error fault' => rwa [hrefused fault' hplain] at h
    | ok event =>
      obtain ⟨kind, i⟩ := event
      rw [hannounced kind i hplain] at h
      cases h
  · -- a payload has no names of roles, so that every name comes from the listing
    have hunnamed := hasUnnamedRoles (toInteraction_of_toEvent h)
    cases roles.listingFor? answers i with
    | none => exact i.namedJustly_self
    | some listing => exact Interaction.namedJustly_nameRoles hunnamed listing

/-- A member with one role invokes a command in a guild. -/
def Payload.purge : Payload :=
  { id := "1"
    token := "t"
    type := 2
    data := some ⟨"purge", none, []⟩
    guildId := some "g"
    channelId := none
    channel := some ⟨"7", some "general"⟩
    member := some ⟨some "5", ["9"], none⟩ }

/-- The interaction that it carries. -/
def Interaction.purge : Interaction :=
  { inGeneral (some ⟨"5", .empty, [⟨"9", none⟩]⟩) with guildId := some "g" }

/-- The role is required by its name.  With the listing of the guild the requirement is met, and one
by the id stays met; without data the payload is refused, and nothing is asked. -/
theorem Payload.names_justified_purge :
    let answers : String → Except String RoleListing := fun _ => .ok (Keyed.empty.insert "9" "mod")
    let resolve (p : Payload) := (p.toEventWithRoles .empty (.logged answers)).run []
    purge.toEvent = .ok (.command, .purge) ∧
      Signature.missingRole? Interaction.purge.member (.role "mod") = some "mod" ∧
      (∃ named, (resolve purge).1.1 = .ok (.command, named) ∧
        named.withoutRoleNames = Interaction.purge.withoutRoleNames ∧
        Signature.missingRole? named.member (.role "mod") = none ∧
        (Signature.guarded [.role "9"]).denial? named = none) ∧
      resolve { purge with data := none } = ((.error (.noData "1"), .empty), []) := by
  intro answers resolve
  have hevent : purge.toEvent = .ok (.command, .purge) := rfl
  have hallowed : (Signature.guarded [.role "9"]).denial? .purge = none := by decide +kernel
  obtain ⟨-, -, hannounced⟩ := purge.names_justified .empty answers []
  obtain ⟨named, hnamed, hjustly⟩ := hannounced _ _ hevent
  obtain ⟨-, hrefused, -⟩ := { purge with data := none }.names_justified .empty answers []
  have hmod : Signature.missingRole? named.member (.role "mod") = none :=
    (hjustly.role (Keyed.empty.insert "9" "mod") rfl "mod").mpr
      ⟨_, rfl, _, .head _, .inr (by decide +kernel)⟩
  exact ⟨hevent, by decide +kernel, ⟨named, hnamed, hjustly.rest, hmod, hjustly.allowed _ hallowed⟩,
    hrefused _ rfl⟩

end SlashCommands
