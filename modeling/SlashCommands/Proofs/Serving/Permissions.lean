import SlashCommands.Proofs.Publishing.Refresh
import SlashCommands.Proofs.Schema.Presentation
import SlashCommands.Proofs.Serving.Gates

/-!
# Permissions, published and checked

A command's schema publishes the permissions that it requires as one mask, and the gate looks for
them one after the other when the command is invoked.  The main statement,
`Definition.denied_iff_published_excludes`, says that the gate denies exactly the members that the
mask keeps out, and names the first permission whose bit they miss.
-/

namespace SlashCommands

/-- Holds of the mask that a schema publishes, as a decimal number.  It is zero if there is no such
number. -/
def Datum.PublishesMask (schema : Datum) (mask : UInt64) : Prop :=
  match schema.get? "default_member_permissions" with
  | none => mask = 0
  | some shown => shown = .text (toString mask.toNat)

/-- Holds of the masks that keep an invocation out: there is something in them, and there is no
member, or one who is no administrator and does not have all of their bits. -/
def Excludes (mask : UInt64) (member : Option Member) : Prop :=
  mask ≠ 0 ∧ ∀ m, member = some m →
    ¬ m.permissions.holds Permission.administrator.mask ∧ ¬ m.permissions.holds mask

/-- Holds of the permissions whose bit a member has. -/
def HasBit (member : Option Member) (p : Permission) : Prop :=
  ∃ m, member = some m ∧ m.permissions.holds p.mask

/-- Holds of the first permission among requirements whose bit a member does not have. -/
def FirstMissing (requires : List Requirement) (member : Option Member) (p : Permission) : Prop :=
  ∃ before after, requires = before ++ .permission p :: after ∧ ¬ HasBit member p ∧
    ∀ q, .permission q ∈ before → HasBit member q

namespace Signature

variable {s : Signature} {i : Interaction} {member : Option Member} {p : Permission}

theorem missingPermission?_permission_eq_none_iff :
    missingPermission? member (.permission p) = none ↔
      member.any (·.permissions.contains p) := by
  simp [missingPermission?]

/-- In a channel of the command the permissions decide first. -/
theorem denial?_eq_permission_iff (h : s.allowsChannel i) :
    s.denial? i = some (.permission p) ↔
      s.requires.findSome? (missingPermission? i.member) = some p := by
  rw [denial?, h]
  cases s.requires.findSome? (missingPermission? i.member) with
  | some q => simp
  | none =>
    -- then only a role can be missing
    cases s.requires.findSome? (missingRole? i.member) <;> simp

/-- The permission that is looked for in vain is the first whose bit is missing. -/
theorem firstMissing_of_findSome? {requires : List Requirement}
    (h : requires.findSome? (missingPermission? member) = some p) :
    FirstMissing requires member p := by
  obtain ⟨before, r, after, hrequires, hmissing, hbefore⟩ := List.findSome?_eq_some_iff.mp h
  obtain ⟨rfl, hlacks⟩ := missingPermission?_eq_some_iff.mp hmissing
  refine ⟨before, after, hrequires, ?_, ?_⟩
  · rintro ⟨m, rfl, hbit⟩
    exact hlacks (Permissions.contains_iff.mpr (.inr hbit))
  · intro q hq
    have hgranted := missingPermission?_permission_eq_none_iff.mp (hbefore _ hq)
    cases member with
    | none => cases hgranted
    | some m =>
      -- an administrator would not miss `p`
      have hnot : ¬ m.permissions.holds Permission.administrator.mask := fun hadmin =>
        hlacks (Permissions.contains_iff.mpr (.inl hadmin))
      exact ⟨m, rfl, (Permissions.contains_iff.mp hgranted).resolve_left hnot⟩

end Signature

namespace Definition

variable (d : Definition)

theorem mem_requiredPermissions_iff {p : Permission} :
    p ∈ d.requiredPermissions ↔ .permission p ∈ d.requires := by
  rw [requiredPermissions, List.mem_filterMap]
  constructor
  · rintro ⟨r, hr, hp⟩
    cases r with
    | permission q =>
      obtain rfl := Option.some.inj hp
      exact hr
    | role => cases hp
  · exact fun h => ⟨_, h, rfl⟩

/-- The schema publishes the union of the required permissions and no other mask. -/
theorem publishesMask_schema_iff {mask : UInt64} :
    d.schema.toDatum.PublishesMask mask ↔ mask = Permissions.maskOf d.requiredPermissions := by
  have hget : d.schema.toDatum.get? "default_member_permissions" =
      if Permissions.maskOf d.requiredPermissions = 0 then none
      else some (.text (toString (Permissions.maskOf d.requiredPermissions).toNat)) := by
    simp [schema, CommandSchema.toDatum, Datum.get?]
  rw [Datum.PublishesMask, hget]
  split
  · next h =>
    split at h
    · next hzero => rw [hzero]
    · cases h
  · next shown h =>
    split at h
    · cases h
    · obtain rfl := Option.some.inj h
      rw [Datum.text.injEq]
      exact ⟨fun h => (Text.toString_toNat_inj h).symm, by rintro rfl; rfl⟩

/-- Some required permission is looked for in vain just in case their union keeps the member
out. -/
theorem exists_missing_iff (member : Option Member) :
    (∃ p ∈ d.requiredPermissions, ¬ member.any (·.permissions.contains p)) ↔
      Excludes (Permissions.maskOf d.requiredPermissions) member := by
  rw [Excludes, Ne, Permissions.maskOf_eq_zero_iff]
  cases member with
  | none =>
    -- without a member every permission is missing
    constructor
    · rintro ⟨p, hp, -⟩
      exact ⟨List.ne_nil_of_mem hp, nofun⟩
    · rintro ⟨hne, -⟩
      obtain ⟨p, hp⟩ := List.exists_mem_of_ne_nil _ hne
      exact ⟨p, hp, nofun⟩
  | some m =>
    constructor
    · rintro ⟨p, hp, hlacks⟩
      refine ⟨List.ne_nil_of_mem hp, fun m' hm' => ?_⟩
      obtain rfl := Option.some.inj hm'
      refine ⟨fun hadmin => hlacks (Permissions.contains_iff.mpr (.inl hadmin)), fun hall => ?_⟩
      exact hlacks (Permissions.contains_iff.mpr (.inr (Permissions.holds_maskOf_iff.mp hall p hp)))
    · rintro ⟨-, hkept⟩
      obtain ⟨hadmin, hunion⟩ := hkept m rfl
      rw [Permissions.holds_maskOf_iff] at hunion
      simp only [not_forall] at hunion
      obtain ⟨p, hp, hlacks⟩ := hunion
      exact ⟨p, hp, fun h => (Permissions.contains_iff.mp h).elim hadmin hlacks⟩

/-- **The published mask is what the gate checks.**  A schema publishes one mask, with or without a
number for it.  In a channel of the command the gate denies an invocation for a permission exactly
if that mask keeps the member out, and it names the first required permission whose bit is
missing. -/
theorem denied_iff_published_excludes :
    ∃ mask, (∀ mask', d.schema.toDatum.PublishesMask mask' ↔ mask' = mask) ∧
      ∀ i, d.allowsChannel i →
        ((∃ p, d.denial? i = some (.permission p)) ↔ Excludes mask i.member) ∧
        ∀ p, d.denial? i = some (.permission p) → FirstMissing d.requires i.member p := by
  refine ⟨Permissions.maskOf d.requiredPermissions, fun _ => d.publishesMask_schema_iff, ?_⟩
  intro i hchannel
  simp only [Signature.denial?_eq_permission_iff hchannel]
  refine ⟨?_, fun p => Signature.firstMissing_of_findSome?⟩
  rw [← exists_missing_iff]
  constructor
  · rintro ⟨p, hp⟩
    obtain ⟨r, hr, hmissing⟩ := List.exists_of_findSome?_eq_some hp
    obtain ⟨rfl, hlacks⟩ := Signature.missingPermission?_eq_some_iff.mp hmissing
    exact ⟨p, d.mem_requiredPermissions_iff.mpr hr, hlacks⟩
  · rintro ⟨p, hp, hlacks⟩
    have hmissing := Signature.missingPermission?_eq_some_iff.mpr ⟨rfl, hlacks⟩
    exact Option.isSome_iff_exists.mp (List.findSome?_isSome_iff.mpr
      ⟨_, d.mem_requiredPermissions_iff.mp hp, Option.isSome_iff_exists.mpr ⟨p, hmissing⟩⟩)

/-- A command with requirements. -/
def purge (requirements : List Requirement) : Definition :=
  { bare "purge" [] with requires := requirements }

/-- A command is for moderators who can kick and ban.  A member who can only kick is denied for the
second permission, and the published mask has the bits of both. -/
theorem denied_purge :
    let d := purge [.role "moderator", .permission ⟨"KICK_MEMBERS", 1⟩,
      .permission ⟨"BAN_MEMBERS", 2⟩]
    let i : Interaction :=
      ⟨"1", "purge", .chatInput, none, [], ⟨"7", none⟩, none, some ⟨"5", ⟨2⟩, []⟩⟩
    d.schema.toDatum.PublishesMask 6 ∧ d.allowsChannel i ∧ Excludes 6 i.member ∧
      d.denial? i = some (.permission ⟨"BAN_MEMBERS", 2⟩) ∧
      FirstMissing d.requires i.member ⟨"BAN_MEMBERS", 2⟩ := by
  intro d i
  have hmask : d.schema.toDatum.PublishesMask 6 := d.publishesMask_schema_iff.mpr rfl
  have hdenied : d.denial? i = some (.permission ⟨"BAN_MEMBERS", 2⟩) := by decide +kernel
  obtain ⟨mask, hpublished, hgate⟩ := denied_iff_published_excludes d
  obtain ⟨hiff, hfirst⟩ := hgate i rfl
  obtain rfl := (hpublished 6).mp hmask
  exact ⟨hmask, rfl, hiff.mp ⟨_, hdenied⟩, hdenied, hfirst _ hdenied⟩

end Definition

end SlashCommands
