import SlashCommands.Gate

/-!
# What the gates let through

A command can be restricted to channels, and it has one list of requirements, which is gone through
twice: for permissions and then for roles.  `Requirement.IsMet` says what a requirement asks of a
member, and `Signature.Decides` says what comes of all of them together.  The main statement,
`Signature.decides_denial?`, says that the gates decide so and in no other way; who is let in is
still let in with more permissions, roles or names of roles, or with fewer requirements.
-/

namespace SlashCommands

/-! ### One requirement -/

/-- Holds if a mask has a bit. -/
def Permissions.IsSet (p : Permissions) (bit : Fin 64) : Prop :=
  p.bits.toNat.testBit bit.val

instance (p : Permissions) (bit : Fin 64) : Decidable (p.IsSet bit) :=
  inferInstanceAs (Decidable (_ = true))

theorem Permissions.holds_mask_iff {p : Permissions} {permission : Permission} :
    p.holds permission.mask ↔ p.IsSet permission.bit := by
  simp only [holds_iff, testBit_mask, forall_eq, IsSet]

theorem Permissions.contains_iff {p : Permissions} {permission : Permission} :
    p.contains permission ↔ p.holds Permission.administrator.mask ∨ p.holds permission.mask := by
  rw [contains, Bool.or_eq_true]

/-- Holds of the requirements that a member meets: a permission by its bit or as an administrator, a
role by its id or its name.  Nobody meets none of them. -/
def Requirement.IsMet (member : Option Member) : Requirement → Prop
  | .permission p => ∃ m, member = some m ∧
      (m.permissions.IsSet p.bit ∨ m.permissions.IsSet Permission.administrator.bit)
  | .role r => ∃ m, member = some m ∧ ∃ held ∈ m.roles, held.id = r ∨ held.name = some r

variable {s : Signature} {i : Interaction} {member : Option Member} {requires : List Requirement}

theorem Requirement.isMet_permission_iff {p : Permission} :
    IsMet member (.permission p) ↔ member.any (·.permissions.contains p) := by
  simp only [IsMet, Option.any_eq_true, Permissions.contains_iff, Permissions.holds_mask_iff]
  exact exists_congr fun m => and_congr_right fun _ => or_comm

theorem Requirement.isMet_role_iff {r : String} :
    IsMet member (.role r) ↔ member.any (·.hasRole r) := by
  simp only [IsMet, Option.any_eq_true, Member.hasRole, List.any_eq_true, RoleRef.isNamed,
    Bool.or_eq_true, beq_iff_eq]

namespace Signature

theorem missingPermission?_eq_some_iff {r : Requirement} {p : Permission} :
    missingPermission? member r = some p ↔
      r = .permission p ∧ ¬ member.any (·.permissions.contains p) := by
  cases r with
  | role => simp [missingPermission?]
  | permission q =>
    rw [missingPermission?, Option.ite_none_left_eq_some, Option.some.injEq,
      Requirement.permission.injEq]
    constructor
    · rintro ⟨hnot, rfl⟩
      exact ⟨rfl, hnot⟩
    · rintro ⟨rfl, hnot⟩
      exact ⟨hnot, rfl⟩

theorem missingRole?_eq_some_iff {r : Requirement} {role : String} :
    missingRole? member r = some role ↔ r = .role role ∧ ¬ member.any (·.hasRole role) := by
  cases r with
  | permission => simp [missingRole?]
  | role other =>
    rw [missingRole?, Option.ite_none_left_eq_some, Option.some.injEq, Requirement.role.injEq]
    constructor
    · rintro ⟨hnot, rfl⟩
      exact ⟨rfl, hnot⟩
    · rintro ⟨rfl, hnot⟩
      exact ⟨hnot, rfl⟩

end Signature

/-! ### One pass over the requirements -/

/-- Holds of the first requirement of one kind that a member does not meet. -/
def FirstUnmet {α : Type} (member : Option Member) (requires : List Requirement)
    (kind : α → Requirement) (x : α) : Prop :=
  ∃ before after, requires = before ++ kind x :: after ∧ ¬ (kind x).IsMet member ∧
    ∀ y, kind y ∈ before → (kind y).IsMet member

section

variable {α : Type} {kind : α → Requirement} {missing? : Requirement → Option α}

/-- A check for one kind of requirements lets through what is of another kind or met. -/
theorem missing?_eq_none_iff
    (h : ∀ r x, missing? r = some x ↔ r = kind x ∧ ¬ (kind x).IsMet member) {r : Requirement} :
    missing? r = none ↔ ∀ x, r = kind x → (kind x).IsMet member := by
  simp only [Option.eq_none_iff_forall_ne_some, ne_eq, h, not_and,
    Classical.not_not]

theorem findSome?_eq_some_iff_firstUnmet
    (h : ∀ r x, missing? r = some x ↔ r = kind x ∧ ¬ (kind x).IsMet member) {x : α} :
    requires.findSome? missing? = some x ↔ FirstUnmet member requires kind x := by
  rw [List.findSome?_eq_some_iff]
  constructor
  · rintro ⟨before, r, after, hrequires, hmissing, hbefore⟩
    obtain ⟨rfl, hunmet⟩ := (h r x).mp hmissing
    exact ⟨before, after, hrequires, hunmet,
      fun y hy => (missing?_eq_none_iff h).mp (hbefore _ hy) y rfl⟩
  · rintro ⟨before, after, hrequires, hunmet, hbefore⟩
    refine ⟨before, kind x, after, hrequires, (h _ x).mpr ⟨rfl, hunmet⟩, fun r hr => ?_⟩
    rw [missing?_eq_none_iff h]
    rintro y rfl
    exact hbefore y hr

theorem findSome?_eq_none_iff_isMet
    (h : ∀ r x, missing? r = some x ↔ r = kind x ∧ ¬ (kind x).IsMet member) :
    requires.findSome? missing? = none ↔ ∀ x, kind x ∈ requires → (kind x).IsMet member := by
  simp only [List.findSome?_eq_none_iff, missing?_eq_none_iff h]
  constructor
  · exact fun hmet x hx => hmet _ hx x rfl
  · rintro hmet r hr x rfl
    exact hmet x hr

end

namespace Signature

theorem missingPermission?_iff (r : Requirement) (p : Permission) :
    missingPermission? member r = some p ↔
      r = .permission p ∧ ¬ (Requirement.permission p).IsMet member := by
  rw [missingPermission?_eq_some_iff, Requirement.isMet_permission_iff]

theorem missingRole?_iff (r : Requirement) (role : String) :
    missingRole? member r = some role ↔
      r = .role role ∧ ¬ (Requirement.role role).IsMet member := by
  rw [missingRole?_eq_some_iff, Requirement.isMet_role_iff]

theorem missingRole?_eq_none_iff {role : String} :
    missingRole? member (.role role) = none ↔ (Requirement.role role).IsMet member := by
  rw [missingRole?, Requirement.isMet_role_iff]
  simp

/-! ### All gates -/

/-- Holds if a command is not restricted to channels, or the channel of an interaction is among them
by its id or its name. -/
def InChannel (s : Signature) (i : Interaction) : Prop :=
  s.channels.isEmpty ∨ s.channels.contains i.channel.id ∨
    ∃ name, i.channel.name = some name ∧ s.channels.contains name

/-- What comes of the gates of a command: nobody is denied in a channel of the command who meets all
of its requirements, and otherwise the channel counts before permissions and these before roles. -/
inductive Decides (s : Signature) (i : Interaction) : Option Denial → Prop
  | allowed (hchannel : s.InChannel i) (hmet : ∀ r ∈ s.requires, r.IsMet i.member) :
    Decides s i none
  | channel (hchannel : ¬ s.InChannel i) : Decides s i (some .channel)
  | permission {p : Permission} (hchannel : s.InChannel i)
    (hfirst : FirstUnmet i.member s.requires .permission p) : Decides s i (some (.permission p))
  | role {r : String} (hchannel : s.InChannel i)
    (hpermissions : ∀ p, .permission p ∈ s.requires → (Requirement.permission p).IsMet i.member)
    (hfirst : FirstUnmet i.member s.requires .role r) : Decides s i (some (.role r))

theorem allowsChannel_iff : s.allowsChannel i ↔ s.InChannel i := by
  rw [allowsChannel, Bool.or_eq_true, InChannel]
  refine or_congr_right ?_
  simp only [List.any_eq_true, Keyed.mem_keys_iff, ChannelRef.isNamed, Bool.or_eq_true, beq_iff_eq]
  constructor
  · rintro ⟨name, hname, rfl | h⟩
    · exact .inl hname
    · exact .inr ⟨name, h, hname⟩
  · rintro (hid | ⟨name, h, hname⟩)
    · exact ⟨_, hid, .inl rfl⟩
    · exact ⟨name, hname, .inr h⟩

/-- In a channel of the command the requirements decide. -/
theorem denial?_of_inChannel (h : s.InChannel i) :
    s.denial? i =
      match s.requires.findSome? (missingPermission? i.member) with
      | some p => some (.permission p)
      | none => (s.requires.findSome? (missingRole? i.member)).map .role := by
  rw [denial?, allowsChannel_iff.mpr h]
  rfl

theorem denial?_of_not_inChannel (h : ¬ s.InChannel i) : s.denial? i = some .channel := by
  have hallows : s.allowsChannel i = false := by
    rwa [← allowsChannel_iff, Bool.not_eq_true] at h
  rw [denial?, hallows]
  rfl

/-- What the gates come to is decided. -/
theorem decides_self (s : Signature) (i : Interaction) : s.Decides i (s.denial? i) := by
  by_cases hchannel : s.InChannel i
  · rw [denial?_of_inChannel hchannel]
    -- the first pass is for permissions; only if they are all met is there a second one, for roles
    cases hp : s.requires.findSome? (missingPermission? i.member) with
    | some p =>
      exact .permission hchannel ((findSome?_eq_some_iff_firstUnmet missingPermission?_iff).mp hp)
    | none =>
      have hpermissions := (findSome?_eq_none_iff_isMet missingPermission?_iff).mp hp
      cases hr : s.requires.findSome? (missingRole? i.member) with
      | some r =>
        exact .role hchannel hpermissions
          ((findSome?_eq_some_iff_firstUnmet missingRole?_iff).mp hr)
      | none =>
        have hroles := (findSome?_eq_none_iff_isMet missingRole?_iff).mp hr
        refine .allowed hchannel fun requirement hmem => ?_
        cases requirement with
        | permission p => exact hpermissions p hmem
        | role r => exact hroles r hmem
  · rw [denial?_of_not_inChannel hchannel]
    exact .channel hchannel

/-- Nothing else is decided. -/
theorem Decides.denial?_eq {verdict : Option Denial} (h : s.Decides i verdict) :
    s.denial? i = verdict := by
  cases h with
  | channel hchannel => exact denial?_of_not_inChannel hchannel
  | permission hchannel hfirst =>
    rw [denial?_of_inChannel hchannel,
      (findSome?_eq_some_iff_firstUnmet missingPermission?_iff).mpr hfirst]
  | role hchannel hpermissions hfirst =>
    rw [denial?_of_inChannel hchannel,
      (findSome?_eq_none_iff_isMet missingPermission?_iff).mpr hpermissions,
      (findSome?_eq_some_iff_firstUnmet missingRole?_iff).mpr hfirst]
    rfl
  | allowed hchannel hmet =>
    rw [denial?_of_inChannel hchannel,
      (findSome?_eq_none_iff_isMet missingPermission?_iff).mpr fun p hp => hmet _ hp,
      (findSome?_eq_none_iff_isMet missingRole?_iff).mpr fun r hr => hmet _ hr]
    rfl

theorem denial?_eq_iff_decides {verdict : Option Denial} :
    s.denial? i = verdict ↔ s.Decides i verdict := by
  constructor
  · rintro rfl
    exact decides_self s i
  · exact Decides.denial?_eq

theorem denial?_eq_none_iff :
    s.denial? i = none ↔ s.InChannel i ∧ ∀ r ∈ s.requires, r.IsMet i.member := by
  rw [denial?_eq_iff_decides]
  constructor
  · rintro ⟨hchannel, hmet⟩
    exact ⟨hchannel, hmet⟩
  · rintro ⟨hchannel, hmet⟩
    exact .allowed hchannel hmet

theorem denial?_eq_channel_iff : s.denial? i = some .channel ↔ ¬ s.InChannel i := by
  rw [denial?_eq_iff_decides]
  constructor
  · rintro ⟨⟩
    assumption
  · exact .channel

theorem denial?_eq_permission_iff_firstUnmet {p : Permission} :
    s.denial? i = some (.permission p) ↔
      s.InChannel i ∧ FirstUnmet i.member s.requires .permission p := by
  rw [denial?_eq_iff_decides]
  constructor
  · rintro ⟨⟩
    exact ⟨by assumption, by assumption⟩
  · rintro ⟨hchannel, hfirst⟩
    exact .permission hchannel hfirst

end Signature

/-! ### More of a member -/

/-- Holds if a member has the bits and the roles of another, where roles may have names that they
do not have there. -/
structure Member.Extends (m' m : Member) : Prop where
  bits : ∀ bit, m.permissions.IsSet bit → m'.permissions.IsSet bit
  roles : ∀ held ∈ m.roles, ∃ held' ∈ m'.roles, held'.id = held.id ∧
    ∀ name, held.name = some name → held'.name = some name

/-- Holds of a member who extends another; anybody extends nobody. -/
def ExtendsMember (member' member : Option Member) : Prop :=
  ∀ m, member = some m → ∃ m', member' = some m' ∧ m'.Extends m

/-- Whoever extends a member meets what the member meets. -/
theorem Requirement.IsMet.mono {r : Requirement} {member' : Option Member}
    (h : r.IsMet member) (hextends : ExtendsMember member' member) : r.IsMet member' := by
  cases r with
  | permission p =>
    obtain ⟨m, hm, hbit⟩ := h
    obtain ⟨m', hm', hextends⟩ := hextends m hm
    exact ⟨m', hm', hbit.imp (hextends.bits _) (hextends.bits _)⟩
  | role r =>
    obtain ⟨m, hm, held, hheld, hnamed⟩ := h
    obtain ⟨m', hm', hextends⟩ := hextends m hm
    obtain ⟨held', hheld', hid, hname⟩ := hextends.roles held hheld
    exact ⟨m', hm', held', hheld', hnamed.imp hid.trans (hname r)⟩

namespace Signature

theorem denial?_eq_none_of_extends {member' : Option Member}
    (hextends : ExtendsMember member' i.member) (h : s.denial? i = none) :
    s.denial? { i with member := member' } = none := by
  obtain ⟨hchannel, hmet⟩ := denial?_eq_none_iff.mp h
  exact denial?_eq_none_iff.mpr ⟨hchannel, fun r hr => (hmet r hr).mono hextends⟩

theorem denial?_eq_none_of_subset (hsub : s.requires ⊆ requires)
    (h : { s with requires }.denial? i = none) : s.denial? i = none := by
  obtain ⟨hchannel, hmet⟩ := denial?_eq_none_iff.mp h
  exact denial?_eq_none_iff.mpr ⟨hchannel, fun r hr => hmet r (hsub hr)⟩

/-- **The gates decide by the policy.**  The gates come to one verdict, the one that the policy has.
Who is let in is let in with more bits, more roles, names for roles without one, or as a member
where there was none.  Who is denied is denied whatever requirements are added, and neither the order
of requirements nor how often one is there decides who is let in. -/
theorem decides_denial? (s : Signature) (i : Interaction) :
    (∀ verdict, s.denial? i = verdict ↔ s.Decides i verdict) ∧
      (∀ member, ExtendsMember member i.member → s.denial? i = none →
        s.denial? { i with member } = none) ∧
      (∀ requires, s.requires ⊆ requires → s.denial? i ≠ none →
        { s with requires }.denial? i ≠ none) ∧
      ∀ requires, (∀ r, r ∈ requires ↔ r ∈ s.requires) →
        ({ s with requires }.denial? i = none ↔ s.denial? i = none) := by
  refine ⟨fun verdict => denial?_eq_iff_decides, fun member => denial?_eq_none_of_extends, ?_, ?_⟩
  · exact fun requires hsub hdenied h => hdenied (denial?_eq_none_of_subset hsub h)
  · intro requires hsame
    constructor
    · exact denial?_eq_none_of_subset fun r hr => (hsame r).mpr hr
    · -- the command with these requirements instead, given those that it had
      exact denial?_eq_none_of_subset (s := { s with requires }) fun r hr => (hsame r).mp hr

/-- A command for a channel, with requirements. -/
def guarded (requires : List Requirement) : Signature :=
  { name := "purge"
    description := "Purges"
    kind := .chatInput
    nodes := []
    choices := .empty
    defaults := .empty
    requires := requires
    channels := NameSet.ofNames ["general"]
    guilds := .empty }

end Signature

/-- An invocation in that channel. -/
def Interaction.inGeneral (member : Option Member) : Interaction :=
  ⟨"1", "purge", .chatInput, none, [], ⟨"7", some "general"⟩, none, member⟩

/-- A moderator needs to be one by the role's id and to have the bits to kick and to ban; the
permissions count first.  An administrator with the same role and one more is let in too, and
a repeated requirement does not matter. -/
theorem Signature.decides_guarded :
    let s := guarded [.role "9", .permission ⟨"KICK_MEMBERS", 1⟩, .permission ⟨"BAN_MEMBERS", 2⟩]
    let lacking := Interaction.inGeneral (some ⟨"5", ⟨2⟩, []⟩)
    let having := Interaction.inGeneral (some ⟨"5", ⟨6⟩, [⟨"9", none⟩]⟩)
    let more : Member := ⟨"5", ⟨14⟩, [⟨"8", none⟩, ⟨"9", some "mod"⟩]⟩
    s.Decides lacking (some (.permission ⟨"BAN_MEMBERS", 2⟩)) ∧
      s.denial? { having with member := some more } = none ∧
      { s with requires := .role "8" :: s.requires }.denial? lacking ≠ none ∧
      { s with requires := s.requires.reverse ++ s.requires }.denial? having = none := by
  intro s lacking having more
  have hlacking : s.denial? lacking = some (.permission ⟨"BAN_MEMBERS", 2⟩) := by decide +kernel
  have hhaving : s.denial? having = none := by decide +kernel
  have hextends : ExtendsMember (some more) having.member := by
    rintro _ ⟨⟩
    refine ⟨more, rfl, by decide +kernel, ?_⟩
    rintro held hheld
    obtain rfl := List.mem_singleton.mp hheld
    exact ⟨⟨"9", some "mod"⟩, .tail _ (.head _), rfl, by simp⟩
  obtain ⟨hdecides, -, hdenied, -⟩ := decides_denial? s lacking
  obtain ⟨-, hmore, -, hsame⟩ := decides_denial? s having
  refine ⟨(hdecides _).mp hlacking, hmore _ hextends hhaving, ?_, ?_⟩
  · exact hdenied _ (List.subset_cons_self _ _) (by simp [hlacking])
  · exact (hsame _ fun r => by simp).mpr hhaving

end SlashCommands
