import Mathlib.Data.List.Forall2
import SlashCommands.Payload

/-!
# Decoding payloads

The platform encodes an interaction in a payload: it nests the options in the subcommand that is
invoked, leaves out the names of roles and writes the permissions as a decimal number.  The main
statement, `Payload.decodes_or_malformed`, has two halves.  A payload that encodes an interaction is
brought into just that interaction, and a payload is refused just in case it is malformed.  For the
second half there is one lemma for each part that can be at fault.
-/

namespace SlashCommands

/-! ### Options -/

namespace PayloadOption

/-- Holds if the options of a payload carry some options in a scope: as they are at top level, in a
subcommand, or in the first subcommand of a group. -/
inductive Carries (supplied : List PayloadOption) : Option String → List PayloadOption → Prop
  | plain (htypes : ∀ o ∈ supplied, o.type ≠ subcommandType ∧ o.type ≠ groupType) :
    Carries supplied none supplied
  | subcommand {o : PayloadOption} (htype : o.type = subcommandType)
    (hoptions : o.options = supplied) :
    Carries supplied (some o.name) [o]
  | group {g o : PayloadOption} {before after : List PayloadOption} (hgroup : g.type = groupType)
    (hoptions : g.options = before ++ o :: after) (hbefore : ∀ x ∈ before, x.type ≠ subcommandType)
    (htype : o.type = subcommandType) (hinner : o.options = supplied) :
    Carries supplied (some o.name) [g]

theorem flatten_of_carries {supplied options : List PayloadOption} {scope : Option String}
    (h : Carries supplied scope options) : flatten options = (scope, supplied.map toSupplied) := by
  cases h with
  | plain htypes =>
    have hnone : supplied.find? (fun o => o.isSubcommand || o.isGroup) = none := by
      rw [List.find?_eq_none]
      intro o ho
      simpa [isSubcommand, isGroup] using htypes o ho
    rw [flatten, hnone]
  | @subcommand o htype hoptions =>
    have hgroup : o.isGroup = false := by
      rw [isGroup, htype]
      rfl
    rw [flatten, List.find?_cons_of_pos (by simp [isSubcommand, htype])]
    simp [hgroup, hoptions]
  | @group g o before after hgroup hoptions hbefore htype hinner =>
    have hfirst : g.options.find? isSubcommand = some o := by
      have hnone : before.find? isSubcommand = none :=
        List.find?_eq_none.mpr (by simpa [isSubcommand] using hbefore)
      rw [hoptions, List.find?_append, hnone, Option.none_or,
        List.find?_cons_of_pos (by simp [isSubcommand, htype])]
    rw [flatten, List.find?_cons_of_pos (by simp [isGroup, hgroup])]
    simp [isGroup, hgroup, hfirst, hinner]

/-- Holds if the options of a payload carry some options in a scope, in a subcommand or in a group
that other options may stand beside. -/
inductive CarriesAmong (supplied : List PayloadOption) : Option String → List PayloadOption → Prop
  | plain {options : List PayloadOption} (h : Carries supplied none options) :
    CarriesAmong supplied none options
  | beside {scope : String} {outer : PayloadOption} {before after : List PayloadOption}
    (h : Carries supplied (some scope) [outer])
    (hbefore : ∀ o ∈ before, o.type ≠ subcommandType ∧ o.type ≠ groupType) :
    CarriesAmong supplied (some scope) (before ++ outer :: after)

/-- What holds the options of a scope is a subcommand or a group. -/
theorem Carries.selected {supplied : List PayloadOption} {scope : String} {outer : PayloadOption}
    (h : Carries supplied (some scope) [outer]) : outer.isSubcommand || outer.isGroup := by
  cases h with
  | subcommand htype _ => simp [isSubcommand, htype]
  | group hgroup _ _ _ _ => simp [isGroup, hgroup]

theorem flatten_of_carriesAmong {supplied options : List PayloadOption} {scope : Option String}
    (h : CarriesAmong supplied scope options) :
    flatten options = (scope, supplied.map toSupplied) := by
  cases h with
  | plain h => exact flatten_of_carries h
  | @beside scope outer before after h hbefore =>
    -- what stands before the outermost option is passed over
    have hnone : before.find? (fun o => o.isSubcommand || o.isGroup) = none :=
      List.find?_eq_none.mpr (by simpa [isSubcommand, isGroup] using hbefore)
    have hfound : (before ++ outer :: after).find? (fun o => o.isSubcommand || o.isGroup) =
        some outer := by
      rw [List.find?_append, hnone, Option.none_or]
      exact List.find?_cons_of_pos h.selected
    have halone : [outer].find? (fun o => o.isSubcommand || o.isGroup) = some outer :=
      List.find?_cons_of_pos h.selected
    rw [← flatten_of_carries h, flatten, flatten, hfound, halone]

/-- Holds if an option of a payload has the name, the value and the focus of an option. -/
structure Encodes (o : PayloadOption) (s : SuppliedOption) : Prop where
  name : o.name = s.name
  value : o.value = s.value
  focused : o.focused = s.focused

theorem map_toSupplied_of_encodes {supplied : List PayloadOption} {options : List SuppliedOption}
    (h : List.Forall₂ Encodes supplied options) : supplied.map toSupplied = options := by
  induction h with
  | nil => rfl
  | cons hfirst _ ih =>
    rw [List.map_cons, ih, toSupplied, hfirst.name, hfirst.value, hfirst.focused]

end PayloadOption

/-! ### Members -/

/-- Holds if a payload has the member's id, the ids of the roles and the number of the
permissions. -/
structure PayloadMember.Encodes (pm : PayloadMember) (m : Member) : Prop where
  userId : pm.userId = some m.userId
  roles : pm.roles = m.roles.map RoleRef.id
  permissions : pm.permissions = some (toString m.permissions.bits.toNat)

/-- Holds if no role of the member has a name. -/
def Interaction.HasUnnamedRoles (i : Interaction) : Prop :=
  ∀ m, i.member = some m → ∀ held ∈ m.roles, held.name = none

theorem RoleRef.map_unnamed {roles : List RoleRef} (h : ∀ held ∈ roles, held.name = none) :
    (roles.map RoleRef.id).map (⟨·, none⟩) = roles := by
  induction roles with
  | nil => rfl
  | cons held rest ih =>
    rw [List.map_cons, List.map_cons, ih fun other hother => h other (.tail _ hother),
      ← h held (.head _)]

theorem PayloadMember.toMember_of_encodes {pm : PayloadMember} {m : Member} (h : pm.Encodes m)
    (hunnamed : ∀ held ∈ m.roles, held.name = none) : pm.toMember = .ok m := by
  have hmask : pm.permissionMask = .ok m.permissions := by
    rw [permissionMask, h.permissions]
    dsimp only
    rw [Text.readUnsigned_toString]
  rw [toMember, hmask, h.userId, h.roles, RoleRef.map_unnamed hunnamed]
  rfl

theorem PayloadMember.mapM_toMember_of_encodes {encoded : Option PayloadMember}
    {member : Option Member} (h : Option.Rel Encodes encoded member)
    (hunnamed : ∀ m, member = some m → ∀ held ∈ m.roles, held.name = none) :
    encoded.mapM toMember = .ok member := by
  cases h with
  | none => rfl
  | some h =>
    rw [Option.mapM_some, toMember_of_encodes h (hunnamed _ rfl)]
    rfl

/-- The roles of a member come from a payload by id alone. -/
theorem PayloadMember.name_of_toMember {pm : PayloadMember} {m : Member}
    (h : pm.toMember = .ok m) : ∀ held ∈ m.roles, held.name = none := by
  obtain ⟨mask, -, h⟩ := Payload.exists_of_bind_eq_ok h
  obtain rfl := Except.ok.inj h
  intro held hheld
  obtain ⟨id, -, rfl⟩ := List.mem_map.mp hheld
  rfl

theorem Payload.hasUnnamedRoles {p : Payload} {i : Interaction} (h : p.toInteraction = .ok i) :
    i.HasUnnamedRoles := by
  obtain ⟨data, kind, channel, member, -, -, -, hmember, rfl⟩ := toInteraction_eq_ok_iff.mp h
  rintro m rfl
  cases hp : p.member with
  | none =>
    rw [hp] at hmember
    cases hmember
  | some pm =>
    rw [hp] at hmember
    obtain ⟨m', hm', h⟩ := exists_of_bind_eq_ok hmember
    obtain rfl : m' = m := Option.some.inj (Except.ok.inj h)
    exact PayloadMember.name_of_toMember hm'

/-! ### What a payload encodes -/

/-- Holds if the data of a payload are the command of an interaction, with its options in the invoked
scope. -/
structure PayloadData.Encodes (data : PayloadData) (i : Interaction) : Prop where
  name : data.name = i.commandName
  type : data.type = some i.commandKind.code
  options : ∃ supplied, PayloadOption.CarriesAmong supplied i.subcommand data.options ∧
    List.Forall₂ PayloadOption.Encodes supplied i.options

namespace Payload

variable {p : Payload} {i : Interaction}

/-- Holds if a payload is an encoding of an interaction.  A channel without a name may be encoded by
its id. -/
structure Encodes (p : Payload) (i : Interaction) : Prop where
  id : p.id = i.id
  data : ∃ data, p.data = some data ∧ data.Encodes i
  guildId : p.guildId = i.guildId
  channel : p.channel = some i.channel ∨
    p.channel = none ∧ p.channelId = some i.channel.id ∧ i.channel.name = none
  member : Option.Rel PayloadMember.Encodes p.member i.member

theorem Encodes.channelRef (h : p.Encodes i) : p.channelRef = .ok i.channel := by
  rw [Payload.channelRef]
  rcases h.channel with hchannel | ⟨hchannel, hid, hname⟩
  · rw [hchannel]
  · rw [hchannel, hid]
    dsimp only
    rw [← hname]

/-- Decoding undoes the encoding. -/
theorem Encodes.toInteraction (h : p.Encodes i) (hunnamed : i.HasUnnamedRoles) :
    p.toInteraction = .ok i := by
  obtain ⟨data, hdata, hencodes⟩ := h.data
  obtain ⟨supplied, hcarries, hoptions⟩ := hencodes.options
  have hkind : commandKind data = .ok i.commandKind := by
    rw [commandKind, hencodes.type]
    dsimp only
    rw [CommandKind.ofCode?_code]
  have hflatten : PayloadOption.flatten data.options = (i.subcommand, i.options) := by
    rw [PayloadOption.flatten_of_carriesAmong hcarries,
      PayloadOption.map_toSupplied_of_encodes hoptions]
  refine toInteraction_eq_ok_iff.mpr
    ⟨data, _, _, _, hdata, hkind, h.channelRef,
      PayloadMember.mapM_toMember_of_encodes h.member hunnamed, ?_⟩
  rw [hflatten, h.id, hencodes.name, h.guildId]

end Payload

/-! ### What is malformed -/

theorem not_exists_ok_eq_error {ε α : Type} (a : α) :
    ¬ ∃ fault, (.ok a : Except ε α) = .error fault := by
  rintro ⟨fault, h⟩
  cases h

/-- A computation in two steps fails if its first step does, or the second, which must not depend on
what it is given to fail. -/
theorem exists_bind_eq_error_iff {ε α β : Type} {first : Except ε α} {next : α → Except ε β}
    {P : Prop} (hnext : ∀ between, (∃ fault, next between = .error fault) ↔ P) :
    (∃ fault, first >>= next = .error fault) ↔ (∃ fault, first = .error fault) ∨ P := by
  cases first with
  | error fault => exact iff_of_true ⟨fault, rfl⟩ (.inl ⟨fault, rfl⟩)
  | ok between =>
    rw [or_iff_right (not_exists_ok_eq_error between)]
    exact hnext between

/-- With nothing left to fail, a computation fails as its first step does. -/
theorem exists_bind_ok_eq_error_iff {ε α β : Type} {first : Except ε α} {f : α → β} :
    (∃ fault, (first >>= fun a => .ok (f a)) = .error fault) ↔ ∃ fault, first = .error fault := by
  have hnext (a : α) : (∃ fault, (.ok (f a) : Except ε β) = .error fault) ↔ False :=
    iff_of_false (not_exists_ok_eq_error (f a)) not_false
  rw [exists_bind_eq_error_iff hnext, or_false]

/-- Something optional fails if it is there and fails. -/
theorem exists_mapM_eq_error_iff {ε α β : Type} {f : α → Except ε β} {o : Option α} :
    (∃ fault, o.mapM f = .error fault) ↔ ∃ a, o = some a ∧ ∃ fault, f a = .error fault := by
  cases o with
  | none => exact iff_of_false (not_exists_ok_eq_error none) (by simp)
  | some a =>
    rw [Option.mapM_some]
    simp only [Option.some.injEq, exists_eq_left']
    cases f a with
    | error fault => exact iff_of_true ⟨fault, rfl⟩ ⟨fault, rfl⟩
    | ok b => exact iff_of_false (not_exists_ok_eq_error (some b)) (not_exists_ok_eq_error b)

namespace Payload

variable {p : Payload} {data : PayloadData}

/-- Holds if a payload has no data, a kind of commands that does not exist, no channel, or
permissions that are no number of 64 bits. -/
inductive IsMalformed (p : Payload) : Prop
  | noData (hdata : p.data = none)
  | unknownType {data : PayloadData} {code : Nat} (hdata : p.data = some data)
    (htype : data.type = some code) (hcode : code ≠ 1 ∧ code ≠ 2 ∧ code ≠ 3)
  | noChannel (hchannel : p.channel = none) (hid : p.channelId = none)
  | permissions {pm : PayloadMember} {bits : String} (hmember : p.member = some pm)
    (hbits : pm.permissions = some bits) (hspells : ∀ n < UInt64.size, ¬ Text.SpellsUnsigned bits n)

theorem commandKind_eq_error_iff :
    (∃ fault, commandKind data = .error fault) ↔
      ∃ code, data.type = some code ∧ code ≠ 1 ∧ code ≠ 2 ∧ code ≠ 3 := by
  rw [commandKind]
  cases data.type with
  | none => simp
  | some code =>
    simp only [Option.some.injEq, exists_eq_left', ← CommandKind.ofCode?_eq_none_iff]
    cases CommandKind.ofCode? code with
    | none => simp
    | some kind => simp

theorem channelRef_eq_error_iff :
    (∃ fault, p.channelRef = .error fault) ↔ p.channel = none ∧ p.channelId = none := by
  rw [channelRef]
  cases p.channel with
  | some channel => simp
  | none =>
    cases p.channelId with
    | some id => simp
    | none => simp

end Payload

theorem PayloadMember.toMember_eq_error_iff {pm : PayloadMember} :
    (∃ fault, pm.toMember = .error fault) ↔
      ∃ bits, pm.permissions = some bits ∧ ∀ n < UInt64.size, ¬ Text.SpellsUnsigned bits n := by
  have hmask : (∃ fault, pm.toMember = .error fault) ↔
      ∃ fault, pm.permissionMask = .error fault := exists_bind_ok_eq_error_iff
  rw [hmask, permissionMask]
  cases pm.permissions with
  | none => simp
  | some bits =>
    simp only [Option.some.injEq, exists_eq_left', ← Text.exists_readUnsigned_eq_error_iff]
    cases Text.readUnsigned bits with
    | ok n => simp
    | error fault => simp

namespace Payload

variable {p : Payload} {data : PayloadData}

/-- With data, a payload is refused for its kind, its channel or its member. -/
theorem toInteraction_eq_error_iff (hdata : p.data = some data) :
    (∃ fault, p.toInteraction = .error fault) ↔
      (∃ fault, commandKind data = .error fault) ∨ (∃ fault, p.channelRef = .error fault) ∨
        ∃ fault, p.member.mapM PayloadMember.toMember = .error fault := by
  rw [toInteraction, hdata]
  -- neither the channel nor the member depends on what was read before it
  exact exists_bind_eq_error_iff fun kind => exists_bind_eq_error_iff fun channel =>
    exists_bind_ok_eq_error_iff

theorem isMalformed_iff_of_data (hdata : p.data = some data) :
    p.IsMalformed ↔
      (∃ code, data.type = some code ∧ code ≠ 1 ∧ code ≠ 2 ∧ code ≠ 3) ∨
        (p.channel = none ∧ p.channelId = none) ∨
        ∃ pm, p.member = some pm ∧
          ∃ bits, pm.permissions = some bits ∧ ∀ n < UInt64.size, ¬ Text.SpellsUnsigned bits n := by
  constructor
  · intro h
    cases h with
    | noData hnone =>
      rw [hdata] at hnone
      cases hnone
    | unknownType hdata' htype hcode =>
      obtain rfl := Option.some.inj (hdata.symm.trans hdata')
      exact .inl ⟨_, htype, hcode⟩
    | noChannel hchannel hid => exact .inr (.inl ⟨hchannel, hid⟩)
    | permissions hmember hbits hspells => exact .inr (.inr ⟨_, hmember, _, hbits, hspells⟩)
  · rintro (⟨code, htype, hcode⟩ | ⟨hchannel, hid⟩ | ⟨pm, hmember, bits, hbits, hspells⟩)
    · exact .unknownType hdata htype hcode
    · exact .noChannel hchannel hid
    · exact .permissions hmember hbits hspells

/-- What is refused is malformed, and nothing else. -/
theorem refused_iff_isMalformed :
    (∃ fault, p.toInteraction = .error fault) ↔ p.IsMalformed := by
  cases hdata : p.data with
  | none =>
    have hrefused : p.toInteraction = .error (.noData p.id) := by rw [toInteraction, hdata]
    exact iff_of_true ⟨_, hrefused⟩ (.noData hdata)
  | some data =>
    rw [toInteraction_eq_error_iff hdata, isMalformed_iff_of_data hdata, commandKind_eq_error_iff,
      channelRef_eq_error_iff, exists_mapM_eq_error_iff]
    simp only [PayloadMember.toMember_eq_error_iff]

/-- **Decoding undoes the encoding of an interaction and refuses what is malformed.**  A payload that
encodes an interaction with unnamed roles is brought into that interaction, with every value, their
order and the focus; and a payload is refused just in case it is malformed. -/
theorem decodes_or_malformed (p : Payload) :
    (∀ i : Interaction, i.HasUnnamedRoles → p.Encodes i → p.toInteraction = .ok i) ∧
      ((∃ fault, p.toInteraction = .error fault) ↔ p.IsMalformed) := by
  constructor
  · intro i hunnamed hencodes
    exact hencodes.toInteraction hunnamed
  · exact refused_iff_isMalformed

end Payload

/-! ### A choice of fruit -/

namespace PayloadOption

/-- An option that is being typed. -/
def typed : PayloadOption := ⟨"kind", 3, some (.string "ap"), [], true⟩

/-- The subcommand that it belongs to. -/
def pick : PayloadOption := ⟨"pick", 1, none, [typed], false⟩

/-- The group of the subcommand. -/
def basket : PayloadOption := ⟨"basket", 2, none, [pick], false⟩

/-- An option beside the group. -/
def sort : PayloadOption := ⟨"sort", 3, some (.string "sweet"), [], false⟩

theorem carriesAmong_fruit : CarriesAmong [typed] (some "pick") [sort, basket] := by
  have hgroup : Carries [typed] (some "pick") [basket] :=
    @Carries.group _ basket pick [] [] rfl rfl (by simp) rfl rfl
  have hbeside : ∀ o ∈ [sort], o.type ≠ subcommandType ∧ o.type ≠ groupType := by
    simp [sort, subcommandType, groupType]
  exact .beside hgroup hbeside

end PayloadOption

/-- Suggestions are asked for while the option is typed. -/
def Payload.fruit : Payload :=
  { id := "2"
    token := "t"
    type := 4
    data := some ⟨"fruit", some 1, [.sort, .basket]⟩
    guildId := some "g"
    channelId := some "9"
    channel := none
    member := some ⟨some "5", ["7"], some "8"⟩ }

/-- The interaction that it encodes. -/
def Interaction.fruit : Interaction :=
  { id := "2"
    commandName := "fruit"
    commandKind := .chatInput
    subcommand := some "pick"
    options := [⟨"kind", some (.string "ap"), true⟩]
    channel := ⟨"9", none⟩
    guildId := some "g"
    member := some ⟨"5", ⟨8⟩, [⟨"7", none⟩]⟩ }

theorem Payload.encodes_fruit : fruit.Encodes .fruit where
  id := rfl
  data := ⟨_, rfl, rfl, rfl, _, PayloadOption.carriesAmong_fruit, .cons ⟨rfl, rfl, rfl⟩ .nil⟩
  guildId := rfl
  channel := .inr ⟨rfl, rfl, rfl⟩
  member := .some ⟨rfl, rfl, rfl⟩

/-- With permissions that are no number, the payload is refused. -/
theorem Payload.decodes_fruit :
    Interaction.fruit.HasUnnamedRoles ∧ fruit.Encodes .fruit ∧ fruit.toInteraction = .ok .fruit ∧
      ∃ fault, { fruit with member := some ⟨none, [], some "lots"⟩ }.toInteraction =
        .error fault := by
  have hunnamed : Interaction.fruit.HasUnnamedRoles := by
    intro m hm
    obtain rfl := Option.some.inj hm
    simp
  have hlots : ∀ n < UInt64.size, ¬ Text.SpellsUnsigned "lots" n := by
    rintro n - (h | ⟨digits, h, -⟩)
    · exact absurd (h.digit 'l' (by simp)) (by decide)
    · simp at h
  obtain ⟨hdecodes, -⟩ := fruit.decodes_or_malformed
  obtain ⟨-, hrefused⟩ :=
    { fruit with member := some ⟨none, [], some "lots"⟩ }.decodes_or_malformed
  exact ⟨hunnamed, encodes_fruit, hdecodes _ hunnamed encodes_fruit,
    hrefused.mpr (.permissions rfl rfl hlots)⟩

end SlashCommands
