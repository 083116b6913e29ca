import SlashCommands.Text.Case

/-!
# Permissions

The platform grants permissions by the bits of a 64-bit mask.  A permission is named without regard
to case and underscores; an administrator holds all of them.
-/

namespace SlashCommands

/-- A permission: its name and the place of its bit in a mask. -/
structure Permission where
  name : String
  bit : Fin 64
  deriving DecidableEq, Repr

namespace Permission

/-- The known permissions. -/
def all : List Permission := [
  ⟨"CREATE_INSTANT_INVITE", 0⟩, ⟨"KICK_MEMBERS", 1⟩, ⟨"BAN_MEMBERS", 2⟩, ⟨"ADMINISTRATOR", 3⟩,
  ⟨"MANAGE_CHANNELS", 4⟩, ⟨"MANAGE_GUILD", 5⟩, ⟨"ADD_REACTIONS", 6⟩, ⟨"VIEW_AUDIT_LOG", 7⟩,
  ⟨"PRIORITY_SPEAKER", 8⟩, ⟨"STREAM", 9⟩, ⟨"VIEW_CHANNEL", 10⟩, ⟨"SEND_MESSAGES", 11⟩,
  ⟨"SEND_TTS_MESSAGES", 12⟩, ⟨"MANAGE_MESSAGES", 13⟩, ⟨"EMBED_LINKS", 14⟩,
  ⟨"ATTACH_FILES", 15⟩, ⟨"READ_MESSAGE_HISTORY", 16⟩, ⟨"MENTION_EVERYONE", 17⟩,
  ⟨"USE_EXTERNAL_EMOJIS", 18⟩, ⟨"VIEW_GUILD_INSIGHTS", 19⟩, ⟨"CONNECT", 20⟩, ⟨"SPEAK", 21⟩,
  ⟨"MUTE_MEMBERS", 22⟩, ⟨"DEAFEN_MEMBERS", 23⟩, ⟨"MOVE_MEMBERS", 24⟩, ⟨"USE_VAD", 25⟩,
  ⟨"CHANGE_NICKNAME", 26⟩, ⟨"MANAGE_NICKNAMES", 27⟩, ⟨"MANAGE_ROLES", 28⟩,
  ⟨"MANAGE_WEBHOOKS", 29⟩, ⟨"MANAGE_GUILD_EXPRESSIONS", 30⟩,
  ⟨"MANAGE_EMOJIS_AND_STICKERS", 30⟩, ⟨"USE_APPLICATION_COMMANDS", 31⟩,
  ⟨"REQUEST_TO_SPEAK", 32⟩, ⟨"MANAGE_EVENTS", 33⟩, ⟨"MANAGE_THREADS", 34⟩,
  ⟨"CREATE_PUBLIC_THREADS", 35⟩, ⟨"CREATE_PRIVATE_THREADS", 36⟩,
  ⟨"USE_EXTERNAL_STICKERS", 37⟩, ⟨"SEND_MESSAGES_IN_THREADS", 38⟩,
  ⟨"USE_EMBEDDED_ACTIVITIES", 39⟩, ⟨"MODERATE_MEMBERS", 40⟩]

/-- The permission that includes all others. -/
def administrator : Permission := ⟨"ADMINISTRATOR", 3⟩

/-- The form in which names are compared: in upper case and without underscores. -/
def fold (name : List Char) : List Char :=
  Text.upper (name.filter (· != '_'))

/-- The permission with a name. -/
def named? (name : String) : Option Permission :=
  all.find? fun permission => fold permission.name.toList == fold name.toList

/-- The mask that has the bit of a permission alone. -/
def mask (permission : Permission) : UInt64 :=
  UInt64.ofNat (1 <<< permission.bit.val)

end Permission

/-- A mask of permissions. -/
structure Permissions where
  bits : UInt64
  deriving DecidableEq, Repr

namespace Permissions

/-- The mask without permissions. -/
def empty : Permissions := ⟨0⟩

/-- The mask with all of some bits. -/
def holds (p : Permissions) (mask : UInt64) : Bool :=
  p.bits &&& mask == mask

/-- The union of the masks of permissions. -/
def maskOf (permissions : List Permission) : UInt64 :=
  permissions.foldl (fun bits permission => bits ||| permission.mask) 0

/-- The permissions with these names; other names are skipped. -/
def ofNames (names : List String) : Permissions :=
  ⟨maskOf (names.filterMap Permission.named?)⟩

/-- Holds if a permission is granted, by its own bit or to an administrator. -/
def contains (p : Permissions) (permission : Permission) : Bool :=
  p.holds Permission.administrator.mask || p.holds permission.mask

/-! ### Masks bit by bit -/

/-- A mask is held if all of its bits are. -/
theorem holds_iff {p : Permissions} {mask : UInt64} :
    p.holds mask ↔ ∀ i, mask.toNat.testBit i → p.bits.toNat.testBit i := by
  rw [holds, beq_iff_eq, ← UInt64.toNat_inj, UInt64.toNat_and]
  constructor
  · intro h i hi
    rw [← h, Nat.testBit_and, Bool.and_eq_true] at hi
    exact hi.1
  · intro h
    refine Nat.eq_of_testBit_eq fun i => ?_
    rw [Nat.testBit_and]
    cases hi : mask.toNat.testBit i with
    | false => exact Bool.and_false _
    | true => rw [h i hi, Bool.and_true]

theorem testBit_mask (permission : Permission) (i : Nat) :
    permission.mask.toNat.testBit i ↔ i = permission.bit.val := by
  have hlt : 2 ^ permission.bit.val < 2 ^ 64 :=
    Nat.pow_lt_pow_right (by decide) permission.bit.isLt
  rw [Permission.mask, Nat.one_shiftLeft, UInt64.toNat_ofNat', Nat.mod_eq_of_lt hlt,
    Nat.testBit_two_pow, decide_eq_true_iff]
  exact eq_comm

/-- A union adds the bits of its permissions to those that are there. -/
theorem testBit_foldl_or (bits : UInt64) (permissions : List Permission) (i : Nat) :
    (permissions.foldl (fun bits permission => bits ||| permission.mask) bits).toNat.testBit i ↔
      bits.toNat.testBit i ∨ ∃ permission ∈ permissions, i = permission.bit.val := by
  induction permissions generalizing bits with
  | nil => simp
  | cons permission rest ih =>
    rw [List.foldl_cons, ih, UInt64.toNat_or, Nat.testBit_or, Bool.or_eq_true, testBit_mask,
      or_assoc]
    simp only [List.mem_cons, or_and_right, exists_or, exists_eq_left]

/-- The bits of a union are those of its permissions. -/
theorem testBit_maskOf (permissions : List Permission) (i : Nat) :
    (maskOf permissions).toNat.testBit i ↔ ∃ permission ∈ permissions, i = permission.bit.val := by
  rw [maskOf, testBit_foldl_or]
  simp

/-- A union is held if every permission is. -/
theorem holds_maskOf_iff {p : Permissions} {permissions : List Permission} :
    p.holds (maskOf permissions) ↔ ∀ permission ∈ permissions, p.holds permission.mask := by
  simp only [holds_iff, testBit_maskOf, testBit_mask]
  constructor
  · rintro h permission hmem i rfl
    exact h _ ⟨permission, hmem, rfl⟩
  · rintro h i ⟨permission, hmem, rfl⟩
    exact h permission hmem _ rfl

/-- Every permission shows in a union. -/
theorem maskOf_eq_zero_iff {permissions : List Permission} :
    maskOf permissions = 0 ↔ permissions = [] := by
  constructor
  · intro h
    cases permissions with
    | nil => rfl
    | cons permission rest =>
      have hbit : (maskOf (permission :: rest)).toNat.testBit permission.bit.val :=
        (testBit_maskOf _ _).mpr ⟨permission, List.mem_cons_self, rfl⟩
      rw [h, UInt64.toNat_zero, Nat.zero_testBit] at hbit
      cases hbit
  · rintro rfl
    rfl

end Permissions

end SlashCommands
