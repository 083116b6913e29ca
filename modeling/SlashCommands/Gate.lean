import SlashCommands.Definition

/-!
# Gates

A command can be restricted to channels and can require permissions and roles.  The gates stand in
that order, and the first that stays closed decides why an invocation is denied.
-/

namespace SlashCommands

/-- Why an invocation is denied. -/
inductive Denial
  | channel
  | permission (permission : Permission)
  | role (role : String)
  deriving DecidableEq, Repr

namespace Signature

/-- Holds if the command is not restricted to channels or the interaction is in one of them. -/
def allowsChannel (s : Signature) (i : Interaction) : Bool :=
  s.channels.isEmpty || s.channels.keys.any i.channel.isNamed

/-- The permission that a requirement asks for and the member lacks. -/
def missingPermission? (member : Option Member) : Requirement → Option Permission
  | .permission p => if member.any (·.permissions.contains p) then none else some p
  | .role _ => none

/-- The role that a requirement asks for and the member lacks. -/
def missingRole? (member : Option Member) : Requirement → Option String
  | .role r => if member.any (·.hasRole r) then none else some r
  | .permission _ => none

/-- Why an interaction with the command is denied, if it is. -/
def denial? (s : Signature) (i : Interaction) : Option Denial :=
  if !s.allowsChannel i then some .channel
  else
    match s.requires.findSome? (missingPermission? i.member) with
    | some p => some (.permission p)
    | none => (s.requires.findSome? (missingRole? i.member)).map .role

end Signature

end SlashCommands
