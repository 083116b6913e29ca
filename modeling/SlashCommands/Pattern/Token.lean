import SlashCommands.Fault
import SlashCommands.OptionKind
import SlashCommands.Text.Blank
import SlashCommands.Text.Case

/-!
# Tokens of a usage pattern

A pattern such as `sub <name: int> [note] (-f force)` declares arguments.  Groups in angle brackets
are required arguments, groups in square brackets optional ones, groups that start with `(-` flags;
a bare word selects a subcommand and must come first, unless it is all there is.

`split` cuts a pattern into raw tokens, `Token.ofRaw` interprets one of them at its position, and
`tokens` does both.
-/

namespace SlashCommands

/-- What a token declares. -/
inductive TokenKind
  | arg
  | flag
  | command
  deriving DecidableEq, Repr

/-- The name of a kind of token. -/
def TokenKind.name : TokenKind → String
  | .arg => "arg"
  | .flag => "flag"
  | .command => "command"

/-- The kind of token with a name. -/
def TokenKind.named? : String → Option TokenKind
  | "arg" => some .arg
  | "flag" => some .flag
  | "command" => some .command
  | _ => none

/-- One argument, flag or subcommand of a pattern.  Only flags have a flag text. -/
structure Token where
  kind : TokenKind
  optional : Bool
  name : String
  datatype : String
  flag : Option String
  position : Nat
  deriving DecidableEq, Repr

namespace Pattern

open Text (isBlank trimChars splitOnce)

/-- The bracket that closes a group. -/
def closing? : Char → Option Char
  | '<' => some '>'
  | '[' => some ']'
  | '(' => some ')'
  | _ => none

/-- Holds of the characters that words are made of. -/
def isWordChar (c : Char) : Bool :=
  !isBlank c && (closing? c).isNone

/-- The rest of a group with its closing bracket, and what follows; the group may have no end. -/
def takeGroup? (close : Char) : List Char → Option (List Char × List Char)
  | [] => none
  | c :: rest =>
    if c = close then some ([c], rest)
    else (takeGroup? close rest).map fun parts => (c :: parts.1, parts.2)

theorem append_of_takeGroup? {close : Char} {s group rest : List Char}
    (h : takeGroup? close s = some (group, rest)) : s = group ++ rest := by
  induction s generalizing group rest with
  | nil => simp [takeGroup?] at h
  | cons c s ih =>
    rw [takeGroup?] at h
    split at h
    · cases h; rfl
    · obtain ⟨parts, hparts, heq⟩ := Option.map_eq_some_iff.mp h
      cases heq
      exact congrArg (c :: ·) (ih hparts)

theorem length_of_takeGroup? {close : Char} {s group rest : List Char}
    (h : takeGroup? close s = some (group, rest)) : rest.length ≤ s.length := by
  rw [append_of_takeGroup? h]
  simp

theorem length_dropWhile_le (p : Char → Bool) (s : List Char) :
    (s.dropWhile p).length ≤ s.length :=
  (List.dropWhile_suffix p).length_le

/-- Cuts a pattern into groups and words, unless a group has no end.  A group runs to the first
bracket that closes its own kind, whatever stands between; blanks outside groups are skipped. -/
def split? : List Char → Option (List (List Char))
  | [] => some []
  | c :: rest =>
    if isBlank c then split? rest
    else
      match closing? c with
      | some close =>
        match h : takeGroup? close rest with
        | some (group, after) =>
          have := length_of_takeGroup? h
          (split? after).map ((c :: group) :: ·)
        | none => none
      | none =>
        have := length_dropWhile_le isWordChar rest
        (split? (rest.dropWhile isWordChar)).map ((c :: rest.takeWhile isWordChar) :: ·)
termination_by s => s.length

/-- Holds of the characters that open or close groups. -/
def isBracket (c : Char) : Bool :=
  c == '<' || c == '>' || c == '[' || c == ']' || c == '(' || c == ')'

/-- A raw token without its brackets, with a blank for each plus sign. -/
def bare (raw : List Char) : List Char :=
  (raw.filter (!isBracket ·)).map fun c => if c == '+' then ' ' else c

/-- The name and the datatype of a raw token: a colon and a blank come between them. -/
def nameAndType (raw : List Char) : List Char × String :=
  match splitOnce [':', ' '] (bare raw) with
  | some (name, datatype) =>
    let datatype := trimChars datatype
    (trimChars name,
      if datatype.isEmpty then defaultDatatype else String.ofList (Text.lower datatype))
  | none => (trimChars (bare raw), defaultDatatype)

/-- The name and the text of a flag: the first blank comes between them. -/
def flagParts (name : List Char) : String × String :=
  let name := name.dropWhile (· == '-')
  match splitOnce [' '] name with
  | some (flag, text) => (String.ofList flag, String.ofList (trimChars text))
  | none => (String.ofList name, "")

end Pattern

/-- Interprets the raw token at a position of a pattern with `total` raw tokens. -/
def Token.ofRaw (raw : List Char) (position total : Nat) : Except Fault Token :=
  let (name, datatype) := Pattern.nameAndType raw
  let argument (optional : Bool) : Token :=
    ⟨.arg, optional, String.ofList name, datatype, none, position⟩
  let word : Except Fault Token :=
    if 0 < position then .error (.misplacedSubcommand (String.ofList raw) position)
    else .ok ⟨.command, false, String.ofList name, datatype, none, position⟩
  match raw with
  | '<' :: _ => .ok (argument false)
  | '[' :: _ => .ok (argument true)
  | '(' :: '-' :: _ =>
    let (flag, text) := Pattern.flagParts name
    .ok ⟨.flag, true, flag, datatype, some text, position⟩
  | '(' :: _ => word
  | _ => if total = 1 then .ok (argument false) else word

namespace Pattern

/-- Interprets raw tokens from a position on. -/
def interpret (total : Nat) : Nat → List (List Char) → Except Fault (List Token)
  | _, [] => .ok []
  | position, raw :: rest => do
    let token ← Token.ofRaw raw position total
    let tokens ← interpret total (position + 1) rest
    return token :: tokens

/-- The tokens of a pattern. -/
def tokens (pattern : String) : Except Fault (List Token) :=
  match split? pattern.toList with
  | none => .error (.unterminatedGroup pattern)
  | some [] => .error .emptyPattern
  | some raws => interpret raws.length 0 raws

end Pattern

end SlashCommands
