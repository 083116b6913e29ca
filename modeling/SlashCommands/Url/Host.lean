import SlashCommands.Url.Domain
import SlashCommands.Url.Percent

/-!
# Hosts

The host of a URL is a name or an address.  Schemes that are about hosts of the network have domain
names, which are not case-sensitive and have an ASCII form, and a name that ends in a number is an
address of four bytes.  In other schemes a name is any text.  In square brackets there is always an
address of eight groups.
-/

namespace SlashCommands.Url

/-- What is wrong with the text of a URL. -/
inductive Fault
  | relative
  | emptyHost
  | domain
  | hostCharacter
  | port
  | ipv4
  | ipv6
  deriving DecidableEq, Repr

/-- The wording of a fault. -/
def Fault.message : Fault → String
  | .relative => "relative URL without a base"
  | .emptyHost => "empty host"
  | .domain => "invalid international domain name"
  | .hostCharacter => "invalid domain character"
  | .port => "invalid port number"
  | .ipv4 => "invalid IPv4 address"
  | .ipv6 => "invalid IPv6 address"

/-- A host. -/
inductive Host
  | named (text : String)
  | ipv4 (address : Nat)
  | ipv6 (groups : List Nat)
  deriving DecidableEq, Repr

namespace Host

/-- The host of a URL that names none. -/
def empty : Host := .named ""

/-! ### Addresses of four bytes -/

/-- The value of digits in a base; no digits are zero. -/
def valueIn? (base : Nat) (digits : List Char) : Option Nat :=
  digits.foldlM (fun value c => do
    let d ← hexDigit? c
    if d < base then some (base * value + d) else none) 0

/-- The value of a number, which is hexadecimal after `0x` and octal after another zero. -/
def number? : List Char → Option Nat
  | [] => none
  | '0' :: 'x' :: digits => valueIn? 16 digits
  | '0' :: 'X' :: digits => valueIn? 16 digits
  | '0' :: d :: digits => valueIn? 8 (d :: digits)
  | digits => valueIn? 10 digits

/-- The pieces between the dots of a name, without the empty one after a dot at the end. -/
def pieces (name : List Char) : List (List Char) :=
  match (Text.splitAt (· == '.') name).reverse with
  | [] :: before :: rest => (before :: rest).reverse
  | other => other.reverse

/-- Holds of names that end in a number. -/
def endsInNumber (name : List Char) : Bool :=
  match (pieces name).getLast? with
  | none => false
  | some last => (number? last).isSome || (!last.isEmpty && last.all Char.isDigit)

/-- The address that numbers stand for, the last of them for all the bytes that are left. -/
def ipv4OfNumbers? (numbers : List Nat) : Option Nat :=
  match numbers.reverse with
  | [] => none
  | last :: front =>
    let left := 8 * (4 - front.length)
    if front.length ≤ 3 && front.all (· ≤ 255) && last < 1 <<< left then
      some (front.foldr (fun n address => 256 * address + n) 0 <<< left + last)
    else none

/-- Reads an address of four bytes. -/
def ipv4? (name : List Char) : Option Nat :=
  ((pieces name).mapM number?).bind ipv4OfNumbers?

/-- The text of an address of four bytes. -/
def ipv4Text (address : Nat) : String :=
  String.intercalate "." ([24, 16, 8, 0].map fun shift => toString ((address >>> shift) % 256))

/-! ### Addresses of eight groups -/

/-- Reads a group: at most four hexadecimal digits. -/
def group? (s : List Char) : Option Nat :=
  if s.isEmpty || 4 < s.length then none else valueIn? 16 s

/-- Reads a byte in decimal digits without zeros in front. -/
def byte? (s : List Char) : Option Nat := do
  let n ← if s.isEmpty || (1 < s.length && s.head? == some '0') then none else valueIn? 10 s
  if n ≤ 255 then some n else none

/-- The last two groups, written as four bytes. -/
def bytesAsGroups? (s : List Char) : Option (List Nat) := do
  match ← (Text.splitAt (· == '.') s).mapM byte? with
  | [a, b, c, d] => some [256 * a + b, 256 * c + d]
  | _ => none

/-- Reads groups, the last two of which may be written as four bytes if `last` holds. -/
def groupsOfPieces? (last : Bool) : List (List Char) → Option (List Nat)
  | [] => some []
  | [piece] =>
    if last && piece.contains '.' then bytesAsGroups? piece else (group? piece).map ([·])
  | piece :: rest => do return (← group? piece) :: (← groupsOfPieces? last rest)

/-- Reads groups with colons between them. -/
def groups? (last : Bool) (s : List Char) : Option (List Nat) :=
  if s.isEmpty then some [] else groupsOfPieces? last (Text.splitAt (· == ':') s)

/-- Reads an address of eight groups; two colons stand for groups of zeros. -/
def ipv6? (s : List Char) : Option (List Nat) := do
  match Text.splitOnce "::".toList s with
  | none =>
    let groups ← groups? true s
    if groups.length = 8 then some groups else none
  | some (front, back) =>
    let front ← groups? false front
    let back ← groups? true back
    if front.length + back.length ≤ 7 then
      some (front ++ List.replicate (8 - front.length - back.length) 0 ++ back)
    else none

/-- Where the longest run of zeros starts, and its length; of equally long runs, the first. -/
def longestZeros (groups : List Nat) : Nat × Nat :=
  (List.range groups.length).foldl (fun best start =>
    let length := ((groups.drop start).takeWhile (· = 0)).length
    if best.2 < length then (start, length) else best) (0, 0)

/-- The text of groups. -/
def groupsText (groups : List Nat) : String :=
  String.intercalate ":" (groups.map fun n => String.ofList (Nat.toDigits 16 n))

/-- The text of an address of eight groups, in which one run of zeros is left out. -/
def ipv6Text (groups : List Nat) : String :=
  let (start, length) := longestZeros groups
  if length < 2 then groupsText groups
  else groupsText (groups.take start) ++ "::" ++ groupsText (groups.drop (start + length))

/-! ### Names -/

/-- Reads an address between square brackets. -/
def ofBrackets (s : List Char) : Except Fault Host :=
  match s.getLast?, ipv6? s.dropLast with
  | some ']', some groups => .ok (.ipv6 groups)
  | _, _ => .error .ipv6

/-- Reads a domain name, which may be an address. -/
def ofDomain (s : List Char) : Except Fault Host :=
  match (String.fromUTF8? ⟨(percentDecode s).toArray⟩).bind (Domain.asciiName? ·.toList) with
  | none => .error .domain
  | some [] => .error .emptyHost
  | some name =>
    if endsInNumber name then
      match ipv4? name with
      | some address => .ok (.ipv4 address)
      | none => .error .ipv4
    else .ok (.named (String.ofList name))

/-- Reads any name. -/
def ofName (s : List Char) : Except Fault Host :=
  if s.any "\x00\t\n\r #/:<>?@[\\]^|".toList.contains then .error .hostCharacter
  else .ok (.named (String.ofList (percentEncode isEscaped s)))

/-- Reads a host; `isDomain` tells whether names are domain names. -/
def ofChars (isDomain : Bool) (s : List Char) : Except Fault Host :=
  match s with
  | '[' :: rest => ofBrackets rest
  | s => if isDomain then ofDomain s else ofName s

/-- The text of a host. -/
def text : Host → String
  | .named text => text
  | .ipv4 address => ipv4Text address
  | .ipv6 groups => "[" ++ ipv6Text groups ++ "]"

/-- The text of the host that a text stands for, if it does. -/
def normalForm? (isDomain : Bool) (s : String) : Option String :=
  (ofChars isDomain s.toList).toOption.map text

example : normalForm? true "EXAMPLE.com" = some "example.com" := by decide +kernel
example : normalForm? true "0x7f.1" = some "127.0.0.1" := by decide +kernel
example : normalForm? true "[1:0:0:2::]" = some "[1:0:0:2::]" := by decide +kernel
example : normalForm? true "[::1.2.3.4]" = some "[::102:304]" := by decide +kernel
example : normalForm? true "1.2.3.256" = none := by decide +kernel
example : normalForm? true "a b" = none := by decide +kernel
example : normalForm? false "EXAMPLE.com" = some "EXAMPLE.com" := by decide +kernel

end Host

end SlashCommands.Url
