import SlashCommands.Url.Host

/-!
# URLs

A URL has a scheme, usually an authority, a path, and possibly a query and a fragment.  Reading
brings it into one form: names are in lower case, the path has no names that only lead around, and
everything is encoded that its place cannot hold.  The schemes of the network, and that of files,
are special: they always have an authority, and a backslash is as good as a slash in them.
-/

namespace SlashCommands

/-- A host and a port, if it is not the usual one of the scheme. -/
structure Url.Authority where
  host : Url.Host
  port : Option Nat
  deriving DecidableEq, Repr

/-- A URL in its encoded form. -/
structure Url where
  scheme : String
  authority : Option Url.Authority
  path : String
  query : Option String
  fragment : Option String
  deriving DecidableEq, Repr

namespace Url

/-- The usual port of a scheme of the network. -/
def usualPort? : String → Option Nat
  | "http" => some 80
  | "https" => some 443
  | "ws" => some 80
  | "wss" => some 443
  | "ftp" => some 21
  | _ => none

/-- The scheme of files. -/
def fileScheme : String := "file"

/-- Holds of the special schemes. -/
def isSpecial (scheme : String) : Bool :=
  scheme == fileScheme || (usualPort? scheme).isSome

/-- Holds of the characters of a scheme. -/
def isSchemeChar (c : Char) : Bool :=
  c.isAlphanum || ['+', '-', '.'].contains c

/-- The scheme at the front, and what follows its colon. -/
def takeScheme? (s : List Char) : Option (String × List Char) :=
  match s.takeWhile isSchemeChar, s.dropWhile isSchemeChar with
  | first :: name, ':' :: rest =>
    if first.isAlpha then some (String.ofList ((first :: name).map Char.toLower), rest) else none
  | _, _ => none

/-- Holds of what separates the names of a path. -/
def isSlash (special : Bool) (c : Char) : Bool :=
  c == '/' || (special && c == '\\')

/-- What stands before and after a mark. -/
def cut (mark : Char) (s : List Char) : List Char × Option (List Char) :=
  match Text.splitOnce [mark] s with
  | some (before, after) => (before, some after)
  | none => (s, none)

/-! ### Authorities -/

/-- What stands before and after the last mark. -/
def cutLast (mark : Char) (s : List Char) : Option (List Char) × List Char :=
  match cut mark s.reverse with
  | (after, some before) => (some before.reverse, after.reverse)
  | (after, none) => (none, after.reverse)

/-- What stands before the colon in front of a port, and what follows from the colon on; a colon in
square brackets is none. -/
def cutPort (bracketed : Bool) : List Char → List Char × List Char
  | [] => ([], [])
  | c :: rest =>
    if c == ':' && !bracketed then ([], c :: rest)
    else
      let (host, port) := cutPort (c == '[' || (bracketed && c != ']')) rest
      (c :: host, port)

/-- The greatest port. -/
def greatestPort : Nat := 65535

/-- A port with its colon, and what follows from a backslash on; that belongs to the path. -/
def endPort (s : List Char) : List Char × List Char :=
  s.span (· != '\\')

/-- Reads a port with its colon; the usual port of the scheme and no digits at all stand for no
port. -/
def portOfChars (scheme : String) (s : List Char) : Except Fault (Option Nat) :=
  match s.drop 1 with
  | [] => .ok none
  | digits =>
    match Host.valueIn? 10 digits with
    | some n =>
      if greatestPort < n then .error .port
      else .ok (if usualPort? scheme == some n then none else some n)
    | none => .error .port

/-- Reads an authority, and returns what follows its port.  Credentials in front of the host are
not kept, but ask for a host. -/
def Authority.ofChars (scheme : String) (s : List Char) :
    Except Fault (Authority × List Char) := do
  let (credentials, rest) := cutLast '@' s
  let (name, port) := cutPort false rest
  let (port, rest) := endPort port
  if name.isEmpty && (isSpecial scheme || credentials.isSome || !port.isEmpty) then
    .error .emptyHost
  else
    let host ← Host.ofChars (isSpecial scheme) name
    return (⟨host, ← portOfChars scheme port⟩, rest)

/-- The name of the host that files are on unless another is given. -/
def thisHost : Host := .named "localhost"

/-- Reads the authority of a file, which is a host or nothing. -/
def Authority.ofFileChars (s : List Char) : Except Fault Authority :=
  if s.isEmpty then .ok ⟨.empty, none⟩
  else (Host.ofChars true s).map fun host => ⟨if host = thisHost then .empty else host, none⟩

/-- The text of an authority. -/
def Authority.text (a : Authority) : String :=
  a.host.text ++ a.port.elim "" fun n => ":" ++ toString n

/-! ### Paths -/

/-- Holds of the names that stand for the directory they are in. -/
def isHere (name : List Char) : Bool :=
  [".", "%2e"].contains (String.ofList (name.map Char.toLower))

/-- Holds of the names that stand for the directory above. -/
def isAbove (name : List Char) : Bool :=
  ["..", ".%2e", "%2e.", "%2e%2e"].contains (String.ofList (name.map Char.toLower))

/-- Holds of the names of drives: a letter, and a colon or a bar. -/
def isDrive : List Char → Bool
  | [letter, mark] => letter.isAlpha && (mark == ':' || mark == '|')
  | _ => false

/-- Holds of the names that no name leads out of: those of drives, also with a backslash behind. -/
def isFixed (name : List Char) : Bool :=
  isDrive (name.take 2) && (name.drop 2).head?.all (· == '\\')

/-- The names of the directory above, the last of them first. -/
def leave : List (List Char) → List (List Char)
  | [] => []
  | name :: rest => if isFixed name then name :: rest else rest

/-- Names of a path without those that only lead around, after some names, the last of them
first. -/
def resolve (before : List (List Char)) : List (List Char) → List (List Char)
  | [] => before.reverse
  | name :: rest =>
    let before := if isAbove name then leave before else before
    if isHere name || isAbove name then
      if rest.isEmpty then ([] :: before).reverse else resolve before rest
    else resolve (percentEncode isEscapedInPath name :: before) rest

/-- The names of a path that starts with a slash, or is empty. -/
def namesOf (special : Bool) (s : List Char) : List (List Char) :=
  resolve [] (Text.splitAt (isSlash special) (s.drop 1))

/-- The path with some names. -/
def pathOf (names : List (List Char)) : String :=
  String.ofList (names.flatMap fun name => '/' :: name)

/-- Drops the empty names in front of the last one. -/
def dropEmptyNames : List (List Char) → List (List Char)
  | [] :: name :: rest => dropEmptyNames (name :: rest)
  | names => names

/-! ### Reading URLs -/

/-- The name of the host, which stands behind two slashes, and the path that follow the colon of a
file's URL.  A drive is not a host, but the first name of the path. -/
def takeFileHost (s : List Char) : List Char × List Char :=
  let (front, rest) := s.span (isSlash true)
  let (name, path) := (s.drop 2).span fun c => !isSlash true c
  if front.length < 2 then ([], '/' :: rest)
  else if isDrive name then ([], '/' :: s.drop 2)
  else (name, path)

/-- The authority of a file and the names of its path.  A drive in front is written with a colon,
and is on no other host. -/
def onDrive (authority : Authority) : List (List Char) → Authority × List (List Char)
  | [] => (authority, [])
  | name :: rest =>
    if isDrive name then (⟨.empty, none⟩, (name.take 1 ++ [':']) :: rest)
    else (authority, name :: rest)

/-- The authority and the path that follow the colon of a file's URL. -/
def fileRest (s : List Char) : Except Fault (Authority × String) := do
  let (name, path) := takeFileHost s
  let authority ← Authority.ofFileChars name
  let (authority, names) := onDrive authority (namesOf true path)
  return (authority, pathOf (dropEmptyNames names))

/-- The authority and the path that follow the colon of a scheme. -/
def restOf (scheme : String) (s : List Char) : Except Fault (Option Authority × String) := do
  if scheme == fileScheme then
    let (authority, path) ← fileRest s
    return (some authority, path)
  else
    let special := isSpecial scheme
    let afterSlashes? : Option (List Char) :=
      if special then some (s.dropWhile (isSlash true))
      else match s with
        | '/' :: '/' :: rest => some rest
        | _ => none
    match afterSlashes?, s with
    | some rest, _ =>
      let (name, path) := rest.span fun c => !isSlash special c
      let (authority, left) ← Authority.ofChars scheme name
      let path := if left.isEmpty then path else '/' :: left ++ path
      return (some authority,
        if path.isEmpty && !special then "" else pathOf (namesOf special path))
    | none, '/' :: _ =>
      let path := pathOf (namesOf false s)
      return (none, if "//".toList.isPrefixOf path.toList then "/." ++ path else path)
    | none, _ => return (none, String.ofList (percentEncode isEscaped s))

/-- Holds of the characters that are skipped anywhere in a URL. -/
def isSkipped (c : Char) : Bool :=
  ['\t', '\n', '\r'].contains c

/-- A text without the blanks and control characters at its ends, and without line breaks and tabs
anywhere. -/
def clean (s : List Char) : List Char :=
  let trimmed := ((s.dropWhile (·.toNat ≤ 0x20)).reverse.dropWhile (·.toNat ≤ 0x20)).reverse
  trimmed.filter fun c => !isSkipped c

/-- The encoded query of a URL with some scheme. -/
def encodeQuery (scheme : String) (s : List Char) : String :=
  let escaped (c : Char) : Bool := isEscapedInQuery c || (isSpecial scheme && c == '\'')
  String.ofList (percentEncode escaped s)

/-- Reads a URL. -/
def ofText (s : String) : Except Fault Url := do
  match takeScheme? (clean s.toList) with
  | none => .error .relative
  | some (scheme, rest) =>
    let (rest, fragment) := cut '#' rest
    let (rest, query) := cut '?' rest
    let (authority, path) ← restOf scheme rest
    return ⟨scheme, authority, path, query.map (encodeQuery scheme),
      fragment.map fun s => String.ofList (percentEncode isEscapedInFragment s)⟩

/-- What is asked of a host: the path and the query. -/
def target (u : Url) : String :=
  u.path ++ u.query.elim "" ("?" ++ ·)

/-- The text of a URL. -/
def text (u : Url) : String :=
  u.scheme ++ ":" ++ u.authority.elim "" (fun a => "//" ++ a.text) ++ u.target
    ++ u.fragment.elim "" ("#" ++ ·)

/-- Holds of the URLs that have a host. -/
def hasHost (u : Url) : Bool :=
  u.authority.any (·.host != .empty)

/-- The form that a text has as a URL, if it is one. -/
def normalForm? (s : String) : Option String :=
  (ofText s).toOption.map text

example : normalForm? "HTTP://Host:80/a b/../é?x y#z" = some "http://host/%C3%A9?x%20y#z" := by
  decide +kernel
example : normalForm? "file:a/b" = some "file:///a/b" := by decide +kernel
example : normalForm? "file://h/C|/.." = some "file:///C:/" := by decide +kernel
example : normalForm? "a://h:1\\b" = some "a://h:1/\\b" := by decide +kernel
example : normalForm? "host:80/a" = some "host:80/a" := by decide +kernel
example : normalForm? "//host" = none := by decide +kernel

end Url

end SlashCommands
