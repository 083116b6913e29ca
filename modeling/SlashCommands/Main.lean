import SlashCommands.CommandLine.Run
import SlashCommands.Json
import SlashCommands.Toml
import SlashCommands.Url.Requests

/-!
# The program

The program runs a command line in the file system and the environment of its process.  It has no
transport to the platform, so that every request of a publication fails to be sent.
-/

namespace SlashCommands.Main

/-- The fault behind an error of the system, whose number may come with a sign. -/
def faultOfError : IO.Error → FileFault
  | .noFileOrDirectory .. => .noEntry
  | .alreadyExists .. => .exists
  | .inappropriateType _ code _ =>
    if code.toInt32.toInt.natAbs = 21 then .isDirectory else .notDirectory
  | e => .other (toString e)

/-- Does something with files and catches its fault. -/
def attempt {α : Type} (action : IO α) : IO (Except FileFault α) := do
  try return .ok (← action)
  catch e => return .error (faultOfError e)

/-- Holds if there is something to open under a path. -/
def exists? (path : String) : IO Bool := do
  match ← attempt (IO.FS.Handle.mk path .read) with
  | .error .noEntry | .error .notDirectory => return false
  | _ => return true

/-- The file system. -/
def host (home : String) : Host IO where
  home := home
  exists? := exists?
  read path := attempt (IO.FS.readFile path)
  makeDirectories path := attempt (if path.isEmpty then pure () else IO.FS.createDirAll path)
  write path content := attempt (IO.FS.writeFile path content)

/-- The environment of the process. -/
def environment : IO Environment :=
  return ⟨← IO.getEnv Environment.tokenName, ← IO.getEnv Environment.applicationIdName⟩

/-- The exit code of a program that breaks off. -/
def panicCode : UInt32 := 101

end SlashCommands.Main

open SlashCommands in
/-- Runs the program. -/
def main (words : List String) : IO UInt32 := do
  let world : CommandLine.World IO := {
    host := Main.host ((← IO.getEnv "HOME").getD "")
    environment := ← Main.environment
    server := .unreachable
    client := .byUrl
    toml := Toml.codec
    json := Json.codec }
  match (← CommandLine.run world words).ending with
  | .exit code output errors =>
    IO.print output
    IO.eprint errors
    return code
  | .panic _ => return Main.panicCode
