import Joinery.Catalog.DatabaseFile
import Joinery.CommandLine.Run

/-!
# The program

`main` runs the program on the machine that it is started on.
-/

namespace Joinery

/-- What some bytes are. -/
def FileContent.ofBytes (bytes : ByteArray) : FileContent :=
  match DatabaseFile.storedLinks? bytes, String.fromUTF8? bytes with
  | some rows, _ => .database rows
  | none, some value => .text value
  | none, none => .binary

namespace Machine

/-- What a path leads to. A file that cannot be read counts as bytes that are no text. -/
def content (path : String) : IO (Option FileContent) := do
  try
    let place ← IO.FS.realPath path
    if ← place.isDir then return some .directory
    if !(← place.pathExists) then return none
  catch _ => return none
  try
    return some (.ofBytes (← IO.FS.readBinFile path))
  catch _ => return some .binary

/-- The directory that holds the settings of the user. -/
def configDirectory : IO (Option String) := do
  match ← IO.getEnv "XDG_CONFIG_HOME" with
  | some directory =>
    if directory.toList.head? = some '/' then return some directory
  | none => pure ()
  let home ← IO.getEnv "HOME"
  return (home.filter (· ≠ "")).map (· ++ "/.config")

/-- The machine that the program runs on. -/
def host : Host IO where
  env name := IO.getEnv name
  content := content
  configDirectory := configDirectory

end Machine

end Joinery

def main (arguments : List String) : IO UInt32 := do
  let outcome ← Joinery.CommandLine.run Joinery.Machine.host arguments
  (← IO.getStdout).putStr outcome.stdout
  (← IO.getStderr).putStr outcome.stderr
  return outcome.exit.toUInt32
