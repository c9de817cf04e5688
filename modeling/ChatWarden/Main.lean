import ChatWarden.Program

/-!
# Entry point

Carries the program out on the real file system. The settings lie in a directory named after the
program, and so does the variable that names the maintainer.
-/

namespace ChatWarden.Main

def fileError (e : IO.Error) : FileError :=
  match e with
  | .noFileOrDirectory .. => .notFound
  | .inappropriateType _ 20 _ => .notADirectory
  | .inappropriateType _ 21 _ => .isADirectory
  | .resourceExhausted _ 40 _ => .tooManyLinks
  | e => .other (toString e)

def readFile (path : String) : IO (Except FileError ByteArray) := do
  try
    return .ok (← IO.FS.readBinFile path)
  catch e =>
    return .error (fileError e)

/-- Everything below a directory. A directory below it that cannot be listed counts as empty. -/
partial def entriesBelow (directory : String) (names : Array IO.FS.DirEntry) :
    IO (List (String × FoundEntry)) := do
  let mut found := #[]
  for entry in names do
    let path := FileTree.join directory entry.fileName
    let type ← try pure (some (← entry.path.symlinkMetadata).type) catch _ => pure none
    if type == some .dir then
      let below ← try entry.path.readDir catch _ => pure #[]
      found := found.push (entry.fileName, .directory (← entriesBelow path below))
    else
      let target ← try pure (some (← entry.path.metadata).type) catch _ => pure none
      if target == some .file then
        found := found.push (entry.fileName, .file (← readFile path))
      else
        found := found.push (entry.fileName, .other)
  return found.toList

def list (path : String) : IO Listing := do
  let here ← IO.currentDir
  let place := here / path
  if path.isEmpty || !(← place.pathExists) then return .missing
  try
    return .entries (← entriesBelow path (← place.readDir))
  catch e =>
    return .unreadable (fileError e)

def carryOut {α : Type} : Procedure α → IO α
  | .done a => return a
  | .isThere path next => do
    let here ← IO.currentDir
    carryOut (next (!path.isEmpty && (← (here / path).pathExists)))
  | .read path next => do carryOut (next (← readFile path))
  | .list path next => do carryOut (next (← list path))
  | .input next => do carryOut (next (← (← IO.getStdin).readBinToEnd))

def programName : IO String := do
  return (← IO.appPath).fileName.getD ""

def configHome : IO String := do
  match ← IO.getEnv "XDG_CONFIG_HOME" with
  | some dir => if dir.startsWith "/" then return dir
  | none => pure ()
  match ← IO.getEnv "HOME" with
  | some home => return home ++ "/.config"
  | none => return "."

end ChatWarden.Main

open ChatWarden in
def main (args : List String) : IO UInt32 := do
  let name ← Main.programName
  let maintainer ← IO.getEnv (name.toUpper ++ "_MAINTAINER")
  match CommandLine.parse maintainer args with
  | .error .displayHelp =>
    IO.println (CommandLine.usage name)
    return 0
  | .error .displayVersion =>
    IO.println name
    return 0
  | .error stop =>
    IO.eprintln stop.message
    return 2
  | .ok options =>
    let config := (← Main.configHome) ++ "/" ++ name ++ "/config.toml"
    match ← Main.carryOut (Program.run config options) with
    | .error e =>
      IO.eprintln (e.category ++ ": " ++ e.message)
      return 1
    | .ok result =>
      IO.print result.stdout
      IO.eprint result.stderr
      return result.exitCode.toUInt32
