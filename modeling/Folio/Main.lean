import Folio.Cli.Commands
import Folio.Crawl.Archive
import Folio.Script.Engine

/-!
# Folio.Main

The command line.  Pages come from an archive beside the configuration, since
this program does not reach the network itself.
-/

namespace Folio.Cli

/-- The directory for configurations. -/
def configRoot : IO String := do
  match ← IO.getEnv "XDG_CONFIG_HOME" with
  | some root => return root
  | none => return ((← IO.getEnv "HOME").getD "") ++ "/.config"

/-- The content of a file, if it can be read. -/
def contentOf (path : String) : IO (Option String) := do
  try return some (← IO.FS.readFile path)
  catch _ => return none

/-- The configuration; its file is written where there is none. -/
def loadConfig (root : String) : IO (Except Config.Failure Config) := do
  match Config.load (← contentOf (Config.filePath root)) with
  | .error f => return .error f
  | .ok (config, created) =>
    if let some text := created then
      IO.FS.createDirAll (root ++ "/" ++ Config.directory)
      IO.FS.writeFile (Config.filePath root) text
    return .ok config

/-- The pages of the archive. -/
def loadArchive (root : String) : IO (List Crawl.Archive.Entry) := do
  let text ← contentOf (root ++ "/" ++ Config.directory ++ "/pages.json")
  return (text.bind Crawl.Archive.read?).getD []

/-- Carry out a command line that has been read. -/
def perform (i : Invocation) : IO UInt32 := do
  let root ← configRoot
  match ← loadConfig root with
  | .error _ =>
    IO.eprintln (Failure.report .config)
    return 1
  | .ok config =>
    let settings := (configured config i).settings
    let fetcher := Crawl.Archive.fetcher (← loadArchive root)
    let crawler : Crawler := ⟨settings, fetcher, Script.engine settings.script⟩
    let file ← contentOf (sourcesFile config root i)
    let outcome := run crawler file i.command
    if outcome.stops then
      IO.eprintln Rule.PathFailure.overflow.message
      return 101
    IO.print outcome.value.output
    match outcome.value.failure with
    | none => return 0
    | some f =>
      IO.eprintln f.report
      return 1

/-- How the program is used. -/
def usage : String :=
  "Usage: bookrule [--workers N] [--sources FILE] <search|sources|explore|info|toc|content> ..."

end Folio.Cli

/-- The program. -/
def main (args : List String) : IO UInt32 := do
  match Folio.Cli.read args with
  | .ok invocation => Folio.Cli.perform invocation
  | .error .help =>
    IO.println Folio.Cli.usage
    return 0
  | .error _ =>
    IO.eprintln Folio.Cli.usage
    return 2
