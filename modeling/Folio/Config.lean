import Folio.Crawl.Basic
import Folio.Script.Engine
import Folio.Toml.Reader

/-!
# Folio.Config

The configuration: a TOML document with tables for fetching, scripts and the
list of sources.  Entries that are missing have defaults, and unknown ones are
passed over.
-/

namespace Folio

/-- How pages are fetched. -/
structure FetchConfig where
  /-- How many seconds an answer may take. -/
  timeout : Nat := 15
  /-- What requests name as their sender unless the source does. -/
  userAgent : Option String := none
  /-- How many sources are searched at the same time. -/
  workers : Nat := 10
  /-- How many pages of a chapter or of a table of contents are read. -/
  maxPages : Nat := 30
  /-- The pause between pages, in milliseconds. -/
  pageDelay : Nat := 300
deriving DecidableEq, Repr

/-- The configuration. -/
structure Config where
  fetch : FetchConfig := {}
  script : Script.Limits := Script.Limits.standard
  /-- The file that holds the sources. -/
  sourcesPath : Option String := none

namespace Config

/-- Why there is no configuration. -/
inductive Failure where
  /-- The file cannot be read. -/
  | io
  /-- The file is no TOML document of the right form. -/
  | malformed
deriving DecidableEq, Repr

/-! ## Records -/

/-- The members of a record by their names, where they are present.  An array
holds them in their order, and a date holds none. -/
def recordMembers? (names : List String) : Toml.Value → Option (List (Option Toml.Value))
  | .table _ entries => some (names.map fun name => entries.lookup name)
  | .array items | .tables items => some ((List.range names.length).map fun i => items[i]?)
  | .dateTime _ => some (names.map fun _ => none)
  | _ => none

/-- A member that is a natural number of 64 bits. -/
def natMember? (absent : Nat) : Option Toml.Value → Option Nat
  | none => some absent
  | some (.integer n) => if 0 ≤ n && n < Int.pow 2 64 then some n.toNat else none
  | some _ => none

/-- A member that is a text. -/
def textMember? : Option Toml.Value → Option (Option String)
  | none => some none
  | some (.string s) => some (some s)
  | some _ => none

/-- A member that is a record. -/
def recordMember? {α : Type} (absent : α) (read? : Toml.Value → Option α) :
    Option Toml.Value → Option α
  | none => some absent
  | some v => read? v

/-- Read how pages are fetched. -/
def fetch? (v : Toml.Value) : Option FetchConfig := do
  let names := ["timeout_secs", "user_agent", "workers", "max_pages", "page_delay_ms"]
  let [timeout, userAgent, workers, maxPages, pageDelay] ← recordMembers? names v | none
  let absent : FetchConfig := {}
  return {
    timeout := ← natMember? absent.timeout timeout
    userAgent := ← textMember? userAgent
    workers := ← natMember? absent.workers workers
    maxPages := ← natMember? absent.maxPages maxPages
    pageDelay := ← natMember? absent.pageDelay pageDelay }

/-- Read the limits of scripts. -/
def script? (v : Toml.Value) : Option Script.Limits := do
  let [operations, textSize] ← recordMembers? ["max_operations", "max_string_size"] v | none
  let absent := Script.Limits.standard
  return ⟨← natMember? absent.operations operations, ← natMember? absent.textSize textSize⟩

/-- Read where the sources are. -/
def sources? (v : Toml.Value) : Option (Option String) := do
  let [path] ← recordMembers? ["path"] v | none
  textMember? path

/-- Read a configuration. -/
def ofValue? (v : Toml.Value) : Option Config := do
  let [fetch, script, sources] ← recordMembers? ["fetch", "script", "sources"] v | none
  let absent : Config := {}
  return {
    fetch := ← recordMember? absent.fetch fetch? fetch
    script := ← recordMember? absent.script script? script
    sourcesPath := ← recordMember? absent.sourcesPath sources? sources }

/-- Read the text of a configuration. -/
def parse (text : String) : Except Failure Config :=
  match (Toml.parse? text).bind ofValue? with
  | some config => .ok config
  | none => .error .malformed

/-! ## Files -/

/-- The file of the configuration as it is first written: the defaults, with
comments. -/
def defaultText : String := "\n".intercalate [
  "# bookrule configuration",
  "",
  "[fetch]",
  "# Per-request timeout in seconds",
  "timeout_secs = 15",
  "",
  "# User agent for sources that do not declare one",
  "# user_agent = \"Mozilla/5.0\"",
  "",
  "# Number of sources searched at the same time",
  "workers = 10",
  "",
  "# Maximum pages fetched for one chapter body or table of contents",
  "max_pages = 30",
  "",
  "# Pause between pages of one chapter (milliseconds)",
  "page_delay_ms = 300",
  "",
  "[script]",
  "# Operation limit for one script evaluation",
  "max_operations = 200000",
  "",
  "# Longest string a script may build (bytes)",
  "max_string_size = 4194304",
  "",
  "[sources]",
  "# JSON array of book sources. Defaults to sources.json next to this file.",
  "# path = \"/path/to/sources.json\"",
  ""]

/-- The configuration of a file that must be there. -/
def ofFile (file : Option String) : Except Failure Config :=
  match file with
  | none => .error .io
  | some text => parse text

/-- The configuration of a file, and the text to write where there is none: the
defaults hold then. -/
def load (file : Option String) : Except Failure (Config × Option String) :=
  match file with
  | none => .ok ({}, some defaultText)
  | some text => (parse text).map (·, none)

/-- The directory of the program below the one for configurations. -/
def directory : String := "bookrule"

/-- The file of the configuration, below the directory for configurations. -/
def filePath (root : String) : String := root ++ "/" ++ directory ++ "/config.toml"

/-- The file that holds the sources: the one that is named, or else one beside
the configuration. -/
def sourcesFile (c : Config) (root : String) : String :=
  c.sourcesPath.getD (root ++ "/" ++ directory ++ "/sources.json")

/-! ## Settings -/

/-- What holds for all crawls.  There is at least one worker, one page and one
second. -/
def settings (c : Config) : Crawl.Settings :=
  let standard : Request.Defaults := {}
  { workers := max 1 c.fetch.workers
    maxPages := max 1 c.fetch.maxPages
    pageDelay := c.fetch.pageDelay
    request := {
      userAgent := (c.fetch.userAgent.filter (· != "")).getD standard.userAgent
      timeout := max 1 c.fetch.timeout }
    script := c.script }

end Config

end Folio
