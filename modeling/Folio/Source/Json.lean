import Folio.Source.Basic

/-!
# Folio.Source.Json

Sources as JSON.  A record is written as an object; it is read from an object,
in which members may be missing and unknown ones are passed over, or from an
array of its members in their order.
-/

namespace Folio

/-! ## Records -/

/-- The members of a record by their names, where they are present. -/
def recordMembers? (names : List String) : Json → Option (List (Option Json))
  | .object members => some (names.map fun name => members.lookup name)
  | .array items =>
    if items.length ≤ names.length then
      some ((items.map some) ++ List.replicate (names.length - items.length) none)
    else none
  | _ => none

/-- A member that is a text; empty where it is missing. -/
def textMember? : Option Json → Option String
  | none => some ""
  | some (.string s) => some s
  | some _ => none

/-- A member that is a text or null. -/
def optionalText? : Option Json → Option (Option String)
  | none => some none
  | some .null => some none
  | some (.string s) => some (some s)
  | some _ => none

/-- A member that is a truth value. -/
def boolMember? (absent : Bool) : Option Json → Option Bool
  | none => some absent
  | some (.bool b) => some b
  | some _ => none

/-- A member that is an integer of 32 bits. -/
def int32Member? : Option Json → Option Int
  | none => some 0
  | some v => v.int?.filter fun n => -2147483648 ≤ n && n ≤ 2147483647

/-- The earliest time, in milliseconds since the epoch. -/
def earliestTime : Int := -8334601228800000

/-- The latest time, in milliseconds since the epoch. -/
def latestTime : Int := 8210266876799999

/-- A member that is a time or null. -/
def timeMember? : Option Json → Option (Option Int)
  | none => some none
  | some .null => some none
  | some v => (v.int?.filter fun n => earliestTime ≤ n && n ≤ latestTime).map some

/-- A member that is an array of texts. -/
def textsMember? : Option Json → Option (List String)
  | none => some []
  | some (.array items) => items.mapM Json.string?
  | some _ => none

/-- A member that is a record. -/
def recordMember? {α : Type} (absent : α) (read? : Json → Option α) : Option Json → Option α
  | none => some absent
  | some v => read? v

/-! ## Rules -/

namespace ListRule

/-- The names of the members. -/
def names : List String :=
  ["bookList", "name", "author", "intro", "kind", "lastChapter", "coverUrl", "bookUrl"]

/-- Read the rules of a list. -/
def ofJson? (v : Json) : Option ListRule := do
  let [a, b, c, d, e, f, g, h] ← (← recordMembers? names v).mapM textMember? | none
  return ⟨a, b, c, d, e, f, g, h⟩

/-- Write the rules of a list. -/
def toJson (r : ListRule) : Json :=
  .ofMembers (names.zip ([r.bookList, r.name, r.author, r.intro, r.kind, r.lastChapter,
    r.coverUrl, r.bookUrl].map Json.string))

end ListRule

namespace BookInfoRule

/-- The names of the members. -/
def names : List String :=
  ["init", "name", "author", "intro", "kind", "lastChapter", "coverUrl", "tocUrl"]

/-- Read the rules of a book. -/
def ofJson? (v : Json) : Option BookInfoRule := do
  let [a, b, c, d, e, f, g, h] ← (← recordMembers? names v).mapM textMember? | none
  return ⟨a, b, c, d, e, f, g, h⟩

/-- Write the rules of a book. -/
def toJson (r : BookInfoRule) : Json :=
  .ofMembers (names.zip ([r.init, r.name, r.author, r.intro, r.kind, r.lastChapter, r.coverUrl,
    r.tocUrl].map Json.string))

end BookInfoRule

namespace TocRule

/-- The names of the members. -/
def names : List String := ["chapterList", "chapterName", "chapterUrl", "isVolume", "nextTocUrl"]

/-- Read the rules of a table of contents. -/
def ofJson? (v : Json) : Option TocRule := do
  let [a, b, c, d, e] ← (← recordMembers? names v).mapM textMember? | none
  return ⟨a, b, c, d, e⟩

/-- Write the rules of a table of contents. -/
def toJson (r : TocRule) : Json :=
  .ofMembers (names.zip ([r.chapterList, r.chapterName, r.chapterUrl, r.isVolume,
    r.nextTocUrl].map Json.string))

end TocRule

namespace ContentRule

/-- The names of the members. -/
def names : List String := ["content", "nextContentUrl", "replaceRegex"]

/-- Read the rules of a chapter. -/
def ofJson? (v : Json) : Option ContentRule := do
  let [a, b, c] ← recordMembers? names v | none
  return ⟨← textMember? a, ← textMember? b, ← textsMember? c⟩

/-- Write the rules of a chapter. -/
def toJson (r : ContentRule) : Json :=
  .ofMembers (names.zip [.string r.content, .string r.nextContentUrl,
    .array (r.replaceRegex.map Json.string)])

end ContentRule

/-! ## Sources -/

namespace Source

/-- The names of the members. -/
def names : List String :=
  ["url", "name", "group", "enabled", "enabledExplore", "concurrentRate", "weight", "customOrder",
    "lastUpdated", "header", "loginUrl", "enabledCookieJar", "searchUrl", "exploreUrl", "search",
    "explore", "bookInfo", "toc", "content"]

/-- The other name of a member. -/
def formerName : String := "lastUpdateTime"

/-- An object with the present name of each member; none may have both. -/
def renamed? : Json → Option Json
  | .object members =>
    match members.lookup formerName with
    | none => some (.object members)
    | some time =>
      if (members.lookup "lastUpdated").isSome then none
      else some (.ofMembers (("lastUpdated", time) :: members))
  | v => some v

/-- Read a source. -/
def ofJson? (v : Json) : Option Source := do
  let [url, name, group, enabled, enabledExplore, concurrentRate, weight, customOrder, lastUpdated,
    header, loginUrl, enabledCookieJar, searchUrl, exploreUrl, search, explore, bookInfo, toc,
    content] ← recordMembers? names (← renamed? v) | none
  return {
    url := ← textMember? url
    name := ← textMember? name
    group := ← optionalText? group
    enabled := ← boolMember? true enabled
    enabledExplore := ← boolMember? true enabledExplore
    concurrentRate := ← optionalText? concurrentRate
    weight := ← int32Member? weight
    customOrder := ← int32Member? customOrder
    lastUpdated := ← timeMember? lastUpdated
    header := ← optionalText? header
    loginUrl := ← optionalText? loginUrl
    enabledCookieJar := ← boolMember? false enabledCookieJar
    searchUrl := ← optionalText? searchUrl
    exploreUrl := ← optionalText? exploreUrl
    search := ← recordMember? {} ListRule.ofJson? search
    explore := ← recordMember? {} ListRule.ofJson? explore
    bookInfo := ← recordMember? {} BookInfoRule.ofJson? bookInfo
    toc := ← recordMember? {} TocRule.ofJson? toc
    content := ← recordMember? {} ContentRule.ofJson? content }

/-- Write a source. -/
def toJson (s : Source) : Json :=
  .ofMembers (names.zip [.string s.url, .string s.name, .ofOption s.group, .bool s.enabled,
    .bool s.enabledExplore, .ofOption s.concurrentRate, .int s.weight, .int s.customOrder,
    (s.lastUpdated.map Json.int).getD .null, .ofOption s.header, .ofOption s.loginUrl,
    .bool s.enabledCookieJar, .ofOption s.searchUrl, .ofOption s.exploreUrl, s.search.toJson,
    s.explore.toJson, s.bookInfo.toJson, s.toc.toJson, s.content.toJson])

/-- Read a list of sources, or a single one. -/
def readList? (content : String) : Except Failure (List Source) :=
  let sources? : Option (List Source) := do
    match ← Json.parse? content with
    | .array items => items.mapM ofJson?
    | v => return [← ofJson? v]
  match sources? with
  | some sources => .ok sources
  | none => .error .json

end Source

end Folio
