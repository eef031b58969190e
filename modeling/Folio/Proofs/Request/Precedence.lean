import Folio.Proofs.Json.Members
import Folio.Proofs.Request.Header
import Folio.Proofs.Text.Utf8

/-!
# Folio.Proofs.Request.Precedence

Where the value of a header comes from.  Setting headers one after the other lets
the last of a name stand (`value?_putAll`), supplying one only adds what is
missing (`value?_supply`).  A header of a request thus has the value that the
options give it, else that of the source, else the content type of the body,
else the default (`followsPrecedence_of_value`).
-/

namespace Folio.Request

open Folio.Text Folio.Script

/-! ## Looking up -/

namespace Headers

variable {headers others : Headers} {name value other : String}

/-- The first headers win. -/
@[simp] theorem value?_append (headers others : Headers) (name : String) :
    value? (headers ++ others) name = (value? headers name).or (value? others name) := by
  simp only [value?, List.find?_append, Option.map_or]

/-- A header is there when it has a value. -/
theorem has_eq_isSome : has headers name = (value? headers name).isSome := by
  rw [has, value?, Option.isSome_map, List.isSome_find?]

@[simp] theorem value?_singleton : value? [(name, value)] other =
    if eqIgnoreCase name other then some value else none := by
  simp only [value?, List.find?_singleton]
  split <;> rfl

/-- A header that is put replaces the one of its name. -/
@[simp] theorem value?_put : value? (put headers name value) other =
    if eqIgnoreCase name other then some value else value? headers other := by
  have hkept : value? (headers.filter fun h => !eqIgnoreCase h.1 name) other =
      if eqIgnoreCase name other then none else value? headers other := by
    simp only [value?, List.find?_filter]
    split
    · next hsame =>
      simp [eqIgnoreCase_congr hsame]
    · next hother =>
      congr 2
      funext h
      cases hh : eqIgnoreCase h.1 other with
      | false => simp
      | true =>
          have hname : eqIgnoreCase h.1 name = false := by
            rw [Bool.eq_false_iff]
            intro hname
            rw [eqIgnoreCase_iff] at hname hh hother
            exact hother (hname.symm.trans hh)
          simp [hname]
  rw [put, value?_append, hkept, value?_singleton]
  split
  · rfl
  · rw [Option.or_none]

/-- A header that is supplied gives way to the one of its name. -/
@[simp] theorem value?_supply : value? (supply headers name value) other =
    (value? headers other).or (value? [(name, value)] other) := by
  rw [supply]
  split
  · next hpresent =>
    rw [value?_singleton]
    split
    · next hsame =>
      rw [has_congr hsame, has_eq_isSome] at hpresent
      rw [Option.or_of_isSome hpresent]
    · rw [Option.or_none]
  · rw [value?_append]

/-- Set headers, one after the other. -/
def putAll (headers fields : Headers) : Headers :=
  fields.foldl (fun headers (name, value) => put headers name value) headers

/-- **Setting headers.**  The last of a name stands. -/
@[simp] theorem value?_putAll (headers fields : Headers) (name : String) :
    value? (putAll headers fields) name =
      (value? fields.reverse name).or (value? headers name) := by
  induction fields generalizing headers with
  | nil => rfl
  | cons field fields ih =>
      have hput : value? (put headers field.1 field.2) name =
          (value? [field] name).or (value? headers name) := by
        rw [value?_put, value?_singleton]
        split <;> rfl
      have hfold : putAll headers (field :: fields) =
          putAll (put headers field.1 field.2) fields := rfl
      simp [hfold, ih, hput, value?_append, Option.or_assoc]

end Headers

/-! ## Layers -/

/-- The headers that options set: those whose value is a text, a number or a truth
value. -/
def scalarHeaders (fields : List (String × Json)) : Headers :=
  fields.filterMap fun field => (headerValue? field.2).map (field.1, ·)

/-- The content type that is derived from a body. -/
def derivedHeaders (charset body : Option String) : Headers :=
  body.toList.map fun body => ("Content-Type", contentTypeOf charset body)

/-- The headers that every request has. -/
def defaultHeaders (defaults : Defaults) : Headers :=
  [("User-Agent", defaults.userAgent), ("Cache-Control", "no-cache"), ("Pragma", "no-cache")]

/-- What sets the headers of a request, the strongest first.  Options and sources are read
from their last header on. -/
def layers (source : Source) (defaults : Defaults) (options : Options) (body : Option String) :
    List Headers :=
  [(scalarHeaders options.headers).reverse, source.headers.value.reverse,
    derivedHeaders options.declaredCharset body, defaultHeaders defaults]

/-- The headers of a source are put one after the other. -/
theorem putSource_eq (fields : List (String × String)) :
    putSource fields = Headers.putAll [] fields := rfl

/-- Of the headers of the options, the scalars are put. -/
theorem value_putOptions (headers : Headers) (fields : List (String × Json)) :
    (putOptions headers fields).value = headers.putAll (scalarHeaders fields) := by
  induction fields generalizing headers with
  | nil => rfl
  | cons field fields ih =>
      obtain ⟨name, value⟩ := field
      rw [putOptions, scalarHeaders, List.filterMap_cons]
      cases headerValue? value with
      | none => exact ih headers
      | some text => exact ih (headers.put name text)

/-- A derived content type gives way to one that is given. -/
theorem value?_supplyContentType (charset body : Option String) (headers : Headers)
    (name : String) : (supplyContentType charset body headers).value? name =
      (headers.value? name).or (Headers.value? (derivedHeaders charset body) name) := by
  cases body with
  | none => exact Option.or_none.symm
  | some body => exact Headers.value?_supply

/-- Defaults give way to everything else. -/
theorem value?_supplyDefaults (defaults : Defaults) (headers : Headers) (name : String) :
    (supplyDefaults defaults headers).value? name =
      (headers.value? name).or (Headers.value? (defaultHeaders defaults) name) := by
  have hdefaults : defaultHeaders defaults = [("User-Agent", defaults.userAgent)] ++
      ([("Cache-Control", "no-cache")] ++ [("Pragma", "no-cache")]) := rfl
  rw [supplyDefaults, hdefaults, Headers.value?_append, Headers.value?_append]
  simp only [Headers.value?_supply, Option.or_assoc]

theorem findSome?_cons_eq_or {α β : Type} (f : α → Option β) (a : α) (items : List α) :
    (a :: items).findSome? f = (f a).or (items.findSome? f) := by
  rw [List.findSome?_cons]
  cases f a <;> rfl

/-- The layers one after the other. -/
theorem value?_prepared (source : Source) (defaults : Defaults) (options : Options)
    (encoded : Option (List Char)) (url : Url) (method name : String) :
    (prepared source defaults options encoded url method).headers.value? name =
      (layers source defaults options (bodyOf method options.body encoded)).findSome?
        (·.value? name) := by
  have hgiven : (givenHeaders source options).value? name =
      (Headers.value? (scalarHeaders options.headers).reverse name).or
        (Headers.value? source.headers.value.reverse name) := by
    rw [givenHeaders, value_putOptions, Headers.value?_putAll, putSource_eq, Headers.value?_putAll]
    exact congrArg _ Option.or_none
  rw [prepared, value?_supplyDefaults, value?_supplyContentType, hgiven, layers]
  simp only [findSome?_cons_eq_or, List.findSome?_nil, Option.or_none, Option.or_assoc]

/-! ## Order of names -/

/-- The names of fields are in the order of their bytes, each there once. -/
def ByteOrdered {α : Type} (fields : List (String × α)) : Prop :=
  fields.Pairwise fun f g => Utf8.bytes f.1 < Utf8.bytes g.1

/-- Members in the order of their keys are in the order of their bytes. -/
theorem byteOrdered_of_ascending {members : List (String × Json)} (h : Json.Ascending members) :
    ByteOrdered members :=
  h.imp Utf8.bytes_lt

/-- So are the headers of a source. -/
theorem byteOrdered_headers (source : Source) : ByteOrdered source.headers.value := by
  rw [Source.headers]
  split
  · exact .nil
  · next raw _ =>
    cases hmembers : (Json.parse? raw).bind Json.members? with
    | none => exact .nil
    | some members =>
        have hascending := byteOrdered_of_ascending (Json.ascending_of_parse? hmembers)
        exact List.pairwise_map.mpr hascending

/-- A member of options sets the headers in the order of their names or leaves them. -/
theorem byteOrdered_withMember {options result : Options} {key : String} {form : Json.Form}
    (hoptions : ByteOrdered options.headers) (h : options.withMember? key form = some result) :
    ByteOrdered result.headers := by
  unfold Options.withMember? at h
  split at h
  · obtain ⟨text, -, htext⟩ := Option.bind_eq_some_iff.mp h
    cases htext
    exact hoptions
  · obtain ⟨text, -, htext⟩ := Option.bind_eq_some_iff.mp h
    cases htext
    exact hoptions
  · obtain ⟨members, hmembers, heq⟩ := Option.bind_eq_some_iff.mp h
    cases heq
    obtain ⟨value, hvalue, hobject⟩ := Option.bind_eq_some_iff.mp hmembers
    exact byteOrdered_of_ascending (Json.ascending_of_value? hvalue hobject)
  · obtain ⟨body, -, hbody⟩ := Option.bind_eq_some_iff.mp h
    cases hbody
    exact hoptions
  · cases h
    exact hoptions

/-- So are those of an options block, by induction on its members. -/
theorem byteOrdered_ofMembers {seen : List String} {options result : Options}
    {members : List (Option String × Json.Form)} (hoptions : ByteOrdered options.headers)
    (h : Options.ofMembers? seen options members = some result) : ByteOrdered result.headers := by
  induction members generalizing seen options with
  | nil =>
      obtain rfl := Option.some.inj h
      exact hoptions
  | cons member members ih =>
      obtain ⟨key, form⟩ := member
      cases key with
      | none => cases h
      | some key =>
          rw [Options.ofMembers?] at h
          split at h
          · cases h
          · obtain ⟨next, hnext, hrest⟩ := Option.bind_eq_some_iff.mp h
            exact ih (byteOrdered_withMember hoptions hnext) hrest

/-- So are those of a block that is read. -/
theorem byteOrdered_readOptions {block : Option (List Char)} {options : Options}
    (h : readOptions block = .ok options) : ByteOrdered options.headers := by
  unfold readOptions at h
  split at h
  · cases h
    exact .nil
  · next block =>
    split at h
    · next hread =>
      cases h
      unfold Options.read? at hread
      split at hread
      · have hnone : ByteOrdered ({} : Options).headers := .nil
        exact byteOrdered_ofMembers hnone hread
      · cases hread
    · cases h

/-- So are those of the options of a link. -/
theorem byteOrdered_splitLink (link : List Char) : ByteOrdered (splitLink link).2.headers := by
  rw [splitLink]
  dsimp only
  split
  · next hoptions => exact byteOrdered_readOptions hoptions
  · exact .nil

/-! ## Requests -/

/-- A value that is no value of a header. -/
def IsIgnored (value : Json) : Prop :=
  value = .null ∨ (∃ items, value = .array items) ∨ ∃ members, value = .object members

/-- What is no scalar has no header value. -/
theorem headerValue?_of_isIgnored {value : Json} (h : IsIgnored value) :
    headerValue? value = none := by
  rcases h with rfl | ⟨items, rfl⟩ | ⟨members, rfl⟩ <;> rfl

/-- A header has no value when no header has its name. -/
theorem value?_eq_none_iff {headers : Headers} {name : String} :
    headers.value? name = none ↔ ∀ h ∈ headers, eqIgnoreCase h.1 name = false := by
  rw [← Headers.has_eq_false_iff, Headers.has_eq_isSome, Option.isSome_eq_false_iff,
    Option.isNone_iff_eq_none]

/-- Headers that are ignored set nothing. -/
theorem value?_scalarHeaders_of_ignored {fields : List (String × Json)} {name : String}
    (h : ∀ field ∈ fields, eqIgnoreCase field.1 name = true → IsIgnored field.2) :
    Headers.value? (scalarHeaders fields).reverse name = none := by
  rw [value?_eq_none_iff]
  intro header hheader
  obtain ⟨field, hfield, hvalue⟩ := List.mem_filterMap.mp (List.mem_reverse.mp hheader)
  obtain ⟨value, hvalue, rfl⟩ := Option.map_eq_some_iff.mp hvalue
  rw [Bool.eq_false_iff]
  intro hname
  rw [headerValue?_of_isIgnored (h field hfield hname)] at hvalue
  cases hvalue

/-- The headers of a request have their values from the strongest layer that has one.
Where the options have a name only with values that are ignored, it is as if they did not
have it. -/
structure FollowsPrecedence (source : Source) (defaults : Defaults) (options : Options)
    (r : Request) : Prop where
  value : ∀ name, r.headers.value? name =
    (layers source defaults options r.body).findSome? (·.value? name)
  ignored : ∀ name,
    (∀ field ∈ options.headers, eqIgnoreCase field.1 name = true → IsIgnored field.2) →
      r.headers.value? name =
        (layers source defaults { options with headers := [] } r.body).findSome? (·.value? name)
  optionOrder : ByteOrdered options.headers
  sourceOrder : ByteOrdered source.headers.value

theorem followsPrecedence_of_value_prepare {source : Source} {defaults : Defaults}
    {target : List Char} {options : Options} {encoded : Option (List Char)} {r : Request}
    (horder : ByteOrdered options.headers)
    (h : (prepare source defaults target options encoded).value = .ok r) :
    FollowsPrecedence source defaults options r := by
  obtain ⟨url, method, -, rfl⟩ := exists_of_value_prepare h
  have hvalue := value?_prepared source defaults options encoded url method
  refine ⟨hvalue, ?_, horder, byteOrdered_headers source⟩
  intro name hignored
  rw [hvalue]
  simp only [layers, findSome?_cons_eq_or, value?_scalarHeaders_of_ignored hignored]
  rfl

/-- **Header precedence.**  A header of a request, for a template or for a link, has the
value of the last header of its name that the options set, else of the last one of the
source, else the content type of the body, else the default; names are compared up to the
case of ASCII letters and stand in the order of their bytes. -/
theorem followsPrecedence_of_value (e : Evaluator) (source : Source) (defaults : Defaults)
    (query : Query) (text : String) :
    (∀ r, (build e source defaults query text).value = .ok r →
      ∃ options, readOptions (splitOptions (filledText e source query text)).2 = .ok options ∧
        FollowsPrecedence source defaults options r) ∧
    ∀ r, (link source defaults text).value = .ok r →
      FollowsPrecedence source defaults (splitLink (trim text.toList)).2 r := by
  constructor
  · intro r h
    obtain ⟨target, options, encoded, hoptions, hprepare⟩ := exists_options_of_value_build h
    have horder := byteOrdered_readOptions hoptions
    exact ⟨options, hoptions, followsPrecedence_of_value_prepare horder hprepare⟩
  · intro r h
    have horder := byteOrdered_splitLink (trim text.toList)
    exact followsPrecedence_of_value_prepare horder (value_prepare_of_value_link h)

/-- A source that sets two headers, one of them in two spellings. -/
def layeredSource : Source :=
  { url := "https://s.com",
    header := some "\x7b\"a\":\"s\",\"Referer\":\"r\",\"A\":\"t\"\x7d" }

/-- A text whose options set one of them and leave the other, and have a body. -/
def layeredText : String :=
  "/s,\x7b\"method\":\"post\",\"headers\":\x7b\"a\":1,\"A\":null,\"REFERER\":[]\x7d," ++
    "\"body\":\x7b\"q\":1\x7d\x7d"

/-- What a request has for some names. -/
def lookups (result : Except Failure Request) : Option (List (Option String)) :=
  result.toOption.map fun r =>
    ["A", "referer", "content-type", "PRAGMA", "b"].map r.headers.value?

/-- The number of the options, the address of the source, the type of the body, the default,
and nothing. -/
def layeredLookups : List (Option String) :=
  [some "1", some "r", some "application/json", some "no-cache", none]

/-- The request for this text as a template. -/
def layeredBuild : Except Failure Request :=
  (build (fun _ _ => pure (.ok .empty)) layeredSource {} {} layeredText).value

/-- The request for this text as a link. -/
def layeredLink : Except Failure Request := (link layeredSource {} layeredText).value

/-- Every layer is in force for some name, in a template and in a link. -/
theorem followsPrecedence_layeredText :
    (∃ r options, layeredBuild = .ok r ∧ FollowsPrecedence layeredSource {} options r ∧
      lookups (.ok r) = some layeredLookups) ∧
    ∃ r, layeredLink = .ok r ∧
      FollowsPrecedence layeredSource {} (splitLink (trim layeredText.toList)).2 r ∧
      lookups (.ok r) = some layeredLookups := by
  obtain ⟨hbuilt, hlinked⟩ :=
    followsPrecedence_of_value (fun _ _ => pure (.ok .empty)) layeredSource {} {} layeredText
  have hbuild : lookups layeredBuild = some layeredLookups := by decide +kernel
  have hlink : lookups layeredLink = some layeredLookups := by decide +kernel
  obtain ⟨r, hr, hlookups⟩ := Option.map_eq_some_iff.mp hbuild
  obtain ⟨s, hs, hothers⟩ := Option.map_eq_some_iff.mp hlink
  have hr := eq_ok_of_toOption hr
  have hs := eq_ok_of_toOption hs
  obtain ⟨options, -, hfollows⟩ := hbuilt r hr
  exact ⟨⟨r, options, hr, hfollows, congrArg some hlookups⟩, s, hs, hlinked s hs,
    congrArg some hothers⟩

end Folio.Request
