import Folio.Proofs.Request.Basic

/-!
# Folio.Proofs.Request.Header

Requests whose parts fit together.  Headers come from the source, from options,
from the body and from the defaults, in any spelling; setting one drops those of
its name, and one is supplied only where there is none, so that no name occurs
twice (`Distinct.put`, `Distinct.supply`).  Every request that is made has the
default headers, no body with GET, and a content type with a body
(`wellFormed_of_value`).
-/

namespace Folio.Request

open Folio.Text Folio.Script

/-! ## Names -/

/-- Names are equal when they are in lower case. -/
theorem eqIgnoreCase_iff {a b : String} :
    eqIgnoreCase a b = true ↔ a.toList.map lowerAscii = b.toList.map lowerAscii := beq_iff_eq

/-- A name is compared alike with names that mean the same. -/
theorem eqIgnoreCase_congr {b c : String} (h : eqIgnoreCase b c = true) (a : String) :
    eqIgnoreCase a b = eqIgnoreCase a c := by
  rw [eqIgnoreCase, eqIgnoreCase, eqIgnoreCase_iff.mp h]

namespace Headers

variable {headers : Headers} {name value other : String}

/-- No two headers have the same name, up to the case of ASCII letters. -/
def Distinct (headers : Headers) : Prop :=
  headers.Pairwise fun h g => eqIgnoreCase h.1 g.1 = false

/-- A header is missing when no header has its name. -/
theorem has_eq_false_iff :
    has headers name = false ↔ ∀ h ∈ headers, eqIgnoreCase h.1 name = false := by
  simp [has]

/-- The case of a name does not matter. -/
theorem has_congr (h : eqIgnoreCase name other = true) : has headers name = has headers other := by
  simp only [has, eqIgnoreCase_congr h]

/-- A header that is added is there. -/
@[simp] theorem has_concat :
    has (headers ++ [(name, value)]) other = (has headers other || eqIgnoreCase name other) := by
  simp [has]

/-- A header that comes last under a new name. -/
theorem Distinct.concat (h : Distinct headers) (hnew : has headers name = false) (value : String) :
    Distinct (headers ++ [(name, value)]) := by
  rw [Distinct, List.pairwise_append]
  refine ⟨h, List.pairwise_singleton _ _, ?_⟩
  intro g hg last hlast
  rw [List.mem_singleton.mp hlast]
  exact has_eq_false_iff.mp hnew g hg

/-! ## Setting a header -/

/-- A header that is filtered out is not. -/
@[simp] theorem has_filter : has (headers.filter fun h => !eqIgnoreCase h.1 name) name = false := by
  rw [has_eq_false_iff]
  intro h hh
  simpa using (List.mem_filter.mp hh).2

/-- Putting a header leaves the names distinct. -/
theorem Distinct.put (h : Distinct headers) (name value : String) :
    Distinct (put headers name value) :=
  Distinct.concat (List.Pairwise.filter _ h) has_filter value

/-! ## Supplying a header -/

/-- So does supplying one. -/
theorem Distinct.supply (h : Distinct headers) (name value : String) :
    Distinct (supply headers name value) := by
  rw [Headers.supply]
  split
  · exact h
  · next hmissing => exact h.concat (Bool.eq_false_iff.mpr hmissing) value

/-- What has been supplied is there, and so is all that was there before. -/
@[simp] theorem has_supply : has (supply headers name value) other = true ↔
    has headers other = true ∨ eqIgnoreCase name other = true := by
  rw [supply]
  split
  · next hpresent =>
    refine ⟨Or.inl, fun h => h.elim id fun hsame => ?_⟩
    rw [← has_congr hsame]
    exact hpresent
  · rw [has_concat, Bool.or_eq_true]

end Headers

/-! ## Headers of a request -/

/-- The headers of a source come out distinct. -/
theorem distinct_putSource (fields : List (String × String)) :
    Headers.Distinct (putSource fields) := by
  rw [putSource]
  have hfold : ∀ headers : Headers, headers.Distinct → Headers.Distinct
      (fields.foldl (fun headers field => Headers.put headers field.1 field.2) headers) := by
    induction fields with
    | nil => exact fun _ h => h
    | cons field fields ih => exact fun headers h => ih _ (h.put field.1 field.2)
  exact hfold [] List.Pairwise.nil

/-- Those of the options leave the names distinct. -/
theorem distinct_putOptions {headers : Headers} (h : headers.Distinct)
    (fields : List (String × Json)) : Headers.Distinct (putOptions headers fields).value := by
  induction fields generalizing headers with
  | nil => exact h
  | cons field fields ih =>
      obtain ⟨name, value⟩ := field
      rw [putOptions]
      split
      · exact ih (h.put name _)
      · exact ih h

/-- The headers that a source and options set have different names. -/
theorem distinct_givenHeaders (source : Source) (options : Options) :
    (givenHeaders source options).Distinct :=
  distinct_putOptions (distinct_putSource _) _

/-- The headers that every request has. -/
def defaultNames : List String := ["User-Agent", "Cache-Control", "Pragma"]

/-- So does a derived content type. -/
theorem distinct_supplyContentType {headers : Headers} (h : headers.Distinct)
    (charset body : Option String) :
    Headers.Distinct (supplyContentType charset body headers) := by
  cases body with
  | none => exact h
  | some body => exact h.supply _ _

/-- So do the defaults. -/
theorem distinct_supplyDefaults {headers : Headers} (h : headers.Distinct) (defaults : Defaults) :
    Headers.Distinct (supplyDefaults defaults headers) :=
  ((h.supply _ _).supply _ _).supply _ _

/-- The defaults add their names and keep all others. -/
theorem has_supplyDefaults {defaults : Defaults} {headers : Headers} {name : String} :
    Headers.has (supplyDefaults defaults headers) name = true ↔
      headers.has name = true ∨ ∃ other ∈ defaultNames, eqIgnoreCase other name = true := by
  simp only [supplyDefaults, Headers.has_supply, defaultNames, or_assoc, List.exists_mem_cons_iff,
    List.not_mem_nil, false_and, exists_false, or_false]

/-! ## Requests -/

/-- The parts of a request fit together. -/
structure WellFormed (r : Request) : Prop where
  distinct : r.headers.Distinct
  defaults : ∀ name ∈ defaultNames, r.headers.has name = true
  body_of_get : r.method = "GET" → r.body = none
  contentType : r.body.isSome = true → r.headers.has "Content-Type" = true

/-- A request that only gets something has no body. -/
@[simp] theorem bodyOf_get (body : Option Json) (encoded : Option (List Char)) :
    bodyOf "GET" body encoded = none := rfl

/-- Every request that is prepared is well formed. -/
theorem wellFormed_prepared (source : Source) (defaults : Defaults) (options : Options)
    (encoded : Option (List Char)) (url : Url) (method : String) :
    (prepared source defaults options encoded url method).WellFormed where
  distinct :=
    distinct_supplyDefaults (distinct_supplyContentType (distinct_givenHeaders _ _) _ _) _
  defaults name hname :=
    has_supplyDefaults.mpr (Or.inr ⟨name, hname, eqIgnoreCase_iff.mpr rfl⟩)
  body_of_get hget := by
    obtain rfl : method = "GET" := hget
    exact bodyOf_get options.body encoded
  contentType hbody := by
    obtain ⟨body, hbody⟩ := Option.isSome_iff_exists.mp hbody
    refine has_supplyDefaults.mpr (Or.inl ?_)
    change bodyOf method options.body encoded = some body at hbody
    rw [hbody, supplyContentType]
    exact Headers.has_supply.mpr (Or.inr (eqIgnoreCase_iff.mpr rfl))

/-- **Well-formed requests.**  The headers of every request, for a template or for a
link, have different names up to the case of ASCII letters; the default ones are
among them, and a content type where there is a body, which there is not with
GET. -/
theorem wellFormed_of_value (e : Evaluator) (source : Source) (defaults : Defaults) (query : Query)
    (text : String) {r : Request} (h : (build e source defaults query text).value = .ok r ∨
      (link source defaults text).value = .ok r) : r.WellFormed := by
  obtain ⟨target, options, encoded, hprepare⟩ :
      ∃ target options encoded, (prepare source defaults target options encoded).value = .ok r :=
    h.elim exists_of_value_build exists_of_value_link
  obtain ⟨url, method, -, rfl⟩ := exists_of_value_prepare hprepare
  exact wellFormed_prepared source defaults options encoded url method

theorem eq_ok_of_toOption {result : Except Failure Request} {r : Request}
    (h : result.toOption = some r) : result = .ok r := by
  cases result with
  | error f => cases h
  | ok s => rw [Option.some.inj h]

/-- A source that sets one header in two spellings. -/
def spelledSource : Source :=
  { url := "https://s.com", header := some "\x7b\"USER-AGENT\":\"x\",\"user-agent\":\"y\"\x7d" }

/-- A link whose options set it once more, and have a body. -/
def spelledLink : String :=
  "/s,\x7b\"method\":\"post\",\"headers\":\x7b\"User-agent\":7\x7d,\"body\":\x7b\"q\":1\x7d\x7d"

/-- Of three spellings the last is left, and the content type is supplied. -/
theorem wellFormed_spelledLink :
    ∃ r, (link spelledSource {} spelledLink).value = .ok r ∧ r.WellFormed ∧
      r.headers = [("User-agent", "7"), ("Content-Type", "application/json"),
        ("Cache-Control", "no-cache"), ("Pragma", "no-cache")] := by
  have hheaders : (link spelledSource {} spelledLink).value.toOption.map (·.headers) =
      some [("User-agent", "7"), ("Content-Type", "application/json"),
        ("Cache-Control", "no-cache"), ("Pragma", "no-cache")] := by
    decide +kernel
  obtain ⟨r, hr, hheaders⟩ := Option.map_eq_some_iff.mp hheaders
  have hvalue := eq_ok_of_toOption hr
  exact ⟨r, hvalue, wellFormed_of_value (fun _ _ => pure (.ok .empty)) _ _ {} _ (Or.inr hvalue),
    hheaders⟩

end Folio.Request
