import Folio.Proofs.Script.Envelope
import Folio.Request.Basic

/-!
# Folio.Proofs.Request.Basic

What a request is made of.  A request is determined by its target, its options
and the encoded keyword (`value_prepare`), whether it is made for a template or for a
link.
-/

namespace Folio.Request

open Folio.Text Folio.Script

/-! ## Prepared requests -/

/-- The headers that a source and options set. -/
def givenHeaders (source : Source) (options : Options) : Headers :=
  (putOptions (putSource source.headers.value) options.headers).value

/-- The request for a URL and a method. -/
def prepared (source : Source) (defaults : Defaults) (options : Options)
    (encoded : Option (List Char)) (url : Url) (method : String) : Request :=
  let body := bodyOf method options.body encoded
  let headers := supplyContentType options.declaredCharset body (givenHeaders source options)
  { method, url, headers := supplyDefaults defaults headers, body,
    charset := options.declaredCharset, timeout := defaults.timeout }

/-- A target that is no URL fails before a method that is none. -/
theorem value_prepare (source : Source) (defaults : Defaults) (target : List Char)
    (options : Options) (encoded : Option (List Char)) :
    (prepare source defaults target options encoded).value =
      (resolve source.url target).bind fun url =>
        (methodOf options.method).map (prepared source defaults options encoded url) := by
  rw [prepare]
  cases resolve source.url target with
  | error f => rfl
  | ok url =>
      cases methodOf options.method with
      | error f => rfl
      | ok method => rfl

theorem exists_of_value_prepare {source : Source} {defaults : Defaults} {target : List Char}
    {options : Options} {encoded : Option (List Char)} {r : Request}
    (h : (prepare source defaults target options encoded).value = .ok r) :
    ∃ url method, methodOf options.method = .ok method ∧
      r = prepared source defaults options encoded url method := by
  rw [value_prepare] at h
  cases hurl : resolve source.url target with
  | error f =>
      rw [hurl] at h
      cases h
  | ok url =>
      cases hmethod : methodOf options.method with
      | error f =>
          rw [hurl, hmethod] at h
          cases h
      | ok method =>
          rw [hurl, hmethod] at h
          cases h
          exact ⟨url, method, rfl, rfl⟩

theorem exists_of_resolve_error {baseUrl : String} {target : List Char} {f : Failure}
    (h : resolve baseUrl target = .error f) : ∃ text reason, f = .invalidUrl text reason := by
  simp only [resolve, Except.mapError] at h
  split at h
  · cases h
    exact ⟨_, _, rfl⟩
  · cases h

theorem exists_of_methodOf_error {name : Option String} {f : Failure}
    (h : methodOf name = .error f) : ∃ method, f = .method method := by
  simp only [methodOf] at h
  split at h
  · cases h
  · split at h
    · cases h
    · cases h
      exact ⟨_, rfl⟩

/-- What can fail once the options have been read: the target and the method. -/
theorem exists_of_value_prepare_error {source : Source} {defaults : Defaults} {target : List Char}
    {options : Options} {encoded : Option (List Char)} {f : Failure}
    (h : (prepare source defaults target options encoded).value = .error f) :
    (∃ text reason, f = .invalidUrl text reason) ∨ ∃ method, f = .method method := by
  rw [value_prepare] at h
  cases hurl : resolve source.url target with
  | error g =>
      rw [hurl] at h
      obtain rfl : g = f := Except.error.inj h
      exact Or.inl (exists_of_resolve_error hurl)
  | ok url =>
      cases hmethod : methodOf options.method with
      | error g =>
          rw [hurl, hmethod] at h
          obtain rfl : g = f := Except.error.inj h
          exact Or.inr (exists_of_methodOf_error hmethod)
      | ok method =>
          rw [hurl, hmethod] at h
          cases h

/-! ## Templates -/

/-- The text of a template with everything filled in but the keyword. -/
def filledText (e : Evaluator) (source : Source) (query : Query) (template : String) : List Char :=
  let query := { query with page := max 1 query.page }
  let text := (runScripts e source.url query scriptLimit (trim template.toList)).value
  fillIn source.url query.page text

/-- The request for a template is one for a target, the options of its text and an encoded
keyword. -/
theorem exists_of_value_ofTemplate {source : Source} {defaults : Defaults} {query : Query}
    {text : List Char} {r : Request} (h : (ofTemplate source defaults query text).value = .ok r) :
    ∃ target options encoded, readOptions (splitOptions text).2 = .ok options ∧
      (prepare source defaults target options (some encoded)).value = .ok r := by
  rw [ofTemplate] at h
  dsimp only at h
  split at h
  · cases h
  · next options hoptions =>
    rw [Traced.value_bind] at h
    split at h
    · cases h
    · exact ⟨_, options, _, hoptions, h⟩

theorem exists_options_of_value_build {e : Evaluator} {source : Source} {defaults : Defaults}
    {query : Query} {template : String} {r : Request}
    (h : (build e source defaults query template).value = .ok r) :
    ∃ target options encoded,
      readOptions (splitOptions (filledText e source query template)).2 = .ok options ∧
      (prepare source defaults target options (some encoded)).value = .ok r := by
  rw [build] at h
  dsimp only at h
  split at h
  · cases h
  · exact exists_of_value_ofTemplate h

theorem exists_of_value_build {e : Evaluator} {source : Source} {defaults : Defaults}
    {query : Query} {template : String} {r : Request}
    (h : (build e source defaults query template).value = .ok r) :
    ∃ target options encoded,
      (prepare source defaults target options encoded).value = .ok r := by
  obtain ⟨target, options, encoded, -, h⟩ := exists_options_of_value_build h
  exact ⟨target, options, some encoded, h⟩

/-! ## Links -/

section Link

variable {source : Source} {defaults : Defaults} {text : String}

theorem value_link_of_blank (h : trim text.toList = []) :
    (link source defaults text).value = .error .emptyTemplate := by
  rw [link, h]
  rfl

theorem value_link (h : trim text.toList ≠ []) :
    (link source defaults text).value = (prepare source defaults (splitLink (trim text.toList)).1
      (splitLink (trim text.toList)).2 none).value := by
  have hne : (trim text.toList).isEmpty = false := List.isEmpty_eq_false_iff.mpr h
  rw [link, hne]
  rfl

theorem value_prepare_of_value_link {r : Request} (h : (link source defaults text).value = .ok r) :
    (prepare source defaults (splitLink (trim text.toList)).1 (splitLink (trim text.toList)).2
      none).value = .ok r := by
  by_cases hblank : trim text.toList = []
  · rw [value_link_of_blank hblank] at h
    cases h
  · rwa [value_link hblank] at h

theorem exists_of_value_link {r : Request} (h : (link source defaults text).value = .ok r) :
    ∃ target options encoded,
      (prepare source defaults target options encoded).value = .ok r :=
  ⟨_, _, none, value_prepare_of_value_link h⟩

end Link

end Folio.Request
