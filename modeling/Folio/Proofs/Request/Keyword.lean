import Folio.Proofs.Request.Header
import Mathlib.Data.List.Forall2

/-!
# Folio.Proofs.Request.Keyword

The keyword cannot change the shape of a request.  A template without scripts is
split into target and options before the keyword is filled in, so that these are
the same for every keyword; whether a keyword can be encoded is told by the
charset alone (`value_build_cases`).  What the keyword is filled into is the
target and the body, and a content type is derived from the body where none is
given: there, and nowhere else, two requests may differ (`sameShape_build`).
-/

namespace Folio.Request

open Folio.Text Folio.Script

/-! ## Encoding -/

/-- Whether a keyword can be encoded does not depend on the keyword. -/
theorem value_encodeKeyword_cases (label : Option String) :
    (∃ name, ∀ keyword, (encodeKeyword keyword label).value = .error (.charset name)) ∨
      ∀ keyword, ∃ encoded, (encodeKeyword keyword label).value = .ok encoded := by
  simp only [encodeKeyword]
  cases Charset.forLabel? (label.getD "utf-8").toList with
  | none => exact Or.inl ⟨label.getD "utf-8", fun _ => rfl⟩
  | some charset =>
      refine Or.inr fun keyword => ?_
      unfold encodeIn
      split
      · contradiction
      · exact ⟨_, rfl⟩
      · dsimp only
        split
        · exact ⟨_, rfl⟩
        · exact ⟨_, rfl⟩

/-! ## Templates without scripts -/

/-- What a template is when everything but the keyword has been filled in. -/
def filledTemplate (source : Source) (page : Nat) (template : String) : List Char :=
  fillIn source.url (max 1 page) (trim template.toList)

/-- The options of a template. -/
def templateOptions (source : Source) (page : Nat) (template : String) : Except Failure Options :=
  readOptions (splitOptions (filledTemplate source page template)).2

section Template

variable (e : Evaluator) (source : Source) (defaults : Defaults) (page : Nat) {template : String}
  (hscript : Envelope.find? false template.toList = none)
include hscript

theorem value_build (keyword : String) (hne : trim template.toList ≠ []) :
    (build e source defaults ⟨some keyword, page⟩ template).value =
      (ofTemplate source defaults ⟨some keyword, max 1 page⟩
        (filledTemplate source page template)).value := by
  have htrim : Envelope.find? false (trim template.toList) = none :=
    Envelope.find?_eq_none_of_isInfix hscript (trim_isInfix _)
  have hfilled : ¬(trim template.toList).isEmpty = true := by simpa using hne
  rw [build]
  dsimp only
  rw [if_neg hfilled, scriptLimit, runScripts, htrim]
  rfl

/-- A template fails for every keyword or for none before the target and the
method are looked at. -/
theorem value_build_cases :
    (∃ f, ∀ keyword, (build e source defaults ⟨some keyword, page⟩ template).value = .error f) ∨
      ∃ options, templateOptions source page template = .ok options ∧
        ∀ keyword, ∃ target encoded,
          (build e source defaults ⟨some keyword, page⟩ template).value =
            (prepare source defaults target options (some encoded)).value := by
  by_cases hne : trim template.toList = []
  · refine Or.inl ⟨.emptyTemplate, fun keyword => ?_⟩
    rw [build]
    dsimp only
    rw [if_pos (by simp [hne])]
    rfl
  · simp only [value_build e source defaults page hscript _ hne, ofTemplate, templateOptions]
    cases readOptions (splitOptions (filledTemplate source page template)).2 with
    | error f => exact Or.inl ⟨f, fun _ => rfl⟩
    | ok options =>
        simp only [encodedKeyword, Traced.value_bind]
        rcases value_encodeKeyword_cases options.declaredCharset with ⟨name, hfail⟩ | hencode
        · refine Or.inl ⟨.charset name, fun keyword => ?_⟩
          rw [hfail keyword]
          rfl
        · refine Or.inr ⟨options, rfl, fun keyword => ?_⟩
          obtain ⟨encoded, hencoded⟩ := hencode keyword
          rw [hencoded]
          exact ⟨_, _, rfl⟩

end Template

/-- The failure is one of the options or of the charset of a template. -/
def Failure.IsOfTemplate (f : Failure) : Prop := f = .options ∨ ∃ label, f = .charset label

/-- Such a failure comes before a request is prepared. -/
theorem Failure.IsOfTemplate.value_prepare_ne {f : Failure} (hf : f.IsOfTemplate)
    {source : Source} {defaults : Defaults} {target : List Char} {options : Options}
    {encoded : Option (List Char)} :
    (prepare source defaults target options encoded).value ≠ .error f := by
  intro h
  rcases exists_of_value_prepare_error h with ⟨text, reason, rfl⟩ | ⟨method, rfl⟩
  · rcases hf with hf | ⟨label, hf⟩ <;> cases hf
  · rcases hf with hf | ⟨label, hf⟩ <;> cases hf

/-! ## Shapes -/

/-- Headers of one name and value, or content types where none is given. -/
def SameHeader (given : Headers) (h g : String × String) : Prop :=
  h.1 = g.1 ∧ (h.2 = g.2 ∨ h.1 = "Content-Type" ∧ given.has "Content-Type" = false)

/-- Requests of one shape, where `given` are the headers that the source and the
options set.  Only a content type that is not among these may differ. -/
structure SameShape (given : Headers) (r s : Request) : Prop where
  method : r.method = s.method
  charset : r.charset = s.charset
  timeout : r.timeout = s.timeout
  headers : List.Forall₂ (SameHeader given) r.headers s.headers
  body : r.body.isSome = s.body.isSome

section Headers

variable {given headers others : Headers}

theorem sameHeader_refl (headers : Headers) : List.Forall₂ (SameHeader given) headers headers :=
  List.forall₂_same.mpr fun _ _ => ⟨rfl, Or.inl rfl⟩

/-- Headers that have their names in common have the same names. -/
theorem has_eq_of_sameHeader (h : List.Forall₂ (SameHeader given) headers others) (name : String) :
    headers.has name = others.has name := by
  induction h with
  | nil => rfl
  | cons hhead _ ih =>
      simp only [Headers.has, List.any_cons] at ih ⊢
      rw [hhead.1, ih]

theorem sameHeader_supply (h : List.Forall₂ (SameHeader given) headers others)
    (name value : String) :
    List.Forall₂ (SameHeader given) (headers.supply name value) (others.supply name value) := by
  rw [Headers.supply, Headers.supply, has_eq_of_sameHeader h]
  split
  · exact h
  · exact List.rel_append h (sameHeader_refl [(name, value)])

theorem sameHeader_supplyDefaults (h : List.Forall₂ (SameHeader given) headers others)
    (defaults : Defaults) :
    List.Forall₂ (SameHeader given) (supplyDefaults defaults headers)
      (supplyDefaults defaults others) :=
  sameHeader_supply (sameHeader_supply (sameHeader_supply h _ _) _ _) _ _

/-- Bodies that differ may have different content types. -/
theorem sameHeader_supplyContentType (charset : Option String) {body other : Option String}
    (hbody : body.isSome = other.isSome) :
    List.Forall₂ (SameHeader given) (supplyContentType charset body given)
      (supplyContentType charset other given) := by
  cases body with
  | none =>
      obtain rfl : other = none := by simpa using hbody.symm
      exact sameHeader_refl given
  | some body =>
      obtain ⟨other, rfl⟩ := Option.isSome_iff_exists.mp hbody.symm
      rw [supplyContentType, supplyContentType, Headers.supply, Headers.supply]
      split
      · exact sameHeader_refl given
      · next hgiven =>
        refine List.rel_append (sameHeader_refl given) (.cons ⟨rfl, Or.inr ⟨rfl, ?_⟩⟩ .nil)
        exact Bool.eq_false_iff.mpr hgiven

end Headers

/-- Whether there is a body is told by the method and the options. -/
@[simp] theorem isSome_bodyOf (method : String) (body : Option Json)
    (encoded : Option (List Char)) :
    (bodyOf method body encoded).isSome = (method != "GET" && body.isSome) := by
  rw [bodyOf]
  cases hget : method == "GET" with
  | true => simp [bne, hget]
  | false => simp [bne, hget]

theorem sameShape_prepared (source : Source) (defaults : Defaults) (options : Options)
    (encoded other : Option (List Char)) (url location : Url) (method : String) :
    SameShape (givenHeaders source options) (prepared source defaults options encoded url method)
      (prepared source defaults options other location method) where
  method := rfl
  charset := rfl
  timeout := rfl
  headers := by
    refine sameHeader_supplyDefaults (sameHeader_supplyContentType _ ?_) defaults
    rw [isSome_bodyOf, isSome_bodyOf]
  body := by
    change (bodyOf _ _ _).isSome = (bodyOf _ _ _).isSome
    rw [isSome_bodyOf, isSome_bodyOf]

/-- **Keywords and shapes.**  Where a template holds no script, the requests for two
keywords have the same method, charset and timeout, the same headers in the same
order but for a content type that is derived from the body, and both a body or
neither; and a failure of the options or of the charset is one for both. -/
theorem sameShape_build (e : Evaluator) (source : Source) (defaults : Defaults) (page : Nat)
    {template : String} (hscript : Envelope.find? false template.toList = none)
    (first second : String) :
    (∀ r s, (build e source defaults ⟨some first, page⟩ template).value = .ok r →
      (build e source defaults ⟨some second, page⟩ template).value = .ok s →
      ∃ options, templateOptions source page template = .ok options ∧
        SameShape (givenHeaders source options) r s) ∧
    ∀ f : Failure, f.IsOfTemplate →
      ((build e source defaults ⟨some first, page⟩ template).value = .error f ↔
        (build e source defaults ⟨some second, page⟩ template).value = .error f) := by
  rcases value_build_cases e source defaults page hscript with ⟨g, hfail⟩ | ⟨options, hoptions, h⟩
  · rw [hfail first, hfail second]
    exact ⟨fun r s hr => (nomatch hr), fun f _ => Iff.rfl⟩
  · obtain ⟨target, encoded, hfirst⟩ := h first
    obtain ⟨location, other, hsecond⟩ := h second
    rw [hfirst, hsecond]
    constructor
    · intro r s hr hs
      obtain ⟨url, method, hmethod, rfl⟩ := exists_of_value_prepare hr
      obtain ⟨address, name, hname, rfl⟩ := exists_of_value_prepare hs
      obtain rfl : method = name := Except.ok.inj (hmethod.symm.trans hname)
      exact ⟨options, hoptions, sameShape_prepared _ _ _ _ _ _ _ _⟩
    · intro f hf
      exact iff_of_false hf.value_prepare_ne hf.value_prepare_ne

/-- A template whose body is an object for some keywords. -/
def objectTemplate : String :=
  "/s,\x7b\"method\":\"POST\",\"body\":\"\x7b\\\"q\\\":\x7b\x7bkey\x7d\x7d\x7d\"\x7d"

/-- The request for it with a keyword. -/
def objectRequest (keyword : String) : Except Failure Request :=
  (build (fun _ _ => pure (.ok .empty)) spelledSource {} ⟨some keyword, 1⟩ objectTemplate).value

/-- The keyword `1` makes an object, and `x` does not: the content types differ. -/
theorem sameShape_objectRequest :
    Envelope.find? false objectTemplate.toList = none ∧
    ∃ r s options, objectRequest "1" = .ok r ∧ objectRequest "x" = .ok s ∧
      SameShape (givenHeaders spelledSource options) r s ∧
      r.headers.value? "Content-Type" = some "application/json" ∧
      s.headers.value? "Content-Type" =
        some "application/x-www-form-urlencoded; charset=utf-8" := by
  have hscript : Envelope.find? false objectTemplate.toList = none := by decide +kernel
  have hobject : (objectRequest "1").toOption.map (·.headers.value? "Content-Type") =
      some (some "application/json") := by decide +kernel
  have hform : (objectRequest "x").toOption.map (·.headers.value? "Content-Type") =
      some (some "application/x-www-form-urlencoded; charset=utf-8") := by decide +kernel
  obtain ⟨r, hr, hobject⟩ := Option.map_eq_some_iff.mp hobject
  obtain ⟨s, hs, hform⟩ := Option.map_eq_some_iff.mp hform
  obtain ⟨hshape, -⟩ := sameShape_build (fun _ _ => pure (.ok .empty)) spelledSource {} 1 hscript
    "1" "x"
  obtain ⟨options, -, hshape⟩ := hshape r s (eq_ok_of_toOption hr) (eq_ok_of_toOption hs)
  exact ⟨hscript, r, s, options, eq_ok_of_toOption hr, eq_ok_of_toOption hs, hshape, hobject, hform⟩

end Folio.Request
