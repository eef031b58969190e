import Folio.Proofs.Json.Reader
import Folio.Proofs.Rule.JsonSyntax
import Folio.Rule.Evaluation

/-!
# Folio.Proofs.Rule.JsonDetection

Texts that are taken for JSON.  An alternative that nothing marks as a JSON path
is one when it is applied to a text that looks like JSON.  Whether it does is
asked behind all the blanks in front of the text; the evaluation reads the text
from its beginning, where only the blanks of JSON are passed over.  The two
agree unless another blank stands there (`isSome_parse?_iff`), and it is
exactly then that an alternative fails because its text is no JSON
(`notJson_iff_hasStrayBlank`).
-/

namespace Folio

open Folio.Text

/-! ## Blanks in front of a text -/

namespace Text

/-- Blank characters are the controls below 33 or lie beyond ASCII. -/
theorem toNat_of_isBlank {c : Char} (h : isBlank c = true) : c.toNat ≤ 32 ∨ 133 ≤ c.toNat := by
  simp only [isBlank, Bool.or_eq_true, Bool.and_eq_true, decide_eq_true_eq, beq_iff_eq] at h
  omega

end Text

namespace Json

/-- A blank that JSON does not know begins no token. -/
theorem scanBlank_of_isBlank {c : Char} (h : isBlank c = true) (hspace : isSpace c = false)
    (done : List Token) : scanBlank done c = none := by
  have hrange := toNat_of_isBlank h
  have hne {d : Char} (hd : 32 < d.toNat ∧ d.toNat < 133) : c ≠ d := by
    rintro rfl
    omega
  have hbetween (least most : Char) (hleast : 32 < least.toNat) (hmost : most.toNat < 133) :
      ¬(least ≤ c ∧ c ≤ most) := by
    rintro ⟨hle, hge⟩
    have hle' : least.toNat ≤ c.toNat := hle
    have hge' : c.toNat ≤ most.toNat := hge
    omega
  have hspaces : ¬(c = ' ' ∨ c = '\n' ∨ c = '\r' ∨ c = '\t') := by
    simpa [isSpace, and_assoc] using hspace
  have hdigit : ¬isAsciiDigit c = true := by
    simpa [isAsciiDigit] using hbetween '0' '9' (by decide) (by decide)
  have hword : ¬isWordChar c = true := by
    simpa [isWordChar] using hbetween 'a' 'z' (by decide) (by decide)
  have hmark : markToken? c = none := by
    unfold markToken?
    split
    case h_7 => rfl
    all_goals exact absurd rfl (hne (by decide))
  have hquote : c ≠ '"' := hne (by decide)
  have hminus : c ≠ '-' := hne (by decide)
  simp [scanBlank, hspaces, hquote, hminus, hdigit, hword, hmark]

/-- A scan does not get past such a blank. -/
theorem scan_of_isBlank {s : List Char} (h : ∃ c ∈ s.takeWhile isBlank, isSpace c = false) :
    scan [] .blank s = none := by
  induction s with
  | nil => simp at h
  | cons d s ih =>
      obtain ⟨c, hc, hspace⟩ := h
      by_cases hd : isBlank d = true
      · rw [List.takeWhile_cons_of_pos hd] at hc
        cases hown : isSpace d with
        | false =>
            have hstep : scanChar [] d .blank = none := scanBlank_of_isBlank hd hown []
            rw [scan, hstep]
        | true =>
            have hspaces : ∀ b ∈ [d], isSpace b = true := List.forall_mem_singleton.mpr hown
            have hrest : c ∈ s.takeWhile isBlank := by
              rcases List.mem_cons.mp hc with rfl | hrest
              · rw [hown] at hspace
                contradiction
              · exact hrest
            exact (scan_blanks_append hspaces s).trans (ih ⟨c, hrest, hspace⟩)
      · rw [List.takeWhile_cons_of_neg hd] at hc
        contradiction

end Json

namespace Rule

open Json

/-- Among the blanks in front of the text is one that JSON does not know. -/
def HasStrayBlank (content : String) : Prop :=
  ∃ c ∈ content.toList.takeWhile isBlank, isSpace c = false

instance (content : String) : Decidable (HasStrayBlank content) :=
  List.decidableBEx (isSpace · = false) (content.toList.takeWhile isBlank)

/-- **Detection and reading.**  What looks like JSON is read as JSON unless a blank
that JSON does not know stands in front of it. -/
theorem isSome_parse?_iff {content : String} (h : looksLikeJson content = true) :
    (parse? content).isSome ↔ ¬HasStrayBlank content := by
  constructor
  · rintro hread hstray
    have hnone : parse? content = none := by
      rw [parse?, Form.read?, tokens?, scan_of_isBlank hstray]
      rfl
    rw [hnone] at hread
    contradiction
  · intro hstray
    have hspaces : ∀ b ∈ content.toList.takeWhile isBlank, isSpace b = true := by
      intro b hb
      by_contra hspace
      exact hstray ⟨b, hb, Bool.eq_false_iff.mpr hspace⟩
    have hsplit : content =
        String.ofList (content.toList.takeWhile isBlank ++ trimStart content.toList) := by
      rw [trimStart, List.takeWhile_append_dropWhile, String.ofList_toList]
    simp only [looksLikeJson, Bool.and_eq_true] at h
    rw [hsplit, parse?_append_blanks hspaces]
    exact h.2

/-- A content is read as what it parses as. -/
@[simp] theorem readJson_eq_ok_iff {content : String} {v : Json} :
    readJson content = .ok v ↔ parse? content = some v := by
  rw [readJson]
  cases parse? content with
  | none => simp
  | some w => simp

/-- Otherwise it is reported to be no JSON. -/
theorem readJson_eq_error_iff {content : String} {f : JsonFailure} :
    readJson content = .error f ↔ parse? content = none ∧ f = .notJson := by
  rw [readJson]
  cases parse? content with
  | none => simp [eq_comm]
  | some v => simp

/-! ## Failures of a path -/

/-- A selector in brackets is never reported so. -/
theorem bracketSelector_ne_notJson (path inner : List Char) :
    bracketSelector path inner ≠ .error .notJson := by
  intro h
  unfold bracketSelector at h
  split at h
  · cases h
  · split at h
    · cases h
    · split at h
      · cases h
      · split at h <;> cases h

/-- Nor are other selectors. -/
theorem readSelectors_ne_notJson (path s : List Char) :
    readSelectors path s ≠ .error .notJson := by
  intro h
  fun_induction readSelectors path s
  case case3 after key hkey f hrest ih =>
    cases h
    exact ih hrest
  case case6 after _ key hkey f hrest ih =>
    cases h
    exact ih hrest
  case case9 after inner mark afterwards hdrop f hselector =>
    cases h
    exact bracketSelector_ne_notJson path _ hselector
  case case10 after inner mark afterwards hdrop selector hselector f hrest ih =>
    cases h
    exact ih hrest
  -- in the other cases the path is read, or what is wrong stands in it
  all_goals cases h

/-- What is wrong with a path does not hang on the text that it is applied to. -/
theorem queryJson_ne_notJson (v : Json) (path : String) : queryJson v path ≠ .error .notJson := by
  have hread : readJsonPath path.toList ≠ .error .notJson := by
    intro h
    unfold readJsonPath at h
    dsimp only at h
    split at h
    · cases h
    · split at h
      · exact readSelectors_ne_notJson _ _ h
      · split at h
        · next f hf =>
          cases h
          exact readSelectors_ne_notJson _ _ hf
        · cases h
  intro h
  rw [queryJson] at h
  cases hpath : readJsonPath path.toList with
  | error f =>
      rw [hpath] at h
      cases h
      exact hread hpath
  | ok selectors =>
      rw [hpath] at h
      cases h

/-! ## Alternatives -/

theorem bind_eq_error_iff {ε α β : Type} {x : Except ε α} {f : α → Except ε β} {e : ε} :
    x >>= f = .error e ↔ x = .error e ∨ ∃ a, x = .ok a ∧ f a = .error e := by
  cases x with
  | error failure => simp [bind, Except.bind]
  | ok a => simp [bind, Except.bind]

@[simp] theorem mapError_json_eq_error_iff {α : Type} {x : Except JsonFailure α} {f : JsonFailure} :
    x.mapError Failure.json = .error (.json f) ↔ x = .error f := by
  cases x with
  | error g => simp [Except.mapError]
  | ok a => simp [Except.mapError]

/-- Whatever is made of the values that a path finds, it is no JSON that fails exactly when
the text is not read. -/
theorem found_eq_notJson_iff {α : Type} (content path : String) (make : List Json → α) :
    (do let document ← (readJson content).mapError Failure.json
        let values ← (queryJson document path).mapError Failure.json
        return make values) = Except.error (Failure.json .notJson) ↔ parse? content = none := by
  rw [bind_eq_error_iff, mapError_json_eq_error_iff, readJson_eq_error_iff]
  constructor
  · rintro (⟨hnone, -⟩ | ⟨v, -, hmake⟩)
    · exact hnone
    · rcases bind_eq_error_iff.mp hmake with hquery | ⟨values, -, hpure⟩
      · exact absurd (mapError_json_eq_error_iff.mp hquery) (queryJson_ne_notJson v path)
      · cases hpure
  · exact fun hnone => Or.inl ⟨hnone, rfl⟩

/-- A path finds no JSON exactly when the content is none. -/
theorem jsonTexts_eq_notJson_iff (content path : String) :
    jsonTexts (.text content) path = .error (.json .notJson) ↔ parse? content = none :=
  found_eq_notJson_iff content path _

/-- So it is where subjects are looked for. -/
theorem jsonSubjects_eq_notJson_iff (content path : String) :
    jsonSubjects (.text content) path = .error (.json .notJson) ↔ parse? content = none :=
  found_eq_notJson_iff content path _

/-- The affix of an alternative fails for its pattern alone. -/
theorem Alternative.rewrite_ne_notJson (a : Alternative) (values : List String) :
    a.rewrite values ≠ .error (.json .notJson) := by
  intro h
  unfold Alternative.rewrite Affix.rewrite at h
  split at h
  · cases h
  · split at h
    · cases h
    · split at h <;> cases h

/-- An alternative finds no JSON exactly when the content is none. -/
theorem Alternative.texts_eq_notJson_iff {a : Alternative} {content : String}
    (hjson : a.dialectFor (.text content) = .json) (base : String) (r : Render) :
    a.texts (.text content) base r = .error (.json .notJson) ↔ parse? content = none := by
  rw [Alternative.texts, hjson, ← jsonTexts_eq_notJson_iff content a.body, bind_eq_error_iff]
  constructor
  · rintro (hread | ⟨values, -, hrest⟩)
    · exact hread
    · rcases bind_eq_error_iff.mp hrest with hrewrite | ⟨rewritten, -, hpure⟩
      · exact absurd hrewrite (a.rewrite_ne_notJson values)
      · cases hpure
  · exact Or.inl

/-- So it is where elements are looked for. -/
theorem Alternative.elements_eq_notJson_iff {a : Alternative} {s : Subject} {content : String}
    (hrewritten : a.rewriteSubject s = .ok (.text content))
    (hjson : a.dialectFor (.text content) = .json) :
    a.elements s = .error (.json .notJson) ↔ parse? content = none := by
  have helements : a.elements s = jsonSubjects (.text content) a.body := by
    rw [Alternative.elements, hrewritten]
    simp only [bind, Except.bind, hjson]
  rw [helements, jsonSubjects_eq_notJson_iff]

/-- An alternative that is no JSON path as it is written becomes one on a text that looks
like JSON. -/
theorem Alternative.looksLikeJson_of_dialectFor {a : Alternative} {content : String}
    (hcascade : a.dialect = .structural) (hjson : a.dialectFor (.text content) = .json) :
    looksLikeJson content = true := by
  rw [Alternative.dialectFor] at hjson
  split at hjson
  · rw [hcascade] at hjson
    contradiction
  · by_contra hlooks
    rw [if_neg hlooks] at hjson
    contradiction

/-- **The dialect and the evaluation.**  An alternative that is taken for a JSON path
because its text looks like JSON finds that the text is JSON, unless a blank that
JSON does not know stands in front of it.  Exactly then it fails because the text
is none, where it extracts texts and where it selects subjects from the text that
its affix has left. -/
theorem notJson_iff_hasStrayBlank {a : Alternative} {content : String}
    (hcascade : a.dialect = .structural) (hjson : a.dialectFor (.text content) = .json) :
    ((∃ v, readJson content = .ok v) ↔ ¬HasStrayBlank content) ∧
      (∀ base r, a.texts (.text content) base r = .error (.json .notJson) ↔
        HasStrayBlank content) ∧
      ∀ s, a.rewriteSubject s = .ok (.text content) →
        (a.elements s = .error (.json .notJson) ↔ HasStrayBlank content) := by
  have hlooks := a.looksLikeJson_of_dialectFor hcascade hjson
  have hread : (∃ v, readJson content = .ok v) ↔ ¬HasStrayBlank content := by
    simp only [← isSome_parse?_iff hlooks, readJson_eq_ok_iff, Option.isSome_iff_exists]
  have hnone : parse? content = none ↔ HasStrayBlank content := by
    rw [← not_iff_not, ← isSome_parse?_iff hlooks, Option.isSome_iff_ne_none]
  refine ⟨hread, fun base r => ?_, fun s hrewritten => ?_⟩
  · rw [Alternative.texts_eq_notJson_iff hjson, hnone]
  · rw [Alternative.elements_eq_notJson_iff hrewritten hjson, hnone]

/-- A page that is an object, behind blanks of JSON. -/
def indentedPage : String := "\n\t \x7b\"a\":\"x\"\x7d"

/-- The same page behind a no-break space. -/
def shiftedPage : String := "\u00a0\x7b\"a\":\"x\"\x7d"

/-- The path of a member, without the mark of the root. -/
def memberAlternative : Alternative := ⟨.structural, false, "a", none⟩

/-- Blanks of JSON are no obstacle. -/
theorem notJson_iff_hasStrayBlank_indentedPage :
    memberAlternative.dialect = .structural ∧
      memberAlternative.dialectFor (.text indentedPage) = .json ∧
      (∃ v, readJson indentedPage = .ok v) ∧
      ∀ base r, memberAlternative.texts (.text indentedPage) base r ≠ .error (.json .notJson) := by
  have hjson : memberAlternative.dialectFor (.text indentedPage) = .json := by decide +kernel
  have hblanks : ¬HasStrayBlank indentedPage := by decide +kernel
  obtain ⟨hread, htexts, -⟩ := notJson_iff_hasStrayBlank rfl hjson
  exact ⟨rfl, hjson, hread.mpr hblanks, fun base r hfails => hblanks ((htexts base r).mp hfails)⟩

/-- A no-break space in front of it is one: the page looks like JSON and is not read, and
the member that stands in it is not found. -/
theorem not_readJson_shiftedPage :
    readAlternatives "a".toList = [memberAlternative] ∧
      memberAlternative.dialectFor (.text shiftedPage) = .json ∧
      readJson shiftedPage = .error .notJson ∧
      (texts (fun _ _ => pure (.ok .empty)) "" (.text shiftedPage) "a").value = [] ∧
      (texts (fun _ _ => pure (.ok .empty)) "" (.text shiftedPage) "a").events =
        [.ruleFailed (.json .notJson) "a"] := by
  have hstray : HasStrayBlank shiftedPage := by decide +kernel
  have hlooks : looksLikeJson shiftedPage = true := by decide +kernel
  have hunread : parse? shiftedPage = none := by
    rw [← Option.not_isSome_iff_eq_none, isSome_parse?_iff hlooks, not_not]
    exact hstray
  exact ⟨by decide +kernel, by decide +kernel, readJson_eq_error_iff.mpr ⟨hunread, rfl⟩,
    by decide +kernel, by decide +kernel⟩

end Rule

end Folio
