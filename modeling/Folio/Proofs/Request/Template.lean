import Folio.Proofs.Script.Envelope
import Folio.Proofs.Script.Evaluation
import Folio.Request.Basic

/-!
# Folio.Proofs.Request.Template

The scripts of a template.  A pass over a template runs its first script and
puts what this writes in its place.  What a pass leaves of the template stands
at its end, so that a later script comes from the template unless some pass has
written the mark that opens one.
-/

namespace Folio.Request

open Folio.Text Folio.Script

section NoScripts

variable {e : Evaluator} {P : String → Prop}

/-! ## Requests without scripts -/

/-- Headers run no script. -/
theorem runsOnly_headers (source : Source) : source.headers.RunsOnly e P := by
  rw [Source.headers]
  split
  · exact .pure _
  · split
    · exact .pure _
    · exact (Traced.RunsOnly.emit rfl).bind (.pure _)

theorem runsOnly_putOptions (headers : Headers) (fields : List (String × Json)) :
    (putOptions headers fields).RunsOnly e P := by
  induction fields generalizing headers with
  | nil => exact .pure headers
  | cons field fields ih =>
      obtain ⟨name, value⟩ := field
      rw [putOptions]
      split
      · exact ih _
      · exact (Traced.RunsOnly.emit rfl).bind (ih headers)

/-- Preparing a request runs no script. -/
theorem runsOnly_prepare (source : Source) (defaults : Defaults) (target : List Char)
    (options : Options) (encoded : Option (List Char)) :
    (prepare source defaults target options encoded).RunsOnly e P := by
  rw [prepare]
  split
  · exact .pure _
  · exact .pure _
  · exact (runsOnly_headers source).bind ((runsOnly_putOptions _ _).bind (.pure _))

theorem runsOnly_encodeIn (keyword label : String) (charset : Option Charset) :
    (encodeIn keyword label charset).RunsOnly e P := by
  unfold encodeIn
  split
  · exact .pure _
  · exact .pure _
  · dsimp only
    split
    · exact (Traced.RunsOnly.emit rfl).bind (.pure _)
    · exact .pure _

/-- Encoding a keyword runs no script. -/
theorem runsOnly_encodeKeyword (keyword : String) (label : Option String) :
    (encodeKeyword keyword label).RunsOnly e P := by
  rw [encodeKeyword]
  exact runsOnly_encodeIn _ _ _

/-- Reading a template without scripts runs none. -/
theorem runsOnly_ofTemplate (source : Source) (defaults : Defaults) (query : Query)
    (text : List Char) : (ofTemplate source defaults query text).RunsOnly e P := by
  rw [ofTemplate]
  dsimp only
  split
  · exact .pure _
  · next options _ =>
    have hkeyword : (encodedKeyword query options.declaredCharset).RunsOnly e P := by
      rw [encodedKeyword]
      split
      · exact runsOnly_encodeKeyword _ _
      · exact .pure _
    refine hkeyword.bind ?_
    split
    · exact .pure _
    · exact runsOnly_prepare _ _ _ _ _

/-- The request for a link runs no script. -/
theorem runsOnly_link (source : Source) (defaults : Defaults) (target : String) :
    (link source defaults target).RunsOnly e P := by
  rw [link]
  split
  · exact .pure _
  · exact runsOnly_prepare _ _ _ _ _

end NoScripts

/-! ## Passes -/

/-- A pass over a template: the envelope it found first, and what the script in
it gave. -/
structure Pass where
  envelope : Envelope
  output : List Char

/-- What a pass puts in front of what it leaves of the template. -/
def Pass.written (p : Pass) : List Char :=
  match p.envelope.kind with
  | .braces => p.envelope.before ++ p.output
  | .tag | .inline => p.output

/-- The pass has written a whole mark that opens an envelope. -/
def Pass.Opens (p : Pass) : Prop := ∃ opening ∈ Envelope.openings, opening <:+: p.written

/-- The passes over a template, at most `count` of them. -/
def passes (e : Evaluator) (baseUrl : String) (query : Query) (count : Nat)
    (template : List Char) : List Pass :=
  match count with
  | 0 => []
  | count + 1 =>
    match Envelope.find? false template with
    | none => []
    | some envelope =>
      let bindings := scriptBindings baseUrl query envelope.before
      let output := (e.run (String.ofList envelope.script) bindings).value.intoText.toList
      ⟨envelope, output⟩ :: passes e baseUrl query count (spliced envelope output)

/-- What was written stands in front of what is behind the envelope. -/
theorem spliced_eq (envelope : Envelope) (output : List Char) :
    spliced envelope output = Pass.written ⟨envelope, output⟩ ++ envelope.after := by
  rw [spliced, Pass.written]
  cases envelope.kind with
  | tag => rfl
  | braces => rfl
  | inline => rfl

/-- The scripts of the passes are all that are handed over. -/
theorem runsOnly_runScripts (e : Evaluator) (baseUrl : String) (query : Query) (count : Nat)
    (template : List Char) :
    (runScripts e baseUrl query count template).RunsOnly e fun script =>
      ∃ p ∈ passes e baseUrl query count template,
        script = trimmed (String.ofList p.envelope.script) := by
  induction count generalizing template with
  | zero => exact .pure template
  | succ count ih =>
      rw [runScripts, passes]
      cases Envelope.find? false template with
      | none => exact .pure template
      | some envelope =>
          refine (Traced.RunsOnly.run ⟨_, List.mem_cons_self, rfl⟩ _).bind ((ih _).mono ?_)
          rintro script ⟨p, hp, rfl⟩
          exact ⟨p, List.mem_cons_of_mem _ hp, rfl⟩

/-- What a pass leaves of a text that ends a template ends the template too,
unless the mark that opens the envelope stands before it. -/
theorem parts_of_find? {s front rest : List Char} {envelope : Envelope}
    (h : Envelope.find? false s = some envelope) (hs : s = front ++ rest)
    (hfront : ∀ opening ∈ Envelope.openings, ¬opening <:+: front) :
    envelope.script <:+: rest ∧ envelope.after <:+ rest := by
  obtain ⟨opening, hopening, closing, heq⟩ := Envelope.exists_opening h
  rw [hs, ← List.append_assoc] at heq
  rcases List.append_eq_append_iff.mp heq with ⟨between, _, hrest⟩ | ⟨behind, hfrontEq, _⟩
  · rw [hrest]
    constructor
    · exact List.infix_append' _ _ _
    · refine (List.suffix_append closing _).trans ?_
      exact (List.suffix_append envelope.script _).trans (List.suffix_append between _)
  · refine absurd ?_ (hfront opening hopening)
    rw [hfrontEq, List.append_assoc]
    exact List.infix_append' _ _ _

/-- **Scripts of a template.**  The script of a pass stands in what is left of
the template, unless an earlier pass has written a mark that opens one. -/
theorem script_isInfix_or_opens {e : Evaluator} {baseUrl : String} {query : Query} {count : Nat}
    {front rest : List Char} (hfront : ∀ opening ∈ Envelope.openings, ¬opening <:+: front)
    {earlier later : List Pass} {p : Pass}
    (h : passes e baseUrl query count (front ++ rest) = earlier ++ p :: later) :
    p.envelope.script <:+: rest ∨ ∃ q ∈ earlier, q.Opens := by
  induction count generalizing front rest earlier with
  | zero => simp [passes] at h
  | succ count ih =>
      rw [passes] at h
      split at h
      · simp at h
      · next envelope hfind =>
        obtain ⟨hscript, hafter⟩ := parts_of_find? hfind rfl hfront
        cases earlier with
        | nil =>
            obtain ⟨rfl, -⟩ := List.cons.inj h
            exact Or.inl hscript
        | cons q earlier =>
            obtain ⟨hq, hrest⟩ := List.cons.inj h
            rw [spliced_eq, hq] at hrest
            by_cases hopens : q.Opens
            · exact Or.inr ⟨q, List.mem_cons_self, hopens⟩
            · have hwritten : ∀ opening ∈ Envelope.openings, ¬opening <:+: q.written :=
                fun opening hopening hinfix => hopens ⟨opening, hopening, hinfix⟩
              rcases ih hwritten hrest with hpiece | ⟨r, hr, hropens⟩
              · exact Or.inl (hpiece.trans hafter.isInfix)
              · exact Or.inr ⟨r, List.mem_cons_of_mem q hr, hropens⟩

/-- Every pass is one of an envelope that was found. -/
theorem exists_find?_of_mem_passes {e : Evaluator} {baseUrl : String} {query : Query} {count : Nat}
    {template : List Char} {p : Pass} (h : p ∈ passes e baseUrl query count template) :
    ∃ s, Envelope.find? false s = some p.envelope := by
  induction count generalizing template with
  | zero => simp [passes] at h
  | succ count ih =>
      rw [passes] at h
      split at h
      · simp at h
      · next envelope hfind =>
        rcases List.mem_cons.mp h with rfl | h
        · exact ⟨template, hfind⟩
        · exact ih h

/-- Every mark that opens an envelope ends in one of two characters. -/
theorem getLast?_of_opening {opening : List Char} (h : opening ∈ Envelope.openings) :
    ∃ c, opening.getLast? = some c ∧ (c = '>' ∨ c = ':') := by
  simp only [Envelope.openings, List.mem_cons, List.not_mem_nil, or_false] at h
  rcases h with rfl | rfl | rfl
  · exact ⟨'>', by decide⟩
  · exact ⟨':', by decide⟩
  · exact ⟨':', by decide⟩

/-- A pass whose script gives none of these characters opens nothing. -/
theorem not_opens_of_output {s : List Char} {p : Pass}
    (h : Envelope.find? false s = some p.envelope) (houtput : ∀ c ∈ p.output, c ≠ '>' ∧ c ≠ ':') :
    ¬p.Opens := by
  rintro ⟨opening, hopening, hinfix⟩
  obtain ⟨c, hlast, hc⟩ := getLast?_of_opening hopening
  have hnew : c ∉ p.output := by
    intro hmem
    obtain ⟨hangle, hcolon⟩ := houtput c hmem
    rcases hc with rfl | rfl
    · exact hangle rfl
    · exact hcolon rfl
  have houtside : ¬opening <:+: p.output :=
    fun h => hnew (h.subset (List.mem_of_getLast? hlast))
  rw [Pass.written] at hinfix
  cases hkind : p.envelope.kind with
  | tag => exact houtside (by simpa only [hkind] using hinfix)
  | inline => exact houtside (by simpa only [hkind] using hinfix)
  | braces =>
      have hbefore := Envelope.not_opening_infix_before h hkind hopening
      simp only [hkind] at hinfix
      rcases List.infix_append_iff.mp hinfix with hinfix | hinfix | ⟨left, right, rfl, hl, hr⟩
      · exact hbefore hinfix
      · exact houtside hinfix
      · cases right with
        | nil =>
            rw [List.append_nil] at hbefore
            exact hbefore hl.isInfix
        | cons d right =>
            rw [List.getLast?_append_cons] at hlast
            exact hnew (hr.subset (List.mem_of_getLast? hlast))

/-! ## Requests for templates -/

/-- The passes over the template of a request. -/
def templatePasses (e : Evaluator) (source : Source) (query : Query) (template : String) :
    List Pass :=
  passes e source.url { query with page := max 1 query.page } scriptLimit (trim template.toList)

/-- The script of one of the passes; it is a piece of the template, or an earlier
pass has written a mark that opens one. -/
def IsPassScript (template : String) (passes : List Pass) (script : String) : Prop :=
  ∃ earlier p later, passes = earlier ++ p :: later ∧
    script = trimmed (String.ofList p.envelope.script) ∧
    (IsPartOf template script ∨ ∃ q ∈ earlier, q.Opens)

/-- Building a request runs the scripts of the passes. -/
theorem runsOnly_build_passes (e : Evaluator) (source : Source) (defaults : Defaults)
    (query : Query) (template : String) :
    (build e source defaults query template).RunsOnly e
      (IsPassScript template (templatePasses e source query template)) := by
  rw [build]
  dsimp only
  split
  · exact .pure _
  · refine ((runsOnly_runScripts e _ _ _ _).mono ?_).bind (runsOnly_ofTemplate _ _ _ _)
    rintro script ⟨p, hp, rfl⟩
    obtain ⟨earlier, later, hpasses⟩ := List.append_of_mem hp
    refine ⟨earlier, p, later, hpasses, rfl, ?_⟩
    have hnone : ∀ opening ∈ Envelope.openings, ¬opening <:+: [] := by decide
    rcases script_isInfix_or_opens hnone hpasses with hpiece | hopens
    · exact Or.inl (isPartOf_trimmed (hpiece.trans (trim_isInfix _)))
    · exact Or.inr hopens

/-- **Scripts of a request.**  The scripts that are handed over for a template are
those of its passes.  Each of them is a piece of the template unless an earlier
pass has written a mark that opens an envelope, and so all of them are where no
script gives a character that such a mark ends in. -/
theorem runsOnly_build (e : Evaluator) (source : Source) (defaults : Defaults) (query : Query)
    (template : String) :
    (build e source defaults query template).RunsOnly e
      (IsPassScript template (templatePasses e source query template)) ∧
    ((∀ p ∈ templatePasses e source query template, ∀ c ∈ p.output, c ≠ '>' ∧ c ≠ ':') →
      (build e source defaults query template).RunsOnly e (IsPartOf template)) := by
  have hpasses := runsOnly_build_passes e source defaults query template
  refine ⟨hpasses, ?_⟩
  intro houtput
  refine hpasses.mono ?_
  rintro script ⟨earlier, p, later, heq, -, hpart | ⟨q, hq, hopens⟩⟩
  · exact hpart
  · have hmem : q ∈ templatePasses e source query template := by
      rw [heq]
      exact List.mem_append_left _ hq
    obtain ⟨s, hfind⟩ := exists_find?_of_mem_passes hmem
    exact absurd hopens (not_opens_of_output hfind (houtput q hmem))

/-- An evaluator that gives the keyword back. -/
def echoed : Evaluator := fun _ bindings =>
  pure (.ok (.text ((bindings.vars.lookup "key").getD "")))

/-- A template with a script that names the keyword. -/
def keywordTemplate : String := "/s?q=\x7b\x7bjs:key\x7d\x7d"

/-- A keyword that is marked as a script. -/
def markedKeyword : Query := { keyword := some "\x7b\x7bjs:evil\x7d\x7d" }

theorem evaluated_markedKeyword :
    ∃ bindings, Event.evaluated "evil" bindings ∈
      (runScripts echoed "https://s.com" markedKeyword scriptLimit
        keywordTemplate.toList).events := by
  refine ⟨scriptBindings "https://s.com" markedKeyword "/s?q=".toList, ?_⟩
  decide +kernel

/-- A keyword is run as a script where another script gives it. -/
theorem not_runsOnly_markedKeyword :
    (∃ bindings, Event.evaluated "evil" bindings ∈
      (build echoed { url := "https://s.com" } {} markedKeyword keywordTemplate).events) ∧
    ¬(build echoed { url := "https://s.com" } {} markedKeyword keywordTemplate).RunsOnly echoed
      (IsPartOf keywordTemplate) := by
  have hevents : ∃ bindings, Event.evaluated "evil" bindings ∈
      (build echoed { url := "https://s.com" } {} markedKeyword keywordTemplate).events := by
    obtain ⟨bindings, hmem⟩ := evaluated_markedKeyword
    exact ⟨bindings, List.mem_append_left _ hmem⟩
  have hsilent : echoed.IsSilent := by
    intro script bindings event hevent
    simp [echoed] at hevent
  refine ⟨hevents, ?_⟩
  rw [Traced.RunsOnly.iff_of_isSilent hsilent]
  intro hparts
  obtain ⟨bindings, hmem⟩ := hevents
  obtain ⟨piece, hpiece, heq⟩ := hparts "evil" bindings hmem
  have htrim : "evil".toList = trim piece := by
    rw [heq, String.toList_ofList]
  have hv : 'v' ∈ trim piece := by
    rw [← htrim]
    decide
  have hnot : 'v' ∉ keywordTemplate.toList := by decide +kernel
  exact hnot (hpiece.subset ((trim_isInfix piece).subset hv))

end Folio.Request
