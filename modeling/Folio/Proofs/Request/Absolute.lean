import Folio.Proofs.Request.Link
import Folio.Proofs.Url.Edges

/-!
# Folio.Proofs.Request.Absolute

Absolute links stay what they are: resolving a link a second time changes nothing
(`absoluteUrl_absoluteUrl`).  What is cut off as an options block is put back as it
was and cut off at the same place again, a URL has no blanks at its edges, and
a link that cannot be resolved cannot be resolved the second time.  That a URL which
has been joined to a base joins as itself is what is asked of reading URLs; web
addresses do (`joinsAsItself_of_web`).
-/

namespace Folio

open Folio.Text Folio.Request

variable {base link : String} {s : List Char}

/-- The URL part of a link, without the blanks around it. -/
def urlPart (link : String) : List Char := trim (splitOptions (trim link.toList)).1

/-- What the text becomes when it is joined to the base, joined to it again, stays what it
is. -/
def Url.JoinsAsItself (base : Url) (s : List Char) : Prop :=
  ∀ url, Url.read (some base) s = .ok url → Url.read (some base) url.chars = .ok url

/-- Web addresses join as themselves, if their hosts are read as themselves. -/
theorem Url.joinsAsItself_of_web {base : Url} (hbase : base.IsSettled) (hweb : Url.NamesWeb s)
    (hhost : ∀ url, Url.read (some base) s = .ok url → HostStays url) : base.JoinsAsItself s :=
  fun url h => Url.read_chars (Url.isSettled_of_read (fun _ hb => Option.some.inj hb ▸ hbase)
    hweb h (hhost url h)) _

/-! ## Targets -/

/-- Where the URL part of a link cannot be resolved it is only trimmed. -/
theorem resolveTarget_cases (base : String) (s : List Char) :
    resolveTarget base s = s ∨ ∃ b url, Url.parse base = .ok b ∧
      Url.read (some b) s = .ok url ∧ resolveTarget base s = url.chars := by
  cases hbase : Url.parse base with
  | error f => exact Or.inl (by rw [resolveTarget, hbase])
  | ok b =>
      cases hread : Url.read (some b) s with
      | error f => exact Or.inl (by rw [resolveTarget, hbase]; simp only [hread])
      | ok url =>
          exact Or.inr ⟨b, url, rfl, hread, by rw [resolveTarget, hbase]; simp only [hread]⟩

/-- Resolving leaves nothing to trim. -/
theorem trim_resolveTarget (base : String) (htrim : trim s = s) :
    trim (resolveTarget base s) = resolveTarget base s := by
  rcases resolveTarget_cases base s with hsame | ⟨b, url, hbase, hread, hchars⟩
  · rw [hsame, htrim]
  · rw [hchars]
    exact (Url.hasEdges_of_read hbase hread).trim

/-- Resolving the target again changes nothing. -/
theorem resolveTarget_resolveTarget
    (hjoin : ∀ b, Url.parse base = .ok b → b.JoinsAsItself s) :
    resolveTarget base (resolveTarget base s) = resolveTarget base s := by
  rcases resolveTarget_cases base s with hsame | ⟨b, url, hbase, hread, hchars⟩
  · rw [hsame, hsame]
  · have hagain := hjoin b hbase url hread
    rw [hchars, resolveTarget, hbase]
    simp only [hagain]

/-! ## Links -/

/-- The URL part of an absolute link is resolved as it was. -/
theorem resolvedTarget_absoluteUrl (hne : trim link.toList ≠ [])
    (hjoin : ∀ b, Url.parse base = .ok b → b.JoinsAsItself (urlPart link))
    (hplain : NoBlock (resolvedTarget base link)) :
    resolvedTarget base (absoluteUrl base link) = resolvedTarget base link := by
  have htrim : trim (resolvedTarget base link) = resolvedTarget base link :=
    trim_resolveTarget base (trim_trim _)
  have hagain : resolveTarget base (resolvedTarget base link) = resolvedTarget base link :=
    resolveTarget_resolveTarget hjoin
  rw [resolvedTarget]
  cases hblock : (splitOptions (trim link.toList)).2 with
  | none =>
      obtain ⟨htext, hwhole⟩ := noBlock_trim_absoluteUrl hne hplain hblock
      rw [splitOptions_of_noBlock hwhole, trim_trim, htext, htrim, hagain]
  | some block =>
      simp [(splitOptions_absoluteUrl hne hplain hblock).2, htrim, hagain]

/-- The options block of an absolute link is that of the link. -/
theorem block_absoluteUrl (hne : trim link.toList ≠ [])
    (hplain : NoBlock (resolvedTarget base link)) :
    (splitOptions (trim (absoluteUrl base link).toList)).2 =
      (splitOptions (trim link.toList)).2 := by
  cases hblock : (splitOptions (trim link.toList)).2 with
  | none => exact (noBlock_trim_absoluteUrl hne hplain hblock).2
  | some block => rw [(splitOptions_absoluteUrl hne hplain hblock).2]

/-- An absolute link is not blank. -/
theorem trim_absoluteUrl_ne_nil (hne : trim link.toList ≠ [])
    (hplain : NoBlock (resolvedTarget base link)) : trim (absoluteUrl base link).toList ≠ [] := by
  cases hblock : (splitOptions (trim link.toList)).2 with
  | none =>
      rw [(noBlock_trim_absoluteUrl hne hplain hblock).1]
      exact trim_resolvedTarget_ne_nil base hne hblock
  | some block => exact (splitOptions_absoluteUrl hne hplain hblock).1

/-- **Resolving twice.**  A link that has been made absolute is made into itself, whether or
not it has an options block and whether or not it could be resolved, if its URL has no comma
and brace of its own and joins the base as itself. -/
theorem absoluteUrl_absoluteUrl (base link : String)
    (hjoin : ∀ b, Url.parse base = .ok b → b.JoinsAsItself (urlPart link))
    (hplain : NoBlock (resolvedTarget base link)) :
    absoluteUrl base (absoluteUrl base link) = absoluteUrl base link := by
  by_cases hblank : trim link.toList = []
  · have hempty : absoluteUrl base link = "" := by
      rw [absoluteUrl, hblank]
      rfl
    rw [hempty]
    rfl
  · rw [← String.toList_inj, toList_absoluteUrl base (trim_absoluteUrl_ne_nil hblank hplain),
      block_absoluteUrl hblank hplain, resolvedTarget_absoluteUrl hblank hjoin hplain,
      toList_absoluteUrl base hblank]

/-- A link with a climbing path, a space and an options block behind blanks. -/
def spacedLink : String := " ../x y ,  \x7b\"method\":\"POST\"\x7d "

/-- The page that it stands on. -/
def spacedBase : Url :=
  ⟨"https".toList, some ⟨[], [], "s.com".toList, none⟩, "/a/b".toList, none, none⟩

theorem parse_spacedBase : Url.parse "https://s.com/a/b" = .ok spacedBase := by decide +kernel

/-- The page is a web address whose host is read as itself. -/
theorem isSettled_spacedBase : spacedBase.IsSettled := by
  have hweb : Url.NamesWeb "https://s.com/a/b".toList := by
    intro scheme rest h
    have hscheme : Url.splitScheme? (Url.cleaned "https://s.com/a/b".toList) =
        some ("https".toList, "//s.com/a/b".toList) := by
      decide +kernel
    cases hscheme.symm.trans h
    decide
  refine Url.isSettled_of_read (fun b hb => by contradiction) hweb parse_spacedBase ?_
  rintro a ⟨⟩
  decide +kernel

/-- The link names no scheme. -/
theorem namesWeb_spacedLink : Url.NamesWeb (urlPart spacedLink) := by
  intro scheme rest h
  have hscheme : Url.splitScheme? (Url.cleaned (urlPart spacedLink)) = none := by decide +kernel
  cases hscheme.symm.trans h

theorem hostStays_spacedLink (url : Url)
    (h : Url.read (some spacedBase) (urlPart spacedLink) = .ok url) : HostStays url := by
  have hread : Url.read (some spacedBase) (urlPart spacedLink) =
      .ok { spacedBase with path := "/x%20y".toList } := by decide +kernel
  cases hread.symm.trans h
  rintro a ⟨⟩
  decide +kernel

/-- It is resolved, and then stays what it is. -/
theorem absoluteUrl_spacedLink :
    (∀ b, Url.parse "https://s.com/a/b" = .ok b →
      b.JoinsAsItself (urlPart spacedLink)) ∧
    NoBlock (resolvedTarget "https://s.com/a/b" spacedLink) ∧
    absoluteUrl "https://s.com/a/b" spacedLink =
      "https://s.com/x%20y,\x7b\"method\":\"POST\"\x7d" ∧
    absoluteUrl "https://s.com/a/b" (absoluteUrl "https://s.com/a/b" spacedLink) =
      absoluteUrl "https://s.com/a/b" spacedLink := by
  have hjoin : ∀ b, Url.parse "https://s.com/a/b" = .ok b →
      b.JoinsAsItself (urlPart spacedLink) := by
    intro b hb
    cases parse_spacedBase.symm.trans hb
    exact Url.joinsAsItself_of_web isSettled_spacedBase namesWeb_spacedLink hostStays_spacedLink
  have hplain : NoBlock (resolvedTarget "https://s.com/a/b" spacedLink) := by
    rw [NoBlock]
    decide +kernel
  exact ⟨hjoin, hplain, by decide +kernel, absoluteUrl_absoluteUrl _ _ hjoin hplain⟩

end Folio
