import Folio.Proofs.Request.Basic
import Folio.Proofs.Text.Quoted
import Folio.Proofs.Url.Written

/-!
# Folio.Proofs.Request.Link

Links that are resolved twice.  A crawl makes a link absolute and requests what
that gives; the request resolves it again.  Both cut off the options block, the
first in any case, the second only if the block can be read: otherwise the
second resolution reads the block behind the URL that the first made of the
rest (`rereadText`).  The detour changes nothing exactly when that text is read
as the URL that the link itself is read as (`sameRequest_absoluteUrl_iff`).  Web
addresses are read from their written form as themselves, so that only a block
that cannot be read makes a difference there (`sameRequest_absoluteUrl`).
-/

namespace Folio

open Folio.Text

/-! ## Options blocks -/

section Block

variable {s t block target : List Char}

/-- The text holds no comma that a brace follows. -/
def NoBlock (s : List Char) : Prop := (splitOptions s).2 = none

/-- A comma cuts where a brace follows, with blanks at most between them. -/
theorem splitOptions_comma (h : startsWith ['\x7b'] (trimStart s) = true) :
    splitOptions (',' :: s) = ([], some (trimStart s)) := if_pos ⟨rfl, h⟩

/-- Any other character belongs to the target. -/
theorem splitOptions_cons {c : Char}
    (h : ¬(c = ',' ∧ startsWith ['\x7b'] (trimStart s) = true)) :
    splitOptions (c :: s) = (c :: (splitOptions s).1, (splitOptions s).2) := if_neg h

/-- Without a block a link is all target. -/
theorem splitOptions_of_noBlock (h : NoBlock s) : splitOptions s = (s, none) := by
  induction s with
  | nil => rfl
  | cons c s ih =>
      rw [NoBlock] at h
      by_cases hcut : c = ',' ∧ startsWith ['\x7b'] (trimStart s) = true
      · obtain ⟨rfl, hbrace⟩ := hcut
        rw [splitOptions_comma hbrace] at h
        contradiction
      · rw [splitOptions_cons hcut] at h ⊢
        rw [ih h]

/-- A text without a block has none further on. -/
theorem NoBlock.tail {c : Char} (h : NoBlock (c :: s)) : NoBlock s := by
  rw [NoBlock] at h ⊢
  by_cases hcut : c = ',' ∧ startsWith ['\x7b'] (trimStart s) = true
  · obtain ⟨rfl, hbrace⟩ := hcut
    rw [splitOptions_comma hbrace] at h
    contradiction
  · rwa [splitOptions_cons hcut] at h

/-- Nor does its end have one. -/
theorem NoBlock.of_isSuffix (h : NoBlock s) (hsuffix : t <:+ s) : NoBlock t := by
  obtain ⟨front, rfl⟩ := hsuffix
  induction front with
  | nil => exact h
  | cons c front ih => exact ih h.tail

/-- Nor does its beginning. -/
theorem NoBlock.of_isPrefix (h : NoBlock s) (hstarts : t <+: s) : NoBlock t := by
  obtain ⟨rest, rfl⟩ := hstarts
  induction t with
  | nil => exact rfl
  | cons c t ih =>
      by_cases hcut : c = ',' ∧ startsWith ['\x7b'] (trimStart t) = true
      · obtain ⟨rfl, hbrace⟩ := hcut
        obtain ⟨more, hmore⟩ := startsWith_singleton.mp hbrace
        have hstart : trimStart (t ++ rest) = trimStart t ++ rest := by
          rw [trimStart, List.dropWhile_append, if_neg (by rw [← trimStart, hmore]; simp)]
          rfl
        have hlong : startsWith ['\x7b'] (trimStart (t ++ rest)) = true := by
          rw [hstart, hmore]
          exact startsWith_singleton.mpr ⟨more ++ rest, rfl⟩
        rw [NoBlock, List.cons_append, splitOptions_comma hlong] at h
        contradiction
      · rw [NoBlock, splitOptions_cons hcut]
        exact ih h.tail

/-- A text without a block is cut at the first one behind it. -/
theorem splitOptions_append (h : NoBlock s) (hblock : startsWith ['\x7b'] block = true) :
    splitOptions (s ++ ',' :: block) = (s, some block) := by
  obtain ⟨more, rfl⟩ := startsWith_singleton.mp hblock
  induction s with
  | nil => exact splitOptions_comma rfl
  | cons c s ih =>
      have hcut : ¬(c = ',' ∧
          startsWith ['\x7b'] (trimStart (s ++ ',' :: '\x7b' :: more)) = true) := by
        rintro ⟨rfl, hbrace⟩
        rw [trimStart, List.dropWhile_append] at hbrace
        split at hbrace
        · exact absurd hbrace Bool.false_ne_true
        · next hne =>
            obtain ⟨rest, hrest⟩ := startsWith_singleton.mp hbrace
            cases hstart : s.dropWhile isBlank with
            | nil => rw [hstart] at hne; contradiction
            | cons d start =>
                rw [hstart] at hrest
                have hstarts : startsWith ['\x7b'] (trimStart s) = true := by
                  rw [trimStart, hstart]
                  exact startsWith_singleton.mpr ⟨start, by rw [(List.cons.inj hrest).1]⟩
                rw [NoBlock, splitOptions_comma hstarts] at h
                contradiction
      rw [List.cons_append, splitOptions_cons hcut, ih h.tail]

/-- A block follows a comma, with nothing but blanks between, and begins with a brace. -/
theorem exists_of_splitOptions (h : splitOptions s = (target, some block)) :
    ∃ blanks, s = target ++ ',' :: (blanks ++ block) ∧ startsWith ['\x7b'] block = true := by
  induction s generalizing target with
  | nil => cases h
  | cons c s ih =>
      by_cases hcut : c = ',' ∧ startsWith ['\x7b'] (trimStart s) = true
      · obtain ⟨rfl, hbrace⟩ := hcut
        rw [splitOptions_comma hbrace] at h
        cases h
        exact ⟨s.takeWhile isBlank, congrArg _ List.takeWhile_append_dropWhile.symm, hbrace⟩
      · rw [splitOptions_cons hcut] at h
        obtain ⟨rfl, hsnd⟩ := Prod.mk.inj h
        obtain ⟨blanks, hs, hbrace⟩ := ih (Prod.ext rfl hsnd)
        exact ⟨blanks, by rw [List.cons_append, ← hs], hbrace⟩

end Block

namespace Request

variable {source : Source} {defaults : Defaults} {text : String} {s t block target : List Char}
  {options : Options}

/-! ## Reading a link -/

/-- A link without a block has no options. -/
theorem splitLink_of_noBlock (h : NoBlock s) : splitLink s = (s, {}) := by
  rw [splitLink, splitOptions_of_noBlock h]
  rfl

/-- A block that is read gives the options. -/
theorem splitLink_of_read (h : splitOptions s = (target, some block))
    (hread : Options.read? block = some options) : splitLink s = (target, options) := by
  simp only [splitLink, h, readOptions, hread]

/-- A block that cannot be read belongs to the target. -/
theorem splitLink_of_not_read (h : splitOptions s = (target, some block))
    (hread : Options.read? block = none) : splitLink s = (s, {}) := by
  simp only [splitLink, h, readOptions, hread]

/-- Where no block is unreadable, the target is what stands before the block. -/
theorem fst_splitLink (hblock : ∀ block, (splitOptions s).2 = some block →
    (Options.read? block).isSome = true) : (splitLink s).1 = (splitOptions s).1 := by
  cases hsplit : (splitOptions s).2 with
  | none => rw [splitLink_of_noBlock hsplit, splitOptions_of_noBlock hsplit]
  | some block =>
      obtain ⟨options, hread⟩ := Option.isSome_iff_exists.mp (hblock block hsplit)
      rw [splitLink_of_read (Prod.ext rfl hsplit) hread]

/-- Blanks around a target do not count. -/
theorem resolve_congr (h : trim s = trim t) (base : String) : resolve base s = resolve base t := by
  rw [resolve, resolve, h]

/-- Blanks around a target do not change the request. -/
theorem value_prepare_congr (h : trim s = trim t) :
    (prepare source defaults s options none).value =
      (prepare source defaults t options none).value := by
  rw [value_prepare, value_prepare, resolve_congr h]

/-! ## Equal requests -/

/-- Method, URL, headers and body. -/
def parts (r : Request) : String × Url × Headers × Option String :=
  (r.method, r.url, r.headers, r.body)

/-- Both requests are made, with the same method, URL, headers and body, or neither is. -/
def SameRequest (r q : Except Failure Request) : Prop :=
  r.toOption.map parts = q.toOption.map parts

/-- Both texts are read as the same URL, or neither is one. -/
def SameUrl (baseUrl : String) (s t : List Char) : Prop :=
  (resolve baseUrl s).toOption = (resolve baseUrl t).toOption

/-- With the same options it is the URL that counts, unless the method makes both fail. -/
theorem sameRequest_prepare_iff :
    SameRequest (prepare source defaults s options none).value
        (prepare source defaults t options none).value ↔
      (methodOf options.method).toOption = none ∨ SameUrl source.url s t := by
  rw [SameRequest, SameUrl, value_prepare, value_prepare]
  cases methodOf options.method with
  | error f =>
      refine iff_of_true ?_ (Or.inl rfl)
      cases resolve source.url s <;> cases resolve source.url t <;> rfl
  | ok method =>
      have hmethod : (Except.ok method : Except Failure String).toOption ≠ none := by
        exact Option.some_ne_none method
      rw [or_iff_right hmethod]
      cases resolve source.url s with
      | error f =>
          cases resolve source.url t with
          | error g => exact iff_of_true rfl rfl
          | ok v => exact iff_of_false (Option.some_ne_none _).symm (Option.some_ne_none _).symm
      | ok u =>
          cases resolve source.url t with
          | error g => exact iff_of_false (Option.some_ne_none _) (Option.some_ne_none _)
          | ok v =>
              constructor
              · intro hsame
                have hparts := congrArg (fun parts => parts.2.1) (Option.some.inj hsame)
                exact congrArg some hparts
              · intro hsame
                rw [Option.some.inj hsame]

/-! ## Absolute links -/

/-- What making a link absolute makes of its URL part. -/
def resolvedTarget (base link : String) : List Char :=
  resolveTarget base (trim (splitOptions (trim link.toList)).1)

/-- What a link has become, before its options block is put back. -/
theorem toList_absoluteUrl (base : String) {link : String} (h : trim link.toList ≠ []) :
    (absoluteUrl base link).toList =
      match (splitOptions (trim link.toList)).2 with
      | some block => resolvedTarget base link ++ ',' :: block
      | none => resolvedTarget base link := by
  have hne : (trim link.toList).isEmpty = false := List.isEmpty_eq_false_iff.mpr h
  rw [absoluteUrl, hne, resolvedTarget]
  cases hsplit : splitOptions (trim link.toList) with
  | mk target block =>
      cases block with
      | none => exact String.toList_ofList
      | some block => exact String.toList_ofList

/-- Nothing is left of blanks only. -/
theorem trim_eq_nil_iff : trim s = [] ↔ ∀ c ∈ s, isBlank c = true := by
  constructor
  · intro h c hc
    obtain ⟨lead, rest, hlead, hrest, hs⟩ := exists_eq_append_trim s
    rw [h, List.nil_append] at hs
    rw [hs] at hc
    exact (List.mem_append.mp hc).elim (hlead c) (hrest c)
  · intro h
    have hnil := trim_append_of_isBlank h []
    rwa [List.nil_append] at hnil

/-- A text that ends with what is not blank is trimmed at its beginning only. -/
theorem trim_append_comma {front : List Char} {d : Char} (hd : isBlank d = false) :
    trim (s ++ ',' :: (front ++ [d])) = trimStart s ++ ',' :: (front ++ [d]) := by
  have hstart : trimStart (s ++ ',' :: (front ++ [d])) = trimStart s ++ ',' :: (front ++ [d]) := by
    rw [trimStart, List.dropWhile_append]
    split
    · next hnil =>
        rw [trimStart, List.isEmpty_iff.mp hnil]
        rfl
    · rfl
  have hend : ¬isBlank d = true := by
    rw [hd]
    exact Bool.false_ne_true
  simp [trim, hstart, trimEnd, dropEndWhile, List.dropWhile_cons_of_neg hend]

/-- What a link has become is not blank. -/
theorem trim_resolvedTarget_ne_nil (base : String) {link : String} (h : trim link.toList ≠ [])
    (hnone : (splitOptions (trim link.toList)).2 = none) :
    trim (resolvedTarget base link) ≠ [] := by
  have htarget : (splitOptions (trim link.toList)).1 = trim link.toList := by
    rw [splitOptions_of_noBlock hnone]
  rw [resolvedTarget, htarget, trim_trim, resolveTarget]
  split
  · rwa [trim_trim]
  · split
    · next url _ =>
        intro hblank
        have hcolon : ':' ∈ url.chars := List.mem_append_right _ List.mem_cons_self
        exact absurd (trim_eq_nil_iff.mp hblank ':' hcolon) (by decide)
    · rwa [trim_trim]

/-- The text that the URL is read from when an absolute link is resolved again. -/
def rereadText (base link : String) : List Char :=
  match (splitOptions (trim link.toList)).2 with
  | some block =>
    if (Options.read? block).isSome then resolvedTarget base link
    else resolvedTarget base link ++ ',' :: block
  | none => resolvedTarget base link

/-- The block of a trimmed link ends with what is not blank. -/
theorem exists_concat_of_splitOptions (h : splitOptions (trim s) = (target, some block)) :
    startsWith ['\x7b'] block = true ∧ ∃ front d, block = front ++ [d] ∧ isBlank d = false := by
  obtain ⟨blanks, hs, hbrace⟩ := exists_of_splitOptions h
  obtain ⟨more, rfl⟩ := startsWith_singleton.mp hbrace
  refine ⟨hbrace, List.dropLast _, List.getLast _ (List.cons_ne_nil _ more),
    (List.dropLast_append_getLast _).symm, ?_⟩
  refine Bool.eq_false_iff.mpr (not_isBlank_getLast_trim s _ ?_)
  rw [hs, List.getLast?_append_of_ne_nil _ (List.cons_ne_nil _ _), ← List.cons_append,
    List.getLast?_append_of_ne_nil _ (List.cons_ne_nil _ _)]
  exact List.getLast?_eq_some_getLast _

/-- A link without a block gets none. -/
theorem noBlock_trim_absoluteUrl {base link : String} (hne : trim link.toList ≠ [])
    (hplain : NoBlock (resolvedTarget base link))
    (hnone : (splitOptions (trim link.toList)).2 = none) :
    (absoluteUrl base link).toList = resolvedTarget base link ∧
      NoBlock (trim (absoluteUrl base link).toList) := by
  have htext : (absoluteUrl base link).toList = resolvedTarget base link := by
    rw [toList_absoluteUrl base hne, hnone]
  refine ⟨htext, ?_⟩
  rw [htext]
  exact (hplain.of_isSuffix (List.dropWhile_suffix isBlank)).of_isPrefix
    (dropEndWhile_isPrefix isBlank _)

/-- A block is cut off again where it was put back. -/
theorem splitOptions_absoluteUrl {base link : String} {block : List Char}
    (hne : trim link.toList ≠ []) (hplain : NoBlock (resolvedTarget base link))
    (hsome : (splitOptions (trim link.toList)).2 = some block) :
    trim (absoluteUrl base link).toList ≠ [] ∧
      splitOptions (trim (absoluteUrl base link).toList) =
        (trimStart (resolvedTarget base link), some block) := by
  obtain ⟨hbrace, front, d, hblock, hd⟩ := exists_concat_of_splitOptions (Prod.ext rfl hsome)
  have hstart : NoBlock (trimStart (resolvedTarget base link)) :=
    hplain.of_isSuffix (List.dropWhile_suffix isBlank)
  have htrim : trim (absoluteUrl base link).toList =
      trimStart (resolvedTarget base link) ++ ',' :: block := by
    rw [toList_absoluteUrl base hne, hsome, hblock]
    exact trim_append_comma hd
  rw [htrim]
  exact ⟨List.append_ne_nil_of_right_ne_nil _ (List.cons_ne_nil _ _),
    splitOptions_append hstart hbrace⟩

/-- The request for an absolute link is one for the text that is read again, with the
options of the link. -/
theorem value_link_absoluteUrl (source : Source) (defaults : Defaults) {l : String}
    (hne : trim l.toList ≠ []) (hplain : NoBlock (resolvedTarget source.url l)) :
    (link source defaults (absoluteUrl source.url l)).value =
      (prepare source defaults (rereadText source.url l) (splitLink (trim l.toList)).2
        none).value := by
  cases hsecond : (splitOptions (trim l.toList)).2 with
  | none =>
      obtain ⟨htext, hwhole⟩ := noBlock_trim_absoluteUrl hne hplain hsecond
      have habsolute := trim_resolvedTarget_ne_nil source.url hne hsecond
      rw [← htext] at habsolute
      have hreread : rereadText source.url l = (absoluteUrl source.url l).toList := by
        rw [rereadText, htext, hsecond]
      rw [value_link habsolute, splitLink_of_noBlock hwhole, splitLink_of_noBlock hsecond,
        hreread, value_prepare_congr (trim_trim _)]
  | some block =>
      obtain ⟨habsolute, hcut⟩ := splitOptions_absoluteUrl hne hplain hsecond
      have hsplit : splitOptions (trim l.toList) = (_, some block) := Prod.ext rfl hsecond
      rw [value_link habsolute]
      cases hread : Options.read? block with
      | none =>
          have hreread : rereadText source.url l = (absoluteUrl source.url l).toList := by
            rw [rereadText, toList_absoluteUrl source.url hne, hsecond]
            simp only [hread, Option.isSome_none, Bool.false_eq_true, if_false]
          rw [splitLink_of_not_read hcut hread, splitLink_of_not_read hsplit hread, hreread,
            value_prepare_congr (trim_trim _)]
      | some options =>
          have hreread : rereadText source.url l = resolvedTarget source.url l := by
            rw [rereadText, hsecond]
            simp only [hread, Option.isSome_some, if_true]
          rw [splitLink_of_read hcut hread, splitLink_of_read hsplit hread, hreread,
            value_prepare_congr (trim_trimStart _)]

/-- Blank links fail either way. -/
theorem sameRequest_of_blank (source : Source) (defaults : Defaults) {l : String}
    (h : trim l.toList = []) :
    SameRequest (link source defaults (absoluteUrl source.url l)).value
      (link source defaults l).value := by
  have habsolute : trim (absoluteUrl source.url l).toList = [] := by
    rw [absoluteUrl, h]
    rfl
  rw [SameRequest, value_link_of_blank h, value_link_of_blank habsolute]

/-- **Resolving twice.**  Unless the URL that a link has become holds a comma and a brace of
its own, requesting the absolute link and requesting the link come to the same exactly
when the text that is read again gives the URL that the link gives.  Blank links and
options with a method that is none fail either way. -/
theorem sameRequest_absoluteUrl_iff (source : Source) (defaults : Defaults) (l : String)
    (hplain : NoBlock (resolvedTarget source.url l)) :
    SameRequest (link source defaults (absoluteUrl source.url l)).value
        (link source defaults l).value ↔
      trim l.toList = [] ∨ (methodOf (splitLink (trim l.toList)).2.method).toOption = none ∨
        SameUrl source.url (rereadText source.url l) (splitLink (trim l.toList)).1 := by
  by_cases hblank : trim l.toList = []
  · exact iff_of_true (sameRequest_of_blank source defaults hblank) (Or.inl hblank)
  · rw [or_iff_right hblank, value_link_absoluteUrl source defaults hblank hplain,
      value_link hblank]
    exact sameRequest_prepare_iff

/-! ## Web addresses -/

/-- The host of a URL is read as itself. -/
def HostStays (url : Url) : Prop :=
  ∀ a, url.authority = some a → Url.host a.host = .ok a.host

/-- A target is read relative to the URL of its source. -/
theorem resolve_eq {base : Url} (hbase : Url.parse source.url = .ok base) (s : List Char) :
    resolve source.url s = (Url.read (some base) (trim s)).mapError
      (Failure.invalidUrl (String.ofList (trim s))) := by
  rw [resolve, hbase]

/-- A web address that a target has been resolved to is read as itself. -/
theorem sameUrl_resolveTarget {base : Url} (hbase : Url.parse source.url = .ok base)
    (htrim : trim s = s) (hweb : Url.NamesWeb source.url.toList) (hstays : HostStays base)
    (htarget : Url.NamesWeb s)
    (hhost : ∀ url, Url.read (some base) s = .ok url → HostStays url) :
    SameUrl source.url (resolveTarget source.url s) s := by
  have hsettled : base.IsSettled :=
    Url.isSettled_of_read (fun b hb => by contradiction) hweb hbase hstays
  rw [SameUrl, resolveTarget, hbase]
  dsimp only
  split
  · next url hread =>
      have hurl : url.IsSettled := Url.isSettled_of_read
        (fun b hb => Option.some.inj hb ▸ hsettled) htarget hread (hhost url hread)
      rw [resolve_eq hbase, resolve_eq hbase, htrim, hread,
        (Url.hasEdges_chars hurl).trim, Url.read_chars hurl]
      rfl
  · rfl

/-- **Web links.**  With a web address for its URL, a source makes the same request from a
link and from the absolute link, if the link has no block or one that can be read. -/
theorem sameRequest_absoluteUrl {base : Url} (hbase : Url.parse source.url = .ok base)
    (hweb : Url.NamesWeb source.url.toList) (hstays : HostStays base) (l : String)
    (hplain : NoBlock (resolvedTarget source.url l))
    (hblock : ∀ block, (splitOptions (trim l.toList)).2 = some block →
      (Options.read? block).isSome = true)
    (htarget : Url.NamesWeb (trim (splitOptions (trim l.toList)).1))
    (hhost : ∀ url, Url.read (some base) (trim (splitOptions (trim l.toList)).1) = .ok url →
      HostStays url) :
    SameRequest (link source defaults (absoluteUrl source.url l)).value
      (link source defaults l).value := by
  have hreread : rereadText source.url l = resolvedTarget source.url l := by
    rw [rereadText]
    split
    · next block hsome => rw [if_pos (hblock block hsome)]
    · rfl
  have hsame := sameUrl_resolveTarget hbase (trim_trim _) hweb hstays htarget hhost
  rw [SameUrl, resolve_congr (trim_trim (splitOptions (trim l.toList)).1)] at hsame
  by_cases hblank : trim l.toList = []
  · exact sameRequest_of_blank source defaults hblank
  · rw [value_link_absoluteUrl source defaults hblank hplain, value_link hblank]
    refine sameRequest_prepare_iff.mpr (Or.inr ?_)
    rw [hreread, fst_splitLink hblock]
    exact hsame

/-- A source with nothing but a URL. -/
def plainSource : Source := { url := "https://s.com" }

/-- A block that cannot be read stays in the query. -/
theorem sameRequest_braceInQuery :
    SameRequest (link plainSource {} (absoluteUrl plainSource.url "/s?f=a,\x7bx\x7d")).value
      (link plainSource {} "/s?f=a,\x7bx\x7d").value := by
  have hplain : (splitOptions (resolvedTarget plainSource.url "/s?f=a,\x7bx\x7d")).2 = none := by
    decide +kernel
  have hsame : (resolve plainSource.url (rereadText plainSource.url "/s?f=a,\x7bx\x7d")).toOption =
      (resolve plainSource.url (splitLink (trim "/s?f=a,\x7bx\x7d".toList)).1).toOption := by
    decide +kernel
  exact (sameRequest_absoluteUrl_iff plainSource {} _ hplain).mpr (Or.inr (Or.inr hsame))

/-- A block that cannot be read belongs to the last segment, which the first resolution takes
for the directory above. -/
theorem not_sameRequest_braceAfterDots :
    ¬SameRequest (link plainSource {} (absoluteUrl plainSource.url "x/..,\x7bbad")).value
      (link plainSource {} "x/..,\x7bbad").value := by
  have hfirst : (link plainSource {} (absoluteUrl plainSource.url
      "x/..,\x7bbad")).value.toOption.map (fun r => r.url.text) =
      some "https://s.com/,%7Bbad" := by
    decide +kernel
  have hsecond : (link plainSource {} "x/..,\x7bbad").value.toOption.map
      (fun r => r.url.text) = some "https://s.com/x/..,%7Bbad" := by
    decide +kernel
  intro hsame
  have hurl := congrArg (Option.map fun parts => parts.2.1.text) hsame
  rw [Option.map_map, Option.map_map] at hurl
  exact absurd ((hfirst.symm.trans hurl).trans hsecond) (by decide)

end Request

end Folio
