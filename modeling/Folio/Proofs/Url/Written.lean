import Folio.Proofs.Text.Quoted
import Folio.Proofs.Url.Authority
import Folio.Proofs.Url.Path

/-!
# Folio.Proofs.Url.Written

Web addresses in their written form.  What reading leaves is settled
(`isSettled_of_read`): its parts are encoded and its path has no dots to follow.
A settled address is read from its written form as itself, whatever it may be
relative to (`read_chars`).
-/

namespace Folio.Url

open Folio.Text

variable {u base : Url} {scheme s t path : List Char} {a : Authority}

/-- A web address as reading leaves it, with a host that is read as itself. -/
structure IsSettled (u : Url) : Prop where
  web : schemeKind u.scheme = .web
  authority : ∃ a, u.authority = some a ∧ a.IsSettled u.scheme
  path : IsPath u.path
  query : ∀ q, u.query = some q → ∀ c ∈ q, keptInQuery true c = true
  fragment : ∀ f, u.fragment = some f → ∀ c ∈ f, keptInFragment c = true

/-! ## Schemes -/

theorem mem_of_schemeKind_web (h : schemeKind scheme = .web) :
    scheme ∈ ["http".toList, "https".toList, "ws".toList, "wss".toList, "ftp".toList] := by
  rw [schemeKind] at h
  split at h
  · contradiction
  · split at h
    · next hport =>
        rw [defaultPort?] at hport
        split_ifs at hport with hhttp hhttps hftp
        · rcases hhttp with rfl | rfl <;> decide
        · rcases hhttps with rfl | rfl <;> decide
        · rw [hftp]
          decide
        · contradiction
    · contradiction

theorem splitScheme?_append (h : schemeKind scheme = .web) (s : List Char) :
    splitScheme? (scheme ++ ':' :: s) = some (scheme, s) := by
  have hscheme := mem_of_schemeKind_web h
  simp only [List.mem_cons, List.not_mem_nil, or_false] at hscheme
  rcases hscheme with rfl | rfl | rfl | rfl | rfl <;> rfl

theorem read_of_scheme {base : Option Url} (h : splitScheme? (cleaned s) = some (scheme, t)) :
    read base s = afterScheme base scheme t := by
  rw [read.eq_def]
  simp only [h]

/-! ## Queries and fragments -/

/-- The query and the fragment as they are written. -/
def tailText (query fragment : Option (List Char)) : List Char :=
  (match query with
    | some q => '?' :: q
    | none => []) ++
  match fragment with
  | some f => '#' :: f
  | none => []

theorem queryAndFragment_tailText {query fragment : Option (List Char)}
    (hquery : ∀ q, query = some q → ∀ c ∈ q, keptInQuery true c = true)
    (hfragment : ∀ f, fragment = some f → ∀ c ∈ f, keptInFragment c = true) :
    queryAndFragment .web (tailText query fragment) = (query, fragment) := by
  have hend {f : List Char} (hf : fragment = some f) : encodeText keptInFragment f = f :=
    encodeText_of_keep keepsEscapes_fragment (hfragment f hf)
  cases query with
  | none =>
      cases fragment with
      | none => rfl
      | some f => exact congrArg (fun f => (none, some f)) (hend rfl)
  | some q =>
      have hq := hquery q rfl
      have hplain : ∀ c ∈ q, (c != '#') = true := fun c hc => by
        rw [bne_iff_ne]
        rintro rfl
        exact absurd (hq '#' hc) (by decide)
      have hencode : encodeText (keptInQuery SchemeKind.web.isSpecial) q = q :=
        encodeText_of_keep (keepsEscapes_query true) hq
      cases fragment with
      | none =>
          have htake : q.takeWhile (· != '#') = q := List.takeWhile_eq_self_iff.mpr hplain
          simp only [tailText, List.append_nil, queryAndFragment, htake, hencode, List.drop_length]
      | some f =>
          have htake : (q ++ '#' :: f).takeWhile (· != '#') = q := by
            rw [List.takeWhile_append_of_pos hplain]
            simp
          simp only [tailText, List.cons_append, queryAndFragment, htake, hencode, List.drop_left,
            hend rfl]

/-- What has been read is encoded. -/
theorem keep_of_queryAndFragment (kind : SchemeKind) (s : List Char) :
    (∀ q, (queryAndFragment kind s).1 = some q →
      ∀ c ∈ q, keptInQuery kind.isSpecial c = true) ∧
      ∀ f, (queryAndFragment kind s).2 = some f → ∀ c ∈ f, keptInFragment c = true := by
  have hfragment {rest f : List Char} (hf : some (encodeText keptInFragment rest) = some f) :
      ∀ c ∈ f, keptInFragment c = true := by
    intro c hc
    rw [← Option.some.inj hf] at hc
    exact keep_of_mem_encodeText keepsEscapes_fragment hc
  rw [queryAndFragment.eq_def]
  constructor
  · intro q hq c hc
    split at hq
    · rw [← Option.some.inj hq] at hc
      exact keep_of_mem_encodeText (keepsEscapes_query _) hc
    · cases hq
  · intro f hf
    -- the fragment stands behind a query or at the beginning
    split at hf
    · dsimp only at hf
      split at hf
      · exact hfragment hf
      · cases hf
    · dsimp only at hf
      split at hf
      · exact hfragment hf
      · cases hf

/-! ## Paths -/

/-- A URL whose path begins in a directory is settled. -/
theorem isSettled_continuePath (hweb : schemeKind scheme = .web) (ha : a.IsSettled scheme)
    (hpath : IsDirectory path) (s : List Char) :
    (continuePath scheme (some a) .web path s).IsSettled where
  web := hweb
  authority := ⟨a, rfl, ha⟩
  path := isPath_addPath hpath (fun _ hc => absurd hc List.not_mem_nil)
    (fun _ hc => absurd hc List.not_mem_nil) _
  query := (keep_of_queryAndFragment .web _).1
  fragment := (keep_of_queryAndFragment .web _).2

/-- The characters of a path. -/
theorem IsPath.kept_of_mem {c : Char} (h : IsPath path) (hc : c ∈ path) :
    keptInPath c = true := by
  obtain ⟨directory, segment, rfl, ⟨segments, rfl, hsegments⟩, hsegment⟩ := h
  rcases List.mem_append.mp hc with hc | hc
  · rcases List.mem_cons.mp hc with rfl | hc
    · rfl
    · obtain ⟨other, hother, hc⟩ := List.mem_flatMap.mp hc
      rcases List.mem_append.mp hc with hc | hc
      · exact (hsegments other hother).kept c hc
      · rw [List.mem_singleton.mp hc]
        rfl
  · exact hsegment.kept c hc

theorem IsPath.exists_cons (h : IsPath path) : ∃ rest, path = '/' :: rest := by
  obtain ⟨directory, segment, rfl, ⟨segments, rfl, -⟩, -⟩ := h
  exact ⟨_, rfl⟩

/-- A settled path is continued by what is written behind it. -/
theorem continuePath_text (h : IsPath ('/' :: s)) {query fragment : Option (List Char)}
    (hquery : ∀ q, query = some q → ∀ c ∈ q, keptInQuery true c = true)
    (hfragment : ∀ f, fragment = some f → ∀ c ∈ f, keptInFragment c = true)
    (authority : Option Authority) :
    continuePath scheme authority .web ['/'] (s ++ tailText query fragment) =
      ⟨scheme, authority, '/' :: s, query, fragment⟩ := by
  have hinside : ∀ c ∈ s, (!(c == '?' || c == '#')) = true := fun c hc => by
    have hkept := h.kept_of_mem (List.mem_cons_of_mem '/' hc)
    rw [Bool.not_eq_true', Bool.or_eq_false_iff, beq_eq_false_iff_ne, beq_eq_false_iff_ne]
    constructor <;> rintro rfl <;> contradiction
  have htail : (tailText query fragment).takeWhile (fun c => !(c == '?' || c == '#')) = [] ∧
      (tailText query fragment).dropWhile (fun c => !(c == '?' || c == '#')) =
        tailText query fragment := by
    cases query <;> cases fragment <;> exact ⟨rfl, rfl⟩
  have hsplit : splitPath (s ++ tailText query fragment) = (s, tailText query fragment) := by
    rw [splitPath, List.takeWhile_append_of_pos hinside, List.dropWhile_append_of_pos hinside,
      htail.1, htail.2, List.append_nil]
  simp only [continuePath, hsplit, queryAndFragment_tailText hquery hfragment, addPath_of_isPath h]
  rfl

/-! ## Written addresses -/

theorem cleaned_of_forall (h : ∀ c ∈ s, 0x20 < c.toNat) : cleaned s = s := by
  have hmargin {t : List Char} (ht : ∀ c ∈ t, c ∈ s) :
      t.dropWhile (fun c : Char => c.toNat ≤ 0x20) = t := by
    cases t with
    | nil => rfl
    | cons c t =>
        have hc := h c (ht c List.mem_cons_self)
        exact List.dropWhile_cons_of_neg (by simpa using hc)
  have hkeep : ∀ c ∈ s, (!(c == '\t' || c == '\n' || c == '\r')) = true := fun c hc => by
    have hlow := h c hc
    simp only [Bool.not_eq_true', Bool.or_eq_false_iff, beq_eq_false_iff_ne]
    refine ⟨⟨?_, ?_⟩, ?_⟩ <;> rintro rfl <;> exact absurd hlow (by decide)
  rw [cleaned, hmargin fun _ hc => hc, dropEndWhile, hmargin fun _ hc => List.mem_reverse.mp hc,
    List.reverse_reverse]
  exact List.filter_eq_self.mpr hkeep

theorem chars_eq (h : u.authority = some a) : u.chars =
    u.scheme ++ ':' :: '/' :: '/' :: (a.text ++ (u.path ++ tailText u.query u.fragment)) := by
  rw [chars, hierarchy, h]
  simp only [List.cons_append, List.append_assoc]
  rfl

/-- What follows the authority of a settled address is printable. -/
theorem isPrintable_of_mem_tail (h : u.IsSettled) {c : Char}
    (hc : c ∈ u.path ++ tailText u.query u.fragment) : isPrintable c = true ∧ c ≠ ' ' := by
  have hpath {c : Char} (hc : keptInPath c = true) : isPrintable c = true ∧ c ≠ ' ' :=
    ⟨keepsEscapes_path.printable c hc, by rintro rfl; exact absurd hc (by decide)⟩
  have hquery {c : Char} (hc : keptInQuery true c = true) : isPrintable c = true ∧ c ≠ ' ' :=
    ⟨(keepsEscapes_query true).printable c hc, by rintro rfl; exact absurd hc (by decide)⟩
  have hfragment {c : Char} (hc : keptInFragment c = true) : isPrintable c = true ∧ c ≠ ' ' :=
    ⟨keepsEscapes_fragment.printable c hc, by rintro rfl; exact absurd hc (by decide)⟩
  simp only [List.mem_append, tailText] at hc
  rcases hc with hc | hc | hc
  · exact hpath (h.path.kept_of_mem hc)
  · cases hq : u.query with
    | none =>
        rw [hq] at hc
        exact absurd hc List.not_mem_nil
    | some q =>
        rw [hq] at hc
        rcases List.mem_cons.mp hc with rfl | hc
        · exact ⟨rfl, by decide⟩
        · exact hquery (h.query q hq c hc)
  · cases hf : u.fragment with
    | none =>
        rw [hf] at hc
        exact absurd hc List.not_mem_nil
    | some f =>
        rw [hf] at hc
        rcases List.mem_cons.mp hc with rfl | hc
        · exact ⟨rfl, by decide⟩
        · exact hfragment (h.fragment f hf c hc)

/-- The characters of a settled address are neither blanks nor control characters. -/
theorem lt_of_mem_chars (h : u.IsSettled) {c : Char} (hc : c ∈ u.chars) : 0x20 < c.toNat := by
  obtain ⟨a, hauthority, ha⟩ := h.authority
  have hscheme : ∀ scheme ∈ ["http".toList, "https".toList, "ws".toList, "wss".toList,
      "ftp".toList], ∀ c ∈ scheme, 0x20 < c.toNat := by decide
  rw [chars_eq hauthority, List.mem_append, List.mem_cons, List.mem_cons, List.mem_cons,
    List.mem_append] at hc
  rcases hc with hc | rfl | rfl | rfl | hc | hc
  · exact hscheme _ (mem_of_schemeKind_web h.web) c hc
  · decide
  · decide
  · decide
  · exact (ha.of_mem_text hc).1
  · have hprintable := isPrintable_of_mem_tail h hc
    exact lt_of_isPrintable hprintable.1 hprintable.2

/-- A settled address has no blanks at its edges. -/
theorem hasEdges_chars (h : u.IsSettled) : HasEdges u.chars := by
  obtain ⟨a, hauthority, -⟩ := h.authority
  have hscheme : ∀ scheme ∈ ["http".toList, "https".toList, "ws".toList, "wss".toList,
      "ftp".toList], scheme ≠ [] ∧ ∀ c ∈ scheme, isBlank c = false := by decide
  have hfirst := hscheme _ (mem_of_schemeKind_web h.web)
  obtain ⟨rest, hrest⟩ := h.path.exists_cons
  have hne : u.path ++ tailText u.query u.fragment ≠ [] := by
    rw [hrest]
    exact List.cons_ne_nil _ _
  have htail : HasEdges (u.path ++ tailText u.query u.fragment) :=
    .of_forall hne fun c hc => isBlank_of_isPrintable (isPrintable_of_mem_tail h hc)
  rw [chars_eq hauthority, ← List.cons_append, ← List.cons_append, ← List.cons_append]
  exact (HasEdges.of_forall hfirst.1 hfirst.2).between htail _

/-- How an address is read behind the slashes. -/
theorem afterSlashes_web (scheme s : List Char) : afterSlashes .web scheme s =
    (readAuthority .web scheme (splitAuthority .web s).1 (splitAuthority .web s).2).map fun a =>
      continuePath scheme (some a) .web ['/'] (match (splitAuthority .web s).2 with
        | c :: rest => if c = '/' ∨ c = '\\' then rest else c :: rest
        | [] => []) := by
  rw [afterSlashes]
  generalize splitAuthority .web s = parts
  obtain ⟨text, after⟩ := parts
  dsimp only
  cases readAuthority .web scheme text after with
  | error f => rfl
  | ok a =>
      cases after with
      | nil => rfl
      | cons c rest =>
          by_cases hslash : c = '/' ∨ c = '\\'
          · simp only [if_pos hslash]
            rfl
          · simp only [if_neg hslash]
            rfl

theorem afterSlashes_text (ha : a.IsSettled scheme)
    (h : IsPath path) {query fragment : Option (List Char)}
    (hquery : ∀ q, query = some q → ∀ c ∈ q, keptInQuery true c = true)
    (hfragment : ∀ f, fragment = some f → ∀ c ∈ f, keptInFragment c = true) :
    afterSlashes .web scheme (a.text ++ (path ++ tailText query fragment)) =
      .ok ⟨scheme, some a, path, query, fragment⟩ := by
  obtain ⟨rest, rfl⟩ := h.exists_cons
  have hsplit : splitAuthority .web (a.text ++ ('/' :: rest ++ tailText query fragment)) =
      (a.text, '/' :: (rest ++ tailText query fragment)) := by
    have hinside : ∀ c ∈ a.text, (!(c == '/' || c == '?' || c == '#' ||
        (c == '\\' && SchemeKind.web.isSpecial))) = true := fun c hc => by
      have hnot := (ha.of_mem_text hc).2
      simp only [String.reduceToList, List.mem_cons, List.not_mem_nil, or_false, not_or] at hnot
      simp [hnot]
    rw [splitAuthority, List.takeWhile_append_of_pos hinside,
      List.dropWhile_append_of_pos hinside]
    simp
  rw [afterSlashes_web, hsplit, readAuthority_text ha]
  exact congrArg Except.ok (continuePath_text h hquery hfragment (some a))

/-- **Written addresses.**  A settled address is read as itself. -/
theorem read_chars (h : u.IsSettled) (base : Option Url) : read base u.chars = .ok u := by
  obtain ⟨a, hauthority, ha⟩ := h.authority
  have hslashes : ('/' :: '/' :: (a.text ++ (u.path ++ tailText u.query u.fragment))).takeWhile
      (fun c => c == '/' || c == '\\') = ['/', '/'] := by
    obtain ⟨c, rest, hcons⟩ := List.exists_cons_of_ne_nil ha.text_ne_nil
    have hnot := (ha.of_mem_text (hcons ▸ List.mem_cons_self)).2
    simp only [String.reduceToList, List.mem_cons, List.not_mem_nil, or_false, not_or] at hnot
    rw [hcons]
    simp [hnot]
  have hafter : afterSlashes .web u.scheme (a.text ++ (u.path ++ tailText u.query u.fragment)) =
      .ok u := by
    rw [afterSlashes_text ha h.path h.query h.fragment, ← hauthority]
  have hscheme : splitScheme? (cleaned u.chars) = some (u.scheme,
      '/' :: '/' :: (a.text ++ (u.path ++ tailText u.query u.fragment))) := by
    rw [cleaned_of_forall fun c hc => lt_of_mem_chars h hc, chars_eq hauthority,
      splitScheme?_append h.web]
  rw [read_of_scheme hscheme]
  simp only [afterScheme, h.web, hslashes]
  cases base.filter (·.scheme == u.scheme) with
  | none => exact hafter
  | some base => exact hafter

/-! ## Read addresses -/

theorem isSettled_of_afterSlashes (hweb : schemeKind scheme = .web)
    (h : afterSlashes .web scheme s = .ok u)
    (hhost : ∀ a, u.authority = some a → host a.host = .ok a.host) : u.IsSettled := by
  rw [afterSlashes_web] at h
  cases ha : readAuthority .web scheme (splitAuthority .web s).1 (splitAuthority .web s).2 with
  | error f =>
      rw [ha] at h
      cases h
  | ok a =>
      rw [ha] at h
      cases h
      exact isSettled_continuePath hweb (isSettled_of_readAuthority ha (hhost a rfl))
        isDirectory_root _

/-- What is relative to a settled address is settled. -/
theorem isSettled_of_relativeTo (hbase : base.IsSettled) (h : relativeTo base s = .ok u)
    (hhost : ∀ a, u.authority = some a → host a.host = .ok a.host) : u.IsSettled := by
  obtain ⟨a, hauthority, ha⟩ := hbase.authority
  have hcontinue {path : List Char} (hpath : IsDirectory path) (rest : List Char) :
      (continuePath base.scheme base.authority .web path rest).IsSettled :=
    hauthority ▸ isSettled_continuePath hbase.web ha hpath rest
  cases s with
  | nil =>
      cases h
      exact { hbase with fragment := fun f hf => by contradiction }
  | cons c rest =>
      simp only [relativeTo, hbase.web] at h
      split_ifs at h with hquery hfragment hslash hslashes
      · cases h
        exact { hbase with
          query := (keep_of_queryAndFragment .web _).1
          fragment := (keep_of_queryAndFragment .web _).2 }
      · cases h
        exact { hbase with fragment := (keep_of_queryAndFragment .web _).2 }
      · exact isSettled_of_afterSlashes hbase.web h hhost
      · cases h
        exact hcontinue isDirectory_root rest
      · cases h
        exact hcontinue isDirectory_root _
      · cases h
        exact hcontinue hbase.path.isDirectory_popSegment _

/-- The text names no scheme but one of a web address. -/
def NamesWeb (s : List Char) : Prop :=
  ∀ scheme rest, splitScheme? (cleaned s) = some (scheme, rest) → schemeKind scheme = .web

/-- **Read addresses.**  What is read from a text that names no other scheme, relative to a
settled address if to any, is settled, if its host is read as itself. -/
theorem isSettled_of_read {base : Option Url} (hbase : ∀ b, base = some b → b.IsSettled)
    (hweb : NamesWeb s) (h : read base s = .ok u)
    (hhost : ∀ a, u.authority = some a → host a.host = .ok a.host) : u.IsSettled := by
  cases hscheme : splitScheme? (cleaned s) with
  | some parts =>
      obtain ⟨scheme, rest⟩ := parts
      have hkind := hweb scheme rest hscheme
      rw [read_of_scheme hscheme] at h
      simp only [afterScheme, hkind] at h
      split at h
      · next b hb =>
          split at h
          · exact isSettled_of_relativeTo (hbase b (Option.filter_eq_some_iff.mp hb).1) h hhost
          · exact isSettled_of_afterSlashes hkind h hhost
      · exact isSettled_of_afterSlashes hkind h hhost
  | none =>
      rw [read.eq_def] at h
      simp only [hscheme] at h
      cases base with
      | none => cases h
      | some b =>
          have hsettled := hbase b rfl
          simp only [hsettled.web] at h
          split_ifs at h with hfragment hopaque hfile
          · cases h
            exact { hsettled with fragment := (keep_of_queryAndFragment .other _).2 }
          · contradiction
          · exact isSettled_of_relativeTo hsettled h hhost

end Folio.Url
