import Folio.Proofs.Url.Written

/-!
# Folio.Proofs.Url.Edges

The edges of URLs.  Every part of a URL that has been read is encoded, so that no
blank stands in it; only the path of a URL without a hierarchy keeps its spaces,
and the last of those is never at the end of the URL (`hasEdges_of_read`).  A
written URL may therefore be trimmed and read again.
-/

namespace Folio.Url

open Folio.Text

variable {u base : Url} {keep : Char → Bool} {kind : SchemeKind}
  {scheme path segment s t : List Char}

/-- No character of the text is a blank. -/
def IsSolid (s : List Char) : Prop := ∀ c ∈ s, isBlank c = false

/-- Two solid texts are one. -/
theorem IsSolid.append (hs : IsSolid s) (ht : IsSolid t) : IsSolid (s ++ t) :=
  List.forall_mem_append.mpr ⟨hs, ht⟩

/-- A text in characters of a solid one is solid. -/
theorem IsSolid.of_subset (h : IsSolid t) (hsub : s ⊆ t) : IsSolid s := fun c hc => h c (hsub hc)

theorem isSolid_nil : IsSolid [] := fun _ hc => absurd hc List.not_mem_nil

theorem isSolid_slash : IsSolid ['/'] := by simp [IsSolid, isBlank]

/-! ## Encoded text -/

/-- What is kept in an opaque path is printable and keeps escapes. -/
theorem keepsEscapes_opaque : KeepsEscapes keptOpaque where
  printable _ h := h
  percent := rfl
  digit := by decide

/-- Every character of an encoded text comes from one character of the text. -/
theorem exists_of_mem_encodeText {d : Char} (h : d ∈ encodeText keep s) :
    ∃ c ∈ s, d ∈ encodeText keep [c] := by
  induction s with
  | nil => exact absurd h List.not_mem_nil
  | cons c s ih =>
      rw [← List.singleton_append, encodeText_append, List.mem_append] at h
      rcases h with h | h
      · exact ⟨c, List.mem_cons_self, h⟩
      · obtain ⟨e, he, hd⟩ := ih h
        exact ⟨e, List.mem_cons_of_mem c he, hd⟩

/-- Encoding leaves no blank but a space that it keeps. -/
theorem isSolid_encodeText (h : KeepsEscapes keep) (hspace : ' ' ∈ s → keep ' ' = false) :
    IsSolid (encodeText keep s) := by
  intro d hd
  have hkept := keep_of_mem_encodeText h hd
  refine isBlank_of_isPrintable ⟨h.printable d hkept, ?_⟩
  rintro rfl
  obtain ⟨c, hc, hd⟩ := exists_of_mem_encodeText hd
  rcases mem_encodeText_singleton hd with rfl | hescape
  · rw [hspace hc] at hkept
    contradiction
  · exact absurd hescape (by decide)

/-! ## Paths -/

/-- What goes up to the last slash is a beginning of the path. -/
theorem upToSlash_isPrefix (path : List Char) : upToSlash path <+: path :=
  dropEndWhile_isPrefix (· != '/') path

/-- Leaving a directory adds no blanks. -/
theorem IsSolid.popSegment (h : IsSolid path) (kind : SchemeKind) :
    IsSolid (Url.popSegment kind path) := by
  rw [Url.popSegment]
  split
  · exact h
  · exact h.of_subset (upToSlash_isPrefix path).subset

/-- Climbing adds no blanks. -/
theorem IsSolid.climb (h : IsSolid path) (kind : SchemeKind) (slash : Bool) :
    IsSolid (Url.climb kind path slash) := by
  have hpop : IsSolid (Url.popSegment kind
      (if hasRemovableSlash path then path.dropLast else path)) := by
    refine IsSolid.popSegment ?_ kind
    split
    · exact h.of_subset (List.dropLast_subset path)
    · exact h
  dsimp only [Url.climb]
  generalize Url.popSegment kind _ = popped at hpop ⊢
  split
  · exact hpop.append isSolid_slash
  · exact hpop

/-- A drive is written with a colon. -/
theorem isSolid_driveSegment (isDrive : Bool) (segment : List Char) : IsSolid segment →
    IsSolid (match segment with
      | [c, _] => if isDrive then [c, ':'] else segment
      | segment => segment) := by
  intro h
  split
  · next c d =>
    split
    · exact (h.of_subset (by simp) : IsSolid [c]).append (t := [':']) (by simp [IsSolid, isBlank])
    · exact h
  · exact h

/-- Entering a segment without blanks adds none. -/
theorem IsSolid.addSegment (h : IsSolid path) (hsegment : IsSolid segment) (kind : SchemeKind)
    (slash : Bool) : IsSolid (Url.addSegment kind path segment slash) := by
  have hend : IsSolid (if slash then ['/'] else []) := by
    split
    · exact isSolid_slash
    · exact isSolid_nil
  have hfront {b : Bool} : IsSolid (if b then path ++ ['/'] else path) := by
    split
    · exact h.append isSolid_slash
    · exact h
  rw [Url.addSegment]
  split
  · exact h.climb kind slash
  · split
    · split
      · exact h
      · exact h.append isSolid_slash
    · exact (hfront.append (isSolid_driveSegment _ segment hsegment)).append hend

/-- Following a path adds no blanks. -/
theorem IsSolid.addPath (h : IsSolid path) (hsegment : IsSolid segment) (kind : SchemeKind)
    (s : List Char) : IsSolid (Url.addPath kind path segment s) := by
  have hreverse {segment : List Char} (hsegment : IsSolid segment) : IsSolid segment.reverse :=
    fun c hc => hsegment c (List.mem_reverse.mp hc)
  induction s generalizing path segment with
  | nil => exact h.addSegment (hreverse hsegment) kind false
  | cons c s ih =>
      rw [Url.addPath]
      split
      · exact ih (h.addSegment (hreverse hsegment) kind true) isSolid_nil
      · exact ih h (hreverse (isSolid_encodeText keepsEscapes_path fun _ => rfl) |>.append hsegment)

/-- Settling a path adds no blanks. -/
theorem IsSolid.settlePath (h : IsSolid path) (kind : SchemeKind) :
    IsSolid (Url.settlePath kind path) := by
  rw [Url.settlePath]
  split
  · exact isSolid_slash.append (h.of_subset (List.dropWhile_suffix _).subset)
  · exact h

/-! ## Authorities -/

/-- An address of version 6 has no blanks. -/
theorem isSolid_ipv6Text (pieces : List Nat) : IsSolid (ipv6Text pieces) := by
  obtain ⟨inside, hinside, hdigits⟩ := exists_ipv6Text_eq pieces
  have hplain : ∀ c ∈ "0123456789abcdef:".toList, isBlank c = false := by decide
  have hbracket : IsSolid ['['] ∧ IsSolid [']'] := by simp [IsSolid, isBlank]
  rw [hinside]
  exact hbracket.1.append (IsSolid.append (fun c hc => hplain c (hdigits c hc)) hbracket.2)

/-- A host of a scheme that is no web scheme has no blanks. -/
theorem isSolid_opaqueHost {name : List Char} (h : opaqueHost s = .ok name) : IsSolid name := by
  rw [opaqueHost.eq_def] at h
  split at h
  · split at h
    · rw [← Except.ok.inj h]
      exact isSolid_ipv6Text _
    · contradiction
  · split_ifs at h with hforbidden
    rw [← Except.ok.inj h]
    refine isSolid_encodeText keepsEscapes_opaque fun hspace => absurd ?_ hforbidden
    exact List.any_eq_true.mpr ⟨' ', hspace, rfl⟩

/-- How the authority of a URL is read whose scheme has no rules of its own. -/
theorem readAuthority_other (scheme s after : List Char) :
    readAuthority .other scheme s after =
      let (username, password, rest) := credentials s
      let (hostText, portText) := splitHost false rest
      if s.head? = some '@' ∧ rest.isEmpty ∧ !after.isEmpty ∧ (s.filter (· == '@')).length = 1 then
        .error .emptyHost
      else (opaqueHost hostText).bind fun host =>
        if host.isEmpty && !portText.isEmpty then .error .emptyHost
        else (port scheme (portText.drop 1)).bind fun port =>
          if host.isEmpty && !(username.isEmpty && password.isEmpty) then .error .emptyHost
          else .ok ⟨username, password, host, port⟩ := rfl

/-- Encoded credentials have no blanks. -/
theorem isSolid_of_keptInCredentials (h : ∀ c ∈ s, keptInCredentials c = true) : IsSolid s :=
  fun c hc => isBlank_of_isPrintable ⟨keepsEscapes_credentials.printable c (h c hc),
    by rintro rfl; exact absurd (h _ hc) (by decide)⟩

/-- An authority with nothing blank in its parts. -/
theorem isSolid_text {a : Authority} (husername : ∀ c ∈ a.username, keptInCredentials c = true)
    (hpassword : ∀ c ∈ a.password, keptInCredentials c = true) (hhost : IsSolid a.host) :
    IsSolid a.text := by
  have hmark : IsSolid [':'] ∧ IsSolid ['@'] := by simp [IsSolid, isBlank]
  have hport : IsSolid a.portText := fun c hc =>
    (by decide : ∀ d ∈ ":0123456789".toList, isBlank d = false) c (a.of_mem_portText hc)
  rw [Authority.text_eq, Authority.credentials]
  refine IsSolid.append ?_ (hhost.append hport)
  split
  · exact isSolid_nil
  · refine (IsSolid.append (isSolid_of_keptInCredentials husername) ?_).append hmark.2
    split
    · exact isSolid_nil
    · exact hmark.1.append (isSolid_of_keptInCredentials hpassword)

/-- An authority of a scheme that is no web scheme has no blanks. -/
theorem isSolid_of_readAuthority {a : Authority} {after : List Char}
    (h : readAuthority .other scheme s after = .ok a) : IsSolid a.text := by
  rw [readAuthority_other] at h
  generalize hcredentials : credentials s = parts at h
  obtain ⟨username, password, rest⟩ := parts
  dsimp only at h
  split at h
  · cases h
  cases hhost : opaqueHost (splitHost false rest).1 with
  | error f =>
      rw [hhost] at h
      cases h
  | ok name =>
      rw [hhost] at h
      change (if _ then _ else _) = _ at h
      split at h
      · cases h
      cases hport : port scheme ((splitHost false rest).2.drop 1) with
      | error f =>
          rw [hport] at h
          cases h
      | ok port =>
          rw [hport] at h
          change (if _ then _ else _) = _ at h
          split at h
          · cases h
          cases h
          obtain ⟨husername, hpassword⟩ := keep_of_credentials hcredentials
          exact isSolid_text husername hpassword (isSolid_opaqueHost hhost)

/-! ## URLs -/

/-- The text begins with a character that is not blank, as schemes do. -/
def IsSchemeText (scheme : List Char) : Prop := ∃ c rest, scheme = c :: rest ∧ isBlank c = false

/-- The query and the fragment of a URL, and its path as far as it has segments, have no
blanks, and the path does not end with one where nothing follows it.  No authority of a scheme
without rules of its own has blanks; other URLs have an authority and a path. -/
structure IsTidy (u : Url) : Prop where
  scheme : IsSchemeText u.scheme
  special : schemeKind u.scheme ≠ .other → u.authority ≠ none ∧ u.path ≠ []
  web : schemeKind u.scheme = .web → IsPath u.path
  other : schemeKind u.scheme = .other → ∀ a, u.authority = some a → IsSolid a.text
  path : u.isOpaque = false → IsSolid u.path
  lastOfPath : u.query = none → u.fragment = none → ∀ c ∈ u.path.getLast?, isBlank c = false
  query : ∀ q, u.query = some q → IsSolid q
  fragment : ∀ f, u.fragment = some f → IsSolid f

/-- A tidy URL of a known scheme has a path of segments. -/
theorem IsTidy.not_isOpaque (h : u.IsTidy) (hspecial : schemeKind u.scheme ≠ .other) :
    u.isOpaque = false := by
  have hsome := Option.isSome_iff_ne_none.mpr (h.special hspecial).1
  rw [isOpaque, Option.isNone_eq_false_iff.mpr hsome, Bool.false_and]

/-- A solid text does not end with a blank. -/
theorem IsSolid.getLast? (h : IsSolid s) : ∀ c ∈ s.getLast?, isBlank c = false :=
  fun c hc => h c (List.mem_of_getLast? hc)

/-- Another query and another fragment. -/
theorem IsTidy.withTail (h : u.IsTidy) {query fragment : Option (List Char)}
    (hend : u.isOpaque = false ∨ query ≠ none ∨ fragment ≠ none)
    (hquery : ∀ q, query = some q → IsSolid q) (hfragment : ∀ f, fragment = some f → IsSolid f) :
    IsTidy { u with query, fragment } where
  scheme := h.scheme
  special := h.special
  web := h.web
  other := h.other
  path := h.path
  lastOfPath hq hf := by
    rcases hend with hclear | hq' | hf'
    · exact (h.path hclear).getLast?
    · exact absurd hq hq'
    · exact absurd hf hf'
  query := hquery
  fragment := hfragment

/-- A query and a fragment have no blanks once they are read. -/
theorem isSolid_of_queryAndFragment (kind : SchemeKind) (s : List Char) :
    (∀ q, (queryAndFragment kind s).1 = some q → IsSolid q) ∧
      ∀ f, (queryAndFragment kind s).2 = some f → IsSolid f := by
  obtain ⟨hquery, hfragment⟩ := keep_of_queryAndFragment kind s
  constructor
  · intro q hq c hc
    have hkept := hquery q hq c hc
    exact isBlank_of_isPrintable ⟨(keepsEscapes_query _).printable c hkept, by
      rintro rfl
      cases hspecial : kind.isSpecial <;> rw [hspecial] at hkept <;> contradiction⟩
  · intro f hf c hc
    have hkept := hfragment f hf c hc
    exact isBlank_of_isPrintable ⟨keepsEscapes_fragment.printable c hkept, by
      rintro rfl
      contradiction⟩

/-- What is read behind an authority is tidy. -/
theorem isTidy_continuePath {authority : Option Authority} (hscheme : IsSchemeText scheme)
    (hkind : schemeKind scheme = kind) (hspecial : kind ≠ .other → authority ≠ none)
    (hweb : kind = .web → IsDirectory path)
    (hother : kind = .other → ∀ a, authority = some a → IsSolid a.text) (hpath : IsSolid path)
    (s : List Char) : (continuePath scheme authority kind path s).IsTidy := by
  have hsolid : IsSolid (settlePath kind (addPath kind path [] (splitPath s).1)) :=
    (hpath.addPath isSolid_nil kind _).settlePath kind
  have hdirectory (h : kind = .web) :
      IsPath (settlePath kind (addPath kind path [] (splitPath s).1)) := by
    rw [h]
    exact isPath_addPath (hweb h) (fun _ hc => absurd hc List.not_mem_nil)
      (fun _ hc => absurd hc List.not_mem_nil) _
  exact {
    scheme := hscheme
    special := fun h => by
      refine ⟨hspecial (hkind ▸ h), ?_⟩
      cases kind with
      | other => exact absurd hkind h
      | file => exact List.cons_ne_nil _ _
      | web =>
          obtain ⟨rest, hrest⟩ := (hdirectory rfl).exists_cons
          exact hrest.trans_ne (List.cons_ne_nil _ _)
    web := fun h => hdirectory (hkind.symm.trans h)
    other := fun h => hother (hkind.symm.trans h)
    path := fun _ => hsolid
    lastOfPath := fun _ _ => hsolid.getLast?
    query := (isSolid_of_queryAndFragment kind _).1
    fragment := (isSolid_of_queryAndFragment kind _).2 }

/-- What is read behind the slashes is tidy, unless it is a file. -/
theorem isTidy_of_afterSlashes (hscheme : IsSchemeText scheme) (hkind : schemeKind scheme = kind)
    (hfile : kind ≠ .file) (h : afterSlashes kind scheme s = .ok u) : u.IsTidy := by
  cases kind with
  | file => exact absurd rfl hfile
  | web =>
      rw [afterSlashes_web] at h
      cases ha : readAuthority .web scheme (splitAuthority .web s).1 (splitAuthority .web s).2 with
      | error f =>
          rw [ha] at h
          cases h
      | ok a =>
          rw [ha] at h
          cases h
          exact isTidy_continuePath hscheme hkind (fun _ => Option.some_ne_none a)
            (fun _ => isDirectory_root) (fun h => by contradiction) isSolid_slash _
  | other =>
      rw [afterSlashes] at h
      generalize splitAuthority .other s = parts at h
      obtain ⟨text, after⟩ := parts
      dsimp only at h
      cases ha : readAuthority .other scheme text after with
      | error f =>
          rw [ha] at h
          cases h
      | ok a =>
          rw [ha] at h
          have hsolid : ∀ b, some a = some b → IsSolid b.text :=
            fun b hb => Option.some.inj hb ▸ isSolid_of_readAuthority ha
          have hend {query fragment : Option (List Char)} (hquery : ∀ q, query = some q → IsSolid q)
              (hfragment : ∀ f, fragment = some f → IsSolid f) :
              IsTidy ⟨scheme, some a, [], query, fragment⟩ :=
            { scheme := hscheme
              special := fun h => absurd hkind h
              web := fun h => by rw [hkind] at h; contradiction
              other := fun _ => hsolid
              path := fun _ => isSolid_nil
              lastOfPath := fun _ _ => isSolid_nil.getLast?
              query := hquery
              fragment := hfragment }
          cases after with
          | nil =>
              cases h
              exact hend (fun q hq => by contradiction) fun f hf => by contradiction
          | cons c rest =>
              change (if _ then _ else _) = _ at h
              split at h
              · cases h
                exact hend (isSolid_of_queryAndFragment .other _).1
                  (isSolid_of_queryAndFragment .other _).2
              · cases h
                exact isTidy_continuePath hscheme hkind (fun h => absurd rfl h)
                  (fun h => by contradiction) (fun _ => hsolid) isSolid_nil _

/-- The URL of a file on the host of the base, if there is one. -/
def localFile (base : Option Url) (s : List Char) : Except Failure Url :=
  match s, base with
  | c :: rest, base =>
    if c == '/' || c == '\\' then
      let host := if startsWithDrive rest then [] else
        ((base.bind (·.authority)).map (·.host)).getD []
      .ok (continuePath "file".toList (some (onlyHost host)) .file ['/'] rest)
    else
      match base with
      | none => .ok (continuePath "file".toList (some (onlyHost [])) .file ['/'] s)
      | some base =>
        if c = '?' ∨ c = '#' then
          let (query, fragment) := queryAndFragment .file s
          .ok { base with query := if c = '#' then base.query else query, fragment }
        else if startsWithDrive s then
          .ok (continuePath "file".toList (some (onlyHost [])) .file ['/'] s)
        else .ok (continuePath "file".toList base.authority .file (popSegment .file base.path) s)
  | [], some base => .ok { base with fragment := none }
  | [], none => .ok ⟨"file".toList, some (onlyHost []), ['/'], none, none⟩

/-- A file is on the host that is named, or on that of the base. -/
theorem fileUrl_cases (base : Option Url) (s : List Char) :
    fileUrl base s = localFile (base.filter (·.scheme == "file".toList)) s ∨
      (∃ f, fileUrl base s = .error f) ∨ ∃ host rest, fileUrl base s =
        .ok (continuePath "file".toList (some (onlyHost host)) .file ['/'] rest) := by
  rw [fileUrl.eq_def]
  dsimp only
  split
  · next a b rest =>
    split
    · right
      split
      · exact Or.inr ⟨_, _, rfl⟩
      · split
        · exact Or.inr ⟨_, _, rfl⟩
        · cases host (rest.takeWhile fun c => !(c == '/' || c == '\\' || c == '?' || c == '#')) with
          | error f => exact Or.inl ⟨f, rfl⟩
          | ok name => exact Or.inr ⟨_, _, rfl⟩
    · exact Or.inl rfl
  · exact Or.inl rfl

theorem isSchemeText_file : IsSchemeText "file".toList := ⟨'f', "ile".toList, rfl, rfl⟩

theorem isTidy_file (host rest : List Char) :
    (continuePath "file".toList (some (onlyHost host)) .file ['/'] rest).IsTidy :=
  isTidy_continuePath isSchemeText_file rfl (fun _ => Option.some_ne_none _)
    (fun h => by contradiction) (fun h => by contradiction) isSolid_slash rest

/-- A path on a drive is tidy. -/
theorem isTidy_of_localFile {base : Option Url}
    (hbase : ∀ b, base = some b → b.IsTidy ∧ b.scheme = "file".toList)
    (h : localFile base s = .ok u) : u.IsTidy := by
  have hclear (b : Url) (hb : base = some b) : b.isOpaque = false :=
    (hbase b hb).1.not_isOpaque (by rw [(hbase b hb).2]; decide)
  rw [localFile.eq_def] at h
  split at h
  · next c rest =>
    split at h
    · cases h
      exact isTidy_file _ _
    · split at h
      · cases h
        exact isTidy_file _ _
      · next b =>
        obtain ⟨htidy, hscheme⟩ := hbase b rfl
        dsimp only at h
        split_ifs at h with hmark hhash hdrive
        · cases h
          exact htidy.withTail (Or.inl (hclear b rfl)) htidy.query
            (isSolid_of_queryAndFragment .file _).2
        · cases h
          exact htidy.withTail (Or.inl (hclear b rfl)) (isSolid_of_queryAndFragment .file _).1
            (isSolid_of_queryAndFragment .file _).2
        · cases h
          exact isTidy_file _ _
        · cases h
          have hspecial : schemeKind b.scheme ≠ .other := by rw [hscheme]; decide
          exact isTidy_continuePath isSchemeText_file rfl (fun _ => (htidy.special hspecial).1)
            (fun h => by contradiction) (fun h => by contradiction)
            ((htidy.path (hclear b rfl)).popSegment .file) _
  · next b =>
    cases h
    exact (hbase b rfl).1.withTail (Or.inl (hclear b rfl)) (hbase b rfl).1.query
      fun f hf => by contradiction
  · cases h
    exact {
      scheme := isSchemeText_file
      special := fun _ => ⟨Option.some_ne_none _, List.cons_ne_nil _ _⟩
      web := fun h => by contradiction
      other := fun h => by contradiction
      path := fun _ => isSolid_slash
      lastOfPath := fun _ _ => isSolid_slash.getLast?
      query := fun q hq => by contradiction
      fragment := fun f hf => by contradiction }

/-- A file is tidy. -/
theorem isTidy_of_fileUrl {base : Option Url} (hbase : ∀ b, base = some b → b.IsTidy)
    (h : fileUrl base s = .ok u) : u.IsTidy := by
  rcases fileUrl_cases base s with hlocal | ⟨f, herror⟩ | ⟨host, rest, hfile⟩
  · refine isTidy_of_localFile (fun b hb => ?_) (hlocal.symm.trans h)
    obtain ⟨hsome, hscheme⟩ := Option.filter_eq_some_iff.mp hb
    exact ⟨hbase b hsome, beq_iff_eq.mp hscheme⟩
  · rw [herror] at h
    contradiction
  · rw [hfile] at h
    cases h
    exact isTidy_file host rest

/-- What is relative to a tidy URL with a hierarchy is tidy. -/
theorem isTidy_of_relativeTo (hbase : base.IsTidy) (hfile : schemeKind base.scheme ≠ .file)
    (hclear : base.isOpaque = false) (h : relativeTo base s = .ok u) : u.IsTidy := by
  have hcontinue {path : List Char} (hweb : schemeKind base.scheme = .web → IsDirectory path)
      (hpath : IsSolid path) (rest : List Char) :
      (continuePath base.scheme base.authority (schemeKind base.scheme) path rest).IsTidy :=
    isTidy_continuePath hbase.scheme rfl (fun h => (hbase.special h).1) hweb hbase.other hpath rest
  rw [relativeTo.eq_def] at h
  split at h
  · cases h
    exact hbase.withTail (Or.inl hclear) hbase.query fun f hf => by contradiction
  · dsimp only at h
    split_ifs at h with hquery hfragment hslash hslashes hempty
    · cases h
      exact hbase.withTail (Or.inl hclear) (isSolid_of_queryAndFragment _ _).1
        (isSolid_of_queryAndFragment _ _).2
    · cases h
      exact hbase.withTail (Or.inl hclear) hbase.query (isSolid_of_queryAndFragment _ _).2
    · exact isTidy_of_afterSlashes hbase.scheme rfl hfile h
    · cases h
      exact hcontinue (fun _ => isDirectory_root) isSolid_slash _
    · cases h
      exact hcontinue (fun _ => isDirectory_root) isSolid_slash _
    · cases h
      exact hcontinue (fun hweb => by rw [hweb]; exact (hbase.web hweb).isDirectory_popSegment)
        ((hbase.path hclear).popSegment _) _

/-! ## Texts that are read -/

@[simp] theorem encodeText_singleton_ne_nil (keep : Char → Bool) (c : Char) :
    encodeText keep [c] ≠ [] := by
  have hbytes : Utf8.encode [c] ≠ [] := by
    rw [Utf8.encode, List.flatMap_singleton, String.utf8EncodeChar]
    split_ifs <;> exact List.cons_ne_nil _ _
  obtain ⟨b, bytes, hcons⟩ := List.exists_cons_of_ne_nil hbytes
  rw [encodeText, hcons, encodeBytes, List.flatMap_cons]
  refine List.append_ne_nil_of_left_ne_nil ?_ _
  split <;> exact List.cons_ne_nil _ _

/-- The first character of an encoded text is the first of the text, or begins an escape. -/
theorem startsWith_encodeText {c d : Char} (hd : d ∉ "%0123456789ABCDEF".toList) (hne : d ≠ c)
    (s : List Char) : startsWith [d] (encodeText keep (c :: s)) = false := by
  obtain ⟨first, rest, hcons⟩ := List.exists_cons_of_ne_nil (encodeText_singleton_ne_nil keep c)
  have happend : encodeText keep (c :: s) = first :: (rest ++ encodeText keep s) := by
    rw [← List.singleton_append, encodeText_append, hcons, List.cons_append]
  have hfirst : first = c ∨ first ∈ "%0123456789ABCDEF".toList :=
    mem_encodeText_singleton (hcons ▸ List.mem_cons_self)
  have hdiff : d ≠ first := by
    rintro rfl
    exact hfirst.elim hne hd
  rw [happend, startsWith, stripPrefix?, if_neg hdiff]
  rfl

/-- Nothing blank stands at the end of a text whose margins are cut off. -/
theorem lt_of_getLast?_cleaned (s : List Char) : ∀ c ∈ (cleaned s).getLast?, 0x20 < c.toNat := by
  rw [cleaned, dropEndWhile]
  generalize s.dropWhile _ = t
  cases hdrop : t.reverse.dropWhile fun c : Char => c.toNat ≤ 0x20 with
  | nil => intro c hc; contradiction
  | cons d rest =>
      have hd := List.head?_dropWhile_not (fun c : Char => c.toNat ≤ 0x20) t.reverse
      rw [hdrop] at hd
      have hlow : 0x20 < d.toNat := by simpa using hd
      have hkeep : (!(d == '\t' || d == '\n' || d == '\r')) = true := by
        simp only [Bool.not_eq_true', Bool.or_eq_false_iff, beq_eq_false_iff_ne]
        refine ⟨⟨?_, ?_⟩, ?_⟩ <;> rintro rfl <;> exact absurd hlow (by decide)
      have hlast : [d].filter (fun c => !(c == '\t' || c == '\n' || c == '\r')) = [d] :=
        List.filter_cons_of_pos hkeep
      rw [List.reverse_cons, List.filter_append, hlast, List.getLast?_concat]
      intro c hc
      rw [← Option.some.inj hc]
      exact hlow

theorem isBlank_lowerAscii {c : Char} (h : isAsciiLetter c = true) :
    isBlank (lowerAscii c) = false := by
  have hletters : ∀ n < 128, isAsciiLetter (Char.ofNat n) = true →
      isBlank (lowerAscii (Char.ofNat n)) = false := by decide
  have hlow : c.toNat < 128 := by
    simp only [isAsciiLetter, Bool.or_eq_true, Bool.and_eq_true, decide_eq_true_eq, Char.le_def,
      UInt32.le_iff_toNat_le] at h
    exact Nat.lt_of_le_of_lt (h.elim (·.2) fun h => h.2.trans (by decide)) (by decide)
  have hc := hletters c.toNat hlow
  rw [Char.ofNat_toNat] at hc
  exact hc h

/-- The scheme that a text begins with, and the rest. -/
theorem of_splitScheme? (h : splitScheme? s = some (scheme, t)) :
    IsSchemeText scheme ∧ t <:+ s := by
  rw [splitScheme?.eq_def] at h
  split at h
  · contradiction
  · next c rest =>
    split_ifs at h with hletter
    rw [Bool.not_eq_true', Bool.not_eq_false] at hletter
    dsimp only at h
    split at h
    · next after hdrop =>
      cases h
      have hfirst : (isAsciiAlnum c || c == '+' || c == '-' || c == '.') = true := by
        simp [isAsciiAlnum, hletter]
      constructor
      · simp only [List.takeWhile_cons, hfirst, if_true, List.map_cons]
        exact ⟨lowerAscii c, _, rfl, isBlank_lowerAscii hletter⟩
      · exact (hdrop ▸ List.suffix_cons ':' _).trans (List.drop_suffix _ _)
    · contradiction

/-- Without a query and a fragment nothing follows the path. -/
theorem snd_splitPath_eq_nil (h : queryAndFragment kind (splitPath s).2 = (none, none)) :
    (splitPath s).2 = [] := by
  cases hrest : (splitPath s).2 with
  | nil => rfl
  | cons c rest =>
      have hmark : (!(c == '?' || c == '#')) = false := by
        have hfirst := List.head?_dropWhile_not (fun c => !(c == '?' || c == '#')) s
        rw [← show (splitPath s).2 = s.dropWhile fun c => !(c == '?' || c == '#') from rfl, hrest]
          at hfirst
        exact hfirst
      rw [Bool.not_eq_false', Bool.or_eq_true, beq_iff_eq, beq_iff_eq] at hmark
      rw [hrest] at h
      rcases hmark with rfl | rfl
      · exact absurd (congrArg Prod.fst h) (Option.some_ne_none _)
      · exact absurd (congrArg Prod.snd h) (Option.some_ne_none _)

/-- A URL without a hierarchy.  Its path keeps spaces, and begins with no slash. -/
theorem isTidy_opaque (hscheme : IsSchemeText scheme) (hkind : schemeKind scheme = .other)
    (hslash : s.head? ≠ some '/') (hlast : ∀ c ∈ s.getLast?, 0x20 < c.toNat) :
    IsTidy ⟨scheme, none, encodeText keptOpaque (splitPath s).1,
      (queryAndFragment .other (splitPath s).2).1,
      (queryAndFragment .other (splitPath s).2).2⟩ where
  scheme := hscheme
  special h := absurd hkind h
  web h := by rw [hkind] at h; contradiction
  other _ a ha := by contradiction
  path hclear := by
    have hstart : startsWith ['/'] (encodeText keptOpaque (splitPath s).1) = false := by
      cases hpath : (splitPath s).1 with
      | nil => rfl
      | cons c path =>
          refine startsWith_encodeText (by decide) ?_ path
          rintro rfl
          obtain ⟨rest, hrest⟩ : (splitPath s).1 <+: s := List.takeWhile_prefix _
          rw [hpath] at hrest
          exact hslash (hrest ▸ rfl)
    rw [isOpaque, hstart] at hclear
    contradiction
  lastOfPath hquery hfragment := by
    have hrest := snd_splitPath_eq_nil (Prod.ext hquery hfragment)
    have hall : (splitPath s).1 = s := by
      have happend : (splitPath s).1 ++ (splitPath s).2 = s := List.takeWhile_append_dropWhile
      rwa [hrest, List.append_nil] at happend
    dsimp only
    rw [hall]
    rcases List.eq_nil_or_concat s with rfl | ⟨front, d, rfl⟩
    · intro c hc
      cases hc
    · rw [List.concat_eq_append, List.getLast?_concat] at hlast
      rw [List.concat_eq_append, encodeText_append,
        List.getLast?_append_of_ne_nil _ (encodeText_singleton_ne_nil _ d)]
      refine (isSolid_encodeText keepsEscapes_opaque fun hspace => ?_).getLast?
      rw [← List.mem_singleton.mp hspace] at hlast
      exact absurd (hlast ' ' rfl) (by decide)
  query := (isSolid_of_queryAndFragment .other _).1
  fragment := (isSolid_of_queryAndFragment .other _).2

/-- What is read behind a scheme is tidy. -/
theorem isTidy_of_afterScheme {base : Option Url} (hbase : ∀ b, base = some b → b.IsTidy)
    (hscheme : IsSchemeText scheme) (hlast : ∀ c ∈ s.getLast?, 0x20 < c.toNat)
    (h : afterScheme base scheme s = .ok u) : u.IsTidy := by
  rw [afterScheme.eq_def] at h
  split at h
  · exact isTidy_of_fileUrl hbase h
  · next hweb =>
    dsimp only at h
    split at h
    · next b hb =>
      obtain ⟨hsome, hsame⟩ := Option.filter_eq_some_iff.mp hb
      have htidy := hbase b hsome
      have hkind : schemeKind b.scheme = .web := (beq_iff_eq.mp hsame) ▸ hweb
      split at h
      · refine isTidy_of_relativeTo htidy ?_ (htidy.not_isOpaque ?_) h <;> rw [hkind] <;> decide
      · exact isTidy_of_afterSlashes hscheme hweb (by decide) h
    · exact isTidy_of_afterSlashes hscheme hweb (by decide) h
  · next hother =>
    split at h
    · exact isTidy_of_afterSlashes hscheme hother (by decide) h
    · cases h
      exact isTidy_continuePath hscheme hother (fun h => absurd rfl h) (fun h => by contradiction)
        (fun _ a ha => by contradiction) isSolid_slash _
    · next hslashes hslash =>
      cases h
      refine isTidy_opaque hscheme hother (fun hhead => ?_) hlast
      obtain ⟨rest, rfl⟩ := List.head?_eq_some_iff.mp hhead
      exact hslash rest rfl

/-- **Read URLs are tidy.** -/
theorem isTidy_of_read {base : Option Url} (hbase : ∀ b, base = some b → b.IsTidy)
    (h : read base s = .ok u) : u.IsTidy := by
  rw [read.eq_def] at h
  dsimp only at h
  split at h
  · next scheme rest hscheme =>
    obtain ⟨htext, hsuffix⟩ := of_splitScheme? hscheme
    refine isTidy_of_afterScheme hbase htext (fun c hc => ?_) h
    obtain ⟨front, hfront⟩ := hsuffix
    refine lt_of_getLast?_cleaned s c ?_
    rw [← hfront, List.getLast?_append_of_ne_nil _ (List.ne_nil_of_mem (List.mem_of_getLast? hc))]
    exact hc
  · split at h
    · contradiction
    · next b =>
      have htidy := hbase b rfl
      split_ifs at h with hfragment hclear hfile
      · obtain ⟨rest, hrest⟩ := startsWith_singleton.mp hfragment
        cases h
        refine htidy.withTail (Or.inr (Or.inr ?_)) htidy.query (isSolid_of_queryAndFragment _ _).2
        rw [hrest]
        exact Option.some_ne_none _
      · exact isTidy_of_fileUrl hbase h
      · exact isTidy_of_relativeTo htidy (fun hkind => hfile (beq_iff_eq.mpr hkind))
          (Bool.not_eq_true _ ▸ hclear) h

/-! ## Written URLs -/

/-- What stands behind the colon ends with no blank; it may be empty. -/
theorem IsTidy.exists_last (h : u.IsTidy) : ∃ middle d,
    ':' :: (u.hierarchy ++ u.path ++ tailText u.query u.fragment) = middle ++ [d] ∧
      isBlank d = false := by
  have hsolid (front : List Char) {c : Char} {s : List Char} (hc : isBlank c = false)
      (hs : IsSolid s) : ∃ middle d, front ++ c :: s = middle ++ [d] ∧ isBlank d = false := by
    obtain ⟨more, d, hlast, hd⟩ :=
      (HasEdges.of_forall (List.cons_ne_nil c s) (List.forall_mem_cons.mpr ⟨hc, hs⟩)).last
    exact ⟨front ++ more, d, by rw [hlast, List.append_assoc], hd⟩
  cases hf : u.fragment with
  | some f =>
      have hhash : isBlank '#' = false := rfl
      obtain ⟨middle, d, hlast, hd⟩ :=
        hsolid (':' :: (u.hierarchy ++ u.path ++ tailText u.query none)) hhash (h.fragment f hf)
      exact ⟨middle, d, by rw [← hlast]; simp [tailText], hd⟩
  | none =>
  cases hq : u.query with
  | some q =>
      have hmark : isBlank '?' = false := rfl
      obtain ⟨middle, d, hlast, hd⟩ :=
        hsolid (':' :: (u.hierarchy ++ u.path)) hmark (h.query q hq)
      exact ⟨middle, d, by rw [← hlast]; simp [tailText], hd⟩
  | none =>
  have hnone : tailText none none = [] := rfl
  rw [hnone, List.append_nil]
  rcases List.eq_nil_or_concat u.path with hpath | ⟨front, d, hpath⟩
  · -- such a URL has nothing but a scheme and perhaps an authority
    have hkind : schemeKind u.scheme = .other := by
      by_contra hspecial
      exact (h.special hspecial).2 hpath
    rw [hpath, List.append_nil, hierarchy]
    split
    · next a ha =>
      exact hsolid [':', '/'] (rfl : isBlank '/' = false) (h.other hkind a ha)
    · exact ⟨[], ':', by rw [hpath]; rfl, by decide⟩
  · rw [List.concat_eq_append] at hpath
    refine ⟨':' :: (u.hierarchy ++ front), d, by rw [hpath]; simp, h.lastOfPath hq hf d ?_⟩
    rw [hpath, List.getLast?_concat]
    rfl

/-- A tidy URL neither begins nor ends with a blank. -/
theorem hasEdges_of_isTidy (h : u.IsTidy) : HasEdges u.chars := by
  obtain ⟨c, rest, hscheme, hc⟩ := h.scheme
  obtain ⟨middle, d, hlast, hd⟩ := h.exists_last
  have hchars : u.chars = [c] ++ (rest ++ middle ++ [d]) := by
    rw [List.append_assoc rest, ← hlast, chars, List.append_assoc (u.hierarchy ++ u.path), hscheme]
    rfl
  rw [hchars]
  exact (HasEdges.singleton hc).between (HasEdges.singleton hd) (rest ++ middle)

/-- **The edges of URLs.**  What has been read is written without blanks at its edges. -/
theorem hasEdges_of_read {text : String} (hbase : Url.parse text = .ok base)
    (h : read (some base) s = .ok u) : HasEdges u.chars := by
  have htidy : base.IsTidy := isTidy_of_read (fun b hb => by contradiction) hbase
  exact hasEdges_of_isTidy (isTidy_of_read (fun b hb => Option.some.inj hb ▸ htidy) h)

end Folio.Url
