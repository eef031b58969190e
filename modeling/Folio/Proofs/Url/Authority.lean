import Folio.Proofs.Text.Number
import Folio.Proofs.Text.Search
import Folio.Proofs.Url.Host
import Folio.Proofs.Url.Percent
import Folio.Url.Parser

/-!
# Folio.Proofs.Url.Authority

Authorities of web addresses.  Reading leaves encoded credentials, a host and a
port that is not the scheme's own (`isSettled_of_readAuthority`), and such an
authority is read from its written form as itself (`readAuthority_text`).
-/

namespace Folio.Url

open Folio.Text

variable {scheme s t rest : List Char} {a : Authority} {c : Char}

/-- The authority is as reading leaves it, its host one that is read as itself. -/
structure Authority.IsSettled (scheme : List Char) (a : Authority) : Prop where
  username : ∀ c ∈ a.username, keptInCredentials c = true
  password : ∀ c ∈ a.password, keptInCredentials c = true
  host : Url.host a.host = .ok a.host
  port : ∀ n, a.port = some n → n ≤ 65535 ∧ defaultPort? scheme ≠ some n

/-! ## Hosts -/

theorem IsHostText.ne_nil (h : IsHostText s) : s ≠ [] := by
  rcases h with ⟨inside, rfl, -⟩ | ⟨hne, -⟩
  · exact List.cons_ne_nil _ _
  · exact hne

/-- The characters of a host are none of those that end an authority or its parts. -/
theorem IsHostText.of_mem (h : IsHostText s) (hc : c ∈ s) :
    0x20 < c.toNat ∧ c ∉ "/?#\\@".toList := by
  have hplain {d : Char} (hd : isForbiddenAscii d = false) :
      0x20 < d.toNat ∧ d ∉ "/?#\\@".toList := by
    constructor
    · simp only [isForbiddenAscii, Bool.or_eq_false_iff, decide_eq_false_iff_not] at hd
      omega
    · intro hmem
      have hforbidden : ∀ d ∈ "/?#\\@".toList, isForbiddenAscii d = true := by decide
      rw [hforbidden d hmem] at hd
      contradiction
  rcases h with ⟨inside, rfl, hinside⟩ | ⟨-, hname⟩
  · have haddress : ∀ d ∈ "[0123456789abcdef:]".toList,
        0x20 < d.toNat ∧ d ∉ "/?#\\@".toList := by decide
    have hdigits : ∀ d ∈ "0123456789abcdef:".toList, d ∈ "[0123456789abcdef:]".toList := by decide
    refine haddress c ?_
    rcases List.mem_cons.mp hc with rfl | hc
    · decide
    · rcases List.mem_append.mp hc with hc | hc
      · exact hdigits c (hinside c hc)
      · rw [List.mem_singleton.mp hc]
        decide
  · exact hplain (hname c hc)

/-- Nothing ends a host but a colon outside brackets. -/
theorem splitHost_plain (inBrackets : Bool)
    (h : ∀ c ∈ s, c ≠ '[' ∧ c ≠ ']' ∧ (inBrackets = false → c ≠ ':')) (rest : List Char) :
    splitHost inBrackets (s ++ rest) =
      (s ++ (splitHost inBrackets rest).1, (splitHost inBrackets rest).2) := by
  induction s with
  | nil => rfl
  | cons c s ih =>
      obtain ⟨⟨hopening, hclosing, hcolon⟩, hs⟩ := List.forall_mem_cons.mp h
      have hend : ¬(c = ':' ∧ (!inBrackets) = true) := by
        rintro ⟨hc, houtside⟩
        exact hcolon (Bool.not_eq_true' _ |>.mp houtside) hc
      rw [List.cons_append, splitHost, if_neg hend, if_neg hopening, if_neg hclosing, ih hs]
      rfl

/-- A host ends at the colon of a port or with the authority. -/
theorem splitHost_append (h : IsHostText s) (hrest : ∀ c ∈ rest.head?, c = ':') :
    splitHost false (s ++ rest) = (s, rest) := by
  have hend : splitHost false rest = ([], rest) := by
    cases rest with
    | nil => rfl
    | cons c rest =>
        obtain rfl : c = ':' := hrest c rfl
        rfl
  rcases h with ⟨inside, rfl, hinside⟩ | ⟨-, hname⟩
  · have hdigits : ∀ c ∈ "0123456789abcdef:".toList, c ≠ '[' ∧ c ≠ ']' := by decide
    have hplain := splitHost_plain (s := inside) true
      (fun c hc => ⟨(hdigits c (hinside c hc)).1, (hdigits c (hinside c hc)).2,
        fun h => absurd h (by decide)⟩) (']' :: rest)
    have hclosing : splitHost true (']' :: rest) = (']' :: (splitHost false rest).1,
      (splitHost false rest).2) := rfl
    have hopening (t : List Char) : splitHost false ('[' :: t) = ('[' :: (splitHost true t).1,
      (splitHost true t).2) := rfl
    rw [List.cons_append, List.append_assoc, List.singleton_append, hopening, hplain, hclosing,
      hend]
  · have hforbidden : ∀ c ∈ "[]:".toList, isForbiddenAscii c = true := by decide
    have hne {c d : Char} (hc : c ∈ s) (hd : d ∈ "[]:".toList) : c ≠ d := by
      rintro rfl
      have hc := hname c hc
      rw [hforbidden c hd] at hc
      contradiction
    rw [splitHost_plain false (fun c hc => ⟨hne hc (by decide), hne hc (by decide),
      fun _ => hne hc (by decide)⟩), hend, List.append_nil]

/-! ## Ports -/

theorem port_text {n : Nat} (hmost : n ≤ 65535) (hdefault : defaultPort? scheme ≠ some n) :
    port scheme (Nat.toDigits 10 n) = .ok (some n) := by
  have hdigits : (Nat.toDigits 10 n).all isAsciiDigit = true := by
    rw [← toList_toString_nat]
    exact List.all_eq_true.mpr fun c hc => isAsciiDigit_of_mem_toString hc
  have hne : (Nat.toDigits 10 n).isEmpty = false :=
    List.isEmpty_eq_false_iff.mpr Nat.toDigits_ne_nil
  have hown : (defaultPort? scheme == some n) = false := beq_eq_false_iff_ne.mpr hdefault
  simp only [port, hdigits, hne, hown, decimalValue_toDigits, Bool.not_true, Bool.false_eq_true,
    if_false, Bool.or_self, Nat.not_lt.mpr hmost]

theorem of_port_eq_ok {n : Nat} (h : port scheme s = .ok (some n)) :
    n ≤ 65535 ∧ defaultPort? scheme ≠ some n := by
  simp only [port] at h
  split_ifs at h with hdigits hmost hnone
  · cases h
  obtain rfl := Option.some.inj (Except.ok.inj h)
  rw [Bool.or_eq_true, not_or] at hnone
  exact ⟨Nat.not_lt.mp hmost, fun hown => hnone.2 (beq_iff_eq.mpr hown)⟩

/-! ## Credentials -/

theorem credentials_of_not_mem (h : '@' ∉ s) : credentials s = ([], [], s) := by
  have hnone : s.reverse.dropWhile (· != '@') = [] := by
    rw [List.dropWhile_eq_nil_iff]
    intro c hc
    rw [bne_iff_ne]
    rintro rfl
    exact h (List.mem_reverse.mp hc)
  simp only [credentials, hnone]

/-- The text before the last `@` is found. -/
theorem dropWhile_reverse_append (hrest : '@' ∉ rest) (s : List Char) :
    (s ++ '@' :: rest).reverse.dropWhile (· != '@') = '@' :: s.reverse := by
  have hat : ∀ c ∈ rest.reverse, (c != '@') = true := fun c hc => by
    rw [bne_iff_ne]
    rintro rfl
    exact hrest (List.mem_reverse.mp hc)
  rw [List.reverse_append, List.reverse_cons, List.append_assoc, List.dropWhile_append_of_pos hat]
  rfl

/-- The colon and the password, where there is one. -/
def secretText (password : List Char) : List Char :=
  if password.isEmpty then [] else ':' :: password

theorem takeWhile_append_secretText {username : List Char}
    (h : ∀ c ∈ username, keptInCredentials c = true) (password : List Char) :
    (username ++ secretText password).takeWhile (· != ':') = username := by
  have hcolon : ∀ c ∈ username, (c != ':') = true := fun c hc => by
    rw [bne_iff_ne]
    rintro rfl
    exact absurd (h ':' hc) (by decide)
  rw [List.takeWhile_append_of_pos hcolon]
  cases password <;> simp [secretText]

@[simp] theorem drop_secretText (password : List Char) :
    (secretText password).drop 1 = password := by
  cases password <;> rfl

/-- Credentials are read up to the last mark behind them. -/
theorem credentials_append {username password : List Char}
    (husername : ∀ c ∈ username, keptInCredentials c = true)
    (hpassword : ∀ c ∈ password, keptInCredentials c = true) (hrest : '@' ∉ rest) :
    credentials (username ++ secretText password ++ '@' :: rest) = (username, password, rest) := by
  have hafter (s : List Char) : (s ++ '@' :: rest).drop (s.length + 1) = rest := by
    rw [List.drop_append]
    simp
  simp only [credentials, dropWhile_reverse_append hrest, List.reverse_reverse, hafter,
    takeWhile_append_secretText husername, List.drop_left, drop_secretText,
    encodeText_of_keep keepsEscapes_credentials husername,
    encodeText_of_keep keepsEscapes_credentials hpassword]

/-- Credentials are encoded. -/
theorem keep_of_credentials {username password : List Char}
    (h : credentials s = (username, password, rest)) :
    (∀ c ∈ username, keptInCredentials c = true) ∧
      ∀ c ∈ password, keptInCredentials c = true := by
  rw [credentials] at h
  split at h
  · cases h
    exact ⟨fun c hc => absurd hc List.not_mem_nil, fun c hc => absurd hc List.not_mem_nil⟩
  · cases h
    exact ⟨fun c hc => keep_of_mem_encodeText keepsEscapes_credentials hc,
      fun c hc => keep_of_mem_encodeText keepsEscapes_credentials hc⟩

/-! ## Authorities -/

/-- The colon and the digits of a port, where there is one. -/
def Authority.portText (a : Authority) : List Char :=
  match a.port with
  | some port => ':' :: Nat.toDigits 10 port
  | none => []

theorem Authority.text_eq (a : Authority) : a.text = a.credentials ++ (a.host ++ a.portText) :=
  List.append_assoc _ _ _

/-- A port is written in digits behind a colon. -/
theorem Authority.of_mem_portText (a : Authority) (h : c ∈ a.portText) :
    c ∈ ":0123456789".toList := by
  rw [portText] at h
  split at h
  · rcases List.mem_cons.mp h with rfl | h
    · decide
    · exact mem_of_mem_toDigits (by decide) (by decide) h
  · contradiction

/-- The credentials of a settled authority are read as themselves. -/
theorem credentials_text (h : a.IsSettled scheme) :
    Url.credentials a.text = (a.username, a.password, a.host ++ a.portText) := by
  have hat : '@' ∉ a.host ++ a.portText := by
    rw [List.mem_append, not_or]
    exact ⟨fun hmem => ((isHostText_of_host h.host).of_mem hmem).2 (by decide),
      fun hmem => absurd (a.of_mem_portText hmem) (by decide)⟩
  rw [Authority.text_eq, Authority.credentials]
  split
  · next hnone =>
      rw [Bool.and_eq_true, List.isEmpty_iff, List.isEmpty_iff] at hnone
      simp [credentials_of_not_mem hat, hnone.1, hnone.2]
  · rw [List.append_assoc, List.singleton_append]
    exact credentials_append h.username h.password hat

/-- A settled authority is written. -/
theorem Authority.IsSettled.text_ne_nil (h : a.IsSettled scheme) : a.text ≠ [] := by
  rw [Authority.text_eq]
  exact List.append_ne_nil_of_right_ne_nil _
    (List.append_ne_nil_of_left_ne_nil (isHostText_of_host h.host).ne_nil _)

theorem of_keptInCredentials (hc : keptInCredentials c = true) :
    0x20 < c.toNat ∧ c ∉ "/?#\\".toList := by
  refine ⟨lt_of_isPrintable (keepsEscapes_credentials.printable c hc)
    (by rintro rfl; contradiction), fun hmem => ?_⟩
  have hnot : ∀ d ∈ "/?#\\".toList, keptInCredentials d = false := by decide
  rw [hnot c hmem] at hc
  contradiction

/-- The characters of a settled authority do not end it. -/
theorem Authority.IsSettled.of_mem_text (h : a.IsSettled scheme) (hc : c ∈ a.text) :
    0x20 < c.toNat ∧ c ∉ "/?#\\".toList := by
  have hmark : ∀ d ∈ "@:0123456789".toList, 0x20 < d.toNat ∧ d ∉ "/?#\\".toList := by decide
  have hsubset : ∀ d ∈ "/?#\\".toList, d ∈ "/?#\\@".toList := by decide
  have hport : ∀ d ∈ ":0123456789".toList, d ∈ "@:0123456789".toList := by decide
  rw [Authority.text_eq, List.mem_append, List.mem_append, Authority.credentials] at hc
  rcases hc with hc | hc | hc
  · split at hc
    · exact absurd hc List.not_mem_nil
    · simp only [List.mem_append] at hc
      rcases hc with (hc | hc) | hc
      · exact of_keptInCredentials (h.username c hc)
      · split at hc
        · exact absurd hc List.not_mem_nil
        · rcases List.mem_cons.mp hc with rfl | hc
          · exact hmark ':' (by decide)
          · exact of_keptInCredentials (h.password c hc)
      · rw [List.mem_singleton.mp hc]
        exact hmark '@' (by decide)
  · have hhost := (isHostText_of_host h.host).of_mem hc
    exact ⟨hhost.1, fun hmem => hhost.2 (hsubset c hmem)⟩
  · exact hmark c (hport c (a.of_mem_portText hc))

/-- How the authority of a web address is read. -/
theorem readAuthority_web (scheme s after : List Char) :
    readAuthority .web scheme s after =
      let (username, password, rest) := credentials s
      let (hostText, portText) := splitHost false rest
      if s.head? = some '@' ∧ rest.isEmpty ∧ !after.isEmpty ∧ (s.filter (· == '@')).length = 1 then
        .error .emptyHost
      else if hostText.isEmpty then .error .emptyHost
      else (host hostText).bind fun host =>
        if host.isEmpty && !portText.isEmpty then .error .emptyHost
        else (port scheme (portText.drop 1)).bind fun port =>
          if host.isEmpty && !(username.isEmpty && password.isEmpty) then .error .emptyHost
          else .ok ⟨username, password, host, port⟩ := rfl

/-- **Written authorities.**  A settled authority is read as itself. -/
theorem readAuthority_text (h : a.IsSettled scheme) (after : List Char) :
    readAuthority .web scheme a.text after = .ok a := by
  have hhost := isHostText_of_host h.host
  have hne : a.host.isEmpty = false := List.isEmpty_eq_false_iff.mpr hhost.ne_nil
  have hrest : (a.host ++ a.portText).isEmpty = false := by
    rw [List.isEmpty_eq_false_iff]
    exact List.append_ne_nil_of_left_ne_nil hhost.ne_nil _
  have hsplit : splitHost false (a.host ++ a.portText) = (a.host, a.portText) := by
    refine splitHost_append hhost fun c hc => ?_
    rw [Authority.portText] at hc
    split at hc
    · exact (Option.some.inj hc).symm
    · contradiction
  have hport : port scheme (a.portText.drop 1) = .ok a.port := by
    rw [Authority.portText]
    cases hport : a.port with
    | none => rfl
    | some n => exact port_text (h.port n hport).1 (h.port n hport).2
  simp only [readAuthority_web, credentials_text h, hrest, hsplit, h.host, hport, hne,
    Bool.false_eq_true, false_and, and_false, if_false, Except.bind, Bool.false_and]

/-- **Read authorities.**  What has been read is settled, if its host is. -/
theorem isSettled_of_readAuthority {after : List Char}
    (h : readAuthority .web scheme s after = .ok a) (hhost : host a.host = .ok a.host) :
    a.IsSettled scheme := by
  rw [readAuthority_web] at h
  generalize hcredentials : credentials s = parts at h
  obtain ⟨username, password, rest⟩ := parts
  dsimp only at h
  split at h
  · cases h
  split at h
  · cases h
  cases hname : host (splitHost false rest).1 with
  | error f =>
      rw [hname] at h
      cases h
  | ok name =>
      rw [hname] at h
      change (if _ then _ else _) = _ at h
      split at h
      · cases h
      cases hport : port scheme ((splitHost false rest).2.drop 1) with
      | error f =>
          rw [hport] at h
          cases h
      | ok port =>
          rw [hport] at h
          change (if _ then _ else _) = _ at h
          split at h
          · cases h
          cases h
          obtain ⟨husername, hpassword⟩ := keep_of_credentials hcredentials
          exact ⟨husername, hpassword, hhost,
            fun n hn => of_port_eq_ok (hport.trans (congrArg Except.ok hn))⟩

end Folio.Url
