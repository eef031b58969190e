import Folio.Proofs.Url.Percent
import Folio.Proofs.Text.Search
import Folio.Url.Parser

/-!
# Folio.Proofs.Url.Path

Paths of web addresses.  Reading leaves segments that stand for themselves, each
with a slash in front (`IsPath`), whatever dots and backslashes there were
(`isPath_addPath`), and it leaves such segments as they are
(`addPath_of_isPath`).
-/

namespace Folio.Url

open Folio.Text

variable {path segment s : List Char} {segments : List (List Char)} {slash : Bool}

/-- The segment stands for itself in a web address. -/
structure IsSegment (segment : List Char) : Prop where
  kept : ∀ c ∈ segment, keptInPath c = true
  not_slash : ∀ c ∈ segment, c ≠ '/' ∧ c ≠ '\\'
  not_single : isSingleDot segment = false
  not_double : isDoubleDot segment = false

/-- Segments with a slash behind each, and a slash in front. -/
def directoryText (segments : List (List Char)) : List Char :=
  '/' :: segments.flatMap fun segment => segment ++ ['/']

/-- The path is that of a directory: it ends with a slash. -/
def IsDirectory (path : List Char) : Prop :=
  ∃ segments, path = directoryText segments ∧ ∀ segment ∈ segments, IsSegment segment

/-- The path consists of segments that stand for themselves. -/
def IsPath (path : List Char) : Prop :=
  ∃ directory segment, path = directory ++ segment ∧ IsDirectory directory ∧ IsSegment segment

theorem isSegment_nil : IsSegment [] where
  kept _ hc := absurd hc List.not_mem_nil
  not_slash _ hc := absurd hc List.not_mem_nil
  not_single := by decide
  not_double := by decide

/-- A directory is a path. -/
theorem IsDirectory.isPath (h : IsDirectory path) : IsPath path :=
  ⟨path, [], (List.append_nil path).symm, h, isSegment_nil⟩

theorem isDirectory_root : IsDirectory ['/'] := ⟨[], rfl, fun _ h => absurd h List.not_mem_nil⟩

/-- The last segment of a directory ends with a slash. -/
@[simp] theorem directoryText_concat (segments : List (List Char)) (segment : List Char) :
    directoryText (segments ++ [segment]) = directoryText segments ++ (segment ++ ['/']) := by
  rw [directoryText, List.flatMap_append, List.flatMap_singleton]
  rfl

/-- A segment makes a directory below. -/
theorem IsDirectory.append (h : IsDirectory path) (hsegment : IsSegment segment) :
    IsDirectory (path ++ (segment ++ ['/'])) := by
  obtain ⟨segments, rfl, hsegments⟩ := h
  refine ⟨segments ++ [segment], (directoryText_concat segments segment).symm, ?_⟩
  rw [List.forall_mem_append]
  exact ⟨hsegments, List.forall_mem_singleton.mpr hsegment⟩

/-- A directory ends with its last slash. -/
theorem IsDirectory.exists_concat (h : IsDirectory path) : ∃ front, path = front ++ ['/'] := by
  obtain ⟨segments, rfl, -⟩ := h
  rcases List.eq_nil_or_concat segments with rfl | ⟨front, last, rfl⟩
  · exact ⟨[], rfl⟩
  · rw [List.concat_eq_append, directoryText_concat, ← List.append_assoc]
    exact ⟨_, rfl⟩

@[simp] theorem endsWith_slash (front : List Char) : endsWith ['/'] (front ++ ['/']) = true := by
  rw [endsWith_iff]
  exact List.suffix_append front ['/']

/-! ## Climbing -/

@[simp] theorem upToSlash_concat (front : List Char) :
    upToSlash (front ++ ['/']) = front ++ ['/'] := by
  simp [upToSlash]

/-- What follows the last slash does not count. -/
theorem upToSlash_append (h : ∀ c ∈ segment, c ≠ '/') (path : List Char) :
    upToSlash (path ++ segment) = upToSlash path := by
  have hdrop : ∀ c ∈ segment.reverse, (c != '/') = true :=
    fun c hc => bne_iff_ne.mpr (h c (List.mem_reverse.mp hc))
  simp [upToSlash, List.reverse_append, List.dropWhile_append_of_pos hdrop]

/-- A directory goes up to its last slash. -/
theorem IsDirectory.upToSlash (h : IsDirectory path) : Url.upToSlash path = path := by
  obtain ⟨front, rfl⟩ := h.exists_concat
  exact upToSlash_concat front

@[simp] theorem popSegment_web (path : List Char) : popSegment .web path = upToSlash path := rfl

/-- A path without its last segment is a directory. -/
theorem IsPath.isDirectory_popSegment (h : IsPath path) : IsDirectory (popSegment .web path) := by
  obtain ⟨directory, segment, rfl, hdirectory, hsegment⟩ := h
  rw [popSegment_web, upToSlash_append fun c hc => (hsegment.not_slash c hc).1,
    hdirectory.upToSlash]
  exact hdirectory

/-- The directory above a directory is one. -/
theorem IsDirectory.climb (h : IsDirectory path) (slash : Bool) :
    IsDirectory (Url.climb .web path slash) := by
  have hpop : IsDirectory (popSegment .web
      (if hasRemovableSlash path then path.dropLast else path)) := by
    split
    · obtain ⟨segments, rfl, hsegments⟩ := h
      rcases List.eq_nil_or_concat segments with rfl | ⟨front, last, rfl⟩
      · contradiction
      · rw [List.concat_eq_append] at hsegments ⊢
        obtain ⟨hfront, hlast⟩ := List.forall_mem_append.mp hsegments
        have hdirectory : IsDirectory (directoryText front) := ⟨front, rfl, hfront⟩
        rw [directoryText_concat, ← List.append_assoc, List.dropLast_concat]
        exact IsPath.isDirectory_popSegment
          ⟨_, last, rfl, hdirectory, hlast last List.mem_cons_self⟩
    · exact h.isPath.isDirectory_popSegment
  obtain ⟨front, hfront⟩ := hpop.exists_concat
  rw [Url.climb, hfront, endsWith_slash, Bool.not_true, Bool.and_false] 
  rw [hfront] at hpop
  exact hpop

/-! ## Adding segments -/

/-- A segment that is no dots is entered as it is. -/
theorem addSegment_plain (hdouble : isDoubleDot segment = false)
    (hsingle : isSingleDot segment = false) (path : List Char) (slash : Bool) :
    addSegment .web path segment slash = path ++ segment ++ (if slash then ['/'] else []) := by
  rw [addSegment, hdouble, hsingle]
  match segment with
  | [] | [_] | [_, _] | _ :: _ :: _ :: _ => rfl

/-- Any segment leaves a directory where a slash follows, and else a path. -/
theorem IsDirectory.addSegment (h : IsDirectory path) (hkept : ∀ c ∈ segment, keptInPath c = true)
    (hslash : ∀ c ∈ segment, c ≠ '/' ∧ c ≠ '\\') :
    IsDirectory (Url.addSegment .web path segment true) ∧
      IsPath (Url.addSegment .web path segment false) := by
  cases hdouble : isDoubleDot segment with
  | true =>
      have hclimb (slash : Bool) : Url.addSegment .web path segment slash =
          Url.climb .web path slash := by
        rw [Url.addSegment, hdouble]
        rfl
      rw [hclimb, hclimb]
      exact ⟨h.climb true, (h.climb false).isPath⟩
  | false =>
      cases hsingle : isSingleDot segment with
      | true =>
          have hsame (slash : Bool) : Url.addSegment .web path segment slash = path := by
            obtain ⟨front, rfl⟩ := h.exists_concat
            simp [Url.addSegment, hdouble, hsingle]
          rw [hsame, hsame]
          exact ⟨h, h.isPath⟩
      | false =>
          have hsegment : IsSegment segment := ⟨hkept, hslash, hsingle, hdouble⟩
          rw [addSegment_plain hdouble hsingle, addSegment_plain hdouble hsingle]
          constructor
          · rw [List.append_assoc]
            exact h.append hsegment
          · exact ⟨path, segment, List.append_nil _, h, hsegment⟩

/-! ## Reading -/

theorem not_isSlash {c : Char} (h : c ≠ '/' ∧ c ≠ '\\') :
    ¬(c = '/' ∨ (c = '\\' ∧ SchemeKind.web.isSpecial = true)) := by
  rintro (hc | ⟨hc, -⟩)
  · exact h.1 hc
  · exact h.2 hc

/-- **Settled paths.**  Reading segments into a directory leaves a path. -/
theorem isPath_addPath (h : IsDirectory path) (hkept : ∀ c ∈ segment, keptInPath c = true)
    (hslash : ∀ c ∈ segment, c ≠ '/' ∧ c ≠ '\\') (s : List Char) :
    IsPath (addPath .web path segment s) := by
  have hreverse {segment : List Char} (hkept : ∀ c ∈ segment, keptInPath c = true)
      (hslash : ∀ c ∈ segment, c ≠ '/' ∧ c ≠ '\\') {path : List Char} (h : IsDirectory path) :
      IsDirectory (Url.addSegment .web path segment.reverse true) ∧
        IsPath (Url.addSegment .web path segment.reverse false) :=
    h.addSegment (fun c hc => hkept c (List.mem_reverse.mp hc))
      fun c hc => hslash c (List.mem_reverse.mp hc)
  induction s generalizing path segment with
  | nil => exact (hreverse hkept hslash h).2
  | cons c s ih =>
      rw [addPath]
      split
      · refine ih (hreverse hkept hslash h).1 ?_ ?_ <;>
          exact fun c hc => absurd hc List.not_mem_nil
      · next hc =>
          refine ih h ?_ ?_ <;> rw [List.forall_mem_append]
          · exact ⟨fun d hd => keep_of_mem_encodeText keepsEscapes_path (List.mem_reverse.mp hd),
              hkept⟩
          · refine ⟨fun d hd => ?_, hslash⟩
            rcases mem_encodeText_singleton (List.mem_reverse.mp hd) with rfl | hescape
            · exact ⟨fun hd => hc (Or.inl hd), fun hd => hc (Or.inr ⟨hd, rfl⟩)⟩
            · exact (by decide : ∀ d ∈ "%0123456789ABCDEF".toList, d ≠ '/' ∧ d ≠ '\\') d hescape

/-- Reading characters that are kept. -/
theorem addPath_append (hkept : ∀ c ∈ segment, keptInPath c = true)
    (hslash : ∀ c ∈ segment, c ≠ '/' ∧ c ≠ '\\') (path before rest : List Char) :
    addPath .web path before (segment ++ rest) =
      addPath .web path (segment.reverse ++ before) rest := by
  induction segment generalizing before with
  | nil => rfl
  | cons c segment ih =>
      obtain ⟨hc, hkept⟩ := List.forall_mem_cons.mp hkept
      obtain ⟨hplain, hslash⟩ := List.forall_mem_cons.mp hslash
      simp [addPath, if_neg (not_isSlash hplain), encodeText_singleton keepsEscapes_path hc,
        ih hkept hslash]

/-- Reading segments that stand for themselves. -/
theorem addPath_segments (h : ∀ segment ∈ segments, IsSegment segment) (hlast : IsSegment segment)
    (path : List Char) :
    addPath .web path [] (segments.flatMap (fun segment => segment ++ ['/']) ++ segment) =
      path ++ (segments.flatMap (fun segment => segment ++ ['/']) ++ segment) := by
  induction segments generalizing path with
  | nil =>
      have hadd := addPath_append hlast.kept hlast.not_slash path [] []
      rw [List.append_nil, List.append_nil, addPath, List.reverse_reverse,
        addSegment_plain hlast.not_double hlast.not_single] at hadd
      rw [List.flatMap_nil, List.nil_append, hadd]
      exact List.append_nil _
  | cons first segments ih =>
      obtain ⟨hfirst, hsegments⟩ := List.forall_mem_cons.mp h
      simp [addPath_append hfirst.kept hfirst.not_slash, addPath,
        addSegment_plain hfirst.not_double hfirst.not_single, ih hsegments]

/-- **Settled paths are kept.**  A path that is read again is left as it is. -/
theorem addPath_of_isPath (h : IsPath ('/' :: s)) : addPath .web ['/'] [] s = '/' :: s := by
  obtain ⟨directory, segment, hpath, ⟨segments, rfl, hsegments⟩, hsegment⟩ := h
  rw [directoryText, List.cons_append] at hpath
  rw [(List.cons.inj hpath).2, addPath_segments hsegments hsegment]
  rfl

end Folio.Url
