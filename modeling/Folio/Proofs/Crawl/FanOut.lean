import Folio.Crawl.Search
import Folio.Proofs.Event
import Mathlib.Algebra.BigOperators.Group.Multiset.Basic
import Mathlib.Data.Multiset.Filter

/-!
# Folio.Proofs.Crawl.FanOut

A search as the steps that it can take.  Every source waits for a permit, sends
its request, receives the reply and gives the permit back, and what it found is
delivered some time after that; which source goes on next is left open, so that
a run of these steps is any of the ways in which the sources can get ahead of
each other.

Three quantities tell what all runs have in common: permits are never lost
(`Step.permits_eq`), what the sources give is settled from the beginning
(`Step.outcomes_eq`), and every step uses up work (`Step.work_lt`).
-/

namespace Folio.Crawl

/-! ## States -/

/-- The search of one source, as far as it has come. -/
inductive Strand where
  /-- It waits for a permit. -/
  | waiting (source : Source)
  /-- It has a permit and has not sent its request. -/
  | admitted (source : Source)
  /-- It has a permit, and its request is under way. -/
  | sent (source : Source) (request : Request) (reply : Reply)
  /-- It has given its permit back, and what it found is still to be looked
  at. -/
  | finished (found : Option SearchBatch)

/-- How far the search of many sources has come. -/
structure FanOut where
  /-- How many permits are left. -/
  permits : Nat
  strands : Multiset Strand
  /-- What has been delivered, in its order. -/
  delivered : List SearchBatch

/-- What is delivered of what a source gives: nothing where it has no books. -/
def batch? (found : Option SearchBatch) : Option SearchBatch :=
  found.filter fun batch => !batch.books.isEmpty

/-- All sources wait. -/
def FanOut.start (permits : Nat) (sources : List Source) : FanOut :=
  ⟨permits, ↑(sources.map Strand.waiting), []⟩

namespace Strand

/-- The strand holds a permit. -/
def hasPermit : Strand → Bool
  | waiting _ => false
  | admitted _ => true
  | sent .. => true
  | finished _ => false

/-- How many steps are left to the strand at most. -/
def work : Strand → Nat
  | waiting _ => 4
  | admitted _ => 3
  | sent .. => 2
  | finished _ => 1

/-- What will be delivered of the strand. -/
def outcome? (c : Crawler) (keyword : String) : Strand → Option SearchBatch
  | waiting source => batch? (c.searchSource source keyword).value
  | admitted source => batch? (c.searchSource source keyword).value
  | sent source request reply => batch? (c.searchReply source request reply).value
  | finished found => batch? found

end Strand

/-- How many permits strands hold. -/
def holders (strands : Multiset Strand) : Nat := strands.countP (·.hasPermit = true)

/-- How many steps are left to strands at most. -/
def workLeft (strands : Multiset Strand) : Nat := (strands.map Strand.work).sum

/-- What will be delivered of strands. -/
def outcomes (c : Crawler) (keyword : String) (strands : Multiset Strand) :
    Multiset SearchBatch :=
  strands.filterMap (Strand.outcome? c keyword)

/-- A strand holds a permit or none. -/
@[simp] theorem holders_cons (strand : Strand) (others : Multiset Strand) :
    holders (strand ::ₘ others) = holders others + if strand.hasPermit then 1 else 0 :=
  Multiset.countP_cons _ _ _

/-- Every strand has its work left. -/
@[simp] theorem workLeft_cons (strand : Strand) (others : Multiset Strand) :
    workLeft (strand ::ₘ others) = strand.work + workLeft others := by
  simp [workLeft]

/-- Every strand has its outcome, if there is any. -/
@[simp] theorem outcomes_cons (c : Crawler) (keyword : String) (strand : Strand)
    (others : Multiset Strand) : outcomes c keyword (strand ::ₘ others) =
      ↑(strand.outcome? c keyword).toList + outcomes c keyword others := by
  rw [outcomes]
  cases h : strand.outcome? c keyword with
  | none => rw [Multiset.filterMap_cons_none _ _ h]; simp [outcomes]
  | some batch => rw [Multiset.filterMap_cons_some _ _ _ h]; simp [outcomes]

/-! ## Steps -/

/-- One step of a search. -/
inductive Step (c : Crawler) (keyword : String) : FanOut → FanOut → Prop
  | acquire {permits : Nat} {source : Source} {others : Multiset Strand}
      {delivered : List SearchBatch} :
      Step c keyword ⟨permits + 1, .waiting source ::ₘ others, delivered⟩
        ⟨permits, .admitted source ::ₘ others, delivered⟩
  | send {permits : Nat} {source : Source} {others : Multiset Strand}
      {delivered : List SearchBatch} {request : Request}
      (built : (c.searchRequest source keyword).value = .ok request) :
      Step c keyword ⟨permits, .admitted source ::ₘ others, delivered⟩
        ⟨permits, .sent source request (c.fetcher request) ::ₘ others, delivered⟩
  /-- There is no request to send. -/
  | fail {permits : Nat} {source : Source} {others : Multiset Strand}
      {delivered : List SearchBatch} {f : Request.Failure}
      (built : (c.searchRequest source keyword).value = .error f) :
      Step c keyword ⟨permits, .admitted source ::ₘ others, delivered⟩
        ⟨permits + 1, .finished none ::ₘ others, delivered⟩
  /-- The reply arrives and is read. -/
  | answer {permits : Nat} {source : Source} {request : Request} {reply : Reply}
      {others : Multiset Strand} {delivered : List SearchBatch} :
      Step c keyword ⟨permits, .sent source request reply ::ₘ others, delivered⟩
        ⟨permits + 1, .finished (c.searchReply source request reply).value ::ₘ others, delivered⟩
  /-- What a source found is delivered, unless it is nothing. -/
  | join {permits : Nat} {found : Option SearchBatch} {others : Multiset Strand}
      {delivered : List SearchBatch} :
      Step c keyword ⟨permits, .finished found ::ₘ others, delivered⟩
        ⟨permits, others, delivered ++ (batch? found).toList⟩

/-- A run of the given number of steps. -/
inductive Run (c : Crawler) (keyword : String) : Nat → FanOut → FanOut → Prop
  | done {s : FanOut} : Run c keyword 0 s s
  | step {n : Nat} {s t u : FanOut} (first : Step c keyword s t) (onward : Run c keyword n t u) :
      Run c keyword (n + 1) s u

/-- The state can be reached from the other. -/
def Reaches (c : Crawler) (keyword : String) (s t : FanOut) : Prop := ∃ n, Run c keyword n s t

variable {c : Crawler} {keyword : String} {s t u : FanOut}

/-- One run may follow another. -/
theorem Run.trans {m n : Nat} (first : Run c keyword m s t) (second : Run c keyword n t u) :
    Run c keyword (n + m) s u := by
  induction first with
  | done => exact second
  | step head _ ih => exact .step head (ih second)

/-- A state is reached from itself. -/
theorem Reaches.refl (s : FanOut) : Reaches c keyword s s := ⟨0, .done⟩

/-- What is reached from a state that is reached is reached. -/
theorem Reaches.trans (first : Reaches c keyword s t) (second : Reaches c keyword t u) :
    Reaches c keyword s u := by
  obtain ⟨m, hfirst⟩ := first
  obtain ⟨n, hsecond⟩ := second
  exact ⟨n + m, hfirst.trans hsecond⟩

/-- A step reaches where it leads. -/
theorem Step.reaches (h : Step c keyword s t) : Reaches c keyword s t := ⟨1, .step h .done⟩

/-! ## What is kept -/

/-- No permit is lost. -/
theorem Step.permits_eq (h : Step c keyword s t) :
    t.permits + holders t.strands = s.permits + holders s.strands := by
  cases h with
  | acquire =>
      simp only [holders_cons, Strand.hasPermit, if_true, Bool.false_eq_true, if_false]
      omega
  | send built => simp only [holders_cons, Strand.hasPermit]
  | fail built =>
      simp only [holders_cons, Strand.hasPermit, if_true, Bool.false_eq_true, if_false]
      omega
  | answer =>
      simp only [holders_cons, Strand.hasPermit, if_true, Bool.false_eq_true, if_false]
      omega
  | join => simp only [holders_cons, Strand.hasPermit, Bool.false_eq_true, if_false, add_zero]

/-- Every step uses up work. -/
theorem Step.work_lt (h : Step c keyword s t) : workLeft t.strands < workLeft s.strands := by
  cases h with
  | acquire => simp [workLeft_cons, Strand.work]
  | send built => simp [workLeft_cons, Strand.work]
  | fail built => simp [workLeft_cons, Strand.work]
  | answer => simp [workLeft_cons, Strand.work]
  | join => simp [workLeft_cons, Strand.work]

/-- A source whose request cannot be made gives nothing. -/
theorem searchSource_error {source : Source} {f : Request.Failure}
    (built : (c.searchRequest source keyword).value = .error f) :
    (c.searchSource source keyword).value = none := by
  rw [Crawler.searchSource, Traced.value_bind, built]
  rfl

/-- Any other gives what is read from the reply. -/
theorem searchSource_ok {source : Source} {request : Request}
    (built : (c.searchRequest source keyword).value = .ok request) :
    (c.searchSource source keyword).value =
      (c.searchReply source request (c.fetcher request)).value := by
  rw [Crawler.searchSource, Traced.value_bind, built]
  rfl

/-- What has been delivered and what is still to come stay together what they
are. -/
theorem Step.outcomes_eq (h : Step c keyword s t) :
    ↑t.delivered + outcomes c keyword t.strands = ↑s.delivered + outcomes c keyword s.strands := by
  cases h with
  | acquire => simp only [outcomes_cons, Strand.outcome?]
  | send built => simp only [outcomes_cons, Strand.outcome?, searchSource_ok built]
  | fail built => simp only [outcomes_cons, Strand.outcome?, searchSource_error built]
  | answer => simp only [outcomes_cons, Strand.outcome?]
  | join => simp only [outcomes_cons, Strand.outcome?, ← Multiset.coe_add, add_assoc]

/-! ## Runs -/

section Run

variable {n : Nat}

/-- A run neither makes permits nor loses any. -/
theorem Run.permits_eq (h : Run c keyword n s t) :
    t.permits + holders t.strands = s.permits + holders s.strands := by
  induction h with
  | done => rfl
  | step first _ ih => rw [ih, first.permits_eq]

/-- A run delivers what the sources give, each once. -/
theorem Run.outcomes_eq (h : Run c keyword n s t) :
    ↑t.delivered + outcomes c keyword t.strands = ↑s.delivered + outcomes c keyword s.strands := by
  induction h with
  | done => rfl
  | step first _ ih => rw [ih, first.outcomes_eq]

/-- A run takes no more steps than are left. -/
theorem Run.work_le (h : Run c keyword n s t) :
    workLeft t.strands + n ≤ workLeft s.strands := by
  induction h with
  | done => exact le_rfl
  | step first _ ih =>
      have hlt := first.work_lt
      omega

end Run

/-! ## Progress -/

/-- A strand can take a step, unless it waits for a permit and none is left. -/
theorem exists_step_of_mem {strand : Strand} (hmem : strand ∈ s.strands)
    (hgo : 0 < s.permits ∨ strand.hasPermit = true) : ∃ t, Step c keyword s t := by
  obtain ⟨permits, strands, delivered⟩ := s
  obtain ⟨others, rfl⟩ : ∃ others, strands = strand ::ₘ others := Multiset.exists_cons_of_mem hmem
  cases strand with
  | waiting source =>
      have hpos : 0 < permits := hgo.resolve_right (by simp [Strand.hasPermit])
      obtain ⟨left, rfl⟩ := Nat.exists_eq_succ_of_ne_zero (Nat.ne_of_gt hpos)
      exact ⟨_, .acquire⟩
  | admitted source =>
      cases built : (c.searchRequest source keyword).value with
      | error f => exact ⟨_, .fail built⟩
      | ok request => exact ⟨_, .send built⟩
  | sent source request reply => exact ⟨_, .answer⟩
  | finished found => exact ⟨_, .join⟩

/-- As long as there are permits, held or not, the sources do not wait for each other. -/
theorem exists_step (hpermits : 0 < s.permits + holders s.strands) (h : s.strands ≠ 0) :
    ∃ t, Step c keyword s t := by
  by_cases hleft : 0 < s.permits
  · obtain ⟨strand, hmem⟩ := Multiset.exists_mem_of_ne_zero h
    exact exists_step_of_mem hmem (Or.inl hleft)
  · have hholders : 0 < holders s.strands := by omega
    obtain ⟨strand, hmem, hpermit⟩ := Multiset.countP_pos.mp hholders
    exact exists_step_of_mem hmem (Or.inr hpermit)

/-! ## From the beginning -/

/-- What the sources give, each searched alone. -/
def batchesAlone (c : Crawler) (keyword : String) (sources : List Source) : List SearchBatch :=
  sources.filterMap fun source => batch? (c.searchSource source keyword).value

section Start

variable {permits : Nat} {sources : List Source} {n : Nat}

/-- At the beginning nobody holds a permit. -/
@[simp] theorem holders_start : holders (FanOut.start permits sources).strands = 0 := by
  rw [holders, Multiset.countP_eq_zero]
  intro strand hmem
  obtain ⟨source, -, rfl⟩ := List.mem_map.mp (Multiset.mem_coe.mp hmem)
  exact Bool.false_ne_true

/-- At the beginning every source has all of its work left. -/
@[simp] theorem workLeft_start :
    workLeft (FanOut.start permits sources).strands = 4 * sources.length := by
  rw [workLeft, FanOut.start, Multiset.map_coe, List.map_map, Multiset.sum_coe]
  induction sources with
  | nil => rfl
  | cons source sources ih =>
      rw [List.map_cons, List.sum_cons, ih, List.length_cons]
      simp only [Function.comp_apply, Strand.work]
      omega

/-- What is to come at the beginning is what each source gives alone. -/
@[simp] theorem outcomes_start : outcomes c keyword (FanOut.start permits sources).strands =
    ↑(batchesAlone c keyword sources) := by
  rw [outcomes, FanOut.start, Multiset.filterMap_coe, List.filterMap_map]
  rfl

/-- **Runs of a search.**  In every state that a search with a permit comes to, no more
permits are held than it has; it takes at most four steps for every source, and
when no step is left all sources have finished, and what has been delivered is
what they give, each searched alone. -/
theorem Run.from_start (hpermits : 0 < permits)
    (h : Run c keyword n (FanOut.start permits sources) s) :
    holders s.strands ≤ permits ∧ n ≤ 4 * sources.length ∧
      ((∀ t, ¬Step c keyword s t) → s.strands = 0 ∧
        (s.delivered : Multiset SearchBatch) = ↑(batchesAlone c keyword sources)) := by
  have hkept := h.permits_eq
  rw [holders_start] at hkept
  change s.permits + holders s.strands = permits + 0 at hkept
  have hwork := h.work_le
  rw [workLeft_start] at hwork
  refine ⟨by omega, by omega, fun hstuck => ?_⟩
  have hdone : s.strands = 0 := by
    by_contra hne
    obtain ⟨t, hstep⟩ : ∃ t, Step c keyword s t := exists_step (by omega) hne
    exact hstuck t hstep
  refine ⟨hdone, ?_⟩
  have hall := h.outcomes_eq
  rw [outcomes_start, hdone] at hall
  simpa [outcomes, FanOut.start] using hall

end Start

end Folio.Crawl
