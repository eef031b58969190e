import Folio.Proofs.Crawl.FanOut
import Mathlib.Tactic.Abel

/-!
# Folio.Proofs.Crawl.Search

The search as it is carried out.  Its schedule decides which source goes on
next, and every turn, every delivery and all time that passes are steps of a
search (`Schedule.LeadsTo`), so that it is one of the runs that `FanOut` speaks
of, and one that goes to the end.
-/

namespace Folio.Crawl

/-! ## Schedules as states of a search -/

/-- The strand of a request under way. -/
def Pending.strand (p : Pending) : Strand := .sent p.task.source p.request p.reply

/-- The strand that a turn goes on with. -/
def Turn.strand : Turn → Strand
  | .asks task => .waiting task.source
  | .admitted task => .admitted task.source
  | .answered p => p.strand

/-- How many turns are left to the source of a turn at most, this one
included. -/
def Turn.turns : Turn → Nat
  | .asks _ => 3
  | .admitted _ => 2
  | .answered _ => 1

namespace Schedule

/-- The strands of a schedule. -/
def strands (s : Schedule) : Multiset Strand :=
  ↑(s.ready.map Turn.strand) + ↑(s.waiting.map fun task => Strand.waiting task.source) +
    (↑(s.underWay.map Pending.strand) +
      ↑(s.finished.map fun batch => Strand.finished (some batch)))

/-- The schedule as the state of a search that has delivered the batches. -/
def fanOut (s : Schedule) (delivered : List SearchBatch) : FanOut :=
  ⟨s.permits, s.strands, delivered⟩

/-- How many turns are left at most. -/
def turnsLeft (s : Schedule) : Nat :=
  (s.ready.map Turn.turns).sum + 2 * s.waiting.length + s.underWay.length

/-- Sources wait only when no permit is left, and what is to be delivered has
books. -/
structure IsSound (s : Schedule) : Prop where
  busy : s.waiting = [] ∨ s.permits = 0
  nonempty : ∀ batch ∈ s.finished, batch? (some batch) = some batch

variable {s : Schedule}

theorem coe_map_concat {α : Type} (f : α → Strand) (items : List α) (a : α) :
    (↑((items ++ [a]).map f) : Multiset Strand) = f a ::ₘ ↑(items.map f) := by
  rw [List.map_append, List.map_singleton, ← Multiset.coe_add, Multiset.coe_singleton,
    ← Multiset.singleton_add, add_comm]

/-- The strand of the next turn. -/
theorem strands_ready_cons (turn : Turn) (rest : List Turn) :
    strands { s with ready := turn :: rest } =
      turn.strand ::ₘ strands { s with ready := rest } := by
  simp only [strands, List.map_cons, ← Multiset.cons_coe, Multiset.cons_add]

/-- The strand of the source that has waited longest. -/
theorem strands_waiting_cons (task : Task) (rest : List Task) :
    strands { s with waiting := task :: rest } =
      .waiting task.source ::ₘ strands { s with waiting := rest } := by
  simp only [strands, List.map_cons, ← Multiset.cons_coe, Multiset.cons_add, Multiset.add_cons]

/-- A turn that is added has one strand. -/
theorem strands_ready_concat (turn : Turn) :
    strands { s with ready := s.ready ++ [turn] } = turn.strand ::ₘ s.strands := by
  simp only [strands, coe_map_concat, Multiset.cons_add]

theorem strands_waiting_concat (task : Task) :
    strands { s with waiting := s.waiting ++ [task] } = .waiting task.source ::ₘ s.strands := by
  simp only [strands, coe_map_concat, Multiset.cons_add, Multiset.add_cons]

theorem strands_underWay_concat (p : Pending) :
    strands { s with underWay := s.underWay ++ [p] } = p.strand ::ₘ s.strands := by
  simp only [strands, coe_map_concat, Multiset.cons_add, Multiset.add_cons]

theorem strands_finished_concat (batch : SearchBatch) :
    strands { s with finished := s.finished ++ [batch] } =
      .finished (some batch) ::ₘ s.strands := by
  simp only [strands, coe_map_concat, Multiset.add_cons]

theorem turnsLeft_ready_cons (turn : Turn) :
    turnsLeft { s with ready := turn :: s.ready } = turn.turns + s.turnsLeft := by
  simp only [turnsLeft, List.map_cons, List.sum_cons]
  omega

/-- A source that has finished takes no further turn. -/
@[simp] theorem turnsLeft_finish (s : Schedule) (found : Option SearchBatch) :
    (s.finish found).turnsLeft = s.turnsLeft := by
  obtain ⟨now, permits, ready, waiting, underWay, finished⟩ := s
  cases waiting with
  | nil => rfl
  | cons task rest =>
      simp only [finish, turnsLeft, List.map_append, List.map_singleton, List.sum_append,
        List.sum_singleton, Turn.turns, List.length_cons]
      omega

/-- A source that finishes leaves the schedule sound. -/
theorem IsSound.finish (h : s.IsSound) (found : Option SearchBatch) :
    (s.finish found).IsSound := by
  obtain ⟨now, permits, ready, waiting, underWay, finished⟩ := s
  have hbooks : ∀ batch ∈ finished ++ (batch? found).toList, batch? (some batch) = some batch := by
    intro batch hmem
    rcases List.mem_append.mp hmem with hmem | hmem
    · exact h.nonempty batch hmem
    · have hfound := Option.mem_toList.mp hmem
      rwa [(Option.filter_eq_some_iff.mp hfound).1] at hfound
  cases waiting with
  | nil => exact ⟨Or.inl rfl, hbooks⟩
  | cons task rest =>
      have hpermits : permits = 0 := h.busy.resolve_left (List.cons_ne_nil task rest)
      exact ⟨Or.inr hpermits, hbooks⟩

end Schedule

/-! ## One source finishes -/

variable {c : Crawler} {keyword : String}

/-- What a source found is kept. -/
theorem reaches_keep (s : Schedule) (permits : Nat) (found : Option SearchBatch)
    (delivered : List SearchBatch) :
    Reaches c keyword ⟨permits, .finished found ::ₘ s.strands, delivered⟩
      ⟨permits, Schedule.strands { s with finished := s.finished ++ (batch? found).toList },
        delivered⟩ := by
  cases hbatch : batch? found with
  | none =>
      have hjoin : Step c keyword ⟨permits, .finished found ::ₘ s.strands, delivered⟩
          ⟨permits, s.strands, delivered ++ (batch? found).toList⟩ := .join
      rw [hbatch, Option.toList_none, List.append_nil] at hjoin
      rw [Option.toList_none, List.append_nil]
      exact hjoin.reaches
  | some batch =>
      obtain rfl : found = some batch := (Option.filter_eq_some_iff.mp hbatch).1
      rw [Option.toList_some, Schedule.strands_finished_concat]
      exact .refl _

/-- A permit that is given back goes to a source that waits for it. -/
theorem reaches_finish (s : Schedule) (found : Option SearchBatch)
    (delivered : List SearchBatch) :
    Reaches c keyword ⟨s.permits + 1, .finished found ::ₘ s.strands, delivered⟩
      ((s.finish found).fanOut delivered) := by
  refine (reaches_keep s _ found delivered).trans ?_
  obtain ⟨now, permits, ready, waiting, underWay, finished⟩ := s
  cases waiting with
  | nil => exact .refl _
  | cons task rest =>
      have hwaits := Schedule.strands_waiting_cons (s := ⟨now, permits, ready, task :: rest,
        underWay, finished ++ (batch? found).toList⟩) task rest
      have hready := Schedule.strands_ready_concat (s := ⟨now, permits, ready, rest,
        underWay, finished ++ (batch? found).toList⟩) (.admitted task)
      refine Step.reaches ?_
      simp only [Schedule.finish, Schedule.fanOut, batch?] at hwaits hready ⊢
      rw [hwaits, hready]
      exact .acquire

/-- One schedule leads to the other by steps of a search, and after the given
number of turns at least. -/
structure Schedule.LeadsTo (c : Crawler) (keyword : String) (turns : Nat)
    (s t : Schedule) : Prop where
  reaches (delivered : List SearchBatch) :
    Reaches c keyword (s.fanOut delivered) (t.fanOut delivered)
  isSound : s.IsSound → t.IsSound
  turnsLeft_le : t.turnsLeft + turns ≤ s.turnsLeft

namespace Schedule.LeadsTo

/-- A schedule leads to itself without a turn. -/
theorem refl (s : Schedule) : LeadsTo c keyword 0 s s := ⟨fun _ => .refl _, id, le_rfl⟩

/-- Schedules lead on from one another. -/
theorem trans {m n : Nat} {s t u : Schedule} (first : LeadsTo c keyword m s t)
    (second : LeadsTo c keyword n t u) : LeadsTo c keyword (m + n) s u where
  reaches delivered := (first.reaches delivered).trans (second.reaches delivered)
  isSound h := second.isSound (first.isSound h)
  turnsLeft_le := by
    have hfirst := first.turnsLeft_le
    have hsecond := second.turnsLeft_le
    omega

/-- A source that gives its permit back. -/
theorem finish {s u : Schedule} {found : Option SearchBatch}
    (reaches : ∀ delivered, Reaches c keyword (u.fanOut delivered)
      ⟨s.permits + 1, .finished found ::ₘ s.strands, delivered⟩)
    (isSound : u.IsSound → s.IsSound) (turnsLeft : s.turnsLeft < u.turnsLeft) :
    LeadsTo c keyword 1 u (s.finish found) where
  reaches delivered := (reaches delivered).trans (reaches_finish s found delivered)
  isSound h := (isSound h).finish found
  turnsLeft_le := by
    rw [Schedule.turnsLeft_finish]
    exact turnsLeft

end Schedule.LeadsTo

/-! ## Turns -/

/-- How a source with a permit goes on. -/
theorem value_sendRequest (task : Task) (s : Schedule) :
    (c.sendRequest keyword task s).value =
      match (c.searchRequest task.source keyword).value with
      | .error _ => s.finish none
      | .ok request =>
        if (c.fetcher request).delay = 0 then
          s.finish (c.searchReply task.source request (c.fetcher request)).value
        else
          { s with underWay := s.underWay ++
              [⟨task, request, c.fetcher request, s.now + (c.fetcher request).delay⟩] } := by
  rw [Crawler.sendRequest, Traced.value_bind]
  cases (c.searchRequest task.source keyword).value with
  | error f => rfl
  | ok request =>
      have hreply : (send c.fetcher request).value = c.fetcher request := rfl
      simp only [Traced.value_bind, hreply]
      by_cases hdelay : (c.fetcher request).delay = 0
      · rw [if_pos hdelay, if_pos hdelay]
        rfl
      · rw [if_neg hdelay, if_neg hdelay]
        rfl

/-- A source that has a permit sends its request; `u` is the schedule before it had
the permit, or its turn. -/
theorem leadsTo_sendRequest {task : Task} {s u : Schedule}
    (reaches : ∀ delivered, Reaches c keyword (u.fanOut delivered)
      ⟨s.permits, .admitted task.source ::ₘ s.strands, delivered⟩)
    (isSound : u.IsSound → s.IsSound) (turnsLeft : s.turnsLeft + 2 ≤ u.turnsLeft) :
    Schedule.LeadsTo c keyword 1 u (c.sendRequest keyword task s).value := by
  rw [value_sendRequest]
  cases built : (c.searchRequest task.source keyword).value with
  | error f =>
      refine .finish (fun delivered => ?_) isSound (by omega)
      exact (reaches delivered).trans (Step.fail built).reaches
  | ok request =>
      have hsent (delivered : List SearchBatch) :
          Reaches c keyword (u.fanOut delivered)
            ⟨s.permits, .sent task.source request (c.fetcher request) ::ₘ s.strands, delivered⟩ :=
        (reaches delivered).trans (Step.send built).reaches
      dsimp only
      split
      · refine .finish (fun delivered => ?_) isSound (by omega)
        exact (hsent delivered).trans Step.answer.reaches
      · refine ⟨fun delivered => ?_, fun h => ⟨(isSound h).busy, (isSound h).nonempty⟩, ?_⟩
        · simp only [Schedule.fanOut, Schedule.strands_underWay_concat]
          exact hsent delivered
        · simp only [Schedule.turnsLeft, List.length_append, List.length_singleton] at turnsLeft ⊢
          omega

/-- A source that finds no permit waits for one. -/
theorem leadsTo_wait (task : Task) {s : Schedule} (h : s.permits = 0) :
    Schedule.LeadsTo c keyword 1 { s with ready := .asks task :: s.ready }
      { s with waiting := s.waiting ++ [task] } := by
  have hstrands : Schedule.strands { s with ready := .asks task :: s.ready } =
      Schedule.strands { s with waiting := s.waiting ++ [task] } := by
    rw [Schedule.strands_ready_cons, Schedule.strands_waiting_concat]
    rfl
  refine ⟨fun delivered => ?_, fun hsound => ⟨Or.inr h, hsound.nonempty⟩, ?_⟩
  · rw [Schedule.fanOut, hstrands]
    exact .refl _
  · rw [Schedule.turnsLeft_ready_cons]
    simp only [Schedule.turnsLeft, Turn.turns, List.length_append, List.length_singleton]
    omega

/-- **One turn** is a run of steps. -/
theorem leadsTo_takeTurn (turn : Turn) (s : Schedule) :
    Schedule.LeadsTo c keyword 1 { s with ready := turn :: s.ready }
      (c.takeTurn keyword turn s).value := by
  have hready (delivered : List SearchBatch) :
      Schedule.fanOut { s with ready := turn :: s.ready } delivered =
        ⟨s.permits, turn.strand ::ₘ s.strands, delivered⟩ := by
    rw [Schedule.fanOut, Schedule.strands_ready_cons]
  have hturns : Schedule.turnsLeft { s with ready := turn :: s.ready } =
      turn.turns + s.turnsLeft := Schedule.turnsLeft_ready_cons turn
  cases turn with
  | asks task =>
      rw [Crawler.takeTurn]
      split
      · next hpermits => exact leadsTo_wait task hpermits
      · next permits hpermits =>
        refine leadsTo_sendRequest (fun delivered => ?_) (fun h => ?_) ?_
        · rw [hready, hpermits]
          exact Step.acquire.reaches
        · have hnone : s.waiting = [] :=
            h.busy.resolve_right fun hzero => by simp [hpermits] at hzero
          exact ⟨Or.inl hnone, h.nonempty⟩
        · rw [hturns]
          simp only [Schedule.turnsLeft, Turn.turns]
          omega
  | admitted task =>
      refine leadsTo_sendRequest (fun delivered => ?_) (fun h => ⟨h.busy, h.nonempty⟩) ?_
      · rw [hready]
        exact .refl _
      · rw [hturns, Turn.turns]
        omega
  | answered p =>
      refine .finish (fun delivered => ?_) (fun h => ⟨h.busy, h.nonempty⟩) ?_
      · rw [hready]
        exact Step.answer.reaches
      · rw [hturns, Turn.turns]
        omega

/-- Turns, one after the other; at least one is taken when a source can go on. -/
theorem leadsTo_takeTurns (count : Nat) (s : Schedule) :
    ∃ turns, Schedule.LeadsTo c keyword turns s (c.takeTurns keyword count s).value ∧
      (0 < count → s.ready ≠ [] → 0 < turns) := by
  induction count generalizing s with
  | zero => exact ⟨0, .refl s, fun h => absurd h (Nat.lt_irrefl 0)⟩
  | succ count ih =>
      obtain ⟨now, permits, ready, waiting, underWay, finished⟩ := s
      cases ready with
      | nil => exact ⟨0, .refl _, fun _ h => absurd rfl h⟩
      | cons turn ready =>
          obtain ⟨turns, honward, -⟩ := ih
            (c.takeTurn keyword turn ⟨now, permits, ready, waiting, underWay, finished⟩).value
          exact ⟨1 + turns, (leadsTo_takeTurn turn _).trans honward, fun _ _ => by omega⟩

/-! ## Rounds -/

/-- The replies that have arrived, and those that have not. -/
theorem advanceTo_perm (s : Schedule) (time : Nat) :
    ∃ arrived later, (arrived ++ later).Perm s.underWay ∧
      (∀ p ∈ s.underWay, p.due ≤ time → p ∈ arrived) ∧ s.advanceTo time =
        { s with now := time, ready := s.ready ++ arrived.map .answered, underWay := later } := by
  refine ⟨_, _, List.filter_append_perm (fun p => p.due ≤ time) s.underWay, ?_, ?_⟩
  · intro p hp hdue
    exact List.mem_filter.mpr ⟨hp, decide_eq_true hdue⟩
  · simp only [Schedule.advanceTo, List.partition_eq_filter_filter]
    rfl

/-- Time that passes is no step. -/
theorem leadsTo_advanceTo (s : Schedule) (time : Nat) :
    Schedule.LeadsTo c keyword 0 s (s.advanceTo time) := by
  obtain ⟨arrived, later, hperm, -, hadvance⟩ := advanceTo_perm s time
  have hunderWay : (↑(arrived.map Pending.strand) + ↑(later.map Pending.strand) : Multiset Strand) =
      ↑(s.underWay.map Pending.strand) := by
    rw [Multiset.coe_add, ← List.map_append]
    exact Multiset.coe_eq_coe.mpr (hperm.map Pending.strand)
  have hstrands : (s.advanceTo time).strands = s.strands := by
    have hturns : (arrived.map Turn.answered).map Turn.strand = arrived.map Pending.strand := by
      rw [List.map_map]
      rfl
    rw [hadvance]
    simp only [Schedule.strands, List.map_append, hturns, ← Multiset.coe_add, ← hunderWay]
    abel
  have hfanOut (delivered : List SearchBatch) :
      (s.advanceTo time).fanOut delivered = s.fanOut delivered := by
    rw [Schedule.fanOut, hstrands]
    rfl
  refine ⟨fun delivered => ?_, fun h => ⟨h.busy, h.nonempty⟩, ?_⟩
  · rw [hfanOut]
    exact .refl _
  · have hlength := hperm.length_eq
    have hturns : ((arrived.map Turn.answered).map Turn.turns).sum = arrived.length := by
      simp [Function.comp_def, Turn.turns]
    rw [hadvance]
    simp only [Schedule.turnsLeft, List.map_append, List.sum_append, hturns, ← hlength,
      List.length_append]
    omega

/-- Passing time takes no turn. -/
theorem leadsTo_passTime (s : Schedule) :
    Schedule.LeadsTo c keyword 0 s (Crawler.passTime s).value := by
  rw [Crawler.passTime]
  split
  · exact leadsTo_advanceTo s _
  · exact .refl s

/-- Time passes until a source can go on. -/
theorem ready_passTime {s : Schedule} (h : ¬(s.ready.isEmpty && s.underWay.isEmpty) = true) :
    (Crawler.passTime s).value.ready ≠ [] := by
  obtain ⟨now, permits, ready, waiting, underWay, finished⟩ := s
  cases ready with
  | cons turn ready => exact List.cons_ne_nil turn ready
  | nil =>
      have hne : underWay ≠ [] := by simpa using h
      obtain ⟨time, htime⟩ : ∃ time, (underWay.map (·.due)).min? = some time :=
        Option.isSome_iff_exists.mp (by simpa [List.isSome_min?_iff] using hne)
      obtain ⟨p, hp, hdue⟩ := List.mem_map.mp (List.min?_mem htime)
      obtain ⟨arrived, later, -, harrived, hadvance⟩ :=
        advanceTo_perm ⟨now, permits, [], waiting, underWay, finished⟩ time
      have hvalue : (Crawler.passTime ⟨now, permits, [], waiting, underWay, finished⟩).value =
          Schedule.advanceTo ⟨now, permits, [], waiting, underWay, finished⟩ time := by
        simp only [Crawler.passTime, Schedule.nextArrival?, htime]
        rfl
      rw [hvalue, hadvance]
      simpa using List.ne_nil_of_mem (harrived p hp hdue.le)

/-- Batches are delivered. -/
theorem reaches_join {batches : List SearchBatch}
    (h : ∀ batch ∈ batches, batch? (some batch) = some batch) (permits : Nat)
    (others : Multiset Strand) (delivered : List SearchBatch) :
    Reaches c keyword
      ⟨permits, others + ↑(batches.map fun batch => Strand.finished (some batch)), delivered⟩
      ⟨permits, others, delivered ++ batches⟩ := by
  induction batches generalizing delivered with
  | nil =>
      rw [List.map_nil, Multiset.coe_nil, add_zero, List.append_nil]
      exact .refl _
  | cons batch batches ih =>
      obtain ⟨hbatch, hbatches⟩ := List.forall_mem_cons.mp h
      have hjoin : Step c keyword
          ⟨permits, .finished (some batch) ::ₘ
            (others + ↑(batches.map fun batch => Strand.finished (some batch))), delivered⟩
          ⟨permits, others + ↑(batches.map fun batch => Strand.finished (some batch)),
            delivered ++ (batch? (some batch)).toList⟩ := .join
      rw [hbatch, Option.toList_some] at hjoin
      have honward := ih hbatches (delivered ++ [batch])
      rw [List.append_assoc, List.singleton_append] at honward
      rw [List.map_cons, ← Multiset.cons_coe, Multiset.add_cons]
      exact hjoin.reaches.trans honward

/-- A schedule in which no source can go on and no request is under way has come to
its end. -/
theorem strands_eq_zero {s : Schedule} (hsound : s.IsSound)
    (hpermits : 0 < s.permits + holders s.strands) (hfinished : s.finished = [])
    (hidle : (s.ready.isEmpty && s.underWay.isEmpty) = true) : s.strands = 0 := by
  obtain ⟨now, permits, ready, waiting, underWay, finished⟩ := s
  simp only [Bool.and_eq_true, List.isEmpty_iff] at hidle
  obtain ⟨rfl, rfl⟩ := hidle
  obtain rfl : finished = [] := hfinished
  have hholders : holders (Schedule.strands ⟨now, permits, [], waiting, [], []⟩) = 0 := by
    rw [holders, Multiset.countP_eq_zero]
    intro strand hmem
    simp only [Schedule.strands, List.map_nil, Multiset.coe_nil, add_zero, zero_add,
      Multiset.mem_coe, List.mem_map] at hmem
    obtain ⟨task, -, rfl⟩ := hmem
    exact Bool.false_ne_true
  rw [hholders] at hpermits
  have hnone : waiting = [] := hsound.busy.resolve_right (Nat.ne_of_gt hpermits)
  rw [hnone]
  rfl

/-- Without a bound everything is delivered that has finished. -/
theorem deliver_none (s : Schedule) : s.deliver none =
    (s.finished.map (Delivery.mk s.now), { s with finished := [] }) := by
  simp [Schedule.deliver]

/-- What is delivered after a round. -/
theorem reaches_deliver {s : Schedule} (hsound : s.IsSound) (delivered : List SearchBatch) :
    Reaches c keyword (s.fanOut delivered)
      (Schedule.fanOut { s with finished := [] } (delivered ++ s.finished)) := by
  have hstrands : s.strands = Schedule.strands { s with finished := [] } +
      ↑(s.finished.map fun batch => Strand.finished (some batch)) := by
    simp only [Schedule.strands, List.map_nil, Multiset.coe_nil, add_zero, add_assoc]
  rw [Schedule.fanOut, hstrands]
  exact reaches_join hsound.nonempty s.permits _ delivered

/-- A round. -/
theorem leadsTo_round {s : Schedule} (h : ¬(s.ready.isEmpty && s.underWay.isEmpty) = true) :
    Schedule.LeadsTo c keyword 1 s
      (c.takeTurns keyword Crawler.turnsPerRound (Crawler.passTime s).value).value := by
  obtain ⟨turns, hturns, hpos⟩ := leadsTo_takeTurns (c := c) Crawler.turnsPerRound
    (Crawler.passTime s).value
  have hround := (leadsTo_passTime s).trans hturns
  have hturn := hpos (by decide) (ready_passTime h)
  exact ⟨hround.reaches, hround.isSound, by have := hround.turnsLeft_le; omega⟩

/-- **The rounds of a search** are a run to the end, when they are more than there are
turns left. -/
theorem reaches_searchRounds {rounds : Nat} {s : Schedule} (hsound : s.IsSound)
    (hpermits : 0 < s.permits + holders s.strands) (hfinished : s.finished = [])
    (hrounds : s.turnsLeft < rounds) (delivered : List SearchBatch) :
    ∃ permits, Reaches c keyword (s.fanOut delivered) ⟨permits, 0,
      delivered ++ (c.searchRounds keyword rounds none s).value.deliveries.map (·.batch)⟩ := by
  induction rounds generalizing s delivered with
  | zero => exact absurd hrounds (Nat.not_lt_zero _)
  | succ rounds ih =>
      rw [Crawler.searchRounds, if_neg (by simp)]
      split
      · next hidle =>
        refine ⟨s.permits, ?_⟩
        rw [Schedule.fanOut, strands_eq_zero hsound hpermits hfinished hidle]
        simpa using Reaches.refl _
      · next hbusy =>
        have hround : Schedule.LeadsTo c keyword 1 s _ := leadsTo_round hbusy
        simp only [Traced.value_bind, Traced.value_pure]
        generalize (c.takeTurns keyword Crawler.turnsPerRound (Crawler.passTime s).value).value = t
          at hround ⊢
        let next : Schedule := { t with finished := [] }
        have hnext : Reaches c keyword (s.fanOut delivered)
            (next.fanOut (delivered ++ t.finished)) :=
          (hround.reaches delivered).trans (reaches_deliver (hround.isSound hsound) delivered)
        have hkept : next.permits + holders next.strands = s.permits + holders s.strands := by
          obtain ⟨n, hrun⟩ := hnext
          exact hrun.permits_eq
        have hturns : next.turnsLeft + 1 ≤ s.turnsLeft := hround.turnsLeft_le
        have hnextSound : next.IsSound := ⟨(hround.isSound hsound).busy, by simp [next]⟩
        obtain ⟨permits, honward⟩ := ih hnextSound (by omega) rfl (by omega)
          (delivered ++ t.finished)
        refine ⟨permits, ?_⟩
        have hbatches : (t.finished.map (Delivery.mk t.now)).map (·.batch) = t.finished := by
          simp [Function.comp_def]
        rw [deliver_none, List.map_append, hbatches, ← List.append_assoc]
        exact hnext.trans honward

/-! ## A whole search -/

/-- The order of the sources does not matter to the beginning. -/
theorem FanOut.start_congr {permits : Nat} {sources others : List Source}
    (h : sources.Perm others) : FanOut.start permits sources = FanOut.start permits others := by
  rw [FanOut.start, FanOut.start, Multiset.coe_eq_coe.mpr (h.map Strand.waiting)]

/-- At the beginning all sources wait. -/
@[simp] theorem fanOut_start (permits : Nat) (tasks : List Task) :
    (Schedule.start permits tasks).fanOut [] = FanOut.start permits (tasks.map (·.source)) := by
  have hstrands : (Schedule.start permits tasks).strands =
      ↑((tasks.map (·.source)).map Strand.waiting) := by
    simp only [Schedule.start, Schedule.strands, List.map_map, List.map_nil, Multiset.coe_nil,
      add_zero]
    rfl
  rw [Schedule.fanOut, hstrands]
  rfl

/-- At the beginning three turns are left for each source. -/
@[simp] theorem turnsLeft_start (permits : Nat) (tasks : List Task) :
    (Schedule.start permits tasks).turnsLeft = 3 * tasks.length := by
  simp [Schedule.start, Schedule.turnsLeft, Function.comp_def, Turn.turns, Nat.mul_comm]

/-- Every source that can be searched is searched once. -/
theorem searchTasks_perm (sources : List Source) :
    ((Crawler.searchTasks sources).map (·.source)).Perm (sources.filter Source.isSearchable) := by
  have hsource (sorted : List Source) : (sorted.mapIdx Task.mk).map (·.source) = sorted := by
    refine List.ext_getElem (by simp) fun n _ _ => ?_
    simp
  rw [Crawler.searchTasks, hsource]
  exact List.mergeSort_perm _ _

/-- **Searching many sources.**  Whichever source goes on next, no more permits are held
at any time than the settings allow, the search comes to an end, and then every
source that can be searched has delivered the books that it gives when it is
searched alone, once, and nothing if it gives none.  The search as it is carried
out is one of these runs. -/
theorem search_fanOut (c : Crawler) (sources : List Source) (keyword : String) :
    let workers := max 1 c.settings.workers
    let searched := sources.filter Source.isSearchable
    let start := FanOut.start workers searched
    let found := (c.search sources keyword none).value.deliveries.map (·.batch)
    (∀ n s, Run c keyword n start s →
      holders s.strands ≤ workers ∧ n ≤ 4 * searched.length ∧
      ((∀ t, ¬Step c keyword s t) →
        s.strands = 0 ∧ (s.delivered : Multiset SearchBatch) = batchesAlone c keyword searched)) ∧
    (∃ permits, Reaches c keyword start ⟨permits, 0, found⟩) ∧
    found.Perm (batchesAlone c keyword searched) := by
  intro workers searched start found
  have hworkers : 0 < workers := Nat.lt_of_lt_of_le Nat.one_pos (Nat.le_max_left 1 _)
  let schedule := Schedule.start workers (Crawler.searchTasks sources)
  have hstart : schedule.fanOut [] = start := by
    rw [fanOut_start]
    exact FanOut.start_congr (searchTasks_perm sources)
  have hreaches : ∃ permits, Reaches c keyword start ⟨permits, 0, found⟩ := by
    have hsound : schedule.IsSound := ⟨Or.inl rfl, by simp [schedule, Schedule.start]⟩
    rw [← hstart]
    exact reaches_searchRounds hsound (Nat.lt_of_lt_of_le hworkers (Nat.le_add_right _ _)) rfl
      (by rw [turnsLeft_start]; omega) []
  refine ⟨fun n s hrun => hrun.from_start hworkers, hreaches, ?_⟩
  obtain ⟨permits, n, hrun⟩ := hreaches
  have hall := hrun.outcomes_eq
  rw [outcomes_start] at hall
  exact Multiset.coe_eq_coe.mp (by simpa [outcomes, start, FanOut.start] using hall)

end Folio.Crawl
