import Folio.Event

/-!
# Folio.Proofs.Event

The requests among the events of an operation.  An operation built from others
makes the requests of its parts, one after the other, so that what a crawl asks
for is found by following its shape.
-/

namespace Folio

/-- The event tells that a page was requested. -/
def Event.isRequest : Event → Bool
  | .requested .. => true
  | _ => false

namespace Traced

variable {α β γ : Type}

@[simp] theorem bind_assoc (t : Traced α) (f : α → Traced β) (g : β → Traced γ) :
    (t >>= f >>= g : Traced γ) = t >>= fun a => f a >>= g := by
  change andThen (andThen t f) g = andThen t fun a => andThen (f a) g
  simp [andThen]

/-- How an operation goes on depends on the value there is. -/
theorem bind_congr {t : Traced α} {f g : α → Traced β} (h : f t.value = g t.value) :
    t >>= f = t >>= g := by
  change andThen t f = andThen t g
  rw [andThen, andThen, h]

/-- The requests that an operation makes, in their order. -/
def requests (t : Traced α) : List Event := t.events.filter Event.isRequest

@[simp] theorem requests_pure (a : α) : (pure a : Traced α).requests = [] := rfl

@[simp] theorem requests_bind (t : Traced α) (f : α → Traced β) :
    (t >>= f).requests = t.requests ++ (f t.value).requests := by
  rw [requests, events_bind, List.filter_append]
  rfl

/-- An event that is no request adds none. -/
theorem requests_emit {e : Event} (h : e.isRequest = false) : (emit e).requests = [] := by
  simp [requests, emit, h]

/-- What a task gives is the value of its operation. -/
theorem value_of_asTask {t : Traced (Option α)} {a : α} (h : t.asTask.value = some a) :
    t.value = some a := by
  rw [asTask] at h
  split at h
  · contradiction
  · exact h

/-- Applying an operation to each item gives its result on each. -/
@[simp] theorem value_forEach (f : α → Traced β) (items : List α) :
    (forEach f items).value = items.map fun a => (f a).value := by
  induction items with
  | nil => rfl
  | cons a rest ih => rw [forEach, value_bind, value_bind, value_pure, ih, List.map_cons]

@[simp] theorem value_flatEach (f : α → Traced (List β)) (items : List α) :
    (flatEach f items).value = items.flatMap fun a => (f a).value := by
  rw [flatEach, value_bind, value_forEach, value_pure, List.flatMap_def]

@[simp] theorem pure_bind (a : α) (f : α → Traced β) : (pure a : Traced α) >>= f = f a := rfl

/-- An operation on items on which nothing happens. -/
theorem flatEach_map_eq_pure {f : α → Traced (List β)} {g : γ → α} {results : γ → List β}
    {items : List γ} (h : ∀ c ∈ items, f (g c) = pure (results c)) :
    flatEach f (items.map g) = pure (items.flatMap results) := by
  have heach : forEach f (items.map g) = pure (items.map results) := by
    induction items with
    | nil => rfl
    | cons c rest ih =>
        obtain ⟨hc, hrest⟩ := List.forall_mem_cons.mp h
        simp [forEach, hc, ih hrest]
  rw [flatEach, heach, pure_bind, List.flatMap_def]

/-! ## Two operations -/

/-- The same happens in two operations, and their values are related. -/
structure Mirrors {α β : Type} (R : α → β → Prop) (t : Traced α) (u : Traced β) : Prop where
  events : u.events = t.events
  value : R t.value u.value

namespace Mirrors

variable {δ : Type} {R : α → β → Prop} {S : γ → δ → Prop}

theorem pure {a : α} {b : β} (h : R a b) : Mirrors R (Pure.pure a) (Pure.pure b) := ⟨rfl, h⟩

/-- Operations mirror each other when their parts do. -/
theorem bind {t : Traced α} {u : Traced β} (h : Mirrors R t u) {f : α → Traced γ}
    {g : β → Traced δ} (hfg : R t.value u.value → Mirrors S (f t.value) (g u.value)) :
    Mirrors S (t >>= f) (u >>= g) := by
  have hnext := hfg h.value
  exact ⟨by rw [events_bind, events_bind, h.events, hnext.events], hnext.value⟩

/-- An operation that is part of both. -/
theorem bind_same (t : Traced α) {f : α → Traced γ} {g : α → Traced δ}
    (hfg : Mirrors S (f t.value) (g t.value)) : Mirrors S (t >>= f) (t >>= g) :=
  bind (R := Eq) ⟨rfl, rfl⟩ fun _ => hfg

/-- Tasks of operations that mirror each other end both without a value, or with
theirs. -/
theorem asTask {Q : Option α → Option β → Prop} {t : Traced (Option α)} {u : Traced (Option β)}
    (hnone : Q none none) (h : Mirrors Q t u) : Mirrors Q t.asTask u.asTask := by
  have hstops : u.stops = t.stops := by rw [stops, stops, h.events]
  rw [Traced.asTask, Traced.asTask, hstops, h.events]
  split
  · exact ⟨rfl, hnone⟩
  · exact h

theorem map {t : Traced α} {u : Traced β} (h : Mirrors R t u) {f : α → γ} {g : β → δ}
    (hfg : R t.value u.value → S (f t.value) (g u.value)) : Mirrors S (f <$> t) (g <$> u) :=
  h.bind fun hvalue => .pure (hfg hvalue)

end Mirrors

end Traced

end Folio
