import Folio.Crawl.Basic
import Folio.Proofs.Event

/-!
# Folio.Proofs.Crawl.Basic

Opening a page: loading it and reading it.  Both crawls open one link after
another and differ only in what they read on a page and in the link that they
take next.
-/

namespace Folio.Crawler

open Folio.Crawl

variable {α β : Type}

/-- Open a link of a source: load its page, and read it. -/
def openPage (c : Crawler) (source : Source) (read : PageText → Traced α) (link : String) :
    Traced (Except Failure (PageText × α)) := do
  match ← c.loadLink source link with
  | .error f => return .error f
  | .ok page =>
    let reading ← read page
    return .ok (page, reading)

theorem value_openPage_error {c : Crawler} {source : Source} {read : PageText → Traced α}
    {link : String} {f : Failure} (h : (c.loadLink source link).value = .error f) :
    (c.openPage source read link).value = .error f := by
  rw [openPage, Traced.value_bind, h]
  rfl

theorem value_openPage_ok {c : Crawler} {source : Source} {read : PageText → Traced α}
    {link : String} {page : PageText} (h : (c.loadLink source link).value = .ok page) :
    (c.openPage source read link).value = .ok (page, (read page).value) := by
  rw [openPage, Traced.value_bind, h]
  rfl

theorem requests_openPage_error {c : Crawler} {source : Source} {read : PageText → Traced α}
    {link : String} {f : Failure} (h : (c.loadLink source link).value = .error f) :
    (c.openPage source read link).requests = (c.loadLink source link).requests := by
  simp only [openPage, Traced.requests_bind, h, Traced.requests_pure, List.append_nil]

theorem requests_openPage_ok {c : Crawler} {source : Source} {read : PageText → Traced α}
    {link : String} {page : PageText} (h : (c.loadLink source link).value = .ok page) :
    (c.openPage source read link).requests =
      (c.loadLink source link).requests ++ (read page).requests := by
  simp only [openPage, Traced.requests_bind, h, Traced.requests_pure, List.append_nil]

/-- Time that passes asks for nothing. -/
@[simp] theorem requests_wait (milliseconds : Nat) : (wait milliseconds).requests = [] := by
  by_cases h : milliseconds = 0
  · rw [wait, if_pos h]
    rfl
  · rw [wait, if_neg h]
    exact Traced.requests_emit rfl

/-- A list has the same items in both orders. -/
@[simp] theorem mem_apply {α : Type} {order : ListOrder} {items : List α} {a : α} :
    a ∈ order.apply items ↔ a ∈ items := by
  cases order with
  | forward => rfl
  | backward => exact List.mem_reverse

end Folio.Crawler
