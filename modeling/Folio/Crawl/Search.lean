import Folio.Book
import Folio.Crawl.BookList

/-!
# Folio.Crawl.Search

Searching many sources at the same time.  Each source takes a permit, sends its
request, waits for the page and reads it; only as many may hold a permit as the
settings allow, and a permit that is given back goes to the source that has
waited longest.  What the sources find is delivered in the order in which they
finish.

A source that can go on takes a turn, which ends where it has to wait.  Time
passes only when no source can go on.

Any number of workers is taken here.  Permits are handed out by a semaphore, and
a semaphore has at most `2 ^ 61 - 1` of them (an eighth of the greatest word of
64 bits): settings that ask for more workers stop the search before its first
request, and only with such settings does it differ from this one.
-/

namespace Folio.Crawl

/-- A source to be searched, with its place among the sources. -/
structure Task where
  rank : Nat
  source : Source

/-- A request under way. -/
structure Pending where
  task : Task
  request : Request
  reply : Reply
  /-- When the reply arrives. -/
  due : Nat

/-- What the next turn of a source begins with. -/
inductive Turn where
  /-- It asks for a permit. -/
  | asks (task : Task)
  /-- It has been given one that another source gave back. -/
  | admitted (task : Task)
  /-- The reply to its request has arrived. -/
  | answered (pending : Pending)

/-- How far a search has come. -/
structure Schedule where
  /-- Milliseconds since the beginning. -/
  now : Nat
  /-- How many permits are left. -/
  permits : Nat
  /-- The turns that can be taken, in their order. -/
  ready : List Turn
  /-- The sources that wait for a permit, in the order in which they asked. -/
  waiting : List Task
  /-- The requests under way, in the order in which they were sent. -/
  underWay : List Pending
  /-- What the sources found that have finished since the last delivery. -/
  finished : List SearchBatch

/-- A batch and when it was delivered. -/
structure Delivery where
  time : Nat
  batch : SearchBatch
deriving DecidableEq, Repr

/-- The outcome of a search. -/
structure SearchResult where
  deliveries : List Delivery
  /-- The URLs of the requests that were under way when the search was given
  up. -/
  cancelled : List String
deriving DecidableEq, Repr

namespace Schedule

/-- All sources ask for a permit. -/
def start (permits : Nat) (tasks : List Task) : Schedule :=
  ⟨0, permits, tasks.map .asks, [], [], []⟩

/-- A source has finished: what it found is kept unless it is nothing, and its
permit goes to the source that has waited longest. -/
def finish (s : Schedule) (found : Option SearchBatch) : Schedule :=
  let found := (found.filter fun batch => !batch.books.isEmpty).toList
  let s : Schedule := { s with finished := s.finished ++ found }
  match s.waiting with
  | [] => { s with permits := s.permits + 1 }
  | task :: rest => { s with waiting := rest, ready := s.ready ++ [.admitted task] }

/-- The time at which the next reply arrives. -/
def nextArrival? (s : Schedule) : Option Nat := (s.underWay.map (·.due)).min?

/-- The schedule at a later time: the sources whose replies have arrived can go
on. -/
def advanceTo (s : Schedule) (time : Nat) : Schedule :=
  let (arrived, underWay) := s.underWay.partition fun p => p.due ≤ time
  { s with now := time, ready := s.ready ++ arrived.map .answered, underWay }

/-- The requests that have been sent and not been dealt with, by their place
among the sources. -/
def pending (s : Schedule) : List Pending :=
  let arrived := s.ready.filterMap fun
    | .answered p => some p
    | _ => none
  (arrived ++ s.underWay).mergeSort fun p q => p.task.rank ≤ q.task.rank

/-- The schedule after its deliveries, at most `wanted` of them. -/
def deliver (s : Schedule) (wanted : Option Nat) : List Delivery × Schedule :=
  let batches := match wanted with
    | none => s.finished
    | some wanted => s.finished.take wanted
  (batches.map (⟨s.now, ·⟩), { s with finished := s.finished.drop batches.length })

end Schedule

end Folio.Crawl

namespace Folio.Crawler

open Folio.Text Folio.Crawl

/-! ## One source -/

/-- A source cannot be searched. -/
def searchFailed (source : Source) (f : Failure) : Traced (Option SearchBatch) := do
  Traced.emit (.searchFailed source.url f)
  return none

/-- The request for a search in a source. -/
def searchRequest (c : Crawler) (source : Source) (keyword : String) :
    Traced (Except Request.Failure Request) :=
  let template := source.searchUrl.getD ""
  Request.build c.evaluator source c.settings.request ⟨some keyword, 1⟩ template

/-- What a source gives, once the reply to its request has arrived.  Sources are
searched in tasks, so that a rule that stops ends the search of its own source
alone. -/
def searchReply (c : Crawler) (source : Source) (request : Request) (reply : Reply) :
    Traced (Option SearchBatch) := do
  match ← receive request reply with
  | .error f => searchFailed source f
  | .ok page => Traced.asTask do
    let books ← c.listedBooks source source.search page
    return some ⟨source.url, source.displayName, books⟩

/-- The search of one source alone. -/
def searchSource (c : Crawler) (source : Source) (keyword : String) :
    Traced (Option SearchBatch) := do
  match ← c.searchRequest source keyword with
  | .error f => searchFailed source (.request f)
  | .ok request =>
    let reply ← send c.fetcher request
    wait reply.delay
    c.searchReply source request reply

/-! ## Many sources -/

/-- A source with a permit sends its request.  A reply that takes no time is
dealt with in the same turn. -/
def sendRequest (c : Crawler) (keyword : String) (task : Task) (s : Schedule) :
    Traced Schedule := do
  match ← c.searchRequest task.source keyword with
  | .error f => s.finish <$> searchFailed task.source (.request f)
  | .ok request =>
    let reply ← send c.fetcher request
    if reply.delay = 0 then s.finish <$> c.searchReply task.source request reply
    else
      let pending : Pending := ⟨task, request, reply, s.now + reply.delay⟩
      return { s with underWay := s.underWay ++ [pending] }

/-- One turn. -/
def takeTurn (c : Crawler) (keyword : String) (turn : Turn) (s : Schedule) : Traced Schedule :=
  match turn with
  | .asks task =>
    match s.permits with
    | 0 => pure { s with waiting := s.waiting ++ [task] }
    | permits + 1 => c.sendRequest keyword task { s with permits }
  | .admitted task => c.sendRequest keyword task s
  | .answered p => s.finish <$> c.searchReply p.task.source p.request p.reply

/-- How many turns are taken before the next delivery. -/
def turnsPerRound : Nat := 61

/-- Take turns in their order, at most `count` of them. -/
def takeTurns (c : Crawler) (keyword : String) (count : Nat) (s : Schedule) : Traced Schedule :=
  match count with
  | 0 => pure s
  | count + 1 =>
    match s.ready with
    | [] => pure s
    | turn :: ready => do
      let s ← c.takeTurn keyword turn { s with ready }
      c.takeTurns keyword count s

/-- Let time pass until the next reply arrives, if no source can go on. -/
def passTime (s : Schedule) : Traced Schedule :=
  match s.ready, s.nextArrival? with
  | [], some time => do
    wait (time - s.now)
    return s.advanceTo time
  | _, _ => pure s

/-- Rounds of turns and deliveries, until `wanted` batches are delivered or all
sources have finished. -/
def searchRounds (c : Crawler) (keyword : String) (rounds : Nat) (wanted : Option Nat)
    (s : Schedule) : Traced SearchResult :=
  match rounds with
  | 0 => pure ⟨[], []⟩
  | rounds + 1 =>
    if wanted = some 0 then pure ⟨[], s.pending.map (·.request.url.text)⟩
    else if s.ready.isEmpty && s.underWay.isEmpty then pure ⟨[], []⟩
    else do
      let s ← passTime s
      let s ← c.takeTurns keyword turnsPerRound s
      let (deliveries, s) := s.deliver wanted
      let result ← c.searchRounds keyword rounds (wanted.map (· - deliveries.length)) s
      return { result with deliveries := deliveries ++ result.deliveries }

/-- The order in which sources are searched: by the order that is asked for,
and by descending weight. -/
def comesBefore (a b : Source) : Bool :=
  a.customOrder < b.customOrder || (a.customOrder == b.customOrder && b.weight ≤ a.weight)

/-- The sources that take part in a search, in the order in which they ask for
a permit. -/
def searchTasks (sources : List Source) : List Task :=
  ((sources.filter Source.isSearchable).mergeSort comesBefore).mapIdx Task.mk

/-- Search sources for a keyword and give the search up after `wanted` batches.
A source takes at most three turns, and every round takes a turn.  There are as
many permits as workers, and at least one. -/
def search (c : Crawler) (sources : List Source) (keyword : String) (wanted : Option Nat) :
    Traced SearchResult :=
  let tasks := searchTasks sources
  let schedule := Schedule.start (max 1 c.settings.workers) tasks
  c.searchRounds keyword (3 * tasks.length + 1) wanted schedule

end Folio.Crawler
