import Ingest.Error
import Ingest.Row
import Ingest.Window

/-!
# Extraction — one ascending stream from many pages

A source answers one page at a time. A full page may end inside a run of equal timestamps, so the
rows with its last timestamp are withheld and fetched again, complete, with the next page. The rows
sent therefore always form complete runs of equal timestamps.
-/

namespace Ingest

/-- A request for one page. -/
structure Fetch where
  /-- The group that is processed. -/
  group : String
  /-- The window that is left to read. -/
  window : Window
  /-- The greatest number of rows that is wanted. -/
  limit : Nat
deriving DecidableEq

/-- Where rows come from. `ω` is the world that fetching may read and change. -/
structure PageSource (ω ρ : Type) where
  /-- The name of the source. -/
  name : String
  /-- Fetches one page. -/
  fetch : Fetch → StateM ω (Attempt (List ρ))

/-- The page that a table has for a request: its first rows inside the window. -/
def Fetch.page {ρ : Type} [Timed ρ] (f : Fetch) (table : List ρ) : List ρ :=
  (table.filter fun r => f.window.contains (time r)).take f.limit

/-- What was done with one page. -/
structure PageInfo where
  /-- The number of the page, from 1. -/
  page : Nat
  /-- The rows the source gave. -/
  fetched : Nat
  /-- The rows that were sent. -/
  emitted : Nat
  /-- The next page starts right after this instant. -/
  cursor : Instant
deriving DecidableEq

/-- What an observer of an extraction hears. -/
inductive ExtractEvent where
  | page (info : PageInfo)
  | failed (message : String)
deriving DecidableEq

/-- How far an extraction has come. -/
structure Progress where
  /-- The pages fetched. -/
  pages : Nat := 0
  /-- The rows sent. -/
  rows : Nat := 0
  /-- The timestamp of the last row sent. -/
  lastAt : Option Instant := none
  /-- Whether the receivers went away. -/
  receiversClosed : Bool := false
deriving DecidableEq

namespace Progress

/-- The next page starts right after this instant. -/
def cursor (p : Progress) (since : Instant) : Instant := p.lastAt.getD since

/-- The progress after some rows of the next page were sent. -/
def extend {ρ : Type} [Timed ρ] (p : Progress) (sent : List ρ) : Progress :=
  { p with
    pages := p.pages + 1
    rows := p.rows + sent.length
    lastAt := (sent.getLast?.map time).or p.lastAt }

end Progress

/-- Reads a source page by page. -/
structure Extraction (ω ρ : Type) where
  /-- Where the rows come from. -/
  source : PageSource ω ρ
  /-- The wanted size of a page; zero counts as one. -/
  pageSize : Nat

namespace Extraction

variable {ω ρ : Type}

/-- What an extraction leaves behind. -/
structure Outcome (ρ : Type) where
  /-- The final progress, or what ended the extraction early. -/
  result : Attempt Progress
  /-- The rows sent. -/
  sent : List ρ
  /-- What observers heard. -/
  events : List ExtractEvent

/-- The page size that is asked for. -/
def limit (x : Extraction ω ρ) : Nat := max x.pageSize 1

/-- The greatest number of pages of one extraction. -/
def maxPages : Nat := 0xffffffff

variable [Timed ρ]

/-! ## One page -/

/-- The first timestamp that is before its predecessor, with that predecessor. -/
def firstDescent? : Option Instant → List ρ → Option (Instant × Instant)
  | _, [] => none
  | none, r :: rs => firstDescent? (some (time r)) rs
  | some t, r :: rs =>
    if time r < t then some (time r, t) else firstDescent? (some (time r)) rs

/-- The rows before the last timestamp of an ascending page. -/
def beforeLast (rows : List ρ) : List ρ :=
  match rows.getLast? with
  | none => []
  | some last => rows.takeWhile fun r => time r < time last

/-- The rows of page number `page` that may be sent. `lastAt` is the last timestamp sent before. -/
def safeRows (limit page : Nat) (lastAt : Option Instant) (rows : List ρ) :
    Except Error (List ρ) :=
  match firstDescent? lastAt rows with
  | some (current, previous) => .error (.ordering current previous)
  | none =>
    if rows.length < limit then .ok rows
    else
      match beforeLast rows with
      | [] => .error (.pageBoundary limit page)
      | safe => .ok safe

/-- Sends rows as long as somebody receives them. Answers the rows sent, and whether that was all of
them. -/
def send (receiving : StateM ω Bool) : List ρ → StateM ω (List ρ × Bool)
  | [] => return ([], true)
  | r :: rs => do
    if !(← receiving) then return ([], false)
    let (sent, all) ← send receiving rs
    return (r :: sent, all)

/-! ## All pages -/

/-- Reads the rest of a window, at most `budget` pages of it. -/
def readPages (x : Extraction ω ρ) (receiving : StateM ω Bool) (group : String) (window : Window) :
    Nat → Progress → StateM ω (Outcome ρ)
  | budget, p => do
    let cursor := p.cursor window.since
    if !(cursor < window.upTo) then return ⟨.ok p, [], []⟩
    match budget with
    | 0 => return ⟨.error (.panic (.text "attempt to add with overflow")), [], []⟩
    | budget + 1 =>
      match ← x.source.fetch ⟨group, ⟨cursor, window.upTo⟩, x.limit⟩ with
      | .error fault => return ⟨.error fault, [], []⟩
      | .ok rows =>
        match safeRows x.limit (p.pages + 1) p.lastAt rows with
        | .error e => return ⟨.error (.error e), [], []⟩
        | .ok safe =>
          let (sent, all) ← send receiving safe
          let p := p.extend sent
          if !all then return ⟨.ok { p with receiversClosed := true }, sent, []⟩
          let event := .page ⟨p.pages, rows.length, sent.length, p.cursor window.since⟩
          if rows.length < x.limit then return ⟨.ok p, sent, [event]⟩
          let rest ← readPages x receiving group window budget p
          return ⟨rest.result, sent ++ rest.sent, event :: rest.events⟩

/-- Reads a window. An error is also the last event; a panic is not. -/
def run (x : Extraction ω ρ) (receiving : StateM ω Bool) (group : String) (window : Window) :
    StateM ω (Outcome ρ) := do
  let outcome ← x.readPages receiving group window maxPages {}
  match outcome.result with
  | .error (.error e) =>
    return { outcome with events := outcome.events ++ [.failed e.message] }
  | _ => return outcome

end Extraction

end Ingest
