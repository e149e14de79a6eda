/-!
# FanOut — one stream for several consumers

Items come through a channel of bounded capacity and are kept until every live consumer has read
them. A consumer that is `retention` items ahead of the slowest one is suspended. Positions are
counted from the start of the stream; `base` is the position of the oldest item kept.

Consumers take turns at the channel: one that has read everything kept claims it, and only the
consumer that holds it receives the next item and appends it to those kept. Between claim, receipt
and append the others may read on.
-/

namespace Ingest

/-- A channel and its consumers. -/
structure FanOut (α : Type) where
  /-- The greatest number of items in the channel. -/
  capacity : Nat
  /-- The number of kept items from which on a consumer is suspended. -/
  retention : Nat
  /-- The items in the channel. -/
  channel : List α
  /-- Whether the sender has closed the channel. -/
  closed : Bool
  /-- The items kept. -/
  buffer : List α
  /-- The position of the first item kept. -/
  base : Nat
  /-- The position that each consumer reads next; none once it was dropped. -/
  cursors : List (Option Nat)
  /-- Whether the end of the channel was met. -/
  finished : Bool
  /-- The consumer that holds the channel. -/
  holder : Option Nat
  /-- What the holder was given by the channel and has not passed on: an item, or none for the end. -/
  arrived : Option (Option α)
deriving DecidableEq, Repr

/-- What a sender hears. -/
inductive SendReply where
  | sent
  /-- The channel holds as many items as it may. -/
  | full
  /-- No consumer is left. -/
  | closed
  /-- The channel was closed by its sender. -/
  | noSender
deriving DecidableEq, Repr

/-- What a consumer finds among the items kept. -/
inductive Glance (α : Type) where
  | item (x : α)
  /-- Everything has been read, and nothing more comes. -/
  | ended
  /-- The consumer is too far ahead of another one. -/
  | suspended
  /-- Everything kept has been read; more may come through the channel. -/
  | caughtUp
deriving DecidableEq, Repr

/-- What a consumer that asks for the next item hears. -/
inductive Poll (α : Type) where
  | item (x : α)
  | ended
  | pending
  /-- The consumer was dropped, or there never was one of that number. -/
  | noConsumer
deriving DecidableEq, Repr

namespace FanOut

variable {α : Type}

/-- An empty stream for some consumers; a retention of zero counts as one. -/
def start (capacity consumers retention : Nat) : FanOut α where
  capacity := capacity
  retention := max retention 1
  channel := []
  closed := false
  buffer := []
  base := 0
  cursors := List.replicate consumers (some 0)
  finished := false
  holder := none
  arrived := none

/-- The position after the last item kept. -/
def stop (f : FanOut α) : Nat := f.base + f.buffer.length

/-- The position of a consumer, if it is live. -/
def cursor? (f : FanOut α) (i : Nat) : Option Nat := (f.cursors[i]?).join

/-- The position of the slowest live consumer. -/
def slowest? (f : FanOut α) : Option Nat := (f.cursors.filterMap id).min?

/-- Forgets the items that every live consumer has read. -/
def trim (f : FanOut α) : FanOut α :=
  let read := (f.slowest?.getD f.stop) - f.base
  { f with buffer := f.buffer.drop read, base := f.base + min read f.buffer.length }

/-! ## The sender -/

/-- Sends an item. -/
def send (f : FanOut α) (x : α) : SendReply × FanOut α :=
  if f.closed then (.noSender, f)
  else if f.slowest?.isNone then (.closed, f)
  else if f.capacity ≤ f.channel.length then (.full, f)
  else (.sent, { f with channel := f.channel ++ [x] })

/-- Closes the channel; what it holds can still be read. -/
def close (f : FanOut α) : FanOut α := { f with closed := true }

/-! ## A consumer -/

/-- Reads the next item among those kept. -/
def read (f : FanOut α) (i : Nat) : Glance α × FanOut α :=
  match f.cursor? i with
  | none => (.ended, f)
  | some position =>
    if position < f.stop then
      let moved := trim { f with cursors := f.cursors.set i (some (position + 1)) }
      match f.buffer[position - f.base]? with
      | some x => (.item x, moved)
      | none => (.ended, moved)
    else if f.finished then (.ended, f)
    else if f.retention ≤ f.buffer.length then (.suspended, f)
    else (.caughtUp, f)

/-- Takes hold of the channel, if nobody holds it and it is still this consumer's turn. -/
def claim (f : FanOut α) (i : Nat) : FanOut α :=
  if f.holder.isSome || f.finished || f.retention ≤ f.buffer.length then f
  else
    match f.cursor? i with
    | some position => if f.stop ≤ position then { f with holder := some i } else f
    | none => f

/-- The holder takes the next item out of the channel, or meets its end. -/
def receive (f : FanOut α) : FanOut α :=
  match f.holder, f.arrived, f.channel with
  | some _, none, x :: rest => { f with channel := rest, arrived := some (some x) }
  | some _, none, [] => if f.closed then { f with arrived := some none } else f
  | _, _, _ => f

/-- What the holder was given joins the items kept, or is the end of them, and the holder lets go. -/
def append (f : FanOut α) : FanOut α :=
  match f.arrived with
  | some (some x) => { f with buffer := f.buffer ++ [x], arrived := none, holder := none }
  | some none => { f with finished := true, arrived := none, holder := none }
  | none => f

/-- The holder lets go of the channel, unless it was given something. -/
def release (f : FanOut α) : FanOut α :=
  if f.arrived.isNone then { f with holder := none } else f

/-- Asks for the next item of a consumer, without waiting. -/
def poll (f : FanOut α) (i : Nat) : Poll α × FanOut α :=
  if (f.cursor? i).isNone then (.noConsumer, f)
  else
    match f.read i with
    | (.item x, f) => (.item x, f)
    | (.ended, f) => (.ended, f)
    | (.suspended, f) => (.pending, f)
    | (.caughtUp, f) =>
      match ((f.claim i).receive.append.release).read i with
      | (.item x, f) => (.item x, f)
      | (.ended, f) => (.ended, f)
      | (_, f) => (.pending, f)

/-- Drops a consumer; the items that only it had not read are forgotten. -/
def drop (f : FanOut α) (i : Nat) : FanOut α :=
  trim { f with cursors := f.cursors.set i none, holder := f.holder.filter (· ≠ i) }

/-- Everything a consumer can get without waiting, at most `fuel` items, and whether the stream
ended. -/
def pollAll (i : Nat) : Nat → FanOut α → (List α × Bool) × FanOut α
  | 0, f => (([], false), f)
  | fuel + 1, f =>
    match f.poll i with
    | (.item x, f) =>
      let ((items, ended), f) := pollAll i fuel f
      ((x :: items, ended), f)
    | (.ended, f) => (([], true), f)
    | (_, f) => (([], false), f)

/-- Everything a consumer can get without waiting, and whether the stream ended. -/
def stream (f : FanOut α) (i : Nat) : (List α × Bool) × FanOut α :=
  pollAll i (f.buffer.length + f.channel.length + 1) f

end FanOut

end Ingest
