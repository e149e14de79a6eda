/-!
# Ticker — how often a job reports progress

A ticker reports once every period, first after one full period. A report that is due at the very
moment at which somebody looks has not happened yet.
-/

namespace Ingest

/-- A ticker on a clock of milliseconds. -/
structure Ticker where
  /-- The time between two reports; zero counts as one. -/
  period : Nat
  /-- The time since the ticker was started. -/
  elapsed : Nat := 0
  /-- Whether the ticker was stopped. -/
  stopped : Bool := false
deriving DecidableEq, Repr

namespace Ticker

/-- The number of reports so far: the multiples of the period that lie strictly between the start
and now. -/
def ticks (t : Ticker) : Nat := (t.elapsed - 1) / max t.period 1

/-- Lets time pass; a stopped ticker stands still. -/
def sleep (t : Ticker) (duration : Nat) : Ticker :=
  if t.stopped then t else { t with elapsed := t.elapsed + duration }

/-- Stops the ticker for good. -/
def stop (t : Ticker) : Ticker := { t with stopped := true }

/-- A ticker that ran along with a job of some duration and was stopped with it. -/
def alongside (period duration : Nat) : Ticker := (Ticker.sleep { period := period } duration).stop

end Ticker

end Ingest
