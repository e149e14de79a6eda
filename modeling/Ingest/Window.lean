import Ingest.Time.Instant

/-!
# Window — the span one execution covers

A window is open at its start and closed at its end, so consecutive windows share no instant.
-/

namespace Ingest

/-- The instants after `since`, up to and including `upTo`. -/
structure Window where
  /-- The window starts right after this instant. -/
  since : Instant
  /-- The last instant of the window. -/
  upTo : Instant
deriving DecidableEq

/-- Whether an instant lies in the window. -/
def Window.contains (w : Window) (t : Instant) : Bool := w.since < t && t ≤ w.upTo

/-- What a pipeline is asked to do. -/
structure Execution where
  /-- The group that is processed. -/
  group : String
  /-- The window that is moved to the sinks. -/
  window : Window
  /-- The number of rows that completes a batch; zero counts as one. -/
  batchSize : Nat
deriving DecidableEq

end Ingest
