import Ingest.Checkpoint

/-!
# CheckpointStore — where checkpoints are kept

Every access may fail. A `CheckpointTable` keeps checkpoints in memory, by group and pipeline; it
never fails.
-/

namespace Ingest

/-- A place where checkpoints are kept. `ω` is the world that accesses may read and change. -/
structure CheckpointStore (ω : Type) where
  /-- The checkpoint of a pipeline of a group. -/
  get : String → String → StateM ω (Except Error (Option Checkpoint))
  /-- Stores a checkpoint in place of the one with its group and pipeline. -/
  put : Checkpoint → StateM ω (Except Error Unit)
  /-- Forgets the checkpoint of a pipeline of a group. -/
  delete : String → String → StateM ω (Except Error Unit)
  /-- All checkpoints of a group, by the name of their pipeline. -/
  list : String → StateM ω (Except Error (List Checkpoint))

/-- A group and a pipeline, by group and then by pipeline. -/
instance ordGroupPipeline : Ord (String × String) := lexOrd

/-- Checkpoints kept in memory. -/
structure CheckpointTable where
  /-- The checkpoints, by group and pipeline. -/
  checkpoints : OrderedMap (String × String) Checkpoint := ∅

namespace CheckpointTable

/-- The checkpoint of a pipeline of a group. -/
def get? (t : CheckpointTable) (group pipeline : String) : Option Checkpoint :=
  t.checkpoints.get? (group, pipeline)

/-- The table with a checkpoint in place of the one with its group and pipeline. -/
def put (t : CheckpointTable) (c : Checkpoint) : CheckpointTable :=
  ⟨t.checkpoints.insert (c.group, c.pipeline) c⟩

/-- The table without the checkpoint of a pipeline of a group. -/
def delete (t : CheckpointTable) (group pipeline : String) : CheckpointTable :=
  ⟨t.checkpoints.erase (group, pipeline)⟩

/-- All checkpoints that are for a group, in the order of the table. -/
def list (t : CheckpointTable) (group : String) : List Checkpoint :=
  t.checkpoints.values.filter (·.group = group)

/-- The table as a store. -/
def store : CheckpointStore CheckpointTable where
  get group pipeline := do return .ok ((← MonadState.get).get? group pipeline)
  put c := do modify (·.put c); return .ok ()
  delete group pipeline := do modify (·.delete group pipeline); return .ok ()
  list group := do return .ok ((← MonadState.get).list group)

end CheckpointTable

end Ingest
