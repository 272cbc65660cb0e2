import Relay.Processor
import Relay.Text.Blank

/-!
# Pipelines

A chain of processors under a name, with metadata. Each sends requests to the next one and replies
to the one before.
-/

namespace Relay

open Relay.Text

/-- **A pipeline**: at least one processor, and a name that is not blank. -/
structure Pipeline (T : Traffic) where
  name : String
  processors : List (Processor T)
  metadata : Metadata
  name_not_blank : isBlank name = false
  processors_ne_nil : processors ≠ []

namespace Pipeline

variable {T : Traffic}

/-- The number of stages. -/
def size (pipeline : Pipeline T) : Nat := pipeline.processors.length

/-- The names of the processors, in order. -/
def names (pipeline : Pipeline T) : List String := pipeline.processors.map (·.name)

/-- The processor of a stage. -/
def processor? (pipeline : Pipeline T) (stage : Nat) : Option (Processor T) :=
  pipeline.processors[stage]?

/-- A pipeline has a stage. -/
theorem size_pos (pipeline : Pipeline T) : 0 < pipeline.size :=
  List.length_pos_iff.mpr pipeline.processors_ne_nil

/-- The display of a pipeline. -/
def shown (pipeline : Pipeline T) : Shown :=
  .fields "Pipeline" [("name", .quoted pipeline.name), ("processors", .texts pipeline.names),
    ("map", .quoted pipeline.metadata.map.id)] false

end Pipeline

end Relay
