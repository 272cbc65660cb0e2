import Relay.Pipeline

/-!
# Building pipelines

A pipeline is put together in steps, in any order. Processors join at the end; the metadata may be
set part by part, and setting it as a whole drops all parts set before.
-/

namespace Relay

open Relay.Text

variable {T : Traffic}

/-- **A step of a definition.** -/
inductive BuildStep (T : Traffic) where
  /-- A processor joins, which may stand at other places and in other pipelines as well. -/
  | processor (processor : Processor T)
  | map (map : MapInfo)
  | layer (layer : Layer)
  | service (service : Service)
  | metadata (metadata : Metadata)

/-- **A definition under way.** -/
structure Builder (T : Traffic) where
  name : String
  processors : List (Processor T) := []
  metadata : Metadata := {}

namespace Builder

/-- **One step.** -/
def add (builder : Builder T) : BuildStep T → Builder T
  | .processor processor => { builder with processors := builder.processors ++ [processor] }
  | .map map => { builder with metadata := { builder.metadata with map } }
  | .layer layer => { builder with metadata := builder.metadata.addLayer layer }
  | .service service => { builder with metadata := builder.metadata.withService service }
  | .metadata metadata => { builder with metadata }

/-- Several steps, in order. -/
def addAll (builder : Builder T) (steps : List (BuildStep T)) : Builder T := steps.foldl add builder

/-- The number of stages so far. -/
def stageCount (builder : Builder T) : Nat := builder.processors.length

/-- The refusal of a blank name. -/
def blankName : InvalidDefinition := ⟨"Pipeline name cannot be empty or whitespace-only", none⟩

/-- The refusal of a definition without processors. -/
def noProcessors (name : String) : InvalidDefinition :=
  ⟨"Pipeline '" ++ name ++ "' has no processors",
    some "Add at least one processor to the pipeline before building."⟩

/-- **The pipeline of a definition.** A blank name is refused before a lack of processors. -/
def build (builder : Builder T) : Except InvalidDefinition (Pipeline T) :=
  if blank : isBlank builder.name = true then .error blankName
  else if bare : builder.processors = [] then .error (noProcessors builder.name)
  else .ok
    { name := builder.name
      processors := builder.processors
      metadata := builder.metadata
      name_not_blank := by simpa using blank
      processors_ne_nil := bare }

/-- The display of a definition. -/
def shown (builder : Builder T) : Shown :=
  .fields "PipelineBuilder" [("name", .quoted builder.name), ("stages", .nat builder.stageCount)]
    false

/-- Steps taken in two parts. -/
@[simp] theorem addAll_append (builder : Builder T) (first second : List (BuildStep T)) :
    builder.addAll (first ++ second) = (builder.addAll first).addAll second := by
  simp [addAll]

/-- Steps do not change the name. -/
@[simp] theorem name_addAll (builder : Builder T) (steps : List (BuildStep T)) :
    (builder.addAll steps).name = builder.name := by
  induction steps generalizing builder with
  | nil => rfl
  | cons step rest ih =>
    show ((builder.add step).addAll rest).name = builder.name
    rw [ih]
    cases step <;> rfl

end Builder

end Relay
