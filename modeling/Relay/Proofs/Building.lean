import Mathlib.Data.List.Induction
import Relay.Pipeline.Builder
import Relay.Proofs.Run.Soundness

/-!
# What definitions build

A definition is a name and a list of steps. Steps that add processors and steps that set metadata do
not touch each other. Among the latter, one that sets the metadata as a whole undoes all of them
before it, so that what counts is where the last one stands.

* `Builder.processors_addAll`, `Builder.map_addAll` and `Builder.metadata_addAll` say what steps
  make of a definition, part by part.
* `Builder.build_eq_ok_iff` says which definitions are accepted.
* `Builder.builds_as_written` is the result.
-/

namespace Relay

open Relay.Text

variable {T : Traffic} {η : Type}

/-! ## (1) What a step sets -/

namespace BuildStep

/-- The processor that a step adds, if it adds one. -/
def processor? : BuildStep T → Option (Processor T)
  | processor added => some added
  | _ => none

/-- The map that a step sets, be it alone or with all other metadata. -/
def map? : BuildStep T → Option MapInfo
  | map set => some set
  | metadata whole => some whole.map
  | _ => none

/-- The layer that a step adds, if it adds one. -/
def layer? : BuildStep T → Option Layer
  | layer added => some added
  | _ => none

/-- The service that a step sets by itself, if it does. -/
def service? : BuildStep T → Option Service
  | service set => some set
  | _ => none

/-- The metadata that a step sets as a whole, if it does. -/
def metadata? : BuildStep T → Option Metadata
  | metadata whole => some whole
  | _ => none

end BuildStep

namespace Builder

/-! ## (2) Several steps -/

/-- One more step, taken last. -/
@[simp] theorem addAll_concat (builder : Builder T) (steps : List (BuildStep T))
    (step : BuildStep T) : builder.addAll (steps ++ [step]) = (builder.addAll steps).add step := by
  simp [addAll]

/-- **Processors join at the end**, in the order of the steps. -/
theorem processors_addAll (builder : Builder T) (steps : List (BuildStep T)) :
    (builder.addAll steps).processors =
      builder.processors ++ steps.filterMap BuildStep.processor? := by
  induction steps using List.reverseRecOn with
  | nil => simp [addAll]
  | append_singleton steps step ih =>
    rw [addAll_concat, List.filterMap_append, ← List.append_assoc, ← ih]
    cases step <;> simp [add, BuildStep.processor?]

/-- **The map is the one set last**, whichever way. -/
theorem map_addAll (builder : Builder T) (steps : List (BuildStep T)) :
    (builder.addAll steps).metadata.map =
      (steps.filterMap BuildStep.map?).getLast?.getD builder.metadata.map := by
  induction steps using List.reverseRecOn with
  | nil => rfl
  | append_singleton steps step ih =>
    rw [addAll_concat, List.filterMap_append]
    cases step <;>
      simp [add, BuildStep.map?, Metadata.addLayer, Metadata.withService, ih]

/-- **Without a step that sets them all**, layers join at the end and the last service counts. -/
theorem metadata_addAll (builder : Builder T) {steps : List (BuildStep T)}
    (inParts : ∀ step ∈ steps, step.metadata? = none) :
    (builder.addAll steps).metadata.layers =
        builder.metadata.layers ++ steps.filterMap BuildStep.layer? ∧
      (builder.addAll steps).metadata.service =
        (steps.filterMap BuildStep.service?).getLast?.or builder.metadata.service := by
  induction steps using List.reverseRecOn with
  | nil => exact ⟨(List.append_nil _).symm, rfl⟩
  | append_singleton steps step ih =>
    obtain ⟨layers, service⟩ := ih fun other member => inParts other (List.mem_append_left _ member)
    have isPart := inParts step (by simp)
    rw [addAll_concat, List.filterMap_append, List.filterMap_append, ← List.append_assoc, ← layers]
    cases step with
    | metadata _ => cases isPart
    | service own => simp [add, BuildStep.layer?, BuildStep.service?, Metadata.withService]
    | _ => simp [add, BuildStep.layer?, BuildStep.service?, Metadata.addLayer, service]

/-- What a step makes of the metadata depends on nothing but them. -/
theorem metadata_add_congr {first second : Builder T} (same : first.metadata = second.metadata)
    (step : BuildStep T) : (first.add step).metadata = (second.add step).metadata := by
  cases step <;> simp [add, same]

/-- **Processors make no difference to the metadata**, wherever they are added. -/
theorem metadata_addAll_filter (builder : Builder T) (steps : List (BuildStep T)) :
    (builder.addAll (steps.filter (·.processor?.isNone))).metadata =
      (builder.addAll steps).metadata := by
  induction steps using List.reverseRecOn with
  | nil => rfl
  | append_singleton steps step ih =>
    rw [List.filter_append, addAll_concat]
    cases added : step.processor? with
    | some _ =>
      have unchanged : ((builder.addAll steps).add step).metadata =
          (builder.addAll steps).metadata := by
        cases step <;> simp_all [BuildStep.processor?, add]
      simpa [added, unchanged] using ih
    | none =>
      have kept : [step].filter (·.processor?.isNone) = [step] := by simp [added]
      rw [kept, addAll_concat]
      exact metadata_add_congr ih step

/-- **Only the order within the two kinds of steps counts.** -/
theorem addAll_congr (builder : Builder T) {steps other : List (BuildStep T)}
    (processors : other.filterMap BuildStep.processor? = steps.filterMap BuildStep.processor?)
    (others : other.filter (·.processor?.isNone) = steps.filter (·.processor?.isNone)) :
    builder.addAll other = builder.addAll steps := by
  have sameName : (builder.addAll other).name = (builder.addAll steps).name := by simp
  have sameProcessors : (builder.addAll other).processors = (builder.addAll steps).processors := by
    rw [processors_addAll, processors_addAll, processors]
  have sameMetadata : (builder.addAll other).metadata = (builder.addAll steps).metadata := by
    rw [← metadata_addAll_filter, others, metadata_addAll_filter]
  cases built : builder.addAll other
  cases builtOther : builder.addAll steps
  simp_all

/-! ## (3) Acceptance -/

/-- **Definitions that are accepted**: those with a name that is not blank and with processors. -/
theorem build_eq_ok_iff {builder : Builder T} {pipeline : Pipeline T} :
    builder.build = .ok pipeline ↔ isBlank builder.name = false ∧ builder.processors ≠ [] ∧
      pipeline.name = builder.name ∧ pipeline.processors = builder.processors ∧
      pipeline.metadata = builder.metadata := by
  unfold build
  constructor
  · intro built
    split at built
    · cases built
    · rename_i named
      split at built
      · cases built
      · rename_i some
        obtain rfl := Except.ok.inj built
        exact ⟨by simpa using named, some, rfl, rfl, rfl⟩
  · rintro ⟨named, some, name, processors, metadata⟩
    rw [dif_neg (by simp [named]), dif_neg some]
    cases pipeline
    subst name processors metadata
    rfl

/-- A blank name is refused, whatever else there is. -/
theorem build_of_blank {builder : Builder T} (blank : isBlank builder.name = true) :
    builder.build = .error blankName := dif_pos blank

/-- A lack of processors is refused under any other name. -/
theorem build_of_bare {builder : Builder T} (named : isBlank builder.name = false)
    (bare : builder.processors = []) : builder.build = .error (noProcessors builder.name) := by
  rw [build, dif_neg (by simp [named]), dif_pos bare]

/-- A text that is not blank has a character that is no white space. -/
theorem isBlank_eq_false_iff {text : String} :
    isBlank text = false ↔ ∃ c ∈ text.toList, isWhiteSpace c = false := by
  rw [← Bool.not_eq_true, isBlank_iff]
  simp

/-! ## (4) The result -/

/-- **Definitions are built as they are written.** Whatever steps are taken under whatever name:

* the definition is accepted if and only if some character of the name is no white space, and at
  least one processor has been added; a blank name is reported even if processors lack as well, and
  only their lack comes with a hint;
* the pipeline keeps the name as it is and the processors in the order in which they were added, and
  it has the map that was set last, by itself or with all other metadata;
* its layers and its service are those of the last step that sets the metadata as a whole, with the
  layers added since at the end, and with the last service set since in place of the earlier one;
* definitions that differ only in where processors are added among other steps are the same;
* a run of the pipeline always has a first stage, and that is where its request waits at first. -/
theorem builds_as_written (name : String) (steps : List (BuildStep T)) :
    let builder := ({ name } : Builder T).addAll steps
    let added := steps.filterMap BuildStep.processor?
    let IsNamed := ∃ c ∈ name.toList, isWhiteSpace c = false
    ((∃ pipeline, builder.build = .ok pipeline) ↔ IsNamed ∧ added ≠ []) ∧
    (¬ IsNamed → builder.build =
      .error ⟨"Pipeline name cannot be empty or whitespace-only", none⟩) ∧
    (IsNamed → added = [] → builder.build =
      .error ⟨"Pipeline '" ++ name ++ "' has no processors",
        some "Add at least one processor to the pipeline before building."⟩) ∧
    (∀ pipeline, builder.build = .ok pipeline →
      pipeline.name = name ∧ pipeline.processors = added ∧
      pipeline.metadata.map = (steps.filterMap BuildStep.map?).getLast?.getD ⟨"", "", none⟩ ∧
      ((∀ step ∈ steps, step.metadata? = none) →
        pipeline.metadata.layers = steps.filterMap BuildStep.layer? ∧
        pipeline.metadata.service = (steps.filterMap BuildStep.service?).getLast?) ∧
      (∀ before whole behind, steps = before ++ .metadata whole :: behind →
        (∀ step ∈ behind, step.metadata? = none) →
        pipeline.metadata.layers = whole.layers ++ behind.filterMap BuildStep.layer? ∧
        pipeline.metadata.service =
          (behind.filterMap BuildStep.service?).getLast?.or whole.service) ∧
      ∀ {η : Type} (job : Job T η), job.pipeline = pipeline → ∀ received memory,
        (Run.seed job received memory).pendingAt ⟨0, .request⟩ = [.request job.request] ∧
        ∀ n, ∃ stage, ((Run.seed job received memory).after job n).stages[0]? = some stage) ∧
    ∀ other : List (BuildStep T), other.filterMap BuildStep.processor? = added →
      other.filter (·.processor?.isNone) = steps.filter (·.processor?.isNone) →
      ({ name } : Builder T).addAll other = builder := by
  intro builder added IsNamed
  have builder_name : builder.name = name := name_addAll _ steps
  have builder_processors : builder.processors = added :=
    (processors_addAll _ steps).trans (List.nil_append _)
  have named_iff : isBlank builder.name = false ↔ IsNamed := by
    rw [builder_name]
    exact isBlank_eq_false_iff
  refine ⟨?accepted, ?blank, ?bare, ?built, ?commute⟩
  case accepted =>
    rw [← named_iff, ← builder_processors]
    constructor
    · rintro ⟨pipeline, built⟩
      obtain ⟨named, some, -⟩ := build_eq_ok_iff.mp built
      exact ⟨named, some⟩
    · rintro ⟨named, some⟩
      exact ⟨⟨builder.name, builder.processors, builder.metadata, named, some⟩,
        build_eq_ok_iff.mpr ⟨named, some, rfl, rfl, rfl⟩⟩
  case blank =>
    intro unnamed
    exact build_of_blank (by simpa using mt named_iff.mp unnamed)
  case bare =>
    intro named bare
    rw [build_of_bare (named_iff.mpr named) (builder_processors.trans bare), builder_name]
    rfl
  case built =>
    intro pipeline built
    obtain ⟨-, -, sameName, sameProcessors, sameMetadata⟩ := build_eq_ok_iff.mp built
    rw [sameMetadata]
    refine ⟨sameName.trans builder_name, sameProcessors.trans builder_processors,
      map_addAll _ steps, ?parts, ?whole, ?runs⟩
    case parts =>
      intro inParts
      obtain ⟨layers, service⟩ := metadata_addAll ({ name } : Builder T) inParts
      exact ⟨layers.trans (List.nil_append _), service.trans (Option.or_none)⟩
    case whole =>
      rintro before whole behind rfl inParts
      have split : builder =
          ((({ name } : Builder T).addAll before).add (.metadata whole)).addAll behind := by
        simp [builder, addAll]
      rw [split]
      exact metadata_addAll _ inParts
    case runs =>
      rintro η job rfl received memory
      refine ⟨?_, fun n => ?_⟩
      · rw [Run.pendingAt_seed, if_pos rfl]
      · exact (Run.sound_after job received memory n).exists_stage job.pipeline.size_pos
  case commute =>
    intro other processors others
    exact addAll_congr _ processors others

end Builder

end Relay
