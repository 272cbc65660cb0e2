import Relay.Failure

/-!
# Response handlers

What the caller does with the items that come out of a pipeline: each one is accepted or refused,
and the handler may remember what it has seen.
-/

namespace Relay

/-- **A response handler** for items of type `α` that remembers an `η`. -/
structure Handler (α η : Type) where
  handle : η → α → η × Except Failure Unit

namespace Handler

variable {α η : Type}

/-- **The handler that collects** all items. -/
def collecting : Handler α (List α) := ⟨fun received item => (received ++ [item], .ok ())⟩

/-- **The handler that accepts a number of items** and refuses the rest. -/
def failingAfter (accepted : Nat) (message : String) : Handler α (List α) :=
  ⟨fun received item =>
    if accepted ≤ received.length then (received, .error ⟨message, []⟩)
    else (received ++ [item], .ok ())⟩

/-- **The handler that refuses an item** and collects all others. -/
def refusing [DecidableEq α] (refused : α) (message : String) : Handler α (List α) :=
  ⟨fun received item =>
    if item = refused then (received, .error ⟨message, []⟩) else (received ++ [item], .ok ())⟩

/-- **Offering items in order**, up to the first one that is refused: what the handler remembers,
the offers made, and the failure if there was one. -/
def offer (handler : Handler α η) : η → List α → η × List (α × Except Failure Unit) × Option Failure
  | memory, [] => (memory, [], none)
  | memory, item :: rest =>
    match handler.handle memory item with
    | (memory, .error failure) => (memory, [(item, .error failure)], some failure)
    | (memory, .ok ()) =>
      let (memory, offers, failure) := handler.offer memory rest
      (memory, (item, .ok ()) :: offers, failure)

/-- The collecting handler accepts everything. -/
theorem offer_collecting (received items : List α) :
    collecting.offer received items =
      (received ++ items, items.map fun item => (item, .ok ()), none) := by
  induction items generalizing received with
  | nil => simp [offer]
  | cons item rest ih => simp [offer, collecting] at ih ⊢; simp [ih]

end Handler

end Relay
