import Relay.Json.Variant
import Relay.Text.Shown

/-!
# Messages

What travels between the stages of a pipeline: requests from each stage to the next one, replies to
the one before. A reply is an item or the end of the pipe, by which a stage says that it is done.
-/

namespace Relay

open Relay.Json

/-! ## (1) Replies -/

/-- **A reply**: an item, or the end of the pipe. -/
inductive Reply (α : Type) where
  | item (payload : α)
  | eop
  deriving DecidableEq, Inhabited

namespace Reply

variable {α β : Type}

/-- Whether a reply is the end of the pipe. -/
def isEop : Reply α → Bool
  | item _ => false
  | eop => true

/-- The payload of an item. -/
def item? : Reply α → Option α
  | item payload => some payload
  | eop => none

/-- The reply with another payload; the end of the pipe stays what it is. -/
def map (f : α → β) : Reply α → Reply β
  | item payload => item (f payload)
  | eop => eop

@[simp] theorem isEop_item (payload : α) : (item payload).isEop = false := rfl

@[simp] theorem isEop_eop : (eop : Reply α).isEop = true := rfl

/-- Reading a reply, given a reader of its payload. -/
def read (payload : Reader α) : Reader (Reply α) :=
  Form.read [.carrying "item" fun node => (payload node).map .item, .plain "eop" .eop]

/-- The written form of a reply. -/
def write (payload : α → Json) : Reply α → Json
  | item a => .object [("item", payload a)]
  | eop => .text "eop"

/-- The display of a reply. -/
def shown (payload : α → Text.Shown) : Reply α → Text.Shown
  | item a => .tuple "Item" [payload a]
  | eop => .plain "Eop"

end Reply

/-! ## (2) Kinds of messages -/

/-- **The kind of a message.** Where both kinds wait, requests come first. -/
inductive MessageKind where
  | request
  | response
  deriving DecidableEq, Inhabited

namespace MessageKind

/-- The name of a kind. -/
def name : MessageKind → String
  | request => "request"
  | response => "response"

/-- The name of a kind in displays. -/
def label : MessageKind → String
  | request => "Request"
  | response => "Response"

/-- The place of a kind in the order of treatment. -/
def rank : MessageKind → Nat
  | request => 0
  | response => 1

instance : Ord MessageKind := ⟨fun a b => compare a.rank b.rank⟩

/-- Reading a kind. -/
def read : Reader MessageKind :=
  Form.read [.plain request.name request, .plain response.name response]

/-- The written form of a kind. -/
def write (kind : MessageKind) : Json := .text kind.name

end MessageKind

end Relay
