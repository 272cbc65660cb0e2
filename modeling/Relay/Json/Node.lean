import Relay.Json.Token

/-!
# Documents as they stand

The tree of a JSON text before anyone asks what it means. It keeps whatever the text holds, a fault
included: where the text breaks off or goes wrong, the tree has a broken node, or a container that
does not end. A typed reader walks the tree from left to right and reports the first thing wrong, be
it a fault of the text or a value of the wrong type; what lies behind is never looked at.
-/

namespace Relay.Json

/-! ## (1) The tree -/

/-- **A place where a text stops making sense**, and what the different readers report there. -/
structure Break where
  /-- Reported by a reader of any value. -/
  kept : Fault
  /-- Reported by a reader that passes over the value. -/
  skipped : Fault
  /-- Reported by a reader of variants, which wants a string or an object at this place, or the name
  of a variant as the first key of one. -/
  named : Fault
  deriving DecidableEq

/-- A break that all readers report alike. -/
def Break.plain (fault : Fault) : Break := ⟨fault, fault, fault⟩

/-- **How a container ends**: with its closing bracket, or not; then it matters whether a comma
stands in front of the break. -/
inductive Ending where
  | closed
  | broken (at' : Break) (behindComma : Bool)
  deriving DecidableEq

mutual

/-- **A value in a text.** A string without content, like a key without content, has a surrogate
without its partner, and a number without value is too large: they may be passed over but not
kept. -/
inductive Node where
  | null
  | bool (value : Bool)
  | number (value : Option Number)
  | text (content : Option String)
  | array (items : Items)
  | object (members : Members)
  /-- No value. -/
  | broken (at' : Break)

/-- The items of an array. -/
inductive Items where
  | done (ending : Ending)
  | more (item : Node) (rest : Items)

/-- The members of an object. -/
inductive Members where
  | done (ending : Ending)
  | more (key : Option String) (value : Node) (rest : Members)

end

instance : Inhabited Node := ⟨.null⟩

/-- Items in front of others. -/
def Items.prepend : List Node → Items → Items
  | [], tail => tail
  | item :: rest, tail => .more item (prepend rest tail)

/-- Members in front of others. -/
def Members.prepend : List (Option String × Node) → Members → Members
  | [], tail => tail
  | (key, value) :: rest, tail => .more key value (prepend rest tail)

/-! ## (2) Building the tree from tokens

The builder holds the containers that are open, innermost first, each with what has been read of it,
latest first. -/

/-- **A container that is still open** around the value under way. -/
inductive Frame where
  | item (before : List Node)
  | member (before : List (Option String × Node)) (key : Option String)

/-- **What may come next.** -/
inductive Position where
  | valueDue (frames : List Frame)
  | firstItem (frames : List Frame)
  | nextItem (before : List Node) (frames : List Frame)
  | afterItem (before : List Node) (frames : List Frame)
  | keyDue (before : List (Option String × Node)) (frames : List Frame)
  | colonDue (before : List (Option String × Node)) (key : Option String) (frames : List Frame)
  | afterMember (before : List (Option String × Node)) (frames : List Frame)
  | finished (root : Node)

/-- **A document**: its value, and whether more than blanks stands behind it. -/
structure Document where
  root : Node
  trailing : Bool

/-- A complete value takes its place in the innermost open container. -/
def Position.complete (node : Node) : List Frame → Position
  | [] => .finished node
  | .item before :: frames => .afterItem (node :: before) frames
  | .member before key :: frames => .afterMember ((key, node) :: before) frames

/-- The document that ends inside `node`: all containers around it stay open. -/
def abandon (node : Node) : List Frame → Document
  | [] => ⟨node, false⟩
  | .item before :: frames =>
    abandon (.array (.prepend (node :: before).reverse (.done (.broken (.plain .truncated) false))))
      frames
  | .member before key :: frames =>
    abandon (.object (.prepend ((key, node) :: before).reverse
      (.done (.broken (.plain .truncated) false)))) frames

/-- An array that breaks behind the items `before`. -/
def brokenArray (before : List Node) (at' : Break) (behindComma : Bool) : Node :=
  .array (.prepend before.reverse (.done (.broken at' behindComma)))

/-- An object that breaks behind the members `before`. -/
def brokenObject (before : List (Option String × Node)) (at' : Break) (behindComma : Bool) :
    Node :=
  .object (.prepend before.reverse (.done (.broken at' behindComma)))

/-- The array of the items `before`. -/
def closedArray (before : List Node) : Node := .array (.prepend before.reverse (.done .closed))

/-- The object of the members `before`. -/
def closedObject (before : List (Option String × Node)) : Node :=
  .object (.prepend before.reverse (.done .closed))

/-- The break at a token that stands where a key is due: only a string can be one. -/
def breakAtKey : Token → Break
  | .brokenText kept skipped => ⟨kept, skipped, kept⟩
  | _ => .plain .malformed

/-- A token where a value is due inside the containers `frames`. -/
def Position.takeValue (frames : List Frame) : Token → Document ⊕ Position
  | .null => .inr (complete .null frames)
  | .bool value => .inr (complete (.bool value) frames)
  | .number numeral => .inr (complete (.number numeral.value?) frames)
  | .text content => .inr (complete (.text content) frames)
  | .openBracket => .inr (.firstItem frames)
  | .openBrace => .inr (.keyDue [] frames)
  | .brokenText kept skipped => .inl (abandon (.broken ⟨kept, skipped, kept⟩) frames)
  | .broken kept skipped => .inl (abandon (.broken ⟨kept, skipped, .malformed⟩) frames)
  | .closeBrace | .closeBracket | .colon | .comma | .stray =>
    .inl (abandon (.broken (.plain .malformed)) frames)

/-- **One token**: the next position, or the document if the text goes wrong here. -/
def Position.take (position : Position) (token : Token) : Document ⊕ Position :=
  match position with
  | .valueDue frames => takeValue frames token
  | .firstItem frames =>
    if token = .closeBracket then .inr (complete (closedArray []) frames)
    else takeValue (.item [] :: frames) token
  | .nextItem before frames =>
    if token = .closeBracket then
      .inl (abandon (brokenArray before (.plain .malformed) true) frames)
    else takeValue (.item before :: frames) token
  | .afterItem before frames =>
    if token = .comma then .inr (.nextItem before frames)
    else if token = .closeBracket then .inr (complete (closedArray before) frames)
    else .inl (abandon (brokenArray before (.plain .malformed) false) frames)
  | .keyDue before frames =>
    match token with
    | .text content => .inr (.colonDue before content frames)
    | .closeBrace =>
      if before.isEmpty then .inr (complete (closedObject []) frames)
      else .inl (abandon (brokenObject before (.plain .malformed) true) frames)
    | token => .inl (abandon (brokenObject before (breakAtKey token) (!before.isEmpty)) frames)
  | .colonDue before key frames =>
    if token = .colon then .inr (.valueDue (.member before key :: frames))
    else .inl (abandon (.broken (.plain .malformed)) (.member before key :: frames))
  | .afterMember before frames =>
    if token = .comma then .inr (.keyDue before frames)
    else if token = .closeBrace then .inr (complete (closedObject before) frames)
    else .inl (abandon (brokenObject before (.plain .malformed) false) frames)
  | .finished root => .inl ⟨root, true⟩

/-- The document of a text that ends at a position. -/
def Position.finish : Position → Document
  | .valueDue frames => abandon (.broken (.plain .truncated)) frames
  | .firstItem frames => abandon (brokenArray [] (.plain .truncated) false) frames
  | .nextItem before frames => abandon (brokenArray before (.plain .truncated) true) frames
  | .afterItem before frames => abandon (brokenArray before (.plain .truncated) false) frames
  | .keyDue before frames =>
    abandon (brokenObject before (.plain .truncated) (!before.isEmpty)) frames
  | .colonDue before key frames =>
    abandon (.broken (.plain .truncated)) (.member before key :: frames)
  | .afterMember before frames => abandon (brokenObject before (.plain .truncated) false) frames
  | .finished root => ⟨root, false⟩

/-- **The document of a list of tokens**, from a position on. -/
def Position.build : Position → List Token → Document
  | position, [] => position.finish
  | position, token :: rest =>
    match position.take token with
    | .inl document => document
    | .inr next => next.build rest

/-- A token that leads on leads to the rest of the document. -/
theorem Position.build_cons {position next : Position} {token : Token}
    (h : position.take token = .inr next) (rest : List Token) :
    position.build (token :: rest) = next.build rest := by
  simp [build, h]

end Relay.Json
