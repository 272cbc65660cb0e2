import Relay.Proofs.Json.Obeys
import Relay.Proofs.ReadBack

/-!
# The layout of a definition is immaterial

Metadata and configurations mean the same however they are laid out: with keys in any order, among
keys that nobody knows, with defaults left out, with any blanks, and with arrays in place of
objects, at every level. The columns below say what is left to choose. They spell out the names and
defaults of all fields on their own, and the records of the definitions are shown to follow them.

* `Metadata.style` and `Config.style` are the layouts of definitions.
* `layouts_are_immaterial` says that each of them is read as the definition, that what is written is
  one of them, and that texts which lack a field without default or give one twice are refused.
-/

namespace Relay

open Relay.Json

/-! ## (1) Columns of the definitions -/

/-- Texts. -/
def textStyle : Style String := .exactly fun content => .text (some content)

/-- Truth values. -/
def boolStyle : Style Bool := .exactly .bool

/-- Integers. -/
def intStyle {α : Type} (value : α → Int) : Style α :=
  .exactly fun n => .number (some (.int (value n)))

/-- The columns of a map. -/
def MapInfo.columns : Columns [String, String, Option String] :=
  .cons "id" none textStyle <| .cons "label" none textStyle <|
    .cons "srs" (some none) textStyle.option .nil

/-- **The layouts of a map.** -/
def MapInfo.style : Style MapInfo :=
  .record columns fun map => (map.id, map.label, map.srs, ())

/-- The columns of a layer. -/
def Layer.columns : Columns [String, String, Option String, Int32] :=
  .cons "id" none textStyle <| .cons "label" none textStyle <|
    .cons "srs" (some none) textStyle.option <|
    .cons "order_key" (some 0) (intStyle Int32.toInt) .nil

/-- **The layouts of a layer.** -/
def Layer.style : Style Layer :=
  .record columns fun layer => (layer.id, layer.label, layer.srs, layer.orderKey, ())

/-- The columns of a service. -/
def Service.columns : Columns [String, String, String, List String, Bool] :=
  .cons "id" none textStyle <| .cons "service_type" none textStyle <|
    .cons "path_spec" (some "") textStyle <| .cons "srs" (some []) textStyle.list <|
    .cons "enabled" (some true) boolStyle .nil

/-- **The layouts of a service.** -/
def Service.style : Style Service :=
  .record columns fun service =>
    (service.id, service.serviceType, service.pathSpec, service.srs, service.enabled, ())

/-- The columns of metadata. -/
def Metadata.columns : Columns [MapInfo, List Layer, Option Service] :=
  .cons "map" none MapInfo.style <| .cons "layers" (some []) Layer.style.list <|
    .cons "service" (some none) Service.style.option .nil

/-- **The layouts of metadata.** -/
def Metadata.style : Style Metadata :=
  .record columns fun metadata => (metadata.map, metadata.layers, metadata.service, ())

/-- Formats, by name. -/
def LogFormat.style : Style LogFormat := .exactly fun format => .text (some format.name)

/-- The columns of logging settings. -/
def LoggingConfig.columns : Columns [String, LogFormat, Bool] :=
  .cons "filter" (some "info") textStyle <| .cons "format" (some .plain) LogFormat.style <|
    .cons "with_target" (some true) boolStyle .nil

/-- **The layouts of logging settings.** -/
def LoggingConfig.style : Style LoggingConfig :=
  .record columns fun config => (config.filter, config.format, config.withTarget, ())

/-- The columns of a configuration. The default of its logging settings is the one of all their
fields. -/
def Config.columns : Columns [Option UInt64, Bool, LoggingConfig] :=
  .cons "max_steps" (some none) (intStyle fun n : UInt64 => n.toNat).option <|
    .cons "emit_events" (some true) boolStyle <|
    .cons "logging" (some ⟨"info", .plain, true⟩) LoggingConfig.style .nil

/-- **The layouts of a configuration.** -/
def Config.style : Style Config :=
  .record columns fun config => (config.maxSteps, config.emitEvents, config.logging, ())

/-! ## (2) Readers obey the styles -/

/-- Texts are read by their style. -/
theorem textStyle_obeys : Obeys readText textStyle := .exactly fun _ => rfl

/-- Truth values are read by their style. -/
theorem boolStyle_obeys : Obeys readBool boolStyle := .exactly fun _ => rfl

/-- Optional texts are read by their style. -/
theorem textStyle_option_obeys : Obeys (readOption readText) textStyle.option :=
  textStyle_obeys.option (fun _ => nofun) nofun

/-- Maps are read by their style. -/
theorem MapInfo.obeys : Obeys record.read style :=
  .record record columns
    ⟨rfl, rfl, rfl, textStyle_obeys, rfl, rfl, rfl, textStyle_obeys,
      rfl, rfl, rfl, textStyle_option_obeys, trivial⟩ (by decide)

/-- Layers are read by their style. -/
theorem Layer.obeys : Obeys record.read style :=
  .record record columns
    ⟨rfl, rfl, rfl, textStyle_obeys, rfl, rfl, rfl, textStyle_obeys,
      rfl, rfl, rfl, textStyle_option_obeys,
      rfl, rfl, rfl, .exactly fun n => (readsBack_int32 n).back, trivial⟩ (by decide)

/-- Services are read by their style. -/
theorem Service.obeys : Obeys record.read style :=
  .record record columns
    ⟨rfl, rfl, rfl, textStyle_obeys, rfl, rfl, rfl, textStyle_obeys,
      rfl, rfl, rfl, textStyle_obeys, rfl, rfl, rfl, textStyle_obeys.list,
      rfl, rfl, rfl, boolStyle_obeys, trivial⟩ (by decide)

/-- **Metadata are read by their style.** -/
theorem Metadata.obeys : Obeys record.read style :=
  .record record columns
    ⟨rfl, rfl, rfl, MapInfo.obeys, rfl, rfl, rfl, Layer.obeys.list,
      rfl, rfl, rfl, Service.obeys.option Style.not_record_lays_null Style.not_record_amiss_null,
      trivial⟩ (by decide)

/-- Formats are read by their style. -/
theorem LogFormat.obeys : Obeys read style := .exactly fun format => format.readsBack.back

/-- Logging settings are read by their style. -/
theorem LoggingConfig.obeys : Obeys record.read style :=
  .record record columns
    ⟨rfl, rfl, rfl, textStyle_obeys, rfl, rfl, rfl, LogFormat.obeys,
      rfl, rfl, rfl, boolStyle_obeys, trivial⟩ (by decide)

/-- **Configurations are read by their style.** -/
theorem Config.obeys : Obeys record.read style :=
  have steps : Obeys readUInt64 (intStyle fun n : UInt64 => n.toNat) :=
    .exactly fun n => (readsBack_uint64 n).back
  .record record columns
    ⟨rfl, rfl, rfl, steps.option (fun _ => nofun) nofun, rfl, rfl, rfl, boolStyle_obeys,
      rfl, rfl, rfl, LoggingConfig.obeys, trivial⟩ (by decide)

/-! ## (3) Written definitions are layouts -/

/-- An optional value that is left out when it is absent is laid out. -/
theorem option_lays_omittable {α : Type} {style : Style α} {write : α → Json} {value : Option α}
    (present : ∀ a ∈ value, style.lays a (write a).toNode) :
    if value.isNone then some none = some value
      else style.option.lays value (Json.option write value).toNode := by
  cases value with
  | none => rfl
  | some a => exact present a rfl

/-- A list is laid out if its items are. -/
theorem list_lays_array {α : Type} {style : Style α} {write : α → Json} {items : List α}
    (laid : ∀ a ∈ items, style.lays a (write a).toNode) :
    style.list.lays items (Json.array (items.map write)).toNode := by
  refine ⟨items.map fun a => (write a).toNode, ?_, ?_⟩
  · rw [toNode, toItems_eq_prepend, List.map_map]
    rfl
  · exact List.forall₂_map_right_iff.2 (List.forall₂_same.2 laid)

/-- A written map is one of its layouts. -/
theorem MapInfo.lays_write (map : MapInfo) : style.lays map (record.write map).toNode :=
  Style.record_lays_write record columns
    ⟨rfl, rfl, rfl, rfl, rfl, option_lays_omittable fun _ _ => rfl, trivial⟩

/-- A written layer is one of its layouts. -/
theorem Layer.lays_write (layer : Layer) : style.lays layer (record.write layer).toNode :=
  Style.record_lays_write record columns
    ⟨rfl, rfl, rfl, rfl, rfl, option_lays_omittable fun _ _ => rfl, rfl, rfl, trivial⟩

/-- A written service is one of its layouts. -/
theorem Service.lays_write (service : Service) : style.lays service (record.write service).toNode :=
  Style.record_lays_write record columns
    ⟨rfl, rfl, rfl, rfl, rfl, rfl, rfl, list_lays_array fun _ _ => rfl, rfl, rfl, trivial⟩

/-- Written metadata are one of their layouts. -/
theorem Metadata.lays_write (metadata : Metadata) :
    style.lays metadata (record.write metadata).toNode :=
  Style.record_lays_write record columns
    ⟨rfl, metadata.map.lays_write, rfl, list_lays_array fun layer _ => layer.lays_write,
      rfl, option_lays_omittable fun service _ => service.lays_write, trivial⟩

/-- Written logging settings are one of their layouts. -/
theorem LoggingConfig.lays_write (config : LoggingConfig) :
    style.lays config (record.write config).toNode :=
  Style.record_lays_write record columns
    ⟨rfl, rfl, rfl, rfl, rfl, rfl, trivial⟩

/-- A written configuration is one of its layouts. -/
theorem Config.lays_write (config : Config) : style.lays config (record.write config).toNode := by
  have steps : (intStyle fun n : UInt64 => n.toNat).option.lays config.maxSteps
      (Json.option (fun n : UInt64 => .nat n.toNat) config.maxSteps).toNode := by
    cases config.maxSteps <;> rfl
  exact Style.record_lays_write record columns
    ⟨rfl, steps, rfl, rfl, rfl, config.logging.lays_write, trivial⟩

/-! ## (4) Texts -/

section

variable {α : Type} {read : Reader α} {style : Style α} {text : String} {node : Node}

/-- **A text that denotes a layout of a value is read as the value.** -/
theorem Json.Obeys.parse_eq_ok (obeys : Obeys read style) (denotes : Denotes text.toList node)
    {a : α} (laid : style.lays a node) : parse read text = .ok a := by
  simp [parse, denotes.document, obeys.reads laid denotes.skip, bind, Except.bind]

/-- **A text in which something is amiss is refused.** -/
theorem Json.Obeys.parse_eq_error (obeys : Obeys read style) (denotes : Denotes text.toList node)
    (amiss : style.amiss node) : ∃ fault, parse read text = .error fault := by
  cases reads : read node with
  | error fault => exact ⟨fault, by simp [parse, denotes.document, reads, bind, Except.bind]⟩
  | ok a => exact absurd reads (obeys.refuses amiss a)

end

/-- What is read back is denoted by its text. -/
theorem Json.ReadsBack.denotes {α : Type} {read : Reader α} {value : Json} {a : α}
    (h : ReadsBack read value a) : Denotes value.render.toList value.toNode := by
  rw [render, String.toList_ofList]
  exact .of_isExact h.exact

/-- **The layout of a definition is immaterial.** Every text that denotes a layout of metadata or of
a configuration is read as just these, and the written text is one of the layouts. A text which
lacks a field without default, or which gives a known field twice in an object, is refused, at
whatever level this happens. -/
theorem layouts_are_immaterial :
    (∀ (metadata : Metadata) (text : String) (node : Node), Denotes text.toList node →
      Metadata.style.lays metadata node → parse Metadata.record.read text = .ok metadata) ∧
    (∀ (config : Config) (text : String) (node : Node), Denotes text.toList node →
      Config.style.lays config node → Config.parse text = .ok config) ∧
    (∀ metadata : Metadata, ∃ node, Metadata.style.lays metadata node ∧
      Denotes (Metadata.record.write metadata).render.toList node) ∧
    (∀ config : Config, ∃ node, Config.style.lays config node ∧
      Denotes (Config.record.write config).render.toList node) ∧
    (∀ (text : String) (node : Node), Denotes text.toList node → Metadata.style.amiss node →
      ∃ fault, parse Metadata.record.read text = .error fault) ∧
    ∀ (text : String) (node : Node), Denotes text.toList node → Config.style.amiss node →
      ∃ fault, Config.parse text = .error fault :=
  ⟨fun _ _ _ denotes laid => Metadata.obeys.parse_eq_ok denotes laid,
    fun _ _ _ denotes laid => Config.obeys.parse_eq_ok denotes laid,
    fun metadata => ⟨_, metadata.lays_write, metadata.readsBack.denotes⟩,
    fun config => ⟨_, config.lays_write, config.readsBack.denotes⟩,
    fun _ _ denotes amiss => Metadata.obeys.parse_eq_error denotes amiss,
    fun _ _ denotes amiss => Config.obeys.parse_eq_error denotes amiss⟩

/-- A map with its keys in another order and a foreign key among them. -/
theorem MapInfo.lays_shuffled (id label : String) (foreign : Node) :
    style.lays { id, label }
      (.object (keyed
        [("label", .text (some label)), ("x", foreign), ("id", .text (some id))])) := by
  have arranged : columns.Arranged (id, label, none, ())
      [("id", .text (some id)), ("label", .text (some label))] :=
    .inr ⟨_, _, rfl, rfl, .inr ⟨_, _, rfl, rfl, .inl ⟨rfl, rfl⟩⟩⟩
  have unknown : ∀ member ∈ [("x", foreign)], member.1 ∉ columns.names := by
    simp [columns, Columns.names]
  have shuffled : ([("label", .text (some label)), ("x", foreign)] ++
      [("id", .text (some id))] : List (String × Node)).Perm _ := List.perm_append_comm
  exact .object arranged unknown shuffled

/-- Metadata as an array that stops in front of the service: a map with a foreign key and with
blanks around it, and a layer as an array that stops early. A map that stops in front of its label
is refused. -/
theorem shuffled_metadata_are_read_and_short_ones_refused :
    (∃ node,
      Denotes "[ \x7b\"label\":\"M\",\"x\":[],\"id\":\"m\"\x7d ,[[\"a\",\"\"]]]".toList node ∧
      Metadata.style.lays { map := { id := "m", label := "M" }, layers := [{ id := "a" }] } node ∧
      parse Metadata.record.read
          "[ \x7b\"label\":\"M\",\"x\":[],\"id\":\"m\"\x7d ,[[\"a\",\"\"]]]" =
        .ok { map := { id := "m", label := "M" }, layers := [{ id := "a" }] }) ∧
    ∃ node, Denotes "[[\"m\"]]".toList node ∧ Metadata.style.amiss node ∧
      ∃ fault, parse Metadata.record.read "[[\"m\"]]" = .error fault := by
  have quoted (content : String) : Denotes (writeText content) (.text (some content)) :=
    .text (isQuoted_writeText content)
  have key (content : String) : IsKey (writeText content) (some content) :=
    .of_isQuoted (isQuoted_writeText content)
  have blank : AreBlanks [' '] := by simp [AreBlanks, isSpace]
  have foreign : Denotes ['[', ']'] (.array (.done .closed)) :=
    @Denotes.emptyArray [] (by simp [AreBlanks])
  have map := @Denotes.object ⟨writeText "label", some "label", writeText "M", .text (some "M")⟩
    [⟨writeText "x", some "x", ['[', ']'], .array (.done .closed)⟩,
      ⟨writeText "id", some "id", writeText "m", .text (some "m")⟩]
    (by simp [key]) (by simp [quoted, foreign])
  have layer := @Denotes.array (writeText "a", .text (some "a")) [(writeText "", .text (some ""))]
    (by simp [quoted])
  have layers := @Denotes.array (_, _) [] (by simpa using layer)
  have whole := @Denotes.array (_, _) [(_, _)]
    (List.forall_mem_cons.2 ⟨map.padded blank blank, by simpa using layers⟩)
  have layerLaid : Layer.style.lays { id := "a" }
      (.array (.prepend [.text (some "a"), .text (some "")] (.done .closed))) :=
    .array (.inr ⟨_, _, rfl, rfl, .inr ⟨_, _, rfl, rfl, .inl ⟨rfl, rfl, .inl ⟨rfl, rfl, rfl⟩⟩⟩⟩)
  -- The array of the map ends where the label is due.
  have shortMap := @Denotes.array (writeText "m", .text (some "m")) [] (by simp [quoted])
  have short := @Denotes.array (_, _) [] (by simpa using shortMap)
  refine ⟨⟨_, whole, ?laid, layouts_are_immaterial.1 _ _ _ whole ?laid⟩,
    ⟨_, short, ?amiss, layouts_are_immaterial.2.2.2.2.1 _ _ short ?amiss⟩⟩
  case laid =>
    exact Columns.Lays.array (.inr ⟨_, _, rfl, MapInfo.lays_shuffled "m" "M" _,
      .inr ⟨_, _, rfl, ⟨[_], rfl, .cons layerLaid .nil⟩, .inl ⟨rfl, rfl, rfl⟩⟩⟩)
  case amiss =>
    exact Columns.Amiss.among (.inl (Columns.Amiss.among (.inr (.inl rfl))))

end Relay
