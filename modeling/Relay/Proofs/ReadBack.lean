import Relay.Config
import Relay.Message
import Relay.Metadata
import Relay.Proofs.Json.Restoring
import Relay.Run.Attributes

/-!
# Definitions, configurations, attributes and replies are read back

Whatever the values of their fields, the text of a definition is read as that definition. The fields
differ in how they write what is absent. Reference systems and services are left out, and taken for
absent where they are missing; limits and attributes are written as `null`. The default of every
other field is written like any value, so it does not matter here what is read for a missing one.
-/

namespace Relay

open Relay.Json

/-! ## (1) Kinds of fields and words -/

section

variable {α : Type} {read : Reader α} {write : α → Json} {value : Option α}
  (present : ∀ a ∈ value, ReadsBack read (write a) a) (noNull : ∀ a, write a ≠ .null)

include present noNull

/-- An optional value that is written as `null` when it is absent is restored. -/
theorem nullable_restores (name : String) : (Field.nullable name read write).Restores value :=
  .of_readsBack rfl (.option present noNull)

/-- An optional value that is left out when it is absent is restored. -/
theorem omittable_restores (name : String) : (Field.omittable name read write).Restores value := by
  have written := ReadsBack.option present noNull
  cases value with
  | none => rfl
  | some a => exact .of_readsBack rfl written

end

/-- Texts are restored. -/
theorem text_restores (name content : String) : (Field.text name).Restores content :=
  .of_readsBack rfl (.text content)

/-- An optional text that is left out when it is absent is restored. -/
theorem omittable_text_restores (name : String) (value : Option String) :
    (Field.omittable name readText .text).Restores value :=
  omittable_restores (fun content _ => .text content) (fun _ => Json.noConfusion) name

/-- Order keys are read back. -/
theorem readsBack_int32 (n : Int32) : ReadsBack readInt32 (.int n.toInt) n := by
  have low := n.le_toInt
  have high := n.toInt_lt
  have inWords : InWords n.toInt := by
    rw [InWords, signBit, UInt64.size]
    omega
  have bounds : Int32.minValue.toInt ≤ n.toInt ∧ n.toInt ≤ Int32.maxValue.toInt := by
    have least : Int32.minValue.toInt = -2 ^ 31 := rfl
    have greatest : Int32.maxValue.toInt = 2 ^ 31 - 1 := rfl
    omega
  have reads := (ReadsBack.int inWords bounds).map Int32.ofInt
  rwa [Int32.ofInt_toInt] at reads

/-- Words of 64 bits are read back. -/
theorem readsBack_uint64 (n : UInt64) : ReadsBack readUInt64 (.nat n.toNat) n := by
  have reads := (ReadsBack.nat n.toNat_lt_size).map UInt64.ofNat
  rwa [UInt64.ofNat_toNat] at reads

/-! ## (2) Metadata -/

/-- A map is read back. -/
theorem MapInfo.readsBack (map : MapInfo) : ReadsBack record.read (record.write map) map :=
  .record (by decide)
    ⟨text_restores _ _, text_restores _ _, omittable_text_restores _ _, trivial⟩

/-- A layer is read back. -/
theorem Layer.readsBack (layer : Layer) : ReadsBack record.read (record.write layer) layer :=
  .record (by decide)
    ⟨text_restores _ _, text_restores _ _, omittable_text_restores _ _,
      .of_readsBack rfl (readsBack_int32 _), trivial⟩

/-- A service is read back. -/
theorem Service.readsBack (service : Service) :
    ReadsBack record.read (record.write service) service :=
  .record (by decide)
    ⟨text_restores _ _, text_restores _ _, .of_readsBack rfl (.text _),
      .of_readsBack rfl (.list fun _ _ => .text _), .of_readsBack rfl (.bool _), trivial⟩

/-- Metadata are read back. -/
theorem Metadata.readsBack (metadata : Metadata) :
    ReadsBack record.read (record.write metadata) metadata := by
  have service : (Field.omittable "service" Service.record.read Service.record.write).Restores
      metadata.service :=
    omittable_restores (fun one _ => one.readsBack) (fun _ => Json.noConfusion) _
  exact .record (by decide) ⟨.of_readsBack rfl metadata.map.readsBack,
    .of_readsBack rfl (.list fun layer _ => layer.readsBack), service, trivial⟩

/-! ## (3) Configurations -/

/-- A format is read back. -/
theorem LogFormat.readsBack (format : LogFormat) : ReadsBack read format.write format :=
  ⟨.text _, by cases format <;> rfl⟩

/-- Logging settings are read back. -/
theorem LoggingConfig.readsBack (config : LoggingConfig) :
    ReadsBack record.read (record.write config) config :=
  .record (by decide)
    ⟨.of_readsBack rfl (.text _), .of_readsBack rfl config.format.readsBack,
      .of_readsBack rfl (.bool _), trivial⟩

/-- A configuration is read back. -/
theorem Config.readsBack (config : Config) : ReadsBack record.read (record.write config) config :=
  .record (by decide)
    ⟨.of_readsBack rfl (.option (fun n _ => readsBack_uint64 n) fun _ => Json.noConfusion),
      .of_readsBack rfl (.bool _), .of_readsBack rfl config.logging.readsBack, trivial⟩

/-! ## (4) Attributes and replies -/

/-- Attributes are read back, if their number of stages is a word. -/
theorem RunAttributes.readsBack {a : RunAttributes} (small : ∀ n ∈ a.stageCount, n < UInt64.size) :
    ReadsBack record.read (record.write a) a := by
  have texts (name : String) (value : Option String) :
      (Field.nullable name readText .text).Restores value :=
    nullable_restores (fun content _ => .text content) (fun _ => Json.noConfusion) name
  exact .record (by decide) ⟨texts _ _, texts _ _,
    nullable_restores (fun n present => .nat (small n present)) (fun _ => Json.noConfusion) _,
    texts _ _, texts _ _, trivial⟩

/-- Replies are read back if their payloads are. -/
theorem Reply.readsBack {α : Type} {payload : Reader α} {content : α → Json} {reply : Reply α}
    (h : ∀ a ∈ reply.item?, ReadsBack payload (content a) a) :
    ReadsBack (read payload) (reply.write content) reply := by
  cases reply with
  | eop => exact ⟨.text _, rfl⟩
  | item a =>
    obtain ⟨exact, back⟩ := h a rfl
    refine ⟨.object fun member isMember => ?_, ?_⟩
    · obtain rfl := List.mem_singleton.1 isMember
      exact exact
    · show ((payload (content a).toNode).map item >>= fun result => Except.ok result) = _
      rw [back]
      rfl

/-! ## (5) Texts -/

/-- **What is read back has a text of its own.** -/
theorem Json.ReadsBack.render_ne {α : Type} {read : Reader α} {value other : Json} {a b : α}
    (h : ReadsBack read value a) (h' : ReadsBack read other b) (different : a ≠ b) :
    value.render ≠ other.render := fun same =>
  different (Except.ok.inj (h.parse_render.symm.trans ((congrArg _ same).trans h'.parse_render)))

/-- **Metadata, configurations, attributes and replies are read back from their texts**, whatever
they hold; the number of stages among the attributes is a word. Absent reference systems and
services are left out, an absent limit is written as `null`, the empty reference system is not
written like the absent one, and every string survives its escapes. -/
theorem written_texts_are_read_back :
    (∀ metadata : Metadata,
      parse Metadata.record.read (Metadata.record.write metadata).render = .ok metadata) ∧
    (∀ config : Config, Config.parse (Config.record.write config).render = .ok config) ∧
    (∀ attributes : RunAttributes, (∀ n ∈ attributes.stageCount, n < UInt64.size) →
      parse RunAttributes.record.read (RunAttributes.record.write attributes).render =
        .ok attributes) ∧
    (∀ reply : Reply String, parse (Reply.read readText) (reply.write .text).render = .ok reply) ∧
    (∀ metadata : Metadata,
      (Metadata.record.write { metadata with service := none }).get? "service" = none) ∧
    (∀ map : MapInfo, (MapInfo.record.write { map with srs := none }).get? "srs" = none ∧
      (MapInfo.record.write { map with srs := some "" }).render ≠
        (MapInfo.record.write { map with srs := none }).render) ∧
    (∀ layer : Layer, (Layer.record.write { layer with srs := none }).get? "srs" = none ∧
      (Layer.record.write { layer with srs := some "" }).render ≠
        (Layer.record.write { layer with srs := none }).render) ∧
    (∀ config : Config,
      (Config.record.write { config with maxSteps := none }).get? "max_steps" = some .null) ∧
    ∀ content : String, parse readText (Json.text content).render = .ok content := by
  refine ⟨fun metadata => metadata.readsBack.parse_render,
    fun config => config.readsBack.parse_render,
    fun attributes small => (RunAttributes.readsBack small).parse_render,
    fun reply => (Reply.readsBack fun _ _ => .text _).parse_render,
    fun metadata => ?service, fun map => ⟨?mapSrs, ?mapTexts⟩,
    fun layer => ⟨?layerSrs, ?layerTexts⟩,
    fun config => rfl, fun content => (ReadsBack.text content).parse_render⟩
  case service => rfl
  case mapSrs => rfl
  case layerSrs => rfl
  case mapTexts =>
    refine (MapInfo.readsBack _).render_ne (MapInfo.readsBack _) fun same => ?_
    exact absurd (congrArg MapInfo.srs same) (by simp)
  case layerTexts =>
    refine (Layer.readsBack _).render_ne (Layer.readsBack _) fun same => ?_
    exact absurd (congrArg Layer.srs same) (by simp)

/-- An empty reference system is written, an absent one is not, and a default is written like any
other value. -/
example : (Metadata.record.write
      { map := { id := "m", label := "a\"b", srs := some "" }, layers := [{ id := "l" }] }).render =
    "\x7b\"map\":\x7b\"id\":\"m\",\"label\":\"a\\\"b\",\"srs\":\"\"\x7d,\"layers\":[\x7b\"id\":\"l\"," ++
      "\"label\":\"\",\"order_key\":0\x7d]\x7d" := by decide

end Relay
