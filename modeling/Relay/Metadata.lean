import Relay.Json.Record

/-!
# Metadata of a pipeline

What a pipeline serves: a map, the layers that feed it, and the service it is published under.
Processors read it through their stage; runs never look at it.
-/

namespace Relay

open Relay.Json

/-! ## (1) Maps, layers and services -/

/-- **A map**, with its spatial reference system if it has one. -/
structure MapInfo where
  id : String := ""
  label : String := ""
  srs : Option String := none
  deriving DecidableEq, Inhabited

/-- **A layer** of a map; layers with lower order keys are drawn first. -/
structure Layer where
  id : String := ""
  label : String := ""
  srs : Option String := none
  orderKey : Int32 := 0
  deriving DecidableEq, Inhabited

/-- **A service** that publishes a map. -/
structure Service where
  id : String
  serviceType : String
  pathSpec : String := ""
  srs : List String := []
  enabled : Bool := true
  deriving DecidableEq, Inhabited

/-- The layer with a reference system of its own in place of any earlier one. -/
def Layer.withSrs (layer : Layer) (srs : String) : Layer := { layer with srs := some srs }

/-- The map with a reference system of its own in place of any earlier one. -/
def MapInfo.withSrs (map : MapInfo) (srs : String) : MapInfo := { map with srs := some srs }

/-- The service with one more reference system. -/
def Service.addSrs (service : Service) (srs : String) : Service :=
  { service with srs := service.srs ++ [srs] }

/-- The service, not enabled. -/
def Service.disabled (service : Service) : Service := { service with enabled := false }

/-- **Whether a service is of a type**; the case of ASCII letters does not matter. -/
def Service.isOfType (service : Service) (serviceType : String) : Bool :=
  service.serviceType.toList.map Char.toLower == serviceType.toList.map Char.toLower

/-! ## (2) Metadata -/

/-- **The metadata of a pipeline.** -/
structure Metadata where
  map : MapInfo := {}
  layers : List Layer := []
  service : Option Service := none
  deriving DecidableEq, Inhabited

/-- The metadata with one more layer. -/
def Metadata.addLayer (metadata : Metadata) (layer : Layer) : Metadata :=
  { metadata with layers := metadata.layers ++ [layer] }

/-- The metadata with a service in place of any earlier one. -/
def Metadata.withService (metadata : Metadata) (service : Service) : Metadata :=
  { metadata with service := some service }

/-- The first layer with the given id. -/
def Metadata.layer? (metadata : Metadata) (id : String) : Option Layer :=
  metadata.layers.find? (·.id == id)

/-! ## (3) Records -/

/-- Reading an order key: an integer of 32 bits. -/
def readInt32 : Reader Int32 := fun node =>
  (readInt Int32.minValue.toInt Int32.maxValue.toInt node).map Int32.ofInt

/-- The record of a map. -/
def MapInfo.record : Record MapInfo where
  types := [String, String, Option String]
  fields := .cons (.text "id") <| .cons (.text "label") <|
    .cons (.omittable "srs" readText .text) .nil
  toRow map := (map.id, map.label, map.srs, ())
  ofRow row := ⟨row.1, row.2.1, row.2.2.1⟩

/-- The record of a layer. -/
def Layer.record : Record Layer where
  types := [String, String, Option String, Int32]
  fields := .cons (.text "id") <| .cons (.text "label") <|
    .cons (.omittable "srs" readText .text) <|
    .cons (.defaulted "order_key" readInt32 (fun n => .int n.toInt) 0) .nil
  toRow layer := (layer.id, layer.label, layer.srs, layer.orderKey, ())
  ofRow row := ⟨row.1, row.2.1, row.2.2.1, row.2.2.2.1⟩

/-- The record of a service. -/
def Service.record : Record Service where
  types := [String, String, String, List String, Bool]
  fields := .cons (.text "id") <| .cons (.text "service_type") <|
    .cons (.defaulted "path_spec" readText .text "") <|
    .cons (.defaulted "srs" (readList readText) .texts []) <|
    .cons (.defaulted "enabled" readBool .bool true) .nil
  toRow service :=
    (service.id, service.serviceType, service.pathSpec, service.srs, service.enabled, ())
  ofRow row := ⟨row.1, row.2.1, row.2.2.1, row.2.2.2.1, row.2.2.2.2.1⟩

/-- The record of metadata. -/
def Metadata.record : Record Metadata where
  types := [MapInfo, List Layer, Option Service]
  fields := .cons (.required "map" MapInfo.record.read MapInfo.record.write) <|
    .cons (.defaulted "layers" (readList Layer.record.read)
      (fun layers => .array (layers.map Layer.record.write)) []) <|
    .cons (.omittable "service" Service.record.read Service.record.write) .nil
  toRow metadata := (metadata.map, metadata.layers, metadata.service, ())
  ofRow row := ⟨row.1, row.2.1, row.2.2.1⟩

/-! ## (4) Display -/

open Relay.Text in
/-- The display of a map. -/
def MapInfo.shown (map : MapInfo) : Shown :=
  .fields "MapInfo" [("id", .quoted map.id), ("label", .quoted map.label),
    ("srs", .option .quoted map.srs)] false

open Relay.Text in
/-- The display of a layer. -/
def Layer.shown (layer : Layer) : Shown :=
  .fields "LayerInfo" [("id", .quoted layer.id), ("label", .quoted layer.label),
    ("srs", .option .quoted layer.srs), ("order_key", .plain (toString layer.orderKey.toInt))] false

open Relay.Text in
/-- The display of a service. -/
def Service.shown (service : Service) : Shown :=
  .fields "ServiceInfo" [("id", .quoted service.id), ("service_type", .quoted service.serviceType),
    ("path_spec", .quoted service.pathSpec), ("srs", .texts service.srs),
    ("enabled", .bool service.enabled)] false

open Relay.Text in
/-- The display of metadata. -/
def Metadata.shown (metadata : Metadata) : Shown :=
  .fields "PipelineMetadata" [("map", metadata.map.shown),
    ("layers", .list (metadata.layers.map Layer.shown)),
    ("service", .option Service.shown metadata.service)] false

end Relay
