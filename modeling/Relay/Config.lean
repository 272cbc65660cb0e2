import Relay.Json.Record
import Relay.Json.Variant

/-!
# Configuration

How runs are limited and reported. Everything has a default, so that the empty object is a complete
configuration.
-/

namespace Relay

open Relay.Json

/-! ## (1) Logging -/

/-- **How log lines are formatted.** -/
inductive LogFormat where
  | plain
  | json
  deriving DecidableEq, Inhabited

/-- The name of a format. -/
def LogFormat.name : LogFormat → String
  | plain => "plain"
  | json => "json"

/-- The name of a format in displays. -/
def LogFormat.label : LogFormat → String
  | plain => "Plain"
  | json => "Json"

/-- Reading a format. -/
def LogFormat.read : Reader LogFormat :=
  Form.read [.plain LogFormat.plain.name .plain, .plain LogFormat.json.name .json]

/-- The written form of a format. -/
def LogFormat.write (format : LogFormat) : Json := .text format.name

/-- **The logging settings**: a filter, a format, and whether lines name their target. -/
structure LoggingConfig where
  filter : String := "info"
  format : LogFormat := .plain
  withTarget : Bool := true
  deriving DecidableEq, Inhabited

/-- The record of logging settings. -/
def LoggingConfig.record : Record LoggingConfig where
  types := [String, LogFormat, Bool]
  fields := .cons (.defaulted "filter" readText .text "info") <|
    .cons (.defaulted "format" LogFormat.read LogFormat.write .plain) <|
    .cons (.defaulted "with_target" readBool .bool true) .nil
  toRow config := (config.filter, config.format, config.withTarget, ())
  ofRow row := ⟨row.1, row.2.1, row.2.2.1⟩

/-! ## (2) Runs -/

/-- Reading a word of 64 bits. -/
def readUInt64 : Reader UInt64 := fun node => (readNat 64 node).map UInt64.ofNat

/-- **The configuration of runs**: a limit on their steps, whether they emit events, and the logging
settings. -/
structure Config where
  maxSteps : Option UInt64 := none
  emitEvents : Bool := true
  logging : LoggingConfig := {}
  deriving DecidableEq, Inhabited

/-- The record of a configuration. -/
def Config.record : Record Config where
  types := [Option UInt64, Bool, LoggingConfig]
  fields := .cons (.defaulted "max_steps" (readOption readUInt64)
      (Json.option fun n => .nat n.toNat) none) <|
    .cons (.defaulted "emit_events" readBool .bool true) <|
    .cons (.defaulted "logging" LoggingConfig.record.read LoggingConfig.record.write {}) .nil
  toRow config := (config.maxSteps, config.emitEvents, config.logging, ())
  ofRow row := ⟨row.1, row.2.1, row.2.2.1⟩

/-- **The configuration that a text describes.** -/
def Config.parse (text : String) : Except Fault Config := Json.parse Config.record.read text

/-! ## (3) Display -/

open Relay.Text in
/-- The display of logging settings. -/
def LoggingConfig.shown (config : LoggingConfig) : Shown :=
  .fields "LoggingConfig" [("filter", .quoted config.filter),
    ("format", .plain config.format.label), ("with_target", .bool config.withTarget)] false

open Relay.Text in
/-- The display of a configuration. -/
def Config.shown (config : Config) : Shown :=
  .fields "ExecutorConfig" [("max_steps", .option (fun n => .nat n.toNat) config.maxSteps),
    ("emit_events", .bool config.emitEvents), ("logging", config.logging.shown)] false

open Relay.Text in
/-- The display of an executor, which shows nothing but its configuration. -/
def Config.shownExecutor (config : Config) : Shown :=
  .fields "SerialPipelineExecutor" [("config", config.shown)] true

end Relay
