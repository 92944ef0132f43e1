import FieldGateway.Config.Basic
import FieldGateway.Text.Utf8
import FieldGateway.Toml.Reader

/-
  Where a configuration comes from: a TOML file or a JSON value over the defaults, and the
  environment over both. An override that does not parse is ignored.
-/

namespace FieldGateway.ServiceConfig

open FieldGateway.Json FieldGateway.Text

/-- The greatest value of a setting that counts failures. -/
def greatestFails : Nat := Word.greatest 32

def decoder : Decoder ServiceConfig := fun depth n => do
  let d : ServiceConfig := {}
  let fields ← Fields.of? ["service_name", "data_transform", "max_event_size_kib",
    "max_cmd_ops", "allowed_fails", "device_down_timeout_secs", "update_last_connected",
    "event_bus_capacity", "metrics_interval"] depth n
  let serviceName ← fields.withDefault "service_name" d.serviceName .text
  let dataTransform ← fields.withDefault "data_transform" d.dataTransform .bool
  let maxEventSizeKib ←
    fields.withDefault "max_event_size_kib" d.maxEventSizeKib (.count greatestSize)
  let maxCommandOps ← fields.withDefault "max_cmd_ops" d.maxCommandOps (.count greatestSize)
  let allowedFails ← fields.withDefault "allowed_fails" d.allowedFails (.count greatestFails)
  let downTimeoutSecs ←
    fields.withDefault "device_down_timeout_secs" d.downTimeoutSecs (.count greatestSize)
  let updateLastConnected ←
    fields.withDefault "update_last_connected" d.updateLastConnected .bool
  let busCapacity ← fields.withDefault "event_bus_capacity" d.busCapacity (.count greatestSize)
  let metricsInterval ← fields.withDefault "metrics_interval" d.metricsInterval .text
  some { serviceName, dataTransform, maxEventSizeKib, maxCommandOps, allowedFails,
         downTimeoutSecs, updateLastConnected, busCapacity, metricsInterval }

/-! ## Files -/

def textEntry (entries : Toml.Entries) (key default : String) : Option String :=
  match entries.lookup key with
  | none => some default
  | some (.str s) => some s
  | some _ => none

def boolEntry (entries : Toml.Entries) (key : String) (default : Bool) : Option Bool :=
  match entries.lookup key with
  | none => some default
  | some (.bool b) => some b
  | some _ => none

def countEntry (entries : Toml.Entries) (key : String) (greatest default : Nat) : Option Nat :=
  match entries.lookup key with
  | none => some default
  | some (.whole i) => if 0 ≤ i ∧ i ≤ greatest then some i.toNat else none
  | some _ => none

/-- The settings at the top of a document; other keys and tables are not looked at. -/
def ofEntries (entries : Toml.Entries) : Option ServiceConfig := do
  let d : ServiceConfig := {}
  let serviceName ← textEntry entries "service_name" d.serviceName
  let dataTransform ← boolEntry entries "data_transform" d.dataTransform
  let maxEventSizeKib ← countEntry entries "max_event_size_kib" greatestSize d.maxEventSizeKib
  let maxCommandOps ← countEntry entries "max_cmd_ops" greatestSize d.maxCommandOps
  let allowedFails ← countEntry entries "allowed_fails" greatestFails d.allowedFails
  let downTimeoutSecs ←
    countEntry entries "device_down_timeout_secs" greatestSize d.downTimeoutSecs
  let updateLastConnected ← boolEntry entries "update_last_connected" d.updateLastConnected
  let busCapacity ← countEntry entries "event_bus_capacity" greatestSize d.busCapacity
  let metricsInterval ← textEntry entries "metrics_interval" d.metricsInterval
  some { serviceName, dataTransform, maxEventSizeKib, maxCommandOps, allowedFails,
         downTimeoutSecs, updateLastConnected, busCapacity, metricsInterval }

def ofToml? (s : String) : Option ServiceConfig := (Toml.ofText? s).bind ofEntries

/-! ## The environment -/

def countOf (greatest : Nat) (s : String) : Option Nat := readUpTo greatest s

def boolOf (s : String) : Option Bool :=
  let word := trim s
  if word = "true" then some true else if word = "false" then some false else none

/-- The overriding value, if the variable is set and parses. -/
def override {α : Type} (env : TextMap) (name : String) (parse : String → Option α)
    (current : α) : α :=
  ((env.find? name).bind parse).getD current

def withEnvironment (c : ServiceConfig) (env : TextMap) : ServiceConfig :=
  { serviceName := override env "EDGEKIT_SERVICE_NAME" some c.serviceName
    dataTransform := override env "EDGEKIT_DATA_TRANSFORM" boolOf c.dataTransform
    maxEventSizeKib :=
      override env "EDGEKIT_MAX_EVENT_SIZE_KIB" (countOf greatestSize) c.maxEventSizeKib
    maxCommandOps := override env "EDGEKIT_MAX_CMD_OPS" (countOf greatestSize) c.maxCommandOps
    allowedFails := override env "EDGEKIT_ALLOWED_FAILS" (countOf greatestFails) c.allowedFails
    downTimeoutSecs :=
      override env "EDGEKIT_DEVICE_DOWN_TIMEOUT" (countOf greatestSize) c.downTimeoutSecs
    updateLastConnected :=
      override env "EDGEKIT_UPDATE_LAST_CONNECTED" boolOf c.updateLastConnected
    busCapacity := override env "EDGEKIT_EVENT_BUS_CAPACITY" (countOf greatestSize) c.busCapacity
    metricsInterval := override env "EDGEKIT_METRICS_INTERVAL" some c.metricsInterval }

/-- What is found under the path of the configuration file. -/
inductive File where
  | missing
  | unreadable
  | bytes (content : List UInt8)

inductive LoadError where
  | unreadable
  | malformed
  | faulty (fault : Fault)
deriving DecidableEq

/-- The file over the defaults, the environment over both; the outcome has to be without
fault. -/
def load (file : File) (env : TextMap) : Except LoadError ServiceConfig := do
  let c ← match file with
    | .missing => .ok {}
    | .unreadable => .error .unreadable
    | .bytes content =>
      match ofUtf8? content with
      | none => .error .unreadable
      | some s =>
        match ofToml? s with
        | some c => .ok c
        | none => .error .malformed
  let c := c.withEnvironment env
  match c.fault? with
  | some fault => .error (.faulty fault)
  | none => .ok c

end FieldGateway.ServiceConfig
