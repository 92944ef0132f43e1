import FieldGateway.Driver.Basic
import FieldGateway.Transform

/-
  A driver without devices: it answers out of a table and fails where its script says so.
-/

namespace FieldGateway

open FieldGateway.Json

/-- Errors by key; one under `*` stands for every other key. -/
abbrev Faults := Dict DriverError

def Faults.find? (f : Faults) (key : String) : Option DriverError :=
  (Dict.find? f key).or (Dict.find? f "*")

/-- What is to go wrong. -/
structure Script where
  /-- By device. -/
  reads : Faults := ∅
  /-- By device. -/
  writes : Faults := ∅
  /-- By device. -/
  addresses : Faults := ∅
  /-- By command. -/
  samplings : Faults := ∅
  initialization : Faults := ∅
  /-- So many results more than requests, or fewer. -/
  surplus : Int := 0

/-- The fields that are given, over those of a script. -/
def Script.decoder (s : Script) : Decoder Script := fun depth n => do
  let fields ← Fields.of? ["get_errors", "put_errors", "address_errors", "hook_errors",
    "init_error", "result_delta"] depth n
  let faults : Decoder Faults := .dict DriverError.decoder
  let reads ← fields.withDefault "get_errors" s.reads faults
  let writes ← fields.withDefault "put_errors" s.writes faults
  let addresses ← fields.withDefault "address_errors" s.addresses faults
  let samplings ← fields.withDefault "hook_errors" s.samplings faults
  let initialization ← fields.withDefault "init_error" s.initialization faults
  let surplus ← fields.withDefault "result_delta" s.surplus
    (.whole (Word.leastSigned 64) (Word.greatestSigned 64))
  some { reads, writes, addresses, samplings, initialization, surplus }

/-- The script, and what the resources hold: under `device/resource` for one device, under
`resource` for all. -/
structure Simulation where
  script : Script := {}
  table : Dict Result := ∅

namespace Simulation

def outcome {α : Type} (fault : Option DriverError) (answer : α) : Except DriverError α :=
  match fault with
  | some e => .error e
  | none => .ok answer

/-- The host by which the protocol `virtual` reaches a device. -/
def host? (p : Protocols) : Option String := (p.find? "virtual").bind (·.find? "Host")

/-- What a resource of a device holds, zero if nothing was put there. -/
def held (s : Simulation) (device resource : String) : Result :=
  ((s.table.find? (device ++ "/" ++ resource)).or (s.table.find? resource)).getD
    ⟨.int .int32 0, none, ∅⟩

/-- So many results more, zeros, or fewer. -/
def distort (surplus : Int) (results : List Result) : List Result :=
  if surplus < 0 then results.take (results.length - surplus.natAbs)
  else results ++ List.replicate surplus.natAbs ⟨.int .int32 0, none, ∅⟩

def read (s : Simulation) (device : String) (requests : List Request) : List Result :=
  distort s.script.surplus (requests.map fun r => s.held device r.resource)

def write (s : Simulation) (device : String) (requests : List Request) (values : List Value) :
    Simulation :=
  let put (table : Dict Result) (pair : Request × Value) : Dict Result :=
    table.insert (device ++ "/" ++ pair.1.resource) ⟨pair.2, none, ∅⟩
  { s with table := (requests.zip values).foldl put s.table }

/-- Attributes with a member `reject` cannot be parsed, all others stay as they are. -/
def parse (resource : String) (attributes : Json) : Except DriverError Json :=
  match attributes.member? "reject" with
  | some _ => .error (.attributes ("bad attributes on " ++ resource))
  | none => .ok attributes

def sampling : Driver.Sampling Simulation where
  start s device _ source _ _ _ :=
    (outcome (s.script.samplings.find? source) (device ++ "/" ++ source), s)
  stop s _ := s

/-- The driver over the table, with a schedule of its own or without. -/
def driver (samples : Bool) : Driver Simulation where
  prepare s := (outcome (s.script.initialization.find? "*") (), s)
  createAddress s device protocols :=
    (outcome (s.script.addresses.find? device) ((host? protocols).getD device), s)
  checkAddress _ protocols :=
    if host? protocols = some "" then .error (.address "empty host") else .ok ()
  parseAttributes _ := parse
  read s device _ requests :=
    (outcome (s.script.reads.find? device) (s.read device requests), s)
  write s device _ requests values :=
    match s.script.writes.find? device with
    | some e => (.error e, s)
    | none => (.ok (), s.write device requests values)
  added s _ _ := s
  updated s _ _ := s
  removed s _ := s
  stop s _ := s
  sampling := if samples then some sampling else none

/-- Transforms that fail on one text, refuse to write another, and leave all else alone. -/
def transforms : TransformEngine :=
  let step (_ : Properties) (v : Value) : Except TransformError Value :=
    if v.same (.string "overflow") then
      .error (.overflow (Floating.Number.ofRatio Floating.Format.double false 3 2)
        (.scalar .string))
    else .ok v
  ⟨fun _ v => !v.same (.string "forbidden"), step, step⟩

end Simulation

end FieldGateway
