import FieldGateway.Text.Integer

/-
  Every way a command can fail, its message, and the status it is answered with.
-/

namespace FieldGateway

open FieldGateway.Text

inductive ReplyStatus where
  | ok
  | badRequest
  | notFound
  | methodNotAllowed
  /-- The service or the device is locked, or the device is down. -/
  | locked
  | serverError
deriving DecidableEq, Repr

namespace ReplyStatus

/-- The status code for a front end that speaks HTTP. -/
def httpCode : ReplyStatus → Nat
  | ok => 200
  | badRequest => 400
  | notFound => 404
  | methodNotAllowed => 405
  | locked => 423
  | serverError => 500

def isSuccess (s : ReplyStatus) : Bool := s == ok

end ReplyStatus

inductive CommandError where
  | serviceLocked
  | deviceNotFound (device : String)
  | commandNotFound (device command : String)
  | wrongDirection (command method : String)
  | deviceLocked (device : String)
  | deviceDown (device : String)
  | tooManyOperations (command : String) (count max : Nat)
  | notReadable (resource : String)
  | notWritable (resource : String)
  | missingValue (resource : String)
  /-- A value that does not fit its type; `none` stands for raw bytes. -/
  | valueDecode (resource : String) (raw : Option String)
  | valueOutOfRange (resource value : String)
  | valueOverflow (resource : String)
  | readingTransform (resource reason : String)
  | addressResolution (device reason : String)
  | driverFailure (device reason : String)
  /-- The driver's answer does not answer what it was asked. -/
  | driverViolation (device reason : String)
  | eventTooLarge (size max : Nat)
  | eventEncoding (reason : String)
deriving DecidableEq, Repr

namespace CommandError

def message : CommandError → String
  | serviceLocked => "Service is locked"
  | deviceNotFound d => "Device " ++ d ++ " not found"
  | commandNotFound d c => "No such command " ++ c ++ " for device " ++ d
  | wrongDirection c m => "Wrong method for command " ++ c ++ ": " ++ m ++ " is not supported"
  | deviceLocked d => "Device " ++ d ++ " is locked"
  | deviceDown d => "Device " ++ d ++ " is down"
  | tooManyOperations c n max =>
    "Command " ++ c ++ " has " ++ natText n ++ " operations, exceeding the maximum of " ++
      natText max
  | notReadable r => "Resource " ++ r ++ " is not readable"
  | notWritable r => "Resource " ++ r ++ " is not writable"
  | missingValue r => "No value given for resource " ++ r ++ " and no default is defined"
  | valueDecode r raw =>
    let shown := match raw with
      | some s => "'" ++ s ++ "'"
      | none => "(binary)"
    "Unable to parse value " ++ shown ++ " for resource " ++ r
  | valueOutOfRange r v => "Value " ++ v ++ " for resource " ++ r ++ " is out of range"
  | valueOverflow r => "Value for resource " ++ r ++ " overflows its type after transformation"
  | readingTransform r reason =>
    "Reading for resource " ++ r ++ " could not be transformed: " ++ reason
  | addressResolution d reason =>
    "Unable to resolve address for device " ++ d ++ ": " ++ reason
  | driverFailure d reason => "Driver for device " ++ d ++ " failed: " ++ reason
  | driverViolation d reason =>
    "Driver for device " ++ d ++ " violated the readings contract: " ++ reason
  | eventTooLarge size max =>
    "Event size " ++ natText size ++ " bytes exceeds configured maximum of " ++ natText max ++
      " bytes"
  | eventEncoding reason => "Failed to encode event: " ++ reason

def status : CommandError → ReplyStatus
  | serviceLocked | deviceLocked _ | deviceDown _ => .locked
  | deviceNotFound _ | commandNotFound .. => .notFound
  | wrongDirection .. | notReadable _ | notWritable _ => .methodNotAllowed
  | tooManyOperations .. | missingValue _ | valueDecode .. | valueOutOfRange ..
  | valueOverflow _ => .badRequest
  | addressResolution .. | readingTransform .. | driverFailure .. | driverViolation ..
  | eventTooLarge .. | eventEncoding _ => .serverError

end CommandError

end FieldGateway
