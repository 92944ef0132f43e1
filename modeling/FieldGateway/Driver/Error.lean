import FieldGateway.Json.Record
import FieldGateway.Json.Writer

/-
  What a protocol driver may report, and what managing devices and profiles may fail with.
-/

namespace FieldGateway

open FieldGateway.Json FieldGateway.Text

inductive DriverError where
  | address (reason : String)
  | attributes (reason : String)
  | communication (reason : String)
  /-- A protocol exception with a code of the driver's own. -/
  | exception (code : Int) (reason : String)
  /-- The driver broke the contract of its own calls. -/
  | assertionFailed (reason : String)
  | notSupported (reason : String)
deriving DecidableEq, Repr

namespace DriverError

def message : DriverError → String
  | address r => "Address error: " ++ r
  | attributes r => "Attribute error: " ++ r
  | communication r => "Communication error: " ++ r
  | exception code r => "Driver exception " ++ intText code ++ ": " ++ r
  | assertionFailed r => "Assertion failed: " ++ r
  | notSupported r => "Not supported: " ++ r

/-- The form written to diagnostics: the kind, and what belongs to it. -/
def toJson : DriverError → Json
  | address r => .obj [("Address", .str r)]
  | attributes r => .obj [("Attributes", .str r)]
  | communication r => .obj [("Communication", .str r)]
  | exception code r =>
    .obj [("Exception", .obj [("code", .num (.whole code)), ("reason", .str r)])]
  | assertionFailed r => .obj [("AssertionFailed", .str r)]
  | notSupported r => .obj [("NotSupported", .str r)]

/-- The code of an exception is a signed number of 32 bits. -/
def decoder : Decoder DriverError
  | depth + 1, .obj [(some "Exception", n)] => do
    let fields ← Fields.of? ["code", "reason"] depth n
    let code ← fields.required "code" (.whole (Word.leastSigned 32) (Word.greatestSigned 32))
    let reason ← fields.required "reason" .text
    some (exception code reason)
  | depth + 1, .obj [(some kind, n)] => do
    let make ← [("Address", address), ("Attributes", attributes),
      ("Communication", communication), ("AssertionFailed", assertionFailed),
      ("NotSupported", notSupported)].lookup kind
    some (make (← Decoder.text depth n))
  | _, _ => none

end DriverError

inductive DeviceError where
  | notFound (what : String)
  | alreadyExists (name : String)
  | invalidProfile (reason : String)
  | invalidDevice (reason : String)
  | profileInUse (name : String)
  | driver (e : DriverError)
deriving DecidableEq, Repr

namespace DeviceError

def message : DeviceError → String
  | notFound s => "Not found: " ++ s
  | alreadyExists s => "Already exists: " ++ s
  | invalidProfile s => "Invalid profile: " ++ s
  | invalidDevice s => "Invalid device: " ++ s
  | profileInUse s => "Profile in use: " ++ s
  | driver e => "Driver error: " ++ e.message

def noProfile (name : String) : DeviceError := notFound ("profile " ++ name)

def noDevice (name : String) : DeviceError := notFound ("device " ++ name)

end DeviceError

end FieldGateway
