import FieldGateway.Command.Error
import FieldGateway.Event.Cooked

/-
  What is asked of a command, and what is answered.
-/

namespace FieldGateway

open FieldGateway.Json

inductive Method where
  | get
  | put
deriving DecidableEq, Repr

namespace Method

def name : Method → String
  | get => "GET"
  | put => "PUT"

def direction : Method → Direction
  | get => .get
  | put => .set

def decoder : Decoder Method := .choice [("GET", get), ("PUT", put)]

end Method

/-- What is to become of the event that a command reads. -/
structure Query where
  pushed : Bool := false
  returned : Bool := true
deriving DecidableEq, Repr

def Query.decoder : Decoder Query := fun depth n => do
  let fields ← Fields.of? ["pushEvent", "returnEvent"] depth n
  let pushed ← fields.withDefault "pushEvent" false .bool
  let returned ← fields.withDefault "returnEvent" true .bool
  some { pushed, returned }

/-- A value given for a resource: wire text, or the bytes of a byte string. -/
inductive Param where
  | text (s : String)
  | bytes (b : List UInt8)
deriving DecidableEq

/-- The values given for the resources of a command. -/
abbrev Params := Dict Param

/-- The values in a JSON object. A string stands for its content, anything else for its JSON
text; what is no object gives no values. -/
def Params.ofJson : Json → Params
  | .obj members =>
    Dict.ofList <| members.map fun m =>
      (m.1, match m.2 with
        | .str s => .text s
        | j => .text j.text)
  | _ => ∅

structure CommandRequest where
  method : Method
  device : String
  command : String
  query : Query := {}
  params : Params := ∅

namespace CommandRequest

def withQuery (r : CommandRequest) (query : Query) : CommandRequest := { r with query }

def withParam (r : CommandRequest) (resource : String) (value : Param) : CommandRequest :=
  { r with params := r.params.insert resource value }

end CommandRequest

structure CommandReply where
  status : ReplyStatus
  message : String
  event : Option CookedEvent

namespace ReplyStatus

def name : ReplyStatus → String
  | ok => "Ok"
  | badRequest => "BadRequest"
  | notFound => "NotFound"
  | methodNotAllowed => "MethodNotAllowed"
  | locked => "Locked"
  | serverError => "ServerError"

def decoder : Decoder ReplyStatus :=
  .choice [("Ok", ok), ("BadRequest", badRequest), ("NotFound", notFound),
    ("MethodNotAllowed", methodNotAllowed), ("Locked", locked), ("ServerError", serverError)]

end ReplyStatus

namespace CommandReply

def ofError (e : CommandError) : CommandReply := ⟨e.status, e.message, none⟩

/-- The event that was read. -/
def read (event : CookedEvent) : CommandReply := ⟨.ok, "", some event⟩

/-- The event was published and is kept back. -/
def published : CommandReply := ⟨.ok, "Event published; reading not returned", none⟩

/-- The event is dropped. -/
def dropped : CommandReply :=
  ⟨.ok, "Command executed; reading neither published nor returned", none⟩

/-- The answer to a query about an event that was read. -/
def ofQuery (q : Query) (event : CookedEvent) : CommandReply :=
  if q.returned then read event else if q.pushed then published else dropped

def written : CommandReply := ⟨.ok, "Command executed", none⟩

def isSuccess (r : CommandReply) : Bool := r.status.isSuccess

end CommandReply

end FieldGateway
