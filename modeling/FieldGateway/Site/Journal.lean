import FieldGateway.Site.Trace
import FieldGateway.Value.Exact

/-
  The trace of a site as JSON, in books: the calls of the driver, the reports on health, the
  reports to the metadata service, and what went to the bus. An entry is a time and what happened
  then.
-/

namespace FieldGateway

def Request.toEntry (r : Request) : Json :=
  let mask := Json.orNull (fun m : Mask => .str (Text.natText m.bits.toNat)) r.mask
  .arr [.str r.resource, .str r.type.name, mask]

def Exchange.toEntry : Exchange → Json
  | prepare _ => .arr [.str "init"]
  | address d _ => .arr [.str "address", .str d.name]
  | parse _ resource => .arr [.str "parse", .str resource]
  | read d a requests _ =>
    .arr [.str "get", .str d.name, .str a, .arr (requests.map (·.toEntry))]
  | write d a requests values _ =>
    let pairs := (requests.zip values).map fun p => Json.arr [.str p.1.resource, p.2.toExact]
    .arr [.str "put", .str d.name, .str a, .arr pairs]
  | added d => .arr [.str "added", .str d.name, .num (.whole d.protocols.size)]
  | updated d => .arr [.str "updated", .str d.name, .num (.whole d.protocols.size)]
  | removed name => .arr [.str "removed", .str name]
  | stop force => .arr [.str "stop", .bool force]
  | startSampling d source requests interval onChange _ =>
    .arr [.str "hook_start", .str d.name, .str source, .num (.whole requests.length),
      .num (.whole interval.millisWord.toNat), .bool onChange]
  | stopSampling handle => .arr [.str "hook_stop", .str handle]

/-- An announcement in short: without its time, and with the size of its payload alone. -/
def Announcement.toEntry (a : Announcement) : Json :=
  Json.sortedObj <| ("type", .str a.typeName) :: a.members.filterMap fun m =>
    match m with
    | ("timestamp", _) => none
    | ("payload", .arr bytes) => some ("size", .num (.whole bytes.length))
    | m => some m

/-- The books of a journal. -/
inductive Book where
  | calls
  | health
  | metadata
  | bus
deriving DecidableEq, Repr

def Report.name : Report → String
  | success => "success"
  | failure => "failure"
  | violation => "violation"

namespace Effect

def book : Effect → Book
  | driver _ => .calls
  | reported .. => .health
  | stateReported .. | connectionReported _ => .metadata
  | announced .. | handedOver .. => .bus

def toEntry : Effect → Json
  | driver e => e.toEntry
  | reported d r => .arr [.str "report", .str d.name, .str r.name]
  | stateReported d state => .arr [.str "state", .str d, .str state.name]
  | connectionReported d => .arr [.str "connected", .str d, .bool true]
  | announced source a => .arr [.str source, a.toEntry]
  | handedOver source readings => .arr [.str "publisher", .str source, .num (.whole readings)]

end Effect

/-- What is heard of a trace by one who listens to the bus and catches up at the end of every
millisecond: of the announcements of one millisecond the last, as many as the ring keeps. -/
def heard (size : Nat) (trace : List (Nat × Effect)) : List (Nat × Effect) :=
  (trace.foldr listen ([], none, 0)).1
where
  /-- Goes back in time, with what was heard and how many announcements were met last, and when. -/
  listen (e : Nat × Effect) (after : List (Nat × Effect) × Option Nat × Nat) :
      List (Nat × Effect) × Option Nat × Nat :=
    let (kept, time, met) := after
    match e.2 with
    | .announced .. =>
      let met := if time = some e.1 then met else 0
      (if met < size then e :: kept else kept, some e.1, met + 1)
    | _ => (e :: kept, time, met)

namespace Book

/-- The entries of a book, in the order in which things happened. -/
def entries (b : Book) (trace : List (Nat × Effect)) : List (Nat × Json) :=
  (trace.filter fun e => e.2.book == b).map fun e => (e.1, e.2.toEntry)

/-- Entries by time, and by their text where the time is the same. -/
def sort (entries : List (Nat × Json)) : List (Nat × Json) :=
  let keyed := entries.map fun e => (e.1, e.2.text, e.2)
  let sorted := keyed.mergeSort fun a b => a.1 < b.1 || (a.1 == b.1 && a.2.1 ≤ b.2.1)
  sorted.map fun e => (e.1, e.2.2)

def toJson (entries : List (Nat × Json)) : Json :=
  .arr (entries.map fun e => .arr [.num (.whole e.1), e.2])

end Book

end FieldGateway
