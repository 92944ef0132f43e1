import FieldGateway.Bus.Announcement
import FieldGateway.Bus.Channel

/-
  The event bus: a named channel of announcements with the subscribers that read it, each with a
  filter of its own.
-/

namespace FieldGateway

/-- Which announcements a subscriber wants: any test of them is a filter. -/
structure Bus.Filter where
  wants : Announcement → Bool

namespace Bus.Filter

def all : Filter := ⟨fun _ => true⟩

def readings : Filter := ⟨Announcement.isReadings⟩

def health : Filter := ⟨Announcement.isHealth⟩

/-- The announcements about a device, or those about none. -/
def device (name : Option String) : Filter := ⟨fun a => a.device? == name⟩

end Bus.Filter

/-- An announcement on its way. -/
structure Bus.Message where
  announcement : Announcement
  metadata : Metadata

/-- A subscriber, under the name it subscribed by. -/
structure Bus.Subscriber where
  name : String
  filter : Bus.Filter
  receiver : Bus.Receiver

/-- What a waiting subscriber gets. -/
inductive Bus.Delivery where
  | message (m : Bus.Message)
  /-- There is nothing yet. -/
  | pending
  /-- There will be nothing any more. -/
  | closed

structure Bus where
  name : String
  channel : Bus.Channel Bus.Message
  subscribers : List Bus.Subscriber

namespace Bus

def defaultCapacity : Nat := 1000

/-- A bus that keeps so many announcements, one at least. -/
def ofCapacity (capacity : Nat) : Bus :=
  ⟨"default", Channel.ofCapacity (max capacity 1), []⟩

/-- A bus of the default capacity. -/
def ofName (name : String) : Bus := { ofCapacity defaultCapacity with name }

def unsubscribe (b : Bus) (name : String) : Bus :=
  { b with subscribers := b.subscribers.filter fun s => s.name != name }

/-- A subscriber that had the name gives way. -/
def subscribe (b : Bus) (name : String) (filter : Filter) : Bus :=
  let others := (b.unsubscribe name).subscribers
  { b with subscribers := others ++ [⟨name, filter, b.channel.subscribe⟩] }

/-- Sends an announcement if anybody listens, and says whether anybody did. -/
def publish (b : Bus) (m : Message) : Bool × Bus :=
  if b.subscribers.isEmpty then (false, b) else (true, { b with channel := b.channel.send m })

def close (b : Bus) : Bus := { b with channel := { b.channel with closed := true } }

def subscriber? (b : Bus) (name : String) : Option Subscriber :=
  b.subscribers.find? fun s => s.name == name

/-- The subscriber of that name stands where the receiver stands. -/
def advance (b : Bus) (name : String) (r : Receiver) : Bus :=
  { b with subscribers := b.subscribers.map fun s =>
      if s.name == name then { s with receiver := r } else s }

/-- The next announcement that is there for a subscriber; a subscriber that fell behind is told
that there is none, once. -/
def tryReceive (b : Bus) (name : String) : Option Message × Bus :=
  match b.subscriber? name with
  | none => (none, b)
  | some s =>
    let (found, r) := b.channel.tryReceive (fun m => s.filter.wants m.announcement)
      (b.channel.remaining s.receiver) s.receiver
    (found, b.advance name r)

/-- What a subscriber gets that waits for an announcement. -/
def receive (b : Bus) (name : String) : Delivery × Bus :=
  match b.subscriber? name with
  | none => (.closed, b)
  | some s =>
    let (found, r) := b.channel.receiveNext (fun m => s.filter.wants m.announcement)
      (b.channel.remaining s.receiver + 1) s.receiver
    let delivery := match found with
      | some m => .message m
      | none => if b.channel.closed then .closed else .pending
    (delivery, b.advance name r)

end Bus

end FieldGateway
