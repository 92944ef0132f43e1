import FieldGateway.Proofs.Bus.Received

/-
  What is there for a subscriber (`waiting`), and what it gets by taking message after message
  until there is none (`Drains`). Waiting for a message and trying for one hand over the same as
  long as the ring has not passed the subscriber. A subscriber that the ring has passed (`Behind`)
  is told by its next try that there is nothing, whatever the ring still keeps for it, and only the
  try after that finds it (`waiting_and_trying`).
-/

namespace FieldGateway.Bus

open Channel

/-- What is there for a subscriber: of the messages the ring keeps, those that it has not read and
that it wants. -/
def waiting (b : Bus) (name : String) : List Message :=
  match b.subscriber? name with
  | none => []
  | some s =>
    (b.channel.kept.drop (s.receiver.next - b.channel.oldest)).filter
      fun m => s.filter.wants m.announcement

/-- The ring has passed the subscriber: the message it would read next is kept no longer. -/
def Behind (b : Bus) (name : String) : Prop :=
  ∃ s, b.subscriber? name = some s ∧ s.receiver.next < b.channel.oldest

/-- One way to take a message, if there is one. -/
def waitFor (name : String) (b : Bus) : Option Message × Bus :=
  ((b.receive name).1.message?, (b.receive name).2)

/-- The other way. -/
def tryFor (name : String) (b : Bus) : Option Message × Bus := b.tryReceive name

/-- Taken until there is none, these are the messages. -/
inductive Drains (take : Bus → Option Message × Bus) : Bus → List Message → Prop
  | nothing {b : Bus} : (take b).1 = none → Drains take b []
  | message {b : Bus} {m : Message} {ms : List Message} :
    (take b).1 = some m → Drains take (take b).2 ms → Drains take b (m :: ms)

variable {b : Bus} {name : String} {filter : Filter}

/-! ## Searching message by message -/

/-- A search finds the first of what is wanted and leaves the rest of it. -/
theorem filter_eq_find?_append {α : Type} (wanted : α → Bool) (left : List α) :
    left.filter wanted =
      (left.find? wanted).toList ++ (left.drop (passed wanted left)).filter wanted := by
  induction left with
  | nil => rfl
  | cons m left ih =>
    rw [passed_cons]
    cases hm : wanted m with
    | true => simp [hm]
    | false => simpa [hm] using ih

/-- If each way of taking a message takes the first that is there and leaves the rest, then it
drains exactly what is there. -/
theorem drains_iff {take : Bus → Option Message × Bus} (Ready : Bus → Prop)
    (there : Bus → List Message)
    (step : ∀ b, Ready b → Ready (take b).2 ∧
      there b = (take b).1.toList ++ there (take b).2 ∧ ((take b).1 = none → there b = []))
    (ready : Ready b) (ms : List Message) : Drains take b ms ↔ ms = there b := by
  constructor
  · intro h
    induction h with
    | nothing none =>
      obtain ⟨-, -, empty⟩ := step _ ready
      exact (empty none).symm
    | message found _ ih =>
      obtain ⟨ready', split, -⟩ := step _ ready
      rw [split, found, ih ready']
      rfl
  · rintro rfl
    generalize hms : there b = ms
    induction ms generalizing b with
    | nil =>
      obtain ⟨-, split, -⟩ := step b ready
      apply Drains.nothing
      cases found : (take b).1 with
      | none => rfl
      | some m => simp [hms, found] at split
    | cons m ms ih =>
      obtain ⟨ready', split, empty⟩ := step b ready
      cases found : (take b).1 with
      | none =>
        rw [hms] at empty
        exact absurd (empty found) (List.cons_ne_nil m ms)
      | some m' =>
        rw [hms, found] at split
        obtain ⟨rfl, rest⟩ := List.cons_eq_cons.1 split
        exact .message found (ih ready' rest.symm)

namespace Listening

variable {older sent : List Message} {p : Nat} (h : Listening b name filter older sent p)
include h

/-- What is there, by the position of the subscriber. -/
theorem waiting_eq : b.waiting name =
    (sent.drop (max p (sent.length - b.channel.size))).filter
      fun m => filter.wants m.announcement := by
  have oldest := h.oldest
  have from' : (older ++ sent).length - b.channel.size + (older.length + p - b.channel.oldest) =
      older.length + max p (sent.length - b.channel.size) := by
    rw [← oldest, ← h.reached]
    omega
  rw [waiting, h.here]
  dsimp only
  rw [h.keeps.kept, List.drop_drop, from', List.drop_length_add_append]

theorem behind_iff : b.Behind name ↔ p + b.channel.size < sent.length := by
  have oldest := h.oldest
  rw [List.length_append] at oldest
  have here : b.Behind name ↔ older.length + p < b.channel.oldest := by
    simp [Behind, h.here]
  rw [here]
  omega

/-- A search from where the ring lets the subscriber stand finds what is there. -/
theorem search :
    let wanted := fun m : Message => filter.wants m.announcement
    let q := max p (sent.length - b.channel.size)
    let after := b.advance name ⟨older.length + (q + passed wanted (sent.drop q))⟩
    (∃ p', Listening after name filter older sent p' ∧ sent.length ≤ p' + after.channel.size) ∧
      b.waiting name = ((sent.drop q).find? wanted).toList ++ after.waiting name ∧
      ((sent.drop q).find? wanted = none → b.waiting name = []) := by
  intro wanted q after
  have search := Advances.search wanted b.channel.size h.within
  have listening : Listening after name filter older sent (q + passed wanted (sent.drop q)) :=
    h.advance rfl search.within
  have close : sent.length ≤ q + passed wanted (sent.drop q) + b.channel.size := by omega
  refine ⟨⟨_, listening, close⟩, ?_, ?_⟩
  · have stands : max (q + passed wanted (sent.drop q)) (sent.length - after.channel.size) =
        q + passed wanted (sent.drop q) := by
      change max _ (sent.length - b.channel.size) = _
      omega
    rw [h.waiting_eq, listening.waiting_eq, stands, ← List.drop_drop]
    exact filter_eq_find?_append wanted (sent.drop q)
  · intro none
    rw [h.waiting_eq]
    exact List.filter_eq_nil_iff.2 (List.find?_eq_none.1 none)

/-- Waiting drains what is there, from wherever the subscriber stands. -/
theorem drains_waitFor (ms : List Message) :
    Drains (waitFor name) b ms ↔ ms = b.waiting name := by
  apply drains_iff (fun b => ∃ p, Listening b name filter older sent p)
    (fun b => b.waiting name) _ ⟨p, h⟩
  rintro b ⟨p, h⟩
  obtain ⟨⟨p', listening, -⟩, split, empty⟩ := h.search
  rw [waitFor, h.receive_eq, message?_delivery]
  exact ⟨⟨p', listening⟩, split, empty⟩

/-- Trying drains what is there once the ring has not passed the subscriber. -/
theorem drains_tryFor (close : sent.length ≤ p + b.channel.size) (ms : List Message) :
    Drains (tryFor name) b ms ↔ ms = b.waiting name := by
  apply drains_iff
    (fun b => ∃ p, Listening b name filter older sent p ∧ sent.length ≤ p + b.channel.size)
    (fun b => b.waiting name) _ ⟨p, h, close⟩
  rintro b ⟨p, h, close⟩
  have stands : max p (sent.length - b.channel.size) = p := by omega
  have search := h.search
  rw [stands] at search
  rw [tryFor, h.tryReceive_reached close]
  exact search

/-- A try of a subscriber that the ring has passed moves it up to what is there. -/
theorem tryFor_behind (lag : p + b.channel.size < sent.length) :
    (b.tryReceive name).1 = none ∧
      ∃ q, Listening (b.tryReceive name).2 name filter older sent q ∧
        sent.length ≤ q + (b.tryReceive name).2.channel.size ∧
        (b.tryReceive name).2.waiting name = b.waiting name := by
  rw [h.tryReceive_passed lag]
  have listening : Listening
      (b.advance name ⟨older.length + (sent.length - b.channel.size)⟩) name filter older sent
      (sent.length - b.channel.size) := h.advance rfl (by omega)
  refine ⟨rfl, _, listening, ?_, ?_⟩
  · change sent.length ≤ _ + b.channel.size
    omega
  · rw [listening.waiting_eq, h.waiting_eq]
    congr 2
    change max _ (sent.length - b.channel.size) = _
    omega

theorem tryReceive_none_iff :
    (b.tryReceive name).1 = none ↔ b.waiting name = [] ∨ b.Behind name := by
  rw [h.behind_iff]
  by_cases lag : p + b.channel.size < sent.length
  · simp [lag, (h.tryFor_behind lag).1]
  · have stands : max p (sent.length - b.channel.size) = p := by omega
    rw [h.tryReceive_reached (by omega), h.waiting_eq, stands]
    simp [lag, List.find?_eq_none, List.filter_eq_nil_iff]

end Listening

/-- What a subscriber gets by waiting and what by trying, whatever happened on the bus since it
subscribed. It has read what was published up to some number, and what is there for it is what it
wants of the rest, as far as the ring, which has room for the least power of two that is not below
the capacity, still keeps it. Waiting until nothing is there hands over exactly that, and so does
trying if the ring has not passed the subscriber. If it has, the first try finds nothing although
all of it is there, and the tries that follow hand it over. -/
theorem waiting_and_trying (capacity : Nat) (before moves : List Move) (name : String)
    (filter : Filter) (leaves : ∀ m ∈ moves, m.Leaves name) :
    let start := ((ofCapacity capacity).run before).subscribe name filter
    let now := start.run moves
    let sent := published moves
    let size := 2 ^ Nat.clog 2 (max capacity 1)
    (∃ p ≤ sent.length,
      now.subscriber? name = some ⟨name, filter, ⟨start.channel.sent + p⟩⟩ ∧
      now.waiting name =
        (sent.drop (max p (sent.length - size))).filter (fun m => filter.wants m.announcement) ∧
      (now.Behind name ↔ p + size < sent.length)) ∧
    ((now.tryReceive name).1 = none ↔ now.waiting name = [] ∨ now.Behind name) ∧
    (∀ ms, Drains (waitFor name) now ms ↔ ms = now.waiting name) ∧
    (¬ now.Behind name → ∀ ms, Drains (tryFor name) now ms ↔ ms = now.waiting name) ∧
    (now.Behind name →
      ∀ ms, Drains (tryFor name) (now.tryReceive name).2 ms ↔ ms = now.waiting name) := by
  intro start now sent size
  obtain ⟨older, keeps⟩ := run_keeps (b := ofCapacity capacity) (keeps_ofCapacity _) before
  have listening : Listening start name filter older [] 0 := .subscribe keeps
  obtain ⟨taken, p, s⟩ := Subscription.run listening leaves
  have h : Listening now name filter older sent p := s.listening
  have room : now.channel.size = size := by
    rw [size_run]
    exact (size_run (ofCapacity capacity) before).trans (size_ofCapacity _)
  have since : start.channel.sent = older.length := keeps.sent
  refine ⟨⟨p, h.within, ?_, ?_, ?_⟩, h.tryReceive_none_iff, h.drains_waitFor, ?_, ?_⟩
  · rw [since]
    exact h.here
  · rw [← room]
    exact h.waiting_eq
  · rw [← room]
    exact h.behind_iff
  · intro reached
    rw [h.behind_iff] at reached
    exact h.drains_tryFor (by omega)
  · intro behind
    obtain ⟨-, q, listening, close, same⟩ := h.tryFor_behind (h.behind_iff.1 behind)
    rw [← same]
    exact listening.drains_tryFor close

/-- Three messages are published on a bus that keeps two. Two are there for the subscriber, which
waiting hands over, and a try finds nothing. -/
theorem hidden_from_slow_subscriber :
    let up (device : String) : Message := ⟨.deviceUp device 0, ⟨"", none, "health", 0⟩⟩
    let moves : List Move := [.publish (up "p1"), .publish (up "p2"), .publish (up "p3")]
    let now := ((ofCapacity 2).subscribe "log" .health).run moves
    (∀ m ∈ moves, m.Leaves "log") ∧ now.Behind "log" ∧
      Drains (waitFor "log") now [up "p2", up "p3"] ∧ (now.tryReceive "log").1 = none ∧
      Drains (tryFor "log") (now.tryReceive "log").2 [up "p2", up "p3"] := by
  intro up moves now
  have leaves : ∀ m ∈ moves, m.Leaves "log" := by simp [moves, Move.Leaves]
  have behind : now.Behind "log" := ⟨_, rfl, by decide⟩
  have there : now.waiting "log" = [up "p2", up "p3"] := by
    unfold now moves up
    rfl
  obtain ⟨-, none_iff, waits, -, later⟩ := waiting_and_trying 2 [] moves "log" .health leaves
  exact ⟨leaves, behind, (waits _).2 there.symm, none_iff.2 (.inr behind),
    (later behind _).2 there.symm⟩

end FieldGateway.Bus
