import FieldGateway.Bus.Basic
import FieldGateway.Proofs.Bus.Channel
import Mathlib.Data.List.Induction

/-
  What a subscriber gets. A subscriber stands at a position in what was published since it
  subscribed. A move of the bus takes it on (`Advances`): past what the ring has lost, past what it
  does not want, and past the message it is handed. So after any run what it got is, in the order
  of publication, what it wanted up to where it stands, but for messages that the ring had lost
  before it reached them (`Subscription`, `subscriber_gets`).
-/

namespace FieldGateway.Bus

open Channel

/-! ## Runs -/

/-- What can happen on a bus. -/
inductive Move where
  | publish (m : Message)
  | subscribe (name : String) (filter : Filter)
  | unsubscribe (name : String)
  | receive (name : String)
  | tryReceive (name : String)
  | close

def move (b : Bus) : Move → Bus
  | .publish m => (b.publish m).2
  | .subscribe name filter => b.subscribe name filter
  | .unsubscribe name => b.unsubscribe name
  | .receive name => (b.receive name).2
  | .tryReceive name => (b.tryReceive name).2
  | .close => b.close

def run (b : Bus) (moves : List Move) : Bus := moves.foldl move b

def Delivery.message? : Delivery → Option Message
  | .message m => some m
  | .pending | .closed => none

/-- The message a move hands to the subscriber of a name. -/
def handed (b : Bus) (name : String) : Move → Option Message
  | .receive other => if other = name then (b.receive name).1.message? else none
  | .tryReceive other => if other = name then (b.tryReceive name).1 else none
  | _ => none

/-- The messages a run hands to the subscriber of a name. -/
def received (b : Bus) (name : String) : List Move → List Message
  | [] => []
  | m :: moves => (b.handed name m).toList ++ (b.move m).received name moves

/-- What a move publishes. -/
def Move.published? : Move → Option Message
  | .publish m => some m
  | _ => none

def published (moves : List Move) : List Message := moves.filterMap Move.published?

/-- A move that leaves the subscriber of the name subscribed, and does not subscribe it anew. -/
def Move.Leaves (name : String) : Move → Prop
  | .subscribe other _ | .unsubscribe other => other ≠ name
  | _ => True

/-- The ring lost this message before the subscriber reached it: at some time the subscriber stood
at it or before it, and as many messages as the ring keeps had been published after it. -/
def Missed (start : Bus) (name : String) (moves : List Move) (i : Nat) : Prop :=
  ∃ earlier, earlier <+: moves ∧
    (∃ s, (start.run earlier).subscriber? name = some s ∧
      s.receiver.next ≤ start.channel.sent + i) ∧
    i + start.channel.size < (published earlier).length

variable {b start : Bus} {name other : String} {filter : Filter}

theorem run_concat (b : Bus) (moves : List Move) (m : Move) :
    b.run (moves ++ [m]) = (b.run moves).move m := List.foldl_concat ..

theorem published_concat (moves : List Move) (m : Move) :
    published (moves ++ [m]) = published moves ++ m.published?.toList := by
  cases h : m.published? <;> simp [published, h]

theorem received_concat (b : Bus) (name : String) (moves : List Move) (m : Move) :
    b.received name (moves ++ [m]) =
      b.received name moves ++ ((b.run moves).handed name m).toList := by
  induction moves generalizing b with
  | nil => simp [received, run]
  | cons first moves ih =>
    rw [List.cons_append, received, ih, received, List.append_assoc]
    rfl

theorem Missed.concat {moves : List Move} {i : Nat} (h : Missed start name moves i) (m : Move) :
    Missed start name (moves ++ [m]) i := by
  obtain ⟨earlier, before, position, lost⟩ := h
  exact ⟨earlier, before.trans (List.prefix_append _ _), position, lost⟩

/-- What a subscriber gets that found a message, or none. -/
def delivery (closed : Bool) : Option Message → Delivery
  | some m => .message m
  | none => if closed then .closed else .pending

@[simp] theorem message?_delivery (closed : Bool) (found : Option Message) :
    (delivery closed found).message? = found := by
  cases found <;> cases closed <;> rfl

/-! ## Subscribers -/

theorem subscriber?_unsubscribe_of_ne (h : other ≠ name) :
    (b.unsubscribe other).subscriber? name = b.subscriber? name := by
  unfold subscriber? unsubscribe
  rw [List.find?_filter]
  congr 1
  funext s
  by_cases hs : s.name = name <;> simp [hs, h.symm]

theorem subscriber?_unsubscribe : (b.unsubscribe name).subscriber? name = none := by
  simp [subscriber?, unsubscribe]

theorem subscriber?_subscribe :
    (b.subscribe name filter).subscriber? name = some ⟨name, filter, b.channel.subscribe⟩ := by
  have gone : (b.unsubscribe name).subscriber? name = none := subscriber?_unsubscribe
  unfold subscriber? at gone ⊢
  rw [subscribe, List.find?_append, gone]
  simp

theorem subscriber?_subscribe_of_ne (h : other ≠ name) :
    (b.subscribe other filter).subscriber? name = b.subscriber? name := by
  have kept := subscriber?_unsubscribe_of_ne (b := b) h
  unfold subscriber? at kept ⊢
  rw [subscribe, List.find?_append, kept]
  simp [h]

theorem subscriber?_advance (other : String) (r : Receiver) :
    (b.advance other r).subscriber? name =
      (b.subscriber? name).map fun s =>
        if s.name == other then { s with receiver := r } else s := by
  unfold subscriber? advance
  rw [List.find?_map]
  congr 2
  funext s
  dsimp only [Function.comp]
  split <;> rfl

theorem subscriber?_advance_of_ne (h : other ≠ name) (r : Receiver) :
    (b.advance other r).subscriber? name = b.subscriber? name := by
  rw [subscriber?_advance]
  cases hs : b.subscriber? name with
  | none => rfl
  | some s =>
    have : s.name = name := by simpa using List.find?_some hs
    simp [this, h.symm]

/-- A receiver is moved on and the rest of the bus stays, if there is the subscriber at all. -/
theorem receive_advances (b : Bus) (name : String) :
    (b.receive name).2 = b ∨ ∃ r, (b.receive name).2 = b.advance name r := by
  unfold receive
  cases b.subscriber? name with
  | none => exact .inl rfl
  | some s => exact .inr ⟨_, rfl⟩

theorem tryReceive_advances (b : Bus) (name : String) :
    (b.tryReceive name).2 = b ∨ ∃ r, (b.tryReceive name).2 = b.advance name r := by
  unfold tryReceive
  cases b.subscriber? name with
  | none => exact .inl rfl
  | some s => exact .inr ⟨_, rfl⟩

/-! ## Positions -/

/-- A subscriber goes on in what was sent from one position to another and is handed what it wants
of the last message it passes; any other message it wants that it passes was lost. -/
structure Advances (wanted : Message → Bool) (sent : List Message) (size p p' : Nat)
    (got : Option Message) : Prop where
  forward : p ≤ p'
  within : p' ≤ sent.length
  last {m : Message} : got = some m → p < p' ∧ sent[p' - 1]? = some m ∧ wanted m
  others {i : Nat} {m : Message} : p ≤ i → i < p' → sent[i]? = some m → wanted m →
    i + size < sent.length ∨ got.isSome ∧ i + 1 = p'

section Advances

variable {wanted : Message → Bool} {sent : List Message} {size p q : Nat}

theorem Advances.stays (h : p ≤ sent.length) : Advances wanted sent size p p none :=
  ⟨Nat.le_refl p, h, nofun, fun hi hi' => by omega⟩

/-- The ring moves the subscriber up. -/
theorem Advances.lag (h : p ≤ q) (lost : q ≤ max p (sent.length - size))
    (within : q ≤ sent.length) : Advances wanted sent size p q none :=
  ⟨h, within, nofun, fun hi hi' _ _ => .inl (by omega)⟩

/-- The subscriber is moved up and searches from there on. -/
theorem Advances.search (wanted : Message → Bool) (size : Nat) (h : p ≤ sent.length) :
    let q := max p (sent.length - size)
    Advances wanted sent size p (q + passed wanted (sent.drop q)) ((sent.drop q).find? wanted) := by
  intro q
  have hq : q ≤ sent.length := by omega
  have left : (sent.drop q).length = sent.length - q := List.length_drop
  cases found : (sent.drop q).find? wanted with
  | none =>
    have unwanted := List.find?_eq_none.1 found
    have end' : passed wanted (sent.drop q) = sent.length - q := by
      rw [passed, List.findIdx_eq_length_of_false (by simpa using unwanted)]
      omega
    refine ⟨by omega, by omega, nofun, fun {i m} hi hi' hm hw => ?_⟩
    by_cases lost : i < q
    · exact .inl (by omega)
    · have : m ∈ sent.drop q := by
        refine List.mem_iff_getElem?.2 ⟨i - q, ?_⟩
        rw [List.getElem?_drop, ← hm]
        congr 1
        omega
      exact absurd hw (unwanted m this)
  | some m =>
    obtain ⟨hm, k, hk, at', before⟩ := List.find?_eq_some_iff_getElem.1 found
    have index : (sent.drop q).findIdx wanted = k :=
      (List.findIdx_eq hk).2 ⟨at' ▸ hm, fun j hj => by simpa using before j hj⟩
    have end' : passed wanted (sent.drop q) = k + 1 := by
      rw [passed, index]
      omega
    have there : sent[q + k]? = some m := by
      rw [← List.getElem?_drop, List.getElem?_eq_getElem hk, at']
    refine ⟨by omega, by omega, fun hm' => ?_, fun {i x} hi hi' hx hw => ?_⟩
    · cases hm'
      refine ⟨by omega, ?_, hm⟩
      rw [end', ← Nat.add_assoc, Nat.add_sub_cancel, there]
    · by_cases lost : i < q
      · exact .inl (by omega)
      by_cases last : i + 1 = q + passed wanted (sent.drop q)
      · exact .inr ⟨rfl, last⟩
      · -- what comes before the message that is found is not wanted
        have hj : i - q < k := by omega
        have there : (sent.drop q)[i - q] = x := by
          rw [List.getElem_drop, ← Option.some_inj, ← List.getElem?_eq_getElem, ← hx]
          congr 1
          omega
        have := before (i - q) hj
        rw [there, hw] at this
        cases this

end Advances

/-- The subscriber of the name stands at a position in what was sent since it subscribed. -/
structure Listening (b : Bus) (name : String) (filter : Filter) (older sent : List Message)
    (p : Nat) : Prop where
  keeps : b.channel.Keeps (older ++ sent)
  here : b.subscriber? name = some ⟨name, filter, ⟨older.length + p⟩⟩
  within : p ≤ sent.length

namespace Listening

variable {older sent : List Message} {p : Nat} (h : Listening b name filter older sent p)
include h

theorem oldest : b.channel.oldest = (older ++ sent).length - b.channel.size := h.keeps.oldest

/-- Where the ring lets the subscriber stand. -/
theorem reached : max (older.length + p) b.channel.oldest =
    older.length + max p (sent.length - b.channel.size) := by
  rw [h.oldest, List.length_append]
  omega

theorem advance {r : Receiver} {q : Nat} (hr : r.next = older.length + q) (hq : q ≤ sent.length) :
    Listening (b.advance name r) name filter older sent q := by
  obtain ⟨next⟩ := r
  cases hr
  refine ⟨h.keeps, ?_, hq⟩
  rw [subscriber?_advance, h.here]
  simp

theorem receive_eq :
    let q := max p (sent.length - b.channel.size)
    let wanted := fun m : Message => filter.wants m.announcement
    b.receive name = (delivery b.channel.closed ((sent.drop q).find? wanted),
      b.advance name ⟨older.length + (q + passed wanted (sent.drop q))⟩) := by
  intro q wanted
  have found := receiveNext_eq wanted h.keeps ⟨older.length + p⟩
  dsimp only at found
  rw [h.reached, List.drop_length_add_append, Nat.add_assoc] at found
  rw [receive, h.here]
  dsimp only
  rw [found]
  rfl

/-- A try of a subscriber that the ring has passed only moves it up. -/
theorem tryReceive_passed (lag : p + b.channel.size < sent.length) :
    b.tryReceive name =
      (none, b.advance name ⟨older.length + (sent.length - b.channel.size)⟩) := by
  have oldest := h.oldest
  rw [List.length_append] at oldest
  have up : b.channel.oldest = older.length + (sent.length - b.channel.size) := by omega
  have behind : older.length + p < b.channel.oldest := by omega
  rw [tryReceive, h.here]
  dsimp only
  rw [remaining, tryReceive_behind (by exact behind), up]

/-- A try of any other subscriber gets what waiting gets. -/
theorem tryReceive_reached (close : sent.length ≤ p + b.channel.size) :
    let wanted := fun m : Message => filter.wants m.announcement
    b.tryReceive name = ((sent.drop p).find? wanted,
      b.advance name ⟨older.length + (p + passed wanted (sent.drop p))⟩) := by
  intro wanted
  have enough := h.keeps.remaining ⟨older.length + p⟩
  have oldest := h.oldest
  rw [List.length_append] at oldest
  rw [tryReceive, h.here]
  dsimp only at enough ⊢
  rw [Channel.tryReceive_reached h.keeps (by dsimp only; omega),
    receiveNext_reached h.keeps (by dsimp only; omega) (by dsimp only; omega)]
  dsimp only
  rw [List.drop_length_add_append, Nat.add_assoc]

/-- A try gets the same, unless the ring has passed the subscriber. -/
theorem tryReceive_eq :
    let q := max p (sent.length - b.channel.size)
    let wanted := fun m : Message => filter.wants m.announcement
    b.tryReceive name = (none, b.advance name ⟨older.length + q⟩) ∨
    b.tryReceive name = ((sent.drop q).find? wanted,
      b.advance name ⟨older.length + (q + passed wanted (sent.drop q))⟩) := by
  intro q wanted
  by_cases lag : p + b.channel.size < sent.length
  · have up : q = sent.length - b.channel.size := by omega
    rw [up]
    exact .inl (h.tryReceive_passed lag)
  · have up : q = p := by omega
    rw [up]
    exact .inr (h.tryReceive_reached (by omega))

theorem publish (m : Message) : Listening (b.publish m).2 name filter older (sent ++ [m]) p := by
  have : b.subscribers.isEmpty = false := by
    cases hs : b.subscribers with
    | nil => exact absurd h.here (by simp [subscriber?, hs])
    | cons => rfl
  rw [Bus.publish, this]
  refine ⟨?_, h.here, ?_⟩
  · rw [← List.append_assoc]
    exact h.keeps.send m
  · rw [List.length_append]
    exact Nat.le_add_right_of_le h.within

/-- A move of another subscriber. -/
theorem others {t : Bus} (hc : t.channel = b.channel)
    (hs : t.subscriber? name = b.subscriber? name) : Listening t name filter older sent p :=
  ⟨hc ▸ h.keeps, hs.trans h.here, h.within⟩

theorem advance_of_ne (hn : other ≠ name) {b' : Bus}
    (h' : b' = b ∨ ∃ r, b' = b.advance other r) : Listening b' name filter older sent p := by
  obtain rfl | ⟨r, rfl⟩ := h'
  · exact h
  · exact h.others rfl (subscriber?_advance_of_ne hn r)

/-- One move takes the subscriber on. -/
theorem move {m : Move} (leaves : m.Leaves name) :
    ∃ p', Listening (b.move m) name filter older (sent ++ m.published?.toList) p' ∧
      Advances (fun m => filter.wants m.announcement) sent b.channel.size p p'
        (b.handed name m) := by
  cases m with
  | publish m => exact ⟨p, h.publish m, .stays h.within⟩
  | subscribe other f =>
    have kept := h.others (t := b.subscribe other f) rfl (subscriber?_subscribe_of_ne leaves)
    exact ⟨p, by simpa [Move.published?, Bus.move] using kept, .stays h.within⟩
  | unsubscribe other =>
    have kept := h.others (t := b.unsubscribe other) rfl (subscriber?_unsubscribe_of_ne leaves)
    exact ⟨p, by simpa [Move.published?, Bus.move] using kept, .stays h.within⟩
  | close =>
    exact ⟨p, by simpa [Move.published?] using ⟨h.keeps.close true, h.here, h.within⟩,
      .stays h.within⟩
  | receive other =>
    simp only [Move.published?, Option.toList_none, List.append_nil, Bus.move, handed]
    by_cases hn : other = name
    · subst hn
      have search := Advances.search (fun m => filter.wants m.announcement) b.channel.size
        h.within
      rw [if_pos rfl, h.receive_eq, message?_delivery]
      exact ⟨_, h.advance rfl search.within, search⟩
    · rw [if_neg hn]
      exact ⟨p, h.advance_of_ne hn (receive_advances b other), .stays h.within⟩
  | tryReceive other =>
    simp only [Move.published?, Option.toList_none, List.append_nil, Bus.move, handed]
    by_cases hn : other = name
    · subst hn
      have search := Advances.search (fun m => filter.wants m.announcement) b.channel.size
        h.within
      rw [if_pos rfl]
      rcases h.tryReceive_eq with behind | reached
      · have := h.within
        rw [behind]
        exact ⟨_, h.advance rfl (by omega),
          .lag (Nat.le_max_left _ _) (Nat.le_refl _) (by omega)⟩
      · rw [reached]
        exact ⟨_, h.advance rfl search.within, search⟩
    · rw [if_neg hn]
      exact ⟨p, h.advance_of_ne hn (tryReceive_advances b other), .stays h.within⟩

end Listening

/-! ## Subscriptions -/

@[simp] theorem size_move (b : Bus) (m : Move) : (b.move m).channel.size = b.channel.size := by
  cases m with
  | publish m =>
    rw [move, publish]
    split <;> rfl
  | receive name =>
    obtain h | ⟨r, h⟩ := receive_advances b name <;> rw [move, h]
    rfl
  | tryReceive name =>
    obtain h | ⟨r, h⟩ := tryReceive_advances b name <;> rw [move, h]
    rfl
  | subscribe name filter | unsubscribe name | close => rfl

theorem size_run (b : Bus) (moves : List Move) : (b.run moves).channel.size = b.channel.size := by
  induction moves generalizing b with
  | nil => rfl
  | cons m moves ih => exact (ih (b.move m)).trans (size_move b m)

theorem move_keeps {log : List Message} (h : b.channel.Keeps log) (m : Move) :
    ∃ log, (b.move m).channel.Keeps log := by
  cases m with
  | publish m =>
    rw [move, publish]
    split
    · exact ⟨log, h⟩
    · exact ⟨_, h.send m⟩
  | receive name =>
    obtain h' | ⟨r, h'⟩ := receive_advances b name <;> rw [move, h'] <;> exact ⟨log, h⟩
  | tryReceive name =>
    obtain h' | ⟨r, h'⟩ := tryReceive_advances b name <;> rw [move, h'] <;> exact ⟨log, h⟩
  | subscribe name filter | unsubscribe name => exact ⟨log, h⟩
  | close => exact ⟨log, h.close true⟩

/-- Whatever happens on a bus, its ring keeps the end of what was sent. -/
theorem run_keeps {log : List Message} (h : b.channel.Keeps log) (moves : List Move) :
    ∃ log, (b.run moves).channel.Keeps log := by
  induction moves generalizing b log with
  | nil => exact ⟨log, h⟩
  | cons m moves ih =>
    obtain ⟨log', h'⟩ := move_keeps h m
    exact ih h'

theorem Listening.subscribe {older : List Message} (h : b.channel.Keeps older) :
    Listening (b.subscribe name filter) name filter older [] 0 := by
  refine ⟨by rw [List.append_nil]; exact h, ?_, Nat.le_refl 0⟩
  rw [subscriber?_subscribe, Channel.subscribe, h.sent]
  rfl

/-- What a subscriber got by a run since it subscribed: the numbers of the messages it took of
those published, and the number it stands at. -/
structure Subscription (start : Bus) (name : String) (filter : Filter) (older : List Message)
    (moves : List Move) (taken : List Nat) (p : Nat) : Prop where
  listening : Listening (start.run moves) name filter older (published moves) p
  increasing : taken.Pairwise (· < ·)
  below : ∀ i ∈ taken, i < p
  received : (start.received name moves).map some = taken.map ((published moves)[·]?)
  wanted : ∀ m ∈ start.received name moves, filter.wants m.announcement
  complete {i : Nat} {m : Message} : i < p → (published moves)[i]? = some m →
    filter.wants m.announcement → i ∈ taken ∨ Missed start name moves i

namespace Subscription

variable {older : List Message} {moves : List Move} {taken : List Nat} {p : Nat}

theorem subscribed (h : Listening start name filter older [] 0) :
    Subscription start name filter older [] [] 0 :=
  ⟨h, .nil, nofun, rfl, nofun, fun hi => absurd hi (Nat.not_lt_zero _)⟩

/-- A move takes at most one message more. -/
theorem move (sent : start.channel.sent = older.length)
    (h : Subscription start name filter older moves taken p) {m : Move} (leaves : m.Leaves name) :
    ∃ taken p, Subscription start name filter older (moves ++ [m]) taken p := by
  obtain ⟨p', listening, advances⟩ := h.listening.move leaves
  have old {i : Nat} (hi : i < p') :
      (published (moves ++ [m]))[i]? = (published moves)[i]? := by
    rw [published_concat, List.getElem?_append_left]
    exact Nat.lt_of_lt_of_le hi advances.within
  -- what the move passes over and does not hand over was lost before
  have passed {i : Nat} {x : Message} (hi : i < p') (hx : (published (moves ++ [m]))[i]? = some x)
      (hw : filter.wants x.announcement) :
      i ∈ taken ∨ Missed start name (moves ++ [m]) i ∨
        ((start.run moves).handed name m).isSome ∧ i + 1 = p' := by
    rw [old hi] at hx
    by_cases before : i < p
    · rcases h.complete before hx hw with ht | missed
      · exact .inl ht
      · exact .inr (.inl (missed.concat m))
    · rcases advances.others (by omega) hi hx hw with lost | last
      · refine .inr (.inl ⟨moves, List.prefix_append _ _, ⟨_, h.listening.here, ?_⟩, ?_⟩)
        · dsimp only
          omega
        · rwa [size_run] at lost
      · exact .inr (.inr last)
  have forward := advances.forward
  have numbers : taken.map ((published (moves ++ [m]))[·]?) = taken.map ((published moves)[·]?) :=
    List.map_congr_left fun i hi => old (Nat.lt_of_lt_of_le (h.below i hi) forward)
  rw [← published_concat, ← run_concat] at listening
  cases got : (start.run moves).handed name m with
  | none =>
    refine ⟨taken, p', listening, h.increasing, fun i hi => ?_, ?_, ?_, fun hi hx hw => ?_⟩
    · exact Nat.lt_of_lt_of_le (h.below i hi) forward
    · rw [received_concat, got, numbers]
      simpa using h.received
    · rw [received_concat, got]
      simpa using h.wanted
    · rcases passed hi hx hw with ht | missed | ⟨some', -⟩
      · exact .inl ht
      · exact .inr missed
      · rw [got] at some'
        cases some'
  | some x =>
    obtain ⟨further, there, wants⟩ := advances.last got
    refine ⟨taken ++ [p' - 1], p', listening, ?_, fun i hi => ?_, ?_, fun y hy => ?_,
      fun {i y} hi hx hw => ?_⟩
    · refine List.pairwise_append.2 ⟨h.increasing, List.pairwise_singleton _ _, ?_⟩
      intro i hi j hj
      have := h.below i hi
      cases List.mem_singleton.1 hj
      omega
    · rcases List.mem_append.1 hi with ht | last
      · exact Nat.lt_of_lt_of_le (h.below i ht) forward
      · cases List.mem_singleton.1 last
        omega
    · rw [received_concat, got, List.map_append, List.map_append, numbers, h.received,
        List.map_singleton, old (by omega), there]
      rfl
    · rw [received_concat, got] at hy
      rcases List.mem_append.1 hy with hy | hy
      · exact h.wanted y hy
      · cases List.mem_singleton.1 hy
        exact wants
    · rcases passed hi hx hw with ht | missed | ⟨-, last⟩
      · exact .inl (List.mem_append_left _ ht)
      · exact .inr missed
      · refine .inl (List.mem_append_right _ (List.mem_singleton.2 ?_))
        omega

theorem run (listening : Listening start name filter older [] 0)
    (leaves : ∀ m ∈ moves, m.Leaves name) :
    ∃ taken p, Subscription start name filter older moves taken p := by
  have sent : start.channel.sent = older.length := by
    rw [listening.keeps.sent, List.append_nil]
  induction moves using List.reverseRecOn with
  | nil => exact ⟨[], 0, subscribed listening⟩
  | append_singleton moves m ih =>
    obtain ⟨taken, p, h⟩ := ih fun x hx => leaves x (List.mem_append_left _ hx)
    exact h.move sent (leaves m (List.mem_append_right _ (List.mem_singleton.2 rfl)))

/-- The subscriber also passed what the ring has lost by now. -/
theorem reached (h : Subscription start name filter older moves taken p)
    (sent : start.channel.sent = older.length) {i : Nat} {m : Message}
    (hi : i < max p ((published moves).length - start.channel.size))
    (hm : (published moves)[i]? = some m) (hw : filter.wants m.announcement) :
    i ∈ taken ∨ Missed start name moves i := by
  by_cases before : i < p
  · exact h.complete before hm hw
  · refine .inr ⟨moves, List.prefix_rfl, ⟨_, h.listening.here, ?_⟩, by omega⟩
    dsimp only
    omega

end Subscription

/-- What a subscriber gets, whatever happens on a bus after it subscribed, to it and to others.
The ring has room for the least power of two that is not below the capacity. What the subscriber
got are messages that were published since, each at most once and in that order, and it wanted
all of them. What it wanted of those before the number it stands at, it got or the ring lost it
before the subscriber reached it. What it gets next is the first message from there on that it
wants, if there is one, also when the bus is closed. -/
theorem subscriber_gets (capacity : Nat) (before moves : List Move) (name : String)
    (filter : Filter) (leaves : ∀ m ∈ moves, m.Leaves name) :
    let start := ((ofCapacity capacity).run before).subscribe name filter
    let now := start.run moves
    let sent := published moves
    start.channel.size = 2 ^ Nat.clog 2 (max capacity 1) ∧
    ∃ (taken : List Nat) (next : Nat),
      taken.Pairwise (· < ·) ∧ (∀ i ∈ taken, i < next) ∧
      (start.received name moves).map some = taken.map (sent[·]?) ∧
      (∀ m ∈ start.received name moves, filter.wants m.announcement) ∧
      (∀ i m, i < next → sent[i]? = some m → filter.wants m.announcement →
        i ∈ taken ∨ Missed start name moves i) ∧
      (now.receive name).1 = match (sent.drop next).find? fun m => filter.wants m.announcement with
        | some m => .message m
        | none => if now.channel.closed then .closed else .pending := by
  intro start now sent
  obtain ⟨older, keeps⟩ := run_keeps (b := ofCapacity capacity) (keeps_ofCapacity _) before
  have listening : Listening start name filter older [] 0 := .subscribe keeps
  have size : start.channel.size = 2 ^ Nat.clog 2 (max capacity 1) :=
    (size_run (ofCapacity capacity) before).trans (size_ofCapacity _)
  obtain ⟨taken, p, h⟩ := Subscription.run listening leaves
  have within : start.channel.sent = older.length := keeps.sent
  refine ⟨size, taken, max p (sent.length - start.channel.size), h.increasing,
    fun i hi => ?_, h.received, h.wanted, fun i m => h.reached within, ?_⟩
  · exact Nat.lt_of_lt_of_le (h.below i hi) (Nat.le_max_left _ _)
  · rw [h.listening.receive_eq, size_run]
    rfl

/-- Three messages are published on a bus that keeps two: the subscriber gets the second, and the
first was lost before the subscriber reached it. -/
theorem slow_subscriber :
    let up (device : String) : Message := ⟨.deviceUp device 0, ⟨"", none, "health", 0⟩⟩
    let moves : List Move :=
      [.publish (up "p1"), .publish (up "p2"), .publish (up "p3"), .receive "log"]
    let start := (ofCapacity 2).subscribe "log" .health
    (∀ m ∈ moves, m.Leaves "log") ∧ start.received "log" moves = [up "p2"] ∧
      Missed start "log" moves 0 := by
  intro up moves start
  have leaves : ∀ m ∈ moves, m.Leaves "log" := by simp [moves, Move.Leaves]
  have got : start.received "log" moves = [up "p2"] := by
    unfold start moves up
    rfl
  obtain ⟨-, taken, next, -, below, received, -, complete, -⟩ :=
    subscriber_gets 2 [] moves "log" .health leaves
  obtain ⟨i, rfl, second⟩ : ∃ i, taken = [i] ∧ (published moves)[i]? = some (up "p2") := by
    have : taken.map ((published moves)[·]?) = [some (up "p2")] := by
      rw [← received]
      exact congrArg (List.map some) got
    obtain ⟨i, rest, rfl, hi, hrest⟩ := List.map_eq_cons_iff.1 this
    exact ⟨i, by rw [List.map_eq_nil_iff.1 hrest], hi⟩
  have first : (published moves)[0]? = some (up "p1") := rfl
  have other : i ≠ 0 := by
    rintro rfl
    have : up "p1" = up "p2" := Option.some_inj.1 (first.symm.trans second)
    simp [up] at this
  have : i < next := below i (List.mem_singleton_self i)
  rcases complete 0 _ (by omega) first rfl with taken | missed
  · exact absurd (List.mem_singleton.1 taken).symm other
  · exact ⟨leaves, got, missed⟩

end FieldGateway.Bus
