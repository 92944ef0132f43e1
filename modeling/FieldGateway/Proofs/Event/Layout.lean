import FieldGateway.Event.Layout
import FieldGateway.Proofs.Json.Members

/-
  Events as bytes: what is written in front of any bytes is read back and these are left, as long
  as all lengths fit their eight bytes. It makes no difference in which order the entries of a map
  were written (`listing_codec`). The one thing that is lost is a JSON value: a reading that has an
  object, and with it the whole event, is refused (`event_codec`). Whatever is read is read in the
  same way when more bytes follow (`Local.event`).
-/

namespace FieldGateway

/-! ## Words -/

theorem length_bytesOfWord (count n : Nat) : (bytesOfWord count n).length = count := by
  induction count generalizing n with
  | zero => rfl
  | succ count ih => rw [bytesOfWord, List.length_cons, ih]

theorem wordOfBytes_bytesOfWord (count : Nat) {n : Nat} (h : n < twoPow (8 * count)) :
    wordOfBytes (bytesOfWord count n) = n := by
  induction count generalizing n with
  | zero =>
    rw [Nat.lt_one_iff.1 h]
    rfl
  | succ count ih =>
    have high : n / 256 < twoPow (8 * count) := by
      have more : twoPow (8 * (count + 1)) = 256 * twoPow (8 * count) := by
        rw [Nat.mul_succ, twoPow, Nat.pow_eq, Nat.pow_add, Nat.mul_comm]
        rfl
      exact Nat.div_lt_of_lt_mul (more ▸ h)
    have low : (UInt8.ofNat (n % 256)).toNat = n % 256 :=
      UInt8.toNat_ofNat_of_lt' (Nat.mod_lt _ (by decide))
    have step : wordOfBytes (bytesOfWord (count + 1) n) =
        (UInt8.ofNat (n % 256)).toNat + 256 * wordOfBytes (bytesOfWord count (n / 256)) := rfl
    rw [step, ih high, low]
    omega

namespace Event.Layout

open FieldGateway.Text

theorem takeBytes_append (b rest : List UInt8) :
    takeBytes b.length (b ++ rest) = some (b, rest) := by
  simp [takeBytes]

theorem length_putWord (n : Nat) (rest : List UInt8) :
    (putWord n rest).length = 8 + rest.length := by
  rw [putWord, List.length_append, length_bytesOfWord]

theorem takeWord_putWord {n : Nat} (h : n < twoPow 64) (rest : List UInt8) :
    takeWord (putWord n rest) = some (n, rest) := by
  have bytes := takeBytes_append (bytesOfWord 8 n) rest
  rw [length_bytesOfWord] at bytes
  rw [takeWord, putWord, bytes, Option.map_some, wordOfBytes_bytesOfWord 8 h]

theorem length_putBytes (b rest : List UInt8) :
    (putBytes b rest).length = 8 + b.length + rest.length := by
  rw [putBytes, length_putWord, List.length_append]
  omega

theorem takeCounted_putBytes {b rest : List UInt8} (h : b.length < twoPow 64) :
    takeCounted (putBytes b rest) = some (b, rest) := by
  rw [takeCounted, putBytes, takeWord_putWord h]
  exact takeBytes_append b rest

/-- Bytes whose number is a word. -/
def Fits (bytes : List UInt8) : Prop := bytes.length < twoPow 64

/-- `take` reads the value of what `put` wrote, except for things that are lost: these it refuses. -/
structure Codec {α β : Type} (take : Take β) (put : α → List UInt8 → List UInt8) (value : α → β)
    (lost : α → Bool) : Prop where
  grows : ∀ x rest, rest.length ≤ (put x rest).length
  back : ∀ x rest, Fits (put x rest) →
    take (put x rest) = if lost x then none else some (value x, rest)

/-- What is written in one way only is its own value. -/
abbrev Itself {α : Type} : α → α := fun x => x

/-- No such thing is lost. -/
def Kept {α : Type} : α → Bool := fun _ => false

namespace Codec

variable {α β γ : Type} {take : Take β} {put : α → List UInt8 → List UInt8} {value : α → β}
  {lost : α → Bool}

theorem fits (c : Codec take put value lost) {x : α} {rest : List UInt8} (h : Fits (put x rest)) :
    Fits rest :=
  Nat.lt_of_le_of_lt (c.grows x rest) h

theorem congr (c : Codec take put value lost) {value' : α → β} {lost' : α → Bool}
    (hv : ∀ x, value x = value' x) (hl : ∀ x, lost x = lost' x) : Codec take put value' lost' :=
  funext hv ▸ funext hl ▸ c

/-- Reading on behind a thing that is not lost. -/
theorem bind (c : Codec take put value lost) {x : α} {rest : List UInt8} (hx : lost x = false)
    (h : Fits (put x rest)) {f : β × List UInt8 → Option γ} {g : Option γ}
    (next : Fits rest → f (value x, rest) = g) : (take (put x rest) >>= f) = g := by
  rw [c.back x rest h, hx]
  exact next (c.fits h)

theorem option (c : Codec take put value lost) :
    Codec (takeOption take) (putOption put) (·.map value) (fun o => o.any lost) where
  grows := by
    rintro (_ | x) rest
    · simp [putOption]
    · have := c.grows x rest
      simp only [putOption, List.length_cons]
      omega
  back := by
    rintro (_ | x) rest h
    · rfl
    · have inner : Fits (put x rest) := Nat.lt_of_succ_lt h
      rw [putOption, takeOption, c.back x rest inner, Option.any_some]
      cases lost x <;> rfl

theorem many (c : Codec take put value lost) (xs : List α) (rest : List UInt8)
    (h : Fits (xs.foldr put rest)) :
    takeMany take xs.length (xs.foldr put rest) =
      if xs.any lost then none else some (xs.map value, rest) := by
  induction xs with
  | nil => rfl
  | cons x xs ih =>
    rw [List.length_cons, takeMany, List.foldr_cons, List.any_cons]
    cases hx : lost x with
    | true => rw [c.back _ _ h, hx]; rfl
    | false =>
      refine c.bind hx h fun inner => ?_
      dsimp only
      rw [ih inner, Bool.false_or]
      split <;> rfl

theorem length_foldr (grows : ∀ x rest, rest.length < (put x rest).length) (xs : List α)
    (rest : List UInt8) : xs.length + rest.length ≤ (xs.foldr put rest).length := by
  induction xs with
  | nil => simp
  | cons x xs ih =>
    have := grows x (xs.foldr put rest)
    rw [List.length_cons, List.foldr_cons]
    omega

/-- Things that take a byte each at least, so that their number is a word. -/
theorem list (c : Codec take put value lost)
    (grows : ∀ x rest, rest.length < (put x rest).length) :
    Codec (takeList take) (putList put) (·.map value) (fun xs => xs.any lost) where
  grows xs rest := by
    have := length_foldr grows xs rest
    rw [putList, length_putWord]
    omega
  back xs rest h := by
    have inner : Fits (xs.foldr put rest) := by
      rw [putList] at h
      exact Nat.lt_of_le_of_lt (by rw [length_putWord]; omega) h
    have count : xs.length < twoPow 64 :=
      Nat.lt_of_le_of_lt (by have := length_foldr grows xs rest; omega) inner
    rw [putList, takeList, takeWord_putWord count]
    exact c.many xs rest inner

end Codec

theorem option_kept {α : Type} {take : Take α} {put : α → List UInt8 → List UInt8}
    (c : Codec take put Itself Kept) : Codec (takeOption take) (putOption put) Itself Kept :=
  c.option.congr (fun o => by simp) fun o => by cases o <;> rfl

/-! ## Fields -/

theorem bytes_codec : Codec takeCounted putBytes Itself Kept where
  grows b rest := by rw [length_putBytes]; omega
  back b rest h := by
    rw [Fits, length_putBytes] at h
    exact takeCounted_putBytes (by omega)

theorem length_putText (s : String) (rest : List UInt8) :
    rest.length < (putText s rest).length := by
  rw [putText, length_putBytes]
  omega

theorem text_codec : Codec takeText putText Itself Kept where
  grows s rest := Nat.le_of_lt (length_putText s rest)
  back s rest h := by
    refine bytes_codec.bind rfl h fun _ => ?_
    dsimp only
    rw [ofUtf8?_utf8]
    rfl

theorem int64_codec : Codec takeInt64 putInt64 Itself Kept where
  grows i rest := by rw [putInt64, length_putWord]; omega
  back i rest _ := by
    rw [takeInt64, putInt64, takeWord_putWord i.toUInt64.toNat_lt, Option.map_some,
      UInt64.ofNat_toNat, Int64.toInt64_toUInt64]
    rfl

theorem type_codec : Codec takeType putType Itself Kept where
  grows t rest := text_codec.grows t.name rest
  back t rest h := by
    refine text_codec.bind rfl h fun _ => ?_
    dsimp only
    rw [ValueType.ofName_name]
    rfl

theorem entry_codec : Codec takeEntry putEntry Itself Kept where
  grows e rest := by
    have := length_putText e.1 (putText e.2 rest)
    have := length_putText e.2 rest
    rw [putEntry]
    omega
  back e rest h := by
    refine text_codec.bind rfl h fun h => ?_
    exact text_codec.bind rfl h fun _ => rfl

theorem length_putEntry (e : String × String) (rest : List UInt8) :
    rest.length < (putEntry e rest).length :=
  Nat.lt_of_le_of_lt (text_codec.grows e.2 rest) (length_putText e.1 _)

theorem entries_codec : Codec (takeList takeEntry) (putList putEntry) Itself Kept :=
  (entry_codec.list length_putEntry).congr (fun _ => List.map_id _) fun _ =>
    List.any_eq_false.2 fun _ _ => Bool.false_ne_true

/-- A map is read whatever the listing that was written. -/
theorem listing_codec (m : TextMap) :
    Codec takeTextMap (fun l : m.Listing => putListing l) (fun _ => m) Kept where
  grows l rest := entries_codec.grows l.entries rest
  back l rest h := by
    rw [takeTextMap, putListing, entries_codec.back l.entries rest h]
    exact congrArg (fun m => some (m, rest)) (Dict.ofList_of_perm l.perm)

mutual

theorem length_putJson : ∀ (j : Json) (rest : List UInt8), rest.length ≤ (putJson j rest).length
  | .null, rest => Nat.le_of_eq (by rw [putJson])
  | .bool _, rest => by rw [putJson, List.length_cons]; omega
  | .num (.whole i), rest => by rw [putJson, length_putWord]; omega
  | .num (.real x), rest => by rw [putJson, length_putWord]; omega
  | .str s, rest => by rw [putJson]; exact text_codec.grows s rest
  | .arr xs, rest => by
    have := length_putItems xs rest
    rw [putJson, length_putWord]
    omega
  | .obj ms, rest => by
    have := length_putMembers ms rest
    rw [putJson, length_putWord]
    omega

theorem length_putItems :
    ∀ (xs : List Json) (rest : List UInt8), rest.length ≤ (putItems xs rest).length
  | [], rest => Nat.le_of_eq (by rw [putItems])
  | x :: xs, rest => by
    rw [putItems]
    exact Nat.le_trans (length_putItems xs rest) (length_putJson x _)

theorem length_putMembers :
    ∀ (ms : List (String × Json)) (rest : List UInt8), rest.length ≤ (putMembers ms rest).length
  | [], rest => Nat.le_of_eq (by rw [putMembers])
  | (k, v) :: ms, rest => by
    rw [putMembers]
    exact Nat.le_trans (Nat.le_trans (length_putMembers ms rest) (length_putJson v _))
      (text_codec.grows k _)

end

/-- A JSON value is never read back. -/
theorem json_codec : Codec takeJson putJson Itself (fun _ => true) where
  grows := length_putJson
  back _ _ _ := rfl

/-! ## Readings and events -/

theorem length_putReading (l : Reading.Listed) (rest : List UInt8) :
    rest.length < (putReading l rest).length := by
  obtain ⟨r, listing⟩ := l
  have tags := (listing_codec r.tags).grows listing rest
  have units := Nat.le_trans tags (text_codec.option.grows r.units _)
  have object := Nat.le_trans units (json_codec.option.grows r.object _)
  have mediaType := Nat.le_trans object (text_codec.option.grows r.mediaType _)
  have binary := Nat.le_trans mediaType (bytes_codec.option.grows r.binary _)
  have value := Nat.le_trans binary (text_codec.option.grows r.value _)
  have type := Nat.le_trans value (type_codec.grows r.type _)
  have profile := Nat.le_trans type (text_codec.grows r.profile _)
  have resource := Nat.le_trans profile (text_codec.grows r.resource _)
  have device := Nat.le_trans resource (text_codec.grows r.device _)
  have origin := Nat.le_trans device (int64_codec.grows r.origin _)
  exact Nat.lt_of_le_of_lt origin (length_putText r.id _)

/-- A reading is lost with its object. -/
theorem reading_codec :
    Codec takeReading putReading (·.reading) (fun l => l.reading.object.isSome) where
  grows l rest := Nat.le_of_lt (length_putReading l rest)
  back l rest h := by
    obtain ⟨r, listing⟩ := l
    have object_codec : Codec (takeOption takeJson) (putOption putJson) Itself Option.isSome :=
      json_codec.option.congr (fun o => by simp) fun o => by cases o <;> rfl
    refine text_codec.bind rfl h fun h => ?_
    refine int64_codec.bind rfl h fun h => ?_
    refine text_codec.bind rfl h fun h => ?_
    refine text_codec.bind rfl h fun h => ?_
    refine text_codec.bind rfl h fun h => ?_
    refine type_codec.bind rfl h fun h => ?_
    refine (option_kept text_codec).bind rfl h fun h => ?_
    refine (option_kept bytes_codec).bind rfl h fun h => ?_
    refine (option_kept text_codec).bind rfl h fun h => ?_
    dsimp only
    cases lost : r.object.isSome with
    | true =>
      rw [object_codec.back r.object _ h, lost]
      rfl
    | false =>
      refine object_codec.bind lost h fun h => ?_
      refine (option_kept text_codec).bind rfl h fun h => ?_
      exact (listing_codec r.tags).bind rfl h fun _ => rfl

/-- An event is lost with a reading. -/
theorem event_codec (listings : Listings) :
    Codec takeEvent (fun e => putEvent e listings) Itself
      (fun e => e.readings.any fun r => r.object.isSome) where
  grows e rest := by
    have readings_codec := reading_codec.list length_putReading
    have tags := (listing_codec e.tags).grows (listings 0 e.tags) rest
    have readings := Nat.le_trans tags (readings_codec.grows (e.listed listings) _)
    have origin := Nat.le_trans readings (int64_codec.grows e.origin _)
    have source := Nat.le_trans origin (text_codec.grows e.source _)
    have profile := Nat.le_trans source (text_codec.grows e.profile _)
    have device := Nat.le_trans profile (text_codec.grows e.device _)
    exact Nat.le_trans device (text_codec.grows e.id _)
  back e rest h := by
    have readings_codec := reading_codec.list length_putReading
    have lose : (e.listed listings).any (fun l => l.reading.object.isSome) =
        e.readings.any fun r => r.object.isSome := by
      rw [← e.map_reading_listed listings, List.any_map]
      rfl
    refine text_codec.bind rfl h fun h => ?_
    refine text_codec.bind rfl h fun h => ?_
    refine text_codec.bind rfl h fun h => ?_
    refine text_codec.bind rfl h fun h => ?_
    refine int64_codec.bind rfl h fun h => ?_
    dsimp only
    cases lost : e.readings.any fun r => r.object.isSome with
    | true =>
      rw [readings_codec.back (e.listed listings) _ h, lose, lost]
      rfl
    | false =>
      refine readings_codec.bind (lose.trans lost) h fun h => ?_
      refine (listing_codec e.tags).bind rfl h fun _ => ?_
      dsimp only
      rw [Event.map_reading_listed]
      rfl

/-! ## What follows -/

/-- What is read does not depend on what follows it. -/
structure Local {α : Type} (take : Take α) : Prop where
  behind {bytes rest : List UInt8} {x : α} : take bytes = some (x, rest) →
    ∀ more, take (bytes ++ more) = some (x, rest ++ more)

namespace Local

variable {α β : Type} {take : Take α}

theorem pure (x : α) : Local fun bytes => some (x, bytes) := ⟨by rintro _ _ _ ⟨⟩ _; rfl⟩

theorem bind (h : Local take) {f : α × List UInt8 → Option (β × List UInt8)}
    (hf : ∀ x, Local fun bytes => f (x, bytes)) : Local fun bytes => take bytes >>= f where
  behind {bytes rest y} hy more := by
    obtain ⟨⟨x, between⟩, hx, hy⟩ := Option.bind_eq_some_iff.1 hy
    rw [h.behind hx more]
    exact (hf x).behind hy more

theorem map (h : Local take) (g : α → β) :
    Local fun bytes => (take bytes).map fun p => (g p.1, p.2) where
  behind {bytes rest y} hy more := by
    obtain ⟨⟨x, between⟩, hx, hy⟩ := Option.map_eq_some_iff.1 hy
    cases hy
    rw [h.behind hx more]
    rfl

/-- What was read is looked up, or refused. -/
theorem check (o : Option α) {f : α → Take β} (hf : ∀ x, Local (f x)) :
    Local fun bytes => o >>= fun x => f x bytes := by
  cases o with
  | none => exact ⟨nofun⟩
  | some x => exact hf x

theorem bytes (n : Nat) : Local (takeBytes n) where
  behind {bytes rest x} hx more := by
    unfold takeBytes at hx ⊢
    split at hx
    · rename_i enough
      cases hx
      have within : n ≤ bytes.length := by
        rw [List.length_take] at enough
        omega
      rw [List.take_append_of_le_length within, List.drop_append_of_le_length within, if_pos enough]
    · cases hx

theorem word : Local takeWord := (bytes 8).map wordOfBytes

theorem counted : Local takeCounted := word.bind bytes

theorem text : Local takeText := counted.bind fun b => check (ofUtf8? b) pure

theorem int64 : Local takeInt64 := word.map fun n => (UInt64.ofNat n).toInt64

theorem option (h : Local take) : Local (takeOption take) where
  behind {bytes rest x} hx more := by
    unfold takeOption at hx
    split at hx
    · cases hx
      rfl
    · exact (h.map some).behind hx more
    · cases hx

theorem many (h : Local take) (n : Nat) : Local (takeMany take n) := by
  induction n with
  | zero => exact pure []
  | succ n ih => exact h.bind fun x => ih.bind fun xs => pure (x :: xs)

theorem list (h : Local take) : Local (takeList take) := word.bind h.many

theorem entry : Local takeEntry := text.bind fun k => text.bind fun v => pure (k, v)

theorem textMap : Local takeTextMap := entry.list.map Dict.ofList

theorem type : Local takeType := text.bind fun s => check (ValueType.ofName s).toOption pure

theorem json : Local takeJson := ⟨nofun⟩

theorem reading : Local takeReading := by
  refine text.bind fun id => int64.bind fun origin => text.bind fun device => ?_
  refine text.bind fun resource => text.bind fun profile => type.bind fun type => ?_
  refine text.option.bind fun value => counted.option.bind fun binary => ?_
  refine text.option.bind fun mediaType => json.option.bind fun object => ?_
  exact text.option.bind fun units => textMap.bind fun tags => pure _

theorem event : Local takeEvent := by
  refine text.bind fun id => text.bind fun device => text.bind fun profile => ?_
  refine text.bind fun source => int64.bind fun origin => ?_
  exact reading.list.bind fun readings => textMap.bind fun tags => pure _

end Local

end Event.Layout

end FieldGateway
