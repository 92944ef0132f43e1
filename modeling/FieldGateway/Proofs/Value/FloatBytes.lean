import FieldGateway.Proofs.Event.Layout
import FieldGateway.Proofs.Floating.Literals
import FieldGateway.Proofs.Text.Base64
import FieldGateway.Value.Codec

/-
  Floating-point numbers given by their bytes. Four bytes and eight do not come in groups of three,
  so their text in base 64 is filled up, and no number is written with the filler: the two ways to
  write a number do not meet (`readNumber_encode`). So every pattern of bits is read from its bytes
  as it is, and a text that is not one of bytes is read if and only if the grammar has it
  (`Value.reads_floats`).
-/

namespace FieldGateway

open FieldGateway.Floating FieldGateway.Text

section

variable {f : Format} {size : Nat}

/-- Bytes that do not come in groups of three are not written like a number. -/
theorem not_literal_encode {bytes : List UInt8} (spare : bytes.length % 3 ≠ 0) :
    ¬ Literal (Base64.encode bytes) := by
  intro h
  exact h.no_filler (Base64.filler_mem_encode bytes spare)

theorem readNumber_encode (f : Format) {bytes : List UInt8} (spare : bytes.length % 3 ≠ 0) :
    readNumber f (Base64.encode bytes) = none := by
  rw [← Option.not_isSome_iff_eq_none, isSome_readNumber]
  exact not_literal_encode spare

theorem readFloatBytes_encode (width : f.width = 8 * size) (b : BitVec f.width) :
    readFloatBytes f size (Base64.encode (bytesOfWord size b.toNat)) = some ⟨b⟩ := by
  have fits : b.toNat < twoPow (8 * size) := width ▸ b.isLt
  have word : BitVec.ofNat f.width b.toNat = b := by simp
  simp only [readFloatBytes, Base64.decode_encode, Option.bind_eq_bind, Option.bind_some,
    length_bytesOfWord, if_true, wordOfBytes_bytesOfWord size fits, word]

theorem readFloatBytes_eq_none {s : List Char}
    (other : ∀ bytes : List UInt8, bytes.length = size → s ≠ Base64.encode bytes) :
    readFloatBytes f size s = none := by
  unfold readFloatBytes
  cases read : Base64.decode s with
  | none => rfl
  | some bytes =>
    have long : bytes.length ≠ size :=
      fun length => other bytes length (Base64.eq_encode_of_decode read)
    simp [long]

end

/-- How a type of floating-point numbers is read from wire text. -/
structure Value.ReadsFloats (t : ScalarType) (f : Format) (size : Nat) (value : Number f → Value) :
    Prop where
  /-- The text of bytes is not the text of a number. -/
  apart (b : BitVec f.width) : ¬ Literal (Base64.encode (bytesOfWord size b.toNat))
  /-- Whatever the bits are, they are read from the text of their bytes, blanks around it
  ignored. -/
  bytes (b : BitVec f.width) (before after : List Char) :
    (∀ c ∈ before, isBlank c = true) → (∀ c ∈ after, isBlank c = true) →
    Value.decode (.scalar t)
      (String.ofList (before ++ Base64.encode (bytesOfWord size b.toNat) ++ after)) =
        some (value ⟨b⟩)
  /-- Any other text is read if it is the text of a number, as that number. -/
  others {raw : String} :
    (∀ b : List UInt8, b.length = size → trimChars raw.toList ≠ Base64.encode b) →
    Value.decode (.scalar t) raw = (readNumber f (trimChars raw.toList)).map value ∧
      ((Value.decode (.scalar t) raw).isSome ↔ Literal (trimChars raw.toList))

/-- A type whose texts are tried as numbers first and as bytes then. -/
theorem Value.ReadsFloats.of_read {t : ScalarType} {f : Format} {size : Nat}
    {value : Number f → Value} (width : f.width = 8 * size) (spare : size % 3 ≠ 0)
    (read : ∀ raw : String, Value.decode (.scalar t) raw =
      ((readNumber f (trimChars raw.toList)).or
        (readFloatBytes f size (trimChars raw.toList))).map value) :
    Value.ReadsFloats t f size value := by
  have spare' (b : BitVec f.width) : (bytesOfWord size b.toNat).length % 3 ≠ 0 := by
    rw [length_bytesOfWord]
    exact spare
  refine ⟨?_, ?_, ?_⟩
  · intro b
    exact not_literal_encode (spare' b)
  · intro b before after hb ha
    have trimmed : trimChars (before ++ Base64.encode (bytesOfWord size b.toNat) ++ after) =
        Base64.encode (bytesOfWord size b.toNat) :=
      trimChars_append hb ha (Base64.not_blank_of_mem_encode _)
    rw [read, String.toList_ofList, trimmed, readNumber_encode f (spare' b), Option.none_or,
      readFloatBytes_encode width, Option.map_some]
  · intro raw other
    have number : Value.decode (.scalar t) raw =
        (readNumber f (trimChars raw.toList)).map value := by
      rw [read, readFloatBytes_eq_none other, Option.or_none]
    refine ⟨number, ?_⟩
    rw [number, Option.isSome_map, isSome_readNumber]

/-- Both types of floating-point numbers are read from their little-endian bytes in base 64 with
exactly the bits given, those of a NaN included, because no such text is a number. Every other text
is read if and only if, blanks around it ignored, it is a number. -/
theorem Value.reads_floats :
    ReadsFloats .float32 .single 4 (scalar .float32) ∧
      ReadsFloats .float64 .double 8 (scalar .float64) := by
  constructor
  · exact .of_read rfl (by decide) fun _ => rfl
  · exact .of_read rfl (by decide) fun _ => rfl

/-- A NaN with a payload, a line end behind its bytes. -/
theorem Value.reads_nan_payload :
    let nan : BitVec Format.single.width := 0x7fc00001#32
    Value.decode (.scalar .float32) (String.ofList ("AQDAfw==".toList ++ ['\n'])) =
      some (scalar .float32 ⟨nan⟩) ∧ ¬ Literal "AQDAfw==".toList := by
  intro nan
  have text : Base64.encode (bytesOfWord 4 nan.toNat) = "AQDAfw==".toList := by decide
  have apart := reads_floats.1.apart nan
  have bytes := reads_floats.1.bytes nan [] ['\n'] (List.forall_mem_nil _)
    (List.forall_mem_singleton.2 rfl)
  rw [text] at apart bytes
  exact ⟨bytes, apart⟩

end FieldGateway
