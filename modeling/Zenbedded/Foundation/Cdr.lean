import Mathlib.Data.List.Basic
import Zenbedded.Foundation.Bytes
import Zenbedded.Foundation.Alignment

namespace Zenbedded.Foundation.Cdr

/-! # Little-endian CDR (XCDR1)

A reference encoder and a reference reader for the classic CDR format, built
from the same few shapes: primitives aligned to their own size, strings whose
length counts the terminating NUL, and sequences prefixed by their element
count.  Positions count from the end of the four-byte encapsulation header.

Padding bytes carry no meaning, so the encoder takes them from an arbitrary
`pad`.  `Reads` is the contract between the two halves; it composes along
`andThen` and the reader's bind.
-/

/-- What an encoder appends when it stands at a given position. -/
abbrev Emitter := Nat → Bytes

namespace Emitter

def raw (bytes : Bytes) : Emitter := fun _ => bytes

def andThen (first second : Emitter) : Emitter := fun position =>
  first position ++ second (position + (first position).length)

def endsAt (emitter : Emitter) (position : Nat) : Nat := position + (emitter position).length

def align (pad : Nat → UInt8) (alignment : Nat) : Emitter := fun position =>
  (List.range (padding alignment position)).map fun index => pad (position + index)

def primitive (pad : Nat → UInt8) {bits : Nat} (word : BitVec bits) : Emitter :=
  (align pad (bits / 8)).andThen (raw (wordBytes word))

def string (pad : Nat → UInt8) (text : Bytes) : Emitter :=
  (primitive pad (BitVec.ofNat 32 (text.length + 1))).andThen (raw (text ++ [0]))

def elements (element : α → Emitter) : List α → Emitter
  | [] => raw []
  | head :: rest => (element head).andThen (elements element rest)

def sequence (pad : Nat → UInt8) (element : α → Emitter) (values : List α) : Emitter :=
  (primitive pad (BitVec.ofNat 32 values.length)).andThen (elements element values)

@[simp] theorem raw_apply (bytes : Bytes) (position : Nat) : raw bytes position = bytes := rfl

theorem andThen_apply (first second : Emitter) (position : Nat) :
    first.andThen second position = first position ++ second (first.endsAt position) := rfl

theorem andThen_congr {first other : Emitter} {position : Nat}
    (same : first position = other position) (second : Emitter) :
    first.andThen second position = other.andThen second position := by
  simp only [andThen, same]

theorem andThen_assoc (first second third : Emitter) :
    (first.andThen second).andThen third = first.andThen (second.andThen third) := by
  funext position
  simp [andThen, List.length_append, Nat.add_assoc]

@[simp] theorem raw_nil_andThen (emitter : Emitter) : (raw []).andThen emitter = emitter := by
  funext position
  simp [andThen]

@[simp] theorem andThen_raw_nil (emitter : Emitter) : emitter.andThen (raw []) = emitter := by
  funext position
  simp [andThen]

@[simp] theorem endsAt_raw (bytes : Bytes) (position : Nat) :
    (raw bytes).endsAt position = position + bytes.length := rfl

theorem endsAt_andThen (first second : Emitter) (position : Nat) :
    (first.andThen second).endsAt position = second.endsAt (first.endsAt position) := by
  simp [endsAt, andThen, List.length_append, Nat.add_assoc]

@[simp] theorem align_length (pad : Nat → UInt8) (alignment position : Nat) :
    (align pad alignment position).length = padding alignment position := by simp [align]

@[simp] theorem endsAt_align (pad : Nat → UInt8) (alignment position : Nat) :
    (align pad alignment).endsAt position = alignTo alignment position := by
  simp [endsAt, alignTo]

theorem align_of_dvd {alignment position : Nat} (pad : Nat → UInt8)
    (aligned : alignment ∣ position) : align pad alignment position = [] := by
  simp [align, padding_of_dvd aligned]

@[simp] theorem endsAt_primitive (pad : Nat → UInt8) {bits : Nat} (word : BitVec bits)
    (position : Nat) :
    (primitive pad word).endsAt position = alignTo (bits / 8) position + bits / 8 := by
  simp [primitive, endsAt_andThen]

@[simp] theorem endsAt_string (pad : Nat → UInt8) (text : Bytes) (position : Nat) :
    (string pad text).endsAt position = alignTo 4 position + 4 + (text.length + 1) := by
  simp [string, endsAt_andThen]

theorem endsAt_sequence (pad : Nat → UInt8) (element : α → Emitter) (values : List α)
    (position : Nat) :
    (sequence pad element values).endsAt position =
      (elements element values).endsAt (alignTo 4 position + 4) := by
  simp [sequence, endsAt_andThen]

theorem primitive_of_dvd {bits : Nat} (pad : Nat → UInt8) (word : BitVec bits) {position : Nat}
    (aligned : bits / 8 ∣ position) : primitive pad word position = wordBytes word := by
  simp [primitive, andThen, align_of_dvd pad aligned]

/-- An array of aligned primitives needs no padding between its elements. -/
theorem elements_primitive {bits : Nat} (pad : Nat → UInt8) (words : List (BitVec bits))
    {position : Nat} (aligned : bits / 8 ∣ position) :
    elements (primitive pad) words position = arrayBytes words := by
  induction words generalizing position with
  | nil => rfl
  | cons word rest ih =>
      have next : bits / 8 ∣ position + bits / 8 := Nat.dvd_add aligned (Nat.dvd_refl _)
      have here := primitive_of_dvd pad word aligned
      rw [elements, andThen_apply, here, arrayBytes_cons, endsAt, here, wordBytes_length, ih next]

/-- A non-empty sequence of primitives is its count, one padding, and the raw array. -/
theorem sequence_primitive {bits : Nat} (pad : Nat → UInt8) (positive : 0 < bits / 8)
    {words : List (BitVec bits)} (nonempty : words ≠ []) :
    sequence pad (primitive pad) words =
      ((primitive pad (BitVec.ofNat 32 words.length)).andThen (align pad (bits / 8))).andThen
        (raw (arrayBytes words)) := by
  cases words with
  | nil => exact absurd rfl nonempty
  | cons word rest =>
      rw [sequence, andThen_assoc]
      congr 1
      funext position
      have aligned := alignTo_dvd positive position
      have next : bits / 8 ∣ alignTo (bits / 8) position + bits / 8 :=
        Nat.dvd_add aligned (Nat.dvd_refl _)
      rw [elements, primitive, andThen_assoc, andThen_apply, andThen_apply, andThen_apply,
        endsAt_raw, endsAt_align, wordBytes_length, elements_primitive pad rest next]
      rfl

end Emitter

def encapsulation : Bytes := [0x00, 0x01, 0x00, 0x00]

def encode (body : Emitter) : Bytes := encapsulation ++ body 0

structure Stream where
  position : Nat
  rest : Bytes
deriving Repr, DecidableEq

abbrev Reader := StateT Stream Option

namespace Reader

def take (count : Nat) : Reader Bytes := fun stream =>
  if count ≤ stream.rest.length then
    some (stream.rest.take count, ⟨stream.position + count, stream.rest.drop count⟩)
  else none

def align (alignment : Nat) : Reader Bytes := fun stream =>
  take (padding alignment stream.position) stream

def primitive (bits : Nat) : Reader (BitVec bits) := do
  let _ ← align (bits / 8)
  let bytes ← take (bits / 8)
  return ofWordBytes bits bytes

/-- The last byte of a string has to be its NUL; the text comes before it. -/
def untilNul (bytes : Bytes) : Option Bytes :=
  if bytes.getLast? = some 0 then some bytes.dropLast else none

def string : Reader Bytes := do
  let length ← primitive 32
  let bytes ← take length.toNat
  fun stream => (untilNul bytes).map (·, stream)

def elements (element : Reader α) : Nat → Reader (List α)
  | 0 => pure []
  | count + 1 => do
      let head ← element
      let rest ← elements element count
      return head :: rest

def sequence (element : Reader α) : Reader (List α) := do
  let count ← primitive 32
  elements element count.toNat

end Reader

/-- Reading a payload: the header has to announce little-endian CDR, and bytes
after the body are ignored. -/
def decode (body : Reader α) : Bytes → Option α
  | 0x00 :: 0x01 :: _ :: _ :: rest => (body ⟨0, rest⟩).map Prod.fst
  | _ => none

/-- `reader` consumes exactly what `emitter` produced and returns `value`. -/
def Reads (reader : Reader α) (emitter : Emitter) (value : α) : Prop :=
  ∀ position rest, reader ⟨position, emitter position ++ rest⟩ =
    some (value, ⟨emitter.endsAt position, rest⟩)

namespace Reads

theorem pure (value : α) : Reads (Pure.pure value) (Emitter.raw []) value := by
  intro position rest
  rfl

theorem bind {first : Reader α} {next : α → Reader β} {head tail : Emitter} {value : α}
    {result : β} (left : Reads first head value) (right : Reads (next value) tail result) :
    Reads (first >>= next) (head.andThen tail) result := by
  intro position rest
  have start := left position (tail (head.endsAt position) ++ rest)
  have finish := right (head.endsAt position) rest
  simp only [Bind.bind, StateT.bind, Emitter.andThen_apply, List.append_assoc, start,
    Option.bind_some, finish, Emitter.endsAt_andThen]

theorem map {reader : Reader α} {emitter : Emitter} {value : α} (f : α → β)
    (reads : Reads reader emitter value) :
    Reads (reader >>= fun found => Pure.pure (f found)) emitter (f value) := by
  have mapped : Reads (reader >>= fun found => Pure.pure (f found))
      (emitter.andThen (Emitter.raw [])) (f value) := reads.bind (Reads.pure (f value))
  rwa [Emitter.andThen_raw_nil] at mapped

theorem take (bytes : Bytes) : Reads (Reader.take bytes.length) (Emitter.raw bytes) bytes := by
  intro position rest
  simp [Reader.take, Emitter.endsAt]

theorem align (pad : Nat → UInt8) (alignment position : Nat) (rest : Bytes) :
    Reader.align alignment ⟨position, Emitter.align pad alignment position ++ rest⟩ =
      some (Emitter.align pad alignment position, ⟨alignTo alignment position, rest⟩) := by
  have taken := take (Emitter.align pad alignment position) position rest
  rw [Emitter.align_length] at taken
  simpa only [Reader.align, alignTo, Emitter.align_length, Emitter.raw_apply,
    Emitter.endsAt_raw] using taken

theorem primitive {bits : Nat} (whole : bits % 8 = 0) (pad : Nat → UInt8) (word : BitVec bits) :
    Reads (Reader.primitive bits) (Emitter.primitive pad word) word := by
  intro position rest
  have body := take (wordBytes word) (alignTo (bits / 8) position) rest
  simp only [wordBytes_length, Emitter.raw_apply, Emitter.endsAt_raw] at body
  simp only [Reader.primitive, Emitter.primitive, Emitter.andThen_apply, List.append_assoc,
    Bind.bind, StateT.bind, align pad, Option.bind_some, Emitter.endsAt_align, Emitter.raw_apply,
    body, Emitter.endsAt_andThen, Emitter.endsAt_raw, wordBytes_length]
  rw [ofWordBytes_wordBytes whole]
  rfl

theorem string (pad : Nat → UInt8) {text : Bytes} (short : text.length + 1 < 2 ^ 32) :
    Reads Reader.string (Emitter.string pad text) text := by
  apply (primitive (by decide) pad (BitVec.ofNat 32 (text.length + 1))).bind
  rw [BitVec.toNat_ofNat, Nat.mod_eq_of_lt short]
  intro position rest
  have body := take (text ++ [0]) position rest
  simp only [List.length_append, List.length_cons, List.length_nil, Nat.zero_add] at body
  simp only [Bind.bind, StateT.bind, body, Option.bind_some, Reader.untilNul,
    List.getLast?_concat, List.dropLast_concat, ↓reduceIte, Option.map_some]

theorem elements {reader : Reader α} {element : α → Emitter} {values : List α}
    (reads : ∀ value ∈ values, Reads reader (element value) value) :
    Reads (Reader.elements reader values.length) (Emitter.elements element values) values := by
  induction values with
  | nil => exact pure []
  | cons head rest ih =>
      have tail := ih (fun value member => reads value (List.mem_cons_of_mem _ member))
      exact (reads head (List.mem_cons_self ..)).bind (tail.map (head :: ·))

theorem sequence (pad : Nat → UInt8) {reader : Reader α} {element : α → Emitter}
    {values : List α} (short : values.length < 2 ^ 32)
    (reads : ∀ value ∈ values, Reads reader (element value) value) :
    Reads (Reader.sequence reader) (Emitter.sequence pad element values) values := by
  apply (primitive (by decide) pad (BitVec.ofNat 32 values.length)).bind
  rw [BitVec.toNat_ofNat, Nat.mod_eq_of_lt short]
  exact elements reads

end Reads

theorem decode_encode {reader : Reader α} {body : Emitter} {value : α}
    (reads : Reads reader body value) (trailing : Bytes) :
    decode reader (encode body ++ trailing) = some value := by
  have read := reads 0 trailing
  simp only [encode, encapsulation, decode, List.cons_append, List.nil_append, read,
    Option.map_some]

end Zenbedded.Foundation.Cdr
