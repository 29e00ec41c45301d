import Mathlib.Data.Rat.Floor
import Mathlib.Data.List.Basic

namespace Zenbedded.Foundation

/-! # Raw memory

Contents of arrays as byte lists, bounded stores and loads on them, and the
little-endian image of machine words.  A store or a load outside the array is a
`Fault`; it is never silently dropped.
-/

abbrev Bytes := List UInt8

/-- An access outside the array it was made on. -/
inductive Fault where
  | store (index size : Nat)
  | load (index size : Nat)
deriving Repr, DecidableEq

theorem bind_ok_iff {first : Except ε α} {next : α → Except ε β} {result : β} :
    first >>= next = .ok result ↔ ∃ value, first = .ok value ∧ next value = .ok result := by
  cases first with
  | error fault => simp [bind, Except.bind]
  | ok value => simp [bind, Except.bind]

/-- What every step of a run preserves holds at its end. -/
theorem foldlM_invariant {State Event : Type} {step : State → Event → Except ε State}
    (Invariant : State → Prop)
    (preserved : ∀ state event after, Invariant state → step state event = .ok after →
      Invariant after)
    {events : List Event} {state after : State} (start : Invariant state)
    (run : events.foldlM step state = .ok after) : Invariant after := by
  induction events generalizing state with
  | nil =>
      cases run
      exact start
  | cons event events inductionHypothesis =>
      rw [List.foldlM_cons] at run
      obtain ⟨next, first, run⟩ := bind_ok_iff.mp run
      exact inductionHypothesis (preserved state event next start first) run

/-- A counted loop succeeds where each iteration does. -/
theorem foldlM_range_ok {State : Type} (step : State → Nat → Except ε State)
    (Invariant : Nat → State → Prop) (count : Nat)
    (iterate : ∀ index state, index < count → Invariant index state →
      ∃ next, step state index = .ok next ∧ Invariant (index + 1) next)
    {state : State} (start : Invariant 0 state) :
    ∃ after, (List.range count).foldlM step state = .ok after ∧ Invariant count after := by
  induction count with
  | zero => exact ⟨state, rfl, start⟩
  | succ count ih =>
      obtain ⟨before, run, invariant⟩ :=
        ih fun index state inside => iterate index state (Nat.lt_succ_of_lt inside)
      obtain ⟨after, last, done⟩ := iterate count before (Nat.lt_succ_self count) invariant
      refine ⟨after, ?_, done⟩
      rw [List.range_succ, List.foldlM_append, run]
      simp only [bind, Except.bind, List.foldlM_cons, List.foldlM_nil, last]
      rfl

theorem mapM_some_length {Event Seen : Type} {view : Event → Option Seen} {events : List Event}
    {seen : List Seen} (views : events.mapM view = some seen) : seen.length = events.length := by
  induction events generalizing seen with
  | nil =>
      cases views
      rfl
  | cons first events ih =>
      rw [List.mapM_cons] at views
      obtain ⟨head, -, views⟩ := Option.bind_eq_some_iff.mp views
      obtain ⟨tail, tailView, same⟩ := Option.bind_eq_some_iff.mp views
      cases same
      rw [List.length_cons, List.length_cons, ih tailView]

theorem mapM_some_getElem? {Event Seen : Type} {view : Event → Option Seen} {events : List Event}
    {seen : List Seen} (views : events.mapM view = some seen) {index : Nat} {event : Event}
    (here : events[index]? = some event) :
    ∃ sight, view event = some sight ∧ seen[index]? = some sight := by
  induction events generalizing seen index with
  | nil => contradiction
  | cons first events ih =>
      rw [List.mapM_cons] at views
      obtain ⟨head, headView, views⟩ := Option.bind_eq_some_iff.mp views
      obtain ⟨tail, tailView, same⟩ := Option.bind_eq_some_iff.mp views
      cases same
      cases index with
      | zero =>
          cases here
          exact ⟨head, headView, rfl⟩
      | succ index => exact ih tailView here

/-- A counted loop that succeeds went through every iteration. -/
theorem foldlM_range_each {State : Type} {step : State → Nat → Except ε State} {count : Nat}
    {state after : State} (run : (List.range count).foldlM step state = .ok after) :
    ∀ index, index < count → ∃ before next, step before index = .ok next := by
  induction count generalizing after with
  | zero =>
      intro index none
      exact absurd none (Nat.not_lt_zero _)
  | succ count ih =>
      rw [List.range_succ, List.foldlM_append] at run
      obtain ⟨before, first, last⟩ := bind_ok_iff.mp run
      intro index inside
      rcases Nat.lt_or_eq_of_le (Nat.le_of_lt_succ inside) with earlier | rfl
      · exact ih first index earlier
      · rw [List.foldlM_cons] at last
        obtain ⟨next, step, -⟩ := bind_ok_iff.mp last
        exact ⟨before, next, step⟩

theorem mapM_ne_none_iff {Event Seen : Type} {view : Event → Option Seen} {events : List Event} :
    events.mapM view ≠ none ↔ ∀ event ∈ events, view event ≠ none := by
  induction events with
  | nil => simp
  | cons event events ih =>
      rw [List.forall_mem_cons, ← ih, List.mapM_cons]
      cases view event with
      | none => simp
      | some head => cases events.mapM view <;> simp

/-- `step` takes from an event only what `view` sees in it, does `push` with that,
and fails where `view` sees nothing. -/
structure FoldsThrough {State Event Seen : Type} (step : State → Event → Except ε State)
    (view : Event → Option Seen) (push : State → Seen → State) : Prop where
  seen : ∀ state event seen, view event = some seen → step state event = .ok (push state seen)
  unseen : ∀ state event, view event = none → ∃ error, step state event = .error error

namespace FoldsThrough

variable {State Event Seen : Type} {step : State → Event → Except ε State}
  {view : Event → Option Seen} {push : State → Seen → State}

/-- A loop over events sees the list of what each iteration sees. -/
theorem foldlM (each : FoldsThrough step view push) :
    FoldsThrough (fun state (events : List Event) => events.foldlM step state)
      (fun events => events.mapM view) fun state seen => seen.foldl push state where
  seen := by
    intro state events
    induction events generalizing state with
    | nil =>
        rintro seen views
        rw [List.mapM_nil] at views
        cases views
        rfl
    | cons event events ih =>
        intro seen views
        rw [List.mapM_cons] at views
        cases first : view event with
        | none =>
            rw [first] at views
            contradiction
        | some head =>
            cases rest : events.mapM view with
            | none =>
                rw [first, rest] at views
                contradiction
            | some tail =>
                rw [first, rest] at views
                cases views
                have step := each.seen state event head first
                simp only [List.foldlM_cons, step, List.foldl_cons]
                exact ih (push state head) tail rest
  unseen := by
    intro state events
    induction events generalizing state with
    | nil =>
        intro views
        rw [List.mapM_nil] at views
        contradiction
    | cons event events ih =>
        intro views
        rw [List.mapM_cons] at views
        cases first : view event with
        | none =>
            obtain ⟨error, step⟩ := each.unseen state event first
            exact ⟨error, by simp only [List.foldlM_cons, step]; rfl⟩
        | some head =>
            cases rest : events.mapM view with
            | some tail =>
                rw [first, rest] at views
                contradiction
            | none =>
                have step := each.seen state event head first
                obtain ⟨error, later⟩ := ih (push state head) rest
                refine ⟨error, ?_⟩
                simp only [List.foldlM_cons, step]
                exact later

theorem ok_iff (each : FoldsThrough step view push) {state after : State} {event : Event} :
    step state event = .ok after ↔ ∃ seen, view event = some seen ∧ after = push state seen := by
  cases sight : view event with
  | none =>
      obtain ⟨error, failed⟩ := each.unseen state event sight
      rw [failed]
      simp
  | some seen =>
      rw [each.seen state event seen sight]
      simp [eq_comm]

end FoldsThrough

def storeByte (buffer : Bytes) (index : Nat) (byte : UInt8) : Except Fault Bytes :=
  if index < buffer.length then .ok (buffer.set index byte)
  else .error (.store index buffer.length)

/-- `memcpy` into an array: one byte store after the other, lowest index first. -/
def storeBytes (buffer : Bytes) (index : Nat) : Bytes → Except Fault Bytes
  | [] => .ok buffer
  | byte :: rest =>
      match storeByte buffer index byte with
      | .error fault => .error fault
      | .ok next => storeBytes next (index + 1) rest

def loadBytes (buffer : Bytes) (index : Nat) : Nat → Except Fault Bytes
  | 0 => .ok []
  | count + 1 =>
      match buffer[index]? with
      | none => .error (.load index buffer.length)
      | some byte => (loadBytes buffer (index + 1) count).map (byte :: ·)

def overwrite (buffer : Bytes) (index : Nat) (source : Bytes) : Bytes :=
  buffer.take index ++ source ++ buffer.drop (index + source.length)

@[simp] theorem overwrite_nil (buffer : Bytes) (index : Nat) :
    overwrite buffer index [] = buffer := by
  simp [overwrite]

theorem overwrite_length {buffer source : Bytes} {index : Nat}
    (room : index + source.length ≤ buffer.length) :
    (overwrite buffer index source).length = buffer.length := by
  simp only [overwrite, List.length_append, List.length_take, List.length_drop]
  omega

theorem overwrite_set {buffer rest : Bytes} {index : Nat} (byte : UInt8)
    (room : index < buffer.length) :
    overwrite (buffer.set index byte) (index + 1) rest = overwrite buffer index (byte :: rest) := by
  have head : (buffer.set index byte).take (index + 1) = buffer.take index ++ [byte] := by
    rw [List.take_add_one, List.getElem?_set_self room, List.take_set_of_le (Nat.le_refl _)]
    rfl
  have tail : (buffer.set index byte).drop (index + 1 + rest.length) =
      buffer.drop (index + 1 + rest.length) := by
    rw [List.drop_set]
    simp only [show index < index + 1 + rest.length by omega, ↓reduceIte]
  rw [overwrite, head, tail, overwrite]
  simp only [List.length_cons, List.append_assoc, List.cons_append, List.nil_append,
    Nat.add_assoc, Nat.add_comm 1]

theorem storeBytes_ok {buffer source : Bytes} {index : Nat}
    (room : index + source.length ≤ buffer.length) :
    storeBytes buffer index source = .ok (overwrite buffer index source) := by
  induction source generalizing buffer index with
  | nil => simp [storeBytes]
  | cons byte rest ih =>
      simp only [List.length_cons] at room
      have inside : index < buffer.length := by omega
      simp only [storeBytes, storeByte, if_pos inside]
      rw [ih (by simp only [List.length_set]; omega), overwrite_set byte inside]

/-- A store that succeeds stayed inside the array, unless it stored nothing. -/
theorem storeBytes_room {buffer source after : Bytes} {index : Nat} (nonempty : source ≠ [])
    (stored : storeBytes buffer index source = .ok after) :
    index + source.length ≤ buffer.length := by
  induction source generalizing buffer index with
  | nil => exact absurd rfl nonempty
  | cons byte rest ih =>
      by_cases inside : index < buffer.length
      · simp only [storeBytes, storeByte, if_pos inside] at stored
        cases rest with
        | nil => exact inside
        | cons next tail =>
            have bound := ih (by simp) stored
            simp only [List.length_set, List.length_cons] at bound ⊢
            omega
      · simp [storeBytes, storeByte, inside] at stored

theorem storeBytes_result {buffer source after : Bytes} {index : Nat}
    (stored : storeBytes buffer index source = .ok after) :
    after = overwrite buffer index source := by
  cases source with
  | nil => simpa [storeBytes] using stored.symm
  | cons byte rest =>
      rw [storeBytes_ok (storeBytes_room (by simp) stored)] at stored
      exact (Except.ok.inj stored).symm

theorem storeBytes_length {buffer source after : Bytes} {index : Nat}
    (stored : storeBytes buffer index source = .ok after) : after.length = buffer.length := by
  rw [storeBytes_result stored]
  cases source with
  | nil => simp
  | cons byte rest => exact overwrite_length (storeBytes_room (by simp) stored)

/-- What lies behind an array is not touched by a store into it. -/
theorem storeBytes_append {front after source : Bytes} {index : Nat}
    (room : index + source.length ≤ front.length) (rest : Bytes)
    (stored : storeBytes front index source = .ok after) :
    storeBytes (front ++ rest) index source = .ok (after ++ rest) := by
  rw [storeBytes_ok (by rw [List.length_append]; omega), storeBytes_result stored]
  simp only [overwrite, List.take_append_of_le_length (by omega : index ≤ front.length),
    List.drop_append_of_le_length room, List.append_assoc]

/-- Replacing one segment of a segmented array leaves the others alone. -/
theorem storeBytes_segment (front old back source : Bytes) (same : old.length = source.length) :
    storeBytes (front ++ (old ++ back)) front.length source = .ok (front ++ (source ++ back)) := by
  rw [storeBytes_ok (by simp only [List.length_append]; omega)]
  simp [overwrite, ← same, List.drop_append]

theorem loadBytes_ok {buffer : Bytes} {index count : Nat}
    (room : index + count ≤ buffer.length) :
    loadBytes buffer index count = .ok ((buffer.drop index).take count) := by
  induction count generalizing index with
  | zero => simp [loadBytes]
  | succ count ih =>
      have inside : index < buffer.length := by omega
      rw [loadBytes, List.getElem?_eq_getElem inside, List.drop_eq_getElem_cons inside]
      simp only [ih (show index + 1 + count ≤ buffer.length by omega), List.take_succ_cons]
      rfl

theorem loadBytes_length {buffer bytes : Bytes} {index count : Nat}
    (loaded : loadBytes buffer index count = .ok bytes) : bytes.length = count := by
  induction count generalizing index bytes with
  | zero =>
      cases loaded
      rfl
  | succ count ih =>
      simp only [loadBytes] at loaded
      split at loaded
      · contradiction
      · cases rest : loadBytes buffer (index + 1) count with
        | error fault => simp [rest, Except.map] at loaded
        | ok tail =>
            simp only [rest, Except.map, Except.ok.injEq] at loaded
            rw [← loaded, List.length_cons, ih rest]

def loadExact (buffer : Bytes) (index count : Nat) :
    Except Fault { bytes : Bytes // bytes.length = count } :=
  match loaded : loadBytes buffer index count with
  | .error fault => .error fault
  | .ok bytes => .ok ⟨bytes, loadBytes_length loaded⟩

theorem loadExact_ok {buffer bytes : Bytes} {index count : Nat}
    (loaded : loadBytes buffer index count = .ok bytes) :
    loadExact buffer index count = .ok ⟨bytes, loadBytes_length loaded⟩ := by
  unfold loadExact
  split
  · next fault failed =>
      rw [loaded] at failed
      contradiction
  · next result same =>
      cases loaded.symm.trans same
      rfl

theorem loadBytes_segment (front middle back : Bytes) :
    loadBytes (front ++ (middle ++ back)) front.length middle.length = .ok middle := by
  rw [loadBytes_ok (by simp only [List.length_append]; omega)]
  simp

/-- Where part `index` of a concatenation starts. -/
def partOffset (parts : List Bytes) (index : Nat) : Nat := (parts.take index).flatten.length

/-- Only the lengths of the parts decide where each starts. -/
theorem partOffset_congr {first second : List Bytes}
    (same : first.map List.length = second.map List.length) (index : Nat) :
    partOffset first index = partOffset second index := by
  rw [partOffset, partOffset, List.length_flatten, List.length_flatten, List.map_take, same,
    List.map_take]

theorem flatten_part {parts : List Bytes} {index : Nat} {old : Bytes}
    (part : parts[index]? = some old) :
    parts.flatten = (parts.take index).flatten ++ (old ++ (parts.drop (index + 1)).flatten) := by
  obtain ⟨inside, here⟩ := List.getElem?_eq_some_iff.mp part
  conv_lhs => rw [← List.take_append_drop index parts, List.drop_eq_getElem_cons inside, here]
  simp only [List.flatten_append, List.flatten_cons]

/-- Replacing one part of an array leaves the others, and where they start, alone. -/
theorem storeBytes_part {original parts : List Bytes} {old source : Bytes}
    (sizes : parts.map List.length = original.map List.length) (index : Nat)
    (part : parts[index]? = some old) (same : source.length = old.length) :
    storeBytes parts.flatten (partOffset original index) source =
        .ok (parts.set index source).flatten ∧
      (parts.set index source).map List.length = original.map List.length := by
  obtain ⟨inside, here⟩ := List.getElem?_eq_some_iff.mp part
  have stored : (parts.set index source).flatten =
      (parts.take index).flatten ++ (source ++ (parts.drop (index + 1)).flatten) := by
    rw [List.set_eq_take_append_cons_drop, if_pos inside]
    simp only [List.flatten_append, List.flatten_cons]
  constructor
  · rw [← partOffset_congr sizes, flatten_part part, stored, partOffset]
    exact storeBytes_segment _ _ _ _ same.symm
  · rw [← sizes, List.set_eq_take_append_cons_drop, if_pos inside]
    conv_rhs =>
      rw [← List.take_append_drop index parts, List.drop_eq_getElem_cons inside, here]
    simp only [List.map_append, List.map_cons, same]

theorem loadBytes_part (parts : List Bytes) (index : Nat) {old : Bytes}
    (part : parts[index]? = some old) :
    loadBytes parts.flatten (partOffset parts index) old.length = .ok old := by
  rw [flatten_part part, partOffset]
  exact loadBytes_segment _ _ _

def leBytes : Nat → Nat → Bytes
  | 0, _ => []
  | count + 1, value => UInt8.ofNat value :: leBytes count (value / 256)

def leNat : Bytes → Nat
  | [] => 0
  | byte :: rest => byte.toNat + 256 * leNat rest

@[simp] theorem leBytes_length (count value : Nat) : (leBytes count value).length = count := by
  induction count generalizing value with
  | zero => rfl
  | succ count ih => simp [leBytes, ih]

theorem leNat_leBytes (count value : Nat) : leNat (leBytes count value) = value % 256 ^ count := by
  induction count generalizing value with
  | zero => simp [leBytes, leNat, Nat.mod_one]
  | succ count ih =>
      simp only [leBytes, leNat, ih, UInt8.toNat_ofNat', Nat.reducePow]
      rw [Nat.pow_succ, Nat.mul_comm (256 ^ count), Nat.mod_mul]

def wordBytes {bits : Nat} (word : BitVec bits) : Bytes := leBytes (bits / 8) word.toNat

def ofWordBytes (bits : Nat) (bytes : Bytes) : BitVec bits := BitVec.ofNat bits (leNat bytes)

@[simp] theorem wordBytes_length {bits : Nat} (word : BitVec bits) :
    (wordBytes word).length = bits / 8 := leBytes_length _ _

theorem ofWordBytes_wordBytes {bits : Nat} (whole : bits % 8 = 0) (word : BitVec bits) :
    ofWordBytes bits (wordBytes word) = word := by
  have width : 256 ^ (bits / 8) = 2 ^ bits := by
    rw [show 256 = 2 ^ 8 by decide, ← Nat.pow_mul]
    congr 1
    omega
  apply BitVec.eq_of_toNat_eq
  rw [ofWordBytes, BitVec.toNat_ofNat, wordBytes, leNat_leBytes, width, Nat.mod_mod,
    Nat.mod_eq_of_lt word.isLt]

def arrayBytes {bits : Nat} (words : List (BitVec bits)) : Bytes := words.flatMap wordBytes

def ofArrayBytes (bits : Nat) : Nat → Bytes → List (BitVec bits)
  | 0, _ => []
  | count + 1, bytes =>
      ofWordBytes bits (bytes.take (bits / 8)) :: ofArrayBytes bits count (bytes.drop (bits / 8))

@[simp] theorem arrayBytes_nil {bits : Nat} : arrayBytes ([] : List (BitVec bits)) = [] := rfl

@[simp] theorem arrayBytes_cons {bits : Nat} (word : BitVec bits) (rest : List (BitVec bits)) :
    arrayBytes (word :: rest) = wordBytes word ++ arrayBytes rest := rfl

@[simp] theorem arrayBytes_length {bits : Nat} (words : List (BitVec bits)) :
    (arrayBytes words).length = bits / 8 * words.length := by
  induction words with
  | nil => simp
  | cons word rest ih =>
      simp only [arrayBytes_cons, List.length_append, wordBytes_length, ih, List.length_cons,
        Nat.mul_succ, Nat.add_comm]

theorem ofArrayBytes_arrayBytes {bits : Nat} (whole : bits % 8 = 0) (words : List (BitVec bits)) :
    ofArrayBytes bits words.length (arrayBytes words) = words := by
  induction words with
  | nil => rfl
  | cons word rest ih =>
      simp only [List.length_cons, ofArrayBytes, arrayBytes_cons]
      rw [← wordBytes_length word, List.take_left, List.drop_left, ih,
        ofWordBytes_wordBytes whole]

theorem arrayBytes_replicate_zero (bits count : Nat) :
    arrayBytes (List.replicate count (0 : BitVec bits)) = List.replicate (bits / 8 * count) 0 := by
  have word : ∀ width, leBytes width 0 = List.replicate width 0 := by
    intro width
    induction width with
    | zero => rfl
    | succ width ih => simp [leBytes, ih, List.replicate_succ]
  induction count with
  | zero => simp
  | succ count ih =>
      rw [List.replicate_succ, arrayBytes_cons, ih]
      simp only [wordBytes, BitVec.ofNat_eq_ofNat, BitVec.toNat_ofNat, Nat.zero_mod, word,
        ← List.replicate_add, Nat.mul_succ, Nat.add_comm]

/-- Text of which only the characters matter, not where they are stored. -/
abbrev Text := List Char

/-- A NUL-terminated string; `chars` leaves the terminator out. -/
structure CString where
  chars : Bytes
  nulFree : 0 ∉ chars
deriving Repr, DecidableEq

namespace CString

def empty : CString := ⟨[], by simp⟩

def strlen (text : CString) : Nat := text.chars.length

def bytes (text : CString) : Bytes := text.chars ++ [0]

@[simp] theorem bytes_length (text : CString) : text.bytes.length = text.strlen + 1 := by
  simp [bytes, strlen]

end CString

end Zenbedded.Foundation
