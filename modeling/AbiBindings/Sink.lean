/-!
# Sinks

A sink takes bytes in portions, until its capacity is used up; then it refuses further bytes or
takes none of them. At the end it may fail to flush. Whatever the portions are, what a sink has
received after writing everything is a matter of its capacity alone.
-/

namespace AbiBindings

/-- How a full sink treats more bytes. -/
inductive Exhaustion where
  | refuses
  | takesNothing
  deriving DecidableEq

structure Sink where
  /-- How many bytes the sink takes in all, if there is a limit. -/
  capacity : Option Nat := none
  /-- How much is taken at a time, given the number of bytes received before and the room left. -/
  portion : Nat → Nat → Nat := fun _ room => room
  exhaustion : Exhaustion := .refuses
  flushes : Bool := true
  /-- The cause that is given for a failed delivery: what the sink says when it refuses bytes or a
  flush, or else that it has taken nothing. -/
  cause : String := "failed to write whole buffer"

namespace Sink

/-- The outcome of handing one buffer to a sink. -/
inductive Taken where
  | refused
  | bytes (count : Nat)
  deriving DecidableEq

/-- How many bytes of a buffer the sink still has room for. -/
def room (sink : Sink) (received size : Nat) : Nat :=
  match sink.capacity with
  | none => size
  | some capacity => min size (capacity - received)

theorem room_le (sink : Sink) (received size : Nat) : sink.room received size ≤ size := by
  unfold room
  split <;> omega

/-- Room is used up by what is taken. -/
theorem room_sub (sink : Sink) (received size taken : Nat) :
    sink.room (received + taken) (size - taken) = sink.room received size - taken := by
  unfold room
  split <;> omega

/-- Hand a buffer of the given size to a sink that has received some bytes before. A sink with room
takes at least one byte and no more than there is room for. -/
def take (sink : Sink) (received size : Nat) : Taken :=
  match sink.room received size with
  | 0 => if size = 0 ∨ sink.exhaustion = .takesNothing then .bytes 0 else .refused
  | room + 1 => .bytes (max 1 (min (sink.portion received (room + 1)) (room + 1)))

/-- A sink without room takes nothing. -/
theorem take_eq_of_room_eq_zero (sink : Sink) {received size : Nat}
    (h : sink.room received size = 0) :
    sink.take received size = .refused ∨ sink.take received size = .bytes 0 := by
  simp only [take, h]
  split <;> simp

/-- A sink with room takes some bytes, and no more than there is room for. -/
theorem exists_take_eq (sink : Sink) {received size : Nat} (h : sink.room received size ≠ 0) :
    ∃ count, sink.take received size = .bytes (count + 1) ∧
      count + 1 ≤ sink.room received size := by
  cases hroom : sink.room received size with
  | zero => exact absurd hroom h
  | succ room =>
    refine ⟨max 1 (min (sink.portion received (room + 1)) (room + 1)) - 1, ?_, by omega⟩
    simp only [take, hroom, Taken.bytes.injEq]
    omega

/-- What a sink has received, and whether all that was to be written is there. -/
structure Delivery where
  received : List UInt8
  complete : Bool
  deriving DecidableEq

/-- Hand over the pending bytes, portion by portion, until all are taken or none is. -/
def writeFrom (sink : Sink) (received pending : List UInt8) : Delivery :=
  if pending.isEmpty then ⟨received, true⟩
  else
    match sink.take received.length pending.length with
    | .refused | .bytes 0 => ⟨received, false⟩
    | .bytes (count + 1) =>
      sink.writeFrom (received ++ pending.take (count + 1)) (pending.drop (count + 1))
termination_by pending.length
decreasing_by
  simp_all only [List.isEmpty_iff, List.length_drop]
  have : pending.length ≠ 0 := by simpa using ‹¬pending = []›
  omega

/-- Writing goes on until the room is used up, in whatever portions. -/
theorem writeFrom_eq (sink : Sink) (received pending : List UInt8) :
    sink.writeFrom received pending =
      ⟨received ++ pending.take (sink.room received.length pending.length),
        sink.room received.length pending.length == pending.length⟩ := by
  rw [writeFrom]
  have hle := sink.room_le received.length pending.length
  by_cases hpending : pending = []
  · subst hpending
    simp_all
  · have hpos := List.length_pos_iff.mpr hpending
    rw [if_neg (by simpa using hpending)]
    by_cases hroom : sink.room received.length pending.length = 0
    · have hne : ¬0 = pending.length := by omega
      rcases sink.take_eq_of_room_eq_zero hroom with htake | htake <;> simp [htake, hroom, hne]
    · obtain ⟨count, htake, hcount⟩ := sink.exists_take_eq hroom
      have hlength : (received ++ pending.take (count + 1)).length =
          received.length + (count + 1) := by
        simp only [List.length_append, List.length_take]
        omega
      have hrest : (sink.room received.length pending.length - (count + 1) ==
          pending.length - (count + 1)) =
            (sink.room received.length pending.length == pending.length) := by
        rw [Bool.eq_iff_iff, beq_iff_eq, beq_iff_eq]
        omega
      simp only [htake]
      rw [writeFrom_eq, hlength, List.length_drop, room_sub, List.append_assoc, ← List.take_add,
        Nat.add_sub_cancel' hcount, hrest]
termination_by pending.length
decreasing_by
  rw [List.length_drop]
  omega

/-- Write all bytes to a fresh sink, and flush it if that succeeds. -/
def deliver (sink : Sink) (bytes : List UInt8) : Delivery :=
  let written := sink.writeFrom [] bytes
  { written with complete := written.complete && sink.flushes }

/-- A sink receives what it has room for. The delivery is complete if that is everything and the
sink is flushed. -/
theorem deliver_eq (sink : Sink) (bytes : List UInt8) :
    sink.deliver bytes =
      ⟨bytes.take (sink.room 0 bytes.length),
        sink.room 0 bytes.length == bytes.length && sink.flushes⟩ := by
  simp [deliver, writeFrom_eq]

end Sink

end AbiBindings
