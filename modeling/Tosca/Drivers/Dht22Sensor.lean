/-
# The sensor's side of a DHT22 reading

`Tosca.Dht22` models the driver. This module models the other party from the protocol the
driver's comments describe, and proves that the two agree: `Dht22::read` returns what its
own checks and decoders make of the five bytes the sensor sent. This holds for all pulse
lengths that stay within the driver's limits: each wait must see its edge within
`MAX_ATTEMPTS` polls, and each sample must fall in the right pulse.

Pulse lengths are counted in the driver's reads. After the start signal the released line
is high for a few reads. Then the sensor responds by pulling the line low and then high. It
sends each bit as a low pulse and a high pulse, and pulls the line low once more before it
releases it. A zero's high pulse (26–28 µs) has ended by the time the driver samples it
(`BIT_SAMPLE_DELAY_US`, 35 µs after the rising edge), so only the read that sees the rising
edge falls in it. A one's high pulse (70 µs) is still going on at the sample.

## Main results

* `run_edges` — a falling and a rising wait, from a read ready for a pulse, end after it
* `run_sampleBit` — the driver samples the bit of a data pulse and is ready for the next
* `run_sampleBits` — over a train of data pulses, the driver samples their bits in order
* `read_transmit` — on a frame carrying five bytes, `read` checks and decodes those bytes
-/

import Mathlib.Data.List.Forall2
import Tosca.Drivers.Dht22

namespace Tosca.Dht22

/-! ## The sensor -/

/-- A pulse of the sensor: `low` reads of a low line, then `high` reads of a high one. -/
structure Pulse where
  low : Nat
  high : Nat
  deriving DecidableEq, Repr

/-- The levels the driver's reads see during a pulse. -/
def Pulse.levels (pulse : Pulse) : List Bool :=
  List.replicate pulse.low false ++ List.replicate pulse.high true

/-- A data pulse the driver reads as `bit`. Its low part spans at least two reads and at
most `maxAttempts`. A zero's high part spans only the read that sees the rising edge. A
one's high part also spans the sample read, and ends within `maxAttempts` reads after
it. -/
def Pulse.Encodes (pulse : Pulse) (bit : Bool) : Prop :=
  2 ≤ pulse.low ∧ pulse.low ≤ maxAttempts ∧
    if bit then 2 ≤ pulse.high ∧ pulse.high ≤ maxAttempts + 1 else pulse.high = 1

instance (pulse : Pulse) (bit : Bool) : Decidable (pulse.Encodes bit) :=
  inferInstanceAs (Decidable (_ ∧ _ ∧ _))

/-- What the sensor sends after the start signal. -/
structure Frame where
  /-- Reads of the released line before the sensor pulls it low. -/
  answer : Nat
  /-- The sensor's response: the line low, then high. -/
  response : Pulse
  /-- One pulse per data bit, most significant first. -/
  pulses : List Pulse
  /-- Reads of the last low pulse, after which the sensor releases the line. -/
  final : Nat
  deriving DecidableEq, Repr

/-- The levels of a frame, read after read. -/
def Frame.levels (frame : Frame) : List Bool :=
  List.replicate frame.answer true ++ (frame.response.levels ++
    (frame.pulses.flatMap Pulse.levels ++ List.replicate frame.final false))

/-- The line as the driver's reads see it: `levels`, then the released line, pulled high. -/
def line (levels : List Bool) (k : Nat) : Bool := levels.getD k true

/-- A frame whose pulses the driver reads as `bits`. The sensor answers within
`maxAttempts` reads. Each part of its response spans between one read and `maxAttempts`.
Each data pulse encodes its bit, and the final low pulse spans at least one read. -/
structure Frame.Sends (frame : Frame) (bits : List Bool) : Prop where
  answered : frame.answer < maxAttempts
  responseLow : 1 ≤ frame.response.low ∧ frame.response.low ≤ maxAttempts
  responseHigh : 1 ≤ frame.response.high ∧ frame.response.high ≤ maxAttempts
  encoded : List.Forall₂ Pulse.Encodes frame.pulses bits
  released : 1 ≤ frame.final

instance (frame : Frame) (bits : List Bool) : Decidable (frame.Sends bits) :=
  decidable_of_iff (frame.answer < maxAttempts ∧
      (1 ≤ frame.response.low ∧ frame.response.low ≤ maxAttempts) ∧
      (1 ≤ frame.response.high ∧ frame.response.high ≤ maxAttempts) ∧
      List.Forall₂ Pulse.Encodes frame.pulses bits ∧ 1 ≤ frame.final)
    ⟨fun ⟨a, l, h, e, r⟩ => ⟨a, l, h, e, r⟩, fun ⟨a, l, h, e, r⟩ => ⟨a, l, h, e, r⟩⟩

/-- The bits of a byte, most significant first. -/
def bitsOfByte (byte : UInt8) : List Bool :=
  (List.range 8).map fun j => byte.toNat.testBit (7 - j)

/-- The bits of a run of bytes, in order. -/
def bitsOfBytes (bytes : List UInt8) : List Bool :=
  bytes.flatMap bitsOfByte

/-! ## Reading the line -/

/-- Reading the line at a pulse that starts at read `pre.length`. -/
theorem line_pulse (pre rest : List Bool) (pulse : Pulse) (i : Nat) :
    line (pre ++ (pulse.levels ++ rest)) (pre.length + i) =
      if i < pulse.low then false
      else if i < pulse.low + pulse.high then true
      else line rest (i - (pulse.low + pulse.high)) := by
  simp only [line, Pulse.levels, List.getD_eq_getElem?_getD, List.getElem?_append_right
    (Nat.le_add_right _ _), Nat.add_sub_cancel_left, List.getElem?_append, List.append_assoc,
    List.length_replicate, List.getElem?_replicate]
  split_ifs <;> first | rfl | omega | (congr 2; omega)

/-- The driver's next read `q` is ready for a pulse that starts at read `p`: it is at most
one read into the pulse, and the reads before the pulse are high and fewer than
`maxAttempts`. -/
def Ready (trace : Nat → Bool) (q p : Nat) : Prop :=
  q ≤ p + 1 ∧ p < q + maxAttempts ∧ ∀ k, q ≤ k → k < p → trace k = true

section Edges

variable (trace : Nat → Bool)

/-- A wait sees its edge at the first poll that shows its level. -/
theorem edgeWithin_first {level : Bool} (d : Nat) :
    ∀ {attempts k : Nat}, (∀ t < d, trace (k + t) ≠ level) → trace (k + d) = level →
      d < attempts → edgeWithin trace level attempts k = some (k + d) := by
  induction d with
  | zero =>
    rintro (_ | attempts) k - (reached : trace k = level) within
    · omega
    · rw [edgeWithin_succ, if_pos reached]
      rfl
  | succ d ih =>
    rintro (_ | attempts) k before reached within
    · omega
    rw [edgeWithin_succ, if_neg (show trace k ≠ level from before 0 (by omega)),
      ih (fun t lt => by simpa [Nat.add_right_comm] using before (t + 1) (by omega))
        (by simpa [Nat.add_right_comm, Nat.add_assoc] using reached) (by omega),
      Nat.add_right_comm, Nat.add_assoc]

/-- A wait from read `k` ends after the first read from `k` on that shows its level, when
that read is among its polls. -/
theorem run_edge {level : Bool} {attempts k e : Nat}
    (before : ∀ j, k ≤ j → j < e → trace j ≠ level) (reached : trace e = level) (after : k ≤ e)
    (within : e < k + attempts) : (edge trace level attempts).run k = some ((), e + 1) := by
  obtain ⟨d, rfl⟩ := Nat.exists_eq_add_of_le after
  simp only [StateT.run, edge, @edgeWithin_first trace level d attempts k
    (fun t lt => before _ (by omega) (by omega)) reached (by omega), Option.map_some']

/-- The sample after a bit's two waits reads the line where they end. -/
theorem run_sampleBit_of_edges {q s : Nat}
    (edges : (do edge trace false maxAttempts; edge trace true maxAttempts).run q = some ((), s)) :
    (sampleBit trace).run q = some (trace s, s + 1) := by
  rw [sampleBit, ← bind_assoc, StateT.run_bind, edges]
  rfl

theorem run_sampleBits_succ {n q s k : Nat} {bit : Bool} {bits : List Bool}
    (first : (sampleBit trace).run q = some (bit, s))
    (rest : (sampleBits trace n).run s = some (bits, k)) :
    (sampleBits trace (n + 1)).run q = some (bit :: bits, k) := by
  simp only [sampleBits, StateT.run_bind, first, rest, Option.bind_eq_bind, Option.some_bind]
  rfl

end Edges

variable {trace : Nat → Bool}

/-- A falling and then a rising wait, from a read ready for a pulse and inside its low
part, end at the read after the pulse's rising edge. -/
theorem run_edges {q p : Nat} {pulse : Pulse} (ready : Ready trace q p)
    (low : ∀ i < pulse.low, trace (p + i) = false) (rise : trace (p + pulse.low) = true)
    (starts : 0 < pulse.low) (into : q < p + pulse.low) (bounded : pulse.low ≤ maxAttempts) :
    (do edge trace false maxAttempts; edge trace true maxAttempts).run q =
      some ((), p + pulse.low + 1) := by
  obtain ⟨upTo, soon, high⟩ := ready
  have lowAt : ∀ j, p ≤ j → j < p + pulse.low → trace j = false := fun j lo hi => by
    simpa [Nat.add_sub_cancel' lo] using low (j - p) (by omega)
  have positive : 0 < maxAttempts := by decide
  obtain ⟨e, early, late, first⟩ : ∃ e, q ≤ e ∧ p ≤ e ∧ (e = p ∨ e = q) :=
    ⟨max q p, le_max_left q p, le_max_right q p, (max_choice q p).symm⟩
  have fall : (edge trace false maxAttempts).run q = some ((), e + 1) :=
    run_edge trace (fun j lo hi => by simp [high j lo (by omega)]) (lowAt e late (by omega))
      early (by omega)
  have rising : (edge trace true maxAttempts).run (e + 1) = some ((), p + pulse.low + 1) :=
    run_edge trace (fun j lo hi => by simp [lowAt j (by omega) hi]) rise (by omega) (by omega)
  simp only [StateT.run_bind, fall, Option.bind_eq_bind, Option.some_bind, rising]

/-! ## Data bits -/

/-- One data bit: from a read ready for its pulse, and with the line low after it, the
driver samples the pulse's bit and is then ready for the pulse that follows. -/
theorem run_sampleBit {pre rest : List Bool} {pulse : Pulse} {bit : Bool} {q : Nat}
    (encodes : pulse.Encodes bit) (next : line rest 0 = false)
    (ready : Ready (line (pre ++ (pulse.levels ++ rest))) q pre.length) :
    (sampleBit (line (pre ++ (pulse.levels ++ rest)))).run q =
        some (bit, pre.length + pulse.low + 2) ∧
      Ready (line (pre ++ (pulse.levels ++ rest))) (pre.length + pulse.low + 2)
        (pre.length + (pulse.low + pulse.high)) := by
  obtain ⟨two, bounded, shape⟩ := encodes
  have at_i := line_pulse pre rest pulse
  have high : 1 ≤ pulse.high ∧ pulse.high ≤ maxAttempts + 1 := by split_ifs at shape <;> omega
  have edges := run_edges ready (fun i lt => by rw [at_i, if_pos lt])
    (by rw [at_i, if_neg (by omega), if_pos (by omega)]) (by omega) (by have := ready.1; omega)
    bounded
  have value : decide (2 ≤ pulse.high) = bit := by
    cases bit <;> simp at shape <;> simp <;> omega
  have sampled : line (pre ++ (pulse.levels ++ rest)) (pre.length + pulse.low + 1) = bit := by
    rw [Nat.add_assoc, at_i, if_neg (by omega), ← value]
    by_cases long : 2 ≤ pulse.high
    · rw [if_pos (by omega), decide_eq_true long]
    · rw [if_neg (by omega), show pulse.low + 1 - (pulse.low + pulse.high) = 0 by omega, next,
        decide_eq_false long]
  refine ⟨by rw [run_sampleBit_of_edges _ edges, sampled], by omega, by omega, fun k lo hi => ?_⟩
  obtain ⟨i, rfl⟩ := Nat.exists_eq_add_of_le (show pre.length ≤ k by omega)
  rw [at_i, if_neg (by omega), if_pos (by omega)]

/-- The line right after a train of data pulses is low when the line after the train is:
every data pulse starts low. -/
theorem line_flatMap_zero {pulses : List Pulse} {bits : List Bool} {rest : List Bool}
    (encoded : List.Forall₂ Pulse.Encodes pulses bits) (next : line rest 0 = false) :
    line (pulses.flatMap Pulse.levels ++ rest) 0 = false := by
  cases encoded with
  | nil => exact next
  | @cons pulse _ pulses _ encodes _ =>
    have lead := line_pulse [] (pulses.flatMap Pulse.levels ++ rest) pulse 0
    rw [if_pos (by have := encodes.1; omega)] at lead
    simpa [List.flatMap_cons] using lead

/-- A train of data pulses: from a read ready for its first pulse, and with the line low
after it, the driver samples the train's bits in order. -/
theorem run_sampleBits {pulses : List Pulse} {bits : List Bool}
    (encoded : List.Forall₂ Pulse.Encodes pulses bits) :
    ∀ {pre rest : List Bool} {q : Nat}, line rest 0 = false →
      Ready (line (pre ++ (pulses.flatMap Pulse.levels ++ rest))) q pre.length →
      ∃ k, (sampleBits (line (pre ++ (pulses.flatMap Pulse.levels ++ rest))) bits.length).run q =
        some (bits, k) := by
  induction encoded with
  | nil => exact fun _ _ => ⟨_, rfl⟩
  | @cons pulse bit pulses bits encodes encoded ih =>
    intro pre rest q next ready
    have shape : pre ++ ((pulse :: pulses).flatMap Pulse.levels ++ rest) =
        pre ++ (pulse.levels ++ (pulses.flatMap Pulse.levels ++ rest)) := by
      simp [List.flatMap_cons]
    rw [shape] at ready ⊢
    obtain ⟨first, ready'⟩ := run_sampleBit encodes (line_flatMap_zero encoded next) ready
    have shifted : pre ++ (pulse.levels ++ (pulses.flatMap Pulse.levels ++ rest)) =
        (pre ++ pulse.levels) ++ (pulses.flatMap Pulse.levels ++ rest) := by simp
    obtain ⟨k, later⟩ := @ih (pre ++ pulse.levels) rest _ next
      (by rw [← shifted]; simpa [Pulse.levels] using ready')
    exact ⟨k, run_sampleBits_succ _ first (by rwa [shifted])⟩

/-! ## A reading -/

/-- A reading of a frame that sends 40 bits samples those bits. -/
theorem readingSamples_line {frame : Frame} {bits : List Bool} (sends : frame.Sends bits)
    (forty : bits.length = 40) : readingSamples (line frame.levels) = some bits := by
  obtain ⟨answered, ⟨low₁, low₂⟩, ⟨high₁, high₂⟩, encoded, released⟩ := sends
  have at_i := line_pulse (List.replicate frame.answer true)
    (frame.pulses.flatMap Pulse.levels ++ List.replicate frame.final false) frame.response
  simp only [List.length_replicate] at at_i
  have waited : ∀ k < frame.answer, line frame.levels k = true := fun k lt => by
    simp [line, Frame.levels, List.getD_eq_getElem?_getD, List.getElem?_append_left, lt]
  have response : (edge (line frame.levels) false maxAttempts >>= fun _ =>
      edge (line frame.levels) true maxAttempts).run 0 =
        some ((), frame.answer + frame.response.low + 1) :=
    run_edges ⟨by omega, by omega, fun k _ lt => waited k lt⟩
      (fun i lt => by rw [Frame.levels, at_i, if_pos lt])
      (by rw [Frame.levels, at_i, if_neg (by omega), if_pos (by omega)]) low₁ (by omega) low₂
  have data : frame.levels = (List.replicate frame.answer true ++ frame.response.levels) ++
      (frame.pulses.flatMap Pulse.levels ++ List.replicate frame.final false) := by
    simp [Frame.levels]
  have ready : Ready (line ((List.replicate frame.answer true ++ frame.response.levels) ++
      (frame.pulses.flatMap Pulse.levels ++ List.replicate frame.final false)))
      (frame.answer + frame.response.low + 1)
      (List.replicate frame.answer true ++ frame.response.levels).length := by
    have start : (List.replicate frame.answer true ++ frame.response.levels).length =
        frame.answer + (frame.response.low + frame.response.high) := by
      simp [Pulse.levels]
    refine ⟨by omega, by omega, fun k lo hi => ?_⟩
    obtain ⟨i, rfl⟩ := Nat.exists_eq_add_of_le (show frame.answer ≤ k by omega)
    rw [← data, Frame.levels, at_i, if_neg (by omega), if_pos (by omega)]
  obtain ⟨k, sampled⟩ := run_sampleBits encoded
    (by simp [line, List.getD_eq_getElem?_getD, List.getElem?_replicate,
      show 0 < frame.final by omega]) ready
  rw [← data, forty] at sampled
  have run : (reading (line frame.levels)).run 0 = some (bits, k) := by
    rw [reading, ← bind_assoc, StateT.run_bind, response]
    exact sampled
  simp [readingSamples, run]

/-- The byte `read_byte` assembles from a byte's bits is that byte. -/
theorem byteOf_bitsOfByte (byte : UInt8) : byteOf (bitsOfByte byte) = byte := by
  have lt : byte.toNat < 2 ^ 8 := byte.toNat_lt_size
  rw [uint8_eq_iff, toNat_byteOf]
  -- both sides are the byte's eight binary digits, weighted
  conv_rhs => rw [← Nat.mod_eq_of_lt lt]
  simp only [Nat.mod_pow_succ, Nat.pow_zero, Nat.mod_one, Nat.div_one]
  simp [sampledByte, bitsOfByte, List.range_succ, List.getD_eq_getElem?_getD, Nat.toNat_testBit,
    -Nat.testBit_zero]
  omega

/-- Each of the five bytes `read_raw_data` assembles from the bits of five bytes is the
byte sent in its place. -/
theorem rawOf_bitsOfBytes (hh hl th tl checksum : UInt8) :
    rawOf (bitsOfBytes [hh, hl, th, tl, checksum]) = (hh, hl, th, tl, checksum) := by
  have eight : ∀ byte, (bitsOfByte byte).length = 8 := by simp [bitsOfByte]
  simp only [bitsOfBytes, List.flatMap_cons, List.flatMap_nil, List.append_nil,
    rawOf_append (eight hh) (eight hl) (eight th) (eight tl), byteOf_bitsOfByte]

/-- The sensor and the driver agree. On a line carrying any frame that sends the bits of
five bytes, `Dht22::read` never times out. It returns a checksum mismatch exactly when the
low eight bits of the sum of the first four bytes are not the fifth, and otherwise the
humidity and temperature its decoders make of those bytes. -/
theorem read_transmit {E F : Type} (ops : FloatOps F) {frame : Frame}
    {hh hl th tl checksum : UInt8} (sends : frame.Sends (bitsOfBytes [hh, hl, th, tl, checksum])) :
    (read (Pin.ofLevels (line frame.levels) : Pin E) ops).run' 0 =
      if (hh.toNat + hl.toNat + th.toNat + tl.toNat) % 256 = checksum.toNat then
        .ok ⟨decodeHumidity ops hh hl, decodeTemperature ops th tl⟩
      else .error .checksumMismatch := by
  rw [run_read_ofLevels, readingSamples_line sends (by simp [bitsOfBytes, bitsOfByte])]
  show decodeSamples ops _ = _
  rw [← decode_rawOf, rawOf_bitsOfBytes]
  dsimp only
  rw [validateChecksum_eq]
  split <;> rfl

/-- A frame with the datasheet's pulse lengths, at about two microseconds a read. The
sensor answers after 20 µs, holds each part of its response for 80 µs and each bit's low
pulse for 50 µs. A one's 70 µs high pulse spans the read at its edge, the sample 35 µs
later, and about 17 reads after that. -/
def datasheetFrame (bits : List Bool) : Frame where
  answer := 10
  response := ⟨40, 40⟩
  pulses := bits.map fun bit => ⟨25, if bit then 19 else 1⟩
  final := 25

/-- The decoders on integers, in tenths. -/
def tenths : FloatOps Int := ⟨fun v => (v.toNat : Int), id, Neg.neg⟩

/-- 60.0 % and -25.0 °C with their checksum, sent at the datasheet's timing. -/
theorem read_datasheetFrame :
    (datasheetFrame (bitsOfBytes [0x02, 0x58, 0x80, 0xFA, 0xD4])).Sends
        (bitsOfBytes [0x02, 0x58, 0x80, 0xFA, 0xD4]) ∧
      (read (Pin.ofLevels (line (datasheetFrame (bitsOfBytes [0x02, 0x58, 0x80, 0xFA,
          0xD4])).levels) : Pin Unit) tenths).run' 0 = .ok ⟨600, -250⟩ :=
  ⟨by decide, (@read_transmit Unit Int tenths (datasheetFrame (bitsOfBytes [0x02, 0x58, 0x80,
    0xFA, 0xD4])) 0x02 0x58 0x80 0xFA 0xD4 (by decide)).trans rfl⟩

end Tosca.Dht22
