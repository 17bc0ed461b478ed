/-
# The DHT22 driver

`tosca-drivers` reads a DHT22 humidity and temperature sensor over one data line. After the
start signal the sensor pulls the line low, then high, and then sends 40 bits, most
significant first: two bytes of humidity, two of temperature and a checksum. Each bit is a
low pulse followed by a high pulse whose length is the bit; the driver samples the line
once after the rising edge. Every edge is awaited by polling the line at most
`MAX_ATTEMPTS` times.

Time is not modelled: the line is the sequence of levels the driver's reads see, one level
per read, and the delays between reads only decide which level comes next. The driver runs
in `DriverM`, a state over the number of reads made so far. `f32` is not in Lean, so the
three operations the decoders apply to it are the parameter `FloatOps`.

The second half says what a reading is, from the protocol rather than from the code: a
program in `Protocol` that finds each edge as the first of the next `maxAttempts` reads
showing the awaited level (`edgeWithin`), samples the 40 bits (`sampleBits`), and reads
the bytes they spell by position (`sampledByte`). `toDriver` maps such a program to the
driver's monad, a wait that gives up becoming `Dht22Error::Timeout`; each driver function
is the image of its protocol counterpart, and `read_ofLevels` assembles them.

## Main results

* `waitUntilStateLoop_ofLevels`, `readBit_ofLevels`, `readByte_ofLevels`,
  `readRawData_ofLevels` — each loop of the driver runs its protocol counterpart
* `toNat_byteOf` — the byte assembled by `read_byte` is the bits' positional value
* `read_ofLevels` — what `Dht22::read` returns on a line without pin errors
-/

import Mathlib.Algebra.BigOperators.Ring.List
import Mathlib.Data.Nat.Bitwise
import Mathlib.Algebra.Order.Ring.Nat
import Tosca.Bits

namespace Tosca.Dht22

/-! ## The driver -/

/-- `MAX_ATTEMPTS`: polls of the line before a wait gives up. -/
def maxAttempts : Nat := 100

/-- `PinState`: the level a wait is for. -/
inductive PinState
  | low
  | high
  deriving DecidableEq, Repr

/-- `Dht22Error<E>`. -/
inductive Dht22Error (E : Type)
  | pin (error : E)
  | checksumMismatch
  | timeout
  deriving DecidableEq, Repr

/-- `Measurement`, whose fields are `f32`s. -/
structure Measurement (F : Type) where
  humidity : F
  temperature : F
  deriving DecidableEq, Repr

/-- What the decoders use of `f32`: `f32::from` on a `u16`, division by `10.0` and
negation. -/
structure FloatOps (F : Type) where
  ofU16 : UInt16 → F
  divTen : F → F
  neg : F → F

/-- The data pin as `read` uses it: what `set_low` and `set_high` return, and what the
`k`-th read of the line returns, `true` for high. -/
structure Pin (E : Type) where
  setLow : Except E Unit
  setHigh : Except E Unit
  level : Nat → Except E Bool

/-- The driver's computations: they read the line at a cursor, the number of reads so far. -/
abbrev DriverM (E : Type) := StateT Nat (Except (Dht22Error E))

/-- `RawData`: humidity high and low, temperature high and low, checksum. -/
abbrev RawData := UInt8 × UInt8 × UInt8 × UInt8 × UInt8

/-- `byte |= 1 << (7 - i)` when the line is high: bit `i` of a byte, most significant
first. -/
def setBit (byte : UInt8) (i : Nat) (high : Bool) : UInt8 :=
  if high then byte ||| 1 <<< (7 - i).toUInt8 else byte

section Driver

variable {E : Type} (pin : Pin E)

/-- `?` on a pin operation: `From<E>` wraps its error as `Dht22Error::Pin`. -/
def tryPin {α : Type} (result : Except E α) : DriverM E α :=
  StateT.lift (result.mapError .pin)

/-- `is_high()?`: one read of the line. -/
def isHigh : DriverM E Bool := do
  let k ← get
  let high ← tryPin (pin.level k)
  set (k + 1)
  return high

/-- `is_low()?`: one read of the line. -/
def isLow : DriverM E Bool := do
  return !(← isHigh pin)

/-- `send_start_signal`: pull the line low, then release it. -/
def sendStartSignal : DriverM E Unit := do
  tryPin pin.setLow
  tryPin pin.setHigh

/-- The loop of `wait_until_state`, with `attempts` polls left. -/
def waitUntilStateLoop (state : PinState) : Nat → DriverM E Unit
  | 0 => throw .timeout
  | attempts + 1 => do
    let reached ← match state with
      | .high => isHigh pin
      | .low => isLow pin
    if reached then pure () else waitUntilStateLoop state attempts

/-- `wait_until_state`. -/
def waitUntilState (state : PinState) : DriverM E Unit :=
  waitUntilStateLoop pin state maxAttempts

/-- `wait_for_sensor_response`: the sensor pulls the line low, then high. -/
def waitForSensorResponse : DriverM E Unit := do
  waitUntilState pin .low
  waitUntilState pin .high

/-- The body of `read_byte`'s loop for bit `i`: the bit's falling and rising edges, then a
sample of the line. -/
def readBit (byte : UInt8) (i : Nat) : DriverM E UInt8 := do
  waitUntilState pin .low
  waitUntilState pin .high
  return setBit byte i (← isHigh pin)

/-- `read_byte`. -/
def readByte : DriverM E UInt8 :=
  (List.range 8).foldlM (readBit pin) 0

/-- `read_raw_data`: five bytes in a row. -/
def readRawData : DriverM E RawData := do
  return (← readByte pin, ← readByte pin, ← readByte pin, ← readByte pin, ← readByte pin)

/-- `validate_checksum`: the wrapping sum of the first four bytes is the fifth. -/
def validateChecksum (hh hl th tl checksum : UInt8) : Except (Dht22Error E) Unit :=
  let sum := hh + hl + th + tl
  if sum == checksum then .ok () else .error .checksumMismatch

variable {F : Type} (ops : FloatOps F)

/-- `decode_humidity`: the two bytes as one `u16`, in tenths. -/
def decodeHumidity (high low : UInt8) : F :=
  ops.divTen (ops.ofU16 ((high.toUInt16 <<< 8) ||| low.toUInt16))

/-- `decode_temperature`: bit 15 is the sign, the other fifteen the magnitude in tenths. -/
def decodeTemperature (high low : UInt8) : F :=
  let raw := ((high &&& 0x7F).toUInt16 <<< 8) ||| low.toUInt16
  let t := ops.divTen (ops.ofU16 raw)
  if high &&& 0x80 != 0 then ops.neg t else t

/-- `Dht22::read`. -/
def read : DriverM E (Measurement F) := do
  sendStartSignal pin
  waitForSensorResponse pin
  let (hh, hl, th, tl, checksum) ← readRawData pin
  StateT.lift (validateChecksum hh hl th tl checksum)
  return ⟨decodeHumidity ops hh hl, decodeTemperature ops th tl⟩

end Driver

/-! ## What a reading is -/

/-- A line without pin errors: the `k`-th read sees `trace k`. -/
def Pin.ofLevels {E : Type} (trace : Nat → Bool) : Pin E :=
  ⟨.ok (), .ok (), fun k => .ok (trace k)⟩

/-- The level a wait is for, `true` for high. -/
def PinState.level : PinState → Bool
  | .low => false
  | .high => true

/-- A program of the protocol: from a read of the line, a value and the next read, or
`none` once a wait has given up. -/
abbrev Protocol := StateT Nat Option

section Protocol

variable (trace : Nat → Bool)

/-- The read at which a wait for `level` starting at read `k` sees its edge, polling at
most `attempts` times: the first of those reads that shows `level`, or `none` when every
one of them shows the other level. -/
def edgeWithin (level : Bool) (attempts k : Nat) : Option Nat :=
  ((List.range attempts).find? fun t => trace (k + t) == level).map (k + ·)

/-- Wait for an edge to `level`: the next read is the one after the edge. -/
def edge (level : Bool) (attempts : Nat) : Protocol Unit := fun k =>
  (edgeWithin trace level attempts k).map fun e => ((), e + 1)

/-- One read of the line. -/
def sample : Protocol Bool := fun k => some (trace k, k + 1)

/-- One data bit: its falling edge, its rising edge, then a sample of the line. -/
def sampleBit : Protocol Bool := do
  edge trace false maxAttempts
  edge trace true maxAttempts
  sample trace

/-- The samples of `n` data bits, in order. -/
def sampleBits : Nat → Protocol (List Bool)
  | 0 => pure []
  | n + 1 => do
    let bit ← sampleBit trace
    let bits ← sampleBits n
    return bit :: bits

/-- A reading: the sensor's falling and rising edges, then 40 data bits; 82 waits in all. -/
def reading : Protocol (List Bool) := do
  edge trace false maxAttempts
  edge trace true maxAttempts
  sampleBits trace 40

/-- The levels a reading samples, `none` when one of its waits gives up. -/
def readingSamples : Option (List Bool) :=
  (reading trace).run' 0

end Protocol

/-- The bits `indices` of `byte` set from the samples `bits`, in order, as `read_byte` sets
them. -/
def assemble : List Nat → List Bool → UInt8 → UInt8
  | i :: indices, high :: bits, byte => assemble indices bits (setBit byte i high)
  | _, _, byte => byte

/-- The byte `read_byte` assembles from the samples of its eight bits. -/
def byteOf (bits : List Bool) : UInt8 :=
  assemble (List.range 8) bits 0

/-- The bytes `read_raw_data` assembles from the samples of its 40 bits. -/
def rawOf (samples : List Bool) : RawData :=
  (byteOf samples, byteOf (samples.drop 8), byteOf (samples.drop 16), byteOf (samples.drop 24),
    byteOf (samples.drop 32))

/-- Byte `k` of the samples, most significant bit first. -/
def sampledByte (samples : List Bool) (k : Nat) : Nat :=
  ((List.range 8).map fun j => (samples.getD (8 * k + j) false).toNat * 2 ^ (7 - j)).sum

/-- What a reading of `samples` returns: a checksum mismatch unless the low eight bits of the
sum of the first four bytes are the fifth; otherwise the humidity of the first two bytes,
and the temperature of the next two, whose top bit is the sign, both in tenths. -/
def decodeSamples {E F : Type} (ops : FloatOps F) (samples : List Bool) :
    Except (Dht22Error E) (Measurement F) :=
  let b := sampledByte samples
  if (b 0 + b 1 + b 2 + b 3) % 256 ≠ b 4 then .error .checksumMismatch
  else
    let temperature := ops.divTen (ops.ofU16 ((b 2 &&& 0x7F) * 256 + b 3).toUInt16)
    .ok ⟨ops.divTen (ops.ofU16 (b 0 * 256 + b 1).toUInt16),
      if 128 ≤ b 2 then ops.neg temperature else temperature⟩

/-! ## Waits -/

section Waits

variable (trace : Nat → Bool)

theorem edgeWithin_succ (level : Bool) (attempts k : Nat) :
    edgeWithin trace level (attempts + 1) k =
      if trace k = level then some k else edgeWithin trace level attempts (k + 1) := by
  by_cases reached : trace k = level
  · simp [edgeWithin, List.range_succ_eq_map, reached]
  · simp [edgeWithin, List.range_succ_eq_map, reached, Option.map_map, Function.comp_def,
      Nat.add_right_comm k 1, Nat.add_assoc]

/-- A wait gives up exactly when every one of its polls shows the other level. -/
theorem edgeWithin_eq_none_iff (level : Bool) (attempts k : Nat) :
    edgeWithin trace level attempts k = none ↔ ∀ t < attempts, trace (k + t) ≠ level := by
  simp [edgeWithin, List.find?_eq_none]

end Waits

/-! ## Bytes -/

section Bytes

theorem toNat_one_shiftLeft {i : Nat} (lt : i < 8) :
    ((1 : UInt8) <<< (7 - i).toUInt8).toNat = 2 ^ (7 - i) := by
  revert i
  decide

/-- Setting bit `i` of a byte whose lower `8 - i` bits are clear adds its weight. -/
theorem toNat_setBit {byte : UInt8} {i : Nat} (lt : i < 8) (clear : 2 ^ (8 - i) ∣ byte.toNat)
    (high : Bool) : (setBit byte i high).toNat = byte.toNat + high.toNat * 2 ^ (7 - i) := by
  cases high
  · simp [setBit]
  · obtain ⟨q, hq⟩ := clear
    rw [setBit, if_pos rfl, toNat_or_uint8, toNat_one_shiftLeft lt, hq,
      two_pow_mul_or_of_lt q (Nat.pow_lt_pow_right (by decide) (by omega))]
    simp

/-- Assembling bits at the positions `s, s + 1, …` adds their weights, most significant
first. -/
theorem toNat_assemble (n : Nat) : ∀ (s : Nat) (bits : List Bool) (byte : UInt8),
    s + n ≤ 8 → 2 ^ (8 - s) ∣ byte.toNat →
    (assemble (List.range' s n) bits byte).toNat =
      byte.toNat + ((List.range n).map fun j => (bits.getD j false).toNat * 2 ^ (7 - (s + j))).sum := by
  induction n with
  | zero => intro s bits byte _ _; rfl
  | succ n ih =>
    intro s bits byte fits clear
    obtain _ | ⟨high, bits⟩ := bits
    · simp [assemble, List.range'_succ]
    · have next : 2 ^ (8 - (s + 1)) ∣ (setBit byte s high).toNat := by
        rw [toNat_setBit (by omega) clear]
        exact Nat.dvd_add ((Nat.pow_dvd_pow 2 (by omega)).trans clear)
          (dvd_mul_of_dvd_right (by rw [show 8 - (s + 1) = 7 - s by omega]) _)
      rw [List.range'_succ, assemble, ih (s + 1) bits _ (by omega) next,
        toNat_setBit (by omega) clear, List.range_succ_eq_map]
      have shifted : ∀ j, 7 - (s + 1 + j) = 7 - (s + (j + 1)) := fun j => by omega
      simp only [List.map_cons, List.map_map, List.sum_cons, Function.comp_def,
        List.getD_cons_zero, List.getD_cons_succ, Nat.add_zero, Nat.succ_eq_add_one, shifted]
      omega

/-- The byte `read_byte` assembles is its samples' value, most significant bit first. -/
theorem toNat_byteOf (bits : List Bool) : (byteOf bits).toNat = sampledByte bits 0 := by
  rw [byteOf, List.range_eq_range', toNat_assemble 8 0 bits 0 le_rfl (by simp)]
  simp [sampledByte]

theorem sampledByte_drop (samples : List Bool) (k : Nat) :
    sampledByte (samples.drop (8 * k)) 0 = sampledByte samples k := by
  simp [sampledByte, List.getElem?_drop]

/-- `high & 0x80 != 0`: the top bit of a byte is set exactly from 128 up. -/
theorem topBit_eq (x : UInt8) : (x &&& 0x80 != 0) = decide (128 ≤ x.toNat) := by
  have lt : x.toNat < 256 := x.toNat_lt_size
  have bit : (x &&& 0x80).toNat = (decide (x.toNat / 128 % 2 = 1)).toNat * 128 := by
    rw [UInt8.and_toNat, show (0x80 : UInt8).toNat = 2 ^ 7 from rfl, Nat.and_two_pow,
      Nat.testBit_to_div_mod]
    rfl
  by_cases top : 128 ≤ x.toNat
  · have set : x.toNat / 128 % 2 = 1 := by omega
    simp [bne, uint8_eq_iff, bit, set, top]
  · have clear : ¬ x.toNat / 128 % 2 = 1 := by omega
    simp [bne, uint8_eq_iff, bit, clear, top]

/-- The wrapping sum `validate_checksum` compares is the sum of the bytes modulo 256. -/
theorem validateChecksum_eq {E : Type} (hh hl th tl checksum : UInt8) :
    (validateChecksum hh hl th tl checksum : Except (Dht22Error E) Unit) =
      if (hh.toNat + hl.toNat + th.toNat + tl.toNat) % 256 = checksum.toNat then .ok ()
      else .error .checksumMismatch := by
  have sum : (hh + hl + th + tl).toNat = (hh.toNat + hl.toNat + th.toNat + tl.toNat) % 256 := by
    simp only [toNat_add_uint8]
    omega
  unfold validateChecksum
  simp only [beq_iff_eq, uint8_eq_iff, sum]

end Bytes

/-! ## Samples -/

namespace Protocol

variable {α β : Type}

/-- Every value `x` returns satisfies `P`. -/
def Returns (x : Protocol α) (P : α → Prop) : Prop :=
  ∀ k a k', x.run k = some (a, k') → P a

theorem Returns.pure {P : α → Prop} {a : α} (holds : P a) : (pure a : Protocol α).Returns P := by
  rintro k a' k' ⟨⟩
  exact holds

theorem Returns.bind {x : Protocol α} {f : α → Protocol β} {P : α → Prop} {Q : β → Prop}
    (first : x.Returns P) (next : ∀ a, P a → (f a).Returns Q) : (x >>= f).Returns Q := by
  intro k b k' ran
  simp only [StateT.run_bind, Option.bind_eq_bind, Option.bind_eq_some] at ran
  obtain ⟨⟨a, k₁⟩, ranFirst, ranNext⟩ := ran
  exact next a (first k a k₁ ranFirst) k₁ b k' ranNext

theorem returns_true (x : Protocol α) : x.Returns fun _ => True :=
  fun _ _ _ _ => trivial

/-- Two continuations that agree on what `x` returns give the same program. -/
theorem Returns.bind_congr {x : Protocol α} {P : α → Prop} {f g : α → Protocol β}
    (returns : x.Returns P) (same : ∀ a, P a → f a = g a) : x >>= f = x >>= g := by
  apply StateT.ext
  intro k
  simp only [StateT.run_bind]
  cases ran : x.run k with
  | none => rfl
  | some p => simp [same p.1 (returns k p.1 p.2 ran)]

end Protocol

section Samples

variable (trace : Nat → Bool)

/-- Assembling bits at `indices` reads no sample beyond the first `indices.length`. -/
theorem assemble_append (indices : List Nat) (bits rest : List Bool) (byte : UInt8)
    (enough : indices.length ≤ bits.length) :
    assemble indices (bits ++ rest) byte = assemble indices bits byte := by
  induction indices generalizing bits byte with
  | nil => rfl
  | cons i indices ih =>
    obtain _ | ⟨high, bits⟩ := bits
    · cases enough
    · exact ih bits _ (Nat.le_of_succ_le_succ enough)

theorem byteOf_append {bits : List Bool} (eight : bits.length = 8) (rest : List Bool) :
    byteOf (bits ++ rest) = byteOf bits :=
  assemble_append _ _ _ _ (by simp [eight])

/-- The bytes of five runs of eight samples are the bytes of each run. -/
theorem rawOf_append {b₀ b₁ b₂ b₃ : List Bool} (l₀ : b₀.length = 8) (l₁ : b₁.length = 8)
    (l₂ : b₂.length = 8) (l₃ : b₃.length = 8) (b₄ : List Bool) :
    rawOf (b₀ ++ (b₁ ++ (b₂ ++ (b₃ ++ b₄)))) =
      (byteOf b₀, byteOf b₁, byteOf b₂, byteOf b₃, byteOf b₄) := by
  simp [rawOf, List.drop_append_eq_append_drop, List.drop_eq_nil_of_le, l₀, l₁, l₂, l₃,
    byteOf_append]

theorem sampleBits_add (m n : Nat) :
    sampleBits trace (m + n) = do
      let front ← sampleBits trace m
      let back ← sampleBits trace n
      return front ++ back := by
  induction m with
  | zero => simp [sampleBits]
  | succ m ih => simp [Nat.succ_add, sampleBits, ih]

theorem sampleBits_returns_length (n : Nat) : (sampleBits trace n).Returns (·.length = n) := by
  induction n with
  | zero => exact Protocol.Returns.pure rfl
  | succ n ih =>
    exact (Protocol.returns_true _).bind fun _ _ =>
      ih.bind fun _ length => Protocol.Returns.pure (by simp [length])

theorem reading_returns_length : (reading trace).Returns (·.length = 40) :=
  (Protocol.returns_true _).bind fun _ _ =>
    (Protocol.returns_true _).bind fun _ _ => sampleBits_returns_length trace 40

end Samples

/-! ## The driver runs the protocol -/

section Correspondence

variable {E α β : Type}

/-- A protocol outcome as the driver reports it: a wait that gave up is a timeout. -/
def orTimeout : Option α → Except (Dht22Error E) α
  | some a => .ok a
  | none => .error .timeout

theorem ok_bind {ε : Type} (a : α) (f : α → Except ε β) : (Except.ok a >>= f) = f a := rfl

/-- A protocol program, run by the driver. -/
def toDriver (x : Protocol α) : DriverM E α := fun k => orTimeout (x.run k)

@[simp] theorem run_toDriver (x : Protocol α) (k : Nat) :
    (toDriver x : DriverM E α).run k = orTimeout (x.run k) := rfl

theorem toDriver_pure (a : α) : (toDriver (pure a) : DriverM E α) = pure a := rfl

theorem toDriver_bind (x : Protocol α) (f : α → Protocol β) :
    (toDriver (x >>= f) : DriverM E β) = toDriver x >>= fun a => toDriver (f a) := by
  apply StateT.ext
  intro k
  simp only [run_toDriver, StateT.run_bind]
  cases x.run k <;> rfl

variable (trace : Nat → Bool)

theorem isHigh_ofLevels : isHigh (Pin.ofLevels trace : Pin E) = toDriver (sample trace) := rfl

@[simp] theorem run_isHigh_ofLevels (k : Nat) :
    (isHigh (Pin.ofLevels trace : Pin E)).run k = .ok (trace k, k + 1) := rfl

@[simp] theorem run_isLow_ofLevels (k : Nat) :
    (isLow (Pin.ofLevels trace : Pin E)).run k = .ok (!trace k, k + 1) := rfl

/-- The polling loop waits exactly as the protocol does. -/
theorem waitUntilStateLoop_ofLevels (state : PinState) (attempts : Nat) :
    waitUntilStateLoop (Pin.ofLevels trace : Pin E) state attempts =
      toDriver (edge trace state.level attempts) := by
  induction attempts with
  | zero => rfl
  | succ attempts ih =>
    apply StateT.ext
    intro k
    have edged : (edge trace state.level (attempts + 1)).run k =
        if trace k = state.level then some ((), k + 1)
        else (edge trace state.level attempts).run (k + 1) := by
      simp only [edge, StateT.run, edgeWithin_succ]
      split <;> rfl
    rw [run_toDriver, edged]
    simp only [waitUntilStateLoop, ih]
    cases state <;> cases h : trace k <;> simp [h, PinState.level] <;> rfl

/-- One pass of `read_byte`'s loop samples one data bit. -/
theorem readBit_ofLevels (byte : UInt8) (i : Nat) :
    readBit (Pin.ofLevels trace : Pin E) byte i =
      toDriver (do return setBit byte i (← sampleBit trace)) := by
  simp only [readBit, waitUntilState, waitUntilStateLoop_ofLevels, isHigh_ofLevels, sampleBit,
    PinState.level, bind_assoc, toDriver_bind, toDriver_pure]

/-- The loop of `read_byte` over any bit positions samples one data bit per position and
sets those bits in order. -/
theorem foldlM_readBit_ofLevels (indices : List Nat) (byte : UInt8) :
    indices.foldlM (readBit (Pin.ofLevels trace : Pin E)) byte =
      toDriver (do return assemble indices (← sampleBits trace indices.length) byte) := by
  induction indices generalizing byte with
  | nil => rfl
  | cons i indices ih =>
    simp only [List.foldlM_cons, readBit_ofLevels, ih, List.length_cons, sampleBits, assemble,
      bind_assoc, pure_bind, toDriver_bind, toDriver_pure]

theorem readByte_ofLevels :
    readByte (Pin.ofLevels trace : Pin E) = toDriver (byteOf <$> sampleBits trace 8) := by
  rw [readByte, foldlM_readBit_ofLevels, List.length_range, map_eq_pure_bind]
  rfl

/-- `read_raw_data` samples 40 data bits and assembles five bytes from them. -/
theorem readRawData_ofLevels :
    readRawData (Pin.ofLevels trace : Pin E) = toDriver (rawOf <$> sampleBits trace 40) := by
  have bytes : readRawData (Pin.ofLevels trace : Pin E) = toDriver (do
      let b₀ ← sampleBits trace 8
      let b₁ ← sampleBits trace 8
      let b₂ ← sampleBits trace 8
      let b₃ ← sampleBits trace 8
      let b₄ ← sampleBits trace 8
      return (byteOf b₀, byteOf b₁, byteOf b₂, byteOf b₃, byteOf b₄)) := by
    simp only [readRawData, readByte_ofLevels, map_eq_pure_bind, bind_assoc, pure_bind,
      toDriver_bind, toDriver_pure]
  have eight := sampleBits_returns_length trace 8
  rw [bytes, show 40 = 8 + (8 + (8 + (8 + 8))) from rfl]
  simp only [sampleBits_add, map_eq_pure_bind, bind_assoc, pure_bind]
  refine congrArg toDriver (eight.bind_congr fun b₀ l₀ => eight.bind_congr fun b₁ l₁ =>
    eight.bind_congr fun b₂ l₂ => eight.bind_congr fun b₃ l₃ => ?_)
  simp only [rawOf_append l₀ l₁ l₂ l₃]

variable {F : Type} (ops : FloatOps F)

/-- Checking and decoding the five bytes assembled from `samples` is decoding `samples`. -/
theorem decode_rawOf (samples : List Bool) :
    (do
      validateChecksum (rawOf samples).1 (rawOf samples).2.1 (rawOf samples).2.2.1
        (rawOf samples).2.2.2.1 (rawOf samples).2.2.2.2
      return (⟨decodeHumidity ops (rawOf samples).1 (rawOf samples).2.1,
        decodeTemperature ops (rawOf samples).2.2.1 (rawOf samples).2.2.2.1⟩ : Measurement F) :
      Except (Dht22Error E) (Measurement F)) = decodeSamples ops samples := by
  have byte : ∀ k, (byteOf (samples.drop (8 * k))).toNat = sampledByte samples k := fun k => by
    rw [toNat_byteOf, sampledByte_drop]
  have b₀ : (byteOf samples).toNat = sampledByte samples 0 := toNat_byteOf samples
  have b₁ : (byteOf (samples.drop 8)).toNat = sampledByte samples 1 := byte 1
  have b₂ : (byteOf (samples.drop 16)).toNat = sampledByte samples 2 := byte 2
  have b₃ : (byteOf (samples.drop 24)).toNat = sampledByte samples 3 := byte 3
  have b₄ : (byteOf (samples.drop 32)).toNat = sampledByte samples 4 := byte 4
  simp only [rawOf, validateChecksum_eq, decodeHumidity, decodeTemperature, decodeSamples,
    pack_eq, topBit_eq, decide_eq_true_eq, UInt8.and_toNat, b₀, b₁, b₂, b₃, b₄,
    show (0x7F : UInt8).toNat = 0x7F from rfl]
  by_cases checked : (sampledByte samples 0 + sampledByte samples 1 + sampledByte samples 2 +
    sampledByte samples 3) % 256 = sampledByte samples 4 <;> simp [checked]

/-- `Dht22::read` runs a reading of the protocol, then checks and decodes its five bytes. -/
theorem read_ofLevels_eq :
    read (Pin.ofLevels trace : Pin E) ops = do
      let (hh, hl, th, tl, checksum) ← toDriver (rawOf <$> reading trace)
      StateT.lift (validateChecksum hh hl th tl checksum)
      return ⟨decodeHumidity ops hh hl, decodeTemperature ops th tl⟩ := by
  simp only [read, sendStartSignal, waitForSensorResponse, waitUntilState,
    waitUntilStateLoop_ofLevels, readRawData_ofLevels, reading, PinState.level, map_bind,
    bind_assoc, toDriver_bind]
  rfl

theorem run_read_ofLevels :
    (read (Pin.ofLevels trace : Pin E) ops).run' 0 =
      match readingSamples trace with
      | none => .error .timeout
      | some samples => decodeSamples ops samples := by
  rw [read_ofLevels_eq, readingSamples, StateT.run'_eq, StateT.run'_eq, StateT.run_bind,
    run_toDriver, StateT.run_map]
  cases h : (reading trace).run 0 with
  | none => rfl
  | some p =>
    obtain ⟨samples, k⟩ := p
    show _ = decodeSamples ops samples
    rw [← decode_rawOf ops samples]
    simp only [Option.map_eq_map, Option.map_some', orTimeout]
    generalize rawOf samples = raw
    obtain ⟨hh, hl, th, tl, checksum⟩ := raw
    simp only [ok_bind, StateT.run_bind, StateT.run_lift]
    cases (validateChecksum hh hl th tl checksum : Except (Dht22Error E) Unit) <;> rfl

end Correspondence

/-! ## What `read` returns -/

section Read

variable {E F : Type} (ops : FloatOps F) (trace : Nat → Bool)

theorem decodeSamples_ne_timeout (samples : List Bool) :
    (decodeSamples ops samples : Except (Dht22Error E) (Measurement F)) ≠ .error .timeout := by
  unfold decodeSamples
  dsimp only
  split_ifs <;> simp

theorem readingSamples_length {samples : List Bool} (sampled : readingSamples trace = some samples) :
    samples.length = 40 := by
  simp only [readingSamples, StateT.run'_eq, Option.map_eq_map, Option.map_eq_some'] at sampled
  obtain ⟨⟨_, k⟩, ran, rfl⟩ := sampled
  exact reading_returns_length trace 0 _ k ran

/-- For every line without pin errors, `Dht22::read` returns `Timeout` exactly when one of
the reading's waits polls `maxAttempts` times without seeing its edge. Otherwise the
reading sampled 40 levels, one after each bit's rising edge, and `read` returns what
`decodeSamples` reads off them: a checksum mismatch unless the low eight bits of the sum of
the first four bytes are the fifth, and else the humidity and the signed temperature. -/
theorem read_ofLevels :
    ((read (Pin.ofLevels trace : Pin E) ops).run' 0 = .error .timeout ↔
        readingSamples trace = none) ∧
      ∀ samples, readingSamples trace = some samples →
        samples.length = 40 ∧
          (read (Pin.ofLevels trace : Pin E) ops).run' 0 = decodeSamples ops samples := by
  rw [run_read_ofLevels]
  cases sampled : readingSamples trace with
  | none => simp
  | some samples =>
    refine ⟨by simpa using decodeSamples_ne_timeout ops samples, ?_⟩
    rintro _ ⟨⟩
    exact ⟨readingSamples_length trace sampled, rfl⟩

/-- The bytes `0x02 0x58 0x80 0xFA` and their checksum `0xD4`, each edge on the first poll:
60.0 % and -25.0 °C, in tenths. -/
example : (read (Pin.ofLevels fun k => if k < 2 then k == 1 else
      match (k - 2) % 3 with
      | 0 => false
      | 1 => true
      | _ => ([0x02, 0x58, 0x80, 0xFA, 0xD4].getD ((k - 2) / 24) 0).testBit (7 - (k - 2) / 3 % 8) :
        Pin Unit) (⟨fun v => (v.toNat : Int), id, Neg.neg⟩ : FloatOps Int)).run' 0 =
      .ok ⟨600, -250⟩ := by
  rfl

end Read

end Tosca.Dht22
