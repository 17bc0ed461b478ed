/-
# The BH1750 driver

`tosca-drivers` drives a BH1750 ambient light sensor over I²C. Besides the bus and a delay
provider the driver keeps three fields: the sensor's bus address, the measurement-time
register `MTreg` it last set, and the resolution of the continuous measurement it last
started. Every instruction is one byte written to the sensor; a measurement is a two-byte
big-endian read, after a delay that scales with `MTreg`.

The bus is the environment. Whether a transaction is acknowledged, and the two bytes a
read returns, may depend on everything the driver did before (`Bus`). The driver runs in
`DriverM`, an error monad over a state holding its fields and the log of its transactions
(`World`). The state survives an error, as the driver's fields and the transactions on the
bus do when Rust's `?` returns early. `f32` is not in Lean: what `raw_to_lux` applies to it
is the parameter `FloatOps`.

Over the code sits what the log told the sensor (`Told`): the halves of `MTreg` carried by
the last acknowledged `MTREG_HIGH` and `MTREG_LOW` instructions, which is how `set_mtreg`
splits the register, and the resolution of the last acknowledged continuous-measurement
instruction.

## Main results

* `inv_runCommands` — from `Bh1750::new`, every sequence of calls on every bus keeps `MTreg`
  within `[MTREG_MIN, MTREG_MAX]`, sends every transaction to the sensor's address, waits
  between 7 and 441 ms before each read, and keeps the low half of `MTreg` and the
  continuous resolution equal to what the log told the sensor
* `runCommands_mtreg_eq_told` — on a bus that acknowledges every write, the driver's `MTreg`
  is the one the sensor was told
* `setMtreg_torn` — when the second `MTreg` instruction fails, the driver keeps its old
  `MTreg` while the sensor was told the new high half
* `readContinuousMeasurement_after_runCommands` — a continuous reading uses the resolution of
  the last acknowledged continuous-measurement instruction, whatever came after it
-/

import Mathlib.Data.List.Basic
import Tosca.Bits

namespace Tosca

/-- `Bh1750Error<E>`. -/
inductive Bh1750Error (E : Type)
  | i2c (error : E)
  | continuousMeasurementNotStarted
  deriving DecidableEq, Repr

namespace Bh1750

/-! The instruction opcodes of the sensor. -/

namespace Opcode

/-- `POWER_DOWN`. -/
def powerDown : UInt8 := 0x00

/-- `POWER_ON`. -/
def powerOn : UInt8 := 0x01

/-- `RESET`. -/
def reset : UInt8 := 0x07

/-- `MTREG_HIGH`: the instruction carrying the high three bits of `MTreg`. -/
def mtregHigh : UInt8 := 0x40

/-- `MTREG_LOW`: the instruction carrying the low five bits of `MTreg`. -/
def mtregLow : UInt8 := 0x60

end Opcode

/-- `MTREG_MIN`. -/
def mtregMin : UInt8 := 31

/-- `MTREG_MAX`. -/
def mtregMax : UInt8 := 254

/-- `DEFAULT_MTREG`. -/
def defaultMtreg : UInt8 := 69

/-- `Address`: where the ADD pin puts the sensor on the bus. -/
inductive Address
  | low
  | high
  deriving DecidableEq, Repr

/-- `address as u8`. -/
def Address.toUInt8 : Address → UInt8
  | .low => 0x23
  | .high => 0x5C

/-- `Resolution`. -/
inductive Resolution
  | high
  | high2
  | low
  deriving DecidableEq, Repr

/-- What `raw_to_lux` uses of `f32`: `f32::from` on a `u16` and on a `u8`, multiplication,
division, and the literals `1.0`, `0.5`, `4.0` and `1.2`. -/
structure FloatOps (F : Type) where
  ofU16 : UInt16 → F
  ofU8 : UInt8 → F
  mul : F → F → F
  div : F → F → F
  one : F
  half : F
  four : F
  onePointTwo : F

namespace Resolution

/-- `continuous_measurement_opcode`. -/
def continuousMeasurementOpcode : Resolution → UInt8
  | .high => 0x10
  | .high2 => 0x11
  | .low => 0x13

/-- `one_time_measurement_opcode`. -/
def oneTimeMeasurementOpcode : Resolution → UInt8
  | .high => 0x20
  | .high2 => 0x21
  | .low => 0x23

/-- `default_measurement_time_ms`. -/
def defaultMeasurementTimeMs : Resolution → UInt32
  | .high | .high2 => 120
  | .low => 16

/-- `default_resolution_lx_count`. -/
def defaultResolutionLxCount {F : Type} (ops : FloatOps F) : Resolution → F
  | .high => ops.one
  | .high2 => ops.half
  | .low => ops.four

end Resolution

end Bh1750

open Bh1750 in
/-- `Bh1750<I2C, D>`: the fields the driver keeps besides the bus and the delay provider. -/
structure Bh1750 where
  address : Address
  mtreg : UInt8
  continuousResolution : Option Resolution
  deriving DecidableEq, Repr

namespace Bh1750

/-- `Bh1750::new`. -/
def new (address : Address) : Bh1750 := ⟨address, defaultMtreg, none⟩

/-- A transaction of the driver: a write of `bytes` or a two-byte read at a bus address,
each with whether the bus acknowledged it, or a delay. -/
inductive Effect
  | write (address : UInt8) (bytes : List UInt8) (acked : Bool)
  | read (address : UInt8) (acked : Bool)
  | delayMs (ms : UInt32)
  deriving DecidableEq, Repr

/-- The I²C bus as the driver sees it: the outcome of a write, and of a two-byte read, given
the transactions so far. -/
structure Bus (E : Type) where
  write : List Effect → UInt8 → List UInt8 → Except E Unit
  read : List Effect → UInt8 → Except E (UInt8 × UInt8)

/-- The driver's fields and the transactions it has made, oldest first. -/
structure World where
  driver : Bh1750
  log : List Effect

/-- The driver's computations. -/
abbrev DriverM (E : Type) := ExceptT (Bh1750Error E) (StateM World)

/-- Run a computation of the driver from a world. -/
def exec {E α : Type} (x : DriverM E α) (w : World) : Except (Bh1750Error E) α × World :=
  x.run.run w

section Driver

variable {E : Type} (bus : Bus E)

/-- `self.i2c.write(self.address as u8, bytes)`, its error wrapped by `From<E>`. -/
def i2cWrite (bytes : List UInt8) : DriverM E Unit :=
  ExceptT.mk fun w =>
    let address := w.driver.address.toUInt8
    let result := bus.write w.log address bytes
    (result.mapError .i2c, { w with log := w.log ++ [.write address bytes result.isOk] })

/-- `self.i2c.read(self.address as u8, &mut buf)` into a two-byte buffer. -/
def i2cRead : DriverM E (UInt8 × UInt8) :=
  ExceptT.mk fun w =>
    let address := w.driver.address.toUInt8
    let result := bus.read w.log address
    (result.mapError .i2c, { w with log := w.log ++ [.read address result.isOk] })

/-- `self.delay.delay_ms(ms)`. -/
def delayMs (ms : UInt32) : DriverM E Unit :=
  ExceptT.mk fun w => (.ok (), { w with log := w.log ++ [.delayMs ms] })

/-- Read the driver's fields. -/
def getDriver : DriverM E Bh1750 :=
  ExceptT.mk fun w => (.ok w.driver, w)

/-- Update the driver's fields. -/
def modifyDriver (f : Bh1750 → Bh1750) : DriverM E Unit :=
  ExceptT.mk fun w => (.ok (), { w with driver := f w.driver })

/-- `send_instruction`. -/
def sendInstruction (instr : UInt8) : DriverM E Unit :=
  i2cWrite bus [instr]

/-- `power_on`. -/
def powerOn : DriverM E Unit :=
  sendInstruction bus Opcode.powerOn

/-- `power_down`. -/
def powerDown : DriverM E Unit :=
  sendInstruction bus Opcode.powerDown

/-- `reset`. -/
def reset : DriverM E Unit :=
  sendInstruction bus Opcode.reset

/-- `Ord::clamp`. -/
def clamp (x min max : UInt8) : UInt8 :=
  if x < min then min else if max < x then max else x

/-- `set_mtreg`: clamp the value, send its high three and low five bits as two
instructions, and only then record it. -/
def setMtreg (mtreg : UInt8) : DriverM E Unit := do
  let mt := clamp mtreg mtregMin mtregMax
  let high := Opcode.mtregHigh ||| (mt >>> 5)
  let low := Opcode.mtregLow ||| (mt &&& 0x1F)
  sendInstruction bus high
  sendInstruction bus low
  modifyDriver fun d => { d with mtreg := mt }

/-- `measurement_time_ms`: the default time scaled by `MTreg / 69`, in `u32`. -/
def measurementTimeMs (d : Bh1750) (res : Resolution) : UInt32 :=
  res.defaultMeasurementTimeMs * d.mtreg.toUInt32 / defaultMtreg.toUInt32

/-- `raw_to_lux`. -/
def rawToLux {F : Type} (ops : FloatOps F) (d : Bh1750) (raw : UInt16) (res : Resolution) : F :=
  ops.div
    (ops.mul (ops.mul (ops.ofU16 raw) (res.defaultResolutionLxCount ops))
      (ops.div (ops.ofU8 d.mtreg) (ops.ofU8 defaultMtreg)))
    ops.onePointTwo

/-- `read_raw`: `u16::from_be_bytes` of the two bytes read. -/
def readRaw : DriverM E UInt16 := do
  let (high, low) ← i2cRead bus
  return (high.toUInt16 <<< 8) ||| low.toUInt16

/-- `start_one_time_measurement`. -/
def startOneTimeMeasurement (res : Resolution) : DriverM E Unit :=
  sendInstruction bus res.oneTimeMeasurementOpcode

variable {F : Type} (ops : FloatOps F)

/-- `one_time_measurement`. -/
def oneTimeMeasurement (res : Resolution) : DriverM E F := do
  startOneTimeMeasurement bus res
  delayMs (measurementTimeMs (← getDriver) res)
  let raw ← readRaw bus
  return rawToLux ops (← getDriver) raw res

/-- `start_continuous_measurement`: the resolution is recorded once the instruction is
acknowledged. -/
def startContinuousMeasurement (res : Resolution) : DriverM E Unit := do
  sendInstruction bus res.continuousMeasurementOpcode
  modifyDriver fun d => { d with continuousResolution := some res }

/-- `read_continuous_measurement`. -/
def readContinuousMeasurement : DriverM E F := do
  let some res := (← getDriver).continuousResolution
    | throw .continuousMeasurementNotStarted
  delayMs (measurementTimeMs (← getDriver) res)
  let raw ← readRaw bus
  return rawToLux ops (← getDriver) raw res

/-- A call of the driver's public interface. -/
inductive Command
  | powerOn
  | powerDown
  | reset
  | setMtreg (mtreg : UInt8)
  | oneTimeMeasurement (res : Resolution)
  | startContinuousMeasurement (res : Resolution)
  | readContinuousMeasurement
  deriving DecidableEq, Repr

/-- Make the call, dropping what it returns. -/
def Command.run : Command → DriverM E Unit
  | .powerOn => Bh1750.powerOn bus
  | .powerDown => Bh1750.powerDown bus
  | .reset => Bh1750.reset bus
  | .setMtreg mtreg => Bh1750.setMtreg bus mtreg
  | .oneTimeMeasurement res => discard (Bh1750.oneTimeMeasurement bus ops res)
  | .startContinuousMeasurement res => Bh1750.startContinuousMeasurement bus res
  | .readContinuousMeasurement => discard (Bh1750.readContinuousMeasurement bus ops)

/-- The world after one call, whether it succeeded or not. -/
def step (w : World) (c : Command) : World :=
  (exec (c.run bus ops) w).2

/-- The world after a sequence of calls. -/
def runCommands (cmds : List Command) (w : World) : World :=
  cmds.foldl (step bus ops) w

end Driver

/-- The world of a driver just built by `Bh1750::new`. -/
def init (address : Address) : World := ⟨new address, []⟩

/-! ## What the log told the sensor -/

/-- The resolution whose continuous-measurement opcode is `instr`. -/
def Resolution.ofContinuousOpcode (instr : UInt8) : Option Resolution :=
  [Resolution.high, .high2, .low].find? (·.continuousMeasurementOpcode == instr)

/-- What the acknowledged instructions set: the high three and low five bits of `MTreg`,
and the resolution of the continuous measurement. -/
structure Told where
  mtregHigh : Nat
  mtregLow : Nat
  continuous : Option Resolution
  deriving DecidableEq, Repr

namespace Told

/-- Before any instruction: the default `MTreg`, no continuous measurement. -/
def init : Told := ⟨defaultMtreg.toNat / 32, defaultMtreg.toNat % 32, none⟩

/-- One acknowledged instruction: `01000hhh` sets the high bits of `MTreg`, `011lllll` the low
bits, and a continuous-measurement opcode the resolution. -/
def instruct (t : Told) (instr : UInt8) : Told :=
  if instr.toNat / 8 = 8 then { t with mtregHigh := instr.toNat % 8 }
  else if instr.toNat / 32 = 3 then { t with mtregLow := instr.toNat % 32 }
  else match Resolution.ofContinuousOpcode instr with
    | some res => { t with continuous := some res }
    | none => t

/-- One transaction: only an acknowledged one-byte write is an instruction. -/
def apply (t : Told) : Effect → Told
  | .write _ [instr] true => t.instruct instr
  | _ => t

/-- The register the two halves make. -/
def mtreg (t : Told) : Nat := t.mtregHigh * 32 + t.mtregLow

end Told

/-- What the log told the sensor. -/
def told (log : List Effect) : Told := log.foldl Told.apply Told.init

/-- Whether a transaction goes to `address`; a delay goes nowhere. -/
def Effect.addressedTo (address : UInt8) : Effect → Bool
  | .write a _ _ | .read a _ => a == address
  | .delayMs _ => true

/-- What every run from `Bh1750::new address` keeps. -/
structure Inv (address : Address) (w : World) : Prop where
  address_eq : w.driver.address = address
  mtreg_ge : mtregMin.toNat ≤ w.driver.mtreg.toNat
  mtreg_le : w.driver.mtreg.toNat ≤ mtregMax.toNat
  addressed : ∀ e ∈ w.log, e.addressedTo address.toUInt8
  delays : ∀ ms, Effect.delayMs ms ∈ w.log → 7 ≤ ms.toNat ∧ ms.toNat ≤ 441
  low : w.driver.mtreg.toNat % 32 = (told w.log).mtregLow
  continuous : w.driver.continuousResolution = (told w.log).continuous

/-- The resolution a call measures at: a one-time measurement's own, the recorded one for a
continuous read. The other calls measure nothing. -/
def Command.measures (d : Bh1750) : Command → Option Resolution
  | .oneTimeMeasurement res => some res
  | .readContinuousMeasurement => d.continuousResolution
  | _ => none

/-- The transactions `es` of a call pair each read with the delay right before it: every
delay is followed by a read at `address`, every read follows a delay, and each delay is
`measurement_time_ms(res)` for the driver `d` and the resolution `measured` of the call,
whose value is the default time scaled by `MTreg / 69` with no `u32` overflow. -/
def ReadsAfterWait (d : Bh1750) (measured : Option Resolution) (address : UInt8) :
    List Effect → Prop
  | [] => True
  | .write _ _ _ :: rest => ReadsAfterWait d measured address rest
  | .delayMs ms :: .read a _ :: rest =>
    (∃ res, measured = some res ∧ ms = measurementTimeMs d res ∧
      ms.toNat = res.defaultMeasurementTimeMs.toNat * d.mtreg.toNat / 69) ∧
    a = address ∧ ReadsAfterWait d measured address rest
  | .delayMs _ :: [] => False
  | .delayMs _ :: .write _ _ _ :: _ => False
  | .delayMs _ :: .delayMs _ :: _ => False
  | .read _ _ :: _ => False

/-! ## Bytes of the instructions -/

theorem toNat_mtregHigh_or (mt : UInt8) :
    (Opcode.mtregHigh ||| mt >>> 5).toNat = 64 + mt.toNat / 32 := by
  have shifted : (mt >>> 5).toNat = mt.toNat / 32 := by
    show (mt.toBitVec >>> (UInt8.mod 5 8).toBitVec).toNat = _
    rw [BitVec.ushiftRight_eq', BitVec.toNat_ushiftRight, Nat.shiftRight_eq_div_pow]
    rfl
  have small : mt.toNat / 32 < 2 ^ 3 := by
    have := mt.toNat_lt_size
    simp only [UInt8.size] at this
    omega
  rw [toNat_or_uint8, shifted]
  exact two_pow_mul_or_of_lt 8 small

theorem toNat_mtregLow_or (mt : UInt8) :
    (Opcode.mtregLow ||| (mt &&& 0x1F)).toNat = 96 + mt.toNat % 32 := by
  have masked : (mt &&& 0x1F).toNat = mt.toNat % 2 ^ 5 := by
    rw [UInt8.and_toNat, show (0x1F : UInt8).toNat = 2 ^ 5 - 1 from rfl,
      Nat.and_pow_two_sub_one_eq_mod]
  rw [toNat_or_uint8, masked]
  exact two_pow_mul_or_of_lt 3 (Nat.mod_lt _ (by decide : 2 ^ 5 > 0))

/-- `clamp` keeps `MTreg` within its bounds. -/
theorem clamp_mem (x : UInt8) :
    mtregMin.toNat ≤ (clamp x mtregMin mtregMax).toNat ∧
      (clamp x mtregMin mtregMax).toNat ≤ mtregMax.toNat := by
  unfold clamp
  split_ifs with below above
  · decide
  · decide
  · rw [UInt8.lt_def, BitVec.lt_def] at below above
    exact ⟨Nat.le_of_not_lt below, Nat.le_of_not_lt above⟩

/-- `measurement_time_ms` does not overflow: `u32` holds `120 * 255`. -/
theorem toNat_measurementTimeMs (d : Bh1750) (res : Resolution) :
    (measurementTimeMs d res).toNat = res.defaultMeasurementTimeMs.toNat * d.mtreg.toNat / 69 := by
  have time : res.defaultMeasurementTimeMs.toNat ≤ 120 := by cases res <;> decide
  have fits : res.defaultMeasurementTimeMs.toNat * d.mtreg.toNat < 2 ^ 32 := by
    have := d.mtreg.toNat_lt_size
    simp only [UInt8.size] at this
    calc _ ≤ 120 * 255 := Nat.mul_le_mul time (by omega)
      _ < 2 ^ 32 := by decide
  show (res.defaultMeasurementTimeMs.toBitVec * d.mtreg.toUInt32.toBitVec).toNat / 69 = _
  rw [BitVec.toNat_mul]
  exact congrArg (· / 69) (Nat.mod_eq_of_lt fits)

/-- With `MTreg` within its bounds the delay is between 7 and 441 ms. -/
theorem measurementTimeMs_mem {d : Bh1750} (ge : mtregMin.toNat ≤ d.mtreg.toNat)
    (le : d.mtreg.toNat ≤ mtregMax.toNat) (res : Resolution) :
    7 ≤ (measurementTimeMs d res).toNat ∧ (measurementTimeMs d res).toNat ≤ 441 := by
  change 31 ≤ d.mtreg.toNat at ge
  change d.mtreg.toNat ≤ 254 at le
  have time :
      res.defaultMeasurementTimeMs.toNat = 120 ∨ res.defaultMeasurementTimeMs.toNat = 16 := by
    cases res <;> decide
  rw [toNat_measurementTimeMs]
  rcases time with time | time <;> rw [time] <;> omega

/-! ## What each instruction tells the sensor -/

namespace Told

variable (t : Told)

theorem instruct_mtregHigh (mt : UInt8) :
    t.instruct (Opcode.mtregHigh ||| mt >>> 5) = { t with mtregHigh := mt.toNat / 32 } := by
  have lt : mt.toNat < 256 := mt.toNat_lt_size
  rw [instruct, toNat_mtregHigh_or, if_pos (by omega),
    show (64 + mt.toNat / 32) % 8 = mt.toNat / 32 by omega]

theorem instruct_mtregLow (mt : UInt8) :
    t.instruct (Opcode.mtregLow ||| (mt &&& 0x1F)) = { t with mtregLow := mt.toNat % 32 } := by
  rw [instruct, toNat_mtregLow_or, if_neg (by omega), if_pos (by omega),
    show (96 + mt.toNat % 32) % 32 = mt.toNat % 32 by omega]

@[simp] theorem instruct_powerOn : t.instruct Opcode.powerOn = t := rfl

@[simp] theorem instruct_powerDown : t.instruct Opcode.powerDown = t := rfl

@[simp] theorem instruct_reset : t.instruct Opcode.reset = t := rfl

@[simp] theorem instruct_oneTimeMeasurementOpcode (res : Resolution) :
    t.instruct res.oneTimeMeasurementOpcode = t := by
  cases res <;> rfl

@[simp] theorem instruct_continuousMeasurementOpcode (res : Resolution) :
    t.instruct res.continuousMeasurementOpcode = { t with continuous := some res } := by
  cases res <;> rfl

end Told

theorem told_append (log es : List Effect) : told (log ++ es) = es.foldl Told.apply (told log) :=
  List.foldl_append ..

/-! ## Running the driver's code -/

section Exec

variable {E α β : Type} (bus : Bus E)

theorem exec_bind (x : DriverM E α) (f : α → DriverM E β) (w : World) :
    exec (x >>= f) w = match exec x w with
      | (.ok a, w') => exec (f a) w'
      | (.error e, w') => (.error e, w') := by
  unfold exec
  rw [ExceptT.run_bind, StateT.run_bind]
  rcases x.run.run w with ⟨_ | _, w'⟩ <;> rfl

theorem exec_pure (a : α) (w : World) : exec (pure a : DriverM E α) w = (.ok a, w) := rfl

theorem exec_sendInstruction (instr : UInt8) (w : World) :
    exec (sendInstruction bus instr) w =
      ((bus.write w.log w.driver.address.toUInt8 [instr]).mapError .i2c,
        { w with log := w.log ++ [.write w.driver.address.toUInt8 [instr]
          (bus.write w.log w.driver.address.toUInt8 [instr]).isOk] }) := rfl

theorem exec_sendInstruction_bind (instr : UInt8) (k : Unit → DriverM E α) (w : World) :
    exec (sendInstruction bus instr >>= k) w =
      match bus.write w.log w.driver.address.toUInt8 [instr] with
      | .ok () => exec (k ())
          { w with log := w.log ++ [.write w.driver.address.toUInt8 [instr] true] }
      | .error e => (.error (.i2c e),
          { w with log := w.log ++ [.write w.driver.address.toUInt8 [instr] false] }) := by
  rw [exec_bind, exec_sendInstruction]
  cases bus.write w.log w.driver.address.toUInt8 [instr] <;> rfl

theorem exec_i2cRead (w : World) :
    exec (i2cRead bus) w =
      ((bus.read w.log w.driver.address.toUInt8).mapError .i2c,
        { w with log := w.log ++ [.read w.driver.address.toUInt8
          (bus.read w.log w.driver.address.toUInt8).isOk] }) := rfl

theorem exec_readRaw_bind (k : UInt16 → DriverM E α) (w : World) :
    exec (readRaw bus >>= k) w =
      match bus.read w.log w.driver.address.toUInt8 with
      | .ok (high, low) => exec (k ((high.toUInt16 <<< 8) ||| low.toUInt16))
          { w with log := w.log ++ [.read w.driver.address.toUInt8 true] }
      | .error e => (.error (.i2c e),
          { w with log := w.log ++ [.read w.driver.address.toUInt8 false] }) := by
  unfold readRaw
  rw [bind_assoc, exec_bind, exec_i2cRead]
  rcases bus.read w.log w.driver.address.toUInt8 with _ | ⟨_, _⟩ <;> rfl

theorem exec_delayMs_bind (ms : UInt32) (k : Unit → DriverM E α) (w : World) :
    exec (delayMs ms >>= k) w = exec (k ()) { w with log := w.log ++ [.delayMs ms] } := rfl

theorem exec_getDriver_bind (k : Bh1750 → DriverM E α) (w : World) :
    exec (getDriver >>= k) w = exec (k w.driver) w := rfl

theorem exec_modifyDriver (f : Bh1750 → Bh1750) (w : World) :
    exec (modifyDriver f : DriverM E Unit) w = (.ok (), { w with driver := f w.driver }) := rfl

end Exec

/-! ## What each call does -/

section Calls

variable {E F : Type} (bus : Bus E) (ops : FloatOps F)

theorem exec_discard {α : Type} (x : DriverM E α) (w : World) :
    (exec (discard x) w).2 = (exec x w).2 := by
  show (exec (x >>= fun _ => pure ()) w).2 = _
  rw [exec_bind]
  rcases exec x w with ⟨_ | _, _⟩ <;> rfl

/-- `set_mtreg` records the clamped value only once both of its instructions are
acknowledged. -/
theorem exec_setMtreg (mtreg : UInt8) (w : World) :
    exec (setMtreg bus mtreg) w =
      let a := w.driver.address.toUInt8
      let mt := clamp mtreg mtregMin mtregMax
      let high := Opcode.mtregHigh ||| (mt >>> 5)
      let low := Opcode.mtregLow ||| (mt &&& 0x1F)
      let sent := w.log ++ [.write a [high] true]
      match bus.write w.log a [high] with
      | .ok () => match bus.write sent a [low] with
        | .ok () => (.ok (), ⟨{ w.driver with mtreg := mt }, sent ++ [.write a [low] true]⟩)
        | .error e => (.error (.i2c e), { w with log := sent ++ [.write a [low] false] })
      | .error e => (.error (.i2c e), { w with log := w.log ++ [.write a [high] false] }) := by
  simp only [setMtreg, exec_sendInstruction_bind, exec_modifyDriver]

/-- `start_continuous_measurement` records the resolution once its instruction is
acknowledged. -/
theorem exec_startContinuousMeasurement (res : Resolution) (w : World) :
    exec (startContinuousMeasurement bus res) w =
      let a := w.driver.address.toUInt8
      let op := res.continuousMeasurementOpcode
      match bus.write w.log a [op] with
      | .ok () => (.ok (), ⟨{ w.driver with continuousResolution := some res },
          w.log ++ [.write a [op] true]⟩)
      | .error e => (.error (.i2c e), { w with log := w.log ++ [.write a [op] false] }) := by
  simp only [startContinuousMeasurement, exec_sendInstruction_bind, exec_modifyDriver]

/-- A one-time measurement sends its opcode, then waits and reads if it was acknowledged. -/
theorem step_oneTimeMeasurement (res : Resolution) (w : World) :
    step bus ops w (.oneTimeMeasurement res) =
      let a := w.driver.address.toUInt8
      let op := res.oneTimeMeasurementOpcode
      let waited := w.log ++ [.write a [op] true] ++ [.delayMs (measurementTimeMs w.driver res)]
      match bus.write w.log a [op] with
      | .ok () => { w with log := waited ++ [.read a (bus.read waited a).isOk] }
      | .error _ => { w with log := w.log ++ [.write a [op] false] } := by
  rcases written : bus.write w.log w.driver.address.toUInt8 [res.oneTimeMeasurementOpcode]
    with _ | ⟨⟩ <;>
    simp only [step, Command.run, exec_discard, oneTimeMeasurement, startOneTimeMeasurement,
      exec_sendInstruction_bind, exec_getDriver_bind, exec_delayMs_bind, exec_readRaw_bind, written]
  rcases bus.read _ _ with _ | ⟨_, _⟩ <;> rfl

/-- `read_continuous_measurement` fails before any transaction when no continuous measurement
was recorded; otherwise it waits, reads, and converts the big-endian reading at the recorded
resolution. -/
theorem exec_readContinuousMeasurement (w : World) :
    exec (readContinuousMeasurement bus ops) w =
      match w.driver.continuousResolution with
      | some res =>
        let a := w.driver.address.toUInt8
        let waited := w.log ++ [.delayMs (measurementTimeMs w.driver res)]
        match bus.read waited a with
        | .ok (high, low) =>
          (.ok (rawToLux ops w.driver (high.toNat * 256 + low.toNat).toUInt16 res),
            { w with log := waited ++ [.read a true] })
        | .error e => (.error (.i2c e), { w with log := waited ++ [.read a false] })
      | none => (.error .continuousMeasurementNotStarted, w) := by
  rcases resolution : w.driver.continuousResolution with _ | res <;>
    simp only [readContinuousMeasurement, exec_getDriver_bind, resolution]
  · rfl
  · simp only [exec_delayMs_bind, exec_getDriver_bind, exec_readRaw_bind]
    rcases bus.read _ _ with _ | ⟨high, low⟩
    · rfl
    · dsimp only
      rw [pack_eq]
      rfl

/-- Reading a continuous measurement that was never started makes no transaction. -/
theorem step_readContinuousMeasurement (w : World) :
    step bus ops w .readContinuousMeasurement =
      match w.driver.continuousResolution with
      | some res =>
        let a := w.driver.address.toUInt8
        let waited := w.log ++ [.delayMs (measurementTimeMs w.driver res)]
        { w with log := waited ++ [.read a (bus.read waited a).isOk] }
      | none => w := by
  rw [step, Command.run, exec_discard, exec_readContinuousMeasurement]
  split
  · dsimp only
    rcases bus.read _ _ with _ | ⟨_, _⟩ <;> rfl
  · rfl

end Calls

/-! ## The invariant -/

section Invariant

variable {E F : Type} (bus : Bus E) (ops : FloatOps F) {address : Address} {w : World}

theorem inv_init (address : Address) : Inv address (init address) where
  address_eq := rfl
  mtreg_ge := show mtregMin.toNat ≤ defaultMtreg.toNat by decide
  mtreg_le := show defaultMtreg.toNat ≤ mtregMax.toNat by decide
  addressed := by simp [init]
  delays := by simp [init]
  low := rfl
  continuous := rfl

/-- A call keeps the invariant when it appends transactions that go to the sensor and wait
within bounds, and leaves the driver with the same address, an `MTreg` within bounds whose low
bits and a continuous mode which are those the log told the sensor. -/
theorem Inv.extend (inv : Inv address w) {d : Bh1750} {es : List Effect}
    (address_eq : d.address = w.driver.address)
    (mtreg_mem : mtregMin.toNat ≤ d.mtreg.toNat ∧ d.mtreg.toNat ≤ mtregMax.toNat)
    (addressed : ∀ e ∈ es, e.addressedTo address.toUInt8)
    (delays : ∀ ms, Effect.delayMs ms ∈ es → 7 ≤ ms.toNat ∧ ms.toNat ≤ 441)
    (low : d.mtreg.toNat % 32 = (es.foldl Told.apply (told w.log)).mtregLow)
    (continuous : d.continuousResolution = (es.foldl Told.apply (told w.log)).continuous) :
    Inv address ⟨d, w.log ++ es⟩ where
  address_eq := address_eq.trans inv.address_eq
  mtreg_ge := mtreg_mem.1
  mtreg_le := mtreg_mem.2
  addressed := List.forall_mem_append.2 ⟨inv.addressed, addressed⟩
  delays ms mem := (List.mem_append.1 mem).elim (inv.delays ms) (delays ms)
  low := by rw [told_append]; exact low
  continuous := by rw [told_append]; exact continuous

/-- Transactions that leave the low bits of `MTreg` and the continuous mode as they were keep
the invariant. -/
theorem Inv.append (inv : Inv address w) {es : List Effect}
    (addressed : ∀ e ∈ es, e.addressedTo address.toUInt8)
    (delays : ∀ ms, Effect.delayMs ms ∈ es → 7 ≤ ms.toNat ∧ ms.toNat ≤ 441)
    (low : (es.foldl Told.apply (told w.log)).mtregLow = (told w.log).mtregLow)
    (continuous : (es.foldl Told.apply (told w.log)).continuous = (told w.log).continuous) :
    Inv address { w with log := w.log ++ es } :=
  inv.extend rfl ⟨inv.mtreg_ge, inv.mtreg_le⟩ addressed delays (low ▸ inv.low)
    (continuous ▸ inv.continuous)

/-- An instruction that tells the sensor nothing keeps the invariant. -/
theorem Inv.sendInstruction (inv : Inv address w) {instr : UInt8}
    (silent : ∀ t : Told, t.instruct instr = t) :
    Inv address (exec (sendInstruction bus instr) w).2 := by
  refine inv.append (by simp [Effect.addressedTo, inv.address_eq]) (by simp) ?_ ?_ <;>
    cases (bus.write w.log w.driver.address.toUInt8 [instr]).isOk <;> simp [Told.apply, silent]

theorem Inv.setMtreg (inv : Inv address w) (mtreg : UInt8) :
    Inv address (exec (setMtreg bus mtreg) w).2 := by
  rw [exec_setMtreg]
  dsimp only
  split
  · split
    · rw [List.append_assoc]
      refine inv.extend rfl (clamp_mem mtreg) (by simp [Effect.addressedTo, inv.address_eq])
        (by simp) ?_ ?_ <;>
        simp [Told.apply, Told.instruct_mtregHigh, Told.instruct_mtregLow, inv.continuous]
    · rw [List.append_assoc]
      refine inv.append (by simp [Effect.addressedTo, inv.address_eq]) (by simp) ?_ ?_ <;>
        simp [Told.apply, Told.instruct_mtregHigh]
  · exact inv.append (by simp [Effect.addressedTo, inv.address_eq]) (by simp) rfl rfl

theorem Inv.startContinuousMeasurement (inv : Inv address w) (res : Resolution) :
    Inv address (exec (startContinuousMeasurement bus res) w).2 := by
  rw [exec_startContinuousMeasurement]
  dsimp only
  split
  · refine inv.extend rfl ⟨inv.mtreg_ge, inv.mtreg_le⟩
      (by simp [Effect.addressedTo, inv.address_eq]) (by simp) ?_ ?_ <;>
      simp [Told.apply, inv.low]
  · exact inv.append (by simp [Effect.addressedTo, inv.address_eq]) (by simp) rfl rfl

theorem Inv.oneTimeMeasurement (inv : Inv address w) (res : Resolution) :
    Inv address (step bus ops w (.oneTimeMeasurement res)) := by
  have waits := measurementTimeMs_mem inv.mtreg_ge inv.mtreg_le res
  rw [step_oneTimeMeasurement]
  dsimp only
  split
  · rw [List.append_assoc, List.append_assoc]
    refine inv.append (by simp [Effect.addressedTo, inv.address_eq]) (by simpa using waits)
      ?_ ?_ <;>
      simp [Told.apply]
  · exact inv.append (by simp [Effect.addressedTo, inv.address_eq]) (by simp) rfl rfl

theorem Inv.readContinuousMeasurement (inv : Inv address w) :
    Inv address (step bus ops w .readContinuousMeasurement) := by
  rw [step_readContinuousMeasurement]
  split
  · rename_i res _
    have waits := measurementTimeMs_mem inv.mtreg_ge inv.mtreg_le res
    dsimp only
    rw [List.append_assoc]
    exact inv.append (by simp [Effect.addressedTo, inv.address_eq]) (by simpa using waits) rfl rfl
  · exact inv

/-- From a world of the invariant, each call appends transactions that read only right after
waiting `measurement_time_ms` for the driver's `MTreg` and the resolution the call
measures. -/
theorem Inv.readsAfterWait (inv : Inv address w) (c : Command) :
    ∃ es, (step bus ops w c).log = w.log ++ es ∧
      ReadsAfterWait w.driver (c.measures w.driver) address.toUInt8 es := by
  cases c with
  | powerOn | powerDown | reset => exact ⟨_, rfl, trivial⟩
  | startContinuousMeasurement res =>
    rw [step, Command.run, exec_startContinuousMeasurement]
    dsimp only
    split <;> exact ⟨_, rfl, trivial⟩
  | setMtreg mtreg =>
    rw [step, Command.run, exec_setMtreg]
    dsimp only
    split
    · split <;> exact ⟨_, List.append_assoc .., trivial⟩
    · exact ⟨_, rfl, trivial⟩
  | oneTimeMeasurement res =>
    rw [step_oneTimeMeasurement]
    dsimp only
    split
    · exact ⟨_, (List.append_assoc ..).trans (List.append_assoc ..), by
        simp [ReadsAfterWait, Command.measures, inv.address_eq, toNat_measurementTimeMs]⟩
    · exact ⟨_, rfl, trivial⟩
  | readContinuousMeasurement =>
    rw [step_readContinuousMeasurement]
    split
    · rename_i res recorded
      exact ⟨_, List.append_assoc .., by simp [ReadsAfterWait, Command.measures, recorded,
        inv.address_eq, toNat_measurementTimeMs]⟩
    · exact ⟨[], (List.append_nil _).symm, trivial⟩

/-- Every call keeps the invariant, whatever the bus answers. -/
theorem Inv.step (inv : Inv address w) (c : Command) : Inv address (step bus ops w c) := by
  cases c with
  | powerOn => exact inv.sendInstruction bus Told.instruct_powerOn
  | powerDown => exact inv.sendInstruction bus Told.instruct_powerDown
  | reset => exact inv.sendInstruction bus Told.instruct_reset
  | setMtreg mtreg => exact inv.setMtreg bus mtreg
  | oneTimeMeasurement res => exact inv.oneTimeMeasurement bus ops res
  | startContinuousMeasurement res => exact inv.startContinuousMeasurement bus res
  | readContinuousMeasurement => exact inv.readContinuousMeasurement bus ops

theorem Inv.runCommands (inv : Inv address w) (cmds : List Command) :
    Inv address (runCommands bus ops cmds w) := by
  induction cmds generalizing w with
  | nil => exact inv
  | cons c cmds ih => exact ih (inv.step bus ops c)

/-- From `Bh1750::new`, every sequence of calls on every bus keeps `MTreg` within
`[MTREG_MIN, MTREG_MAX]`, sends every transaction to the sensor's address, waits between 7 and
441 ms, and keeps the low bits of `MTreg` and the continuous mode equal to those the
acknowledged instructions told the sensor. From there, the next call reads only right after a
delay, and delays only right before a read; each delay is `measurement_time_ms(res)` for the
driver's `MTreg` and the resolution `res` the call measures, computed without `u32`
overflow. -/
theorem inv_runCommands (address : Address) (cmds : List Command) :
    let w := runCommands bus ops cmds (init address)
    Inv address w ∧ ∀ c, ∃ es, (step bus ops w c).log = w.log ++ es ∧
      ReadsAfterWait w.driver (c.measures w.driver) address.toUInt8 es :=
  have inv := (inv_init address).runCommands bus ops cmds
  ⟨inv, inv.readsAfterWait bus ops⟩

end Invariant

/-! ## On a bus that acknowledges every write -/

/-- A bus that acknowledges every write. -/
def Bus.Reliable {E : Type} (bus : Bus E) : Prop :=
  ∀ log address bytes, bus.write log address bytes = .ok ()

section Reliable

variable {E F : Type} {bus : Bus E} (reliable : bus.Reliable) (ops : FloatOps F) {w : World}

/-- The high bits of the driver's `MTreg` are those the log told the sensor. -/
def HighTold (w : World) : Prop := w.driver.mtreg.toNat / 32 = (told w.log).mtregHigh

include reliable in
/-- On a reliable bus every call keeps the high bits of `MTreg` told: `set_mtreg` records
what it sent, and no other call sends an `MTreg` instruction. -/
theorem HighTold.step (high : HighTold w) (c : Command) : HighTold (step bus ops w c) := by
  have acks : ∀ log address bytes, bus.write log address bytes = .ok () := reliable
  unfold HighTold at high ⊢
  cases c with
  | setMtreg mtreg =>
    simp [Bh1750.step, Command.run, exec_setMtreg, acks, told_append, Told.apply,
      Told.instruct_mtregHigh, Told.instruct_mtregLow]
  | oneTimeMeasurement res =>
    simpa [step_oneTimeMeasurement, acks, told_append, Told.apply] using high
  | startContinuousMeasurement res =>
    simpa [Bh1750.step, Command.run, exec_startContinuousMeasurement, acks, told_append,
      Told.apply] using high
  | readContinuousMeasurement =>
    rw [step_readContinuousMeasurement]
    split
    · simpa [told_append, Told.apply] using high
    · exact high
  | _ => simpa [Bh1750.step, Command.run, Bh1750.powerOn, Bh1750.powerDown, Bh1750.reset,
      exec_sendInstruction, acks, told_append, Told.apply] using high

include reliable in
/-- On a bus that acknowledges every write, after every sequence of calls from
`Bh1750::new`, the driver's `MTreg` and continuous mode are those the sensor was told. -/
theorem runCommands_mtreg_eq_told (address : Address) (cmds : List Command) :
    let w := runCommands bus ops cmds (init address)
    w.driver.mtreg.toNat = (told w.log).mtreg ∧
      w.driver.continuousResolution = (told w.log).continuous := by
  have high : ∀ (cmds : List Command) {w : World}, HighTold w →
      HighTold (runCommands bus ops cmds w) := by
    intro cmds
    induction cmds with
    | nil => exact id
    | cons c cmds ih => exact fun told => ih (told.step reliable ops c)
  have inv := (inv_init address).runCommands bus ops cmds
  have agree := high cmds (w := init address) rfl
  unfold HighTold at agree
  refine ⟨?_, inv.continuous⟩
  rw [Told.mtreg, ← agree, ← inv.low]
  omega

/-- Setting `MTreg` to 255, starting a continuous measurement and powering down, on a bus that
acknowledges everything. -/
theorem runCommands_mtreg_eq_told_example :
    let w := runCommands (⟨fun _ _ _ => .ok (), fun _ _ => .ok (0x12, 0x34)⟩ : Bus Unit)
      (⟨fun _ => (), fun _ => (), fun _ _ => (), fun _ _ => (), (), (), (), ()⟩ : FloatOps Unit)
      [.setMtreg 255, .startContinuousMeasurement .high2, .powerDown] (init .high)
    w.driver.mtreg.toNat = (told w.log).mtreg ∧
      w.driver.continuousResolution = (told w.log).continuous :=
  @runCommands_mtreg_eq_told Unit Unit ⟨fun _ _ _ => .ok (), fun _ _ => .ok (0x12, 0x34)⟩
    (fun _ _ _ => rfl) ⟨fun _ => (), fun _ => (), fun _ _ => (), fun _ _ => (), (), (), (), ()⟩
    .high [.setMtreg 255, .startContinuousMeasurement .high2, .powerDown]

end Reliable

/-! ## When a bus refuses -/

section Refused

variable {E F : Type} (bus : Bus E) (ops : FloatOps F) {address : Address} {w : World}

/-- When the bus acknowledges the first `MTreg` instruction and refuses the second,
`set_mtreg` returns the error and keeps the driver's old `MTreg`, while the sensor was told the
new high bits over the old low ones. -/
theorem setMtreg_torn (inv : Inv address w) (mtreg : UInt8) {e : E}
    (acked : bus.write w.log address.toUInt8
      [Opcode.mtregHigh ||| clamp mtreg mtregMin mtregMax >>> 5] = .ok ())
    (refused : bus.write
      (w.log ++ [.write address.toUInt8 [Opcode.mtregHigh ||| clamp mtreg mtregMin mtregMax >>> 5]
        true])
      address.toUInt8 [Opcode.mtregLow ||| (clamp mtreg mtregMin mtregMax &&& 0x1F)] = .error e) :
    (exec (setMtreg bus mtreg) w).1 = .error (.i2c e) ∧
      (exec (setMtreg bus mtreg) w).2.driver = w.driver ∧
      (told (exec (setMtreg bus mtreg) w).2.log).mtreg =
        (clamp mtreg mtregMin mtregMax).toNat / 32 * 32 + w.driver.mtreg.toNat % 32 := by
  rw [← inv.address_eq] at acked refused
  simp only [exec_setMtreg, acked, refused, true_and]
  simp [told_append, Told.apply, Told.instruct_mtregHigh, Told.mtreg, inv.low]

/-- A fresh driver asked for `MTreg` 254 on a bus that refuses every write but the first:
the driver keeps 69, the sensor was told 229. -/
theorem setMtreg_torn_fresh :
    let bus : Bus Unit :=
      ⟨fun log _ _ => if log = [] then .ok () else .error (), fun _ _ => .ok (0, 0)⟩
    (exec (setMtreg bus 254) (init .low)).2.driver.mtreg = 69 ∧
      (told (exec (setMtreg bus 254) (init .low)).2.log).mtreg = 229 := by
  obtain ⟨-, kept, sent⟩ := setMtreg_torn
    ⟨fun log _ _ => if log = [] then .ok () else .error (), fun _ _ => .ok (0, 0)⟩
    (inv_init .low) 254 (e := ()) rfl rfl
  exact ⟨congrArg Bh1750.mtreg kept, sent⟩

/-- After every run from `Bh1750::new`, `read_continuous_measurement` fails with
`ContinuousMeasurementNotStarted`, making no transaction, exactly when the sensor acknowledged
no continuous-measurement instruction. Otherwise it waits and reads at the resolution of the
last one it acknowledged, even when a power-down, a reset or a one-time measurement came
after it. -/
theorem readContinuousMeasurement_after_runCommands (address : Address) (cmds : List Command) :
    let w := runCommands bus ops cmds (init address)
    exec (readContinuousMeasurement bus ops) w =
      match (told w.log).continuous with
      | some res =>
        let waited := w.log ++ [.delayMs (measurementTimeMs w.driver res)]
        match bus.read waited address.toUInt8 with
        | .ok (high, low) =>
          (.ok (rawToLux ops w.driver (high.toNat * 256 + low.toNat).toUInt16 res),
            { w with log := waited ++ [.read address.toUInt8 true] })
        | .error e => (.error (.i2c e), { w with log := waited ++ [.read address.toUInt8 false] })
      | none => (.error .continuousMeasurementNotStarted, w) := by
  have inv := (inv_init address).runCommands bus ops cmds
  dsimp only
  rw [exec_readContinuousMeasurement, inv.continuous, inv.address_eq]

end Refused

end Bh1750

end Tosca
