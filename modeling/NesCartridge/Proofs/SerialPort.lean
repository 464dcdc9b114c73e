/-
  NesCartridge.Proofs.SerialPort

  The serial port of an MMC1 against a decoder that keeps the bits themselves. The port packs the
  bits of an unfinished transfer into one byte, the latest on top; with fewer than five of them the
  byte is the number they spell, moved up to bit 4 (`SerialPort.Decodes`). One write keeps that
  relation, so the registers follow the decoder through every sequence of accesses
  (`serial_port_decodes`).
-/
import Mathlib.Data.Nat.Digits.Defs
import Mathlib.Logic.Function.Basic
import Mathlib.Tactic.Ring
import NesCartridge.Proofs.ConsoleAccess

namespace NesCartridge

/-! ## Accesses to a board -/

/-- One access to a board, from the CPU or the PPU side. -/
inductive Access where
  | read (addr : UInt16)
  | write (addr : UInt16) (data : UInt8)
  /-- The PPU accessed pattern memory. -/
  | fetched (addr : UInt16)
  /-- A CPU cycle passed. -/
  | clock

namespace Access

/-- The board after the access. Reading leaves it as it is. -/
def perform (hw : Hardware) : Access → Hardware
  | read _ => hw
  | write addr data => hw.write addr data
  | fetched addr => hw.fetched addr
  | clock => hw.clock

def run (hw : Hardware) (accesses : List Access) : Hardware :=
  accesses.foldl perform hw

/-- The write that an access makes to the upper half of the address space. -/
def upperWrite? : Access → Option RegisterWrite
  | write addr data => if 0x8000 ≤ addr.toNat then some ⟨addr, data⟩ else none
  | read _ | fetched _ | clock => none

/-- These writes in order, as accesses. -/
def ofWrites (writes : List RegisterWrite) : List Access :=
  writes.map fun w => write w.addr w.data

theorem upperWrite?_ofWrites {writes : List RegisterWrite}
    (h : ∀ w ∈ writes, 0x8000 ≤ w.addr.toNat) :
    (ofWrites writes).filterMap upperWrite? = writes := by
  induction writes with
  | nil => rfl
  | cons w rest ih =>
    have hfirst : upperWrite? (write w.addr w.data) = some w := if_pos (h w List.mem_cons_self)
    have hrest := ih fun other hother => h other (List.mem_cons_of_mem w hother)
    rw [ofWrites, List.map_cons, List.filterMap_cons, hfirst]
    exact congrArg (w :: ·) hrest

theorem le_of_mem_upperWrites {accesses : List Access} {w : RegisterWrite}
    (h : w ∈ accesses.filterMap upperWrite?) : 0x8000 ≤ w.addr.toNat := by
  obtain ⟨access, -, hwrite⟩ := List.mem_filterMap.mp h
  cases access with
  | read | fetched | clock => cases hwrite
  | write addr data =>
    rw [upperWrite?] at hwrite
    split at hwrite
    next hupper =>
      cases hwrite
      exact hupper
    next => cases hwrite

end Access

namespace Mmc1

def writeAll (chip : Mmc1) (writes : List RegisterWrite) : Mmc1 :=
  writes.foldl (fun chip w => chip.write w.addr w.data) chip

theorem chip_writeAll (chip : Mmc1) (writes : List RegisterWrite) :
    (Chip.mmc1 chip).writeAll writes = .mmc1 (chip.writeAll writes) := by
  induction writes generalizing chip with
  | nil => rfl
  | cons w rest ih => exact ih (chip.write w.addr w.data)

variable {hw : Hardware} {chip : Mmc1}

/-- Only writes from `$8000` on reach the chip. -/
theorem chip_perform (h : hw.chip = .mmc1 chip) (access : Access) :
    (access.perform hw).chip = .mmc1 (chip.writeAll access.upperWrite?.toList) := by
  cases access with
  | read addr => exact h
  | clock =>
    show hw.chip.clock = .mmc1 chip
    rw [h]
    rfl
  | fetched addr =>
    show hw.chip.fetched addr = .mmc1 chip
    rw [h]
    rfl
  | write addr data =>
    show (hw.write addr data).chip = _
    rw [Hardware.chip_write (by rw [h]; rfl), h, Access.upperWrite?]
    by_cases hupper : 0x8000 ≤ addr.toNat
    · rw [if_pos hupper]
      rfl
    · rw [if_neg hupper]
      exact congrArg Chip.mmc1 (if_pos (Nat.lt_of_not_le hupper))

theorem chip_run (h : hw.chip = .mmc1 chip) (accesses : List Access) :
    (Access.run hw accesses).chip =
      .mmc1 (chip.writeAll (accesses.filterMap Access.upperWrite?)) := by
  induction accesses generalizing hw chip with
  | nil => exact h
  | cons access rest ih =>
    have hrest := ih (chip_perform h access)
    show (Access.run (access.perform hw) rest).chip = _
    rw [hrest]
    cases hwrite : access.upperWrite? with
    | none => rw [List.filterMap_cons_none hwrite]; rfl
    | some w => rw [List.filterMap_cons_some hwrite]; rfl

end Mmc1

/-! ## The decoder -/

namespace SerialPort

inductive Register where
  | control | chr0 | chr1 | prg
  deriving DecidableEq

/-- Bits 13 and 14 of an address name a register. -/
def Register.at (addr : UInt16) : Register :=
  match addr.toNat.testBit 14, addr.toNat.testBit 13 with
  | false, false => .control
  | false, true => .chr0
  | true, false => .chr1
  | true, true => .prg

/-- The bits of an unfinished transfer, oldest first, and the contents of the registers. -/
structure Decoder where
  bits : List Nat := []
  value : Register → Nat := fun register => if register = .control then 0x0C else 0

/-- A byte with bit 7 set drops the bits and sets bits 2 and 3 of control. Any other adds its bit 0;
the fifth bit completes a number, low bit first, for the register at its address. -/
def Decoder.take (decoder : Decoder) (w : RegisterWrite) : Decoder :=
  if w.data.toNat.testBit 7 then
    { bits := []
      value := Function.update decoder.value .control (decoder.value .control ||| 0x0C) }
  else
    let bits := decoder.bits ++ [w.data.toNat % 2]
    if bits.length < 5 then { decoder with bits }
    else
      { bits := []
        value := Function.update decoder.value (.at w.addr) (Nat.ofDigits 2 bits) }

/-- The contents of the registers of a chip. -/
def contents (chip : Mmc1) : Register → Nat
  | .control => chip.control.toNat
  | .chr0 => chip.chr0.toNat
  | .chr1 => chip.chr1.toNat
  | .prg => chip.prg.toNat

/-- The chip holds the registers of the decoder, and its port the bits: the number that they spell,
with the latest bit moved up to bit 4. -/
structure Decodes (chip : Mmc1) (decoder : Decoder) : Prop where
  few : decoder.bits.length < 5
  bits : ∀ bit ∈ decoder.bits, bit < 2
  count : chip.count = decoder.bits.length
  shift : chip.shift.toNat = Nat.ofDigits 2 decoder.bits * 2 ^ (5 - decoder.bits.length)
  value : contents chip = decoder.value

/-! ## One write -/

/-- Loading writes one register, named by its address. -/
theorem contents_load (chip : Mmc1) (addr : UInt16) (value : UInt8) :
    contents (chip.load addr value) =
      Function.update (contents chip) (.at addr) value.toNat := by
  have hlow : addr.toNat.testBit 13 = decide (addr.toNat / 0x2000 % 4 % 2 = 1) := by
    rw [Nat.testBit_eq_decide_div_mod_eq]
    congr 2
    omega
  have hhigh : addr.toNat.testBit 14 = decide (addr.toNat / 0x2000 % 4 / 2 = 1) := by
    rw [Nat.testBit_eq_decide_div_mod_eq]
    congr 2
    omega
  have hlt : addr.toNat / 0x2000 % 4 < 4 := Nat.mod_lt _ (by omega)
  rw [Mmc1.load, Register.at, hlow, hhigh]
  generalize addr.toNat / 0x2000 % 4 = number at hlt
  funext register
  match number, hlt with
  | 0, _ => cases register <;> rfl
  | 1, _ => cases register <;> rfl
  | 2, _ => cases register <;> rfl
  | 3, _ => cases register <;> rfl

/-- A bit enters on top and moves the others down. -/
theorem toNat_shiftIn {shift : UInt8} (hshift : shift.toNat < 32) (data : UInt8) :
    ((shift >>> 1) ||| ((data &&& 1) <<< 4)).toNat =
      shift.toNat / 2 + 16 * (data.toNat % 2) := by
  have hall : ∀ n < 32, ∀ bit < 2,
      ((UInt8.ofNat n >>> 1) ||| (UInt8.ofNat bit <<< 4)).toNat = n / 2 + 16 * bit := by decide
  have hbit : data &&& 1 = UInt8.ofNat (data.toNat % 2) := by
    apply UInt8.toNat_inj.mp
    rw [UInt8.toNat_and, toNat_ofNat_of_le (by omega)]
    exact Nat.and_one_is_mod _
  have hport := hall shift.toNat hshift (data.toNat % 2) (Nat.mod_lt _ (by omega))
  rwa [UInt8.ofNat_toNat, ← hbit] at hport

theorem and_reset_ne_zero_iff (data : UInt8) :
    data &&& 0x80 ≠ 0 ↔ data.toNat.testBit 7 = true := by
  revert data
  exact forall_byte (by decide +kernel)

variable {chip : Mmc1} {decoder : Decoder}

/-- A reset sets bits 2 and 3 of control. -/
theorem contents_dropBits (chip : Mmc1) :
    contents chip.dropBits =
      Function.update (contents chip) .control (contents chip .control ||| 0x0C) := by
  funext register
  cases register with
  | control => exact UInt8.toNat_or ..
  | chr0 | chr1 | prg => rfl

/-- An empty port stands for no bits. -/
theorem decodes_empty (hshift : chip.shift = 0) (hcount : chip.count = 0) :
    Decodes chip { bits := [], value := contents chip } := by
  refine ⟨Nat.zero_lt_succ 4, List.forall_mem_nil _, hcount, ?_, rfl⟩
  rw [hshift]
  rfl

namespace Decodes

/-- The bits with one more stay bits. -/
theorem bit_lt (h : Decodes chip decoder) (data : UInt8) :
    ∀ bit ∈ decoder.bits ++ [data.toNat % 2], bit < 2 := by
  intro bit hbit
  rcases List.mem_append.mp hbit with hold | hnew
  · exact h.bits bit hold
  · rw [List.mem_singleton.mp hnew]
    omega

/-- The port with one more bit. -/
theorem toNat_shiftIn (h : Decodes chip decoder) (data : UInt8) :
    let bits := decoder.bits ++ [data.toNat % 2]
    ((chip.shift >>> 1) ||| ((data &&& 1) <<< 4)).toNat =
      Nat.ofDigits 2 bits * 2 ^ (5 - bits.length) := by
  intro bits
  have hfew := h.few
  have hshift := h.shift
  have hlength : bits.length = decoder.bits.length + 1 := by simp [bits]
  -- So many places are free below the bits once the new one is in.
  obtain ⟨free, hfree⟩ : ∃ free, 4 = decoder.bits.length + free :=
    ⟨4 - decoder.bits.length, by omega⟩
  have hroom : 2 ^ decoder.bits.length * 2 ^ free = 16 := by rw [← Nat.pow_add, ← hfree]
  have hspelled : Nat.ofDigits 2 decoder.bits < 2 ^ decoder.bits.length :=
    Nat.ofDigits_lt_base_pow_length (by omega) h.bits
  have hport : chip.shift.toNat = 2 * (Nat.ofDigits 2 decoder.bits * 2 ^ free) := by
    rw [hshift, show 5 - decoder.bits.length = free + 1 by omega, Nat.pow_succ]
    ac_rfl
  have hlt : Nat.ofDigits 2 decoder.bits * 2 ^ free < 16 := by
    rw [← hroom]
    exact Nat.mul_lt_mul_of_pos_right hspelled (Nat.two_pow_pos free)
  rw [SerialPort.toNat_shiftIn (by omega), hport, Nat.mul_div_cancel_left _ (by omega),
    show 5 - bits.length = free by omega, Nat.ofDigits_append, Nat.ofDigits_singleton, ← hroom]
  ring

/-- One write keeps the chip with the decoder. -/
theorem write (h : Decodes chip decoder) {w : RegisterWrite} (hupper : 0x8000 ≤ w.addr.toNat) :
    Decodes (chip.write w.addr w.data) (decoder.take w) := by
  rw [Mmc1.write, if_neg (by omega), Decoder.take]
  by_cases hreset : w.data.toNat.testBit 7 = true
  · rw [if_pos ((and_reset_ne_zero_iff _).mpr hreset), if_pos hreset]
    rw [← h.value, ← contents_dropBits]
    exact decodes_empty rfl rfl
  rw [if_neg (fun hbit => hreset ((and_reset_ne_zero_iff _).mp hbit)), if_neg hreset, Mmc1.shiftIn,
    h.count]
  have hport := h.toNat_shiftIn w.data
  have hbits := h.bit_lt w.data
  have hlength : (decoder.bits ++ [w.data.toNat % 2]).length = decoder.bits.length + 1 := by simp
  dsimp only at hport ⊢
  rw [hlength]
  split
  next hmore => exact ⟨hlength ▸ hmore, hbits, hlength.symm, hport, h.value⟩
  next hfull =>
    -- The fifth bit: nothing of the number is moved up any more.
    have hfew := h.few
    rw [hlength, show 5 - (decoder.bits.length + 1) = 0 by omega, Nat.pow_zero,
      Nat.mul_one] at hport
    have hspelled := Nat.ofDigits_lt_base_pow_length (by omega : 1 < 2) hbits
    rw [hlength, show decoder.bits.length + 1 = 5 by omega] at hspelled
    have hvalue : (((chip.shift >>> 1) ||| ((w.data &&& 1) <<< 4)) &&& 0x1F).toNat =
        Nat.ofDigits 2 (decoder.bits ++ [w.data.toNat % 2]) := by
      rw [UInt8.toNat_and, hport]
      exact Nat.and_two_pow_sub_one_of_lt_two_pow hspelled
    rw [← hvalue, ← h.value, ← contents_load]
    exact decodes_empty rfl rfl

/-- A run of writes, by induction on it. -/
theorem writeAll (h : Decodes chip decoder) {writes : List RegisterWrite}
    (hupper : ∀ w ∈ writes, 0x8000 ≤ w.addr.toNat) :
    Decodes (chip.writeAll writes) (writes.foldl Decoder.take decoder) := by
  induction writes generalizing chip decoder with
  | nil => exact h
  | cons w rest ih =>
    exact ih (h.write (hupper w List.mem_cons_self)) fun other hother =>
      hupper other (List.mem_cons_of_mem w hother)

end Decodes

/-- Loading a register leaves the port alone. -/
theorem port_load (chip : Mmc1) (addr : UInt16) (value : UInt8) :
    (chip.load addr value).shift = chip.shift ∧ (chip.load addr value).count = chip.count := by
  unfold Mmc1.load
  split <;> exact ⟨rfl, rfl⟩

/-- The five writes of the controller, after a reset. -/
theorem writeAll_reset (chip : Mmc1) {reset : RegisterWrite} (hreset : 0x8000 ≤ reset.addr.toNat)
    (hbit : reset.data.toNat.testBit 7 = true) {addr : UInt16} (haddr : 0x8000 ≤ addr.toNat)
    {value : UInt8} (hvalue : value.toNat < 32) :
    chip.writeAll (reset :: serialWrites addr value) = chip.dropBits.load addr value := by
  have hdrop : chip.write reset.addr reset.data = chip.dropBits := by
    rw [Mmc1.write, if_neg (by omega), if_pos ((and_reset_ne_zero_iff _).mpr hbit)]
  have hfive : value &&& 0x1F = value := by
    apply UInt8.toNat_inj.mp
    rw [UInt8.toNat_and]
    exact Nat.and_two_pow_sub_one_of_lt_two_pow (n := 5) hvalue
  have hload : (Chip.mmc1 chip.dropBits).writeAll (serialWrites addr value) =
      .mmc1 (chip.dropBits.load addr value) := Mmc1.writeAll_serialWrites rfl rfl haddr hfive
  rw [Mmc1.chip_writeAll] at hload
  show (chip.write reset.addr reset.data).writeAll (serialWrites addr value) = _
  rw [hdrop]
  exact Chip.mmc1.inj hload

/-- At power-on the port is empty, and only control is not zero. -/
theorem decodes_powerOn : Decodes {} {} := by
  have hvalue : contents {} = ({} : Decoder).value := by
    funext register
    cases register <;> rfl
  have hempty : Decodes {} { bits := [], value := contents {} } := decodes_empty rfl rfl
  rwa [hvalue] at hempty

end SerialPort

/-- From power-on, whatever is done to an MMC1 board, its registers are those of the decoder over
the writes to the upper half of the address space, the port has collected as many bits as the
decoder, always fewer than five, and no other access moves the chip. From any state at all, a reset
and the five writes of a number below 32 to one address store that number in the register at this
address, keep the others and leave the port empty. -/
theorem serial_port_decodes (prg : Memory) (chr : Chr) (solder : Mirroring)
    (accesses : List Access) :
    (∃ chip, (Access.run (.powerOn .mmc1 prg chr solder) accesses).chip = .mmc1 chip ∧
        let decoder := (accesses.filterMap Access.upperWrite?).foldl SerialPort.Decoder.take {}
        SerialPort.contents chip = decoder.value ∧ chip.count = decoder.bits.length ∧
          chip.count < 5) ∧
      ∀ (hw : Hardware) (chip : Mmc1), hw.chip = .mmc1 chip →
        (∀ access : Access, access.upperWrite? = none → (access.perform hw).chip = hw.chip) ∧
          ∀ (reset : RegisterWrite) (addr : UInt16) (value : UInt8),
            0x8000 ≤ reset.addr.toNat → reset.data.toNat.testBit 7 = true →
            0x8000 ≤ addr.toNat → value.toNat < 32 →
              ∃ next,
                (Access.run hw (Access.ofWrites (reset :: serialWrites addr value))).chip =
                    .mmc1 next ∧
                  next.shift = 0 ∧ next.count = 0 ∧
                  SerialPort.contents next =
                    Function.update
                      (Function.update (SerialPort.contents chip) .control
                        (SerialPort.contents chip .control ||| 0x0C))
                      (.at addr) value.toNat := by
  refine ⟨?_, fun hw chip hchip => ⟨fun access hnone => ?_, fun reset addr value hreset hbit haddr
    hvalue => ?_⟩⟩
  · have hstart : (Hardware.powerOn .mmc1 prg chr solder).chip = .mmc1 {} := rfl
    have hrun := Mmc1.chip_run hstart accesses
    have hupper : ∀ w ∈ accesses.filterMap Access.upperWrite?, 0x8000 ≤ w.addr.toNat :=
      fun _ => Access.le_of_mem_upperWrites
    have hdecodes := SerialPort.decodes_powerOn.writeAll hupper
    exact ⟨_, hrun, hdecodes.value, hdecodes.count, hdecodes.count ▸ hdecodes.few⟩
  · rw [Mmc1.chip_perform hchip, hnone, hchip]
    rfl
  · have hupper : ∀ w ∈ reset :: serialWrites addr value, 0x8000 ≤ w.addr.toNat := by
      intro w hw
      rcases List.mem_cons.mp hw with rfl | hserial
      · exact hreset
      · obtain ⟨i, -, rfl⟩ := List.mem_map.mp hserial
        exact haddr
    have hrun := Mmc1.chip_run hchip (Access.ofWrites (reset :: serialWrites addr value))
    rw [Access.upperWrite?_ofWrites hupper, SerialPort.writeAll_reset chip hreset hbit haddr hvalue]
      at hrun
    obtain ⟨hshift, hcount⟩ := SerialPort.port_load chip.dropBits addr value
    have hdrop := SerialPort.contents_dropBits chip
    refine ⟨_, hrun, hshift, hcount, ?_⟩
    rw [SerialPort.contents_load, hdrop]

/-- Two bits of a transfer with a byte for the work RAM between them, then a reset and `$15` for the
PRG register. -/
theorem serial_port_decodes_reset :
    let hw := Access.run (.powerOn .mmc1 #[] (.ram 0x2000) .horizontal)
      [.write 0x8000 1, .write 0x6000 0xFF, .write 0xA000 0]
    hw.chip = .mmc1 { shift := 0x08, count := 2 } ∧
      ∃ next,
        (Access.run hw (Access.ofWrites (⟨0xFFFF, 0xC5⟩ :: serialWrites 0xE000 0x15))).chip =
            .mmc1 next ∧
          next.shift = 0 ∧ next.count = 0 ∧
          SerialPort.contents next .prg = 0x15 ∧ SerialPort.contents next .control = 0x0C := by
  intro hw
  have hchip : hw.chip = .mmc1 { shift := 0x08, count := 2 } := rfl
  obtain ⟨-, hstores⟩ := (serial_port_decodes #[] (.ram 0x2000) .horizontal []).2 hw _ hchip
  obtain ⟨next, hnext, hshift, hcount, hcontents⟩ :=
    hstores ⟨0xFFFF, 0xC5⟩ 0xE000 0x15 (by decide) (by decide) (by decide) (by decide)
  refine ⟨hchip, next, hnext, hshift, hcount, ?_, ?_⟩
  · rw [hcontents]
    decide
  · rw [hcontents]
    decide

end NesCartridge
