/-
  NesCartridge.Console

  The console around one cartridge: 2 KiB of CPU RAM, nametable memory and palette memory. PPU
  and APU registers are left out and read as open bus.
-/
import NesCartridge.Bus
import NesCartridge.Cartridge

namespace NesCartridge

structure Console where
  ram : Vector UInt8 0x800
  cart : Cartridge
  /-- 2 KiB are in the console; four-screen boards bring 2 KiB more. -/
  nametables : Vector UInt8 0x1000
  palette : Vector UInt8 32

namespace Console

/-- A console that has just been switched on. -/
def powerOn (cart : Cartridge) : Console where
  ram := Vector.replicate 0x800 0
  cart
  nametables := Vector.replicate 0x1000 0
  palette := Vector.replicate 32 0

/-! ## CPU side -/

/-- Place of an address in the CPU RAM, which repeats four times. -/
def ramIndex (addr : UInt16) : Fin 0x800 :=
  Fin.ofNat 0x800 addr.toNat

def readCpu (console : Console) (addr : UInt16) : UInt8 :=
  if addr.toNat < 0x2000 then console.ram.get (ramIndex addr)
  else if addr.toNat < 0x4020 then openBus addr
  else console.cart.read addr

def writeCpu (console : Console) (addr : UInt16) (data : UInt8) : Console :=
  if addr.toNat < 0x2000 then { console with ram := console.ram.set (ramIndex addr) data }
  else if addr.toNat < 0x4020 then console
  else { console with cart := console.cart.write addr data }

def tick (console : Console) (cycles : Nat) : Console :=
  { console with cart := cycles.repeat Cartridge.clock console.cart }

instance : Bus Console where
  read := readCpu
  write := writeCpu
  tick := tick
  irq console := console.cart.irq

/-! ## PPU side -/

/-- The part of the PPU's address space that an address lies in. -/
inductive PpuRegion where
  | patterns (addr : UInt16)
  | nametables (cell : Fin 0x1000)
  | palette (entry : Fin 32)

/-- Palette entry of an address. Entry 0 of each sprite palette is that of the background
palette. -/
def paletteEntry (addr : UInt16) : Fin 32 :=
  let entry := addr.toNat % 32
  Fin.ofNat 32 (if 16 ≤ entry ∧ entry % 4 = 0 then entry - 16 else entry)

/-- Nametable cell of an address under the cartridge's present mirroring. -/
def nametableCell (console : Console) (addr : UInt16) : Fin 0x1000 :=
  ⟨console.cart.mirroring.cell addr, Mirroring.cell_lt ..⟩

/-- The PPU has 14 address lines. -/
def ppuRegion (console : Console) (addr : UInt16) : PpuRegion :=
  let addr := UInt16.ofNat (addr.toNat % 0x4000)
  -- The nametables repeat from `$3000` up to the palette.
  if addr.toNat < 0x2000 then .patterns addr
  else if addr.toNat < 0x3F00 then .nametables (console.nametableCell addr)
  else .palette (paletteEntry addr)

/-- The cartridge notices a pattern access once it is over. -/
def fetched (console : Console) (addr : UInt16) : Console :=
  { console with cart := console.cart.fetched addr }

def readPpu (console : Console) (addr : UInt16) : UInt8 × Console :=
  match console.ppuRegion addr with
  | .patterns addr => (console.cart.read addr, console.fetched addr)
  | .nametables cell => (console.nametables.get cell, console)
  | .palette entry => (console.palette.get entry, console)

def writePpu (console : Console) (addr : UInt16) (data : UInt8) : Console :=
  match console.ppuRegion addr with
  | .patterns addr =>
    let written := { console with cart := console.cart.write addr data }
    written.fetched addr
  | .nametables cell => { console with nametables := console.nametables.set cell data }
  | .palette entry => { console with palette := console.palette.set entry data }

/-- A rendered scanline: background tiles from `$0000`, then sprites from `$1000`. -/
def scanline (console : Console) : Console :=
  ((console.readPpu 0x0000).2.readPpu 0x1000).2

/-- Repeat `advance` until the IRQ line is up, at most `limit` times, and count. -/
def countUntilIrq (advance : Console → Console) : Nat → Nat → Console → Option Nat × Console
  | 0, _, console => (none, console)
  | limit + 1, done, console =>
    let next := advance console
    if next.cart.irq then (some (done + 1), next) else countUntilIrq advance limit (done + 1) next

end Console

end NesCartridge
