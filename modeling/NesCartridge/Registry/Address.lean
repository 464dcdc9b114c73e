/-
  NesCartridge.Registry.Address

  Addresses of the mapper registers, as the hardware decodes them.
-/

namespace NesCartridge.Address

/-- Any address from here up reaches the latch of a discrete board. -/
abbrev latch : UInt16 := 0x8000

/-- Where every bank of a well-made image holds the table whose byte `v` is `v`. A latch write
of `v` that goes to this address plus `v` meets no conflicting ROM byte. -/
abbrev identityTable : UInt16 := 0xFF00

/-- First and last byte of the work RAM. -/
abbrev wramStart : UInt16 := 0x6000
abbrev wramEnd : UInt16 := 0x7FFF

/-! ## MMC1 -/

abbrev mmc1Control : UInt16 := 0x8000
abbrev mmc1Chr0 : UInt16 := 0xA000
abbrev mmc1Chr1 : UInt16 := 0xC000
abbrev mmc1Prg : UInt16 := 0xE000

/-! ## MMC3 -/

abbrev mmc3Select : UInt16 := 0x8000
abbrev mmc3Data : UInt16 := 0x8001
abbrev mmc3Mirroring : UInt16 := 0xA000
abbrev mmc3WramProtect : UInt16 := 0xA001
abbrev mmc3IrqPeriod : UInt16 := 0xC000
abbrev mmc3IrqReload : UInt16 := 0xC001
abbrev mmc3IrqDisable : UInt16 := 0xE000
abbrev mmc3IrqEnable : UInt16 := 0xE001

/-! ## MMC2 and MMC4 -/

abbrev mmc2Prg : UInt16 := 0xA000
abbrev mmc2ChrFd0000 : UInt16 := 0xB000
abbrev mmc2ChrFe0000 : UInt16 := 0xC000
abbrev mmc2ChrFd1000 : UInt16 := 0xD000
abbrev mmc2ChrFe1000 : UInt16 := 0xE000
abbrev mmc2Mirroring : UInt16 := 0xF000

/-! ## FME-7 -/

abbrev fme7Select : UInt16 := 0x8000
abbrev fme7Data : UInt16 := 0xA000

/-! ## Action 53 -/

abbrev action53Select : UInt16 := 0x5000
abbrev action53Data : UInt16 := 0x8000

end NesCartridge.Address
