import NesCartridge.Main
import NesCartridge.Proofs.Diagnostics.NoFalseAlarm
import NesCartridge.Proofs.HandlerBracket
import NesCartridge.Proofs.Irq.Scanline
import NesCartridge.Proofs.Irq.CycleCount
import NesCartridge.Proofs.BringUp
import NesCartridge.Proofs.Refusals
import NesCartridge.Proofs.MirroringHistory
import NesCartridge.Proofs.WorkRamHistory
import NesCartridge.Proofs.TileLatches
import NesCartridge.Proofs.HeaderSizes
import NesCartridge.Proofs.FileLoading
import NesCartridge.Proofs.Diagnostics.Verdict
import NesCartridge.Proofs.SerialPort
import NesCartridge.Proofs.Diagnostics.BankVerdicts
import NesCartridge.Proofs.Diagnostics.LatchedRam
import NesCartridge.Proofs.AddressSpaces
import NesCartridge.Proofs.Course
import NesCartridge.Proofs.ImageReach
import NesCartridge.Proofs.Checked.Runs
import NesCartridge.Proofs.Diagnostics.Restoration
import NesCartridge.Proofs.OuterBank
import NesCartridge.Proofs.VideoMemory
import NesCartridge.Proofs.CommandLine.Grammar
import NesCartridge.Proofs.CommandLine.Numerals
import NesCartridge.Proofs.HeaderEncoding
import NesCartridge.Proofs.MapExchange
import NesCartridge.Proofs.Diagnostics.Accumulation
import NesCartridge.Proofs.BankedStore
import NesCartridge.Proofs.IdentityTable
import NesCartridge.Proofs.KeptRegisters
