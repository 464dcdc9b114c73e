/-
  NesCartridge.Proofs.HeaderSizes

  Whether the header of a cartridge states the sizes of its memories (`Cartridge.StatesSizes`). It
  does for every cartridge that is put together from memories. For a file it does exactly if the
  header names the CHR RAM of a board without CHR ROM, and names no more CHR RAM than there is CHR
  ROM otherwise (`header_states_sizes_iff`): a file that leaves the size of its CHR RAM open gets
  RAM all the same, and its header goes on saying that there is none
  (`header_states_no_default_chrRam`).
-/
import NesCartridge.Image
import NesCartridge.Proofs.FileLoading

namespace NesCartridge

/-! ## The memories of a file -/

namespace Cartridge

variable {data : Memory}

theorem size_extract_prg (header : Header)
    (h : prgStart header + header.prgRomSize + header.chrRomSize ≤ data.size) :
    (data.extract (prgStart header) (prgStart header + header.prgRomSize)).size =
      header.prgRomSize := by
  simp only [Array.size_extract]
  omega

/-- A file with CHR ROM gets that, any other gets CHR RAM of the stated size or of the size usual
on its board. -/
theorem size_chrOfFile (header : Header) (board : Board)
    (h : prgStart header + header.prgRomSize + header.chrRomSize ≤ data.size) :
    (chrOfFile header board data).cells.size =
      if header.chrRomSize ≠ 0 then header.chrRomSize
      else if header.chrRamSize ≠ 0 then header.chrRamSize
      else board.defaultChrRam := by
  simp only [chrOfFile, ← Nat.pos_iff_ne_zero]
  split
  next =>
    simp only [Chr.rom, Array.size_extract]
    omega
  next =>
    split
    next => exact Array.size_replicate
    next => exact Array.size_replicate

theorem writable_chrOfFile (header : Header) (board : Board) (data : Memory) :
    (chrOfFile header board data).writable = true ↔ header.chrRomSize = 0 := by
  simp only [chrOfFile]
  split
  next hrom =>
    exact ⟨fun hwritable => absurd hwritable Bool.false_ne_true,
      fun hnone => absurd hnone (Nat.ne_of_gt hrom)⟩
  next hnone =>
    have hzero : header.chrRomSize = 0 := Nat.eq_zero_of_not_pos hnone
    split
    next => exact ⟨fun _ => hzero, fun _ => rfl⟩
    next => exact ⟨fun _ => hzero, fun _ => rfl⟩

end Cartridge

/-! ## What the header states -/

theorem Board.defaultChrRam_pos (board : Board) : 0 < board.defaultChrRam := by
  cases board <;> decide

theorem Cartridge.size_chrOfFile_pos {data : Memory} (header : Header) (board : Board)
    (h : prgStart header + header.prgRomSize + header.chrRomSize ≤ data.size) :
    0 < (chrOfFile header board data).cells.size := by
  have hdefault := board.defaultChrRam_pos
  rw [size_chrOfFile header board h]
  split
  next => omega
  next => split <;> omega

/-- Of the two sizes in the header of a file the greater is that of the pattern memory exactly if no
size was made up and no ROM is beside a greater RAM. -/
theorem Cartridge.max_eq_size_iff {data : Memory} (header : Header) (board : Board)
    (h : prgStart header + header.prgRomSize + header.chrRomSize ≤ data.size) :
    Nat.max header.chrRomSize header.chrRamSize = (chrOfFile header board data).cells.size ↔
      if header.chrRomSize = 0 then 0 < header.chrRamSize
      else header.chrRamSize ≤ header.chrRomSize := by
  have hdefault := board.defaultChrRam_pos
  show max header.chrRomSize header.chrRamSize = _ ↔ _
  rw [size_chrOfFile header board h]
  by_cases hrom : header.chrRomSize = 0
  · rw [if_neg (not_not_intro hrom), if_pos hrom]
    by_cases hram : header.chrRamSize = 0
    · rw [if_neg (not_not_intro hram)]
      omega
    · rw [if_pos hram]
      omega
  · rw [if_pos hrom, if_neg hrom]
    omega

/-- The header states the sizes of the memories in the cartridge, and the kind of its pattern
memory: a cartridge without CHR ROM has CHR RAM, or none of either. -/
structure Cartridge.StatesSizes (cart : Cartridge) : Prop where
  prg : cart.header.prgRomSize = cart.hardware.prg.size
  chr : Nat.max cart.header.chrRomSize cart.header.chrRamSize = cart.hardware.chr.cells.size
  kind : cart.header.chrRomSize = 0 ↔
    cart.hardware.chr.writable = true ∨ cart.hardware.chr.cells.size = 0

theorem Cartridge.statesSizes_ofParts (board : Board) (prg : Memory) (chr : Chr)
    (solder : Mirroring) : (ofParts board prg chr solder).StatesSizes := by
  obtain ⟨cells, writable⟩ := chr
  cases writable with
  | true =>
    refine ⟨rfl, Nat.zero_max _, ?_⟩
    exact ⟨fun _ => Or.inl rfl, fun _ => rfl⟩
  | false =>
    refine ⟨rfl, Nat.max_zero _, ?_⟩
    exact ⟨Or.inr, fun h => h.resolve_left Bool.false_ne_true⟩

theorem Cartridge.statesSizes_synthesize {spec : ImageSpec} {board : Board} {cart : Cartridge}
    (h : spec.synthesize board = .ok cart) : cart.StatesSizes := by
  unfold ImageSpec.synthesize at h
  cases hvalid : spec.validate board with
  | error error =>
    rw [hvalid] at h
    cases h
  | ok =>
    rw [hvalid] at h
    cases h
    exact statesSizes_ofParts ..

/-- Cartridges that are put together, synthesized images among them, state the sizes of their
memories. Of a file the header always states the PRG memory and the kind of the pattern memory; the
size of the pattern memory it states exactly if it names a size for CHR RAM where there is no CHR
ROM, and no greater size than that of the CHR ROM where there is. -/
theorem header_states_sizes_iff (board : Board) (prg : Memory) (chr : Chr) (solder : Mirroring)
    (spec : ImageSpec) (data : Memory) :
    (Cartridge.ofParts board prg chr solder).StatesSizes ∧
      (∀ cart, spec.synthesize board = .ok cart → cart.StatesSizes) ∧
      ∀ cart, Cartridge.ofBytes data = .ok cart →
        cart.header.prgRomSize = cart.hardware.prg.size ∧
          (cart.header.chrRomSize = 0 ↔ cart.hardware.chr.writable = true) ∧
          0 < cart.hardware.chr.cells.size ∧
          (cart.StatesSizes ↔
            if cart.header.chrRomSize = 0 then 0 < cart.header.chrRamSize
            else cart.header.chrRamSize ≤ cart.header.chrRomSize) := by
  refine ⟨Cartridge.statesSizes_ofParts board prg chr solder,
    fun cart hload => Cartridge.statesSizes_synthesize hload, fun cart hload => ?_⟩
  obtain ⟨header, board, -, -, hend, -, rfl⟩ := Cartridge.ofBytes_eq_ok_iff.mp hload
  have hprg := Cartridge.size_extract_prg header hend
  have hkind := Cartridge.writable_chrOfFile header board data
  have hstated := Cartridge.max_eq_size_iff header board hend
  have hpos := Cartridge.size_chrOfFile_pos header board hend
  refine ⟨hprg.symm, hkind.symm, hpos, fun hstates => hstated.mp hstates.chr, fun hnamed =>
    ⟨hprg.symm, hstated.mpr hnamed, ?_⟩⟩
  show _ ↔ _ ∨ (Cartridge.chrOfFile header board data).cells.size = 0
  rw [or_iff_left (Nat.ne_of_gt hpos)]
  exact hkind.symm

/-- A NES 2.0 file that gives its board 8 KiB of CHR RAM, and a synthesized image with as much. -/
theorem header_states_sizes_iff_chrRam :
    let start : Memory := #[0x4E, 0x45, 0x53, 0x1A, 1, 0, 0, 0x08, 0, 0, 0, 7, 0, 0, 0, 0]
    let spec : ImageSpec := { prgSize := 0x8000, chrSize := 0x2000, chrRam := true }
    (∃ cart, Cartridge.ofBytes (start ++ Array.replicate 0x4000 0xEA) = .ok cart ∧
        cart.header.chrRomSize = 0 ∧ cart.header.chrRamSize = 0x2000 ∧ cart.StatesSizes) ∧
      ∃ cart, spec.synthesize .nrom = .ok cart ∧ cart.StatesSizes := by
  intro start spec
  have hheader : Header.decode (fun i => start.getD i 0) =
      { mapper := 0, prgRomSize := 0x4000, chrRomSize := 0, chrRamSize := 0x2000,
        mirroring := .horizontal, nes2 := true } := by decide
  have hlength : start.size = Header.length := rfl
  have hparse := Header.parse_append hlength rfl (Array.replicate 0x4000 0xEA)
  rw [hheader] at hparse
  have hload := Cartridge.ofBytes_eq_ok_iff.mpr ⟨_, .nrom, hparse, rfl, by
    rw [Array.size_append, Array.size_replicate]
    decide, by decide, rfl⟩
  have hvalid : spec.validate .nrom = .ok () := by
    rw [ImageSpec.validate, if_neg (by decide), if_neg (by decide)]
  have hsynthesize : spec.synthesize .nrom =
      .ok (.ofParts .nrom (taggedPrg 0x8000) (.ram 0x2000) .vertical) := by
    rw [ImageSpec.synthesize, hvalid]
    rfl
  have hsizes := header_states_sizes_iff .nrom (taggedPrg 0x8000) (.ram 0x2000) .vertical spec
    (start ++ Array.replicate 0x4000 0xEA)
  have hstates := (hsizes.2.2 _ hload).2.2.2
  exact ⟨⟨_, hload, rfl, rfl, hstates.mpr (by decide)⟩, _, hsynthesize, hsizes.2.1 _ hsynthesize⟩

/-- An iNES file has no place to name a size for CHR RAM. One without CHR ROM gets 8 KiB of RAM, and
its header says that there are none. -/
theorem header_states_no_default_chrRam :
    let start : Memory := #[0x4E, 0x45, 0x53, 0x1A, 1, 0, 0, 0, 0, 0, 0, 0, 0, 0, 0, 0]
    ∃ cart, Cartridge.ofBytes (start ++ Array.replicate 0x4000 0xEA) = .ok cart ∧
      cart.hardware.chr.cells.size = 0x2000 ∧
        Nat.max cart.header.chrRomSize cart.header.chrRamSize = 0 := by
  intro start
  have hheader : Header.decode (fun i => start.getD i 0) =
      { mapper := 0, prgRomSize := 0x4000, chrRomSize := 0, mirroring := .horizontal } := by decide
  have hlength : start.size = Header.length := rfl
  have hparse := Header.parse_append hlength rfl (Array.replicate 0x4000 0xEA)
  rw [hheader] at hparse
  have hload := Cartridge.ofBytes_eq_ok_iff.mpr ⟨_, .nrom, hparse, rfl, by
    rw [Array.size_append, Array.size_replicate]
    decide, by decide, rfl⟩
  exact ⟨_, hload, Array.size_replicate, rfl⟩

end NesCartridge
