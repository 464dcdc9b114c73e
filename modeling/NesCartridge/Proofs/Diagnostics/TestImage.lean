/-
  NesCartridge.Proofs.Diagnostics.TestImage

  The images that the diagnostics are made for. Their sizes are those that `validate` accepts and
  their pages carry numbers (`TestImage`), so the tag that a routine expects of a bank is the first
  byte of that bank (`Memory.HasPageTags.pageTag`).
-/
import NesCartridge.Diagnostics
import NesCartridge.Proofs.ChipWiring
import NesCartridge.Proofs.TaggedImage

namespace NesCartridge

/-! ## Test images -/

/-- The PRG memory of a test image: of a size that the board can show whole, with a number on each
page and, where the ROM drives the data lines too, the tables that latch writes go to. -/
structure PrgImage (board : Board) (prg : Memory) : Prop where
  fits : ImageSpec.sizeFits prg.size 0x4000 (ImageSpec.forBoard board).prgSize = true
  tags : prg.HasPageTags prgPageSize
  tables : board.descriptor.busConflicts = true → prg.HasIdentityTables

/-- Pattern memory of whole 8 KiB, and some of it. -/
structure Chr.Whole (chr : Chr) : Prop where
  pos : 0 < chr.cells.size
  dvd : 0x2000 ∣ chr.cells.size

/-- The memories describe themselves as far as the diagnostics look, and have sizes that the board
can show whole. CHR RAM may hold anything, on boards without tile latches. -/
structure TestImage (board : Board) (prg : Memory) (chr : Chr) : Prop where
  prgFits : ImageSpec.sizeFits prg.size 0x4000 (ImageSpec.forBoard board).prgSize = true
  chrFits : ImageSpec.sizeFits chr.cells.size 0x2000 (ImageSpec.forBoard board).chrSize = true
  prgTags : prg.HasPageTags prgPageSize
  prgTables : board.descriptor.busConflicts = true → prg.HasIdentityTables
  chrTags : chr.writable = false → chr.cells.HasPageTags chrPageSize
  noLatches : chr.writable = true → board.descriptor.hasTileLatches = false

namespace ImageSpec

theorem sizeFits_eq_true {size least most : Nat} :
    sizeFits size least most = true ↔ least ≤ size ∧ (∃ k, size = 2 ^ k) ∧ size ≤ most := by
  rw [sizeFits, Bool.and_eq_true, Bool.and_eq_true, decide_eq_true_eq, decide_eq_true_eq,
    isPowerOfTwo, decide_eq_true_eq, Nat.one_shiftLeft]
  constructor
  · rintro ⟨⟨hleast, hpow⟩, hmost⟩
    exact ⟨hleast, ⟨size.log2, hpow.symm⟩, hmost⟩
  · rintro ⟨hleast, ⟨k, rfl⟩, hmost⟩
    refine ⟨⟨hleast, ?_⟩, hmost⟩
    rw [Nat.log2_two_pow]

/-- An image is accepted when both of its sizes fit. -/
theorem validate_eq_ok {spec : ImageSpec} {board : Board} :
    spec.validate board = .ok () ↔
      sizeFits spec.prgSize 0x4000 (forBoard board).prgSize = true ∧
        sizeFits spec.chrSize 0x2000 (forBoard board).chrSize = true := by
  unfold validate
  dsimp only
  cases sizeFits spec.prgSize 0x4000 (forBoard board).prgSize with
  | false => simp
  | true =>
    cases sizeFits spec.chrSize 0x2000 (forBoard board).chrSize with
    | false => simp
    | true => simp

end ImageSpec

/-- An accepted size is a power of two from 8 KiB. -/
theorem Chr.whole_of_fits {board : Board} {chr : Chr}
    (hfits : ImageSpec.sizeFits chr.cells.size 0x2000 (ImageSpec.forBoard board).chrSize = true) :
    chr.Whole := by
  obtain ⟨hleast, ⟨k, hk⟩, -⟩ := ImageSpec.sizeFits_eq_true.mp hfits
  refine ⟨by omega, ?_⟩
  rw [hk] at hleast ⊢
  exact page_dvd_two_pow hleast

namespace PrgImage

variable {board : Board} {prg : Memory}

theorem length (h : PrgImage board prg) : PrgLength prg.size := by
  obtain ⟨hleast, ⟨k, hk⟩, -⟩ := ImageSpec.sizeFits_eq_true.mp h.fits
  exact Or.inl ⟨k, hk, Nat.le_trans (by decide) hleast⟩

theorem quiet (h : PrgImage board prg) : prg.Quiet board :=
  fun hconflicts => ⟨h.length, h.tables hconflicts⟩

end PrgImage

namespace TestImage

variable {board : Board} {prg : Memory} {chr : Chr}

theorem prgImage (h : TestImage board prg chr) : PrgImage board prg :=
  ⟨h.prgFits, h.prgTags, h.prgTables⟩

theorem quiet (h : TestImage board prg chr) : prg.Quiet board :=
  h.prgImage.quiet

theorem chrWhole (h : TestImage board prg chr) : chr.Whole :=
  Chr.whole_of_fits h.chrFits

end TestImage

/-! ## Tags -/

/-- The tag of a bank counts pages from where the bank would start, and starts over at the end of
the memory. -/
theorem pageTag_eq {pageSize total : Nat} (hpage : 0 < pageSize) (hpos : 0 < total)
    (hdvd : pageSize ∣ total) (bank : Nat) (window : Window) :
    pageTag bank window pageSize total =
      UInt8.ofNat (bank * window.size / pageSize % (total / pageSize)) := by
  have hpages : 0 < total / pageSize := Nat.div_pos (Nat.le_of_dvd hpos hdvd) hpage
  have hmax : Nat.max (total / pageSize) 1 = total / pageSize := Nat.max_eq_left hpages
  rw [pageTag, hmax]

/-- The tag of a bank is the number of the page that the bank starts with. -/
theorem pageTag_eq_page {pageSize total : Nat} (hpage : 0 < pageSize) (hpos : 0 < total)
    (hdvd : pageSize ∣ total) (bank : Nat) (window : Window) :
    pageTag bank window pageSize total =
      UInt8.ofNat (bank * window.size % total / pageSize) := by
  rw [pageTag_eq hpage hpos hdvd, ← Nat.mod_mul_right_div_self, Nat.mul_div_cancel' hdvd]

/-- The first byte of a bank is the tag that the diagnostics expect there. -/
theorem Memory.HasPageTags.pageTag {mem : Memory} {pageSize : Nat} (h : mem.HasPageTags pageSize)
    (hpage : 0 < pageSize) (hpos : 0 < mem.size) (hmem : pageSize ∣ mem.size) {window : Window}
    (hwindow : pageSize ∣ window.size) (bank : Nat) :
    mem[bank * window.size % mem.size]? =
      some (NesCartridge.pageTag bank window pageSize mem.size) := by
  -- Banks and memory are made of whole pages, so the bank starts at a page even where it wraps.
  have hdvd : pageSize ∣ bank * window.size % mem.size :=
    (Nat.dvd_mod_iff hmem).mpr (Nat.dvd_mul_left_of_dvd hwindow bank)
  have hcell : bank * window.size % mem.size / pageSize * pageSize =
      bank * window.size % mem.size := Nat.div_mul_cancel hdvd
  have hlt : bank * window.size % mem.size / pageSize < mem.size / pageSize := by
    have hinside : bank * window.size % mem.size < mem.size := Nat.mod_lt _ hpos
    exact Nat.div_lt_div_of_lt_of_dvd hmem hinside
  have htag := h _ hlt
  rw [hcell] at htag
  rw [htag, pageTag_eq_page hpage hpos hmem]

end NesCartridge
