/-
  NesCartridge.Proofs.FileLoading

  What `Cartridge.ofBytes` does with a file. The reference is `CartridgeFile.Loads`: the header by
  place and weight of its bytes, and one rule per outcome, each with the conditions that the rules
  before it leave open. Loading follows it for every byte string, no byte of the trainer or past the
  announced memories has a part in it, and no shorter beginning of an accepted file is accepted
  (`file_loading_exact`).
-/
import NesCartridge.Cartridge
import NesCartridge.Proofs.BitField

namespace NesCartridge

/-! ## The checks, one after the other -/

namespace Header

/-- The header is in the first 16 bytes. -/
theorem decode_congr {byte other : Nat → UInt8} (h : ∀ i < length, byte i = other i) :
    decode byte = decode other := by
  have hlength : length = 16 := rfl
  rw [decode, decode, h 4 (by omega), h 5 (by omega), h 6 (by omega), h 7 (by omega),
    h 8 (by omega), h 9 (by omega), h 11 (by omega)]

theorem getD_append {start : Memory} (rest : Memory) {i : Nat} (hi : i < start.size) :
    (start ++ rest).getD i 0 = start.getD i 0 := by
  rw [Array.getD_eq_getD_getElem?, Array.getD_eq_getD_getElem?, Array.getElem?_append_left hi]

/-- What follows the header of a file has no part in reading it. -/
theorem parse_append {start : Memory} (hlength : start.size = length)
    (hmagic : (start.extract 0 4).toList = magic) (rest : Memory) :
    parse (start ++ rest) = .ok (decode fun i => start.getD i 0) := by
  have hsixteen : start.size = 16 := hlength
  have hfront : (start ++ rest).extract 0 4 = start.extract 0 4 := by
    rw [Array.extract_append, hsixteen]
    simp
  have hbytes : ∀ i < length, (start ++ rest).getD i 0 = start.getD i 0 :=
    fun i hi => getD_append rest (hlength ▸ hi)
  rw [parse, if_neg (by rw [Array.size_append]; omega), hfront,
    if_neg (fun hother => hother hmagic), decode_congr hbytes]

end Header

namespace Cartridge

variable {data : Memory} {cart : Cartridge} {header : Header} {board : Board}

theorem ofBytes_of_parse_error {error : CartridgeError} (h : Header.parse data = .error error) :
    ofBytes data = .error error := by
  rw [ofBytes, h]
  rfl

theorem ofBytes_of_board_error (hparse : Header.parse data = .ok header) {error : MapperError}
    (hboard : header.board = .error error) : ofBytes data = .error (.mapper error) := by
  rw [ofBytes, hparse]
  show (header.board.mapError CartridgeError.mapper >>= _) = _
  rw [hboard]
  rfl

/-- With a good header only the length of the file and the PRG memory are left to look at. -/
theorem ofBytes_of_board (hparse : Header.parse data = .ok header)
    (hboard : header.board = .ok board) :
    ofBytes data =
      let fileEnd := prgStart header + header.prgRomSize + header.chrRomSize
      if data.size < fileEnd then .error (.truncated fileEnd data.size)
      else if header.prgRomSize = 0 then .error (.prgSize 0)
      else .ok
        { header
          board
          hardware := .powerOn board
            (data.extract (prgStart header) (prgStart header + header.prgRomSize))
            (chrOfFile header board data) header.mirroring } := by
  rw [ofBytes, hparse]
  show (header.board.mapError CartridgeError.mapper >>= _) = _
  rw [hboard]
  rfl

/-- A file is accepted exactly if its header is intact and names a board, some PRG memory and no
more than the file holds; the memories are then cut out of the file. -/
theorem ofBytes_eq_ok_iff :
    ofBytes data = .ok cart ↔
      ∃ header board, Header.parse data = .ok header ∧ header.board = .ok board ∧
        prgStart header + header.prgRomSize + header.chrRomSize ≤ data.size ∧
        header.prgRomSize ≠ 0 ∧
        cart =
          { header
            board
            hardware := .powerOn board
              (data.extract (prgStart header) (prgStart header + header.prgRomSize))
              (chrOfFile header board data) header.mirroring } := by
  constructor
  · intro hload
    cases hparse : Header.parse data with
    | error error =>
      rw [ofBytes_of_parse_error hparse] at hload
      cases hload
    | ok header =>
      cases hboard : header.board with
      | error error =>
        rw [ofBytes_of_board_error hparse hboard] at hload
        cases hload
      | ok board =>
        rw [ofBytes_of_board hparse hboard] at hload
        dsimp only at hload
        split at hload
        next => cases hload
        next hlong =>
          split at hload
          next => cases hload
          next hsome =>
            cases hload
            exact ⟨header, board, rfl, hboard, Nat.le_of_not_lt hlong, hsome, rfl⟩
  · rintro ⟨header, board, hparse, hboard, hlong, hsome, rfl⟩
    rw [ofBytes_of_board hparse hboard]
    dsimp only
    rw [if_neg (Nat.not_lt.mpr hlong), if_neg hsome]

end Cartridge

/-! ## The layout of a file -/

namespace CartridgeFile

/-- Byte of a file as a number. -/
def byte (data : Memory) (i : Nat) : Nat := (data.getD i 0).toNat

/-- `NES` and a DOS end-of-file mark. -/
def Signed (data : Memory) : Prop :=
  byte data 0 = 0x4E ∧ byte data 1 = 0x45 ∧ byte data 2 = 0x53 ∧ byte data 3 = 0x1A

instance (data : Memory) : Decidable (Signed data) :=
  inferInstanceAs (Decidable (_ ∧ _))

/-- Bits 2 and 3 of byte 7 mark a NES 2.0 header. -/
def isNes2 (data : Memory) : Bool := byte data 7 / 4 % 4 == 2

/-- A number that an iNES header has no place for. -/
def extra (data : Memory) (number : Nat) : Nat := if isNes2 data then number else 0

/-- The header, each field put together from the places of its bits. -/
def header (data : Memory) : Header where
  mapper := byte data 6 / 16 + 16 * (byte data 7 / 16) + 256 * extra data (byte data 8 % 16)
  submapper := extra data (byte data 8 / 16)
  prgRomSize := 0x4000 * (byte data 4 + 256 * extra data (byte data 9 % 16))
  chrRomSize := 0x2000 * (byte data 5 + 256 * extra data (byte data 9 / 16))
  chrRamSize :=
    let shift := extra data (byte data 11 % 16)
    if shift = 0 then 0 else 64 * 2 ^ shift
  mirroring :=
    if (byte data 6).testBit 3 then .fourScreen
    else if (byte data 6).testBit 0 then .vertical
    else .horizontal
  hasTrainer := (byte data 6).testBit 2
  hasBattery := (byte data 6).testBit 1
  nes2 := isNes2 data

/-- PRG memory follows the header and the trainer, if there is one. -/
def prgStart (data : Memory) : Nat := 16 + if (header data).hasTrainer then 512 else 0

/-- CHR ROM follows PRG memory. -/
def chrStart (data : Memory) : Nat := prgStart data + (header data).prgRomSize

/-- The file has to be this long. -/
def fileEnd (data : Memory) : Nat := chrStart data + (header data).chrRomSize

/-- Pattern memory: the ROM of the file, or zeroed RAM of the size that the header states or that is
usual on the board. -/
def chr (data : Memory) (board : Board) : Chr :=
  if (header data).chrRomSize ≠ 0 then
    { cells := data.extract (chrStart data) (fileEnd data), writable := false }
  else
    let size :=
      if (header data).chrRamSize ≠ 0 then (header data).chrRamSize else board.defaultChrRam
    { cells := Array.replicate size 0, writable := true }

/-- What a file loads as. -/
inductive Loads (data : Memory) : Except CartridgeError Cartridge → Prop where
  | short (hshort : data.size < 16) : Loads data (.error (.truncated 16 data.size))
  | foreign (hlong : 16 ≤ data.size) (hforeign : ¬ Signed data) : Loads data (.error .format)
  | unknownMapper (hlong : 16 ≤ data.size) (hsigned : Signed data)
      (hnone : ∀ board : Board, board.descriptor.id ≠ (header data).mapper) :
      Loads data (.error (.mapper (.unknownMapper (header data).mapper)))
  | truncated (board : Board) (hlong : 16 ≤ data.size) (hsigned : Signed data)
      (hid : board.descriptor.id = (header data).mapper) (hshort : data.size < fileEnd data) :
      Loads data (.error (.truncated (fileEnd data) data.size))
  | noPrg (board : Board) (hsigned : Signed data)
      (hid : board.descriptor.id = (header data).mapper) (hlong : fileEnd data ≤ data.size)
      (hnone : (header data).prgRomSize = 0) : Loads data (.error (.prgSize 0))
  | cartridge (board : Board) (hsigned : Signed data)
      (hid : board.descriptor.id = (header data).mapper) (hlong : fileEnd data ≤ data.size)
      (hsome : (header data).prgRomSize ≠ 0) :
      Loads data (.ok
        { header := header data
          board
          hardware := .powerOn board (data.extract (prgStart data) (chrStart data))
            (chr data board) (header data).mirroring })

/-! ## The header by places -/

/-- Each flag is a bit of its byte. -/
theorem flags_of_byte (v : UInt8) :
    (v &&& 0x0C == 0x08) = (v.toNat / 4 % 4 == 2) ∧
      (v &&& 0x08 != 0) = v.toNat.testBit 3 ∧ (v &&& 0x04 != 0) = v.toNat.testBit 2 ∧
      (v &&& 0x02 != 0) = v.toNat.testBit 1 ∧ (v &&& 0x01 != 0) = v.toNat.testBit 0 := by
  revert v
  exact forall_byte (by decide +kernel)

theorem mirroringOf_eq (v : UInt8) :
    Header.mirroringOf v =
      if v.toNat.testBit 3 then .fourScreen
      else if v.toNat.testBit 0 then .vertical
      else .horizontal := by
  obtain ⟨-, hfour, -, -, hvertical⟩ := flags_of_byte v
  rw [Header.mirroringOf, hfour, hvertical]

theorem chrRamOf_eq (shift : Nat) :
    Header.chrRamOf shift = if shift = 0 then 0 else 64 * 2 ^ shift := by
  rw [Header.chrRamOf, Nat.shiftLeft_eq]

theorem decode_eq_header (data : Memory) :
    Header.decode (fun i => data.getD i 0) = header data := by
  have hnes2 : (data.getD 7 0 &&& 0x0C == 0x08) = isNes2 data := (flags_of_byte (data.getD 7 0)).1
  obtain ⟨-, -, htrainer, hbattery, -⟩ := flags_of_byte (data.getD 6 0)
  rw [Header.decode, header]
  simp only [hnes2, htrainer, hbattery, mirroringOf_eq, chrRamOf_eq, Header.lowNibble,
    Header.highNibble]
  cases hdialect : isNes2 data with
  | true =>
    simp only [extra, hdialect, if_true, byte]
    congr 1 <;> omega
  | false =>
    simp only [extra, hdialect, Bool.false_eq_true, if_false, if_true, byte]
    congr 1 <;> omega

theorem signed_iff {data : Memory} (hlong : 16 ≤ data.size) :
    (data.extract 0 4).toList = Header.magic ↔ Signed data := by
  obtain ⟨bytes⟩ := data
  match bytes, hlong with
  | first :: second :: third :: fourth :: rest, _ =>
    have hfront : ((first :: second :: third :: fourth :: rest).toArray.extract 0 4).toList =
        [first, second, third, fourth] := by
      rw [List.extract_toArray]
      rfl
    rw [hfront]
    simp only [Header.magic, List.cons.injEq, and_true, ← UInt8.toNat_inj]
    exact Iff.rfl

/-! ## Loading by the rules -/

variable {data : Memory}

theorem parse_of_foreign (hlong : 16 ≤ data.size) (hforeign : ¬ Signed data) :
    Header.parse data = .error .format := by
  have hlength : ¬ data.size < Header.length := Nat.not_lt.mpr hlong
  rw [Header.parse, if_neg hlength,
    if_pos (fun hmagic => hforeign ((signed_iff hlong).mp hmagic))]

theorem parse_of_signed (hlong : 16 ≤ data.size) (hsigned : Signed data) :
    Header.parse data = .ok (header data) := by
  have hlength : ¬ data.size < Header.length := Nat.not_lt.mpr hlong
  rw [Header.parse, if_neg hlength,
    if_neg (not_not_intro ((signed_iff hlong).mpr hsigned)), decode_eq_header]

theorem chrOfFile_eq (data : Memory) (board : Board) :
    Cartridge.chrOfFile (header data) board data = chr data board := by
  simp only [Cartridge.chrOfFile, chr, Nat.pos_iff_ne_zero]
  split
  next => rfl
  next => split <;> rfl

theorem sixteen_le_fileEnd (data : Memory) : 16 ≤ fileEnd data := by
  have hstart : 16 ≤ prgStart data := Nat.le_add_right ..
  have hchr : prgStart data ≤ chrStart data := Nat.le_add_right ..
  have hend : chrStart data ≤ fileEnd data := Nat.le_add_right ..
  omega

theorem board_of_id {board : Board} (h : board.descriptor.id = (header data).mapper) :
    (header data).board = .ok board := by
  rw [Header.board, ← h]
  exact Board.resolve_id board

theorem ofBytes_of_id (hlong : 16 ≤ data.size) (hsigned : Signed data) {board : Board}
    (hid : board.descriptor.id = (header data).mapper) :
    Cartridge.ofBytes data =
      if data.size < fileEnd data then .error (.truncated (fileEnd data) data.size)
      else if (header data).prgRomSize = 0 then .error (.prgSize 0)
      else .ok
        { header := header data
          board
          hardware := .powerOn board (data.extract (prgStart data) (chrStart data))
            (chr data board) (header data).mirroring } := by
  rw [Cartridge.ofBytes_of_board (parse_of_signed hlong hsigned) (board_of_id hid), chrOfFile_eq]
  rfl

/-- Every rule is what loading does. -/
theorem Loads.ofBytes_eq {result : Except CartridgeError Cartridge} (h : Loads data result) :
    Cartridge.ofBytes data = result := by
  cases h with
  | short hshort => exact Cartridge.ofBytes_of_parse_error (if_pos hshort)
  | foreign hlong hforeign =>
    exact Cartridge.ofBytes_of_parse_error (parse_of_foreign hlong hforeign)
  | unknownMapper hlong hsigned hnone =>
    exact Cartridge.ofBytes_of_board_error (parse_of_signed hlong hsigned)
      (Board.resolve_of_forall_id_ne hnone)
  | truncated board hlong hsigned hid hshort =>
    rw [ofBytes_of_id hlong hsigned hid, if_pos hshort]
  | noPrg board hsigned hid hlong hnone =>
    have hsixteen := Nat.le_trans (sixteen_le_fileEnd data) hlong
    rw [ofBytes_of_id hsixteen hsigned hid, if_neg (Nat.not_lt.mpr hlong), if_pos hnone]
  | cartridge board hsigned hid hlong hsome =>
    have hsixteen := Nat.le_trans (sixteen_le_fileEnd data) hlong
    rw [ofBytes_of_id hsixteen hsigned hid, if_neg (Nat.not_lt.mpr hlong), if_neg hsome]

/-- Some rule applies to every file. -/
theorem loads_ofBytes (data : Memory) : Loads data (Cartridge.ofBytes data) := by
  -- One rule is enough: whichever applies, its result is that of loading.
  have hrule : ∃ result, Loads data result := by
    by_cases hlong : 16 ≤ data.size
    case neg => exact ⟨_, .short (Nat.lt_of_not_le hlong)⟩
    by_cases hsigned : Signed data
    case neg => exact ⟨_, .foreign hlong hsigned⟩
    by_cases hknown : ∃ board : Board, board.descriptor.id = (header data).mapper
    case neg => exact ⟨_, .unknownMapper hlong hsigned (not_exists.mp hknown)⟩
    obtain ⟨board, hid⟩ := hknown
    by_cases hend : fileEnd data ≤ data.size
    case neg => exact ⟨_, .truncated board hlong hsigned hid (Nat.lt_of_not_le hend)⟩
    by_cases hsome : (header data).prgRomSize = 0
    case pos => exact ⟨_, .noPrg board hsigned hid hend hsome⟩
    case neg => exact ⟨_, .cartridge board hsigned hid hend hsome⟩
  obtain ⟨result, hloads⟩ := hrule
  rwa [hloads.ofBytes_eq]

theorem ofBytes_eq_iff {result : Except CartridgeError Cartridge} :
    Cartridge.ofBytes data = result ↔ Loads data result := by
  constructor
  · rintro rfl
    exact loads_ofBytes data
  · exact Loads.ofBytes_eq

/-! ## Bytes without a part in loading -/

/-- Two files agree outside the trainer and up to the end of the announced memories. They are of one
length, or both have all of those memories. -/
structure Agree (data other : Memory) : Prop where
  size : data.size = other.size ∨ fileEnd data ≤ data.size ∧ fileEnd data ≤ other.size
  cell : ∀ i < fileEnd data, i < 16 ∨ prgStart data ≤ i → data[i]? = other[i]?

variable {other : Memory}

/-- Everything that rests on the header alone. -/
theorem layout_congr (h : ∀ i < 16, other.getD i 0 = data.getD i 0) :
    (Signed other ↔ Signed data) ∧ header other = header data ∧
      prgStart other = prgStart data ∧ chrStart other = chrStart data ∧
      fileEnd other = fileEnd data := by
  have hsigned : Signed other ↔ Signed data := by
    simp only [Signed, byte, h 0 (by omega), h 1 (by omega), h 2 (by omega), h 3 (by omega)]
  have hheader : header other = header data := by
    rw [← decode_eq_header, ← decode_eq_header]
    exact Header.decode_congr h
  have hprg : prgStart other = prgStart data := by rw [prgStart, prgStart, hheader]
  have hchr : chrStart other = chrStart data := by rw [chrStart, chrStart, hprg, hheader]
  have hend : fileEnd other = fileEnd data := by rw [fileEnd, fileEnd, hchr, hheader]
  exact ⟨hsigned, hheader, hprg, hchr, hend⟩

theorem extract_congr {start stop : Nat} (hdata : stop ≤ data.size) (hother : stop ≤ other.size)
    (h : ∀ i < stop, start ≤ i → data[i]? = other[i]?) :
    other.extract start stop = data.extract start stop := by
  apply Array.ext_getElem?
  intro i
  rw [Array.getElem?_extract, Array.getElem?_extract, Nat.min_eq_left hdata,
    Nat.min_eq_left hother]
  split
  next hi => exact (h (start + i) (by omega) (Nat.le_add_right ..)).symm
  next => rfl

namespace Agree

theorem layout_eq (h : Agree data other) :
    (Signed other ↔ Signed data) ∧ header other = header data ∧
      prgStart other = prgStart data ∧ chrStart other = chrStart data ∧
      fileEnd other = fileEnd data := by
  refine layout_congr fun i hi => ?_
  have hend := sixteen_le_fileEnd data
  rw [Array.getD_eq_getD_getElem?, Array.getD_eq_getD_getElem?, h.cell i (by omega) (.inl hi)]

/-- A file without all of its memories has no bytes to spare. -/
theorem size_eq (h : Agree data other) (hshort : data.size < fileEnd data) :
    other.size = data.size := by
  obtain hsize | ⟨hlong, -⟩ := h.size
  · exact hsize.symm
  · omega

theorem fileEnd_le (h : Agree data other) (hlong : fileEnd data ≤ data.size) :
    fileEnd data ≤ other.size := by
  obtain hsize | ⟨-, hother⟩ := h.size
  · exact hsize ▸ hlong
  · exact hother

theorem sixteen_le (h : Agree data other) (hlong : 16 ≤ data.size) : 16 ≤ other.size := by
  have hend := sixteen_le_fileEnd data
  obtain hsize | ⟨-, hother⟩ := h.size
  · exact hsize ▸ hlong
  · omega

theorem prg_eq (h : Agree data other) (hlong : fileEnd data ≤ data.size) :
    other.extract (prgStart data) (chrStart data) =
      data.extract (prgStart data) (chrStart data) := by
  have hother := h.fileEnd_le hlong
  have hend : chrStart data ≤ fileEnd data := Nat.le_add_right ..
  exact extract_congr (by omega) (by omega) fun i hi hstart => h.cell i (by omega) (.inr hstart)

theorem chr_eq (h : Agree data other) (hlong : fileEnd data ≤ data.size) (board : Board) :
    chr other board = chr data board := by
  obtain ⟨-, hheader, -, hchr, hend⟩ := h.layout_eq
  have hother := h.fileEnd_le hlong
  have hstart : prgStart data ≤ chrStart data := Nat.le_add_right ..
  have hrom : other.extract (chrStart data) (fileEnd data) =
      data.extract (chrStart data) (fileEnd data) :=
    extract_congr hlong hother fun i hi hcell => h.cell i hi (.inr (by omega))
  rw [chr, chr, hheader, hchr, hend, hrom]

/-- Files that agree load as the same. -/
theorem loads (h : Agree data other) {result : Except CartridgeError Cartridge}
    (hloads : Loads data result) : Loads other result := by
  obtain ⟨hsign, hheader, hprg, hchr, hend⟩ := h.layout_eq
  have hpos := sixteen_le_fileEnd data
  cases hloads with
  | short hshort =>
    have hsize := h.size_eq (by omega)
    rw [← hsize] at hshort ⊢
    exact .short hshort
  | foreign hlong hforeign =>
    exact .foreign (h.sixteen_le hlong) fun hsigned => hforeign (hsign.mp hsigned)
  | unknownMapper hlong hsigned hnone =>
    rw [← hheader] at hnone ⊢
    exact .unknownMapper (h.sixteen_le hlong) (hsign.mpr hsigned) hnone
  | truncated board hlong hsigned hid hshort =>
    have hsize := h.size_eq hshort
    rw [← hheader] at hid
    rw [← hsize, ← hend] at hshort ⊢
    exact .truncated board (h.sixteen_le hlong) (hsign.mpr hsigned) hid hshort
  | noPrg board hsigned hid hlong hnone =>
    have hother := h.fileEnd_le hlong
    rw [← hend] at hother
    rw [← hheader] at hid hnone
    exact .noPrg board (hsign.mpr hsigned) hid hother hnone
  | cartridge board hsigned hid hlong hsome =>
    have hother := h.fileEnd_le hlong
    rw [← hend] at hother
    rw [← h.prg_eq hlong, ← h.chr_eq hlong, ← hprg, ← hchr]
    rw [← hheader] at hid hsome ⊢
    exact .cartridge board (hsign.mpr hsigned) hid hother hsome

end Agree

/-- A beginning of an accepted file that lacks some of the memories is short of a header, or short
of what its header announces. -/
theorem Loads.extract {cart : Cartridge} (h : Loads data (.ok cart)) {n : Nat}
    (hn : n < fileEnd data) :
    Loads (data.extract 0 n) (.error (.truncated (if n < 16 then 16 else fileEnd data) n)) := by
  obtain _ | _ | _ | _ | _ | ⟨board, hsigned, hid, hlong, -⟩ := h
  have hsize : (data.extract 0 n).size = n := by
    simp only [Array.size_extract]
    omega
  by_cases hshort : n < 16
  · have hloads : Loads (data.extract 0 n) _ := .short (hsize.symm ▸ hshort)
    rw [hsize] at hloads
    rwa [if_pos hshort]
  · -- The header is still whole and announces the same memories.
    have hfront : ∀ i < 16, (data.extract 0 n).getD i 0 = data.getD i 0 := by
      intro i hi
      rw [Array.getD_eq_getD_getElem?, Array.getD_eq_getD_getElem?, Array.getElem?_extract,
        if_pos (by omega), Nat.zero_add]
    obtain ⟨hsign, hheader, -, -, hend⟩ := layout_congr hfront
    have hloads : Loads (data.extract 0 n) _ :=
      .truncated board (by omega) (hsign.mpr hsigned) (hheader ▸ hid) (by omega)
    rw [hsize, hend] at hloads
    rwa [if_neg hshort]

end CartridgeFile

/-- Every file loads as the rules say, and as nothing else. Bytes of the trainer and bytes past the
announced memories make no difference, and a beginning of an accepted file that ends before those
memories do is refused as truncated. -/
theorem file_loading_exact (data : Memory) :
    (∀ result, Cartridge.ofBytes data = result ↔ CartridgeFile.Loads data result) ∧
      (∀ other, CartridgeFile.Agree data other →
        Cartridge.ofBytes other = Cartridge.ofBytes data) ∧
      ∀ cart n, Cartridge.ofBytes data = .ok cart → n < CartridgeFile.fileEnd data →
        Cartridge.ofBytes (data.extract 0 n) =
          .error (.truncated (if n < 16 then 16 else CartridgeFile.fileEnd data) n) := by
  refine ⟨fun result => CartridgeFile.ofBytes_eq_iff, fun other hagree => ?_,
    fun cart n hload hn => ?_⟩
  · exact (hagree.loads (CartridgeFile.loads_ofBytes data)).ofBytes_eq
  · exact ((CartridgeFile.ofBytes_eq_iff.mp hload).extract hn).ofBytes_eq

/-- An NROM file of 16 KiB with a trainer, the same file with other bytes in the trainer and three
bytes at its end, and its first 16000 bytes. -/
theorem file_loading_exact_trainer :
    let start : Memory := #[0x4E, 0x45, 0x53, 0x1A, 1, 0, 0x04, 0, 0, 0, 0, 0, 0, 0, 0, 0]
    let code : Memory := Array.replicate 0x4000 0xEA
    let data := start ++ (Array.replicate 512 0 ++ code)
    let other := start ++ (Array.replicate 512 0xFF ++ (code ++ #[1, 2, 3]))
    (∃ cart, Cartridge.ofBytes data = .ok cart ∧ cart.hardware.prg = code) ∧
      Cartridge.ofBytes other = Cartridge.ofBytes data ∧
      Cartridge.ofBytes (data.extract 0 16000) = .error (.truncated 16912 16000) := by
  intro start code data other
  have hcode : code.size = 0x4000 := Array.size_replicate
  -- Only the header is computed with; the memories are known by their sizes.
  clear_value code
  have htrainer : ∀ byte : UInt8, (Array.replicate 512 byte).size = 512 :=
    fun _ => Array.size_replicate
  have hstart : start.size = 16 := rfl
  have hdata : data.size = 16912 := by
    simp only [data, Array.size_append, htrainer, hstart, hcode]
  have hother : other.size = 16915 := by
    simp [other, htrainer, hstart, hcode]
  have hlayout : CartridgeFile.Signed start ∧ (CartridgeFile.header start).mapper = 0 ∧
      (CartridgeFile.header start).prgRomSize = 0x4000 ∧ CartridgeFile.prgStart start = 528 ∧
      CartridgeFile.chrStart start = 16912 ∧ CartridgeFile.fileEnd start = 16912 := by
    decide
  have hfront : ∀ i < 16, data.getD i 0 = start.getD i 0 :=
    fun i hi => Header.getD_append (Array.replicate 512 0 ++ code) hi
  obtain ⟨hsign, hheader, hprg, hchr, hend⟩ := CartridgeFile.layout_congr hfront
  rw [← hsign, ← hheader, ← hprg, ← hchr, ← hend] at hlayout
  obtain ⟨hsigned, hmapper, hsome, hprgStart, hchrStart, hfileEnd⟩ := hlayout
  have hexact := file_loading_exact data
  have hload := (hexact.1 _).mpr (.cartridge .nrom hsigned hmapper.symm
    (Nat.le_of_eq (hfileEnd.trans hdata.symm)) (hsome ▸ by omega))
  have hcut : data.extract (CartridgeFile.prgStart data) (CartridgeFile.chrStart data) = code := by
    rw [hprgStart, hchrStart]
    have hall : code.extract 0 0x4000 = code := by rw [← hcode, Array.extract_size]
    have hnone : start.extract 528 16 = #[] := Array.extract_eq_empty_of_le (by decide)
    simp [data, Array.extract_append, hstart, hall, hnone]
  have hagree : CartridgeFile.Agree data other := by
    refine ⟨.inr (by omega), fun i hi hcell => ?_⟩
    rw [hfileEnd] at hi
    rw [hprgStart] at hcell
    simp only [data, other, Array.getElem?_append, hstart, htrainer, hcode]
    obtain hfront | hback := hcell
    · rw [if_pos hfront, if_pos hfront]
    · rw [if_neg (by omega), if_neg (by omega), if_neg (by omega), if_neg (by omega),
        if_pos (by omega)]
  refine ⟨⟨_, hload, hcut⟩, hexact.2.1 other hagree, ?_⟩
  have hshort := hexact.2.2 _ 16000 hload (by omega)
  rwa [if_neg (by omega), hfileEnd] at hshort

end NesCartridge
