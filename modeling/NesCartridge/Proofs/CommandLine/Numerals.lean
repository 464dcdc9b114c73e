/-
  NesCartridge.Proofs.CommandLine.Numerals

  The numbers that a command line may hold. A number is a row of digits, decimal or behind a prefix
  hexadecimal in either case, with at most one plus sign in front (`Numeral`). Main statement:
  `numbers_are_read_exactly`, by which exactly these texts are read, each with its positional value
  as long as that is below the limit, and every other text is refused as it stands. Sums and
  products of 64 bits are enough to find out (`read64?`).
-/
import Mathlib.Data.Nat.Digits.Defs
import Mathlib.Tactic.Ring
import NesCartridge.Proofs.CommandLine.Grammar

namespace NesCartridge.CommandLine

namespace Number

/-! ## The grammar -/

/-- In lower case the text is the row of digits of these values, and their number is `n`, the first
digit counting most. -/
structure Spells (radix : Nat) (text : List Char) (values : List Nat) (n : Nat) : Prop where
  lt : ∀ value ∈ values, value < radix
  text_eq : text.map Char.toLower = values.map Nat.digitChar
  value_eq : n = Nat.ofDigits radix values.reverse

/-- One digit or more. -/
def Digits (radix : Nat) (text : List Char) (n : Nat) : Prop :=
  text ≠ [] ∧ ∃ values, Spells radix text values n

/-- Digits behind at most one plus sign. -/
inductive Unsigned (radix : Nat) : List Char → Nat → Prop
  | bare {text : List Char} {n : Nat} (h : Digits radix text n) : Unsigned radix text n
  | plus {text : List Char} {n : Nat} (h : Digits radix text n) : Unsigned radix ('+' :: text) n

/-- The ways to write a number. -/
inductive Numeral : List Char → Nat → Prop
  | decimal {text : List Char} {n : Nat} (h : Unsigned 10 text n) : Numeral text n
  | dollar {text : List Char} {n : Nat} (h : Unsigned 16 text n) : Numeral ('$' :: text) n
  | zeroX {text : List Char} {n : Nat} (h : Unsigned 16 text n) : Numeral ('0' :: 'x' :: text) n

/-! ## One digit -/

/-- A range that ends within ASCII holds nothing beyond. -/
theorem not_between_of_le {first last c : Char} (hlast : last.toNat < 128) (hc : 128 ≤ c.toNat) :
    ¬ (first ≤ c ∧ c ≤ last) := by
  rintro ⟨-, h⟩
  have hle : c.toNat ≤ last.toNat := UInt32.le_iff_toNat_le.mp (Char.le_def.mp h)
  omega

/-- Of two limits the lower one counts. -/
theorem filter_lt_filter_lt {limit higher : Nat} (h : limit ≤ higher) (value? : Option Nat) :
    (value?.filter (· < higher)).filter (· < limit) = value?.filter (· < limit) := by
  rw [Option.filter_filter]
  refine congrArg (Option.filter · value?) (funext fun value => ?_)
  rw [Bool.eq_iff_iff]
  simp only [decide_eq_true_eq, Bool.and_eq_true]
  omega

theorem digit?_eq_filter {radix : Nat} (hradix : radix ≤ 16) (c : Char) :
    digit? radix c = (digit? 16 c).filter (· < radix) :=
  (filter_lt_filter_lt hradix _).symm

/-- The digits among the ASCII characters. -/
theorem digit?_of_lt : ∀ code < 128, ∀ value < 16,
    (digit? 16 (Char.ofNat code) = some value ↔
      (Char.ofNat code).toLower = value.digitChar) := by
  decide +kernel

theorem digit?_eq_none {c : Char} (hc : 128 ≤ c.toNat) (radix : Nat) : digit? radix c = none := by
  unfold digit?
  rw [if_neg (not_between_of_le (by decide) hc), if_neg (not_between_of_le (by decide) hc),
    if_neg (not_between_of_le (by decide) hc), Option.filter_none]

theorem digitChar_lt : ∀ value < 16, value.digitChar.toNat < 128 := by decide

theorem digit?_eq_some_iff {radix : Nat} (hradix : radix ≤ 16) {c : Char} {value : Nat} :
    digit? radix c = some value ↔ value < radix ∧ c.toLower = value.digitChar := by
  rw [digit?_eq_filter hradix, Option.filter_eq_some_iff, decide_eq_true_eq, and_comm]
  refine and_congr_right fun hvalue => ?_
  have hvalue : value < 16 := Nat.lt_of_lt_of_le hvalue hradix
  by_cases hc : c.toNat < 128
  · have hascii := digit?_of_lt c.toNat hc value hvalue
    rwa [Char.ofNat_toNat] at hascii
  · -- Beyond ASCII there is no digit and no upper case.
    have hc : 128 ≤ c.toNat := Nat.le_of_not_lt hc
    have hupper : ¬ ('A' ≤ c ∧ c ≤ 'Z') := not_between_of_le (by decide) hc
    have hlower : c.toLower = c := dif_neg hupper
    rw [digit?_eq_none hc, hlower]
    refine iff_of_false (Option.some_ne_none value).symm ?_
    rintro rfl
    exact absurd (digitChar_lt value hvalue) (Nat.not_lt.mpr hc)

/-! ## Rows of digits -/

section Digits

variable {radix : Nat} (hradix : radix ≤ 16)

include hradix

/-- Digits read on from `acc` move it up by their count. -/
theorem digitsFrom?_eq_some_iff {acc : Nat} {text : List Char} {n : Nat} :
    digitsFrom? radix acc text = some n ↔
      ∃ values more, Spells radix text values more ∧ n = acc * radix ^ values.length + more := by
  induction text generalizing acc with
  | nil =>
    rw [digitsFrom?, Option.some_inj]
    constructor
    · rintro rfl
      exact ⟨[], 0, ⟨List.forall_mem_nil _, rfl, rfl⟩, by simp⟩
    · rintro ⟨values, more, hspells, rfl⟩
      have hnil : values = [] := List.map_eq_nil_iff.mp hspells.text_eq.symm
      rw [hspells.value_eq, hnil]
      simp
  | cons c rest ih =>
    have hstep : digitsFrom? radix acc (c :: rest) = some n ↔
        ∃ value, (value < radix ∧ c.toLower = value.digitChar) ∧
          digitsFrom? radix (acc * radix + value) rest = some n := by
      simp only [digitsFrom?, Option.bind_eq_bind, Option.bind_eq_some_iff,
        digit?_eq_some_iff hradix]
    rw [hstep]
    constructor
    · rintro ⟨value, ⟨hlt, hdigit⟩, hrest⟩
      obtain ⟨values, more, hspells, rfl⟩ := ih.mp hrest
      refine ⟨value :: values, value * radix ^ values.length + more, ⟨?_, ?_, ?_⟩, ?_⟩
      · exact List.forall_mem_cons.mpr ⟨hlt, hspells.lt⟩
      · rw [List.map_cons, List.map_cons, hdigit, hspells.text_eq]
      · rw [Nat.ofDigits_reverse_cons, ← hspells.value_eq]
        ring
      · rw [List.length_cons]
        ring
    · rintro ⟨values, more, ⟨hlt, htext, hvalue⟩, rfl⟩
      cases values with
      | nil => cases htext
      | cons value values =>
        obtain ⟨hvaluelt, hlt⟩ := List.forall_mem_cons.mp hlt
        obtain ⟨hdigit, htext⟩ := List.cons.inj htext
        refine ⟨value, ⟨hvaluelt, hdigit⟩, ih.mpr ⟨values, _, ⟨hlt, htext, rfl⟩, ?_⟩⟩
        rw [hvalue, Nat.ofDigits_reverse_cons, List.length_cons]
        ring

theorem digits?_eq_some_iff {text : List Char} {n : Nat} :
    digits? radix text = some n ↔ Digits radix text n := by
  cases text with
  | nil => exact iff_of_false (Option.some_ne_none n).symm fun h => h.1 rfl
  | cons c rest =>
    rw [digits?, digitsFrom?_eq_some_iff hradix]
    · constructor
      · rintro ⟨values, more, hspells, rfl⟩
        rw [Nat.zero_mul, Nat.zero_add]
        exact ⟨List.cons_ne_nil _ _, values, hspells⟩
      · rintro ⟨-, values, hspells⟩
        exact ⟨values, n, hspells, by rw [Nat.zero_mul, Nat.zero_add]⟩
    · exact List.cons_ne_nil _ _

theorem unsigned?_eq_some_iff {text : List Char} {n : Nat} :
    unsigned? radix text = some n ↔ Unsigned radix text n := by
  constructor
  · intro h
    unfold unsigned? at h
    split at h
    next digits => exact .plus ((digits?_eq_some_iff hradix).mp h)
    next => exact .bare ((digits?_eq_some_iff hradix).mp h)
  · intro h
    cases h with
    | plus h => exact (digits?_eq_some_iff hradix).mpr h
    | bare h =>
      have hread := (digits?_eq_some_iff hradix).mpr h
      unfold unsigned?
      split
      next digits =>
        -- A plus sign is no digit.
        cases hread
      next => exact hread

end Digits

theorem value?_eq_some_iff {text : List Char} {n : Nat} :
    value? text = some n ↔ Numeral text n := by
  have hten {text : List Char} : unsigned? 10 text = some n ↔ Unsigned 10 text n :=
    unsigned?_eq_some_iff (by decide)
  have hsixteen {text : List Char} : unsigned? 16 text = some n ↔ Unsigned 16 text n :=
    unsigned?_eq_some_iff (by decide)
  constructor
  · intro h
    unfold value? at h
    split at h
    next digits => exact .dollar (hsixteen.mp h)
    next digits => exact .zeroX (hsixteen.mp h)
    next => exact .decimal (hten.mp h)
  · intro h
    cases h with
    | dollar h | zeroX h => exact hsixteen.mpr h
    | decimal h =>
      have hread := hten.mpr h
      unfold value?
      split
      -- Neither prefix is made of decimal digits.
      next digits => cases hread
      next digits => cases hread
      next => exact hread

/-! ## Numbers of 64 bits -/

/-- A number that fits 64 bits. -/
def fit64? (n : Nat) : Option Nat :=
  if n < sizeLimit then some n else none

/-- Value of a list of digits, continuing from `acc`, by products and sums of 64 bits that stop
where they overflow. -/
def digitsFrom64? (radix : Nat) (acc : Nat) : List Char → Option Nat
  | [] => some acc
  | c :: rest => do
    let value ← digit? radix c
    let moved ← fit64? (acc * radix)
    let next ← fit64? (moved + value)
    digitsFrom64? radix next rest

def digits64? (radix : Nat) : List Char → Option Nat
  | [] => none
  | digits => digitsFrom64? radix 0 digits

def unsign : List Char → List Char
  | '+' :: digits => digits
  | digits => digits

/-- The radix that a number is written in, and what there is behind its prefix and sign. -/
def parts : List Char → Nat × List Char
  | '$' :: rest => (16, unsign rest)
  | '0' :: 'x' :: rest => (16, unsign rest)
  | rest => (10, unsign rest)

/-- Read a number below `limit` with arithmetic of 64 bits. -/
def read64? (limit : Nat) (text : String) : Option Nat :=
  (digits64? (parts text.toList).1 (parts text.toList).2).filter (· < limit)

theorem unsigned?_eq (radix : Nat) (text : List Char) :
    unsigned? radix text = digits? radix (unsign text) := by
  fun_cases unsign text with
  | case1 digits => rfl
  | case2 text hplain =>
    rw [unsigned?]
    exact hplain

theorem value?_eq (text : List Char) : value? text = digits? (parts text).1 (parts text).2 := by
  fun_cases parts text with
  | case1 rest | case2 rest => exact unsigned?_eq 16 rest
  | case3 text hdollar hzeroX =>
    rw [value?]
    · exact unsigned?_eq 10 text
    all_goals assumption

theorem parts_fst_pos (text : List Char) : 0 < (parts text).1 := by
  fun_cases parts text <;> exact Nat.zero_lt_succ _

/-- More digits never make a number smaller. -/
theorem le_of_digitsFrom? {radix acc n : Nat} {text : List Char} (hradix : 0 < radix)
    (h : digitsFrom? radix acc text = some n) : acc ≤ n := by
  induction text generalizing acc with
  | nil => exact Nat.le_of_eq (Option.some.inj h)
  | cons c rest ih =>
    simp only [digitsFrom?, Option.bind_eq_bind, Option.bind_eq_some_iff] at h
    obtain ⟨value, -, hrest⟩ := h
    have hmoved : acc ≤ acc * radix := Nat.le_mul_of_pos_right acc hradix
    exact Nat.le_trans (Nat.le_trans hmoved (Nat.le_add_right ..)) (ih hrest)

theorem digitsFrom?_filter_of_le {radix acc : Nat} (text : List Char) (hradix : 0 < radix)
    (hacc : sizeLimit ≤ acc) : (digitsFrom? radix acc text).filter (· < sizeLimit) = none := by
  refine Option.filter_eq_none_iff.mpr fun n hn => ?_
  have hle : acc ≤ n := le_of_digitsFrom? hradix hn
  rw [decide_eq_true_eq]
  omega

/-- An overflow on the way is an overflow of the whole. -/
theorem digitsFrom64?_eq {radix acc : Nat} (text : List Char) (hradix : 0 < radix)
    (hacc : acc < sizeLimit) :
    digitsFrom64? radix acc text = (digitsFrom? radix acc text).filter (· < sizeLimit) := by
  induction text generalizing acc with
  | nil => exact (if_pos (decide_eq_true hacc)).symm
  | cons c rest ih =>
    cases hdigit : digit? radix c with
    | none => simp only [digitsFrom64?, digitsFrom?, hdigit, Option.bind_eq_bind, Option.bind_none,
        Option.filter_none]
    | some value =>
      simp only [digitsFrom64?, digitsFrom?, hdigit, Option.bind_eq_bind, Option.bind_some]
      by_cases hnext : acc * radix + value < sizeLimit
      · have hmoved : acc * radix < sizeLimit := Nat.lt_of_le_of_lt (Nat.le_add_right ..) hnext
        rw [fit64?, if_pos hmoved, Option.bind_some, fit64?, if_pos hnext, Option.bind_some,
          ih hnext]
      · -- What follows only adds to a number that is past the limit already.
        rw [digitsFrom?_filter_of_le rest hradix (Nat.le_of_not_lt hnext)]
        refine Option.bind_eq_none_iff.mpr fun moved hmoved => ?_
        unfold fit64? at hmoved
        split at hmoved
        next =>
          obtain rfl := Option.some.inj hmoved
          rw [fit64?, if_neg hnext, Option.bind_none]
        next => cases hmoved

theorem read64?_eq {limit : Nat} (hlimit : limit ≤ sizeLimit) (text : String) :
    read64? limit text = read? limit text := by
  have hdigits (radix : Nat) (hradix : 0 < radix) (digits : List Char) :
      digits64? radix digits = (digits? radix digits).filter (· < sizeLimit) := by
    cases digits with
    | nil => rfl
    | cons c rest => exact digitsFrom64?_eq (c :: rest) hradix (by decide)
  rw [read64?, read?, value?_eq, hdigits _ (parts_fst_pos _), filter_lt_filter_lt hlimit]

/-! ## Written numbers -/

theorem toLower_digitChar : ∀ value < 16, value.digitChar.toLower = value.digitChar := by decide

theorem toDigits_eq_map {radix : Nat} (hradix : 1 < radix) (n : Nat) :
    ∃ values : List Nat, (∀ value ∈ values, value < radix) ∧
      Nat.toDigits radix n = values.map Nat.digitChar ∧ n = Nat.ofDigits radix values.reverse := by
  induction n using Nat.strong_induction_on with
  | _ n ih =>
    rw [Nat.toDigits_eq_if hradix]
    split
    next hlt =>
      exact ⟨[n], List.forall_mem_singleton.mpr hlt, rfl, Nat.ofDigits_singleton.symm⟩
    next hle =>
      have hless : n / radix < n := Nat.div_lt_self (by omega) hradix
      obtain ⟨values, hlt, htext, hvalue⟩ := ih (n / radix) hless
      refine ⟨values ++ [n % radix], ?_, ?_, ?_⟩
      · exact List.forall_mem_append.mpr
          ⟨hlt, List.forall_mem_singleton.mpr (Nat.mod_lt n (by omega))⟩
      · rw [List.map_append, htext, List.map_singleton]
      · rw [List.reverse_concat, Nat.ofDigits_cons, ← hvalue, Nat.mod_add_div]

/-- The shortest row of digits of a number, in either case. -/
theorem digits_of_toDigits {radix n : Nat} {text : List Char} (hradix : 1 < radix)
    (h : text.map Char.toLower = Nat.toDigits radix n) : Digits radix text n := by
  obtain ⟨values, hlt, htext, hvalue⟩ := toDigits_eq_map hradix n
  refine ⟨?_, values, hlt, h.trans htext, hvalue⟩
  rintro rfl
  exact Nat.toDigits_ne_nil h.symm

theorem map_toLower_toDigits {radix : Nat} (hradix : 1 < radix) (hsixteen : radix ≤ 16) (n : Nat) :
    (Nat.toDigits radix n).map Char.toLower = Nat.toDigits radix n := by
  obtain ⟨values, hlt, htext, -⟩ := toDigits_eq_map hradix n
  rw [htext, List.map_map]
  exact List.map_congr_left fun value hmem =>
    toLower_digitChar value (Nat.lt_of_lt_of_le (hlt value hmem) hsixteen)

/-- Zeros in front count for nothing. -/
theorem Digits.zeros {radix n : Nat} {text : List Char} (h : Digits radix text n)
    (hradix : 0 < radix) (count : Nat) : Digits radix (List.replicate count '0' ++ text) n := by
  obtain ⟨hne, values, hlt, htext, hvalue⟩ := h
  refine ⟨List.append_ne_nil_of_right_ne_nil _ hne, List.replicate count 0 ++ values, ?_, ?_, ?_⟩
  · refine List.forall_mem_append.mpr ⟨fun value hmem => ?_, hlt⟩
    rwa [List.eq_of_mem_replicate hmem]
  · rw [List.map_append, List.map_append, List.map_replicate, List.map_replicate, htext]
    rfl
  · rw [List.reverse_append, List.reverse_replicate, Nat.ofDigits_append_replicate_zero, hvalue]

end Number

/-! ## Reading -/

section Reading

open Number

theorem readNumber_eq_ok_iff {limit : Nat} {text : String} {n : Nat} :
    readNumber limit text = .ok n ↔ Numeral text.toList n ∧ n < limit := by
  have hread : Number.read? limit text = some n ↔ Numeral text.toList n ∧ n < limit := by
    rw [Number.read?, Option.filter_eq_some_iff, value?_eq_some_iff, decide_eq_true_eq]
  rw [← hread, readNumber]
  split
  next m hm => rw [hm, Except.ok.injEq, Option.some_inj]
  next hm =>
    rw [hm]
    exact iff_of_false nofun (Option.some_ne_none n).symm

theorem readNumber_eq_error_iff {limit : Nat} {text : String} {error : ConfigError} :
    readNumber limit text = .error error ↔
      error = .invalidNumber text ∧ ∀ n, Numeral text.toList n → limit ≤ n := by
  constructor
  · intro h
    have hnone (n : Nat) : readNumber limit text ≠ .ok n := fun hok => by cases hok.symm.trans h
    refine ⟨Except.error.inj (h.symm.trans (readNumber_eq_error hnone)), fun n hn => ?_⟩
    exact Nat.le_of_not_lt fun hlt => hnone n (readNumber_eq_ok_iff.mpr ⟨hn, hlt⟩)
  · rintro ⟨rfl, hlarge⟩
    refine readNumber_eq_error fun n hok => ?_
    obtain ⟨hn, hlt⟩ := readNumber_eq_ok_iff.mp hok
    exact Nat.not_lt.mpr (hlarge n hn) hlt

/-- A number behind zeros, in decimal and in both forms of hexadecimal. -/
theorem readNumber_forms {limit n : Nat} (hn : n < limit) (count : Nat) {hex : String}
    (hhex : hex.toList.map Char.toLower = Nat.toDigits 16 n) :
    let zeros := String.ofList (List.replicate count '0')
    ∀ text ∈ [zeros ++ toString n, "$" ++ zeros ++ hex, "0x" ++ zeros ++ hex],
      readNumber limit text = .ok n := by
  have hten : Digits 10 (toString n).toList n := by
    have htext : (toString n).toList = Nat.toDigits 10 n := Nat.toList_repr
    rw [htext]
    exact digits_of_toDigits (by decide) (map_toLower_toDigits (by decide) (by decide) n)
  have hsixteen : Digits 16 hex.toList n := digits_of_toDigits (by decide) hhex
  intro zeros
  have hzeros : zeros.toList = List.replicate count '0' := String.toList_ofList
  simp only [List.forall_mem_cons, List.not_mem_nil, false_implies, implies_true, and_true,
    readNumber_eq_ok_iff, String.toList_append, hzeros, hn]
  refine ⟨.decimal (.bare (hten.zeros (by decide) count)), ?_, ?_⟩
  · exact .dollar (.bare (hsixteen.zeros (by decide) count))
  · exact .zeroX (.bare (hsixteen.zeros (by decide) count))

/-- The numbers below a limit of 64 bits are read exactly: a text is taken with the value that the
grammar gives it, unless that is past the limit, and refused as it stands otherwise. Arithmetic that
stops at an overflow of 64 bits reads the same, and every number below the limit has all its written
forms. -/
theorem numbers_are_read_exactly (limit : Nat) (hlimit : limit ≤ sizeLimit) :
    (∀ text : String,
      (∀ n, readNumber limit text = .ok n ↔ Numeral text.toList n ∧ n < limit) ∧
      (∀ error, readNumber limit text = .error error ↔
        error = .invalidNumber text ∧ ∀ n, Numeral text.toList n → limit ≤ n) ∧
      Number.read64? limit text = Number.read? limit text) ∧
    ∀ n < limit, ∀ (count : Nat) (hex : String),
      hex.toList.map Char.toLower = Nat.toDigits 16 n →
      let zeros := String.ofList (List.replicate count '0')
      ∀ text ∈ [zeros ++ toString n, "$" ++ zeros ++ hex, "0x" ++ zeros ++ hex],
        readNumber limit text = .ok n := by
  refine ⟨fun text => ⟨fun n => ?_, fun error => ?_, ?_⟩, fun n hn count hex hhex => ?_⟩
  · exact readNumber_eq_ok_iff
  · exact readNumber_eq_error_iff
  · exact read64?_eq hlimit text
  · exact readNumber_forms hn count hhex

/-- The numbers of mappers are bytes. -/
theorem numbers_are_read_exactly_byte :
    256 ≤ sizeLimit ∧ readNumber 256 "$+0fF" = .ok 255 ∧ readNumber 256 "0x00fF" = .ok 255 ∧
      ∀ text ∈ ["0x100", "0X10", "$0x10", "-5", "$", "99999999999999999999"],
        readNumber 256 text = .error (.invalidNumber text) := by
  have hlimit : 256 ≤ sizeLimit := by decide
  obtain ⟨hread, hforms⟩ := numbers_are_read_exactly 256 hlimit
  have htake : Numeral "$+0fF".toList 255 := value?_eq_some_iff.mp (by decide)
  refine ⟨hlimit, ((hread "$+0fF").1 255).mpr ⟨htake, by decide⟩, ?_, fun text htext => ?_⟩
  · exact hforms 255 (by decide) 2 "fF" (by decide) _
      (List.mem_cons_of_mem _ (List.mem_cons_of_mem _ (List.mem_singleton.mpr (by decide))))
  · refine ((hread text).2.1 _).mpr ⟨rfl, fun n hn => ?_⟩
    have hrefuse : ∀ text ∈ ["0x100", "0X10", "$0x10", "-5", "$", "99999999999999999999"],
        ∀ n ∈ value? text.toList, 256 ≤ n := by decide
    exact hrefuse text htext n (value?_eq_some_iff.mpr hn)

end Reading

end NesCartridge.CommandLine
