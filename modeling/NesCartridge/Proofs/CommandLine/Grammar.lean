/-
  NesCartridge.Proofs.CommandLine.Grammar

  The grammar of the command line. Arguments that can be read are flags, size options with a number
  behind them, and words (`Token`); the words spell a command (`Asks`). `Reads` says for every list
  of arguments which configuration or which error it stands for. Main statement:
  `ofArgs_follows_grammar`, which also says that flags and size options may stand anywhere.
-/
import Mathlib.Data.List.Induction
import NesCartridge.CommandLine.Config

namespace NesCartridge.CommandLine

/-! ## Numbers -/

theorem readNumber_eq_error {limit : Nat} {text : String}
    (h : ∀ n, readNumber limit text ≠ .ok n) :
    readNumber limit text = .error (.invalidNumber text) := by
  revert h
  unfold readNumber
  cases Number.read? limit text with
  | some n => exact fun h => absurd rfl (h n)
  | none => exact fun _ => rfl

/-! ## Tokens -/

/-- The argument does not start with a dash, or it is nothing but a dash. -/
def IsWord (text : String) : Prop :=
  text = "-" ∨ text.toList.head? ≠ some '-'

instance : DecidablePred IsWord := fun _ => inferInstanceAs (Decidable (_ ∨ _))

/-- The options by name. -/
def optionNames : List String :=
  ["-v", "--verbose", "--no-color", "--prg", "--chr"]

inductive SizeOption where
  | prg
  | chr
  deriving DecidableEq

def SizeOption.text : SizeOption → String
  | prg => "--prg"
  | chr => "--chr"

/-- A piece of a command line that can be read by itself. -/
inductive Token where
  | verbose (long : Bool)
  | noColor
  | size (option : SizeOption) (value : String) (kib : Nat)
      (h : readNumber sizeLimit value = .ok kib)
  | word (text : String) (h : IsWord text)
  deriving DecidableEq

namespace Token

def arguments : Token → List String
  | verbose long => [if long then "--verbose" else "-v"]
  | noColor => ["--no-color"]
  | size option value _ _ => [option.text, value]
  | word text _ => [text]

def isVerbose : Token → Bool
  | verbose _ => true
  | _ => false

def isNoColor : Token → Bool
  | noColor => true
  | _ => false

def kib? (option : SizeOption) : Token → Option Nat
  | size which _ kib _ => if which = option then some kib else none
  | _ => none

def word? : Token → Option String
  | word text _ => some text
  | _ => none

/-- The words of a command line. -/
def words (tokens : List Token) : List String :=
  tokens.filterMap word?

/-- The values of a size option, in order. -/
def kibs (tokens : List Token) (option : SizeOption) : List Nat :=
  tokens.filterMap (kib? option)

end Token

/-! ## The grammar -/

/-- What words ask for, or what is wrong with them. Words behind those that count are ignored. -/
inductive Asks (prgKib chrKib : Option Nat) : List String → Except ConfigError Command → Prop
  | list {rest : List String} : Asks prgKib chrKib ("list" :: rest) (.ok .list)
  | probe {number : String} {mapper : Nat} {rest : List String}
      (h : readNumber 256 number = .ok mapper) :
      Asks prgKib chrKib ("probe" :: number :: rest) (.ok (.probe mapper prgKib chrKib))
  | inspect {path : String} {rest : List String} :
      Asks prgKib chrKib ("inspect" :: path :: rest) (.ok (.inspect path))
  | noCommand : Asks prgKib chrKib [] (.error .missingCommand)
  | unknownCommand {word : String} {rest : List String}
      (h : word ∉ ["list", "probe", "inspect"]) :
      Asks prgKib chrKib (word :: rest) (.error (.unknownCommand word))
  | noNumber : Asks prgKib chrKib ["probe"] (.error (.missingValue "probe"))
  | badNumber {number : String} {rest : List String} (h : ∀ n, readNumber 256 number ≠ .ok n) :
      Asks prgKib chrKib ("probe" :: number :: rest) (.error (.invalidNumber number))
  | noPath : Asks prgKib chrKib ["inspect"] (.error (.missingValue "inspect"))

/-- The first of the arguments cannot be read. -/
inductive Offends : List String → ConfigError → Prop
  | unknownOption {text : String} {rest : List String} (hword : ¬ IsWord text)
      (hoption : text ∉ optionNames) :
      Offends (text :: rest) (.unknownOption text)
  | noValue (option : SizeOption) : Offends [option.text] (.missingValue option.text)
  | badValue (option : SizeOption) {value : String} {rest : List String}
      (h : ∀ n, readNumber sizeLimit value ≠ .ok n) :
      Offends (option.text :: value :: rest) (.invalidNumber value)

/-- What arguments stand for. An argument that cannot be read comes before a command that cannot be
carried out, wherever it stands. -/
inductive Reads : List String → Except ConfigError Config → Prop
  | config (tokens : List Token) {command : Command}
      (h : Asks (Token.kibs tokens .prg).getLast? (Token.kibs tokens .chr).getLast?
        (Token.words tokens) (.ok command)) :
      Reads (tokens.flatMap Token.arguments)
        (.ok {
          command
          verbose := tokens.any Token.isVerbose
          color := !tokens.any Token.isNoColor })
  | badCommand (tokens : List Token) {error : ConfigError}
      (h : Asks (Token.kibs tokens .prg).getLast? (Token.kibs tokens .chr).getLast?
        (Token.words tokens) (.error error)) :
      Reads (tokens.flatMap Token.arguments) (.error error)
  | badArgument (tokens : List Token) {rest : List String} {error : ConfigError}
      (h : Offends rest error) : Reads (tokens.flatMap Token.arguments ++ rest) (.error error)

/-- The same pieces in another order. Words keep their order, and so do the values of each size
option. -/
structure Moved (tokens moved : List Token) : Prop where
  perm : moved.Perm tokens
  words : Token.words moved = Token.words tokens
  kibs : ∀ option, Token.kibs moved option = Token.kibs tokens option

/-! ## Commands -/

theorem asks_command (options : Options) :
    Asks options.prgKib options.chrKib options.words options.command := by
  unfold Options.command
  split
  next hwords => exact hwords ▸ .noCommand
  next hwords => exact hwords ▸ .list
  next arguments hwords =>
    rw [hwords]
    cases arguments with
    | nil => exact .noNumber
    | cons number rest =>
      dsimp only
      cases hnumber : readNumber 256 number with
      | ok mapper => exact .probe hnumber
      | error error =>
        have hnone : ∀ n, readNumber 256 number ≠ .ok n := fun n h => by
          cases hnumber.symm.trans h
        cases hnumber.symm.trans (readNumber_eq_error hnone)
        exact .badNumber hnone
  next arguments hwords =>
    rw [hwords]
    cases arguments with
    | nil => exact .noPath
    | cons path rest => exact .inspect
  next word rest hlist hprobe hinspect hwords =>
    rw [hwords]
    refine .unknownCommand ?_
    simp only [List.mem_cons, List.not_mem_nil, or_false, not_or]
    exact ⟨hlist, hprobe, hinspect⟩

theorem Asks.command_eq {options : Options} {result : Except ConfigError Command}
    (h : Asks options.prgKib options.chrKib options.words result) : options.command = result := by
  obtain ⟨verbose, color, prgKib, chrKib, words⟩ := options
  cases h with
  | list | inspect | noCommand | noNumber | noPath => rfl
  | probe h =>
    show (readNumber 256 _ >>= _) = _
    rw [h]
    rfl
  | badNumber h =>
    show (readNumber 256 _ >>= _) = _
    rw [readNumber_eq_error h]
    rfl
  | unknownCommand h =>
    unfold Options.command
    split
    next hwords => cases hwords
    next hwords =>
      cases hwords
      exact absurd (by decide) h
    next hwords =>
      cases hwords
      exact absurd (by decide) h
    next hwords =>
      cases hwords
      exact absurd (by decide) h
    next hwords =>
      cases hwords
      rfl

/-! ## Scanning -/

/-- What the pieces of a command line say together. -/
def Options.ofTokens (tokens : List Token) : Options where
  verbose := tokens.any Token.isVerbose
  color := !tokens.any Token.isNoColor
  prgKib := (Token.kibs tokens .prg).getLast?
  chrKib := (Token.kibs tokens .chr).getLast?
  words := Token.words tokens

/-- One more piece is read. -/
def Options.take (options : Options) : Token → Options
  | .verbose _ => { options with verbose := true }
  | .noColor => { options with color := false }
  | .size .prg _ kib _ => { options with prgKib := some kib }
  | .size .chr _ kib _ => { options with chrKib := some kib }
  | .word text _ => { options with words := options.words ++ [text] }

theorem Options.ofTokens_append (tokens : List Token) (token : Token) :
    ofTokens (tokens ++ [token]) = (ofTokens tokens).take token := by
  simp only [ofTokens, Token.kibs, Token.words, List.any_append, List.filterMap_append]
  cases token with
  | verbose | noColor | word =>
    simp [take, Token.isVerbose, Token.isNoColor, Token.kib?, Token.word?]
  | size option =>
    cases option with
    | prg | chr => simp [take, Token.isVerbose, Token.isNoColor, Token.kib?, Token.word?]

theorem Options.ofTokens_eq (tokens : List Token) : ofTokens tokens = tokens.foldl take {} := by
  induction tokens using List.reverseRecOn with
  | nil => rfl
  | append_singleton tokens token ih =>
    rw [ofTokens_append, ih, List.foldl_append]
    rfl

theorem isWord_iff {text : String} :
    IsWord text ↔ ∀ second rest, text.toList ≠ '-' :: second :: rest := by
  have hlone : text = "-" ↔ text.toList = ['-'] := String.toList_inj.symm
  rw [IsWord, hlone]
  rcases text.toList with - | ⟨first, - | ⟨second, rest⟩⟩ <;> simp [Decidable.em]

/-- An argument that is no option by name is a word, or it is refused. -/
theorem Argument.of_eq {text : String}
    (h : text ∉ optionNames) :
    Argument.of text = if IsWord text then .word else .unknown := by
  simp only [optionNames, List.mem_cons, List.not_mem_nil, or_false, not_or] at h
  obtain ⟨hv, hverbose, hcolor, hprg, hchr⟩ := h
  rw [Argument.of, if_neg (not_or.mpr ⟨hv, hverbose⟩), if_neg hcolor, if_neg hprg, if_neg hchr]
  split
  next second rest htext =>
    exact (if_neg fun hword => isWord_iff.mp hword second rest htext).symm
  next hother => exact (if_pos (isWord_iff.mpr hother)).symm

/-- The options all start with a dash. -/
theorem IsWord.not_mem {text : String} (h : IsWord text) :
    text ∉ optionNames := by
  have hoptions : ∀ option ∈ optionNames, ¬ IsWord option := by decide
  exact fun hmem => hoptions text hmem h

theorem Options.scan_arguments (token : Token) (rest : List String) (options : Options) :
    scan (token.arguments ++ rest) options = scan rest (options.take token) := by
  cases token with
  | verbose long => cases long <;> rfl
  | noColor => rfl
  | size option value kib h =>
    cases option with
    | prg | chr =>
      show (readNumber sizeLimit value >>= _) = _
      rw [h]
      rfl
  | word text h =>
    show scan (text :: rest) options = _
    have hword : Argument.of text = .word := by rw [Argument.of_eq h.not_mem, if_pos h]
    rw [scan.eq_def]
    simp only [hword, take]

theorem Options.scan_tokens (tokens : List Token) (rest : List String) (options : Options) :
    scan (tokens.flatMap Token.arguments ++ rest) options =
      scan rest (tokens.foldl take options) := by
  induction tokens generalizing options with
  | nil => rfl
  | cons token tokens ih =>
    rw [List.flatMap_cons, List.append_assoc, scan_arguments, ih, List.foldl_cons]

theorem Offends.scan_eq {arguments : List String} {error : ConfigError}
    (h : Offends arguments error) (options : Options) :
    Options.scan arguments options = .error error := by
  cases h with
  | unknownOption hword hoption =>
    have hunknown := Argument.of_eq hoption
    rw [if_neg hword] at hunknown
    rw [Options.scan.eq_def]
    simp only [hunknown]
  | noValue option => cases option <;> rfl
  | badValue option h =>
    cases option with
    | prg | chr =>
      show (readNumber sizeLimit _ >>= _) = _
      rw [readNumber_eq_error h]
      rfl

/-- A piece can be read at the front of the arguments. -/
def StartsWithToken (arguments : List String) : Prop :=
  ∃ token : Token, ∃ rest, arguments = token.arguments ++ rest

/-- A size option takes the next argument, if there is one and it is a number that fits. -/
theorem startsWithToken_or_offends_size (option : SizeOption) (rest : List String) :
    StartsWithToken (option.text :: rest) ∨ ∃ error, Offends (option.text :: rest) error := by
  cases rest with
  | nil => exact .inr ⟨_, .noValue option⟩
  | cons value rest =>
    by_cases hvalue : ∃ kib, readNumber sizeLimit value = .ok kib
    · obtain ⟨kib, hkib⟩ := hvalue
      exact .inl ⟨.size option value kib hkib, rest, rfl⟩
    · exact .inr ⟨_, .badValue option (not_exists.mp hvalue)⟩

theorem startsWithToken_or_offends (text : String) (rest : List String) :
    StartsWithToken (text :: rest) ∨ ∃ error, Offends (text :: rest) error := by
  by_cases hoption : text ∈ optionNames
  · simp only [optionNames, List.mem_cons, List.not_mem_nil, or_false] at hoption
    rcases hoption with rfl | rfl | rfl | rfl | rfl
    · exact .inl ⟨.verbose false, rest, rfl⟩
    · exact .inl ⟨.verbose true, rest, rfl⟩
    · exact .inl ⟨.noColor, rest, rfl⟩
    · exact startsWithToken_or_offends_size .prg rest
    · exact startsWithToken_or_offends_size .chr rest
  · by_cases hword : IsWord text
    · exact .inl ⟨.word text hword, rest, rfl⟩
    · exact .inr ⟨_, .unknownOption hword hoption⟩

theorem Token.length_arguments_pos (token : Token) : 0 < token.arguments.length := by
  cases token with
  | verbose | noColor | size | word => exact Nat.succ_pos _

/-- Arguments can be read to the end, or up to one that is refused. -/
theorem exists_tokens (arguments : List String) :
    ∃ tokens : List Token, arguments = tokens.flatMap Token.arguments ∨
      ∃ rest error, arguments = tokens.flatMap Token.arguments ++ rest ∧ Offends rest error := by
  -- A piece may take two arguments, so the induction is on how many are left.
  induction hlength : arguments.length using Nat.strongRecOn generalizing arguments with
  | ind length ih =>
    cases arguments with
    | nil => exact ⟨[], .inl rfl⟩
    | cons text rest =>
      obtain ⟨token, remaining, htoken⟩ | ⟨error, hoffends⟩ :=
        startsWithToken_or_offends text rest
      · have hshorter : remaining.length < length := by
          have hpos := token.length_arguments_pos
          rw [htoken, List.length_append] at hlength
          omega
        rw [htoken]
        obtain ⟨tokens, hread⟩ := ih _ hshorter remaining rfl
        refine ⟨token :: tokens, ?_⟩
        rw [List.flatMap_cons]
        rcases hread with rfl | ⟨bad, error, rfl, hoffends⟩
        · exact .inl rfl
        · exact .inr ⟨bad, error, (List.append_assoc ..).symm, hoffends⟩
      · exact ⟨[], .inr ⟨_, error, rfl, hoffends⟩⟩

/-! ## Configurations -/

theorem ofArgs_tokens (tokens : List Token) :
    let options := Options.ofTokens tokens
    Config.ofArgs (tokens.flatMap Token.arguments) = options.command.map fun command =>
      { command, verbose := options.verbose, color := options.color } := by
  have hscan := Options.scan_tokens tokens [] {}
  rw [List.append_nil, ← Options.ofTokens_eq] at hscan
  rw [Config.ofArgs, hscan]
  show ((Options.ofTokens tokens).command >>= _) = _
  cases (Options.ofTokens tokens).command with
  | error error => rfl
  | ok command => rfl

theorem ofArgs_offends (tokens : List Token) {rest : List String} {error : ConfigError}
    (h : Offends rest error) :
    Config.ofArgs (tokens.flatMap Token.arguments ++ rest) = .error error := by
  rw [Config.ofArgs, Options.scan_tokens, h.scan_eq]
  rfl

theorem reads_ofArgs (arguments : List String) : Reads arguments (Config.ofArgs arguments) := by
  obtain ⟨tokens, rfl | ⟨rest, error, rfl, hoffends⟩⟩ := exists_tokens arguments
  · have hasks := asks_command (.ofTokens tokens)
    rw [ofArgs_tokens]
    cases hcommand : (Options.ofTokens tokens).command with
    | error error =>
      rw [hcommand] at hasks
      exact .badCommand tokens hasks
    | ok command =>
      rw [hcommand] at hasks
      exact .config tokens hasks
  · rw [ofArgs_offends tokens hoffends]
    exact .badArgument tokens hoffends

theorem Reads.ofArgs_eq {arguments : List String} {result : Except ConfigError Config}
    (h : Reads arguments result) : Config.ofArgs arguments = result := by
  cases h with
  | config tokens h | badCommand tokens h =>
    have hcommand : (Options.ofTokens tokens).command = _ := Asks.command_eq h
    rw [ofArgs_tokens, hcommand]
    rfl
  | badArgument tokens h => exact ofArgs_offends tokens h

/-- Only the order inside the words and inside each size option counts. -/
theorem Moved.ofTokens_eq {tokens moved : List Token} (h : Moved tokens moved) :
    Options.ofTokens moved = Options.ofTokens tokens := by
  rw [Options.ofTokens, h.words, h.kibs, h.kibs, h.perm.any_eq, h.perm.any_eq, ← Options.ofTokens]

/-- The arguments decide what is configured as the grammar says, for every list of arguments and
with the exact error; and flags and size options may stand anywhere among the words. -/
theorem ofArgs_follows_grammar :
    (∀ arguments result, Config.ofArgs arguments = result ↔ Reads arguments result) ∧
      ∀ tokens moved, Moved tokens moved →
        Config.ofArgs (moved.flatMap Token.arguments) =
          Config.ofArgs (tokens.flatMap Token.arguments) := by
  refine ⟨fun arguments result => ⟨?_, Reads.ofArgs_eq⟩, fun tokens moved hmoved => ?_⟩
  · rintro rfl
    exact reads_ofArgs arguments
  · rw [ofArgs_tokens, ofArgs_tokens, hmoved.ofTokens_eq]

/-- The size of a probe may stand in front of it, and the last size counts. -/
theorem ofArgs_follows_grammar_probe :
    Config.ofArgs ["--prg", "64", "--prg", "$80", "probe", "4", "-v"] =
        .ok { command := .probe 4 (some 128) none, verbose := true, color := true } ∧
      Config.ofArgs ["-v", "probe", "--prg", "64", "4", "--prg", "$80"] =
        Config.ofArgs ["--prg", "64", "--prg", "$80", "probe", "4", "-v"] := by
  let small := Token.size .prg "64" 64 (by decide)
  let large := Token.size .prg "$80" 128 (by decide)
  let probe := Token.word "probe" (by decide)
  let number := Token.word "4" (by decide)
  let tokens := [small, large, probe, number, .verbose false]
  let moved := [.verbose false, probe, small, number, large]
  have hmapper : readNumber 256 "4" = .ok 4 := by decide
  have hmoved : Moved tokens moved :=
    { perm := by decide
      words := rfl
      kibs := fun option => by cases option <;> rfl }
  obtain ⟨hreads, hplaces⟩ := ofArgs_follows_grammar
  exact ⟨(hreads _ _).mpr (.config tokens (.probe hmapper)), hplaces tokens moved hmoved⟩

end NesCartridge.CommandLine
