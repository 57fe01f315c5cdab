import MailReplica.Header.CodeGrid.Japanese
import MailReplica.Header.CodeGrid.Korean
import MailReplica.Header.CodeGrid.SimplifiedChinese
import MailReplica.Header.CodeGrid.TraditionalChinese
import MailReplica.Text.Octet
import MailReplica.Text.Utf16

/-! # Character sets of several octets

Sets in which a character takes one octet or more.  Octets are read one at a time, and what has begun
of a character is kept until it is whole.  Reading is total: octets that go together to no character
are read as one replacement character, and an ASCII octet at their end counts on its own.
-/

namespace MailReplica.Header

/-- A character set in which a character takes one octet or more. -/
structure WideSet where
  /-- The names of the set, in lower case. -/
  names : List String
  decode : Octets → List Char

namespace WideSet

/-- Stands for octets that are no character. -/
def replacement : Char := '\uFFFD'

/-- Reads octets from a state on: `step` gives the characters that an octet completes, and `ending`
the characters of what is left unfinished. -/
def readFrom {σ : Type} (step : σ → UInt8 → List Char × σ) (ending : σ → List Char) (state : σ)
    (read : List Char) : Octets → List Char
  | [] => read.reverse ++ ending state
  | octet :: rest =>
    let (chars, next) := step state octet
    readFrom step ending next (chars.reverse ++ read) rest

/-- What an octet completes, and the octets of the character that is begun then. -/
abbrev Step := List Char × Octets

def whole (char : Char) : Step :=
  ([char], [])

/-- The character that an octet completes, if it completes one. -/
def completed (char? : Option Char) (octet : UInt8) : Step :=
  match char? with
  | some char => whole char
  | none =>
    (if octet < 0x80 then [replacement, Char.ofNat octet.toNat] else [replacement], [])

/-- Reads octets of a set whose state is the octets of the character that is begun. -/
def readSteps (step : Octets → UInt8 → Step) (octets : Octets) : List Char :=
  readFrom step (fun begun => if begun.isEmpty then [] else [replacement]) [] [] octets

/-- The place of the second octet of a character among the octets `0x40` to `0x7E` and those from
`high` to `0xFE`. -/
def column? (high : Nat) (octet : UInt8) : Option Nat :=
  let code := octet.toNat
  if 0x40 ≤ code ∧ code ≤ 0x7E then some (code - 0x40)
  else if high ≤ code ∧ code ≤ 0xFE then some (code - high + 0x3F)
  else none

/-- The place in a grid of 94 columns that two octets name, each from `0xA1` to `0xFE`. -/
def place94? (first second : UInt8) : Option Nat :=
  if 0xA1 ≤ first ∧ first ≤ 0xFE ∧ 0xA1 ≤ second ∧ second ≤ 0xFE then
    some ((first.toNat - 0xA1) * 94 + (second.toNat - 0xA1))
  else none

/-- The katakana of half width at a place. -/
def halfKatakana (place : Nat) : Char :=
  Char.ofNat (0xFF61 + place)

/-! ## Japanese -/

/-- The character of two octets of Shift JIS.  Rows 95 to 114 are for private use. -/
def shiftJisChar? (lead trail : UInt8) : Option Char := do
  if trail > 0xFC then none
  let column ← column? 0x80 trail
  let row := lead.toNat - (if lead < 0xA0 then 0x81 else 0xC1)
  let place := row * 188 + column
  if 8836 ≤ place ∧ place ≤ 10715 then some (Char.ofNat (0xE000 + (place - 8836)))
  else CodeGrid.japanese.char? place

def shiftJisStep : Octets → UInt8 → Step
  | lead :: _, trail => completed (shiftJisChar? lead trail) trail
  | [], octet =>
    if octet ≤ 0x80 then whole (Char.ofNat octet.toNat)
    else if 0xA1 ≤ octet ∧ octet ≤ 0xDF then whole (halfKatakana (octet.toNat - 0xA1))
    else if octet = 0xA0 ∨ 0xFD ≤ octet then whole replacement
    else ([], [octet])

/-- One octet of the Japanese form of the Extended Unix Code.  The octet `0x8E` goes before a
katakana of half width, and `0x8F` before a character of the supplement. -/
def eucJpStep : Octets → UInt8 → Step
  | [], octet =>
    if octet < 0x80 then whole (Char.ofNat octet.toNat)
    else if octet = 0x8E ∨ octet = 0x8F ∨ 0xA1 ≤ octet ∧ octet ≤ 0xFE then ([], [octet])
    else whole replacement
  | [0x8E], octet =>
    completed
      (if 0xA1 ≤ octet ∧ octet ≤ 0xDF then some (halfKatakana (octet.toNat - 0xA1)) else none) octet
  | [0x8F], octet =>
    if 0xA1 ≤ octet ∧ octet ≤ 0xFE then ([], [0x8F, octet]) else completed none octet
  | [0x8F, first], second =>
    completed (place94? first second >>= CodeGrid.japaneseSupplement.char?) second
  | first :: _, second => completed (place94? first second >>= CodeGrid.japanese.char?) second

/-- The set that ISO-2022-JP has switched to. -/
inductive JisSet where
  | ascii
  /-- ASCII with a yen sign and an overline. -/
  | roman
  | katakana
  /-- The grid. -/
  | grid
  deriving DecidableEq

structure JisState where
  set : JisSet
  /-- Whether nothing was read since the last switch. -/
  isFresh : Bool
  /-- The octets of the character, or of the switch, that is begun. -/
  begun : Octets

namespace JisState

/-- The set that is switched to by the two octets after an escape. -/
def set? : UInt8 → UInt8 → Option JisSet
  | 0x28, 0x42 => some .ascii
  | 0x28, 0x4A => some .roman
  | 0x28, 0x49 => some .katakana
  | 0x24, 0x40 | 0x24, 0x42 => some .grid
  | _, _ => none

/-- The character of an octet of a set of single octets. -/
def char? (set : JisSet) (octet : UInt8) : Option Char :=
  match set with
  | .katakana =>
    if 0x21 ≤ octet ∧ octet ≤ 0x5F then some (halfKatakana (octet.toNat - 0x21)) else none
  | .grid => none
  | .ascii | .roman =>
    if octet = 0x0E ∨ octet = 0x0F ∨ 0x80 ≤ octet then none
    else if set = .roman ∧ octet = 0x5C then some '¥'
    else if set = .roman ∧ octet = 0x7E then some '‾'
    else some (Char.ofNat octet.toNat)

/-- Whether an octet can be half of a character of the grid. -/
def isHalf (octet : UInt8) : Bool :=
  0x21 ≤ octet && octet ≤ 0x7E

/-- An octet that begins a character or a switch. -/
def opening (state : JisState) (octet : UInt8) : List Char × JisState :=
  if octet = 0x1B then ([], { state with begun := [octet] })
  else
    let state := { state with isFresh := false, begun := [] }
    if state.set = .grid ∧ isHalf octet then ([], { state with begun := [octet] })
    else ([(char? state.set octet).getD replacement], state)

/-- The second octet of a character of the grid. -/
def closing (state : JisState) (first second : UInt8) : List Char × JisState :=
  let state := { state with begun := [] }
  if second = 0x1B then ([replacement], { state with begun := [second] })
  else
    let char? := place94? (first + 0x80) (second + 0x80) >>= CodeGrid.japanese.char?
    ([if isHalf second then char?.getD replacement else replacement], state)

/-- An escape that switches nothing.  The octets after it are read as if it were not there. -/
def fruitless (state : JisState) (octets : Octets) : List Char × JisState :=
  let state := { state with isFresh := false, begun := [] }
  let (chars, state) := octets.foldl (fun (chars, state) octet =>
    let (more, state) :=
      match state.begun with
      | [] => opening state octet
      | first :: _ => closing state first octet
    (chars ++ more, state)) ([], state)
  (replacement :: chars, state)

def step (state : JisState) (octet : UInt8) : List Char × JisState :=
  match state.begun with
  | [] => opening state octet
  | [0x1B] =>
    if octet = 0x24 ∨ octet = 0x28 then ([], { state with begun := [0x1B, octet] })
    else fruitless state [octet]
  | [0x1B, mark] =>
    match set? mark octet with
    | some set => (if state.isFresh then [replacement] else [], ⟨set, true, []⟩)
    | none => fruitless state [mark, octet]
  | first :: _ => closing state first octet

/-- What is left when the octets end. -/
def ending (state : JisState) : List Char :=
  match state.begun with
  | [] => []
  | [0x1B, mark] =>
    let (chars, state) := fruitless state [mark]
    if state.begun.isEmpty then chars else chars ++ [replacement]
  | _ => [replacement]

end JisState

/-! ## Chinese and Korean -/

/-- The characters of GB 18030 that four octets stand for, as runs: the place where a run begins and
the code point there. -/
def fourOctetRuns : Array (Nat × Nat) := #[
    (0x0, 0x80), (0x24, 0xA5), (0x26, 0xA9), (0x2D, 0xB2), (0x32, 0xB8), (0x51, 0xD8),
    (0x59, 0xE2), (0x5F, 0xEB), (0x60, 0xEE), (0x64, 0xF4), (0x67, 0xF8), (0x68, 0xFB),
    (0x69, 0xFD), (0x6D, 0x102), (0x7E, 0x114), (0x85, 0x11C), (0x94, 0x12C), (0xAC, 0x145),
    (0xAF, 0x149), (0xB3, 0x14E), (0xD0, 0x16C), (0x132, 0x1CF), (0x133, 0x1D1), (0x134, 0x1D3),
    (0x135, 0x1D5), (0x136, 0x1D7), (0x137, 0x1D9), (0x138, 0x1DB), (0x139, 0x1DD),
    (0x155, 0x1FA), (0x1AC, 0x252), (0x1BB, 0x262), (0x220, 0x2C8), (0x221, 0x2CC),
    (0x22E, 0x2DA), (0x2E5, 0x3A2), (0x2E6, 0x3AA), (0x2ED, 0x3C2), (0x2EE, 0x3CA),
    (0x325, 0x402), (0x333, 0x450), (0x334, 0x452), (0x1EF2, 0x2011), (0x1EF4, 0x2017),
    (0x1EF5, 0x201A), (0x1EF7, 0x201E), (0x1EFE, 0x2027), (0x1F07, 0x2031), (0x1F08, 0x2034),
    (0x1F09, 0x2036), (0x1F0E, 0x203C), (0x1F7E, 0x20AD), (0x1FD4, 0x2104), (0x1FD5, 0x2106),
    (0x1FD8, 0x210A), (0x1FE4, 0x2117), (0x1FEE, 0x2122), (0x202C, 0x216C), (0x2030, 0x217A),
    (0x2046, 0x2194), (0x2048, 0x219A), (0x20B6, 0x2209), (0x20BC, 0x2210), (0x20BD, 0x2212),
    (0x20C0, 0x2216), (0x20C4, 0x221B), (0x20C6, 0x2221), (0x20C8, 0x2224), (0x20C9, 0x2226),
    (0x20CA, 0x222C), (0x20CC, 0x222F), (0x20D1, 0x2238), (0x20D6, 0x223E), (0x20E0, 0x2249),
    (0x20E3, 0x224D), (0x20E8, 0x2253), (0x20F5, 0x2262), (0x20F7, 0x2268), (0x20FD, 0x2270),
    (0x2122, 0x2296), (0x2125, 0x229A), (0x2130, 0x22A6), (0x2149, 0x22C0), (0x219B, 0x2313),
    (0x22E8, 0x246A), (0x22F2, 0x249C), (0x2356, 0x254C), (0x235A, 0x2574), (0x2367, 0x2590),
    (0x236A, 0x2596), (0x2374, 0x25A2), (0x2384, 0x25B4), (0x238C, 0x25BE), (0x2394, 0x25C8),
    (0x2397, 0x25CC), (0x2399, 0x25D0), (0x23AB, 0x25E6), (0x23CA, 0x2607), (0x23CC, 0x260A),
    (0x2402, 0x2641), (0x2403, 0x2643), (0x2C41, 0x2E82), (0x2C43, 0x2E85), (0x2C46, 0x2E89),
    (0x2C48, 0x2E8D), (0x2C52, 0x2E98), (0x2C61, 0x2EA8), (0x2C63, 0x2EAB), (0x2C66, 0x2EAF),
    (0x2C6A, 0x2EB4), (0x2C6C, 0x2EB8), (0x2C6F, 0x2EBC), (0x2C7D, 0x2ECB), (0x2DA2, 0x2FFC),
    (0x2DA6, 0x3004), (0x2DA7, 0x3018), (0x2DAC, 0x301F), (0x2DAE, 0x302A), (0x2DC2, 0x303F),
    (0x2DC4, 0x3094), (0x2DCB, 0x309F), (0x2DCD, 0x30F7), (0x2DD2, 0x30FF), (0x2DD8, 0x312A),
    (0x2ECE, 0x322A), (0x2ED5, 0x3232), (0x2F46, 0x32A4), (0x3030, 0x3390), (0x303C, 0x339F),
    (0x303E, 0x33A2), (0x3060, 0x33C5), (0x3069, 0x33CF), (0x306B, 0x33D3), (0x306D, 0x33D6),
    (0x30DE, 0x3448), (0x3109, 0x3474), (0x3233, 0x359F), (0x32A2, 0x360F), (0x32AD, 0x361B),
    (0x35AA, 0x3919), (0x35FF, 0x396F), (0x365F, 0x39D1), (0x366D, 0x39E0), (0x3700, 0x3A74),
    (0x37DA, 0x3B4F), (0x38F9, 0x3C6F), (0x396A, 0x3CE1), (0x3CDF, 0x4057), (0x3DE7, 0x4160),
    (0x3FBE, 0x4338), (0x4032, 0x43AD), (0x4036, 0x43B2), (0x4061, 0x43DE), (0x4159, 0x44D7),
    (0x42CE, 0x464D), (0x42E2, 0x4662), (0x43A3, 0x4724), (0x43A8, 0x472A), (0x43FA, 0x477D),
    (0x440A, 0x478E), (0x45C3, 0x4948), (0x45F5, 0x497B), (0x45F7, 0x497E), (0x45FB, 0x4984),
    (0x45FC, 0x4987), (0x4610, 0x499C), (0x4613, 0x49A0), (0x4629, 0x49B8), (0x48E8, 0x4C78),
    (0x490F, 0x4CA4), (0x497E, 0x4D1A), (0x4A12, 0x4DAF), (0x4A63, 0x9FA6), (0x82BD, 0xE76C),
    (0x82BE, 0xE7C8), (0x82BF, 0xE7E7), (0x82CC, 0xE815), (0x82CD, 0xE819), (0x82D2, 0xE81F),
    (0x82D9, 0xE827), (0x82DD, 0xE82D), (0x82E1, 0xE833), (0x82E9, 0xE83C), (0x82F0, 0xE844),
    (0x8300, 0xE856), (0x830E, 0xE865), (0x93D5, 0xF92D), (0x9421, 0xF97A), (0x943C, 0xF996),
    (0x948D, 0xF9E8), (0x9496, 0xF9F2), (0x94B0, 0xFA10), (0x94B1, 0xFA12), (0x94B2, 0xFA15),
    (0x94B5, 0xFA19), (0x94BB, 0xFA22), (0x94BC, 0xFA25), (0x94BE, 0xFA2A), (0x98C4, 0xFE32),
    (0x98C5, 0xFE45), (0x98C9, 0xFE53), (0x98CA, 0xFE58), (0x98CB, 0xFE67), (0x98CC, 0xFE6C),
    (0x9961, 0xFF5F), (0x99E2, 0xFFE6)]
/-- The character of four octets of GB 18030. -/
def fourOctetChar? (first second third fourth : UInt8) : Option Char :=
  let place := (((first.toNat - 0x81) * 10 + (second.toNat - 0x30)) * 126 + (third.toNat - 0x81)) * 10
    + (fourth.toNat - 0x30)
  if place ≤ 39419 then
    (fourOctetRuns.filter fun run => run.1 ≤ place).back?.map fun run =>
      Char.ofNat (run.2 + (place - run.1))
  else if 189000 ≤ place ∧ place ≤ 1237575 then some (Char.ofNat (0x10000 + (place - 189000)))
  else none

/-- An octet of GB 18030 at the beginning of a character. -/
def gb18030Opening (octet : UInt8) : Step :=
  if octet < 0x80 then whole (Char.ofNat octet.toNat)
  else if octet = 0x80 then whole '€'
  else if octet = 0xFF then whole replacement
  else ([], [octet])

/-- The second octet of a character of GB 18030.  A digit announces two more. -/
def gb18030Second (first second : UInt8) : Step :=
  if Octet.isDigit second then ([], [first, second])
  else
    let char? := (column? 0x80 second).bind fun column =>
      CodeGrid.simplifiedChinese.char? ((first.toNat - 0x81) * 190 + column)
    completed char? second

/-- One octet of GB 18030.  Four octets that do not go together are read anew from the second one. -/
def gb18030Step : Octets → UInt8 → Step
  | [], octet => gb18030Opening octet
  | [first], second => gb18030Second first second
  | [first, second], third =>
    if 0x81 ≤ third ∧ third ≤ 0xFE then ([], [first, second, third])
    else
      let (chars, begun) := gb18030Opening third
      (replacement :: Char.ofNat second.toNat :: chars, begun)
  | first :: second :: third :: _, fourth =>
    match if Octet.isDigit fourth then fourOctetChar? first second third fourth else none with
    | some char => whole char
    | none =>
      let (chars, begun) := gb18030Second third fourth
      (replacement :: Char.ofNat second.toNat :: chars, begun)

/-- An octet at the beginning of a character of a set of two octets to a character. -/
def pairOpening (octet : UInt8) : Step :=
  if octet < 0x80 then whole (Char.ofNat octet.toNat)
  else if 0x81 ≤ octet ∧ octet ≤ 0xFE then ([], [octet])
  else whole replacement

/-- The letters with two accents that two octets of Big5 stand for. -/
def doublyAccented? (place : Nat) : Option (List Char) :=
  [(1133, ['\u00CA', '\u0304']), (1135, ['\u00CA', '\u030C']), (1164, ['\u00EA', '\u0304']),
    (1166, ['\u00EA', '\u030C'])].lookup place

def big5Step : Octets → UInt8 → Step
  | [], octet => pairOpening octet
  | first :: _, second =>
    match (column? 0xA1 second).map fun column => (first.toNat - 0x81) * 157 + column with
    | none => completed none second
    | some place =>
      match doublyAccented? place with
      | some chars => (chars, [])
      | none => completed (CodeGrid.traditionalChinese.char? place) second

/-- One octet of the Korean form of the Extended Unix Code. -/
def eucKrStep : Octets → UInt8 → Step
  | [], octet => pairOpening octet
  | first :: _, second =>
    completed
      (if 0x41 ≤ second ∧ second ≤ 0xFE then
        CodeGrid.korean.char? ((first.toNat - 0x81) * 190 + (second.toNat - 0x41))
      else none)
      second

/-! ## UTF-7 -/

/-- A run of base64 digits: the 16-bit units read, latest first, and the bits left over. -/
structure UnitRun where
  units : List Nat
  bits : Nat
  bitCount : Nat

def UnitRun.addDigit (run : UnitRun) (digit : Nat) : UnitRun :=
  let bits := run.bits * 64 + digit
  let bitCount := run.bitCount + 6
  if bitCount < 16 then { run with bits, bitCount }
  else
    let left := bitCount - 16
    ⟨bits >>> left :: run.units, bits % (1 <<< left), left⟩

def UnitRun.chars (run : UnitRun) : List Char :=
  Text.unitChars run.units.reverse

/-- One octet of UTF-7.  Text that is not ASCII stands in runs of base64 digits, each after a plus
sign and up to a minus sign or any other octet that is no digit. -/
def utf7Step : Option UnitRun → UInt8 → List Char × Option UnitRun
  | none, octet =>
    if octet == Octet.plus then ([], some ⟨[], 0, 0⟩) else ([Char.ofNat octet.toNat], none)
  | some run, octet =>
    match Octet.sextet? octet with
    | some digit => ([], some (run.addDigit digit))
    | none =>
      if octet == Octet.minus then
        (if run.units.isEmpty && run.bitCount == 0 then ['+'] else run.chars, none)
      else (run.chars ++ [Char.ofNat octet.toNat], none)

/-- The text of what is left when the octets end. -/
def utf7Ending : Option UnitRun → List Char
  | none => []
  | some run => run.chars

def all : List WideSet := [
  ⟨["shift_jis", "ms_kanji", "csshiftjis"], readSteps shiftJisStep⟩,
  ⟨["euc-jp", "extended_unix_code_packed_format_for_japanese", "cseucpkdfmtjapanese"],
    readSteps eucJpStep⟩,
  ⟨["iso-2022-jp", "csiso2022jp"],
    readFrom JisState.step JisState.ending ⟨.ascii, false, []⟩ []⟩,
  ⟨["gb18030", "csgb18030", "gbk", "cp936", "ms936", "windows-936", "csgbk", "gb2312", "csgb2312"],
    readSteps gb18030Step⟩,
  ⟨["big5", "csbig5"], readSteps big5Step⟩,
  ⟨["euc-kr", "cseuckr", "ks_c_5601-1987"], readSteps eucKrStep⟩,
  ⟨["utf-7", "csutf7"], readFrom utf7Step utf7Ending none []⟩]

end WideSet

end MailReplica.Header
