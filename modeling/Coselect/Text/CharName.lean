import Coselect.Number.Digits
import Coselect.Text.CharRanges
import Coselect.Text.Names.Aliases
import Coselect.Text.Names.IdeographicToSpecials
import Coselect.Text.Names.LatinToVedic
import Coselect.Text.Names.LinearToDuployan
import Coselect.Text.Names.PhoneticToRadicals
import Coselect.Text.Names.ZnamennyToSelectors

/-! Characters by name. Syllables and ideographs have names that follow from their code points,
and a name of these two kinds is written in capitals; all other names are in tables and may
be written in any case. -/

namespace Coselect.Text

namespace Names

def initials : List String :=
  ["G", "GG", "N", "D", "DD", "R", "M", "B", "BB", "S", "SS", "", "J", "JJ", "C", "K", "T", "P",
   "H"]

def medials : List String :=
  ["A", "AE", "YA", "YAE", "EO", "E", "YEO", "YE", "O", "WA", "WAE", "OE", "YO", "U", "WEO", "WE",
   "WI", "YU", "EU", "YI", "I"]

def finals : List String :=
  ["", "G", "GG", "GS", "N", "NJ", "NH", "D", "L", "LG", "LM", "LB", "LS", "LT", "LP", "LH", "M",
   "B", "BS", "S", "SS", "NG", "J", "C", "K", "T", "P", "H"]

/-- The syllables in the order of their code points: a first consonant, a vowel and a last
consonant, where either consonant may be missing. -/
def syllables : List String :=
  initials.flatMap fun i => medials.flatMap fun m => finals.map fun f => i ++ m ++ f

def syllable? (name : List Char) : Option Nat :=
  match afterStart "HANGUL SYLLABLE ".toList name with
  | some s => (syllables.idxOf? (String.ofList s)).map (0xac00 + ·)
  | none => none

def ideographs : CharRanges :=
  [(0x3400, 0x4dbf), (0x4e00, 0x9fff), (0x20000, 0x2a6df), (0x2a700, 0x2b738),
   (0x2b740, 0x2b81d), (0x2b820, 0x2cea1), (0x2ceb0, 0x2ebe0), (0x30000, 0x3134a)]

def isCapitalHex (c : Char) : Bool := (Number.hexValue? c).isSome && !c.isLower

/-- The code point in hexadecimal digits behind a stem, when the ranges have it. -/
def numbered? (stem : String) (ranges : CharRanges) (wellWritten : List Char → Bool)
    (name : List Char) : Option Nat :=
  match afterStart stem.toList name with
  | some ds =>
    let n := Number.ofDigits 16 ds
    if ds.all isCapitalHex && ranges.has (Char.ofNat n) && wellWritten ds then some n else none
  | none => none

/-- A zero may stand before an ideograph's four digits. -/
def ideograph? (name : List Char) : Option Nat :=
  numbered? "CJK UNIFIED IDEOGRAPH-" ideographs (·.length ≤ 5) name

def numberedFamilies : List (String × CharRanges) :=
  [("CJK COMPATIBILITY IDEOGRAPH-", [(0xf900, 0xfa6d), (0xfa70, 0xfad9), (0x2f800, 0x2fa1d)]),
   ("KHITAN SMALL SCRIPT CHARACTER-", [(0x18b00, 0x18cd5)]),
   ("NUSHU CHARACTER-", [(0x1b170, 0x1b2fb)])]

def familyMember? (name : List Char) : Option Nat :=
  numberedFamilies.findSome? fun (stem, ranges) =>
    numbered? stem ranges (·.head? != some '0') name

def tables : List (List NameRun) :=
  [latinToArabic, syriacToSinhala, thaiToVedic, phoneticToCurrency,
   letterlikeToDingbats, brailleToRadicals, ideographicToMeetei, hangulToSpecials,
   linearToYezidi, brahmiToCuneiform, hieroglyphsToDuployan, znamennyToSignWriting,
   extensionsToPictographs, animalsToSelectors, aliases]

def tabled? (name : List Char) : Option Nat :=
  tables.findSome? fun runs => runs.findSome? (·.codeOf? name)

end Names

open Names in
/-- The code point with a name. -/
def codeNamed? (name : List Char) : Option Nat :=
  let capitals := name.map Char.toUpper
  syllable? name <|> ideograph? name <|> familyMember? capitals <|> tabled? capitals

end Coselect.Text
