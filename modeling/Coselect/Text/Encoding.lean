import Coselect.Text.Basic
import Coselect.Text.Escaped
import Coselect.Text.Punycode
import Coselect.Text.Switching
import Coselect.Text.Utf7

/-! The encodings of files, by their names. Wide units whose order is not in the name need a
byte order mark in front. -/

namespace Coselect.Text

/-- How the bytes of a file stand for characters. -/
inductive Encoding
  | utf8
  /-- With a mark in front that is dropped. -/
  | markedUtf8
  | ascii
  | latin1
  | utf16 (order : Option ByteOrder)
  | utf32 (order : Option ByteOrder)
  | page (p : CodePage)
  | chinese (e : Chinese)
  | japanese (e : Japanese)
  | korean (e : Korean)
  | switching (e : Switching)
  | utf7
  /-- With escapes for other characters, all of them or only numeric ones. -/
  | escaped (numericOnly : Bool)
  | punycode
  /-- Nothing can be read in it. -/
  | closed
  deriving DecidableEq, Repr

namespace Encoding

/-- Names in their plain form, tables apart. -/
def namesOf : List (List String × Encoding) :=
  [(["utf_8", "u8", "utf", "utf8", "utf8_ucs2", "utf8_ucs4", "cp65001"], utf8),
    (["utf_8_sig"], markedUtf8),
    (["ascii", "646", "ansi_x3.4_1968", "ansi_x3_4_1968", "ansi_x3.4_1986", "cp367", "csascii",
      "ibm367", "iso646_us", "iso_646.irv_1991", "iso_ir_6", "us", "us_ascii"], ascii),
    (["latin_1", "8859", "cp819", "csisolatin1", "ibm819", "iso8859", "iso8859_1", "iso_8859_1",
      "iso_8859_1_1987", "iso_ir_100", "l1", "latin", "latin1"], latin1),
    (["charmap"], latin1),
    (["utf_16", "u16", "utf16"], utf16 none),
    (["utf_16_le", "utf_16le", "unicodelittleunmarked"], utf16 (some .littleEndian)),
    (["utf_16_be", "utf_16be", "unicodebigunmarked"], utf16 (some .bigEndian)),
    (["utf_32", "u32", "utf32"], utf32 none),
    (["utf_32_le", "utf_32le"], utf32 (some .littleEndian)),
    (["utf_32_be", "utf_32be"], utf32 (some .bigEndian)),
    (["utf_7", "u7", "unicode_1_1_utf_7", "utf7"], utf7),
    (["unicode_escape"], escaped false),
    (["raw_unicode_escape"], escaped true),
    (["punycode"], punycode),
    (["idna"], closed),
    (["undefined"], closed)]

/-- Names of the encodings of East Asian texts. -/
def eastAsianNames : List (List String × Encoding) :=
  [(["big5", "big5_tw", "csbig5", "x_mac_trad_chinese"], chinese .big5),
    (["big5hkscs", "big5_hkscs", "hkscs"], chinese .big5Hkscs),
    (["cp950", "950", "ms950"], chinese .cp950),
    (["gb2312", "chinese", "csiso58gb231280", "euc_cn", "euccn", "eucgb2312_cn", "gb2312_1980",
      "gb2312_80", "iso_ir_58", "x_mac_simp_chinese"], chinese .gb2312),
    (["gbk", "936", "cp936", "ms936"], chinese .gbk),
    (["gb18030", "gb18030_2000"], chinese .gb18030),
    (["hz", "hz_gb", "hz_gb_2312", "hzgb"], switching .tilde),
    (["shift_jis", "csshiftjis", "s_jis", "shiftjis", "sjis", "x_mac_japanese"],
      japanese .shiftJis),
    (["cp932", "932", "ms932", "ms_kanji", "mskanji"], japanese .cp932),
    (["shift_jis_2004", "s_jis_2004", "shiftjis2004", "sjis_2004"],
      japanese (.extendedShiftJis true)),
    (["shift_jisx0213", "s_jisx0213", "shiftjisx0213", "sjisx0213"],
      japanese (.extendedShiftJis false)),
    (["euc_jp", "eucjp", "u_jis", "ujis"], japanese .eucJp),
    (["euc_jis_2004", "euc_jis2004", "eucjis2004", "jisx0213"], japanese (.extendedEucJp true)),
    (["euc_jisx0213", "eucjisx0213"], japanese (.extendedEucJp false)),
    (["iso2022_jp", "csiso2022jp", "iso2022jp", "iso_2022_jp"], switching .iso2022Jp),
    (["iso2022_jp_1", "iso2022jp_1", "iso_2022_jp_1"], switching .iso2022Jp1),
    (["iso2022_jp_2", "iso2022jp_2", "iso_2022_jp_2"], switching .iso2022Jp2),
    (["iso2022_jp_3", "iso2022jp_3", "iso_2022_jp_3"], switching .iso2022Jp3),
    (["iso2022_jp_2004", "iso2022jp_2004", "iso_2022_jp_2004"], switching .iso2022Jp2004),
    (["iso2022_jp_ext", "iso2022jp_ext", "iso_2022_jp_ext"], switching .iso2022JpExt),
    (["iso2022_kr", "csiso2022kr", "iso2022kr", "iso_2022_kr"], switching .korean),
    (["euc_kr", "euckr", "korean", "ks_c_5601", "ks_c_5601_1987", "ks_x_1001", "ksc5601",
      "ksx1001", "x_mac_korean"], korean .eucKr),
    (["cp949", "949", "ms949", "uhc"], korean .cp949),
    (["johab", "cp1361", "ms1361"], korean .johab)]

/-- Letters in lowercase, and one underscore for everything between letters, digits and points;
`pending` says that something of that kind was met. -/
def plainName (pending : Bool) : List Char → List Char
  | [] => []
  | c :: cs =>
    if c.isAlphanum || c == '.' then
      if pending then '_' :: c.toLower :: plainName false cs else c.toLower :: plainName false cs
    else plainName true cs

/-- The plain form of a name. -/
def plainForm (name : String) : String :=
  String.ofList (plainName false (name.toList.dropWhile fun c => !(c.isAlphanum || c == '.')))

/-- The encoding of a name in its plain form; the first name of each is left out on demand. -/
def ofPlainName? (skipped : Nat) (name : String) : Option Encoding :=
  (((namesOf ++ eastAsianNames).find? fun e => (e.1.drop skipped).contains name).map Prod.snd).or
    ((codePages.find? fun p => (p.names.drop skipped).contains name).map page)

/-- The encoding of a name. In other names than the first a point may stand for an underscore.
A name with the character that ends texts is taken for one in which nothing can be read. -/
def named? (name : String) : Option Encoding :=
  if name.toList.contains (Char.ofNat 0) then some closed
  else
    let plain := plainForm name
    (ofPlainName? 0 plain).or (ofPlainName? 1 (replace "." "_" plain))

/-- The characters of bytes by a table. -/
def decodeBy (p : CodePage) (bs : List UInt8) : List Char :=
  let table := (p.low ++ p.high).toList.toArray
  bs.map fun b => (table[b.toNat]?).getD replacement

/-- Wide units behind a byte order mark; without one, only less than a unit can be read. -/
def decodeMarked (width : Nat) (mark : List UInt8) (decode : ByteOrder → List UInt8 → List Char)
    (bs : List UInt8) : Option (List Char) :=
  let front := bs.take width
  if front = mark then some (decode .littleEndian (bs.drop width))
  else if front = mark.reverse then some (decode .bigEndian (bs.drop width))
  else if front.length < width then some (decode .littleEndian bs)
  else none

def utf8Mark : List UInt8 := [0xef, 0xbb, 0xbf]

/-- The characters of some bytes, none when they cannot be read at all. -/
def decode : Encoding → List UInt8 → Option (List Char)
  | utf8, bs => some (decodeFrom .none bs)
  | markedUtf8, bs =>
    if bs = utf8Mark.take bs.length then some []
    else some (decodeFrom .none (if bs.take 3 = utf8Mark then bs.drop 3 else bs))
  | ascii, bs => some (bs.map fun b => if b < 0x80 then Char.ofNat b.toNat else replacement)
  | latin1, bs => some (bs.map fun b => Char.ofNat b.toNat)
  | utf16 (some o), bs => some (decode16 o bs)
  | utf16 none, bs => decodeMarked 2 [0xff, 0xfe] decode16 bs
  | utf32 (some o), bs => some (decode32 o bs)
  | utf32 none, bs => decodeMarked 4 [0xff, 0xfe, 0, 0] decode32 bs
  | page p, bs => some (decodeBy p bs)
  | chinese e, bs => some (decodePlain e.front bs)
  | japanese e, bs => some (decodePlain e.front bs)
  | korean e, bs => some (decodePlain e.front bs)
  | switching e, bs => some (e.decode bs)
  | utf7, bs => some (Utf7.decodeFrom none bs)
  | escaped false, bs => some (decodePlain Escaped.front bs)
  | escaped true, bs => some (decodePlain Escaped.numericFront bs)
  | punycode, bs => Punycode.decode bs
  | closed, _ => none

end Encoding

end Coselect.Text
