import Inlay.Text.CodePage.Dos
import Inlay.Text.CodePage.Ebcdic
import Inlay.Text.CodePage.Iso
import Inlay.Text.CodePage.Macintosh
import Inlay.Text.CodePage.National
import Inlay.Text.CodePage.Windows
import Inlay.Text.Encoding
import Inlay.Text.Multibyte.Chinese
import Inlay.Text.Multibyte.Japanese
import Inlay.Text.Multibyte.Korean
import Inlay.Text.Multibyte.Switched

/-!
# Names of encodings

An encoding has a name of its own and further names. Names are compared without regard to case and
to the punctuation between their letters and digits. A point may stand for such punctuation in the
further names, but not in an encoding's own name.
-/

namespace Inlay.Text.Encoding

open Multibyte

/-- An encoding with its own name and its further names. -/
abbrev Entry := Encoding × String × List String

/-- The encodings of all characters. -/
def unicode : List Entry := [
  (.utf8, "utf_8", ["cp65001", "u8", "utf", "utf8", "utf8_ucs2", "utf8_ucs4"]),
  (.utf8Signed, "utf_8_sig", []),
  (.shifted, "utf_7", ["u7", "unicode_1_1_utf_7", "utf7"]),
  (.pairs none, "utf_16", ["u16", "utf16"]),
  (.pairs (some .little), "utf_16_le", ["unicodelittleunmarked", "utf_16le"]),
  (.pairs (some .big), "utf_16_be", ["unicodebigunmarked", "utf_16be"]),
  (.quads none, "utf_32", ["u32", "utf32"]),
  (.quads (some .little), "utf_32_le", ["utf_32le"]),
  (.quads (some .big), "utf_32_be", ["utf_32be"]),
  (.ascii, "ascii", [
    "646", "ansi_x3.4_1968", "ansi_x3.4_1986", "ansi_x3_4_1968", "cp367", "csascii", "ibm367",
    "iso646_us", "iso_646.irv_1991", "iso_ir_6", "us", "us_ascii"]),
  (.latin1, "latin_1", [
    "8859", "cp819", "csisolatin1", "ibm819", "iso8859", "iso8859_1", "iso_8859_1",
    "iso_8859_1_1987", "iso_ir_100", "l1", "latin", "latin1"]),
  (.latin1, "charmap", []),
  (.escaped, "unicode_escape", []),
  (.escapedPlain, "raw_unicode_escape", []),
  (.label, "punycode", []),
  (.name, "idna", []),
  (.nothing, "undefined", [])]

/-- The code pages of ISO 8859. -/
def iso : List Entry := [
  (.page CodePage.Iso.iso2, "iso8859_2", [
    "csisolatin2", "iso_8859_2", "iso_8859_2_1987", "iso_ir_101", "l2", "latin2"]),
  (.page CodePage.Iso.iso3, "iso8859_3", [
    "csisolatin3", "iso_8859_3", "iso_8859_3_1988", "iso_ir_109", "l3", "latin3"]),
  (.page CodePage.Iso.iso4, "iso8859_4", [
    "csisolatin4", "iso_8859_4", "iso_8859_4_1988", "iso_ir_110", "l4", "latin4"]),
  (.page CodePage.Iso.iso5, "iso8859_5", [
    "csisolatincyrillic", "cyrillic", "iso_8859_5", "iso_8859_5_1988", "iso_ir_144"]),
  (.page CodePage.Iso.iso6, "iso8859_6", [
    "arabic", "asmo_708", "csisolatinarabic", "ecma_114", "iso_8859_6", "iso_8859_6_1987",
    "iso_ir_127"]),
  (.page CodePage.Iso.iso7, "iso8859_7", [
    "csisolatingreek", "ecma_118", "elot_928", "greek", "greek8", "iso_8859_7",
    "iso_8859_7_1987", "iso_ir_126"]),
  (.page CodePage.Iso.iso8, "iso8859_8", [
    "csisolatinhebrew", "hebrew", "iso_8859_8", "iso_8859_8_1988", "iso_ir_138"]),
  (.page CodePage.Iso.iso9, "iso8859_9", [
    "csisolatin5", "iso_8859_9", "iso_8859_9_1989", "iso_ir_148", "l5", "latin5"]),
  (.page CodePage.Iso.iso10, "iso8859_10", [
    "csisolatin6", "iso_8859_10", "iso_8859_10_1992", "iso_ir_157", "l6", "latin6"]),
  (.page CodePage.Iso.iso11, "iso8859_11", ["iso_8859_11", "iso_8859_11_2001", "thai"]),
  (.page CodePage.Iso.tis620, "tis_620", [
    "iso_ir_166", "tis620", "tis_620_0", "tis_620_2529_0", "tis_620_2529_1"]),
  (.page CodePage.Iso.iso13, "iso8859_13", ["iso_8859_13", "l7", "latin7"]),
  (.page CodePage.Iso.iso14, "iso8859_14", [
    "iso_8859_14", "iso_8859_14_1998", "iso_celtic", "iso_ir_199", "l8", "latin8"]),
  (.page CodePage.Iso.iso15, "iso8859_15", ["iso_8859_15", "l9", "latin9"]),
  (.page CodePage.Iso.iso16, "iso8859_16", [
    "iso_8859_16", "iso_8859_16_2001", "iso_ir_226", "l10", "latin10"])]

/-- The code pages of Windows. -/
def windows : List Entry := [
  (.page CodePage.Windows.thai, "cp874", []),
  (.page CodePage.Windows.centralEuropean, "cp1250", ["1250", "windows_1250"]),
  (.page CodePage.Windows.cyrillic, "cp1251", ["1251", "windows_1251"]),
  (.page CodePage.Windows.western, "cp1252", ["1252", "windows_1252"]),
  (.page CodePage.Windows.greek, "cp1253", ["1253", "windows_1253"]),
  (.page CodePage.Windows.turkish, "cp1254", ["1254", "windows_1254"]),
  (.page CodePage.Windows.hebrew, "cp1255", ["1255", "windows_1255"]),
  (.page CodePage.Windows.arabic, "cp1256", ["1256", "windows_1256"]),
  (.page CodePage.Windows.baltic, "cp1257", ["1257", "windows_1257"]),
  (.page CodePage.Windows.vietnamese, "cp1258", ["1258", "windows_1258"]),
  (.page CodePage.Windows.handheld, "palmos", [])]

/-- The code pages of terminals. -/
def dos : List Entry := [
  (.page CodePage.Dos.page437, "cp437", ["437", "cspc8codepage437", "ibm437"]),
  (.page CodePage.Dos.page720, "cp720", []),
  (.page CodePage.Dos.page737, "cp737", []),
  (.page CodePage.Dos.page775, "cp775", ["775", "cspc775baltic", "ibm775"]),
  (.page CodePage.Dos.page850, "cp850", ["850", "cspc850multilingual", "ibm850"]),
  (.page CodePage.Dos.page852, "cp852", ["852", "cspcp852", "ibm852"]),
  (.page CodePage.Dos.page855, "cp855", ["855", "csibm855", "ibm855"]),
  (.page CodePage.Dos.page856, "cp856", []),
  (.page CodePage.Dos.page857, "cp857", ["857", "csibm857", "ibm857"]),
  (.page CodePage.Dos.page858, "cp858", ["858", "csibm858", "ibm858"]),
  (.page CodePage.Dos.page860, "cp860", ["860", "csibm860", "ibm860"]),
  (.page CodePage.Dos.page861, "cp861", ["861", "cp_is", "csibm861", "ibm861"]),
  (.page CodePage.Dos.page862, "cp862", ["862", "cspc862latinhebrew", "ibm862"]),
  (.page CodePage.Dos.page863, "cp863", ["863", "csibm863", "ibm863"]),
  (.page CodePage.Dos.page864, "cp864", ["864", "csibm864", "ibm864"]),
  (.page CodePage.Dos.page865, "cp865", ["865", "csibm865", "ibm865"]),
  (.page CodePage.Dos.page866, "cp866", ["866", "csibm866", "ibm866"]),
  (.page CodePage.Dos.page869, "cp869", ["869", "cp_gr", "csibm869", "ibm869"]),
  (.page CodePage.Dos.page1006, "cp1006", []),
  (.page CodePage.Dos.page1125, "cp1125", ["1125", "cp866u", "ibm1125", "ruscii"])]

/-- The code pages of mainframes. -/
def ebcdic : List Entry := [
  (.page CodePage.Ebcdic.page37, "cp037", [
    "037", "csibm037", "ebcdic_cp_ca", "ebcdic_cp_nl", "ebcdic_cp_us", "ebcdic_cp_wt",
    "ibm037", "ibm039"]),
  (.page CodePage.Ebcdic.page273, "cp273", ["273", "csibm273", "ibm273"]),
  (.page CodePage.Ebcdic.page424, "cp424", ["424", "csibm424", "ebcdic_cp_he", "ibm424"]),
  (.page CodePage.Ebcdic.page500, "cp500", [
    "500", "csibm500", "ebcdic_cp_be", "ebcdic_cp_ch", "ibm500"]),
  (.page CodePage.Ebcdic.page875, "cp875", []),
  (.page CodePage.Ebcdic.page1026, "cp1026", ["1026", "csibm1026", "ibm1026"]),
  (.page CodePage.Ebcdic.page1140, "cp1140", ["1140", "ibm1140"])]

/-- The code pages of the Macintosh. -/
def macintosh : List Entry := [
  (.page CodePage.Macintosh.arabic, "mac_arabic", []),
  (.page CodePage.Macintosh.croatian, "mac_croatian", []),
  (.page CodePage.Macintosh.cyrillic, "mac_cyrillic", ["maccyrillic"]),
  (.page CodePage.Macintosh.farsi, "mac_farsi", []),
  (.page CodePage.Macintosh.greek, "mac_greek", ["macgreek"]),
  (.page CodePage.Macintosh.icelandic, "mac_iceland", ["maciceland"]),
  (.page CodePage.Macintosh.centralEuropean, "mac_latin2", [
    "mac_centeuro", "maccentraleurope", "maclatin2"]),
  (.page CodePage.Macintosh.roman, "mac_roman", ["macintosh", "macroman"]),
  (.page CodePage.Macintosh.romanian, "mac_romanian", []),
  (.page CodePage.Macintosh.turkish, "mac_turkish", ["macturkish"])]

/-- National code pages. -/
def national : List Entry := [
  (.page CodePage.National.koi8Russian, "koi8_r", ["cskoi8r"]),
  (.page CodePage.National.koi8Tajik, "koi8_t", []),
  (.page CodePage.National.koi8Ukrainian, "koi8_u", []),
  (.page CodePage.National.kazakh, "kz1048", ["kz_1048", "rk1048", "strk1048_2002"]),
  (.page CodePage.National.asian, "ptcp154", ["cp154", "csptcp154", "cyrillic_asian", "pt154"]),
  (.page CodePage.National.roman8, "hp_roman8", ["cp1051", "ibm1051", "r8", "roman8"])]

/-- An encoding that is read in steps. -/
def stepwise (step : Step) : Encoding := .multibyte (Multibyte.decode? step)

/-- An encoding that switches between sets. -/
def switched (rules : Switched.Rules) : Encoding := .multibyte rules.decode?

/-- The encodings of China, Taiwan and Hong Kong. -/
def chinese : List Entry := [
  (stepwise Chinese.gb2312, "gb2312", [
    "chinese", "csiso58gb231280", "euc_cn", "euccn", "eucgb2312_cn", "gb2312_1980",
    "gb2312_80", "iso_ir_58", "x_mac_simp_chinese"]),
  (stepwise Chinese.gbk, "gbk", ["936", "cp936", "ms936"]),
  (stepwise Chinese.gb18030, "gb18030", ["gb18030_2000"]),
  (.multibyte (decodeIn? false Chinese.hz), "hz", ["hz_gb", "hz_gb_2312", "hzgb"]),
  (stepwise Chinese.big5, "big5", ["big5_tw", "csbig5", "x_mac_trad_chinese"]),
  (stepwise Chinese.windows, "cp950", ["950", "ms950"]),
  (stepwise Chinese.hongKong, "big5hkscs", ["big5_hkscs", "hkscs"])]

/-- The encodings of Japan. -/
def japanese : List Entry := [
  (stepwise Japanese.extendedJis, "euc_jp", ["eucjp", "u_jis", "ujis"]),
  (stepwise (Japanese.extendedPlanes .of2004), "euc_jis_2004", [
    "euc_jis2004", "eucjis2004", "jisx0213"]),
  (stepwise (Japanese.extendedPlanes .of2000), "euc_jisx0213", ["eucjisx0213"]),
  (stepwise Japanese.folded, "shift_jis", [
    "csshiftjis", "s_jis", "shiftjis", "sjis", "x_mac_japanese"]),
  (stepwise Japanese.windows, "cp932", ["932", "ms932", "ms_kanji", "mskanji"]),
  (stepwise (Japanese.foldedPlanes .of2004), "shift_jis_2004", [
    "s_jis_2004", "shiftjis2004", "sjis_2004"]),
  (stepwise (Japanese.foldedPlanes .of2000), "shift_jisx0213", [
    "s_jisx0213", "shiftjisx0213", "sjisx0213"]),
  (switched Switched.japanese, "iso2022_jp", ["csiso2022jp", "iso2022jp", "iso_2022_jp"]),
  (switched Switched.japanese1, "iso2022_jp_1", ["iso2022jp_1", "iso_2022_jp_1"]),
  (switched Switched.japanese2, "iso2022_jp_2", ["iso2022jp_2", "iso_2022_jp_2"]),
  (switched Switched.japanese3, "iso2022_jp_3", ["iso2022jp_3", "iso_2022_jp_3"]),
  (switched Switched.japanese2004, "iso2022_jp_2004", ["iso2022jp_2004", "iso_2022_jp_2004"]),
  (switched Switched.japaneseNarrow, "iso2022_jp_ext", ["iso2022jp_ext", "iso_2022_jp_ext"])]

/-- The encodings of Korea. -/
def korean : List Entry := [
  (stepwise Korean.plain, "euc_kr", [
    "euckr", "korean", "ks_c_5601", "ks_c_5601_1987", "ks_x_1001", "ksc5601", "ksx1001",
    "x_mac_korean"]),
  (stepwise Korean.windows, "cp949", ["949", "ms949", "uhc"]),
  (stepwise Korean.johab, "johab", ["cp1361", "ms1361"]),
  (switched Switched.koreanShifted, "iso2022_kr", ["csiso2022kr", "iso2022kr", "iso_2022_kr"])]

/-- All encodings. -/
def entries : List Entry :=
  unicode ++ iso ++ windows ++ dos ++ ebcdic ++ macintosh ++ national ++
    chinese ++ japanese ++ korean

/-- A name in its plain form: letters in lower case, digits and points, with one underscore for
the punctuation between them. -/
def plainName (name : String) : String :=
  let step (state : List Char × Bool) (c : Char) : List Char × Bool :=
    if c.isAlphanum || c == '.' then
      (c.toLower :: (if state.2 && !state.1.isEmpty then '_' :: state.1 else state.1), false)
    else (state.1, true)
  String.ofList (name.toList.foldl step ([], false)).1.reverse

/-- The encoding that has a further name. -/
def byFurtherName? (name : String) : Option Encoding :=
  (entries.find? fun entry => entry.2.2.contains name).map Prod.fst

/-- The encoding that has a name for its own. -/
def byOwnName? (name : String) : Option Encoding :=
  (entries.find? fun entry => entry.2.1 == name).map Prod.fst

/-- The encoding of a name. The name of the locale's encoding is read as it is. -/
def ofName? (name : String) : Option Encoding :=
  if name = "locale" then some .utf8
  else
    let plain := plainName name
    let pointless := String.ofList (plain.toList.map fun c => if c = '.' then '_' else c)
    byFurtherName? plain <|> byFurtherName? pointless <|> byOwnName? plain

end Inlay.Text.Encoding
