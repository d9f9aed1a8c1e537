import CodeAtlas.Text.Charset.Dos
import CodeAtlas.Text.Charset.Iso
import CodeAtlas.Text.Charset.Local
import CodeAtlas.Text.Charset.Mac
import CodeAtlas.Text.Charset.Windows
/-!
  All encodings that are known.
-/
namespace CodeAtlas.Text.Charset

/-- Those with no page of their own: ASCII, its continuation by the numbers of the bytes, and what is not read
    byte by byte. -/
def general : List Charset := [
  { names := ["ascii", "iso2022_jp", "iso2022_jp_1", "iso2022_jp_2", "iso2022_jp_3", "iso2022_jp_2004",
      "iso2022_jp_ext", "utf_8", "utf_8_sig"]
    aliases := ["ansi_x3.4_1968", "ansi_x3.4_1986", "ansi_x3_4_1968", "cp367", "cp65001", "csascii",
      "csiso2022jp", "ibm367", "iso2022jp", "iso2022jp_1", "iso2022jp_2", "iso2022jp_2004", "iso2022jp_3",
      "iso2022jp_ext", "iso646_us", "iso_2022_jp", "iso_2022_jp_1", "iso_2022_jp_2", "iso_2022_jp_2004",
      "iso_2022_jp_3", "iso_2022_jp_ext", "iso_646.irv_1991", "iso_ir_6", "u8", "us", "us_ascii", "utf",
      "utf8", "utf8_ucs2", "utf8_ucs4"]
    kind := .page .ascii },
  { names := ["hz"]
    aliases := ["hz_gb", "hz_gb_2312", "hzgb"]
    kind := .page { CodePage.ascii with without := ['~'] } },
  { names := ["charmap", "iso8859_1", "iso8859_1", "latin_1", "raw_unicode_escape", "unicode_escape"]
    aliases := ["cp819", "csisolatin1", "ibm819", "iso8859", "iso8859_1", "iso8859_1", "iso_8859_1",
      "iso_8859_1_1987", "iso_ir_100", "l1", "latin", "latin1"]
    kind := .page .latin },
  { names := ["cp037", "cp273", "cp424", "cp500", "cp864", "cp875", "cp1026", "cp1140", "mac_arabic",
      "mac_farsi"]
    aliases := ["csibm037", "csibm1026", "csibm273", "csibm424", "csibm500", "csibm864", "ebcdic_cp_be",
      "ebcdic_cp_ca", "ebcdic_cp_ch", "ebcdic_cp_he", "ebcdic_cp_nl", "ebcdic_cp_us", "ebcdic_cp_wt",
      "ibm037", "ibm039", "ibm1026", "ibm1140", "ibm273", "ibm424", "ibm500", "ibm864"]
    kind := .foreign },
  { names := ["big5", "big5hkscs", "cp932", "cp949", "cp950", "euc_jis_2004", "euc_jisx0213", "euc_jp",
      "euc_kr", "gb2312", "gb18030", "gbk", "iso2022_kr", "johab", "shift_jis", "shift_jis_2004",
      "shift_jisx0213", "utf_7", "utf_16", "utf_16_be", "utf_16_le", "utf_32", "utf_32_be", "utf_32_le"]
    aliases := ["big5_hkscs", "big5_tw", "chinese", "cp1361", "cp936", "csbig5", "csiso2022kr",
      "csiso58gb231280", "csshiftjis", "euc_cn", "euc_jis2004", "euccn", "eucgb2312_cn", "eucjis2004",
      "eucjisx0213", "eucjp", "euckr", "gb18030_2000", "gb2312_1980", "gb2312_80", "hkscs", "iso2022kr",
      "iso_2022_kr", "iso_ir_58", "jisx0213", "korean", "ks_c_5601", "ks_c_5601_1987", "ks_x_1001",
      "ksc5601", "ksx1001", "ms1361", "ms932", "ms936", "ms949", "ms950", "ms_kanji", "mskanji", "s_jis",
      "s_jis_2004", "s_jisx0213", "shiftjis", "shiftjis2004", "shiftjisx0213", "sjis", "sjis_2004",
      "sjisx0213", "u16", "u32", "u7", "u_jis", "uhc", "ujis", "unicode_1_1_utf_7", "unicodebigunmarked",
      "unicodelittleunmarked", "utf16", "utf32", "utf7", "utf_16be", "utf_16le", "utf_32be", "utf_32le",
      "x_mac_japanese", "x_mac_korean", "x_mac_simp_chinese", "x_mac_trad_chinese"]
    kind := .wide },
  { names := ["punycode"]
    kind := .asciiOnly },
  { names := ["idna", "undefined"]
    kind := .unusable }]

/-- All encodings. -/
def all : List Charset := general ++ iso ++ windows ++ dos ++ mac ++ ofPlaces

/-- The encoding with a name. -/
def find? (name : String) : Option Charset := all.find? fun c => c.isNamed (key name)

example : (general.find? (·.isNamed (key "US-ASCII"))).isSome = true := by decide +kernel
example : (general.find? (·.isNamed (key "latin.1"))).isSome = false := by decide +kernel

end CodeAtlas.Text.Charset
