import RecordQuery.Text.Encoding.Chart.Dos
import RecordQuery.Text.Encoding.Chart.Ebcdic
import RecordQuery.Text.Encoding.Chart.Iso8859
import RecordQuery.Text.Encoding.Chart.Macintosh
import RecordQuery.Text.Encoding.Chart.Regional
import RecordQuery.Text.Encoding.Chart.Windows
import RecordQuery.Text.Encoding.Escaped
import RecordQuery.Text.Encoding.Inserted
import RecordQuery.Text.Encoding.Iso2022
import RecordQuery.Text.Encoding.Names
import RecordQuery.Text.Encoding.Traditional
import RecordQuery.Text.Encoding.Unicode

/-!
# Encodings of text

An encoding is known by how bytes are read in it. Its name may also stand
for a code that encodes no text.
-/

namespace RecordQuery

structure Encoding where
  decode? : ByteArray → Option (List Char)

namespace Encoding

def ofReader (text? : List Nat → Option (List Char)) : Encoding :=
  ⟨fun contents => text? (contents.toList.map UInt8.toNat)⟩

def ofChart (plain : Nat) (chart : Chart) : Encoding := ofReader (chart.text? plain)

def ofCodes (code? : CodeReader) : Encoding := ofReader (ofCodes? code?)

def utf8 : Encoding := ⟨utf8?⟩

def ascii : Encoding := ofChart 0x80 []

def latin1 : Encoding := ofChart 0x100 []

/-- Labels between points, of ASCII. Those that announce other characters
are not read. -/
def labels? (bytes : List Nat) : Option (List Char) := do
  let text ← Chart.text? [] 0x80 bytes
  let isCoded := fun label : String => "xn--".toList.isPrefixOf label.toList
  if ((String.ofList text).splitOn ".").any isCoded then none else some text

/-! ### Encodings by name -/

/-- Standard charts. Bytes below 0xa0 stand for themselves. -/
def isoCharts : List (String × Chart) := [
  ("iso8859_2", Chart.iso2), ("iso8859_3", Chart.iso3), ("iso8859_4", Chart.iso4),
  ("iso8859_5", Chart.iso5), ("iso8859_6", Chart.iso6), ("iso8859_7", Chart.iso7),
  ("iso8859_8", Chart.iso8), ("iso8859_10", Chart.iso10), ("iso8859_11", Chart.iso11),
  ("iso8859_13", Chart.iso13), ("iso8859_14", Chart.iso14), ("iso8859_16", Chart.iso16)]

def changedCharts : List (String × Chart) := [
  ("iso8859_9", Chart.iso9), ("iso8859_15", Chart.iso15)]

def windowsCharts : List (String × Chart) := [
  ("cp874", Chart.windows874), ("cp1250", Chart.windows1250), ("cp1251", Chart.windows1251),
  ("cp1252", Chart.windows1252), ("cp1253", Chart.windows1253), ("cp1254", Chart.windows1254),
  ("cp1255", Chart.windows1255), ("cp1256", Chart.windows1256), ("cp1257", Chart.windows1257),
  ("cp1258", Chart.windows1258)]

def dosCharts : List (String × Chart) := [
  ("cp437", Chart.dos437), ("cp720", Chart.dos720), ("cp737", Chart.dos737),
  ("cp775", Chart.dos775), ("cp850", Chart.dos850), ("cp852", Chart.dos852),
  ("cp855", Chart.dos855), ("cp856", Chart.dos856), ("cp857", Chart.dos857),
  ("cp858", Chart.dos858), ("cp860", Chart.dos860), ("cp861", Chart.dos861),
  ("cp862", Chart.dos862), ("cp863", Chart.dos863), ("cp864", Chart.dos864),
  ("cp865", Chart.dos865), ("cp866", Chart.dos866), ("cp869", Chart.dos869),
  ("cp1125", Chart.dos1125)]

def macCharts : List (String × Chart) := [
  ("mac_arabic", Chart.macArabic), ("mac_croatian", Chart.macCroatian),
  ("mac_cyrillic", Chart.macCyrillic), ("mac_farsi", Chart.macFarsi),
  ("mac_greek", Chart.macGreek), ("mac_iceland", Chart.macIcelandic),
  ("mac_latin2", Chart.macCentral), ("mac_roman", Chart.macRoman),
  ("mac_romanian", Chart.macRomanian), ("mac_turkish", Chart.macTurkish)]

def regionalCharts : List (String × Chart) := [
  ("koi8_r", Chart.koiRussian), ("koi8_t", Chart.koiTajik), ("koi8_u", Chart.koiUkrainian),
  ("kz1048", Chart.kazakh), ("ptcp154", Chart.asianCyrillic), ("palmos", Chart.palm)]

def regionalPlainCharts : List (String × Chart) := [
  ("cp1006", Chart.urdu), ("hp_roman8", Chart.roman8), ("tis_620", Chart.thai)]

def ebcdicCharts : List (String × Chart) := [
  ("cp037", Chart.ebcdic37), ("cp273", Chart.ebcdic273), ("cp424", Chart.ebcdic424),
  ("cp500", Chart.ebcdic500), ("cp875", Chart.ebcdic875), ("cp1026", Chart.ebcdic1026),
  ("cp1140", Chart.ebcdic1140)]

def charted : List (String × Encoding) :=
  [(0xa0, isoCharts), (0x100, changedCharts), (0x80, windowsCharts), (0x80, dosCharts),
    (0x80, macCharts), (0x80, regionalCharts), (0xa0, regionalPlainCharts),
    (0, ebcdicCharts)].flatMap fun (plain, charts) =>
      charts.map fun (name, chart) => (name, ofChart plain chart)

def general : List (String × Encoding) := [
  ("utf_8", utf8), ("utf_8_sig", ⟨fun contents => (utf8? contents).map unmarked⟩),
  ("utf_16", ofReader ofMarkedPairs?), ("utf_16_le", ofReader (ofPairs? false)),
  ("utf_16_be", ofReader (ofPairs? true)), ("utf_32", ofReader ofMarkedQuads?),
  ("utf_32_le", ofReader (ofQuads? false)), ("utf_32_be", ofReader (ofQuads? true)),
  ("utf_7", ofReader (ofSevenBits? none)), ("ascii", ascii), ("latin_1", latin1),
  ("iso8859_1", latin1), ("charmap", latin1), ("idna", ofReader labels?),
  ("punycode", ofReader Inserted.text?),
  ("unicode_escape", ofReader (Escaped.text? Escaped.escape?)),
  ("raw_unicode_escape", ofReader (Escaped.text? Escaped.numberEscape?)),
  ("undefined", ofReader fun _ => none)]

def wide : List (String × Encoding) := [
  ("shift_jis", ofCodes Japanese.shifted), ("cp932", ofCodes Japanese.shiftedVendor),
  ("shift_jisx0213", ofCodes (Japanese.shiftedExtended .first)),
  ("shift_jis_2004", ofCodes (Japanese.shiftedExtended .later)),
  ("euc_jp", ofCodes Japanese.upper),
  ("euc_jisx0213", ofCodes (Japanese.upperExtended .first)),
  ("euc_jis_2004", ofCodes (Japanese.upperExtended .later)),
  ("euc_kr", ofCodes Korean.upper), ("cp949", ofCodes Korean.unified),
  ("johab", ofCodes Korean.byParts), ("gb2312", ofCodes Chinese.upper),
  ("gbk", ofCodes Chinese.unified), ("gb18030", ofCodes Chinese.full),
  ("hz", ofReader (Chinese.sevenBits? false)), ("big5", ofCodes Traditional.common),
  ("cp950", ofCodes Traditional.vendor), ("big5hkscs", ofCodes Traditional.hongKong)]

def designated : List (String × Encoding) := [
  ("iso2022_jp", Iso2022.Arrangement.japanese),
  ("iso2022_jp_1", Iso2022.Arrangement.japaneseSupplemented),
  ("iso2022_jp_2", Iso2022.Arrangement.multilingual),
  ("iso2022_jp_3", Iso2022.Arrangement.japaneseFirst),
  ("iso2022_jp_2004", Iso2022.Arrangement.japaneseLater),
  ("iso2022_jp_ext", Iso2022.Arrangement.japaneseNarrow),
  ("iso2022_kr", Iso2022.Arrangement.koreanShifted)].map fun (name, arrangement) =>
    (name, ofReader (Iso2022.text? arrangement))

def otherCodes : List String := [
  "base64_codec", "bz2_codec", "hex_codec", "quopri_codec", "rot_13", "uu_codec", "zlib_codec"]

inductive Naming where
  | text (encoding : Encoding)
  | other
  | unknown

def ofName (name : String) : Naming :=
  let main := mainName (normalName name)
  let encodings := [general, charted, wide, designated]
  match encodings.findSome? fun named => named.lookup main with
  | some encoding => .text encoding
  | none => if otherCodes.contains main then .other else .unknown

end Encoding

end RecordQuery
