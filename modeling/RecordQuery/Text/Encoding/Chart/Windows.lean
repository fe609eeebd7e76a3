import RecordQuery.Text.Encoding.Chart

/-!
# Charts of windowed systems

Letters from 0xc0 on mostly as in the standard charts, with punctuation in
place of controls. Bytes below 0x80 stand for themselves.
-/

namespace RecordQuery.Encoding.Chart

def windows874 : Chart := [
  (0x80, "€"),
  (0x85, "…"),
  (0x91, "‘’“”•–—"),
  (0xa0, "\xa0กขฃคฅฆงจฉชซฌญฎฏ"),
  (0xb0, "ฐฑฒณดตถทธนบปผฝพฟ"),
  (0xc0, "ภมยรฤลฦวศษสหฬอฮฯ"),
  (0xd0, "ะ\u0e31าำ\u0e34\u0e35\u0e36\u0e37\u0e38\u0e39\u0e3a"),
  (0xdf, "฿"),
  (0xe0, "เแโใไๅๆ\u0e47\u0e48\u0e49\u0e4a\u0e4b\u0e4c\u0e4d\u0e4e๏"),
  (0xf0, "๐๑๒๓๔๕๖๗๘๙๚๛")]

def windows1250 : Chart := [
  (0x80, "€"),
  (0x82, "‚"),
  (0x84, "„…†‡"),
  (0x89, "‰Š‹ŚŤŽŹ"),
  (0x91, "‘’“”•–—"),
  (0x99, "™š›śťžź"),
  (0xa0, "\xa0ˇ˘Ł¤Ą¦§¨©Ş«¬\u00ad®Ż"),
  (0xb0, "°±˛ł´µ¶·¸ąş»Ľ˝ľż"),
  (0xc0, "ŔÁÂĂÄĹĆÇČÉĘËĚÍÎĎ"),
  (0xd0, "ĐŃŇÓÔŐÖ×ŘŮÚŰÜÝŢß"),
  (0xe0, "ŕáâăäĺćçčéęëěíîď"),
  (0xf0, "đńňóôőö÷řůúűüýţ˙")]

def windows1251 : Chart := [
  (0x80, "ЂЃ‚ѓ„…†‡€‰Љ‹ЊЌЋЏ"),
  (0x90, "ђ‘’“”•–—"),
  (0x99, "™љ›њќћџ"),
  (0xa0, "\xa0ЎўЈ¤Ґ¦§Ё©Є«¬\u00ad®Ї"),
  (0xb0, "°±Ііґµ¶·ё№є»јЅѕї"),
  (0xc0, "АБВГДЕЖЗИЙКЛМНОП"),
  (0xd0, "РСТУФХЦЧШЩЪЫЬЭЮЯ"),
  (0xe0, "абвгдежзийклмноп"),
  (0xf0, "рстуфхцчшщъыьэюя")]

def windows1252 : Chart := [
  (0x80, "€"),
  (0x82, "‚ƒ„…†‡ˆ‰Š‹Œ"),
  (0x8e, "Ž"),
  (0x91, "‘’“”•–—˜™š›œ"),
  (0x9e, "žŸ"),
  (0xa0, "\xa0¡¢£¤¥¦§¨©ª«¬\u00ad®¯"),
  (0xb0, "°±²³´µ¶·¸¹º»¼½¾¿"),
  (0xc0, "ÀÁÂÃÄÅÆÇÈÉÊËÌÍÎÏ"),
  (0xd0, "ÐÑÒÓÔÕÖ×ØÙÚÛÜÝÞß"),
  (0xe0, "àáâãäåæçèéêëìíîï"),
  (0xf0, "ðñòóôõö÷øùúûüýþÿ")]

def windows1253 : Chart := [
  (0x80, "€"),
  (0x82, "‚ƒ„…†‡"),
  (0x89, "‰"),
  (0x8b, "‹"),
  (0x91, "‘’“”•–—"),
  (0x99, "™"),
  (0x9b, "›"),
  (0xa0, "\xa0΅Ά£¤¥¦§¨©"),
  (0xab, "«¬\u00ad®―"),
  (0xb0, "°±²³΄µ¶·ΈΉΊ»Ό½ΎΏ"),
  (0xc0, "ΐΑΒΓΔΕΖΗΘΙΚΛΜΝΞΟ"),
  (0xd0, "ΠΡ"),
  (0xd3, "ΣΤΥΦΧΨΩΪΫάέήί"),
  (0xe0, "ΰαβγδεζηθικλμνξο"),
  (0xf0, "πρςστυφχψωϊϋόύώ")]

def windows1254 : Chart := [
  (0x80, "€"),
  (0x82, "‚ƒ„…†‡ˆ‰Š‹Œ"),
  (0x91, "‘’“”•–—˜™š›œ"),
  (0x9f, "Ÿ"),
  (0xa0, "\xa0¡¢£¤¥¦§¨©ª«¬\u00ad®¯"),
  (0xb0, "°±²³´µ¶·¸¹º»¼½¾¿"),
  (0xc0, "ÀÁÂÃÄÅÆÇÈÉÊËÌÍÎÏ"),
  (0xd0, "ĞÑÒÓÔÕÖ×ØÙÚÛÜİŞß"),
  (0xe0, "àáâãäåæçèéêëìíîï"),
  (0xf0, "ğñòóôõö÷øùúûüışÿ")]

def windows1255 : Chart := [
  (0x80, "€"),
  (0x82, "‚ƒ„…†‡ˆ‰"),
  (0x8b, "‹"),
  (0x91, "‘’“”•–—˜™"),
  (0x9b, "›"),
  (0xa0, "\xa0¡¢£₪¥¦§¨©×«¬\u00ad®¯"),
  (0xb0, "°±²³´µ¶·¸¹÷»¼½¾¿"),
  (0xc0, "\u05b0\u05b1\u05b2\u05b3\u05b4\u05b5\u05b6\u05b7\u05b8\u05b9"),
  (0xcb, "\u05bb\u05bc\u05bd\u05be\u05bf"),
  (0xd0, "\u05c0\u05c1\u05c2\u05c3\u05f0\u05f1\u05f2\u05f3\u05f4"),
  (0xe0, "\u05d0\u05d1\u05d2\u05d3\u05d4\u05d5\u05d6\u05d7\u05d8\u05d9\u05da\u05db\u05dc\u05dd"),
  (0xee, "\u05de\u05df"),
  (0xf0, "\u05e0\u05e1\u05e2\u05e3\u05e4\u05e5\u05e6\u05e7\u05e8\u05e9\u05ea"),
  (0xfd, "\u200e\u200f")]

def windows1256 : Chart := [
  (0x80, "€\u067e‚ƒ„…†‡ˆ‰\u0679‹Œ\u0686\u0698\u0688"),
  (0x90, "\u06af‘’“”•–—\u06a9™\u0691›œ\u200c\u200d\u06ba"),
  (0xa0, "\xa0،¢£¤¥¦§¨©\u06be«¬\u00ad®¯"),
  (0xb0, "°±²³´µ¶·¸¹\u061b»¼½¾\u061f"),
  (0xc0, "\u06c1\u0621\u0622\u0623\u0624\u0625\u0626\u0627\u0628\u0629\u062a\u062b\u062c\u062d"),
  (0xce, "\u062e\u062f"),
  (0xd0, "\u0630\u0631\u0632\u0633\u0634\u0635\u0636×\u0637\u0638\u0639\u063a\u0640\u0641\u0642"),
  (0xdf, "\u0643"),
  (0xe0, "à\u0644â\u0645\u0646\u0647\u0648çèéêë\u0649\u064aîï"),
  (0xf0, "\u064b\u064c\u064d\u064eô\u064f\u0650÷\u0651ù\u0652ûü\u200e\u200f\u06d2")]

def windows1257 : Chart := [
  (0x80, "€"),
  (0x82, "‚"),
  (0x84, "„…†‡"),
  (0x89, "‰"),
  (0x8b, "‹"),
  (0x8d, "¨ˇ¸"),
  (0x91, "‘’“”•–—"),
  (0x99, "™"),
  (0x9b, "›"),
  (0x9d, "¯˛"),
  (0xa0, "\xa0"),
  (0xa2, "¢£¤"),
  (0xa6, "¦§Ø©Ŗ«¬\u00ad®Æ"),
  (0xb0, "°±²³´µ¶·ø¹ŗ»¼½¾æ"),
  (0xc0, "ĄĮĀĆÄÅĘĒČÉŹĖĢĶĪĻ"),
  (0xd0, "ŠŃŅÓŌÕÖ×ŲŁŚŪÜŻŽß"),
  (0xe0, "ąįāćäåęēčéźėģķīļ"),
  (0xf0, "šńņóōõö÷ųłśūüżž˙")]

def windows1258 : Chart := [
  (0x80, "€"),
  (0x82, "‚ƒ„…†‡ˆ‰"),
  (0x8b, "‹Œ"),
  (0x91, "‘’“”•–—˜™"),
  (0x9b, "›œ"),
  (0x9f, "Ÿ"),
  (0xa0, "\xa0¡¢£¤¥¦§¨©ª«¬\u00ad®¯"),
  (0xb0, "°±²³´µ¶·¸¹º»¼½¾¿"),
  (0xc0, "ÀÁÂĂÄÅÆÇÈÉÊË\u0300ÍÎÏ"),
  (0xd0, "ĐÑ\u0309ÓÔƠÖ×ØÙÚÛÜƯ\u0303ß"),
  (0xe0, "àáâăäåæçèéêë\u0301íîï"),
  (0xf0, "đñ\u0323óôơö÷øùúûüư₫ÿ")]

end RecordQuery.Encoding.Chart
