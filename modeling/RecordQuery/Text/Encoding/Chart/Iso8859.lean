import RecordQuery.Text.Encoding.Chart

/-!
# Standard charts of one byte

Parts of one standard. Bytes below 0xa0 stand for themselves, and in the
charts of changes all others too.
-/

namespace RecordQuery.Encoding.Chart

def iso2 : Chart := [
  (0xa0, "\xa0Ą˘Ł¤ĽŚ§¨ŠŞŤŹ\u00adŽŻ"),
  (0xb0, "°ą˛ł´ľśˇ¸šşťź˝žż"),
  (0xc0, "ŔÁÂĂÄĹĆÇČÉĘËĚÍÎĎ"),
  (0xd0, "ĐŃŇÓÔŐÖ×ŘŮÚŰÜÝŢß"),
  (0xe0, "ŕáâăäĺćçčéęëěíîď"),
  (0xf0, "đńňóôőö÷řůúűüýţ˙")]

def iso3 : Chart := [
  (0xa0, "\xa0Ħ˘£¤"),
  (0xa6, "Ĥ§¨İŞĞĴ\u00ad"),
  (0xaf, "Ż"),
  (0xb0, "°ħ²³´µĥ·¸ışğĵ½"),
  (0xbf, "ż"),
  (0xc0, "ÀÁÂ"),
  (0xc4, "ÄĊĈÇÈÉÊËÌÍÎÏ"),
  (0xd1, "ÑÒÓÔĠÖ×ĜÙÚÛÜŬŜß"),
  (0xe0, "àáâ"),
  (0xe4, "äċĉçèéêëìíîï"),
  (0xf1, "ñòóôġö÷ĝùúûüŭŝ˙")]

def iso4 : Chart := [
  (0xa0, "\xa0ĄĸŖ¤ĨĻ§¨ŠĒĢŦ\u00adŽ¯"),
  (0xb0, "°ą˛ŗ´ĩļˇ¸šēģŧŊžŋ"),
  (0xc0, "ĀÁÂÃÄÅÆĮČÉĘËĖÍÎĪ"),
  (0xd0, "ĐŅŌĶÔÕÖ×ØŲÚÛÜŨŪß"),
  (0xe0, "āáâãäåæįčéęëėíîī"),
  (0xf0, "đņōķôõö÷øųúûüũū˙")]

def iso5 : Chart := [
  (0xa0, "\xa0ЁЂЃЄЅІЇЈЉЊЋЌ\u00adЎЏ"),
  (0xb0, "АБВГДЕЖЗИЙКЛМНОП"),
  (0xc0, "РСТУФХЦЧШЩЪЫЬЭЮЯ"),
  (0xd0, "абвгдежзийклмноп"),
  (0xe0, "рстуфхцчшщъыьэюя"),
  (0xf0, "№ёђѓєѕіїјљњћќ§ўџ")]

def iso6 : Chart := [
  (0xa0, "\xa0"),
  (0xa4, "¤"),
  (0xac, "،\u00ad"),
  (0xbb, "\u061b"),
  (0xbf, "\u061f"),
  (0xc1, "\u0621\u0622\u0623\u0624\u0625\u0626\u0627\u0628\u0629\u062a\u062b\u062c\u062d\u062e"),
  (0xcf, "\u062f"),
  (0xd0, "\u0630\u0631\u0632\u0633\u0634\u0635\u0636\u0637\u0638\u0639\u063a"),
  (0xe0, "\u0640\u0641\u0642\u0643\u0644\u0645\u0646\u0647\u0648\u0649\u064a\u064b\u064c\u064d"),
  (0xee, "\u064e\u064f"),
  (0xf0, "\u0650\u0651\u0652")]

def iso7 : Chart := [
  (0xa0, "\xa0‘’£€₯¦§¨©ͺ«¬\u00ad"),
  (0xaf, "―"),
  (0xb0, "°±²³΄΅Ά·ΈΉΊ»Ό½ΎΏ"),
  (0xc0, "ΐΑΒΓΔΕΖΗΘΙΚΛΜΝΞΟ"),
  (0xd0, "ΠΡ"),
  (0xd3, "ΣΤΥΦΧΨΩΪΫάέήί"),
  (0xe0, "ΰαβγδεζηθικλμνξο"),
  (0xf0, "πρςστυφχψωϊϋόύώ")]

def iso8 : Chart := [
  (0xa0, "\xa0"),
  (0xa2, "¢£¤¥¦§¨©×«¬\u00ad®¯"),
  (0xb0, "°±²³´µ¶·¸¹÷»¼½¾"),
  (0xdf, "‗"),
  (0xe0, "\u05d0\u05d1\u05d2\u05d3\u05d4\u05d5\u05d6\u05d7\u05d8\u05d9\u05da\u05db\u05dc\u05dd"),
  (0xee, "\u05de\u05df"),
  (0xf0, "\u05e0\u05e1\u05e2\u05e3\u05e4\u05e5\u05e6\u05e7\u05e8\u05e9\u05ea"),
  (0xfd, "\u200e\u200f")]

def iso9 : Chart := [
  (0xd0, "Ğ"),
  (0xdd, "İŞ"),
  (0xf0, "ğ"),
  (0xfd, "ış")]

def iso10 : Chart := [
  (0xa0, "\xa0ĄĒĢĪĨĶ§ĻĐŠŦŽ\u00adŪŊ"),
  (0xb0, "°ąēģīĩķ·ļđšŧž―ūŋ"),
  (0xc0, "ĀÁÂÃÄÅÆĮČÉĘËĖÍÎÏ"),
  (0xd0, "ÐŅŌÓÔÕÖŨØŲÚÛÜÝÞß"),
  (0xe0, "āáâãäåæįčéęëėíîï"),
  (0xf0, "ðņōóôõöũøųúûüýþĸ")]

def iso11 : Chart := [
  (0xa0, "\xa0กขฃคฅฆงจฉชซฌญฎฏ"),
  (0xb0, "ฐฑฒณดตถทธนบปผฝพฟ"),
  (0xc0, "ภมยรฤลฦวศษสหฬอฮฯ"),
  (0xd0, "ะ\u0e31าำ\u0e34\u0e35\u0e36\u0e37\u0e38\u0e39\u0e3a"),
  (0xdf, "฿"),
  (0xe0, "เแโใไๅๆ\u0e47\u0e48\u0e49\u0e4a\u0e4b\u0e4c\u0e4d\u0e4e๏"),
  (0xf0, "๐๑๒๓๔๕๖๗๘๙๚๛")]

def iso13 : Chart := [
  (0xa0, "\xa0”¢£¤„¦§Ø©Ŗ«¬\u00ad®Æ"),
  (0xb0, "°±²³“µ¶·ø¹ŗ»¼½¾æ"),
  (0xc0, "ĄĮĀĆÄÅĘĒČÉŹĖĢĶĪĻ"),
  (0xd0, "ŠŃŅÓŌÕÖ×ŲŁŚŪÜŻŽß"),
  (0xe0, "ąįāćäåęēčéźėģķīļ"),
  (0xf0, "šńņóōõö÷ųłśūüżž’")]

def iso14 : Chart := [
  (0xa0, "\xa0Ḃḃ£ĊċḊ§Ẁ©ẂḋỲ\u00ad®Ÿ"),
  (0xb0, "ḞḟĠġṀṁ¶ṖẁṗẃṠỳẄẅṡ"),
  (0xc0, "ÀÁÂÃÄÅÆÇÈÉÊËÌÍÎÏ"),
  (0xd0, "ŴÑÒÓÔÕÖṪØÙÚÛÜÝŶß"),
  (0xe0, "àáâãäåæçèéêëìíîï"),
  (0xf0, "ŵñòóôõöṫøùúûüýŷÿ")]

def iso15 : Chart := [
  (0xa4, "€"),
  (0xa6, "Š"),
  (0xa8, "š"),
  (0xb4, "Ž"),
  (0xb8, "ž"),
  (0xbc, "ŒœŸ")]

def iso16 : Chart := [
  (0xa0, "\xa0ĄąŁ€„Š§š©Ș«Ź\u00adźŻ"),
  (0xb0, "°±ČłŽ”¶·žčș»ŒœŸż"),
  (0xc0, "ÀÁÂĂÄĆÆÇÈÉÊËÌÍÎÏ"),
  (0xd0, "ĐŃÒÓÔŐÖŚŰÙÚÛÜĘȚß"),
  (0xe0, "àáâăäćæçèéêëìíîï"),
  (0xf0, "đńòóôőöśűùúûüęțÿ")]

end RecordQuery.Encoding.Chart
