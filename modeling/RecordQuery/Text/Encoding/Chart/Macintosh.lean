import RecordQuery.Text.Encoding.Chart

/-!
# Charts of early graphical desktops

Letters, typographic signs and mathematical ones. Bytes below 0x80 stand
for themselves.
-/

namespace RecordQuery.Encoding.Chart

def macArabic : Chart := [
  (0x80, "Ä\xa0ÇÉÑÖÜáàâä\u06ba«çéè"),
  (0x90, "êëí…îïñó»ôö÷úùûü"),
  (0xa0, "\u0020!\"#$٪&'()*+،-./"),
  (0xb0, "\u0660\u0661\u0662\u0663\u0664\u0665\u0666\u0667\u0668\u0669:\u061b<=>\u061f"),
  (0xc0, "❊\u0621\u0622\u0623\u0624\u0625\u0626\u0627\u0628\u0629\u062a\u062b\u062c\u062d\u062e"),
  (0xcf, "\u062f"),
  (0xd0, "\u0630\u0631\u0632\u0633\u0634\u0635\u0636\u0637\u0638\u0639\u063a[\\]^_"),
  (0xe0, "\u0640\u0641\u0642\u0643\u0644\u0645\u0646\u0647\u0648\u0649\u064a\u064b\u064c\u064d"),
  (0xee, "\u064e\u064f"),
  (0xf0, "\u0650\u0651\u0652\u067e\u0679\u0686\u06d5\u06a4\u06af\u0688\u0691\x7b|\x7d\u0698"),
  (0xff, "\u06d2")]

def macCroatian : Chart := [
  (0x80, "ÄÅÇÉÑÖÜáàâäãåçéè"),
  (0x90, "êëíìîïñóòôöõúùûü"),
  (0xa0, "†°¢£§•¶ß®Š™´¨≠ŽØ"),
  (0xb0, "∞±≤≥∆µ∂∑∏š∫ªºΩžø"),
  (0xc0, "¿¡¬√ƒ≈Ć«Č…\xa0ÀÃÕŒœ"),
  (0xd0, "Đ—“”‘’÷◊\uf8ff©⁄€‹›Æ»"),
  (0xe0, "–·‚„‰ÂćÁčÈÍÎÏÌÓÔ"),
  (0xf0, "đÒÚÛÙıˆ˜¯πË˚¸Êæˇ")]

def macCyrillic : Chart := [
  (0x80, "АБВГДЕЖЗИЙКЛМНОП"),
  (0x90, "РСТУФХЦЧШЩЪЫЬЭЮЯ"),
  (0xa0, "†°Ґ£§•¶І®©™Ђђ≠Ѓѓ"),
  (0xb0, "∞±≤≥іµґЈЄєЇїЉљЊњ"),
  (0xc0, "јЅ¬√ƒ≈∆«»…\xa0ЋћЌќѕ"),
  (0xd0, "–—“”‘’÷„ЎўЏџ№Ёёя"),
  (0xe0, "абвгдежзийклмноп"),
  (0xf0, "рстуфхцчшщъыьэю€")]

def macFarsi : Chart := [
  (0x80, "Ä\xa0ÇÉÑÖÜáàâä\u06ba«çéè"),
  (0x90, "êëí…îïñó»ôö÷úùûü"),
  (0xa0, "\u0020!\"#$٪&'()*+،-./"),
  (0xb0, "۰۱۲۳۴۵۶۷۸۹:\u061b<=>\u061f"),
  (0xc0, "❊\u0621\u0622\u0623\u0624\u0625\u0626\u0627\u0628\u0629\u062a\u062b\u062c\u062d\u062e"),
  (0xcf, "\u062f"),
  (0xd0, "\u0630\u0631\u0632\u0633\u0634\u0635\u0636\u0637\u0638\u0639\u063a[\\]^_"),
  (0xe0, "\u0640\u0641\u0642\u0643\u0644\u0645\u0646\u0647\u0648\u0649\u064a\u064b\u064c\u064d"),
  (0xee, "\u064e\u064f"),
  (0xf0, "\u0650\u0651\u0652\u067e\u0679\u0686\u06d5\u06a4\u06af\u0688\u0691\x7b|\x7d\u0698"),
  (0xff, "\u06d2")]

def macGreek : Chart := [
  (0x80, "Ä¹²É³ÖÜ΅àâä΄¨çéè"),
  (0x90, "êë£™îï•½‰ôö¦€ùûü"),
  (0xa0, "†ΓΔΘΛΞΠß®©ΣΪ§≠°·"),
  (0xb0, "Α±≤≥¥ΒΕΖΗΙΚΜΦΫΨΩ"),
  (0xc0, "άΝ¬ΟΡ≈Τ«»…\xa0ΥΧΆΈœ"),
  (0xd0, "–―“”‘’÷ΉΊΌΎέήίόΏ"),
  (0xe0, "ύαβψδεφγηιξκλμνο"),
  (0xf0, "πώρστθωςχυζϊϋΐΰ\u00ad")]

def macIcelandic : Chart := [
  (0x80, "ÄÅÇÉÑÖÜáàâäãåçéè"),
  (0x90, "êëíìîïñóòôöõúùûü"),
  (0xa0, "Ý°¢£§•¶ß®©™´¨≠ÆØ"),
  (0xb0, "∞±≤≥¥µ∂∑∏π∫ªºΩæø"),
  (0xc0, "¿¡¬√ƒ≈∆«»…\xa0ÀÃÕŒœ"),
  (0xd0, "–—“”‘’÷◊ÿŸ⁄€ÐðÞþ"),
  (0xe0, "ý·‚„‰ÂÊÁËÈÍÎÏÌÓÔ"),
  (0xf0, "\uf8ffÒÚÛÙıˆ˜¯˘˙˚¸˝˛ˇ")]

def macCentral : Chart := [
  (0x80, "ÄĀāÉĄÖÜáąČäčĆćéŹ"),
  (0x90, "źĎíďĒēĖóėôöõúĚěü"),
  (0xa0, "†°Ę£§•¶ß®©™ę¨≠ģĮ"),
  (0xb0, "įĪ≤≥īĶ∂∑łĻļĽľĹĺŅ"),
  (0xc0, "ņŃ¬√ńŇ∆«»…\xa0ňŐÕőŌ"),
  (0xd0, "–—“”‘’÷◊ōŔŕŘ‹›řŖ"),
  (0xe0, "ŗŠ‚„šŚśÁŤťÍŽžŪÓÔ"),
  (0xf0, "ūŮÚůŰűŲųÝýķŻŁżĢˇ")]

def macRoman : Chart := [
  (0x80, "ÄÅÇÉÑÖÜáàâäãåçéè"),
  (0x90, "êëíìîïñóòôöõúùûü"),
  (0xa0, "†°¢£§•¶ß®©™´¨≠ÆØ"),
  (0xb0, "∞±≤≥¥µ∂∑∏π∫ªºΩæø"),
  (0xc0, "¿¡¬√ƒ≈∆«»…\xa0ÀÃÕŒœ"),
  (0xd0, "–—“”‘’÷◊ÿŸ⁄€‹›ﬁﬂ"),
  (0xe0, "‡·‚„‰ÂÊÁËÈÍÎÏÌÓÔ"),
  (0xf0, "\uf8ffÒÚÛÙıˆ˜¯˘˙˚¸˝˛ˇ")]

def macRomanian : Chart := [
  (0x80, "ÄÅÇÉÑÖÜáàâäãåçéè"),
  (0x90, "êëíìîïñóòôöõúùûü"),
  (0xa0, "†°¢£§•¶ß®©™´¨≠ĂȘ"),
  (0xb0, "∞±≤≥¥µ∂∑∏π∫ªºΩăș"),
  (0xc0, "¿¡¬√ƒ≈∆«»…\xa0ÀÃÕŒœ"),
  (0xd0, "–—“”‘’÷◊ÿŸ⁄€‹›Țț"),
  (0xe0, "‡·‚„‰ÂÊÁËÈÍÎÏÌÓÔ"),
  (0xf0, "\uf8ffÒÚÛÙıˆ˜¯˘˙˚¸˝˛ˇ")]

def macTurkish : Chart := [
  (0x80, "ÄÅÇÉÑÖÜáàâäãåçéè"),
  (0x90, "êëíìîïñóòôöõúùûü"),
  (0xa0, "†°¢£§•¶ß®©™´¨≠ÆØ"),
  (0xb0, "∞±≤≥¥µ∂∑∏π∫ªºΩæø"),
  (0xc0, "¿¡¬√ƒ≈∆«»…\xa0ÀÃÕŒœ"),
  (0xd0, "–—“”‘’÷◊ÿŸĞğİıŞş"),
  (0xe0, "‡·‚„‰ÂÊÁËÈÍÎÏÌÓÔ"),
  (0xf0, "\uf8ffÒÚÛÙ\uf8a0ˆ˜¯˘˙˚¸˝˛ˇ")]

end RecordQuery.Encoding.Chart
