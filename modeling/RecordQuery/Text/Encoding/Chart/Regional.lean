import RecordQuery.Text.Encoding.Chart

/-!
# Charts of regions and devices

Charts made for one group of languages or one kind of device. Bytes below
0x80 stand for themselves.
-/

namespace RecordQuery.Encoding.Chart

def koiRussian : Chart := [
  (0x80, "─│┌┐└┘├┤┬┴┼▀▄█▌▐"),
  (0x90, "░▒▓⌠■∙√≈≤≥\xa0⌡°²·÷"),
  (0xa0, "═║╒ё╓╔╕╖╗╘╙╚╛╜╝╞"),
  (0xb0, "╟╠╡Ё╢╣╤╥╦╧╨╩╪╫╬©"),
  (0xc0, "юабцдефгхийклмно"),
  (0xd0, "пярстужвьызшэщчъ"),
  (0xe0, "ЮАБЦДЕФГХИЙКЛМНО"),
  (0xf0, "ПЯРСТУЖВЬЫЗШЭЩЧЪ")]

def koiTajik : Chart := [
  (0x80, "қғ‚Ғ„…†‡"),
  (0x89, "‰ҳ‹ҲҷҶ"),
  (0x90, "Қ‘’“”•–—"),
  (0x99, "™"),
  (0x9b, "›"),
  (0xa1, "ӯӮё¤ӣ¦§"),
  (0xab, "«¬\u00ad®"),
  (0xb0, "°±²Ё"),
  (0xb5, "Ӣ¶·"),
  (0xb9, "№"),
  (0xbb, "»"),
  (0xbf, "©"),
  (0xc0, "юабцдефгхийклмно"),
  (0xd0, "пярстужвьызшэщчъ"),
  (0xe0, "ЮАБЦДЕФГХИЙКЛМНО"),
  (0xf0, "ПЯРСТУЖВЬЫЗШЭЩЧЪ")]

def koiUkrainian : Chart := [
  (0x80, "─│┌┐└┘├┤┬┴┼▀▄█▌▐"),
  (0x90, "░▒▓⌠■∙√≈≤≥\xa0⌡°²·÷"),
  (0xa0, "═║╒ёє╔ії╗╘╙╚╛ґ╝╞"),
  (0xb0, "╟╠╡ЁЄ╣ІЇ╦╧╨╩╪Ґ╬©"),
  (0xc0, "юабцдефгхийклмно"),
  (0xd0, "пярстужвьызшэщчъ"),
  (0xe0, "ЮАБЦДЕФГХИЙКЛМНО"),
  (0xf0, "ПЯРСТУЖВЬЫЗШЭЩЧЪ")]

def kazakh : Chart := [
  (0x80, "ЂЃ‚ѓ„…†‡€‰Љ‹ЊҚҺЏ"),
  (0x90, "ђ‘’“”•–—"),
  (0x99, "™љ›њқһџ"),
  (0xa0, "\xa0ҰұӘ¤Ө¦§Ё©Ғ«¬\u00ad®Ү"),
  (0xb0, "°±Ііөµ¶·ё№ғ»әҢңү"),
  (0xc0, "АБВГДЕЖЗИЙКЛМНОП"),
  (0xd0, "РСТУФХЦЧШЩЪЫЬЭЮЯ"),
  (0xe0, "абвгдежзийклмноп"),
  (0xf0, "рстуфхцчшщъыьэюя")]

def asianCyrillic : Chart := [
  (0x80, "ҖҒӮғ„…ҶҮҲүҠӢҢҚҺҸ"),
  (0x90, "җ‘’“”•–—ҳҷҡӣңқһҹ"),
  (0xa0, "\xa0ЎўЈӨҘҰ§Ё©Ә«¬ӯ®Ҝ"),
  (0xb0, "°ұІіҙө¶·ё№ә»јҪҫҝ"),
  (0xc0, "АБВГДЕЖЗИЙКЛМНОП"),
  (0xd0, "РСТУФХЦЧШЩЪЫЬЭЮЯ"),
  (0xe0, "абвгдежзийклмноп"),
  (0xf0, "рстуфхцчшщъыьэюя")]

def urdu : Chart := [
  (0xa0, "\xa0۰۱۲۳۴۵۶۷۸۹،\u061b\u00ad\u061f\ufe81"),
  (0xb0, "\ufe8d\ufe8e\ufe8e\ufe8f\ufe91\ufb56\ufb58\ufe93\ufe95\ufe97\ufb66\ufb68\ufe99\ufe9b"),
  (0xbe, "\ufe9d\ufe9f"),
  (0xc0, "\ufb7a\ufb7c\ufea1\ufea3\ufea5\ufea7\ufea9\ufb84\ufeab\ufead\ufb8c\ufeaf\ufb8a\ufeb1"),
  (0xce, "\ufeb3\ufeb5"),
  (0xd0, "\ufeb7\ufeb9\ufebb\ufebd\ufebf\ufec1\ufec5\ufec9\ufeca\ufecb\ufecc\ufecd\ufece\ufecf"),
  (0xde, "\ufed0\ufed1"),
  (0xe0, "\ufed3\ufed5\ufed7\ufed9\ufedb\ufb92\ufb94\ufedd\ufedf\ufee0\ufee1\ufee3\ufb9e\ufee5"),
  (0xee, "\ufee7\ufe85"),
  (0xf0, "\ufeed\ufba6\ufba8\ufba9\ufbaa\ufe80\ufe89\ufe8a\ufe8b\ufef1\ufef2\ufef3\ufbb0\ufbae"),
  (0xfe, "\ufe7c\ufe7d")]

def roman8 : Chart := [
  (0xa0, "\xa0ÀÂÈÊËÎÏ´ˋˆ¨˜ÙÛ₤"),
  (0xb0, "¯Ýý°ÇçÑñ¡¿¤£¥§ƒ¢"),
  (0xc0, "âêôûáéóúàèòùäëöü"),
  (0xd0, "ÅîØÆåíøæÄìÖÜÉïßÔ"),
  (0xe0, "ÁÃãÐðÍÌÓÒÕõŠšÚŸÿ"),
  (0xf0, "Þþ·µ¶¾—¼½ªº«■»±")]

def palm : Chart := [
  (0x80, "€\x81‚ƒ„…†‡ˆ‰Š‹Œ♦♣♥"),
  (0x90, "♠‘’“”•–—˜™š\x9bœ\x9d\x9eŸ"),
  (0xa0, "\xa0¡¢£¤¥¦§¨©ª«¬\u00ad®¯"),
  (0xb0, "°±²³´µ¶·¸¹º»¼½¾¿"),
  (0xc0, "ÀÁÂÃÄÅÆÇÈÉÊËÌÍÎÏ"),
  (0xd0, "ÐÑÒÓÔÕÖ×ØÙÚÛÜÝÞß"),
  (0xe0, "àáâãäåæçèéêëìíîï"),
  (0xf0, "ðñòóôõö÷øùúûüýþÿ")]

def thai : Chart := [
  (0xa1, "กขฃคฅฆงจฉชซฌญฎฏ"),
  (0xb0, "ฐฑฒณดตถทธนบปผฝพฟ"),
  (0xc0, "ภมยรฤลฦวศษสหฬอฮฯ"),
  (0xd0, "ะ\u0e31าำ\u0e34\u0e35\u0e36\u0e37\u0e38\u0e39\u0e3a"),
  (0xdf, "฿"),
  (0xe0, "เแโใไๅๆ\u0e47\u0e48\u0e49\u0e4a\u0e4b\u0e4c\u0e4d\u0e4e๏"),
  (0xf0, "๐๑๒๓๔๕๖๗๘๙๚๛")]

end RecordQuery.Encoding.Chart
