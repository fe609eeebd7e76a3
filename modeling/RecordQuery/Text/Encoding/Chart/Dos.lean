import RecordQuery.Text.Encoding.Chart

/-!
# Charts of text screens

Letters and most often pieces of frames. Bytes below 0x80 stand for
themselves, unless the chart says otherwise.
-/

namespace RecordQuery.Encoding.Chart

def dos437 : Chart := [
  (0x80, "ÇüéâäàåçêëèïîìÄÅ"),
  (0x90, "ÉæÆôöòûùÿÖÜ¢£¥₧ƒ"),
  (0xa0, "áíóúñÑªº¿⌐¬½¼¡«»"),
  (0xb0, "░▒▓│┤╡╢╖╕╣║╗╝╜╛┐"),
  (0xc0, "└┴┬├─┼╞╟╚╔╩╦╠═╬╧"),
  (0xd0, "╨╤╥╙╘╒╓╫╪┘┌█▄▌▐▀"),
  (0xe0, "αßΓπΣσµτΦΘΩδ∞φε∩"),
  (0xf0, "≡±≥≤⌠⌡÷≈°∙·√ⁿ²■\xa0")]

def dos720 : Chart := [
  (0x80, "\x80\x81éâ\x84à\x86çêëèïî\x8d\x8e\x8f"),
  (0x90, "\x90\u0651\u0652ô¤\u0640ûù\u0621\u0622\u0623\u0624£\u0625\u0626\u0627"),
  (0xa0, "\u0628\u0629\u062a\u062b\u062c\u062d\u062e\u062f\u0630\u0631\u0632\u0633\u0634\u0635«»"),
  (0xb0, "░▒▓│┤╡╢╖╕╣║╗╝╜╛┐"),
  (0xc0, "└┴┬├─┼╞╟╚╔╩╦╠═╬╧"),
  (0xd0, "╨╤╥╙╘╒╓╫╪┘┌█▄▌▐▀"),
  (0xe0, "\u0636\u0637\u0638\u0639\u063a\u0641µ\u0642\u0643\u0644\u0645\u0646\u0647\u0648\u0649"),
  (0xef, "\u064a"),
  (0xf0, "≡\u064b\u064c\u064d\u064e\u064f\u0650≈°∙·√ⁿ²■\xa0")]

def dos737 : Chart := [
  (0x80, "ΑΒΓΔΕΖΗΘΙΚΛΜΝΞΟΠ"),
  (0x90, "ΡΣΤΥΦΧΨΩαβγδεζηθ"),
  (0xa0, "ικλμνξοπρσςτυφχψ"),
  (0xb0, "░▒▓│┤╡╢╖╕╣║╗╝╜╛┐"),
  (0xc0, "└┴┬├─┼╞╟╚╔╩╦╠═╬╧"),
  (0xd0, "╨╤╥╙╘╒╓╫╪┘┌█▄▌▐▀"),
  (0xe0, "ωάέήϊίόύϋώΆΈΉΊΌΎ"),
  (0xf0, "Ώ±≥≤ΪΫ÷≈°∙·√ⁿ²■\xa0")]

def dos775 : Chart := [
  (0x80, "ĆüéāäģåćłēŖŗīŹÄÅ"),
  (0x90, "ÉæÆōöĢ¢ŚśÖÜø£Ø×¤"),
  (0xa0, "ĀĪóŻżź”¦©®¬½¼Ł«»"),
  (0xb0, "░▒▓│┤ĄČĘĖ╣║╗╝ĮŠ┐"),
  (0xc0, "└┴┬├─┼ŲŪ╚╔╩╦╠═╬Ž"),
  (0xd0, "ąčęėįšųūž┘┌█▄▌▐▀"),
  (0xe0, "ÓßŌŃõÕµńĶķĻļņĒŅ’"),
  (0xf0, "\u00ad±“¾¶§÷„°∙·¹³²■\xa0")]

def dos850 : Chart := [
  (0x80, "ÇüéâäàåçêëèïîìÄÅ"),
  (0x90, "ÉæÆôöòûùÿÖÜø£Ø×ƒ"),
  (0xa0, "áíóúñÑªº¿®¬½¼¡«»"),
  (0xb0, "░▒▓│┤ÁÂÀ©╣║╗╝¢¥┐"),
  (0xc0, "└┴┬├─┼ãÃ╚╔╩╦╠═╬¤"),
  (0xd0, "ðÐÊËÈıÍÎÏ┘┌█▄¦Ì▀"),
  (0xe0, "ÓßÔÒõÕµþÞÚÛÙýÝ¯´"),
  (0xf0, "\u00ad±‗¾¶§÷¸°¨·¹³²■\xa0")]

def dos852 : Chart := [
  (0x80, "ÇüéâäůćçłëŐőîŹÄĆ"),
  (0x90, "ÉĹĺôöĽľŚśÖÜŤťŁ×č"),
  (0xa0, "áíóúĄąŽžĘę¬źČş«»"),
  (0xb0, "░▒▓│┤ÁÂĚŞ╣║╗╝Żż┐"),
  (0xc0, "└┴┬├─┼Ăă╚╔╩╦╠═╬¤"),
  (0xd0, "đĐĎËďŇÍÎě┘┌█▄ŢŮ▀"),
  (0xe0, "ÓßÔŃńňŠšŔÚŕŰýÝţ´"),
  (0xf0, "\u00ad˝˛ˇ˘§÷¸°¨˙űŘř■\xa0")]

def dos855 : Chart := [
  (0x80, "ђЂѓЃёЁєЄѕЅіІїЇјЈ"),
  (0x90, "љЉњЊћЋќЌўЎџЏюЮъЪ"),
  (0xa0, "аАбБцЦдДеЕфФгГ«»"),
  (0xb0, "░▒▓│┤хХиИ╣║╗╝йЙ┐"),
  (0xc0, "└┴┬├─┼кК╚╔╩╦╠═╬¤"),
  (0xd0, "лЛмМнНоОп┘┌█▄Пя▀"),
  (0xe0, "ЯрРсСтТуУжЖвВьЬ№"),
  (0xf0, "\u00adыЫзЗшШэЭщЩчЧ§■\xa0")]

def dos856 : Chart := [
  (0x80, "\u05d0\u05d1\u05d2\u05d3\u05d4\u05d5\u05d6\u05d7\u05d8\u05d9\u05da\u05db\u05dc\u05dd"),
  (0x8e, "\u05de\u05df"),
  (0x90, "\u05e0\u05e1\u05e2\u05e3\u05e4\u05e5\u05e6\u05e7\u05e8\u05e9\u05ea"),
  (0x9c, "£"),
  (0x9e, "×"),
  (0xa9, "®¬½¼"),
  (0xae, "«»"),
  (0xb0, "░▒▓│┤"),
  (0xb8, "©╣║╗╝¢¥┐"),
  (0xc0, "└┴┬├─┼"),
  (0xc8, "╚╔╩╦╠═╬¤"),
  (0xd9, "┘┌█▄¦"),
  (0xdf, "▀"),
  (0xe6, "µ"),
  (0xee, "¯´"),
  (0xf0, "\u00ad±‗¾¶§÷¸°¨·¹³²■\xa0")]

def dos857 : Chart := [
  (0x80, "ÇüéâäàåçêëèïîıÄÅ"),
  (0x90, "ÉæÆôöòûùİÖÜø£ØŞş"),
  (0xa0, "áíóúñÑĞğ¿®¬½¼¡«»"),
  (0xb0, "░▒▓│┤ÁÂÀ©╣║╗╝¢¥┐"),
  (0xc0, "└┴┬├─┼ãÃ╚╔╩╦╠═╬¤"),
  (0xd0, "ºªÊËÈ"),
  (0xd6, "ÍÎÏ┘┌█▄¦Ì▀"),
  (0xe0, "ÓßÔÒõÕµ"),
  (0xe8, "×ÚÛÙìÿ¯´"),
  (0xf0, "\u00ad±"),
  (0xf3, "¾¶§÷¸°¨·¹³²■\xa0")]

def dos858 : Chart := [
  (0x80, "ÇüéâäàåçêëèïîìÄÅ"),
  (0x90, "ÉæÆôöòûùÿÖÜø£Ø×ƒ"),
  (0xa0, "áíóúñÑªº¿®¬½¼¡«»"),
  (0xb0, "░▒▓│┤ÁÂÀ©╣║╗╝¢¥┐"),
  (0xc0, "└┴┬├─┼ãÃ╚╔╩╦╠═╬¤"),
  (0xd0, "ðÐÊËÈ€ÍÎÏ┘┌█▄¦Ì▀"),
  (0xe0, "ÓßÔÒõÕµþÞÚÛÙýÝ¯´"),
  (0xf0, "\u00ad±‗¾¶§÷¸°¨·¹³²■\xa0")]

def dos860 : Chart := [
  (0x80, "ÇüéâãàÁçêÊèÍÔìÃÂ"),
  (0x90, "ÉÀÈôõòÚùÌÕÜ¢£Ù₧Ó"),
  (0xa0, "áíóúñÑªº¿Ò¬½¼¡«»"),
  (0xb0, "░▒▓│┤╡╢╖╕╣║╗╝╜╛┐"),
  (0xc0, "└┴┬├─┼╞╟╚╔╩╦╠═╬╧"),
  (0xd0, "╨╤╥╙╘╒╓╫╪┘┌█▄▌▐▀"),
  (0xe0, "αßΓπΣσµτΦΘΩδ∞φε∩"),
  (0xf0, "≡±≥≤⌠⌡÷≈°∙·√ⁿ²■\xa0")]

def dos861 : Chart := [
  (0x80, "ÇüéâäàåçêëèÐðÞÄÅ"),
  (0x90, "ÉæÆôöþûÝýÖÜø£Ø₧ƒ"),
  (0xa0, "áíóúÁÍÓÚ¿⌐¬½¼¡«»"),
  (0xb0, "░▒▓│┤╡╢╖╕╣║╗╝╜╛┐"),
  (0xc0, "└┴┬├─┼╞╟╚╔╩╦╠═╬╧"),
  (0xd0, "╨╤╥╙╘╒╓╫╪┘┌█▄▌▐▀"),
  (0xe0, "αßΓπΣσµτΦΘΩδ∞φε∩"),
  (0xf0, "≡±≥≤⌠⌡÷≈°∙·√ⁿ²■\xa0")]

def dos862 : Chart := [
  (0x80, "\u05d0\u05d1\u05d2\u05d3\u05d4\u05d5\u05d6\u05d7\u05d8\u05d9\u05da\u05db\u05dc\u05dd"),
  (0x8e, "\u05de\u05df"),
  (0x90, "\u05e0\u05e1\u05e2\u05e3\u05e4\u05e5\u05e6\u05e7\u05e8\u05e9\u05ea¢£¥₧ƒ"),
  (0xa0, "áíóúñÑªº¿⌐¬½¼¡«»"),
  (0xb0, "░▒▓│┤╡╢╖╕╣║╗╝╜╛┐"),
  (0xc0, "└┴┬├─┼╞╟╚╔╩╦╠═╬╧"),
  (0xd0, "╨╤╥╙╘╒╓╫╪┘┌█▄▌▐▀"),
  (0xe0, "αßΓπΣσµτΦΘΩδ∞φε∩"),
  (0xf0, "≡±≥≤⌠⌡÷≈°∙·√ⁿ²■\xa0")]

def dos863 : Chart := [
  (0x80, "ÇüéâÂà¶çêëèïî‗À§"),
  (0x90, "ÉÈÊôËÏûù¤ÔÜ¢£ÙÛƒ"),
  (0xa0, "¦´óú¨¸³¯Î⌐¬½¼¾«»"),
  (0xb0, "░▒▓│┤╡╢╖╕╣║╗╝╜╛┐"),
  (0xc0, "└┴┬├─┼╞╟╚╔╩╦╠═╬╧"),
  (0xd0, "╨╤╥╙╘╒╓╫╪┘┌█▄▌▐▀"),
  (0xe0, "αßΓπΣσµτΦΘΩδ∞φε∩"),
  (0xf0, "≡±≥≤⌠⌡÷≈°∙·√ⁿ²■\xa0")]

def dos864 : Chart := [
  (0x25, "٪"),
  (0x80, "°·∙√▒─│┼┤┬├┴┐┌└┘"),
  (0x90, "β∞φ±½¼≈«»\ufef7\ufef8"),
  (0x9d, "\ufefb\ufefc"),
  (0xa0, "\xa0\u00ad\ufe82£¤\ufe84"),
  (0xa8, "\ufe8e\ufe8f\ufe95\ufe99،\ufe9d\ufea1\ufea5"),
  (0xb0, "\u0660\u0661\u0662\u0663\u0664\u0665\u0666\u0667\u0668\u0669\ufed1\u061b\ufeb1\ufeb5"),
  (0xbe, "\ufeb9\u061f"),
  (0xc0, "¢\ufe80\ufe81\ufe83\ufe85\ufeca\ufe8b\ufe8d\ufe91\ufe93\ufe97\ufe9b\ufe9f\ufea3\ufea7"),
  (0xcf, "\ufea9"),
  (0xd0, "\ufeab\ufead\ufeaf\ufeb3\ufeb7\ufebb\ufebf\ufec1\ufec5\ufecb\ufecf¦¬÷×\ufec9"),
  (0xe0, "\u0640\ufed3\ufed7\ufedb\ufedf\ufee3\ufee7\ufeeb\ufeed\ufeef\ufef3\ufebd\ufecc\ufece"),
  (0xee, "\ufecd\ufee1"),
  (0xf0, "\ufe7d\u0651\ufee5\ufee9\ufeec\ufef0\ufef2\ufed0\ufed5\ufef5\ufef6\ufedd\ufed9\ufef1■")]

def dos865 : Chart := [
  (0x80, "ÇüéâäàåçêëèïîìÄÅ"),
  (0x90, "ÉæÆôöòûùÿÖÜø£Ø₧ƒ"),
  (0xa0, "áíóúñÑªº¿⌐¬½¼¡«¤"),
  (0xb0, "░▒▓│┤╡╢╖╕╣║╗╝╜╛┐"),
  (0xc0, "└┴┬├─┼╞╟╚╔╩╦╠═╬╧"),
  (0xd0, "╨╤╥╙╘╒╓╫╪┘┌█▄▌▐▀"),
  (0xe0, "αßΓπΣσµτΦΘΩδ∞φε∩"),
  (0xf0, "≡±≥≤⌠⌡÷≈°∙·√ⁿ²■\xa0")]

def dos866 : Chart := [
  (0x80, "АБВГДЕЖЗИЙКЛМНОП"),
  (0x90, "РСТУФХЦЧШЩЪЫЬЭЮЯ"),
  (0xa0, "абвгдежзийклмноп"),
  (0xb0, "░▒▓│┤╡╢╖╕╣║╗╝╜╛┐"),
  (0xc0, "└┴┬├─┼╞╟╚╔╩╦╠═╬╧"),
  (0xd0, "╨╤╥╙╘╒╓╫╪┘┌█▄▌▐▀"),
  (0xe0, "рстуфхцчшщъыьэюя"),
  (0xf0, "ЁёЄєЇїЎў°∙·√№¤■\xa0")]

def dos869 : Chart := [
  (0x86, "Ά"),
  (0x88, "·¬¦‘’Έ―Ή"),
  (0x90, "ΊΪΌ"),
  (0x95, "ΎΫ©Ώ²³ά£έήί"),
  (0xa0, "ϊΐόύΑΒΓΔΕΖΗ½ΘΙ«»"),
  (0xb0, "░▒▓│┤ΚΛΜΝ╣║╗╝ΞΟ┐"),
  (0xc0, "└┴┬├─┼ΠΡ╚╔╩╦╠═╬Σ"),
  (0xd0, "ΤΥΦΧΨΩαβγ┘┌█▄δε▀"),
  (0xe0, "ζηθικλμνξοπρσςτ΄"),
  (0xf0, "\u00ad±υφχ§ψ΅°¨ωϋΰώ■\xa0")]

def dos1125 : Chart := [
  (0x80, "АБВГДЕЖЗИЙКЛМНОП"),
  (0x90, "РСТУФХЦЧШЩЪЫЬЭЮЯ"),
  (0xa0, "абвгдежзийклмноп"),
  (0xb0, "░▒▓│┤╡╢╖╕╣║╗╝╜╛┐"),
  (0xc0, "└┴┬├─┼╞╟╚╔╩╦╠═╬╧"),
  (0xd0, "╨╤╥╙╘╒╓╫╪┘┌█▄▌▐▀"),
  (0xe0, "рстуфхцчшщъыьэюя"),
  (0xf0, "ЁёҐґЄєІіЇї·√№¤■\xa0")]

end RecordQuery.Encoding.Chart
