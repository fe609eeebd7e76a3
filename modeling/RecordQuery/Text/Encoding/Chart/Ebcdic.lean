import RecordQuery.Text.Encoding.Chart

/-!
# Charts of mainframes

Every byte is charted: controls come first, letters lie in rows of nine.
-/

namespace RecordQuery.Encoding.Chart

def ebcdic37 : Chart := [
  (0x00, "\x00\x01\x02\x03\x9c\x09\x86\x7f\x97\x8d\x8e\x0b\x0c\x0d\x0e\x0f"),
  (0x10, "\x10\x11\x12\x13\x9d\x85\x08\x87\x18\x19\x92\x8f\x1c\x1d\x1e\x1f"),
  (0x20, "\x80\x81\x82\x83\x84\x0a\x17\x1b\x88\x89\x8a\x8b\x8c\x05\x06\x07"),
  (0x30, "\x90\x91\x16\x93\x94\x95\x96\x04\x98\x99\x9a\x9b\x14\x15\x9e\x1a"),
  (0x40, "\u0020\xa0âäàáãåçñ¢.<(+|"),
  (0x50, "&éêëèíîïìß!$*);¬"),
  (0x60, "\x2d/ÂÄÀÁÃÅÇÑ¦,%_>?"),
  (0x70, "øÉÊËÈÍÎÏÌ\x60:#@'=\""),
  (0x80, "Øabcdefghi«»ðýþ±"),
  (0x90, "°jklmnopqrªºæ¸Æ¤"),
  (0xa0, "µ~stuvwxyz¡¿ÐÝÞ®"),
  (0xb0, "^£¥·©§¶¼½¾[]¯¨´×"),
  (0xc0, "\x7bABCDEFGHI\u00adôöòóõ"),
  (0xd0, "\x7dJKLMNOPQR¹ûüùúÿ"),
  (0xe0, "\\÷STUVWXYZ²ÔÖÒÓÕ"),
  (0xf0, "0123456789³ÛÜÙÚ\x9f")]

def ebcdic273 : Chart := [
  (0x00, "\x00\x01\x02\x03\x9c\x09\x86\x7f\x97\x8d\x8e\x0b\x0c\x0d\x0e\x0f"),
  (0x10, "\x10\x11\x12\x13\x9d\x85\x08\x87\x18\x19\x92\x8f\x1c\x1d\x1e\x1f"),
  (0x20, "\x80\x81\x82\x83\x84\x0a\x17\x1b\x88\x89\x8a\x8b\x8c\x05\x06\x07"),
  (0x30, "\x90\x91\x16\x93\x94\x95\x96\x04\x98\x99\x9a\x9b\x14\x15\x9e\x1a"),
  (0x40, "\u0020\xa0â\x7bàáãåçñÄ.<(+!"),
  (0x50, "&éêëèíîïì~Ü$*);^"),
  (0x60, "\x2d/Â[ÀÁÃÅÇÑö,%_>?"),
  (0x70, "øÉÊËÈÍÎÏÌ\x60:#§'=\""),
  (0x80, "Øabcdefghi«»ðýþ±"),
  (0x90, "°jklmnopqrªºæ¸Æ¤"),
  (0xa0, "µßstuvwxyz¡¿ÐÝÞ®"),
  (0xb0, "¢£¥·©@¶¼½¾¬|‾¨´×"),
  (0xc0, "äABCDEFGHI\u00adô¦òóõ"),
  (0xd0, "üJKLMNOPQR¹û\x7dùúÿ"),
  (0xe0, "Ö÷STUVWXYZ²Ô\\ÒÓÕ"),
  (0xf0, "0123456789³Û]ÙÚ\x9f")]

def ebcdic424 : Chart := [
  (0x00, "\x00\x01\x02\x03\x9c\x09\x86\x7f\x97\x8d\x8e\x0b\x0c\x0d\x0e\x0f"),
  (0x10, "\x10\x11\x12\x13\x9d\x85\x08\x87\x18\x19\x92\x8f\x1c\x1d\x1e\x1f"),
  (0x20, "\x80\x81\x82\x83\x84\x0a\x17\x1b\x88\x89\x8a\x8b\x8c\x05\x06\x07"),
  (0x30, "\x90\x91\x16\x93\x94\x95\x96\x04\x98\x99\x9a\x9b\x14\x15\x9e\x1a"),
  (0x40, "\u0020\u05d0\u05d1\u05d2\u05d3\u05d4\u05d5\u05d6\u05d7\u05d8¢.<(+|"),
  (0x50, "&\u05d9\u05da\u05db\u05dc\u05dd\u05de\u05df\u05e0\u05e1!$*);¬"),
  (0x60, "\x2d/\u05e2\u05e3\u05e4\u05e5\u05e6\u05e7\u05e8\u05e9¦,%_>?"),
  (0x71, "\u05ea"),
  (0x74, "\xa0"),
  (0x78, "‗\x60:#@'=\""),
  (0x81, "abcdefghi«»"),
  (0x8f, "±"),
  (0x90, "°jklmnopqr"),
  (0x9d, "¸"),
  (0x9f, "¤"),
  (0xa0, "µ~stuvwxyz"),
  (0xaf, "®"),
  (0xb0, "^£¥·©§¶¼½¾[]¯¨´×"),
  (0xc0, "\x7bABCDEFGHI\u00ad"),
  (0xd0, "\x7dJKLMNOPQR¹"),
  (0xe0, "\\÷STUVWXYZ²"),
  (0xf0, "0123456789³"),
  (0xff, "\x9f")]

def ebcdic500 : Chart := [
  (0x00, "\x00\x01\x02\x03\x9c\x09\x86\x7f\x97\x8d\x8e\x0b\x0c\x0d\x0e\x0f"),
  (0x10, "\x10\x11\x12\x13\x9d\x85\x08\x87\x18\x19\x92\x8f\x1c\x1d\x1e\x1f"),
  (0x20, "\x80\x81\x82\x83\x84\x0a\x17\x1b\x88\x89\x8a\x8b\x8c\x05\x06\x07"),
  (0x30, "\x90\x91\x16\x93\x94\x95\x96\x04\x98\x99\x9a\x9b\x14\x15\x9e\x1a"),
  (0x40, "\u0020\xa0âäàáãåçñ[.<(+!"),
  (0x50, "&éêëèíîïìß]$*);^"),
  (0x60, "\x2d/ÂÄÀÁÃÅÇÑ¦,%_>?"),
  (0x70, "øÉÊËÈÍÎÏÌ\x60:#@'=\""),
  (0x80, "Øabcdefghi«»ðýþ±"),
  (0x90, "°jklmnopqrªºæ¸Æ¤"),
  (0xa0, "µ~stuvwxyz¡¿ÐÝÞ®"),
  (0xb0, "¢£¥·©§¶¼½¾¬|¯¨´×"),
  (0xc0, "\x7bABCDEFGHI\u00adôöòóõ"),
  (0xd0, "\x7dJKLMNOPQR¹ûüùúÿ"),
  (0xe0, "\\÷STUVWXYZ²ÔÖÒÓÕ"),
  (0xf0, "0123456789³ÛÜÙÚ\x9f")]

def ebcdic875 : Chart := [
  (0x00, "\x00\x01\x02\x03\x9c\x09\x86\x7f\x97\x8d\x8e\x0b\x0c\x0d\x0e\x0f"),
  (0x10, "\x10\x11\x12\x13\x9d\x85\x08\x87\x18\x19\x92\x8f\x1c\x1d\x1e\x1f"),
  (0x20, "\x80\x81\x82\x83\x84\x0a\x17\x1b\x88\x89\x8a\x8b\x8c\x05\x06\x07"),
  (0x30, "\x90\x91\x16\x93\x94\x95\x96\x04\x98\x99\x9a\x9b\x14\x15\x9e\x1a"),
  (0x40, "\u0020ΑΒΓΔΕΖΗΘΙ[.<(+!"),
  (0x50, "&ΚΛΜΝΞΟΠΡΣ]$*);^"),
  (0x60, "\x2d/ΤΥΦΧΨΩΪΫ|,%_>?"),
  (0x70, "¨ΆΈΉ\xa0ΊΌΎΏ\x60:#@'=\""),
  (0x80, "΅abcdefghiαβγδεζ"),
  (0x90, "°jklmnopqrηθικλμ"),
  (0xa0, "´~stuvwxyzνξοπρσ"),
  (0xb0, "£άέήϊίόύϋώςτυφχψ"),
  (0xc0, "\x7bABCDEFGHI\u00adωΐΰ‘―"),
  (0xd0, "\x7dJKLMNOPQR±½\x1a\u0387’¦"),
  (0xe0, "\\\x1aSTUVWXYZ²§\x1a\x1a«¬"),
  (0xf0, "0123456789³©\x1a\x1a»\x9f")]

def ebcdic1026 : Chart := [
  (0x00, "\x00\x01\x02\x03\x9c\x09\x86\x7f\x97\x8d\x8e\x0b\x0c\x0d\x0e\x0f"),
  (0x10, "\x10\x11\x12\x13\x9d\x85\x08\x87\x18\x19\x92\x8f\x1c\x1d\x1e\x1f"),
  (0x20, "\x80\x81\x82\x83\x84\x0a\x17\x1b\x88\x89\x8a\x8b\x8c\x05\x06\x07"),
  (0x30, "\x90\x91\x16\x93\x94\x95\x96\x04\x98\x99\x9a\x9b\x14\x15\x9e\x1a"),
  (0x40, "\u0020\xa0âäàáãå\x7bñÇ.<(+!"),
  (0x50, "&éêëèíîïìßĞİ*);^"),
  (0x60, "\x2d/ÂÄÀÁÃÅ[Ñş,%_>?"),
  (0x70, "øÉÊËÈÍÎÏÌı:ÖŞ'=Ü"),
  (0x80, "Øabcdefghi«»\x7d\x60¦±"),
  (0x90, "°jklmnopqrªºæ¸Æ¤"),
  (0xa0, "µöstuvwxyz¡¿]$@®"),
  (0xb0, "¢£¥·©§¶¼½¾¬|¯¨´×"),
  (0xc0, "çABCDEFGHI\u00adô~òóõ"),
  (0xd0, "ğJKLMNOPQR¹û\\ùúÿ"),
  (0xe0, "ü÷STUVWXYZ²Ô#ÒÓÕ"),
  (0xf0, "0123456789³Û\"ÙÚ\x9f")]

def ebcdic1140 : Chart := [
  (0x00, "\x00\x01\x02\x03\x9c\x09\x86\x7f\x97\x8d\x8e\x0b\x0c\x0d\x0e\x0f"),
  (0x10, "\x10\x11\x12\x13\x9d\x85\x08\x87\x18\x19\x92\x8f\x1c\x1d\x1e\x1f"),
  (0x20, "\x80\x81\x82\x83\x84\x0a\x17\x1b\x88\x89\x8a\x8b\x8c\x05\x06\x07"),
  (0x30, "\x90\x91\x16\x93\x94\x95\x96\x04\x98\x99\x9a\x9b\x14\x15\x9e\x1a"),
  (0x40, "\u0020\xa0âäàáãåçñ¢.<(+|"),
  (0x50, "&éêëèíîïìß!$*);¬"),
  (0x60, "\x2d/ÂÄÀÁÃÅÇÑ¦,%_>?"),
  (0x70, "øÉÊËÈÍÎÏÌ\x60:#@'=\""),
  (0x80, "Øabcdefghi«»ðýþ±"),
  (0x90, "°jklmnopqrªºæ¸Æ€"),
  (0xa0, "µ~stuvwxyz¡¿ÐÝÞ®"),
  (0xb0, "^£¥·©§¶¼½¾[]¯¨´×"),
  (0xc0, "\x7bABCDEFGHI\u00adôöòóõ"),
  (0xd0, "\x7dJKLMNOPQR¹ûüùúÿ"),
  (0xe0, "\\÷STUVWXYZ²ÔÖÒÓÕ"),
  (0xf0, "0123456789³ÛÜÙÚ\x9f")]

end RecordQuery.Encoding.Chart
