import RecordQuery.Text.Encoding.Chart

/-!
# Additions to the basic set of simplified Chinese

Characters beyond the basic set that follow no order, by the bytes of their
codes.
-/

namespace RecordQuery.Encoding.Chart

def additionalChinese : Chart := [
  (0xa1a4, "·"),
  (0xa1aa, "—"),
  (0xa2a1, "ⅰⅱⅲⅳⅴⅵⅶⅷⅸⅹ"),
  (0xa6e0, "︵︶︹︺︿﹀︽︾﹁﹂﹃﹄"),
  (0xa6ee, "︻︼︷︸︱"),
  (0xa6f4, "︳︴"),
  (0xa840, "ˊˋ˙–―‥‵℅℉↖↗↘↙∕∟∣≒≦≧⊿═║╒╓╔╕╖╗╘╙╚╛╜╝╞╟╠╡╢╣╤╥╦╧╨╩╪"),
  (0xa86f, "╫╬╭╮╯╰╱╲╳▁▂▃▄▅▆▇"),
  (0xa880, "█▉▊▋▌▍▎▏▓▔▕▼▽◢◣◤◥☉⊕〒〝〞"),
  (0xa8bb, "ɑ"),
  (0xa8bd, "ńň"),
  (0xa8c0, "ɡ"),
  (0xa940, "〡〢〣〤〥〦〧〨〩㊣㎎㎏㎜㎝㎞㎡㏄㏎㏑㏒㏕︰￢￤"),
  (0xa959, "℡㈱"),
  (0xa95c, "‐"),
  (0xa960, "ー゛゜ヽヾ〆ゝゞ﹉﹊﹋﹌﹍﹎﹏﹐﹑﹒﹔﹕﹖﹗﹙﹚﹛﹜﹝﹞﹟﹠﹡"),
  (0xa980, "﹢﹣﹤﹥﹦﹨﹩﹪﹫"),
  (0xa996, "〇"),
  (0xfd9c, "\uf92c\uf979\uf995\uf9e7\uf9f1"),
  (0xfe40, "\ufa0c\ufa0d﨎﨏﨑﨓﨔\ufa18﨟\ufa20﨡﨣﨤﨧﨨﨩")]

/-- Characters that were given to free places later. -/
def latestChinese : Chart := [
  (0xa2e3, "€"),
  (0xa8bf, "ǹ"),
  (0xa989, "〾⿰⿱⿲⿳⿴⿵⿶⿷⿸⿹⿺⿻"),
  (0xfe50, "⺁"),
  (0xfe54, "⺄㑳㑇⺈⺋"),
  (0xfe5a, "㖞㘚㘎⺌⺗㥮㤘"),
  (0xfe62, "㧏㧟㩳㧐"),
  (0xfe68, "㭎㱮㳠⺧"),
  (0xfe6e, "⺪䁖䅟⺮䌷⺳⺶⺷"),
  (0xfe77, "䎱䎬⺻䏝䓖䙡䙌"),
  (0xfe80, "䜣䜩䝼䞍⻊䥇䥺䥽䦂䦃䦅䦆䦟䦛䦷䦶"),
  (0xfe92, "䲣䲟䲠䲡䱷䲢䴓䴔䴕䴖䴗䴘䴙䶮")]

end RecordQuery.Encoding.Chart
