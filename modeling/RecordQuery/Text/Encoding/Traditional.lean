import RecordQuery.Text.Encoding.Codes
import RecordQuery.Text.Encoding.Traditional.Basic
import RecordQuery.Text.Encoding.Traditional.HongKong

/-!
# Traditional Chinese text

Codes of two bytes. The basic set is extended in three ways, each of which
keeps most of its codes.
-/

namespace RecordQuery.Encoding.Traditional

def pair? (charts : List Chart) (first second : Nat) : Option (List Char) :=
  (charts.findSome? fun chart => chart.char? (first * 256 + second)).map ([·])

def common : CodeReader := orPair? (pair? [Chart.basicTraditional, Chart.kanaTraditional])

def vendor : CodeReader :=
  orPair? (pair? [Chart.vendorTraditional, Chart.basicTraditional, Chart.kanaTraditional])

def hongKongPair? (first second : Nat) : Option (List Char) :=
  ((Chart.joinedHongKong.lookup (first * 256 + second)).map String.toList).or
    (pair? [Chart.hongKong, Chart.basicTraditional] first second)

def hongKong : CodeReader := orPair? hongKongPair?

end RecordQuery.Encoding.Traditional
