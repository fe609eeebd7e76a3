/-!
# Charts of characters

A chart gives characters to codes, in runs of codes that follow each other.
A code is a number of one byte or of two, the upper of which is its row. A
run stays within its row.
-/

namespace RecordQuery.Encoding

/-- Runs of characters, each with the code of its first. -/
abbrev Chart := List (Nat × String)

namespace Chart

def inRun? (first : Nat) (chars : String) (code : Nat) : Option Char :=
  if first ≤ code ∧ first / 256 = code / 256 then chars.toList[code - first]? else none

def char? (chart : Chart) (code : Nat) : Option Char :=
  chart.findSome? fun run => inRun? run.1 run.2 code

/-- The text of bytes that are codes of one byte. Bytes below `plain` that
are not in the chart stand for the characters of the same numbers. -/
def text? (chart : Chart) (plain : Nat) (bytes : List Nat) : Option (List Char) :=
  bytes.mapM fun byte =>
    (chart.char? byte).or (if byte < plain then some (Char.ofNat byte) else none)

theorem text?_plain (chart : Chart) (plain : Nat) (bytes : List Nat)
    (h : ∀ byte ∈ bytes, byte < plain ∧ chart.char? byte = none) :
    chart.text? plain bytes = some (bytes.map Char.ofNat) := by
  induction bytes with
  | nil => rfl
  | cons byte rest ih =>
    have hb := h byte List.mem_cons_self
    have hr := ih fun b hb => h b (List.mem_cons_of_mem _ hb)
    rw [text?] at hr ⊢
    simp [List.mapM_cons, hb.1, hb.2, hr]

def mark (first : Nat) (marks : Array Bool) (chart : Chart) : Array Bool :=
  chart.foldl (fun marks run => run.2.toList.foldl (markChar first) marks) marks
where
  markChar (first : Nat) (marks : Array Bool) (c : Char) : Array Bool :=
    if first ≤ c.toNat then marks.setIfInBounds (c.toNat - first) true else marks

def missing (charts : List Chart) (first count : Nat) : Array Char :=
  let marks := charts.foldl (mark first) (Array.replicate count false)
  let isMissing := fun place => !marks.getD place true && decide (first + place).isValidChar
  ((List.range count).filter isMissing).toArray.map fun place => Char.ofNat (first + place)

end Chart

end RecordQuery.Encoding
