import RecordQuery.Report

/-!
# Widths of console rows

A row of the console is the column of keys, a separator, and what is left of
the width for the other fields. Where that is at least the length of the mark
that follows a cut text, every row fits. Where it is less, the number of
characters to be kept is negative, and so many are taken off the end instead:
such a row may be of any length, and longer than what it was cut from.
-/

namespace RecordQuery.Report

variable {width : Int} {keyField : String} {record : Record}

def details (keyField : String) (record : Record) : List Char :=
  Value.separated ((record.filter fun field => field.1 != keyField).map fun field =>
    field.1.toList ++ ':' :: ' ' :: printed field.2)

-- ---------------------------------------------------------------------------
-- Parts of a row
-- ---------------------------------------------------------------------------

theorem length_clip_of_nonneg {count : Int} (h : 0 ≤ count) (text : List Char) :
    (clip count text).length = min count.toNat text.length := by
  rw [clip, if_neg (by omega), List.length_take]
  omega

theorem length_clip_of_neg {count : Int} (h : count < 0) (text : List Char) :
    (clip count text).length = text.length - count.natAbs := by
  rw [clip, if_pos h, List.length_take]
  omega

theorem shorten_of_le {text : List Char} (h : text.length ≤ width) :
    shorten width text = text := if_neg (by omega)

theorem length_shorten_of_lt {text : List Char} (h : width < text.length) :
    (shorten width text).length =
      if 3 ≤ width then width else max 3 (text.length + width) := by
  rw [shorten, if_pos h, List.length_append]
  split
  · rw [length_clip_of_nonneg (by omega)]
    simp only [List.length_cons, List.length_nil]
    omega
  · rw [length_clip_of_neg (by omega)]
    simp only [List.length_cons, List.length_nil]
    omega

theorem length_row {left : List Char} (h : left.length ≤ keyWidth) (right : List Char) :
    (row left right).length = 13 + right.length := by
  have hs : " | ".toList.length = 3 := rfl
  rw [keyWidth] at h
  simp only [row, pad, keyWidth, List.length_append, List.length_replicate, hs]
  omega

theorem recordLine_eq (width : Int) (keyField : String) (record : Record) :
    recordLine width keyField record =
      row ((printed ((record.find? keyField).getD (.text ""))).take keyWidth)
        (shorten (width - 13) (details keyField record)) := by
  have hw : width - keyWidth - 3 = width - 13 := by
    rw [keyWidth]
    omega
  rw [recordLine, hw]
  rfl

theorem length_recordLine (width : Int) (keyField : String) (record : Record) :
    (recordLine width keyField record).length =
      13 + (shorten (width - 13) (details keyField record)).length := by
  rw [recordLine_eq, length_row (List.length_take_le _ _)]

-- ---------------------------------------------------------------------------
-- Rows
-- ---------------------------------------------------------------------------

theorem length_recordLine_eq (width : Int) (keyField : String) (record : Record) :
    (recordLine width keyField record).length =
      if (details keyField record).length + 13 ≤ width then
        ((details keyField record).length + 13 : Int)
      else if 16 ≤ width then width
      else max 16 ((details keyField record).length + width) := by
  have hl := length_recordLine width keyField record
  by_cases h : (details keyField record).length + 13 ≤ width
  · rw [shorten_of_le (by omega)] at hl
    rw [if_pos h]
    omega
  · have hs : ((shorten (width - 13) (details keyField record)).length : Int) =
        if 3 ≤ width - 13 then width - 13
        else max 3 ((details keyField record).length + (width - 13)) :=
      length_shorten_of_lt (by omega)
    rw [if_neg h]
    split <;> omega

/-- Below the heading the console shows one row for each record. The row is no
wider than asked for, or than a key, the separator and the mark, exactly if the
width has room for these, or the other fields fit as they are, or none of their
characters is left in front of the mark. -/
theorem console_rows (width : Int) (keyField : String) {records : List Record}
    (h : records ≠ []) :
    console width keyField records =
        lines ([] :: row (Text.upper keyField.toList) "Details".toList ::
          List.replicate width.toNat '-' :: records.map (recordLine width keyField)) ∧
      ∀ record ∈ records,
        (recordLine width keyField record).length =
          (if (details keyField record).length + 13 ≤ width then
            ((details keyField record).length + 13 : Int)
          else if 16 ≤ width then width
          else max 16 ((details keyField record).length + width)) ∧
        ((recordLine width keyField record).length ≤ max width 16 ↔
          16 ≤ width ∨ (details keyField record).length + 13 ≤ width ∨
            (details keyField record).length + width ≤ 16) := by
  constructor
  · cases records with
    | nil => exact absurd rfl h
    | cons record rest => rfl
  · intro record _
    have hl := length_recordLine_eq width keyField record
    refine ⟨hl, ?_⟩
    rw [hl]
    split
    · omega
    · split <;> omega

/-- A row of 37 characters becomes one of 39 where 15 are asked for. -/
theorem console_narrow :
    [[("id", .int 1), ("name", .text "Alexander Hamilton")]] ≠ ([] : List Record) ∧
      (recordLine 15 "id" [("id", .int 1), ("name", .text "Alexander Hamilton")]).length = 39 ∧
      (recordLine 37 "id" [("id", .int 1), ("name", .text "Alexander Hamilton")]).length = 37 := by
  have h : [[("id", .int 1), ("name", .text "Alexander Hamilton")]] ≠ ([] : List Record) :=
    List.cons_ne_nil _ _
  have hd : (details "id" [("id", .int 1), ("name", .text "Alexander Hamilton")]).length = 24 := by
    decide +kernel
  have hn := ((console_rows 15 "id" h).2 _ List.mem_cons_self).1
  have hw := ((console_rows 37 "id" h).2 _ List.mem_cons_self).1
  rw [hd] at hn hw
  exact ⟨h, Int.ofNat_inj.mp hn, Int.ofNat_inj.mp hw⟩

end RecordQuery.Report
