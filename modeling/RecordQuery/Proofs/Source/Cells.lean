import RecordQuery.Proofs.Text.Blank
import RecordQuery.Proofs.Text.Cut
import RecordQuery.Report
import RecordQuery.Source

/-!
# Lists in cells

A list of texts is exported as one cell, in which a delimiter joins them, and
a source splits the cell again at the delimiter. Texts without the delimiter
come back trimmed, and without those that are blank. So nothing is kept of
blanks at the ends of a text, nor of a list that holds blank texts alone: its
cell cannot be told from that of the empty list.
-/

namespace RecordQuery

open Text (isBlankText)

namespace Source

/-- Texts as a source keeps them: trimmed, without the blank ones. -/
def kept (items : List String) : List String :=
  (items.filter fun item => !isBlankText item.toList).map fun item =>
    String.ofList (Text.trim item.toList)

theorem kept_eq_self {items : List String}
    (h : ∀ item ∈ items, isBlankText item.toList = false ∧ Text.trim item.toList = item.toList) :
    kept items = items := by
  have hf : items.filter (fun item => !isBlankText item.toList) = items :=
    List.filter_eq_self.mpr fun item hm => by rw [(h item hm).1]; rfl
  rw [kept, hf]
  refine (List.map_congr_left fun item hm => ?_).trans (List.map_id _)
  rw [(h item hm).2, String.ofList_toList]
  rfl

theorem isEmpty_trim (piece : List Char) : (Text.trim piece).isEmpty = isBlankText piece := by
  rw [Bool.eq_iff_iff, List.isEmpty_iff, Text.trim_eq_nil_iff]

theorem kept_pieces (pieces : List (List Char)) :
    ((pieces.map Text.trim).filter (!·.isEmpty)).map Csv.textOf =
      (kept (pieces.map String.ofList)).map .text := by
  simp only [kept, List.filter_map, List.map_map, Function.comp_def, isEmpty_trim,
    String.toList_ofList]
  rfl

theorem listOf_text {delimiter : String} (h : delimiter ≠ "") (cell : String) :
    listOf (.text delimiter) (.text cell) =
      .ok (.list ((kept ((Text.cut delimiter.toList cell.toList).map String.ofList)).map
        .text)) := by
  rw [← kept_pieces]
  by_cases hc : cell = ""
  · subst hc
    rfl
  · have hn : (Value.text cell).isNullish = false := by
      simpa [Value.isNullish] using hc
    have hs : splitAt (.text delimiter) (Value.text cell).shownText =
        .ok (Text.cut delimiter.toList cell.toList) := by
      unfold splitAt
      split
      · next he => exact absurd (Value.text.inj he) h
      · next he =>
        rw [Value.text.inj he]
        rfl
      · next he => exact absurd rfl (he delimiter)
    rw [listOf, hn, hs]
    rfl

theorem cellText_texts (delimiter : List Char) (items : List String) :
    Report.cellText delimiter (.list (items.map .text)) =
      delimiter.intercalate (items.map String.toList) := by
  rw [Report.cellText, List.map_map]
  rfl

theorem kept_cut {delimiter : Char} {items : List String}
    (h : ∀ item ∈ items, delimiter ∉ item.toList) :
    kept ((Text.cut [delimiter] ([delimiter].intercalate (items.map String.toList))).map
      String.ofList) = kept items := by
  by_cases hn : items = []
  · subst hn
    rfl
  · rw [Text.cut_singleton_intercalate (by simpa using hn) (by simpa using h), List.map_map]
    simp [Function.comp_def]

/-- A list of texts that lack the delimiter is exported as a cell that is split
into the same texts again, each of them trimmed and the blank ones left out.
Where none is blank or begins or ends with a blank, it is the same list. -/
theorem listOf_exported {delimiter : Char} {items : List String}
    (h : ∀ item ∈ items, delimiter ∉ item.toList) :
    listOf (.text (String.singleton delimiter))
        (.text (String.ofList (Report.cellText [delimiter] (.list (items.map .text))))) =
      .ok (.list ((kept items).map .text)) ∧
    ((∀ item ∈ items, isBlankText item.toList = false ∧
        Text.trim item.toList = item.toList) →
      listOf (.text (String.singleton delimiter))
          (.text (String.ofList (Report.cellText [delimiter] (.list (items.map .text))))) =
        .ok (.list (items.map .text))) := by
  have hl : listOf (.text (String.singleton delimiter))
      (.text (String.ofList (Report.cellText [delimiter] (.list (items.map .text))))) =
        .ok (.list ((kept items).map .text)) := by
    rw [listOf_text (by simp), String.toList_singleton, String.toList_ofList, cellText_texts,
      kept_cut h]
  refine ⟨hl, fun hk => ?_⟩
  rw [hl, kept_eq_self hk]

/-- A delimiter that is a blank itself, between texts with other blanks; and
texts that are kept as they are. -/
theorem listOf_spread :
    (∀ item ∈ ["\ta", "", "b\n"], ' ' ∉ item.toList) ∧
      listOf (.text " ") (.text "\ta  b\n") = .ok (.list [.text "a", .text "b"]) ∧
      (∀ item ∈ ["x y", "z"], '|' ∉ item.toList) ∧
      (∀ item ∈ ["x y", "z"], isBlankText item.toList = false ∧
        Text.trim item.toList = item.toList) ∧
      listOf (.text "|") (.text "x y|z") = .ok (.list [.text "x y", .text "z"]) := by
  have hb : ∀ item ∈ ["\ta", "", "b\n"], ' ' ∉ item.toList := by decide
  have hp : ∀ item ∈ ["x y", "z"], '|' ∉ item.toList := by decide
  have hk : ∀ item ∈ ["x y", "z"], isBlankText item.toList = false ∧
      Text.trim item.toList = item.toList := by decide
  have hs : kept ["\ta", "", "b\n"] = ["a", "b"] := by decide +kernel
  have hl := (listOf_exported hb).1
  rw [hs] at hl
  exact ⟨hb, hl, hp, hk, (listOf_exported hp).2 hk⟩

end Source

end RecordQuery
