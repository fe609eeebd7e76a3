import RecordQuery.Proofs.Engine.Terms
import RecordQuery.Proofs.Query.Mode

/-!
# How blanks are written

Texts with one normal form are one query, whichever blanks stand between and
around their words. They have the same mode and the same terms, and every
collection gives them the same answer, or a failure of the same class and
wording; only the text reported with the failure is the one that was given.
-/

namespace RecordQuery

variable {first second : String}

-- ---------------------------------------------------------------------------
-- Modes and terms
-- ---------------------------------------------------------------------------

theorem Text.isBlankText_iff {text : List Char} :
    isBlankText text = true ↔ normalize text = [] := by
  refine ⟨normalize_blank, fun hn => ?_⟩
  cases hb : isBlankText text with
  | true => rfl
  | false => exact absurd hn (normalize_ne_nil hb)

theorem Mode.ofQuery_congr (h : Text.normalize first.toList = Text.normalize second.toList) :
    ofQuery first = ofQuery second := by
  have hb : Text.isBlankText first.toList = Text.isBlankText second.toList := by
    rw [Bool.eq_iff_iff, Text.isBlankText_iff, Text.isBlankText_iff, h]
  rw [ofQuery, ofQuery, hb, ← isStructured_normalize first.toList, h, isStructured_normalize]

theorem searchTerms_congr {first second : List Char}
    (h : Text.normalize first = Text.normalize second) :
    searchTerms first = searchTerms second := by
  rw [searchTerms_eq, searchTerms_eq, ← Text.words_normalize first, h, Text.words_normalize]

-- ---------------------------------------------------------------------------
-- Answers
-- ---------------------------------------------------------------------------

section
variable {α : Type} {f : Failure → α}

theorem matching_mapError {one other : Record → Except Failure Bool}
    (h : ∀ record, (one record).mapError f = (other record).mapError f) (records : List Record) :
    (matching one records).mapError f = (matching other records).mapError f := by
  induction records with
  | nil => rfl
  | cons record rest ih => simp only [matching, Attempt.mapError_bind, h record, ih]

end

namespace Engine

variable {engine : Engine}

theorem onRecord_cause (filter : Filter) (record : Record) :
    (onRecord first filter record).mapError Failure.cause =
      (onRecord second filter record).mapError Failure.cause := by
  rw [onRecord, onRecord]
  cases filter.apply record with
  | ok verdict => rfl
  | error failure => rfl

theorem select_cause (h : Text.normalize first.toList = Text.normalize second.toList) :
    (engine.select first).mapError Failure.cause =
      (engine.select second).mapError Failure.cause := by
  have hm (filter : Filter) :
      (matching (onRecord first filter) engine.records).mapError Failure.cause =
        (matching (onRecord second filter) engine.records).mapError Failure.cause :=
    matching_mapError (onRecord_cause filter) engine.records
  simp only [select, keysWhere, h, Attempt.mapError_bind, hm]

/-- Texts that differ in their blanks alone have one mode and the same terms,
and any collection answers them alike: with the same keys, or with failures of
the same class and wording. -/
theorem filter_respelled (h : Text.normalize first.toList = Text.normalize second.toList) :
    Mode.ofQuery first = Mode.ofQuery second ∧
    searchTerms first.toList = searchTerms second.toList ∧
    ∀ engine : Engine, (engine.filter first).mapError Failure.cause =
      (engine.filter second).mapError Failure.cause := by
  have hm := Mode.ofQuery_congr h
  have ht := searchTerms_congr h
  refine ⟨hm, ht, fun engine => ?_⟩
  rw [filter, filter, hm]
  cases Mode.ofQuery second with
  | empty => rfl
  | structured => exact select_cause h
  | search => rw [search, search, ht]

/-- A query that fails on the second record, and a search whose first word
ends in a sigma. -/
theorem filter_spread :
    Mode.ofQuery "\u2003a\t=  u OR\nx " = .structured ∧
    ((new [[("a", .text "u")], [("a", .text "v")]] none).filter
      "\u2003a\t=  u OR\nx ").mapError Failure.cause =
        .error ⟨"QueryError", "Query error: Invalid condition: x"⟩ ∧
    Mode.ofQuery "\u00A0ΟΔΟΣ\tΣ" = .search ∧
    searchTerms "\u00A0ΟΔΟΣ\tΣ".toList = ["οδος".toList, "σ".toList] := by
  have hs : Text.normalize "\u2003a\t=  u OR\nx ".toList =
      Text.normalize "a = u OR x".toList := by decide +kernel
  have ht : Text.normalize "\u00A0ΟΔΟΣ\tΣ".toList = Text.normalize "ΟΔΟΣ Σ".toList := by
    decide +kernel
  have hf : (new [[("a", .text "u")], [("a", .text "v")]] none).filter "a = u OR x" =
      .error (.query ⟨"InvalidConditionError", "Invalid condition: x"⟩ (some "a = u OR x")) := by
    have hn : Text.normalize "a = u OR x".toList = "a = u OR x".toList := by decide +kernel
    have hm : Mode.ofQuery "a = u OR x" = .structured := rfl
    rw [filter, hm]
    simp only [select, hn, parse_halfStated]
    rfl
  obtain ⟨hm, -, ha⟩ := filter_respelled hs
  obtain ⟨hn, he, -⟩ := filter_respelled ht
  rw [hm, ha, hf, hn, he]
  exact ⟨rfl, rfl, rfl, by decide +kernel⟩

end Engine

end RecordQuery
