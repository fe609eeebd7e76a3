import RecordQuery.Proofs.Double.Range
import RecordQuery.Proofs.Engine.Terms
import RecordQuery.Proofs.Value.Convertible
import RecordQuery.Proofs.Value.Stored

/-!
# Searching

A search of flat records is answered if it has no terms, or if every integer
in the records has a float near to it. One integer beyond that, in whatever
field of whatever record, and the search fails instead.
-/

namespace RecordQuery

-- ---------------------------------------------------------------------------
-- Values
-- ---------------------------------------------------------------------------

namespace Value

theorem isInRange_iff (n : Int) : isInRange n = true ↔ n.natAbs < Double.wholeBound :=
  Double.ofInt?_isSome_iff n

theorem isConvertible_scalar {value : Value} (h : value.isScalar = true) :
    value.isConvertible = true ↔ ∀ n, int n = value → n.natAbs < Double.wholeBound := by
  cases value with
  | int n => simp [isConvertible, isInRange_iff]
  | list items => cases h
  | object fields => cases h
  | _ => simp [isConvertible]

theorem areConvertible_scalars {items : List Value} (h : items.all isScalar = true) :
    areConvertible items = true ↔ ∀ n, int n ∈ items → n.natAbs < Double.wholeBound := by
  induction items with
  | nil => simp [areConvertible]
  | cons item rest ih =>
    obtain ⟨hi, hr⟩ := by simpa only [List.all_cons, Bool.and_eq_true] using h
    simp only [areConvertible, Bool.and_eq_true, isConvertible_scalar hi, ih hr, List.mem_cons]
    constructor
    · rintro ⟨hf, ho⟩ n (hn | hn)
      · exact hf n hn
      · exact ho n hn
    · intro hn
      exact ⟨fun n he => hn n (.inl he), fun n hm => hn n (.inr hm)⟩

theorem isConvertible_flat {value : Value} (h : value.isFlat = true) :
    value.isConvertible = true ↔ ∀ n, int n ∈ value.flattened → n.natAbs < Double.wholeBound := by
  rcases isFlat_cases h with hs | ⟨items, rfl, hs⟩
  · simpa only [flattened_scalar hs, List.mem_singleton] using isConvertible_scalar hs
  · exact areConvertible_scalars hs

theorem searchText_scalar {value : Value} (h : value.isScalar = true)
    (hc : ¬ value.isConvertible = true) : value.searchText = .error .integerOutOfRange := by
  cases value with
  | int n =>
    have hn : Double.ofInt? n = none := by simpa [isConvertible, isInRange] using hc
    rw [searchText, integerText, hn]
    rfl
  | list items => cases h
  | object fields => cases h
  | _ => exact absurd rfl hc

theorem searchTexts_scalars {items : List Value} (h : items.all isScalar = true)
    (hc : ¬ areConvertible items = true) : searchTexts items = .error .integerOutOfRange := by
  induction items with
  | nil => exact absurd rfl hc
  | cons item rest ih =>
    obtain ⟨hi, hr⟩ := by simpa only [List.all_cons, Bool.and_eq_true] using h
    rw [searchTexts]
    by_cases hf : item.isConvertible = true
    · obtain ⟨text, ht⟩ := item.exists_searchText hf
      have ho : ¬ areConvertible rest = true := fun ho =>
        hc (by rw [areConvertible, hf, ho]; rfl)
      rw [ht, ih hr ho]
      rfl
    · rw [searchText_scalar hi hf]
      rfl

theorem searchText_flat {value : Value} (h : value.isFlat = true)
    (hc : ¬ value.isConvertible = true) : value.searchText = .error .integerOutOfRange := by
  rcases isFlat_cases h with hs | ⟨items, rfl, hs⟩
  · exact searchText_scalar hs hc
  · rw [searchText, searchTexts_scalars hs (by simpa only [isConvertible] using hc)]
    rfl

end Value

-- ---------------------------------------------------------------------------
-- Records
-- ---------------------------------------------------------------------------

namespace Record

variable {record : Record}

/-- Every integer in a record, also in a list, has a float near to it. -/
def IsSearchable (record : Record) : Prop :=
  ∀ field ∈ record, ∀ n, Value.int n ∈ field.2.flattened → n.natAbs < Double.wholeBound

theorem fieldsConvertible_iff {fields : List (String × Value)} :
    Value.fieldsConvertible fields = true ↔ ∀ field ∈ fields, field.2.isConvertible = true := by
  induction fields with
  | nil => simp [Value.fieldsConvertible]
  | cons field rest ih => simp [Value.fieldsConvertible, ih]

theorem isSearchable_iff (h : record.isFlat = true) :
    record.IsSearchable ↔ record.isConvertible = true := by
  have hf := List.all_eq_true.mp h
  rw [isConvertible, fieldsConvertible_iff]
  exact forall₂_congr fun field hm => (Value.isConvertible_flat (hf field hm)).symm

theorem matchesTerms_unsearchable (h : record.isFlat = true) (hs : ¬ record.IsSearchable)
    (terms : List (List Char)) : record.matchesTerms terms = .error .integerOutOfRange := by
  have hf := List.all_eq_true.mp h
  have hn : ¬ ∀ field ∈ record, ∃ text, field.2.searchText = .ok text := by
    intro hall
    refine hs ((isSearchable_iff h).mpr (fieldsConvertible_iff.mpr fun field hm => ?_))
    by_contra hc
    obtain ⟨text, ht⟩ := hall field hm
    rw [Value.searchText_flat (hf field hm) hc] at ht
    cases ht
  obtain ⟨before, field, after, failure, rfl, hb, he⟩ := Attempt.exists_first_error hn
  have hc : ¬ field.2.isConvertible = true := by
    intro hc
    obtain ⟨text, ht⟩ := field.2.exists_searchText hc
    rw [ht] at he
    cases he
  rw [Value.searchText_flat (hf field (by simp)) hc] at he
  cases he
  have hm : (before ++ field :: after).mapM (fun field => field.2.searchText) =
      .error .integerOutOfRange :=
    Attempt.mapM_first_error hb (Value.searchText_flat (hf field (by simp)) hc)
  rw [matchesTerms, searchText, hm]
  rfl

end Record

-- ---------------------------------------------------------------------------
-- Collections
-- ---------------------------------------------------------------------------

namespace Engine

variable {engine : Engine} {query : String}

/-- Without terms a search lists every key. With terms it lists the keys of
the records that all of them occur in, unless an integer in some record lies
beyond the floats: then it fails. -/
theorem search_flat (hf : ∀ record ∈ engine.records, record.isFlat = true) (query : String) :
    (searchTerms query.toList = [] → engine.search query = .ok engine.keys) ∧
    (searchTerms query.toList ≠ [] →
      ((∀ record ∈ engine.records, record.IsSearchable) →
        engine.search query = .ok ((engine.records.filter fun record =>
          (record.matchesTerms (searchTerms query.toList)).toOption == some true).map
            (Record.key engine.keyField))) ∧
      ((∃ record ∈ engine.records, ¬ record.IsSearchable) →
        engine.search query = .error .integerOutOfRange)) := by
  refine ⟨fun ht => ?_, fun ht => ⟨fun hs => ?_, ?_⟩⟩
  · rw [search, ht]
  · have hv : ∀ record ∈ engine.records, ∃ verdict,
        record.matchesTerms (searchTerms query.toList) = .ok verdict := fun record hm =>
      Record.exists_matchesTerms ((Record.isSearchable_iff (hf record hm)).mp (hs record hm)) _
    rw [search_of_terms ht, keysWhere, matching_of_verdicts hv]
    rfl
  · rintro ⟨record, hm, hs⟩
    have hn : ¬ ∀ record ∈ engine.records, ∃ verdict,
        record.matchesTerms (searchTerms query.toList) = .ok verdict := by
      intro hall
      obtain ⟨verdict, hv⟩ := hall record hm
      rw [Record.matchesTerms_unsearchable (hf record hm) hs] at hv
      cases hv
    obtain ⟨before, first, after, failure, hr, hb, he⟩ := Attempt.exists_first_error hn
    have hfirst : first ∈ engine.records := hr ▸ by simp
    have hu : ¬ first.IsSearchable := by
      intro hs
      obtain ⟨verdict, hv⟩ := Record.exists_matchesTerms
        ((Record.isSearchable_iff (hf first hfirst)).mp hs) (searchTerms query.toList)
      rw [hv] at he
      cases he
    rw [search_of_terms ht, keysWhere, hr, matching_first_error hb
      (Record.matchesTerms_unsearchable (hf first hfirst) hu _)]
    rfl

/-- A record with the least integer beyond the floats, and a word to find. -/
def outsized : Record := [("id", .int 1), ("name", .text "a"), ("n", .int Double.wholeBound)]

theorem search_outsized :
    (new [outsized] (some "id")).search "a" = .error .integerOutOfRange := by
  have hf : ∀ record ∈ (new [outsized] (some "id")).records, record.isFlat = true :=
    List.all_eq_true.mp rfl
  have hu : ¬ outsized.IsSearchable := by
    intro hs
    have hm : ("n", .int Double.wholeBound) ∈ outsized :=
      List.mem_cons_of_mem _ (List.mem_cons_of_mem _ List.mem_cons_self)
    have hn := hs _ hm _ (List.mem_singleton.mpr rfl)
    rw [Int.natAbs_natCast] at hn
    exact Nat.lt_irrefl _ hn
  exact ((search_flat hf "a").2 (by decide +kernel)).2 ⟨outsized, List.mem_singleton.mpr rfl, hu⟩

end Engine

end RecordQuery
