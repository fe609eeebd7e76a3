import RecordQuery.Proofs.Table.Selection

/-!
# Collections and single records

A structured query says about a collection what it says about the records
one by one: it is answered if it has a verdict on every record, and it fails
with the failure on the first record that it has no verdict on.
-/

namespace RecordQuery

-- ---------------------------------------------------------------------------
-- Tests of records
-- ---------------------------------------------------------------------------

section
variable {test : Record → Except Failure Bool} {records : List Record}

theorem matching_of_verdicts (h : ∀ record ∈ records, ∃ verdict, test record = .ok verdict) :
    matching test records =
      .ok (records.filter fun record => (test record).toOption == some true) := by
  induction records with
  | nil => rfl
  | cons record rest ih =>
    obtain ⟨verdict, ht⟩ := h record List.mem_cons_self
    rw [matching, ht, ih fun other ho => h other (List.mem_cons_of_mem _ ho), List.filter_cons, ht]
    cases verdict <;> rfl

theorem matching_first_error {before after : List Record} {record : Record} {failure : Failure}
    (hb : ∀ earlier ∈ before, ∃ verdict, test earlier = .ok verdict)
    (h : test record = .error failure) :
    matching test (before ++ record :: after) = .error failure := by
  induction before with
  | nil =>
    rw [List.nil_append, matching, h]
    rfl
  | cons first before ih =>
    obtain ⟨verdict, ht⟩ := hb first List.mem_cons_self
    rw [List.cons_append, matching, ht, ih fun earlier he => hb earlier (List.mem_cons_of_mem _ he)]
    rfl

theorem matching_ok_iff {kept : List Record} : matching test records = .ok kept ↔
    (∀ record ∈ records, ∃ verdict, test record = .ok verdict) ∧
      kept = records.filter fun record => (test record).toOption == some true := by
  by_cases hv : ∀ record ∈ records, ∃ verdict, test record = .ok verdict
  · rw [matching_of_verdicts hv]
    exact ⟨fun h => ⟨hv, (Except.ok.inj h).symm⟩, fun h => congrArg _ h.2.symm⟩
  · refine iff_of_false (fun h => ?_) fun h => hv h.1
    obtain ⟨before, record, after, failure, rfl, hb, hf⟩ := Attempt.exists_first_error hv
    rw [matching_first_error hb hf] at h
    cases h

end

-- ---------------------------------------------------------------------------
-- Structured queries
-- ---------------------------------------------------------------------------

theorem Record.satisfies_of_parse {query : String} {filter : Filter}
    (hm : Mode.ofQuery query = .structured) (hc : Filter.parse query.toList = .ok filter)
    (record : Record) : record.satisfies query = filter.apply record := by
  rw [satisfies, if_neg (by simp [Engine.not_blank_of_structured hm]), hc]
  rfl

namespace Engine

variable {engine : Engine} {query : String} {filter : Filter}

theorem onRecord_verdict (hm : Mode.ofQuery query = .structured)
    (hc : Filter.parse query.toList = .ok filter) {record : Record} {verdict : Bool}
    (h : record.satisfies query = .ok verdict) : onRecord query filter record = .ok verdict := by
  rw [Record.satisfies_of_parse hm hc] at h
  rw [onRecord, h]

theorem onRecord_failure (hm : Mode.ofQuery query = .structured)
    (hc : Filter.parse query.toList = .ok filter) {record : Record} {failure : Failure}
    (h : record.satisfies query = .error failure) :
    onRecord query filter record = .error (failure.ofQuery (some query)) := by
  rw [Record.satisfies_of_parse hm hc] at h
  rw [onRecord, h]

theorem filter_of_parse (hm : Mode.ofQuery query = .structured)
    (hc : Filter.parse query.toList = .ok filter) :
    engine.filter query = engine.keysWhere (onRecord query filter) := by
  rw [Engine.filter, hm]
  show engine.select query = _
  rw [select, Filter.parse_normalize, hc]
  rfl

theorem filter_of_verdicts (hm : Mode.ofQuery query = .structured)
    (hc : Filter.parse query.toList = .ok filter)
    (h : ∀ record ∈ engine.records, ∃ verdict, record.satisfies query = .ok verdict) :
    engine.filter query =
      .ok ((engine.records.filter fun record =>
        (record.satisfies query).toOption == some true).map (Record.key engine.keyField)) := by
  have ht : ∀ record ∈ engine.records, ∃ verdict, onRecord query filter record = .ok verdict := by
    intro record hr
    obtain ⟨verdict, hv⟩ := h record hr
    exact ⟨verdict, onRecord_verdict hm hc hv⟩
  have hf : (engine.records.filter fun record =>
        (onRecord query filter record).toOption == some true) =
      engine.records.filter fun record => (record.satisfies query).toOption == some true := by
    refine List.filter_congr fun record hr => ?_
    obtain ⟨verdict, hv⟩ := h record hr
    rw [hv, onRecord_verdict hm hc hv]
  rw [filter_of_parse hm hc, keysWhere, matching_of_verdicts ht, hf]
  rfl

theorem filter_first_error (hm : Mode.ofQuery query = .structured)
    (hc : Filter.parse query.toList = .ok filter) {before after : List Record} {record : Record}
    {failure : Failure} (hr : engine.records = before ++ record :: after)
    (hb : ∀ earlier ∈ before, ∃ verdict, earlier.satisfies query = .ok verdict)
    (h : record.satisfies query = .error failure) :
    engine.filter query = .error (failure.ofQuery (some query)) := by
  have ht : ∀ earlier ∈ before, ∃ verdict, onRecord query filter earlier = .ok verdict := by
    intro earlier he
    obtain ⟨verdict, hv⟩ := hb earlier he
    exact ⟨verdict, onRecord_verdict hm hc hv⟩
  rw [filter_of_parse hm hc, keysWhere, hr,
    matching_first_error ht (onRecord_failure hm hc h)]
  rfl

/-- A structured query that can be compiled is answered exactly if it has a
verdict on every record, with the keys of the records that it accepts. If not,
it fails on the first record without a verdict, for the cause that the query
fails there. -/
theorem filter_iff_satisfies (hm : Mode.ofQuery query = .structured)
    (hc : Filter.parse query.toList = .ok filter) :
    (∀ keys, engine.filter query = .ok keys ↔
      (∀ record ∈ engine.records, ∃ verdict, record.satisfies query = .ok verdict) ∧
        keys = (engine.records.filter fun record =>
          (record.satisfies query).toOption == some true).map (Record.key engine.keyField)) ∧
    ((¬ ∀ record ∈ engine.records, ∃ verdict, record.satisfies query = .ok verdict) →
      ∃ before record after failure, engine.records = before ++ record :: after ∧
        (∀ earlier ∈ before, ∃ verdict, earlier.satisfies query = .ok verdict) ∧
        record.satisfies query = .error failure ∧
        engine.filter query = .error (.query ⟨failure.kind, failure.message⟩ (some query)) ∧
        (Failure.query ⟨failure.kind, failure.message⟩ (some query)).message =
          "Query error: " ++ failure.message) := by
  have hs : (¬ ∀ record ∈ engine.records, ∃ verdict, record.satisfies query = .ok verdict) →
      ∃ before record after failure, engine.records = before ++ record :: after ∧
        (∀ earlier ∈ before, ∃ verdict, earlier.satisfies query = .ok verdict) ∧
        record.satisfies query = .error failure ∧
        engine.filter query = .error (failure.ofQuery (some query)) := by
    intro hn
    obtain ⟨before, record, after, failure, hr, hb, hf⟩ := Attempt.exists_first_error hn
    exact ⟨before, record, after, failure, hr, hb, hf, filter_first_error hm hc hr hb hf⟩
  refine ⟨fun keys => ⟨fun h => ?_, fun h => ?_⟩, fun hn => ?_⟩
  · by_cases hv : ∀ record ∈ engine.records, ∃ verdict, record.satisfies query = .ok verdict
    · rw [filter_of_verdicts hm hc hv] at h
      exact ⟨hv, (Except.ok.inj h).symm⟩
    · obtain ⟨_, _, _, failure, -, -, -, hf⟩ := hs hv
      rw [hf] at h
      cases h
  · obtain ⟨hv, rfl⟩ := h
    exact filter_of_verdicts hm hc hv
  · obtain ⟨before, record, after, failure, hr, hb, hf, he⟩ := hs hn
    exact ⟨before, record, after, failure, hr, hb, hf, he, rfl⟩

/-- A query whose second part is no condition, and the filter it becomes. -/
def halfStated : Filter :=
  .chain .or [.leaf (.condition ⟨"a", .equal, .text "u"⟩), .leaf (.invalid "x")]

theorem parse_halfStated : Filter.parse "a = u OR x".toList = .ok halfStated := by
  have ht : Expr.ofText "a = u OR x".toList = .join .or [.leaf "a = u".toList, .leaf "x".toList] := by
    rw [Expr.ofText_eq]
    rfl
  have hn : Text.normalize "a = u OR x".toList = "a = u OR x".toList := rfl
  rw [Filter.parse_of_ne_nil (by decide), Filter.parseGroup, hn, ht]
  rfl

/-- The first record is accepted before the part that is no condition is
reached, and the second is not. -/
theorem filter_halfStated :
    Mode.ofQuery "a = u OR x" = .structured ∧
      Filter.parse "a = u OR x".toList = .ok halfStated ∧
      (new [[("a", .text "u")], [("a", .text "v")]] none).filter "a = u OR x" =
        .error (.query ⟨"InvalidConditionError", "Invalid condition: x"⟩ (some "a = u OR x")) := by
  have hm : Mode.ofQuery "a = u OR x" = .structured := rfl
  have hs (record : Record) : record.satisfies "a = u OR x" = halfStated.apply record :=
    Record.satisfies_of_parse hm parse_halfStated record
  have hu : Record.satisfies [("a", .text "u")] "a = u OR x" = .ok true := hs _
  have hv : Record.satisfies [("a", .text "v")] "a = u OR x" = .error (.invalidCondition "x") := hs _
  refine ⟨hm, parse_halfStated, ?_⟩
  have hn : ¬ ∀ record ∈ (new [[("a", .text "u")], [("a", .text "v")]] none).records,
      ∃ verdict, record.satisfies "a = u OR x" = .ok verdict := by
    intro h
    obtain ⟨verdict, h⟩ := h [("a", .text "v")] (by simp [new])
    rw [hv] at h
    cases h
  obtain ⟨before, record, after, failure, hr, -, hf, he, -⟩ :=
    (filter_iff_satisfies hm parse_halfStated).2 hn
  have hr : record = [("a", .text "u")] ∨ record = [("a", .text "v")] := by
    have : record ∈ (new [[("a", .text "u")], [("a", .text "v")]] none).records := by simp [hr]
    simpa [new] using this
  rcases hr with rfl | rfl
  · rw [hu] at hf
    cases hf
  · rw [hv] at hf
    obtain rfl := Except.error.inj hf
    exact he

end Engine

end RecordQuery
