import RecordQuery.Proofs.Attempt
import RecordQuery.Proofs.Filter.Places
import RecordQuery.Proofs.Text.Blank
import RecordQuery.Table

/-!
# What a table selects

An engine answers with the keys of the records that match a query. A table
goes from these keys back to records by their shown form, so it also selects
every record whose key looks like that of a match.
-/

namespace RecordQuery

-- ---------------------------------------------------------------------------
-- Records by themselves
-- ---------------------------------------------------------------------------

namespace Record

def accepts (query : String) (record : Record) : Except Failure Bool :=
  match Mode.ofQuery query with
  | .empty => .ok true
  | .structured => record.satisfies query
  | .search =>
    match searchTerms query.toList with
    | [] => .ok true
    | terms => record.matchesTerms terms

def isMatch (query : String) (record : Record) : Bool :=
  match record.accepts query with
  | .ok verdict => verdict
  | .error _ => false

theorem isMatch_eq {query : String} {record : Record} (h : record.accepts query = .ok verdict) :
    record.isMatch query = verdict := by
  rw [isMatch, h]

end Record

theorem matching_eq {test : Record → Except Failure Bool} {passes : Record → Bool}
    (hp : ∀ record verdict, test record = .ok verdict → passes record = verdict)
    (h : matching test records = .ok kept) : kept = records.filter passes := by
  induction records generalizing kept with
  | nil => exact (Except.ok.inj h).symm
  | cons record rest ih =>
    simp only [matching, Attempt.bind_ok] at h
    obtain ⟨verdict, ht, others, hr, h⟩ := h
    rw [List.filter_cons, hp record verdict ht, ← ih hr]
    exact (Except.ok.inj h).symm

theorem Filter.parse_normalize (text : List Char) : parse (Text.normalize text) = parse text := by
  rw [parse, parse, Text.normalize_normalize]

namespace Engine

variable {engine : Engine} {query : String} {keys : List Value}

theorem keysWhere_eq {test : Record → Except Failure Bool} {passes : Record → Bool}
    (hp : ∀ record verdict, test record = .ok verdict → passes record = verdict)
    (h : engine.keysWhere test = .ok keys) :
    keys = (engine.records.filter passes).map (Record.key engine.keyField) := by
  obtain ⟨kept, hm, h⟩ := Attempt.bind_ok.mp h
  rw [← matching_eq hp hm]
  exact (Except.ok.inj h).symm

theorem keys_eq (h : ∀ record : Record, record.accepts query = .ok true) :
    engine.keys = (engine.records.filter (Record.isMatch query)).map (Record.key engine.keyField) := by
  rw [List.filter_eq_self.mpr fun record _ => Record.isMatch_eq (h record)]
  rfl

theorem onRecord_ok {filter : Filter} {record : Record}
    (h : onRecord query filter record = .ok verdict) : filter.apply record = .ok verdict := by
  rw [onRecord] at h
  cases ha : filter.apply record with
  | error failure =>
    rw [ha] at h
    cases h
  | ok found =>
    rw [ha] at h
    exact h

theorem not_blank_of_structured (h : Mode.ofQuery query = .structured) :
    Text.isBlankText query.toList = false := by
  rw [Mode.ofQuery] at h
  split at h
  · cases h
  · next hb => exact Bool.eq_false_iff.mpr hb

theorem select_eq (hm : Mode.ofQuery query = .structured) (h : engine.select query = .ok keys) :
    keys = (engine.records.filter (Record.isMatch query)).map (Record.key engine.keyField) := by
  have hb := not_blank_of_structured hm
  obtain ⟨filter, hf, h⟩ := Attempt.bind_ok.mp h
  -- The engine normalises the text once more than is needed.
  have hp : Filter.parse query.toList = .ok filter := by rw [← hf, Filter.parse_normalize]
  refine keysWhere_eq (fun record verdict ho => Record.isMatch_eq ?_) h
  rw [Record.accepts, hm, ← onRecord_ok ho]
  show record.satisfies query = filter.apply record
  rw [Record.satisfies, if_neg (by simp [hb]), hp]
  rfl

theorem search_eq (hm : Mode.ofQuery query = .search) (h : engine.search query = .ok keys) :
    keys = (engine.records.filter (Record.isMatch query)).map (Record.key engine.keyField) := by
  rw [search] at h
  split at h
  · next ht =>
    obtain rfl : engine.keys = keys := Except.ok.inj h
    refine keys_eq fun record => ?_
    simp only [Record.accepts, hm, ht]
  · next terms ht =>
    refine keysWhere_eq (fun record verdict ho => Record.isMatch_eq ?_) h
    rw [← ho]
    simp only [Record.accepts, hm]

theorem filter_eq (h : engine.filter query = .ok keys) :
    keys = (engine.records.filter (Record.isMatch query)).map (Record.key engine.keyField) := by
  cases hm : Mode.ofQuery query with
  | empty =>
    rw [filter, hm] at h
    obtain rfl : engine.keys = keys := Except.ok.inj h
    exact keys_eq fun record => by rw [Record.accepts, hm]
  | structured =>
    rw [filter, hm] at h
    exact select_eq hm h
  | search =>
    rw [filter, hm] at h
    exact search_eq hm h

end Engine

-- ---------------------------------------------------------------------------
-- Selections
-- ---------------------------------------------------------------------------

namespace Table

def matched (table : Table) (query : String) : List Record :=
  table.records.filter (Record.isMatch query)

def isTooLong (table : Table) (query : String) : Bool :=
  !Text.isBlankText query.toList && Query.exceeds query.length table.limit

/-- The key of the record looks like that of a match. -/
def looksMatched (table : Table) (query : String) (record : Record) : Bool :=
  (table.matched query).any fun other => table.keyText other == table.keyText record

/-- The records that are selected: all where the query is refused. -/
def selects (table : Table) (query : String) (record : Record) : Bool :=
  table.isTooLong query || table.looksMatched query record

section
variable {table : Table} {query : String}

theorem looksMatched_of_isMatch (hm : record ∈ table.records) (h : record.isMatch query = true) :
    table.looksMatched query record = true :=
  List.any_eq_true.mpr ⟨record, List.mem_filter.mpr ⟨hm, h⟩, beq_self_eq_true _⟩

theorem selects_of_isMatch (hm : record ∈ table.records) (h : record.isMatch query = true) :
    table.selects query record = true := by
  rw [selects, looksMatched_of_isMatch hm h, Bool.or_true]

theorem selects_eq_false : table.selects query record = false ↔
    table.isTooLong query = false ∧
      ∀ other ∈ table.matched query, table.keyText other ≠ table.keyText record := by
  rw [selects, Bool.or_eq_false_iff, looksMatched, List.any_eq_false]
  simp only [beq_iff_eq, ne_eq]

/-- Every match is selected. -/
theorem matched_eq_filter_selected :
    table.matched query =
      (table.records.filter (table.selects query)).filter (Record.isMatch query) := by
  rw [matched, List.filter_filter]
  refine List.filter_congr fun record hm => ?_
  cases h : record.isMatch query with
  | false => rfl
  | true => rw [selects_of_isMatch hm h]; rfl

theorem selected_eq_matched_iff :
    table.records.filter (table.selects query) = table.matched query ↔
      ∀ record ∈ table.records, table.selects query record = true →
        record.isMatch query = true := by
  rw [matched_eq_filter_selected, eq_comm, List.filter_eq_self]
  simp only [List.mem_filter, and_imp]

theorem keys_selected_iff :
    (table.records.filter (table.selects query)).map table.key =
        (table.matched query).map table.key ↔
      table.records.filter (table.selects query) = table.matched query := by
  refine ⟨fun h => ?_, fun h => by rw [h]⟩
  have hl := congrArg List.length h
  rw [List.length_map, List.length_map, matched_eq_filter_selected] at hl
  rw [matched_eq_filter_selected]
  exact (List.filter_sublist.eq_of_length hl.symm).symm

theorem selects_of_blank (h : Text.isBlankText query.toList = true) (hm : record ∈ table.records) :
    table.selects query record = true := by
  refine selects_of_isMatch hm (Record.isMatch_eq ?_)
  have he : Mode.ofQuery query = .empty := by rw [Mode.ofQuery, if_pos h]
  rw [Record.accepts, he]

theorem contains_shown_keys (keys : List Value) (record : Record)
    (hk : keys = (table.matched query).map table.key) :
    (keys.map Value.shown).contains (table.keyText record) = table.looksMatched query record := by
  rw [hk, List.map_map, looksMatched, List.contains_eq_any_beq, List.any_map]
  exact List.any_congr rfl fun other => BEq.comm

end

-- ---------------------------------------------------------------------------
-- Applying a query
-- ---------------------------------------------------------------------------

theorem exceeds_int (length : Nat) (limit : Int) :
    Query.exceeds length (.int limit) = decide (limit < length) := by
  have hu : (0 : Int) < (Double.unit : Int) := Int.natCast_pos.mpr (by decide +kernel)
  have hp : Query.exceeds length (.int limit) =
      (decide ((0 : Int) < 0) || ((0 : Int) == 0 &&
        decide (limit * Double.unit < (length : Int) * Double.unit))) := rfl
  rw [hp, decide_eq_false (Int.lt_irrefl 0), beq_self_eq_true, Bool.false_or, Bool.true_and]
  exact decide_eq_decide.mpr (Int.mul_lt_mul_right hu)

section
variable (table : Table) {query : String}

theorem filter_long (h : Query.exceeds query.length table.limit = true) :
    table.filter (some query) = .error (.rejected (.tooLong table.limit) (some query)) := by
  have hv : Query.validate (some query) table.limit = .error (.tooLong table.limit) := by
    rw [Query.validate, if_pos h]
  unfold filter
  rw [hv]

theorem filter_short (h : Query.exceeds query.length table.limit = false) :
    table.filter (some query) = table.engine.filter query := by
  have hv : Query.validate (some query) table.limit = .ok query := by
    rw [Query.validate, h]
    rfl
  unfold filter
  rw [hv]

theorem apply_blank (h : Text.isBlankText query.toList = true) :
    table.apply (some query) =
      ({ table with query := some query, filtered := table.records }, .ok table.records) := by
  unfold apply
  simp only [h, ↓reduceIte, select]

theorem apply_answered (hb : Text.isBlankText query.toList = false)
    (hk : table.filter (some query) = .ok keys) :
    table.apply (some query) =
      { table with query := some query }.select (table.records.filter fun record =>
        (keys.map Value.shown).contains (table.keyText record)) := by
  have he : { table with query := some query }.filter (some query) = .ok keys := hk
  unfold apply
  simp only [hb, Bool.false_eq_true, ↓reduceIte, he]
  rfl

theorem apply_failed {failure : Failure} (hb : Text.isBlankText query.toList = false)
    (hf : table.filter (some query) = .error failure) :
    table.apply (some query) =
      if isCaught failure && table.fallsBack then
        { table with query := some query }.select table.records
      else ({ table with query := some query }, .error failure) := by
  have he : { table with query := some query }.filter (some query) = .error failure := hf
  unfold apply
  simp only [hb, Bool.false_eq_true, ↓reduceIte, he]
  rfl

/-- A query that is refused leaves every record selected, whether or not its
refusal is made up for. -/
theorem apply_long (hb : Text.isBlankText query.toList = false)
    (h : Query.exceeds query.length table.limit = true) (hf : table.filtered = table.records) :
    (table.apply (some query)).1.filtered = table.records := by
  rw [apply_failed table hb (filter_long table h)]
  split
  · rfl
  · exact hf

theorem apply_short (hb : Text.isBlankText query.toList = false)
    (h : Query.exceeds query.length table.limit = false)
    (hk : table.engine.filter query = .ok keys) :
    table.apply (some query) =
      { table with query := some query }.select (table.records.filter fun record =>
        (keys.map Value.shown).contains (table.keyText record)) :=
  apply_answered table hb ((filter_short table h).trans hk)

end

section
variable {table : Table} {records : List Record} {keyField : Value} {settings : Settings}
  {query : String} {keys : List Value}

theorem keys_of_new (hn : table = new records keyField settings)
    (h : table.engine.filter query = .ok keys) : keys = (table.matched query).map table.key := by
  subst hn
  exact Engine.filter_eq h

theorem filtered_of_new (hn : table = new records keyField settings)
    (h : table.engine.filter query = .ok keys) :
    (table.apply (some query)).1.filtered = table.records.filter (table.selects query) := by
  cases hb : Text.isBlankText query.toList with
  | true =>
    rw [apply_blank table hb, List.filter_eq_self.mpr fun record => selects_of_blank hb]
  | false =>
    cases hl : Query.exceeds query.length table.limit with
    | true =>
      have hs : ∀ record ∈ table.records, table.selects query record = true := fun record _ => by
        rw [selects, isTooLong, hb, hl]
        rfl
      rw [apply_long table hb hl (by rw [hn]; rfl), List.filter_eq_self.mpr hs]
    | false =>
      rw [apply_short table hb hl h]
      refine List.filter_congr fun record _ => ?_
      rw [contains_shown_keys keys record (keys_of_new hn h), selects, isTooLong, hl, Bool.and_false,
        Bool.false_or]

theorem result_of_new (hs : table.isTooLong query = false)
    (h : table.engine.filter query = .ok keys) :
    (table.apply (some query)).2 = .ok (table.apply (some query)).1.filtered := by
  cases hb : Text.isBlankText query.toList with
  | true => rw [apply_blank table hb]
  | false =>
    rw [isTooLong, hb] at hs
    rw [apply_short table hb hs h]
    rfl

/-- A new table selects just the records that match a query, and so has the
keys of the answer, exactly if the query is not refused and no other record
has a key that looks like that of a match. -/
theorem apply_new (hn : table = new records keyField settings)
    (h : table.engine.filter query = .ok keys) :
    ((table.apply (some query)).1.filtered = table.matched query ↔
      ∀ record ∈ table.records, record.isMatch query = false →
        table.isTooLong query = false ∧
          ∀ other ∈ table.matched query, table.keyText other ≠ table.keyText record) ∧
    ((table.apply (some query)).1.filtered.map table.key = keys ↔
      (table.apply (some query)).1.filtered = table.matched query) ∧
    (table.isTooLong query = false →
      (table.apply (some query)).2 = .ok (table.apply (some query)).1.filtered) := by
  refine ⟨?_, ?_, fun hs => result_of_new hs h⟩
  · rw [filtered_of_new hn h, selected_eq_matched_iff]
    refine forall₂_congr fun record _ => ?_
    rw [← selects_eq_false]
    cases table.selects query record <;> cases record.isMatch query <;> simp
  · rw [filtered_of_new hn h, keys_of_new hn h]
    exact keys_selected_iff

end

/-- Two records of one key, of which only the first is found by a search. -/
def twins : List Record := [[("id", .text "a"), ("name", .text "x")],
  [("id", .text "a"), ("name", .text "y")]]

theorem apply_twins :
    (new twins .null .default).engine.filter "x" = .ok [.text "a"] ∧
      ((new twins .null .default).apply (some "x")).1.filtered ≠
        (new twins .null .default).matched "x" := by
  have hk : (new twins .null .default).engine.filter "x" = .ok [.text "a"] := rfl
  refine ⟨hk, fun he => ?_⟩
  have hs := (apply_new rfl hk).1.mp he [("id", .text "a"), ("name", .text "y")] (by simp [new, twins]) rfl
  refine hs.2 [("id", .text "a"), ("name", .text "x")] ?_ rfl
  exact List.mem_filter.mpr ⟨by simp [new, twins], rfl⟩

end Table

end RecordQuery
