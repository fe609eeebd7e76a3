import RecordQuery.Proofs.Query.Grammar.Reading
import RecordQuery.Proofs.Table.Failures
import RecordQuery.Proofs.Table.Serving

/-!
# Falling back

With the fallback on, and a limit on queries that keeps overlong integers
out, applying a query to convertible records fails in one way only: the groups
of the query are nested deeper than the stack has room for. Anything else that
goes wrong on a record is a failure of the query, and that is made up for by
selecting every record. Settings may change between the steps of a session.
-/

namespace RecordQuery

open Grammar (Written)

-- ---------------------------------------------------------------------------
-- Answers
-- ---------------------------------------------------------------------------

namespace Engine

variable {engine : Engine} {query : String}

/-- The query is an expression that has no verdict on some record. -/
def FailsOn (records : List Record) (query : String) : Prop :=
  Mode.ofQuery query = .structured ∧
    ∃ record ∈ records, ∃ failure, record.satisfies query = .error failure

theorem search_convertible (h : ∀ record ∈ engine.records, record.isConvertible = true)
    (query : String) : ∃ keys, engine.search query = .ok keys := by
  have ht := matching_of_verdicts fun record hm =>
    Record.exists_matchesTerms (h record hm) (searchTerms query.toList)
  rw [search]
  split
  · exact ⟨_, rfl⟩
  · rw [keysWhere, ht]
    exact ⟨_, rfl⟩

theorem filter_convertible (hq : query.length ≤ Numeral.maxDigits)
    (h : ∀ record ∈ engine.records, record.isConvertible = true) :
    (¬ FailsOn engine.records query ∧ ∃ keys, engine.filter query = .ok keys) ∨
      FailsOn engine.records query ∧
        ∃ cause, engine.filter query = .error (.query cause (some query)) := by
  cases hm : Mode.ofQuery query with
  | empty =>
    refine .inl ⟨fun hf => ?_, engine.keys, ?_⟩
    · rw [hf.1] at hm
      cases hm
    · rw [Engine.filter, hm]
  | search =>
    refine .inl ⟨fun hf => ?_, ?_⟩
    · rw [hf.1] at hm
      cases hm
    · obtain ⟨keys, hk⟩ := search_convertible h query
      exact ⟨keys, by rw [Engine.filter, hm]; exact hk⟩
  | structured =>
    obtain ⟨filter, hc⟩ := Filter.exists_parse hq
    by_cases hv : ∀ record ∈ engine.records, ∃ verdict, record.satisfies query = .ok verdict
    · refine .inl ⟨?_, _, filter_of_verdicts hm hc hv⟩
      rintro ⟨-, record, hr, failure, hf⟩
      obtain ⟨verdict, hs⟩ := hv record hr
      rw [hf] at hs
      cases hs
    · obtain ⟨before, record, after, failure, hr, hb, hf⟩ := Attempt.exists_first_error hv
      refine .inr ⟨⟨hm, record, ?_, failure, hf⟩, failure.cause, ?_⟩
      · rw [hr]
        exact List.mem_append_right _ List.mem_cons_self
      · exact filter_first_error hm hc hr hb hf

end Engine

-- ---------------------------------------------------------------------------
-- Queries
-- ---------------------------------------------------------------------------

namespace Table

/-- A query for which every record is selected: it is blank or too long, or
it fails on a record. -/
def SelectsAll (table : Table) (limit : Int) (query : String) : Prop :=
  Text.isBlankText query.toList = true ∨ limit < query.length ∨
    Engine.FailsOn table.records query

section
variable {table : Table} {limit : Int} {query : String}

theorem apply_caught {failure : Failure} (hf : table.fallsBack = true)
    (hb : Text.isBlankText query.toList = false)
    (he : table.filter (some query) = .error failure) (hc : isCaught failure = true) :
    table.apply (some query) =
      ({ table with query := some query, filtered := table.records }, .ok table.records) := by
  rw [apply_failed table hb he, hf, hc]
  rfl

/-- Without limits applying a query always selects records: all of them if the
query is blank, too long or fails on a record, and otherwise those whose key
looks like a key of the engine's answer. -/
theorem apply_fallsBack (hr : table.engine.records = table.records) (hf : table.fallsBack = true)
    (hl : table.limit = .int limit) (hm : limit ≤ 4300)
    (hc : ∀ record ∈ table.records, record.isConvertible = true) (query : String) :
    ∃ selected, table.apply (some query) =
        ({ table with query := some query, filtered := selected }, .ok selected) ∧
      (table.SelectsAll limit query → selected = table.records) ∧
      (¬ table.SelectsAll limit query → ∃ keys, table.engine.filter query = .ok keys ∧
        selected = table.records.filter fun record =>
          (keys.map Value.shown).contains (table.keyText record)) := by
  cases hb : Text.isBlankText query.toList with
  | true =>
    exact ⟨_, apply_blank table hb, fun _ => rfl, fun hn => absurd (.inl hb) hn⟩
  | false =>
    by_cases hlong : limit < query.length
    · have he : Query.exceeds query.length table.limit = true := by
        rw [hl, exceeds_int, decide_eq_true hlong]
      exact ⟨_, apply_caught hf hb (filter_long table he) rfl, fun _ => rfl,
        fun hn => absurd (.inr (.inl hlong)) hn⟩
    · have he : Query.exceeds query.length table.limit = false := by
        rw [hl, exceeds_int, decide_eq_false hlong]
      have hq : query.length ≤ Numeral.maxDigits := by
        have : Numeral.maxDigits = 4300 := rfl
        omega
      have hc : ∀ record ∈ table.engine.records, record.isConvertible = true := hr ▸ hc
      rcases Engine.filter_convertible hq hc with ⟨hn, keys, hk⟩ | ⟨hfail, cause, hk⟩
      · refine ⟨_, apply_short table hb he hk, fun hs => ?_, fun _ => ⟨keys, hk, rfl⟩⟩
        rcases hs with hs | hs | hs
        · rw [hb] at hs
          cases hs
        · exact absurd hs hlong
        · exact absurd hs (hr ▸ hn)
      · rw [hr] at hfail
        exact ⟨_, apply_caught hf hb ((filter_short table he).trans hk) rfl, fun _ => rfl,
          fun hn => absurd (.inr (.inr hfail)) hn⟩

end

end Table

-- ---------------------------------------------------------------------------
-- Tables in use
-- ---------------------------------------------------------------------------

namespace Host

open Table (Step)

variable {host : Host} {table : Table}

/-- Tables that can come about: by steps, and by changes of the settings. -/
inductive Reachable (host : Host) : Table → Prop
  | new (records : List Record) (keyField : Value) (settings : Settings) :
      Reachable host (.new records keyField settings)
  | perform {table : Table} (step : Step) :
      Reachable host table → Reachable host (host.perform table step).1
  | configure {table : Table} (settings : Settings) :
      Reachable host table → Reachable host { table with settings := settings }

theorem Reachable.shared (h : Reachable host table) : Shared table := by
  induction h with
  | new records keyField settings => exact ⟨rfl, rfl⟩
  | perform step _ ih => exact ih.perform step
  | configure settings _ ih => exact ⟨ih.records, ih.keyField⟩

end Host

-- ---------------------------------------------------------------------------
-- Room
-- ---------------------------------------------------------------------------

namespace Limits

variable {limits : Limits} {table : Table} {limit : Int} {query : String}

/-- No value of the records is nested too deep to be searched in or printed. -/
def Shallow (limits : Limits) (records : List Record) : Prop :=
  ∀ record ∈ records, ∀ field ∈ record,
    field.2.depth ≤ limits.searched ∧ field.2.depth ≤ limits.printed

/-- A query that is compiled, and whose groups are nested too deep for it. -/
structure Overwhelms (limits : Limits) (limit : Int) (query : String) : Prop where
  short : query.length ≤ limit
  structured : Mode.ofQuery query = .structured
  deep : limits.groups < nesting query.toList

theorem carries_of_isConvertible {records : List Record} (hd : limits.Shallow records)
    (hc : ∀ record ∈ records, record.isConvertible = true) :
    ∀ record ∈ records, limits.Carries record := fun record hr field hm =>
  have hs : field.2.isShort = true :=
    field.2.isShort_of_isConvertible (Value.isConvertible_of_mem (hc record hr) hm)
  ⟨(hd record hr field hm).1, (hd record hr field hm).2, hs⟩

theorem answers_of_shallow (hl : table.limit = .int limit)
    (hp : Value.isOverlong limit = false) (hk : table.keyName.isScalar = true)
    (hd : limits.Shallow table.records)
    (hc : ∀ record ∈ table.records, record.isConvertible = true) : limits.Answers table where
  scalar := hk
  number := .inr (.inl (by rw [hl]; rfl))
  limit := hl ▸ prints_int_iff.mpr hp
  records := carries_of_isConvertible hd hc

theorem Answers.apply_of_not_overwhelms (hs : limits.Answers table) (hk : Host.Shared table)
    (hl : table.limit = .int limit) (h : ¬ limits.Overwhelms limit query) :
    limits.host.apply table (some query) = table.apply (some query) := by
  by_cases hlong : limit < query.length
  · cases hb : Text.isBlankText query.toList with
    | true =>
      rw [Host.apply_blank _ table hb, Table.apply_blank table hb]
      rfl
    | false =>
      have ho : Query.overruns query.length table.limit = .ok true := by
        rw [hl, Query.overruns_int, decide_eq_true hlong]
      have he : Query.exceeds query.length table.limit = true := by
        rw [hl, Table.exceeds_int, decide_eq_true hlong]
      have ha := Host.filter_long limits.host ho ⟨_, print_iff.mpr ⟨hs.limit, rfl⟩⟩
      rw [Host.apply_failed _ hb (Host.found_error _ ha),
        Table.apply_failed table hb (Table.filter_long table he)]
      rfl
  · have hq : limits.Reads (some query) := fun text ht hm => by
      cases ht
      exact Nat.le_of_not_lt fun hg => h ⟨Int.not_lt.mp hlong, hm, hg⟩
    exact (apply_near (fun _ => hs) hk fun _ => hq).eq

theorem apply_of_overwhelms (hl : table.limit = .int limit) (hm : limit ≤ 4300)
    (h : limits.Overwhelms limit query) :
    limits.host.apply table (some query) =
      (table.asking (some query), .error (.stackEnded .compiling)) := by
  have hn : Query.overruns query.length table.limit = .ok false := by
    rw [hl, Query.overruns_int, decide_eq_false (Int.not_lt.mpr h.short)]
  have hq : query.length ≤ Numeral.maxDigits := by
    have := h.short
    have : Numeral.maxDigits = 4300 := rfl
    omega
  have ha : limits.host.filter table (some query) = .error (.stackEnded .compiling) :=
    (Host.filter_short _ hn).trans (answer_of_lt h.structured hq h.deep)
  rw [Host.apply_failed _ (Engine.not_blank_of_structured h.structured) (Host.found_error _ ha)]
  rfl

/-- A table that falls back has one way to fail when a query is applied, which
is that the stack ends while the query is compiled; it is current then.
Otherwise records are selected: all of them if the query is blank, too long or
fails on a record, and those whose key looks like a key of the answer if not. -/
theorem apply_total (hr : limits.host.Reachable table) (hf : table.fallsBack = true)
    (hl : table.limit = .int limit) (hm : limit ≤ 4300) (hp : Value.isOverlong limit = false)
    (hk : table.keyName.isScalar = true) (hd : limits.Shallow table.records)
    (hc : ∀ record ∈ table.records, record.isConvertible = true) (query : String) :
    (limits.Overwhelms limit query → limits.host.apply table (some query) =
      (table.asking (some query), .error (.stackEnded .compiling))) ∧
    (¬ limits.Overwhelms limit query → ∃ selected, limits.host.apply table (some query) =
        ({ table with query := some query, filtered := selected }, .ok selected) ∧
      (table.SelectsAll limit query → selected = table.records) ∧
      (¬ table.SelectsAll limit query → ∃ keys,
        limits.answer table.engine.records table.keyName query = .ok keys ∧
        selected = table.records.filter fun record =>
          (keys.map Value.shown).contains (table.keyText record))) := by
  have hs := answers_of_shallow hl hp hk hd hc
  have hx := hr.shared
  refine ⟨apply_of_overwhelms hl hm, fun ho => ?_⟩
  obtain ⟨selected, ha, hall, hsome⟩ := Table.apply_fallsBack hx.records hf hl hm hc query
  refine ⟨selected, (hs.apply_of_not_overwhelms hx hl ho).trans ha, hall, fun hn => ?_⟩
  obtain ⟨keys, hkeys, he⟩ := hsome hn
  have hq (hm : Mode.ofQuery query = .structured) : nesting query.toList ≤ limits.groups :=
    Nat.le_of_not_lt fun hg => ho ⟨Int.not_lt.mp fun hlong => hn (.inr (.inl hlong)), hm, hg⟩
  have hn : Near False (limits.answer table.engine.records table.keyName query)
      (table.engine.filter query) :=
    answer_near hx.keyField (fun _ => hs.scalar) (fun _ => hq) fun record hr _ =>
      hs.records record (hx.records ▸ hr)
  exact ⟨keys, hn.eq.trans hkeys, he⟩

end Limits

-- ---------------------------------------------------------------------------
-- Groups without end
-- ---------------------------------------------------------------------------

def grouped : Nat → List Char
  | 0 => "true".toList
  | depth + 1 => '(' :: (grouped depth ++ [')'])

theorem written_grouped (depth : Nat) : Written (grouped depth) := by
  induction depth with
  | zero =>
    have hp := (Grammar.Literal.truth true).piece
    exact ⟨hp.ne_nil, hp.neat, hp.flat.toBalanced⟩
  | succ depth ih => exact ih.group

theorem height_grouped (depth : Nat) : (Expr.ofText (grouped depth)).height = depth := by
  induction depth with
  | zero =>
    have hk : Keywordless (grouped 0) := (Grammar.Literal.truth true).piece.keywordless
    rw [Expr.ofText_of_keywordless hk, Expr.ofPart_leaf (written_grouped 0).neat (by decide)]
    rfl
  | succ depth ih =>
    have hw := written_grouped depth
    have hk : Keywordless (grouped (depth + 1)) := .group hw.balanced
    rw [Expr.ofText_of_keywordless hk, grouped, hw.ofPart_group, Expr.height, ih]

theorem length_grouped (depth : Nat) : (grouped depth).length = 2 * depth + 4 := by
  induction depth with
  | zero => rfl
  | succ depth ih => simp [grouped, ih]; omega

theorem nesting_grouped (depth : Nat) : nesting (grouped depth) = depth := by
  rw [nesting, (written_grouped depth).neat.normalize, height_grouped]

theorem structured_grouped (depth : Nat) :
    Mode.ofQuery (String.ofList (grouped (depth + 1))) = .structured := by
  have hb : Text.isBlankText (grouped (depth + 1)) = false := rfl
  have hs : Mode.isStructured (grouped (depth + 1)) = true := rfl
  rw [Mode.ofQuery, String.toList_ofList, hb, hs]
  rfl

namespace Limits

/-- There is always a query that is nested too deep, and as long as the limit
on queries allows for it, it is not too long. -/
theorem overwhelms_grouped (limits : Limits) {limit : Int} (h : 2 * limits.groups + 6 ≤ limit) :
    limits.Overwhelms limit (String.ofList (grouped (limits.groups + 1))) where
  short := by
    rw [String.length_ofList, length_grouped]
    omega
  structured := structured_grouped limits.groups
  deep := by
    rw [String.toList_ofList, nesting_grouped]
    exact Nat.lt_succ_self _

def numbered : List Record := [[("id", .int 1), ("a", .text "u")],
  [("id", .int 2), ("a", .list [.int 7])]]

/-- On the second record the first query reaches the part that is no
condition. The second query is too deep for the stack, though not too long. -/
theorem apply_numbered :
    standard.host.apply (.new numbered .null .default) (some "a = u OR x") =
      ({ Table.new numbered .null .default with query := some "a = u OR x", filtered := numbered },
        .ok numbered) ∧
    standard.host.apply (.new numbered .null .default) (some (String.ofList (grouped 326))) =
      ((Table.new numbered .null .default).asking (some (String.ofList (grouped 326))),
        .error (.stackEnded .compiling)) := by
  have hc : ∀ record ∈ (Table.new numbered .null .default).records, record.isConvertible = true :=
    List.all_eq_true.mp (by decide +kernel)
  have hd : ∀ record ∈ numbered, ∀ field ∈ record, field.2.depth ≤ 485 ∧ field.2.depth ≤ 970 := by
    decide +kernel
  have hr : standard.host.Reachable (.new numbered .null .default) := .new ..
  have ht (query : String) := apply_total hr rfl rfl (show (1000 : Int) ≤ 4300 by decide) rfl rfl
    hd hc query
  refine ⟨?_, (ht _).1 (standard.overwhelms_grouped (by decide))⟩
  have hm : Mode.ofQuery "a = u OR x" = .structured := rfl
  have hn : nesting "a = u OR x".toList = 0 := by decide +kernel
  have ho : ¬ standard.Overwhelms 1000 "a = u OR x" := fun ho => by
    have hg := ho.deep
    rw [hn] at hg
    cases hg
  obtain ⟨selected, ha, hs, -⟩ := (ht "a = u OR x").2 ho
  have hf : Record.satisfies [("id", .int 2), ("a", .list [.int 7])] "a = u OR x" =
      .error (.invalidCondition "x") := Record.satisfies_of_parse hm Engine.parse_halfStated _
  obtain rfl : selected = numbered :=
    hs (.inr (.inr ⟨hm, _, List.mem_cons_of_mem _ List.mem_cons_self, _, hf⟩))
  exact ha

end Limits

end RecordQuery
