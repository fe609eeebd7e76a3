import RecordQuery.Proofs.Table.Fallback

/-!
# Refusing

A table without the fallback makes up for nothing: it fails on the queries
for which every record would be selected otherwise, except for blank ones. To
any other query it gives the answer that it gives with the fallback on, unless
the stack ends.
-/

namespace RecordQuery.Table

/-- A query that is not answered: it is not blank, and it is too long or
fails on a record. -/
def Refuses (table : Table) (limit : Int) (query : String) : Prop :=
  Text.isBlankText query.toList = false ∧
    (limit < query.length ∨ Engine.FailsOn table.records query)

theorem isReported_of_isCaught {failure : Failure} (h : isCaught failure = true) :
    failure.isReported = true := by
  cases failure with
  | query cause given => rfl
  | rejected problem given => rfl
  | _ => cases h

section
variable {table : Table} {limit : Int} {query : String}

theorem filter_total (hr : table.engine.records = table.records) (hl : table.limit = .int limit)
    (hm : limit ≤ 4300) (hc : ∀ record ∈ table.records, record.isConvertible = true)
    (hb : Text.isBlankText query.toList = false) :
    (table.Refuses limit query ∧
        ∃ failure, table.filter (some query) = .error failure ∧ isCaught failure = true) ∨
      ¬ table.Refuses limit query ∧ ∃ keys, table.filter (some query) = .ok keys := by
  by_cases hlong : limit < query.length
  · have he : Query.exceeds query.length table.limit = true := by
      rw [hl, exceeds_int, decide_eq_true hlong]
    exact .inl ⟨⟨hb, .inl hlong⟩, _, filter_long table he, rfl⟩
  · have he : Query.exceeds query.length table.limit = false := by
      rw [hl, exceeds_int, decide_eq_false hlong]
    have hq : query.length ≤ Numeral.maxDigits := by
      have : Numeral.maxDigits = 4300 := rfl
      omega
    rw [filter_short table he]
    rcases Engine.filter_convertible hq (hr ▸ hc) with ⟨hn, keys, hk⟩ | ⟨hf, cause, hk⟩
    · exact .inr ⟨fun hrefuses => hrefuses.2.elim hlong (hr ▸ hn), keys, hk⟩
    · exact .inl ⟨⟨hb, .inr (hr ▸ hf)⟩, _, hk, rfl⟩

theorem filter_configure {settings : Settings}
    (h : ({ table with settings := settings } : Table).limit = table.limit)
    (query : Option String) :
    ({ table with settings := settings } : Table).filter query = table.filter query := by
  unfold filter
  rw [h]

theorem apply_configure {settings : Settings}
    (h : ({ table with settings := settings } : Table).limit = table.limit)
    (ha : Text.isBlankText query.toList = true ∨ ∃ keys, table.filter (some query) = .ok keys) :
    ∃ selected, selected.Sublist table.records ∧ (table.apply (some query)).2 = .ok selected ∧
      (({ table with settings := settings } : Table).apply (some query)).2 = .ok selected := by
  cases hb : Text.isBlankText query.toList with
  | true =>
    refine ⟨table.records, List.Sublist.refl _, ?_, ?_⟩
    · rw [apply_blank table hb]
    · rw [apply_blank _ hb]
  | false =>
    obtain ⟨keys, hk⟩ := ha.resolve_left (by rw [hb]; decide)
    have hs : (table.apply (some query)).2 = .ok (table.records.filter fun record =>
        (keys.map Value.shown).contains (table.keyText record)) := by
      rw [apply_answered table hb hk]
      rfl
    refine ⟨_, List.filter_sublist, hs, ?_⟩
    rw [apply_answered _ hb ((filter_configure h _).trans hk)]
    rfl

/-- Without the fallback a query fails just if it is refused, and what is
selected otherwise does not depend on the fallback. -/
theorem apply_strict (settings : Settings) (hr : table.engine.records = table.records)
    (hf : table.fallsBack = false) (hl : table.limit = .int limit) (hm : limit ≤ 4300)
    (hs : ({ table with settings := settings } : Table).limit = table.limit)
    (hc : ∀ record ∈ table.records, record.isConvertible = true) (query : String) :
    (table.Refuses limit query → ∃ failure, (table.apply (some query)).2 = .error failure ∧
      failure.isReported = true) ∧
    (¬ table.Refuses limit query → ∃ selected, selected.Sublist table.records ∧
      (table.apply (some query)).2 = .ok selected ∧
      (({ table with settings := settings } : Table).apply (some query)).2 = .ok selected) := by
  cases hb : Text.isBlankText query.toList with
  | true =>
    refine ⟨fun h => ?_, fun _ => apply_configure hs (.inl hb)⟩
    rw [h.1] at hb
    cases hb
  | false =>
    rcases filter_total hr hl hm hc hb with ⟨hrefuses, failure, he, ht⟩ | ⟨hn, keys, hk⟩
    · refine ⟨fun _ => ⟨failure, ?_, isReported_of_isCaught ht⟩, fun hn => absurd hrefuses hn⟩
      rw [apply_failed table hb he, hf, Bool.and_false]
      rfl
    · exact ⟨fun h => absurd h hn, fun _ => apply_configure hs (.inr ⟨keys, hk⟩)⟩

end

end RecordQuery.Table

namespace RecordQuery.Limits

variable {limits : Limits} {table : Table} {limit : Int}

theorem Answers.configure (hs : limits.Answers table) {settings : Settings}
    (h : ({ table with settings := settings } : Table).limit = table.limit) :
    limits.Answers { table with settings := settings } where
  scalar := hs.scalar
  number := h ▸ hs.number
  limit := h ▸ hs.limit
  records := hs.records

/-- On a host a query also fails if it is nested too deep, and this is not
reported. -/
theorem apply_refusing (settings : Settings) (hs : limits.Answers table) (hk : Host.Shared table)
    (hf : table.fallsBack = false) (hl : table.limit = .int limit) (hm : limit ≤ 4300)
    (h : ({ table with settings := settings } : Table).limit = table.limit)
    (hc : ∀ record ∈ table.records, record.isConvertible = true) (query : String) :
    (limits.Overwhelms limit query →
      (limits.host.apply table (some query)).2 = .error (.stackEnded .compiling)) ∧
    (¬ limits.Overwhelms limit query →
      (table.Refuses limit query → ∃ failure,
        (limits.host.apply table (some query)).2 = .error failure ∧ failure.isReported = true) ∧
      (¬ table.Refuses limit query → ∃ selected, selected.Sublist table.records ∧
        (limits.host.apply table (some query)).2 = .ok selected ∧
        (limits.host.apply { table with settings := settings } (some query)).2 = .ok selected)) := by
  refine ⟨fun ho => by rw [apply_of_overwhelms hl hm ho], fun ho => ?_⟩
  have hx : Host.Shared { table with settings := settings } := ⟨hk.records, hk.keyField⟩
  rw [hs.apply_of_not_overwhelms hk hl ho,
    (hs.configure h).apply_of_not_overwhelms hx (h.trans hl) ho]
  exact Table.apply_strict settings hk.records hf hl hm h hc query

end RecordQuery.Limits
