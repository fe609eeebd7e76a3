import Mathlib.Data.List.Forall2
import RecordQuery.Proofs.Engine.Agreement
import RecordQuery.Proofs.Record
import RecordQuery.Proofs.Text.Cut
import RecordQuery.Proofs.Text.Lower

/-!
# Terms of a search

A search looks for its terms in the joined values of a record. No term holds
a blank, and the values are joined by one, so a term is found if and only if
some value by itself holds it. Neither the order nor the number of the terms
matters, nor the order of the fields, and every further term can only leave
out records.
-/

namespace RecordQuery

variable {record : Record} {term : List Char} {terms : List (List Char)}

theorem searchTerms_eq (text : List Char) :
    searchTerms text = (Text.words text).map Text.lower := by
  rw [searchTerms, Text.words_lower, Text.words_trim]

-- ---------------------------------------------------------------------------
-- Records
-- ---------------------------------------------------------------------------

namespace Record

def mentions (record : Record) (term : List Char) : Bool :=
  record.any fun field =>
    match field.2.searchText with
    | .ok text => Text.occursIn term (Text.lower text)
    | .error _ => false

theorem mentions_iff : record.mentions term = true ↔
    ∃ field ∈ record, ∃ text, field.2.searchText = .ok text ∧ term <:+: Text.lower text := by
  rw [mentions, List.any_eq_true]
  refine exists_congr fun field => and_congr_right fun _ => ?_
  cases field.2.searchText with
  | ok text => simp [Text.occursIn_iff]
  | error failure => simp

def HasText (record : Record) : Prop := ∀ field ∈ record, ∃ text, field.2.searchText = .ok text

/-- A term without blanks does not reach from one value into the next. -/
theorem occursIn_texts {texts : List (List Char)} (hn : term ≠ [])
    (hb : ∀ c ∈ term, Text.isBlank c = false)
    (h : record.mapM (fun field => field.2.searchText) = .ok texts) :
    Text.occursIn term ([' '].intercalate (texts.map Text.lower)) = record.mentions term := by
  have hs : ' ' ∉ term := fun hs => by cases hb ' ' hs
  rw [Bool.eq_iff_iff, Text.occursIn_iff, Text.infix_intercalate_iff hn hs, mentions_iff]
  constructor
  · rintro ⟨piece, hp, hi⟩
    obtain ⟨text, ht, rfl⟩ := List.mem_map.mp hp
    obtain ⟨field, hf, he⟩ := Attempt.exists_of_mem_mapM h ht
    exact ⟨field, hf, text, he, hi⟩
  · rintro ⟨field, hf, text, he, hi⟩
    obtain ⟨other, ho, hfo⟩ := Attempt.exists_mem_of_mapM h hf
    obtain rfl := Except.ok.inj (he.symm.trans hfo)
    exact ⟨_, List.mem_map_of_mem ho, hi⟩

theorem matchesTerms_of_hasText (h : record.HasText)
    (ht : ∀ term ∈ terms, term ≠ [] ∧ ∀ c ∈ term, Text.isBlank c = false) :
    record.matchesTerms terms = .ok (terms.all record.mentions) := by
  obtain ⟨texts, hm⟩ := Attempt.exists_mapM h
  have hs : record.searchText = .ok ([' '].intercalate (texts.map Text.lower)) := by
    rw [searchText, hm]
    rfl
  have ha : (terms.all fun term => Text.occursIn term ([' '].intercalate (texts.map Text.lower))) =
      terms.all record.mentions := by
    rw [Bool.eq_iff_iff, List.all_eq_true, List.all_eq_true]
    exact forall₂_congr fun term hm' => by rw [occursIn_texts (ht term hm').1 (ht term hm').2 hm]
  rw [matchesTerms, hs, ← ha]
  rfl

theorem hasText_of_matchesTerms {verdict : Bool} (h : record.matchesTerms terms = .ok verdict) :
    record.HasText := by
  simp only [matchesTerms, searchText, Attempt.bind_ok] at h
  obtain ⟨_, ⟨texts, hm, -⟩, -⟩ := h
  intro field hf
  obtain ⟨text, ht⟩ := Attempt.ok_of_mapM hm hf
  exact ⟨text, ht⟩

theorem hasText_perm {other : Record} (h : other.Perm record) : other.HasText ↔ record.HasText :=
  forall_congr' fun _ => by rw [h.mem_iff]

theorem mentions_perm {other : Record} (h : other.Perm record) (term : List Char) :
    other.mentions term = record.mentions term := h.any_eq

theorem key_perm {other : Record} (h : other.Perm record) (hn : record.fields.Nodup)
    (keyField : Option String) : other.key keyField = record.key keyField := by
  cases keyField with
  | none => rfl
  | some field => exact get_perm h hn field

end Record

-- ---------------------------------------------------------------------------
-- Collections
-- ---------------------------------------------------------------------------

theorem mem_searchTerms {text : List Char} (h : term ∈ searchTerms text) :
    term ≠ [] ∧ ∀ c ∈ term, Text.isBlank c = false := by
  rw [searchTerms_eq] at h
  obtain ⟨word, hw, rfl⟩ := List.mem_map.mp h
  obtain ⟨hn, hb⟩ := Text.mem_words hw
  exact ⟨Text.lower_ne_nil hn, Text.isBlank_of_mem_lower hb⟩

namespace Engine

variable {engine : Engine} {query : String} {keys : List Value}

/-- Keys of the records in which all terms are found. -/
def mentioning (engine : Engine) (terms : List (List Char)) : List Value :=
  (engine.records.filter fun record => terms.all record.mentions).map (Record.key engine.keyField)

theorem search_of_terms (h : searchTerms query.toList ≠ []) :
    engine.search query = engine.keysWhere (Record.matchesTerms (searchTerms query.toList)) := by
  rw [search]
  split
  · next he => exact absurd he h
  · rfl

theorem keysWhere_matchesTerms (h : ∀ record ∈ engine.records, record.HasText)
    (ht : ∀ term ∈ terms, term ≠ [] ∧ ∀ c ∈ term, Text.isBlank c = false) :
    engine.keysWhere (Record.matchesTerms terms) = .ok (engine.mentioning terms) := by
  have hv : ∀ record ∈ engine.records,
      record.matchesTerms terms = .ok (terms.all record.mentions) := fun record hr =>
    Record.matchesTerms_of_hasText (h record hr) ht
  have hf : (engine.records.filter fun record =>
        (record.matchesTerms terms).toOption == some true) =
      engine.records.filter fun record => terms.all record.mentions := by
    refine List.filter_congr fun record hr => ?_
    rw [hv record hr]
    cases terms.all record.mentions <;> rfl
  rw [keysWhere, matching_of_verdicts fun record hr => ⟨_, hv record hr⟩, hf]
  rfl

theorem search_ok_iff : engine.search query = .ok keys ↔
    (searchTerms query.toList = [] ∨ ∀ record ∈ engine.records, record.HasText) ∧
      keys = engine.mentioning (searchTerms query.toList) := by
  by_cases ht : searchTerms query.toList = []
  · -- Every record passes, and no text is looked at.
    have hf : (engine.records.filter fun record => [].all record.mentions) = engine.records :=
      List.filter_eq_self.mpr fun _ _ => rfl
    have hk : engine.mentioning [] = engine.keys := congrArg _ hf
    rw [search, ht, hk]
    exact ⟨fun h => ⟨.inl rfl, (Except.ok.inj h).symm⟩, fun h => congrArg _ h.2.symm⟩
  · rw [search_of_terms ht]
    constructor
    · intro h
      obtain ⟨kept, hm, -⟩ := Attempt.bind_ok.mp h
      have hs : ∀ record ∈ engine.records, record.HasText := fun record hr =>
        ((matching_ok_iff.mp hm).1 record hr).elim fun _ hv => Record.hasText_of_matchesTerms hv
      rw [keysWhere_matchesTerms hs fun _ => mem_searchTerms] at h
      exact ⟨.inr hs, (Except.ok.inj h).symm⟩
    · rintro ⟨hs, rfl⟩
      exact keysWhere_matchesTerms (hs.resolve_left ht) fun _ => mem_searchTerms

-- ---------------------------------------------------------------------------
-- What does not matter
-- ---------------------------------------------------------------------------

theorem all_mentions_congr {others : List (List Char)} (h : ∀ term, term ∈ others ↔ term ∈ terms)
    (record : Record) : others.all record.mentions = terms.all record.mentions := by
  rw [Bool.eq_iff_iff, List.all_eq_true, List.all_eq_true]
  exact forall_congr' fun term => by rw [h term]

theorem search_of_same_terms {other : String}
    (ht : ∀ term, term ∈ searchTerms other.toList ↔ term ∈ searchTerms query.toList)
    (h : engine.search query = .ok keys) : engine.search other = .ok keys := by
  obtain ⟨hs, rfl⟩ := search_ok_iff.mp h
  refine search_ok_iff.mpr ⟨hs.imp_left fun hn => ?_, ?_⟩
  · refine List.eq_nil_iff_forall_not_mem.mpr fun term hm => ?_
    rw [ht, hn] at hm
    cases hm
  · rw [mentioning, mentioning]
    simp only [all_mentions_congr ht]

def Reordered (records others : List Record) : Prop :=
  List.Forall₂ (fun record other => other.Perm record ∧ record.fields.Nodup) records others

theorem Reordered.hasText {records others : List Record} (h : Reordered records others)
    (ht : ∀ record ∈ records, record.HasText) : ∀ other ∈ others, other.HasText := by
  induction h with
  | nil => exact fun _ hm => by cases hm
  | cons hp _ ih =>
    obtain ⟨hf, hr⟩ := List.forall_mem_cons.mp ht
    exact List.forall_mem_cons.mpr ⟨(Record.hasText_perm hp.1).mpr hf, ih hr⟩

theorem Reordered.mentioning {other : Engine} (h : Reordered engine.records other.records)
    (hk : other.keyField = engine.keyField) (terms : List (List Char)) :
    other.mentioning terms = engine.mentioning terms := by
  rw [Engine.mentioning, Engine.mentioning, hk]
  -- A record and its other form pass or fail together, and have one key.
  generalize engine.records = records at h
  generalize other.records = others at h
  induction h with
  | nil => rfl
  | cons hp _ ih =>
    have hm : terms.all (Record.mentions _) = terms.all (Record.mentions _) :=
      congrArg terms.all (funext (Record.mentions_perm hp.1))
    rw [List.filter_cons, List.filter_cons, hm]
    split
    · rw [List.map_cons, List.map_cons, ih, Record.key_perm hp.1 hp.2]
    · exact ih

theorem search_of_reordered {other : Engine} (hr : Reordered engine.records other.records)
    (hk : other.keyField = engine.keyField) (h : engine.search query = .ok keys) :
    other.search query = .ok keys := by
  obtain ⟨hs, rfl⟩ := search_ok_iff.mp h
  exact search_ok_iff.mpr ⟨hs.imp_right hr.hasText, (hr.mentioning hk _).symm⟩

/-- Further terms leave records out and bring none in. -/
theorem mentioning_sublist {more : List (List Char)} (h : ∀ term ∈ terms, term ∈ more)
    (engine : Engine) : (engine.mentioning more).Sublist (engine.mentioning terms) := by
  refine List.Sublist.map _ (List.monotone_filter_right _ fun record hm => ?_)
  exact List.all_eq_true.mpr fun term ht => List.all_eq_true.mp hm term (h term ht)

/-- A search lists, in order, the keys of the records in which every term
stands in the lower-cased text of some value by itself. It gives the same list
for the same terms in another order or number, and for records whose fields
stand in another order; with more terms it gives no more. -/
theorem search_by_value (h : engine.search query = .ok keys) :
    keys = (engine.records.filter fun record =>
        (searchTerms query.toList).all record.mentions).map (Record.key engine.keyField) ∧
    (∀ other : String,
      (∀ term, term ∈ searchTerms other.toList ↔ term ∈ searchTerms query.toList) →
        engine.search other = .ok keys) ∧
    (∀ other : Engine, Reordered engine.records other.records →
      other.keyField = engine.keyField → other.search query = .ok keys) ∧
    ∀ (more : String) (fewer : List Value),
      (∀ term ∈ searchTerms query.toList, term ∈ searchTerms more.toList) →
        engine.search more = .ok fewer → fewer.Sublist keys := by
  have hk := (search_ok_iff.mp h).2
  refine ⟨hk, fun other ht => search_of_same_terms ht h, fun other hr hf =>
    search_of_reordered hr hf h, fun more fewer ht hm => ?_⟩
  rw [hk, (search_ok_iff.mp hm).2]
  exact mentioning_sublist ht engine

/-- Values of the second record that hold `lee` only across their border. -/
def people : List Record := [
  [("id", .text "a"), ("first", .text "Ann"), ("last", .text "Leeds")],
  [("id", .text "b"), ("first", .text "Le"), ("last", .text "Eann")]]

theorem search_people :
    (new people (some "id")).search "le ANN" = .ok [.text "a", .text "b"] ∧
    (new people (some "id")).search "ann le ann" = .ok [.text "a", .text "b"] ∧
    (new (people.map List.reverse) (some "id")).search "le ANN" = .ok [.text "a", .text "b"] ∧
    (new people (some "id")).search "le ann lee" = .ok [.text "a"] ∧
    [Value.text "a"].Sublist [.text "a", .text "b"] := by
  have hk : (new people (some "id")).search "le ANN" = .ok [.text "a", .text "b"] := rfl
  have hm : (new people (some "id")).search "le ann lee" = .ok [.text "a"] := rfl
  obtain ⟨-, hs, hr, hf⟩ := search_by_value hk
  have ht : searchTerms "le ANN".toList = ["le".toList, "ann".toList] := by decide +kernel
  have ho : searchTerms "ann le ann".toList = ["ann".toList, "le".toList, "ann".toList] := by
    decide +kernel
  have hl : searchTerms "le ann lee".toList = ["le".toList, "ann".toList, "lee".toList] := by
    decide +kernel
  refine ⟨hk, hs "ann le ann" fun term => ?_, hr (new (people.map List.reverse) (some "id")) ?_ rfl,
    hm, hf "le ann lee" _ (fun term hi => ?_) hm⟩
  · rw [ho, ht]
    simp only [List.mem_cons, List.not_mem_nil, or_false]
    tauto
  · exact .cons ⟨List.reverse_perm _, by decide⟩ (.cons ⟨List.reverse_perm _, by decide⟩ .nil)
  · rw [ht] at hi
    rw [hl]
    exact List.mem_append_left ["lee".toList] hi

end Engine

end RecordQuery
