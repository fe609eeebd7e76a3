import RecordQuery.Proofs.Limits
import RecordQuery.Proofs.Occurrence

/-!
# Distinct values

A field is described by the first value of every form: of every kind, and for
each kind of every quoted text. The mark of missing values is put behind them
whatever they are, so it stands there twice if a record holds a text that
reads like it, and nothing else is ever listed twice.
-/

namespace RecordQuery

open Occurrence (firsts firsts_sublist mem_keys_firsts nodup_keys_firsts eraseDupsBy_eq_firsts)

-- ---------------------------------------------------------------------------
-- Texts without backslashes
-- ---------------------------------------------------------------------------

namespace Text

variable {quote : Char} {text plain : List Char}

theorem escapeIn_cases (quote c : Char) :
    escapeIn quote c = [c] ∨ ∃ rest, escapeIn quote c = '\\' :: rest := by
  unfold escapeIn
  repeat' split
  all_goals first | exact .inl rfl | exact .inr ⟨_, rfl⟩

theorem eq_of_flatMap_escapeIn (h : text.flatMap (escapeIn quote) = plain) (hp : '\\' ∉ plain) :
    text = plain := by
  induction text generalizing plain with
  | nil => exact h
  | cons c rest ih =>
    subst h
    rw [List.flatMap_cons] at hp ⊢
    rcases escapeIn_cases quote c with he | ⟨tail, he⟩
    · rw [he, List.mem_append, not_or] at hp
      rw [he, List.singleton_append, ← ih rfl hp.2]
    · rw [he] at hp
      exact absurd (List.mem_append_left _ List.mem_cons_self) hp

theorem eq_of_quoted (h : quoted text = quote :: (plain ++ [quote])) (hp : '\\' ∉ plain) :
    text = plain := by
  simp only [quoted, List.cons_append, List.cons.injEq] at h
  obtain ⟨rfl, h⟩ := h
  exact eq_of_flatMap_escapeIn (List.append_cancel_right h) hp

end Text

namespace Value

/-- What the values of a field are told apart by. -/
def form (value : Value) : Kind × List Char := (value.kind, value.quoted)

theorem sameForm_iff (first second : Value) :
    first.sameForm second = true ↔ first.form = second.form := by
  rw [sameForm, form, form, Bool.and_eq_true, beq_iff_eq, beq_iff_eq, Prod.mk.injEq]

theorem quoted_nullMark :
    (text FieldInfo.nullMark).quoted = '\'' :: (FieldInfo.nullMark.toList ++ ['\'']) := by
  decide +kernel

theorem eq_nullMark_of_form {value : Value} (h : value.form = (text FieldInfo.nullMark).form) :
    value = text FieldInfo.nullMark := by
  obtain ⟨hk, hq⟩ := Prod.mk.inj h
  cases value with
  | text s =>
    rw [quoted_nullMark] at hq
    exact congrArg text (String.toList_injective (Text.eq_of_quoted hq (by decide)))
  | _ => cases hk

end Value

namespace FieldInfo

variable {records : List Record} {field : String} {value : Value}

/-- Values of a field in all records, a list counting by its items. -/
def occurrences (records : List Record) (field : String) : List Value :=
  records.flatMap fun record => (record.get field).flattened

def present (records : List Record) (field : String) : List Value :=
  firsts Value.form ((occurrences records field).filter fun value => !value.isNullish)

def markFor (records : List Record) (field : String) : List Value :=
  if (occurrences records field).any Value.isNullish then [.text nullMark] else []

theorem collect_eq (records : List Record) (field : String) :
    collect records field = present records field ++ markFor records field := by
  rw [collect, present, markFor, eraseDupsBy_eq_firsts Value.sameForm_iff, occurrences]
  split
  · rfl
  · rw [List.append_nil]

theorem present_sublist (records : List Record) (field : String) :
    (present records field).Sublist
      ((occurrences records field).filter fun value => !value.isNullish) :=
  firsts_sublist ..

theorem form_mem_present :
    value.form ∈ (present records field).map Value.form ↔
      ∃ other ∈ occurrences records field, other.isNullish = false ∧ other.form = value.form := by
  rw [present, mem_keys_firsts, List.mem_map]
  simp only [List.mem_filter, Bool.not_eq_true', and_assoc]

/-- A text that reads like the mark is the only value of the form of the mark. -/
theorem nullMark_mem_present :
    (Value.text nullMark).form ∈ (present records field).map Value.form ↔
      .text nullMark ∈ occurrences records field := by
  rw [form_mem_present]
  constructor
  · rintro ⟨other, hm, -, hf⟩
    rwa [Value.eq_nullMark_of_form hf] at hm
  · intro hm
    exact ⟨_, hm, by decide, rfl⟩

theorem nodup_collect_iff :
    ((collect records field).map Value.form).Nodup ↔
      ¬ ((∃ value ∈ occurrences records field, value.isNullish = true) ∧
        .text nullMark ∈ occurrences records field) := by
  rw [collect_eq, List.map_append, List.nodup_append_comm, markFor, ← List.any_eq_true,
    ← nullMark_mem_present]
  have hd : ((present records field).map Value.form).Nodup := nodup_keys_firsts ..
  split
  · next hn => simp [hn, hd]
  · next hn => simp [hn, hd]

theorem collect_parts (records : List Record) (field : String) :
    ∃ defined,
      collect records field =
        defined ++ (if (occurrences records field).any Value.isNullish then [.text nullMark]
          else []) ∧
      defined = firsts Value.form
        ((occurrences records field).filter fun value => !value.isNullish) ∧
      (defined.map Value.form).Nodup ∧
      (∀ value ∈ defined, value ∈ occurrences records field ∧ value.isNullish = false) ∧
      (∀ value ∈ occurrences records field, value.isNullish = false →
        value.form ∈ defined.map Value.form) := by
  refine ⟨present records field, collect_eq records field, rfl, nodup_keys_firsts _ _,
    fun value hm => ?_, fun value hm hn => ?_⟩
  · simpa using (present_sublist records field).subset hm
  · exact form_mem_present.mpr ⟨value, hm, hn, rfl⟩

end FieldInfo

-- ---------------------------------------------------------------------------
-- Room
-- ---------------------------------------------------------------------------

namespace Limits

open FieldInfo (occurrences nullMark)

variable {limits : Limits} {records : List Record} {field : String}

/-- Every value that is not missing is printed, those that were seen before
included. -/
theorem collect_ok_iff {values : List Value} :
    limits.collect records field = .ok values ↔
      (∀ value ∈ occurrences records field, value.isNullish = false → limits.Prints value) ∧
        FieldInfo.collect records field = values := by
  have hp : (∃ forms, ((occurrences records field).filter fun value => !value.isNullish).mapM
        limits.quote = .ok forms) ↔
      ∀ value ∈ occurrences records field, value.isNullish = false → limits.Prints value := by
    constructor
    · rintro ⟨forms, h⟩ value hm hn
      obtain ⟨form, hq⟩ := Attempt.ok_of_mapM h (List.mem_filter.mpr ⟨hm, by rw [hn]; rfl⟩)
      exact (quote_iff.mp hq).1
    · intro h
      refine Attempt.exists_mapM fun value hm => ?_
      obtain ⟨hm, hn⟩ := List.mem_filter.mp hm
      exact ⟨value.quoted, quote_iff.mpr ⟨h value hm (by simpa using hn), rfl⟩⟩
  rw [← hp, collect, Attempt.bind_ok]
  simp only [Except.ok.injEq, exists_and_right]
  rfl

theorem collect_near {met : Prop}
    (h : ¬ met → ∀ value ∈ occurrences records field, value.isNullish = false →
      limits.Prints value) :
    Near met (limits.collect records field) (.ok (FieldInfo.collect records field)) := by
  have hq : Near met (((occurrences records field).filter fun value => !value.isNullish).mapM
        limits.quote)
      (.ok (((occurrences records field).filter fun value => !value.isNullish).map
        Value.quoted)) := by
    rw [← Attempt.mapM_of_forall fun _ _ => rfl]
    refine .mapM fun value hm => quote_near fun hn => ?_
    obtain ⟨hm, hv⟩ := List.mem_filter.mp hm
    exact h hn value hm (by simpa using hv)
  exact hq.next (.refl _)

/-- Fields are described as without limits, or a value that is listed cannot
be printed. -/
theorem describe_near {met : Prop} {fields : Option (List String)} {types : Record}
    (h : ¬ met → ∀ field, ∀ value ∈ occurrences records field, value.isNullish = false →
      limits.Prints value) :
    Near met (limits.describe records fields types)
      (.ok (FieldInfo.describe records fields types)) := by
  have hc : Near met
      (((FieldInfo.describe records fields types).filter fun info => info.2.values.isSome).mapM
        fun info => limits.collect records info.1)
      (.ok (((FieldInfo.describe records fields types).filter fun info => info.2.values.isSome).map
        fun info => FieldInfo.collect records info.1)) := by
    rw [← Attempt.mapM_of_forall fun _ _ => rfl]
    exact .mapM fun info _ => collect_near fun hn => h hn info.1
  exact hc.next (.refl _)

/-- Collecting succeeds if and only if every value of the field that is not
missing can be printed. The values that are not missing are collected then, in
the order in which their forms come first: each of these forms once, no value
that is not one of the field, and none of them missing. The mark follows if and
only if some value is missing. No form comes twice, unless some value is missing
and another is the text that the mark is. -/
theorem collect_distinct (limits : Limits) (records : List Record) (field : String) :
    ((∃ values, limits.collect records field = .ok values) ↔
      ∀ value ∈ occurrences records field, value.isNullish = false → limits.Prints value) ∧
    ∀ values, limits.collect records field = .ok values → ∃ defined,
      values =
        defined ++ (if (occurrences records field).any Value.isNullish then [.text nullMark]
          else []) ∧
      defined = firsts Value.form
        ((occurrences records field).filter fun value => !value.isNullish) ∧
      (defined.map Value.form).Nodup ∧
      (∀ value ∈ defined, value ∈ occurrences records field ∧ value.isNullish = false) ∧
      (∀ value ∈ occurrences records field, value.isNullish = false →
        value.form ∈ defined.map Value.form) ∧
      ((values.map Value.form).Nodup ↔
        ¬ ((∃ value ∈ occurrences records field, value.isNullish = true) ∧
          .text nullMark ∈ occurrences records field)) := by
  refine ⟨by simp only [collect_ok_iff, exists_and_left, exists_eq', and_true], fun values h => ?_⟩
  obtain ⟨-, rfl⟩ := collect_ok_iff.mp h
  obtain ⟨defined, hc, hd, hn, hm, hf⟩ := FieldInfo.collect_parts records field
  exact ⟨defined, hc, hd, hn, hm, hf, FieldInfo.nodup_collect_iff⟩

/-- A text that reads like the mark, and a missing value. -/
theorem collect_mark_twice :
    ¬ ∀ (records : List Record) (field : String), ∃ values,
      standard.collect records field = .ok values ∧ (values.map Value.form).Nodup := by
  intro h
  have hl : standard.collect [[("s", .text "NULL")], [("s", .null)]] "s" =
      .ok [.text "NULL", .text "NULL"] := rfl
  obtain ⟨values, hc, hd⟩ := h [[("s", .text "NULL")], [("s", .null)]] "s"
  rw [hl] at hc
  cases hc
  exact (List.nodup_cons.mp hd).1 (List.mem_singleton_self _)

end Limits

end RecordQuery
