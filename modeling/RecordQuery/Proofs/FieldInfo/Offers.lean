import RecordQuery.Proofs.Condition.Failing
import RecordQuery.Proofs.Engine.Agreement
import RecordQuery.Proofs.FieldInfo.Distinct
import RecordQuery.Proofs.Query.Grammar.Reading
import RecordQuery.Proofs.Record
import RecordQuery.Proofs.Value.Convertible
import RecordQuery.Proofs.Value.Stored

/-!
# Offered values as queries

A text that a description lists can be put into a query: the equation of the
field and the text finds the records it comes from, whether it is the value of
the field there or an item of it. The mark of missing values stands for the
equation with null, which finds the records without a value. A missing item of
a list adds the mark as well, but no equation asks for it.
-/

namespace RecordQuery

-- ---------------------------------------------------------------------------
-- Equations
-- ---------------------------------------------------------------------------

namespace Grammar

def Name.field (name : Name) : String := String.ofList name.chars

/-- The query for the records whose field equals a literal. -/
def equation (name : Name) (literal : Literal) : String :=
  name.field ++ " = " ++ String.ofList literal.text

variable (name : Name) (literal : Literal)

theorem toList_equation :
    (equation name literal).toList =
      (Alternatives.one (.one (.condition (.compares name .equal literal)))).text
        ⟨true, true⟩ := by
  simp [equation, Name.field, Alternatives.text, Clause.text, Factor.text, Statement.text, gap,
    Comparison.operator, Operator.name]

theorem parse_equation :
    Filter.parse (equation name literal).toList =
      .ok (.leaf (.condition ⟨name.field, .equal, literal.value⟩)) := by
  rw [toList_equation, Alternatives.parse]
  rfl

theorem ofQuery_equation : Mode.ofQuery (equation name literal) = .structured := by
  have hs : '=' ∈ (equation name literal).toList := by simp [equation]
  have hb : Text.isBlankText (equation name literal).toList = false :=
    List.all_eq_false.mpr ⟨'=', hs, by decide⟩
  have hm : Mode.isStructured (equation name literal).toList = true :=
    Bool.or_eq_true_iff.mpr (.inl (List.any_eq_true.mpr ⟨'=', hs, rfl⟩))
  rw [Mode.ofQuery, if_neg (Bool.eq_false_iff.mp hb), if_pos hm]

theorem satisfies_equation (record : Record) :
    record.satisfies (equation name literal) =
      Condition.equals (record.get name.field) literal.value :=
  Record.satisfies_of_parse (ofQuery_equation name literal) (parse_equation name literal) record

end Grammar

open Grammar (Name Literal Phrase equation)

-- ---------------------------------------------------------------------------
-- Equality with a text
-- ---------------------------------------------------------------------------

namespace Condition

open Value (isInRange)

variable {field : Value} {s : String}

theorem exists_equals_int {n : Int} (h : isInRange n = true) (s : String) :
    ∃ verdict, equals (.int n) (.text s) = .ok verdict := by
  obtain ⟨x, hx⟩ := Option.isSome_iff_exists.mp h
  refine ⟨Value.sameNumber x (Value.numberOfText s.toList), ?_⟩
  show (do .ok (Value.sameNumber (← Value.floatOfInt n) (Value.numberOfText s.toList))) = _
  rw [Value.floatOfInt_eq, hx]
  rfl

theorem exists_equals_text (h : field.isConvertible = true) (s : String) :
    ∃ verdict, equals field (.text s) = .ok verdict := by
  cases field with
  | bool b =>
    have hr : isInRange (if b then 1 else 0) = true := by cases b <;> decide +kernel
    exact exists_equals_int hr s
  | int n => exact exists_equals_int (by rwa [Value.isConvertible] at h) s
  | text t =>
    by_cases ht : t.isEmpty = true
    · exact ⟨false, if_pos ht⟩
    · exact ⟨t == s, if_neg ht⟩
  | _ => exact ⟨_, rfl⟩

theorem equals_of_mem_flattened (h : .text s ∈ field.flattened) (hs : s.isEmpty = false) :
    equals field (.text s) = .ok true := by
  cases field with
  | text t =>
    obtain rfl : s = t := by simpa [Value.flattened] using h
    simp [equals, Value.isNullish, hs, Value.looseEquals, Value.asNumber]
  | list items =>
    refine congrArg Except.ok (List.any_eq_true.mpr ⟨.text s, h, ?_⟩)
    simp [Value.strictEquals, Value.isNumber, Value.same]
  | _ => simp [Value.flattened] at h

end Condition

-- ---------------------------------------------------------------------------
-- Answers to equations
-- ---------------------------------------------------------------------------

namespace Engine

variable {records : List Record} {name : Name}

theorem filter_equation {literal : Literal} (keyField : Option String)
    (h : ∀ record ∈ records, ∃ verdict,
      Condition.equals (record.get name.field) literal.value = .ok verdict) :
    (new records keyField).filter (equation name literal) =
      .ok ((records.filter fun record =>
        (Condition.equals (record.get name.field) literal.value).toOption == some true).map
          (Record.key keyField)) := by
  have he (record : Record) := Grammar.satisfies_equation name literal record
  have hv : ∀ record ∈ (new records keyField).records, ∃ verdict,
      record.satisfies (equation name literal) = .ok verdict := by
    intro record hr
    rw [he]
    exact h record hr
  rw [filter_of_verdicts (Grammar.ofQuery_equation name literal)
    (Grammar.parse_equation name literal) hv]
  simp only [he]
  rfl

theorem filter_equation_null (keyField : Option String) :
    (new records keyField).filter (equation name .null) =
      .ok ((records.filter fun record => (record.get name.field).isNullish).map
        (Record.key keyField)) := by
  have he (record : Record) : Condition.equals (record.get name.field) (Literal.value .null) =
      .ok (record.get name.field).isNullish := rfl
  rw [filter_equation keyField fun record _ => ⟨_, he record⟩]
  have hk : ∀ record ∈ records,
      ((Condition.equals (record.get name.field) (Literal.value .null)).toOption == some true) =
        (record.get name.field).isNullish := by
    intro record _
    rw [he]
    cases (record.get name.field).isNullish <;> rfl
  rw [List.filter_congr hk]

theorem filter_equation_phrase (hc : ∀ record ∈ records, record.isConvertible = true)
    (keyField : Option String) {phrase : Phrase} {record : Record} (hr : record ∈ records)
    (hm : phrase.value ∈ (record.get name.field).flattened) (hn : phrase.value.isNullish = false) :
    ∃ keys, (new records keyField).filter (equation name (.phrase phrase)) = .ok keys ∧
      record.key keyField ∈ keys := by
  have hv : ∀ other ∈ records, ∃ verdict,
      Condition.equals (other.get name.field) (Literal.value (.phrase phrase)) = .ok verdict := by
    intro other ho
    have hf : (other.get name.field).isConvertible = true :=
      Record.forall_get (p := fun value => value.isConvertible = true)
        (fun _ he => Value.isConvertible_of_mem (hc other ho) he) rfl name.field
    exact Condition.exists_equals_text hf _
  have he : Condition.equals (record.get name.field) (Literal.value (.phrase phrase)) = .ok true :=
    Condition.equals_of_mem_flattened hm hn
  refine ⟨_, filter_equation keyField hv, List.mem_map_of_mem (List.mem_filter.mpr ⟨hr, ?_⟩)⟩
  rw [he]
  rfl

end Engine

-- ---------------------------------------------------------------------------
-- Descriptions
-- ---------------------------------------------------------------------------

namespace FieldInfo

variable {records : List Record} {fields : Option (List String)} {types : Record} {field : String}
  {info : FieldInfo} {values : List Value} {name : Name}

theorem values_of_mem_describe (hi : (field, info) ∈ describe records fields types)
    (hv : info.values = some values) : values = collect records field := by
  cases records with
  | nil =>
    obtain ⟨_, -, he⟩ := List.mem_map.mp hi
    obtain ⟨rfl, rfl⟩ := Prod.mk.inj he
    exact (Option.some.inj hv).symm
  | cons sample rest =>
    obtain ⟨_, -, he⟩ := List.mem_map.mp hi
    obtain ⟨rfl, rfl⟩ := Prod.mk.inj he
    exact (Option.some.inj (Option.ite_none_right_eq_some.mp hv).2).symm

theorem markFor_of_missing {record : Record} (hr : record ∈ records)
    (hn : (record.get field).isNullish = true) : markFor records field = [.text nullMark] := by
  have hf : record.get field ∈ (record.get field).flattened := by
    cases hv : record.get field with
    | list items =>
      rw [hv] at hn
      cases hn
    | _ => exact List.mem_singleton_self _
  exact if_pos (List.any_eq_true.mpr ⟨_, List.mem_flatMap.mpr ⟨record, hr, hf⟩, hn⟩)

/-- Take the values listed for a field that a query can name, of records
without integers beyond the floats: those that are present, and the mark if
one is missing. The equation with any text among those present finds a record.
If the value of the field is missing in some record, the mark is listed and the
equation with null finds a record, and only then it finds one. -/
theorem offers_select (hi : (name.field, info) ∈ describe records fields types)
    (hv : info.values = some values) (hc : ∀ record ∈ records, record.isConvertible = true)
    (keyField : Option String) :
    values = present records name.field ++ markFor records name.field ∧
    (∀ phrase : Phrase, phrase.value ∈ present records name.field →
      ∃ keys, (Engine.new records keyField).filter (equation name (.phrase phrase)) = .ok keys ∧
        keys ≠ []) ∧
    ((∃ record ∈ records, (record.get name.field).isNullish = true) →
      markFor records name.field = [.text nullMark]) ∧
    ∃ keys, (Engine.new records keyField).filter (equation name .null) = .ok keys ∧
      (keys ≠ [] ↔ ∃ record ∈ records, (record.get name.field).isNullish = true) := by
  refine ⟨(values_of_mem_describe hi hv).trans (collect_eq ..), fun phrase hp => ?_,
    fun ⟨record, hr, hn⟩ => markFor_of_missing hr hn, _, Engine.filter_equation_null keyField, ?_⟩
  · obtain ⟨ho, hn⟩ := List.mem_filter.mp ((present_sublist ..).subset hp)
    obtain ⟨record, hr, hm⟩ := List.mem_flatMap.mp ho
    obtain ⟨keys, hf, hk⟩ :=
      Engine.filter_equation_phrase hc keyField hr hm (by simpa using hn)
    exact ⟨keys, hf, List.ne_nil_of_mem hk⟩
  · simp

def tags : Name where
  chars := "tags".toList
  nonempty := by decide
  isWord := List.all_eq_true.mp rfl
  noKeyword connective := by cases connective <;> decide

def lead : Phrase where
  chars := "lead".toList
  unquoted := by decide
  spaced := (Text.Neat.of_all rfl).toSingleSpaced

def people : List Record := [
  [("id", .int 1), ("tags", .list [.text "dev", .text "lead"])],
  [("id", .int 2), ("tags", .null)]]

theorem offers_tags :
    ∃ info, (tags.field, info) ∈ describe people none [] ∧
      info.values = some [.text "dev", .text "lead", .text nullMark] ∧
      (∃ keys, (Engine.new people (some "id")).filter (equation tags (.phrase lead)) = .ok keys ∧
        keys ≠ []) ∧
      ∃ keys, (Engine.new people (some "id")).filter (equation tags .null) = .ok keys ∧
        keys ≠ [] := by
  have hi : (tags.field,
        FieldInfo.mk (.text "array") (some [.text "dev", .text "lead", .text nullMark])) ∈
      describe people none [] := List.mem_cons_of_mem _ (List.mem_singleton_self _)
  have hc : ∀ record ∈ people, record.isConvertible = true := by decide +kernel
  have hl : lead.value ∈ present people tags.field :=
    List.mem_cons_of_mem (Value.text "dev") (List.mem_singleton_self _)
  obtain ⟨-, hp, -, keys, hf, hk⟩ := offers_select hi rfl hc (some "id")
  refine ⟨_, hi, rfl, hp lead hl, keys, hf, hk.mpr ?_⟩
  exact ⟨[("id", .int 2), ("tags", .null)], by simp [people], rfl⟩

/-- An item is missing, but the field is not. -/
def halfTagged : List Record := [[("id", .int 1), ("tags", .list [.text "a", .null])]]

/-- The mark is listed for the item, and the equation with null finds
nothing. -/
theorem mark_unanswered :
    (∀ record ∈ halfTagged, record.isFlat = true ∧ record.isConvertible = true) ∧
    (∃ info, ("tags", info) ∈ describe halfTagged none [] ∧
      info.values = some [.text "a", .text nullMark]) ∧
    .null ∈ occurrences halfTagged "tags" ∧
    (Engine.new halfTagged (some "id")).filter "tags = NULL" = .ok [] := by
  have hi : ("tags", FieldInfo.mk (.text "array") (some [.text "a", .text nullMark])) ∈
      describe halfTagged none [] := List.mem_cons_of_mem _ (List.mem_singleton_self _)
  have hq : equation tags .null = "tags = NULL" := by decide
  have hf : (Engine.new halfTagged (some "id")).filter (equation tags .null) = .ok [] :=
    Engine.filter_equation_null (some "id")
  rw [hq] at hf
  exact ⟨by decide +kernel, ⟨_, hi, rfl⟩,
    List.mem_cons_of_mem (Value.text "a") (List.mem_singleton_self _), hf⟩

end FieldInfo

end RecordQuery
