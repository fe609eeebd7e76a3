import RecordQuery.Condition

/-!
# Membership in lists

A field is among values if it is among some of them, whatever their order and
however often they are repeated. A null in the list turns the question for a
list-valued field: the field is then looked up whole, and among values that
are no lists it is not found.
-/

namespace RecordQuery

namespace Value

variable {values vs ws : List Value} {item : Value}

theorem kind_eq_null : item.kind = .null ↔ item = .null := by
  cases item <;> simp [kind]

theorem any_kind_null : (values.any fun item => item.kind == .null) = true ↔ .null ∈ values := by
  simp [kind_eq_null]

theorem containsStrict_append :
    containsStrict (vs ++ ws) item = (containsStrict vs item || containsStrict ws item) :=
  List.any_append

theorem containsStrict_congr (h : ∀ value, value ∈ vs ↔ value ∈ ws) :
    containsStrict vs item = containsStrict ws item := by
  rw [Bool.eq_iff_iff]
  simp [containsStrict, h]

theorem containsStrict_list {items : List Value} (h : ∀ value ∈ values, value.isList = false) :
    containsStrict values (.list items) = false := by
  refine List.any_eq_false.mpr fun value hv => ?_
  have hl := h value hv
  cases value with
  | list => cases hl
  | _ => simp [strictEquals, isNumber, kind]

theorem flattened_of_isList (h : item.isList = false) : item.flattened = [item] := by
  cases item with
  | list => cases h
  | _ => rfl

theorem isNullish_of_isList (h : item.isList = true) : item.isNullish = false := by
  cases item with
  | list => rfl
  | _ => cases h

end Value

namespace Condition

open Value (containsStrict)

variable {values vs ws : List Value} {field : Value}

theorem isAmong_of_null (h : .null ∈ values) :
    isAmong field (.list values) = (field.isNullish || containsStrict values field) :=
  if_pos (Value.any_kind_null.mpr h)

theorem isAmong_of_no_null (h : .null ∉ values) :
    isAmong field (.list values) =
      (!field.isNullish && field.flattened.any (containsStrict values)) := by
  have hn : ¬ ((Value.list values).flattened.any fun item => item.kind == .null) = true :=
    mt Value.any_kind_null.mp h
  unfold isAmong
  dsimp only
  rw [if_neg hn]
  cases field with
  | list items => simp [Value.isNullish, Value.flattened]
  | text s => cases hs : s.isEmpty <;> simp [Value.isNullish, Value.flattened, hs]
  | _ => simp [Value.isNullish, Value.flattened]

theorem isAmong_scalar (h : field.isList = false) (hn : field.isNullish = false) :
    isAmong field (.list values) = containsStrict values field := by
  by_cases hv : .null ∈ values
  · simp [isAmong_of_null hv, hn]
  · simp [isAmong_of_no_null hv, hn, Value.flattened_of_isList h]

theorem isAmong_nullish (hn : field.isNullish = true) :
    isAmong field (.list values) = true ↔ .null ∈ values := by
  by_cases hv : .null ∈ values
  · simp [isAmong_of_null hv, hn, hv]
  · simp [isAmong_of_no_null hv, hn, hv]

theorem isAmong_append (h : field.isList = false ∨ (.null ∈ vs ↔ .null ∈ ws)) :
    isAmong field (.list (vs ++ ws)) =
      (isAmong field (.list vs) || isAmong field (.list ws)) := by
  cases hn : field.isNullish with
  | true =>
    rw [Bool.eq_iff_iff]
    simp [isAmong_nullish hn]
  | false =>
    cases hl : field.isList with
    | false => simp only [isAmong_scalar hl hn, Value.containsStrict_append]
    | true =>
      have hs : .null ∈ vs ↔ .null ∈ ws := h.resolve_left (by simp [hl])
      by_cases hv : .null ∈ vs
      · have hw := hs.mp hv
        simp [isAmong_of_null, hv, hw, hn, Value.containsStrict_append]
      · have hw := mt hs.mpr hv
        rw [Bool.eq_iff_iff]
        simp [isAmong_of_no_null, hv, hw, hn, Value.containsStrict_append, and_or_left, exists_or]

theorem isAmong_congr (h : ∀ value, value ∈ vs ↔ value ∈ ws) :
    isAmong field (.list vs) = isAmong field (.list ws) := by
  have hc : containsStrict vs = containsStrict ws := funext fun _ => Value.containsStrict_congr h
  by_cases hv : .null ∈ vs
  · rw [isAmong_of_null hv, isAmong_of_null ((h .null).mp hv), hc]
  · rw [isAmong_of_no_null hv, isAmong_of_no_null (mt (h .null).mpr hv), hc]

theorem isAmong_list_null (hl : field.isList = true) (hn : .null ∈ values)
    (hv : ∀ value ∈ values, value.isList = false) : isAmong field (.list values) = false := by
  rw [isAmong_of_null hn, Value.isNullish_of_isList hl]
  cases field with
  | list items => exact Value.containsStrict_list hv
  | _ => cases hl

def among (field : String) (values : List Value) : Condition := ⟨field, .among, .list values⟩

theorem holds_among (field : String) (values : List Value) (record : Record) :
    (among field values).holds record = .ok (isAmong (record.get field) (.list values)) := rfl

/-- A list put together from two finds what either finds, unless the field is
a list and a null comes into only one of them: no list is among values with a
null. So more values never find less, except for such a null, and the order
and the repetition of values make no difference. -/
theorem among_append (record : Record) (field : String) (vs ws : List Value)
    (hv : ∀ value ∈ vs ++ ws, value.isList = false) :
    ∃ first second joint, (among field vs).holds record = .ok first ∧
      (among field ws).holds record = .ok second ∧
      (among field (vs ++ ws)).holds record = .ok joint ∧
      ((record.get field).isList = false ∨ (.null ∈ vs ↔ .null ∈ ws) →
        joint = (first || second)) ∧
      ((record.get field).isList = true → .null ∈ vs ++ ws → joint = false) ∧
      (∀ more, first = true → (more = .null → (record.get field).isList = false) →
        (among field (vs ++ [more])).holds record = .ok true) ∧
      (∀ others, (∀ value, value ∈ others ↔ value ∈ vs) →
        (among field others).holds record = .ok first) := by
  refine ⟨_, _, _, holds_among .., holds_among .., holds_among .., isAmong_append,
    fun hl hn => isAmong_list_null hl hn hv, fun more hf hm => ?_, fun others ho => ?_⟩
  · -- A null in the list would not have let the field be found.
    have hs : (record.get field).isList = false ∨ (.null ∈ vs ↔ .null ∈ [more]) := by
      cases hl : (record.get field).isList with
      | false => exact .inl rfl
      | true =>
        have hn : .null ∉ vs := fun hn => by
          rw [isAmong_list_null hl hn fun value h => hv value (List.mem_append_left _ h)] at hf
          cases hf
        refine .inr (iff_of_false hn fun hm' => ?_)
        have he := hm (List.mem_singleton.mp hm').symm
        rw [hl] at he
        cases he
    rw [holds_among, isAmong_append hs, hf, Bool.true_or]
  · rw [holds_among, isAmong_congr ho]

def tagged : Record := [("tags", .list [.text "dev", .text "lead"])]

theorem among_tags :
    (∀ value ∈ [Value.text "ops"] ++ [.text "lead"], value.isList = false) ∧
    (among "tags" [.text "lead"]).holds tagged = .ok true ∧
    (among "tags" ([.text "ops"] ++ [.text "lead"])).holds tagged = .ok true := by
  have hv : ∀ value ∈ [Value.text "ops"] ++ [.text "lead"], value.isList = false := by
    simp [Value.isList]
  obtain ⟨first, second, joint, -, hs, hj, ha, -⟩ :=
    among_append tagged "tags" [.text "ops"] [.text "lead"] hv
  have hl : (among "tags" [.text "lead"]).holds tagged = .ok true := rfl
  obtain rfl := Except.ok.inj (hl.symm.trans hs)
  rw [ha (.inr (by simp)), Bool.or_true] at hj
  exact ⟨hv, hl, hj⟩

/-- The null hides the tag. -/
theorem among_tag_or_null :
    (among "tags" [.text "dev"]).holds tagged = .ok true ∧
    (among "tags" [.null]).holds tagged = .ok false ∧
    (among "tags" [.text "dev", .null]).holds tagged = .ok false := by
  exact ⟨rfl, rfl, rfl⟩

end Condition

end RecordQuery
