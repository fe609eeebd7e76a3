import RecordQuery.Host
import RecordQuery.Proofs.Double.Range
import RecordQuery.Proofs.Engine.Agreement
import RecordQuery.Proofs.Limits.Near
import RecordQuery.Proofs.Query.Compilation
import RecordQuery.Proofs.Value.Convertible
import RecordQuery.Proofs.Value.Stored

/-!
# Where limits are met

Printing fails on a value just if it is nested too deep or holds an integer
that is too long. Compiling, searching and answering have the outcome that they
have without limits, or they fail at a limit; and where the groups of the query
and the values of the records have room, they meet none.
-/

namespace RecordQuery

-- ---------------------------------------------------------------------------
-- Values
-- ---------------------------------------------------------------------------

namespace Value

mutual
/-- Greatest depth of lists and objects. -/
def depth : Value → Nat
  | list items => depthOfItems items + 1
  | object fields => depthOfFields fields + 1
  | _ => 0
def depthOfItems : List Value → Nat
  | [] => 0
  | item :: rest => max item.depth (depthOfItems rest)
def depthOfFields : List (String × Value) → Nat
  | [] => 0
  | (_, value) :: rest => max value.depth (depthOfFields rest)
end

section
variable {room : Nat}

theorem depthOfItems_le_iff {items : List Value} :
    depthOfItems items ≤ room ↔ ∀ item ∈ items, item.depth ≤ room := by
  induction items with
  | nil => simp [depthOfItems]
  | cons item rest ih => rw [depthOfItems, Nat.max_le, ih, List.forall_mem_cons]

theorem depthOfFields_le_iff {fields : List (String × Value)} :
    depthOfFields fields ≤ room ↔ ∀ field ∈ fields, field.2.depth ≤ room := by
  induction fields with
  | nil => simp [depthOfFields]
  | cons field rest ih => rw [depthOfFields, Nat.max_le, ih, List.forall_mem_cons]

theorem depth_item_le {items : List Value} (h : (list items).depth ≤ room) :
    ∀ item ∈ items, item.depth ≤ room :=
  depthOfItems_le_iff.mp (Nat.le_of_succ_le h)

theorem depth_field_le {fields : List (String × Value)} (h : (object fields).depth ≤ room) :
    ∀ field ∈ fields, field.2.depth ≤ room :=
  depthOfFields_le_iff.mp (Nat.le_of_succ_le h)

end

def passes (check : Int → Except Failure Unit) : Value → Bool
  | int n => (check n).isOk
  | _ => true

def isShort (value : Value) : Bool := value.every (passes checkDigits)

theorem isShort_list {items : List Value} :
    (list items).isShort = true ↔ ∀ item ∈ items, item.isShort = true :=
  every_list.trans (and_iff_right rfl)

theorem isShort_object {fields : List (String × Value)} :
    (object fields).isShort = true ↔ ∀ field ∈ fields, field.2.isShort = true :=
  every_object.trans (and_iff_right rfl)

section
variable (descent : Descent) (check : Int → Except Failure Unit)

theorem checked_iff {outcome : Except Failure Unit} :
    outcome = .ok () ↔ outcome.isOk = true := by
  cases outcome <;> simp [Except.isOk, Except.toBool]

mutual
theorem follow_iff (room : Nat) (value : Value) :
    value.follow descent check room = .ok () ↔
      value.depth ≤ room ∧ value.every (passes check) = true := by
  cases value with
  | int n => cases room <;> simp [follow, depth, every, passes, checked_iff]
  | list items =>
    cases room with
    | zero => simp [follow, depth]
    | succ room => simp [follow, depth, every, passes, followItems_iff room items]
  | object fields =>
    cases room with
    | zero => simp [follow, depth]
    | succ room => simp [follow, depth, every, passes, followFields_iff room fields]
  | _ => cases room <;> simp [follow, depth, every, passes]
theorem followItems_iff (room : Nat) (items : List Value) :
    followItems descent check room items = .ok () ↔
      depthOfItems items ≤ room ∧ everyItem (passes check) items = true := by
  cases items with
  | nil => simp [followItems, depthOfItems, everyItem]
  | cons item rest =>
    simp only [followItems, Attempt.then_ok, follow_iff room item, followItems_iff room rest,
      depthOfItems, everyItem, Nat.max_le, Bool.and_eq_true, and_and_and_comm]
theorem followFields_iff (room : Nat) (fields : List (String × Value)) :
    followFields descent check room fields = .ok () ↔
      depthOfFields fields ≤ room ∧ everyField (passes check) fields = true := by
  cases fields with
  | nil => simp [followFields, depthOfFields, everyField]
  | cons field rest =>
    obtain ⟨name, value⟩ := field
    simp only [followFields, Attempt.then_ok, follow_iff room value, followFields_iff room rest,
      depthOfFields, everyField, Nat.max_le, Bool.and_eq_true, and_and_and_comm]
end

mutual
/-- What a value fails on when it is followed is the end of the stack, or one
of its integers. -/
theorem follow_error {failure : Failure} {room : Nat} (value : Value)
    (h : value.follow descent check room = .error failure) :
    failure = .stackEnded descent ∨ ∃ n, check n = .error failure := by
  cases value with
  | int n => exact .inr ⟨n, by cases room <;> exact h⟩
  | list items =>
    cases room with
    | zero => cases h; exact .inl rfl
    | succ room => exact followItems_error items h
  | object fields =>
    cases room with
    | zero => cases h; exact .inl rfl
    | succ room => exact followFields_error fields h
  | _ => cases room <;> cases h
theorem followItems_error {failure : Failure} {room : Nat} (items : List Value)
    (h : followItems descent check room items = .error failure) :
    failure = .stackEnded descent ∨ ∃ n, check n = .error failure := by
  cases items with
  | nil => cases h
  | cons item rest =>
    rcases Attempt.bind_error.mp h with hf | ⟨_, -, hr⟩
    · exact follow_error item hf
    · exact followItems_error rest hr
theorem followFields_error {failure : Failure} {room : Nat} (fields : List (String × Value))
    (h : followFields descent check room fields = .error failure) :
    failure = .stackEnded descent ∨ ∃ n, check n = .error failure := by
  cases fields with
  | nil => cases h
  | cons field rest =>
    rcases Attempt.bind_error.mp h with hf | ⟨_, -, hr⟩
    · exact follow_error field.2 hf
    · exact followFields_error rest hr
end

end

mutual
theorem every_of_forall {p : Value → Bool} (h : ∀ value, p value = true) (value : Value) :
    value.every p = true := by
  cases value with
  | list items => simp [every, h, everyItem_of_forall h items]
  | object fields => simp [every, h, everyField_of_forall h fields]
  | _ => simp [every, h]
theorem everyItem_of_forall {p : Value → Bool} (h : ∀ value, p value = true) (items : List Value) :
    everyItem p items = true := by
  cases items with
  | nil => rfl
  | cons item rest => simp [everyItem, every_of_forall h item, everyItem_of_forall h rest]
theorem everyField_of_forall {p : Value → Bool} (h : ∀ value, p value = true)
    (fields : List (String × Value)) : everyField p fields = true := by
  cases fields with
  | nil => rfl
  | cons field rest =>
    simp [everyField, every_of_forall h field.2, everyField_of_forall h rest]
end

theorem follow_free_iff {descent : Descent} {room : Nat} {value : Value} :
    value.follow descent (fun _ => .ok ()) room = .ok () ↔ value.depth ≤ room := by
  have hp (value : Value) : passes (fun _ => .ok ()) value = true := by
    cases value <;> rfl
  rw [follow_iff, every_of_forall hp, and_iff_left rfl]

theorem checkDigits_error {n : Int} {failure : Failure} (h : checkDigits n = .error failure) :
    failure = .unprintable := by
  rw [checkDigits] at h
  split at h
  · cases h
    rfl
  · cases h

end Value

theorem Text.lt_length_natText_iff {n k : Nat} (hk : 0 < k) :
    k < (natText n).length ↔ Nat.pow 10 k ≤ n := by
  have hl : (natText n).length ≤ k ↔ n < Nat.pow 10 k :=
    Nat.length_toDigits_le_iff (by decide) hk
  rw [← Nat.not_le, hl, Nat.not_lt]

theorem Value.isOverlong_iff {n : Int} :
    isOverlong n = true ↔ Nat.pow 10 Numeral.maxDigits ≤ n.natAbs := by
  rw [isOverlong, decide_eq_true_iff, Text.lt_length_natText_iff (by decide)]

namespace Value

theorem wholeBound_le : Double.wholeBound ≤ Nat.pow 10 Numeral.maxDigits := by decide +kernel

theorem not_isOverlong_of_isInRange {n : Int} (h : isInRange n = true) : isOverlong n = false := by
  rw [Bool.eq_false_iff, Ne, isOverlong_iff, Nat.not_le]
  exact Nat.lt_of_lt_of_le ((Double.ofInt?_isSome_iff n).mp h) wholeBound_le

mutual
theorem isShort_of_isConvertible (value : Value) (h : value.isConvertible = true) :
    value.isShort = true := by
  cases value with
  | int n =>
    rw [isConvertible] at h
    show (checkDigits n).isOk = true
    rw [checkDigits, not_isOverlong_of_isInRange h]
    rfl
  | list items =>
    rw [isConvertible] at h
    exact isShort_list.mpr (areShort_of_areConvertible items h)
  | object fields =>
    rw [isConvertible] at h
    exact isShort_object.mpr (fieldsShort_of_fieldsConvertible fields h)
  | _ => rfl
theorem areShort_of_areConvertible (items : List Value) (h : areConvertible items = true) :
    ∀ item ∈ items, item.isShort = true := by
  cases items with
  | nil => exact fun _ hm => by cases hm
  | cons item rest =>
    obtain ⟨hi, hr⟩ := Bool.and_eq_true_iff.mp h
    exact List.forall_mem_cons.mpr
      ⟨isShort_of_isConvertible item hi, areShort_of_areConvertible rest hr⟩
theorem fieldsShort_of_fieldsConvertible (fields : List (String × Value))
    (h : fieldsConvertible fields = true) : ∀ field ∈ fields, field.2.isShort = true := by
  cases fields with
  | nil => exact fun _ hm => by cases hm
  | cons field rest =>
    obtain ⟨hi, hr⟩ := Bool.and_eq_true_iff.mp h
    exact List.forall_mem_cons.mpr
      ⟨isShort_of_isConvertible field.2 hi, fieldsShort_of_fieldsConvertible rest hr⟩
end

end Value

-- ---------------------------------------------------------------------------
-- Printing
-- ---------------------------------------------------------------------------

namespace Limits

variable (limits : Limits)

/-- A value that is nested no deeper than is printed, and holds no integer
that is too long. -/
def Prints (value : Value) : Prop := value.depth ≤ limits.printed ∧ value.isShort = true

def Writes (value : Value) : Prop :=
  value.depth ≤ limits.converted ∧ value.depth ≤ limits.encoded ∧ value.isShort = true

section
variable {limits} {value : Value}

theorem prints_null : limits.Prints .null := ⟨Nat.zero_le _, rfl⟩

theorem prints_int_iff {n : Int} : limits.Prints (.int n) ↔ Value.isOverlong n = false := by
  have hd : (Value.int n).depth ≤ limits.printed := Nat.zero_le _
  have hs : (Value.int n).isShort = (Value.checkDigits n).isOk := rfl
  rw [Prints, and_iff_right hd, hs, Value.checkDigits]
  cases Value.isOverlong n <;> simp [Except.isOk, Except.toBool]

theorem Prints.items {items : List Value} (h : limits.Prints (.list items)) :
    ∀ item ∈ items, limits.Prints item := fun item hm =>
  ⟨Value.depth_item_le h.1 item hm, Value.isShort_list.mp h.2 item hm⟩

theorem Prints.fields {fields : List (String × Value)} (h : limits.Prints (.object fields)) :
    ∀ field ∈ fields, limits.Prints field.2 := fun field hm =>
  ⟨Value.depth_field_le h.1 field hm, Value.isShort_object.mp h.2 field hm⟩

theorem checkPrinted_iff : limits.checkPrinted value = .ok () ↔ limits.Prints value :=
  Value.follow_iff ..

theorem print_iff {text : String} :
    limits.print value = .ok text ↔ limits.Prints value ∧ value.shown = text := by
  rw [print, Attempt.then_ok, checkPrinted_iff, Except.ok.injEq]

theorem quote_iff {text : List Char} :
    limits.quote value = .ok text ↔ limits.Prints value ∧ value.quoted = text := by
  rw [quote, Attempt.then_ok, checkPrinted_iff, Except.ok.injEq]

theorem write_iff {text : List Char} :
    limits.write value = .ok text ↔ limits.Writes value ∧ Json.write false value = text := by
  rw [write, Attempt.then_ok, Attempt.then_ok, Value.follow_free_iff, Value.follow_iff,
    Except.ok.injEq, Writes, Value.isShort, and_assoc, and_assoc, and_assoc]

variable {met : Prop}

theorem checkPrinted_near (h : ¬ met → limits.Prints value) :
    Near met (limits.checkPrinted value) (.ok ()) := by
  cases hc : limits.checkPrinted value with
  | ok => exact .refl _
  | error failure =>
    refine .error (fun hm => ?_) ?_
    · rw [checkPrinted_iff.mpr (h hm)] at hc
      cases hc
    · rcases value.follow_error _ _ hc with rfl | ⟨n, hn⟩
      · rfl
      · rw [Value.checkDigits_error hn]
        rfl

theorem print_near (h : ¬ met → limits.Prints value) :
    Near met (limits.print value) (.ok value.shown) :=
  (checkPrinted_near h).next (.refl _)

theorem quote_near (h : ¬ met → limits.Prints value) :
    Near met (limits.quote value) (.ok value.quoted) :=
  (checkPrinted_near h).next (.refl _)

end

end Limits

-- ---------------------------------------------------------------------------
-- Compiling
-- ---------------------------------------------------------------------------

namespace Expr

variable {α β : Type} {read : α → Except Failure β}

mutual
theorem readWithin_near {met : Prop} {room : Nat} (expr : Expr α) (h : ¬ met → expr.height ≤ room) :
    Near met (expr.readWithin read room) (expr.traverse read) := by
  cases expr with
  | leaf content => cases room <;> exact .refl _
  | join connective parts =>
    have hp := readPartsWithin_near parts h
    cases room <;> exact hp.bind fun _ _ => .refl _
  | group body =>
    cases room with
    | zero => exact .error (fun hm => Nat.not_succ_le_zero _ (h hm)) rfl
    | succ room =>
      have hb := readWithin_near body fun hm => Nat.le_of_succ_le_succ (h hm)
      exact hb.bind fun _ _ => .refl _
theorem readPartsWithin_near {met : Prop} {room : Nat} (parts : List (Expr α))
    (h : ¬ met → heightOfParts parts ≤ room) :
    Near met (readPartsWithin read room parts) (traverseParts read parts) := by
  cases parts with
  | nil => exact .refl _
  | cons part rest =>
    have hf := readWithin_near part fun hm => (Nat.max_le.mp (h hm)).1
    have hr := readPartsWithin_near rest fun hm => (Nat.max_le.mp (h hm)).2
    exact hf.bind fun _ _ => hr.bind fun _ _ => .refl _
end

mutual
/-- Where every leaf can be read, the groups alone decide. -/
theorem readWithin_of_lt {room : Nat} (expr : Expr α) {result : Expr β}
    (hr : expr.traverse read = .ok result) (h : room < expr.height) :
    expr.readWithin read room = .error (.stackEnded .compiling) := by
  cases expr with
  | leaf content => cases h
  | join connective parts =>
    obtain ⟨results, hp, -⟩ := Attempt.bind_ok.mp hr
    have hp := readPartsWithin_of_lt parts hp h
    cases room <;> rw [readWithin, hp] <;> rfl
  | group body =>
    cases room with
    | zero => rfl
    | succ room =>
      obtain ⟨inner, hb, -⟩ := Attempt.bind_ok.mp hr
      rw [readWithin, readWithin_of_lt body hb (Nat.lt_of_succ_lt_succ h)]
      rfl
theorem readPartsWithin_of_lt {room : Nat} (parts : List (Expr α)) {results : List (Expr β)}
    (hr : traverseParts read parts = .ok results) (h : room < heightOfParts parts) :
    readPartsWithin read room parts = .error (.stackEnded .compiling) := by
  cases parts with
  | nil => cases h
  | cons part rest =>
    obtain ⟨first, hf, hr⟩ := Attempt.bind_ok.mp hr
    obtain ⟨others, ho, -⟩ := Attempt.bind_ok.mp hr
    rw [readPartsWithin]
    by_cases hp : room < part.height
    · rw [readWithin_of_lt part hf hp]
      rfl
    · have hr : room < heightOfParts rest := by
        rw [heightOfParts] at h
        omega
      rw [(readWithin_near part fun _ => Nat.le_of_not_lt hp).eq, hf,
        readPartsWithin_of_lt rest ho hr]
      rfl
end

end Expr

/-- Greatest depth of the groups of a query. -/
def nesting (query : List Char) : Nat := (Expr.ofText (Text.normalize query)).height

theorem nesting_normalize (query : List Char) : nesting (Text.normalize query) = nesting query := by
  rw [nesting, nesting, Text.normalize_normalize]

namespace Limits

variable {limits : Limits} {query : List Char} {met : Prop}

theorem compile_of_ne_nil (hn : Text.normalize query ≠ []) :
    limits.compile query = limits.parseGroup (Text.normalize query) := by
  rw [compile]
  split
  · next he => exact absurd he hn
  · rfl

theorem parseGroup_near {text : List Char} (h : ¬ met → (Expr.ofText text).height ≤ limits.groups) :
    Near met (limits.parseGroup text) (Filter.parseGroup text) :=
  (Expr.readWithin_near _ h).bind fun _ _ => .refl _

theorem compile_near (h : ¬ met → nesting query ≤ limits.groups) :
    Near met (limits.compile query) (Filter.parse query) := by
  by_cases hn : Text.normalize query = []
  · rw [compile, Filter.parse, hn]
    exact .refl _
  · rw [compile_of_ne_nil hn, Filter.parse_of_ne_nil hn]
    exact parseGroup_near h

theorem compile_of_lt {filter : Filter} (hc : Filter.parse query = .ok filter)
    (h : limits.groups < nesting query) :
    limits.compile query = .error (.stackEnded .compiling) := by
  have hn : Text.normalize query ≠ [] := by
    intro hn
    have hz : (Expr.ofText []).height = 0 := by
      rw [Expr.ofText_eq]
      rfl
    rw [nesting, hn, hz] at h
    cases h
  rw [Filter.parse_of_ne_nil hn] at hc
  obtain ⟨expr, he, -⟩ := Attempt.bind_ok.mp hc
  rw [compile_of_ne_nil hn, parseGroup, Expr.readWithin_of_lt _ he h]
  rfl

theorem satisfies_near {query : String} (h : ¬ met → nesting query.toList ≤ limits.groups)
    (record : Record) : Near met (limits.satisfies record query) (record.satisfies query) := by
  rw [satisfies, Record.satisfies]
  split
  · exact .refl _
  · exact (compile_near h).bind fun _ _ => .refl _

theorem satisfiesGroup_near {group : String} (h : ¬ met → nesting group.toList ≤ limits.groups)
    (record : Record) :
    Near met (limits.satisfiesGroup record group) (record.satisfiesGroup group) :=
  (parseGroup_near h).bind fun _ _ => .refl _

-- ---------------------------------------------------------------------------
-- Searching
-- ---------------------------------------------------------------------------

/-- A value that can be searched in and printed. -/
structure Admits (limits : Limits) (value : Value) : Prop where
  searched : value.depth ≤ limits.searched
  printed : limits.Prints value

theorem Admits.items {items : List Value} (h : limits.Admits (.list items)) :
    ∀ item ∈ items, limits.Admits item := fun item hm =>
  ⟨Value.depth_item_le h.searched item hm, h.printed.items item hm⟩

def Carries (limits : Limits) (record : Record) : Prop := ∀ field ∈ record, limits.Admits field.2

theorem Admits.fields {fields : List (String × Value)} (h : limits.Admits (.object fields)) :
    limits.Carries fields := fun field hm =>
  ⟨Value.depth_field_le h.searched field hm, h.printed.fields field hm⟩

mutual
theorem searchText_near {room : Nat} (value : Value)
    (h : ¬ met → value.depth ≤ room ∧ limits.Prints value) :
    Near met (limits.searchText room value) value.searchText := by
  cases value with
  | list items =>
    cases room with
    | zero => exact .error (fun hm => Nat.not_succ_le_zero _ (h hm).1) rfl
    | succ room =>
      have hi : Near met (limits.searchTexts room items) (Value.searchTexts items) :=
        searchTexts_near items fun hm item hi =>
          ⟨Value.depthOfItems_le_iff.mp (Nat.le_of_succ_le_succ (h hm).1) item hi,
            (h hm).2.items item hi⟩
      rw [searchText, Value.searchText]
      exact hi.bind fun _ _ => .refl _
  | object fields =>
    have hq := quote_near fun hm => (h hm).2
    cases room <;> exact hq
  | _ => cases room <;> exact .refl _
theorem searchTexts_near {room : Nat} (items : List Value)
    (h : ¬ met → ∀ item ∈ items, item.depth ≤ room ∧ limits.Prints item) :
    Near met (limits.searchTexts room items) (Value.searchTexts items) := by
  cases items with
  | nil => exact .refl _
  | cons item rest =>
    have hf := searchText_near item fun hm => (List.forall_mem_cons.mp (h hm)).1
    have hr := searchTexts_near rest fun hm => (List.forall_mem_cons.mp (h hm)).2
    exact hf.bind fun _ _ => hr.bind fun _ _ => .refl _
end

theorem matchesTerms_near {record : Record} (h : ¬ met → limits.Carries record)
    (terms : List (List Char)) :
    Near met (limits.matchesTerms terms record) (record.matchesTerms terms) := by
  have ht : Near met (record.mapM fun field => limits.searchText limits.searched field.2)
      (record.mapM fun field => field.2.searchText) :=
    .mapM fun field hf => searchText_near field.2 fun hm =>
      ⟨(h hm field hf).searched, (h hm field hf).printed⟩
  rw [matchesTerms, Record.matchesTerms, Record.searchText, bind_assoc]
  exact ht.bind fun _ _ => .refl _

-- ---------------------------------------------------------------------------
-- Answers
-- ---------------------------------------------------------------------------

variable {name : Value} {records : List Record}

/-- Any value but a list or an object can be looked up. -/
theorem lookUp_near (hn : ¬ met → name.isScalar = true) (record : Record) :
    Near met (record.lookUp name) (.ok (record.key name.fieldName?)) := by
  cases name with
  | list items => exact .error (fun hm => Bool.false_ne_true (hn hm)) rfl
  | object fields => exact .error (fun hm => Bool.false_ne_true (hn hm)) rfl
  | _ => exact .refl _

theorem keys_near (hn : ¬ met → name.isScalar = true) :
    Near met (keys records name) (.ok (records.map (Record.key name.fieldName?))) := by
  rw [← Attempt.mapM_of_forall fun record _ => rfl]
  exact .mapM fun record _ => lookUp_near hn record

theorem keysPassing_near {test ideal : Record → Except Failure Bool}
    (hn : ¬ met → name.isScalar = true)
    (ht : ∀ record ∈ records, Near met (test record) (ideal record)) :
    Near met (keysPassing name test records)
      ((matching ideal records).map (List.map (Record.key name.fieldName?))) := by
  induction records with
  | nil => exact .refl _
  | cons record rest ih =>
    obtain ⟨hf, hr⟩ := List.forall_mem_cons.mp ht
    have hm : (matching ideal (record :: rest)).map (List.map (Record.key name.fieldName?)) =
        (do
          let verdict ← ideal record
          let keys := (matching ideal rest).map (List.map (Record.key name.fieldName?))
          if verdict then .ok (record.key name.fieldName? :: (← keys)) else keys) := by
      rw [matching]
      cases ideal record with
      | error failure => rfl
      | ok verdict => cases verdict <;> cases matching ideal rest <;> rfl
    rw [keysPassing, hm]
    refine hf.bind fun verdict _ => ?_
    cases verdict with
    | false => exact ih hr
    | true => exact (lookUp_near hn record).next ((ih hr).bind fun _ _ => .refl _)

theorem keysWhere_eq_map (engine : Engine) (test : Record → Except Failure Bool) :
    engine.keysWhere test =
      (matching test engine.records).map (List.map (Record.key engine.keyField)) := by
  rw [Engine.keysWhere]
  cases matching test engine.records <;> rfl

section
variable {engine : Engine} (hk : engine.keyField = name.fieldName?)
  (hn : ¬ met → name.isScalar = true)
include hk hn

theorem select_near {query : String} (hq : ¬ met → nesting query.toList ≤ limits.groups) :
    Near met (limits.select engine.records name query) (engine.select query) := by
  have hc : Near met (limits.compile (Text.normalize query.toList))
      (Filter.parse (Text.normalize query.toList)) :=
    compile_near (by rwa [nesting_normalize])
  refine hc.bind fun filter _ => ?_
  rw [keysWhere_eq_map, hk]
  exact keysPassing_near hn fun record _ => .refl _

theorem search_near (hr : ∀ record ∈ engine.records, ¬ met → limits.Carries record)
    (query : String) :
    Near met (limits.search engine.records name query) (engine.search query) := by
  rw [search, Engine.search]
  cases searchTerms query.toList with
  | nil =>
    rw [Engine.keys, hk]
    exact keys_near hn
  | cons term terms =>
    show Near met (keysPassing name _ engine.records) (engine.keysWhere _)
    rw [keysWhere_eq_map, hk]
    exact keysPassing_near hn fun record hm => matchesTerms_near (hr record hm) _

/-- A query is answered as without limits, or a limit is met: its groups are
nested too deep, a value cannot be searched in or printed, or the name of the
key field cannot be looked up. -/
theorem answer_near {query : String}
    (hq : ¬ met → Mode.ofQuery query = .structured → nesting query.toList ≤ limits.groups)
    (hr : ∀ record ∈ engine.records, ¬ met → limits.Carries record) :
    Near met (limits.answer engine.records name query) (engine.filter query) := by
  rw [answer, Engine.filter]
  cases hm : Mode.ofQuery query with
  | empty =>
    rw [Engine.keys, hk]
    exact keys_near hn
  | structured => exact select_near hk hn fun h => hq h hm
  | search => exact search_near hk hn hr query

end

/-- A structured query whose groups are nested too deep ends the stack before
any record is looked at. -/
theorem answer_of_lt {query : String} (hm : Mode.ofQuery query = .structured)
    (hl : query.length ≤ Numeral.maxDigits) (h : limits.groups < nesting query.toList) :
    limits.answer records name query = .error (.stackEnded .compiling) := by
  obtain ⟨filter, hc⟩ := Filter.exists_parse hl
  rw [← Filter.parse_normalize] at hc
  rw [← nesting_normalize] at h
  rw [answer, hm]
  show limits.select records name query = _
  rw [select, compile_of_lt hc h]
  rfl

end Limits

end RecordQuery
