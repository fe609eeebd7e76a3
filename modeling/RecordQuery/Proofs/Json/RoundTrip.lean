import RecordQuery.Proofs.Json.Numeral
import RecordQuery.Proofs.Json.Text

/-!
# What is written is read

A storable value is read back from its JSON text, pretty or not. Each reader
is given the text of a value with something behind it, and leaves just that;
only after an integer must it not go on with the numeral.
-/

namespace RecordQuery.Json

variable {text rest : List Char} {fuel : Nat} {pretty : Bool} {depth outer : Nat}

-- ---------------------------------------------------------------------------
-- Blanks
-- ---------------------------------------------------------------------------

theorem skipBlanks_cons {c : Char} (h : isBlank c = false) : skipBlanks (c :: text) = c :: text :=
  List.dropWhile_cons_of_neg (by simp [h])

theorem skipBlanks_append {blanks : List Char} (h : ∀ c ∈ blanks, isBlank c = true) :
    skipBlanks (blanks ++ text) = skipBlanks text :=
  List.dropWhile_append_of_pos h

theorem isBlank_of_mem_lineBreak {c : Char} (h : c ∈ lineBreak pretty depth) :
    isBlank c = true := by
  rw [lineBreak] at h
  split at h
  · rcases List.mem_cons.mp h with rfl | h
    · rfl
    · obtain ⟨-, rfl⟩ := List.mem_replicate.mp h
      rfl
  · cases h

theorem skipBlanks_lineBreak :
    skipBlanks (lineBreak pretty depth ++ text) = skipBlanks text :=
  skipBlanks_append fun _ => isBlank_of_mem_lineBreak

theorem exists_gap (pretty : Bool) (depth : Nat) :
    ∃ blanks, gap pretty depth = ',' :: blanks ∧ ∀ c ∈ blanks, isBlank c = true := by
  refine ⟨_, rfl, fun c hc => ?_⟩
  cases pretty
  · rw [List.mem_singleton.mp hc]
    rfl
  · rw [if_pos rfl] at hc
    exact isBlank_of_mem_lineBreak hc

-- ---------------------------------------------------------------------------
-- Where values start and end
-- ---------------------------------------------------------------------------

theorem ends_cons {c : Char} (h : c.isDigit = false ∧ c ≠ '.' ∧ c ≠ 'e' ∧ c ≠ 'E') :
    Ends (c :: rest) := by
  intro d hd
  obtain rfl : c = d := Option.some.inj hd
  exact h

theorem ends_lineBreak (h : Ends rest) : Ends (lineBreak pretty depth ++ rest) := by
  rw [lineBreak]
  split
  · exact ends_cons (by decide)
  · exact h

theorem ends_writeItems (items : List Value) (h : Ends rest) :
    Ends (writeItems pretty depth items ++ rest) := by
  cases items with
  | nil => exact h
  | cons item items =>
    rw [writeItems, gap]
    exact ends_cons (by decide)

theorem ends_writeFields (fields : Record) (h : Ends rest) :
    Ends (writeFields pretty depth fields ++ rest) := by
  cases fields with
  | nil => exact h
  | cons field fields =>
    rw [writeFields, gap]
    exact ends_cons (by decide)

/-- A value may start with this character: it is no blank and closes
nothing. -/
def Opens (c : Char) : Prop := isBlank c = false ∧ c ≠ ']' ∧ c ≠ '\x7d'

instance (c : Char) : Decidable (Opens c) := by
  unfold Opens
  infer_instance

theorem opens_of_isDigit {c : Char} (h : c.isDigit = true) : Opens c := by
  have hn (d : Char) (hd : d.isDigit = false) : c ≠ d := Text.ne_of_isDigit h hd
  exact ⟨by simp [isBlank, hn], hn _ rfl, hn _ rfl⟩

theorem exists_intText (n : Int) :
    ∃ c tail, Text.intText n = c :: tail ∧ (c = '-' ∨ c.isDigit = true) := by
  rw [Text.intText]
  split
  · exact ⟨'-', _, rfl, .inl rfl⟩
  · obtain ⟨c, tail, hc⟩ := List.exists_cons_of_ne_nil (Text.natText_ne_nil n.natAbs)
    exact ⟨c, tail, hc, .inr (Text.isDigit_of_mem_natText (hc ▸ List.mem_cons_self))⟩

theorem exists_writeAt (pretty : Bool) (depth : Nat) (value : Value)
    (h : value.isStorable = true) : ∃ c tail, writeAt pretty depth value = c :: tail ∧ Opens c := by
  cases value with
  | null => exact ⟨_, _, rfl, by decide⟩
  | bool b => cases b <;> exact ⟨_, _, rfl, by decide⟩
  | int n =>
    obtain ⟨c, tail, ht, hc⟩ := exists_intText n
    refine ⟨c, tail, ht, ?_⟩
    rcases hc with rfl | hc
    · decide
    · exact opens_of_isDigit hc
  | float x => cases h
  | text s => exact ⟨_, _, rfl, by decide⟩
  | list items => cases items <;> exact ⟨_, _, rfl, by decide⟩
  | object fields => cases fields <;> exact ⟨_, _, rfl, by decide⟩

theorem skipBlanks_writeAt (value : Value) (h : value.isStorable = true) :
    skipBlanks (writeAt pretty depth value ++ rest) = writeAt pretty depth value ++ rest := by
  obtain ⟨c, tail, ht, hc⟩ := exists_writeAt pretty depth value h
  rw [ht]
  exact skipBlanks_cons hc.1

-- ---------------------------------------------------------------------------
-- One reader each
-- ---------------------------------------------------------------------------

theorem valueWithin_int {n : Int} (h : (Value.int n).isReadable = true) (hr : Ends rest) :
    valueWithin (fuel + 1) (Text.intText n ++ rest) = some (.int n, rest) := by
  obtain ⟨c, tail, ht, hc⟩ := exists_intText n
  have hn : c ≠ '"' ∧ c ≠ '[' ∧ c ≠ '\x7b' := by
    rcases hc with rfl | hc
    · decide
    · exact ⟨Text.ne_of_isDigit hc rfl, Text.ne_of_isDigit hc rfl, Text.ne_of_isDigit hc rfl⟩
  have hv : valueWithin (fuel + 1) (c :: (tail ++ rest)) =
      (word? (c :: (tail ++ rest))).or (number? (c :: (tail ++ rest))) := by
    rw [valueWithin]
    · exact fun _ he => hn.1 (List.cons.inj he).1
    · exact fun _ he => hn.2.1 (List.cons.inj he).1
    · exact fun _ he => hn.2.2 (List.cons.inj he).1
  rw [ht, List.cons_append, hv, ← List.cons_append, ← ht, word?_intText, number?_intText h hr]
  rfl

theorem valueWithin_text (s : String) :
    valueWithin (fuel + 1) (writeText s.toList ++ rest) = some (.text s, rest) := by
  simp only [writeText, List.cons_append, List.append_assoc, List.nil_append]
  rw [valueWithin, textAfterQuote?_escape]
  simp only [Option.map_some, String.ofList_toList]

theorem valueWithin_bracket {c : Char} (h : Opens c) :
    valueWithin (fuel + 1) ('[' :: (lineBreak pretty depth ++ c :: text)) =
      (itemsWithin fuel (c :: text)).map fun read => (.list read.1, read.2) := by
  rw [valueWithin, skipBlanks_lineBreak, skipBlanks_cons h.1]
  split
  · next he => exact absurd (List.cons.inj he).1 h.2.1
  · rfl

theorem valueWithin_brace {c : Char} (h : Opens c) :
    valueWithin (fuel + 1) ('\x7b' :: (lineBreak pretty depth ++ c :: text)) =
      (fieldsWithin fuel (c :: text)).map fun read =>
        (.object (Record.ofFields read.1), read.2) := by
  rw [valueWithin, skipBlanks_lineBreak, skipBlanks_cons h.1]
  split
  · next he => exact absurd (List.cons.inj he).1 h.2.2
  · rfl

theorem itemsWithin_comma {item : Value} (hv : valueWithin fuel text = some (item, ',' :: rest)) :
    itemsWithin (fuel + 1) text =
      (itemsWithin fuel (skipBlanks rest)).map fun read => (item :: read.1, read.2) := by
  rw [itemsWithin, hv]
  cases hi : itemsWithin fuel (skipBlanks rest) <;> simp [skipBlanks_cons, isBlank, hi]

theorem itemsWithin_close {item : Value}
    (hv : valueWithin fuel text = some (item, lineBreak pretty depth ++ ']' :: rest)) :
    itemsWithin (fuel + 1) text = some ([item], rest) := by
  rw [itemsWithin, hv]
  simp [skipBlanks_lineBreak, skipBlanks_cons, isBlank]

def written (name : String) (text : List Char) : List Char :=
  writeText name.toList ++ ':' :: ' ' :: text

theorem skipBlanks_written {name : String} : skipBlanks (written name text) = written name text :=
  skipBlanks_cons rfl

theorem fieldsWithin_comma {name : String} {value : Value} (ht : skipBlanks text = text)
    (hv : valueWithin fuel text = some (value, ',' :: rest)) :
    fieldsWithin (fuel + 1) (written name text) =
      (fieldsWithin fuel (skipBlanks rest)).map fun read => ((name, value) :: read.1, read.2) := by
  simp only [written, writeText, List.cons_append, List.append_assoc, List.nil_append]
  rw [fieldsWithin, textAfterQuote?_escape]
  have hs : skipBlanks (' ' :: text) = text := ht
  cases hf : fieldsWithin fuel (skipBlanks rest) <;>
    simp [skipBlanks_cons, isBlank, hs, hv, hf]

theorem fieldsWithin_close {name : String} {value : Value} (ht : skipBlanks text = text)
    (hv : valueWithin fuel text = some (value, lineBreak pretty depth ++ '\x7d' :: rest)) :
    fieldsWithin (fuel + 1) (written name text) = some ([(name, value)], rest) := by
  simp only [written, writeText, List.cons_append, List.append_assoc, List.nil_append]
  rw [fieldsWithin, textAfterQuote?_escape]
  have hs : skipBlanks (' ' :: text) = text := ht
  simp [skipBlanks_lineBreak, skipBlanks_cons, isBlank, hs, hv]

-- ---------------------------------------------------------------------------
-- Whole values
-- ---------------------------------------------------------------------------

mutual
/-- Fuel that a value is read with: a step for each value and one more for
each item or field. -/
def steps : Value → Nat
  | .list items => stepsOfItems items + 1
  | .object fields => stepsOfFields fields + 1
  | _ => 1
def stepsOfItems : List Value → Nat
  | [] => 0
  | item :: rest => steps item + stepsOfItems rest + 1
def stepsOfFields : List (String × Value) → Nat
  | [] => 0
  | (_, value) :: rest => steps value + stepsOfFields rest + 1
end

theorem steps_pos (value : Value) : 0 < steps value := by
  cases value <;> simp [steps]

theorem ends_items (items : List Value) (depth outer : Nat) (rest : List Char) :
    Ends (writeItems pretty depth items ++ (lineBreak pretty outer ++ ']' :: rest)) :=
  ends_writeItems items (ends_lineBreak (ends_cons (by decide)))

theorem ends_fields (fields : Record) (depth outer : Nat) (rest : List Char) :
    Ends (writeFields pretty depth fields ++ (lineBreak pretty outer ++ '\x7d' :: rest)) :=
  ends_writeFields fields (ends_lineBreak (ends_cons (by decide)))

-- By recursion on the value. What is read stands before arbitrary text, so
-- that an item can be read before those that follow it.
mutual
theorem valueWithin_writeAt (value : Value) (h : value.isStorable = true) (depth : Nat)
    {fuel : Nat} {rest : List Char} (hr : Ends rest) (hf : steps value ≤ fuel) :
    valueWithin fuel (writeAt pretty depth value ++ rest) = some (value, rest) := by
  obtain ⟨fuel, rfl⟩ : ∃ n, fuel = n + 1 := Nat.exists_eq_add_one.mpr
    (Nat.lt_of_lt_of_le (steps_pos value) hf)
  cases value with
  | null => simp [writeAt, valueWithin, word?, words]
  | bool b => cases b <;> simp [writeAt, valueWithin, word?, words]
  | int n => exact valueWithin_int (Value.isStorable_iff.mp h).1 hr
  | float x => cases h
  | text s => exact valueWithin_text s
  | list items =>
    cases items with
    | nil => rfl
    | cons item items =>
      obtain ⟨hi, hs⟩ := List.forall_mem_cons.mp (Value.isStorable_list.mp h)
      simp only [steps, stepsOfItems] at hf
      obtain ⟨fuel, rfl⟩ : ∃ n, fuel = n + 1 := Nat.exists_eq_add_one.mpr (by omega)
      have hle : steps item ≤ fuel := by omega
      have hread := itemsWithin_writeItems items hs
        (valueWithin_writeAt item hi (depth + 1) (ends_items items (depth + 1) depth rest) hle)
        (by omega)
      obtain ⟨c, tail, ht, hc⟩ := exists_writeAt pretty (depth + 1) item hi
      simp only [writeAt, List.cons_append, List.append_assoc, List.nil_append]
      rw [ht, List.cons_append] at hread ⊢
      rw [valueWithin_bracket hc, hread]
      rfl
  | object fields =>
    cases fields with
    | nil => rfl
    | cons field fields =>
      obtain ⟨name, value⟩ := field
      obtain ⟨hn, hs⟩ := Value.isStorable_object.mp h
      obtain ⟨hi, hs⟩ := List.forall_mem_cons.mp hs
      simp only [steps, stepsOfFields] at hf
      obtain ⟨fuel, rfl⟩ : ∃ n, fuel = n + 1 := Nat.exists_eq_add_one.mpr (by omega)
      have hle : steps value ≤ fuel := by omega
      have hread := fieldsWithin_writeFields name fields hs (skipBlanks_writeAt value hi)
        (valueWithin_writeAt value hi (depth + 1) (ends_fields fields (depth + 1) depth rest) hle)
        (by omega)
      simp only [written, writeText, writeAt, List.cons_append, List.append_assoc,
        List.nil_append] at hread ⊢
      rw [valueWithin_brace (by decide), hread]
      simp only [Option.map_some, Record.ofFields_eq_self hn]
theorem itemsWithin_writeItems (items : List Value)
    (h : ∀ item ∈ items, item.isStorable = true) {item : Value} {fuel depth outer : Nat}
    {text rest : List Char}
    (hv : valueWithin fuel text =
      some (item, writeItems pretty depth items ++ (lineBreak pretty outer ++ ']' :: rest)))
    (hf : stepsOfItems items ≤ fuel) :
    itemsWithin (fuel + 1) text = some (item :: items, rest) := by
  cases items with
  | nil => exact itemsWithin_close hv
  | cons next items =>
    obtain ⟨hi, hs⟩ := List.forall_mem_cons.mp h
    rw [stepsOfItems] at hf
    obtain ⟨fuel, rfl⟩ : ∃ n, fuel = n + 1 := Nat.exists_eq_add_one.mpr (by omega)
    have hle : steps next ≤ fuel := by omega
    have hread := itemsWithin_writeItems items hs
      (valueWithin_writeAt next hi depth (ends_items items depth outer rest) hle) (by omega)
    obtain ⟨blanks, hgap, hblank⟩ := exists_gap pretty depth
    simp only [writeItems, hgap, List.cons_append, List.append_assoc] at hv
    rw [itemsWithin_comma hv, skipBlanks_append hblank, skipBlanks_writeAt next hi, hread]
    rfl
theorem fieldsWithin_writeFields (name : String) (fields : Record)
    (h : ∀ field ∈ fields, field.2.isStorable = true) {value : Value} {fuel depth outer : Nat}
    {text rest : List Char} (ht : skipBlanks text = text)
    (hv : valueWithin fuel text =
      some (value, writeFields pretty depth fields ++ (lineBreak pretty outer ++ '\x7d' :: rest)))
    (hf : stepsOfFields fields ≤ fuel) :
    fieldsWithin (fuel + 1) (written name text) = some ((name, value) :: fields, rest) := by
  cases fields with
  | nil => exact fieldsWithin_close ht hv
  | cons next fields =>
    obtain ⟨other, new⟩ := next
    obtain ⟨hi, hs⟩ := List.forall_mem_cons.mp h
    rw [stepsOfFields] at hf
    obtain ⟨fuel, rfl⟩ : ∃ n, fuel = n + 1 := Nat.exists_eq_add_one.mpr (by omega)
    have hle : steps new ≤ fuel := by omega
    have hread := fieldsWithin_writeFields other fields hs (skipBlanks_writeAt new hi)
      (valueWithin_writeAt new hi depth (ends_fields fields depth outer rest) hle) (by omega)
    obtain ⟨blanks, hgap, hblank⟩ := exists_gap pretty depth
    simp only [writeFields, hgap, List.cons_append, List.append_assoc] at hv
    rw [fieldsWithin_comma ht hv, skipBlanks_append hblank, ← written, skipBlanks_written, hread]
    rfl
end

mutual
theorem steps_lt (pretty : Bool) (depth : Nat) (value : Value) (h : value.isStorable = true) :
    steps value < 2 * (writeAt pretty depth value).length := by
  cases value with
  | list items =>
    cases items with
    | nil => simp [steps, stepsOfItems, writeAt]
    | cons item items =>
      obtain ⟨hi, hs⟩ := List.forall_mem_cons.mp (Value.isStorable_list.mp h)
      have hitem := steps_lt pretty (depth + 1) item hi
      have hitems := stepsOfItems_le pretty (depth + 1) items hs
      simp only [steps, stepsOfItems, writeAt, List.length_cons, List.length_append]
      omega
  | object fields =>
    cases fields with
    | nil => simp [steps, stepsOfFields, writeAt]
    | cons field fields =>
      obtain ⟨hi, hs⟩ := List.forall_mem_cons.mp (Value.isStorable_object.mp h).2
      have hvalue := steps_lt pretty (depth + 1) field.2 hi
      have hfields := stepsOfFields_le pretty (depth + 1) fields hs
      simp only [steps, stepsOfFields, writeAt, List.length_cons, List.length_append]
      omega
  | _ =>
    obtain ⟨c, tail, ht, -⟩ := exists_writeAt pretty depth _ h
    simp only [steps, ht, List.length_cons]
    omega
theorem stepsOfItems_le (pretty : Bool) (depth : Nat) (items : List Value)
    (h : ∀ item ∈ items, item.isStorable = true) :
    stepsOfItems items ≤ 2 * (writeItems pretty depth items).length := by
  cases items with
  | nil => exact Nat.zero_le _
  | cons item items =>
    obtain ⟨hi, hs⟩ := List.forall_mem_cons.mp h
    have hitem := steps_lt pretty depth item hi
    have hitems := stepsOfItems_le pretty depth items hs
    simp only [stepsOfItems, writeItems, List.length_append]
    omega
theorem stepsOfFields_le (pretty : Bool) (depth : Nat) (fields : Record)
    (h : ∀ field ∈ fields, field.2.isStorable = true) :
    stepsOfFields fields ≤ 2 * (writeFields pretty depth fields).length := by
  cases fields with
  | nil => exact Nat.zero_le _
  | cons field fields =>
    obtain ⟨hi, hs⟩ := List.forall_mem_cons.mp h
    have hvalue := steps_lt pretty depth field.2 hi
    have hfields := stepsOfFields_le pretty depth fields hs
    simp only [stepsOfFields, writeFields, List.length_append, List.length_cons]
    omega
end

theorem read?_write {value : Value} (h : value.isStorable = true) :
    read? (write pretty value) = some value := by
  have hs : skipBlanks (write pretty value ++ []) = write pretty value ++ [] :=
    skipBlanks_writeAt value h
  have hlt : steps value < 2 * (write pretty value).length := steps_lt pretty 0 value h
  have hends : Ends [] := fun c hc => by cases hc
  have hv : valueWithin (2 * (write pretty value).length + 2) (write pretty value ++ []) =
      some (value, []) :=
    valueWithin_writeAt value h 0 hends (Nat.le_of_lt (Nat.lt_add_right 2 hlt))
  rw [List.append_nil] at hs hv
  rw [read?, hs, hv]
  rfl

end RecordQuery.Json
