import RecordQuery.Proofs.Query.Grammar.Statements

/-!
# Lists of items as they are read

A list may be written with any items, a null bare and a text in quotes. It is
read without regard to the quotes: the first closing bracket ends it, every
comma cuts it, and what is left of an item without its quotes is compared with
the word NULL. So a list is read back exactly if no text in it holds a bracket
or a comma and none is that word.
-/

namespace RecordQuery.Condition

open Grammar (gap item_quoted map_item_cut_gap items?_of_no_bracket membership?_list
  comparison?_list)

variable {items : List (Option String)} {text : List Char}

-- ---------------------------------------------------------------------------
-- Written lists
-- ---------------------------------------------------------------------------

def itemText : Option String → List Char
  | none => "NULL".toList
  | some s => '"' :: (s.toList ++ ['"'])

def itemValue : Option String → Value
  | none => .null
  | some s => .text s

def listText (items : List (Option String)) : List Char :=
  [',', ' '].intercalate (items.map itemText)

/-- The condition that a field is among items, as it is written. -/
def listing (field : String) (items : List (Option String)) : String :=
  String.ofList (field.toList ++ (" IN [".toList ++ (listText items ++ [']'])))

theorem listText_cons (first next : Option String) (rest : List (Option String)) :
    listText (first :: next :: rest) =
      itemText first ++ ',' :: (gap true ++ listText (next :: rest)) := by
  simp [listText, List.intercalate, gap]

theorem itemText_ne_nil (written : Option String) : itemText written ≠ [] := by
  cases written <;> simp [itemText]

theorem listText_ne_nil (hne : items ≠ []) : listText items ≠ [] := by
  cases items with
  | nil => exact absurd rfl hne
  | cons first rest => cases rest <;> simp [listText, List.intercalate, itemText_ne_nil]

theorem mem_listText {c : Char} (hc : c ≠ ',') (hs : c ≠ ' ') :
    c ∈ listText items ↔ ∃ written ∈ items, c ∈ itemText written := by
  induction items with
  | nil => simp [listText]
  | cons first rest ih =>
    cases rest with
    | nil => simp [listText]
    | cons next rest => simp [listText_cons, gap, hc, hs, ih]

theorem bracket_mem_listText :
    ']' ∈ listText items ↔ ∃ s, some s ∈ items ∧ ']' ∈ s.toList := by
  rw [mem_listText (by decide) (by decide)]
  constructor
  · rintro ⟨_ | s, hi, hb⟩
    · exact absurd hb (by decide)
    · exact ⟨s, hi, by simpa [itemText] using hb⟩
  · rintro ⟨s, hi, hb⟩
    exact ⟨some s, hi, by simp [itemText, hb]⟩

-- ---------------------------------------------------------------------------
-- Pieces
-- ---------------------------------------------------------------------------

/-- What an item is read as: each piece between its commas is one. -/
def readings (written : Option String) : List Value :=
  (Text.cut [','] (itemText written)).map item

theorem map_item_cut_listText (hne : items ≠ []) :
    (Text.cut [','] (listText items)).map item = items.flatMap readings := by
  induction items with
  | nil => exact absurd rfl hne
  | cons first rest ih =>
    cases rest with
    | nil => simp [listText, readings]
    | cons next rest =>
      rw [listText_cons, Text.cut_singleton_join, List.map_append, map_item_cut_gap,
        ih (List.cons_ne_nil next rest)]
      rfl

theorem readings_ne_nil (written : Option String) : readings written ≠ [] := by
  simp [readings, Text.cut_ne_nil]

theorem readings_text {s : String} (hq : '"' ∉ s.toList) (hc : ',' ∉ s.toList) :
    readings (some s) = [if s = "NULL" then .null else .text s] := by
  have hi : ',' ∉ itemText (some s) := by simp [itemText, hc]
  have hn : (s.toList == "NULL".toList) = decide (s = "NULL") := by
    rw [Bool.eq_iff_iff, beq_iff_eq, decide_eq_true_iff, String.toList_inj]
  rw [readings, Text.cut_singleton_of_not_mem hi, List.map_singleton, itemText, item_quoted hq, hn,
    String.ofList_toList]
  simp

theorem one_lt_length_readings {s : String} (hc : ',' ∈ s.toList) :
    1 < (readings (some s)).length := by
  obtain ⟨before, after, hs⟩ := List.append_of_mem hc
  have hb := List.length_pos_iff.mpr (Text.cut_ne_nil [','] ('"' :: before))
  have ha := List.length_pos_iff.mpr (Text.cut_ne_nil [','] (after ++ ['"']))
  have hi : itemText (some s) = ('"' :: before) ++ ',' :: (after ++ ['"']) := by
    simp [itemText, hs]
  rw [readings, hi, Text.cut_singleton_join, List.length_map, List.length_append]
  omega

theorem readings_eq_iff {written : Option String} (hq : ∀ s, written = some s → '"' ∉ s.toList) :
    readings written = [itemValue written] ↔
      ∀ s, written = some s → ',' ∉ s.toList ∧ s ≠ "NULL" := by
  cases written with
  | none => exact iff_of_true rfl (by simp)
  | some s =>
    simp only [Option.some.injEq, forall_eq']
    by_cases hc : ',' ∈ s.toList
    · refine iff_of_false (fun h => ?_) fun h => h.1 hc
      have := one_lt_length_readings hc
      rw [h] at this
      exact Nat.lt_irrefl _ this
    · rw [readings_text (hq s rfl) hc]
      by_cases hn : s = "NULL" <;> simp [itemValue, hc, hn]

/-- No item is read as nothing, so an item that is cut cannot be made up for
by another. -/
theorem flatMap_readings_eq_iff :
    items.flatMap readings = items.map itemValue ↔
      ∀ written ∈ items, readings written = [itemValue written] := by
  have hl (items : List (Option String)) : items.length ≤ (items.flatMap readings).length := by
    induction items with
    | nil => simp
    | cons first rest ih =>
      have := List.length_pos_iff.mpr (readings_ne_nil first)
      rw [List.flatMap_cons, List.length_append, List.length_cons]
      omega
  induction items with
  | nil => simp
  | cons first rest ih =>
    rw [List.flatMap_cons, List.map_cons, List.forall_mem_cons]
    constructor
    · intro h
      have hr := hl rest
      have hp := List.length_pos_iff.mpr (readings_ne_nil first)
      have he := congrArg List.length h
      rw [List.length_append, List.length_cons, List.length_map] at he
      have hs : (readings first).length = [itemValue first].length := by
        rw [List.length_singleton]
        omega
      obtain ⟨hf, ho⟩ := List.append_inj h hs
      exact ⟨hf, ih.mp ho⟩
    · rintro ⟨hf, hr⟩
      rw [hf, ih.mpr hr]
      rfl

-- ---------------------------------------------------------------------------
-- Reading
-- ---------------------------------------------------------------------------

theorem items?_of_bracket (hb : ']' ∈ text) : items? ('[' :: (text ++ [']'])) = none := by
  obtain ⟨before, after, rfl, hn⟩ := List.eq_append_cons_of_mem hb
  have hp : ∀ c ∈ before, (c != ']') = true := fun c hc => bne_iff_ne.mpr fun he => hn (he ▸ hc)
  rw [items?, List.append_assoc, List.takeWhile_append_of_pos hp, List.dropWhile_append_of_pos hp]
  cases before <;> simp

theorem items?_listText (hne : items ≠ []) :
    items? ('[' :: (listText items ++ [']'])) =
      if ']' ∈ listText items then none else some (items.flatMap readings) := by
  split
  · next hb => exact items?_of_bracket hb
  · next hb => rw [items?_of_no_bracket (listText_ne_nil hne) hb, map_item_cut_listText hne]

theorem parse_listing {field : String} (hf : field ≠ "")
    (hw : ∀ c ∈ field.toList, Text.isWord c = true) (hne : items ≠ []) :
    parse (listing field items) =
      if ']' ∈ listText items then .error (.invalidCondition (listing field items))
      else .ok ⟨field, .among, .list (items.flatMap readings)⟩ := by
  have hn : field.toList ≠ [] := by simpa using hf
  have hl : (listing field items).toList =
      field.toList ++ (" IN [".toList ++ (listText items ++ [']'])) := String.toList_ofList
  have ht : Text.trim (listing field items).toList = (listing field items).toList := by
    refine Text.trim_eq_self (fun c hc => ?_) fun c hc => ?_
    · rw [hl, List.head?_append_of_ne_nil _ hn] at hc
      exact Text.isBlank_of_isWord (hw c (List.mem_of_mem_head? hc))
    · rw [hl, ← List.append_assoc, ← List.append_assoc, List.getLast?_concat] at hc
      obtain rfl := Option.some.inj hc
      rfl
  rw [parse, read?, ht, hl, membership?_list hn hw, comparison?_list hn hw, items?_listText hne,
    String.ofList_toList]
  by_cases hb : ']' ∈ listText items
  · rw [if_pos hb, if_pos hb]
    rfl
  · rw [if_neg hb, if_neg hb]
    rfl

/-- A list is read back exactly if its texts hold no comma and no bracket and
none is the word NULL. A bracket makes the condition invalid; otherwise the
items are read piece by piece. -/
theorem parse_listing_iff {field : String} (hf : field ≠ "")
    (hw : ∀ c ∈ field.toList, Text.isWord c = true) (hne : items ≠ [])
    (hq : ∀ s, some s ∈ items → '"' ∉ s.toList) :
    (parse (listing field items) = .ok ⟨field, .among, .list (items.map itemValue)⟩ ↔
      ∀ s, some s ∈ items → ',' ∉ s.toList ∧ ']' ∉ s.toList ∧ s ≠ "NULL") ∧
    ((∃ s, some s ∈ items ∧ ']' ∈ s.toList) →
      parse (listing field items) = .error (.invalidCondition (listing field items))) ∧
    ((∀ s, some s ∈ items → ']' ∉ s.toList) →
      parse (listing field items) = .ok ⟨field, .among, .list (items.flatMap readings)⟩) := by
  have hp := parse_listing hf hw hne
  rw [hp]
  refine ⟨?_, fun hb => if_pos (bracket_mem_listText.mpr hb), fun hb => if_neg fun hl => ?_⟩
  · by_cases hb : ']' ∈ listText items
    · rw [if_pos hb]
      obtain ⟨s, hs, hm⟩ := bracket_mem_listText.mp hb
      exact iff_of_false (fun h => nomatch h) fun h => (h s hs).2.1 hm
    · have hr : items.flatMap readings = items.map itemValue ↔
          ∀ s, some s ∈ items → ',' ∉ s.toList ∧ s ≠ "NULL" := by
        rw [flatMap_readings_eq_iff]
        constructor
        · intro h s hs
          exact (readings_eq_iff fun _ he => hq _ (he ▸ hs)).mp (h _ hs) s rfl
        · intro h written hm
          exact (readings_eq_iff fun _ he => hq _ (he ▸ hm)).mpr fun s he => h s (he ▸ hm)
      rw [if_neg hb]
      simp only [Except.ok.injEq, Condition.mk.injEq, Value.list.injEq, true_and, hr]
      refine forall₂_congr fun s hs => ?_
      have hm : ']' ∉ s.toList := fun hm => hb (bracket_mem_listText.mpr ⟨s, hs, hm⟩)
      simp [hm]
  · obtain ⟨s, hs, hm⟩ := bracket_mem_listText.mp hl
    exact hb s hs hm

/-- A quoted NULL is read as a bare one. -/
theorem parse_quotedNull :
    listing "tag" [some "NULL"] = "tag IN [\"NULL\"]" ∧
    parse (listing "tag" [some "NULL"]) = .ok ⟨"tag", .among, .list [.null]⟩ ∧
    parse (listing "tag" [some "NULL"]) ≠ .ok ⟨"tag", .among, .list [.text "NULL"]⟩ := by
  have hf : "tag" ≠ "" := by decide
  have hw : ∀ c ∈ "tag".toList, Text.isWord c = true := List.all_eq_true.mp rfl
  have hq : ∀ s, some s ∈ [some "NULL"] → '"' ∉ s.toList := by simp
  have hb : ∀ s, some s ∈ [some "NULL"] → ']' ∉ s.toList := by simp
  obtain ⟨hi, -, hr⟩ := parse_listing_iff hf hw (List.cons_ne_nil _ _) hq
  exact ⟨rfl, hr hb, fun h => (hi.mp h "NULL" List.mem_cons_self).2.2 rfl⟩

end RecordQuery.Condition
