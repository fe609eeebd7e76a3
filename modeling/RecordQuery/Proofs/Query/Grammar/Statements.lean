import RecordQuery.Proofs.Query.Grammar.Literals

/-!
# Reading statements

A written condition is neat and flat, no keyword is a word of its own in it,
and it is read as the leaf it stands for. The list form cannot match a
comparison: behind the name it meets the operator where it needs `IN`.
-/

namespace RecordQuery.Grammar

open Nesting (start Flat Solid isPlain)

-- ---------------------------------------------------------------------------
-- Optional spaces
-- ---------------------------------------------------------------------------

section
variable (wide : Bool) {text first second : List Char}

theorem flat_gap : Flat (gap wide) := by
  cases wide <;> exact .plain (List.all_eq_true.mp rfl)

theorem isBlankText_gap : Text.isBlankText (gap wide) = true := by
  cases wide <;> rfl

theorem keywordless_gap (h : Keywordless text) : Keywordless (gap wide ++ text) := by
  cases wide with
  | false => exact h
  | true => exact h.space

theorem neat_gap (ha : Text.Neat first) (hb : Text.Neat second) (hf : first ≠ [])
    (hs : second ≠ []) : Text.Neat (first ++ (gap wide ++ second)) := by
  cases wide with
  | false => exact ha.append hb
  | true => exact ha.join hb hf hs

end

-- ---------------------------------------------------------------------------
-- Lists of items
-- ---------------------------------------------------------------------------

section
variable (layout : Layout) (item : Item) (others : List Item)

theorem comma_piece : Piece [','] := .of_all rfl rfl

theorem bracket_piece : Piece [']'] := .of_all rfl rfl

theorem itemsText_cons (next : Item) :
    itemsText layout item (next :: others) =
      (item.text ++ [',']) ++ (gap layout.afterCommas ++ itemsText layout next others) := by
  simp [itemsText]

theorem itemsText_ne_nil : itemsText layout item others ≠ [] := by
  cases others with
  | nil => exact item.piece.ne_nil
  | cons next others =>
    rw [itemsText_cons]
    simp

theorem itemsText_neat : Text.Neat (itemsText layout item others) := by
  induction others generalizing item with
  | nil => exact item.piece.neat
  | cons next others ih =>
    rw [itemsText_cons]
    exact neat_gap _ (item.piece.append comma_piece).neat (ih next) (by simp)
      (itemsText_ne_nil layout next others)

theorem itemsText_flat : Flat (itemsText layout item others) := by
  induction others generalizing item with
  | nil => exact item.piece.flat
  | cons next others ih =>
    rw [itemsText_cons]
    exact (item.piece.append comma_piece).flat.append ((flat_gap _).append (ih next))

theorem itemsText_keywordless : Keywordless (itemsText layout item others ++ [']']) := by
  induction others generalizing item with
  | nil => exact item.piece.cons_keywordless bracket_piece.keywordless
  | cons next others ih =>
    rw [itemsText_cons, List.append_assoc (item.text ++ [',']), List.append_assoc (gap _)]
    exact (item.piece.append comma_piece).cons_keywordless (keywordless_gap _ (ih next))

theorem bracket_not_mem_itemsText : ']' ∉ itemsText layout item others := by
  induction others generalizing item with
  | nil => exact item.bracket_not_mem
  | cons next others ih =>
    have hg : ']' ∉ gap layout.afterCommas := by cases layout.afterCommas <;> decide
    simp [itemsText, item.bracket_not_mem, hg, ih next]

theorem map_item_cut_gap (wide : Bool) (text : List Char) :
    (Text.cut [','] (gap wide ++ text)).map Condition.item =
      (Text.cut [','] text).map Condition.item := by
  have hg : ',' ∉ gap wide := by cases wide <;> decide
  obtain ⟨first, others, ht, hc⟩ := Text.cut_singleton_append hg text
  rw [hc, ht, List.map_cons, List.map_cons, item_gap]

theorem map_item_cut :
    (Text.cut [','] (itemsText layout item others)).map Condition.item =
      (item :: others).map Item.value := by
  induction others generalizing item with
  | nil =>
    rw [itemsText, Text.cut_singleton_of_not_mem item.comma_not_mem, List.map_singleton,
      item.item_text]
    rfl
  | cons next others ih =>
    rw [itemsText, Text.cut_singleton_join, Text.cut_singleton_of_not_mem item.comma_not_mem,
      List.map_append, map_item_cut_gap, ih, List.map_singleton, item.item_text]
    rfl

theorem items?_of_no_bracket {text : List Char} (hne : text ≠ []) (hb : ']' ∉ text) :
    Condition.items? ('[' :: (text ++ [']'])) =
      some ((Text.cut [','] text).map Condition.item) := by
  have hp : ∀ c ∈ text, (c != ']') = true := fun c hc => bne_iff_ne.mpr fun he => hb (he ▸ hc)
  rw [Condition.items?, List.takeWhile_append_of_pos hp, List.dropWhile_append_of_pos hp]
  cases text with
  | nil => exact absurd rfl hne
  | cons c rest => simp

theorem items?_itemsText :
    Condition.items? ('[' :: (itemsText layout item others ++ [']'])) =
      some ((item :: others).map Item.value) := by
  rw [items?_of_no_bracket (itemsText_ne_nil layout item others)
    (bracket_not_mem_itemsText layout item others), map_item_cut]

end

-- ---------------------------------------------------------------------------
-- Reading
-- ---------------------------------------------------------------------------

theorem nameOf?_append {name rest : List Char} (hn : name ≠ [])
    (hw : ∀ c ∈ name, Text.isWord c = true) (h : ∀ c ∈ rest.head?, Text.isWord c = false) :
    Condition.nameOf? (name ++ rest) = some (name, rest) := by
  have ht : rest.takeWhile Text.isWord = [] := by
    cases rest with
    | nil => rfl
    | cons c rest => simp [h c rfl]
  have hd : rest.dropWhile Text.isWord = rest := by
    cases rest with
    | nil => rfl
    | cons c rest => simp [h c rfl]
  rw [Condition.nameOf?, List.takeWhile_append_of_pos hw, List.dropWhile_append_of_pos hw, ht, hd,
    List.append_nil]
  cases name with
  | nil => exact absurd rfl hn
  | cons c name => rfl

section
variable {name : List Char} (hn : name ≠ []) (hw : ∀ c ∈ name, Text.isWord c = true)
  (rest : List Char)

include hn hw in
theorem nameOf?_list :
    Condition.nameOf? (name ++ (" IN [".toList ++ rest)) = some (name, " IN [".toList ++ rest) := by
  refine nameOf?_append hn hw fun c hc => ?_
  obtain rfl : ' ' = c := by simpa using hc
  rfl

include hn hw in
theorem membership?_list :
    Condition.membership? (name ++ (" IN [".toList ++ rest)) =
      (Condition.items? ('[' :: rest)).map fun items =>
        ⟨String.ofList name, .among, .list items⟩ := by
  rw [Condition.membership?, nameOf?_list hn hw]
  show (do
    let items ← Condition.items? ('[' :: rest)
    some ⟨String.ofList name, .among, .list items⟩ : Option Condition) = _
  cases Condition.items? ('[' :: rest) <;> rfl

include hn hw in
theorem comparison?_list : Condition.comparison? (name ++ (" IN [".toList ++ rest)) = none := by
  rw [Condition.comparison?, nameOf?_list hn hw]
  rfl

end

theorem Comparison.piece (comparison : Comparison) : Piece comparison.operator.name.toList := by
  cases comparison <;> exact .of_all rfl rfl

section
variable {name second third literal : List Char} (comparison : Comparison)

theorem Comparison.head_not_word (hs : Text.isBlankText second = true) (rest : List Char) :
    ∀ c ∈ (second ++ (comparison.operator.name.toList ++ rest)).head?, Text.isWord c = false := by
  intro c hc
  cases second with
  | nil => cases comparison <;> cases hc <;> rfl
  | cons x second =>
    obtain rfl : x = c := Option.some.inj hc
    exact Text.isWord_of_isBlank (Bool.and_eq_true_iff.mp hs).1

theorem Comparison.trimStart_name (hs : Text.isBlankText second = true) (rest : List Char) :
    Text.trimStart (second ++ (comparison.operator.name.toList ++ rest)) =
      comparison.operator.name.toList ++ rest := by
  rw [Text.trimStart_blank_append hs]
  cases comparison <;> rfl

theorem operatorOf?_name (rest : List Char) :
    Condition.operatorOf? (comparison.operator.name.toList ++ rest) =
      some (comparison.operator, rest) := by
  cases comparison <;> rfl

theorem membership?_comparison (hn : name ≠ []) (hw : ∀ c ∈ name, Text.isWord c = true)
    (hs : Text.isBlankText second = true) (rest : List Char) :
    Condition.membership? (name ++ (second ++ (comparison.operator.name.toList ++ rest))) =
      none := by
  rw [Condition.membership?, nameOf?_append hn hw (comparison.head_not_word hs rest)]
  cases second with
  | nil => cases comparison <;> rfl
  | cons c second =>
    obtain ⟨hc, ht⟩ := Bool.and_eq_true_iff.mp hs
    have ha : Condition.afterBlanks? (c :: second ++ (comparison.operator.name.toList ++ rest)) =
        some (comparison.operator.name.toList ++ rest) := by
      rw [List.cons_append, Condition.afterBlanks?, if_pos hc, comparison.trimStart_name ht]
    simp only [Option.bind_eq_bind, Option.bind_some, ha]
    cases comparison <;> rfl

theorem comparison?_comparison (hn : name ≠ []) (hw : ∀ c ∈ name, Text.isWord c = true)
    (hs : Text.isBlankText second = true) (ht : Text.isBlankText third = true)
    (he : literal ≠ []) (hb : ∀ c ∈ literal.head?, Text.isBlank c = false) (hl : '\n' ∉ literal) :
    Condition.comparison?
        (name ++ (second ++ (comparison.operator.name.toList ++ (third ++ literal)))) =
      some (String.ofList name, comparison.operator, literal) := by
  have hf : (literal.isEmpty || literal.contains '\n') = false := by
    rw [List.isEmpty_eq_false_iff.mpr he, Bool.false_or]
    exact Bool.eq_false_iff.mpr fun hc => hl (List.contains_iff_mem.mp hc)
  rw [Condition.comparison?, nameOf?_append hn hw (comparison.head_not_word hs _)]
  simp only [Option.bind_eq_bind, Option.bind_some, comparison.trimStart_name hs, operatorOf?_name,
    Text.trimStart_blank_append ht, Text.trimStart_eq_self hb, hf, Bool.false_eq_true, ↓reduceIte]

end

section
variable (layout : Layout) (field : Name) (comparison : Comparison) (value : Literal)

theorem membership?_compares :
    Condition.membership? ((Statement.compares field comparison value).text layout) = none :=
  membership?_comparison comparison field.nonempty field.isWord (isBlankText_gap _) _

theorem comparison?_compares :
    Condition.comparison? ((Statement.compares field comparison value).text layout) =
      some (String.ofList field.chars, comparison.operator, value.text) := by
  have hl : '\n' ∉ value.text := fun hc =>
    absurd (value.piece.neat.spaces '\n' hc rfl) (by decide)
  exact comparison?_comparison comparison field.nonempty field.isWord (isBlankText_gap _)
    (isBlankText_gap _) value.piece.ne_nil value.piece.neat.begins hl

theorem membership?_among (first : Item) (others : List Item) :
    Condition.membership? ((Statement.among field first others).text layout) =
      some (Statement.among field first others).condition := by
  rw [Statement.text, membership?_list field.nonempty field.isWord, items?_itemsText]
  rfl

end

namespace Statement

variable (layout : Layout) (stated : Statement)

theorem text_neat : Text.Neat (stated.text layout) := by
  cases stated with
  | compares field comparison value =>
    refine neat_gap _ field.neat ?_ field.nonempty ?_
    · exact neat_gap _ comparison.piece.neat value.piece.neat comparison.piece.ne_nil
        value.piece.ne_nil
    · exact List.append_ne_nil_of_left_ne_nil comparison.piece.ne_nil _
  | among field first others =>
    have hi : Text.Neat ('[' :: (itemsText layout first others ++ [']'])) :=
      .enclosed (itemsText_neat layout first others).toSingleSpaced rfl rfl
    have hk : Text.Neat "IN".toList := .of_all rfl
    exact field.neat.join (hk.join hi (by decide) (List.cons_ne_nil _ _)) field.nonempty (by simp)

theorem text_flat : Flat (stated.text layout) := by
  cases stated with
  | compares field comparison value =>
    exact field.flat.append ((flat_gap _).append (comparison.piece.flat.append
      ((flat_gap _).append value.piece.flat)))
  | among field first others =>
    exact field.flat.append ((Flat.plain (List.all_eq_true.mp rfl)).append
      ((itemsText_flat layout first others).append bracket_piece.flat))

theorem text_keywordless : Keywordless (stated.text layout) := by
  cases stated with
  | compares field comparison value =>
    have hv (wide : Bool) : Keywordless (gap wide ++ value.text) :=
      keywordless_gap wide value.piece.keywordless
    rw [text]
    cases layout.aroundOperators with
    | true =>
      exact .word field.plain field.no_space field.noKeyword
        (comparison.piece.cons_keywordless (hv true))
    | false =>
      -- Name and operator are one word here, which the operator makes foreign.
      rw [show gap false = [] from rfl, List.nil_append, ← List.append_assoc]
      have hs : Solid (field.chars ++ comparison.operator.name.toList) :=
        (Solid.of_not_mem field.no_space).append field.flat.run comparison.piece.solid
      refine .append (field.flat.append comparison.piece.flat).run hs ?_ (hv false)
      obtain ⟨c, hc, hf⟩ := comparison.piece.foreign
      exact ⟨c, List.mem_append_right _ hc, hf⟩
  | among field first others =>
    have hk : Piece "IN".toList := .of_all rfl rfl
    have hb : Piece ['['] := .of_all rfl rfl
    exact .word field.plain field.no_space field.noKeyword (hk.cons_keywordless
      (hb.cons_keywordless (itemsText_keywordless layout first others)).space)

theorem head_text : (stated.text layout).head? ≠ some '(' := by
  have hn (field : Name) (rest : List Char) : (field.chars ++ rest).head? ≠ some '(' := by
    rw [List.head?_append_of_ne_nil _ field.nonempty]
    intro h
    have hp := field.plain '(' (List.mem_of_mem_head? h)
    cases hp
  cases stated <;> exact hn _ _

theorem read?_text : Condition.read? (stated.text layout) = .ok (some stated.condition) := by
  simp only [Condition.read?, (stated.text_neat layout).trim]
  cases stated with
  | compares field comparison value =>
    simp only [membership?_compares, comparison?_compares, value.parseLiteral_text]
    rfl
  | among field first others => simp only [membership?_among]

/-- A sign of the condition that survives in lower case. -/
theorem exists_sign : ∃ c ∈ stated.text layout, c ≠ 'Σ' ∧ Text.lowerChar c = [c] ∧
    c ∉ "true".toList ∧ c ∉ "false".toList := by
  cases stated with
  | compares field comparison value =>
    have hc (c : Char) (h : c ∈ comparison.operator.name.toList) :
        c ∈ (compares field comparison value).text layout := by
      simp [text, h]
    cases comparison with
    | equal => exact ⟨'=', hc '=' (by decide), by decide⟩
    | unequal => exact ⟨'=', hc '=' (by decide), by decide⟩
    | greater => exact ⟨'>', hc '>' (by decide), by decide⟩
    | less => exact ⟨'<', hc '<' (by decide), by decide⟩
  | among field first others => exact ⟨'[', by simp [text], by decide⟩

theorem read_text : Leaf.read (stated.text layout) = .ok (.condition stated.condition) := by
  obtain ⟨c, hc, hs, hl, htrue, hfalse⟩ := stated.exists_sign layout
  simp only [Leaf.read, (stated.text_neat layout).trim, lower_ne hc hs hl htrue,
    lower_ne hc hs hl hfalse, (stated.text_flat layout).noGroups, stated.read?_text layout,
    Bool.false_eq_true, ↓reduceIte]
  rfl

end Statement

end RecordQuery.Grammar
