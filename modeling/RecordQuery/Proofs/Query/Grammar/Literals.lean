import RecordQuery.Proofs.Numeral
import RecordQuery.Proofs.Query.Grammar
import RecordQuery.Proofs.Query.Splitting
import RecordQuery.Proofs.Text.Word
import RecordQuery.Proofs.Value.Literal

/-!
# Names, literals and items of lists

Names, literals and items are solid: no space in them stands at the top
level. Each is neat and flat, and each but a name holds a character that no
keyword has. Literals and items are read back as the values they stand for.
-/

namespace RecordQuery.Grammar

open Nesting (start Flat Solid isPlain)

/-- What holds of every text between two spaces of a condition that is no
name. -/
structure Piece (text : List Char) : Prop where
  neat : Text.Neat text
  flat : Flat text
  solid : Solid text
  foreign : ∃ c ∈ text, isForeign c = true

namespace Piece

variable {text first second : List Char}

theorem ne_nil (h : Piece text) : text ≠ [] := by
  obtain ⟨c, hc, -⟩ := h.foreign
  exact List.ne_nil_of_mem hc

theorem run (h : Piece text) : start.run text = start := h.flat.run

theorem keywordless (h : Piece text) : Keywordless text := .solid h.run h.solid h.foreign

theorem cons_keywordless (h : Piece first) (hk : Keywordless second) :
    Keywordless (first ++ second) :=
  .append h.run h.solid h.foreign hk

theorem append (ha : Piece first) (hb : Piece second) : Piece (first ++ second) where
  neat := ha.neat.append hb.neat
  flat := ha.flat.append hb.flat
  solid := ha.solid.append ha.run hb.solid
  foreign := by
    obtain ⟨c, hc, hf⟩ := ha.foreign
    exact ⟨c, List.mem_append_left _ hc, hf⟩

theorem plain (hp : ∀ c ∈ text, isPlain c = true ∧ Text.isBlank c = false)
    (hf : ∃ c ∈ text, isForeign c = true) : Piece text where
  neat := .of_no_blank fun c hc => (hp c hc).2
  flat := .plain fun c hc => (hp c hc).1
  solid := .of_not_mem fun hs => absurd (hp ' ' hs).2 (by decide)
  foreign := hf

theorem of_all (hp : text.all (fun c => isPlain c && !Text.isBlank c) = true)
    (hf : text.any isForeign = true) : Piece text :=
  .plain (by simpa using hp) (List.any_eq_true.mp hf)

end Piece

-- ---------------------------------------------------------------------------
-- Names
-- ---------------------------------------------------------------------------

namespace Name

variable (field : Name)

theorem plain : ∀ c ∈ field.chars, isPlain c = true := fun c hc =>
  Nesting.isPlain_of Text.isWord (field.isWord c hc) rfl rfl rfl

theorem not_blank : ∀ c ∈ field.chars, Text.isBlank c = false :=
  fun c hc => Text.isBlank_of_isWord (field.isWord c hc)

theorem neat : Text.Neat field.chars := .of_no_blank field.not_blank

theorem flat : Flat field.chars := .plain field.plain

theorem no_space : ' ' ∉ field.chars := fun hs => absurd (field.not_blank ' ' hs) (by decide)

end Name

-- ---------------------------------------------------------------------------
-- Phrases and integers
-- ---------------------------------------------------------------------------

theorem Phrase.piece (phrase : Phrase) : Piece phrase.text where
  neat := .enclosed phrase.spaced rfl rfl
  flat := .quoted phrase.unquoted
  solid := .quoted phrase.unquoted
  foreign := ⟨'"', List.mem_cons_self, rfl⟩

theorem plain_of_isDigit (h : c.isDigit = true) :
    isPlain c = true ∧ Text.isBlank c = false ∧ isForeign c = true := by
  have hn (d : Char) (hd : d.isDigit = false) : c ≠ d := fun he => by simp [← he, h] at hd
  refine ⟨Nesting.isPlain_of Char.isDigit h rfl rfl rfl, Text.isBlank_of_isWord ?_, ?_⟩
  · rw [Text.isWord, if_pos (Text.isAscii_of_isDigit h)]
    simp [Char.isAlphanum, h]
  · simp [isForeign, hn 'A' rfl, hn 'N' rfl, hn 'D' rfl, hn 'O' rfl, hn 'R' rfl]

theorem exists_digit (n : Int) : ∃ c ∈ Text.intText n, c.isDigit = true := by
  obtain ⟨c, hc⟩ := List.exists_mem_of_ne_nil _ (Text.natText_ne_nil n.natAbs)
  exact ⟨c, List.mem_append_right _ hc, Text.isDigit_of_mem_natText hc⟩

theorem mem_intText (h : c ∈ Text.intText n) : c = '-' ∨ c.isDigit = true := by
  rcases List.mem_append.mp h with h | h
  · split at h
    · exact .inl (List.mem_singleton.mp h)
    · cases h
  · exact .inr (Text.isDigit_of_mem_natText h)

theorem integer_piece (n : Int) : Piece (Text.intText n) := by
  refine .plain (fun c hc => ?_) ?_
  · rcases mem_intText hc with rfl | hd
    · exact ⟨rfl, rfl⟩
    · exact ⟨(plain_of_isDigit hd).1, (plain_of_isDigit hd).2.1⟩
  · obtain ⟨c, hc, hd⟩ := exists_digit n
    exact ⟨c, hc, (plain_of_isDigit hd).2.2⟩

-- ---------------------------------------------------------------------------
-- Literals
-- ---------------------------------------------------------------------------

theorem lower_ne {text word : List Char} (h : c ∈ text) (hs : c ≠ 'Σ')
    (hl : Text.lowerChar c = [c]) (hw : c ∉ word) : (Text.lower text == word) = false :=
  beq_false_of_ne fun he => hw (he ▸ Text.mem_lower hs hl h)

theorem lowerChar_of_isDigit (h : c.isDigit = true) : Text.lowerChar c = [c] := by
  have hd := Text.toNat_of_isDigit h
  have hu : ¬ (c.val ≥ 'A'.val ∧ c.val ≤ 'Z'.val) := by
    rintro ⟨hl, -⟩
    have : 65 ≤ c.toNat := UInt32.le_iff_toNat_le.mp hl
    omega
  rw [Text.lowerChar, if_pos (Text.isAscii_of_isDigit h)]
  exact congrArg (fun d => [d]) (dif_neg hu)

namespace Literal

theorem piece (literal : Literal) : Piece literal.text := by
  cases literal with
  | null => exact .of_all rfl rfl
  | truth verdict => cases verdict <;> exact .of_all rfl rfl
  | integer n _ => exact integer_piece n
  | phrase content => exact content.piece

theorem unquoted?_intText (n : Int) : Value.unquoted? (Text.intText n) = none :=
  Value.unquoted?_eq_none fun hq => by rcases mem_intText hq with h | h <;> cases h

theorem parse_integer (n : Int) (h : (Text.natText n.natAbs).length ≤ Numeral.maxDigits) :
    Value.parseLiteral (Text.intText n) = .ok (.int n) := by
  obtain ⟨c, hc, hd⟩ := exists_digit n
  have hn (d : Char) (hd' : d.isDigit = false) : c ≠ d := fun he => by simp [← he, hd] at hd'
  have hnull : (Text.intText n == "NULL".toList) = false :=
    beq_false_of_ne fun he => absurd (he ▸ hc) (by simp [hn 'N' rfl, hn 'U' rfl, hn 'L' rfl])
  have htrue : (Text.lower (Text.intText n) == "true".toList) = false :=
    lower_ne hc (hn 'Σ' rfl) (lowerChar_of_isDigit hd)
      (by simp [hn 't' rfl, hn 'r' rfl, hn 'u' rfl, hn 'e' rfl])
  have hfalse : (Text.lower (Text.intText n) == "false".toList) = false :=
    lower_ne hc (hn 'Σ' rfl) (lowerChar_of_isDigit hd)
      (by simp [hn 'f' rfl, hn 'a' rfl, hn 'l' rfl, hn 's' rfl, hn 'e' rfl])
  have hlen : ¬ Numeral.maxDigits < (Numeral.ofInt n).whole.length := by
    rw [Numeral.ofInt, Text.length_digitsOf]
    exact Nat.not_lt_of_le h
  simp only [Value.parseLiteral, (integer_piece n).neat.trim, unquoted?_intText, hnull, htrue,
    hfalse, Bool.false_eq_true, ↓reduceIte, Numeral.ofText?_intText]
  have hi : (Numeral.ofInt n).isInteger = true := rfl
  rw [Value.ofNumeral, if_pos hi, if_neg hlen, Numeral.toInt_ofInt]

theorem parseLiteral_quoted (text : List Char) :
    Value.parseLiteral ('"' :: (text ++ ['"'])) = .ok (.text (String.ofList text)) := by
  have hq : Value.unquoted? ('"' :: (text ++ ['"'])) = some text :=
    Value.unquoted?_iff.mpr (.inl rfl)
  rw [Value.parseLiteral, Text.trim_enclosed rfl rfl, hq]

theorem parseLiteral_text (literal : Literal) :
    Value.parseLiteral literal.text = .ok literal.value := by
  cases literal with
  | null => rfl
  | truth verdict => cases verdict <;> rfl
  | integer n h => exact parse_integer n h
  | phrase content => exact parseLiteral_quoted content.chars

end Literal

-- ---------------------------------------------------------------------------
-- Items
-- ---------------------------------------------------------------------------

theorem item_gap (wide : Bool) (text : List Char) :
    Condition.item (gap wide ++ text) = Condition.item text := by
  cases wide with
  | false => rfl
  | true =>
    rw [gap, if_pos rfl, List.singleton_append, Condition.item, Condition.item, Text.trim,
      Text.trimStart_cons_blank rfl, ← Text.trim]

theorem item_quoted {text : List Char} (hq : '"' ∉ text) :
    Condition.item ('"' :: (text ++ ['"'])) =
      if text == "NULL".toList then .null else .text (String.ofList text) := by
  have hc : text.filter (· != '"') = text :=
    List.filter_eq_self.mpr fun c hc => bne_iff_ne.mpr fun he => hq (he ▸ hc)
  have hw : Text.without '"' ('"' :: (text ++ ['"'])) = text := by simp [Text.without, hc]
  rw [Condition.item, Text.trim_enclosed rfl rfl, hw]

namespace Item

theorem piece (item : Item) : Piece item.text := by
  cases item with
  | null => exact .of_all rfl rfl
  | phrase content => exact content.piece

theorem comma_not_mem (item : Item) : ',' ∉ item.text := by
  cases item with
  | null => decide
  | phrase content noComma => simp [text, Phrase.text, noComma]

theorem bracket_not_mem (item : Item) : ']' ∉ item.text := by
  cases item with
  | null => decide
  | phrase content _ noBracket => simp [text, Phrase.text, noBracket]

theorem item_text (item : Item) : Condition.item item.text = item.value := by
  cases item with
  | null => rfl
  | phrase content noComma noBracket noNull =>
    rw [text, Phrase.text, item_quoted content.unquoted, if_neg (by simpa using noNull)]
    rfl

end Item

end RecordQuery.Grammar
