import RecordQuery.Value.Coercion

/-!
# Texts read as literals

A literal that is read as a text is that text, as it stands or between two
quotes. A single quote character is the exception: it counts as both quotes,
and nothing of it is left. What stands without quotes stays a text only if it
has no other reading, as a keyword or as a finite numeral.
-/

namespace RecordQuery.Value

variable {literal inner given written : List Char} {numeral : Numeral} {s : String}

-- ---------------------------------------------------------------------------
-- With quotes
-- ---------------------------------------------------------------------------

theorem unquoted?_iff :
    unquoted? literal = some inner ↔
      literal = '"' :: (inner ++ ['"']) ∨ literal = ['"'] ∧ inner = [] := by
  constructor
  · intro h
    unfold unquoted? at h
    split at h
    · split at h
      · next hr =>
        cases h
        rw [List.reverse_eq_nil_iff.mp hr]
        exact .inr ⟨rfl, rfl⟩
      · next hr =>
        cases h
        rw [List.reverse_eq_cons_iff.mp hr]
        exact .inl rfl
      · cases h
    · cases h
  · rintro (rfl | ⟨rfl, rfl⟩)
    · simp [unquoted?]
    · rfl

theorem unquoted?_eq_none (h : '"' ∉ literal) : unquoted? literal = none := by
  unfold unquoted?
  split
  · exact absurd List.mem_cons_self h
  · rfl

-- ---------------------------------------------------------------------------
-- Without quotes
-- ---------------------------------------------------------------------------

def isFiniteNumeral (literal : List Char) : Bool :=
  (Numeral.ofText? literal).any fun numeral => numeral.isInteger || numeral.toDouble.isFinite

/-- Read as something else than a text where it has no quotes. -/
def isReserved (literal : List Char) : Bool :=
  literal == "NULL".toList || Text.lower literal == "true".toList ||
    Text.lower literal == "false".toList || isFiniteNumeral literal

theorem isReserved_eq_false_iff :
    isReserved literal = false ↔
      literal ≠ "NULL".toList ∧ Text.lower literal ≠ "true".toList ∧
        Text.lower literal ≠ "false".toList ∧ isFiniteNumeral literal = false := by
  rw [isReserved, Bool.or_eq_false_iff, Bool.or_eq_false_iff, Bool.or_eq_false_iff,
    beq_eq_false_iff_ne, beq_eq_false_iff_ne, beq_eq_false_iff_ne, and_assoc, and_assoc]

theorem ofNumeral_text_iff :
    ofNumeral written numeral = .ok (text s) ↔
      (numeral.isInteger || numeral.toDouble.isFinite) = false ∧ String.ofList written = s := by
  unfold ofNumeral
  cases numeral.isInteger with
  | true =>
    simp only [↓reduceIte, Bool.true_or, Bool.true_eq_false, false_and, iff_false]
    split <;> nofun
  | false => cases numeral.toDouble.isFinite <;> simp

theorem parseLiteral_unquoted (hq : unquoted? (Text.trim given) = none) :
    parseLiteral given = .ok (text s) ↔
      isReserved (Text.trim given) = false ∧ String.ofList (Text.trim given) = s := by
  unfold parseLiteral isReserved isFiniteNumeral
  simp only [hq]
  generalize (Text.trim given == "NULL".toList) = null
  generalize (Text.lower (Text.trim given) == "true".toList) = yes
  generalize (Text.lower (Text.trim given) == "false".toList) = no
  cases null with
  | true => simp
  | false =>
    cases yes with
    | true => simp
    | false =>
      cases no with
      | true => simp
      | false =>
        cases Numeral.ofText? (Text.trim given) with
        | some numeral => simp [ofNumeral_text_iff]
        | none => simp

-- ---------------------------------------------------------------------------
-- What is kept
-- ---------------------------------------------------------------------------

/-- A trimmed literal that is read as a text is that text, as it stands or
between an opening and a closing quote, unless it is a single quote character:
that one is read as the empty text. Where it stands without quotes, it is no
keyword and no finite numeral. -/
theorem literal_keeps_text (h : parseLiteral given = .ok (text s)) :
    (Text.trim given = s.toList ∨ Text.trim given = '"' :: (s.toList ++ ['"']) ↔
      Text.trim given ≠ ['"']) ∧
    (Text.trim given = ['"'] → s = "") ∧
    (Text.trim given = s.toList →
      Text.trim given ≠ "NULL".toList ∧ Text.lower (Text.trim given) ≠ "true".toList ∧
        Text.lower (Text.trim given) ≠ "false".toList ∧
        isFiniteNumeral (Text.trim given) = false) := by
  cases hq : unquoted? (Text.trim given) with
  | none =>
    obtain ⟨hr, rfl⟩ := (parseLiteral_unquoted hq).mp h
    have hl : Text.trim given ≠ ['"'] := by
      intro hl
      rw [hl] at hq
      cases hq
    exact ⟨iff_of_true (.inl String.toList_ofList.symm) hl, fun he => absurd he hl,
      fun _ => isReserved_eq_false_iff.mp hr⟩
  | some inner =>
    obtain rfl : String.ofList inner = s := by
      simp only [parseLiteral, hq] at h
      cases h
      rfl
    rw [String.toList_ofList]
    rcases unquoted?_iff.mp hq with ht | ⟨ht, rfl⟩
    · -- The quotes make it longer than the text between them.
      have hl {other : List Char} (hl : other.length < inner.length + 2) :
          Text.trim given ≠ other := by
        rintro rfl
        rw [ht] at hl
        simp at hl
      exact ⟨iff_of_true (.inr ht) (hl (Nat.le_add_left 2 _)),
        fun he => absurd he (hl (Nat.le_add_left 2 _)), fun he => absurd he (hl (by omega))⟩
    · rw [ht]
      exact ⟨iff_of_false (by simp) (by simp), fun _ => rfl, nofun⟩

/-- Nothing is kept of a single quote character. -/
theorem single_quote_lost :
    parseLiteral ['"'] = .ok (text "") ∧
      ¬ (Text.trim ['"'] = "".toList ∨ Text.trim ['"'] = '"' :: ("".toList ++ ['"'])) := by
  have h : parseLiteral ['"'] = .ok (text "") := rfl
  exact ⟨h, mt (literal_keeps_text h).1.mp (not_not_intro rfl)⟩

end RecordQuery.Value
