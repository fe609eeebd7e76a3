import RecordQuery.Json.Writing
import RecordQuery.Proofs.Numeral
import RecordQuery.Proofs.Text.Cut
import RecordQuery.Report

/-!
# JSON in lines

A value that is not written in the pretty form is one line, whatever texts it
holds: every line feed in them is escaped. Values printed line by line can be
told apart again.
-/

namespace RecordQuery

-- ---------------------------------------------------------------------------
-- Numbers
-- ---------------------------------------------------------------------------

def IsLine (text : List Char) : Prop := '\n' ∉ text

instance : DecidablePred IsLine := fun text => inferInstanceAs (Decidable ('\n' ∉ text))

namespace IsLine

variable {first second text : List Char}

theorem append (hf : IsLine first) (hs : IsLine second) : IsLine (first ++ second) := fun h =>
  (List.mem_append.mp h).elim hf hs

theorem cons {c : Char} (hc : c ≠ '\n') (h : IsLine text) : IsLine (c :: text) := fun hm =>
  (List.mem_cons.mp hm).elim (fun he => hc he.symm) h

theorem of_subset (hs : second ⊆ first) (h : IsLine first) : IsLine second := fun hm => h (hs hm)

theorem replicate {c : Char} (hc : c ≠ '\n') (n : Nat) : IsLine (List.replicate n c) := fun hm =>
  hc (List.eq_of_mem_replicate hm).symm

theorem sign {c : Char} (hc : c ≠ '\n') (negative : Prop) [Decidable negative] :
    IsLine (if negative then [c] else []) := by
  split
  · exact cons hc List.not_mem_nil
  · exact List.not_mem_nil

theorem natText (n : Nat) : IsLine (Text.natText n) := fun h =>
  absurd (Text.isDigit_of_mem_natText h) (by decide)

theorem intText (n : Int) : IsLine (Text.intText n) :=
  (sign (by decide) _).append (natText n.natAbs)

end IsLine

namespace Double

theorem isLine_scientific (units : Nat) : IsLine (scientific units).1 := by
  unfold scientific
  split
  · exact .cons (by decide) List.not_mem_nil
  · refine .of_subset ?_ (.natText (shortest units).digits)
    intro c hc
    exact List.mem_reverse.mp ((List.dropWhile_suffix _).subset (List.mem_reverse.mp hc))

theorem isLine_exponentText (exponent : Int) : IsLine (Layout.exponentText exponent) := by
  refine .cons (by decide) (.cons ?_ ((IsLine.replicate (by decide) _).append (.natText _)))
  split <;> decide

theorem isLine_magnitude (layout : Layout) (units : Nat) : IsLine (layout.magnitude units) := by
  have hs := isLine_scientific units
  unfold Layout.magnitude
  generalize scientific units = decimal at hs
  obtain ⟨digits, exponent⟩ := decimal
  have he := isLine_exponentText exponent
  dsimp only
  split
  · split
    · next first second rest =>
      have hf : first ≠ '\n' := fun h => hs (h ▸ List.mem_cons_self)
      have hr : IsLine (second :: rest) := .of_subset (List.subset_cons_self _ _) hs
      exact .cons hf (.cons (by decide) (hr.append he))
    · exact hs.append he
  · split
    · exact .cons (by decide) (.cons (by decide) ((IsLine.replicate (by decide) _).append hs))
    · refine (IsLine.append (.of_subset (List.take_subset _ _) hs)
        (.replicate (by decide) _)).append (.cons (by decide) ?_)
      split
      · exact .cons (by decide) List.not_mem_nil
      · exact .of_subset (List.drop_subset _ _) hs

theorem isLine_write (x : Double) : IsLine (json.write x) := by
  cases x with
  | finite negative units =>
    exact (IsLine.sign (by decide) _).append (isLine_magnitude json units)
  | infinite negative =>
    exact (IsLine.sign (by decide) _).append (by decide : IsLine "Infinity".toList)
  | nan => exact (by decide : IsLine "NaN".toList)

end Double

namespace Json

-- ---------------------------------------------------------------------------
-- Values
-- ---------------------------------------------------------------------------

theorem isLine_unitEscape (code : Nat) : IsLine (unitEscape code) := by
  have hd (n : Nat) : hexDigit (n % 16) ≠ '\n' := by
    have h : ∀ d < 16, hexDigit d ≠ '\n' := by decide
    exact h _ (Nat.mod_lt n (by decide))
  exact .cons (by decide) (.cons (by decide) (.cons (hd _) (.cons (hd _) (.cons (hd _)
    (.cons (hd _) List.not_mem_nil)))))

theorem isLine_escape (c : Char) : IsLine (escape c) := by
  unfold escape
  iterate 7
    split
    · decide
  split
  · next h =>
    refine .cons ?_ List.not_mem_nil
    rintro rfl
    cases h
  · intro h
    obtain ⟨code, -, hm⟩ := List.mem_flatMap.mp h
    exact isLine_unitEscape code hm

theorem isLine_writeText (text : List Char) : IsLine (writeText text) := by
  have hs : IsLine (text.flatMap escape) := fun h => by
    obtain ⟨c, -, hm⟩ := List.mem_flatMap.mp h
    exact isLine_escape c hm
  exact .cons (by decide) (hs.append (.cons (by decide) List.not_mem_nil))

theorem isLine_lineBreak (depth : Nat) : IsLine (lineBreak false depth) := List.not_mem_nil

theorem isLine_gap (depth : Nat) : IsLine (gap false depth) := (by decide : IsLine [',', ' '])

theorem isLine_after {text : List Char} (h : IsLine text) : IsLine (':' :: ' ' :: text) :=
  .cons (by decide) (.cons (by decide) h)

mutual
theorem isLine_writeAt : (value : Value) → (depth : Nat) → IsLine (writeAt false depth value)
  | .null, _ => (by decide : IsLine "null".toList)
  | .bool true, _ => (by decide : IsLine "true".toList)
  | .bool false, _ => (by decide : IsLine "false".toList)
  | .int n, _ => .intText n
  | .float x, _ => x.isLine_write
  | .text s, _ => isLine_writeText s.toList
  | .list [], _ => (by decide : IsLine ['[', ']'])
  | .list (item :: rest), depth => by
    have hi := isLine_writeAt item (depth + 1)
    have hr := isLine_writeItems rest (depth + 1)
    rw [writeAt]
    exact ((((IsLine.cons (by decide) (isLine_lineBreak _)).append hi).append hr).append
      (isLine_lineBreak _)).append (by decide)
  | .object [], _ => (by decide : IsLine ['\x7b', '\x7d'])
  | .object ((name, value) :: rest), depth => by
    have hv := isLine_after (isLine_writeAt value (depth + 1))
    have hr := isLine_writeFields rest (depth + 1)
    rw [writeAt]
    exact (((((IsLine.cons (by decide) (isLine_lineBreak _)).append (isLine_writeText _)).append
      hv).append hr).append (isLine_lineBreak _)).append (by decide)
theorem isLine_writeItems : (items : List Value) → (depth : Nat) →
    IsLine (writeItems false depth items)
  | [], _ => List.not_mem_nil
  | item :: rest, depth => by
    rw [writeItems]
    exact ((isLine_gap depth).append (isLine_writeAt item depth)).append
      (isLine_writeItems rest depth)
theorem isLine_writeFields : (fields : List (String × Value)) → (depth : Nat) →
    IsLine (writeFields false depth fields)
  | [], _ => List.not_mem_nil
  | (name, value) :: rest, depth => by
    have hv := isLine_after (isLine_writeAt value depth)
    rw [writeFields]
    exact (((isLine_gap depth).append (isLine_writeText _)).append hv).append
      (isLine_writeFields rest depth)
end

theorem isLine_write (value : Value) : IsLine (write false value) := isLine_writeAt value 0

end Json

namespace Report

theorem cut_lines {texts : List (List Char)} (h : ∀ text ∈ texts, IsLine text) :
    Text.cut ['\n'] (lines texts) = texts ++ [[]] := by
  induction texts with
  | nil => rfl
  | cons text rest ih =>
    obtain ⟨ht, hr⟩ := List.forall_mem_cons.mp h
    rw [lines, List.flatMap_cons, List.append_assoc, List.singleton_append,
      Text.cut_singleton_join, Text.cut_singleton_of_not_mem ht]
    exact congrArg (text :: ·) (ih hr)

end Report

end RecordQuery
