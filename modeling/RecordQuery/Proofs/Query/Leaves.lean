import RecordQuery.Proofs.Query.Context
import RecordQuery.Proofs.Text.Blank
import RecordQuery.Proofs.Text.Cut

/-!
# Leaves of an expression

Reading an expression is reading its leaves one after another, so it fails
with the first leaf that cannot be read. The leaves of a text are parts of
the text: splitting and unwrapping only leave something out at the ends.
-/

namespace RecordQuery

namespace Expr

variable {α β : Type}

mutual
def leaves : Expr α → List α
  | leaf content => [content]
  | join _ parts => leavesOfParts parts
  | group body => body.leaves
def leavesOfParts : List (Expr α) → List α
  | [] => []
  | part :: rest => part.leaves ++ leavesOfParts rest
end

mutual
theorem leaves_outline : (expr : Expr Leaf) → expr.outline.leaves = expr.leaves
  | leaf _ => rfl
  | join _ parts => leavesOfParts_outlines parts
  | group body => body.leaves_outline
theorem leavesOfParts_outlines :
    (parts : List (Expr Leaf)) → Outline.leavesOfParts (outlines parts) = leavesOfParts parts
  | [] => rfl
  | part :: rest => by
    rw [outlines, Outline.leavesOfParts, leavesOfParts, part.leaves_outline,
      leavesOfParts_outlines rest]
end

section
variable (read : α → Except Failure β)

mutual
theorem traverse_leaves : (expr : Expr α) →
    (expr.traverse read).map leaves = expr.leaves.mapM read
  | leaf content => by
    rw [traverse, leaves, List.mapM_cons]
    cases read content <;> rfl
  | join connective parts => by
    rw [leaves, ← traverseParts_leaves parts, traverse]
    cases traverseParts read parts <;> rfl
  | group body => by
    rw [leaves, ← body.traverse_leaves, traverse]
    cases body.traverse read <;> rfl
theorem traverseParts_leaves : (parts : List (Expr α)) →
    (traverseParts read parts).map leavesOfParts = (leavesOfParts parts).mapM read
  | [] => rfl
  | part :: rest => by
    rw [leavesOfParts, List.mapM_append, ← part.traverse_leaves, ← traverseParts_leaves rest,
      traverseParts]
    cases part.traverse read with
    | error failure => rfl
    | ok first => cases traverseParts read rest <;> rfl
end

end

-- ---------------------------------------------------------------------------
-- Leaves of a text
-- ---------------------------------------------------------------------------

theorem mem_leavesOfParts {content : α} {parts : List (Expr α)} :
    content ∈ leavesOfParts parts ↔ ∃ part ∈ parts, content ∈ part.leaves := by
  induction parts with
  | nil => simp [leavesOfParts]
  | cons part rest ih => simp [leavesOfParts, ih]

theorem mem_leaves_joined {content : α} {connective : Connective} {parts : List (Expr α)} :
    content ∈ (joined connective parts).leaves ↔ ∃ part ∈ parts, content ∈ part.leaves := by
  unfold joined
  split
  · simp
  · exact mem_leavesOfParts

end Expr

section
variable {text separator part : List Char}

theorem infix_of_mem_splitTopLevel (hs : separator ≠ []) (h : part ∈ splitTopLevel text separator) :
    part <:+: text := by
  obtain ⟨piece, hp, rfl⟩ := List.mem_map.mp h
  have hn : (separator.map fun c => (c, true)) ≠ [] := fun he => hs (List.map_eq_nil_iff.mp he)
  have hi := (Text.infix_of_mem_cut hn hp).map Prod.fst
  rwa [Nesting.map_fst_levels] at hi

theorem eq_of_unwrap? {inner : List Char} (h : unwrap? text = some inner) :
    isEnclosed text = true ∧ inner = Text.trim text.tail.dropLast ∧ inner ≠ [] := by
  unfold unwrap? at h
  split at h
  · next he =>
    split at h
    · cases h
    · next hn =>
      obtain rfl := Option.some.inj h
      exact ⟨he, rfl, hn⟩
  · cases h

theorem infix_of_unwrap? {inner : List Char} (h : unwrap? text = some inner) : inner <:+: text := by
  obtain ⟨-, rfl, -⟩ := eq_of_unwrap? h
  have hp := List.dropLast_prefix text.tail
  exact (Text.infix_trim _).trans (hp.isInfix.trans (List.tail_suffix text).isInfix)

end

namespace Expr

theorem mem_leaves_ofText {text written : List Char} :
    written ∈ (ofText text).leaves ↔
      ∃ clause ∈ splitTopLevel text Connective.or.separator,
        ∃ part ∈ splitTopLevel clause Connective.and.separator, written ∈ (ofPart part).leaves := by
  simp only [ofText_eq, mem_leaves_joined, List.mem_map, exists_exists_and_eq_and]

/-- A leaf stands in the text somewhere, as it was written. -/
theorem infix_of_mem_leaves (text : List Char) {written : List Char}
    (h : written ∈ (ofText text).leaves) : written <:+: text := by
  induction text using ofText.induct with
  | case1 text ih =>
    obtain ⟨clause, hc, part, hp, h⟩ := mem_leaves_ofText.mp h
    have hs : part <:+: text :=
      (infix_of_mem_splitTopLevel (List.cons_ne_nil _ _) hp).trans
        (infix_of_mem_splitTopLevel (List.cons_ne_nil _ _) hc)
    unfold ofPart at h
    split at h
    · next inner hu =>
      have ht := (infix_of_unwrap? hu).trans (Text.infix_trim part)
      exact (ih clause hc part hp inner hu h).trans (ht.trans hs)
    · obtain rfl := List.mem_singleton.mp h
      exact hs

end Expr

/-- What a query consists of besides connectives and parentheses. -/
def conjuncts (text : List Char) : List (List Char) :=
  (Expr.ofText (Text.normalize text)).leaves

theorem length_le_of_mem_conjuncts {text written : List Char} (h : written ∈ conjuncts text) :
    written.length ≤ text.length :=
  Nat.le_trans (Expr.infix_of_mem_leaves _ h).length_le (Text.length_normalize_le text)

end RecordQuery
