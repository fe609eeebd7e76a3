import RecordQuery.Engine
import RecordQuery.Proofs.Filter.Failing
import RecordQuery.Proofs.Query.Compilation
import RecordQuery.Proofs.Query.Parts

/-!
# Blame

A query that fails for a conjunct names a piece of its own text, and that
piece fails alone as it does in the query: it is neither split nor opened any
further.
-/

namespace RecordQuery

open Nesting (start)

-- ---------------------------------------------------------------------------
-- Leaves by themselves
-- ---------------------------------------------------------------------------

namespace Expr

theorem ofText_of_marks {text : List Char}
    (h : ∀ connective : Connective, ¬ connective.marks <:+: start.levels text) :
    ofText text = ofPart text := by
  rw [ofText_eq, splitTopLevel_eq_self (h .or), List.map_singleton,
    splitTopLevel_eq_self (h .and)]
  rfl

/-- A leaf of a neat text is neat, and it is a leaf when it is read alone. -/
theorem ofText_of_mem_leaves {text written : List Char} (ht : Text.Neat text) (hn : text ≠ [])
    (h : written ∈ (ofText text).leaves) :
    Text.Neat written ∧ written ≠ [] ∧ ofText written = leaf written := by
  induction text using ofText.induct with
  | case1 text ih =>
    obtain ⟨clause, hc, part, hp, h⟩ := mem_leaves_ofText.mp h
    obtain ⟨hcn, hce⟩ := Connective.or.neat_of_mem_split hc ht hn
    obtain ⟨hpn, hpe⟩ := Connective.and.neat_of_mem_split hp hcn hce
    have hw := h
    unfold ofPart at hw
    split at hw
    · next inner hu =>
      obtain ⟨-, hi, hie⟩ := eq_of_unwrap? hu
      have hin : Text.Neat inner := by
        rw [hi, hpn.trim]
        refine (hpn.toSingleSpaced.of_infix ?_).neat_trim
        exact (List.dropLast_prefix _).isInfix.trans (List.tail_suffix part).isInfix
      exact ih clause hc part hp inner hu hin hie hw
    · next hu =>
      obtain rfl := List.mem_singleton.mp hw
      refine ⟨hpn, hpe, (ofText_of_marks fun connective hi => ?_).trans ?_⟩
      · cases connective with
        | and => exact Connective.and.not_infix_of_mem_split hp hi
        | or =>
          exact Connective.or.not_infix_of_mem_split hc
            (hi.trans (Connective.and.levels_of_mem_split hp))
      · rw [ofPart, hu]

end Expr

-- ---------------------------------------------------------------------------
-- Invalid conjuncts
-- ---------------------------------------------------------------------------

namespace Leaf

variable {leaf : Leaf} {culprit : String}

theorem invalid_of_holds {record : Record}
    (h : leaf.holds record = .error (.invalidCondition culprit)) : leaf = .invalid culprit := by
  rcases holds_error h with hc | ⟨written, rfl, hc⟩
  · cases hc
  · rw [Failure.invalidCondition.inj hc]

theorem eq_of_read_invalid {written : List Char} (h : read written = .ok (.invalid culprit)) :
    culprit = String.ofList written := by
  rcases (standsFor_of_read h).2 with ⟨_, hl⟩ | ⟨_, hl⟩ | ⟨hl, -⟩
  · cases hl
  · cases hl
  · exact Leaf.invalid.inj hl

end Leaf

namespace Filter

variable {text : List Char} {filter : Filter}

theorem exists_conjunct (h : parse text = .ok filter) {record : Record} {failure : Failure}
    (hf : filter.apply record = .error failure) :
    Text.normalize text ≠ [] ∧ ∃ written ∈ conjuncts text, ∃ leaf,
      Leaf.read written = .ok leaf ∧ leaf.holds record = .error failure := by
  have hn : Text.normalize text ≠ [] := by
    intro hn
    rw [parse, hn] at h
    cases h
    cases hf
  obtain ⟨leaf, hl, hr⟩ := apply_error h hf
  obtain ⟨written, hw, hread⟩ := Attempt.exists_of_mem_mapM (mapM_conjuncts hn h) hl
  exact ⟨hn, written, hw, leaf, hread, hr⟩

theorem parse_of_leaf {written : List Char} {leaf : Leaf} (hn : Text.Neat written)
    (he : written ≠ []) (ho : Expr.ofText written = .leaf written)
    (hr : Leaf.read written = .ok leaf) : parse written = .ok (.leaf leaf) := by
  have hne : Text.normalize written ≠ [] := by rwa [hn.normalize]
  rw [parse_of_ne_nil hne, parseGroup, hn.normalize, ho, Expr.traverse, hr]
  rfl

end Filter

/-- A query that fails for an invalid condition names a piece of its own text,
which is invalid by itself: it is compiled to a leaf that is neither a literal
nor a condition, and so it fails in the same way on every record. -/
theorem Record.blame {query : String} {filter : Filter} {record : Record} {culprit : String}
    (h : Filter.parse query.toList = .ok filter)
    (hf : filter.apply record = .error (.invalidCondition culprit)) :
    culprit.toList <:+: Text.normalize query.toList ∧
      Filter.parse culprit.toList = .ok (.leaf (.invalid culprit)) ∧
      ∀ other : Record, other.satisfies culprit = .error (.invalidCondition culprit) := by
  obtain ⟨hn, written, hw, leaf, hr, hl⟩ := Filter.exists_conjunct h hf
  obtain rfl := Leaf.invalid_of_holds hl
  obtain rfl := Leaf.eq_of_read_invalid hr
  obtain ⟨hneat, hne, ho⟩ := Expr.ofText_of_mem_leaves (Text.neat_normalize _) hn hw
  have hp : Filter.parse written = .ok (.leaf (.invalid (String.ofList written))) :=
    Filter.parse_of_leaf hneat hne ho hr
  rw [String.toList_ofList]
  refine ⟨Expr.infix_of_mem_leaves _ hw, hp, fun other => ?_⟩
  have hb : Text.isBlankText written = false := by
    refine Bool.eq_false_iff.mpr fun hb => hne ?_
    rw [← hneat.normalize, Text.normalize_blank hb]
  rw [satisfies, String.toList_ofList, hb, hp]
  rfl

/-- The second alternative is reached, and of its two conjuncts the first is
to blame. -/
theorem Record.blame_second_alternative :
    ∃ filter, Filter.parse "false OR (n  oops AND true)".toList = .ok filter ∧
      filter.apply [] = .error (.invalidCondition "n oops") ∧
      "n oops".toList <:+: Text.normalize "false OR (n  oops AND true)".toList ∧
      Filter.parse "n oops".toList = .ok (.leaf (.invalid "n oops")) ∧
      ∀ other : Record, other.satisfies "n oops" = .error (.invalidCondition "n oops") := by
  have hi : Expr.ofText "n oops AND true".toList =
      .join .and [.leaf "n oops".toList, .leaf "true".toList] := by
    rw [Expr.ofText_eq]
    rfl
  have ho : Expr.ofText "false OR (n oops AND true)".toList =
      .join .or [.leaf "false".toList, .group (Expr.ofText "n oops AND true".toList)] := by
    rw [Expr.ofText_eq]
    rfl
  have hn : Text.normalize "false OR (n  oops AND true)".toList =
      "false OR (n oops AND true)".toList := rfl
  have hp : Filter.parse "false OR (n  oops AND true)".toList = .ok (.scope
      (.chain .or [Filter.literal false, .reference 0 1
        (.chain .and [.leaf (.invalid "n oops"), Filter.literal true])])
      [(1, .chain .and [.leaf (.invalid "n oops"), Filter.literal true])]) := by
    rw [Filter.parse_of_ne_nil (by decide), Filter.parseGroup, hn, ho, hi]
    rfl
  exact ⟨_, hp, rfl, @Record.blame _ _ [] _ hp rfl⟩

end RecordQuery
