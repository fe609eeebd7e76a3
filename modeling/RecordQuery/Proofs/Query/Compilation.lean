import RecordQuery.Proofs.Engine.Agreement
import RecordQuery.Proofs.Query.Leaves
import RecordQuery.Proofs.Query.Mode
import RecordQuery.Proofs.Query.Overlong

/-!
# What can be compiled

Compiling a query is reading its conjuncts one after another, so it fails
just where one of them is an overlong comparison. Nothing is said here about
the evaluation of what has been compiled.
-/

namespace RecordQuery

variable {written : List Char} {count : Nat} {failure : Failure}

-- ---------------------------------------------------------------------------
-- Filters
-- ---------------------------------------------------------------------------

namespace Filter

variable {text : List Char}

theorem leaves_parse (hn : Text.normalize text ≠ []) :
    (parse text).map (fun filter => filter.outline.leaves) =
      (conjuncts text).mapM Leaf.read := by
  rw [parse_of_ne_nil hn, parseGroup, conjuncts, ← Expr.traverse_leaves]
  cases (Expr.ofText (Text.normalize text)).traverse Leaf.read with
  | error failure => rfl
  | ok expr =>
    show Except.ok (ofExpr expr).outline.leaves = Except.ok expr.leaves
    rw [outline_ofExpr, Expr.leaves_outline]

theorem mapM_conjuncts (hn : Text.normalize text ≠ []) {filter : Filter}
    (h : parse text = .ok filter) :
    (conjuncts text).mapM Leaf.read = .ok filter.outline.leaves := by
  rw [← leaves_parse hn, h]
  rfl

theorem overlong_of_parse (h : parse text = .error failure) :
    ∃ written ∈ conjuncts text, ∃ count, Overlong written count ∧
      failure = .tooManyDigits count := by
  have hn : Text.normalize text ≠ [] := by
    intro hn
    rw [parse, hn] at h
    cases h
  have hm := leaves_parse hn
  rw [h] at hm
  obtain ⟨written, hw, hr⟩ := Attempt.error_of_mapM hm.symm
  exact ⟨written, hw, Leaf.overlong_of_read hr⟩

theorem standsFor_of_parse (hn : Text.normalize text ≠ []) {filter : Filter}
    (h : parse text = .ok filter) :
    List.Forall₂ Leaf.StandsFor (conjuncts text) filter.outline.leaves :=
  (Attempt.forall₂_of_mapM (mapM_conjuncts hn h)).imp fun _ _ => Leaf.standsFor_of_read

theorem not_overlong_of_parse {filter : Filter} (h : parse text = .ok filter)
    (hw : written ∈ conjuncts text) : ¬ Overlong written count := by
  intro ho
  by_cases hn : Text.normalize text = []
  · -- The only conjunct of a blank text is empty.
    have hi := Expr.infix_of_mem_leaves _ hw
    rw [hn, List.infix_nil] at hi
    have hl := congrArg List.length hi
    rw [List.length_nil] at hl
    have := ho.lt_count
    have := ho.count_le
    have := Text.length_trim_le written
    omega
  · obtain ⟨leaf, hl⟩ := Attempt.ok_of_mapM (mapM_conjuncts hn h) hw
    rw [ho.read] at hl
    cases hl

/-- A text of no more characters than there may be digits can be compiled. -/
theorem exists_parse (h : text.length ≤ Numeral.maxDigits) : ∃ filter, parse text = .ok filter := by
  cases hp : parse text with
  | ok filter => exact ⟨filter, rfl⟩
  | error failure =>
    obtain ⟨written, hw, count, ho, -⟩ := overlong_of_parse hp
    have := ho.lt_count
    have := ho.count_le
    have := Text.length_trim_le written
    have := length_le_of_mem_conjuncts hw
    omega

end Filter

-- ---------------------------------------------------------------------------
-- Queries
-- ---------------------------------------------------------------------------

theorem Engine.filter_empty {engine : Engine} (h : engine.records = []) (query : String) :
    engine.filter query = (Filter.parse query.toList).map fun _ => [] := by
  cases hm : Mode.ofQuery query with
  | empty =>
    have hb := Mode.ofQuery_eq_empty.mp hm
    rw [Engine.filter, hm, Filter.parse, Text.normalize_blank hb]
    simp only [keys, h]
    rfl
  | structured =>
    rw [Engine.filter, hm]
    show engine.select query = _
    rw [select, Filter.parse_normalize]
    cases Filter.parse query.toList with
    | error failure => rfl
    | ok filter =>
      show engine.keysWhere _ = .ok []
      rw [keysWhere, h]
      rfl
  | search =>
    obtain ⟨leaf, hp, -⟩ := Mode.exists_leaf hm
    rw [Engine.filter, hm, hp]
    show engine.search query = .ok []
    rw [search]
    split
    · rw [keys, h]
      rfl
    · rw [keysWhere, h]
      rfl

/-- A query is compiled unless a conjunct of it compares a field with an
integer of more digits than are read, and then it fails for that reason. What
is compiled has a leaf for every conjunct, and one that states nothing fails
only where it is evaluated. So on no records a query has no answers, or fails
as compiling it does. -/
theorem Filter.compiles_unless_overlong (query : String) :
    ((∃ filter, parse query.toList = .ok filter) ↔
      ∀ written ∈ conjuncts query.toList, ∀ count, ¬ Overlong written count) ∧
    (∀ failure, parse query.toList = .error failure →
      ∃ written ∈ conjuncts query.toList, ∃ count, Overlong written count ∧
        failure = .tooManyDigits count) ∧
    (∀ filter, Text.isBlankText query.toList = false → parse query.toList = .ok filter →
      List.Forall₂ Leaf.StandsFor (conjuncts query.toList) filter.outline.leaves) ∧
    ∀ engine : Engine, engine.records = [] →
      engine.filter query = (parse query.toList).map fun _ => [] := by
  refine ⟨⟨?_, fun h => ?_⟩, fun failure => overlong_of_parse, fun filter hb hp => ?_,
    fun engine he => Engine.filter_empty he query⟩
  · rintro ⟨filter, hp⟩ written hw count
    exact not_overlong_of_parse hp hw
  · cases hp : parse query.toList with
    | ok filter => exact ⟨filter, rfl⟩
    | error failure =>
      obtain ⟨written, hw, count, ho, -⟩ := overlong_of_parse hp
      exact absurd ho (h written hw count)
  · exact standsFor_of_parse (Text.normalize_ne_nil hb) hp

section
variable (n : Nat)

def comparedOnes : List Char := "a = ".toList ++ List.replicate n '1'

theorem piece_ones (h : n ≠ 0) : Grammar.Piece (List.replicate n '1') := by
  refine .plain (fun c hc => ?_) ⟨'1', List.mem_replicate.mpr ⟨h, rfl⟩, rfl⟩
  obtain rfl := List.eq_of_mem_replicate hc
  exact ⟨rfl, rfl⟩

theorem neat_comparedOnes (h : n ≠ 0) : Text.Neat (comparedOnes n) := by
  have ha : Text.Neat ['a'] := .of_all rfl
  have he : Text.Neat ['='] := .of_all rfl
  exact ha.join (he.join (piece_ones n h).neat (by simp) (piece_ones n h).ne_nil) (by simp) (by simp)

theorem conjuncts_comparedOnes (h : n ≠ 0) : conjuncts (comparedOnes n) = [comparedOnes n] := by
  have he : Grammar.Piece ['='] := .of_all rfl rfl
  have hk : Keywordless (comparedOnes n) := by
    have hs := he.cons_keywordless (piece_ones n h).keywordless.space
    have ha (connective : Connective) : ['a'] ≠ connective.name.toList := by
      cases connective <;> decide
    exact hs.word (List.all_eq_true.mp rfl) (by simp) ha
  have hn := neat_comparedOnes n h
  rw [conjuncts, hn.normalize, Expr.ofText_of_keywordless hk,
    Expr.ofPart_leaf hn (by simp [comparedOnes]), Expr.leaves]

theorem overlong_comparedOnes (h : Numeral.maxDigits < n) : Overlong (comparedOnes n) n := by
  have hn : n ≠ 0 := by omega
  have hl : (List.replicate n '1').length = n := List.length_replicate
  have hd : ∀ c ∈ List.replicate n '1', Text.isDecimal c = true := by
    intro c hc
    obtain rfl := List.eq_of_mem_replicate hc
    rfl
  have ho : Overlong (comparedOnes n) (List.replicate n '1').length :=
    @Overlong.intro _ ['a'] [' '] [' '] [] _ .equal (by simp) (List.all_eq_true.mp rfl) rfl rfl
      (.inl rfl) hd (by omega) (neat_comparedOnes n hn).trim
  rwa [hl] at ho

end

/-- One digit too many: the query fails even where there is nothing to
evaluate it on. -/
theorem Filter.fails_on_overlong :
    parse (String.ofList (comparedOnes 4301)).toList = .error (.tooManyDigits 4301) ∧
      (Engine.new [] none).filter (String.ofList (comparedOnes 4301)) =
        .error (.tooManyDigits 4301) := by
  have ho : Overlong (comparedOnes 4301) 4301 := overlong_comparedOnes 4301 (by decide)
  obtain ⟨hi, hf, -, he⟩ := compiles_unless_overlong (String.ofList (comparedOnes 4301))
  rw [he _ rfl]
  rw [String.toList_ofList] at hi hf ⊢
  rw [conjuncts_comparedOnes 4301 (by decide)] at hi hf
  cases hp : parse (comparedOnes 4301) with
  | ok filter => exact absurd ho (hi.mp ⟨filter, hp⟩ _ (List.mem_singleton.mpr rfl) _)
  | error failure =>
    obtain ⟨written, hw, count, hc, rfl⟩ := hf failure hp
    obtain rfl := List.mem_singleton.mp hw
    have hr := hc.read
    rw [ho.read] at hr
    obtain rfl := Failure.tooManyDigits.inj (Except.error.inj hr)
    exact ⟨rfl, rfl⟩

end RecordQuery
