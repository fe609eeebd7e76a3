import RecordQuery.Proofs.Filter.Scope

/-!
# Closed filters

A filter is closed if every group in it stands under a scope of its own:
leaves, chains of closed filters and compiled queries are. A scope looks up
the verdicts of its own groups only, so the verdicts known around a closed
filter make no difference to it.
-/

namespace RecordQuery.Filter

/-- Built from leaves, chains and compiled queries. -/
inductive Closed : Filter → Prop
  | leaf (content : Leaf) : Closed (leaf content)
  | chain (connective : Connective) {parts : List Filter} (h : ∀ part ∈ parts, Closed part) :
      Closed (chain connective parts)
  | parsed {text : List Char} {filter : Filter} (h : parse text = .ok filter) : Closed filter

variable {filter : Filter}

-- ---------------------------------------------------------------------------
-- No references to the outside
-- ---------------------------------------------------------------------------

theorem referencesOfParts_eq_nil {parts : List Filter} (h : ∀ part ∈ parts, part.references = []) :
    referencesOfParts parts = [] := by
  induction parts with
  | nil => rfl
  | cons part rest ih =>
    rw [referencesOfParts, h part List.mem_cons_self,
      ih fun other ho => h other (List.mem_cons_of_mem part ho), List.append_nil]

theorem references_ofExpr (expr : Expr Leaf) : (ofExpr expr).references = [] := by
  rcases ofExpr_cases expr with ⟨hp, he⟩ | he
  · rw [he, List.eq_nil_iff_forall_not_mem]
    intro reference hr
    have hg := (expr.refersTo_toFilter expr.place 0 reference hr).mem
    have hn : expr.bodies expr.place 0 = [] := hp
    rw [hn] at hg
    cases hg
  · rw [he, references]

theorem Closed.references (h : Closed filter) : filter.references = [] := by
  induction h with
  | leaf content => rfl
  | chain connective _ ih => exact referencesOfParts_eq_nil ih
  | parsed hp =>
    rcases ofExpr_of_parse hp with rfl | ⟨expr, rfl⟩
    · rfl
    · exact references_ofExpr expr

-- ---------------------------------------------------------------------------
-- Verdicts known around a filter
-- ---------------------------------------------------------------------------

/-- Whatever verdicts are known around it, a closed filter gives the verdict
or the failure that it gives by itself. -/
theorem evaluate_closed (h : Closed filter) (record : Record) (verdicts : List Bool) :
    filter.evaluate record verdicts = filter.apply record := by
  refine run_known filter fun reference hr => ?_
  rw [h.references] at hr
  cases hr

/-- The group in the query fails. Were it looked up among the outer verdicts, the
chain would go on to its second part. -/
theorem evaluate_nested_scope :
    let query := scope (.chain .or [literal true, .reference 0 1 (.leaf (.invalid "x"))])
      [(1, .leaf (.invalid "x"))]
    let filter := chain .and [query, literal false]
    Closed filter ∧ filter.evaluate [] [true] = filter.apply [] ∧
      filter.evaluate [] [true] = .error (.invalidCondition "x") := by
  intro query filter
  have hq : Closed query := .parsed parse_true_or_group
  have hc : Closed filter := .chain .and fun part hp => by
    rcases List.mem_cons.mp hp with rfl | hp
    · exact hq
    · rw [List.mem_singleton.mp hp]
      exact .leaf (.literal false)
  exact ⟨hc, evaluate_closed hc [] [true], rfl⟩

/-- A reference alone is not closed: it has the verdict that is known. -/
example : (reference 0 1 (literal true)).evaluate [] [false] = .ok false ∧
    (reference 0 1 (literal true)).apply [] = .ok true := ⟨rfl, rfl⟩

end RecordQuery.Filter
