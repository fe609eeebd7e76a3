import Mathlib.Data.List.TakeWhile
import RecordQuery.Proofs.Query.Context
import RecordQuery.Proofs.Query.Splitting

/-!
# Quotations

What stands in double quotes has no part in how the text around it is split
and grouped: it lies in one leaf, and all else is read as if there were
another text in these quotes. Nothing in them is a separator or has a depth,
and no trimming reaches into them.
-/

namespace RecordQuery

open Nesting (start)

def quotation (content : List Char) : List Char := '"' :: (content ++ ['"'])

def Paired (text : List Char) : Prop := text.count '"' % 2 = 0

variable {left right content : List Char}

-- ---------------------------------------------------------------------------
-- Quotes that pair up
-- ---------------------------------------------------------------------------

theorem Paired.run (h : Paired left) {state : Nesting} (hs : state.inQuotes = false) :
    (state.run left).inQuotes = false := by
  rw [Nesting.inQuotes_run, hs, h]
  rfl

theorem Paired.of_append (h : Paired (left ++ right)) (hl : (start.run left).inQuotes = false) :
    Paired right := by
  have hc : left.count '"' % 2 ≠ 1 := by
    rw [Nesting.inQuotes_run] at hl
    simpa [start] using hl
  unfold Paired at h ⊢
  rw [List.count_append] at h
  omega

theorem Paired.trimStart (h : Paired left) : Paired (Text.trimStart left) := by
  have hb : (left.takeWhile Text.isBlank).count '"' = 0 :=
    List.count_eq_zero.mpr fun hm => absurd (List.mem_takeWhile_imp hm) (by decide)
  unfold Paired at h ⊢
  rw [← List.takeWhile_append_dropWhile (p := Text.isBlank) (l := left), List.count_append, hb] at h
  rwa [Nat.zero_add] at h

namespace Nesting

theorem inQuotes_of_levels {state : Nesting} {text : List Char} {c : Char}
    {before after : List (Char × Bool)} (h : state.levels text = before ++ (c, true) :: after) :
    (state.run (before.map Prod.fst ++ [c])).inQuotes = false := by
  induction text generalizing state before with
  | nil => simp [levels, marked] at h
  | cons x text ih =>
    have hc : (x, state.depthAt? x == some 0) :: (state.step x).levels text =
        before ++ (c, true) :: after := h
    cases before with
    | nil =>
      obtain ⟨hx, -⟩ := List.cons.inj hc
      obtain ⟨rfl, hd⟩ := Prod.mk.inj hx
      have hq : (x == '"' || state.inQuotes) = false := by
        rw [depthAt?] at hd
        split at hd
        · cases hd
        · next hn => exact Bool.eq_false_iff.mpr hn
      obtain ⟨hx, hs⟩ := Bool.or_eq_false_iff.mp hq
      show (state.step x).inQuotes = false
      rw [inQuotes_step, hs, hx]
      rfl
    | cons mark before =>
      obtain ⟨rfl, ht⟩ := List.cons.inj hc
      show ((state.step x).run (before.map Prod.fst ++ [c])).inQuotes = false
      exact ih ht

theorem marked_around (h : Paired left) (hc : '"' ∉ content) (right : List Char) :
    start.marked (left ++ (quotation content ++ right)) =
      start.marked left ++
        ((quotation content).map (fun c => (c, none)) ++ (start.run left).marked right) := by
  have hs : (start.run left).inQuotes = false := h.run rfl
  simp only [marked_append, quotation, marked_quoted _ hs hc, run_quoted _ hs hc]

theorem levels_around (h : Paired left) (hc : '"' ∉ content) (right : List Char) :
    start.levels (left ++ (quotation content ++ right)) =
      start.levels left ++
        ((quotation content).map (fun c => (c, false)) ++ (start.run left).levels right) := by
  rw [levels, marked_around h hc, List.map_append, List.map_append, List.map_map]
  rfl

end Nesting

-- ---------------------------------------------------------------------------
-- Splitting
-- ---------------------------------------------------------------------------

/-- A quotation lies in one of the parts of a text, and the others are found
without it. -/
theorem exists_split_around (h : Paired left) (right : List Char) (connective : Connective) :
    ∃ before first last after, Paired first ∧ first <:+ left ∧ last <+: right ∧
      ∀ content, '"' ∉ content →
        splitTopLevel (left ++ (quotation content ++ right)) connective.separator =
          before ++ (first ++ (quotation content ++ last)) :: after := by
  have hs : connective.separator.map (fun c => (c, true)) ≠ [] := connective.marks_ne_nil
  obtain ⟨before, passed, first, hl, hp, hc⟩ := Text.exists_cut_around hs (start.levels left)
  obtain ⟨last, after, hr⟩ := List.exists_cons_of_ne_nil (Text.cut_ne_nil
    (connective.separator.map fun c => (c, true)) ((start.run left).levels right))
  have he : left = passed.map Prod.fst ++ first.map Prod.fst := by
    rw [← List.map_append, ← hl, Nesting.map_fst_levels]
  refine ⟨before.map (·.map Prod.fst), first.map Prod.fst, last.map Prod.fst,
    after.map (·.map Prod.fst), ?_, ⟨passed.map Prod.fst, he.symm⟩, ?_, fun content hn => ?_⟩
  · rcases hp with rfl | hp
    · rwa [he] at h
    · -- The part starts behind the space at the end of a separator.
      obtain ⟨more, rfl⟩ : ∃ more, passed = more ++ [(' ', true)] := by
        obtain ⟨more, rfl⟩ := hp
        rw [connective.separator_levels]
        exact ⟨more ++ (' ', true) :: connective.word, by simp⟩
      refine Paired.of_append (he ▸ h) ?_
      rw [List.map_append]
      exact Nesting.inQuotes_of_levels (hl.trans (List.append_assoc _ _ _))
  · have hm := (Text.prefix_of_cut hs hr).map Prod.fst
    rwa [Nesting.map_fst_levels] at hm
  · have hm : (quotation content).map (fun c => (c, false)) ≠ [] := by simp [quotation]
    have hf : ∀ mark ∈ (quotation content).map (fun c => (c, false)),
        mark ∉ connective.separator.map fun c => (c, true) := by
      simp
    rw [splitTopLevel, Nesting.levels_around h hn, hc _ _ _ _ hm hf hr]
    simp [Function.comp_def]

-- ---------------------------------------------------------------------------
-- Groups
-- ---------------------------------------------------------------------------

theorem isEnclosed_congr {first second : List Char} (hh : first.head? = second.head?)
    (hl : (start.marked first).getLast? = (start.marked second).getLast?)
    (ha : ((start.marked first).dropLast.all fun mark => mark.2.all fun depth => 0 < depth) =
      (start.marked second).dropLast.all fun mark => mark.2.all fun depth => 0 < depth) :
    isEnclosed first = isEnclosed second := by
  simp only [isEnclosed, hh, hl, ha]

theorem isEnclosed_ends {text : List Char} (h : isEnclosed text = true) :
    text.head? = some '(' ∧ (start.marked text).getLast? = some (')', some 0) := by
  unfold isEnclosed at h
  dsimp only at h
  split at h
  · next hh hl => exact ⟨hh, hl⟩
  · cases h

theorem all_dropLast_around {α : Type} {p : α → Bool} {before middle : List α} (hn : middle ≠ [])
    (hp : ∀ x ∈ middle, p x = true) (after : List α) :
    (before ++ (middle ++ after)).dropLast.all p = (before.all p && after.dropLast.all p) := by
  rw [List.dropLast_append_of_ne_nil (List.append_ne_nil_of_left_ne_nil hn after), List.all_append]
  cases after with
  | nil =>
    have hd : middle.dropLast.all p = true :=
      List.all_eq_true.mpr fun x hx => hp x (List.dropLast_subset middle hx)
    rw [List.append_nil, hd]
    rfl
  | cons x after =>
    rw [List.dropLast_append_of_ne_nil (List.cons_ne_nil x after), List.all_append,
      List.all_eq_true.mpr hp, Bool.true_and]

theorem getLast?_quotation (content : List Char) :
    ((quotation content).map fun c => (c, (none : Option Int))).getLast? = some ('"', none) := by
  rw [List.getLast?_map, quotation, ← List.cons_append, List.getLast?_concat]
  rfl

theorem isEnclosed_around (h : Paired left) (hc : '"' ∉ content) (right : List Char) :
    isEnclosed (left ++ (quotation content ++ right)) =
      isEnclosed (left ++ (quotation [] ++ right)) := by
  have hn : '"' ∉ ([] : List Char) := List.not_mem_nil
  refine isEnclosed_congr ?_ ?_ ?_
  · cases left <;> rfl
  · rw [Nesting.marked_around h hc, Nesting.marked_around h hn]
    simp only [List.getLast?_append, getLast?_quotation]
  · rw [Nesting.marked_around h hc, Nesting.marked_around h hn,
      all_dropLast_around (by simp [quotation]) (by simp),
      all_dropLast_around (by simp [quotation]) (by simp)]

theorem exists_unwrap_around (h : Paired left) (right : List Char) :
    (∀ content, '"' ∉ content → unwrap? (left ++ (quotation content ++ right)) = none) ∨
    ∃ first last, Paired first ∧ first.length < left.length ∧ first <:+ left ∧ last <+: right ∧
      ∀ content, '"' ∉ content →
        unwrap? (left ++ (quotation content ++ right)) =
          some (first ++ (quotation content ++ last)) := by
  cases he : isEnclosed (left ++ (quotation [] ++ right)) with
  | false =>
    refine .inl fun content hc => ?_
    rw [unwrap?, isEnclosed_around h hc, he]
    rfl
  | true =>
    obtain ⟨hh, hl⟩ := isEnclosed_ends he
    rw [Nesting.marked_around h List.not_mem_nil] at hl
    -- The parentheses lie on both sides of the quotation.
    cases left with
    | nil => cases hh
    | cons x left =>
      obtain rfl : x = '(' := Option.some.inj hh
      have hr : right ≠ [] := by
        rintro rfl
        rw [Nesting.marked, List.append_nil, List.getLast?_append, getLast?_quotation] at hl
        cases hl
      have hp : Paired left := Paired.of_append (show Paired (['('] ++ left) from h) rfl
      refine .inr ⟨Text.trimStart left, Text.trimEnd right.dropLast, hp.trimStart, ?_, ?_, ?_,
        fun content hc => ?_⟩
      · exact Nat.lt_succ_of_le (List.dropWhile_suffix Text.isBlank).length_le
      · exact (List.dropWhile_suffix Text.isBlank).trans (List.suffix_cons _ left)
      · exact (Text.trimEnd_prefix _).trans (List.dropLast_prefix right)
      · have ht : Text.trim ('(' :: left ++ (quotation content ++ right)).tail.dropLast =
            Text.trimStart left ++ (quotation content ++ Text.trimEnd right.dropLast) := by
          rw [List.cons_append, List.tail_cons, List.dropLast_append_of_ne_nil (by simp [hr]),
            List.dropLast_append_of_ne_nil hr]
          exact Text.trim_around rfl rfl left content right.dropLast
        rw [unwrap?, isEnclosed_around h hc, he, if_pos rfl, ht]
        cases Text.trimStart left <;> rfl

-- ---------------------------------------------------------------------------
-- Expressions
-- ---------------------------------------------------------------------------

/-- Between two texts a quotation lies in one leaf of an expression, which is
otherwise read without it. -/
def Encloses (read : List Char → Expr (List Char)) (left right : List Char) : Prop :=
  ∃ context first last, first <:+ left ∧ last <+: right ∧
    ∀ content, '"' ∉ content →
      read (left ++ (quotation content ++ right)) =
        Expr.Context.fill (first ++ (quotation content ++ last)) context

namespace Encloses

theorem joined {read : List Char → Expr (List Char)} (h : Paired left) (connective : Connective)
    (hr : ∀ first last, Paired first → first <:+ left → Encloses read first last) :
    Encloses (fun text =>
      .joined connective ((splitTopLevel text connective.separator).map read)) left right := by
  obtain ⟨before, first, last, after, hp, hf, hl, hs⟩ := exists_split_around h right connective
  obtain ⟨context, inner, rest, hi, ht, hc⟩ := hr first last hp hf
  refine ⟨.joined connective (before.map read) context (after.map read), inner, rest,
    hi.trans hf, ht.trans hl, fun content hn => ?_⟩
  show Expr.joined connective ((splitTopLevel _ _).map read) = _
  rw [Expr.Context.fill_joined, ← hc content hn, hs content hn, List.map_append, List.map_cons]

theorem ofPart (h : Paired left)
    (hr : ∀ first last, Paired first → first.length < left.length →
      Encloses Expr.ofText first last) : Encloses Expr.ofPart left right := by
  have ht (content : List Char) : Text.trim (left ++ (quotation content ++ right)) =
      Text.trimStart left ++ (quotation content ++ Text.trimEnd right) :=
    Text.trim_around rfl rfl left content right
  have hf := List.dropWhile_suffix Text.isBlank (l := left)
  rcases exists_unwrap_around h.trimStart (Text.trimEnd right) with
    hn | ⟨first, last, hp, hlt, hi, hl, hs⟩
  · refine ⟨.hole, left, right, List.suffix_rfl, List.prefix_rfl, fun content hc => ?_⟩
    rw [Expr.ofPart, ht, hn content hc]
    rfl
  · obtain ⟨context, inner, rest, hb, he, hc⟩ :=
      hr first last hp (Nat.lt_of_lt_of_le hlt hf.length_le)
    refine ⟨.group context, inner, rest, (hb.trans hi).trans hf,
      (he.trans hl).trans (Text.trimEnd_prefix right), fun content hn => ?_⟩
    rw [Expr.ofPart, ht, hs content hn]
    exact congrArg Expr.group (hc content hn)

/-- By induction on the text before the quotation, which gets shorter with
every group that is opened. -/
theorem ofText (h : Paired left) (right : List Char) : Encloses Expr.ofText left right := by
  induction hl : left.length using Nat.strongRecOn generalizing left right with
  | ind length ih =>
    have hp {first : List Char} (hf : first <:+ left) (last : List Char) (hq : Paired first) :
        Encloses Expr.ofPart first last :=
      .ofPart hq fun inner rest hi hlt =>
        ih inner.length (Nat.lt_of_lt_of_le hlt (hl ▸ hf.length_le)) hi rest rfl
    rw [show Expr.ofText = _ from funext Expr.ofText_eq]
    refine .joined h .or fun clause rest hq hf => ?_
    exact .joined hq .and fun part rest hq hi => hp (hi.trans hf) rest hq

end Encloses

end RecordQuery
