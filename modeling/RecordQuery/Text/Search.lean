/-!
# Finding and cutting

Cutting takes the leftmost places where the separator stands and never lets
two of them overlap, for any kind of element.
-/

namespace RecordQuery.Text

variable {α : Type} [BEq α]

def occursIn (part : List α) : List α → Bool
  | [] => part.isEmpty
  | x :: rest => part.isPrefixOf (x :: rest) || occursIn part rest

def consFirst (x : α) : List (List α) → List (List α)
  | [] => [[x]]
  | piece :: pieces => (x :: piece) :: pieces

/-- The first `skip` elements still belong to a separator that was found. -/
def cutFrom (separator : List α) : Nat → List α → List (List α)
  | _, [] => [[]]
  | skip + 1, _ :: rest => cutFrom separator skip rest
  | 0, x :: rest =>
    if separator.isPrefixOf (x :: rest) then
      [] :: cutFrom separator (separator.length - 1) rest
    else consFirst x (cutFrom separator 0 rest)

def cut (separator whole : List α) : List (List α) := cutFrom separator 0 whole

omit [BEq α] in
theorem length_le_of_mem_consFirst {x : α} {pieces : List (List α)} {n : Nat}
    (h : ∀ piece ∈ pieces, piece.length ≤ n) :
    ∀ piece ∈ consFirst x pieces, piece.length ≤ n + 1 := by
  intro piece hp
  cases pieces with
  | nil => simp_all [consFirst]
  | cons first rest =>
    rcases List.mem_cons.1 hp with rfl | hp
    · have := h first (by simp)
      simpa using this
    · have := h piece (List.mem_cons_of_mem _ hp)
      omega

theorem length_le_of_mem_cutFrom {separator : List α} {skip : Nat} {whole : List α} :
    ∀ piece ∈ cutFrom separator skip whole, piece.length ≤ whole.length := by
  induction whole generalizing skip with
  | nil => intro piece hp; cases skip <;> simp_all [cutFrom]
  | cons x rest ih =>
    intro piece hp
    cases skip with
    | succ skip =>
      have := ih piece hp
      simp only [List.length_cons]
      omega
    | zero =>
      simp only [cutFrom] at hp
      split at hp
      · rcases List.mem_cons.1 hp with rfl | hp
        · simp
        · have := ih piece hp
          simp only [List.length_cons]
          omega
      · exact length_le_of_mem_consFirst ih piece hp

theorem length_le_of_mem_cut {separator whole piece : List α} (h : piece ∈ cut separator whole) :
    piece.length ≤ whole.length :=
  length_le_of_mem_cutFrom piece h

def without (drop : Char) (text : List Char) : List Char := text.filter (· != drop)

end RecordQuery.Text
