import RecordQuery.Text.Blank
import RecordQuery.Text.Search

/-!
# Quotes and parentheses

One pass over a text tells for every character whether it stands outside
double quotes, and how deep in parentheses. Separators count only where all
of them is outside quotes and at depth zero.
-/

namespace RecordQuery

/-- What has been read so far: open parentheses, less the closed ones, and
whether a quote is open. -/
structure Nesting where
  depth : Int
  inQuotes : Bool
deriving DecidableEq

namespace Nesting

def start : Nesting := ⟨0, false⟩

def step (state : Nesting) (c : Char) : Nesting :=
  if c == '"' then { state with inQuotes := !state.inQuotes }
  else if state.inQuotes then state
  else if c == '(' then { state with depth := state.depth + 1 }
  else if c == ')' then { state with depth := state.depth - 1 }
  else state

def run (state : Nesting) (text : List Char) : Nesting := text.foldl step state

theorem run_append (state : Nesting) (first second : List Char) :
    state.run (first ++ second) = (state.run first).run second := by
  simp [run]

/-- Depth at a character, itself counted; none for a quote and inside
quotes. -/
def depthAt? (state : Nesting) (c : Char) : Option Int :=
  if c == '"' || state.inQuotes then none else some (state.step c).depth

def marked (state : Nesting) : List Char → List (Char × Option Int)
  | [] => []
  | c :: rest => (c, state.depthAt? c) :: marked (state.step c) rest

theorem marked_append (state : Nesting) (first second : List Char) :
    state.marked (first ++ second) =
      state.marked first ++ (state.run first).marked second := by
  induction first generalizing state with
  | nil => rfl
  | cons c rest ih => simp [marked, run, ih]

@[simp] theorem map_fst_marked (state : Nesting) (text : List Char) :
    (state.marked text).map Prod.fst = text := by
  induction text generalizing state with
  | nil => rfl
  | cons c rest ih => simp [marked, ih]

@[simp] theorem length_marked (state : Nesting) (text : List Char) :
    (state.marked text).length = text.length := by
  rw [← List.length_map Prod.fst, map_fst_marked]

def levels (state : Nesting) (text : List Char) : List (Char × Bool) :=
  (state.marked text).map fun mark => (mark.1, mark.2 == some 0)

@[simp] theorem map_fst_levels (state : Nesting) (text : List Char) :
    (state.levels text).map Prod.fst = text := by
  simp [levels, Function.comp_def]

end Nesting

def splitTopLevel (text separator : List Char) : List (List Char) :=
  (Text.cut (separator.map fun c => (c, true)) (Nesting.start.levels text)).map (·.map Prod.fst)

theorem length_le_of_mem_splitTopLevel {text separator part : List Char}
    (h : part ∈ splitTopLevel text separator) : part.length ≤ text.length := by
  obtain ⟨piece, hp, rfl⟩ := List.mem_map.1 h
  have := Text.length_le_of_mem_cut hp
  simp_all [Nesting.levels, Nesting.length_marked]

/-- Whether a text is one group: it opens with a parenthesis that stays open
up to the last character. -/
def isEnclosed (text : List Char) : Bool :=
  let marks := Nesting.start.marked text
  match text.head?, marks.getLast? with
  | some '(', some (')', some 0) =>
    marks.dropLast.all fun mark => mark.2.all fun depth => 0 < depth
  | _, _ => false

/-- The text inside a group, unless it is blank. -/
def unwrap? (text : List Char) : Option (List Char) :=
  if isEnclosed text then
    match Text.trim text.tail.dropLast with
    | [] => none
    | inner => some inner
  else none

theorem length_lt_of_unwrap? {text inner : List Char} (h : unwrap? text = some inner) :
    inner.length < text.length := by
  unfold unwrap? at h
  split at h
  · next he =>
    cases text with
    | nil => simp [isEnclosed] at he
    | cons c rest =>
      split at h
      · simp at h
      · injection h with h
        subst h
        have := Text.length_trim_le rest.dropLast
        simp only [List.tail_cons, List.length_dropLast, List.length_cons] at this ⊢
        omega
  · simp at h

def hasParentheses (text : List Char) : Bool :=
  (Nesting.start.marked text).any fun mark =>
    mark.2.isSome && (mark.1 == '(' || mark.1 == ')')

end RecordQuery
