/-!
# Codes of several bytes

Where characters have codes of several bytes, each code begins where the
one before it ends. What a code stands for follows from its bytes alone.
-/

namespace RecordQuery.Encoding

/-- What the code stands for that a byte begins, with the number of bytes
after it that belong to the code. -/
abbrev CodeReader := Nat → List Nat → Option (List Char × Nat)

def ofCodes? (code? : CodeReader) : List Nat → Option (List Char)
  | [] => some []
  | byte :: rest => do
    let (chars, further) ← code? byte rest
    let text ← ofCodes? code? (rest.drop further)
    some (chars ++ text)
termination_by bytes => bytes.length
decreasing_by simp only [List.length_drop, List.length_cons]; omega

def orPair? (pair? : Nat → Nat → Option (List Char)) : CodeReader := fun byte rest =>
  if byte < 0x80 then some ([Char.ofNat byte], 0)
  else
    match rest with
    | second :: _ => (pair? byte second).map fun chars => (chars, 1)
    | [] => none

theorem ofCodes?_orPair?_ascii (pair? : Nat → Nat → Option (List Char)) (bytes : List Nat)
    (h : ∀ byte ∈ bytes, byte < 0x80) :
    ofCodes? (orPair? pair?) bytes = some (bytes.map Char.ofNat) := by
  induction bytes with
  | nil => simp [ofCodes?]
  | cons byte rest ih =>
    have hb : byte < 0x80 := h byte List.mem_cons_self
    have hr := ih fun b hb => h b (List.mem_cons_of_mem _ hb)
    simp [ofCodes?, orPair?, hb, hr]

/-- The code that a pair stands for in a plane of rows and places, both
from 0x21 to 0x7e. The pair holds them in bytes from 0xa1 on. -/
def planeCode? (first second : Nat) : Option Nat :=
  if 0xa1 ≤ first ∧ 0xa1 ≤ second then some ((first - 0x80) * 256 + (second - 0x80)) else none

end RecordQuery.Encoding
