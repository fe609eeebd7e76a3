import RecordQuery.Text.Digit

/-!
# White space

Blanks are the white space of Unicode together with the four separators
U+001C to U+001F. Text is cut into words at runs of blanks, and normalised
by joining its words with single spaces.
-/

namespace RecordQuery.Text

def blankRanges : Ranges := [
  (0x9, 0xd), (0x1c, 0x20), (0x85, 0x85), (0xa0, 0xa0), (0x1680, 0x1680),
  (0x2000, 0x200a), (0x2028, 0x2029), (0x202f, 0x202f), (0x205f, 0x205f), (0x3000, 0x3000)]

def isBlank (c : Char) : Bool := blankRanges.has c

def trimStart (text : List Char) : List Char := text.dropWhile isBlank

def trimEnd : List Char → List Char
  | [] => []
  | c :: rest =>
    match trimEnd rest with
    | [] => if isBlank c then [] else [c]
    | kept => c :: kept

def trim (text : List Char) : List Char := trimEnd (trimStart text)

theorem length_trimEnd_le (text : List Char) : (trimEnd text).length ≤ text.length := by
  induction text with
  | nil => simp [trimEnd]
  | cons c rest ih =>
    unfold trimEnd
    split
    · split <;> simp
    · next kept _ => simp_all

theorem length_trim_le (text : List Char) : (trim text).length ≤ text.length :=
  Nat.le_trans (length_trimEnd_le _) ((List.dropWhile_sublist isBlank).length_le)

def isBlankText (text : List Char) : Bool := text.all isBlank

def words : List Char → List (List Char)
  | [] => []
  | c :: rest =>
    if isBlank c then words rest
    else match rest, words rest with
      | [], found => [c] :: found
      | next :: _, found =>
        if isBlank next then [c] :: found
        else match found with
          | [] => [[c]]
          | word :: more => (c :: word) :: more

/-- Every run of blanks becomes one space; none is left at the ends. -/
def normalize (text : List Char) : List Char := [' '].intercalate (words text)

end RecordQuery.Text
