import RecordQuery.Text.Blank
import RecordQuery.Text.Case
import RecordQuery.Text.Digit
import RecordQuery.Text.Word

/-!
# Patterns

A pattern describes texts. Where it may go on in several ways these are
tried in a fixed order, and the first one with which the rest of the
pattern succeeds counts: earlier alternatives before later ones, more
repetitions before fewer unless it is lazy. A repetition ends once it takes
nothing.
-/

namespace RecordQuery.Text

inductive CharKind where
  | digit | word | blank
  /-- The same among ASCII characters only. -/
  | asciiDigit | asciiWord | asciiBlank
deriving DecidableEq

def CharKind.has (kind : CharKind) (c : Char) : Bool :=
  match kind with
  | digit => (digit? c).isSome
  | word => isWord c
  | blank => isBlank c
  | asciiDigit => c.isDigit
  | asciiWord => c.isAlphanum || c == '_'
  | asciiBlank => c == ' ' || (9 ≤ c.toNat && c.toNat ≤ 13)

inductive CharItem where
  | char (c : Char)
  | between (first last : Char)
  | kind (kind : CharKind) (holds : Bool)
deriving DecidableEq

def CharItem.has (item : CharItem) (c : Char) : Bool :=
  match item with
  | char d => c == d
  | between first last => first ≤ c && c ≤ last
  | kind k holds => k.has c == holds

structure CharClass where
  items : List CharItem
  isNegated : Bool
  ignoresCase : Bool
deriving DecidableEq

def caseForms (c : Char) : List Char :=
  c :: ([lowerChar c, upperChar c].filter (·.length == 1)).flatten

def CharClass.has (chars : CharClass) (c : Char) : Bool :=
  let forms := if chars.ignoresCase then caseForms c else [c]
  (forms.any fun form => chars.items.any (·.has form)) != chars.isNegated

inductive Anchor where
  | textStart | textEnd
  /-- The end of the text, or before a line feed that ends it. -/
  | lastEnd
  | lineStart | lineEnd
  | wordEdge | noWordEdge
deriving DecidableEq

inductive Greed where
  | most | least
  /-- As many as there are, never fewer. -/
  | all
deriving DecidableEq

inductive Pattern where
  | empty
  | one (chars : CharClass)
  | seq (first next : Pattern)
  | either (first second : Pattern)
  | repeated (least : Nat) (most : Option Nat) (greed : Greed) (body : Pattern)
  | group (index : Nat) (body : Pattern)
  | same (index : Nat) (ignoresCase : Bool)
  /-- Only the first way in which the body goes on counts. -/
  | atomic (body : Pattern)
  /-- Whether the body goes on from here, without going on. -/
  | ahead (holds : Bool) (body : Pattern)
  /-- Whether the body ends here, so many characters long. -/
  | behind (holds : Bool) (width : Nat) (body : Pattern)
  | ifGroup (index : Nat) (yes no : Pattern)
  | at (anchor : Anchor)
deriving Inhabited

/-- A place in a text, and the texts of groups, the latest first. What is
before the place is reversed. -/
structure Position where
  before : List Char
  after : List Char
  groups : List (Nat × List Char)

namespace Position

def start (text : List Char) : Position := ⟨[], text, []⟩

def offset (position : Position) : Nat := position.before.length

def textSince (position : Position) (offset : Nat) : List Char :=
  (position.before.take (position.offset - offset)).reverse

def capture (position : Position) (index offset : Nat) : Position :=
  { position with groups := (index, position.textSince offset) :: position.groups }

def skip? (position : Position) (sameChar : Char → Char → Bool) (text : List Char) :
    Option Position :=
  let found := position.after.take text.length
  if found.length == text.length && (text.zip found).all fun pair => sameChar pair.1 pair.2 then
    some ⟨found.reverse ++ position.before, position.after.drop text.length, position.groups⟩
  else none

def back? (position : Position) (count : Nat) : Option Position :=
  if count ≤ position.offset then
    some ⟨position.before.drop count, (position.before.take count).reverse ++ position.after,
      position.groups⟩
  else none

def next? (position : Position) : Option Position :=
  match position.after with
  | [] => none
  | c :: rest => some ⟨c :: position.before, rest, []⟩

end Position

def isWordEdge (position : Position) : Bool :=
  position.before.head?.any isWord != position.after.head?.any isWord

def Anchor.holds (anchor : Anchor) (position : Position) : Bool :=
  match anchor with
  | textStart => position.before.isEmpty
  | textEnd => position.after.isEmpty
  | lastEnd => position.after.isEmpty || position.after == ['\n']
  | lineStart => position.before.isEmpty || position.before.head? == some '\n'
  | lineEnd => position.after.isEmpty || position.after.head? == some '\n'
  | wordEdge => isWordEdge position
  | noWordEdge =>
    !(position.before.isEmpty && position.after.isEmpty) && !isWordEdge position

/-- How a part of a pattern goes on from a place: it finds the first end of
it from which the rest succeeds. -/
abbrev Walk := Position → (Position → Option Position) → Option Position

/-- Repeats a walk; `count` bounds the repetitions, and `last` is where the
latest one that was not due started. -/
def repeatWalk (walk : Walk) (isLazy : Bool) :
    (count least : Nat) → (most : Option Nat) → (last : Option Nat) → Walk
  | 0, _, _, _, position, rest => rest position
  | count + 1, least + 1, most, last, position, rest =>
    walk position fun position =>
      repeatWalk walk isLazy count least (most.map (· - 1)) last position rest
  | count + 1, 0, most, last, position, rest =>
    let more := fun (_ : Unit) =>
      if most == some 0 || last == some position.offset then none
      else walk position fun next =>
        repeatWalk walk isLazy count 0 (most.map (· - 1)) (some position.offset) next rest
    if isLazy then (rest position).orElse more
    else (more ()).orElse fun _ => rest position

namespace Pattern

def walk : Pattern → Walk
  | empty, position, rest => rest position
  | one chars, position, rest =>
    match position.after with
    | c :: after =>
      if chars.has c then rest ⟨c :: position.before, after, position.groups⟩ else none
    | [] => none
  | seq first next, position, rest => first.walk position fun middle => next.walk middle rest
  | either first second, position, rest =>
    (first.walk position rest).orElse fun _ => second.walk position rest
  | repeated least most greed body, position, rest =>
    let count := least + position.after.length + 2
    match greed with
    | .most => repeatWalk body.walk false count least most none position rest
    | .least => repeatWalk body.walk true count least most none position rest
    | .all => (repeatWalk body.walk false count least most none position some).bind rest
  | group index body, position, rest =>
    body.walk position fun finish => rest (finish.capture index position.offset)
  | same index ignoresCase, position, rest =>
    let sameChar := fun a b =>
      if ignoresCase then (caseForms a).any (caseForms b).contains else a == b
    ((position.groups.lookup index).bind (position.skip? sameChar)).bind rest
  | atomic body, position, rest => (body.walk position some).bind rest
  | ahead holds body, position, rest =>
    match body.walk position some, holds with
    | some finish, true => rest { position with groups := finish.groups }
    | none, false => rest position
    | _, _ => none
  | behind holds width body, position, rest =>
    match (position.back? width).bind fun back => body.walk back some, holds with
    | some finish, true => rest { position with groups := finish.groups }
    | none, false => rest position
    | _, _ => none
  | ifGroup index yes no, position, rest =>
    if (position.groups.lookup index).isSome then yes.walk position rest
    else no.walk position rest
  | .at anchor, position, rest => if anchor.holds position then rest position else none

/-- The end of the pattern from a place on; if it must advance, one further
on. -/
def endFrom? (pattern : Pattern) (mustAdvance : Bool) (position : Position) : Option Position :=
  pattern.walk position fun finish =>
    if mustAdvance && finish.offset == position.offset then none else some finish

def search? (pattern : Pattern) : Nat → Bool → Position → Option (Position × Position)
  | 0, _, _ => none
  | count + 1, mustAdvance, position =>
    match pattern.endFrom? mustAdvance position with
    | some finish => some (position, finish)
    | none => position.next?.bind (pattern.search? count false)

structure Found where
  skipped : List Char
  groups : List (Nat × List Char)

/-- All places where the pattern stands, none overlapping another, and the
text after the last. It does not stand twice at one place without taking a
character. -/
def findFrom (pattern : Pattern) : Nat → Bool → Position → List Found × List Char
  | 0, _, position => ([], position.after)
  | count + 1, mustAdvance, position =>
    match pattern.search? (position.after.length + 1) mustAdvance position with
    | none => ([], position.after)
    | some (start, finish) =>
      let (others, rest) :=
        findFrom pattern count (finish.offset == start.offset) { finish with groups := [] }
      (⟨start.textSince position.offset, finish.groups⟩ :: others, rest)

def find (pattern : Pattern) (text : List Char) : List Found × List Char :=
  pattern.findFrom (2 * text.length + 2) false (.start text)

/-- The pieces between the places where the pattern stands. The texts of
its groups stand between them, where there are any. -/
def split (pattern : Pattern) (groups : Nat) (text : List Char) : List (Option (List Char)) :=
  let (found, rest) := pattern.find text
  found.flatMap (fun place =>
    some place.skipped ::
      (List.range groups).map fun index => place.groups.lookup (index + 1)) ++ [some rest]

end Pattern

end RecordQuery.Text
