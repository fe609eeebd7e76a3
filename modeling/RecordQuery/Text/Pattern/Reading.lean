import RecordQuery.Text.Digit
import RecordQuery.Text.Pattern
import RecordQuery.Text.Quoted
import RecordQuery.Text.Word

/-!
# Reading patterns

How patterns are written: alternatives stand between bars, parts in
parentheses, and what is repeated is followed by a star, a plus, a question
mark or bounds in braces. Each function gives what it read together with
the rest of the text.
-/

namespace RecordQuery.Text.Pattern

structure Malformed where
  reason : String
  left : Option Nat

structure Flags where
  ignoresCase : Bool
  isAscii : Bool
  hasLines : Bool
  spansLines : Bool
  isLoose : Bool

def Flags.none : Flags := ⟨false, false, false, false, false⟩

def Flags.set (flags : Flags) (letter : Char) (value : Bool) : Flags :=
  match letter with
  | 'i' => { flags with ignoresCase := value }
  | 'a' => { flags with isAscii := value }
  | 'u' => { flags with isAscii := !value }
  | 'm' => { flags with hasLines := value }
  | 's' => { flags with spansLines := value }
  | 'x' => { flags with isLoose := value }
  | _ => flags

abbrev Width := Nat × Option Nat

def Width.plus (a b : Width) : Width := (a.1 + b.1, a.2.bind fun x => b.2.map (x + ·))

def Width.or (a b : Width) : Width := (min a.1 b.1, a.2.bind fun x => b.2.map (max x ·))

/-- What is known of the groups: how many were opened, their names, and the
widths of those that are closed. -/
structure Groups where
  opened : Nat
  names : List (String × Nat)
  closed : List (Nat × Width)
  /-- Numbers that were asked for whether or not such a group was opened,
  each with how much of the text was left. -/
  asked : List (Nat × Nat)

def width (groups : Groups) : Pattern → Width
  | empty | ahead .. | behind .. | .at _ => (0, some 0)
  | one _ => (1, some 1)
  | seq first next => (first.width groups).plus (next.width groups)
  | either first second => (first.width groups).or (second.width groups)
  | repeated least most _ body =>
    let (low, high) := body.width groups
    (low * least, if high == some 0 then some 0 else high.bind fun x => most.map (x * ·))
  | group _ body | atomic body => body.width groups
  | same index _ => (groups.closed.lookup index).getD (0, some 0)
  | ifGroup _ yes no => (yes.width groups).or (no.width groups)

structure Progress where
  flags : Flags
  groups : Groups
  /-- Nothing but options has been read. -/
  isStart : Bool
  /-- Inside what looks back: the groups that had been opened before. -/
  before : Option Nat

def fail {α : Type} (reason : String) (left : List Char) : Except Malformed α :=
  .error ⟨reason, some left.length⟩

def hexChar? (count : Nat) (text : List Char) : Option (Char × List Char) := do
  let digits ← (text.take count).mapM hexValue?
  let code := digits.foldl (fun n d => 16 * n + d) 0
  if digits.length == count && code.isValidChar then some (Char.ofNat code, text.drop count)
  else none

def isOctal (c : Char) : Bool := '0' ≤ c && c ≤ '7'

def octal (digits : List Char) : Nat := digits.foldl (fun n c => 8 * n + (c.toNat - '0'.toNat)) 0

def plainEscape (text : List Char) : Except Malformed (Char × List Char) :=
  match text with
  | '\\' :: c :: rest =>
    let bad := fail ("bad escape " ++ String.ofList ['\\', c]) text
    let hex := fun count =>
      match hexChar? count rest with
      | some found => .ok found
      | none =>
        let digits := (rest.take count).takeWhile fun c => (hexValue? c).isSome
        fail ("incomplete escape " ++ String.ofList ('\\' :: c :: digits)) text
    match c with
    | 'a' => .ok ('\x07', rest)
    | 'f' => .ok ('\x0c', rest)
    | 'n' => .ok ('\n', rest)
    | 'r' => .ok ('\r', rest)
    | 't' => .ok ('\t', rest)
    | 'v' => .ok ('\x0b', rest)
    | 'x' => hex 2
    | 'u' => hex 4
    | 'U' => hex 8
    | _ => if c.isAlphanum then bad else .ok (c, rest)
  | _ => .error ⟨"bad escape (end of pattern)", some 1⟩

def kindEscape? (flags : Flags) (c : Char) : Option CharItem :=
  let kind := fun (plain ascii : CharKind) => if flags.isAscii then ascii else plain
  match c with
  | 'd' => some (.kind (kind .digit .asciiDigit) true)
  | 'D' => some (.kind (kind .digit .asciiDigit) false)
  | 'w' => some (.kind (kind .word .asciiWord) true)
  | 'W' => some (.kind (kind .word .asciiWord) false)
  | 's' => some (.kind (kind .blank .asciiBlank) true)
  | 'S' => some (.kind (kind .blank .asciiBlank) false)
  | _ => none

def octalEscape (text digits rest : List Char) : Except Malformed (Char × List Char) :=
  if 255 < octal digits then
    fail ("octal escape value \\" ++ String.ofList digits ++ " outside of range 0-0o377") text
  else .ok (Char.ofNat (octal digits), rest)

def classItem (flags : Flags) (text : List Char) : Except Malformed (CharItem × List Char) :=
  match text with
  | '\\' :: 'b' :: rest => .ok (.char '\x08', rest)
  | '\\' :: c :: rest =>
    match kindEscape? flags c with
    | some item => .ok (item, rest)
    | none =>
      if isOctal c then do
        let digits := c :: (rest.take 2).takeWhile isOctal
        let (found, rest) ← octalEscape text digits (rest.drop (digits.length - 1))
        .ok (.char found, rest)
      else do
        let (found, rest) ← plainEscape text
        .ok (.char found, rest)
  | ['\\'] => .error ⟨"bad escape (end of pattern)", some 1⟩
  | c :: rest => .ok (.char c, rest)
  | [] => .error ⟨"unterminated character set", none⟩

def token (text : List Char) : List Char := text.take (if text.head? == some '\\' then 2 else 1)

def badRange {α : Type} (first last rest : List Char) : Except Malformed α :=
  let shown := token first ++ '-' :: token last
  .error ⟨"bad character range " ++ String.ofList shown, some (rest.length + shown.length)⟩

/-- Items up to the closing bracket, which is an item where it comes first.
`start` is the text from the opening bracket on. -/
def classItems (flags : Flags) (start : List Char) :
    Nat → Bool → List Char → Except Malformed (List CharItem × List Char)
  | 0, _, _ | _, _, [] => fail "unterminated character set" start
  | count + 1, isFirst, text => do
    if text.head? == some ']' && !isFirst then .ok ([], text.drop 1)
    else
      let (item, rest) ← classItem flags text
      match rest with
      | '-' :: ']' :: rest => .ok ([item, .char '-'], rest)
      | ['-'] => fail "unterminated character set" start
      | '-' :: rest' =>
        let (last, rest) ← classItem flags rest'
        match item, last with
        | .char a, .char b =>
          if a ≤ b then
            let (others, rest) ← classItems flags start count false rest
            .ok (.between a b :: others, rest)
          else badRange text rest' rest
        | _, _ => badRange text rest' rest
      | _ =>
        let (others, rest) ← classItems flags start count false rest
        .ok (item :: others, rest)

def bracketed (flags : Flags) (text : List Char) : Except Malformed (Pattern × List Char) := do
  let (isNegated, inner) := match text.drop 1 with
    | '^' :: inner => (true, inner)
    | inner => (false, inner)
  let (items, rest) ← classItems flags text (text.length + 1) true inner
  .ok (.one ⟨items, isNegated, flags.ignoresCase⟩, rest)

def oneItem (flags : Flags) (item : CharItem) : Pattern :=
  .one ⟨[item], false, flags.ignoresCase⟩

def anyChar (flags : Flags) : Pattern :=
  .one ⟨if flags.spansLines then [] else [.char '\n'], true, false⟩

/-- What looks back may refer to nothing but groups closed before it. -/
def checkBefore (progress : Progress) (index : Nat) (left : List Char) : Except Malformed Unit :=
  match progress.before with
  | none => .ok ()
  | some opened =>
    if (progress.groups.closed.lookup index).isNone then fail "cannot refer to an open group" left
    else if opened < index then
      fail "cannot refer to group defined in the same lookbehind subpattern" left
    else .ok ()

def backReference (progress : Progress) (index : Nat) (text left : List Char) :
    Except Malformed (Pattern × List Char) :=
  if progress.groups.opened < index then
    fail ("invalid group reference " ++ toString index) (text.drop 1)
  else if (progress.groups.closed.lookup index).isNone then
    fail "cannot refer to an open group" text
  else do
    checkBefore progress index left
    .ok (.same index progress.flags.ignoresCase, left)

def escaped (progress : Progress) (text : List Char) : Except Malformed (Pattern × List Char) :=
  let flags := progress.flags
  match text with
  | '\\' :: c :: rest =>
    match c, kindEscape? flags c with
    | _, some item => .ok (oneItem flags item, rest)
    | 'A', none => .ok (.at .textStart, rest)
    | 'Z', none => .ok (.at .textEnd, rest)
    | 'b', none => .ok (.at .wordEdge, rest)
    | 'B', none => .ok (.at .noWordEdge, rest)
    | '0', none => do
      let digits := (rest.take 2).takeWhile isOctal
      let (found, rest) ← octalEscape text digits (rest.drop digits.length)
      .ok (oneItem flags (.char found), rest)
    | c, none =>
      if c.isDigit then
        let digits := c :: (rest.take 1).takeWhile Char.isDigit
        let three := c :: (rest.take 2).takeWhile isOctal
        if isOctal c && three.length == 3 then do
          let (found, rest) ← octalEscape text three (rest.drop 2)
          .ok (oneItem flags (.char found), rest)
        else
          let index := Text.ofDigits (digits.map fun d => d.toNat - '0'.toNat)
          backReference progress index text (rest.drop (digits.length - 1))
      else do
        let (found, rest) ← plainEscape text
        .ok (oneItem flags (.char found), rest)
  | _ => .error ⟨"bad escape (end of pattern)", some 1⟩

/-- Bounds in braces after the opening one: the least number and the
greatest. Anything else in braces is text. -/
def bounds? (text : List Char) : Option ((Nat × Option Nat) × List Char) :=
  let number := fun (digits : List Char) =>
    Text.ofDigits (digits.map fun d => d.toNat - '0'.toNat)
  let low := text.takeWhile Char.isDigit
  match text.dropWhile Char.isDigit with
  | '\x7d' :: rest => if low.isEmpty then none else some ((number low, some (number low)), rest)
  | ',' :: after =>
    let high := after.takeWhile Char.isDigit
    match after.dropWhile Char.isDigit with
    | '\x7d' :: rest =>
      some ((number low, if high.isEmpty then none else some (number high)), rest)
    | _ => none
  | _ => none

def repetition? (text : List Char) : Except Malformed (Option ((Nat × Option Nat) × List Char)) :=
  match text with
  | '*' :: rest => .ok (some ((0, none), rest))
  | '+' :: rest => .ok (some ((1, none), rest))
  | '?' :: rest => .ok (some ((0, some 1), rest))
  | '\x7b' :: rest =>
    match bounds? rest with
    | some ((low, some high), after) =>
      if high < low then fail "min repeat greater than max repeat" rest
      else .ok (some ((low, some high), after))
    | found => .ok found
  | _ => .ok none

/-- Drops what counts for nothing: comments in parentheses, and in a loose
pattern also blanks and lines of comment. `close` is the character that
ends the comment one is in. -/
def skipIgnored (flags : Flags) : (close : Option Char) → List Char → List Char
  | _, [] => []
  | some close, c :: rest => skipIgnored flags (if c == close then none else some close) rest
  | none, '(' :: '?' :: '#' :: rest =>
    if rest.contains ')' then skipIgnored flags (some ')') rest else '(' :: '?' :: '#' :: rest
  | none, c :: rest =>
    if flags.isLoose && CharKind.asciiBlank.has c then skipIgnored flags none rest
    else if flags.isLoose && c == '#' then skipIgnored flags (some '\n') rest
    else c :: rest

inductive Opening where
  | group (name : Option String)
  | plain
  | atomic
  | ahead (holds : Bool)
  | behind (holds : Bool)
  | flagged (flags : Flags)
  | global (flags : Flags)
  | comment
  | same (name : String)
  | ifGroup (name : String)

def nameUntil (close : Char) (text : List Char) : Except Malformed (String × List Char) :=
  let name := text.takeWhile (· != close)
  match text.dropWhile (· != close) with
  | [] =>
    if name.isEmpty then fail "missing group name" []
    else fail ("missing " ++ String.ofList [close] ++ ", unterminated name") text
  | _ :: rest =>
    if name.isEmpty then fail "missing group name" text else .ok (String.ofList name, rest)

def isFlag (c : Char) : Bool := "aimsuxL".toList.contains c

def isTypeFlag (c : Char) : Bool := "auL".toList.contains c

def Flags.setAll (flags : Flags) (letters : List Char) (value : Bool) : Flags :=
  letters.foldl (fun flags letter => flags.set letter value) flags

def badFlag {α : Type} (reason : String) (text : List Char) : Except Malformed α :=
  fail (if text.head?.any Char.isAlpha then "unknown flag" else reason) text

def flagsOff (flags : Flags) (on off : List Char) :
    List Char → Except Malformed (Opening × List Char)
  | [] => fail (if off.isEmpty then "missing flag" else "missing :") []
  | c :: rest =>
    if c == ':' && !off.isEmpty then
      if on.any off.contains then fail "bad inline flags: flag turned on and off" (c :: rest)
      else .ok (.flagged ((flags.setAll on true).setAll off false), rest)
    else if !isFlag c then badFlag (if off.isEmpty then "missing flag" else "missing :") (c :: rest)
    else if isTypeFlag c then
      fail "bad inline flags: cannot turn off flags 'a', 'u' and 'L'" rest
    else flagsOff flags on (c :: off) rest

def flagsOn (flags : Flags) (on : List Char) : List Char → Except Malformed (Opening × List Char)
  | [] => fail "missing -, : or )" []
  | c :: rest =>
    if c == ')' then .ok (.global (flags.setAll on true), rest)
    else if c == ':' then .ok (.flagged (flags.setAll on true), rest)
    else if c == '-' then flagsOff flags on [] rest
    else if !isFlag c then badFlag "missing -, : or )" (c :: rest)
    else if c == 'L' then fail "bad inline flags: cannot use 'L' flag with a str pattern" rest
    else if isTypeFlag c && on.any fun d => isTypeFlag d && d != c then
      fail "bad inline flags: flags 'a', 'u' and 'L' are incompatible" rest
    else flagsOn flags (c :: on) rest

def unknownOpening {α : Type} (start : String) (rest text : List Char) : Except Malformed α :=
  fail ("unknown extension " ++ start ++ String.ofList (token rest)) text

def opening (flags : Flags) (text : List Char) : Except Malformed (Opening × List Char) :=
  match text with
  | ['?'] => fail "unexpected end of pattern" []
  | '?' :: c :: rest =>
    match c, rest with
    | ':', _ => .ok (.plain, rest)
    | '>', _ => .ok (.atomic, rest)
    | '=', _ => .ok (.ahead true, rest)
    | '!', _ => .ok (.ahead false, rest)
    | '#', _ => .ok (.comment, rest)
    | '<', '=' :: rest => .ok (.behind true, rest)
    | '<', '!' :: rest => .ok (.behind false, rest)
    | '<', _ :: _ => unknownOpening "?<" rest text
    | '<', [] | 'P', [] => fail "unexpected end of pattern" []
    | 'P', '<' :: rest => do
      let (name, rest) ← nameUntil '>' rest
      .ok (.group (some name), rest)
    | 'P', '=' :: rest => do
      let (name, rest) ← nameUntil ')' rest
      .ok (.same name, rest)
    | 'P', _ :: _ => unknownOpening "?P" rest text
    | '(', _ => do
      let (name, rest) ← nameUntil ')' rest
      .ok (.ifGroup name, rest)
    | _, _ =>
      if c == '-' || isFlag c then flagsOn flags [] (c :: rest)
      else unknownOpening "?" (c :: rest) text
  | _ => .ok (.group none, text)

def globalFlags? (flags : Flags) (text : List Char) : Option (Flags × List Char) :=
  match text with
  | '(' :: inner =>
    match opening flags inner with
    | .ok (.global flags, rest) => some (flags, rest)
    | _ => none
  | _ => none

def isName (name : List Char) : Bool :=
  name.all isWord && name.head?.any fun c => !c.isDigit

def quotedName (name : String) : String := String.ofList (quoted name.toList)

def namedGroup (groups : Groups) (name : String) (left : List Char) : Except Malformed Nat :=
  if !isName name.toList then fail ("bad character in group name " ++ quotedName name) left
  else
    match groups.names.lookup name with
    | some index => .ok index
    | none => fail ("unknown group name " ++ quotedName name) left

def groupNumber (groups : Groups) (name : String) (left : List Char) : Except Malformed Nat :=
  if name.toList.all Char.isDigit then
    match Text.ofDigits (name.toList.map fun d => d.toNat - '0'.toNat) with
    | 0 => fail "bad group number" left
    | index => .ok index
  else namedGroup groups name left

def closing (start : List Char) (rest : List Char) : Except Malformed (List Char) :=
  match rest with
  | ')' :: rest => .ok rest
  | _ => fail "missing ), unterminated subpattern" start

def Progress.countGroup (progress : Progress) : Progress :=
  { progress with groups := { progress.groups with opened := progress.groups.opened + 1 } }

def Progress.nameGroup (progress : Progress) (name : String) : Progress :=
  let names := (name, progress.groups.opened) :: progress.groups.names
  { progress with groups := { progress.groups with names := names } }

def Progress.openGroup (progress : Progress) (name : Option String) (left : List Char) :
    Except Malformed Progress :=
  let opened := progress.countGroup
  match name with
  | none => .ok opened
  | some name =>
    let named := name.toList ++ '>' :: left
    if !isName name.toList then fail ("bad character in group name " ++ quotedName name) named
    else
      match progress.groups.names.lookup name with
      | none => .ok (opened.nameGroup name)
      | some index =>
        fail ("redefinition of group name " ++ quotedName name ++ " as group " ++
          toString opened.groups.opened ++ "; was group " ++ toString index) named

def Progress.ask (progress : Progress) (index : Nat) (left : List Char) : Progress :=
  { progress with groups := { progress.groups with
      asked := progress.groups.asked ++ [(index, left.length)] } }

def Progress.closeGroup (progress : Progress) (index : Nat) (body : Pattern) : Progress :=
  { progress with groups := { progress.groups with
      closed := (index, body.width progress.groups) :: progress.groups.closed } }

abbrev Reading := (Pattern × Progress) × List Char

mutual
def alternatives : Nat → Progress → List Char → Except Malformed Reading
  | 0, _, text => fail "too deep" text
  | count + 1, progress, text => do
    let ((first, progress), rest) ← sequence count progress text
    match rest with
    | '|' :: rest =>
      let ((second, progress), rest) ← alternatives count { progress with isStart := false } rest
      .ok ((.either first second, progress), rest)
    | _ => .ok ((first, progress), rest)
def sequence : Nat → Progress → List Char → Except Malformed Reading
  | 0, _, text => fail "too deep" text
  | count + 1, progress, text => do
    let text := skipIgnored progress.flags none text
    match text, globalFlags? progress.flags text with
    | [], _ | '|' :: _, _ | ')' :: _, _ => .ok ((.empty, progress), text)
    | _, some (flags, rest) =>
      if progress.isStart then sequence count { progress with flags := flags } rest
      else fail "global flags not at the start of the expression" text
    | _, none =>
      let ((part, progress), rest) ← piece count { progress with isStart := false } text
      let ((others, progress), rest) ← sequence count progress rest
      .ok ((.seq part others, progress), rest)
def piece : Nat → Progress → List Char → Except Malformed Reading
  | 0, _, text => fail "too deep" text
  | count + 1, progress, text => do
    if (← repetition? text).isSome then fail "nothing to repeat" text
    else
      let ((part, after), rest) ← atom count progress text
      let rest := skipIgnored after.flags none rest
      match ← repetition? rest, part with
      | none, _ => .ok ((part, after), rest)
      | some _, .at _ => fail "nothing to repeat" rest
      | some ((low, high), further), _ =>
        let (greed, further) : Greed × List Char :=
          match further with
          | '?' :: further => (.least, further)
          | '+' :: further => (.all, further)
          | _ => (.most, further)
        let further := skipIgnored after.flags none further
        if (← repetition? further).isSome then fail "multiple repeat" further
        else .ok ((.repeated low high greed part, after), further)
def atom : Nat → Progress → List Char → Except Malformed Reading
  | 0, _, text => fail "too deep" text
  | count + 1, progress, text =>
    let flags := progress.flags
    match text with
    | [] => .ok ((.empty, progress), [])
    | '\\' :: _ => do
      let (part, rest) ← escaped progress text
      .ok ((part, progress), rest)
    | '[' :: _ => do
      let (part, rest) ← bracketed flags text
      .ok ((part, progress), rest)
    | '.' :: rest => .ok ((anyChar flags, progress), rest)
    | '^' :: rest => .ok ((.at (if flags.hasLines then .lineStart else .textStart), progress), rest)
    | '$' :: rest => .ok ((.at (if flags.hasLines then .lineEnd else .lastEnd), progress), rest)
    | '(' :: inner => do
      let (opened, rest) ← opening flags inner
      let keep := fun (after : Progress) => { after with flags := flags }
      let body := fun (progress : Progress) (rest : List Char) => do
        let (found, rest) ← alternatives count progress rest
        .ok (found, ← closing text rest)
      match opened with
      | .group name =>
        let inside ← progress.openGroup name rest
        let index := inside.groups.opened
        let ((part, after), rest) ← body inside rest
        .ok ((.group index part, keep (after.closeGroup index part)), rest)
      | .plain =>
        let ((part, after), rest) ← body progress rest
        -- Kept apart from its only part, so that an anchor may be repeated.
        .ok ((.seq part .empty, keep after), rest)
      | .atomic =>
        let ((part, after), rest) ← body progress rest
        .ok ((.atomic part, keep after), rest)
      | .ahead holds =>
        let ((part, after), rest) ← body progress rest
        .ok ((.ahead holds part, keep after), rest)
      | .behind holds =>
        let before := progress.before.getD progress.groups.opened
        let ((part, after), rest) ← body { progress with before := some before } rest
        let after := { after with before := progress.before }
        let (low, high) := part.width after.groups
        if high == some low then .ok ((.behind holds low part, keep after), rest)
        else .error ⟨"look-behind requires fixed-width pattern", none⟩
      | .flagged flags =>
        let ((part, after), rest) ← body { progress with flags := flags } rest
        .ok ((.seq part .empty, keep after), rest)
      | .global _ => fail "global flags not at the start of the expression" text
      | .comment => fail "missing ), unterminated comment" text
      | .same name =>
        let named := name.toList ++ ')' :: rest
        let index ← namedGroup progress.groups name named
        let (part, rest) ← backReference progress index named rest
        .ok ((part, progress), rest)
      | .ifGroup name =>
        let named := name.toList ++ ')' :: rest
        let index ← groupNumber progress.groups name named
        checkBefore progress index rest
        let asking := if isName name.toList then progress else progress.ask index named
        let ((yes, after), rest) ← sequence count asking rest
        let ((no, after), rest) ←
          match rest with
          | '|' :: rest => sequence count after rest
          | _ => .ok ((.empty, after), rest)
        if rest.head? == some '|' then
          fail "conditional backref with more than two branches" rest
        .ok ((.ifGroup index yes no, keep after), ← closing text rest)
    | c :: rest => .ok ((oneItem flags (.char c), progress), rest)
end

def read (text : List Char) : Except Malformed (Pattern × Nat) := do
  let progress : Progress := ⟨.none, ⟨0, [], [], []⟩, true, none⟩
  let ((pattern, progress), rest) ← alternatives (4 * text.length + 8) progress text
  let opened := progress.groups.opened
  if !rest.isEmpty then fail "unbalanced parenthesis" rest
  else
    match progress.groups.asked.find? fun asked => opened < asked.1 with
    | some (index, left) => .error ⟨"invalid group reference " ++ toString index, some left⟩
    | none => .ok (pattern, opened)

def Malformed.message (malformed : Malformed) (text : List Char) : String :=
  match malformed.left with
  | some left => malformed.reason ++ " at position " ++ toString (text.length - left)
  | none => malformed.reason

end RecordQuery.Text.Pattern
