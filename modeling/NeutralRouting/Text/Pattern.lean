/-!
# Search patterns

Match lists test AS paths and route targets by patterns that are searched for in a text.  A pattern
is built from characters, digits, the two ends of the text, sequences, alternatives in parentheses
and repetition.

`Pattern.Matches` says which part of a text a pattern describes, given what stands before and after
it; `Pattern.FoundIn` says that some part of the text is described.  `Pattern.ofText?` reads the
written form.
-/

namespace NeutralRouting

/-- A pattern for a part of a text. -/
inductive Pattern where
  /-- Nothing at all. -/
  | nothing
  /-- Nothing, at the beginning of the text. -/
  | start
  /-- Nothing, at the end of the text. -/
  | finish
  /-- One given character. -/
  | literal (character : Char)
  /-- One decimal digit. -/
  | digit
  | seq (first second : Pattern)
  | either (first second : Pattern)
  | oneOrMore (body : Pattern)
deriving DecidableEq

namespace Pattern

/-- A part of a text cut into one or more adjacent pieces, each described by `piece` in its
place. -/
inductive Pieces (piece : List Char → List Char → List Char → Prop) :
    List Char → List Char → List Char → Prop where
  | one {before part after : List Char} (single : piece before part after) :
      Pieces piece before part after
  | more {before part rest after : List Char} (head : piece before part (rest ++ after))
      (tail : Pieces piece (before ++ part) rest after) :
      Pieces piece before (part ++ rest) after

/-- The pattern describes `part` where it stands between `before` and `after`. -/
def Matches : Pattern → List Char → List Char → List Char → Prop
  | nothing, _, part, _ => part = []
  | start, before, part, _ => before = [] ∧ part = []
  | finish, _, part, after => part = [] ∧ after = []
  | literal character, _, part, _ => part = [character]
  | digit, _, part, _ => ∃ character : Char, character.isDigit ∧ part = [character]
  | seq first second, before, part, after =>
      ∃ left right, part = left ++ right ∧ first.Matches before left (right ++ after) ∧
        second.Matches (before ++ left) right after
  | either first second, before, part, after =>
      first.Matches before part after ∨ second.Matches before part after
  | oneOrMore body, before, part, after =>
      Pieces (fun before part after => body.Matches before part after) before part after

/-- Some part of the text is described by the pattern. -/
def FoundIn (pattern : Pattern) (text : String) : Prop :=
  ∃ before part after, text.toList = before ++ part ++ after ∧ pattern.Matches before part after

/-- All items one after the other. -/
def sequence (items : List Pattern) : Pattern := items.foldr seq nothing

/-- What has been read since the last open parenthesis. -/
structure Group where
  /-- The alternatives that a bar has ended, from the last to the first. -/
  alternatives : List Pattern
  /-- The items of the alternative being read, from the last to the first. -/
  items : List Pattern

namespace Group

/-- Nothing has been read since the parenthesis. -/
def empty : Group := ⟨[], []⟩

/-- The group reads one more item. -/
def push (group : Group) (item : Pattern) : Group := { group with items := item :: group.items }

/-- The pattern of the alternative being read. -/
def current (group : Group) : Pattern := sequence group.items.reverse

/-- A bar ends the alternative. -/
def bar (group : Group) : Group := ⟨group.current :: group.alternatives, []⟩

/-- The pattern of the whole group. -/
def pattern (group : Group) : Pattern :=
  group.alternatives.foldl (fun later earlier => either earlier later) group.current

/-- The last item is repeated; there has to be one. -/
def repeatLast? (group : Group) : Option Group :=
  match group.items with
  | [] => none
  | item :: items => some { group with items := oneOrMore item :: items }

end Group

/-- A written pattern read up to some point. -/
structure Reading where
  /-- A backslash has just been read. -/
  escaped : Bool
  /-- The innermost open group. -/
  group : Group
  /-- The groups around it, innermost first. -/
  outer : List Group

namespace Reading

/-- The beginning of a written pattern. -/
def initial : Reading := ⟨false, .empty, []⟩

/-- Reads one more item. -/
def push (reading : Reading) (item : Pattern) : Reading :=
  ⟨false, reading.group.push item, reading.outer⟩

/-- Reads the character after a backslash: `d` stands for a digit, and a mark for itself. -/
def escape? (reading : Reading) (character : Char) : Option Reading :=
  if character = 'd' then some (reading.push digit)
  else if character.isAlphanum then none
  else some (reading.push (literal character))

/-- A parenthesis ends the innermost group, which becomes an item of the one around it. -/
def close? (reading : Reading) : Option Reading :=
  match reading.outer with
  | [] => none
  | around :: outer => some ⟨false, around.push reading.group.pattern, outer⟩

/-- Reads a character that stands for itself or has a meaning of its own.  Marks that this syntax
gives no meaning are refused. -/
def plain? (reading : Reading) (character : Char) : Option Reading :=
  match character with
  | '\\' => some { reading with escaped := true }
  | '^' => some (reading.push start)
  | '$' => some (reading.push finish)
  | '(' => some ⟨false, .empty, reading.group :: reading.outer⟩
  | ')' => reading.close?
  | '|' => some { reading with group := reading.group.bar }
  | '+' => (reading.group.repeatLast?).map fun group => { reading with group := group }
  | '*' | '?' | '.' | '[' | ']' | '\x7b' | '\x7d' => none
  | character => some (reading.push (literal character))

/-- Reads one character. -/
def next? (reading : Reading) (character : Char) : Option Reading :=
  if reading.escaped then reading.escape? character else reading.plain? character

/-- The pattern read, if nothing is left open. -/
def finished? (reading : Reading) : Option Pattern :=
  if reading.escaped ∨ reading.outer ≠ [] then none else some reading.group.pattern

end Reading

/-- The pattern with this written form. -/
def ofText? (text : String) : Option Pattern :=
  (text.toList.foldlM Reading.next? .initial).bind Reading.finished?

end Pattern
end NeutralRouting
