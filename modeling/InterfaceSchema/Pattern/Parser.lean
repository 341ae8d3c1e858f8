import InterfaceSchema.Pattern.Openings
import InterfaceSchema.Pattern.Room.Limit
import InterfaceSchema.Text.Letter

/-!
# Reading patterns

A pattern is written in the usual notation of regular expressions. What is refused: brackets that do
not match, a repetition of nothing or with its bounds in the wrong order, a range in the wrong
order, look-around, references back to a group, an escape without a meaning, whatever nests deeper
than 250 levels, and whatever needs an automaton that takes too much room. Classes that go by the
name of a Unicode property are not part of the notation here, so `\p` is an escape without a meaning.

The text is read from left to right in steps, each of which takes at least one character; the open
groups are a stack, and so are the open bracketed sets.

* `Pattern.parse?` reads a whole text, `PatternReader.step` one step of it;
* `Pattern.compile?` gives what a filter needs, the texts in which there is a match;
* `SetReader.step` reads one step of a bracketed set;
* `readEscape?` reads what follows a backslash.
-/

namespace InterfaceSchema

open Text (Folding)

/-! ## 1. Flags -/

/-- How the text that follows is read. -/
structure PatternFlags where
  /-- Case is disregarded. -/
  fold : Bool := false
  /-- The line anchors hold at every line. -/
  multiLine : Bool := false
  /-- A dot takes line ends too. -/
  dotAll : Bool := false
  /-- Carriage returns end lines too. -/
  crlf : Bool := false
  /-- Blanks and comments are skipped. -/
  spaced : Bool := false
  /-- What is to be as short as possible is to be as long as possible, and the other way round. -/
  swapped : Bool := false
  /-- Named sets, words and differences of case are not confined to ASCII. -/
  unicode : Bool := true

namespace PatternFlags

/-- Switches a flag on or off by its letter. -/
def set? (flags : PatternFlags) (letter : Char) (on : Bool) : Option PatternFlags :=
  match letter with
  | 'i' => some { flags with fold := on }
  | 'm' => some { flags with multiLine := on }
  | 's' => some { flags with dotAll := on }
  | 'R' => some { flags with crlf := on }
  | 'x' => some { flags with spaced := on }
  | 'u' => some { flags with unicode := on }
  | 'U' => some { flags with swapped := on }
  | _ => none

/-- Reads flags up to a colon or a closing parenthesis. Letters after a minus are switched off; no
    letter and no minus may come twice, and a minus needs a letter after it. -/
def read? (flags : PatternFlags) (seen : List Char) :
    List Char → Option (PatternFlags × List Char × List Char)
  | [] => none
  | c :: rest =>
    if c = ':' ∨ c = ')' then
      if seen.head? = some '-' then none else some (flags, seen, c :: rest)
    else if c ∈ seen then none
    else if c = '-' then read? flags (c :: seen) rest
    else
      match flags.set? c (!seen.contains '-') with
      | some flags => read? flags (c :: seen) rest
      | none => none

/-- The rest after blanks, and after comments, which end with their line. -/
def dropComments (inComment : Bool) : List Char → List Char
  | [] => []
  | c :: rest =>
    if inComment then dropComments (c != '\n') rest
    else if Text.isBlank c then dropComments false rest
    else if c = '#' then dropComments true rest
    else c :: rest

/-- The rest after what is skipped under the flags. -/
def skip (flags : PatternFlags) (cs : List Char) : List Char :=
  if flags.spaced then dropComments false cs else cs

/-- Takes characters of a kind, at most so many; what is skipped may stand after each of them. -/
def take (flags : PatternFlags) (ofKind : Char → Bool) : Nat → List Char → List Char × List Char
  | n + 1, c :: rest =>
    if ofKind c then
      let (taken, rest) := flags.take ofKind n (flags.skip rest)
      (c :: taken, rest)
    else ([], c :: rest)
  | _, rest => ([], rest)

/-- Which differences of case are disregarded. -/
def folding (flags : PatternFlags) : Folding :=
  if !flags.fold then .none else if flags.unicode then .all else .ascii

end PatternFlags

/-! ## 2. Escapes -/

/-- What an escape stands for. -/
inductive PatternAtom where
  | char (c : Char)
  | set (s : CharSet)
  | anchor (a : Anchor)

/-- The value of a hexadecimal digit. -/
def hexDigit? (c : Char) : Option Nat :=
  if '0' ≤ c ∧ c ≤ '9' then some (c.toNat - 48)
  else if 'A' ≤ c ∧ c ≤ 'F' then some (c.toNat - 55)
  else if 'a' ≤ c ∧ c ≤ 'f' then some (c.toNat - 87)
  else none

/-- The character with the code that the hexadecimal digits give, if there is one. -/
def hexChar? (digits : List Char) : Option Char := do
  let code ← digits.foldlM (fun n c => (hexDigit? c).map (n * 16 + ·)) 0
  if digits.isEmpty then none
  else if h : code.isValidChar then some (Char.ofNatAux code h)
  else none

/-- Reads a character by its code: `count` digits, or any number of them in braces. Outside of
    Unicode two digits stand for a byte, which is no character by itself unless it is ASCII. -/
def readHex? (flags : PatternFlags) (count : Nat) (cs : List Char) : Option (Char × List Char) :=
  let isDigit (c : Char) : Bool := (hexDigit? c).isSome
  match flags.skip cs with
  | '\x7b' :: rest =>
    match flags.take isDigit rest.length (flags.skip rest) with
    | (digits, '\x7d' :: rest) => (hexChar? digits).map fun c => (c, flags.skip rest)
    | _ => none
  | rest =>
    let (digits, rest) := flags.take isDigit count rest
    if digits.length < count then none
    else
      match hexChar? digits with
      | some c => if !flags.unicode && count == 2 && 0x80 ≤ c.toNat then none else some (c, rest)
      | none => none

/-- Reads a name in braces after a word boundary. What does not begin like a name is left for a
    repetition. -/
def readBoundary? (flags : PatternFlags) (cs : List Char) : Option (WordEdge × List Char) :=
  match cs with
  | '\x7b' :: inside =>
    let isNameChar (c : Char) : Bool := c.isAlpha || c == '-'
    match flags.skip inside with
    | [] => none
    | c :: rest =>
      if !isNameChar c then some (.boundary, cs)
      else
        match flags.take isNameChar (rest.length + 1) (c :: rest) with
        | (name, '\x7d' :: after) =>
          match String.ofList name with
          | "start" => some (.start, after)
          | "end" => some (.finish, after)
          | "start-half" => some (.startHalf, after)
          | "end-half" => some (.finishHalf, after)
          | _ => none
        | _ => none
  | _ => some (.boundary, cs)

/-- A named set, or its complement. Outside of Unicode a set has ASCII members only, and a
    complement could take half a character. -/
def namedSet? (flags : PatternFlags) (set : CharSet) (asciiName : String) (negated : Bool) :
    Option PatternAtom :=
  if flags.unicode then some (.set (if negated then .complement set else set))
  else if negated then none
  else (CharSet.ascii? asciiName).map .set

/-- Reads what follows a backslash. -/
def readEscape? (flags : PatternFlags) (cs : List Char) : Option (PatternAtom × List Char) :=
  match cs with
  | [] => none
  | c :: rest =>
    let named (set : CharSet) (asciiName : String) (negated : Bool) :=
      (namedSet? flags set asciiName negated).map fun atom => (atom, rest)
    let char (c : Char) := some (PatternAtom.char c, rest)
    let anchor (a : Anchor) := some (PatternAtom.anchor a, rest)
    let edge (e : WordEdge) := PatternAtom.anchor (.word e !flags.unicode)
    match c with
    | 'd' => named .digit "digit" false
    | 'D' => named .digit "digit" true
    | 'w' => named .word "word" false
    | 'W' => named .word "word" true
    | 's' => named .blank "space" false
    | 'S' => named .blank "space" true
    | 'x' => (readHex? flags 2 rest).map fun (c, rest) => (.char c, rest)
    | 'u' => (readHex? flags 4 rest).map fun (c, rest) => (.char c, rest)
    | 'U' => (readHex? flags 8 rest).map fun (c, rest) => (.char c, rest)
    | 'b' => (readBoundary? flags rest).map fun (e, rest) => (edge e, rest)
    | 'B' => some (edge .noBoundary, rest)
    | '<' => some (edge .start, rest)
    | '>' => some (edge .finish, rest)
    | 'A' => anchor .textStart
    | 'z' => anchor .textEnd
    | 'a' => char '\x07'
    | 'f' => char '\x0c'
    | 't' => char '\t'
    | 'n' => char '\n'
    | 'r' => char '\r'
    | 'v' => char '\x0b'
    | _ => if c.toNat < 128 ∧ !c.isAlphanum then char c else none

/-! ## 3. Bracketed sets -/

/-- How two parts of a bracketed set are combined. -/
inductive SetOperator where
  | inter
  | diff
  | symmDiff

/-- The set that an operator makes of two. -/
def SetOperator.apply : SetOperator → CharSet → CharSet → CharSet
  | inter => .inter
  | diff => .diff
  | symmDiff => .symmDiff

/-- The members of a set since the last operator. -/
structure SetMembers where
  set : CharSet
  count : Nat
  /-- How deep the members nest. -/
  depth : Nat

namespace SetMembers

/-- No members. -/
def empty : SetMembers := ⟨.empty, 0, 0⟩

/-- Adds a member. -/
def add (m : SetMembers) (s : CharSet) (depth : Nat) : SetMembers :=
  ⟨.union m.set s, m.count + 1, max m.depth depth⟩

/-- How deep the union of the members nests; there is none of a single member. -/
def totalDepth (m : SetMembers) : Nat := if m.count < 2 then m.depth else m.depth + 1

end SetMembers

/-- A bracketed set that is not closed yet. -/
structure SetReader where
  negated : Bool
  /-- What stands before the last operator, how deep it nests, and the operator. -/
  left : Option (CharSet × Nat × SetOperator)
  members : SetMembers

namespace SetReader

/-- Adds the members of a set. -/
def add (r : SetReader) (s : CharSet) (depth : Nat) : SetReader :=
  { r with members := r.members.add s depth }

/-- What has been read and how deep it nests, with the last operator applied; operators apply from
    left to right. -/
def current (r : SetReader) : CharSet × Nat :=
  match r.left with
  | some (left, depth, operator) =>
    (operator.apply left r.members.set, max depth r.members.totalDepth + 1)
  | none => (r.members.set, r.members.totalDepth)

/-- Reads an operator. -/
def operator (r : SetReader) (operator : SetOperator) : SetReader :=
  { r with left := some (r.current.1, r.current.2, operator), members := .empty }

/-- The set and how deep it nests, once it is closed. -/
def close (r : SetReader) : CharSet × Nat :=
  let (set, depth) := r.current
  (if r.negated then .complement set else set, depth + 1)

/-- Reads what follows an opening bracket: a mark of negation, minus signs, which stand for
    themselves, and a closing bracket that stands for itself if it is the first member. -/
def start? (flags : PatternFlags) (cs : List Char) : Option (SetReader × List Char) := do
  let cs := flags.skip cs
  let negated := cs.head? == some '^'
  if negated && !flags.unicode then none
  let cs := if negated then flags.skip (cs.drop 1) else cs
  let (minuses, rest) := flags.take (· == '-') cs.length cs
  let members := minuses.foldl (fun m _ => m.add (.single '-') 0) SetMembers.empty
  match rest with
  | [] => none
  | ']' :: after =>
    if !minuses.isEmpty then some (⟨negated, none, members⟩, rest)
    else
      match flags.skip after with
      | [] => none
      | after => some (⟨negated, none, members.add (.single ']') 0⟩, after)
  | _ => some (⟨negated, none, members⟩, rest)

/-- Reads one end of a range, or a member of its own. Outside of Unicode all members are ASCII. -/
def item? (flags : PatternFlags) (cs : List Char) : Option (PatternAtom × List Char) := do
  let (atom, rest) ← match cs with
    | [] => none
    | '\\' :: rest => readEscape? flags rest
    | c :: rest => some (.char c, rest)
  match atom with
  | .char c => if flags.unicode || c.toNat < 0x80 then some (atom, rest) else none
  | _ => some (atom, rest)

/-- Reads a member: a range, a character or a named set. A minus before the closing bracket or
    before another minus does not make a range. Ranges disregard case if the flags say so. -/
def member? (flags : PatternFlags) (cs : List Char) : Option (CharSet × List Char) := do
  let (first, rest) ← item? flags cs
  let rest := flags.skip rest
  let isRange := match rest with
    | '-' :: after =>
      let next := (flags.skip after).head?
      next != some ']' && next != some '-'
    | _ => false
  if rest.isEmpty then none
  else if isRange then
    let (last, rest) ← item? flags (flags.skip (rest.drop 1))
    match first, last with
    | .char a, .char b =>
      if a ≤ b then some ((CharSet.range a b).fold flags.folding, rest) else none
    | _, _ => none
  else
    match first with
    | .char c => some ((CharSet.single c).fold flags.folding, rest)
    | .set s => some (s, rest)
    | .anchor _ => none

/-- Reads an ASCII class by name, after the bracket that opens it. -/
def asciiClass? (flags : PatternFlags) (cs : List Char) : Option (CharSet × Bool × List Char) :=
  match cs with
  | ':' :: rest =>
    let negated := rest.head? == some '^'
    let rest := if negated then rest.drop 1 else rest
    match rest.dropWhile (· != ':') with
    | ':' :: ']' :: after =>
      (CharSet.ascii? (String.ofList (rest.takeWhile (· != ':')))).map fun s =>
        (s.fold flags.folding, negated, after)
    | _ => none
  | _ => none

/-- What a step leads to: the open sets that are left, the innermost of them first, or the set that
    was closed last and how deep it nests. -/
abbrev Outcome := (SetReader × List SetReader) ⊕ (CharSet × Nat)

/-- Reads one step of the innermost open set. Outside of Unicode no class may be negated, since the
    complement could take half a character. -/
def step (flags : PatternFlags) (inner : SetReader) (outer : List SetReader) (c : Char)
    (rest : List Char) : Option (Outcome × List Char) :=
  let goOn (r : SetReader) (rest : List Char) : Outcome × List Char := (.inl (r, outer), rest)
  let member := (member? flags (c :: rest)).map fun (s, rest) => goOn (inner.add s 0) rest
  match c with
  | '[' =>
    match asciiClass? flags rest with
    | some (s, false, rest) => some (goOn (inner.add s 0) rest)
    | some (s, true, rest) =>
      if flags.unicode then some (goOn (inner.add (.complement s) 0) rest) else none
    | none => (start? flags rest).map fun (r, rest) => (.inl (r, inner :: outer), rest)
  | ']' =>
    let (set, depth) := inner.close
    match outer with
    | parent :: outer => some (.inl (parent.add set depth, outer), rest)
    | [] => some (.inr (set, depth), rest)
  | '&' => if rest.head? = some '&' then some (goOn (inner.operator .inter) (rest.drop 1))
    else member
  | '-' => if rest.head? = some '-' then some (goOn (inner.operator .diff) (rest.drop 1))
    else member
  | '~' => if rest.head? = some '~' then some (goOn (inner.operator .symmDiff) (rest.drop 1))
    else member
  | _ => member

/-- Reads up to the end of the outermost open set. The answer comes with how deep the set nests. -/
def run (flags : PatternFlags) (inner : SetReader) (outer : List SetReader) (cs : List Char) :
    Option (CharSet × Nat × List Char) :=
  match flags.skip cs with
  | [] => none
  | c :: rest =>
    match step flags inner outer c rest with
    | none => none
    | some (.inr (set, depth), rest) => some (set, depth, rest)
    | some (.inl (inner, outer), rest) =>
      if _h : rest.length < cs.length then run flags inner outer rest else none
  termination_by cs.length

end SetReader

/-! ## 4. Repetitions -/

/-- Reads a count, with blanks around it. -/
def readCount? (flags : PatternFlags) (cs : List Char) : Option Nat × List Char :=
  let (digits, rest) := flags.take Char.isDigit cs.length (cs.dropWhile Text.isBlank)
  let count := digits.foldl (fun n c => n * 10 + (c.toNat - 48)) 0
  (if digits.isEmpty || Nat.pow 2 32 ≤ count then none else some count,
    flags.skip (rest.dropWhile Text.isBlank))

/-- Reads the bounds of a repetition after the brace that opens them. -/
def readBounds? (flags : PatternFlags) (cs : List Char) :
    Option (Nat × Option Nat × List Char) := do
  let (least, rest) := readCount? flags (flags.skip cs)
  let least ← least
  match rest with
  | '\x7d' :: rest => some (least, some least, rest)
  | ',' :: rest =>
    match flags.skip rest with
    | '\x7d' :: rest => some (least, none, rest)
    | rest =>
      let (most, rest) := readCount? flags rest
      let most ← most
      match rest with
      | '\x7d' :: rest => if least ≤ most then some (least, some most, rest) else none
      | _ => none
  | _ => none

/-- Was there a mark that a repetition is to be as short as possible, and what is the rest? The mark
    does not matter to what matches. -/
def readShort : List Char → Bool × List Char
  | '?' :: rest => (true, rest)
  | rest => (false, rest)

/-! ## 5. Whole patterns -/

/-- A part of a pattern, what an automaton for it is built of, and how deep it nests. A part that
    only sets flags cannot be repeated. -/
structure PatternPart where
  pattern : Pattern
  blueprint : Blueprint
  depth : Nat
  repeatable : Bool

namespace PatternPart

/-- A part that takes nothing. -/
def empty : PatternPart := ⟨.empty, .empty, 0, true⟩

/-- A part that only sets flags. -/
def setting : PatternPart := { empty with repeatable := false }

/-- A part that takes a character of a set. -/
def one (set : CharSet) (depth : Nat) : PatternPart := ⟨.one set, .ofSet set, depth, true⟩

/-- A part that asks something of a place. -/
def anchor (a : Anchor) : PatternPart := ⟨.anchor a, .anchor a, 0, true⟩

/-- A part that is repeated. -/
def times (p : PatternPart) (least : Nat) (most : Option Nat) (short : Bool) : PatternPart :=
  ⟨.times p.pattern least most, p.blueprint.repeated least most short, p.depth + 1, true⟩

/-- How deep the deepest of the parts nests. -/
def depths (ps : List PatternPart) : Nat := (ps.map (·.depth)).foldl max 0

/-- Parts one after the other, the last of them first. -/
def sequence : List PatternPart → PatternPart
  | [] => empty
  | [p] => p
  | ps => ⟨(ps.map (·.pattern)).foldl (fun q p => .seq p q) .empty,
      .sequence (ps.map (·.blueprint)).reverse, depths ps + 1, true⟩

/-- Parts that a text may match one of, the last of them first. -/
def choice : List PatternPart → PatternPart
  | [] => empty
  | [p] => p
  | p :: ps => ⟨(ps.map (·.pattern)).foldl (fun q p => .alt p q) p.pattern,
      .choose ((p :: ps).map (·.blueprint)).reverse, depths (p :: ps) + 1, true⟩

/-- A part in parentheses. If the group is counted, the automaton marks where it begins and ends. -/
def group (p : PatternPart) (counted : Bool) : PatternPart :=
  ⟨p.pattern, if counted then .group p.blueprint else p.blueprint, p.depth + 1, true⟩

end PatternPart

/-- A group that is not closed yet, or the pattern itself. -/
structure PatternLevel where
  /-- The choices that are complete, the last of them first. -/
  choices : List PatternPart
  /-- The parts of the choice at hand, the last of them first. -/
  parts : List PatternPart
  /-- The flags outside of the group. -/
  outside : PatternFlags
  /-- Is it told what the group matches? -/
  counted : Bool

namespace PatternLevel

/-- Adds a part. -/
def add (l : PatternLevel) (p : PatternPart) : PatternLevel := { l with parts := p :: l.parts }

/-- Begins another choice. -/
def choice (l : PatternLevel) : PatternLevel :=
  { l with choices := .sequence l.parts :: l.choices, parts := [] }

/-- All choices as one part. -/
def close (l : PatternLevel) : PatternPart :=
  .choice (.sequence l.parts :: l.choices)

end PatternLevel

/-- A pattern that has been read in part. -/
structure PatternReader where
  inner : PatternLevel
  outer : List PatternLevel
  flags : PatternFlags
  /-- The names of groups so far. -/
  names : List String

namespace PatternReader

/-- Before the first character. -/
def start : PatternReader := ⟨⟨[], [], {}, false⟩, [], {}, []⟩

/-- Adds a part to the innermost group. -/
def add (r : PatternReader) (p : PatternPart) : PatternReader := { r with inner := r.inner.add p }

/-- Opens a group; what follows is read under the flags. -/
def openGroup (r : PatternReader) (flags : PatternFlags) (counted : Bool) : PatternReader :=
  { r with inner := ⟨[], [], r.flags, counted⟩, outer := r.inner :: r.outer, flags }

/-- Repeats the last part. What is to be as short as possible is not so if the flags say it is. -/
def repeatLast? (r : PatternReader) (least : Nat) (most : Option Nat) (short : Bool) :
    Option PatternReader :=
  match r.inner.parts with
  | p :: ps =>
    if p.repeatable then
      some { r with inner.parts := p.times least most (short != r.flags.swapped) :: ps }
    else none
  | [] => none

/-- Adds a character. -/
def addChar (r : PatternReader) (c : Char) : PatternReader :=
  r.add (.one ((CharSet.single c).fold r.flags.folding) 0)

/-- Adds what an escape stands for. -/
def addAtom (r : PatternReader) : PatternAtom → PatternReader
  | .char c => r.addChar c
  | .set s => r.add (.one s 0)
  | .anchor a => r.add (.anchor a)

/-- May the character be part of a group's name? -/
def isNameChar (first : Bool) (c : Char) : Bool :=
  c == '_' || Text.isLetter c ||
    !first && (c == '.' || c == '[' || c == ']' || Text.isNumeric c)

/-- Opens a named group. No two groups have one name. -/
def namedGroup? (r : PatternReader) (cs : List Char) : Option (PatternReader × List Char) :=
  match cs.takeWhile (· != '>'), cs.dropWhile (· != '>') with
  | c :: more, _ :: rest =>
    let name := String.ofList (c :: more)
    if isNameChar true c && more.all (isNameChar false) && !r.names.contains name then
      some ({ r.openGroup r.flags true with names := name :: r.names }, rest)
    else none
  | _, _ => none

/-- Reads what follows an opening parenthesis. -/
def group? (r : PatternReader) (cs : List Char) : Option (PatternReader × List Char) :=
  match r.flags.skip cs with
  | '?' :: '=' :: _ | '?' :: '!' :: _ | '?' :: '<' :: '=' :: _ | '?' :: '<' :: '!' :: _ => none
  | '?' :: 'P' :: '<' :: rest | '?' :: '<' :: rest => r.namedGroup? rest
  | '?' :: rest =>
    match r.flags.read? [] rest with
    | some (flags, _, ':' :: rest) => some (r.openGroup flags false, rest)
    | some (flags, letters, _ :: rest) =>
      if letters.isEmpty then none
      else some ({ r.add .setting with flags }, rest)
    | _ => none
  | rest => some (r.openGroup r.flags true, rest)

/-- Reads what follows a closing parenthesis. -/
def closeGroup? (r : PatternReader) : Option PatternReader :=
  match r.outer with
  | parent :: outer =>
    let group := r.inner.close.group r.inner.counted
    some { r with inner := parent.add group, outer, flags := r.inner.outside }
  | [] => none

/-- Any character but those that end lines. -/
def dot? (flags : PatternFlags) : Option CharSet :=
  if !flags.unicode then none
  else if flags.dotAll then some (.complement .empty)
  else if flags.crlf then some (.complement (.union (.single '\n') (.single '\r')))
  else some (.complement (.single '\n'))

/-- Reads one step of a pattern. -/
def step (r : PatternReader) (c : Char) (rest : List Char) : Option (PatternReader × List Char) :=
  let repeated (least : Nat) (most : Option Nat) (rest : List Char) :=
    let (short, rest) := readShort rest
    (r.repeatLast? least most short).map fun r => (r, rest)
  match c with
  | '(' => r.group? rest
  | ')' => r.closeGroup?.map fun r => (r, rest)
  | '|' => some ({ r with inner := r.inner.choice }, rest)
  | '[' => do
    let (reader, rest) ← SetReader.start? r.flags rest
    let (set, depth, rest) ← reader.run r.flags [] rest
    some (r.add (.one set depth), rest)
  | '?' => repeated 0 (some 1) rest
  | '*' => repeated 0 none rest
  | '+' => repeated 1 none rest
  | '\x7b' => do
    let (least, most, rest) ← readBounds? r.flags rest
    repeated least most (r.flags.skip rest)
  | '\\' => (readEscape? r.flags rest).map fun (atom, rest) => (r.addAtom atom, rest)
  | '.' => (dot? r.flags).map fun set => (r.add (.one set 0), rest)
  | '^' =>
    let a := if r.flags.multiLine then Anchor.lineStart r.flags.crlf else .textStart
    some (r.add (.anchor a), rest)
  | '$' =>
    let a := if r.flags.multiLine then Anchor.lineEnd r.flags.crlf else .textEnd
    some (r.add (.anchor a), rest)
  | _ => some (r.addChar c, rest)

/-- The deepest nesting that is read. -/
def maxDepth : Nat := 250

/-- The pattern, if no group is open and it is within the limits. -/
def finish? (r : PatternReader) : Option Pattern :=
  let part := r.inner.close
  let isWithinLimits := part.depth ≤ maxDepth &&
    (part.blueprint.fits || part.blueprint.isFoundByTexts)
  if r.outer.isEmpty && isWithinLimits then some part.pattern else none

/-- Reads the rest of a pattern. -/
def run (r : PatternReader) (cs : List Char) : Option Pattern :=
  match r.flags.skip cs with
  | [] => r.finish?
  | c :: rest =>
    match r.step c rest with
    | none => none
    | some (r, rest) => if _h : rest.length < cs.length then r.run rest else none
  termination_by cs.length

end PatternReader

/-- The pattern that the text is the notation of. -/
def Pattern.parse? (text : String) : Option Pattern :=
  PatternReader.start.run text.toList

/-- Which texts a pattern matches, if the text is the notation of one. -/
def Pattern.compile? (text : String) : Option (String → Bool) :=
  (parse? text).map isMatch

end InterfaceSchema
