import InterfaceSchema.Pattern
import InterfaceSchema.Text.Utf8

/-!
# Blueprints

The blueprint of a pattern says what an automaton for the pattern is built of. It holds more than
the pattern, since groups take up states, and less, since it is simplified where it is put together:
adjacent characters are one text, choices between single characters are one set, what all choices
begin with stands before them, and a part that takes no character is not repeated.

* `Blueprint.ofSet`, `Blueprint.sequence`, `Blueprint.choose` and `Blueprint.repeated` put
  blueprints together;
* `Blueprint.leastLength?` and `Blueprint.mostLength?` bound the bytes of a match;
* `Blueprint.startsText` and `Blueprint.endsText` tell whether matches keep to an end of the text.
-/

namespace InterfaceSchema

/-- What an automaton is built of. -/
inductive Blueprint where
  | empty
  /-- Some characters, one after the other. -/
  | text (cs : List Char)
  /-- One character of the set. -/
  | set (s : CharSet)
  | anchor (a : Anchor)
  | group (p : Blueprint)
  | seq (ps : List Blueprint)
  | choice (ps : List Blueprint)
  /-- With `short`, as few times as possible. -/
  | times (p : Blueprint) (least : Nat) (most : Option Nat) (short : Bool)

namespace Blueprint

/-! ## 1. Sameness -/

mutual

/-- Are the blueprints built alike? No group is like another one. -/
def same : Blueprint → Blueprint → Bool
  | empty, empty => true
  | text a, text b => a == b
  | set a, set b => a == b
  | anchor a, anchor b => a == b
  | seq ps, seq qs => sameAll ps qs
  | choice ps, choice qs => sameAll ps qs
  | times p l m s, times q l' m' s' => same p q && l == l' && m == m' && s == s'
  | _, _ => false

/-- Are the blueprints built alike, one by one? -/
def sameAll : List Blueprint → List Blueprint → Bool
  | [], [] => true
  | p :: ps, q :: qs => same p q && sameAll ps qs
  | _, _ => false

end

/-! ## 2. Lengths -/

/-- The bytes of a text. -/
def textLength (cs : List Char) : Nat := cs.foldl (fun n c => n + c.utf8Size) 0

mutual

/-- The fewest bytes of a match, if there can be a match. -/
def leastLength? : Blueprint → Option Nat
  | empty => some 0
  | text cs => some (textLength cs)
  | set s => s.ranges.head?.map fun r => (Text.utf8Bytes r.1).length
  | anchor _ => some 0
  | group p => p.leastLength?
  | seq ps => (leastLengths ps).foldr (fun n m => do return (← n) + (← m)) (some 0)
  | choice ps =>
    let lengths := leastLengths ps
    if lengths.all Option.isSome then (lengths.filterMap id).min? else none
  | times p least _ _ => p.leastLength?.map (least * ·)

/-- The fewest bytes of matches, one by one. -/
def leastLengths : List Blueprint → List (Option Nat)
  | [] => []
  | p :: ps => p.leastLength? :: leastLengths ps

end

mutual

/-- The most bytes of a match, if there can be a match and there is a bound. -/
def mostLength? : Blueprint → Option Nat
  | empty => some 0
  | text cs => some (textLength cs)
  | set s => s.ranges.getLast?.map fun r => (Text.utf8Bytes r.2).length
  | anchor _ => some 0
  | group p => p.mostLength?
  | seq ps => (mostLengths ps).foldr (fun n m => do return (← n) + (← m)) (some 0)
  | choice ps =>
    let lengths := mostLengths ps
    if lengths.all Option.isSome then (lengths.filterMap id).max? else none
  | times p _ most _ => do return (← most) * (← p.mostLength?)

/-- The most bytes of matches, one by one. -/
def mostLengths : List Blueprint → List (Option Nat)
  | [] => []
  | p :: ps => p.mostLength? :: mostLengths ps

end

/-- Is the blueprint known to take no character? -/
def takesNothing (p : Blueprint) : Bool := p.mostLength? == some 0

/-- Is the blueprint known to take a character? -/
def takesSome (p : Blueprint) : Bool := p.leastLength?.any (0 < ·)

/-! ## 3. Ends of the text -/

mutual

/-- Do all matches begin at the start of the text? -/
def startsText : Blueprint → Bool
  | anchor a => a == .textStart
  | group p => p.startsText
  | seq ps => startsTextFirst ps
  | choice ps => startsTextAll ps
  | times p least _ _ => 0 < least && p.startsText
  | _ => false

/-- Does one of the parts that a match begins with keep it to the start of the text? -/
def startsTextFirst : List Blueprint → Bool
  | [] => false
  | p :: ps => p.startsText || p.takesNothing && startsTextFirst ps

/-- Do all matches of all choices begin at the start of the text? -/
def startsTextAll : List Blueprint → Bool
  | [] => true
  | p :: ps => p.startsText && startsTextAll ps

end

mutual

/-- Do all matches end at the end of the text? -/
def endsText : Blueprint → Bool
  | anchor a => a == .textEnd
  | group p => p.endsText
  | seq ps => (endsTextLast ps).1
  | choice ps => endsTextAll ps
  | times p least _ _ => 0 < least && p.endsText
  | _ => false

/-- Does one of the parts that a match ends with keep it to the end of the text, and do all parts
    take nothing? -/
def endsTextLast : List Blueprint → Bool × Bool
  | [] => (false, true)
  | p :: ps =>
    let rest := endsTextLast ps
    (rest.1 || rest.2 && p.endsText, rest.2 && p.takesNothing)

/-- Do all matches of all choices end at the end of the text? -/
def endsTextAll : List Blueprint → Bool
  | [] => true
  | p :: ps => p.endsText && endsTextAll ps

end

/-! ## 4. Putting blueprints together -/

/-- One character of the set. A single member is a text. -/
def ofSet (s : CharSet) : Blueprint :=
  match s.ranges with
  | [(first, last)] => if first = last then text [Char.ofNat first] else set s
  | _ => set s

/-- The parts of a sequence. -/
def parts : Blueprint → List Blueprint
  | empty => []
  | seq ps => ps
  | p => [p]

/-- Adds a part before others; adjacent texts are one. -/
def before (p : Blueprint) (ps : List Blueprint) : List Blueprint :=
  match p, ps with
  | text a, text b :: rest => text (a ++ b) :: rest
  | _, _ => p :: ps

/-- Blueprints one after the other. -/
def sequence (ps : List Blueprint) : Blueprint :=
  match (ps.flatMap parts).foldr before [] with
  | [] => empty
  | [p] => p
  | ps => seq ps

/-- The parts of a choice. -/
def choices : Blueprint → List Blueprint
  | choice ps => ps
  | p => [p]

/-- The character of a text of one character. -/
def single? : Blueprint → Option CharSet
  | text [c] => some (.single c)
  | _ => none

/-- The set, if the blueprint is one. -/
def set? : Blueprint → Option CharSet
  | set s => some s
  | _ => none

/-- The parts of a sequence of several. -/
def seqParts? : Blueprint → Option (List Blueprint)
  | seq ps => some ps
  | _ => none

/-- Blueprints that a text may match one of, as one set if all are single characters or all are
    sets. -/
def chooseFlat (ps : List Blueprint) : Blueprint :=
  match ps.flatMap choices with
  | [] => set .empty
  | [p] => p
  | ps =>
    match ps.mapM single?, ps.mapM set? with
    | some members, _ => ofSet (.ofRanges (members.flatMap CharSet.ranges))
    | none, some sets => ofSet (.ofRanges (sets.flatMap CharSet.ranges))
    | none, none => choice ps

/-- How many parts two sequences have in common at their starts. -/
def commonParts : List Blueprint → List Blueprint → Nat
  | p :: ps, q :: qs => if same p q then commonParts ps qs + 1 else 0
  | _, _ => 0

/-- Blueprints that a text may match one of. What all of them begin with is set before the choice;
    what is left has no beginning in common any more. -/
def choose (ps : List Blueprint) : Blueprint :=
  match chooseFlat ps with
  | choice ps =>
    match ps.mapM seqParts? with
    | some (first :: others) =>
      let common := (others.map fun qs => commonParts first qs).foldl min first.length
      if common = 0 then choice ps
      else
        let rests := (first :: others).map fun qs => sequence (qs.drop common)
        sequence (first.take common ++ [chooseFlat rests])
    | _ => choice ps
  | p => p

/-- A blueprint that is repeated; what takes no character counts once. -/
def repeated (p : Blueprint) (least : Nat) (most : Option Nat) (short : Bool) : Blueprint :=
  let (least, most) :=
    if p.takesNothing then (min least 1, some (min (most.getD 1) 1)) else (least, most)
  if most = some 0 then empty
  else if least = 1 ∧ most = some 1 then p
  else times p least most short

end Blueprint

end InterfaceSchema
