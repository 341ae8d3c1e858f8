import InterfaceSchema.Text.CaseFolding
import InterfaceSchema.Text.WordChar

/-!
# Sets of characters

A pattern consumes a text character by character, each against a set. A set is given by its blocks
of code points; it is built from ranges and three named properties by the set operations. Where case
is disregarded, `CharSet.fold` adds the characters that differ from a member in case only; it is
applied to ranges, before any complement is taken.
-/

namespace InterfaceSchema

/-- A set of characters by its blocks of code points, in good order. -/
structure CharSet where
  ranges : List (Nat × Nat)
deriving DecidableEq

namespace CharSet

/-- The set without members. -/
def empty : CharSet := ⟨[]⟩

/-- The characters in any of the blocks. -/
def ofRanges (ranges : List (Nat × Nat)) : CharSet := ⟨Text.mergeRanges ranges⟩

/-- The characters from one to another. -/
def range (first last : Char) : CharSet := ofRanges [(first.toNat, last.toNat)]

/-- The set of one character. -/
def single (c : Char) : CharSet := ⟨[(c.toNat, c.toNat)]⟩

/-- The word characters. -/
def word : CharSet := ⟨Text.wordRanges⟩

/-- The decimal digits. -/
def digit : CharSet := ⟨Text.digitRanges⟩

/-- The white space. -/
def blank : CharSet := ⟨Text.blankRanges⟩

/-- The code points that stand for no character. -/
def surrogates : Nat × Nat := (0xd800, 0xdfff)

/-- The characters that are not in the set. -/
def complement (s : CharSet) : CharSet :=
  ⟨Text.gaps 0 (Text.mergeRanges (surrogates :: s.ranges))⟩

/-- The members of either set. -/
def union (a b : CharSet) : CharSet := ofRanges (a.ranges ++ b.ranges)

/-- The members that the sets have in common. -/
def inter (a b : CharSet) : CharSet := complement (union (complement a) (complement b))

/-- The members of the first set that are not in the second. -/
def diff (a b : CharSet) : CharSet := inter a (complement b)

/-- The members of one set that are not in the other. -/
def symmDiff (a b : CharSet) : CharSet := union (diff a b) (diff b a)

/-- The members, and the characters that differ from a member in case only. -/
def fold (folding : Text.Folding) (s : CharSet) : CharSet := ⟨folding.close s.ranges⟩

/-- Is the character in the set? -/
def holds (s : CharSet) (c : Char) : Bool := Text.inRanges s.ranges c

/-- The members of the ASCII classes that are known by name. -/
def asciiRanges? : String → Option (List (Char × Char))
  | "alnum" => some [('0', '9'), ('A', 'Z'), ('a', 'z')]
  | "alpha" => some [('A', 'Z'), ('a', 'z')]
  | "ascii" => some [('\x00', '\x7f')]
  | "blank" => some [('\t', '\t'), (' ', ' ')]
  | "cntrl" => some [('\x00', '\x1f'), ('\x7f', '\x7f')]
  | "digit" => some [('0', '9')]
  | "graph" => some [('!', '~')]
  | "lower" => some [('a', 'z')]
  | "print" => some [(' ', '~')]
  | "punct" => some [('!', '/'), (':', '@'), ('[', '\x60'), ('\x7b', '~')]
  | "space" => some [('\t', '\r'), (' ', ' ')]
  | "upper" => some [('A', 'Z')]
  | "word" => some [('0', '9'), ('A', 'Z'), ('_', '_'), ('a', 'z')]
  | "xdigit" => some [('0', '9'), ('A', 'F'), ('a', 'f')]
  | _ => none

/-- An ASCII class by name. -/
def ascii? (name : String) : Option CharSet :=
  (asciiRanges? name).map fun ranges => ofRanges (ranges.map fun r => (r.1.toNat, r.2.toNat))

end CharSet

end InterfaceSchema
