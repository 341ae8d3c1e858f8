import InterfaceSchema.Pattern.CharSet

/-!
# Patterns

A pattern says which texts contain a match. Matching follows all ways of reading a pattern at once:
a part of a pattern takes the places that have been reached in the text to the places that can be
reached from them, so no way is tried twice. A set of places is a number whose bits are the places,
and what a part needs to know of the text is worked out once, before it is followed.

* `Pattern.overlay` lays a pattern over a text;
* `Overlay.advance` takes places to places;
* `Pattern.isMatch` asks whether a match begins anywhere.
-/

namespace InterfaceSchema

/-! ## 1. Places in a text -/

/-- What is asked of a place with regard to words. -/
inductive WordEdge where
  | boundary
  | noBoundary
  | start
  | finish
  /-- No word character comes before. -/
  | startHalf
  /-- No word character comes after. -/
  | finishHalf
deriving DecidableEq

/-- What is asked of the place between two characters. -/
inductive Anchor where
  | textStart
  | textEnd
  /-- The start of a line. With `crlf`, carriage returns end lines too, and with a line feed one. -/
  | lineStart (crlf : Bool)
  | lineEnd (crlf : Bool)
  /-- An edge of a word. With `ascii`, words consist of ASCII characters only. -/
  | word (edge : WordEdge) (ascii : Bool)
deriving DecidableEq

/-- Is the place as asked, given whether the characters around it belong to words? -/
def WordEdge.holds (e : WordEdge) (before after : Bool) : Bool :=
  match e with
  | boundary => before != after
  | noBoundary => before == after
  | start => !before && after
  | finish => before && !after
  | startHalf => !before
  | finishHalf => !after

/-- Is the place as asked, given the characters before it and after it? At an end of the text there
    is none. -/
def Anchor.holds (a : Anchor) (before after : Option Char) : Bool :=
  match a with
  | textStart => before.isNone
  | textEnd => after.isNone
  | lineStart false => before.all (· == '\n')
  | lineEnd false => after.all (· == '\n')
  | lineStart true => before.all fun c => c == '\n' || c == '\r' && !after.any (· == '\n')
  | lineEnd true => after.all fun c => c == '\r' || c == '\n' && !before.any (· == '\r')
  | word edge ascii =>
    let inWord (c : Char) : Bool := Text.isWord c && (!ascii || c.toNat < 0x80)
    edge.holds (before.any inWord) (after.any inWord)

/-- The characters before and after each place of a text, from its start to its end. -/
def surroundings (text : List Char) : List (Option Char × Option Char) :=
  (none :: text.map some).zip (text.map some ++ [none])

/-- The number with the given bits, the lowest of them first. -/
def ofBits (bits : List Bool) : Nat := bits.foldr (fun b n => 2 * n + b.toNat) 0

/-! ## 2. Patterns -/

/-- A pattern by its parts. -/
inductive Pattern where
  | empty
  /-- One character of the set. -/
  | one (set : CharSet)
  | anchor (a : Anchor)
  | seq (p q : Pattern)
  | alt (p q : Pattern)
  /-- At least `least` times, and at most `most` times if that is given. -/
  | times (p : Pattern) (least : Nat) (most : Option Nat)

/-- A pattern that has been laid over a text. -/
inductive Overlay where
  | empty
  /-- Goes on by one character from any of the places. -/
  | one (places : Nat)
  /-- Stays at a place that is one of these. -/
  | anchor (places : Nat)
  | seq (p q : Overlay)
  | alt (p q : Overlay)
  | times (p : Overlay) (least : Nat) (most : Option Nat)

/-- Lays the pattern over a text. -/
def Pattern.overlay (text : List Char) : Pattern → Overlay
  | empty => .empty
  | one set => .one (ofBits (text.map set.holds))
  | anchor a => .anchor (ofBits ((surroundings text).map fun s => a.holds s.1 s.2))
  | seq p q => .seq (p.overlay text) (q.overlay text)
  | alt p q => .alt (p.overlay text) (q.overlay text)
  | times p least most => .times (p.overlay text) least most

/-! ## 3. Matching -/

/-- Takes a step so many times, or until it changes nothing. -/
def settle (step : Nat → Nat) : Nat → Nat → Nat
  | 0, places => places
  | n + 1, places =>
    let reached := step places
    if reached = places then places else settle step n reached

/-- What can be reached by at most so many steps from the places in `front`, together with what has
    been `reached`. Only places that are new are followed further. -/
def spread (step : Nat → Nat) : Nat → (front reached : Nat) → Nat
  | 0, _, reached => reached
  | n + 1, front, reached =>
    let further := reached ||| step front
    if further = reached then reached else spread step n (further ^^^ reached) further

/-- What can be reached by one step or more from the places in `front`, together with what has been
    `reached`. The places in `done` have been followed already. -/
def spreadOut (step : Nat → Nat) : Nat → (done front reached : Nat) → Nat
  | 0, _, _, reached => reached
  | n + 1, done, front, reached =>
    let further := reached ||| step front
    let done := done ||| front
    let front := (further ||| done) ^^^ done
    if front = 0 then further else spreadOut step n done front further

namespace Overlay

/-- The places that a match can end at, for matches that begin at one of the places. A pattern that
    is repeated more often than the text is long can do so only in place, so the number of rounds is
    bounded by the length. -/
def advance (length : Nat) : Overlay → Nat → Nat
  | empty, places => places
  | one next, places => (places &&& next) <<< 1
  | anchor fit, places => places &&& fit
  | seq p q, places => q.advance length (p.advance length places)
  | alt p q, places => p.advance length places ||| q.advance length places
  | times p least (some most), places =>
    let rounds (n : Nat) : Nat := min n (length + 1)
    let first := settle (p.advance length) (rounds least) places
    spread (p.advance length) (rounds (most - least)) first first
  | times p 0 none, places => spread (p.advance length) (length + 1) places places
  | times p (least + 1) none, places =>
    let first := settle (p.advance length) (min least (length + 1)) places
    spreadOut (p.advance length) (length + 2) 0 first 0

end Overlay

/-- Does a match begin anywhere in the text? -/
def Pattern.isMatch (p : Pattern) (text : String) : Bool :=
  let cs := text.toList
  (p.overlay cs).advance cs.length (ofBits (List.replicate (cs.length + 1) true)) != 0

end InterfaceSchema
