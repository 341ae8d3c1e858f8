import InterfaceSchema.Pattern.Blueprint

/-!
# What matches begin with

Each match of a pattern begins with one of some texts, its openings. They stand in the order in
which the ways to match are preferred, and they are collected as long as they are few and short.
Where each opening that is looked for is a match as it stands, matches are found by looking for the
openings alone.

* `Blueprint.openings` collects the openings of a pattern;
* `Opening.dropCovered` leaves out what begins with an earlier opening;
* `Opening.lookedFor` makes openings fewer and shorter where that helps to look for them;
* `Blueprint.isFoundByTexts` tells whether a pattern needs no automaton.
-/

namespace InterfaceSchema

/-- A text that matches begin with. -/
structure Opening where
  bytes : List Nat
  /-- Is the text a match as it stands? -/
  whole : Bool
deriving DecidableEq

/-! ## 1. Single openings -/

namespace Opening

/-- The opening of a match that may go on. -/
def unfinished (o : Opening) : Opening := { o with whole := false }

/-- The first bytes of an opening. -/
def cut (n : Nat) (o : Opening) : Opening :=
  if o.bytes.length ≤ n then o else ⟨o.bytes.take n, false⟩

/-- Neighbours with the same text are one opening; it is whole if they are. -/
def joinTwins (os : List Opening) : List Opening :=
  os.foldr (fun o rest =>
    match rest with
    | [] => [o]
    | next :: later =>
      if o.bytes = next.bytes then ⟨o.bytes, o.whole && next.whole⟩ :: later
      else o :: rest) []

/-- Is each of the openings a match as it stands? -/
def allWhole (os : List Opening) : Bool := os.all (·.whole)

end Opening

/-! ## 2. Openings of patterns -/

/-- The openings of a pattern, if they are known and not too many. -/
abbrev Openings := Option (List Opening)

namespace Openings

open Opening

/-- The most openings of a pattern. -/
def most : Nat := 250

/-- The most bytes of an opening. -/
def longest : Nat := 100

/-- The most members of a set that are told apart. -/
def mostMembers : Nat := 10

/-- The most copies of a part that are followed. -/
def mostCopies : Nat := 10

/-- The bytes that are kept of each opening where there would be too many. -/
def briefest : Nat := 4

/-- The openings of what takes nothing. -/
def nothing : Openings := some [⟨[], true⟩]

/-- The only opening is a text. -/
def ofBytes (bytes : List Nat) : Openings := some [Opening.cut longest ⟨bytes, true⟩]

/-- The members of a set that has few. -/
def ofSet (s : CharSet) : Openings :=
  if s.ranges.foldl (fun n r => n + (r.2 + 1 - r.1)) 0 ≤ mostMembers then
    some (s.ranges.flatMap fun r =>
      (List.range' r.1 (r.2 + 1 - r.1)).map fun code => ⟨Text.utf8Bytes code, true⟩)
  else none

/-- All openings may go on. -/
def opened (os : Openings) : Openings := os.map (·.map unfinished)

/-- Openings of either part, those of the first part preferred. -/
def either (as bs : Openings) : Openings := do
  let as ← as
  let bs ← bs
  if as.length + bs.length ≤ most then some (joinTwins (as ++ bs))
  else
    let as := joinTwins (as.map (cut briefest))
    let bs := joinTwins (bs.map (cut briefest))
    if as.length + bs.length ≤ most then some (joinTwins (as ++ bs)) else none

/-- Openings of a part that another part comes after. Only a whole opening goes on with those of the
    other part; what follows is not known if these would be too many. -/
def followedBy (as bs : Openings) : Openings :=
  match as with
  | none => none
  | some as =>
    if as.all (!·.whole) then some as
    else
      match bs.filter fun bs => as.length * bs.length ≤ most with
      | some bs =>
        let goOn (a : Opening) : List Opening :=
          if a.whole then bs.map fun b => ⟨a.bytes ++ b.bytes, b.whole⟩ else [a]
        some ((joinTwins (as.flatMap goOn)).map (cut longest))
      | none => if as.any (·.bytes.isEmpty) then none else opened (some as)

/-- Openings of a part that is repeated. What may be left out is preferred where the part is to be
    repeated as few times as possible. -/
def repeated (os : Openings) (least : Nat) (most? : Option Nat) (short : Bool) : Openings :=
  if least = 0 then
    let os := if most? = some 1 then os else os.opened
    if short then either nothing os else either os nothing
  else
    let copies := (List.replicate (min least mostCopies) os).foldl followedBy nothing
    if least ≤ mostCopies ∧ most? = some least then copies else copies.opened

end Openings

namespace Blueprint

mutual

/-- The openings of a pattern. Anchors are disregarded. -/
def openings : Blueprint → Openings
  | empty => .nothing
  | text cs => .ofBytes (cs.flatMap fun c => Text.utf8Bytes c.toNat)
  | set s => .ofSet s
  | anchor _ => .nothing
  | group p => p.openings
  | seq ps => (allOpenings ps).foldl Openings.followedBy Openings.nothing
  | choice ps => (allOpenings ps).foldl Openings.either (some [])
  | times p least most short => p.openings.repeated least most short

/-- The openings of patterns, one by one. -/
def allOpenings : List Blueprint → List Openings
  | [] => []
  | p :: ps => p.openings :: allOpenings ps

end

end Blueprint

/-! ## 3. What is looked for -/

namespace Opening

/-- Leaves out the openings that begin with an earlier one. -/
def dropCovered : List Opening → List Opening
  | [] => []
  | o :: rest => o :: (dropCovered rest).filter fun p => !o.bytes.isPrefixOf p.bytes

/-- What all the openings begin with. -/
def commonBytes : List Opening → List Nat
  | [] => []
  | o :: rest =>
    rest.foldl (fun common p =>
      ((common.zip p.bytes).takeWhile fun b => b.1 == b.2).map (·.1)) o.bytes

/-- The ASCII characters that texts often hold. -/
def oftenHeld : List Char := "\n\r (),-./0129:_abcdefghilmnoprstuvxy|".toList

/-- Do few texts hold the first byte of a character? -/
def isRare (byte : Nat) : Bool := byte < 0x80 && !(oftenHeld.map Char.toNat).contains byte

/-- Is the opening a single byte that nearly all texts hold? -/
def isEverywhere (o : Opening) : Bool :=
  match o.bytes with
  | [byte] => ([' ', 'e', 't'].map Char.toNat).contains byte || 0xc0 ≤ byte
  | _ => false

/-- While there are more openings than the second number, cuts them to the first one. -/
def shorten : List (Nat × Nat) → List Opening → List Opening
  | [], os => os
  | (length, count) :: rest, os =>
    if os.length ≤ count then os else shorten rest (dropCovered (os.map (cut length)))

/-- How openings that are many are cut. -/
def cuts : List (Nat × Nat) := [(5, 10), (4, 10), (3, 64), (2, 64), (1, 10)]

/-- The openings that are looked for. A short common beginning stands for all if its first byte is
    rare, and a long one in any case. Openings that are many are shortened, unless they are whole
    and would become too short or stay too many. -/
def lookedFor (os : List Opening) : List Opening :=
  let kept := dropCovered os
  let common := commonBytes kept
  if 1 < os.length && common.length ≤ 3 && common.head?.any isRare then joinTwins (kept.map (cut 1))
  else
    let telling := 4 < common.length ||
      1 < common.length && !(allWhole kept && kept.length ≤ 16)
    let kept := if telling then joinTwins (kept.map (cut common.length)) else kept
    let shortened := shorten cuts kept
    let worse := shortened.any isEverywhere || shortened.any (·.bytes.length ≤ 2) ||
      64 < shortened.length
    if allWhole kept && worse then kept else shortened

end Opening

/-! ## 4. Patterns that are found by texts -/

namespace Blueprint

mutual

/-- Does the pattern ask something of a place, or tell what a group matches? -/
def marksPlaces : Blueprint → Bool
  | empty => false
  | text _ => false
  | set _ => false
  | anchor _ => true
  | group _ => true
  | seq ps => someMarksPlaces ps
  | choice ps => someMarksPlaces ps
  | times p _ _ _ => p.marksPlaces

/-- Does one of the patterns mark places? -/
def someMarksPlaces : List Blueprint → Bool
  | [] => false
  | p :: ps => p.marksPlaces || someMarksPlaces ps

end

/-- Is the pattern a text? -/
def isText : Blueprint → Bool
  | text _ => true
  | _ => false

/-- Is the pattern a choice between very many texts? -/
def isWordList : Blueprint → Bool
  | choice ps => 3000 ≤ ps.length && ps.all isText
  | _ => false

/-- Are matches found by looking for texts alone? Then there are some texts to look for, none of
    them is empty, and each is a match. -/
def isFoundByTexts (p : Blueprint) : Bool :=
  !p.marksPlaces &&
    (p.isWordList ||
      p.openings.any fun os =>
        let os := Opening.joinTwins os
        !os.isEmpty && !os.any (·.bytes.isEmpty) && Opening.allWhole (Opening.lookedFor os))

end Blueprint

end InterfaceSchema
