/-!
# The room that an automaton takes

An automaton is built state by state, and what it takes so far is counted.

* A state takes 32 bytes. A state that chooses between byte ranges takes 8 more for each range, and
  a fork takes 4 more for each way on.
* To link the end of a part onwards takes nothing, unless the end is a fork; then it takes a way.
* Nothing more is built once the automaton takes more than 10 MiB.
-/

namespace InterfaceSchema

/-- What an automaton takes so far. -/
structure Room where
  /-- How many states there are. They are numbered from zero, so this is the number of the next. -/
  states : Nat
  bytes : Nat
  /-- Is the end that is not linked onwards yet a fork? -/
  endsInFork : Bool

namespace Room

/-- What an automaton takes before it is built. -/
def empty : Room := ⟨0, 0, false⟩

/-- Adds states. -/
def add (r : Room) (states : Nat) : Room := ⟨r.states + states, r.bytes + 32 * states, false⟩

/-- Adds byte ranges to states. -/
def addRanges (r : Room) (ranges : Nat) : Room := { r with bytes := r.bytes + 8 * ranges }

/-- Adds ways on to forks. -/
def addWays (r : Room) (ways : Nat) : Room := { r with bytes := r.bytes + 4 * ways }

/-- Links the end onwards. -/
def link (r : Room) : Room :=
  if r.endsInFork then { r.addWays 1 with endsInFork := false } else r

/-- Adds a fork as the end, with so many ways on so far. -/
def fork (r : Room) (ways : Nat) : Room := { (r.add 1).addWays ways with endsInFork := true }

/-- The most bytes that an automaton may take. -/
def maxBytes : Nat := 10 * 1024 * 1024

/-- Is it too much? -/
def isOver (r : Room) : Bool := maxBytes < r.bytes

/-- Builds so many copies of a part, linked one after the other. -/
def copies (build : Room → Room) : Nat → Room → Room
  | 0, r => r
  | n + 1, r => if r.isOver then r else copies build n (build r.link)

/-- Builds a part that is repeated. If the part may take nothing, going on and leaving are kept
    apart. -/
def repeated (r : Room) (build : Room → Room) (takesSome : Bool) (least : Nat)
    (most : Option Nat) : Room :=
  match least, most with
  | 0, none =>
    if takesSome then { (build ((r.add 1).addWays 1)).link with endsInFork := true }
    else ((build r).link.add 3).addWays 4
  | least, none => (copies build least r).link.fork 1
  | 0, some 1 => (build ((r.add 1).addWays 2)).link.add 1
  | least, some most =>
    let needed := if least = 0 then r.add 1 else copies build least r
    if most ≤ least then needed
    else
      let further (r : Room) : Room := build ((r.add 1).addWays 2)
      (copies further (most - least) (needed.link.add 1)).link

end Room

end InterfaceSchema
