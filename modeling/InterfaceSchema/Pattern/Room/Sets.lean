import InterfaceSchema.Pattern.CharSet
import InterfaceSchema.Pattern.Room
import InterfaceSchema.Pattern.Room.StateTable
import InterfaceSchema.Text.Utf8

/-!
# Building sets and texts

An automaton reads bytes. A set of ASCII characters is one state, and a set that goes beyond ASCII
is read byte by byte, by way of the sequences of byte ranges that its members are stored as.
Forwards, what the sequences begin with is shared, and so are states that lead on alike; backwards,
only states that lead on alike are shared. A choice between texts is a tree in which what they begin
with is shared.
-/

namespace InterfaceSchema

/-- The first elements of sequences, each with what follows it; neighbours with one first element
    stand together. -/
def heads (seqs : List (List (Nat × Nat))) : List ((Nat × Nat) × List (List (Nat × Nat))) :=
  seqs.foldr (fun s groups =>
    match s, groups with
    | [], _ => groups
    | h :: t, [] => [(h, [t])]
    | h :: t, (h', ts) :: rest =>
      if h = h' then (h, t :: ts) :: rest else (h, [t]) :: (h', ts) :: rest) []

namespace Room

/-- What an automaton takes while a set is built, and the states that may be used again. -/
abbrev WithTable := Room × StateTable

/-- The state with the key, which is built with so many byte ranges unless it is in the table. -/
def reuse (key : List Nat) (ranges : Nat) (r : WithTable) : Nat × WithTable :=
  match r.2.find? key with
  | some state => (state, r)
  | none => (r.1.states, (r.1.add 1).addRanges ranges, r.2.insert key r.1.states)

/-- Builds a state for sequences of at most so many byte ranges, after the states that it leads on
    to. The sequences end in the state `last`. -/
def addBranch (last : Nat) : Nat → List (List (Nat × Nat)) → WithTable → Nat × WithTable
  | 0, _, r => (last, r)
  | n + 1, seqs, r =>
    match heads seqs with
    | [] => (last, r)
    | branches =>
      let (key, r) := branches.foldl (fun (key, r) (range, tails) =>
        let (state, r) := addBranch last n tails r
        (state :: range.2 :: range.1 :: key, r)) ([], r)
      reuse key.reverse branches.length r

/-- Builds a set that is read forwards: its end, then the sequences. -/
def addForward (seqs : List (List (Nat × Nat))) (r : Room) : Room :=
  (addBranch r.states 4 seqs (r.add 1, .empty 10000)).2.1

/-- Builds a set that is read backwards: a fork with a way to each sequence, its end, and a chain of
    states for each sequence. -/
def addBackward (seqs : List (List (Nat × Nat))) (r : Room) : Room :=
  let last := r.states + 1
  let addRange (onward : Nat × WithTable) (range : Nat × Nat) : Nat × WithTable :=
    reuse [onward.1, range.1, range.2] 0 onward.2
  let addChain (r : WithTable) (seq : List (Nat × Nat)) : WithTable :=
    (seq.foldl addRange (last, r)).2
  (seqs.foldl addChain ((r.add 2).addWays seqs.length, .empty 1000)).1

/-- Builds a set. -/
def addSet (backward : Bool) (s : CharSet) (r : Room) : Room :=
  if s.ranges.all fun range => range.2 < 0x80 then (r.add 2).addRanges s.ranges.length
  else
    let seqs := s.ranges.flatMap Text.byteRanges
    if backward then addBackward seqs r else addForward seqs r

/-- Builds a tree in which texts share their beginnings. A text that ends where others go on keeps
    those before it and those after it apart; more than one that ends before any goes on count as
    one. The first argument exceeds the length of all texts. -/
def addTree : Nat → List (List Nat) → Room → Room
  | 0, _, r => r
  | n + 1, texts, r =>
    let ending := (texts.takeWhile List.isEmpty).length
    let texts := texts.drop (ending - 1)
    let runs := (texts.splitBy fun a b => !a.isEmpty && !b.isEmpty).filter fun run =>
      run.any (!·.isEmpty)
    let addRun (r : Room) (run : List (List Nat)) : Room :=
      let firsts := (run.filterMap List.head?).eraseDups
      let tails (b : Nat) : List (List Nat) :=
        (run.filter fun t => t.head? == some b).map (List.drop 1)
      firsts.foldl (fun r b => addTree n (tails b) r)
        ((r.add 1).addRanges (if firsts.length = 1 then 0 else firsts.length))
    if runs.isEmpty then r
    else
      let ways := runs.length + (texts.filter List.isEmpty).length
      runs.foldl addRun ((r.add 1).addWays ways)

end Room

end InterfaceSchema
