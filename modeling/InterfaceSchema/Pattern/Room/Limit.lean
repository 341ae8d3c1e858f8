import InterfaceSchema.Pattern.Blueprint
import InterfaceSchema.Pattern.Room.Sets

/-!
# The limit on room

A pattern is refused if its automata would take too much room. It has two of them, one that reads
forwards and one that reads backwards; only the first has states for groups. Repetitions are written
out.

* `Blueprint.build` builds the automaton for a part;
* `Blueprint.fits` holds if each of the two automata keeps to the limit.
-/

namespace InterfaceSchema.Blueprint

/-- The bytes of a text. -/
def bytes? (backward : Bool) : Blueprint → Option (List Nat)
  | text cs =>
    let bytes := cs.flatMap fun c => Text.utf8Bytes c.toNat
    some (if backward then bytes.reverse else bytes)
  | _ => none

mutual

/-- Builds the automaton for a blueprint. -/
def build (backward : Bool) : Blueprint → Room → Room
  | empty, r => r.add 1
  | text cs, r => r.add (textLength cs)
  | set s, r => r.addSet backward s
  | anchor _, r => r.add 1
  | group p, r =>
    if backward then p.build backward r else (p.build backward (r.add 1)).link.add 1
  | seq ps, r => buildSeq backward ps r
  | choice ps, r =>
    match ps.mapM (bytes? backward) with
    | some texts => (r.add 1).addTree ((texts.map List.length).foldl max 0 + 1) texts
    | none => buildChoice backward 1 ps r
  | times p least most _, r => r.repeated (p.build backward) p.takesSome least most

/-- Builds parts that are linked one after the other. -/
def buildSeq (backward : Bool) : List Blueprint → Room → Room
  | [], r => r
  | p :: ps, r =>
    if r.isOver then r
    else if backward then p.build backward (buildSeq backward ps r).link
    else buildSeq backward ps (p.build backward r.link)

/-- Builds parts that a fork leads to and that lead to one state; these two come after the second
    part. The first of the parts has the given number. -/
def buildChoice (backward : Bool) : Nat → List Blueprint → Room → Room
  | _, [], r => r
  | n, p :: ps, r =>
    if r.isOver then r
    else
      let r := (p.build backward r).link
      buildChoice backward (n + 1) ps ((r.add (if n = 2 then 2 else 0)).addWays 1)

end

/-- The room of an automaton that finds matches anywhere. Unless matches keep to the end of the text
    where it begins to read, it first skips any bytes. Its last state tells that there is a
    match. -/
def totalRoom (p : Blueprint) (backward : Bool) : Room :=
  let keepsToEnd := if backward then p.endsText else p.startsText
  let lead := if keepsToEnd then Room.empty.add 1 else ((Room.empty.add 3).addRanges 1).addWays 2
  (build backward (if backward then p else group p) lead).link.add 1

/-- Is there enough room for the automata? -/
def fits (p : Blueprint) : Bool := !(p.totalRoom false).isOver && !(p.totalRoom true).isOver

end InterfaceSchema.Blueprint
