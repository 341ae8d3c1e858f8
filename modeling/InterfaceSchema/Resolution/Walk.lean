import InterfaceSchema.Event
import InterfaceSchema.SchemaError
import InterfaceSchema.Table
import InterfaceSchema.TypeDef

/-!
# The walk over declared types

Types are emitted depth first: before a type, everything it refers to. The walk marks a name while
it is being visited and once it is emitted; the names of base types are marked as emitted from the
start. Meeting a name that is being visited means that the references loop back.

* `visit` emits one type after all it refers to, or stops at the first error; the walk as it then
  stands is part of either answer, so that what was emitted up to a failure can be told;
* `resolveAt` starts a visit from outside; where it fails, no name is left marked as being visited;
* `positionOf?` finds declarations by name (`positionOf?_name`, `positionOf?_of_nodup`).
-/

namespace InterfaceSchema

/-! ## 1. The state of a walk -/

/-- How far the walk is with a name. -/
inductive Mark where
  | visiting
  | resolved
  deriving DecidableEq

/-- The walk as it stands. -/
structure Walk where
  marks : Table Mark
  /-- The names being visited, the outermost first. -/
  stack : List String
  /-- The positions emitted, in order. -/
  ordered : List Nat
  /-- An event for each position emitted, in order. -/
  log : List Event

namespace Walk

/-- Nothing is visited or emitted; the base types need not be. -/
def start : Walk where
  marks := Table.ofList (BaseType.all.map fun b => (b.name, .resolved))
  stack := []
  ordered := []
  log := []

/-- The mark of a name; a name that has not been met has none. -/
def mark? (w : Walk) (name : String) : Option Mark :=
  w.marks.get? name

/-- Begins to visit a name. -/
def enter (w : Walk) (name : String) : Walk :=
  { w with marks := w.marks.put name .visiting, stack := w.stack ++ [name] }

/-- Ends the innermost visit and emits its position. -/
def emit (w : Walk) (name : String) (position : Nat) : Walk where
  marks := w.marks.put name .resolved
  stack := w.stack.dropLast
  ordered := w.ordered ++ [position]
  log := w.log ++ [.resolved name w.ordered.length]

/-- The place of a name on the stack. -/
def placeOf? (w : Walk) (name : String) : Option Nat :=
  w.stack.idxOf? name

/-- The part of the stack from the name on, closed by the name: a loop, without what led into it.
    Only a name that is not on the stack would close the whole of it. -/
def loopAt (w : Walk) (name : String) : List String :=
  w.stack.drop ((w.placeOf? name).getD 0) ++ [name]

/-- Gives up all visits under way; their names can be visited again. -/
def abandon (w : Walk) : Walk :=
  { w with marks := w.stack.foldl Table.erase w.marks, stack := [] }

end Walk

/-! ## 2. What each operation does to the marks -/

namespace Walk

theorem mark?_enter (w : Walk) (name key : String) :
    (w.enter name).mark? key = if key = name then some .visiting else w.mark? key :=
  Table.get?_put w.marks name key .visiting

theorem mark?_emit (w : Walk) (name key : String) (position : Nat) :
    (w.emit name position).mark? key = if key = name then some .resolved else w.mark? key :=
  Table.get?_put w.marks name key .resolved

theorem get?_foldl_erase (key : String) : ∀ (names : List String) (marks : Table Mark),
    (names.foldl Table.erase marks).get? key = if key ∈ names then none else marks.get? key
  | [], _ => by simp
  | name :: rest, marks => by
    rw [List.foldl_cons, get?_foldl_erase key rest, Table.get?_erase]
    by_cases h : key = name <;> simp [h]

/-- Where visits are given up, the names on the stack lose their marks, and no others. -/
theorem mark?_abandon (w : Walk) (key : String) :
    w.abandon.mark? key = if key ∈ w.stack then none else w.mark? key :=
  get?_foldl_erase key w.stack w.marks

/-- At the start exactly the base types are marked. -/
theorem mark?_start (key : String) :
    start.mark? key = if isBaseName key then some .resolved else none := by
  by_cases h : isBaseName key = true
  · obtain ⟨b, rfl⟩ := isBaseName_iff.1 h
    rw [if_pos h]
    cases b <;> decide
  · rw [if_neg h]
    have hk : key ∉ start.marks.keys := by
      have : start.marks.keys = BaseType.all.map (·.name) := by decide
      rw [this, List.mem_map]
      rintro ⟨b, _, rfl⟩
      exact h (isBaseName_name b)
    cases hm : start.mark? key with
    | none => rfl
    | some m => exact absurd ((Table.mem_keys_iff _ _).2 ⟨m, hm⟩) hk

end Walk

/-! ## 3. Visits -/

/-- An error, and the walk as it stood when the error was met. -/
structure Stop where
  error : SchemaError
  walk : Walk

/-- The position of the declaration of a name. -/
def positionOf? (types : List TypeDef) (name : String) : Option Nat :=
  types.findIdx? fun t => t.name == name

/-- Follows a reference with `visit`. A base type needs no visit; a name without a declaration is an
    error of the type that refers to it. -/
def follow (types : List TypeDef) (visit : String → Nat → Walk → Except Stop Walk)
    (referrer : String) (w : Walk) (reference : String) : Except Stop Walk :=
  if isBaseName reference then .ok w
  else
    match positionOf? types reference with
    | some position => visit reference position w
    | none => .error ⟨.danglingReference referrer reference, w⟩

/-- Emits the type declared at `position` under `name`, after everything it refers to. `room` is how
    many names more the stack may take; a stack of declared names that outgrows the declarations
    has met a name twice, so running out of it is a loop too. -/
def visit (types : List TypeDef) : Nat → String → Nat → Walk → Except Stop Walk
  | 0, name, _, w => .error ⟨.cycle (w.loopAt name), w⟩
  | room + 1, name, position, w =>
    match w.mark? name with
    | some .resolved => .ok w
    | some .visiting => .error ⟨.cycle (w.loopAt name), w⟩
    | none =>
      let references := (types[position]?.map (·.references)).getD []
      match references.foldlM (follow types (visit types room) name) (w.enter name) with
      | .ok w => .ok (w.emit name position)
      | .error stop => .error stop

theorem visit_of_resolved {types : List TypeDef} {name : String} {w : Walk} (room position : Nat)
    (h : w.mark? name = some .resolved) : visit types (room + 1) name position w = .ok w := by
  rw [visit, h]

theorem visit_of_visiting {types : List TypeDef} {name : String} {w : Walk} (room position : Nat)
    (h : w.mark? name = some .visiting) :
    visit types (room + 1) name position w = .error ⟨.cycle (w.loopAt name), w⟩ := by
  rw [visit, h]

/-- A name without a mark is entered, then everything its type refers to is followed, and then it is
    emitted. -/
theorem visit_of_mark?_eq_none {types : List TypeDef} {name : String} {w : Walk}
    (room position : Nat) (h : w.mark? name = none) :
    visit types (room + 1) name position w =
      ((types[position]?.map (·.references)).getD []).foldlM
          (follow types (visit types room) name) (w.enter name) >>=
        fun last => .ok (last.emit name position) := by
  rw [visit, h]
  dsimp only
  cases ((types[position]?.map (·.references)).getD []).foldlM
    (follow types (visit types room) name) (w.enter name) <;> rfl

theorem visit_of_unmarked {types : List TypeDef} {name : String} {w : Walk} {position : Nat}
    {t : TypeDef} (room : Nat) (h : w.mark? name = none) (ht : types[position]? = some t) :
    visit types (room + 1) name position w =
      t.references.foldlM (follow types (visit types room) name) (w.enter name) >>=
        fun last => .ok (last.emit name position) := by
  rw [visit_of_mark?_eq_none room position h, ht]
  rfl

/-- Visits the type at a position; where that fails, every visit under way is given up. -/
def resolveAt (types : List TypeDef) (w : Walk) (position : Nat) : Except Stop Walk :=
  match types[position]? with
  | none => .ok w
  | some t =>
    match visit types (types.length + 1) t.name position w with
    | .ok w => .ok w
    | .error stop => .error { stop with walk := stop.walk.abandon }

theorem resolveAt_of_ok {types : List TypeDef} {w next : Walk} {position : Nat} {t : TypeDef}
    (ht : types[position]? = some t)
    (h : visit types (types.length + 1) t.name position w = .ok next) :
    resolveAt types w position = .ok next := by
  unfold resolveAt
  rw [ht]
  simp only [h]

/-- Giving up the visits under way changes the walk that is stopped, but not its error. -/
theorem resolveAt_of_error {types : List TypeDef} {w : Walk} {position : Nat} {t : TypeDef}
    {stop : Stop} (ht : types[position]? = some t)
    (h : visit types (types.length + 1) t.name position w = .error stop) :
    resolveAt types w position = .error { stop with walk := stop.walk.abandon } := by
  unfold resolveAt
  rw [ht]
  simp only [h]

/-! ## 4. Declarations by name -/

/-- A found declaration carries the name it was found by. -/
theorem positionOf?_name {types : List TypeDef} {name : String} {position : Nat}
    (h : positionOf? types name = some position) :
    ∃ t, types[position]? = some t ∧ t.name = name := by
  obtain ⟨hlt, hname, _⟩ := List.findIdx?_eq_some_iff_getElem.1 h
  exact ⟨types[position], List.getElem?_eq_getElem hlt, by simpa using hname⟩

/-- A name is found exactly when a type of that name is declared. -/
theorem positionOf?_eq_none_iff {types : List TypeDef} {name : String} :
    positionOf? types name = none ↔ name ∉ types.map (·.name) := by
  simp [positionOf?, List.findIdx?_eq_none_iff]

/-- Where no name is declared twice, the declaration at a position is the one found by its name. -/
theorem positionOf?_of_nodup {types : List TypeDef} {position : Nat} {t : TypeDef}
    (hn : (types.map (·.name)).Nodup) (h : types[position]? = some t) :
    positionOf? types t.name = some position := by
  obtain ⟨hlt, rfl⟩ := List.getElem?_eq_some_iff.1 h
  refine List.findIdx?_eq_some_iff_getElem.2 ⟨hlt, by simp, fun j hj => ?_⟩
  have hne := (List.pairwise_iff_getElem.1 hn) j position (by simp; omega) (by simpa using hlt) hj
  simpa using hne

end InterfaceSchema
