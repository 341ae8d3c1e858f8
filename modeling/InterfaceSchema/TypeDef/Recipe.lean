import InterfaceSchema.TypeDef

/-!
# Recipes of declared types

A type is described by calls, made one after the other: a comment, which every shape takes, or a
part of the shape's own. A later call for a single-valued part replaces an earlier one; calls for
fields, elements, variants and allowed strings add up. Names are not checked here.

* `Recipe.build` gives the type that the calls describe; a string that no call constrains is only
  another name for its supertype;
* `run_body` and `run_info` separate the parts from the comments, so that each shape can be
  followed on its own.
-/

namespace InterfaceSchema

/-! ## 1. Calls -/

/-- A comment, or a part of the shape's own. -/
inductive Call (Part : Type) where
  | comment (text : String)
  | part (part : Part)

namespace Call

variable {Part Body : Type}

/-- The text of a comment. -/
def comment? : Call Part → Option String
  | comment text => some text
  | part _ => none

/-- What is not a comment. -/
def part? : Call Part → Option Part
  | comment _ => none
  | part p => some p

/-- What one call does to a header and a body. -/
def run (apply : Body → Part → Body) (state : TypeInfo × Body) : Call Part → TypeInfo × Body
  | comment text => ({ state.1 with comment := some text }, state.2)
  | part p => (state.1, apply state.2 p)

/-- The body sees the parts only. -/
theorem run_body (apply : Body → Part → Body) : ∀ (calls : List (Call Part))
    (state : TypeInfo × Body),
    (calls.foldl (run apply) state).2 = (calls.filterMap part?).foldl apply state.2
  | [], _ => rfl
  | comment text :: rest, state => run_body apply rest (run apply state (.comment text))
  | part p :: rest, state => run_body apply rest (run apply state (.part p))

/-- The header sees the comments only, and keeps the last of them. -/
theorem run_info (apply : Body → Part → Body) : ∀ (calls : List (Call Part))
    (state : TypeInfo × Body),
    (calls.foldl (run apply) state).1 =
      { state.1 with comment := (calls.filterMap comment?).getLast?.or state.1.comment }
  | [], _ => by simp
  | comment text :: rest, state => by
    rw [List.foldl_cons, run_info apply rest]
    simp only [run, List.filterMap_cons, comment?, List.getLast?_cons]
    cases (rest.filterMap comment?).getLast? <;> rfl
  | part p :: rest, state => run_info apply rest (run apply state (.part p))

end Call

/-! ## 2. The parts of each shape -/

/-- Constrains a string. Allowed strings add up. -/
inductive StringPart where
  | pattern (pattern : String)
  | minSize (size : Int32)
  | maxSize (size : Int32)
  | value (value : String)

/-- Bounds a number. -/
inductive NumberPart where
  | min (bound : Number)
  | max (bound : Number)

/-- Adds a field. -/
inductive StructPart where
  | field (field : Field)
  | arrayField (name items : String)
  | mapField (name keys items : String)

/-- Sets the type of the items. -/
inductive ArrayPart where
  | items (typeName : String)

/-- Sets the type of the keys or of the items. -/
inductive MapPart where
  | keys (typeName : String)
  | items (typeName : String)

/-- Adds an element. -/
inductive EnumPart where
  | element (symbol : String)
  | elementWithComment (symbol comment : String)

/-- Adds a variant. -/
inductive UnionPart where
  | variant (typeName : String)

/-- The element types of a map, while it is being described. -/
structure MapShape where
  keys : String
  items : String

/-- What a part does to the constraints. -/
def StringConstraints.apply (c : StringConstraints) : StringPart → StringConstraints
  | .pattern pattern => { c with pattern := some pattern }
  | .minSize size => { c with minSize := some size }
  | .maxSize size => { c with maxSize := some size }
  | .value value => { c with values := c.values ++ [value] }

/-- What a part does to the bounds. -/
def NumberBounds.apply (b : NumberBounds) : NumberPart → NumberBounds
  | .min bound => { b with min := some bound }
  | .max bound => { b with max := some bound }

/-- What a part does to the fields; the two short forms add a required inline collection. -/
def StructPart.apply (fields : List Field) : StructPart → List Field
  | .field f => fields ++ [f]
  | .arrayField name items => fields ++ [.new name (.array items)]
  | .mapField name keys items => fields ++ [.new name (.map keys items)]

/-- What a part does to the type of the items. -/
def ArrayPart.apply (_ : String) : ArrayPart → String
  | .items typeName => typeName

/-- What a part does to the element types. -/
def MapShape.apply (m : MapShape) : MapPart → MapShape
  | .keys typeName => { m with keys := typeName }
  | .items typeName => { m with items := typeName }

/-- What a part does to the elements. -/
def EnumPart.apply (elements : List EnumElement) : EnumPart → List EnumElement
  | .element symbol => elements ++ [⟨symbol, none⟩]
  | .elementWithComment symbol comment => elements ++ [⟨symbol, some comment⟩]

/-- What a part does to the variants. -/
def UnionPart.apply (variants : List String) : UnionPart → List String
  | .variant typeName => variants ++ [typeName]

/-! ## 3. What the parts start from and end in -/

/-- The name of the type of all values; elements have it until they are given another. -/
def anyName : String := BaseType.any.name

/-- No constraint at all. -/
def StringConstraints.none : StringConstraints := ⟨.none, .none, .none, []⟩

/-- Says nothing about the string. -/
def StringConstraints.isEmpty (c : StringConstraints) : Bool :=
  c.pattern.isNone && c.minSize.isNone && c.maxSize.isNone && c.values.isEmpty

/-- Without constraints the type is a synonym. -/
def StringConstraints.toBody (c : StringConstraints) : TypeBody :=
  if c.isEmpty then .synonym else .string c

/-- The calls that describe a type of one of the eight shapes. -/
inductive Recipe where
  | synonym (calls : List (Call Empty))
  | string (calls : List (Call StringPart))
  | number (calls : List (Call NumberPart))
  | struct (calls : List (Call StructPart))
  | array (calls : List (Call ArrayPart))
  | map (calls : List (Call MapPart))
  | enum (calls : List (Call EnumPart))
  | union (calls : List (Call UnionPart))

namespace Recipe

/-- Runs the calls on a new header and a first body, and reads the result as a type. -/
def describe {Part Body : Type} (apply : Body → Part → Body) (start : Body)
    (toBody : Body → TypeBody) (supertype name : String) (calls : List (Call Part)) : TypeDef :=
  let state := calls.foldl (Call.run apply) (⟨name, supertype, none⟩, start)
  ⟨state.1, toBody state.2⟩

/-- The type that the calls describe. -/
def build (supertype name : String) : Recipe → TypeDef
  | synonym calls =>
    describe (fun _ part => nomatch part) () (fun _ => .synonym) supertype name calls
  | string calls =>
    describe StringConstraints.apply .none StringConstraints.toBody supertype name calls
  | number calls => describe NumberBounds.apply ⟨none, none⟩ .number supertype name calls
  | struct calls => describe StructPart.apply [] .struct supertype name calls
  | array calls => describe ArrayPart.apply anyName .array supertype name calls
  | map calls =>
    describe MapShape.apply ⟨anyName, anyName⟩ (fun m => .map m.keys m.items) supertype name calls
  | enum calls => describe EnumPart.apply [] .enum supertype name calls
  | union calls => describe UnionPart.apply [] .union supertype name calls

/-- How many calls there are. -/
def length : Recipe → Nat
  | synonym calls => calls.length
  | string calls => calls.length
  | number calls => calls.length
  | struct calls => calls.length
  | array calls => calls.length
  | map calls => calls.length
  | enum calls => calls.length
  | union calls => calls.length

/-- The first `n` calls. -/
def take (n : Nat) : Recipe → Recipe
  | synonym calls => synonym (calls.take n)
  | string calls => string (calls.take n)
  | number calls => number (calls.take n)
  | struct calls => struct (calls.take n)
  | array calls => array (calls.take n)
  | map calls => map (calls.take n)
  | enum calls => enum (calls.take n)
  | union calls => union (calls.take n)

/-- The types described before the first call and after each. -/
def history (supertype name : String) (r : Recipe) : List TypeDef :=
  (List.range (r.length + 1)).map fun n => (r.take n).build supertype name

end Recipe

end InterfaceSchema
