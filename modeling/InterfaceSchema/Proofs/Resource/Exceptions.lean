import InterfaceSchema.Proofs.Equality

/-!
# The exceptions of a resource

A call that registers an exception puts it into a table; every other call leaves the table alone,
and is left alone by it. So the table of a resource depends on the registrations alone, and
everything else on the other calls.

* `build_eq`: a resource is what the other calls make of it, with the table of the registrations;
* `build_beq_iff`: where the other calls are the same, resources are equal exactly when every symbol
  was registered last with the same;
* `exceptions_build`: the symbols stand in the order of their first registrations, each once and
  with its last registration.
-/

namespace InterfaceSchema

namespace Resource

/-! ## 1. Registrations -/

/-- What a call registers: a symbol, and the answer of that outcome. -/
def Call.registration? : Call → Option (String × ExceptionDef)
  | .exception symbol typeName text => some (symbol, ⟨typeName, text⟩)
  | _ => none

/-- All that the calls register, in order and with every repetition. -/
def registrations (calls : List Call) : List (String × ExceptionDef) :=
  calls.filterMap Call.registration?

/-- The symbols that the calls register, in order and with every repetition. -/
def registeredSymbols (calls : List Call) : List String :=
  (registrations calls).map (·.1)

/-- The last registration of a symbol. -/
def lastRegistration? (calls : List Call) (symbol : String) : Option ExceptionDef :=
  (registrations calls).reverse.lookup symbol

/-- The calls that register nothing. -/
def otherCalls (calls : List Call) : List Call :=
  calls.filter fun call => call.registration?.isNone

/-! ## 2. Registrations and other calls, apart -/

/-- What one call does, seen from the table and from the rest of the resource. -/
theorem apply_eq (r : Resource) (t : Table ExceptionDef) (call : Call) :
    apply { r with exceptions := t } call = match call.registration? with
      | some (symbol, answer) => { r with exceptions := t.put symbol answer }
      | none => { apply r call with exceptions := t } := by
  cases call <;> rfl

/-- The calls, made on a resource and a table together. -/
theorem foldl_apply_eq : ∀ (calls : List Call) (r : Resource) (t : Table ExceptionDef),
    calls.foldl apply { r with exceptions := t } =
      { (otherCalls calls).foldl apply r with
        exceptions := (registrations calls).foldl (fun t p => t.put p.1 p.2) t }
  | [], _, _ => rfl
  | call :: rest, r, t => by
    rw [List.foldl_cons, apply_eq]
    cases hc : call.registration? with
    | some registration =>
      have hothers : otherCalls (call :: rest) = otherCalls rest :=
        List.filter_cons_of_neg (by simp [hc])
      have hregs : registrations (call :: rest) = registration :: registrations rest :=
        List.filterMap_cons_some hc
      rw [hothers, hregs, List.foldl_cons]
      exact foldl_apply_eq rest r _
    | none =>
      have hothers : otherCalls (call :: rest) = call :: otherCalls rest :=
        List.filter_cons_of_pos (by simp [hc])
      have hregs : registrations (call :: rest) = registrations rest :=
        List.filterMap_cons_none hc
      rw [hothers, hregs, List.foldl_cons]
      exact foldl_apply_eq rest _ t

/-- **A resource is what the other calls make of it, with the table of the registrations.** -/
theorem build_eq (typeName method path : String) (calls : List Call) :
    build typeName method path calls = { build typeName method path (otherCalls calls) with
      exceptions := .ofList (registrations calls) } :=
  foldl_apply_eq calls (new typeName method path) .empty

variable {typeName method path : String} {calls calls' : List Call}

theorem get?_build (symbol : String) :
    (build typeName method path calls).exceptions.get? symbol = lastRegistration? calls symbol := by
  rw [build_eq]
  exact Table.get?_ofList _ symbol

theorem keys_build : (build typeName method path calls).exceptions.keys =
    (registeredSymbols calls).eraseDups := by
  rw [build_eq]
  exact Table.keys_ofList _

/-- **Where the other calls are the same, the last registrations decide whether resources are
    equal**, whatever came before them and in whatever order. -/
theorem build_beq_iff (h : otherCalls calls = otherCalls calls') :
    (build typeName method path calls == build typeName method path calls') = true ↔
      ∀ symbol, lastRegistration? calls symbol = lastRegistration? calls' symbol := by
  rw [build_eq _ _ _ calls, build_eq _ _ _ calls', h, beq_exceptions, Table.beq_iff]
  simp only [Table.get?_ofList, lastRegistration?]

/-! ## 3. First in order, last in value -/

/-- **Exceptions stand in the order of first registration, each with its last registration.** Every
    registered symbol is listed once, and none else; of two symbols that one stands first that was
    registered first; and what is listed under a symbol is its last registration. Two sequences of
    calls that differ in registrations only build equal resources exactly when they agree on the
    last registration of every symbol. -/
theorem exceptions_build (typeName method path : String) :
    (∀ calls, let exceptions := (build typeName method path calls).exceptions
      exceptions.keys.Nodup ∧
      (∀ symbol, symbol ∈ exceptions.keys ↔ symbol ∈ registeredSymbols calls) ∧
      (∀ symbol other, exceptions.keys.idxOf symbol < exceptions.keys.idxOf other ↔
        (registeredSymbols calls).idxOf symbol < (registeredSymbols calls).idxOf other) ∧
      ∀ symbol answer, (symbol, answer) ∈ exceptions.entries ↔
        lastRegistration? calls symbol = some answer) ∧
    ∀ calls calls', otherCalls calls = otherCalls calls' →
      ((build typeName method path calls == build typeName method path calls') = true ↔
        ∀ symbol, lastRegistration? calls symbol = lastRegistration? calls' symbol) := by
  refine ⟨fun calls => ⟨Table.distinct _, fun symbol => ?_, fun symbol other => ?_,
    fun symbol answer => ?_⟩, fun calls calls' h => build_beq_iff h⟩
  · rw [keys_build, List.mem_eraseDups]
  · rw [keys_build, idxOf_eraseDups_lt_iff]
  · rw [Table.mem_entries_iff, get?_build]

/-- The first sequence registers `NOT_FOUND` before and after `BAD_REQUEST`, the second after it
    only. -/
theorem exceptions_build_again :
    let calls : List Call := [.exception "NOT_FOUND" "ResourceError" (some "first"),
      .name "getContact", .exception "BAD_REQUEST" "ResourceError" none,
      .exception "NOT_FOUND" "MissingContact" (some "second")]
    let calls' : List Call := [.exception "BAD_REQUEST" "ResourceError" none,
      .exception "NOT_FOUND" "MissingContact" (some "second"), .name "getContact"]
    otherCalls calls = otherCalls calls' ∧
    (build "Contact" "GET" "/contacts" calls).exceptions.entries =
      [("NOT_FOUND", ⟨"MissingContact", some "second"⟩),
        ("BAD_REQUEST", ⟨"ResourceError", none⟩)] ∧
    (build "Contact" "GET" "/contacts" calls').exceptions.keys = ["BAD_REQUEST", "NOT_FOUND"] ∧
    (build "Contact" "GET" "/contacts" calls == build "Contact" "GET" "/contacts" calls') =
      true := by
  intro calls calls'
  refine ⟨rfl, rfl, rfl,
    ((exceptions_build "Contact" "GET" "/contacts").2 calls calls' rfl).2 fun symbol => ?_⟩
  simp only [lastRegistration?, registrations, Call.registration?, calls, calls',
    List.filterMap_cons, List.filterMap_nil, List.reverse_cons, List.reverse_nil, List.nil_append,
    List.cons_append, Entries.lookup_cons]
  by_cases hlast : symbol = "NOT_FOUND"
  · rw [if_pos hlast, if_pos hlast]
  · simp only [hlast, if_false]

end Resource

end InterfaceSchema
