import Calculator.Registry.Function
import Calculator.Text.Quoted

/-!
# Registries

A registry holds the names that an expression may use: constants with their values, and functions.
No name is both. A registry is never changed; `withConstants` makes a larger one, and refuses names
that are already there.
-/

set_option autoImplicit false

namespace Calculator

/-- Constants and functions by name. A name that stands in a table twice has its first meaning. -/
structure Registry where
  constants : List (String × Float)
  functions : List Function
  disjoint : ∀ name ∈ constants.map Prod.fst, name ∉ functions.map Function.name

/-- Why tables cannot be made into a registry, with the names in question. -/
inductive NameClash where
  /-- Names given both as constants and as functions. -/
  | bothKinds (names : List String)
  /-- Names given to a registry that has them already. -/
  | alreadyRegistered (names : List String)
deriving DecidableEq, Repr

/-- The wording of a clash. -/
def NameClash.message : NameClash → String
  | .bothKinds names => "Names registered as both constant and function: " ++ quotedList names
  | .alreadyRegistered names => "Names already registered: " ++ quotedList names

/-- Names in the order of their code points, each once. -/
def sortNames (names : List String) : List String :=
  names.eraseDups.mergeSort (fun a b => decide (a ≤ b))

namespace Registry

/-! ## Looking up -/

/-- The value of a constant. -/
def constant? (r : Registry) (name : String) : Option Float :=
  r.constants.lookup name

/-- The function of a name. -/
def function? (r : Registry) (name : String) : Option Function :=
  r.functions.find? (·.name = name)

/-- The value of a name that is known to be a constant. -/
def constantNamed (r : Registry) (name : String) : Except Fault Float :=
  match r.constant? name with
  | some value => .ok value
  | none => .error (.missingEntry name)

/-- The function of a name that is known to be one. -/
def functionNamed (r : Registry) (name : String) : Except Fault Function :=
  match r.function? name with
  | some f => .ok f
  | none => .error (.missingEntry name)

/-- Whether a name is a constant. -/
def isConstant (r : Registry) (name : String) : Bool :=
  (r.constants.map Prod.fst).contains name

/-- Whether a name is a function. -/
def isFunction (r : Registry) (name : String) : Bool :=
  (r.functions.map Function.name).contains name

/-- Whether a name is taken. -/
def isRegistered (r : Registry) (name : String) : Bool :=
  r.isConstant name || r.isFunction name

/-- A constant is a name that has a value. -/
theorem isSome_constant? (r : Registry) (name : String) :
    (r.constant? name).isSome = r.isConstant name := by
  unfold constant? isConstant
  induction r.constants with
  | nil => rfl
  | cons entry rest ih =>
      rw [List.lookup_cons, List.map_cons, List.contains_cons]
      cases h : name == entry.1 with
      | true => simp
      | false => simpa using ih

/-- A function is a name under which one is found. -/
theorem isSome_function? (r : Registry) (name : String) :
    (r.function? name).isSome = r.isFunction name := by
  unfold function? isFunction
  induction r.functions with
  | nil => rfl
  | cons f rest ih =>
      rw [List.find?_cons, List.map_cons, List.contains_cons]
      by_cases h : f.name = name
      · simp [h]
      · have hne : (name == f.name) = false := beq_eq_false_iff_ne.mpr (Ne.symm h)
        simp only [h, decide_false, hne, Bool.false_or]
        exact ih

/-- The names of the constants, in order. -/
def constantNames (r : Registry) : List String :=
  sortNames (r.constants.map Prod.fst)

/-- The names of the functions, in order. -/
def functionNames (r : Registry) : List String :=
  sortNames (r.functions.map Function.name)

/-- A name is not a constant and a function at once. -/
theorem not_isFunction_of_isConstant {r : Registry} {name : String} (h : r.isConstant name = true) :
    r.isFunction name = false := by
  have hmem : name ∈ r.constants.map Prod.fst := by simpa [isConstant] using h
  simpa [isFunction] using r.disjoint name hmem

/-! ## Building -/

/-- The registry of two tables, unless they share a name. -/
def ofTables (constants : List (String × Float)) (functions : List Function) :
    Except NameClash Registry :=
  if h : (constants.map Prod.fst).filter (· ∈ functions.map Function.name) = [] then
    .ok ⟨constants, functions, fun name hname hmem =>
      (List.filter_eq_nil_iff.mp h) name hname (by simpa using hmem)⟩
  else
    .error (.bothKinds
      (sortNames ((constants.map Prod.fst).filter (· ∈ functions.map Function.name))))

/-- The registry with further constants, unless one of their names is taken. The values are doubles:
whoever has a whole number converts it before, as `Double.ofInt?` does, and there it is refused if no
double comes near it. -/
def withConstants (r : Registry) (extra : List (String × Float)) : Except NameClash Registry :=
  if h : (extra.map Prod.fst).filter r.isRegistered = [] then
    .ok
      { constants := r.constants ++ extra
        functions := r.functions
        disjoint := by
          intro name hname hmem
          rw [List.map_append, List.mem_append] at hname
          rcases hname with hold | hnew
          · exact r.disjoint name hold hmem
          · have hfree := (List.filter_eq_nil_iff.mp h) name hnew
            exact hfree (by simp only [isRegistered, isFunction, List.contains_eq_mem,
              Bool.or_eq_true, decide_eq_true_eq]; exact Or.inr hmem) }
  else .error (.alreadyRegistered (sortNames ((extra.map Prod.fst).filter r.isRegistered)))

end Registry

end Calculator
