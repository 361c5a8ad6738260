import Calculator.Proofs.Registry.Extensions

/-!
# Look-ups in a larger registry

Further constants are taken exactly when none of their names is registered (`Registry.Admits`), and
the larger registry has the two tables of the smaller one with the constants added at the end
(`Registry.withConstants_eq_ok_iff`). So it looks up the new names among the new constants and every
other name as before, and what the smaller registry knows keeps its meaning
(`Registry.extends_withConstants`).
-/

set_option autoImplicit false

namespace Calculator

/-! ## Names in order -/

/-- Dropping the later copies of a name leaves each name once. -/
theorem nodup_eraseDups (names : List String) : names.eraseDups.Nodup := by
  match names with
  | [] => exact List.nodup_nil
  | name :: rest =>
      rw [List.eraseDups_cons, List.nodup_cons]
      refine ⟨?_, nodup_eraseDups _⟩
      rw [List.mem_eraseDups]
      simp
termination_by names.length
decreasing_by
  have hle := List.length_filter_le (fun b => !b == name) rest
  simp only [List.length_cons]
  omega

/-- The names with a property, each once, in ascending order. -/
structure ListsInOrder (names : List String) (p : String → Prop) : Prop where
  ascending : names.Pairwise (· < ·)
  mem_iff : ∀ name, name ∈ names ↔ p name

theorem listsInOrder_sortNames (names : List String) :
    ListsInOrder (sortNames names) (· ∈ names) where
  mem_iff name := by rw [sortNames, List.mem_mergeSort, List.mem_eraseDups]
  ascending := by
    have htrans : ∀ a b c : String, decide (a ≤ b) = true → decide (b ≤ c) = true →
        decide (a ≤ c) = true := fun a b c hab hbc =>
      decide_eq_true (String.le_trans (of_decide_eq_true hab) (of_decide_eq_true hbc))
    have htotal : ∀ a b : String, (decide (a ≤ b) || decide (b ≤ a)) = true :=
      fun a b => by simpa using String.le_total a b
    have hle := List.pairwise_mergeSort htrans htotal names.eraseDups
    have hne : (sortNames names).Nodup :=
      (List.mergeSort_perm _ _).nodup_iff.mpr (nodup_eraseDups names)
    refine (hle.and hne).imp fun {a b} hab => ?_
    -- a name that is not above another one and differs from it stands below it
    refine String.not_le.mp fun hba => hab.2 ?_
    exact String.le_antisymm (of_decide_eq_true hab.1) hba

/-- The names of a list for which a test holds, in order. -/
theorem listsInOrder_filter (names : List String) (test : String → Bool) :
    ListsInOrder (sortNames (names.filter test)) fun name => name ∈ names ∧ test name = true where
  ascending := (listsInOrder_sortNames _).ascending
  mem_iff name := by rw [(listsInOrder_sortNames _).mem_iff, List.mem_filter]

theorem sortNames_ne_nil {names : List String} (h : names ≠ []) : sortNames names ≠ [] := by
  obtain ⟨name, hname⟩ := List.exists_mem_of_ne_nil names h
  exact List.ne_nil_of_mem (((listsInOrder_sortNames names).mem_iff name).mpr hname)

/-! ## Tables -/

/-- A name that no entry of a table has is not found in it. -/
theorem lookup_eq_none_of_not_mem {table : List (String × Float)} {name : String}
    (h : name ∉ table.map Prod.fst) : table.lookup name = none := by
  rw [List.lookup_eq_none_iff]
  intro entry hentry
  refine bne_iff_ne.mpr fun heq => h ?_
  exact List.mem_map.mpr ⟨entry, hentry, heq.symm⟩

/-- An entry of a table without repeated names is found under its name. -/
theorem lookup_eq_some_of_mem {table : List (String × Float)} {entry : String × Float}
    (hnodup : (table.map Prod.fst).Nodup) (h : entry ∈ table) :
    table.lookup entry.1 = some entry.2 := by
  obtain ⟨before, after, rfl⟩ := List.append_of_mem h
  rw [List.map_append, List.nodup_append] at hnodup
  refine List.lookup_eq_some_iff.mpr ⟨before, after, rfl, ?_⟩
  intro earlier hearlier
  refine bne_iff_ne.mpr fun heq => ?_
  exact hnodup.2.2 earlier.1 (List.mem_map_of_mem hearlier) entry.1 (by simp) heq.symm

namespace Registry

variable {r larger : Registry} {name : String} {extra : List (String × Float)}

theorem isConstant_iff_mem : r.isConstant name = true ↔ name ∈ r.constants.map Prod.fst := by
  rw [isConstant, List.contains_iff_mem]

theorem isFunction_iff_mem : r.isFunction name = true ↔ name ∈ r.functions.map Function.name := by
  rw [isFunction, List.contains_iff_mem]

theorem isRegistered_iff :
    r.isRegistered name = true ↔ r.isConstant name = true ∨ r.isFunction name = true := by
  rw [isRegistered, Bool.or_eq_true]

/-- A function is no constant. -/
theorem not_isConstant_of_isFunction (h : r.isFunction name = true) :
    ¬ r.isConstant name = true := by
  intro hconstant
  rw [not_isFunction_of_isConstant hconstant] at h
  cases h

/-- Two registries with the same tables are the same. -/
theorem eq_of_tables {s : Registry} (hconstants : r.constants = s.constants)
    (hfunctions : r.functions = s.functions) : r = s := by
  cases r
  cases s
  cases hconstants
  cases hfunctions
  rfl

/-! ## Further constants -/

/-- None of the constants has a name that is taken. -/
def Admits (r : Registry) (extra : List (String × Float)) : Prop :=
  ∀ name ∈ extra.map Prod.fst, r.isRegistered name = false

theorem admits_iff_filter : r.Admits extra ↔ (extra.map Prod.fst).filter r.isRegistered = [] := by
  simp only [Admits, List.filter_eq_nil_iff, Bool.not_eq_true]

/-- Constants are taken exactly when their names are free, and are added at the end of the table. -/
theorem withConstants_eq_ok_iff :
    r.withConstants extra = .ok larger ↔
      r.Admits extra ∧ larger.constants = r.constants ++ extra ∧
        larger.functions = r.functions := by
  unfold withConstants
  rw [admits_iff_filter]
  split
  · next hfree =>
      constructor
      · intro h
        cases h
        exact ⟨hfree, rfl, rfl⟩
      · rintro ⟨-, hconstants, hfunctions⟩
        exact congrArg Except.ok (eq_of_tables hconstants.symm hfunctions.symm)
  · next htaken =>
      constructor
      · intro h
        cases h
      · rintro ⟨hfree, -⟩
        exact absurd hfree htaken

/-- If a name is taken, the names that are taken are told in order. -/
theorem withConstants_eq_error (h : ¬ r.Admits extra) :
    r.withConstants extra =
      .error (.alreadyRegistered (sortNames ((extra.map Prod.fst).filter r.isRegistered))) := by
  unfold withConstants
  rw [dif_neg (fun hfree => h (admits_iff_filter.mpr hfree))]

theorem exists_withConstants (h : r.Admits extra) :
    ∃ larger, r.withConstants extra = .ok larger := by
  unfold withConstants
  rw [dif_pos (admits_iff_filter.mp h)]
  exact ⟨_, rfl⟩

/-- A name is looked up among the old constants first, and then among the new ones. -/
theorem constant?_withConstants (h : r.withConstants extra = .ok larger) (name : String) :
    larger.constant? name = (r.constant? name).or (extra.lookup name) := by
  obtain ⟨-, hconstants, -⟩ := withConstants_eq_ok_iff.mp h
  rw [constant?, hconstants, List.lookup_append]
  rfl

theorem function?_withConstants (h : r.withConstants extra = .ok larger) (name : String) :
    larger.function? name = r.function? name := by
  rw [function?, functions_withConstants h]
  rfl

/-- A name that is taken by neither kind is not found. -/
theorem not_found_of_not_registered (h : r.isRegistered name = false) :
    r.constant? name = none ∧ r.function? name = none := by
  obtain ⟨hconstant, hfunction⟩ := Bool.or_eq_false_iff.mp h
  rw [← isSome_constant?, Option.isSome_eq_false_iff, Option.isNone_iff_eq_none] at hconstant
  rw [← isSome_function?, Option.isSome_eq_false_iff, Option.isNone_iff_eq_none] at hfunction
  exact ⟨hconstant, hfunction⟩

/-- With further constants, every name is taken that was, and every new one. -/
theorem isRegistered_withConstants (h : r.withConstants extra = .ok larger) :
    larger.isRegistered name = true ↔
      r.isRegistered name = true ∨ name ∈ extra.map Prod.fst := by
  obtain ⟨-, hconstants, hfunctions⟩ := withConstants_eq_ok_iff.mp h
  rw [isRegistered_iff, isRegistered_iff, isConstant_iff_mem, isConstant_iff_mem,
    isFunction_iff_mem, isFunction_iff_mem, hconstants, hfunctions, List.map_append,
    List.mem_append, or_right_comm]

/-! ## What a larger registry keeps -/

/-- The larger registry knows all that the other one knows, and as the same. -/
structure Extends (larger r : Registry) : Prop where
  constant : ∀ name value, r.constant? name = some value → larger.constant? name = some value
  function : ∀ name f, r.function? name = some f → larger.function? name = some f

theorem Extends.refl (r : Registry) : r.Extends r := ⟨fun _ _ h => h, fun _ _ h => h⟩

theorem extends_withConstants (h : r.withConstants extra = .ok larger) : larger.Extends r where
  constant name value hvalue := by rw [constant?_withConstants h, hvalue, Option.some_or]
  function name f hf := by rw [function?_withConstants h, hf]

theorem Extends.isConstant (h : larger.Extends r) (hname : r.isConstant name = true) :
    larger.isConstant name = true := by
  rw [← isSome_constant?, Option.isSome_iff_exists] at hname ⊢
  obtain ⟨value, hvalue⟩ := hname
  exact ⟨value, h.constant name value hvalue⟩

theorem Extends.isFunction (h : larger.Extends r) (hname : r.isFunction name = true) :
    larger.isFunction name = true := by
  rw [← isSome_function?, Option.isSome_iff_exists] at hname ⊢
  obtain ⟨f, hf⟩ := hname
  exact ⟨f, h.function name f hf⟩

end Registry

end Calculator
