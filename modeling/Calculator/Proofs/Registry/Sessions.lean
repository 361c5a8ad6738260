import Calculator.Proofs.Registry.Lookups
import Calculator.Registry.Session

/-!
# Sessions of registries

A session only grows: a step either adds the registry that it builds at the end, or it is refused
and leaves the session as it is (`Session.outcome`). Which of the two it is depends on the names that
stand in the way of the step (`Session.Clashes`), and a refusal tells all of these. Hence a registry,
once built, answers every look-up alike for the rest of the session (`Session.get_run`). Two tables
of constants without a common name can be added in either order, or at once
(`Registry.addsInAnyOrder`).
-/

set_option autoImplicit false

namespace Calculator

/-! ## Tables of their own -/

namespace Registry

variable {r larger : Registry} {constants extra : List (String × Float)}
  {functions : List Function}

/-- Two tables are a registry exactly when they share no name. -/
theorem ofTables_eq_ok_iff :
    ofTables constants functions = .ok r ↔
      (∀ name ∈ constants.map Prod.fst, name ∉ functions.map Function.name) ∧
        r.constants = constants ∧ r.functions = functions := by
  unfold ofTables
  split
  · next hnil =>
      constructor
      · intro h
        cases h
        refine ⟨fun name hname hmem => ?_, rfl, rfl⟩
        exact List.filter_eq_nil_iff.mp hnil name hname (by simpa using hmem)
      · rintro ⟨-, hconstants, hfunctions⟩
        exact congrArg Except.ok (eq_of_tables hconstants.symm hfunctions.symm)
  · next hshared =>
      constructor
      · intro h
        cases h
      · rintro ⟨hdisjoint, -⟩
        refine absurd (List.filter_eq_nil_iff.mpr fun name hname => ?_) hshared
        simpa using hdisjoint name hname

/-- What the larger registry has passes the check for fresh tables. -/
theorem ofTables_withConstants (h : r.withConstants extra = .ok larger) :
    ofTables (r.constants ++ extra) r.functions = .ok larger := by
  obtain ⟨-, hconstants, hfunctions⟩ := withConstants_eq_ok_iff.mp h
  rw [← hconstants, ← hfunctions]
  exact ofTables_eq_ok_iff.mpr ⟨larger.disjoint, rfl, rfl⟩

/-- A configuration without constants adds none to the built-in registry. -/
theorem configured_eq_withConstants (constants : List (String × Float)) :
    configured constants = Registry.builtin.withConstants constants := by
  unfold configured
  cases constants with
  | nil =>
      have hadmits : Registry.builtin.Admits [] := by
        rintro name ⟨⟩
      have hsame := withConstants_eq_ok_iff.mpr ⟨hadmits, (List.append_nil _).symm, rfl⟩
      exact hsame.symm
  | cons entry rest => rfl

/-- The larger registry looks up the new names among the new constants, where none is a function,
and every other name as the smaller one does; and its tables pass the check for fresh ones. -/
structure IsExtendedBy (larger r : Registry) (extra : List (String × Float)) : Prop where
  added : ∀ name value, extra.lookup name = some value →
    larger.constant? name = some value ∧ larger.function? name = none
  kept : ∀ name, extra.lookup name = none →
    larger.constant? name = r.constant? name ∧ larger.function? name = r.function? name
  tables : ofTables (r.constants ++ extra) r.functions = .ok larger

theorem isExtendedBy_withConstants (h : r.withConstants extra = .ok larger) :
    larger.IsExtendedBy r extra where
  added name value hvalue := by
    have hmem : name ∈ extra.map Prod.fst := by
      refine Decidable.byContradiction fun hname => ?_
      rw [lookup_eq_none_of_not_mem hname] at hvalue
      cases hvalue
    have hfree : r.isRegistered name = false := (withConstants_eq_ok_iff.mp h).1 name hmem
    obtain ⟨hconstant, hfunction⟩ := not_found_of_not_registered hfree
    rw [constant?_withConstants h, function?_withConstants h, hconstant, hfunction, hvalue]
    exact ⟨rfl, rfl⟩
  kept name hnone := by
    rw [constant?_withConstants h, function?_withConstants h, hnone, Option.or_none]
    exact ⟨rfl, rfl⟩
  tables := ofTables_withConstants h

end Registry

/-! ## One step -/

namespace Session

/-- The names that stand in the way of a step: names of both tables, or new names that are taken. -/
def Clashes (s : Session) : RegistryStep → String → Prop
  | .fresh constants functions, name =>
      name ∈ constants.map Prod.fst ∧ name ∈ functions.map Function.name
  | .extend base extra, name => name ∈ extra.map Prod.fst ∧ (s.get base).isRegistered name = true
  | .configure constants, name =>
      name ∈ constants.map Prod.fst ∧ Registry.builtin.isRegistered name = true

/-- What the registry that a step builds is to answer. -/
def Answers (s : Session) : RegistryStep → Registry → Prop
  | .fresh constants functions, r => ∀ name,
      r.constant? name = constants.lookup name ∧ r.function? name = functions.find? (·.name = name)
  | .extend base extra, r => r.IsExtendedBy (s.get base) extra
  | .configure constants, r => r.IsExtendedBy Registry.builtin constants

/-- How the refusal of a step begins. -/
def refusal : RegistryStep → String
  | .fresh _ _ => "Names registered as both constant and function: "
  | .extend _ _ => "Names already registered: "
  | .configure _ => "Names already registered: "

/-- What becomes of a step. -/
inductive Outcome (s : Session) (step : RegistryStep) : Prop
  /-- No name stands in its way, and the session grows by a registry that answers as it should. -/
  | built {r : Registry} : s.build step = .ok r → (∀ name, ¬ s.Clashes step name) →
      s.Answers step r → s.advance step = s ++ [r] → Outcome s step
  /-- Names stand in its way; all are told, in order, and the session stays as it is. -/
  | refused {clash : NameClash} {names : List String} : s.build step = .error clash →
      names ≠ [] → ListsInOrder names (s.Clashes step) →
      clash.message = refusal step ++ quotedList names → s.advance step = s → Outcome s step

variable {s : Session} {step : RegistryStep}

theorem advance_of_ok {r : Registry} (h : s.build step = .ok r) : s.advance step = s ++ [r] := by
  rw [advance, h]

theorem advance_of_error {clash : NameClash} (h : s.build step = .error clash) :
    s.advance step = s := by
  rw [advance, h]

/-- Constants for a registry are taken if their names are free, and else the others are told. -/
theorem outcome_withConstants {r : Registry} {extra : List (String × Float)}
    (hbuild : s.build step = r.withConstants extra)
    (hclashes : s.Clashes step =
      fun name => name ∈ extra.map Prod.fst ∧ r.isRegistered name = true)
    (hanswers : ∀ larger : Registry, larger.IsExtendedBy r extra → s.Answers step larger)
    (hrefusal : refusal step = "Names already registered: ") : s.Outcome step := by
  by_cases hadmits : r.Admits extra
  · obtain ⟨larger, hlarger⟩ := Registry.exists_withConstants hadmits
    rw [hlarger] at hbuild
    refine .built hbuild (fun name hname => ?_)
      (hanswers larger (Registry.isExtendedBy_withConstants hlarger)) (advance_of_ok hbuild)
    rw [hclashes] at hname
    have hfree := hadmits name hname.1
    rw [hname.2] at hfree
    cases hfree
  · rw [Registry.withConstants_eq_error hadmits] at hbuild
    have hne : (extra.map Prod.fst).filter r.isRegistered ≠ [] :=
      fun hnil => hadmits (Registry.admits_iff_filter.mpr hnil)
    refine .refused hbuild (sortNames_ne_nil hne) ?_ ?_ (advance_of_error hbuild)
    · rw [hclashes]
      exact listsInOrder_filter _ _
    · rw [hrefusal]
      rfl

/-- A step is refused exactly when names stand in its way, and these are told. -/
theorem outcome (s : Session) (step : RegistryStep) : s.Outcome step := by
  cases step with
  | fresh constants functions =>
      cases hbuild : Registry.ofTables constants functions with
      | ok r =>
          obtain ⟨hdisjoint, hconstants, hfunctions⟩ := Registry.ofTables_eq_ok_iff.mp hbuild
          refine .built hbuild (fun name hname => hdisjoint name hname.1 hname.2) (fun name => ?_)
            (advance_of_ok hbuild)
          rw [Registry.constant?, Registry.function?, hconstants, hfunctions]
          exact ⟨rfl, rfl⟩
      | error clash =>
          have hclash := hbuild
          unfold Registry.ofTables at hclash
          split at hclash
          · cases hclash
          · next hne =>
              cases hclash
              refine .refused hbuild (sortNames_ne_nil hne) ?_ rfl (advance_of_error hbuild)
              have hlists := listsInOrder_filter (constants.map Prod.fst)
                (fun name => decide (name ∈ functions.map Function.name))
              simp only [decide_eq_true_eq] at hlists
              exact hlists
  | extend base extra => exact outcome_withConstants rfl rfl (fun _ h => h) rfl
  | configure constants =>
      exact outcome_withConstants (Registry.configured_eq_withConstants constants) rfl
        (fun _ h => h) rfl

/-! ## Runs -/

theorem prefix_advance (s : Session) (step : RegistryStep) : s <+: s.advance step := by
  cases s.outcome step with
  | @built r _ _ _ hadvance => exact ⟨[r], hadvance.symm⟩
  | refused _ _ _ _ hadvance => exact ⟨[], by rw [hadvance, List.append_nil]⟩

/-- A session only grows at its end. -/
theorem prefix_run (s : Session) (steps : List RegistryStep) : s <+: s.run steps := by
  induction steps generalizing s with
  | nil => exact List.prefix_refl s
  | cons step steps ih => exact (prefix_advance s step).trans (ih (s.advance step))

/-- A registry that has been built keeps its number, whatever steps follow. -/
theorem get_run {number : Nat} (hnumber : number < s.length) (steps : List RegistryStep) :
    (s.run steps).get number = s.get number := by
  obtain ⟨later, hlater⟩ := prefix_run s steps
  rw [get, get, ← hlater, List.getD_eq_getElem?_getD, List.getElem?_append_left hnumber,
    ← List.getD_eq_getElem?_getD]

end Session

/-! ## Two tables of constants -/

namespace Registry

variable {r : Registry} {a b : List (String × Float)}

/-- Two registries answer every look-up alike. -/
def Agrees (r s : Registry) : Prop :=
  ∀ name, r.constant? name = s.constant? name ∧ r.function? name = s.function? name

/-- The three ways of adding two tables: in order, in the other order, and at once. -/
def additions (r : Registry) (a b : List (String × Float)) : List (Except NameClash Registry) :=
  [(r.withConstants a).bind (·.withConstants b), (r.withConstants b).bind (·.withConstants a),
    r.withConstants (a ++ b)]

theorem exists_error {way : Except NameClash Registry} (h : ∀ larger, way ≠ .ok larger) :
    ∃ clash, way = .error clash := by
  cases way with
  | error clash => exact ⟨clash, rfl⟩
  | ok larger => exact absurd rfl (h larger)

theorem admits_append : r.Admits (a ++ b) ↔ r.Admits a ∧ r.Admits b := by
  simp only [Admits, List.map_append, List.mem_append, or_imp, forall_and]

/-- Two tables without a common name are taken one after the other as they are taken at once. -/
theorem withConstants_twice_iff (hdisjoint : ∀ name ∈ a.map Prod.fst, name ∉ b.map Prod.fst)
    {larger : Registry} :
    (r.withConstants a).bind (·.withConstants b) = .ok larger ↔
      r.withConstants (a ++ b) = .ok larger := by
  rw [withConstants_eq_ok_iff, admits_append]
  by_cases ha : r.Admits a
  · obtain ⟨middle, hmiddle⟩ := exists_withConstants ha
    obtain ⟨-, hconstants, hfunctions⟩ := withConstants_eq_ok_iff.mp hmiddle
    -- the first table takes no name that the second one needs
    have hadmits : middle.Admits b ↔ r.Admits b := by
      refine forall₂_congr fun name hname => ?_
      rw [← Bool.not_eq_true, ← Bool.not_eq_true, isRegistered_withConstants hmiddle,
        or_iff_left fun hfirst => hdisjoint name hfirst hname]
    rw [hmiddle]
    show middle.withConstants b = .ok larger ↔ _
    rw [withConstants_eq_ok_iff, hadmits, hconstants, hfunctions, List.append_assoc,
      and_iff_right ha]
  · rw [withConstants_eq_error ha]
    constructor
    · intro h
      cases h
    · rintro ⟨⟨ha', -⟩, -⟩
      exact absurd ha' ha

/-- The order of the tables matters to no look-up, as no name stands in both. -/
theorem agrees_of_swapped (hdisjoint : ∀ name ∈ a.map Prod.fst, name ∉ b.map Prod.fst)
    {s t : Registry} (hs : r.withConstants (a ++ b) = .ok s)
    (ht : r.withConstants (b ++ a) = .ok t) : t.Agrees s := by
  intro name
  rw [constant?_withConstants hs, constant?_withConstants ht, function?_withConstants hs,
    function?_withConstants ht, List.lookup_append, List.lookup_append]
  refine ⟨congrArg _ ?_, rfl⟩
  by_cases ha : name ∈ a.map Prod.fst
  · rw [lookup_eq_none_of_not_mem (hdisjoint name ha), Option.none_or, Option.or_none]
  · rw [lookup_eq_none_of_not_mem ha, Option.none_or, Option.or_none]

/-- Two tables without a common name are added to a registry in every way or in none, and all ways
lead to registries that answer alike. -/
theorem addsInAnyOrder (hdisjoint : ∀ name ∈ a.map Prod.fst, name ∉ b.map Prod.fst) :
    (∀ way ∈ r.additions a b, ∃ clash, way = .error clash) ∨
      ∃ s : Registry, ∀ way ∈ r.additions a b, ∃ larger, way = .ok larger ∧ larger.Agrees s := by
  have hdisjoint' : ∀ name ∈ b.map Prod.fst, name ∉ a.map Prod.fst :=
    fun name hb ha => hdisjoint name ha hb
  have hswap : r.Admits (b ++ a) ↔ r.Admits (a ++ b) := by
    rw [admits_append, admits_append, and_comm]
  simp only [additions, List.forall_mem_cons, List.not_mem_nil, false_implies, implies_true,
    and_true]
  by_cases hadmits : r.Admits (a ++ b)
  · right
    obtain ⟨s, hs⟩ := exists_withConstants hadmits
    obtain ⟨t, ht⟩ := exists_withConstants (hswap.mpr hadmits)
    refine ⟨s, ⟨s, ?_, fun _ => ⟨rfl, rfl⟩⟩, ⟨t, ?_, agrees_of_swapped hdisjoint hs ht⟩,
      ⟨s, hs, fun _ => ⟨rfl, rfl⟩⟩⟩
    · exact (withConstants_twice_iff hdisjoint).mpr hs
    · exact (withConstants_twice_iff hdisjoint').mpr ht
  · left
    have hrefused : ∀ larger, r.withConstants (a ++ b) ≠ .ok larger :=
      fun larger h => hadmits (withConstants_eq_ok_iff.mp h).1
    have hrefused' : ∀ larger, r.withConstants (b ++ a) ≠ .ok larger :=
      fun larger h => hadmits (hswap.mp (withConstants_eq_ok_iff.mp h).1)
    refine ⟨exists_error fun larger h => ?_, exists_error fun larger h => ?_,
      exists_error hrefused⟩
    · exact hrefused larger ((withConstants_twice_iff hdisjoint).mp h)
    · exact hrefused' larger ((withConstants_twice_iff hdisjoint').mp h)

end Registry

/-! ## Whole sessions -/

/-- Whatever steps a session has taken, no name is both a constant and a function in any of its
registries; the next step adds a registry that answers as it should, or is refused with all names
that stand in its way and changes nothing; and every registry keeps its number and its answers,
whatever steps follow. Two tables of constants without a common name can be added to a registry in
every way or in none, with the same answers. -/
theorem Session.built_or_refused (steps : List RegistryStep) :
    let s := Session.start.run steps
    (∀ r ∈ s, ∀ name, ¬ (r.isConstant name = true ∧ r.isFunction name = true)) ∧
    (∀ step, s.Outcome step) ∧
    (∀ number, number < s.length → ∀ more, (s.run more).get number = s.get number) ∧
    ∀ (r : Registry) (a b : List (String × Float)),
      (∀ name ∈ a.map Prod.fst, name ∉ b.map Prod.fst) →
      (∀ way ∈ r.additions a b, ∃ clash, way = .error clash) ∨
        ∃ t : Registry, ∀ way ∈ r.additions a b, ∃ larger, way = .ok larger ∧ larger.Agrees t := by
  intro s
  exact ⟨fun r _ name hname => Registry.not_isConstant_of_isFunction hname.2 hname.1, s.outcome,
    fun number hnumber more => get_run hnumber more,
    fun r a b hdisjoint => Registry.addsInAnyOrder hdisjoint⟩

/-- A session with two refusals: a constant that has been added cannot be added again, nor can the
name of a built-in function. Its second registry stays, and takes two further tables in any
order. -/
theorem Session.second_registry_stays :
    let s := Session.start.run [.extend 0 [("tau", 6.25)], .extend 1 [("tau", 1.0), ("g", 9.75)],
      .configure [("sin", 0.5)], .configure [("g", 9.75)]]
    let a := [("g", 9.75), ("h", 0.5)]
    let b := [("k", 2.0)]
    s.length = 3 ∧ 1 < s.length ∧ (s.run [.extend 1 a]).get 1 = s.get 1 ∧
      (∀ name ∈ a.map Prod.fst, name ∉ b.map Prod.fst) ∧
      ((∀ way ∈ (s.get 1).additions a b, ∃ clash, way = .error clash) ∨
        ∃ t : Registry, ∀ way ∈ (s.get 1).additions a b,
          ∃ larger, way = .ok larger ∧ larger.Agrees t) := by
  intro s a b
  have hlength : s.length = 3 := by decide +kernel
  have hnumber : 1 < s.length := by rw [hlength]; decide
  have hdisjoint : ∀ name ∈ a.map Prod.fst, name ∉ b.map Prod.fst := by decide
  obtain ⟨-, -, hstays, horder⟩ := Session.built_or_refused
    [.extend 0 [("tau", 6.25)], .extend 1 [("tau", 1.0), ("g", 9.75)],
      .configure [("sin", 0.5)], .configure [("g", 9.75)]]
  exact ⟨hlength, hnumber, hstays 1 hnumber _, hdisjoint, horder _ a b hdisjoint⟩

end Calculator
