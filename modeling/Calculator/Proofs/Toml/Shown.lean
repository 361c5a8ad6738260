import Calculator.Proofs.Results
import Calculator.Toml.Value

/-!
# Values that can be shown

A message shows a value that stands in the place of another. This fails if more values stand inside
each other in it than the stack has levels left, or if one of its whole numbers has too many digits,
and in no other case (`Value.exists_describe_iff`).
-/

set_option autoImplicit false

namespace Calculator.Toml

mutual

/-- How many values stand inside each other in a value, itself included. -/
def Value.levels : Value → Nat
  | .dateTime _ _ offset => offsetLevels offset
  | .array items => itemLevels items + 1
  | .table entries => entryLevels entries + 1
  | _ => 1

/-- The levels of the deepest of several values. -/
def itemLevels : List Value → Nat
  | [] => 0
  | v :: rest => max v.levels (itemLevels rest)

/-- The levels of the deepest value of several entries. -/
def entryLevels : List (String × Value) → Nat
  | [] => 0
  | (_, v) :: rest => max v.levels (entryLevels rest)

end

mutual

/-- The whole numbers in a value. -/
def Value.integers : Value → List Int
  | .integer n => [n]
  | .array items => itemIntegers items
  | .table entries => entryIntegers entries
  | _ => []

/-- The whole numbers in several values. -/
def itemIntegers : List Value → List Int
  | [] => []
  | v :: rest => v.integers ++ itemIntegers rest

/-- The whole numbers in the values of several entries. -/
def entryIntegers : List (String × Value) → List Int
  | [] => []
  | (_, v) :: rest => v.integers ++ entryIntegers rest

end

theorem Value.levels_pos (v : Value) : 0 < v.levels := by
  cases v with
  | dateTime d t offset =>
      unfold Value.levels offsetLevels
      split
      · decide
      · split <;> decide
  | _ => simp [Value.levels]

mutual

/-- A value is shown exactly if the stack has levels enough for it, and all its whole numbers can be
written. -/
theorem Value.exists_describe_iff (v : Value) (levels : Nat) :
    (∃ text, v.describe levels = .ok text) ↔
      v.levels ≤ levels ∧ ∀ n ∈ v.integers, isTooLong n = false := by
  -- the values inside an array or a table are shown with one level less
  cases levels with
  | zero =>
      have hpos := v.levels_pos
      refine iff_of_false ?_ (by omega)
      rintro ⟨text, h⟩
      cases v <;> cases h
  | succ levels =>
      cases v with
      | integer n => simp [Value.describe, Value.levels, Value.integers, exists_writeInt_iff]
      | dateTime d t offset =>
          rw [Value.describe, Value.levels]
          split
          · next hoffset => exact iff_of_false (fun ⟨_, h⟩ => by cases h) fun h => by omega
          · next hoffset =>
              exact iff_of_true ⟨_, rfl⟩ ⟨Nat.not_lt.mp hoffset, List.forall_mem_nil _⟩
      | array items =>
          rw [Value.describe, Value.levels, Value.integers, Nat.add_le_add_iff_right,
            ← exists_describeItems_iff items levels]
          exact exists_bind_pure_iff
      | table entries =>
          rw [Value.describe, Value.levels, Value.integers, Nat.add_le_add_iff_right,
            ← exists_describeEntries_iff entries levels]
          exact exists_bind_pure_iff
      | _ => simp [Value.describe, Value.levels, Value.integers]

theorem exists_describeItems_iff (items : List Value) (levels : Nat) :
    (∃ texts, describeItems items levels = .ok texts) ↔
      itemLevels items ≤ levels ∧ ∀ n ∈ itemIntegers items, isTooLong n = false := by
  cases items with
  | nil => simp [describeItems, itemLevels, itemIntegers]
  | cons v rest =>
      have hparts := and_congr (v.exists_describe_iff levels) (exists_describeItems_iff rest levels)
      rw [and_and_and_comm] at hparts
      rw [itemLevels, itemIntegers, Nat.max_le, List.forall_mem_append, ← hparts, describeItems]
      exact exists_bind_pair_iff

theorem exists_describeEntries_iff (entries : List (String × Value)) (levels : Nat) :
    (∃ texts, describeEntries entries levels = .ok texts) ↔
      entryLevels entries ≤ levels ∧ ∀ n ∈ entryIntegers entries, isTooLong n = false := by
  cases entries with
  | nil => simp [describeEntries, entryLevels, entryIntegers]
  | cons entry rest =>
      obtain ⟨key, v⟩ := entry
      have hparts := and_congr (v.exists_describe_iff levels)
        (exists_describeEntries_iff rest levels)
      rw [and_and_and_comm] at hparts
      rw [entryLevels, entryIntegers, Nat.max_le, List.forall_mem_append, ← hparts,
        describeEntries]
      exact exists_bind_pair_iff

end

/-- A value that can be shown on so many levels of the stack. -/
structure Value.FitsOn (levels : Nat) (v : Value) : Prop where
  levels_le : v.levels ≤ levels
  isWritten : ∀ n ∈ v.integers, isTooLong n = false

theorem Value.fitsOn_iff {v : Value} {levels : Nat} :
    v.FitsOn levels ↔ ∃ text, v.describe levels = .ok text :=
  ⟨fun h => (v.exists_describe_iff levels).mpr ⟨h.levels_le, h.isWritten⟩,
    fun h => ⟨((v.exists_describe_iff levels).mp h).1, ((v.exists_describe_iff levels).mp h).2⟩⟩

end Calculator.Toml
