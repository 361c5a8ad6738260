import Calculator.Calculation
import Calculator.Proofs.Grammar.Completeness
import Calculator.Proofs.Grammar.DraftOutline
import Calculator.Registry.Builtin

/-!
# Where nesting becomes too deep

`Scan.openings` lists the levels that a run without a limit opens, in order, each with its number
counted from the outside and with the position of the token after its opener. A level counts only
when that token, or the end of the input, has been found. `Scan.mostLevels` is the largest of their
numbers, the number of levels that are open at once.

The openings decide what a limit does. While no more levels are open than it admits, a limit
changes nothing, and the first level with the next number is refused where it is found
(`Draft.readWith_step`). Levels are opened one at a time, so that a run that opens more than that
does open the one with the next number (`Outline.exists_find?_openings`).
-/

set_option autoImplicit false

namespace Calculator

variable {host : Host}

/-! ## Openings -/

/-- A level that is opened. -/
structure Opening where
  /-- How many levels are open with it. -/
  number : Nat
  /-- The position of the token after its opener. -/
  next : Nat
deriving DecidableEq, Repr

/-- Where the next token stands, or the end of the input, unless there is a fault instead. -/
def nextPosition? (stop : Stop) : List Token → Option Nat
  | t :: _ => some t.pos
  | [] =>
      match stop with
      | .endOfInput pos => some pos
      | .fault _ => none

namespace Outline

/-- The level that is opened between two outlines, if there is one and something is found after
it. -/
def opening? (o after : Outline) (next : Option Nat) : Option Opening :=
  if o.levels.length < after.levels.length then next.map fun pos => ⟨after.levels.length, pos⟩
  else none

/-- The levels that a run without a limit opens, up to the end of the tokens or the first that is
refused. -/
def openings (conventional : Bool) (stop : Stop) : Outline → List Token → List Opening
  | _, [] => []
  | o, t :: rest =>
      match o.advance conventional t with
      | .error _ => []
      | .ok after =>
          (o.opening? after (nextPosition? stop rest)).toList ++
            openings conventional stop after rest

end Outline

/-- The levels that are opened when a scan is read without a limit. -/
def Scan.openings (conventional : Bool) (s : Scan) : List Opening :=
  Outline.start.openings conventional s.stop s.tokens

/-- The largest number of levels that are open at once when a scan is read without a limit. -/
def Scan.mostLevels (conventional : Bool) (s : Scan) : Nat :=
  mostOf ((s.openings conventional).map Opening.number)

theorem Scan.mostLevels_le_iff {conventional : Bool} {s : Scan} {n : Nat} :
    s.mostLevels conventional ≤ n ↔ ∀ opening ∈ s.openings conventional, opening.number ≤ n := by
  rw [mostLevels, mostOf_le_iff, List.forall_mem_map]

namespace Outline

variable {conventional : Bool} {stop : Stop} {n : Nat}

theorem opening?_eq_some_iff {o after : Outline} {next : Option Nat} {opening : Opening} :
    o.opening? after next = some opening ↔
      o.levels.length < after.levels.length ∧ opening.number = after.levels.length ∧
        next = some opening.next := by
  unfold opening?
  constructor
  · intro h
    split at h
    · next hopens =>
        obtain ⟨pos, hnext, rfl⟩ := Option.map_eq_some_iff.mp h
        exact ⟨hopens, rfl, hnext⟩
    · cases h
  · rintro ⟨hopens, hnumber, rfl⟩
    rw [if_pos hopens, ← hnumber]
    rfl

/-- One token opens one level at most. -/
theorem length_levels_advance_le {o after : Outline} {t : Token}
    (h : o.advance conventional t = .ok after) :
    after.levels.length ≤ o.levels.length + 1 := by
  rcases levels_advance h with ⟨level, hlevels, -⟩ | hlevels
  · rw [hlevels]
    exact Nat.le_refl _
  · exact Nat.le_succ_of_le hlevels.length_le

/-- A level that is not the one looked for is passed over. -/
theorem find?_opening?_within {o after : Outline} {next : Option Nat}
    (h : after.levels.length ≤ n) (rest : List Opening) :
    ((o.opening? after next).toList ++ rest).find? (fun opening => opening.number = n + 1) =
      rest.find? fun opening => opening.number = n + 1 := by
  cases hopening : o.opening? after next with
  | none => rfl
  | some opening =>
      have hnumber := (opening?_eq_some_iff.mp hopening).2.1
      have hne : ¬ opening.number = n + 1 := by omega
      simp [hne]

/-- The first level beyond these is found where the next token stands, or the end of the input. -/
theorem find?_opening?_beyond {o after : Outline} (ho : o.levels.length ≤ n)
    (hafter : after.levels.length = n + 1) (rest : List Token) :
    ((o.opening? after (nextPosition? stop rest)).toList ++
        openings conventional stop after rest).find? (fun opening => opening.number = n + 1) =
      (nextPosition? stop rest).map fun pos => ⟨n + 1, pos⟩ := by
  have hopens : o.levels.length < after.levels.length := by omega
  rw [opening?, if_pos hopens, hafter]
  cases rest with
  | cons t rest => simp [nextPosition?]
  | nil =>
      cases stop with
      | endOfInput pos => simp [nextPosition?]
      | fault fault => rfl

/-- A run that comes to more levels than these opens the first one beyond them. -/
theorem exists_find?_openings {o : Outline} {ts : List Token} (h : o.levels.length ≤ n)
    {opening : Opening} (hmem : opening ∈ o.openings conventional stop ts)
    (hnumber : n < opening.number) :
    ∃ first, (o.openings conventional stop ts).find? (fun opening => opening.number = n + 1) =
      some first := by
  -- along the run, as long as the levels stay within these; they grow by one at a time
  induction ts generalizing o with
  | nil => cases hmem
  | cons t rest ih =>
      rw [openings] at hmem ⊢
      cases ht : o.advance conventional t with
      | error fault => rw [ht] at hmem; cases hmem
      | ok after =>
          rw [ht] at hmem
          have hone := length_levels_advance_le ht
          rcases Nat.lt_or_ge n after.levels.length with hbeyond | hwithin
          · have hafter : after.levels.length = n + 1 := by omega
            cases rest with
            | cons u us => exact ⟨_, find?_opening?_beyond h hafter (u :: us)⟩
            | nil =>
                -- nothing opens a level after the last token, so that this one is what counts
                cases stop with
                | endOfInput pos => exact ⟨_, find?_opening?_beyond h hafter []⟩
                | fault fault => simp [openings, opening?, nextPosition?] at hmem
          · simp only [find?_opening?_within hwithin]
            rcases List.mem_append.mp hmem with hfirst | hrest
            · have := (opening?_eq_some_iff.mp (Option.mem_toList.mp hfirst)).2.1
              omega
            · exact ih hwithin hrest

end Outline

/-- The first level beyond these is opened exactly when more than these are open at once. -/
theorem Scan.exists_find?_openings_iff {conventional : Bool} {s : Scan} {n : Nat} :
    (∃ first, (s.openings conventional).find? (fun opening => opening.number = n + 1) =
      some first) ↔ n < s.mostLevels conventional := by
  constructor
  · rintro ⟨first, hfirst⟩
    have hnumber : first.number = n + 1 := by simpa using List.find?_some hfirst
    have hmost := mostLevels_le_iff.mp (Nat.le_refl _) first (List.mem_of_find?_eq_some hfirst)
    omega
  · intro h
    cases hfind : (s.openings conventional).find? fun opening => opening.number = n + 1 with
    | some first => exact ⟨first, rfl⟩
    | none =>
        have hall : ∀ opening ∈ s.openings conventional, opening.number ≤ n := by
          intro opening hmem
          refine Nat.not_lt.mp fun hnumber => ?_
          obtain ⟨first, hfirst⟩ := Outline.exists_find?_openings (Nat.zero_le n) hmem hnumber
          cases hfind.symm.trans hfirst
        exact absurd h (Nat.not_lt.mpr (mostLevels_le_iff.mpr hall))

/-! ## Runs under a limit -/

namespace Draft

/-- Read the tokens of a scan up to where it stopped, with a reader for one token and one for the
end of the input. -/
def readWith (step : Draft → Token → Except GrammarFault Draft)
    (finish : Draft → Nat → Except GrammarFault Expr) (stop : Stop) (s : Draft)
    (ts : List Token) : Except ParseError Expr :=
  match ts.foldlM step s with
  | .error fault => .error (.grammar fault)
  | .ok state =>
      match stop with
      | .fault fault => .error (.lexical fault)
      | .endOfInput pos => (finish state pos).mapError .grammar

theorem readWith_cons (step : Draft → Token → Except GrammarFault Draft)
    (finish : Draft → Nat → Except GrammarFault Expr) (stop : Stop) (s : Draft) (t : Token)
    (ts : List Token) :
    readWith step finish stop s (t :: ts) =
      match step s t with
      | .error fault => .error (.grammar fault)
      | .ok next => readWith step finish stop next ts := by
  rw [readWith, List.foldlM_cons]
  cases step s t <;> rfl

/-- Where an operand or an argument must begin, all levels count. -/
theorem awaitedLevels_of_expected {s : Draft}
    (h : s.outline.expected = .operand ∨ s.outline.expected = .arguments) :
    s.awaitedLevels = s.levels := by
  obtain ⟨pending, enclosing, focus⟩ := s
  cases focus with
  | operand => rfl
  | arguments name => rfl
  | callee name => simp [outline] at h
  | complete value => simp [outline] at h

theorem awaitedLevels_le (s : Draft) : s.awaitedLevels ≤ s.levels := by
  unfold awaitedLevels
  split
  · exact Nat.le_refl _
  · exact Nat.le_refl _
  · exact Nat.zero_le _

variable {rules : Rules}

/-- Where too many levels are open, reading ends with the next token or the end of the input. -/
theorem readWith_step_of_exceeds {s : Draft}
    (h : exceeds rules.nestingLimit s.awaitedLevels = true) (stop : Stop) (ts : List Token) :
    s.readWith (step rules) (finish rules) stop ts =
      match nextPosition? stop ts with
      | some pos => .error (.grammar ⟨.tooNested rules.nestingLimit, pos⟩)
      | none =>
          s.readWith (advance rules.conventionalPower) (conclude rules.conventionalPower) stop
            ts := by
  cases ts with
  | cons t rest =>
      rw [readWith_cons, step_eq, if_pos h]
      rfl
  | nil =>
      cases stop with
      | endOfInput pos =>
          show (s.finish rules pos).mapError ParseError.grammar = _
          rw [finish_eq, if_pos h]
          rfl
      | fault fault => rfl

/-- From a draft whose levels a limit admits, reading goes as without the limit unless one level
more is opened, and this level is refused where it is found. -/
theorem readWith_step {s : Draft} (hordered : s.IsOrdered)
    (hfits : s.levels ≤ rules.nestingLimit.toNat) (stop : Stop) (ts : List Token) :
    s.readWith (step rules) (finish rules) stop ts =
      match (s.outline.openings rules.conventionalPower stop ts).find? fun opening =>
          opening.number = rules.nestingLimit.toNat + 1 with
      | some opening => .error (.grammar ⟨.tooNested rules.nestingLimit, opening.next⟩)
      | none =>
          s.readWith (advance rules.conventionalPower) (conclude rules.conventionalPower) stop
            ts := by
  have hwithin := exceeds_eq_false_iff.mpr (Nat.le_trans s.awaitedLevels_le hfits)
  -- in front of each token the limit admits the levels of the draft
  induction ts generalizing s with
  | nil =>
      cases stop with
      | fault fault => rfl
      | endOfInput pos =>
          show (s.finish rules pos).mapError ParseError.grammar = _
          rw [finish_eq, hwithin]
          rfl
  | cons t rest ih =>
      have houtline := Draft.outline_advance rules.conventionalPower hordered t
      rw [readWith_cons, readWith_cons, step_eq, hwithin, Outline.openings, ← houtline]
      cases ht : s.advance rules.conventionalPower t with
      | error fault => rfl
      | ok next =>
          rw [ht] at houtline
          have hnow := length_levels_outline s
          have hnext := length_levels_outline next
          simp only [Bool.false_eq_true, if_false, Except.map]
          rcases Outline.levels_advance houtline.symm with ⟨level, hlevels, hexpected⟩ | hlevels
          · have hopened : next.levels = s.levels + 1 := by
              rw [← hnext, hlevels, List.length_cons, hnow]
            rcases Nat.lt_or_ge rules.nestingLimit.toNat next.levels with hbeyond | hfits'
            · -- the first level beyond the limit: all depends on whether a token is found after it
              have hexceeds : exceeds rules.nestingLimit next.awaitedLevels = true := by
                rw [awaitedLevels_of_expected hexpected, exceeds_iff]
                exact hbeyond
              have hafter : next.outline.levels.length = rules.nestingLimit.toNat + 1 := by omega
              rw [readWith_step_of_exceeds hexceeds,
                Outline.find?_opening?_beyond (by omega) hafter]
              cases nextPosition? stop rest <;> rfl
            · rw [Outline.find?_opening?_within (by omega)]
              exact ih (hordered.advance ht) hfits'
                (exceeds_eq_false_iff.mpr (Nat.le_trans next.awaitedLevels_le hfits'))
          · -- nothing is opened, so that the limit still admits the levels
            have hfits' : next.levels ≤ rules.nestingLimit.toNat := by
              have hle := hlevels.length_le
              omega
            rw [Outline.find?_opening?_within (by omega)]
            exact ih (hordered.advance ht) hfits'
              (exceeds_eq_false_iff.mpr (Nat.le_trans next.awaitedLevels_le hfits'))

end Draft

namespace Scan

variable {s : Scan}

theorem parse_eq_find? (rules : Rules) (s : Scan) :
    s.parse rules =
      match (s.openings rules.conventionalPower).find? fun opening =>
          opening.number = rules.nestingLimit.toNat + 1 with
      | some opening => .error (.grammar ⟨.tooNested rules.nestingLimit, opening.next⟩)
      | none => s.read rules.conventionalPower :=
  Draft.readWith_step Draft.isOrdered_start (Nat.zero_le _) s.stop s.tokens

/-- A limit that admits all levels changes nothing. -/
theorem parse_of_mostLevels_le (rules : Rules)
    (h : s.mostLevels rules.conventionalPower ≤ rules.nestingLimit.toNat) :
    s.parse rules = s.read rules.conventionalPower := by
  rw [parse_eq_find?]
  split
  · next opening hfind =>
      exact absurd (exists_find?_openings_iff.mp ⟨opening, hfind⟩) (Nat.not_lt.mpr h)
  · rfl

/-- The first level beyond the limit is refused. -/
theorem parse_of_lt_mostLevels (rules : Rules)
    (h : rules.nestingLimit.toNat < s.mostLevels rules.conventionalPower) :
    ∃ opening, (s.openings rules.conventionalPower).find? (fun opening =>
        opening.number = rules.nestingLimit.toNat + 1) = some opening ∧
      s.parse rules = .error (.grammar ⟨.tooNested rules.nestingLimit, opening.next⟩) := by
  obtain ⟨opening, hfind⟩ := exists_find?_openings_iff.mpr h
  refine ⟨opening, hfind, ?_⟩
  rw [parse_eq_find?, hfind]

end Scan

/-! ## Sources -/

section Source

variable {registry : Registry} {settings : Settings} {source : String}

/-- The largest number of levels that are open at once when a source is read without a limit. -/
def sourceLevels (registry : Registry) (settings : Settings) (source : String) : Nat :=
  (Scan.ofSource ⟨registry, settings.nameLimit⟩ source).mostLevels settings.conventionalPower

/-- A source whose levels the limit and the capacity admit is read as without a limit. -/
theorem parse_of_sourceLevels_le
    (h : sourceLevels registry settings source ≤ (min settings.nestingLimit host.levels).toNat) :
    parse host registry settings source =
      (Scan.ofSource ⟨registry, settings.nameLimit⟩ source).read settings.conventionalPower := by
  by_cases hlimit : settings.nestingLimit ≤ host.levels
  · rw [Int.min_eq_left hlimit] at h
    rw [parse_eq_of_le_levels registry source hlimit]
    exact Scan.parse_of_mostLevels_le ⟨settings.conventionalPower, settings.nestingLimit⟩ h
  · have hcapacity : host.levels < settings.nestingLimit := Int.not_le.mp hlimit
    rw [Int.min_eq_right (Int.le_of_lt hcapacity)] at h
    rw [parse_eq_of_levels_lt registry source hcapacity,
      Scan.parse_of_mostLevels_le ⟨settings.conventionalPower, host.levels⟩ h]
    exact Scan.mapError_beyondCapacity_read _ _ _

/-- The first level beyond a limit under the capacity is refused. -/
theorem parse_of_lt_sourceLevels (hlimit : settings.nestingLimit ≤ host.levels)
    (h : settings.nestingLimit.toNat < sourceLevels registry settings source) :
    ∃ opening, ((Scan.ofSource ⟨registry, settings.nameLimit⟩ source).openings
        settings.conventionalPower).find? (fun opening =>
          opening.number = settings.nestingLimit.toNat + 1) = some opening ∧
      parse host registry settings source =
        .error (.grammar ⟨.tooNested settings.nestingLimit, opening.next⟩) := by
  obtain ⟨opening, hfind, hparse⟩ := Scan.parse_of_lt_mostLevels
    ⟨settings.conventionalPower, settings.nestingLimit⟩ h
  exact ⟨opening, hfind, (parse_eq_of_le_levels registry source hlimit).trans hparse⟩

/-- Beyond the capacity it is the capacity that refuses a source. -/
theorem parse_of_capacity_lt (hlimit : host.levels < settings.nestingLimit)
    (h : host.levels < sourceLevels registry settings source) :
    parse host registry settings source = .error (.tooDeep settings.nestingLimit) := by
  have hlevels : host.levels.toNat < sourceLevels registry settings source := by
    have hnonneg := host.levels_nonneg
    omega
  obtain ⟨opening, -, hparse⟩ := Scan.parse_of_lt_mostLevels
    ⟨settings.conventionalPower, host.levels⟩ hlevels
  rw [parse_eq_of_levels_lt registry source hlimit, hparse]
  rfl

/-- A source is not refused for its nesting when the limit and the capacity admit its levels. -/
theorem admitsNesting_iff :
    AdmitsNesting host registry settings source ↔
      sourceLevels registry settings source ≤ (min settings.nestingLimit host.levels).toNat := by
  constructor
  · intro hadmits
    refine Nat.not_lt.mp fun h => ?_
    by_cases hlimit : settings.nestingLimit ≤ host.levels
    · rw [Int.min_eq_left hlimit] at h
      obtain ⟨opening, -, hparse⟩ := parse_of_lt_sourceLevels hlimit h
      cases hadmits _ hparse
    · have hcapacity : host.levels < settings.nestingLimit := Int.not_le.mp hlimit
      rw [Int.min_eq_right (Int.le_of_lt hcapacity)] at h
      have hparse := parse_of_capacity_lt hcapacity (Int.lt_of_toNat_lt h)
      cases hadmits _ hparse
  · intro h cause herror
    rw [parse_of_sourceLevels_le h] at herror
    exact Scan.isNesting_of_read_eq_error herror

/-- A larger limit admits what a smaller one admits. -/
theorem AdmitsNesting.of_le (h : AdmitsNesting host registry settings source) {larger : Int}
    (hlarger : settings.nestingLimit ≤ larger) :
    AdmitsNesting host registry { settings with nestingLimit := larger } source := by
  have hlevels := admitsNesting_iff.mp h
  refine admitsNesting_iff.mpr (Nat.le_trans hlevels ?_)
  show (min settings.nestingLimit host.levels).toNat ≤ (min larger host.levels).toNat
  omega

end Source

end Calculator
