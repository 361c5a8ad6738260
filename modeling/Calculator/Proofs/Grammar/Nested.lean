import Calculator.Proofs.Grammar.Language

/-!
# Levels of derivations

`Nests conventional n phrase w e` is the grammar with a count: the phrase is derived, and `n` is the
largest number of levels that are open at once inside it. Every derivation has such a number
(`Derives.exists_nests`), and it is what a run finds: reading the phrase opens so many levels on top
of those that are open before (`Nests.opens`). So an expression is read under a limit exactly when
the limit admits its number (`Nests.parse_eq`).
-/

set_option autoImplicit false

namespace Calculator

variable {host : Host}

/-- The lexemes form a phrase of this kind with this tree, and so many levels are open at once in
it. -/
inductive Nests (conventional : Bool) : Nat → Phrase → List Lexeme → Expr → Prop
  | number (text : String) (value : Float) :
      Nests conventional 0 .factor [.number text value] (.number value)
  | constant (name : String) : Nests conventional 0 .factor [.constant name] (.constant name)
  | sign {n : Nat} {op : Operator} {sign : UnaryOp} {w : List Lexeme} {e : Expr} :
      op.sign? = some sign → Nests conventional n .factor w e →
      Nests conventional (n + 1) .factor (.operator op :: w) (.unary sign e)
  | group {n : Nat} {w : List Lexeme} {e : Expr} : Nests conventional n .expression w e →
      Nests conventional (n + 1) .factor (.leftParen :: (w ++ [.rightParen])) e
  | call (name : String) (arguments : List (Nat × List Lexeme × Expr)) :
      (∀ a ∈ arguments, Nests conventional a.1 .expression a.2.1 a.2.2) →
      Nests conventional (mostOf (arguments.map Prod.fst) + 1) .factor
        (.function name :: .leftParen ::
          ([.comma].intercalate ((arguments.map Prod.snd).map Prod.fst) ++ [.rightParen]))
        (.call name ((arguments.map Prod.snd).map Prod.snd))
  | base {n : Nat} {w : List Lexeme} {e : Expr} : Nests conventional n .factor w e →
      Nests conventional n .power w e
  | power {m n : Nat} {w v : List Lexeme} {base exponent : Expr} :
      Nests conventional m .factor w base → Nests conventional n .power v exponent →
      Nests conventional (max m (n + 1)) .power (w ++ .operator .power :: v)
        (.binary .pow base exponent)
  | operand {n : Nat} {w : List Lexeme} {e : Expr} :
      Nests conventional n (.operand conventional) w e → Nests conventional n .term w e
  | product {m n : Nat} {op : Operator} {operation : BinaryOp} {w v : List Lexeme}
      {left right : Expr} :
      op.product? conventional = some operation → Nests conventional m .term w left →
      Nests conventional n (.operand conventional) v right →
      Nests conventional (max m n) .term (w ++ .operator op :: v) (.binary operation left right)
  | term {n : Nat} {w : List Lexeme} {e : Expr} : Nests conventional n .term w e →
      Nests conventional n .expression w e
  | sum {m n : Nat} {op : Operator} {operation : BinaryOp} {w v : List Lexeme}
      {left right : Expr} :
      op.sum? = some operation → Nests conventional m .expression w left →
      Nests conventional n .term v right →
      Nests conventional (max m n) .expression (w ++ .operator op :: v)
        (.binary operation left right)

variable {conventional : Bool} {n : Nat} {phrase : Phrase} {w v : List Lexeme} {e : Expr}

/-- Without the count, the phrase is derived. -/
theorem Nests.derives (h : Nests conventional n phrase w e) : Derives conventional phrase w e := by
  induction h with
  | number text value => exact .number text value
  | constant name => exact .constant name
  | sign hop _ ih => exact .sign hop ih
  | group _ ih => exact .group ih
  | call name arguments _ ih =>
      refine .call name (arguments.map Prod.snd) fun a ha => ?_
      obtain ⟨b, hb, rfl⟩ := List.mem_map.mp ha
      exact ih b hb
  | base _ ih => exact .base ih
  | power _ _ ihbase ihexponent => exact .power ihbase ihexponent
  | operand _ ih => exact .operand ih
  | product hop _ _ ihleft ihright => exact .product hop ihleft ihright
  | term _ ih => exact .term ih
  | sum hop _ _ ihleft ihright => exact .sum hop ihleft ihright

namespace Nests

/-- A factor is an operand of a term. -/
theorem operand_of_factor (h : Nests conventional n .factor w e) :
    Nests conventional n (.operand conventional) w e := by
  cases conventional with
  | false => exact h
  | true => exact h.base

/-- A factor is an expression. -/
theorem expression_of_factor (h : Nests conventional n .factor w e) :
    Nests conventional n .expression w e :=
  h.operand_of_factor.operand.term

end Nests

/-- Arguments that each have their number have them together. -/
theorem exists_counted {arguments : List (List Lexeme × Expr)}
    (h : ∀ a ∈ arguments, ∃ n, Nests conventional n .expression a.1 a.2) :
    ∃ counted : List (Nat × List Lexeme × Expr), counted.map Prod.snd = arguments ∧
      ∀ a ∈ counted, Nests conventional a.1 .expression a.2.1 a.2.2 := by
  induction arguments with
  | nil => exact ⟨[], rfl, by simp⟩
  | cons a rest ih =>
      obtain ⟨n, hn⟩ := h a (by simp)
      obtain ⟨counted, rfl, hcounted⟩ := ih fun b hb => h b (List.mem_cons_of_mem _ hb)
      refine ⟨(n, a) :: counted, rfl, fun b hb => ?_⟩
      rcases List.mem_cons.mp hb with rfl | hb
      · exact hn
      · exact hcounted b hb

/-- Every derivation has a number of levels. -/
theorem Derives.exists_nests (h : Derives conventional phrase w e) :
    ∃ n, Nests conventional n phrase w e := by
  induction h with
  | number text value => exact ⟨0, .number text value⟩
  | constant name => exact ⟨0, .constant name⟩
  | sign hop _ ih =>
      obtain ⟨n, hn⟩ := ih
      exact ⟨n + 1, .sign hop hn⟩
  | group _ ih =>
      obtain ⟨n, hn⟩ := ih
      exact ⟨n + 1, .group hn⟩
  | call name arguments _ ih =>
      obtain ⟨counted, rfl, hcounted⟩ := exists_counted ih
      exact ⟨_, .call name counted hcounted⟩
  | base _ ih =>
      obtain ⟨n, hn⟩ := ih
      exact ⟨n, .base hn⟩
  | power _ _ ihbase ihexponent =>
      obtain ⟨m, hm⟩ := ihbase
      obtain ⟨n, hn⟩ := ihexponent
      exact ⟨max m (n + 1), .power hm hn⟩
  | operand _ ih =>
      obtain ⟨n, hn⟩ := ih
      exact ⟨n, .operand hn⟩
  | product hop _ _ ihleft ihright =>
      obtain ⟨m, hm⟩ := ihleft
      obtain ⟨n, hn⟩ := ihright
      exact ⟨max m n, .product hop hm hn⟩
  | term _ ih =>
      obtain ⟨n, hn⟩ := ih
      exact ⟨n, .term hn⟩
  | sum hop _ _ ihleft ihright =>
      obtain ⟨m, hm⟩ := ihleft
      obtain ⟨n, hn⟩ := ihright
      exact ⟨max m n, .sum hop hm hn⟩

/-! ## Levels of a run -/

namespace Draft

theorem peak_cons {s next : Draft} {t : Token} (h : s.advance conventional t = .ok next)
    (ts : List Token) :
    peak conventional s (t :: ts) = max s.awaitedLevels (peak conventional next ts) := by
  simp only [peak, h]

/-- A single token finds the levels that are compared with the limit in front of it. -/
theorem peak_singleton (s : Draft) (t : Token) : peak conventional s [t] = s.awaitedLevels := by
  simp only [peak]
  split <;> exact Nat.max_zero _

/-- Inside a parenthesis one more level is open than in front of it. -/
theorem levels_openBracket (bracket : Bracket) (pending : List Pending)
    (enclosing : List (Bracket × List Pending)) :
    levels ⟨[], (bracket, pending) :: enclosing, .operand⟩ =
      levels ⟨pending, enclosing, .operand⟩ + 1 := by
  simp only [levels, focusLevels, operatorLevels, List.foldr_cons, List.countP_nil]
  omega

/-- An operator that waits has its own level, or none. -/
theorem levels_pending (p : Pending) (pending : List Pending)
    (enclosing : List (Bracket × List Pending)) :
    levels ⟨p :: pending, enclosing, .operand⟩ =
      levels ⟨pending, enclosing, .operand⟩ + p.opensLevel.toNat := by
  simp only [levels, focusLevels, operatorLevels]
  cases h : p.opensLevel with
  | true =>
      rw [List.countP_cons_of_pos h]
      simp only [Bool.toNat_true]
      omega
  | false =>
      rw [List.countP_cons_of_neg (by simp [h])]
      simp only [Bool.toNat_false]
      omega

/-- A first argument begins as an operand inside the parenthesis of its call. -/
theorem peak_arguments_of_ne {name : String} {pending : List Pending}
    {enclosing : List (Bracket × List Pending)} {t : Token} (ht : t.lexeme ≠ .rightParen)
    (ts : List Token) :
    peak conventional ⟨pending, enclosing, .arguments name⟩ (t :: ts) =
      peak conventional ⟨[], (.call name [], pending) :: enclosing, .operand⟩ (t :: ts) := by
  have hlevels : levels ⟨pending, enclosing, .arguments name⟩ =
      levels ⟨[], (.call name [], pending) :: enclosing, .operand⟩ := by
    rw [levels_openBracket]
    simp only [levels, focusLevels]
    omega
  simp only [peak, advance_arguments_of_ne ht, awaitedLevels, hlevels]

end Draft

open Draft

/-- The phrase can begin after these operators. -/
def Phrase.CanFollow (conventional : Bool) (pending : List Pending) : Phrase → Prop
  | .factor => True
  | .power => conventional = true ∧ ∀ p ∈ pending.head?, p.tier ≠ .sign
  | .term => ∀ p ∈ pending.head?, p.tier = .sum
  | .expression => pending = []

/-- Where no sign waits, an operand of a term can begin. -/
theorem canFollow_operand {pending : List Pending}
    (hpending : ∀ p ∈ pending.head?, p.tier ≠ .sign) :
    (Phrase.operand conventional).CanFollow conventional pending := by
  cases conventional with
  | false => trivial
  | true => exact ⟨rfl, hpending⟩

/-- The lexemes open so many levels where these operators wait. -/
def Opens (conventional : Bool) (n : Nat) (pending : List Pending) (w : List Lexeme) : Prop :=
  ∀ (enclosing : List (Bracket × List Pending)) (ts : List Token), ts.map Token.lexeme = w →
    peak conventional ⟨pending, enclosing, .operand⟩ ts =
      levels ⟨pending, enclosing, .operand⟩ + n

/-- Two operands have their levels one after the other, the second on top of the operator. -/
theorem opens_binary {m : Nat} {outer : List Pending} {op : Operator} {p : Pending}
    (hwaits : WaitsAfter conventional outer w op p) (hfirst : Opens conventional m outer w)
    (hsecond : Opens conventional n (p :: outer) v) :
    Opens conventional (max m (n + p.opensLevel.toNat)) outer (w ++ .operator op :: v) := by
  intro enclosing ts hts
  obtain ⟨us, vs, rfl, hus, hvs⟩ := List.map_eq_append_iff.mp hts
  obtain ⟨t, vs, rfl, ht, hvs⟩ := List.map_eq_cons_iff.mp hvs
  obtain ⟨pending, value, hread, hoperator⟩ := hwaits enclosing us hus
  have hsecond := hsecond enclosing vs hvs
  rw [peak_append _ hread, peak_cons (hoperator t ht), hfirst enclosing us hus, hsecond,
    levels_pending]
  simp only [awaitedLevels]
  omega

/-- A parenthesis has one level more than the expression inside it. -/
theorem opens_group (hread : Phrase.expression.IsRead conventional w e)
    (h : Opens conventional n [] w) (pending : List Pending) :
    Opens conventional (n + 1) pending (.leftParen :: (w ++ [.rightParen])) := by
  intro enclosing ts hts
  obtain ⟨t, ts, rfl, ht, hts⟩ := List.map_eq_cons_iff.mp hts
  obtain ⟨us, vs, rfl, hus, hvs⟩ := List.map_eq_append_iff.mp hts
  obtain ⟨u, rfl, -⟩ := List.map_eq_singleton_iff.mp hvs
  obtain ⟨inner, value, hleads, -⟩ :=
    leads_of_expression hread ((.group t.pos, pending) :: enclosing) hus
  have hinside := h ((.group t.pos, pending) :: enclosing) us hus
  rw [peak_cons (advance_leftParen ht), peak_append _ hleads, peak_singleton, hinside,
    levels_openBracket]
  simp only [awaitedLevels]
  omega

/-- Arguments have their levels inside the parenthesis of their call, one after the other. -/
theorem peak_arguments (name : String) {arguments : List (Nat × List Lexeme × Expr)}
    (hne : arguments ≠ [])
    (hread : ∀ a ∈ arguments, Phrase.expression.IsRead conventional a.2.1 a.2.2)
    (hopens : ∀ a ∈ arguments, Opens conventional a.1 [] a.2.1) (sofar : List Expr)
    (pending : List Pending) (enclosing : List (Bracket × List Pending)) {ts : List Token}
    (hts : ts.map Token.lexeme =
      [.comma].intercalate ((arguments.map Prod.snd).map Prod.fst) ++ [.rightParen]) :
    peak conventional ⟨[], (.call name sofar, pending) :: enclosing, .operand⟩ ts =
      levels ⟨pending, enclosing, .operand⟩ + 1 + mostOf (arguments.map Prod.fst) := by
  induction arguments generalizing sofar ts with
  | nil => exact absurd rfl hne
  | cons a rest ih =>
      cases rest with
      | nil =>
          -- the last argument is followed by the parenthesis that closes the call
          simp only [List.map_cons, List.map_nil, List.intercalate_singleton] at hts
          obtain ⟨us, vs, rfl, hus, hvs⟩ := List.map_eq_append_iff.mp hts
          obtain ⟨u, rfl, -⟩ := List.map_eq_singleton_iff.mp hvs
          obtain ⟨inner, value, hleads, -⟩ := leads_of_expression (hread a (by simp))
            ((.call name sofar, pending) :: enclosing) hus
          rw [peak_append _ hleads, peak_singleton, hopens a (by simp) _ us hus,
            levels_openBracket]
          simp only [awaitedLevels, List.map_cons, List.map_nil, mostOf, List.foldr_cons,
            List.foldr_nil]
          omega
      | cons b rest =>
          -- the comma puts the value away, and the others follow inside the same parenthesis
          simp only [List.map_cons, List.intercalate_cons_cons, List.append_assoc,
            List.singleton_append] at hts
          obtain ⟨us, vs, rfl, hus, hvs⟩ := List.map_eq_append_iff.mp hts
          obtain ⟨u, vs, rfl, hu, hvs⟩ := List.map_eq_cons_iff.mp hvs
          obtain ⟨inner, value, hleads, hvalue⟩ := leads_of_expression (hread a (by simp))
            ((.call name sofar, pending) :: enclosing) hus
          have hrest := ih (by simp) (fun c hc => hread c (List.mem_cons_of_mem _ hc))
            (fun c hc => hopens c (List.mem_cons_of_mem _ hc)) (a.2.2 :: sofar) hvs
          have hmost : mostOf ((a :: b :: rest).map Prod.fst) =
              max a.1 (mostOf ((b :: rest).map Prod.fst)) := rfl
          rw [← hvalue] at hrest
          rw [peak_append _ hleads, peak_cons (advance_comma hu), hopens a (by simp) _ us hus,
            hrest, levels_openBracket, hmost]
          simp only [awaitedLevels]
          omega

/-- The parenthesis of a call is a level, even without arguments. -/
theorem opens_call {name : String} {arguments : List (Nat × List Lexeme × Expr)}
    (hderives : ∀ a ∈ arguments, Derives conventional .expression a.2.1 a.2.2)
    (hopens : ∀ a ∈ arguments, Opens conventional a.1 [] a.2.1) (pending : List Pending) :
    Opens conventional (mostOf (arguments.map Prod.fst) + 1) pending
      (.function name :: .leftParen ::
        ([.comma].intercalate ((arguments.map Prod.snd).map Prod.fst) ++ [.rightParen])) := by
  intro enclosing ts hts
  obtain ⟨t, ts, rfl, ht, hts⟩ := List.map_eq_cons_iff.mp hts
  obtain ⟨u, ts, rfl, hu, hts⟩ := List.map_eq_cons_iff.mp hts
  have hinside : peak conventional ⟨pending, enclosing, .arguments name⟩ ts =
      levels ⟨pending, enclosing, .operand⟩ + 1 + mostOf (arguments.map Prod.fst) := by
    cases arguments with
    | nil =>
        -- the closing parenthesis is compared with the limit under the level of the call
        obtain ⟨x, rfl, -⟩ := List.map_eq_singleton_iff.mp hts
        rw [peak_singleton]
        simp only [awaitedLevels, levels, focusLevels, List.map_nil, mostOf, List.foldr_nil]
        omega
    | cons a rest =>
        -- the first argument has a first token, which is not the closing parenthesis
        have hread := peak_arguments name (by simp) (fun a ha => (hderives a ha).isRead) hopens []
          pending enclosing hts
        obtain ⟨first, others, hfirst, hne⟩ := (hderives a (by simp)).exists_cons
        obtain ⟨more, hmore⟩ := exists_intercalate_cons first others
          ((rest.map Prod.snd).map Prod.fst)
        rw [List.map_cons, List.map_cons, hfirst, hmore] at hts
        obtain ⟨x, xs, rfl, rfl, -⟩ := List.map_eq_cons_iff.mp hts
        rw [peak_arguments_of_ne hne, hread]
  rw [peak_cons (advance_function ht), peak_cons (advance_callee_leftParen hu), hinside]
  simp only [awaitedLevels]
  omega

/-- Reading a phrase opens as many levels as its derivation has, on top of those that are open
before. -/
theorem Nests.opens (h : Nests conventional n phrase w e) {pending : List Pending}
    (hfollow : phrase.CanFollow conventional pending) : Opens conventional n pending w := by
  induction h generalizing pending with
  | number text value =>
      intro enclosing ts hts
      obtain ⟨t, rfl, -⟩ := List.map_eq_singleton_iff.mp hts
      exact peak_singleton _ t
  | constant name =>
      intro enclosing ts hts
      obtain ⟨t, rfl, -⟩ := List.map_eq_singleton_iff.mp hts
      exact peak_singleton _ t
  | @sign n op sign w e hop _ ih =>
      intro enclosing ts hts
      obtain ⟨t, ts, rfl, ht, hts⟩ := List.map_eq_cons_iff.mp hts
      have hoperand : Opens conventional n (.sign sign :: pending) w := ih trivial
      have hlevel : (Pending.sign sign).opensLevel.toNat = 1 := rfl
      rw [peak_cons (advance_sign hop ht), hoperand enclosing ts hts, levels_pending, hlevel]
      simp only [awaitedLevels]
      omega
  | group hexpression ih => exact opens_group hexpression.derives.isRead (ih rfl) pending
  | call name arguments hall ih =>
      exact opens_call (fun a ha => (hall a ha).derives) (fun a ha => ih a ha rfl) pending
  | base _ ih => exact ih trivial
  | power hbase _ ihbase ihexponent =>
      obtain ⟨rfl, hpending⟩ := hfollow
      refine opens_binary (waitsAfter_base hbase.derives.isRead hpending) (ihbase trivial)
        (ihexponent ⟨rfl, ?_⟩)
      rintro p ⟨⟩
      simp [Pending.tier]
  | operand _ ih =>
      refine ih (canFollow_operand fun p hp => ?_)
      rw [hfollow p hp]
      simp
  | product hop hleft _ ihleft ihright =>
      refine opens_binary (waitsAfter_term hop hleft.derives.isRead hfollow) (ihleft hfollow)
        (ihright (canFollow_operand ?_))
      rintro p ⟨⟩
      simp [Pending.tier]
  | term _ ih =>
      obtain rfl : pending = [] := hfollow
      exact ih (by rintro p ⟨⟩)
  | sum hop hleft _ ihleft ihright =>
      obtain rfl : pending = [] := hfollow
      refine opens_binary (waitsAfter_expression hop hleft.derives.isRead) (ihleft rfl)
        (ihright ?_)
      rintro p ⟨⟩
      rfl

/-- Under a limit an expression is read as its tree, unless it opens more levels than the limit
admits. -/
theorem Nests.parse_eq {s : Scan} (h : Nests conventional n .expression s.lexemes e)
    (hwhole : s.IsWhole) (limit : Int) :
    if exceeds limit n then
      ∃ place, s.parse ⟨conventional, limit⟩ = .error (.grammar ⟨.tooNested limit, place⟩)
    else s.parse ⟨conventional, limit⟩ = .ok e := by
  obtain ⟨ts, stop⟩ := s
  obtain ⟨pos, hstop⟩ := Scan.isWhole_iff.mp hwhole
  obtain rfl : stop = .endOfInput pos := hstop
  obtain ⟨pending, value, hleads, rfl⟩ := leads_of_expression h.derives.isRead [] rfl
  have hpeak : start.peak conventional ts = n := by
    have hlevels : levels start = 0 := rfl
    rw [start, h.opens rfl [] ts rfl, ← start, hlevels, Nat.zero_add]
  -- the run under the limit differs from the one without only where the peak exceeds it
  have hrun := foldlM_step ⟨conventional, limit⟩ start ts
  rw [hpeak] at hrun
  split at hrun
  · next hexceeds =>
      obtain ⟨place, hrun⟩ := hrun
      rw [if_pos hexceeds]
      exact ⟨place, by simp [Scan.parse, hrun]⟩
  · next hexceeds =>
      rw [if_neg hexceeds]
      rw [Leads, ← start] at hleads
      simp only [Scan.parse, hrun, hleads]
      rfl

/-- A whole source is read as an expression whose levels the limit and the capacity admit. -/
theorem parse_eq_ok_of_nests {registry : Registry} {settings : Settings} {source : String}
    (h : Nests settings.conventionalPower n .expression
      (Scan.ofSource ⟨registry, settings.nameLimit⟩ source).lexemes e)
    (hwhole : (Scan.ofSource ⟨registry, settings.nameLimit⟩ source).IsWhole)
    (hlimit : exceeds settings.nestingLimit n = false)
    (hcapacity : exceeds host.levels n = false) : parse host registry settings source = .ok e := by
  have hparse := h.parse_eq hwhole
  by_cases hle : settings.nestingLimit ≤ host.levels
  · have hhere := hparse settings.nestingLimit
    rw [hlimit] at hhere
    rw [parse_eq_of_le_levels registry source hle]
    exact hhere
  · have hbeyond := hparse host.levels
    rw [hcapacity] at hbeyond
    rw [parse_eq_of_levels_lt registry source (Int.not_le.mp hle)]
    exact congrArg (Except.mapError _) hbeyond

/-- What is read under a limit is derived with levels that the limit admits. -/
theorem Scan.exists_nests {s : Scan} {limit : Int} (h : s.parse ⟨conventional, limit⟩ = .ok e) :
    ∃ n, Nests conventional n .expression s.lexemes e ∧ n ≤ limit.toNat := by
  rcases s.parse_eq_or ⟨conventional, limit⟩ with ⟨pos, herror⟩ | hread
  · cases herror.symm.trans h
  · obtain ⟨hwhole, hderives⟩ := Scan.read_eq_ok_iff.mp (hread.symm.trans h)
    obtain ⟨n, hn⟩ := hderives.exists_nests
    have hparse := hn.parse_eq hwhole limit
    refine ⟨n, hn, ?_⟩
    split at hparse
    · obtain ⟨place, hplace⟩ := hparse
      cases hplace.symm.trans h
    · next hexceeds => exact exceeds_eq_false_iff.mp (Bool.eq_false_iff.mpr hexceeds)

/-- The levels of a source that is read are admitted by the limit, and by the capacity beyond it. -/
theorem exists_nests_of_parse {registry : Registry} {settings : Settings} {source : String}
    (h : parse host registry settings source = .ok e) :
    ∃ n, Nests settings.conventionalPower n .expression
        (Scan.ofSource ⟨registry, settings.nameLimit⟩ source).lexemes e ∧
      n ≤ settings.nestingLimit.toNat := by
  by_cases hlimit : settings.nestingLimit ≤ host.levels
  · rw [parse_eq_of_le_levels registry source hlimit] at h
    exact Scan.exists_nests h
  · rw [parse_eq_of_levels_lt registry source (Int.not_le.mp hlimit)] at h
    cases hparse : (Scan.ofSource ⟨registry, settings.nameLimit⟩ source).parse
        ⟨settings.conventionalPower, host.levels⟩ with
    | error cause =>
        rw [hparse] at h
        cases h
    | ok e' =>
        rw [hparse] at h
        cases h
        obtain ⟨n, hn, hle⟩ := Scan.exists_nests hparse
        exact ⟨n, hn, by omega⟩

end Calculator
