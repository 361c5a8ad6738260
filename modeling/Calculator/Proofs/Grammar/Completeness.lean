import Calculator.Proofs.Grammar.Steps

/-!
# Every derived phrase is read

A draft that awaits a phrase reads every phrase of that kind, whatever follows, and what it reads
is the tree of the phrase (`Derives.isRead`). A factor is read as one operand. A longer phrase
leaves operators that wait, in front of those that were there before; they bind at least as tightly
as the phrase, and ending them gives its tree (`ReadsAs`).
-/

set_option autoImplicit false

namespace Calculator

variable {conventional : Bool}

/-! ## Ending a part of the operators that wait -/

theorem endAll_append (value : Expr) (inner outer : List Pending) :
    endAll value (inner ++ outer) = endAll (endAll value inner) outer := by
  simp [endAll]

/-- Operators that bind at least as tightly are ended, up to the first that does not. -/
theorem endOperators_append {tier : Tier} {inner outer : List Pending}
    (hinner : ∀ p ∈ inner, tier.rank ≤ p.tier.rank)
    (houter : ∀ p ∈ outer.head?, p.tier.rank < tier.rank) (value : Expr) :
    endOperators tier value (inner ++ outer) = (endAll value inner, outer) := by
  induction inner generalizing value with
  | nil =>
      cases outer with
      | nil => rfl
      | cons p rest =>
          have hp : ¬ tier.rank ≤ p.tier.rank := Nat.not_le.mpr (houter p rfl)
          simp [endOperators, hp, endAll]
  | cons p rest ih =>
      have hp : tier.rank ≤ p.tier.rank := hinner p (by simp)
      rw [List.cons_append, endOperators, if_pos hp, ih fun q hq => hinner q (by simp [hq])]
      rfl

/-! ## Runs -/

namespace Draft

/-- These tokens lead from one draft to another, without a limit. -/
def Leads (conventional : Bool) (s : Draft) (ts : List Token) (after : Draft) : Prop :=
  ts.foldlM (advance conventional) s = .ok after

theorem Leads.nil (s : Draft) : Leads conventional s [] s := rfl

theorem Leads.cons {s after : Draft} {t : Token} {ts : List Token} (next : Draft)
    (ht : s.advance conventional t = .ok next) (hts : Leads conventional next ts after) :
    Leads conventional s (t :: ts) after := by
  rw [Leads, List.foldlM_cons, ht]
  exact hts

theorem Leads.trans {s next after : Draft} {ts us : List Token}
    (hts : Leads conventional s ts next) (hus : Leads conventional next us after) :
    Leads conventional s (ts ++ us) after := by
  rw [Leads, List.foldlM_append, hts]
  exact hus

end Draft

open Draft

/-! ## What reading a phrase comes to -/

/-- With these operators waiting outside, the lexemes are read as a tree, up to operators of this
tier or a tighter one that still wait for the end of the phrase. -/
def ReadsAs (conventional : Bool) (tier : Tier) (pending : List Pending) (w : List Lexeme)
    (e : Expr) : Prop :=
  ∀ (enclosing : List (Bracket × List Pending)) (ts : List Token), ts.map Token.lexeme = w →
    ∃ inner value, Leads conventional ⟨pending, enclosing, .operand⟩ ts
        ⟨inner ++ pending, enclosing, .complete value⟩ ∧
      endAll value inner = e ∧ ∀ p ∈ inner, tier.rank ≤ p.tier.rank

/-- How a phrase is read where it can begin. -/
def Phrase.IsRead (conventional : Bool) : Phrase → List Lexeme → Expr → Prop
  | .factor, w, e =>
      ∀ (pending : List Pending) (enclosing : List (Bracket × List Pending)) (ts : List Token),
        ts.map Token.lexeme = w →
        Leads conventional ⟨pending, enclosing, .operand⟩ ts
          (operandRead ⟨pending, enclosing, .operand⟩ e)
  | .power, w, e =>
      conventional = true → ∀ pending : List Pending, (∀ p ∈ pending.head?, p.tier ≠ .sign) →
        ReadsAs conventional .power pending w e
  | .term, w, e =>
      ∀ pending : List Pending, (∀ p ∈ pending.head?, p.tier = .sum) →
        ReadsAs conventional .product pending w e
  | .expression, w, e => ReadsAs conventional .sum [] w e

variable {w v : List Lexeme} {e left right : Expr}

/-- Where no sign waits, a factor leaves nothing behind. -/
theorem leads_of_factor (h : Phrase.factor.IsRead conventional w e) {pending : List Pending}
    (hpending : ∀ p ∈ pending.head?, p.tier ≠ .sign) (enclosing : List (Bracket × List Pending))
    {ts : List Token} (hts : ts.map Token.lexeme = w) :
    Leads conventional ⟨pending, enclosing, .operand⟩ ts ⟨pending, enclosing, .complete e⟩ := by
  have hread := h pending enclosing ts hts
  have hend : endOperators .sign e pending = (e, pending) := by
    cases pending with
    | nil => rfl
    | cons p rest =>
        cases p with
        | sign op => exact absurd rfl (hpending (.sign op) rfl)
        | _ => rfl
  rw [operandRead, hend] at hread
  exact hread

/-- An operand of a term leaves powers behind at most. -/
theorem readsAs_of_operand (h : (Phrase.operand conventional).IsRead conventional w e)
    {pending : List Pending} (hpending : ∀ p ∈ pending.head?, p.tier ≠ .sign) :
    ReadsAs conventional .product pending w e := by
  cases conventional with
  | false =>
      intro enclosing ts hts
      exact ⟨[], e, leads_of_factor h hpending enclosing hts, rfl, by simp⟩
  | true =>
      intro enclosing ts hts
      obtain ⟨inner, value, hread, hvalue, hinner⟩ := h rfl pending hpending enclosing ts hts
      exact ⟨inner, value, hread, hvalue, fun p hp => Nat.le_trans (by decide) (hinner p hp)⟩

/-- With these operators waiting outside, the lexemes are read up to a complete draft, and the
operator after them then waits as the innermost one. -/
def WaitsAfter (conventional : Bool) (outer : List Pending) (w : List Lexeme) (op : Operator)
    (p : Pending) : Prop :=
  ∀ (enclosing : List (Bracket × List Pending)) (ts : List Token), ts.map Token.lexeme = w →
    ∃ pending value,
      Leads conventional ⟨outer, enclosing, .operand⟩ ts ⟨pending, enclosing, .complete value⟩ ∧
      ∀ t, t.lexeme = .operator op →
        advance conventional ⟨pending, enclosing, .complete value⟩ t =
          .ok ⟨p :: outer, enclosing, .operand⟩

/-- The base of a power waits for its exponent. -/
theorem waitsAfter_base (hbase : Phrase.factor.IsRead true w left) {pending : List Pending}
    (hpending : ∀ p ∈ pending.head?, p.tier ≠ .sign) :
    WaitsAfter true pending w .power (.power left) := fun enclosing _ hts =>
  ⟨pending, left, leads_of_factor hbase hpending enclosing hts, fun _ => advance_power⟩

/-- The first operand of a product is ended by the operator and waits for the second. -/
theorem waitsAfter_term {op : Operator} {operation : BinaryOp}
    (hop : op.product? conventional = some operation)
    (hleft : Phrase.term.IsRead conventional w left) {pending : List Pending}
    (hpending : ∀ p ∈ pending.head?, p.tier = .sum) :
    WaitsAfter conventional pending w op (.product operation left) := by
  intro enclosing ts hts
  obtain ⟨inner, value, hread, rfl, hinner⟩ := hleft pending hpending enclosing ts hts
  refine ⟨_, value, hread, fun t ht => ?_⟩
  have hend : endOperators .product value (inner ++ pending) = (endAll value inner, pending) :=
    endOperators_append hinner (fun p hp => by rw [hpending p hp]; decide) value
  rw [advance_product hop ht, hend]

/-- The first term of a sum is ended by the operator and waits for the second. -/
theorem waitsAfter_expression {op : Operator} {operation : BinaryOp}
    (hop : op.sum? = some operation) (hleft : Phrase.expression.IsRead conventional w left) :
    WaitsAfter conventional [] w op (.sum operation left) := by
  intro enclosing ts hts
  obtain ⟨inner, value, hread, rfl, -⟩ := hleft enclosing ts hts
  exact ⟨inner, value, by simpa using hread, fun t ht => advance_sum hop ht⟩

/-- After an operand, a longer phrase goes on with an operator and a second operand, for which the
operator waits. -/
theorem readsAs_binary {tier : Tier} {outer : List Pending} {op : Operator} {p : Pending}
    (hfirst : WaitsAfter conventional outer w op p) (hp : tier.rank ≤ p.tier.rank)
    (hsecond : ReadsAs conventional tier (p :: outer) v right) :
    ReadsAs conventional tier outer (w ++ .operator op :: v) (p.apply right) := by
  intro enclosing ts hts
  obtain ⟨us, vs, rfl, hus, hvs⟩ := List.map_eq_append_iff.mp hts
  obtain ⟨t, vs, rfl, ht, hvs⟩ := List.map_eq_cons_iff.mp hvs
  obtain ⟨pending, value, hread, hoperator⟩ := hfirst enclosing us hus
  obtain ⟨inner, last, hread', hlast, hinner⟩ := hsecond enclosing vs hvs
  -- the operator is ended last, after all that waits inside its right operand
  refine ⟨inner ++ [p], last, ?_, ?_, ?_⟩
  · simpa using hread.trans (Leads.cons _ (hoperator t ht) hread')
  · rw [endAll_append, hlast]
    rfl
  · intro q hq
    rcases List.mem_append.mp hq with hq | hq
    · exact hinner q hq
    · rw [List.mem_singleton.mp hq]
      exact hp

theorem isRead_power (hbase : Phrase.factor.IsRead conventional w left)
    (hexponent : Phrase.power.IsRead conventional v right) :
    Phrase.power.IsRead conventional (w ++ .operator .power :: v) (.binary .pow left right) := by
  rintro rfl pending hpending
  have hfits : ∀ p ∈ (Pending.power left :: pending).head?, p.tier ≠ .sign := by
    rintro p ⟨⟩
    simp [Pending.tier]
  exact readsAs_binary (waitsAfter_base hbase hpending) (Nat.le_refl _) (hexponent rfl _ hfits)

theorem isRead_product {op : Operator} {operation : BinaryOp}
    (hop : op.product? conventional = some operation)
    (hleft : Phrase.term.IsRead conventional w left)
    (hright : (Phrase.operand conventional).IsRead conventional v right) :
    Phrase.term.IsRead conventional (w ++ .operator op :: v) (.binary operation left right) := by
  intro pending hpending
  have hfits : ∀ p ∈ (Pending.product operation left :: pending).head?, p.tier ≠ .sign := by
    rintro p ⟨⟩
    simp [Pending.tier]
  exact readsAs_binary (waitsAfter_term hop hleft hpending) (Nat.le_refl _)
    (readsAs_of_operand hright hfits)

theorem isRead_sum {op : Operator} {operation : BinaryOp} (hop : op.sum? = some operation)
    (hleft : Phrase.expression.IsRead conventional w left)
    (hright : Phrase.term.IsRead conventional v right) :
    Phrase.expression.IsRead conventional (w ++ .operator op :: v)
      (.binary operation left right) := by
  have hfits : ∀ p ∈ [Pending.sum operation left].head?, p.tier = .sum := by
    rintro p ⟨⟩
    rfl
  have hright' : ReadsAs conventional .sum [.sum operation left] v right := by
    intro enclosing ts hts
    obtain ⟨inner, value, hread, hvalue, -⟩ := hright _ hfits enclosing ts hts
    exact ⟨inner, value, hread, hvalue, fun p _ => Nat.zero_le _⟩
  exact readsAs_binary (waitsAfter_expression hop hleft) (Nat.le_refl _) hright'

/-! ## Phrases between parentheses -/

/-- An expression inside the innermost parenthesis leaves a complete draft whose operators, once
they are ended, give its tree. -/
theorem leads_of_expression (h : Phrase.expression.IsRead conventional w e)
    (enclosing : List (Bracket × List Pending)) {ts : List Token}
    (hts : ts.map Token.lexeme = w) :
    ∃ pending value, Leads conventional ⟨[], enclosing, .operand⟩ ts
        ⟨pending, enclosing, .complete value⟩ ∧ endAll value pending = e := by
  obtain ⟨inner, value, hread, hvalue, -⟩ := h enclosing ts hts
  exact ⟨inner, value, by simpa using hread, hvalue⟩

/-- A parenthesis is closed around the expression inside it. -/
theorem isRead_group (h : Phrase.expression.IsRead conventional w e) :
    Phrase.factor.IsRead conventional (.leftParen :: (w ++ [.rightParen])) e := by
  intro pending enclosing ts hts
  obtain ⟨t, ts, rfl, ht, hts⟩ := List.map_eq_cons_iff.mp hts
  obtain ⟨us, vs, rfl, hus, hvs⟩ := List.map_eq_append_iff.mp hts
  obtain ⟨u, rfl, hu⟩ := List.map_eq_singleton_iff.mp hvs
  obtain ⟨inner, value, hread, hvalue⟩ :=
    leads_of_expression h ((.group t.pos, pending) :: enclosing) hus
  rw [← hvalue]
  exact Leads.cons _ (advance_leftParen ht)
    (hread.trans (Leads.cons _ (advance_endGroup hu) (Leads.nil _)))

/-- The arguments of a call, from inside its parenthesis to its end. -/
theorem leads_arguments (name : String) {arguments : List (List Lexeme × Expr)}
    (hne : arguments ≠ [])
    (hall : ∀ a ∈ arguments, Phrase.expression.IsRead conventional a.1 a.2) (sofar : List Expr)
    (pending : List Pending) (enclosing : List (Bracket × List Pending)) {ts : List Token}
    (hts : ts.map Token.lexeme =
      [.comma].intercalate (arguments.map Prod.fst) ++ [.rightParen]) :
    Leads conventional ⟨[], (.call name sofar, pending) :: enclosing, .operand⟩ ts
      (operandRead ⟨pending, enclosing, .operand⟩
        (.call name (sofar.reverse ++ arguments.map Prod.snd))) := by
  induction arguments generalizing sofar ts with
  | nil => exact absurd rfl hne
  | cons a rest ih =>
      cases rest with
      | nil =>
          simp only [List.map_cons, List.map_nil, List.intercalate_singleton] at hts
          obtain ⟨us, vs, rfl, hus, hvs⟩ := List.map_eq_append_iff.mp hts
          obtain ⟨u, rfl, hu⟩ := List.map_eq_singleton_iff.mp hvs
          obtain ⟨inner, value, hread, hvalue⟩ := leads_of_expression (hall a (by simp))
            ((.call name sofar, pending) :: enclosing) hus
          have hend := hread.trans (Leads.cons _ (advance_endCall hu) (Leads.nil _))
          simpa [hvalue] using hend
      | cons b rest =>
          simp only [List.map_cons, List.intercalate_cons_cons, List.append_assoc] at hts
          obtain ⟨us, vs, rfl, hus, hvs⟩ := List.map_eq_append_iff.mp hts
          rw [List.singleton_append] at hvs
          obtain ⟨u, vs, rfl, hu, hvs⟩ := List.map_eq_cons_iff.mp hvs
          obtain ⟨inner, value, hread, hvalue⟩ := leads_of_expression (hall a (by simp))
            ((.call name sofar, pending) :: enclosing) hus
          have hrest := ih (by simp) (fun c hc => hall c (List.mem_cons_of_mem _ hc)) (a.2 :: sofar)
            hvs
          refine hread.trans (Leads.cons _ (advance_comma hu) ?_)
          simpa [hvalue] using hrest

/-- A list of arguments begins with the first lexeme of the first one. -/
theorem exists_intercalate_cons (first : Lexeme) (others : List Lexeme)
    (rest : List (List Lexeme)) :
    ∃ more, [.comma].intercalate ((first :: others) :: rest) = first :: more := by
  cases rest with
  | nil => exact ⟨others, by simp⟩
  | cons b rest => exact ⟨_, by rw [List.intercalate_cons_cons]; rfl⟩

/-- The parenthesis of a call is closed around its arguments. -/
theorem isRead_call {name : String} {arguments : List (List Lexeme × Expr)}
    (hderives : ∀ a ∈ arguments, Derives conventional .expression a.1 a.2)
    (hall : ∀ a ∈ arguments, Phrase.expression.IsRead conventional a.1 a.2) :
    Phrase.factor.IsRead conventional
      (.function name :: .leftParen ::
        ([.comma].intercalate (arguments.map Prod.fst) ++ [.rightParen]))
      (.call name (arguments.map Prod.snd)) := by
  intro pending enclosing ts hts
  obtain ⟨t, ts, rfl, ht, hts⟩ := List.map_eq_cons_iff.mp hts
  obtain ⟨u, ts, rfl, hu, hts⟩ := List.map_eq_cons_iff.mp hts
  refine Leads.cons _ (advance_function ht) (Leads.cons _ (advance_callee_leftParen hu) ?_)
  cases arguments with
  | nil =>
      obtain ⟨x, rfl, hx⟩ := List.map_eq_singleton_iff.mp hts
      exact Leads.cons _ (advance_arguments_rightParen hx) (Leads.nil _)
  | cons a rest =>
      obtain ⟨first, others, hfirst, hne⟩ := (hderives a (by simp)).exists_cons
      obtain ⟨more, hmore⟩ := exists_intercalate_cons first others (rest.map Prod.fst)
      have hread := leads_arguments name (by simp) hall [] pending enclosing hts
      rw [List.map_cons, hfirst, hmore] at hts
      obtain ⟨x, xs, rfl, rfl, -⟩ := List.map_eq_cons_iff.mp hts
      -- the parenthesis of the call is entered by the first token of the first argument
      rw [Leads, List.foldlM_cons, ← advance_arguments_of_ne hne, ← List.foldlM_cons] at hread
      exact hread

/-! ## All phrases -/

/-- Every phrase is read where it can begin. -/
theorem Derives.isRead {phrase : Phrase} (h : Derives conventional phrase w e) :
    phrase.IsRead conventional w e := by
  induction h with
  | number text value =>
      intro pending enclosing ts hts
      obtain ⟨t, rfl, ht⟩ := List.map_eq_singleton_iff.mp hts
      exact Leads.cons _ (advance_number ht) (Leads.nil _)
  | constant name =>
      intro pending enclosing ts hts
      obtain ⟨t, rfl, ht⟩ := List.map_eq_singleton_iff.mp hts
      exact Leads.cons _ (advance_constant ht) (Leads.nil _)
  | @sign op sign w e hop _ ih =>
      intro pending enclosing ts hts
      obtain ⟨t, ts, rfl, ht, hts⟩ := List.map_eq_cons_iff.mp hts
      exact Leads.cons _ (advance_sign hop ht) (ih (.sign sign :: pending) enclosing ts hts)
  | group _ ih => exact isRead_group ih
  | call name arguments hall ih => exact isRead_call hall ih
  | base _ ih =>
      intro _ pending hpending enclosing ts hts
      exact ⟨[], _, leads_of_factor ih hpending enclosing hts, rfl, by simp⟩
  | power _ _ ihbase ihexponent => exact isRead_power ihbase ihexponent
  | operand _ ih =>
      intro pending hpending
      exact readsAs_of_operand ih fun p hp => by rw [hpending p hp]; simp
  | product hop _ _ ihleft ihright => exact isRead_product hop ihleft ihright
  | term _ ih =>
      intro enclosing ts hts
      obtain ⟨inner, value, hread, hvalue, -⟩ := ih [] (by simp) enclosing ts hts
      exact ⟨inner, value, hread, hvalue, fun p _ => Nat.zero_le _⟩
  | sum hop _ _ ihleft ihright => exact isRead_sum hop ihleft ihright

/-- A whole expression is read from the start, and complete at the end of the input. -/
theorem Derives.leads (h : Derives conventional .expression w e) {ts : List Token}
    (hts : ts.map Token.lexeme = w) (pos : Nat) :
    ∃ after, Leads conventional start ts after ∧ after.conclude conventional pos = .ok e := by
  obtain ⟨pending, value, hread, rfl⟩ := leads_of_expression h.isRead [] hts
  exact ⟨_, hread, rfl⟩

/-- A beginning of an expression is read without an error. -/
theorem Viable.leads {ts : List Token} (h : Viable conventional (ts.map Token.lexeme)) :
    ∃ after, Leads conventional start ts after := by
  obtain ⟨v, e, he⟩ := h
  -- the rest of the expression stands at no position in particular
  have hts : (ts ++ v.map (Token.mk · 0)).map Token.lexeme = ts.map Token.lexeme ++ v := by
    simp [Function.comp_def]
  obtain ⟨after, hread, -⟩ := he.leads hts 0
  rw [Leads, List.foldlM_append] at hread
  cases hrun : ts.foldlM (advance conventional) start with
  | error fault => rw [hrun] at hread; cases hread
  | ok next => exact ⟨next, hrun⟩

end Calculator
