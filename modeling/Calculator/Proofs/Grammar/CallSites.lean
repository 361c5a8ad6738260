import Calculator.Proofs.Grammar.Language
import Calculator.Proofs.Token.Reads

/-!
# Calls as they stand in a source

The parentheses of an expression match, and no comma stands outside them (`Derives.isBalanced`).
So a call can be told from the tokens alone: the name of a function, a parenthesis, the arguments
with commas between them, and the parenthesis that closes them (`CallSite.StandsIn`).

The calls of a tree, in the order in which they are evaluated, are those of the source in the order
of their closing parentheses, one for each name of a function (`Derives.hasCalls`).
-/

set_option autoImplicit false

namespace Calculator

/-! ## Matching parentheses -/

/-- The parentheses among the lexemes match. If `commas` is not set, no comma stands outside of
them. -/
inductive Lexeme.IsBalanced : Bool → List Lexeme → Prop
  | nil (commas : Bool) : IsBalanced commas []
  | other {commas : Bool} {l : Lexeme} {w : List Lexeme} : l ≠ .leftParen → l ≠ .rightParen →
      (l = .comma → commas = true) → IsBalanced commas w → IsBalanced commas (l :: w)
  | parens {commas : Bool} {inside w : List Lexeme} : IsBalanced true inside → IsBalanced commas w →
      IsBalanced commas (.leftParen :: (inside ++ .rightParen :: w))

namespace Lexeme.IsBalanced

variable {commas : Bool} {w v : List Lexeme}

theorem append (hw : IsBalanced commas w) (hv : IsBalanced commas v) :
    IsBalanced commas (w ++ v) := by
  induction hw with
  | nil => exact hv
  | other hleft hright hcomma _ ih => exact .other hleft hright hcomma (ih hv)
  | @parens _ inside w hinside _ _ ih =>
      have hmore := parens hinside (ih hv)
      simpa using hmore

/-- A lexeme of its own, which is no parenthesis. -/
theorem singleton {l : Lexeme} (hleft : l ≠ .leftParen) (hright : l ≠ .rightParen)
    (hcomma : l = .comma → commas = true) : IsBalanced commas [l] :=
  .other hleft hright hcomma (.nil _)

theorem operator (op : Operator) : IsBalanced commas [.operator op] :=
  singleton (by simp) (by simp) (by simp)

/-- Lexemes in parentheses. -/
theorem enclose (h : IsBalanced true w) : IsBalanced commas (.leftParen :: (w ++ [.rightParen])) :=
  .parens h (.nil _)

/-- Commas may be allowed where there are none. -/
theorem allow (h : IsBalanced commas w) : IsBalanced true w := by
  induction h with
  | nil => exact .nil true
  | other hleft hright _ _ ih => exact .other hleft hright (fun _ => rfl) ih
  | parens hinside _ _ ih => exact .parens hinside ih

/-- Balanced lists with commas between them. -/
theorem intercalate {arguments : List (List Lexeme)} (h : ∀ a ∈ arguments, IsBalanced false a) :
    IsBalanced true ([.comma].intercalate arguments) := by
  induction arguments with
  | nil => exact .nil true
  | cons first rest ih =>
      have hrest := ih fun a ha => h a (List.mem_cons_of_mem _ ha)
      have hfirst := (h first (by simp)).allow
      cases rest with
      | nil => rwa [List.intercalate_singleton]
      | cons second rest =>
          rw [List.intercalate_cons_cons]
          have hcomma : IsBalanced true [.comma] := singleton (by simp) (by simp) fun _ => rfl
          exact (hfirst.append hcomma).append hrest

end Lexeme.IsBalanced

/-- The parentheses of a phrase match, and no comma stands outside of them. -/
theorem Derives.isBalanced {conventional : Bool} {phrase : Phrase} {w : List Lexeme} {e : Expr}
    (h : Derives conventional phrase w e) : Lexeme.IsBalanced false w := by
  induction h with
  | number text value => exact .singleton (by simp) (by simp) (by simp)
  | constant name => exact .singleton (by simp) (by simp) (by simp)
  | sign _ _ ih => exact .other (by simp) (by simp) (by simp) ih
  | group _ ih => exact ih.allow.enclose
  | call name arguments _ ih =>
      refine .other (by simp) (by simp) (by simp) (Lexeme.IsBalanced.enclose (.intercalate ?_))
      intro w hw
      obtain ⟨a, ha, rfl⟩ := List.mem_map.mp hw
      exact ih a ha
  | base _ ih | operand _ ih | term _ ih => exact ih
  | power _ _ ihw ihv => exact ihw.append (.other (by simp) (by simp) (by simp) ihv)
  | product _ _ _ ihw ihv => exact ihw.append (.other (by simp) (by simp) (by simp) ihv)
  | sum _ _ _ ihw ihv => exact ihw.append (.other (by simp) (by simp) (by simp) ihv)

/-! ## Calls of a tree -/

mutual

/-- The calls of a tree, each with the number of its arguments, in the order of evaluation: the
calls in its arguments come before a call. -/
def Expr.calls : Expr → List (String × Nat)
  | .number _ => []
  | .constant _ => []
  | .unary _ operand => operand.calls
  | .binary _ left right => left.calls ++ right.calls
  | .call name arguments => Expr.listCalls arguments ++ [(name, arguments.length)]

/-- The calls of several trees. -/
def Expr.listCalls : List Expr → List (String × Nat)
  | [] => []
  | e :: rest => e.calls ++ Expr.listCalls rest

end

/-! ## Calls of a source -/

/-- A call in a source: the token of its name, the number of its arguments, and the parenthesis that
closes them. -/
structure CallSite where
  callee : Token
  argumentCount : Nat
  closing : Token

namespace CallSite

/-- The name that is called and the number of arguments. -/
def shape (site : CallSite) : String × Nat := (site.callee.lexeme.text, site.argumentCount)

/-- The call stands among the tokens: a name of a function, an opening parenthesis, arguments with
commas between them, none of them empty, and the closing parenthesis. -/
def StandsIn (site : CallSite) (ts : List Token) : Prop :=
  ∃ before opening inside after name arguments,
    ts = before ++ site.callee :: opening :: (inside ++ site.closing :: after) ∧
      site.callee.lexeme = .function name ∧ opening.lexeme = .leftParen ∧
      site.closing.lexeme = .rightParen ∧
      inside.map Token.lexeme = [.comma].intercalate arguments ∧
      (∀ a ∈ arguments, a ≠ [] ∧ Lexeme.IsBalanced false a) ∧
      site.argumentCount = arguments.length

theorem StandsIn.append {site : CallSite} {ts : List Token} (h : site.StandsIn ts)
    (us vs : List Token) : site.StandsIn (us ++ ts ++ vs) := by
  obtain ⟨before, opening, inside, after, name, arguments, rfl, hrest⟩ := h
  exact ⟨us ++ before, opening, inside, after ++ vs, name, arguments, by simp, hrest⟩

end CallSite

/-- The token of a function's name. -/
def Token.isCallee (t : Token) : Bool := t.lexeme.kind = "function"

theorem Token.isCallee_eq_false {t : Token} {l : Lexeme} (ht : t.lexeme = l)
    (hl : l.kind ≠ "function") : t.isCallee = false := by
  rw [isCallee, ht]
  exact decide_eq_false hl

/-- All calls among the tokens: one for each name of a function, in the order of the parentheses
that close them. -/
structure AreCallSites (ts : List Token) (sites : List CallSite) : Prop where
  standsIn : ∀ site ∈ sites, site.StandsIn ts
  callees : (sites.map CallSite.callee).Perm (ts.filter Token.isCallee)
  closings : (sites.map CallSite.closing).Sublist ts

namespace AreCallSites

variable {ts us : List Token} {sites others : List CallSite}

theorem append (hts : AreCallSites ts sites) (hus : AreCallSites us others) :
    AreCallSites (ts ++ us) (sites ++ others) where
  standsIn site hsite := by
    rcases List.mem_append.mp hsite with hsite | hsite
    · simpa using (hts.standsIn site hsite).append [] us
    · simpa using (hus.standsIn site hsite).append ts []
  callees := by
    rw [List.map_append, List.filter_append]
    exact hts.callees.append hus.callees
  closings := by
    rw [List.map_append]
    exact hts.closings.append hus.closings

/-- Tokens without the name of a function. -/
theorem nil (h : ∀ t ∈ ts, t.isCallee = false) : AreCallSites ts [] where
  standsIn := by simp
  callees := by simpa [List.filter_eq_nil_iff] using h
  closings := List.nil_sublist ts

theorem cons (h : AreCallSites ts sites) {t : Token} (ht : t.isCallee = false) :
    AreCallSites (t :: ts) sites := by
  have hone : AreCallSites [t] [] := nil (by simpa using ht)
  exact hone.append h

theorem concat (h : AreCallSites ts sites) {t : Token} (ht : t.isCallee = false) :
    AreCallSites (ts ++ [t]) sites := by
  have hone : AreCallSites [t] [] := nil (by simpa using ht)
  simpa using h.append hone

/-- A call around arguments comes after the calls in them. -/
theorem call {callee opening closing : Token} {name : String} {inside : List Token}
    {arguments : List (List Lexeme)} (h : AreCallSites inside sites)
    (hcallee : callee.lexeme = .function name) (hopening : opening.lexeme = .leftParen)
    (hclosing : closing.lexeme = .rightParen)
    (hinside : inside.map Token.lexeme = [.comma].intercalate arguments)
    (harguments : ∀ a ∈ arguments, a ≠ [] ∧ Lexeme.IsBalanced false a) :
    AreCallSites (callee :: opening :: (inside ++ [closing]))
      (sites ++ [⟨callee, arguments.length, closing⟩]) where
  standsIn site hsite := by
    rcases List.mem_append.mp hsite with hsite | hsite
    · simpa using (h.standsIn site hsite).append [callee, opening] [closing]
    · rw [List.mem_singleton.mp hsite]
      exact ⟨[], opening, inside, [], name, arguments, rfl, hcallee, hopening, hclosing, hinside,
        harguments, rfl⟩
  callees := by
    have hfirst : callee.isCallee = true := by simp [Token.isCallee, hcallee, Lexeme.kind]
    have hopen : opening.isCallee = false := Token.isCallee_eq_false hopening (by decide)
    have hclose : closing.isCallee = false := Token.isCallee_eq_false hclosing (by decide)
    rw [List.map_append, List.map_singleton, List.filter_cons_of_pos hfirst,
      List.filter_cons_of_neg (by simp [hopen]), List.filter_append,
      List.filter_cons_of_neg (by simp [hclose]), List.filter_nil, List.append_nil]
    exact (List.perm_append_singleton _ _).trans (h.callees.cons callee)
  closings := by
    rw [List.map_append, List.map_singleton]
    exact ((h.closings.append (List.Sublist.refl [closing])).cons opening).cons callee

end AreCallSites

/-! ## Derivations -/

/-- The tokens have these calls, in this order. -/
def HasCalls (ts : List Token) (calls : List (String × Nat)) : Prop :=
  ∃ sites, AreCallSites ts sites ∧ sites.map CallSite.shape = calls

namespace HasCalls

variable {ts us : List Token} {calls others : List (String × Nat)}

theorem append (hts : HasCalls ts calls) (hus : HasCalls us others) :
    HasCalls (ts ++ us) (calls ++ others) := by
  obtain ⟨sites, hsites, rfl⟩ := hts
  obtain ⟨more, hmore, rfl⟩ := hus
  exact ⟨sites ++ more, hsites.append hmore, List.map_append⟩

/-- A token that is no name of a function. -/
theorem single {t : Token} (ht : t.isCallee = false) : HasCalls [t] [] :=
  ⟨[], .nil (by simpa using ht), rfl⟩

/-- A token that is no name of a function stands in front. -/
theorem cons (h : HasCalls ts calls) {t : Token} (ht : t.isCallee = false) :
    HasCalls (t :: ts) calls := (single ht).append h

/-- An operator between operands. -/
theorem binary {t : Token} {op : Operator} (hts : HasCalls ts calls) (hus : HasCalls us others)
    (ht : t.lexeme = .operator op) : HasCalls (ts ++ t :: us) (calls ++ others) :=
  hts.append (hus.cons (Token.isCallee_eq_false ht (by simp [Lexeme.kind])))

end HasCalls

/-- Arguments with commas between them have the calls of each argument, in order. -/
theorem hasCalls_arguments {arguments : List (List Lexeme × Expr)}
    (h : ∀ a ∈ arguments, ∀ ts, ts.map Token.lexeme = a.1 → HasCalls ts a.2.calls)
    {ts : List Token} (hts : ts.map Token.lexeme = [.comma].intercalate (arguments.map Prod.fst)) :
    HasCalls ts (Expr.listCalls (arguments.map Prod.snd)) := by
  induction arguments generalizing ts with
  | nil =>
      obtain rfl : ts = [] := List.map_eq_nil_iff.mp hts
      exact ⟨[], .nil (by simp), rfl⟩
  | cons a rest ih =>
      have hrest := @ih fun b hb => h b (List.mem_cons_of_mem _ hb)
      cases rest with
      | nil =>
          rw [List.map_singleton, List.intercalate_singleton] at hts
          simpa [Expr.listCalls] using h a (by simp) ts hts
      | cons b rest =>
          simp only [List.map_cons, List.intercalate_cons_cons, List.append_assoc] at hts
          obtain ⟨us, vs, rfl, hus, hvs⟩ := List.map_eq_append_iff.mp hts
          obtain ⟨comma, vs, rfl, hcomma, hvs⟩ := List.map_eq_cons_iff.mp hvs
          exact (h a (by simp) us hus).append
            ((hrest hvs).cons (Token.isCallee_eq_false hcomma (by decide)))

/-- The calls of a phrase are those of its tree. -/
theorem Derives.hasCalls {conventional : Bool} {phrase : Phrase} {w : List Lexeme} {e : Expr}
    (h : Derives conventional phrase w e) {ts : List Token} (hts : ts.map Token.lexeme = w) :
    HasCalls ts e.calls := by
  induction h generalizing ts with
  | number text value | constant name =>
      obtain ⟨t, rfl, ht⟩ := List.map_eq_singleton_iff.mp hts
      exact .single (Token.isCallee_eq_false ht (by simp [Lexeme.kind]))
  | sign _ _ ih =>
      obtain ⟨t, ts, rfl, ht, hts⟩ := List.map_eq_cons_iff.mp hts
      exact (ih hts).cons (Token.isCallee_eq_false ht (by simp [Lexeme.kind]))
  | group _ ih =>
      obtain ⟨opening, ts, rfl, hopening, hts⟩ := List.map_eq_cons_iff.mp hts
      obtain ⟨inside, last, rfl, hinside, hlast⟩ := List.map_eq_append_iff.mp hts
      obtain ⟨closing, rfl, hclosing⟩ := List.map_eq_singleton_iff.mp hlast
      have hend : HasCalls [closing] [] := .single (Token.isCallee_eq_false hclosing (by decide))
      simpa using ((ih hinside).append hend).cons (Token.isCallee_eq_false hopening (by decide))
  | call name arguments harguments ih =>
      obtain ⟨callee, ts, rfl, hcallee, hts⟩ := List.map_eq_cons_iff.mp hts
      obtain ⟨opening, ts, rfl, hopening, hts⟩ := List.map_eq_cons_iff.mp hts
      obtain ⟨inside, last, rfl, hinside, hlast⟩ := List.map_eq_append_iff.mp hts
      obtain ⟨closing, rfl, hclosing⟩ := List.map_eq_singleton_iff.mp hlast
      obtain ⟨sites, hsites, hshapes⟩ := hasCalls_arguments (fun a ha ts hts => ih a ha hts) hinside
      refine ⟨_, hsites.call hcallee hopening hclosing hinside fun w hw => ?_, ?_⟩
      · -- each argument is an expression, so it is not empty
        obtain ⟨a, ha, rfl⟩ := List.mem_map.mp hw
        obtain ⟨first, others, hfirst, -⟩ := (harguments a ha).exists_cons
        exact ⟨by rw [hfirst]; simp, (harguments a ha).isBalanced⟩
      · simp [Expr.calls, hshapes, CallSite.shape, hcallee, Lexeme.text]
  | base _ ih | operand _ ih | term _ ih => exact ih hts
  | power _ _ ihw ihv | product _ _ _ ihw ihv | sum _ _ _ ihw ihv =>
      obtain ⟨us, vs, rfl, hus, hvs⟩ := List.map_eq_append_iff.mp hts
      obtain ⟨t, vs, rfl, ht, hvs⟩ := List.map_eq_cons_iff.mp hvs
      exact (ihw hus).binary (ihv hvs) ht

end Calculator
