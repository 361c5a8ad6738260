import Calculator.Proofs.Grammar.Language
import Calculator.Proofs.Token.Reads

/-!
# The first error

An error that is not one of nesting stands where the source stops being the beginning of an
expression. `Blames v conventional source cause` says what the three places can be: a lexeme that
is no token, a token with which the tokens before it cannot go on, or the end of a source whose
tokens are the beginning of an expression and none themselves. As both readers go from left to
right, no later error is reported in its place (`parse_error_blames`).
-/

set_option autoImplicit false

namespace Calculator

variable {host : Host}

/-- What an error says about a source. -/
inductive Blames (v : Vocabulary) (conventional : Bool) (source : String) : ParseError → Prop
  /-- The first lexeme that is no token begins at the position, and the tokens before it can go on
  to an expression. -/
  | lexeme {ts : List Token} {c after : Cursor} {f : LexicalFault} :
      Cursor.Reads v (Cursor.ofSource source) ts c → c.read v = (.fault f, after) →
      f.pos < source.toList.length → c.skipBlanks = ⟨f.pos, source.toList.drop f.pos⟩ →
      Viable conventional (ts.map Token.lexeme) → Blames v conventional source (.lexical f)
  /-- A token stands at the position, and the tokens before it can go on to an expression, but not
  with this one. -/
  | token {ts : List Token} {t : Token} {c : Cursor} {f : GrammarFault} :
      Cursor.Reads v (Cursor.ofSource source) (ts ++ [t]) c → f.pos = t.pos →
      Viable conventional (ts.map Token.lexeme) →
      ¬ Viable conventional ((ts ++ [t]).map Token.lexeme) →
      Blames v conventional source (.grammar f)
  /-- The source ends at the position, and its tokens can go on to an expression, but are none. -/
  | endOfInput {ts : List Token} {c after : Cursor} {f : GrammarFault} :
      Cursor.Reads v (Cursor.ofSource source) ts c → c.read v = (.endOfInput f.pos, after) →
      f.pos = source.toList.length → Viable conventional (ts.map Token.lexeme) →
      (∀ e, ¬ Derives conventional .expression (ts.map Token.lexeme) e) →
      Blames v conventional source (.grammar f)

variable {conventional : Bool}

/-! ## Runs that fail -/

/-- Tokens that lead somewhere are the beginning of an expression. -/
theorem viable_of_foldlM {ts : List Token} {state : Draft}
    (h : ts.foldlM (Draft.advance conventional) Draft.start = .ok state) :
    Viable conventional (ts.map Token.lexeme) :=
  (Draft.accounts_start.foldlM h).viable

/-- A token that is refused is hopeless, whatever follows it. -/
theorem not_viable_of_advance {ts : List Token} {t : Token} {state : Draft} {fault : GrammarFault}
    (h : ts.foldlM (Draft.advance conventional) Draft.start = .ok state)
    (ht : state.advance conventional t = .error fault) :
    ¬ Viable conventional ((ts ++ [t]).map Token.lexeme) := by
  intro hviable
  obtain ⟨after, hleads⟩ := hviable.leads
  rw [Draft.Leads, List.foldlM_append, h] at hleads
  have hstep : [t].foldlM (Draft.advance conventional) state = .error fault := by
    rw [List.foldlM_cons, ht]
    rfl
  cases hleads.symm.trans hstep

/-- Tokens after which the end of the input is refused are no expression. -/
theorem not_derives_of_conclude {ts : List Token} {state : Draft} {pos : Nat}
    {fault : GrammarFault} (h : ts.foldlM (Draft.advance conventional) Draft.start = .ok state)
    (hend : state.conclude conventional pos = .error fault) (e : Expr) :
    ¬ Derives conventional .expression (ts.map Token.lexeme) e := by
  intro he
  obtain ⟨after, hleads, hafter⟩ := he.leads rfl pos
  obtain rfl : state = after := Except.ok.inj (h.symm.trans hleads)
  cases hend.symm.trans hafter

/-! ## Errors of a source -/

/-- Without a limit, an error blames the place where the source stops being the beginning of an
expression. -/
theorem blames_of_read {v : Vocabulary} {source : String} {cause : ParseError}
    (h : (Scan.ofSource v source).read conventional = .error cause) :
    Blames v conventional source cause := by
  obtain ⟨c, hreads, hstops⟩ := Scan.exists_reads v source
  have hat : c.At source.toList := (Cursor.at_ofSource source).reads hreads
  cases Scan.fails_of_read h with
  | token htokens hbefore ht =>
      rw [htokens, List.append_cons] at hreads
      obtain ⟨next, hreads, -⟩ := hreads.of_append
      exact .token hreads (Draft.advance_eq_error ht).1 (viable_of_foldlM hbefore)
        (not_viable_of_advance hbefore ht)
  | lexeme hrun hstop =>
      rw [hstop] at hstops
      cases hstops with
      | fault hread =>
          obtain ⟨hlt, hblanks⟩ := hat.skipBlanks_fault hread
          exact .lexeme hreads hread hlt hblanks (viable_of_foldlM hrun)
  | endOfInput hrun hstop hend =>
      rw [hstop] at hstops
      cases hstops with
      | endOfInput hread =>
          exact .endOfInput hreads hread (hat.pos_endOfInput hread) (viable_of_foldlM hrun)
            (not_derives_of_conclude hrun hend)

/-- An error that is not one of nesting blames the place where the source stops being the beginning
of an expression. -/
theorem parse_error_blames (host : Host) (registry : Registry) (settings : Settings)
    (source : String) (cause : ParseError) (h : parse host registry settings source = .error cause)
    (hnesting : cause.isNesting = false) :
    Blames ⟨registry, settings.nameLimit⟩ settings.conventionalPower source cause :=
  blames_of_read (read_of_parse_eq_error h hnesting)

/-- In `2 3 $` the second number is blamed, and not the character after it that is no token. -/
theorem blames_second_number :
    parse .standard Registry.builtin {} "2 3 $" = .error (.grammar ⟨.trailing "3", 2⟩) ∧
      Blames ⟨Registry.builtin, 31⟩ false "2 3 $" (.grammar ⟨.trailing "3", 2⟩) := by
  have hparse : parse .standard Registry.builtin {} "2 3 $" = .error (.grammar ⟨.trailing "3", 2⟩) :=
    parse_eq_error_iff.mpr (by decide +kernel)
  exact ⟨hparse, parse_error_blames .standard Registry.builtin {} "2 3 $" _ hparse rfl⟩

end Calculator
