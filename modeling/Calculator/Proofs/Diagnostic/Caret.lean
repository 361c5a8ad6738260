import Mathlib
import Calculator.Calculation
import Calculator.Proofs.Evaluation.Stages
import Calculator.Proofs.Token.Successive
import Calculator.Token.Listing

/-!
# Where the caret points

An error with a place is told on three lines: the source, a caret below it, and a message. Nothing
of the source can break these lines. In the first one its line feeds are spaces, and what the
message quotes of it is escaped (`GrammarError.onOneLine_message`).

The reader of expressions asks for one reading after the other, and an error always belongs to the
last one: a fault, a token that is refused, or the end of the source (`Offends`). Its place is where
this reading begins, so that the caret stands below the first character of the lexeme or, at the
end, one column behind the last character (`caret_points_at_reading`).
-/

set_option autoImplicit false

namespace Calculator

variable {host : Host}

/-! ## Texts on one line -/

/-- The text has no line feed. -/
def OnOneLine (text : List Char) : Prop := '\n' ∉ text

instance (text : List Char) : Decidable (OnOneLine text) :=
  inferInstanceAs (Decidable ('\n' ∉ text))

theorem OnOneLine.append {s t : String} (hs : OnOneLine s.toList) (ht : OnOneLine t.toList) :
    OnOneLine (s ++ t).toList := by
  rw [String.toList_append]
  intro hmem
  rcases List.mem_append.mp hmem with h | h
  · exact hs h
  · exact ht h

/-- Every digit of a number is one of those below its base. -/
theorem exists_digitChar {base n : Nat} (hbase : 1 < base) {c : Char}
    (hc : c ∈ Nat.toDigits base n) : ∃ d < base, c = Nat.digitChar d := by
  induction n using Nat.strongRecOn with
  | ind n ih =>
      rw [Nat.toDigits_eq_if hbase] at hc
      by_cases hlt : n < base
      · rw [if_pos hlt] at hc
        exact ⟨n, hlt, List.mem_singleton.mp hc⟩
      · rw [if_neg hlt] at hc
        rcases List.mem_append.mp hc with hfront | hlast
        · have hn : 0 < n := by omega
          exact ih (n / base) (Nat.div_lt_self hn hbase) hfront
        · exact ⟨n % base, Nat.mod_lt n (by omega), List.mem_singleton.mp hlast⟩

theorem onOneLine_toDigits {base : Nat} (hbase : 1 < base) (hmost : base ≤ 16) (n : Nat) :
    OnOneLine (Nat.toDigits base n) := by
  have hdigit : ∀ d < 16, Nat.digitChar d ≠ '\n' := by decide
  intro hmem
  obtain ⟨d, hd, hc⟩ := exists_digitChar hbase hmem
  exact hdigit d (by omega) hc.symm

theorem onOneLine_nat (n : Nat) : OnOneLine (toString n).toList := by
  have hdigits : (toString n).toList = Nat.toDigits 10 n := by
    rw [Nat.toString_eq_repr, Nat.repr, String.toList_ofList]
  rw [hdigits]
  exact onOneLine_toDigits (by decide) (by decide) n

theorem onOneLine_int (n : Int) : OnOneLine (toString n).toList := by
  cases n with
  | ofNat m => exact onOneLine_nat m
  | negSucc m =>
      have hsign : OnOneLine "-".toList := by decide
      exact hsign.append (onOneLine_nat (m + 1))

/-! ### Quoted texts -/

theorem onOneLine_hexDigits (width n : Nat) : OnOneLine (hexDigits width n) := by
  intro hmem
  rcases List.mem_append.mp hmem with hzero | hdigit
  · exact absurd (List.eq_of_mem_replicate hzero) (by decide)
  · exact onOneLine_toDigits (by decide) (by decide) n hdigit

theorem onOneLine_numberedEscape (c : Char) : OnOneLine (numberedEscape c) := by
  have hmark : ∀ mark width, mark ≠ '\n' → OnOneLine ('\\' :: mark :: hexDigits width c.toNat) := by
    intro mark width hne hmem
    rcases List.mem_cons.mp hmem with h | hmem
    · cases h
    · rcases List.mem_cons.mp hmem with h | hmem
      · exact hne h.symm
      · exact onOneLine_hexDigits width c.toNat hmem
  unfold numberedEscape
  split
  · exact hmark 'x' 2 (by decide)
  · split
    · exact hmark 'u' 4 (by decide)
    · exact hmark 'U' 8 (by decide)

/-- Between quotes a line feed is escaped, and so no character is written as one. -/
theorem onOneLine_quoteChar {quote : Char} (hquote : quote ≠ '\n') (c : Char) :
    OnOneLine (quoteChar quote c) := by
  unfold quoteChar
  split
  · next hc =>
      intro hmem
      have hc' : c ≠ '\n' := by
        rintro rfl
        simp [hquote.symm] at hc
      rcases List.mem_pair.mp hmem with h | h
      · cases h
      · exact hc' h.symm
  · split
    · decide
    · next hfeed =>
        split
        · decide
        · split
          · decide
          · split
            · intro hmem
              exact hfeed (List.mem_singleton.mp hmem).symm
            · exact onOneLine_numberedEscape c

theorem onOneLine_quoted (text : String) : OnOneLine (quoted text).toList := by
  have hquote : quoteFor text.toList ≠ '\n' := by
    unfold quoteFor
    split <;> decide
  rw [quoted, String.toList_ofList]
  intro hmem
  simp only [quoteChars, List.cons_append, List.mem_cons, List.mem_append, List.mem_flatMap,
    List.not_mem_nil, or_false] at hmem
  rcases hmem with h | ⟨c, -, hc⟩ | h
  · exact hquote h.symm
  · exact onOneLine_quoteChar hquote c hc
  · exact hquote h.symm

/-! ### Messages -/

theorem onOneLine_lead {lead : String} (hlead : OnOneLine lead.toList) (text : String) :
    OnOneLine (lead ++ quoted text).toList :=
  hlead.append (onOneLine_quoted text)

theorem LexicalError.onOneLine_message (cause : LexicalError) :
    OnOneLine cause.message.toList := by
  cases cause with
  | unknownCharacter c => exact onOneLine_lead (by decide) _
  | malformedNumber text => exact onOneLine_lead (by decide) text
  | unknownName name => exact onOneLine_lead (by decide) name

theorem onOneLine_writeInt {n : Int} {written : String} (h : writeInt n = .ok written) :
    OnOneLine written.toList := by
  unfold writeInt at h
  split at h
  · cases h
  · cases h
    exact onOneLine_int n

/-- Whatever the source is, the message about it stays on one line. -/
theorem GrammarError.onOneLine_message {cause : GrammarError} {message : String}
    (h : cause.message = .ok message) : OnOneLine message.toList := by
  cases cause with
  | tooNested limit =>
      obtain ⟨written, hwritten, h⟩ := bind_eq_ok_iff.mp h
      cases h
      exact (OnOneLine.append (by decide) (onOneLine_writeInt hwritten)).append (by decide)
  | unexpectedEnd =>
      cases h
      decide
  | unclosedGroup opened =>
      cases h
      exact OnOneLine.append (by decide) (onOneLine_nat opened)
  | unexpectedToken text | missingArguments text | unclosedArguments text | trailing text =>
      cases h
      exact onOneLine_lead (by decide) text

/-! ## Three lines -/

/-- An error at a position of a source is told on three lines: the source with spaces for its tabs,
carriage returns and line feeds, the caret below the position, and the message. -/
structure IsShownAt (source : String) (pos : Nat) (d : Diagnostic) : Prop where
  place_eq : d.place = some ⟨source, pos⟩
  le_length : pos ≤ source.toList.length
  /-- The caret need not be moved into the source. -/
  column_eq : Place.column ⟨source, pos⟩ = pos
  lines_eq : ∃ shown : List Char, d.text.toList.splitOn '\n' =
      [' ' :: ' ' :: shown, List.replicate (pos + 2) ' ' ++ ['^'], d.message.toList] ∧
    shown.length = source.toList.length ∧
    ∀ (i : Nat) (ch : Char), source.toList[i]? = some ch →
      shown[i]? = some (if ch = '\t' ∨ ch = '\r' ∨ ch = '\n' then ' ' else ch)
  message_onOneLine : '\n' ∉ d.message.toList

theorem onOneLine_onOneLine (source : List Char) : OnOneLine (onOneLine source) := by
  intro hmem
  obtain ⟨ch, -, hch⟩ := List.mem_map.mp hmem
  by_cases hfeed : ch = '\n'
  · simp [hfeed] at hch
  · split at hch
    · cases hch
    · exact hfeed hch

theorem getElem?_onOneLine {source : List Char} {i : Nat} {ch : Char} (h : source[i]? = some ch) :
    (onOneLine source)[i]? = some (if ch = '\t' ∨ ch = '\r' ∨ ch = '\n' then ' ' else ch) := by
  have hsame : (ch = '\n' || ch = '\r' || ch = '\t') = true ↔
      ch = '\t' ∨ ch = '\r' ∨ ch = '\n' := by
    simp only [Bool.or_eq_true, decide_eq_true_eq]
    tauto
  rw [onOneLine, List.getElem?_map, h, Option.map_some]
  by_cases hspace : ch = '\t' ∨ ch = '\r' ∨ ch = '\n'
  · rw [if_pos (hsame.mpr hspace), if_pos hspace]
  · rw [if_neg (mt hsame.mp hspace), if_neg hspace]

/-- Three texts without line feeds are the lines of the text made of them. -/
theorem splitOn_three {first second third : List Char} (hfirst : OnOneLine first)
    (hsecond : OnOneLine second) (hthird : OnOneLine third) :
    (first ++ '\n' :: second ++ '\n' :: third).splitOn '\n' = [first, second, third] := by
  have hlines : ∀ line ∈ [first, second, third], '\n' ∉ line := by
    intro line hline
    simp only [List.mem_cons, List.not_mem_nil, or_false] at hline
    rcases hline with rfl | rfl | rfl
    · exact hfirst
    · exact hsecond
    · exact hthird
  have hjoined : first ++ '\n' :: second ++ '\n' :: third =
      ['\n'].intercalate [first, second, third] := by
    simp [List.intercalate_cons_cons]
  rw [hjoined]
  exact List.splitOn_intercalate '\n' hlines (by simp)

/-- A place in its source is shown as it is. -/
theorem isShownAt_of_le {source message : String} {pos : Nat} (stage : Stage)
    (hpos : pos ≤ source.toList.length) (hmessage : OnOneLine message.toList) :
    IsShownAt source pos ⟨stage, message, some ⟨source, pos⟩⟩ := by
  have hcolumn : Place.column ⟨source, pos⟩ = pos := by
    show min (Int.toNat pos) source.toList.length = pos
    rw [Int.toNat_natCast]
    omega
  have hcaret : Place.caretLine ⟨source, pos⟩ = List.replicate (pos + 2) ' ' ++ ['^'] := by
    rw [Place.caretLine, hcolumn]
    rfl
  have hsource : OnOneLine (Place.sourceLine ⟨source, pos⟩) := by
    intro hmem
    simp only [Place.sourceLine, List.mem_cons] at hmem
    rcases hmem with h | h | h
    · cases h
    · cases h
    · exact onOneLine_onOneLine source.toList h
  have hcaretLine : OnOneLine (List.replicate (pos + 2) ' ' ++ ['^']) := by
    intro hmem
    rcases List.mem_append.mp hmem with h | h
    · exact absurd (List.eq_of_mem_replicate h) (by decide)
    · exact absurd (List.mem_singleton.mp h) (by decide)
  refine ⟨rfl, hpos, hcolumn, ⟨onOneLine source.toList, ?_, length_onOneLine _,
    fun i ch h => getElem?_onOneLine h⟩, hmessage⟩
  have htext : (Diagnostic.text ⟨stage, message, some ⟨source, pos⟩⟩).toList =
      Place.sourceLine ⟨source, pos⟩ ++ '\n' :: (List.replicate (pos + 2) ' ' ++ ['^']) ++
        '\n' :: message.toList := by
    have hfeed : "\n".toList = ['\n'] := rfl
    simp only [Diagnostic.text, Place.format, String.toList_append, String.toList_ofList, hcaret,
      hfeed]
    exact List.append_assoc _ _ _
  rw [htext]
  exact splitOn_three hsource hcaretLine hmessage

/-! ## The reading that is refused -/

/-- Where a reading begins: with the first character of its lexeme, or behind the last character of
the source. -/
inductive BeginsAt (v : Vocabulary) (source : List Char) (pos : Nat) : Reading → Prop
  | lexeme {text rest : List Char} {reading : Reading} :
      source.drop pos = text ++ rest → Reports v text rest pos reading →
      BeginsAt v source pos reading
  | unknownCharacter {ch : Char} {rest : List Char} :
      source.drop pos = ch :: rest → isKnownChar ch = false →
      BeginsAt v source pos (.fault ⟨.unknownCharacter ch, pos⟩)
  | endOfInput : pos = source.length → BeginsAt v source pos (.endOfInput pos)

/-- How a source is refused: what is read after tokens that are accepted is no token, or it is a
token that is refused, or it is the end and is refused. -/
inductive Offends (v : Vocabulary) (rules : Rules) (source : String) : ParseError → Reading → Prop
  | fault {ts : List Token} {c : Cursor} {state : Draft} {f : LexicalFault} :
      Cursor.Reads v (.ofSource source) ts c → ts.foldlM (Draft.step rules) .start = .ok state →
      (c.read v).1 = .fault f → Offends v rules source (.lexical f) (.fault f)
  | token {ts : List Token} {c : Cursor} {state : Draft} {t : Token} {f : GrammarFault} :
      Cursor.Reads v (.ofSource source) ts c → ts.foldlM (Draft.step rules) .start = .ok state →
      (c.read v).1 = .token t → state.step rules t = .error f →
      Offends v rules source (.grammar f) (.token t)
  | endOfInput {ts : List Token} {c : Cursor} {state : Draft} {pos : Nat} {f : GrammarFault} :
      Cursor.Reads v (.ofSource source) ts c → ts.foldlM (Draft.step rules) .start = .ok state →
      (c.read v).1 = .endOfInput pos → state.finish rules pos = .error f →
      Offends v rules source (.grammar f) (.endOfInput pos)

section

variable {v : Vocabulary} {rules : Rules} {source : String} {cause : ParseError} {reading : Reading}

theorem BeginsAt.le_length {pos : Nat} {source : List Char} (h : BeginsAt v source pos reading) :
    pos ≤ source.length := by
  by_contra hlt
  have hnil : source.drop pos = [] := List.drop_of_length_le (by omega)
  cases h with
  | lexeme hdrop hreports =>
      rw [hnil] at hdrop
      exact hreports.text_ne_nil (List.append_eq_nil_iff.mp hdrop.symm).1
  | unknownCharacter hdrop _ =>
      rw [hnil] at hdrop
      cases hdrop
  | endOfInput hpos => omega

/-- Behind the blanks a reading begins. -/
theorem ReadsFrom.beginsAt {source : List Char} {pos next : Nat}
    (h : ReadsFrom v source pos reading next) : BeginsAt v source reading.pos reading := by
  cases h with
  | @lexeme blanks text rest _ hdrop _ hreports =>
      have hword : source.drop (pos + blanks.length) = text ++ rest := by
        rw [← List.drop_drop, hdrop, List.drop_left]
      rw [hreports.pos_eq]
      exact .lexeme hword hreports
  | endOfInput _ => exact .endOfInput rfl
  | @unknownCharacter blanks rest ch hdrop _ hunknown =>
      have hword : source.drop (pos + blanks.length) = ch :: rest := by
        rw [← List.drop_drop, hdrop, List.drop_left]
      exact .unknownCharacter hword hunknown

/-- A cursor that reading leads to stands in front of the place of its next reading. -/
theorem Cursor.Reads.beginsAt {ts : List Token} {c : Cursor}
    (h : Cursor.Reads v (.ofSource source) ts c) :
    BeginsAt v source.toList (c.read v).1.pos (c.read v).1 :=
  ((Cursor.at_ofSource source).reads h).readsFrom.beginsAt

theorem Offends.beginsAt (h : Offends v rules source cause reading) :
    BeginsAt v source.toList reading.pos reading := by
  cases h with
  | fault hreads _ hread => exact hread ▸ hreads.beginsAt
  | token hreads _ hread _ => exact hread ▸ hreads.beginsAt
  | endOfInput hreads _ hread _ => exact hread ▸ hreads.beginsAt

/-- A step is refused at its token, under any rules. -/
theorem Draft.pos_of_step {state : Draft} {t : Token} {f : GrammarFault}
    (h : state.step rules t = .error f) : f.pos = t.pos := by
  rw [step_eq] at h
  split at h
  · cases h
    rfl
  · exact (advance_eq_error h).1

theorem Draft.pos_of_finish {state : Draft} {pos : Nat} {f : GrammarFault}
    (h : state.finish rules pos = .error f) : f.pos = pos := by
  rw [finish_eq] at h
  split at h
  · cases h
    rfl
  · exact (conclude_eq_error h).1

/-- The place of an error is that of the reading that is refused. -/
theorem Offends.isShownAt (h : Offends v rules source cause reading) {d : Diagnostic}
    (hd : cause.diagnostic source = .ok d) : IsShownAt source reading.pos d := by
  have hpos := h.beginsAt.le_length
  cases h with
  | @fault _ _ _ f _ _ _ =>
      cases hd
      exact isShownAt_of_le _ hpos f.cause.onOneLine_message
  | @token _ _ _ t f _ _ _ hstep =>
      obtain ⟨message, hmessage, hd⟩ := bind_eq_ok_iff.mp hd
      cases hd
      rw [Draft.pos_of_step hstep]
      exact isShownAt_of_le _ hpos (GrammarError.onOneLine_message hmessage)
  | @endOfInput _ _ _ pos f _ _ _ hfinish =>
      obtain ⟨message, hmessage, hd⟩ := bind_eq_ok_iff.mp hd
      cases hd
      rw [Draft.pos_of_finish hfinish]
      exact isShownAt_of_le _ hpos (GrammarError.onOneLine_message hmessage)

/-- An error of a scan belongs to the reading at which it stops, or to one of its tokens. -/
theorem Scan.exists_offends (h : (Scan.ofSource v source).parse rules = .error cause) :
    ∃ reading, Offends v rules source cause reading := by
  obtain ⟨c, hreads, hstops⟩ := Scan.exists_reads v source
  unfold Scan.parse at h
  split at h
  · next f hrun =>
      cases h
      obtain ⟨before, t, after, state, htokens, hbefore, hstep⟩ := Draft.foldlM_eq_error hrun
      rw [htokens] at hreads
      obtain ⟨next, hbeforeReads, hrest⟩ := hreads.of_append
      cases hrest with
      | cons hread _ => exact ⟨.token t, .token hbeforeReads hbefore (by rw [hread]) hstep⟩
  · next state hrun =>
      split at h
      · next f hstop =>
          cases h
          rw [hstop] at hstops
          cases hstops with
          | fault hread => exact ⟨.fault f, .fault hreads hrun (by rw [hread])⟩
      · next pos hstop =>
          rw [hstop] at hstops
          cases hstops with
          | endOfInput hread =>
              cases hfinish : state.finish rules pos with
              | ok e =>
                  rw [hfinish] at h
                  cases h
              | error f =>
                  rw [hfinish] at h
                  cases h
                  exact ⟨.endOfInput pos, .endOfInput hreads hrun (by rw [hread]) hfinish⟩

end

/-! ## Sources -/

variable {registry : Registry} {settings : Settings} {source : String} {cause : ParseError}

/-- Only the words for a limit beyond the capacity have no place; all other errors are those of the
scan. -/
theorem parse_scan_of_parse (h : parse host registry settings source = .error cause)
    (hcause : ∀ limit, cause ≠ .tooDeep limit) :
    (Scan.ofSource ⟨registry, settings.nameLimit⟩ source).parse (settings.rules host) =
      .error cause := by
  unfold Settings.rules
  by_cases hlimit : settings.nestingLimit ≤ host.levels
  · rw [Int.min_eq_left hlimit, ← parse_eq_of_le_levels registry source hlimit]
    exact h
  · have hcapacity : host.levels < settings.nestingLimit := Int.not_le.mp hlimit
    rw [Int.min_eq_right (Int.le_of_lt hcapacity)]
    rw [parse_eq_of_levels_lt registry source hcapacity] at h
    cases hscan : (Scan.ofSource ⟨registry, settings.nameLimit⟩ source).parse
        ⟨settings.conventionalPower, host.levels⟩ with
    | ok e =>
        rw [hscan] at h
        cases h
    | error other =>
        rw [hscan] at h
        obtain rfl : other.beyondCapacity settings.nestingLimit = cause := Except.error.inj h
        unfold ParseError.beyondCapacity at hcause ⊢
        split
        · exact absurd rfl (hcause settings.nestingLimit)
        · rfl

/-- Every error of a source, of the expression as of its tokens alone, is shown below the first
character of the lexeme that is refused, or behind the last character if the end is. Only a source
that is nested too deeply for the reader itself is told without a place, and a refusal for nesting
is not told at all if its limit cannot be written. -/
theorem caret_points_at_reading (host : Host) (registry : Registry) (settings : Settings)
    (source : String) :
    (∀ cause, parse host registry settings source = .error cause →
      (∀ limit, cause ≠ .tooDeep limit) →
      ∃ reading,
        Offends ⟨registry, settings.nameLimit⟩ (settings.rules host) source cause reading ∧
        BeginsAt ⟨registry, settings.nameLimit⟩ source.toList reading.pos reading ∧
        ((∃ d, cause.diagnostic source = .ok d ∧ IsShownAt source reading.pos d) ∨
          cause.isNesting = true ∧ isTooLong settings.nestingLimit = true ∧
            cause.diagnostic source = .error .unwritable)) ∧
    ∀ f, (Scan.ofSource ⟨registry, settings.nameLimit⟩ source).entries = .error f →
      (Scan.ofSource ⟨registry, settings.nameLimit⟩ source).stop = .fault f ∧
      BeginsAt ⟨registry, settings.nameLimit⟩ source.toList f.pos (.fault f) ∧
      ∃ d, (ParseError.lexical f).diagnostic source = .ok d ∧ IsShownAt source f.pos d := by
  constructor
  · intro cause h hcause
    obtain ⟨reading, hoffends⟩ := Scan.exists_offends (parse_scan_of_parse h hcause)
    refine ⟨reading, hoffends, hoffends.beginsAt, ?_⟩
    cases hd : cause.diagnostic source with
    | ok d => exact Or.inl ⟨d, rfl, hoffends.isShownAt hd⟩
    | error fault =>
        obtain ⟨rfl, hnesting, hlong⟩ := (diagnostic_eq_error_iff_of_parse h).mp hd
        exact Or.inr ⟨hnesting, hlong, rfl⟩
  · intro f h
    obtain ⟨c, hreads, hstops⟩ := Scan.exists_reads ⟨registry, settings.nameLimit⟩ source
    have hstop : (Scan.ofSource ⟨registry, settings.nameLimit⟩ source).stop = .fault f := by
      unfold Scan.entries at h
      split at h
      · cases h
      · next other hother =>
          cases h
          exact hother
    rw [hstop] at hstops
    cases hstops with
    | fault hread =>
        have hbegins := hreads.beginsAt
        rw [hread] at hbegins
        exact ⟨hstop, hbegins, _, rfl,
          isShownAt_of_le _ hbegins.le_length f.cause.onOneLine_message⟩

/-- The caret stands below the dollar sign, although a line feed and a tab are in front of it. -/
theorem caret_below_dollar :
    parse .standard Registry.builtin {} "2 *\n\t$" = .error (.lexical ⟨.unknownCharacter '$', 5⟩) ∧
      ∃ d, (ParseError.lexical ⟨.unknownCharacter '$', 5⟩).diagnostic "2 *\n\t$" = .ok d ∧
        IsShownAt "2 *\n\t$" 5 d := by
  have hparse : parse .standard Registry.builtin {} "2 *\n\t$" =
      .error (.lexical ⟨.unknownCharacter '$', 5⟩) := parse_eq_error_iff.mpr (by decide +kernel)
  obtain ⟨reading, hoffends, -, hshown | ⟨hnesting, -⟩⟩ :=
    (caret_points_at_reading .standard Registry.builtin {} "2 *\n\t$").1 _ hparse
      fun _ h => by cases h
  · cases hoffends with
    | fault _ _ _ => exact ⟨hparse, hshown⟩
  · cases hnesting

end Calculator
