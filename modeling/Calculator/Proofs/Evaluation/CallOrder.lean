import Mathlib
import Calculator.Proofs.Evaluation.Closed
import Calculator.Proofs.Evaluation.Stages
import Calculator.Proofs.Grammar.CallSites
import Calculator.Proofs.Token.Rendering

/-!
# The order of calls

An evaluation makes the calls of its tree in the order of `Expr.calls`, each with as many arguments
as stand in the tree, and only if the function accepts that many. If it fails it has made the first
ones of them (`Run.Makes`). This is kept when one run follows another, as the calls of a node come
after those of its operands.

For a source that is read, these are its calls in the order of the parentheses that close them
(`calls_of_calculate`).
-/

set_option autoImplicit false

namespace Calculator

variable {host : Host}

/-- The name that is called and the number of arguments. -/
def Call.shape (call : Call) : String × Nat := (call.name, call.arguments.length)

/-- The registry has a function of this name that takes so many arguments. -/
def Call.IsAccepted (registry : Registry) (call : Call) : Prop :=
  ∃ f, registry.function? call.name = some f ∧ f.arity.accepts call.arguments.length = true

namespace Run

variable {α β : Type} {registry : Registry} {calls others : List (String × Nat)}

/-- The run makes these calls, in this order, or the first of them if it fails. -/
structure Makes (registry : Registry) (calls : List (String × Nat)) (r : Run α) : Prop where
  accepted : ∀ call ∈ r.calls, call.IsAccepted registry
  inOrder : r.calls.map Call.shape <+: calls
  complete : ∀ a, r.result = .ok a → r.calls.map Call.shape = calls

theorem makes_of_no_call (result : Except EvalFailure α) :
    (⟨result, []⟩ : Run α).Makes registry [] :=
  ⟨by simp, by simp, by simp⟩

theorem makes_pure (a : α) : (Run.pure a).Makes registry [] := makes_of_no_call _

theorem Makes.bind {r : Run α} {f : α → Run β} (hr : r.Makes registry calls)
    (hf : ∀ a, r.result = .ok a → (f a).Makes registry others) :
    (r.bind f).Makes registry (calls ++ others) := by
  obtain ⟨result, made⟩ := r
  cases result with
  | error failure =>
      -- nothing follows a failure
      exact ⟨hr.accepted, hr.inOrder.trans (List.prefix_append _ _), fun b hb => by cases hb⟩
  | ok a =>
      have hfirst : made.map Call.shape = calls := hr.complete a rfl
      have hnext := hf a rfl
      have hmade : (Run.bind ⟨.ok a, made⟩ f).calls.map Call.shape =
          calls ++ (f a).calls.map Call.shape := by
        rw [← hfirst]
        exact List.map_append
      refine ⟨fun call hcall => ?_, ?_, fun b hb => ?_⟩
      · rcases List.mem_append.mp hcall with hcall | hcall
        · exact hr.accepted call hcall
        · exact hnext.accepted call hcall
      · rw [hmade, List.prefix_append_right_inj]
        exact hnext.inOrder
      · rw [hmade, hnext.complete b hb]

/-- What makes no calls is followed by what does. -/
theorem Makes.after {r : Run α} {f : α → Run β} (hr : r.Makes registry [])
    (hf : ∀ a, (f a).Makes registry calls) : (r.bind f).Makes registry calls :=
  hr.bind fun a _ => hf a

/-- What makes calls is followed by what makes none. -/
theorem Makes.before {r : Run α} {f : α → Run β} (hr : r.Makes registry calls)
    (hf : ∀ a, (f a).Makes registry []) : (r.bind f).Makes registry calls := by
  simpa using hr.bind fun a _ => hf a

/-- Other words for a failure change no call. -/
theorem Makes.mapFailure {r : Run α} (h : r.Makes registry calls)
    (f : EvalFailure → EvalFailure) : (r.mapFailure f).Makes registry calls := by
  refine ⟨h.accepted, h.inOrder, fun a ha => h.complete a ?_⟩
  obtain ⟨result, made⟩ := r
  cases result with
  | error failure => cases ha
  | ok b => exact ha

end Run

/-! ## The parts of an evaluation -/

variable (registry : Registry)

theorem makes_checkDepth (limit depth : Int) : (checkDepth limit depth).Makes registry [] := by
  unfold checkDepth
  split
  · exact Run.makes_of_no_call _
  · exact Run.makes_pure ()

/-- A call is made if the function takes the arguments. -/
theorem makes_callFunction (name : String) (arguments : List Float) :
    (callFunction host registry name arguments).Makes registry [(name, arguments.length)] := by
  -- a call that is refused leaves a run without calls, which has failed
  have hrefused : ∀ cause,
      (Run.error cause : Run Float).Makes registry [(name, arguments.length)] := fun cause =>
    ⟨by simp [Run.error, Run.fail], by simp [Run.error, Run.fail], fun a ha => by cases ha⟩
  rw [callFunction_eq]
  split
  · exact hrefused _
  · next f hf =>
      split
      · next haccepts =>
          refine ⟨fun call hcall => ?_, by simp [Call.shape], fun a _ => rfl⟩
          rw [List.mem_singleton.mp hcall]
          exact ⟨f, hf, haccepts⟩
      · exact hrefused _

/-! ## Trees -/

theorem length_evaluatePlainlyList {limit depth : Int} {arguments : List Expr} {values : List Float}
    (h : (evaluatePlainlyList host registry limit depth arguments).result = .ok values) :
    values.length = arguments.length := by
  induction arguments generalizing values with
  | nil =>
      cases h
      rfl
  | cons e rest ih =>
      rw [evaluatePlainlyList] at h
      obtain ⟨value, -, hrest⟩ := Run.exists_of_bind_eq_ok h
      obtain ⟨others, hothers, hvalues⟩ := Run.exists_of_bind_eq_ok hrest
      cases hvalues
      rw [List.length_cons, List.length_cons, ih hothers]

theorem makes_evaluatePlainlyList {limit depth : Int} {arguments : List Expr}
    (h : ∀ a ∈ arguments, (evaluatePlainly host registry limit depth a).Makes registry a.calls) :
    (evaluatePlainlyList host registry limit depth arguments).Makes registry
      (Expr.listCalls arguments) := by
  induction arguments with
  | nil => exact Run.makes_pure []
  | cons e rest ih =>
      rw [evaluatePlainlyList, Expr.listCalls]
      have hrest := ih fun a ha => h a (List.mem_cons_of_mem _ ha)
      exact (h e (by simp)).bind fun value _ => hrest.before fun values => Run.makes_pure _

/-- A tree is evaluated with its calls, in their order. -/
theorem makes_evaluatePlainly (limit : Int) (e : Expr) (depth : Int) :
    (evaluatePlainly host registry limit depth e).Makes registry e.calls := by
  have hcheck := makes_checkDepth registry limit
  induction e using Expr.induct generalizing depth with
  | number value =>
      rw [evaluatePlainly]
      exact (hcheck depth).after fun _ => Run.makes_pure value
  | constant name =>
      rw [evaluatePlainly]
      exact (hcheck depth).after fun _ => Run.makes_of_no_call _
  | unary op operand ih =>
      rw [evaluatePlainly]
      exact (hcheck depth).after fun _ => (ih _).before fun value => Run.makes_of_no_call _
  | binary op left right ihl ihr =>
      rw [evaluatePlainly]
      exact (hcheck depth).after fun _ => (ihl _).bind fun l _ =>
        (ihr _).before fun r => Run.makes_of_no_call _
  | call name arguments ih =>
      rw [evaluatePlainly]
      have hlist := makes_evaluatePlainlyList registry fun a ha => ih a ha (depth + 1)
      refine (hcheck depth).after fun _ => hlist.bind fun values hvalues => ?_
      rw [← length_evaluatePlainlyList registry hvalues]
      exact makes_callFunction registry name values

theorem makes_evaluate (host : Host) (limit : Int) (e : Expr) :
    (evaluate host registry limit e).Makes registry e.calls := by
  rw [evaluate_eq_ite]
  split
  · exact makes_evaluatePlainly registry limit e 1
  · exact (makes_evaluatePlainly registry host.depth e 1).mapFailure _

/-! ## Sources -/

/-- The calls of a source, in the order of the parentheses that close them: there is one for each
name of a function, and it stands among the tokens with its arguments. -/
structure CallsInOrder (ts : List Token) (sites : List CallSite) : Prop where
  standsIn : ∀ site ∈ sites, site.StandsIn ts
  callees : (sites.map CallSite.callee).Perm (ts.filter Token.isCallee)
  ascending : (sites.map fun site => site.closing.pos).Pairwise (· < ·)

/-- What a calculation has called, as its outcome tells. -/
inductive CallsAsWritten (ts : List Token) : Except Failure Float × List Call → Prop
  /-- Nothing is called in a source that is not read. -/
  | unread (cause : ParseError) : CallsAsWritten ts (.error (.parse cause), [])
  /-- With a value, all calls of the source have been made. -/
  | value {value : Float} {calls : List Call} {sites : List CallSite} : CallsInOrder ts sites →
      calls.map Call.shape = sites.map CallSite.shape → CallsAsWritten ts (.ok value, calls)
  /-- An evaluation that fails has made the first of them. -/
  | failure {failure : EvalFailure} {calls : List Call} {sites : List CallSite} :
      CallsInOrder ts sites → calls.map Call.shape <+: sites.map CallSite.shape →
      CallsAsWritten ts (.error (.ofEvaluation failure), calls)

theorem callsInOrder_of_areCallSites {v : Vocabulary} {source : String} {sites : List CallSite}
    (h : AreCallSites (Scan.ofSource v source).tokens sites) :
    CallsInOrder (Scan.ofSource v source).tokens sites where
  standsIn := h.standsIn
  callees := h.callees
  ascending := by
    have hsublist := (h.closings.map Token.pos)
    rw [List.map_map] at hsublist
    exact (Scan.pairwise_pos v source).sublist hsublist

/-- A calculation makes the calls of its source: each name of a function is called once, in the
order of the parentheses that close the arguments, and with as many arguments as are written. If the
evaluation fails, it has made the first of these calls, and a source that is not read makes none.
Every call that is made has a number of arguments that its function takes. -/
theorem calls_of_calculate (host : Host) (settings : Settings) (source : String) :
    CallsAsWritten (Scan.ofSource ⟨registry, settings.nameLimit⟩ source).tokens
        (calculate host registry settings source) ∧
      ∀ call ∈ (calculate host registry settings source).2, call.IsAccepted registry := by
  cases hparse : parse host registry settings source with
  | error cause =>
      rw [calculate_of_error hparse]
      exact ⟨.unread cause, by simp⟩
  | ok e =>
      rw [calculate_of_ok hparse]
      obtain ⟨sites, hsites, hshapes⟩ := (derives_of_parse hparse).hasCalls rfl
      have hinOrder := callsInOrder_of_areCallSites hsites
      have hmakes := makes_evaluate registry host settings.depthLimit e
      rw [← hshapes] at hmakes
      refine ⟨?_, hmakes.accepted⟩
      generalize evaluate host registry settings.depthLimit e = r at hmakes
      obtain ⟨result, calls⟩ := r
      cases result with
      | ok value => exact .value hinOrder (hmakes.complete value rfl)
      | error failure => exact .failure hinOrder hmakes.inOrder

/-- The call that is closed first is made first: all three calls of this source are made, in this
order, and each has as many arguments as its function takes. -/
theorem calls_of_nested_call :
    (calculate .standard .builtin {} "pow(2, abs(3)) + sqrt(4)").2.map Call.shape =
        [("abs", 1), ("pow", 2), ("sqrt", 1)] ∧
      CallsAsWritten (Scan.ofSource ⟨.builtin, 31⟩ "pow(2, abs(3)) + sqrt(4)").tokens
        (calculate .standard .builtin {} "pow(2, abs(3)) + sqrt(4)") ∧
      ∀ call ∈ (calculate .standard .builtin {} "pow(2, abs(3)) + sqrt(4)").2,
        call.IsAccepted .builtin :=
  ⟨by decide +kernel, calls_of_calculate .builtin .standard {} "pow(2, abs(3)) + sqrt(4)"⟩

end Calculator
