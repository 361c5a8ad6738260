import Calculator.Evaluation.Basic
import Calculator.Proofs.Expr.Induction
import Calculator.Registry.Builtin

/-!
# Evaluation by plain recursion

`evaluatePlainly` evaluates a tree by recursion on it: the operands from left to right, then the
operation. It enters every node at a depth, and refuses to enter one below the limit. The left
operand of a binary operator stays at the depth of the operator if it is itself one.

The evaluation along chains is this recursion: the same result, and the same calls in the same order
(`evaluate_eq_plainly`). A chain that hangs below a node goes on from the value of the node
(`AgreesPlainly`), since what is collected on the way down is applied on the way back.
-/

set_option autoImplicit false

namespace Calculator

variable {host : Host}

/-! ## Runs one after another -/

namespace Run

variable {α β γ : Type}

theorem bind_pure (r : Run α) : r.bind Run.pure = r := by
  obtain ⟨result, calls⟩ := r
  cases result <;> simp [Run.bind, Run.pure]

theorem bind_assoc (r : Run α) (f : α → Run β) (g : β → Run γ) :
    (r.bind f).bind g = r.bind fun a => (f a).bind g := by
  obtain ⟨result, calls⟩ := r
  cases result with
  | error e => rfl
  | ok a =>
      simp only [Run.bind]
      cases (f a).result <;> simp

/-- A run has a value when both of its parts have one. -/
theorem exists_of_bind_eq_ok {r : Run α} {f : α → Run β} {b : β}
    (h : (r.bind f).result = .ok b) : ∃ a, r.result = .ok a ∧ (f a).result = .ok b := by
  obtain ⟨result, calls⟩ := r
  cases result with
  | error e => cases h
  | ok a => exact ⟨a, rfl, h⟩

end Run

/-! ## The plain recursion -/

/-- The depth of the left operand of a binary operator at a depth. -/
def Expr.leftDepth (depth : Int) : Expr → Int
  | .binary _ _ _ => depth
  | _ => depth + 1

mutual

/-- Evaluate a tree whose root has a depth. -/
def evaluatePlainly (host : Host) (registry : Registry) (limit depth : Int) : Expr → Run Float
  | .number value =>
      (checkDepth limit depth).bind fun _ => .pure value
  | .constant name =>
      (checkDepth limit depth).bind fun _ => ⟨constantValue registry name, []⟩
  | .unary op operand =>
      (checkDepth limit depth).bind fun _ =>
        (evaluatePlainly host registry limit (depth + 1) operand).bind fun value =>
          ⟨applyUnary op value, []⟩
  | .call name arguments =>
      (checkDepth limit depth).bind fun _ =>
        (evaluatePlainlyList host registry limit (depth + 1) arguments).bind fun values =>
          callFunction host registry name values
  | .binary op left right =>
      (checkDepth limit depth).bind fun _ =>
        (evaluatePlainly host registry limit (left.leftDepth depth) left).bind fun l =>
          (evaluatePlainly host registry limit (depth + 1) right).bind fun r =>
            ⟨applyBinary host op l r, []⟩

/-- Evaluate trees of one depth from left to right. -/
def evaluatePlainlyList (host : Host) (registry : Registry) (limit depth : Int) :
    List Expr → Run (List Float)
  | [] => .pure []
  | e :: rest =>
      (evaluatePlainly host registry limit depth e).bind fun value =>
        (evaluatePlainlyList host registry limit depth rest).bind fun values =>
          .pure (value :: values)

end

mutual

/-- The depths of the nodes of a tree whose root has a depth. -/
def Expr.depths (depth : Int) : Expr → List Int
  | .number _ => [depth]
  | .constant _ => [depth]
  | .unary _ operand => depth :: operand.depths (depth + 1)
  | .call _ arguments => depth :: Expr.listDepths (depth + 1) arguments
  | .binary _ left right =>
      depth :: (left.depths (left.leftDepth depth) ++ right.depths (depth + 1))

/-- The depths of the nodes of several trees whose roots have one depth. -/
def Expr.listDepths (depth : Int) : List Expr → List Int
  | [] => []
  | e :: rest => e.depths depth ++ Expr.listDepths depth rest

end

/-! ## Chains -/

theorem Link.applyAll_nil : Link.applyAll host [] = Run.pure := rfl

/-- A chain goes on from a run as from its value. -/
theorem Link.foldl_eq_bind (chain : List Link) (r : Run Float) :
    chain.foldl (fun left link => left.bind fun left => (link.right ()).bind fun right =>
      ⟨applyBinary host link.op left right, []⟩) r = r.bind (applyAll host chain) := by
  induction chain generalizing r with
  | nil => exact (Run.bind_pure r).symm
  | cons link chain ih =>
      have hcons : applyAll host (link :: chain) = fun value =>
          ((link.right ()).bind fun right => ⟨applyBinary host link.op value right, []⟩).bind
            (applyAll host chain) := by
        funext value
        rw [applyAll, List.foldl_cons, ih, Run.pure_bind]
      rw [List.foldl_cons, ih, Run.bind_assoc, hcons]

/-- The first link of a chain is applied before the others. -/
theorem Link.applyAll_cons (link : Link) (chain : List Link) (value : Float) :
    applyAll host (link :: chain) value =
      ((link.right ()).bind fun right => ⟨applyBinary host link.op value right, []⟩).bind
        (applyAll host chain) := by
  rw [applyAll, List.foldl_cons, foldl_eq_bind, Run.pure_bind]

/-! ## Chains as recursion -/

theorem checkDepth_of_le {limit depth : Int} (h : depth ≤ limit) :
    checkDepth limit depth = .pure () :=
  if_neg (Int.not_lt.mpr h)

theorem checkDepth_of_lt {limit depth : Int} (h : limit < depth) :
    checkDepth limit depth = .error (.tooDeep limit) :=
  if_pos h

/-- What a tree is evaluated to, alone and at the end of a chain that hangs below a node. -/
def AgreesPlainly (host : Host) (registry : Registry) (limit : Int) (e : Expr) : Prop :=
  (∀ depth, evaluateAt host registry limit depth [] e =
      evaluatePlainly host registry limit depth e) ∧
    ∀ depth link chain, depth ≤ limit →
      evaluateAt host registry limit (depth + 1) (link :: chain) e =
        (evaluatePlainly host registry limit (e.leftDepth depth) e).bind
          (Link.applyAll host (link :: chain))

theorem evaluateList_eq_plainly {registry : Registry} {limit : Int} {arguments : List Expr}
    (h : ∀ a ∈ arguments, AgreesPlainly host registry limit a) (depth : Int) :
    evaluateList host registry limit depth arguments =
      evaluatePlainlyList host registry limit depth arguments := by
  induction arguments with
  | nil => rfl
  | cons e rest ih =>
      rw [evaluateList, evaluatePlainlyList, (h e (by simp)).1,
        ih fun a ha => h a (List.mem_cons_of_mem _ ha)]

/-- A link whose right operand agrees is applied by the plain recursion on that operand. -/
theorem Link.applyAll_cons_plainly {registry : Registry} {limit : Int} {right : Expr}
    (h : AgreesPlainly host registry limit right) (op : BinaryOp) (depth : Int) (chain : List Link) :
    applyAll host (⟨op, fun _ => evaluateAt host registry limit depth [] right⟩ :: chain) =
      fun value => (evaluatePlainly host registry limit depth right).bind fun r =>
        (⟨applyBinary host op value r, []⟩ : Run Float).bind (applyAll host chain) := by
  funext value
  rw [applyAll_cons, h.1, Run.bind_assoc]

/-- The evaluation along chains is the plain recursion. -/
theorem agreesPlainly (registry : Registry) (limit : Int) (e : Expr) :
    AgreesPlainly host registry limit e := by
  -- both parts go together: the left operand of an operator is evaluated with a chain, and its right
  -- operand without one
  induction e using Expr.induct with
  | number value =>
      refine ⟨fun depth => ?_, fun depth link chain _ => ?_⟩
      · rw [evaluateAt, evaluatePlainly, Link.applyAll_nil]
      · rw [evaluateAt, evaluatePlainly, Run.bind_assoc]
        simp only [Run.pure_bind, Expr.leftDepth]
  | constant name =>
      refine ⟨fun depth => ?_, fun depth link chain _ => ?_⟩
      · rw [evaluateAt, evaluatePlainly, Link.applyAll_nil]
        simp only [Run.bind_pure]
      · rw [evaluateAt, evaluatePlainly, Run.bind_assoc]
        rfl
  | unary op operand ih =>
      refine ⟨fun depth => ?_, fun depth link chain _ => ?_⟩
      · rw [evaluateAt, evaluatePlainly, Link.applyAll_nil, ih.1]
        simp only [Run.bind_pure]
      · rw [evaluateAt, evaluatePlainly, ih.1]
        simp only [Run.bind_assoc, Expr.leftDepth]
  | call name arguments ih =>
      refine ⟨fun depth => ?_, fun depth link chain _ => ?_⟩
      · rw [evaluateAt, evaluatePlainly, Link.applyAll_nil, evaluateList_eq_plainly ih]
        simp only [Run.bind_pure]
      · rw [evaluateAt, evaluatePlainly, evaluateList_eq_plainly ih]
        simp only [Run.bind_assoc, Expr.leftDepth]
  | binary op left right ihl ihr =>
      refine ⟨fun depth => ?_, fun depth link chain hdepth => ?_⟩
      · rw [evaluateAt, evaluatePlainly]
        by_cases hdepth : depth ≤ limit
        · rw [checkDepth_of_le hdepth, Run.pure_bind, Run.pure_bind, ihl.2 depth _ [] hdepth,
            Link.applyAll_cons_plainly ihr, Link.applyAll_nil]
          simp only [Run.bind_pure]
        · rw [checkDepth_of_lt (Int.not_le.mp hdepth)]
          rfl
      · -- an operator inside a chain is entered at the depth of the chain, which was checked above it
        rw [evaluateAt, evaluatePlainly, ihl.2 depth _ _ hdepth, Link.applyAll_cons_plainly ihr]
        simp only [Expr.leftDepth, checkDepth_of_le hdepth, Run.pure_bind, Run.bind_assoc]

/-- A property of runs that is kept when one run follows another holds of the run through several
trees if it holds of the run of each. -/
theorem evaluatePlainlyList_of_forall (P : (α : Type) → Run α → Prop)
    (hpure : P (List Float) (.pure []))
    (hcons : ∀ (r : Run Float) (s : Run (List Float)), P Float r → P (List Float) s →
      P (List Float) (r.bind fun value => s.bind fun values => .pure (value :: values)))
    {registry : Registry} {limit depth : Int} {arguments : List Expr}
    (h : ∀ a ∈ arguments, P Float (evaluatePlainly host registry limit depth a)) :
    P (List Float) (evaluatePlainlyList host registry limit depth arguments) := by
  induction arguments with
  | nil => exact hpure
  | cons e rest ih =>
      rw [evaluatePlainlyList]
      exact hcons _ _ (h e (by simp)) (ih fun a ha => h a (List.mem_cons_of_mem _ ha))

/-- A property of runs that holds of everything an evaluation does at a single node, and that is kept
when one run follows another. -/
structure IsKeptByEvaluation (host : Host) (registry : Registry) (limit : Int)
    (P : (α : Type) → Run α → Prop) : Prop where
  pure {α : Type} (a : α) : P α (.pure a)
  bind {α β : Type} {r : Run α} {f : α → Run β} : P α r → (∀ a, P β (f a)) → P β (r.bind f)
  depth (depth : Int) : P Unit (checkDepth limit depth)
  constant (name : String) : P Float ⟨constantValue registry name, []⟩
  unary (op : UnaryOp) (value : Float) : P Float ⟨applyUnary op value, []⟩
  binary (op : BinaryOp) (left right : Float) : P Float ⟨applyBinary host op left right, []⟩
  call (name : String) (arguments : List Float) : P Float (callFunction host registry name arguments)

/-- Such a property holds of the run over every tree. -/
theorem IsKeptByEvaluation.evaluatePlainly {registry : Registry} {limit : Int}
    {P : (α : Type) → Run α → Prop} (h : IsKeptByEvaluation host registry limit P) (e : Expr)
    (depth : Int) : P Float (evaluatePlainly host registry limit depth e) := by
  induction e using Expr.induct generalizing depth with
  | number value =>
      rw [Calculator.evaluatePlainly]
      exact h.bind (h.depth depth) fun _ => h.pure value
  | constant name =>
      rw [Calculator.evaluatePlainly]
      exact h.bind (h.depth depth) fun _ => h.constant name
  | unary op operand ih =>
      rw [Calculator.evaluatePlainly]
      exact h.bind (h.depth depth) fun _ => h.bind (ih _) fun value => h.unary op value
  | binary op left right ihl ihr =>
      rw [Calculator.evaluatePlainly]
      exact h.bind (h.depth depth) fun _ => h.bind (ihl _) fun l => h.bind (ihr _) fun r =>
        h.binary op l r
  | call name arguments ih =>
      have hlist : P (List Float)
          (evaluatePlainlyList host registry limit (depth + 1) arguments) :=
        evaluatePlainlyList_of_forall P (h.pure [])
          (fun _ _ hr hs => h.bind hr fun _ => h.bind hs fun _ => h.pure _)
          fun a ha => ih a ha (depth + 1)
      rw [Calculator.evaluatePlainly]
      exact h.bind (h.depth depth) fun _ => h.bind hlist fun values => h.call name values

/-- The evaluator is the plain recursion, under the capacity if the limit is beyond it. -/
theorem evaluate_eq_ite (registry : Registry) (limit : Int) (e : Expr) :
    evaluate host registry limit e =
      if limit ≤ host.depth then evaluatePlainly host registry limit 1 e
      else (evaluatePlainly host registry host.depth 1 e).mapFailure
        (EvalFailure.beyondCapacity limit) := by
  rw [evaluate, (agreesPlainly registry limit e).1, (agreesPlainly registry host.depth e).1]

/-! ## Depth -/

namespace Run

variable {α β : Type}

/-- The run stopped at a node below the limit. -/
def WentTooDeep (r : Run α) : Prop := ∃ limit, r.result = .error (.error (.tooDeep limit))

theorem not_wentTooDeep_pure (a : α) : ¬ (Run.pure a).WentTooDeep := by
  rintro ⟨limit, h⟩
  cases h

theorem not_wentTooDeep_bind {r : Run α} {f : α → Run β} (hr : ¬ r.WentTooDeep)
    (hf : ∀ a, ¬ (f a).WentTooDeep) : ¬ (r.bind f).WentTooDeep := by
  obtain ⟨result, calls⟩ := r
  cases result with
  | error failure => exact fun ⟨limit, h⟩ => hr ⟨limit, by cases h; rfl⟩
  | ok a => exact hf a

/-- Two runs that are the same unless the first goes too deep, each followed by such a run. -/
theorem bind_wentTooDeep_or_eq {r s : Run α} {f g : α → Run β} (hr : r.WentTooDeep ∨ r = s)
    (hf : ∀ a, (f a).WentTooDeep ∨ f a = g a) :
    (r.bind f).WentTooDeep ∨ r.bind f = s.bind g := by
  obtain ⟨result, calls⟩ := r
  rcases hr with ⟨limit, h⟩ | rfl
  · cases h
    exact Or.inl ⟨limit, rfl⟩
  · cases result with
    | error failure => exact Or.inr rfl
    | ok a =>
        rcases hf a with ⟨limit, h⟩ | h
        · exact Or.inl ⟨limit, h⟩
        · right
          simp only [Run.bind, h]

end Run

theorem not_wentTooDeep_constantValue (registry : Registry) (name : String) :
    ¬ (⟨constantValue registry name, []⟩ : Run Float).WentTooDeep := by
  rintro ⟨limit, h⟩
  simp only [constantValue_eq] at h
  split at h <;> cases h

theorem not_wentTooDeep_applyUnary (op : UnaryOp) (value : Float) :
    ¬ (⟨applyUnary op value, []⟩ : Run Float).WentTooDeep := by
  rintro ⟨limit, h⟩
  cases op <;> cases h

theorem not_wentTooDeep_applyBinary (op : BinaryOp) (left right : Float) :
    ¬ (⟨applyBinary host op left right, []⟩ : Run Float).WentTooDeep := by
  rintro ⟨limit, h⟩
  cases op with
  | div =>
      simp only [applyBinary_div] at h
      split at h <;> cases h
  | _ => cases h

theorem not_wentTooDeep_callFunction (registry : Registry) (name : String) (values : List Float) :
    ¬ (callFunction host registry name values).WentTooDeep := by
  rintro ⟨limit, h⟩
  rw [callFunction_eq] at h
  split at h
  · cases h
  · split at h
    · simp only [Function.value] at h
      split at h <;> cases h
    · cases h

theorem not_wentTooDeep_checkDepth {limit depth : Int} (h : depth ≤ limit) :
    ¬ (checkDepth limit depth).WentTooDeep := by
  rw [checkDepth_of_le h]
  exact Run.not_wentTooDeep_pure ()

/-! ## Other limits -/

/-- A node that may be entered may be entered with more room below the limit. -/
theorem checkDepth_wentTooDeep_or_eq {limit other depth depth' : Int}
    (hroom : limit - depth ≤ other - depth') :
    (checkDepth limit depth).WentTooDeep ∨ checkDepth limit depth = checkDepth other depth' := by
  by_cases hdepth : depth ≤ limit
  · right
    have hdepth' : depth' ≤ other := by omega
    rw [checkDepth_of_le hdepth, checkDepth_of_le hdepth']
  · left
    rw [checkDepth_of_lt (Int.not_le.mp hdepth)]
    exact ⟨limit, rfl⟩

theorem evaluatePlainlyList_wentTooDeep_or_eq {registry : Registry} {limit other depth depth' : Int}
    {arguments : List Expr}
    (h : ∀ a ∈ arguments, (evaluatePlainly host registry limit depth a).WentTooDeep ∨
      evaluatePlainly host registry limit depth a = evaluatePlainly host registry other depth' a) :
    (evaluatePlainlyList host registry limit depth arguments).WentTooDeep ∨
      evaluatePlainlyList host registry limit depth arguments =
        evaluatePlainlyList host registry other depth' arguments := by
  induction arguments with
  | nil => exact Or.inr rfl
  | cons e rest ih =>
      have hrest := ih fun a ha => h a (List.mem_cons_of_mem _ ha)
      exact Run.bind_wentTooDeep_or_eq (h e (by simp)) fun _ =>
        Run.bind_wentTooDeep_or_eq hrest fun _ => Or.inr rfl

/-- A left operand is as much deeper as its node is. -/
theorem Expr.leftDepth_eq (depth : Int) (e : Expr) : e.leftDepth depth = depth + e.leftDepth 0 := by
  cases e <;> simp [leftDepth]

/-- More room between a tree and the limit changes nothing, unless the tree has too little. -/
theorem evaluatePlainly_of_room (registry : Registry) {limit other : Int} (e : Expr)
    {depth depth' : Int} (hroom : limit - depth ≤ other - depth') :
    (evaluatePlainly host registry limit depth e).WentTooDeep ∨
      evaluatePlainly host registry limit depth e = evaluatePlainly host registry other depth' e := by
  induction e using Expr.induct generalizing depth depth' with
  | number value =>
      exact Run.bind_wentTooDeep_or_eq (checkDepth_wentTooDeep_or_eq hroom) fun _ => Or.inr rfl
  | constant name =>
      exact Run.bind_wentTooDeep_or_eq (checkDepth_wentTooDeep_or_eq hroom) fun _ => Or.inr rfl
  | unary op operand ih =>
      have hoperand : limit - (depth + 1) ≤ other - (depth' + 1) := by omega
      exact Run.bind_wentTooDeep_or_eq (checkDepth_wentTooDeep_or_eq hroom) fun _ =>
        Run.bind_wentTooDeep_or_eq (ih hoperand) fun _ => Or.inr rfl
  | binary op left right ihl ihr =>
      have hleft : limit - left.leftDepth depth ≤ other - left.leftDepth depth' := by
        rw [Expr.leftDepth_eq depth, Expr.leftDepth_eq depth']
        omega
      have hright : limit - (depth + 1) ≤ other - (depth' + 1) := by omega
      exact Run.bind_wentTooDeep_or_eq (checkDepth_wentTooDeep_or_eq hroom) fun _ =>
        Run.bind_wentTooDeep_or_eq (ihl hleft) fun _ =>
          Run.bind_wentTooDeep_or_eq (ihr hright) fun _ => Or.inr rfl
  | call name arguments ih =>
      have harguments : limit - (depth + 1) ≤ other - (depth' + 1) := by omega
      have hlist := evaluatePlainlyList_wentTooDeep_or_eq fun a ha => ih a ha harguments
      exact Run.bind_wentTooDeep_or_eq (checkDepth_wentTooDeep_or_eq hroom) fun _ =>
        Run.bind_wentTooDeep_or_eq hlist fun _ => Or.inr rfl

/-- A larger limit changes nothing, unless the smaller one is exceeded. -/
theorem evaluatePlainly_of_le (host : Host) (registry : Registry) {limit other : Int}
    (hle : limit ≤ other) (e : Expr) (depth : Int) :
    (evaluatePlainly host registry limit depth e).WentTooDeep ∨
      evaluatePlainly host registry limit depth e = evaluatePlainly host registry other depth e :=
  evaluatePlainly_of_room registry e (by omega)

/-! ## Trees within the limit -/

theorem not_wentTooDeep_evaluatePlainlyList {registry : Registry} {limit depth : Int}
    {arguments : List Expr}
    (h : ∀ a ∈ arguments, ¬ (evaluatePlainly host registry limit depth a).WentTooDeep) :
    ¬ (evaluatePlainlyList host registry limit depth arguments).WentTooDeep :=
  evaluatePlainlyList_of_forall (fun _ r => ¬ r.WentTooDeep) (Run.not_wentTooDeep_pure [])
    (fun _ _ hr hs => Run.not_wentTooDeep_bind hr fun _ =>
      Run.not_wentTooDeep_bind hs fun _ => Run.not_wentTooDeep_pure _) h

theorem Expr.mem_listDepths {depth d : Int} {arguments : List Expr} :
    d ∈ Expr.listDepths depth arguments ↔ ∃ a ∈ arguments, d ∈ a.depths depth := by
  induction arguments with
  | nil => simp [Expr.listDepths]
  | cons e rest ih => simp [Expr.listDepths, ih]

/-- Within its limit no tree goes too deep. -/
theorem not_wentTooDeep_of_depths (host : Host) (registry : Registry) {limit : Int} (e : Expr)
    (depth : Int) (h : ∀ d ∈ e.depths depth, d ≤ limit) :
    ¬ (evaluatePlainly host registry limit depth e).WentTooDeep := by
  induction e using Expr.induct generalizing depth with
  | number value =>
      have hcheck := not_wentTooDeep_checkDepth (h depth (by simp [Expr.depths]))
      rw [evaluatePlainly]
      exact Run.not_wentTooDeep_bind hcheck fun _ => Run.not_wentTooDeep_pure value
  | constant name =>
      have hcheck := not_wentTooDeep_checkDepth (h depth (by simp [Expr.depths]))
      rw [evaluatePlainly]
      exact Run.not_wentTooDeep_bind hcheck fun _ => not_wentTooDeep_constantValue registry name
  | unary op operand ih =>
      have hcheck := not_wentTooDeep_checkDepth (h depth (by simp [Expr.depths]))
      rw [evaluatePlainly]
      exact Run.not_wentTooDeep_bind hcheck fun _ =>
        Run.not_wentTooDeep_bind (ih _ fun d hd => h d (by simp [Expr.depths, hd]))
          fun _ => not_wentTooDeep_applyUnary op _
  | binary op left right ihl ihr =>
      have hcheck := not_wentTooDeep_checkDepth (h depth (by simp [Expr.depths]))
      rw [evaluatePlainly]
      exact Run.not_wentTooDeep_bind hcheck fun _ =>
        Run.not_wentTooDeep_bind (ihl _ fun d hd => h d (by simp [Expr.depths, hd])) fun _ =>
          Run.not_wentTooDeep_bind (ihr _ fun d hd => h d (by simp [Expr.depths, hd]))
            fun _ => not_wentTooDeep_applyBinary op _ _
  | call name arguments ih =>
      have hcheck := not_wentTooDeep_checkDepth (h depth (by simp [Expr.depths]))
      have hlist := not_wentTooDeep_evaluatePlainlyList fun a ha =>
        ih a ha (depth + 1) fun d hd =>
          h d (List.mem_cons_of_mem _ (Expr.mem_listDepths.mpr ⟨a, ha, hd⟩))
      rw [evaluatePlainly]
      exact Run.not_wentTooDeep_bind hcheck fun _ =>
        Run.not_wentTooDeep_bind hlist fun _ => not_wentTooDeep_callFunction registry name _

/-! ## The evaluator -/

/-- Other failures keep their words under a limit beyond the capacity. -/
theorem Run.mapFailure_beyondCapacity {r : Run Float} (h : ¬ r.WentTooDeep) (limit : Int) :
    r.mapFailure (EvalFailure.beyondCapacity limit) = r := by
  obtain ⟨result, calls⟩ := r
  cases result with
  | ok value => rfl
  | error failure =>
      have hfailure : failure.beyondCapacity limit = failure := by
        unfold EvalFailure.beyondCapacity
        split
        · next n => exact absurd ⟨n, rfl⟩ h
        · rfl
      show Run.mk (.error (failure.beyondCapacity limit)) calls = _
      rw [hfailure]

/-- The evaluator gives what the plain recursion gives, result and calls, under every limit; only a
tree deeper than the capacity is refused under a limit beyond it. A tree within the limit
is never refused for its depth, and no other limit that admits it changes anything. -/
theorem evaluate_eq_plainly (host : Host) (registry : Registry) (limit : Int) (e : Expr) :
    (evaluate host registry limit e = evaluatePlainly host registry limit 1 e ∨
      (host.depth < limit ∧ (evaluatePlainly host registry host.depth 1 e).WentTooDeep ∧
        (evaluate host registry limit e).result = .error (.error (.beyondCapacity limit)))) ∧
    ((∀ d ∈ e.depths 1, d ≤ limit) →
      ¬ (evaluate host registry limit e).WentTooDeep ∧
      ∀ other, (∀ d ∈ e.depths 1, d ≤ other) →
        evaluatePlainly host registry other 1 e = evaluatePlainly host registry limit 1 e) := by
  have hplain : evaluate host registry limit e = evaluatePlainly host registry limit 1 e ∨
      (host.depth < limit ∧ (evaluatePlainly host registry host.depth 1 e).WentTooDeep ∧
        (evaluate host registry limit e).result = .error (.error (.beyondCapacity limit))) := by
    unfold evaluate
    split
    · exact Or.inl ((agreesPlainly registry limit e).1 1)
    · next hlimit =>
        have hcapacity : host.depth < limit := Int.not_le.mp hlimit
        rw [(agreesPlainly registry host.depth e).1 1]
        by_cases hdeep : (evaluatePlainly host registry host.depth 1 e).WentTooDeep
        · refine Or.inr ⟨hcapacity, hdeep, ?_⟩
          obtain ⟨n, hn⟩ := hdeep
          simp only [Run.mapFailure, hn]
          rfl
        · rw [Run.mapFailure_beyondCapacity hdeep]
          have hle := evaluatePlainly_of_le host registry (Int.le_of_lt hcapacity) e 1
          exact Or.inl (hle.resolve_left hdeep)
  refine ⟨hplain, fun hdepths => ⟨?_, fun other hother => ?_⟩⟩
  · rcases hplain with heq | ⟨-, -, hbeyond⟩
    · rw [heq]
      exact not_wentTooDeep_of_depths host registry e 1 hdepths
    · rintro ⟨n, hn⟩
      rw [hbeyond] at hn
      cases hn
  · have hlimit := not_wentTooDeep_of_depths host registry e 1 hdepths
    have hother' := not_wentTooDeep_of_depths host registry e 1 hother
    rcases Int.le_total limit other with hle | hle
    · exact ((evaluatePlainly_of_le host registry hle e 1).resolve_left hlimit).symm
    · exact (evaluatePlainly_of_le host registry hle e 1).resolve_left hother'

/-- A chain of two operators, the last with a sign and a call on its right. -/
def chainWithCall : Expr :=
  .binary .sub (.binary .mul (.number 2.0) (.constant "pi"))
    (.unary .neg (.call "abs" [.number 4.0]))

/-- The chain has depth one, and the argument of the call depth four. Under this limit the tree has a
value, and the call is made. -/
theorem evaluate_chainWithCall :
    (∀ d ∈ chainWithCall.depths 1, d ≤ 4) ∧
      ¬ (evaluate .standard Registry.builtin 4 chainWithCall).WentTooDeep ∧
      evaluate .standard Registry.builtin 4 chainWithCall =
        evaluatePlainly .standard Registry.builtin 4 1 chainWithCall ∧
      evaluate .standard Registry.builtin 4 chainWithCall =
        ⟨.ok (2.0 * Builtin.pi - -Float.abs 4.0), [⟨"abs", [4.0]⟩]⟩ := by
  have hdepths : ∀ d ∈ chainWithCall.depths 1, d ≤ 4 := by decide
  obtain ⟨hplain, hwithin⟩ := evaluate_eq_plainly Host.standard Registry.builtin 4 chainWithCall
  have heq := hplain.resolve_right fun h => absurd h.1 (by decide)
  refine ⟨hdepths, (hwithin hdepths).1, heq, ?_⟩
  rw [heq]
  rfl

end Calculator
