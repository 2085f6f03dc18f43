import AerospikePhp.Exp.Translation

/-!
# The meaning of an expression is kept, unless it contains `xor`

Without bindings, the only constructor that is sent as another function than the
documented one is `xor`: "exclusive or" of booleans becomes the bitwise operation
on integers.

Main results:
* `sent_eq_documented_iff`: what is sent is what is documented iff there is no `xor`.
* `meaningKept_iff`: whatever `toExpression` returns is the documented expression iff
  there is no `xor` in the tree, or there is a node that the daemon panics on.
-/

namespace AerospikePhp

/-! ## Trees without bindings -/

namespace ExpCall

/-- No `exp_let`, `def` or `var`. -/
def bindingFree : ExpCall → Bool :=
  allNodes
    { leaf := fun call => match call with
        | .var _ => false
        | _ => true
      unary := fun _ => true
      nary := fun call => call ≠ .expLet
      defExp := fun _ => false }

/-- No `xor`. -/
def xorFree : ExpCall → Bool :=
  allNodes
    { leaf := fun _ => true
      unary := fun _ => true
      nary := fun call => call ≠ .xor
      defExp := id }

end ExpCall

/-- A tree of calls of the constructors other than `exp_let`, `def` and `var`. -/
structure PlainExp where
  exp : ExpCall
  bindingFree : exp.bindingFree = true

/-! ## What is sent and what is documented -/

theorem NaryCall.sent_eq_documented_iff (call : NaryCall) :
    call.sent = call.documented ↔ call ≠ .xor := by
  cases call with
  | xor => decide
  | _ => exact iff_of_true rfl nofun

/-- **Main theorem.** Node by node, what is sent is what is documented. -/
theorem sent_eq_documented_iff {exp : ExpCall} (h : exp.bindingFree = true) :
    exp.sent = exp.documented ↔ exp.xorFree = true := by
  refine ExpCall.toAero_eq_iff (fun call => ?_) (fun b hb => ?_) h
  · rw [NaryCall.sent_eq_documented_iff, decide_eq_true_eq]
  · cases hb

/-! ## The meaning of an expression -/

/-- Whatever `toExpression` makes of the message of a tree is what the tree documents. -/
def MeaningKept (S : Aero.ValueString) (exp : ExpCall) : Prop :=
  ∀ r, toExpression S exp.build = .ok r → r = exp.documented

/-- **Main theorem.** The meaning of a tree is kept iff there is no `xor` in it, or
    the daemon panics on it. -/
theorem meaningKept_iff (S : Aero.ValueString) (e : PlainExp) :
    MeaningKept S e.exp ↔ e.exp.xorFree = true ∨ e.exp.translatable = false := by
  rw [← sent_eq_documented_iff e.bindingFree]
  constructor
  · intro hkept
    by_cases htrans : e.exp.translatable = true
    · left
      exact hkept _ ((toExpression_build_ok_iff S).2 ⟨htrans, rfl⟩)
    · right
      exact eq_false_of_ne_true htrans
  · intro h r hr
    obtain ⟨htrans, rfl⟩ := (toExpression_build_ok_iff S).1 hr
    obtain hsent | hnot := h
    · exact hsent
    · rw [hnot] at htrans
      cases htrans

/-! ## `xor` -/

/-- `xor` of two booleans, and `int_xor` of them. -/
def xorOf (call : NaryCall) : ExpCall :=
  .nary call [.leaf (.boolVal true), .leaf (.boolVal false)]

/-- The two constructors build one expression: the bitwise operation. -/
theorem xor_sent_as_intXor :
    (xorOf .xor).bindingFree = true ∧
      toExpression .strings (xorOf .xor).build =
        .ok (.nary .intXor [.boolVal true, .boolVal false]) ∧
      toExpression .strings (xorOf .intXor).build =
        .ok (.nary .intXor [.boolVal true, .boolVal false]) ∧
      (xorOf .xor).documented = .nary .exclusive [.boolVal true, .boolVal false] ∧
      ¬ MeaningKept .strings (xorOf .xor) := by
  refine ⟨rfl, rfl, rfl, rfl, ?_⟩
  intro hkept
  cases hkept _ rfl

end AerospikePhp
