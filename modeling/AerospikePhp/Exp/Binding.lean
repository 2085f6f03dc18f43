import AerospikePhp.Exp.Translation

/-!
# The bindings of `exp_let` are lost

`exp_let` takes definitions, made by `def`, and a body. The message of a definition
has no command, as that of a literal has none: `toExpression` takes its name for a
literal string and never looks at its value.

Main results:
* `sent_eq_bound_iff`: what is sent binds what the tree binds iff there is no definition
  in the tree.
* `bindingsKept_iff`: the bindings of an `exp_let`, and of all those inside of it, are kept
  iff there are none, or the daemon panics on the body.
-/

namespace AerospikePhp

namespace ExpCall

/-- `exp_let` of the definitions and the body. -/
def letIn (defs : List (String × ExpCall)) (body : ExpCall) : ExpCall :=
  .nary .expLet (defs.map (fun d => .defExp d.1 d.2) ++ [body])

/-- What a tree stands for when the definitions in it, at any depth, are kept: each binds
    its name to what its value stands for, and every other node is translated as it is. -/
def bound : ExpCall → Aero.Expression := toAero NaryCall.sent .defExp

/-- No `def`, at any depth. -/
def defFree : ExpCall → Bool :=
  allNodes
    { leaf := fun _ => true
      unary := fun _ => true
      nary := fun _ => true
      defExp := fun _ => false }

theorem bound_letIn (defs : List (String × ExpCall)) (body : ExpCall) :
    (letIn defs body).bound =
      .nary .let (defs.map (fun d => .defExp d.1 d.2.bound) ++ [body.bound]) := by
  have hdefs : (defs.map fun d => ExpCall.defExp d.1 d.2).map bound =
      defs.map fun d => .defExp d.1 d.2.bound := by
    rw [List.map_map]
    apply List.map_congr_left
    intro d _
    exact toAero_defExp _ _ d.1 d.2
  rw [letIn, bound, toAero_nary, ← bound, List.map_append, hdefs]
  rfl

theorem defFree_letIn (defs : List (String × ExpCall)) (body : ExpCall) :
    (letIn defs body).defFree = (defs.isEmpty && body.defFree) := by
  rw [letIn, defFree, allNodes_nary, ← defFree, Bool.true_and, List.all_append, List.all_cons,
    List.all_nil, Bool.and_true]
  congr 1
  cases defs with
  | nil => rfl
  | cons d defs =>
    have hd : (defExp d.1 d.2).defFree = false := allNodes_defExp _ d.1 d.2
    rw [List.map_cons, List.all_cons, hd]
    rfl

theorem translatable_letIn (defs : List (String × ExpCall)) (body : ExpCall) :
    (letIn defs body).translatable = body.translatable := by
  have hdefs : (defs.map fun d => defExp d.1 d.2).all translatable = true := by
    rw [List.all_map, List.all_eq_true]
    intro d _
    exact allNodes_defExp _ d.1 d.2
  rw [letIn, translatable, allNodes_nary, ← translatable, List.all_append, hdefs, Bool.true_and,
    Bool.true_and, List.all_cons, List.all_nil, Bool.and_true]

/-- **Main theorem.** Node by node, what is sent binds what the tree binds iff there is no
    definition: one is sent as a literal string. -/
theorem sent_eq_bound_iff (exp : ExpCall) : exp.sent = exp.bound ↔ exp.defFree = true := by
  refine toAero_eq_iff (fun call => ?_) (fun b _ name value value' b' => ?_) (allNodes_all exp)
  · exact iff_of_true rfl rfl
  · exact ⟨nofun, rfl⟩

end ExpCall

/-! ## The bindings -/

/-- Whatever `toExpression` makes of the message of an `exp_let` binds each name, in order,
    to the translation of the value of its definition, and evaluates that of the body in
    their scope; the `exp_let`s inside of the values and of the body do so, too. -/
def BindingsKept (S : Aero.ValueString) (defs : List (String × ExpCall)) (body : ExpCall) :
    Prop :=
  ∀ r, toExpression S (ExpCall.letIn defs body).build = .ok r →
    r = .nary .let (defs.map (fun d => .defExp d.1 d.2.bound) ++ [body.bound])

/-- **Main theorem.** The bindings of an `exp_let` are kept iff there are none, also inside of
    the body, or the daemon panics on the body. -/
theorem bindingsKept_iff (S : Aero.ValueString) (defs : List (String × ExpCall))
    (body : ExpCall) :
    BindingsKept S defs body ↔
      (defs = [] ∧ body.defFree = true) ∨ body.translatable = false := by
  have hfree : (ExpCall.letIn defs body).sent = (ExpCall.letIn defs body).bound ↔
      defs = [] ∧ body.defFree = true := by
    rw [ExpCall.sent_eq_bound_iff, ExpCall.defFree_letIn, Bool.and_eq_true, List.isEmpty_iff]
  rw [BindingsKept, ← ExpCall.bound_letIn, ← hfree, ← ExpCall.translatable_letIn defs body]
  constructor
  · intro hkept
    by_cases htrans : (ExpCall.letIn defs body).translatable = true
    · left
      exact hkept _ ((toExpression_build_ok_iff S).2 ⟨htrans, rfl⟩)
    · right
      exact eq_false_of_ne_true htrans
  · intro h r hr
    obtain ⟨htrans, rfl⟩ := (toExpression_build_ok_iff S).1 hr
    obtain hsent | hnot := h
    · exact hsent
    · rw [hnot] at htrans
      cases htrans

/-- `let x = 5 in x == 5`, on its own and as the body of an `exp_let` without definitions:
    the definition is sent as a string, the variable is bound to nothing. -/
theorem definition_lost :
    let eqFive : ExpCall := .binary .eq (.leaf (.var "x")) (.leaf (.intVal 5))
    let letX : ExpCall := .letIn [("x", .leaf (.intVal 5))] eqFive
    toExpression .strings letX.build =
        .ok (.nary .let [.stringVal "x", .binary .eq (.var "x") (.intVal 5)]) ∧
      ¬ BindingsKept .strings [("x", .leaf (.intVal 5))] eqFive ∧
      ¬ BindingsKept .strings [] letX := by
  refine ⟨rfl, ?_, ?_⟩
  · intro hkept
    cases hkept _ rfl
  · intro hkept
    cases hkept _ rfl

end AerospikePhp
