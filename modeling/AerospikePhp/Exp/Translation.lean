import AerospikePhp.Exp.Call
import AerospikePhp.Exp.ToExpression

/-!
# What `toExpression` makes of a tree of calls

`ExpCall.documented` maps every constructor of `Expression` to the function of the Go
client that it documents. `ExpCall.sent` is what `toExpression` makes of the message
of a tree, and differs in two constructors:
* `xor` sends the command `IntXor`, that of `int_xor`;
* `def` sends a message without a command, which is taken for a literal string.

The daemon panics on the messages of `num_floor` and `hll_bin`, whose cases are
empty or absent, and on that of `list_val` for an empty list.

Main results:
* `toExpression_build`: the translation of every tree.
* `filterTranslated_iff`: a tree used as a filter is translated iff the daemon panics on
  none of its nodes.
-/

namespace AerospikePhp

/-! ## The documented expressions -/

/-- The entries of an argument that is a hash map. -/
def Arg.entries (a : Arg) : List (Aero.Value × Aero.Value) :=
  match a.val with
  | .hashMap h => PHPValue.hashMapToAero h
  | _ => []

/-- The expression that a constructor documents. -/
def LeafCall.documented : LeafCall → Aero.Expression
  | key expType => .key (Aero.expType expType)
  | keyExists => .record .keyExists
  | intBin name => .bin .int name
  | stringBin name => .bin .string name
  | blobBin name => .bin .blob name
  | floatBin name => .bin .float name
  | geoBin name => .bin .geo name
  | listBin name => .bin .list name
  | mapBin name => .bin .map name
  | hllBin name => .bin .hll name
  -- the particle type of a bin that does not exist is 0
  | binExists name => .binary .notEq (.binType name) (.intVal 0)
  | binType name => .binType name
  | setName => .record .setName
  | deviceSize => .record .deviceSize
  | memorySize => .record .memorySize
  | lastUpdate => .record .lastUpdate
  | sinceUpdate => .record .sinceUpdate
  | voidTime => .record .voidTime
  | ttl => .record .ttl
  | isTombstone => .record .isTombstone
  | digestModulo modulo => .digestModulo modulo
  | intVal val => .intVal val
  | boolVal val => .boolVal val
  | stringVal val => .stringVal val
  | floatVal val => .floatVal val
  | blobVal val => .blobVal val
  | listVal val => .listVal (val.map Arg.toAero)
  | mapVal val _ => .mapVal val.entries
  | geoVal val => .geoVal val
  | nil => .nilValue
  | infinity => .infinityValue
  | wildcard => .wildCardValue
  | unknown => .record .unknown
  | var name => .var name

/-- The function that a constructor documents. -/
def UnaryCall.documented : UnaryCall → Aero.UnaryExp
  | not => .not
  | numAbs => .numAbs
  | numFloor => .numFloor
  | numCeil => .numCeil
  | toInt => .toInt
  | toFloat => .toFloat
  | intNot => .intNot
  | intCount => .intCount

/-- The function that a constructor documents. -/
def BinaryCall.documented : BinaryCall → Aero.BinaryExp
  | geoCompare => .geoCompare
  | eq => .eq
  | ne => .notEq
  | gt => .greater
  | ge => .greaterEq
  | lt => .less
  | le => .lessEq
  | numPow => .numPow
  | numLog => .numLog
  | numMod => .numMod
  | intLShift => .intLShift
  | intRShift => .intRShift
  | intARShift => .intARShift
  | intLScan => .intLScan
  | intRScan => .intRScan

/-- The function that a constructor documents. -/
def NaryCall.documented : NaryCall → Aero.NaryExp
  | and => .and
  | or => .or
  | xor => .exclusive
  | numAdd => .numAdd
  | numSub => .numSub
  | numMul => .numMul
  | numDiv => .numDiv
  | intAnd => .intAnd
  | intOr => .intOr
  | intXor => .intXor
  | min => .min
  | max => .max
  | cond => .cond
  | expLet => .let

/-- The function whose command a constructor sends. -/
def NaryCall.sent : NaryCall → Aero.NaryExp
  | xor => .intXor
  | call => call.documented

namespace ExpCall

/-- The expression of the Go client that stands for a tree, with the functions for a
    list of operands and for a definition. -/
def toAero (nary : NaryCall → Aero.NaryExp)
    (ofDef : String → Aero.Expression → Aero.Expression) : ExpCall → Aero.Expression :=
  fold
    { leaf := LeafCall.documented
      regexCompare := fun regex flags bin => .regexCompare regex flags (some bin)
      unary := fun call exp => .unary call.documented exp
      binary := fun call left right => .binary call.documented left right
      nary := fun call exps => .nary (nary call) exps
      defExp := ofDef }

section ToAero

variable (naryFn : NaryCall → Aero.NaryExp)
  (ofDef : String → Aero.Expression → Aero.Expression)

theorem toAero_leaf (call : LeafCall) : toAero naryFn ofDef (.leaf call) = call.documented :=
  fold_leaf _ call

theorem toAero_regexCompare (regex : String) (flags : Int64) (bin : ExpCall) :
    toAero naryFn ofDef (.regexCompare regex flags bin) =
      .regexCompare regex flags (some (toAero naryFn ofDef bin)) :=
  fold_regexCompare _ regex flags bin

theorem toAero_unary (call : UnaryCall) (exp : ExpCall) :
    toAero naryFn ofDef (.unary call exp) = .unary call.documented (toAero naryFn ofDef exp) :=
  fold_unary _ call exp

theorem toAero_binary (call : BinaryCall) (left right : ExpCall) :
    toAero naryFn ofDef (.binary call left right) =
      .binary call.documented (toAero naryFn ofDef left) (toAero naryFn ofDef right) :=
  fold_binary _ call left right

theorem toAero_nary (call : NaryCall) (exps : List ExpCall) :
    toAero naryFn ofDef (.nary call exps) =
      .nary (naryFn call) (exps.map (toAero naryFn ofDef)) :=
  fold_nary _ call exps

theorem toAero_defExp (name : String) (value : ExpCall) :
    toAero naryFn ofDef (.defExp name value) = ofDef name (toAero naryFn ofDef value) :=
  fold_defExp _ name value

end ToAero

/-- Two functions that differ in what they make of lists of operands and of definitions
    agree on a tree iff it passes the test that tells where they do. Where `dom` admits
    definitions, they never agree on one. -/
theorem toAero_eq_iff {naryFn naryFn' : NaryCall → Aero.NaryExp}
    {ofDef ofDef' : String → Aero.Expression → Aero.Expression} {dom : NodeTest}
    {nary : NaryCall → Bool} {defExp : Bool → Bool}
    (hnary : ∀ call, naryFn call = naryFn' call ↔ nary call = true)
    (hdef : ∀ b, dom.defExp b = true →
      ∀ name value value' b', ofDef name value ≠ ofDef' name value' ∧ defExp b' = false)
    {exp : ExpCall} (h : exp.allNodes dom = true) :
    exp.toAero naryFn ofDef = exp.toAero naryFn' ofDef' ↔
      exp.allNodes { leaf := fun _ => true, unary := fun _ => true, nary := nary,
                     defExp := defExp } = true := by
  induction exp using ExpCall.induct with
  | leaf call =>
    rw [toAero_leaf, toAero_leaf, allNodes_leaf]
    exact iff_of_true rfl rfl
  | regexCompare regex flags bin ih =>
    rw [allNodes_regexCompare] at h
    rw [toAero_regexCompare, toAero_regexCompare, allNodes_regexCompare, ← ih h,
      Aero.Expression.regexCompare.injEq, Option.some.injEq]
    exact ⟨fun heq => heq.2.2, fun heq => ⟨rfl, rfl, heq⟩⟩
  | unary call exp ih =>
    rw [allNodes_unary, Bool.and_eq_true] at h
    rw [toAero_unary, toAero_unary, allNodes_unary, Bool.true_and, ← ih h.2,
      Aero.Expression.unary.injEq]
    exact ⟨fun heq => heq.2, fun heq => ⟨rfl, heq⟩⟩
  | binary call left right ihl ihr =>
    rw [allNodes_binary, Bool.and_eq_true] at h
    rw [toAero_binary, toAero_binary, allNodes_binary, Bool.and_eq_true, ← ihl h.1, ← ihr h.2,
      Aero.Expression.binary.injEq]
    exact ⟨fun heq => heq.2, fun heq => ⟨rfl, heq⟩⟩
  | nary call exps ih =>
    rw [allNodes_nary, Bool.and_eq_true, List.all_eq_true] at h
    have hexps := forall₂_congr fun exp hexp => ih exp hexp (h.2 exp hexp)
    rw [toAero_nary, toAero_nary, allNodes_nary, Bool.and_eq_true, List.all_eq_true,
      Aero.Expression.nary.injEq, List.map_inj_left, hnary, hexps]
  | defExp name value ih =>
    rw [allNodes_defExp] at h
    rw [toAero_defExp, toAero_defExp, allNodes_defExp]
    obtain ⟨hne, hfail⟩ := hdef _ h name (value.toAero naryFn ofDef)
      (value.toAero naryFn' ofDef') _
    exact iff_of_false hne (ne_true_of_eq_false hfail)

/-- The expression that a tree documents. -/
def documented : ExpCall → Aero.Expression := toAero NaryCall.documented .defExp

/-- What `toExpression` makes of the message of a tree. -/
def sent : ExpCall → Aero.Expression := toAero NaryCall.sent fun name _ => .stringVal name

end ExpCall

/-! ## Trees on which the daemon panics -/

/-- Neither an `hll_bin` nor a `list_val` of an empty list. -/
def LeafCall.translatable : LeafCall → Bool
  | hllBin _ => false
  | listVal val => !val.isEmpty
  | _ => true

/-- Not a `num_floor`. -/
def UnaryCall.translatable : UnaryCall → Bool
  | numFloor => false
  | _ => true

/-- No node of the tree is one that the daemon panics on; the value of a `def` is
    never looked at. -/
def ExpCall.translatable : ExpCall → Bool :=
  allNodes
    { leaf := LeafCall.translatable
      unary := UnaryCall.translatable
      nary := fun _ => true
      defExp := fun _ => true }

/-! ## The translation -/

section Translation

variable (S : Aero.ValueString)

theorem toEach_eq_map (exps : List Proto.Expression) :
    toEach S exps = exps.map (toExpression S) := by
  induction exps with
  | nil => rw [toEach, List.map_nil]
  | cons exp exps ih => rw [toEach, ih, List.map_cons]

theorem toExpression_literal (val : Arg) :
    toExpression S (Expression.literal val) = toLiteral (some val.toProto) := by
  rw [Expression.literal, Expression.new, toExpression, Option.map_some]

theorem toExpression_valued (cmd : ExpOp) (val : Arg) :
    toExpression S (Expression.valued cmd val) =
      toCommand [] S cmd (some val.toProto) (.ok none) none none := by
  rw [Expression.valued, Expression.new, toExpression, toEach, toExpression?, Option.map_some]

theorem toExpression_operator (cmd : ExpOp) (exps : List Proto.Expression) :
    toExpression S (Expression.operator cmd exps) =
      toCommand (exps.map (toExpression S)) S cmd none (.ok none) none none := by
  rw [Expression.operator, Expression.new, toExpression, toEach_eq_map, toExpression?,
    Option.map_none]

/-! ### Leaves -/

theorem toLiteral_list (val : List Arg) :
    toLiteral (some (Arg.list val).toProto) =
      if val.isEmpty then .error .unreachable else .ok (.listVal (val.map Arg.toAero)) := by
  rw [toLiteral, toValue_some, Arg.toValueV_toProto, Fallible.ok_bind, Arg.toAero_list]
  show (toListValue _ >>= _) = _
  rw [Arg.toListValue_list]
  split_ifs
  · rfl
  · rfl

theorem mapVal_isSome {val : Arg} (h : (Expression.mapVal val).isSome = true) :
    ∃ entries, val.val = .hashMap entries := by
  unfold Expression.mapVal at h
  split at h
  · next entries hmap => exact ⟨entries, hmap⟩
  · cases h

theorem toLiteral_map {val : Arg} (h : (Expression.mapVal val).isSome = true) :
    toLiteral (some val.toProto) = .ok (.mapVal val.entries) := by
  obtain ⟨entries, hmap⟩ := mapVal_isSome h
  rw [toLiteral, toValue_some, Arg.toValueV_toProto, Fallible.ok_bind, Arg.toAero_hashMap hmap,
    Arg.entries, hmap]
  rfl

theorem get_mapVal {val : Arg} (h : (Expression.mapVal val).isSome = true) :
    (Expression.mapVal val).get h = Expression.literal val := by
  obtain ⟨entries, hmap⟩ := mapVal_isSome h
  have hsome : Expression.mapVal val = some (Expression.literal val) := by
    rw [Expression.mapVal, hmap]
  exact Option.get_of_eq_some h hsome

theorem toExpression_binType (name : String) :
    toExpression S (Expression.binType name) = .ok (.binType name) := by
  rw [Expression.binType, toExpression_valued]
  simp [toCommand, S.toString_string]

theorem toExpression_var (name : String) :
    toExpression S (Expression.var name) = .ok (.var name) := by
  rw [Expression.var, toExpression_valued]
  simp [toCommand, S.toString_string]

theorem toExpression_binExists (name : String) :
    toExpression S (Expression.binExists name) =
      .ok (.binary .notEq (.binType name) (.intVal 0)) := by
  rw [Expression.binExists, Expression.ne, toExpression_operator, List.map_cons,
    toExpression_binType]
  rfl

theorem toExpression_leaf (call : LeafCall) :
    (toExpression S call.build).toOption =
      if call.translatable then some call.documented else none := by
  cases call with
  | binExists name =>
    rw [LeafCall.build, toExpression_binExists]
    rfl
  | binType name =>
    rw [LeafCall.build, toExpression_binType]
    rfl
  | var name =>
    rw [LeafCall.build, toExpression_var]
    rfl
  | listVal val =>
    rw [LeafCall.build, Expression.listVal, toExpression_literal, toLiteral_list,
      LeafCall.translatable]
    cases val.isEmpty with
    | false => rfl
    | true => rfl
  | mapVal val returned =>
    rw [LeafCall.build, get_mapVal, toExpression_literal, toLiteral_map returned]
    rfl
  | _ => rfl

/-! ### Operators -/

theorem toExpression_unary (call : UnaryCall) (exp : Proto.Expression) :
    (toExpression S (call.build exp)).toOption =
      if call.translatable then
        (toExpression S exp).toOption.map (.unary call.documented)
      else none := by
  have hunary (fn : Aero.UnaryExp) : (unaryExp [toExpression S exp] fn).toOption =
      (toExpression S exp).toOption.map (.unary fn) := by
    exact Fallible.toOption_bind_pure (toExpression S exp) (Aero.Expression.unary fn)
  cases call with
  | numFloor =>
    rw [UnaryCall.build, Expression.numFloor, toExpression_operator]
    rfl
  | _ => exact (congrArg _ (toExpression_operator S _ [exp])).trans (hunary _)

theorem toExpression_binary (call : BinaryCall) (left right : Proto.Expression) :
    (toExpression S (call.build left right)).toOption =
      (toExpression S left).toOption.bind fun l =>
        (toExpression S right).toOption.map (.binary call.documented l) := by
  have hbinary (fn : Aero.BinaryExp) :
      (binaryExp [toExpression S left, toExpression S right] fn).toOption =
        (toExpression S left).toOption.bind fun l =>
          (toExpression S right).toOption.map (.binary fn l) := by
    show (toExpression S left >>= fun l =>
      toExpression S right >>= fun r => pure (Aero.Expression.binary fn l r)).toOption = _
    rw [Fallible.toOption_bind]
    congr 1
    funext l
    exact Fallible.toOption_bind_pure (toExpression S right) (Aero.Expression.binary fn l)
  cases call with
  | _ => exact (congrArg _ (toExpression_operator S _ [left, right])).trans (hbinary _)

theorem toExpression_nary (call : NaryCall) (exps : List Proto.Expression) :
    (toExpression S (call.build exps)).toOption =
      (exps.mapM (toExpression S)).toOption.map (.nary call.sent) := by
  have hnary (fn : Aero.NaryExp) : (naryExp (exps.map (toExpression S)) fn).toOption =
      (exps.mapM (toExpression S)).toOption.map (.nary fn) := by
    rw [naryExp, List.mapM_map, Fallible.toOption_bind_pure]
    rfl
  cases call with
  | _ => exact (congrArg _ (toExpression_operator S _ exps)).trans (hnary _)

theorem toExpression_regexCompare (regex : String) (flags : Int64) (bin : Proto.Expression) :
    (toExpression S (Expression.regexCompare regex flags bin)).toOption =
      (toExpression S bin).toOption.map fun b => .regexCompare regex flags (some b) := by
  rw [Expression.regexCompare, Expression.new, toExpression, toEach, toExpression?,
    Option.map_some]
  simp only [toCommand, toValue_some, Arg.toValueV_toProto, Fallible.ok_bind, deref,
    Arg.toAero_string, S.toString_string, bind_assoc, pure_bind, Fallible.toOption_bind_pure]

/-- A definition is taken for a literal: its value is not looked at. -/
theorem toExpression_defExp (name : String) (value : Proto.Expression) :
    toExpression S (Expression.defExp name value) = .ok (.stringVal name) := by
  rw [Expression.defExp, Expression.new, toExpression]
  rfl

/-! ### Trees -/

/-- **Main theorem.** What the daemon makes of the message of a tree. -/
theorem toExpression_build (exp : ExpCall) :
    (toExpression S exp.build).toOption = if exp.translatable then some exp.sent else none := by
  induction exp using ExpCall.induct with
  | leaf call =>
    rw [ExpCall.build_leaf, toExpression_leaf]
    rfl
  | regexCompare regex flags bin ih =>
    have htrans : (ExpCall.regexCompare regex flags bin).translatable = bin.translatable :=
      ExpCall.allNodes_regexCompare _ regex flags bin
    have hsent : (ExpCall.regexCompare regex flags bin).sent =
        .regexCompare regex flags (some bin.sent) :=
      ExpCall.toAero_regexCompare _ _ regex flags bin
    rw [ExpCall.build_regexCompare, toExpression_regexCompare, ih, htrans, hsent]
    split_ifs
    · rfl
    · rfl
  | unary call exp ih =>
    have htrans : (ExpCall.unary call exp).translatable =
        (call.translatable && exp.translatable) :=
      ExpCall.allNodes_unary _ call exp
    have hsent : (ExpCall.unary call exp).sent = .unary call.documented exp.sent :=
      ExpCall.toAero_unary _ _ call exp
    rw [ExpCall.build_unary, toExpression_unary, ih, htrans, hsent]
    cases call.translatable with
    | false => rfl
    | true =>
      cases exp.translatable with
      | false => rfl
      | true => rfl
  | binary call left right ihl ihr =>
    have htrans : (ExpCall.binary call left right).translatable =
        (left.translatable && right.translatable) :=
      ExpCall.allNodes_binary _ call left right
    have hsent : (ExpCall.binary call left right).sent =
        .binary call.documented left.sent right.sent :=
      ExpCall.toAero_binary _ _ call left right
    rw [ExpCall.build_binary, toExpression_binary, ihl, ihr, htrans, hsent]
    cases left.translatable with
    | false => rfl
    | true =>
      cases right.translatable with
      | false => rfl
      | true => rfl
  | nary call exps ih =>
    have htrans : (ExpCall.nary call exps).translatable = exps.all ExpCall.translatable := by
      rw [ExpCall.translatable, ExpCall.allNodes_nary, Bool.true_and]
    have hsent : (ExpCall.nary call exps).sent = .nary call.sent (exps.map ExpCall.sent) :=
      ExpCall.toAero_nary _ _ call exps
    have hexps := Fallible.toOption_mapM (fun exp => toExpression S (ExpCall.build exp))
      ExpCall.translatable ExpCall.sent exps ih
    rw [ExpCall.build_nary, toExpression_nary, List.mapM_map, Function.comp_def, hexps, htrans,
      hsent]
    split_ifs
    · rfl
    · rfl
  | defExp name value ih =>
    -- whatever the value is
    have htrans : (ExpCall.defExp name value).translatable = true :=
      ExpCall.allNodes_defExp _ name value
    have hsent : (ExpCall.defExp name value).sent = .stringVal name :=
      ExpCall.toAero_defExp _ _ name value
    rw [ExpCall.build_defExp, toExpression_defExp, htrans, hsent]
    rfl

theorem toExpression_build_ok_iff {exp : ExpCall} {r : Aero.Expression} :
    toExpression S exp.build = .ok r ↔ exp.translatable = true ∧ r = exp.sent := by
  rw [← Fallible.toOption_eq_some, toExpression_build]
  by_cases htrans : exp.translatable = true
  · rw [if_pos htrans, Option.some.injEq]
    exact ⟨fun h => ⟨htrans, h.symm⟩, fun h => h.2.symm⟩
  · rw [if_neg htrans]
    exact ⟨nofun, fun h => absurd h.1 htrans⟩

/-! ### Filters -/

/-- `toExpression(in.FilterExpression)`, in the conversion of a policy whose filter is the
    tree, does not panic and returns an expression that is not nil. -/
def FilterTranslated (exp : ExpCall) : Prop :=
  ∃ r, toExpression? S (some exp.build) = .ok (some r)

/-- **Main theorem.** A filter is translated iff none of its nodes, outside the values of
    definitions, is a `num_floor`, an `hll_bin` or a `list_val` of an empty list. -/
theorem filterTranslated_iff (exp : ExpCall) :
    FilterTranslated S exp ↔ exp.translatable = true := by
  constructor
  · rintro ⟨r, hr⟩
    rw [toExpression?] at hr
    obtain ⟨r', hr', -⟩ := Fallible.bind_eq_ok.1 hr
    exact ((toExpression_build_ok_iff S).1 hr').1
  · intro htrans
    have hsent := (toExpression_build_ok_iff S).2 ⟨htrans, rfl⟩
    refine ⟨exp.sent, ?_⟩
    rw [toExpression?, hsent]
    rfl

end Translation

/-- `num_floor` of a float bin: the case of its command is empty. -/
theorem floor_panics :
    toExpression? .strings (some (ExpCall.unary .numFloor (.leaf (.floatBin "x"))).build) =
        .error .unreachable ∧
      ¬ FilterTranslated .strings (.unary .numFloor (.leaf (.floatBin "x"))) := by
  refine ⟨rfl, ?_⟩
  rintro ⟨r, hr⟩
  cases hr

end AerospikePhp
