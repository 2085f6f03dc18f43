import AerospikePhp.Exp.Basic

/-!
# Trees of calls

A PHP program builds an expression by nested calls of the constructors of
`Expression`. `ExpCall` is the tree of these calls. What is computed from it node by
node is a fold: the message it builds (`ExpCall.build`), and predicates on its nodes
(`ExpCall.allNodes`).

Main result:
* `ExpCall.induct`: the induction rule for these trees, with the hypothesis for every
  operand of a list of operands.
-/

namespace AerospikePhp

/-! ## Calls -/

/-- A constructor without operands, with its arguments; `mapVal` stands for a call
    that returned an expression. -/
inductive LeafCall where
  | key (expType : ExpType)
  | keyExists
  | intBin (name : String)
  | stringBin (name : String)
  | blobBin (name : String)
  | floatBin (name : String)
  | geoBin (name : String)
  | listBin (name : String)
  | mapBin (name : String)
  | hllBin (name : String)
  | binExists (name : String)
  | binType (name : String)
  | setName
  | deviceSize
  | memorySize
  | lastUpdate
  | sinceUpdate
  | voidTime
  | ttl
  | isTombstone
  | digestModulo (modulo : Int64)
  | intVal (val : Int64)
  | boolVal (val : Bool)
  | stringVal (val : String)
  | floatVal (val : F64)
  | blobVal (val : List UInt8)
  | listVal (val : List Arg)
  | mapVal (val : Arg) (returned : (Expression.mapVal val).isSome = true)
  | geoVal (val : String)
  | nil
  | infinity
  | wildcard
  | unknown
  | var (name : String)

/-- A constructor with one operand. -/
inductive UnaryCall where
  | not
  | numAbs
  | numFloor
  | numCeil
  | toInt
  | toFloat
  | intNot
  | intCount
deriving DecidableEq

/-- A constructor with two operands. -/
inductive BinaryCall where
  | geoCompare
  | eq
  | ne
  | gt
  | ge
  | lt
  | le
  | numPow
  | numLog
  | numMod
  | intLShift
  | intRShift
  | intARShift
  | intLScan
  | intRScan
deriving DecidableEq

/-- A constructor with a list of operands. -/
inductive NaryCall where
  | and
  | or
  | xor
  | numAdd
  | numSub
  | numMul
  | numDiv
  | intAnd
  | intOr
  | intXor
  | min
  | max
  | cond
  | expLet
deriving DecidableEq

/-- A tree of calls. -/
inductive ExpCall where
  | leaf (call : LeafCall)
  | regexCompare (regex : String) (flags : Int64) (bin : ExpCall)
  | unary (call : UnaryCall) (exp : ExpCall)
  | binary (call : BinaryCall) (left right : ExpCall)
  | nary (call : NaryCall) (exps : List ExpCall)
  | defExp (name : String) (value : ExpCall)

namespace ExpCall

/-! ## Induction -/

section Induction

variable {motive : ExpCall → Prop}
  (leaf : ∀ call, motive (.leaf call))
  (regexCompare : ∀ regex flags bin, motive bin → motive (.regexCompare regex flags bin))
  (unary : ∀ call exp, motive exp → motive (.unary call exp))
  (binary : ∀ call left right, motive left → motive right → motive (.binary call left right))
  (nary : ∀ call exps, (∀ exp ∈ exps, motive exp) → motive (.nary call exps))
  (defExp : ∀ name value, motive value → motive (.defExp name value))

include leaf regexCompare unary binary nary defExp

@[elab_as_elim] theorem induct (exp : ExpCall) : motive exp := by
  refine ExpCall.rec (motive_1 := motive) (motive_2 := fun exps => ∀ exp ∈ exps, motive exp)
    leaf regexCompare unary binary nary defExp ?_ ?_ exp
  · intro exp hexp
    cases hexp
  · intro exp exps hexp hexps
    exact List.forall_mem_cons.2 ⟨hexp, hexps⟩

end Induction

/-! ## Folds -/

/-- What is made of each call from what was made of its operands. -/
structure Algebra (β : Type) where
  leaf : LeafCall → β
  regexCompare : String → Int64 → β → β
  unary : UnaryCall → β → β
  binary : BinaryCall → β → β → β
  nary : NaryCall → List β → β
  defExp : String → β → β

section Fold

variable {β : Type} (alg : Algebra β)

mutual

def fold : ExpCall → β
  | .leaf call => alg.leaf call
  | .regexCompare regex flags bin => alg.regexCompare regex flags (fold bin)
  | .unary call exp => alg.unary call (fold exp)
  | .binary call left right => alg.binary call (fold left) (fold right)
  | .nary call exps => alg.nary call (foldAll exps)
  | .defExp name value => alg.defExp name (fold value)

def foldAll : List ExpCall → List β
  | [] => []
  | exp :: exps => fold exp :: foldAll exps

end

theorem foldAll_eq_map (exps : List ExpCall) : foldAll alg exps = exps.map (fold alg) := by
  induction exps with
  | nil => rfl
  | cons exp exps ih => rw [foldAll, ih, List.map_cons]

theorem fold_leaf (call : LeafCall) : fold alg (.leaf call) = alg.leaf call := by rw [fold]

theorem fold_regexCompare (regex : String) (flags : Int64) (bin : ExpCall) :
    fold alg (.regexCompare regex flags bin) = alg.regexCompare regex flags (fold alg bin) := by
  rw [fold]

theorem fold_unary (call : UnaryCall) (exp : ExpCall) :
    fold alg (.unary call exp) = alg.unary call (fold alg exp) := by rw [fold]

theorem fold_binary (call : BinaryCall) (left right : ExpCall) :
    fold alg (.binary call left right) = alg.binary call (fold alg left) (fold alg right) := by
  rw [fold]

theorem fold_nary (call : NaryCall) (exps : List ExpCall) :
    fold alg (.nary call exps) = alg.nary call (exps.map (fold alg)) := by
  rw [fold, foldAll_eq_map]

theorem fold_defExp (name : String) (value : ExpCall) :
    fold alg (.defExp name value) = alg.defExp name (fold alg value) := by rw [fold]

end Fold

end ExpCall

/-! ## The message of a tree -/

/-- The message that a constructor builds. -/
def LeafCall.build : LeafCall → Proto.Expression
  | .key expType => Expression.key expType
  | .keyExists => Expression.keyExists
  | .intBin name => Expression.intBin name
  | .stringBin name => Expression.stringBin name
  | .blobBin name => Expression.blobBin name
  | .floatBin name => Expression.floatBin name
  | .geoBin name => Expression.geoBin name
  | .listBin name => Expression.listBin name
  | .mapBin name => Expression.mapBin name
  | .hllBin name => Expression.hllBin name
  | .binExists name => Expression.binExists name
  | .binType name => Expression.binType name
  | .setName => Expression.setName
  | .deviceSize => Expression.deviceSize
  | .memorySize => Expression.memorySize
  | .lastUpdate => Expression.lastUpdate
  | .sinceUpdate => Expression.sinceUpdate
  | .voidTime => Expression.voidTime
  | .ttl => Expression.ttl
  | .isTombstone => Expression.isTombstone
  | .digestModulo modulo => Expression.digestModulo modulo
  | .intVal val => Expression.intVal val
  | .boolVal val => Expression.boolVal val
  | .stringVal val => Expression.stringVal val
  | .floatVal val => Expression.floatVal val
  | .blobVal val => Expression.blobVal val
  | .listVal val => Expression.listVal val
  | .mapVal val returned => (Expression.mapVal val).get returned
  | .geoVal val => Expression.geoVal val
  | .nil => Expression.nil
  | .infinity => Expression.infinity
  | .wildcard => Expression.wildcard
  | .unknown => Expression.unknown
  | .var name => Expression.var name

/-- The message that a constructor builds. -/
def UnaryCall.build : UnaryCall → Proto.Expression → Proto.Expression
  | .not => Expression.not
  | .numAbs => Expression.numAbs
  | .numFloor => Expression.numFloor
  | .numCeil => Expression.numCeil
  | .toInt => Expression.toInt
  | .toFloat => Expression.toFloat
  | .intNot => Expression.intNot
  | .intCount => Expression.intCount

/-- The message that a constructor builds. -/
def BinaryCall.build : BinaryCall → Proto.Expression → Proto.Expression → Proto.Expression
  | .geoCompare => Expression.geoCompare
  | .eq => Expression.eq
  | .ne => Expression.ne
  | .gt => Expression.gt
  | .ge => Expression.ge
  | .lt => Expression.lt
  | .le => Expression.le
  | .numPow => Expression.numPow
  | .numLog => Expression.numLog
  | .numMod => Expression.numMod
  | .intLShift => Expression.intLShift
  | .intRShift => Expression.intRShift
  | .intARShift => Expression.intARShift
  | .intLScan => Expression.intLScan
  | .intRScan => Expression.intRScan

/-- The message that a constructor builds. -/
def NaryCall.build : NaryCall → List Proto.Expression → Proto.Expression
  | .and => Expression.and
  | .or => Expression.or
  | .xor => Expression.xor
  | .numAdd => Expression.numAdd
  | .numSub => Expression.numSub
  | .numMul => Expression.numMul
  | .numDiv => Expression.numDiv
  | .intAnd => Expression.intAnd
  | .intOr => Expression.intOr
  | .intXor => Expression.intXor
  | .min => Expression.min
  | .max => Expression.max
  | .cond => Expression.cond
  | .expLet => Expression.expLet

namespace ExpCall

/-- The message that a tree of calls builds. -/
def build : ExpCall → Proto.Expression :=
  fold
    { leaf := LeafCall.build
      regexCompare := Expression.regexCompare
      unary := UnaryCall.build
      binary := BinaryCall.build
      nary := NaryCall.build
      defExp := Expression.defExp }

theorem build_leaf (call : LeafCall) : (leaf call).build = call.build := fold_leaf _ call

theorem build_regexCompare (regex : String) (flags : Int64) (bin : ExpCall) :
    (regexCompare regex flags bin).build = Expression.regexCompare regex flags bin.build :=
  fold_regexCompare _ regex flags bin

theorem build_unary (call : UnaryCall) (exp : ExpCall) :
    (unary call exp).build = call.build exp.build :=
  fold_unary _ call exp

theorem build_binary (call : BinaryCall) (left right : ExpCall) :
    (binary call left right).build = call.build left.build right.build :=
  fold_binary _ call left right

theorem build_nary (call : NaryCall) (exps : List ExpCall) :
    (nary call exps).build = call.build (exps.map build) :=
  fold_nary _ call exps

theorem build_defExp (name : String) (value : ExpCall) :
    (ExpCall.defExp name value).build = Expression.defExp name value.build :=
  fold_defExp _ name value

/-! ## Predicates on nodes -/

/-- A condition on the leaves, the operators with one operand and those with a list
    of operands. -/
structure NodeTest where
  leaf : LeafCall → Bool
  unary : UnaryCall → Bool
  nary : NaryCall → Bool
  /-- the answer for a `def`, from that for its value -/
  defExp : Bool → Bool

/-- Do all nodes of a tree pass the test? -/
def allNodes (test : NodeTest) : ExpCall → Bool :=
  fold
    { leaf := test.leaf
      regexCompare := fun _ _ bin => bin
      unary := fun call exp => test.unary call && exp
      binary := fun _ left right => left && right
      nary := fun call exps => test.nary call && exps.all id
      defExp := fun _ value => test.defExp value }

section AllNodes

variable (test : NodeTest)

theorem allNodes_leaf (call : LeafCall) : allNodes test (.leaf call) = test.leaf call :=
  fold_leaf _ call

theorem allNodes_regexCompare (regex : String) (flags : Int64) (bin : ExpCall) :
    allNodes test (.regexCompare regex flags bin) = allNodes test bin :=
  fold_regexCompare _ regex flags bin

theorem allNodes_unary (call : UnaryCall) (exp : ExpCall) :
    allNodes test (.unary call exp) = (test.unary call && allNodes test exp) :=
  fold_unary _ call exp

theorem allNodes_binary (call : BinaryCall) (left right : ExpCall) :
    allNodes test (.binary call left right) = (allNodes test left && allNodes test right) :=
  fold_binary _ call left right

theorem allNodes_nary (call : NaryCall) (exps : List ExpCall) :
    allNodes test (.nary call exps) = (test.nary call && exps.all (allNodes test)) := by
  rw [allNodes, fold_nary]
  show (test.nary call && (exps.map _).all id) = _
  rw [List.all_map]
  rfl

theorem allNodes_defExp (name : String) (value : ExpCall) :
    allNodes test (.defExp name value) = test.defExp (allNodes test value) :=
  fold_defExp _ name value

end AllNodes

/-- The test that every node passes. -/
def NodeTest.all : NodeTest where
  leaf _ := true
  unary _ := true
  nary _ := true
  defExp _ := true

theorem allNodes_all (exp : ExpCall) : exp.allNodes .all = true := by
  induction exp using ExpCall.induct with
  | leaf call => exact allNodes_leaf _ call
  | regexCompare regex flags bin ih => exact (allNodes_regexCompare _ regex flags bin).trans ih
  | unary call exp ih => exact (allNodes_unary _ call exp).trans ih
  | binary call left right ihl ihr => rw [allNodes_binary, ihl, ihr, Bool.true_and]
  | nary call exps ih => exact (allNodes_nary _ call exps).trans (List.all_eq_true.2 ih)
  | defExp name value ih => exact allNodes_defExp _ name value

end ExpCall

end AerospikePhp
