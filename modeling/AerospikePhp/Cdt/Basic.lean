import AerospikePhp.Value.Zval

/-!
# Collection operations: what lists and maps share

An operation on a list, a map or a byte string is sent as a command with an
untyped list of arguments, a return type and a context path. The constructors in
`src/lib.rs` pack the arguments by position, and the switches in `kvs.go` take
them out by index.
-/

namespace AerospikePhp

/-! ## Arguments -/

/-- `in.Args[i]`. -/
def argAt (args : List Proto.Value) (i : ℕ) : Except Panic Proto.Value :=
  match args[i]? with
  | some v => .ok v
  | none => .error .indexOutOfRange

@[simp] theorem argAt_zero (v : Proto.Value) (vs : List Proto.Value) :
    argAt (v :: vs) 0 = .ok v := rfl

@[simp] theorem argAt_succ (v : Proto.Value) (vs : List Proto.Value) (i : ℕ) :
    argAt (v :: vs) (i + 1) = argAt vs i := by
  simp only [argAt, List.getElem?_cons_succ]

@[simp] theorem argAt_nil (i : ℕ) : argAt [] i = .error .indexOutOfRange := rfl

/-- `int(in.Args[i].GetI())`. -/
def intAt (args : List Proto.Value) (i : ℕ) : Except Panic Int64 := do
  return Proto.Value.getI (some (← argAt args i))

/-- `in.Args[i].GetB()`. -/
def boolAt (args : List Proto.Value) (i : ℕ) : Except Panic Bool := do
  return Proto.Value.getB (some (← argAt args i))

/-- `in.Args[i].GetBlob()`. -/
def blobAt (args : List Proto.Value) (i : ℕ) : Except Panic (List UInt8) := do
  return Proto.Value.getBlob (some (← argAt args i))

/-- `toValue(in.Args[i])`. -/
def valueAt (args : List Proto.Value) (i : ℕ) : Except Panic Aero.Value := do
  toValue (some (← argAt args i))

/-- `toListOfValueIfcs(in.Args[i])`. -/
def valuesAt (args : List Proto.Value) (i : ℕ) : Except Panic (List Aero.Value) := do
  toListOfValueIfcs (some (← argAt args i))

namespace Arg

@[simp] theorem getI_int (i : Int64) : Proto.Value.getI (some (int i).toProto) = i := by
  rw [toProto, int, PHPValue.toProto, Proto.Value.getI]

@[simp] theorem getB_bool (b : Bool) : Proto.Value.getB (some (bool b).toProto) = b := by
  rw [toProto, bool, PHPValue.toProto, Proto.Value.getB]

@[simp] theorem getBlob_blob (b : List UInt8) :
    Proto.Value.getBlob (some (blob b).toProto) = b := by
  rw [toProto, blob, PHPValue.toProto, Proto.Value.getBlob]

/-- An accessor of another kind does not fail. -/
@[simp] theorem getI_bool (b : Bool) : Proto.Value.getI (some (bool b).toProto) = 0 := by
  rw [toProto, bool, PHPValue.toProto, Proto.Value.getI]
  rintro n ⟨⟩

end Arg

@[simp] theorem intAt_zero (i : Int64) (vs : List Proto.Value) :
    intAt ((Arg.int i).toProto :: vs) 0 = .ok i := by
  simp [intAt]

@[simp] theorem intAt_succ (v : Proto.Value) (vs : List Proto.Value) (i : ℕ) :
    intAt (v :: vs) (i + 1) = intAt vs i := by
  simp [intAt]

@[simp] theorem intAt_nil (i : ℕ) : intAt [] i = .error .indexOutOfRange := rfl

@[simp] theorem boolAt_zero (b : Bool) (vs : List Proto.Value) :
    boolAt ((Arg.bool b).toProto :: vs) 0 = .ok b := by
  simp [boolAt]

@[simp] theorem boolAt_succ (v : Proto.Value) (vs : List Proto.Value) (i : ℕ) :
    boolAt (v :: vs) (i + 1) = boolAt vs i := by
  simp [boolAt]

@[simp] theorem blobAt_zero (b : List UInt8) (vs : List Proto.Value) :
    blobAt ((Arg.blob b).toProto :: vs) 0 = .ok b := by
  simp [blobAt]

@[simp] theorem blobAt_succ (v : Proto.Value) (vs : List Proto.Value) (i : ℕ) :
    blobAt (v :: vs) (i + 1) = blobAt vs i := by
  simp [blobAt]

@[simp] theorem valueAt_zero (v : Arg) (vs : List Proto.Value) :
    valueAt (v.toProto :: vs) 0 = .ok v.toAero := by
  simp [valueAt]

@[simp] theorem valueAt_succ (v : Proto.Value) (vs : List Proto.Value) (i : ℕ) :
    valueAt (v :: vs) (i + 1) = valueAt vs i := by
  simp [valueAt]

@[simp] theorem valueAt_nil (i : ℕ) : valueAt [] i = .error .indexOutOfRange := rfl

@[simp] theorem valuesAt_zero (vs : List Arg) (vs' : List Proto.Value) :
    valuesAt ((Arg.list vs).toProto :: vs') 0 = .ok (vs.map Arg.toAero) := by
  simp [valuesAt]

@[simp] theorem valuesAt_succ (v : Proto.Value) (vs : List Proto.Value) (i : ℕ) :
    valuesAt (v :: vs) (i + 1) = valuesAt vs i := by
  simp [valuesAt]

/-- The elements of an argument that is a list. -/
def Arg.elements? (a : Arg) : Option (List Aero.Value) :=
  match a.val with
  | .list vs => some (PHPValue.listToAero vs)
  | _ => none

/-- A value taken for a list: on anything else `GetL` is a nil pointer. -/
theorem valuesAt_arg (a : Arg) (vs : List Proto.Value) :
    valuesAt (a.toProto :: vs) 0 = match a.elements? with
      | some values => .ok values
      | none => .error .nilDeref := by
  rcases a with ⟨v, hv⟩
  cases hv with
  | list l h =>
    simp [valuesAt, Arg.toProto, PHPValue.toProto, toListOfValueIfcs, Proto.Value.getL,
      Arg.elements?, toList_listToProto h]
  | _ => rfl

/-! ## Context paths -/

/-- `CDTContext` (`src/lib.rs` lines 1934–2070): one step of the path to a nested
    collection. -/
structure CDTContext where
  id : Int32
  value : Option Arg

/-- The `CDTContext` message. -/
structure Proto.CDTContext where
  id : Int32
  value : Option Proto.Value

/-- A context of the Go client. -/
structure Aero.CDTContext where
  id : Int64
  value : Aero.Value

namespace CDTContext

def toProto (c : CDTContext) : Proto.CDTContext := ⟨c.id, c.value.map Arg.toProto⟩

/-- The context as the Go client has it; an absent value is null. -/
def toAero (c : CDTContext) : Aero.CDTContext :=
  ⟨c.id.toInt64, (c.value.map Arg.toAero).getD .null⟩

/-- `ctx.map(…).unwrap_or(vec![])`, which ends every constructor. -/
def pathToProto (ctx : Option (List CDTContext)) : List Proto.CDTContext :=
  (ctx.map fun ctx => ctx.map toProto).getD []

/-- The path that an optional argument stands for. -/
def pathToAero (ctx : Option (List CDTContext)) : List Aero.CDTContext :=
  (ctx.map fun ctx => ctx.map toAero).getD []

end CDTContext

/-- `toCDTContext` (`kvs.go` lines 460–465), on an element of a list, which is
    never nil. -/
def toCDTContext (c : Proto.CDTContext) : Except Panic Aero.CDTContext := do
  return ⟨c.id.toInt64, ← toValue c.value⟩

/-- `toCDTContexts` (lines 452–458). -/
def toCDTContexts (ctx : List Proto.CDTContext) : Except Panic (List Aero.CDTContext) :=
  ctx.mapM toCDTContext

theorem toCDTContext_toProto (c : CDTContext) : toCDTContext c.toProto = .ok c.toAero := by
  rcases c with ⟨id, _ | v⟩
  · simp [toCDTContext, CDTContext.toProto, CDTContext.toAero]
  · simp [toCDTContext, CDTContext.toProto, CDTContext.toAero]

@[simp] theorem toCDTContexts_pathToProto (ctx : Option (List CDTContext)) :
    toCDTContexts (CDTContext.pathToProto ctx) = .ok (CDTContext.pathToAero ctx) := by
  cases ctx with
  | none => rfl
  | some ctx =>
    rw [CDTContext.pathToProto, CDTContext.pathToAero, Option.map_some, Option.map_some,
      Option.getD_some, Option.getD_some, toCDTContexts, List.mapM_map]
    exact Fallible.mapM_ok _ _ ctx fun c _ => toCDTContext_toProto c

/-- How the translation of an operation ends: the contexts of a path always
    translate. -/
theorem bind_toCDTContexts {α β : Type} (x : Except Panic α) (ctx : Option (List CDTContext))
    (f : α → List Aero.CDTContext → β) :
    (x >>= fun a => do
      let ctx ← toCDTContexts (CDTContext.pathToProto ctx)
      return f a ctx) = x.map fun a => f a (CDTContext.pathToAero ctx) := by
  cases x with
  | error p => rfl
  | ok a =>
    rw [Fallible.ok_bind, toCDTContexts_pathToProto, Fallible.ok_bind]
    rfl

/-! ## Return types -/

/-- The flag that `Inverted` sets, and `INVERTED` of the Go client. -/
def invertedFlag : Int32 := 0x10000

/-- A return type that a PHP program builds: one of the base types `β`, with
    `Inverted` applied to it any number of times. -/
inductive ReturnTypeCall (β : Type) where
  | base (b : β)
  | inverted (rt : ReturnTypeCall β)

namespace ReturnTypeCall

variable {β : Type}

/-- The number in the object: `Inverted` sets a bit (`src/lib.rs` lines 5822–5826
    and 7103–7107). -/
def number (baseNumber : β → Int32) : ReturnTypeCall β → Int32
  | base b => baseNumber b
  | inverted rt => rt.number baseNumber ||| invertedFlag

def baseType : ReturnTypeCall β → β
  | base b => b
  | inverted rt => rt.baseType

def isInverted : ReturnTypeCall β → Bool
  | base _ => false
  | inverted _ => true

theorem number_eq (baseNumber : β → Int32) (rt : ReturnTypeCall β) :
    rt.number baseNumber =
      if rt.isInverted then baseNumber rt.baseType ||| invertedFlag
      else baseNumber rt.baseType := by
  induction rt with
  | base b => rfl
  | inverted rt ih =>
    rw [number, ih, isInverted, if_pos rfl, baseType]
    split_ifs
    · rw [Int32.or_assoc, Int32.or_self]
    · rfl

end ReturnTypeCall

/-! ## Selections -/

/-- What a `…RemoveBy…Op` or `…GetBy…Op` function of the Go client selects; each
    constructor stands for the function of that name, with its arguments. Lists
    have no keys. -/
inductive Aero.Selector where
  | key (key : Aero.Value)
  | keyList (keys : List Aero.Value)
  | keyRange (begin stop : Aero.Value)
  | keyRelativeIndexRange (key : Aero.Value) (index : Int64)
  | keyRelativeIndexRangeCount (key : Aero.Value) (index count : Int64)
  | value (value : Aero.Value)
  | valueList (values : List Aero.Value)
  | valueRange (begin stop : Aero.Value)
  | valueRelativeRankRange (value : Aero.Value) (rank : Int64)
  | valueRelativeRankRangeCount (value : Aero.Value) (rank count : Int64)
  | index (index : Int64)
  | indexRange (index : Int64)
  | indexRangeCount (index count : Int64)
  | rank (rank : Int64)
  | rankRange (rank : Int64)
  | rankRangeCount (rank count : Int64)

namespace Aero.Selector

/-- The function for one key is used when there is one key. -/
def keys : List Aero.Value → Aero.Selector
  | [k] => key k
  | ks => keyList ks

/-- The function for one value is used when there is one value. -/
def values : List Aero.Value → Aero.Selector
  | [v] => value v
  | vs => valueList vs

end Aero.Selector

/-! ## Taking the arguments out -/

section Select

variable (args : List Proto.Value)

/-- `f(in.Args[0])`, an integer. -/
def selectInt (f : Int64 → Aero.Selector) : Except Panic Aero.Selector := do
  return f (← intAt args 0)

/-- `f(in.Args[0], in.Args[1])`, both integers. -/
def selectIntInt (f : Int64 → Int64 → Aero.Selector) : Except Panic Aero.Selector := do
  return f (← intAt args 0) (← intAt args 1)

/-- `f(in.Args[0], in.Args[1])`, both values. -/
def selectRange (f : Aero.Value → Aero.Value → Aero.Selector) : Except Panic Aero.Selector := do
  return f (← valueAt args 0) (← valueAt args 1)

/-- `f(in.Args[0], in.Args[1])`, a value and an integer. -/
def selectValueInt (f : Aero.Value → Int64 → Aero.Selector) : Except Panic Aero.Selector := do
  return f (← valueAt args 0) (← intAt args 1)

/-- `f(in.Args[0], in.Args[1], in.Args[2])`, a value and two integers. -/
def selectValueIntInt (f : Aero.Value → Int64 → Int64 → Aero.Selector) :
    Except Panic Aero.Selector := do
  return f (← valueAt args 0) (← intAt args 1) (← intAt args 2)

/-- `f(in.Args[0])`, a list of values. -/
def selectList (f : List Aero.Value → Aero.Selector) : Except Panic Aero.Selector := do
  return f (← valuesAt args 0)

end Select

end AerospikePhp
