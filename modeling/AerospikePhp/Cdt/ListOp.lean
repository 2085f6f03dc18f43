import AerospikePhp.Cdt.Basic

/-!
# List operations

The constructors of `ListOp` (`src/lib.rs` lines 6067–6978) and the daemon's
`toCdtListOp` (`kvs.go` lines 1118–1257), which turns their messages into
operations of the Go client.
-/

namespace AerospikePhp

/-! ## Messages -/

/-- `ListOrderType`. -/
inductive ListOrderType where
  | unordered
  | ordered
deriving DecidableEq

/-- The number of a list order in its enumeration. -/
def ListOrderType.number : ListOrderType → Int64
  | unordered => 0
  | ordered => 1

/-- `CdtListSortFlags`. -/
inductive ListSortFlags where
  | default
  | descending
  | dropDuplicates
deriving DecidableEq

/-- The number of a sort flag in its enumeration. -/
def ListSortFlags.number : ListSortFlags → Int64
  | default => 0
  | descending => 1
  | dropDuplicates => 2

/-- The `CdtListPolicy` message. -/
structure Proto.CdtListPolicy where
  order : ListOrderType
  flags : Int32

/-- `CdtListCommandOp`. -/
inductive CdtListCommandOp where
  | create
  | setOrder
  | append
  | insert
  | pop
  | popRange
  | popRangeFrom
  | set
  | trim
  | clear
  | increment
  | size
  | sort
  | getByValueList
  | getByValueRange
  | getByIndex
  | getByIndexRange
  | getByIndexRangeCount
  | getByRank
  | getByRankRange
  | getByRankRangeCount
  | getByValueRelativeRankRange
  | getByValueRelativeRankRangeCount
  | removeByValueList
  | removeByValueRange
  | removeByValueRelativeRankRange
  | removeByValueRelativeRankRangeCount
  | removeRange
  | removeRangeFrom
  | removeByIndex
  | removeByIndexRange
  | removeByIndexRangeCount
  | removeByRank
  | removeByRankRange
  | removeByRankRangeCount
deriving DecidableEq

/-- The `CdtListOperation` message. -/
structure Proto.CdtListOperation where
  op : CdtListCommandOp
  policy : Option Proto.CdtListPolicy
  binName : String
  args : List Proto.Value
  returnType : Option Int32
  ctx : List Proto.CDTContext

/-- The base return types of `CdtListReturnType` (`src/lib.rs` lines 5748–5813). -/
inductive ListReturnBase where
  | none
  | index
  | reverseIndex
  | rank
  | reverseRank
  | count
  | value
  | exists
deriving DecidableEq

/-- The number of a base return type in its enumeration. -/
def ListReturnBase.number : ListReturnBase → Int32
  | none => 0
  | index => 1
  | reverseIndex => 2
  | rank => 3
  | reverseRank => 4
  | count => 5
  | value => 7
  | «exists» => 13

abbrev ListReturnType := ReturnTypeCall ListReturnBase

/-! ## The constructors of `ListOp` -/

namespace ListOp

/-- `return_type.map(|rt| rt._as.into()).unwrap_or(Some(Value))`. -/
def returnNumber (returnType : Option ListReturnType) : Option Int32 :=
  (returnType.map fun rt => some (rt.number ListReturnBase.number)).getD
    (some ListReturnBase.value.number)

/-- The message of an operation without a return type. -/
def build (op : CdtListCommandOp) (policy : Option Proto.CdtListPolicy) (binName : String)
    (args : List Proto.Value) (ctx : Option (List CDTContext)) : Proto.CdtListOperation where
  op := op
  policy := policy
  binName := binName
  args := args
  returnType := none
  ctx := CDTContext.pathToProto ctx

/-- The message of an operation with a return type; it has no policy. -/
def select (op : CdtListCommandOp) (binName : String) (args : List Proto.Value)
    (returnType : Option ListReturnType) (ctx : Option (List CDTContext)) :
    Proto.CdtListOperation where
  op := op
  policy := none
  binName := binName
  args := args
  returnType := returnNumber returnType
  ctx := CDTContext.pathToProto ctx

/-- The arguments of a range of values: `end` is packed if it is present. -/
def rangeArgs (begin : Arg) : Option Arg → List Proto.Value
  | some stop => [begin.toProto, stop.toProto]
  | none => [begin.toProto]

section Constructors

variable (policy : Proto.CdtListPolicy) (binName : String) (returnType : Option ListReturnType)
  (ctx : Option (List CDTContext))

/-- `create` (lines 6072–6096). -/
def create (order : ListOrderType) (pad : Bool) (index : Option Bool) : Proto.CdtListOperation :=
  build .create none binName
    [(Arg.int order.number).toProto, (Arg.bool pad).toProto,
      (Arg.bool (index.getD false)).toProto] ctx

/-- `set_order` (lines 6100–6118). -/
def setOrder (order : ListOrderType) : Proto.CdtListOperation :=
  build .setOrder none binName [(Arg.int order.number).toProto] ctx

/-- `sort` (lines 6525–6543). -/
def sort (sortFlags : ListSortFlags) : Proto.CdtListOperation :=
  build .sort none binName [(Arg.int sortFlags.number).toProto] ctx

/-- `append` (lines 6124–6144). -/
def append (values : List Arg) : Proto.CdtListOperation :=
  build .append (some policy) binName [(Arg.list values).toProto] ctx

/-- `insert` (lines 6150–6172). -/
def insert (index : Int64) (values : List Arg) : Proto.CdtListOperation :=
  build .insert (some policy) binName [(Arg.int index).toProto, (Arg.list values).toProto] ctx

/-- `pop` (lines 6176–6189). -/
def pop (index : Int64) : Proto.CdtListOperation :=
  build .pop none binName [(Arg.int index).toProto] ctx

/-- `pop_range` (lines 6193–6211). -/
def popRange (index count : Int64) : Proto.CdtListOperation :=
  build .popRange none binName [(Arg.int index).toProto, (Arg.int count).toProto] ctx

/-- `pop_range_from` (lines 6215–6232). -/
def popRangeFrom (index : Int64) : Proto.CdtListOperation :=
  build .popRangeFrom none binName [(Arg.int index).toProto] ctx

/-- `remove_values` (lines 6236–6258). -/
def removeValues (values : List Arg) : Proto.CdtListOperation :=
  select .removeByValueList binName [(Arg.list values).toProto] returnType ctx

/-- `remove_by_value_range` (lines 6265–6292). -/
def removeByValueRange (begin : Arg) (stop : Option Arg) : Proto.CdtListOperation :=
  select .removeByValueList binName (rangeArgs begin stop) returnType ctx

/-- `remove_by_value_relative_rank_range` (lines 6307–6328). -/
def removeByValueRelativeRankRange (value : Arg) (rank : Int64) : Proto.CdtListOperation :=
  select .removeByValueRelativeRankRange binName
    [value.toProto, (Arg.int rank).toProto] returnType ctx

/-- `remove_by_value_relative_rank_range_count` (lines 6342–6368). -/
def removeByValueRelativeRankRangeCount (value : Arg) (rank count : Int64) :
    Proto.CdtListOperation :=
  select .removeByValueRelativeRankRangeCount binName
    [value.toProto, (Arg.int rank).toProto, (Arg.int count).toProto] returnType ctx

/-- `remove_range` (lines 6373–6391). -/
def removeRange (index count : Int64) : Proto.CdtListOperation :=
  build .removeRange none binName [(Arg.int index).toProto, (Arg.int count).toProto] ctx

/-- `remove_range_from` (lines 6396–6414). -/
def removeRangeFrom (index : Int64) : Proto.CdtListOperation :=
  build .removeRangeFrom none binName [(Arg.int index).toProto] ctx

/-- `set` (lines 6419–6437). -/
def set (index : Int64) (value : Arg) : Proto.CdtListOperation :=
  build .set none binName [(Arg.int index).toProto, value.toProto] ctx

/-- `trim` (lines 6443–6461). -/
def trim (index count : Int64) : Proto.CdtListOperation :=
  build .trim none binName [(Arg.int index).toProto, (Arg.int count).toProto] ctx

/-- `clear` (lines 6466–6479). -/
def clear : Proto.CdtListOperation :=
  build .clear none binName [] ctx

/-- `increment` (lines 6485–6503). -/
def increment (index : Int64) (value : Arg) : Proto.CdtListOperation :=
  build .increment none binName [(Arg.int index).toProto, value.toProto] ctx

/-- `size` (lines 6507–6520). -/
def size : Proto.CdtListOperation :=
  build .size none binName [] ctx

/-- `remove_by_index` (lines 6547–6567). -/
def removeByIndex (index : Int64) : Proto.CdtListOperation :=
  select .removeByIndex binName [(Arg.int index).toProto] returnType ctx

/-- `remove_by_index_range` (lines 6572–6592). -/
def removeByIndexRange (index : Int64) : Proto.CdtListOperation :=
  select .removeByIndexRange binName [(Arg.int index).toProto] returnType ctx

/-- `remove_by_index_range_count` (lines 6596–6617). -/
def removeByIndexRangeCount (index count : Int64) : Proto.CdtListOperation :=
  select .removeByIndexRangeCount binName
    [(Arg.int index).toProto, (Arg.int count).toProto] returnType ctx

/-- `remove_by_rank` (lines 6621–6641). -/
def removeByRank (rank : Int64) : Proto.CdtListOperation :=
  select .removeByRank binName [(Arg.int rank).toProto] returnType ctx

/-- `remove_by_rank_range` (lines 6646–6666). -/
def removeByRankRange (rank : Int64) : Proto.CdtListOperation :=
  select .removeByRankRange binName [(Arg.int rank).toProto] returnType ctx

/-- `remove_by_rank_range_count` (lines 6670–6691). -/
def removeByRankRangeCount (rank count : Int64) : Proto.CdtListOperation :=
  select .removeByRankRangeCount binName
    [(Arg.int rank).toProto, (Arg.int count).toProto] returnType ctx

/-- `get_by_values` (lines 6695–6717). -/
def getByValues (values : List Arg) : Proto.CdtListOperation :=
  select .getByValueList binName [(Arg.list values).toProto] returnType ctx

/-- `get_by_value_range` (lines 6724–6751). -/
def getByValueRange (begin : Arg) (stop : Option Arg) : Proto.CdtListOperation :=
  select .getByValueRange binName (rangeArgs begin stop) returnType ctx

/-- `get_by_index` (lines 6755–6775). -/
def getByIndex (index : Int64) : Proto.CdtListOperation :=
  select .getByIndex binName [(Arg.int index).toProto] returnType ctx

/-- `get_by_index_range` (lines 6780–6800). -/
def getByIndexRange (index : Int64) : Proto.CdtListOperation :=
  select .getByIndexRange binName [(Arg.int index).toProto] returnType ctx

/-- `get_by_index_range_count` (lines 6805–6826). -/
def getByIndexRangeCount (index count : Int64) : Proto.CdtListOperation :=
  select .getByIndexRangeCount binName
    [(Arg.int index).toProto, (Arg.int count).toProto] returnType ctx

/-- `get_by_rank` (lines 6830–6850). -/
def getByRank (rank : Int64) : Proto.CdtListOperation :=
  select .getByRank binName [(Arg.int rank).toProto] returnType ctx

/-- `get_by_rank_range` (lines 6855–6875). -/
def getByRankRange (rank : Int64) : Proto.CdtListOperation :=
  select .getByRankRange binName [(Arg.int rank).toProto] returnType ctx

/-- `get_by_rank_range_count` (lines 6879–6900). -/
def getByRankRangeCount (rank count : Int64) : Proto.CdtListOperation :=
  select .getByRankRangeCount binName
    [(Arg.int rank).toProto, (Arg.int count).toProto] returnType ctx

/-- `get_by_value_relative_rank_range` (lines 6915–6936). -/
def getByValueRelativeRankRange (value : Arg) (rank : Int64) : Proto.CdtListOperation :=
  select .getByValueRelativeRankRange binName
    [value.toProto, (Arg.int rank).toProto] returnType ctx

/-- `get_by_value_relative_rank_range_count` (lines 6951–6977). -/
def getByValueRelativeRankRangeCount (value : Arg) (rank count : Int64) :
    Proto.CdtListOperation :=
  select .getByValueRelativeRankRangeCount binName
    [value.toProto, (Arg.int rank).toProto, (Arg.int count).toProto] returnType ctx

end Constructors

end ListOp

/-- A call of a constructor of `ListOp`, without the bin name and the context path. -/
inductive ListCall where
  | create (order : ListOrderType) (pad : Bool) (index : Option Bool)
  | setOrder (order : ListOrderType)
  | sort (sortFlags : ListSortFlags)
  | append (policy : Proto.CdtListPolicy) (values : List Arg)
  | insert (policy : Proto.CdtListPolicy) (index : Int64) (values : List Arg)
  | pop (index : Int64)
  | popRange (index count : Int64)
  | popRangeFrom (index : Int64)
  | removeValues (values : List Arg) (returnType : Option ListReturnType)
  | removeByValueRange (begin : Arg) (stop : Option Arg) (returnType : Option ListReturnType)
  | removeByValueRelativeRankRange (value : Arg) (rank : Int64)
      (returnType : Option ListReturnType)
  | removeByValueRelativeRankRangeCount (value : Arg) (rank count : Int64)
      (returnType : Option ListReturnType)
  | removeRange (index count : Int64)
  | removeRangeFrom (index : Int64)
  | set (index : Int64) (value : Arg)
  | trim (index count : Int64)
  | clear
  | increment (index : Int64) (value : Arg)
  | size
  | removeByIndex (index : Int64) (returnType : Option ListReturnType)
  | removeByIndexRange (index : Int64) (returnType : Option ListReturnType)
  | removeByIndexRangeCount (index count : Int64) (returnType : Option ListReturnType)
  | removeByRank (rank : Int64) (returnType : Option ListReturnType)
  | removeByRankRange (rank : Int64) (returnType : Option ListReturnType)
  | removeByRankRangeCount (rank count : Int64) (returnType : Option ListReturnType)
  | getByValues (values : List Arg) (returnType : Option ListReturnType)
  | getByValueRange (begin : Arg) (stop : Option Arg) (returnType : Option ListReturnType)
  | getByIndex (index : Int64) (returnType : Option ListReturnType)
  | getByIndexRange (index : Int64) (returnType : Option ListReturnType)
  | getByIndexRangeCount (index count : Int64) (returnType : Option ListReturnType)
  | getByRank (rank : Int64) (returnType : Option ListReturnType)
  | getByRankRange (rank : Int64) (returnType : Option ListReturnType)
  | getByRankRangeCount (rank count : Int64) (returnType : Option ListReturnType)
  | getByValueRelativeRankRange (value : Arg) (rank : Int64) (returnType : Option ListReturnType)
  | getByValueRelativeRankRangeCount (value : Arg) (rank count : Int64)
      (returnType : Option ListReturnType)

/-- The message that a constructor builds. -/
def ListCall.build (binName : String) (ctx : Option (List CDTContext)) :
    ListCall → Proto.CdtListOperation
  | .create order pad index => ListOp.create binName ctx order pad index
  | .setOrder order => ListOp.setOrder binName ctx order
  | .sort sortFlags => ListOp.sort binName ctx sortFlags
  | .append policy values => ListOp.append policy binName ctx values
  | .insert policy index values => ListOp.insert policy binName ctx index values
  | .pop index => ListOp.pop binName ctx index
  | .popRange index count => ListOp.popRange binName ctx index count
  | .popRangeFrom index => ListOp.popRangeFrom binName ctx index
  | .removeValues values rt => ListOp.removeValues binName rt ctx values
  | .removeByValueRange begin stop rt => ListOp.removeByValueRange binName rt ctx begin stop
  | .removeByValueRelativeRankRange value rank rt =>
    ListOp.removeByValueRelativeRankRange binName rt ctx value rank
  | .removeByValueRelativeRankRangeCount value rank count rt =>
    ListOp.removeByValueRelativeRankRangeCount binName rt ctx value rank count
  | .removeRange index count => ListOp.removeRange binName ctx index count
  | .removeRangeFrom index => ListOp.removeRangeFrom binName ctx index
  | .set index value => ListOp.set binName ctx index value
  | .trim index count => ListOp.trim binName ctx index count
  | .clear => ListOp.clear binName ctx
  | .increment index value => ListOp.increment binName ctx index value
  | .size => ListOp.size binName ctx
  | .removeByIndex index rt => ListOp.removeByIndex binName rt ctx index
  | .removeByIndexRange index rt => ListOp.removeByIndexRange binName rt ctx index
  | .removeByIndexRangeCount index count rt =>
    ListOp.removeByIndexRangeCount binName rt ctx index count
  | .removeByRank rank rt => ListOp.removeByRank binName rt ctx rank
  | .removeByRankRange rank rt => ListOp.removeByRankRange binName rt ctx rank
  | .removeByRankRangeCount rank count rt =>
    ListOp.removeByRankRangeCount binName rt ctx rank count
  | .getByValues values rt => ListOp.getByValues binName rt ctx values
  | .getByValueRange begin stop rt => ListOp.getByValueRange binName rt ctx begin stop
  | .getByIndex index rt => ListOp.getByIndex binName rt ctx index
  | .getByIndexRange index rt => ListOp.getByIndexRange binName rt ctx index
  | .getByIndexRangeCount index count rt => ListOp.getByIndexRangeCount binName rt ctx index count
  | .getByRank rank rt => ListOp.getByRank binName rt ctx rank
  | .getByRankRange rank rt => ListOp.getByRankRange binName rt ctx rank
  | .getByRankRangeCount rank count rt => ListOp.getByRankRangeCount binName rt ctx rank count
  | .getByValueRelativeRankRange value rank rt =>
    ListOp.getByValueRelativeRankRange binName rt ctx value rank
  | .getByValueRelativeRankRangeCount value rank count rt =>
    ListOp.getByValueRelativeRankRangeCount binName rt ctx value rank count

/-! ## The daemon -/

/-- A list policy of the Go client, by the function that makes it. -/
inductive Aero.ListPolicy where
  | default
  | new (order flags : Int64)
deriving DecidableEq

/-- A list operation of the Go client, by the function that makes it; `remove` and
    `get` stand for the families `ListRemoveBy…Op` and `ListGetBy…Op`. -/
inductive Aero.ListCommand where
  | create (listOrder : Int64) (pad : Bool)
  | createWithIndex (listOrder : Int64) (pad : Bool)
  | setOrder (listOrder : Int64)
  | append (policy : Aero.ListPolicy) (values : List Aero.Value)
  | insert (policy : Aero.ListPolicy) (index : Int64) (values : List Aero.Value)
  | pop (index : Int64)
  | popRange (index count : Int64)
  | popRangeFrom (index : Int64)
  | set (policy : Aero.ListPolicy) (index : Int64) (value : Aero.Value)
  | trim (index count : Int64)
  | clear
  | increment (policy : Aero.ListPolicy) (index : Int64) (value : Aero.Value)
  | size
  | sort (sortFlags : Int64)
  | removeRange (index count : Int64)
  | removeRangeFrom (index : Int64)
  | remove (sel : Aero.Selector) (returnType : Int32)
  | get (sel : Aero.Selector) (returnType : Int32)

structure Aero.ListOp where
  binName : String
  command : Aero.ListCommand
  ctx : List Aero.CDTContext

/-- `toCdtListPolicy` (`kvs.go` lines 1110–1116). -/
def toCdtListPolicy : Option Proto.CdtListPolicy → Aero.ListPolicy
  | some policy => .new policy.order.number policy.flags.toInt64
  | none => .default

/-- `aero.ListReturnType(*in.ReturnType)`: the number is taken as it is. -/
def toListReturnType : Option Int32 → Except Panic Int32
  | some rt => .ok rt
  | none => .error .nilDeref

/-- A function `ListRemoveBy…Op` on a selection. -/
def listRemoveBy (op : Proto.CdtListOperation) (sel : Except Panic Aero.Selector) :
    Except Panic Aero.ListCommand := do
  return .remove (← sel) (← toListReturnType op.returnType)

/-- A function `ListGetBy…Op` on a selection. -/
def listGetBy (op : Proto.CdtListOperation) (sel : Except Panic Aero.Selector) :
    Except Panic Aero.ListCommand := do
  return .get (← sel) (← toListReturnType op.returnType)

/-- The switch of `toCdtListOp`: the function that is called, and its arguments but
    for the bin name and the contexts. -/
def listCommand (op : Proto.CdtListOperation) : Except Panic Aero.ListCommand :=
  match op.op with
  | .create => do
    let listOrder ← intAt op.args 0
    let pad ← boolAt op.args 1
    let persistedIndex ← boolAt op.args 2
    if persistedIndex then return .createWithIndex listOrder pad
    else return .create listOrder pad
  | .setOrder => do return .setOrder (← intAt op.args 0)
  | .append => do return .append (toCdtListPolicy op.policy) (← valuesAt op.args 0)
  | .insert => do
    return .insert (toCdtListPolicy op.policy) (← intAt op.args 0) (← valuesAt op.args 1)
  | .pop => do return .pop (← intAt op.args 0)
  | .popRange => do return .popRange (← intAt op.args 0) (← intAt op.args 1)
  | .popRangeFrom => do return .popRangeFrom (← intAt op.args 0)
  | .set => do return .set (toCdtListPolicy op.policy) (← intAt op.args 0) (← valueAt op.args 1)
  | .trim => do return .trim (← intAt op.args 0) (← intAt op.args 1)
  | .clear => .ok .clear
  | .increment => do
    return .increment (toCdtListPolicy op.policy) (← intAt op.args 0) (← valueAt op.args 1)
  | .size => .ok .size
  | .sort => do return .sort (← intAt op.args 0)
  | .getByValueList => listGetBy op (selectList op.args .values)
  | .getByValueRange => listGetBy op (selectRange op.args .valueRange)
  | .getByIndex => listGetBy op (selectInt op.args .index)
  | .getByIndexRange => listGetBy op (selectInt op.args .indexRange)
  | .getByIndexRangeCount => listGetBy op (selectIntInt op.args .indexRangeCount)
  | .getByRank => listGetBy op (selectInt op.args .rank)
  | .getByRankRange => listGetBy op (selectInt op.args .rankRange)
  | .getByRankRangeCount => listGetBy op (selectIntInt op.args .rankRangeCount)
  | .getByValueRelativeRankRange => listGetBy op (selectValueInt op.args .valueRelativeRankRange)
  | .getByValueRelativeRankRangeCount =>
    listGetBy op (selectValueIntInt op.args .valueRelativeRankRangeCount)
  | .removeByValueList => listRemoveBy op (selectList op.args .values)
  | .removeByValueRange => listRemoveBy op (selectRange op.args .valueRange)
  | .removeByValueRelativeRankRange =>
    listRemoveBy op (selectValueInt op.args .valueRelativeRankRange)
  | .removeByValueRelativeRankRangeCount =>
    listRemoveBy op (selectValueIntInt op.args .valueRelativeRankRangeCount)
  | .removeRange => do return .removeRange (← intAt op.args 0) (← intAt op.args 1)
  | .removeRangeFrom => do return .removeRangeFrom (← intAt op.args 0)
  | .removeByIndex => listRemoveBy op (selectInt op.args .index)
  | .removeByIndexRange => listRemoveBy op (selectInt op.args .indexRange)
  | .removeByIndexRangeCount => listRemoveBy op (selectIntInt op.args .indexRangeCount)
  | .removeByRank => listRemoveBy op (selectInt op.args .rank)
  | .removeByRankRange => listRemoveBy op (selectInt op.args .rankRange)
  | .removeByRankRangeCount => listRemoveBy op (selectIntInt op.args .rankRangeCount)

/-- `toCdtListOp` (lines 1118–1257): every command has a case. -/
def toCdtListOp : Option Proto.CdtListOperation → Except Panic (Option Aero.ListOp)
  | some op => do
    let command ← listCommand op
    return some ⟨op.binName, command, ← toCDTContexts op.ctx⟩
  | none => .ok none

end AerospikePhp
