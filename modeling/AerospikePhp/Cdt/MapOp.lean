import AerospikePhp.Cdt.Basic

/-!
# Map operations

The constructors of `MapOp` (`src/lib.rs` lines 7389–8402) and the daemon's
`toCdtMapOp` (`kvs.go` lines 964–1108), which turns their messages into
operations of the Go client.
-/

namespace AerospikePhp

/-! ## Messages -/

/-- `MapOrderType`. -/
inductive MapOrderType where
  | unordered
  | keyOrdered
  | keyValueOrdered
deriving DecidableEq

/-- The number of a map order in its enumeration. -/
def MapOrderType.number : MapOrderType → Int64
  | unordered => 0
  | keyOrdered => 1
  | keyValueOrdered => 2

/-- The `CdtMapPolicy` message. -/
structure Proto.CdtMapPolicy where
  mapOrder : MapOrderType
  flags : Int32
  persistedIndex : Bool

/-- `CdtMapCommandOp`. -/
inductive CdtMapCommandOp where
  | create
  | createWithIndex
  | setPolicy
  | put
  | putItems
  | increment
  | decrement
  | clear
  | removeByKey
  | removeByKeyList
  | removeByKeyRange
  | removeByValue
  | removeByValueList
  | removeByValueRange
  | removeByValueRelativeRankRange
  | removeByValueRelativeRankRangeCount
  | removeByIndex
  | removeByIndexRange
  | removeByIndexRangeCount
  | removeByRank
  | removeByRankRange
  | removeByRankRangeCount
  | removeByKeyRelativeIndexRange
  | removeByKeyRelativeIndexRangeCount
  | size
  | getByKey
  | getByKeyRange
  | getByKeyRelativeIndexRange
  | getByKeyRelativeIndexRangeCount
  | getByKeyList
  | getByValue
  | getByValueRange
  | getByValueRelativeRankRange
  | getByValueRelativeRankRangeCount
  | getByValueList
  | getByIndex
  | getByIndexRange
  | getByIndexRangeCount
  | getByRank
  | getByRankRange
  | getByRankRangeCount
deriving DecidableEq

/-- The `CdtMapOperation` message. -/
structure Proto.CdtMapOperation where
  op : CdtMapCommandOp
  policy : Option Proto.CdtMapPolicy
  binName : String
  args : List Proto.Value
  returnType : Option Int32
  ctx : List Proto.CDTContext

/-- The base return types of `CdtMapReturnType` (`src/lib.rs` lines 6997–7097). -/
inductive MapReturnBase where
  | none
  | index
  | reverseIndex
  | rank
  | reverseRank
  | count
  | key
  | value
  | keyValue
  | exists
  | unorderedMap
  | orderedMap
deriving DecidableEq

/-- The number of a base return type in its enumeration. -/
def MapReturnBase.number : MapReturnBase → Int32
  | none => 0
  | index => 1
  | reverseIndex => 2
  | rank => 3
  | reverseRank => 4
  | count => 5
  | key => 6
  | value => 7
  | keyValue => 8
  | «exists» => 13
  | unorderedMap => 16
  | orderedMap => 17

abbrev MapReturnType := ReturnTypeCall MapReturnBase

/-! ## The constructors of `MapOp` -/

/-- `CdtMapPolicy::__construct` (lines 7267–7288): the flags are combined. -/
def CdtMapPolicy.construct (order : MapOrderType) (flags : Option (List Int32))
    (persistedIndex : Option Bool) : Proto.CdtMapPolicy where
  mapOrder := order
  flags := (flags.getD []).foldl (fun acc f => acc ||| f) 0
  persistedIndex := persistedIndex.getD false

namespace MapOp

/-- `return_type.map(|v| v._as).or(Some(CdtMapReturnType::Key_Value()._as))`. -/
def returnNumber (returnType : Option MapReturnType) : Option Int32 :=
  (returnType.map fun v => v.number MapReturnBase.number).or (some MapReturnBase.keyValue.number)

/-- The message of an operation without a return type. -/
def build (op : CdtMapCommandOp) (policy : Option Proto.CdtMapPolicy) (binName : String)
    (args : List Proto.Value) (ctx : Option (List CDTContext)) : Proto.CdtMapOperation where
  op := op
  policy := policy
  binName := binName
  args := args
  returnType := none
  ctx := CDTContext.pathToProto ctx

/-- The message of an operation with a return type. -/
def select (op : CdtMapCommandOp) (policy : Option Proto.CdtMapPolicy) (binName : String)
    (args : List Proto.Value) (returnType : Option MapReturnType)
    (ctx : Option (List CDTContext)) : Proto.CdtMapOperation where
  op := op
  policy := policy
  binName := binName
  args := args
  returnType := returnNumber returnType
  ctx := CDTContext.pathToProto ctx

section Constructors

variable (policy : Proto.CdtMapPolicy) (binName : String) (returnType : Option MapReturnType)
  (ctx : Option (List CDTContext))

/-- `create` (lines 7392–7410). -/
def create (order : MapOrderType) (withIndex : Option Bool) : Proto.CdtMapOperation :=
  build .create (some (CdtMapPolicy.construct order none withIndex)) binName [] ctx

/-- `set_policy` (lines 7416–7433). -/
def setPolicy : Proto.CdtMapOperation :=
  build .setPolicy (some policy) binName [] ctx

/-- `size` (lines 7437–7450): the command is `SetPolicy`. -/
def size : Proto.CdtMapOperation :=
  build .setPolicy none binName [] ctx

/-- `put` (lines 7457–7479): `assert_map` (lines 12116–12125) lets hash maps
    through only. -/
def put (map : Arg) : Option Proto.CdtMapOperation :=
  match map.val with
  | .hashMap _ => some (build .putItems (some policy) binName [map.toProto] ctx)
  | _ => none

/-- `increment` (lines 7487–7506). -/
def increment (key incr : Arg) : Proto.CdtMapOperation :=
  build .increment (some policy) binName [key.toProto, incr.toProto] ctx

/-- `decrement` (lines 7514–7533). -/
def decrement (key decr : Arg) : Proto.CdtMapOperation :=
  build .decrement (some policy) binName [key.toProto, decr.toProto] ctx

/-- `clear` (lines 7537–7550). -/
def clear : Proto.CdtMapOperation :=
  build .clear none binName [] ctx

/-- `remove_by_keys` (lines 7554–7574). -/
def removeByKeys (keys : List Arg) : Proto.CdtMapOperation :=
  select .removeByKeyList none binName [(Arg.list keys).toProto] returnType ctx

/-- `remove_by_key_range` (lines 7582–7604). -/
def removeByKeyRange (begin stop : Arg) : Proto.CdtMapOperation :=
  select .removeByKeyRange (some policy) binName [begin.toProto, stop.toProto] returnType ctx

/-- `remove_by_values` (lines 7608–7631). -/
def removeByValues (values : List Arg) : Proto.CdtMapOperation :=
  select .removeByValueList (some policy) binName [(Arg.list values).toProto] returnType ctx

/-- `remove_by_value_range` (lines 7635–7657). -/
def removeByValueRange (begin stop : Arg) : Proto.CdtMapOperation :=
  select .removeByValueRange (some policy) binName [begin.toProto, stop.toProto] returnType ctx

/-- `remove_by_value_relative_rank_range` (lines 7668–7690). -/
def removeByValueRelativeRankRange (value : Arg) (rank : Int64) : Proto.CdtMapOperation :=
  select .removeByValueRelativeRankRange (some policy) binName
    [value.toProto, (Arg.int rank).toProto] returnType ctx

/-- `remove_by_value_relative_rank_range_count` (lines 7701–7728). -/
def removeByValueRelativeRankRangeCount (value : Arg) (rank count : Int64) :
    Proto.CdtMapOperation :=
  select .removeByValueRelativeRankRange (some policy) binName
    [value.toProto, (Arg.int rank).toProto, (Arg.int count).toProto] returnType ctx

/-- `remove_by_index` (lines 7732–7753). -/
def removeByIndex (index : Int64) : Proto.CdtMapOperation :=
  select .removeByIndex (some policy) binName [(Arg.int index).toProto] returnType ctx

/-- `remove_by_index_range` (lines 7758–7779). -/
def removeByIndexRange (index : Int64) : Proto.CdtMapOperation :=
  select .removeByIndexRange (some policy) binName [(Arg.int index).toProto] returnType ctx

/-- `remove_by_index_range_count` (lines 7783–7805). -/
def removeByIndexRangeCount (index count : Int64) : Proto.CdtMapOperation :=
  select .removeByIndexRangeCount (some policy) binName
    [(Arg.int index).toProto, (Arg.int count).toProto] returnType ctx

/-- `remove_by_rank` (lines 7809–7830). -/
def removeByRank (rank : Int64) : Proto.CdtMapOperation :=
  select .removeByRank (some policy) binName [(Arg.int rank).toProto] returnType ctx

/-- `remove_by_rank_range` (lines 7835–7856). -/
def removeByRankRange (rank : Int64) : Proto.CdtMapOperation :=
  select .removeByRankRange (some policy) binName [(Arg.int rank).toProto] returnType ctx

/-- `remove_by_rank_range_count` (lines 7860–7882). -/
def removeByRankRangeCount (rank count : Int64) : Proto.CdtMapOperation :=
  select .removeByRankRangeCount (some policy) binName
    [(Arg.int rank).toProto, (Arg.int count).toProto] returnType ctx

/-- `remove_by_key_relative_index_range` (lines 7896–7918). -/
def removeByKeyRelativeIndexRange (key : Arg) (index : Int64) : Proto.CdtMapOperation :=
  select .removeByKeyRelativeIndexRange (some policy) binName
    [key.toProto, (Arg.int index).toProto] returnType ctx

/-- `remove_by_key_relative_index_range_count` (lines 7932–7959). -/
def removeByKeyRelativeIndexRangeCount (key : Arg) (index count : Int64) : Proto.CdtMapOperation :=
  select .removeByKeyRelativeIndexRangeCount (some policy) binName
    [key.toProto, (Arg.int index).toProto, (Arg.int count).toProto] returnType ctx

/-- `get_by_keys` (lines 7964–7987). -/
def getByKeys (keys : List Arg) : Proto.CdtMapOperation :=
  select .getByKeyList (some policy) binName [(Arg.list keys).toProto] returnType ctx

/-- `get_by_key_range` (lines 7996–8018). -/
def getByKeyRange (begin stop : Arg) : Proto.CdtMapOperation :=
  select .getByKeyRange (some policy) binName [begin.toProto, stop.toProto] returnType ctx

/-- `get_by_key_relative_index_range` (lines 8033–8055). -/
def getByKeyRelativeIndexRange (key : Arg) (index : Int64) : Proto.CdtMapOperation :=
  select .getByKeyRelativeIndexRange (some policy) binName
    [key.toProto, (Arg.int index).toProto] returnType ctx

/-- `get_by_key_relative_index_range_count` (lines 8070–8097). -/
def getByKeyRelativeIndexRangeCount (key : Arg) (index count : Int64) : Proto.CdtMapOperation :=
  select .getByKeyRelativeIndexRangeCount (some policy) binName
    [key.toProto, (Arg.int index).toProto, (Arg.int count).toProto] returnType ctx

/-- `get_by_values` (lines 8102–8125). -/
def getByValues (values : List Arg) : Proto.CdtMapOperation :=
  select .getByValueList (some policy) binName [(Arg.list values).toProto] returnType ctx

/-- `get_by_value_range` (lines 8134–8156). -/
def getByValueRange (begin stop : Arg) : Proto.CdtMapOperation :=
  select .getByValueRange (some policy) binName [begin.toProto, stop.toProto] returnType ctx

/-- `get_by_value_relative_rank_range` (lines 8168–8190). -/
def getByValueRelativeRankRange (value : Arg) (rank : Int64) : Proto.CdtMapOperation :=
  select .getByValueRelativeRankRange (some policy) binName
    [value.toProto, (Arg.int rank).toProto] returnType ctx

/-- `get_by_value_relative_rank_range_count` (lines 8202–8229). -/
def getByValueRelativeRankRangeCount (value : Arg) (rank count : Int64) : Proto.CdtMapOperation :=
  select .getByValueRelativeRankRangeCount (some policy) binName
    [value.toProto, (Arg.int rank).toProto, (Arg.int count).toProto] returnType ctx

/-- `get_by_index` (lines 8234–8255). -/
def getByIndex (index : Int64) : Proto.CdtMapOperation :=
  select .getByIndex (some policy) binName [(Arg.int index).toProto] returnType ctx

/-- `get_by_index_range` (lines 8261–8283). -/
def getByIndexRange (begin stop : Arg) : Proto.CdtMapOperation :=
  select .getByIndexRange (some policy) binName [begin.toProto, stop.toProto] returnType ctx

/-- `get_by_index_range_count` (lines 8288–8315). -/
def getByIndexRangeCount (index rank count : Int64) : Proto.CdtMapOperation :=
  select .getByIndexRangeCount (some policy) binName
    [(Arg.int index).toProto, (Arg.int rank).toProto, (Arg.int count).toProto] returnType ctx

/-- `get_by_rank` (lines 8320–8341). -/
def getByRank (rank : Int64) : Proto.CdtMapOperation :=
  select .getByRank (some policy) binName [(Arg.int rank).toProto] returnType ctx

/-- `get_by_rank_range` (lines 8347–8369). -/
def getByRankRange (begin stop : Arg) : Proto.CdtMapOperation :=
  select .getByRankRange (some policy) binName [begin.toProto, stop.toProto] returnType ctx

/-- `get_by_rank_range_count` (lines 8374–8401). -/
def getByRankRangeCount (rank range count : Int64) : Proto.CdtMapOperation :=
  select .getByRankRangeCount (some policy) binName
    [(Arg.int rank).toProto, (Arg.int range).toProto, (Arg.int count).toProto] returnType ctx

end Constructors

end MapOp

/-- A call of a constructor of `MapOp`, without the bin name and the context path. -/
inductive MapCall where
  | create (order : MapOrderType) (withIndex : Option Bool)
  | setPolicy (policy : Proto.CdtMapPolicy)
  | size
  | put (policy : Proto.CdtMapPolicy) (map : Arg)
  | increment (policy : Proto.CdtMapPolicy) (key incr : Arg)
  | decrement (policy : Proto.CdtMapPolicy) (key decr : Arg)
  | clear
  | removeByKeys (keys : List Arg) (returnType : Option MapReturnType)
  | removeByKeyRange (policy : Proto.CdtMapPolicy) (begin stop : Arg)
      (returnType : Option MapReturnType)
  | removeByValues (policy : Proto.CdtMapPolicy) (values : List Arg)
      (returnType : Option MapReturnType)
  | removeByValueRange (policy : Proto.CdtMapPolicy) (begin stop : Arg)
      (returnType : Option MapReturnType)
  | removeByValueRelativeRankRange (policy : Proto.CdtMapPolicy) (value : Arg) (rank : Int64)
      (returnType : Option MapReturnType)
  | removeByValueRelativeRankRangeCount (policy : Proto.CdtMapPolicy) (value : Arg)
      (rank count : Int64)
      (returnType : Option MapReturnType)
  | removeByIndex (policy : Proto.CdtMapPolicy) (index : Int64)
      (returnType : Option MapReturnType)
  | removeByIndexRange (policy : Proto.CdtMapPolicy) (index : Int64)
      (returnType : Option MapReturnType)
  | removeByIndexRangeCount (policy : Proto.CdtMapPolicy) (index count : Int64)
      (returnType : Option MapReturnType)
  | removeByRank (policy : Proto.CdtMapPolicy) (rank : Int64) (returnType : Option MapReturnType)
  | removeByRankRange (policy : Proto.CdtMapPolicy) (rank : Int64)
      (returnType : Option MapReturnType)
  | removeByRankRangeCount (policy : Proto.CdtMapPolicy) (rank count : Int64)
      (returnType : Option MapReturnType)
  | removeByKeyRelativeIndexRange (policy : Proto.CdtMapPolicy) (key : Arg) (index : Int64)
      (returnType : Option MapReturnType)
  | removeByKeyRelativeIndexRangeCount (policy : Proto.CdtMapPolicy) (key : Arg)
      (index count : Int64)
      (returnType : Option MapReturnType)
  | getByKeys (policy : Proto.CdtMapPolicy) (keys : List Arg) (returnType : Option MapReturnType)
  | getByKeyRange (policy : Proto.CdtMapPolicy) (begin stop : Arg)
      (returnType : Option MapReturnType)
  | getByKeyRelativeIndexRange (policy : Proto.CdtMapPolicy) (key : Arg) (index : Int64)
      (returnType : Option MapReturnType)
  | getByKeyRelativeIndexRangeCount (policy : Proto.CdtMapPolicy) (key : Arg) (index count : Int64)
      (returnType : Option MapReturnType)
  | getByValues (policy : Proto.CdtMapPolicy) (values : List Arg)
      (returnType : Option MapReturnType)
  | getByValueRange (policy : Proto.CdtMapPolicy) (begin stop : Arg)
      (returnType : Option MapReturnType)
  | getByValueRelativeRankRange (policy : Proto.CdtMapPolicy) (value : Arg) (rank : Int64)
      (returnType : Option MapReturnType)
  | getByValueRelativeRankRangeCount (policy : Proto.CdtMapPolicy) (value : Arg)
      (rank count : Int64)
      (returnType : Option MapReturnType)
  | getByIndex (policy : Proto.CdtMapPolicy) (index : Int64) (returnType : Option MapReturnType)
  | getByIndexRange (policy : Proto.CdtMapPolicy) (begin stop : Arg)
      (returnType : Option MapReturnType)
  | getByIndexRangeCount (policy : Proto.CdtMapPolicy) (index rank count : Int64)
      (returnType : Option MapReturnType)
  | getByRank (policy : Proto.CdtMapPolicy) (rank : Int64) (returnType : Option MapReturnType)
  | getByRankRange (policy : Proto.CdtMapPolicy) (begin stop : Arg)
      (returnType : Option MapReturnType)
  | getByRankRangeCount (policy : Proto.CdtMapPolicy) (rank range count : Int64)
      (returnType : Option MapReturnType)

/-- The message that a constructor builds; `none` if it refuses its argument. -/
def MapCall.build (binName : String) (ctx : Option (List CDTContext)) :
    MapCall → Option Proto.CdtMapOperation
  | .create order withIndex => some (MapOp.create binName ctx order withIndex)
  | .setPolicy policy => some (MapOp.setPolicy policy binName ctx)
  | .size => some (MapOp.size binName ctx)
  | .put policy map => MapOp.put policy binName ctx map
  | .increment policy key incr => some (MapOp.increment policy binName ctx key incr)
  | .decrement policy key decr => some (MapOp.decrement policy binName ctx key decr)
  | .clear => some (MapOp.clear binName ctx)
  | .removeByKeys keys rt => some (MapOp.removeByKeys binName rt ctx keys)
  | .removeByKeyRange policy begin stop rt =>
    some (MapOp.removeByKeyRange policy binName rt ctx begin stop)
  | .removeByValues policy values rt => some (MapOp.removeByValues policy binName rt ctx values)
  | .removeByValueRange policy begin stop rt =>
    some (MapOp.removeByValueRange policy binName rt ctx begin stop)
  | .removeByValueRelativeRankRange policy value rank rt =>
    some (MapOp.removeByValueRelativeRankRange policy binName rt ctx value rank)
  | .removeByValueRelativeRankRangeCount policy value rank count rt =>
    some (MapOp.removeByValueRelativeRankRangeCount policy binName rt ctx value rank count)
  | .removeByIndex policy index rt => some (MapOp.removeByIndex policy binName rt ctx index)
  | .removeByIndexRange policy index rt =>
    some (MapOp.removeByIndexRange policy binName rt ctx index)
  | .removeByIndexRangeCount policy index count rt =>
    some (MapOp.removeByIndexRangeCount policy binName rt ctx index count)
  | .removeByRank policy rank rt => some (MapOp.removeByRank policy binName rt ctx rank)
  | .removeByRankRange policy rank rt => some (MapOp.removeByRankRange policy binName rt ctx rank)
  | .removeByRankRangeCount policy rank count rt =>
    some (MapOp.removeByRankRangeCount policy binName rt ctx rank count)
  | .removeByKeyRelativeIndexRange policy key index rt =>
    some (MapOp.removeByKeyRelativeIndexRange policy binName rt ctx key index)
  | .removeByKeyRelativeIndexRangeCount policy key index count rt =>
    some (MapOp.removeByKeyRelativeIndexRangeCount policy binName rt ctx key index count)
  | .getByKeys policy keys rt => some (MapOp.getByKeys policy binName rt ctx keys)
  | .getByKeyRange policy begin stop rt =>
    some (MapOp.getByKeyRange policy binName rt ctx begin stop)
  | .getByKeyRelativeIndexRange policy key index rt =>
    some (MapOp.getByKeyRelativeIndexRange policy binName rt ctx key index)
  | .getByKeyRelativeIndexRangeCount policy key index count rt =>
    some (MapOp.getByKeyRelativeIndexRangeCount policy binName rt ctx key index count)
  | .getByValues policy values rt => some (MapOp.getByValues policy binName rt ctx values)
  | .getByValueRange policy begin stop rt =>
    some (MapOp.getByValueRange policy binName rt ctx begin stop)
  | .getByValueRelativeRankRange policy value rank rt =>
    some (MapOp.getByValueRelativeRankRange policy binName rt ctx value rank)
  | .getByValueRelativeRankRangeCount policy value rank count rt =>
    some (MapOp.getByValueRelativeRankRangeCount policy binName rt ctx value rank count)
  | .getByIndex policy index rt => some (MapOp.getByIndex policy binName rt ctx index)
  | .getByIndexRange policy begin stop rt =>
    some (MapOp.getByIndexRange policy binName rt ctx begin stop)
  | .getByIndexRangeCount policy index rank count rt =>
    some (MapOp.getByIndexRangeCount policy binName rt ctx index rank count)
  | .getByRank policy rank rt => some (MapOp.getByRank policy binName rt ctx rank)
  | .getByRankRange policy begin stop rt =>
    some (MapOp.getByRankRange policy binName rt ctx begin stop)
  | .getByRankRangeCount policy rank range count rt =>
    some (MapOp.getByRankRangeCount policy binName rt ctx rank range count)

/-! ## The daemon -/

/-- The map orders of the Go client. -/
inductive Aero.MapOrder where
  | unordered
  | keyOrdered
  | keyValueOrdered
deriving DecidableEq

/-- A map policy of the Go client, by the function that makes it. -/
inductive Aero.MapPolicy where
  | default
  | withFlags (order : Aero.MapOrder) (flags : Int64)
  | withFlagsAndPersistedIndex (order : Aero.MapOrder) (flags : Int64)
deriving DecidableEq

/-- A map operation of the Go client, by the function that makes it; `remove` and
    `get` stand for the families `MapRemoveBy…Op` and `MapGetBy…Op`. -/
inductive Aero.MapCommand where
  | create (order : Aero.MapOrder)
  | setPolicy (policy : Aero.MapPolicy)
  | putItems (policy : Aero.MapPolicy) (m : List (Aero.Value × Aero.Value))
  | increment (policy : Aero.MapPolicy) (key incr : Aero.Value)
  | decrement (policy : Aero.MapPolicy) (key decr : Aero.Value)
  | clear
  | size
  | remove (sel : Aero.Selector) (returnType : Int32)
  | get (sel : Aero.Selector) (returnType : Int32)

structure Aero.MapOp where
  binName : String
  command : Aero.MapCommand
  ctx : List Aero.CDTContext

/-- `toMapOrderType` (`kvs.go` lines 906–916). -/
def toMapOrderType (n : Int64) : Except Panic Aero.MapOrder :=
  if n = MapOrderType.unordered.number then .ok .unordered
  else if n = MapOrderType.keyOrdered.number then .ok .keyOrdered
  else if n = MapOrderType.keyValueOrdered.number then .ok .keyValueOrdered
  else .error .unreachable

/-- `toCdtMapPolicy` (lines 918–927). -/
def toCdtMapPolicy : Option Proto.CdtMapPolicy → Except Panic Aero.MapPolicy
  | some policy => do
    let order ← toMapOrderType policy.mapOrder.number
    if policy.persistedIndex then
      return .withFlagsAndPersistedIndex order policy.flags.toInt64
    else return .withFlags order policy.flags.toInt64
  | none => .ok .default

/-- The return types of the Go client's maps. -/
def Aero.mapReturnType : MapReturnBase → Int32
  | .none => 0
  | .index => 1
  | .reverseIndex => 2
  | .rank => 3
  | .reverseRank => 4
  | .count => 5
  | .key => 6
  | .value => 7
  | .keyValue => 8
  | .exists => 13
  | .unorderedMap => 16
  | .orderedMap => 17

/-- `toCdtMapReturnType` (lines 929–962). The enumeration has a member `Inverted`
    of its own, number 12. -/
def toCdtMapReturnType : Option Int32 → Int32
  | some rt =>
    if rt = MapReturnBase.none.number then Aero.mapReturnType .none
    else if rt = MapReturnBase.index.number then Aero.mapReturnType .index
    else if rt = MapReturnBase.reverseIndex.number then Aero.mapReturnType .reverseIndex
    else if rt = MapReturnBase.rank.number then Aero.mapReturnType .rank
    else if rt = MapReturnBase.reverseRank.number then Aero.mapReturnType .reverseRank
    else if rt = MapReturnBase.count.number then Aero.mapReturnType .count
    else if rt = MapReturnBase.key.number then Aero.mapReturnType .key
    else if rt = MapReturnBase.value.number then Aero.mapReturnType .value
    else if rt = MapReturnBase.keyValue.number then Aero.mapReturnType .keyValue
    else if rt = MapReturnBase.exists.number then Aero.mapReturnType .exists
    else if rt = MapReturnBase.unorderedMap.number then Aero.mapReturnType .unorderedMap
    else if rt = MapReturnBase.orderedMap.number then Aero.mapReturnType .orderedMap
    else if rt = 12 then invertedFlag
    else Aero.mapReturnType .none
  | none => Aero.mapReturnType .none

/-- `toValue(in.Args[0]).(aero.MapValue)`. -/
def mapAt (args : List Proto.Value) (i : ℕ) : Except Panic (List (Aero.Value × Aero.Value)) := do
  match ← valueAt args i with
  | .map m => return m
  | _ => .error .typeAssertion

/-- A function `MapRemoveBy…Op` on a selection. -/
def removeBy (op : Proto.CdtMapOperation) (sel : Except Panic Aero.Selector) :
    Except Panic (Option Aero.MapCommand) := do
  return some (.remove (← sel) (toCdtMapReturnType op.returnType))

/-- A function `MapGetBy…Op` on a selection. -/
def getBy (op : Proto.CdtMapOperation) (sel : Except Panic Aero.Selector) :
    Except Panic (Option Aero.MapCommand) := do
  return some (.get (← sel) (toCdtMapReturnType op.returnType))

/-- The switch of `toCdtMapOp`: the function that is called, and its arguments
    but for the bin name and the contexts; `none` for a command without a case. -/
def mapCommand (op : Proto.CdtMapOperation) : Except Panic (Option Aero.MapCommand) :=
  match op.op with
  | .create => do return some (.create (← toMapOrderType (← intAt op.args 0)))
  | .setPolicy => do return some (.setPolicy (← toCdtMapPolicy op.policy))
  | .putItems => do
    let m ← mapAt op.args 0
    return some (.putItems (← toCdtMapPolicy op.policy) m)
  | .increment => do
    let key ← valueAt op.args 0
    let incr ← valueAt op.args 1
    return some (.increment (← toCdtMapPolicy op.policy) key incr)
  | .decrement => do
    let key ← valueAt op.args 0
    let decr ← valueAt op.args 1
    return some (.decrement (← toCdtMapPolicy op.policy) key decr)
  | .clear => .ok (some .clear)
  | .removeByKeyList => removeBy op (selectList op.args .keys)
  | .removeByKeyRange => removeBy op (selectRange op.args .keyRange)
  | .removeByValueList => removeBy op (selectList op.args .values)
  | .removeByValueRange => removeBy op (selectRange op.args .valueRange)
  | .removeByValueRelativeRankRange => removeBy op (selectValueInt op.args .valueRelativeRankRange)
  | .removeByValueRelativeRankRangeCount =>
    removeBy op (selectValueIntInt op.args .valueRelativeRankRangeCount)
  | .removeByIndex => removeBy op (selectInt op.args .index)
  | .removeByIndexRange => removeBy op (selectInt op.args .indexRange)
  | .removeByIndexRangeCount => removeBy op (selectIntInt op.args .indexRangeCount)
  | .removeByRank => removeBy op (selectInt op.args .rank)
  | .removeByRankRange => removeBy op (selectInt op.args .rankRange)
  | .removeByRankRangeCount => removeBy op (selectIntInt op.args .rankRangeCount)
  | .removeByKeyRelativeIndexRange => removeBy op (selectValueInt op.args .keyRelativeIndexRange)
  | .removeByKeyRelativeIndexRangeCount =>
    removeBy op (selectValueIntInt op.args .keyRelativeIndexRangeCount)
  | .size => .ok (some .size)
  | .getByKeyList => getBy op (selectList op.args .keys)
  | .getByKeyRange => getBy op (selectRange op.args .keyRange)
  | .getByKeyRelativeIndexRange => getBy op (selectValueInt op.args .keyRelativeIndexRange)
  | .getByKeyRelativeIndexRangeCount =>
    getBy op (selectValueIntInt op.args .keyRelativeIndexRangeCount)
  | .getByValueList => getBy op (selectList op.args .values)
  | .getByValueRange => getBy op (selectRange op.args .valueRange)
  | .getByValueRelativeRankRange => getBy op (selectValueInt op.args .valueRelativeRankRange)
  | .getByValueRelativeRankRangeCount =>
    getBy op (selectValueIntInt op.args .valueRelativeRankRangeCount)
  | .getByIndex => getBy op (selectInt op.args .index)
  | .getByIndexRange => getBy op (selectInt op.args .indexRange)
  | .getByIndexRangeCount => getBy op (selectIntInt op.args .indexRangeCount)
  | .getByRank => getBy op (selectInt op.args .rank)
  | .getByRankRange => getBy op (selectInt op.args .rankRange)
  | .getByRankRangeCount => getBy op (selectIntInt op.args .rankRangeCount)
  | .createWithIndex | .put | .removeByKey | .removeByValue | .getByKey | .getByValue => .ok none

/-- `toCdtMapOp` (lines 964–1108). -/
def toCdtMapOp : Option Proto.CdtMapOperation → Except Panic (Option Aero.MapOp)
  | some op => do
    match ← mapCommand op with
    | some command => return some ⟨op.binName, command, ← toCDTContexts op.ctx⟩
    | none => return none
  | none => .ok none

end AerospikePhp
