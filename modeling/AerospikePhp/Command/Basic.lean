import AerospikePhp.Cdt.Operation
import AerospikePhp.Client
import AerospikePhp.Policy.Basic
import AerospikePhp.Record

/-!
# Single-record commands in the extension

The methods of `Client` that read or write one record (`src/lib.rs` lines 9777–10029
and 10358–10394). Each sends one request and matches the answer.
-/

namespace AerospikePhp

/-! ## Messages -/

namespace Proto

/-- The `Bin` message. -/
structure Bin where
  name : String
  value : Option Proto.Value

/-- The `AerospikeGetRequest` message. -/
structure GetRequest where
  policy : Option Proto.ReadPolicy
  key : Option Proto.Key
  binNames : List String

/-- The `AerospikeGetHeaderRequest` message. -/
structure GetHeaderRequest where
  policy : Option Proto.ReadPolicy
  key : Option Proto.Key

/-- The `AerospikeExistsRequest` message. -/
structure ExistsRequest where
  policy : Option Proto.ReadPolicy
  key : Option Proto.Key

/-- The `AerospikePutRequest` message, also for `Add`, `Append` and `Prepend`. -/
structure PutRequest where
  policy : Option Proto.WritePolicy
  key : Option Proto.Key
  bins : List Proto.Bin

/-- The `AerospikeDeleteRequest` message. -/
structure DeleteRequest where
  policy : Option Proto.WritePolicy
  key : Option Proto.Key

/-- The `AerospikeTouchRequest` message. -/
structure TouchRequest where
  policy : Option Proto.WritePolicy
  key : Option Proto.Key

/-- The `AerospikeUDFExecuteRequest` message. -/
structure UdfExecuteRequest where
  policy : Option Proto.WritePolicy
  key : Option Proto.Key
  packageName : String
  functionName : String
  args : List Proto.Value

/-- The `AerospikeSingleResponse` message. -/
structure SingleResponse where
  error : Option Proto.Error
  record : Option Proto.Record

/-- The `AerospikeExistsResponse` message. -/
structure ExistsResponse where
  error : Option Proto.Error
  exists? : Option Bool

/-- The `AerospikeDeleteResponse` message. -/
structure DeleteResponse where
  error : Option Proto.Error
  existed : Option Bool

/-- The `AerospikeUDFExecuteResponse` message. -/
structure UdfExecuteResponse where
  error : Option Proto.Error
  result : Option Proto.Value

end Proto

/-- The single-record methods of the service `KVS`: each answers a request with a
    message, or with the text of a status. -/
structure KVS where
  get : Proto.GetRequest → Except String Proto.SingleResponse
  getHeader : Proto.GetHeaderRequest → Except String Proto.SingleResponse
  existsKey : Proto.ExistsRequest → Except String Proto.ExistsResponse
  put : Proto.PutRequest → Except String Proto.Error
  add : Proto.PutRequest → Except String Proto.Error
  append : Proto.PutRequest → Except String Proto.Error
  prepend : Proto.PutRequest → Except String Proto.Error
  delete : Proto.DeleteRequest → Except String Proto.DeleteResponse
  touch : Proto.TouchRequest → Except String Proto.Error
  udfExecute : Proto.UdfExecuteRequest → Except String Proto.UdfExecuteResponse

/-! ## The methods of `Client` -/

/-- `impl From<&Bin> for proto::Bin` (`src/lib.rs` lines 11700–11704). -/
def Bin.toProto (bin : Bin) : Proto.Bin where
  name := bin.name
  value := some bin.value.toProto

namespace Client

/-! ### The matches on the answer -/

/-- The match of `get` and `get_header`: a record that is not found, and not in doubt,
    throws no exception. -/
def matchSingle :
    Except String Proto.SingleResponse → Except Panic (CallResult (Option Proto.Record))
  | .error text => .ok { thrown := [], result := .error text }
  | .ok { error := none, record := some rec } => .ok { thrown := [], result := .ok (some rec) }
  | .ok { error := some pe, record := none } =>
    if pe.resultCode = ResultCode.keyNotFoundError ∧ pe.inDoubt = false then
      .ok { thrown := [], result := .ok none }
    else .ok { thrown := [.ofError pe], result := .ok none }
  | .ok { error := none, record := none } => .error .unreachable
  | .ok { error := some _, record := some _ } => .error .unreachable

/-- The match of `put`, `add`, `append`, `prepend` and `touch`. -/
def matchError : Except String Proto.Error → CallResult Unit
  | .error text => { thrown := [], result := .error text }
  | .ok pe =>
    if pe.resultCode = 0 then { thrown := [], result := .ok () }
    else { thrown := [.ofError pe], result := .ok () }

/-- The match of `delete`: `Ok(existed.is_some())`. -/
def matchDelete : Except String Proto.DeleteResponse → CallResult Bool
  | .error text => { thrown := [], result := .error text }
  | .ok { error := none, existed := existed } => { thrown := [], result := .ok existed.isSome }
  | .ok { error := some pe, existed := _ } => { thrown := [.ofError pe], result := .ok false }

/-- The match of `exists`: `Ok(exists.unwrap())`. -/
def matchExists : Except String Proto.ExistsResponse → Except Panic (CallResult Bool)
  | .error text => .ok { thrown := [], result := .error text }
  | .ok { error := none, exists? := some b } => .ok { thrown := [], result := .ok b }
  | .ok { error := none, exists? := none } => .error .unwrapNone
  | .ok { error := some pe, exists? := _ } =>
    .ok { thrown := [.ofError pe], result := .ok false }

/-- The match of `udf_execute`. -/
def matchUdfExecute :
    Except String Proto.UdfExecuteResponse → Except Panic (CallResult PHPValue)
  | .error text => .ok { thrown := [], result := .error text }
  | .ok { error := none, result := some v } => do
    let v ← PHPValue.fromProto v
    return { thrown := [], result := .ok v }
  | .ok { error := none, result := none } => .ok { thrown := [], result := .ok .nil }
  | .ok { error := some pe, result := _ } => .ok { thrown := [.ofError pe], result := .ok .nil }

/-! ### The methods -/

section Methods

variable (kvs : KVS)

/-- `Client::put` (lines 9777–9799). -/
def put (policy : Proto.WritePolicy) (key : Proto.Key) (bins : List Bin) :
    Called Proto.PutRequest Unit :=
  let request : Proto.PutRequest :=
    { policy := some policy, key := some key, bins := bins.map Bin.toProto }
  .sending request (matchError (kvs.put request))

/-- `Client::get` (lines 9804–9844). -/
def get (policy : Proto.ReadPolicy) (key : Proto.Key) (bins : Option (List String)) :
    Except Panic (Called Proto.GetRequest (Option Proto.Record)) :=
  let request : Proto.GetRequest :=
    { policy := some policy, key := some key, binNames := bins.getD [] }
  (matchSingle (kvs.get request)).map (.sending request)

/-- `Client::get_header` (lines 9849–9883). -/
def getHeader (policy : Proto.ReadPolicy) (key : Proto.Key) :
    Except Panic (Called Proto.GetHeaderRequest (Option Proto.Record)) :=
  let request : Proto.GetHeaderRequest := { policy := some policy, key := some key }
  (matchSingle (kvs.getHeader request)).map (.sending request)

/-- `Client::add` (lines 9888–9910). -/
def add (policy : Proto.WritePolicy) (key : Proto.Key) (bins : List Bin) :
    Called Proto.PutRequest Unit :=
  let request : Proto.PutRequest :=
    { policy := some policy, key := some key, bins := bins.map Bin.toProto }
  .sending request (matchError (kvs.add request))

/-- `Client::append` (lines 9915–9937). -/
def append (policy : Proto.WritePolicy) (key : Proto.Key) (bins : List Bin) :
    Called Proto.PutRequest Unit :=
  let request : Proto.PutRequest :=
    { policy := some policy, key := some key, bins := bins.map Bin.toProto }
  .sending request (matchError (kvs.append request))

/-- `Client::prepend` (lines 9942–9960). -/
def prepend (policy : Proto.WritePolicy) (key : Proto.Key) (bins : List Bin) :
    Called Proto.PutRequest Unit :=
  let request : Proto.PutRequest :=
    { policy := some policy, key := some key, bins := bins.map Bin.toProto }
  .sending request (matchError (kvs.prepend request))

/-- `Client::delete` (lines 9964–9985). -/
def delete (policy : Proto.WritePolicy) (key : Proto.Key) : Called Proto.DeleteRequest Bool :=
  let request : Proto.DeleteRequest := { policy := some policy, key := some key }
  .sending request (matchDelete (kvs.delete request))

/-- `Client::touch` (lines 9989–10005). -/
def touch (policy : Proto.WritePolicy) (key : Proto.Key) : Called Proto.TouchRequest Unit :=
  let request : Proto.TouchRequest := { policy := some policy, key := some key }
  .sending request (matchError (kvs.touch request))

/-- `Client::exists` (lines 10008–10029). -/
def existsKey (policy : Proto.ReadPolicy) (key : Proto.Key) :
    Except Panic (Called Proto.ExistsRequest Bool) :=
  let request : Proto.ExistsRequest := { policy := some policy, key := some key }
  (matchExists (kvs.existsKey request)).map (.sending request)

/-- `Client::udf_execute` (lines 10358–10394). -/
def udfExecute (policy : Proto.WritePolicy) (key : Proto.Key) (packageName functionName : String)
    (args : List Arg) : Except Panic (Called Proto.UdfExecuteRequest PHPValue) :=
  let request : Proto.UdfExecuteRequest :=
    { policy := some policy
      key := some key
      packageName := packageName
      functionName := functionName
      args := args.map Arg.toProto }
  (matchUdfExecute (kvs.udfExecute request)).map (.sending request)

end Methods

end Client

end AerospikePhp
