import Mathlib.Data.List.Basic

/-!
# Errors

The daemon sends the result code of an error, and the extension looks up its text
(`ResultCode::to_string`, `src/lib.rs` lines 12009–12106) when it throws the
error as an `AerospikeException` (lines 10748–10785).
-/

namespace AerospikePhp

/-- The `Error` message. -/
structure Proto.Error where
  resultCode : Int32
  inDoubt : Bool
deriving DecidableEq, Repr

/-- `AerospikeException` (`src/lib.rs` lines 10748–10755). -/
structure AerospikeException where
  message : String
  code : Int32
  inDoubt : Bool
deriving DecidableEq, Repr

namespace ResultCode

/-- `COMMON_ERROR` (line 11743). -/
def commonError : Int32 := -17

/-- `KEY_NOT_FOUND_ERROR` (line 11797). -/
def keyNotFoundError : Int32 := 2

/-- The arms of `ResultCode::to_string` (lines 12009–12106). -/
def texts : List (Int32 × String) :=
  [ (-21, "wrapped and directly returned from the grpc library"),
    (-20, "one or more keys failed in a batch"),
    (-19, "no response was received from the server"),
    (-18, "a network error. Checked the wrapped error for detail"),
    (-17, "a common, none-aerospike error. Checked the wrapped error for detail"),
    (-16, "max retries limit reached"),
    (-15, "max errors limit reached"),
    (-13, "requested Rack for node/namespace was not defined in the cluster"),
    (-12, "cluster has an invalid partition map, usually due to bad configuration"),
    (-11, "server is not accepting requests"),
    (-10, "cluster Name does not match the ClientPolicy.ClusterName value"),
    (-9, "recordset has already been closed or cancelled"),
    (-8, "there were no connections available to the node in the pool, and the pool was limited"),
    (-7, "data type is not supported by aerospike server"),
    (-6, "info Command was rejected by the server"),
    (-5, "query was terminated by user"),
    (-4, "scan was terminated by user"),
    (-3, "chosen node is not currently active"),
    (-2, "client parse error"),
    (-1, "client serialization error"),
    (0, "operation was successful"),
    (1, "unknown server failure"),
    (2, "on retrieving, touching or replacing a record that doesn't exist"),
    (3, "on modifying a record with unexpected generation"),
    (4, "bad parameter(s) were passed in database operation call"),
    (5, "on create-only (write unique) operations on a record that already exists"),
    (6, "bin already exists on a create-only operation"),
    (7, "expected cluster ID was not received"),
    (8, "server has run out of memory"),
    (9, "client or server has timed out"),
    (10, "operation not allowed in current configuration"),
    (11, "partition is unavailable"),
    (12, "operation is not supported with configured bin type (single-bin or multi-bin)"),
    (13, "record size exceeds limit"),
    (14, "too many concurrent operations on the same record"),
    (15, "scan aborted by server"),
    (16, "unsupported Server Feature (e.g. Scan + UDF)"),
    (17, "bin not found on update-only operation"),
    (18, "device not keeping up with writes"),
    (19, "key type mismatch"),
    (20, "invalid namespace"),
    (21,
      "bin name length greater than 14 characters, or maximum number of unique bin names are exceeded"),
    (22, "operation not allowed at this time"),
    (23, "element Not Found in CDT"),
    (24, "element Already Exists in CDT"),
    (25,
      "attempt to use an Enterprise feature on a Community server or a server without the applicable feature key"),
    (26, "the operation cannot be applied to the current bin value on the server"),
    (27, "the transaction was not performed because the filter was false"),
    (28, "write command loses conflict to XDR"),
    (50, "there are no more records left for query"),
    (51, "security type not supported by connected server"),
    (52, "administration command is invalid"),
    (53, "administration field is invalid"),
    (54, "administration command is invalid"),
    (55, "administration field is invalid"),
    (56, "security protocol not followed"),
    (60, "user name is invalid"),
    (61, "user was previously created"),
    (62, "password is invalid"),
    (63, "security credential is invalid"),
    (64, "forbidden password (e.g. recently used)"),
    (65, "security credential is invalid"),
    (66, "login session expired"),
    (70, "role name is invalid"),
    (71, "role already exists"),
    (72, "privilege is invalid"),
    (73, "invalid IP address whiltelist"),
    (74, "Quotas not enabled on server"),
    (75, "invalid quota value"),
    (80, "user must be authentication before performing database operations"),
    (81, "user does not posses the required role to perform the database operation"),
    (82, "command not allowed because sender IP address not whitelisted"),
    (83, "Quota exceeded"),
    (100, "a user defined function returned an error code"),
    (150, "batch functionality has been disabled"),
    (151, "batch max requests have been exceeded"),
    (152, "all batch queues are full"),
    (160, "invalid GeoJSON on insert/update"),
    (200, "secondary index already exists"),
    (201, "requested secondary index does not exist"),
    (202, "secondary index memory space exceeded"),
    (203, "secondary index not available"),
    (204, "generic secondary index error"),
    (205, "index name maximum length exceeded"),
    (206, "maximum number of indexes exceeded"),
    (210, "secondary index query aborted"),
    (211, "secondary index queue full"),
    (212, "secondary index query timed out on server"),
    (213, "generic query error"),
    (214, "query NetIO error on server"),
    (215, "duplicate TaskId sent for the statement"),
    (1301, "UDF does not exist"),
    (1302, "LUA file does not exist") ]

/-- `ResultCode::to_string`. -/
def toString (code : Int32) : String := (texts.lookup code).getD "Unknown Error"

/-- No code has two arms, so their order does not matter. -/
theorem texts_nodup : (texts.map Prod.fst).Nodup := by decide +kernel

end ResultCode

namespace AerospikeException

/-- `AerospikeException::new` (lines 10767–10773). -/
def new (message : String) : AerospikeException where
  message := message
  code := ResultCode.commonError
  inDoubt := false

/-- `impl From<&proto::Error> for AerospikeException` (lines 10776–10785). -/
def ofError (error : Proto.Error) : AerospikeException where
  message := ResultCode.toString error.resultCode
  code := error.resultCode
  inDoubt := error.inDoubt

/-- The error can be told from the exception. -/
theorem ofError_injective : Function.Injective ofError := by
  intro e e' h
  cases e
  cases e'
  simp only [ofError, AerospikeException.mk.injEq] at h
  simp [h.2.1, h.2.2]

end AerospikeException

end AerospikePhp
