import AerospikePhp.Command.Index
import AerospikePhp.Stream.Server

/-!
# Statements and their filters

A statement says which records a query reads: its namespace and set, its bins, and a filter on
an indexed bin (`src/lib.rs` lines 3628–3923). The daemon makes a statement of the Go client of
it (`kvs.go` lines 430–479).

A filter is made of the type of a value and of its two bounds. There is no type of an infinity
or a wildcard.

Results:
* `Filter.Call.sent`: the filter that the Go client gets is the one that the constructor
  describes, and there is none iff the constructor panics.
-/

namespace AerospikePhp

/-! ## Messages -/

/-- The `QueryFilter` message. -/
structure Proto.QueryFilter where
  name : String
  idxType : Int32
  valueParticleType : UInt32
  begin : Option Proto.Value
  end_ : Option Proto.Value
  ctx : List Proto.CDTContext

/-- The `Statement` message, less the call of a UDF, which no statement has. -/
structure Proto.Statement where
  ns : String
  setName : String
  indexName : Option String
  binNames : List String
  filter : Option Proto.QueryFilter
  taskId : UInt64
  returnData : Bool

/-- A filter of the Go client: the arguments of `aero.NewFilter`. -/
structure Aero.Filter where
  name : String
  idxType : Aero.IndexCollectionType
  valueParticleType : Int64
  begin : Aero.Value
  end_ : Aero.Value
  ctx : List Aero.CDTContext

/-- A statement of the Go client. -/
structure Aero.Statement where
  ns : String
  setName : String
  indexName : String
  binNames : List String
  filter : Option Aero.Filter
  taskId : UInt64
  returnData : Bool

/-! ## Filters in the extension -/

/-- The texts of numbers: `format!` with eight digits, and with as many as it takes. -/
structure FloatText where
  fixed8 : F64 → String
  shortest : F64 → String

namespace Filter

/-- The filter that every constructor makes: `value` is the one whose type it has. -/
def of (binName : String) (cit : IndexCollectionType) (value : PHPValue) (first last : Arg)
    (ctx : Option (List CDTContext)) : Except Panic Proto.QueryFilter := do
  let particleType ← value.particleType
  return {
    name := binName
    idxType := cit.number
    valueParticleType := UInt32.ofNat particleType
    begin := some first.toProto
    end_ := some last.toProto
    ctx := CDTContext.pathToProto ctx }

/-- A filter on the text of a region or of a point. -/
def ofGeo (binName : String) (text : String) (cit : Option IndexCollectionType)
    (ctx : Option (List CDTContext)) : Except Panic Proto.QueryFilter :=
  of binName (cit.getD .default) (.geoJSON "") (.string text) (.string text) ctx

/-- `Filter::equal` (lines 3646–3659). -/
def equal (binName : String) (value : Arg) (ctx : Option (List CDTContext)) :
    Except Panic Proto.QueryFilter :=
  of binName .default value.val value value ctx

/-- `Filter::range` (lines 3664–3682). -/
def range (binName : String) (first last : Arg) (ctx : Option (List CDTContext)) :
    Except Panic Proto.QueryFilter :=
  of binName .default first.val first last ctx

/-- `Filter::contains` (lines 3686–3706). -/
def contains (binName : String) (value : Arg) (cit : Option IndexCollectionType)
    (ctx : Option (List CDTContext)) : Except Panic Proto.QueryFilter :=
  of binName (cit.getD .default) value.val value value ctx

/-- `Filter::contains_range` (lines 3709–3730). -/
def containsRange (binName : String) (first last : Arg) (cit : Option IndexCollectionType)
    (ctx : Option (List CDTContext)) : Except Panic Proto.QueryFilter :=
  of binName (cit.getD .default) first.val first last ctx

/-- `Filter::within_region` (lines 3734–3755). -/
def withinRegion (binName : String) (region : String) (cit : Option IndexCollectionType)
    (ctx : Option (List CDTContext)) : Except Panic Proto.QueryFilter :=
  ofGeo binName region cit ctx

variable (text : FloatText)

/-- The circle of `within_radius`. -/
def circle (lat lng radius : F64) : String :=
  "\x7b \"type\": \"AeroCircle\", \"coordinates\": [[" ++ text.fixed8 lng ++ ", " ++
    text.fixed8 lat ++ "], " ++ text.shortest radius ++ "] \x7d"

/-- The point of `regions_containing_point`. -/
def point (lat lng : F64) : String :=
  "\x7b\"type\":\"Point\",\"coordinates\":[" ++ text.fixed8 lng ++ "," ++ text.fixed8 lat ++ "]\x7d"

/-- `Filter::within_radius` (lines 3759–3786). -/
def withinRadius (binName : String) (lat lng radius : F64) (cit : Option IndexCollectionType)
    (ctx : Option (List CDTContext)) : Except Panic Proto.QueryFilter :=
  ofGeo binName (circle text lat lng radius) cit ctx

/-- `Filter::regions_containing_point` (lines 3790–3816). -/
def regionsContainingPoint (binName : String) (lat lng : F64) (cit : Option IndexCollectionType)
    (ctx : Option (List CDTContext)) : Except Panic Proto.QueryFilter :=
  ofGeo binName (point text lat lng) cit ctx

end Filter

/-! ## Filters in the daemon -/

/-- `toFilter` (`kvs.go` lines 467–479). -/
def toFilter : Option Proto.QueryFilter → Except Panic (Option Aero.Filter)
  | some f => do
    let idxType ← toIndexCollectionType f.idxType
    let first ← toValue f.begin
    let last ← toValue f.end_
    let ctx ← toCDTContexts f.ctx
    return some
      { name := f.name
        idxType := idxType
        valueParticleType := f.valueParticleType.toUInt64.toInt64
        begin := first
        end_ := last
        ctx := ctx }
  | none => .ok none

/-! ## What a filter says -/

namespace Filter

/-- The filter of the Go client with these arguments, if the value has a type. -/
def described (binName : String) (cit : IndexCollectionType) (value : PHPValue) (first last : Arg)
    (ctx : Option (List CDTContext)) : Option Aero.Filter :=
  value.particleType.toOption.map fun particleType =>
    { name := binName
      idxType := cit.toAero
      valueParticleType := Int64.ofNat particleType
      begin := first.toAero
      end_ := last.toAero
      ctx := CDTContext.pathToAero ctx }

/-- A call of a constructor. -/
inductive Call where
  | equal (binName : String) (value : Arg) (ctx : Option (List CDTContext))
  | range (binName : String) (first last : Arg) (ctx : Option (List CDTContext))
  | contains (binName : String) (value : Arg) (cit : Option IndexCollectionType)
      (ctx : Option (List CDTContext))
  | containsRange (binName : String) (first last : Arg) (cit : Option IndexCollectionType)
      (ctx : Option (List CDTContext))
  | withinRegion (binName region : String) (cit : Option IndexCollectionType)
      (ctx : Option (List CDTContext))
  | withinRadius (binName : String) (lat lng radius : F64) (cit : Option IndexCollectionType)
      (ctx : Option (List CDTContext))
  | regionsContainingPoint (binName : String) (lat lng : F64) (cit : Option IndexCollectionType)
      (ctx : Option (List CDTContext))

namespace Call

variable (text : FloatText)

/-- The object that the call makes. -/
def build : Call → Except Panic Proto.QueryFilter
  | equal binName value ctx => Filter.equal binName value ctx
  | range binName first last ctx => Filter.range binName first last ctx
  | contains binName value cit ctx => Filter.contains binName value cit ctx
  | containsRange binName first last cit ctx => Filter.containsRange binName first last cit ctx
  | withinRegion binName region cit ctx => Filter.withinRegion binName region cit ctx
  | withinRadius binName lat lng radius cit ctx =>
    Filter.withinRadius text binName lat lng radius cit ctx
  | regionsContainingPoint binName lat lng cit ctx =>
    Filter.regionsContainingPoint text binName lat lng cit ctx

/-- The filter of the Go client that it stands for: on one value or between two, or on the
    text of a region or of a point. -/
def toAero : Call → Option Aero.Filter
  | equal binName value ctx => described binName .default value.val value value ctx
  | range binName first last ctx => described binName .default first.val first last ctx
  | contains binName value cit ctx =>
    described binName (cit.getD .default) value.val value value ctx
  | containsRange binName first last cit ctx =>
    described binName (cit.getD .default) first.val first last ctx
  | withinRegion binName region cit ctx => geo binName region cit ctx
  | withinRadius binName lat lng radius cit ctx =>
    geo binName (circle text lat lng radius) cit ctx
  | regionsContainingPoint binName lat lng cit ctx => geo binName (point text lat lng) cit ctx
where
  geo (binName text : String) (cit : Option IndexCollectionType)
      (ctx : Option (List CDTContext)) : Option Aero.Filter :=
    described binName (cit.getD .default) (.geoJSON "") (.string text) (.string text) ctx

end Call

/-- The object is the one that the Go client gets. -/
def Sent (f : Except Panic Proto.QueryFilter) (go : Option Aero.Filter) : Prop :=
  (f = .error .unreachable ∧ go = none) ∨
    ∃ f' go', f = .ok f' ∧ go = some go' ∧ toFilter (some f') = .ok (some go')

theorem particleType_kept {v : PHPValue} {n : ℕ} (h : v.particleType = .ok n) :
    (UInt32.ofNat n).toUInt64.toInt64 = Int64.ofNat n := by
  cases v with
  | infinity | wildcard => cases h
  | _ =>
    cases h
    rfl

theorem particleType_error {v : PHPValue} {p : Panic} (h : v.particleType = .error p) :
    p = .unreachable := by
  cases v with
  | infinity | wildcard =>
    cases h
    rfl
  | _ => cases h

theorem of_sent (binName : String) (cit : IndexCollectionType) (value : PHPValue)
    (first last : Arg) (ctx : Option (List CDTContext)) :
    Sent (of binName cit value first last ctx) (described binName cit value first last ctx) := by
  unfold of described
  cases h : value.particleType with
  | error p =>
    cases particleType_error h
    exact .inl ⟨rfl, rfl⟩
  | ok n =>
    refine .inr ⟨_, _, rfl, rfl, ?_⟩
    simp only [toFilter, toIndexCollectionType_number, toValue_some, Arg.toValueV_toProto,
      toCDTContexts_pathToProto, Fallible.ok_bind, particleType_kept h]
    rfl

/-- Every constructor makes the filter that it describes, or panics on a value that has no
    type. -/
theorem Call.sent (text : FloatText) (call : Call) :
    Sent (call.build text) (call.toAero text) := by
  cases call with
  | equal binName value ctx => exact of_sent ..
  | range binName first last ctx => exact of_sent ..
  | contains binName value cit ctx => exact of_sent ..
  | containsRange binName first last cit ctx => exact of_sent ..
  | withinRegion binName region cit ctx => exact of_sent ..
  | withinRadius binName lat lng radius cit ctx => exact of_sent ..
  | regionsContainingPoint binName lat lng cit ctx => exact of_sent ..

end Filter

/-! ## Statements in the extension -/

namespace Statement

/-- `Statement::__construct` (lines 3844–3864), with the task that it draws. -/
def construct (ns setName : String) (filter : Option Proto.QueryFilter)
    (binNames : Option (List String)) (taskId : UInt64) : Proto.Statement where
  ns := ns
  setName := setName
  indexName := none
  binNames := binNames.getD []
  filter := filter
  taskId := taskId
  returnData := true

variable (st : Proto.Statement)

/-- `get_filter` (lines 3870–3872): a copy. -/
def getFilter : Option Proto.QueryFilter := st.filter

/-- `set_filter` (lines 3875–3877). -/
def setFilter (filter : Option Proto.QueryFilter) : Proto.Statement := { st with filter := filter }

/-- `set_index_name` (lines 3887–3889). -/
def setIndexName (indexName : Option String) : Proto.Statement :=
  { st with indexName := indexName }

/-- `set_bin_names` (lines 3898–3900). -/
def setBinNames (binNames : List String) : Proto.Statement := { st with binNames := binNames }

/-- `set_namespace` (lines 3909–3911). -/
def setNamespace (ns : String) : Proto.Statement := { st with ns := ns }

/-- `set_setname` (lines 3920–3922). -/
def setSetname (setName : String) : Proto.Statement := { st with setName := setName }

end Statement

/-! ## Statements in the daemon -/

/-- `toStatement` (`kvs.go` lines 430–450). -/
def toStatement : Option Proto.Statement → Except Panic (Option Aero.Statement)
  | some st => do
    let filter ← toFilter st.filter
    return some
      { ns := st.ns
        setName := st.setName
        indexName := st.indexName.getD ""
        binNames := st.binNames
        filter := filter
        taskId := st.taskId
        returnData := st.returnData }
  | none => .ok none

/-- The `AerospikeQueryRequest` message. -/
structure Proto.QueryRequest where
  policy : Option Proto.QueryPolicy
  statement : Option Proto.Statement
  partitionFilter : Option Proto.PartitionFilter

/-- A call of `QueryPartitions`. -/
structure Aero.QueryCall where
  policy : Option Aero.QueryPolicy
  statement : Option Aero.Statement
  partitionFilter : Option Aero.PartitionFilter

/-- `Query` (`kvs.go` line 400): the call that it makes. -/
def Server.queryCall (S : Aero.ValueString) (req : Proto.QueryRequest) :
    Except Panic Aero.QueryCall := do
  let policy ← toQueryPolicy S req.policy
  let statement ← toStatement req.statement
  return ⟨policy, statement, toPartitionFilter req.partitionFilter⟩

end AerospikePhp
