import AerospikePhp.Cdt.Basic
import AerospikePhp.Policy.Limits

/-!
# Secondary indexes

`Client::create_index` sends the arguments of an index (`src/lib.rs` lines 10191–10233),
and `CreateIndex` of the daemon makes the call `CreateComplexIndex` of the Go client
(`kvs.go` lines 173–183). This one takes the path of the indexed element as its last
arguments, and the daemon gives none.

Results:
* `createIndex_eq_ok`: the call that the daemon makes.
* `argumentsHonoured_iff`: it has every argument of the program but the path, so two calls
  are told apart iff both index whole bins.
-/

namespace AerospikePhp

/-! ## Types of indexes -/

/-- `IndexType` (`src/lib.rs` lines 3590–3625). -/
inductive IndexType where
  | numeric
  | string
  | blob
  | geo2DSphere
deriving DecidableEq

/-- `IndexCollectionType` (lines 3445–3481). -/
inductive IndexCollectionType where
  | default
  | list
  | mapKeys
  | mapValues
deriving DecidableEq

def IndexType.number : IndexType → Int32
  | numeric => 0
  | string => 1
  | blob => 2
  | geo2DSphere => 3

def IndexCollectionType.number : IndexCollectionType → Int32
  | default => 0
  | list => 1
  | mapKeys => 2
  | mapValues => 3

namespace Aero

inductive IndexType where
  | NUMERIC
  | STRING
  | BLOB
  | GEO2DSPHERE
deriving DecidableEq

inductive IndexCollectionType where
  | ICT_DEFAULT
  | ICT_LIST
  | ICT_MAPKEYS
  | ICT_MAPVALUES
deriving DecidableEq

/-- A call of `CreateComplexIndex`. -/
structure CreateComplexIndex where
  policy : Option WritePolicy
  ns : String
  setName : String
  indexName : String
  binName : String
  indexType : IndexType
  indexCollectionType : IndexCollectionType
  ctx : List CDTContext

end Aero

/-- `toIndexType` (`kvs.go` lines 658–671). -/
def toIndexType : Int32 → Except Panic Aero.IndexType
  | 0 => .ok .NUMERIC
  | 1 => .ok .STRING
  | 2 => .ok .BLOB
  | 3 => .ok .GEO2DSPHERE
  | _ => .error .unreachable

/-- `toIndexCollectionType` (lines 673–686). -/
def toIndexCollectionType : Int32 → Except Panic Aero.IndexCollectionType
  | 0 => .ok .ICT_DEFAULT
  | 1 => .ok .ICT_LIST
  | 2 => .ok .ICT_MAPKEYS
  | 3 => .ok .ICT_MAPVALUES
  | _ => .error .unreachable

/-! ## The request -/

/-- The `AerospikeCreateIndexRequest` message. -/
structure Proto.CreateIndexRequest where
  policy : Option Proto.WritePolicy
  ns : String
  setName : String
  indexName : String
  binName : String
  indexType : Int32
  indexCollectionType : Int32
  ctx : List Proto.CDTContext

/-- The arguments of `create_index`. -/
structure IndexArgs where
  policy : Proto.WritePolicy
  ns : String
  setName : String
  binName : String
  indexName : String
  indexType : IndexType
  cit : Option IndexCollectionType
  ctx : Option (List CDTContext)

/-- The collection type that an optional argument stands for. -/
def IndexArgs.collectionType (args : IndexArgs) : IndexCollectionType := args.cit.getD .default

/-- The path to the indexed element; that to the whole bin is empty. -/
def IndexArgs.path (args : IndexArgs) : List CDTContext := args.ctx.getD []

/-- The request of `Client::create_index` (`src/lib.rs` lines 10202–10221). -/
def IndexArgs.request (args : IndexArgs) : Proto.CreateIndexRequest where
  policy := some args.policy
  ns := args.ns
  setName := args.setName
  indexName := args.indexName
  binName := args.binName
  indexType := args.indexType.number
  indexCollectionType := (args.cit.getD .default).number
  ctx := CDTContext.pathToProto args.ctx

/-! ## The daemon -/

section CreateIndex

variable (S : Aero.ValueString)

/-- `CreateIndex`: the call that it makes. -/
def createIndex (req : Proto.CreateIndexRequest) : Except Panic Aero.CreateComplexIndex := do
  let policy ← toWritePolicy S req.policy
  let indexType ← toIndexType req.indexType
  let indexCollectionType ← toIndexCollectionType req.indexCollectionType
  return {
    policy := policy
    ns := req.ns
    setName := req.setName
    indexName := req.indexName
    binName := req.binName
    indexType := indexType
    indexCollectionType := indexCollectionType
    ctx := [] }

/-- The type of the Go client. -/
def IndexType.toAero : IndexType → Aero.IndexType
  | numeric => .NUMERIC
  | string => .STRING
  | blob => .BLOB
  | geo2DSphere => .GEO2DSPHERE

/-- The collection type of the Go client. -/
def IndexCollectionType.toAero : IndexCollectionType → Aero.IndexCollectionType
  | default => .ICT_DEFAULT
  | list => .ICT_LIST
  | mapKeys => .ICT_MAPKEYS
  | mapValues => .ICT_MAPVALUES

@[simp] theorem toIndexType_number (t : IndexType) : toIndexType t.number = .ok t.toAero := by
  cases t with
  | _ => rfl

@[simp] theorem toIndexCollectionType_number (t : IndexCollectionType) :
    toIndexCollectionType t.number = .ok t.toAero := by
  cases t with
  | _ => rfl

theorem IndexType.toAero_injective {t t' : IndexType} (h : t.toAero = t'.toAero) : t = t' := by
  cases t with
  | _ =>
    cases t' with
    | _ => first | rfl | cases h

theorem IndexCollectionType.toAero_injective {t t' : IndexCollectionType}
    (h : t.toAero = t'.toAero) : t = t' := by
  cases t with
  | _ =>
    cases t' with
    | _ => first | rfl | cases h

/-- The daemon makes a Go policy of the policy. -/
def PolicyAccepted (policy : Proto.WritePolicy) : Prop :=
  ∃ go, toWritePolicy S (some policy) = .ok go

variable {S}

theorem createIndex_eq_ok {args : IndexArgs} {go : Aero.CreateComplexIndex} :
    createIndex S args.request = .ok go ↔
      ∃ policy, toWritePolicy S (some args.policy) = .ok policy ∧
        go =
          { policy := policy
            ns := args.ns
            setName := args.setName
            indexName := args.indexName
            binName := args.binName
            indexType := args.indexType.toAero
            indexCollectionType := args.collectionType.toAero
            ctx := [] } := by
  simp only [createIndex, IndexArgs.request, toIndexType_number, toIndexCollectionType_number,
    Fallible.ok_bind, Fallible.bind_eq_ok, Fallible.pure_eq_ok, Except.ok.injEq]
  constructor
  · rintro ⟨policy, hpolicy, rfl⟩
    exact ⟨policy, hpolicy, rfl⟩
  · rintro ⟨policy, hpolicy, rfl⟩
    exact ⟨policy, hpolicy, rfl⟩

/-! ## Arguments -/

variable (S)

/-- The calls that the daemon makes for two indexes differ in each argument in which the
    indexes do, and each indexes the element at its path. -/
def ArgumentsHonoured (a b : IndexArgs) : Prop :=
  ∀ goA goB, createIndex S a.request = .ok goA → createIndex S b.request = .ok goB →
    (a.ns ≠ b.ns → goA.ns ≠ goB.ns) ∧
    (a.setName ≠ b.setName → goA.setName ≠ goB.setName) ∧
    (a.indexName ≠ b.indexName → goA.indexName ≠ goB.indexName) ∧
    (a.binName ≠ b.binName → goA.binName ≠ goB.binName) ∧
    (a.indexType ≠ b.indexType → goA.indexType ≠ goB.indexType) ∧
    (a.collectionType ≠ b.collectionType → goA.indexCollectionType ≠ goB.indexCollectionType) ∧
    (a.path ≠ b.path → goA.ctx ≠ goB.ctx) ∧
    goA.ctx = CDTContext.pathToAero a.ctx ∧ goB.ctx = CDTContext.pathToAero b.ctx

variable {S}

theorem pathToAero_eq_nil {args : IndexArgs} :
    CDTContext.pathToAero args.ctx = [] ↔ args.path = [] := by
  unfold CDTContext.pathToAero IndexArgs.path
  cases args.ctx with
  | none => exact iff_of_true rfl rfl
  | some ctx => exact List.map_eq_nil_iff

/-- Every argument but the path is honoured. -/
theorem argumentsHonoured_of_nil {a b : IndexArgs} (ha : a.path = []) (hb : b.path = []) :
    ArgumentsHonoured S a b := by
  intro goA goB hgoA hgoB
  obtain ⟨policyA, -, rfl⟩ := createIndex_eq_ok.1 hgoA
  obtain ⟨policyB, -, rfl⟩ := createIndex_eq_ok.1 hgoB
  refine ⟨id, id, id, id, ?_, ?_, ?_, ?_, ?_⟩
  · intro hne heq
    exact hne (IndexType.toAero_injective heq)
  · intro hne heq
    exact hne (IndexCollectionType.toAero_injective heq)
  · intro hne
    exact absurd (ha.trans hb.symm) hne
  · exact (pathToAero_eq_nil.2 ha).symm
  · exact (pathToAero_eq_nil.2 hb).symm

theorem nil_of_argumentsHonoured {a b : IndexArgs} (h : ArgumentsHonoured S a b)
    (hA : PolicyAccepted S a.policy) (hB : PolicyAccepted S b.policy) :
    a.path = [] ∧ b.path = [] := by
  obtain ⟨policyA, hpolicyA⟩ := hA
  obtain ⟨policyB, hpolicyB⟩ := hB
  obtain ⟨-, -, -, -, -, -, -, hpathA, hpathB⟩ := h _ _
    (createIndex_eq_ok.2 ⟨policyA, hpolicyA, rfl⟩) (createIndex_eq_ok.2 ⟨policyB, hpolicyB, rfl⟩)
  exact ⟨pathToAero_eq_nil.1 hpathA.symm, pathToAero_eq_nil.1 hpathB.symm⟩

end CreateIndex

/-- All arguments of two calls that reach the server are honoured iff both index whole
    bins. -/
theorem argumentsHonoured_iff (S : Aero.ValueString) (a b : IndexArgs) :
    ArgumentsHonoured S a b ↔
      (PolicyAccepted S a.policy → PolicyAccepted S b.policy → a.path = [] ∧ b.path = []) := by
  constructor
  · exact nil_of_argumentsHonoured
  · intro h goA goB hgoA hgoB
    obtain ⟨policyA, hpolicyA, -⟩ := createIndex_eq_ok.1 hgoA
    obtain ⟨policyB, hpolicyB, -⟩ := createIndex_eq_ok.1 hgoB
    obtain ⟨ha, hb⟩ := h ⟨policyA, hpolicyA⟩ ⟨policyB, hpolicyB⟩
    exact argumentsHonoured_of_nil ha hb goA goB hgoA hgoB

/-- An index of the whole bin `b`, with the default policy. -/
def wholeBinIndex : IndexArgs where
  policy := WritePolicy.default
  ns := "test"
  setName := "users"
  binName := "b"
  indexName := "i"
  indexType := .numeric
  cit := none
  ctx := none

/-- Two indexes, on a bin and on the first element of the list in it, are the same call. -/
theorem path_dropped :
    ¬ ArgumentsHonoured Aero.ValueString.strings wholeBinIndex
      { wholeBinIndex with ctx := some [⟨0x10, some ⟨.int 0, .int 0⟩⟩] } := by
  intro h
  have hgo : PolicyAccepted Aero.ValueString.strings WritePolicy.default := ⟨_, rfl⟩
  cases (nil_of_argumentsHonoured h hgo hgo).2

end AerospikePhp
