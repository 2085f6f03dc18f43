import AerospikePhp.Lib.Properties
import AerospikePhp.Policy.Enums

/-!
# The properties of the policies

A policy object of a program holds the message that is sent, and each property of the
object has a getter and a setter over it (`src/lib.rs` lines 2080–5095). A policy of a
write or of a batch has the properties of a read, those of the message inside its own
one; a policy of a query or of a scan has those of the message two levels down. There a
getter unwraps each message on its way, and a setter unwraps the first and maps the
second.

A class of policies is a `PolicyModel`. Its messages carry a value of a property in the
field of that name, an enumeration and an expiration as their number.
-/

namespace AerospikePhp

open Properties

/-- A getter and a setter of a PHP object. -/
abbrev Accessor := Properties.Accessor Panic

/-- A filter, as a program gives it. -/
abbrev FilterExpression := Option Proto.Expression

/-! ## ReadPolicy (lines 2086–2303) -/

namespace ReadPolicy

/-- The properties that other policies have too. -/
inductive Attr where
  | maxRetries
  | sleepMultiplier
  | totalTimeout
  | socketTimeout
  | sendKey
  | useCompression
  | exitFastOnExhaustedConnectionPool
  | readModeAP
  | readModeSC
  | filterExpression
deriving DecidableEq

abbrev Attr.Value : Attr → Type
  | maxRetries => UInt32
  | sleepMultiplier => F64
  | totalTimeout => UInt64
  | socketTimeout => UInt64
  | sendKey => Bool
  | useCompression => Bool
  | exitFastOnExhaustedConnectionPool => Bool
  | readModeAP => ReadModeAP
  | readModeSC => ReadModeSC
  | filterExpression => FilterExpression

def maxRetries : Accessor Proto.ReadPolicy UInt32 :=
  .field (·.maxRetries) ({ · with maxRetries := · })

def sleepMultiplier : Accessor Proto.ReadPolicy F64 :=
  .field (·.sleepMultiplier) ({ · with sleepMultiplier := · })

def totalTimeout : Accessor Proto.ReadPolicy UInt64 :=
  .field (·.totalTimeout) ({ · with totalTimeout := · })

def socketTimeout : Accessor Proto.ReadPolicy UInt64 :=
  .field (·.socketTimeout) ({ · with socketTimeout := · })

def readTouchTTLPercent : Accessor Proto.ReadPolicy Int32 :=
  .field (·.readTouchTTLPercent) ({ · with readTouchTTLPercent := · })

def sendKey : Accessor Proto.ReadPolicy Bool :=
  .field (·.sendKey) ({ · with sendKey := · })

def useCompression : Accessor Proto.ReadPolicy Bool :=
  .field (·.useCompression) ({ · with useCompression := · })

def exitFastOnExhaustedConnectionPool : Accessor Proto.ReadPolicy Bool :=
  .field (·.exitFastOnExhaustedConnectionPool)
    ({ · with exitFastOnExhaustedConnectionPool := · })

def readModeAP : Accessor Proto.ReadPolicy ReadModeAP :=
  .coded ReadModeAP.number ReadModeAP.ofNumber (·.readModeAP) ({ · with readModeAP := · })

/-- The getter matches on `read_mode_ap` (line 2272). -/
def readModeSC : Accessor Proto.ReadPolicy ReadModeSC :=
  .coded ReadModeSC.number ReadModeSC.ofNumber (·.readModeAP) ({ · with readModeSC := · })

def filterExpression : Accessor Proto.ReadPolicy FilterExpression :=
  .field (·.filterExpression) ({ · with filterExpression := · })

def attr : ∀ a : Attr, Accessor Proto.ReadPolicy a.Value
  | .maxRetries => maxRetries
  | .sleepMultiplier => sleepMultiplier
  | .totalTimeout => totalTimeout
  | .socketTimeout => socketTimeout
  | .sendKey => sendKey
  | .useCompression => useCompression
  | .exitFastOnExhaustedConnectionPool => exitFastOnExhaustedConnectionPool
  | .readModeAP => readModeAP
  | .readModeSC => readModeSC
  | .filterExpression => filterExpression

/-- The message carries a value in the field of its property. -/
def Carries (p : Proto.ReadPolicy) : ∀ a : Attr, a.Value → Prop
  | .maxRetries, v => p.maxRetries = v
  | .sleepMultiplier, v => p.sleepMultiplier = v
  | .totalTimeout, v => p.totalTimeout = v
  | .socketTimeout, v => p.socketTimeout = v
  | .sendKey, v => p.sendKey = v
  | .useCompression, v => p.useCompression = v
  | .exitFastOnExhaustedConnectionPool, v => p.exitFastOnExhaustedConnectionPool = v
  | .readModeAP, v => p.readModeAP = v.number
  | .readModeSC, v => p.readModeSC = v.number
  | .filterExpression, v => p.filterExpression = v

end ReadPolicy

/-! ## WritePolicy (lines 2408–2707) -/

namespace WritePolicy

/-- The properties of a write alone. -/
inductive Own where
  | recordExistsAction
  | generationPolicy
  | commitLevel
  | generation
  | expiration
  | respondPerEachOp
  | durableDelete
deriving DecidableEq

abbrev Own.Value : Own → Type
  | recordExistsAction => RecordExistsAction
  | generationPolicy => GenerationPolicy
  | commitLevel => CommitLevel
  | generation => UInt32
  | expiration => Expiration
  | respondPerEachOp => Bool
  | durableDelete => Bool

def recordExistsAction : Accessor Proto.WritePolicy RecordExistsAction :=
  .coded RecordExistsAction.number RecordExistsAction.ofNumber (·.recordExistsAction)
    ({ · with recordExistsAction := · })

def generationPolicy : Accessor Proto.WritePolicy GenerationPolicy :=
  .coded GenerationPolicy.number GenerationPolicy.ofNumber (·.generationPolicy)
    ({ · with generationPolicy := · })

def commitLevel : Accessor Proto.WritePolicy CommitLevel :=
  .coded CommitLevel.number CommitLevel.ofNumber (·.commitLevel) ({ · with commitLevel := · })

def generation : Accessor Proto.WritePolicy UInt32 :=
  .field (·.generation) ({ · with generation := · })

def expiration : Accessor Proto.WritePolicy Expiration :=
  .coded Expiration.toUInt32 (.ok ∘ Expiration.ofUInt32) (·.expiration)
    ({ · with expiration := · })

def respondPerEachOp : Accessor Proto.WritePolicy Bool :=
  .field (·.respondPerEachOp) ({ · with respondPerEachOp := · })

/-- The getter returns `respond_per_each_op` (line 2532). -/
def durableDelete : Accessor Proto.WritePolicy Bool :=
  .field (·.respondPerEachOp) ({ · with durableDelete := · })

def own : ∀ i : Own, Accessor Proto.WritePolicy i.Value
  | .recordExistsAction => recordExistsAction
  | .generationPolicy => generationPolicy
  | .commitLevel => commitLevel
  | .generation => generation
  | .expiration => expiration
  | .respondPerEachOp => respondPerEachOp
  | .durableDelete => durableDelete

/-- `self._as.policy`. -/
def readPolicy : Slot Proto.WritePolicy Proto.ReadPolicy where
  part p := p.policy
  put p q := { p with policy := q }
  part_put _ _ := rfl

/-- The properties of a read (lines 2544–2706). -/
def attr (a : ReadPolicy.Attr) : Accessor Proto.WritePolicy a.Value :=
  (ReadPolicy.attr a).inner .unwrapNone readPolicy

def Carries (p : Proto.WritePolicy) : ∀ i : Own, i.Value → Prop
  | .recordExistsAction, v => p.recordExistsAction = v.number
  | .generationPolicy, v => p.generationPolicy = v.number
  | .commitLevel, v => p.commitLevel = v.number
  | .generation, v => p.generation = v
  | .expiration, v => p.expiration = v.toUInt32
  | .respondPerEachOp, v => p.respondPerEachOp = v
  | .durableDelete, v => p.durableDelete = v

end WritePolicy

/-! ## QueryPolicy and ScanPolicy (lines 2769–3091, 3117–3426) -/

namespace MultiPolicy

/-- The properties of queries and scans that are not those of a read. -/
inductive Own where
  | maxConcurrentNodes
  | recordQueueSize
deriving DecidableEq

abbrev Own.Value : Own → Type
  | maxConcurrentNodes => UInt32
  | recordQueueSize => UInt32

def maxConcurrentNodes : Accessor Proto.MultiPolicy UInt32 :=
  .field (·.maxConcurrentNodes) ({ · with maxConcurrentNodes := · })

def recordQueueSize : Accessor Proto.MultiPolicy UInt32 :=
  .field (·.recordQueueSize) ({ · with recordQueueSize := · })

def own : ∀ i : Own, Accessor Proto.MultiPolicy i.Value
  | .maxConcurrentNodes => maxConcurrentNodes
  | .recordQueueSize => recordQueueSize

/-- `multi_policy.read_policy`. -/
def readPolicy : Slot Proto.MultiPolicy Proto.ReadPolicy where
  part p := p.readPolicy
  put p q := { p with readPolicy := q }
  part_put _ _ := rfl

def attr (a : ReadPolicy.Attr) : Accessor Proto.MultiPolicy a.Value :=
  (ReadPolicy.attr a).inner .unwrapNone readPolicy

abbrev Property := Own ⊕ ReadPolicy.Attr

abbrev Value : Property → Type := Sum.elim Own.Value ReadPolicy.Attr.Value

def accessor : ∀ i : Property, Accessor Proto.MultiPolicy (Value i) := sum own attr

def Carries (p : Proto.MultiPolicy) : ∀ i : Property, Value i → Prop
  | .inl .maxConcurrentNodes, v => p.maxConcurrentNodes = v
  | .inl .recordQueueSize, v => p.recordQueueSize = v
  | .inr a, v => ∃ q, p.readPolicy = some q ∧ ReadPolicy.Carries q a v

end MultiPolicy

namespace QueryPolicy

def expectedDuration : Accessor Proto.QueryPolicy QueryDuration :=
  .coded QueryDuration.number QueryDuration.ofNumber (·.expectedDuration)
    ({ · with expectedDuration := · })

/-- `self._as.multi_policy`. -/
def multiPolicy : Slot Proto.QueryPolicy Proto.MultiPolicy where
  part p := p.multiPolicy
  put p q := { p with multiPolicy := q }
  part_put _ _ := rfl

/-- The other properties (lines 2798–3090). -/
def multi (i : MultiPolicy.Property) : Accessor Proto.QueryPolicy (MultiPolicy.Value i) :=
  (MultiPolicy.accessor i).unwrapped .unwrapNone multiPolicy

end QueryPolicy

namespace ScanPolicy

/-- `self._as.multi_policy`. -/
def multiPolicy : Slot Proto.ScanPolicy Proto.MultiPolicy where
  part p := p.multiPolicy
  put p q := { p with multiPolicy := q }
  part_put _ _ := rfl

def maxRecords : Accessor Proto.MultiPolicy UInt64 :=
  .field (·.maxRecords) ({ · with maxRecords := · })

abbrev Property := Unit ⊕ MultiPolicy.Property

abbrev Value : Property → Type := Sum.elim (fun _ => UInt64) MultiPolicy.Value

/-- The properties, in the message `multi_policy`. -/
def inMulti : ∀ i : Property, Accessor Proto.MultiPolicy (Value i) :=
  sum (fun _ => maxRecords) MultiPolicy.accessor

/-- All of its properties (lines 3127–3425). -/
def accessor (i : Property) : Accessor Proto.ScanPolicy (Value i) :=
  (inMulti i).unwrapped .unwrapNone multiPolicy

def CarriesInMulti (p : Proto.MultiPolicy) : ∀ i : Property, Value i → Prop
  | .inl (), v => p.maxRecords = v
  | .inr i, v => MultiPolicy.Carries p i v

end ScanPolicy

/-! ## BatchPolicy (lines 4305–4531) -/

namespace BatchPolicy

/-- The properties of a batch alone. -/
inductive Own where
  | concurrentNodes
  | allowInline
  | allowInlineSSD
  | respondAllKeys
  | allowPartialResults
deriving DecidableEq

abbrev Own.Value : Own → Type
  | concurrentNodes => Int32
  | allowInline => Bool
  | allowInlineSSD => Bool
  | respondAllKeys => Bool
  | allowPartialResults => Bool

def concurrentNodes : Accessor Proto.BatchPolicy Int32 :=
  .field (·.concurrentNodes.getD 1) ({ · with concurrentNodes := some · })

def allowInline : Accessor Proto.BatchPolicy Bool :=
  .field (·.allowInline) ({ · with allowInline := · })

def allowInlineSSD : Accessor Proto.BatchPolicy Bool :=
  .field (·.allowInlineSSD) ({ · with allowInlineSSD := · })

def respondAllKeys : Accessor Proto.BatchPolicy Bool :=
  .field (·.respondAllKeys) ({ · with respondAllKeys := · })

/-- The setter assigns `respond_all_keys` (line 4529). -/
def allowPartialResults : Accessor Proto.BatchPolicy Bool :=
  .field (·.allowPartialResults) ({ · with respondAllKeys := · })

def own : ∀ i : Own, Accessor Proto.BatchPolicy i.Value
  | .concurrentNodes => concurrentNodes
  | .allowInline => allowInline
  | .allowInlineSSD => allowInlineSSD
  | .respondAllKeys => respondAllKeys
  | .allowPartialResults => allowPartialResults

/-- `self._as.policy`. -/
def readPolicy : Slot Proto.BatchPolicy Proto.ReadPolicy where
  part p := p.policy
  put p q := { p with policy := q }
  part_put _ _ := rfl

/-- Of the policies, this one alone reads `read_mode_sc` (line 4433). -/
def readModeSC : Accessor Proto.ReadPolicy ReadModeSC :=
  .coded ReadModeSC.number ReadModeSC.ofNumber (·.readModeSC) ({ · with readModeSC := · })

def readAttr : ∀ a : ReadPolicy.Attr, Accessor Proto.ReadPolicy a.Value
  | .readModeSC => readModeSC
  | a => ReadPolicy.attr a

/-- The properties of a read (lines 4314–4476). -/
def attr (a : ReadPolicy.Attr) : Accessor Proto.BatchPolicy a.Value :=
  (readAttr a).inner .unwrapNone readPolicy

def Carries (p : Proto.BatchPolicy) : ∀ i : Own, i.Value → Prop
  | .concurrentNodes, v => p.concurrentNodes = some v
  | .allowInline, v => p.allowInline = v
  | .allowInlineSSD, v => p.allowInlineSSD = v
  | .respondAllKeys, v => p.respondAllKeys = v
  | .allowPartialResults, v => p.allowPartialResults = v

end BatchPolicy

/-! ## The policies of batch commands (lines 4562–5071) -/

namespace BatchReadPolicy

inductive Property where
  | filterExpression
  | readModeAP
  | readModeSC
  | readTouchTTLPercent
deriving DecidableEq

abbrev Property.Value : Property → Type
  | filterExpression => FilterExpression
  | readModeAP => ReadModeAP
  | readModeSC => ReadModeSC
  | readTouchTTLPercent => Int32

def filterExpression : Accessor Proto.BatchReadPolicy FilterExpression :=
  .field (·.filterExpression) ({ · with filterExpression := · })

def readModeAP : Accessor Proto.BatchReadPolicy ReadModeAP :=
  .coded ReadModeAP.number ReadModeAP.ofNumber (·.readModeAP) ({ · with readModeAP := · })

/-- The getter matches on `read_mode_ap` (line 4608). -/
def readModeSC : Accessor Proto.BatchReadPolicy ReadModeSC :=
  .coded ReadModeSC.number ReadModeSC.ofNumber (·.readModeAP) ({ · with readModeSC := · })

def readTouchTTLPercent : Accessor Proto.BatchReadPolicy Int32 :=
  .field (·.readTouchTTLPercent) ({ · with readTouchTTLPercent := · })

def accessor : ∀ i : Property, Accessor Proto.BatchReadPolicy i.Value
  | .filterExpression => filterExpression
  | .readModeAP => readModeAP
  | .readModeSC => readModeSC
  | .readTouchTTLPercent => readTouchTTLPercent

def Carries (p : Proto.BatchReadPolicy) : ∀ i : Property, i.Value → Prop
  | .filterExpression, v => p.filterExpression = v
  | .readModeAP, v => p.readModeAP = v.number
  | .readModeSC, v => p.readModeSC = v.number
  | .readTouchTTLPercent, v => p.readTouchTTLPercent = v

end BatchReadPolicy

namespace BatchWritePolicy

inductive Property where
  | filterExpression
  | recordExistsAction
  | generationPolicy
  | commitLevel
  | generation
  | expiration
  | durableDelete
  | sendKey
deriving DecidableEq

abbrev Property.Value : Property → Type
  | filterExpression => FilterExpression
  | recordExistsAction => RecordExistsAction
  | generationPolicy => GenerationPolicy
  | commitLevel => CommitLevel
  | generation => UInt32
  | expiration => Expiration
  | durableDelete => Bool
  | sendKey => Bool

def filterExpression : Accessor Proto.BatchWritePolicy FilterExpression :=
  .field (·.filterExpression) ({ · with filterExpression := · })

def recordExistsAction : Accessor Proto.BatchWritePolicy RecordExistsAction :=
  .coded RecordExistsAction.number RecordExistsAction.ofNumber (·.recordExistsAction)
    ({ · with recordExistsAction := · })

def generationPolicy : Accessor Proto.BatchWritePolicy GenerationPolicy :=
  .coded GenerationPolicy.number GenerationPolicy.ofNumber (·.generationPolicy)
    ({ · with generationPolicy := · })

def commitLevel : Accessor Proto.BatchWritePolicy CommitLevel :=
  .coded CommitLevel.number CommitLevel.ofNumber (·.commitLevel) ({ · with commitLevel := · })

def generation : Accessor Proto.BatchWritePolicy UInt32 :=
  .field (·.generation) ({ · with generation := · })

def expiration : Accessor Proto.BatchWritePolicy Expiration :=
  .coded Expiration.toUInt32 (.ok ∘ Expiration.ofUInt32) (·.expiration)
    ({ · with expiration := · })

def durableDelete : Accessor Proto.BatchWritePolicy Bool :=
  .field (·.durableDelete) ({ · with durableDelete := · })

def sendKey : Accessor Proto.BatchWritePolicy Bool :=
  .field (·.sendKey) ({ · with sendKey := · })

def accessor : ∀ i : Property, Accessor Proto.BatchWritePolicy i.Value
  | .filterExpression => filterExpression
  | .recordExistsAction => recordExistsAction
  | .generationPolicy => generationPolicy
  | .commitLevel => commitLevel
  | .generation => generation
  | .expiration => expiration
  | .durableDelete => durableDelete
  | .sendKey => sendKey

def Carries (p : Proto.BatchWritePolicy) : ∀ i : Property, i.Value → Prop
  | .filterExpression, v => p.filterExpression = v
  | .recordExistsAction, v => p.recordExistsAction = v.number
  | .generationPolicy, v => p.generationPolicy = v.number
  | .commitLevel, v => p.commitLevel = v.number
  | .generation, v => p.generation = v
  | .expiration, v => p.expiration = v.toUInt32
  | .durableDelete, v => p.durableDelete = v
  | .sendKey, v => p.sendKey = v

end BatchWritePolicy

namespace BatchDeletePolicy

inductive Property where
  | filterExpression
  | commitLevel
  | generation
  | durableDelete
  | sendKey
deriving DecidableEq

abbrev Property.Value : Property → Type
  | filterExpression => FilterExpression
  | commitLevel => CommitLevel
  | generation => UInt32
  | durableDelete => Bool
  | sendKey => Bool

def filterExpression : Accessor Proto.BatchDeletePolicy FilterExpression :=
  .field (·.filterExpression) ({ · with filterExpression := · })

def commitLevel : Accessor Proto.BatchDeletePolicy CommitLevel :=
  .coded CommitLevel.number CommitLevel.ofNumber (·.commitLevel) ({ · with commitLevel := · })

def generation : Accessor Proto.BatchDeletePolicy UInt32 :=
  .field (·.generation) ({ · with generation := · })

def durableDelete : Accessor Proto.BatchDeletePolicy Bool :=
  .field (·.durableDelete) ({ · with durableDelete := · })

def sendKey : Accessor Proto.BatchDeletePolicy Bool :=
  .field (·.sendKey) ({ · with sendKey := · })

def accessor : ∀ i : Property, Accessor Proto.BatchDeletePolicy i.Value
  | .filterExpression => filterExpression
  | .commitLevel => commitLevel
  | .generation => generation
  | .durableDelete => durableDelete
  | .sendKey => sendKey

def Carries (p : Proto.BatchDeletePolicy) : ∀ i : Property, i.Value → Prop
  | .filterExpression, v => p.filterExpression = v
  | .commitLevel, v => p.commitLevel = v.number
  | .generation, v => p.generation = v
  | .durableDelete, v => p.durableDelete = v
  | .sendKey, v => p.sendKey = v

end BatchDeletePolicy

namespace BatchUdfPolicy

inductive Property where
  | filterExpression
  | commitLevel
  | expiration
  | durableDelete
  | sendKey
deriving DecidableEq

abbrev Property.Value : Property → Type
  | filterExpression => FilterExpression
  | commitLevel => CommitLevel
  | expiration => Expiration
  | durableDelete => Bool
  | sendKey => Bool

def filterExpression : Accessor Proto.BatchUdfPolicy FilterExpression :=
  .field (·.filterExpression) ({ · with filterExpression := · })

def commitLevel : Accessor Proto.BatchUdfPolicy CommitLevel :=
  .coded CommitLevel.number CommitLevel.ofNumber (·.commitLevel) ({ · with commitLevel := · })

def expiration : Accessor Proto.BatchUdfPolicy Expiration :=
  .coded Expiration.toUInt32 (.ok ∘ Expiration.ofUInt32) (·.expiration)
    ({ · with expiration := · })

def durableDelete : Accessor Proto.BatchUdfPolicy Bool :=
  .field (·.durableDelete) ({ · with durableDelete := · })

def sendKey : Accessor Proto.BatchUdfPolicy Bool :=
  .field (·.sendKey) ({ · with sendKey := · })

def accessor : ∀ i : Property, Accessor Proto.BatchUdfPolicy i.Value
  | .filterExpression => filterExpression
  | .commitLevel => commitLevel
  | .expiration => expiration
  | .durableDelete => durableDelete
  | .sendKey => sendKey

def Carries (p : Proto.BatchUdfPolicy) : ∀ i : Property, i.Value → Prop
  | .filterExpression, v => p.filterExpression = v
  | .commitLevel, v => p.commitLevel = v.number
  | .expiration, v => p.expiration = v.toUInt32
  | .durableDelete, v => p.durableDelete = v
  | .sendKey, v => p.sendKey = v

end BatchUdfPolicy

/-! ## AdminPolicy (lines 2340–2357) -/

namespace AdminPolicy

def timeout : Accessor Proto.AdminPolicy UInt32 :=
  .field (·.timeout) ({ · with timeout := · })

end AdminPolicy

/-! ## Classes -/

/-- A class of policy objects. -/
structure PolicyModel where
  Message : Type
  Property : Type
  Value : Property → Type
  accessor : ∀ i, Accessor Message (Value i)
  fresh : Message
  Carries : Message → ∀ i, Value i → Prop
  [decEq : DecidableEq Property]

/-- The classes of policy objects. -/
inductive PolicyClass where
  | read
  | write
  | query
  | scan
  | batch
  | batchRead
  | batchWrite
  | batchDelete
  | batchUdf
  | admin
  | info

/-- A policy of a read. -/
abbrev ReadPolicy.model : PolicyModel where
  Message := Proto.ReadPolicy
  Property := ReadPolicy.Attr ⊕ Unit
  Value := Sum.elim ReadPolicy.Attr.Value fun _ => Int32
  accessor := sum ReadPolicy.attr fun _ => ReadPolicy.readTouchTTLPercent
  fresh := ReadPolicy.default
  Carries p
    | .inl a, v => ReadPolicy.Carries p a v
    | .inr (), v => p.readTouchTTLPercent = v

/-- A policy of a write. -/
abbrev WritePolicy.model : PolicyModel where
  Message := Proto.WritePolicy
  Property := WritePolicy.Own ⊕ ReadPolicy.Attr
  Value := Sum.elim WritePolicy.Own.Value ReadPolicy.Attr.Value
  accessor := sum WritePolicy.own WritePolicy.attr
  fresh := WritePolicy.default
  Carries p
    | .inl i, v => WritePolicy.Carries p i v
    | .inr a, v => ∃ q, p.policy = some q ∧ ReadPolicy.Carries q a v

/-- A policy of a query. -/
abbrev QueryPolicy.model : PolicyModel where
  Message := Proto.QueryPolicy
  Property := Unit ⊕ MultiPolicy.Property
  Value := Sum.elim (fun _ => QueryDuration) MultiPolicy.Value
  accessor := sum (fun _ => QueryPolicy.expectedDuration) QueryPolicy.multi
  fresh := QueryPolicy.default
  Carries p
    | .inl (), v => p.expectedDuration = v.number
    | .inr i, v => ∃ q, p.multiPolicy = some q ∧ MultiPolicy.Carries q i v

/-- A policy of a scan. -/
abbrev ScanPolicy.model : PolicyModel where
  Message := Proto.ScanPolicy
  Property := ScanPolicy.Property
  Value := ScanPolicy.Value
  accessor := ScanPolicy.accessor
  fresh := ScanPolicy.default
  Carries p i v := ∃ q, p.multiPolicy = some q ∧ ScanPolicy.CarriesInMulti q i v

/-- A policy of a batch. -/
abbrev BatchPolicy.model : PolicyModel where
  Message := Proto.BatchPolicy
  Property := BatchPolicy.Own ⊕ ReadPolicy.Attr
  Value := Sum.elim BatchPolicy.Own.Value ReadPolicy.Attr.Value
  accessor := sum BatchPolicy.own BatchPolicy.attr
  fresh := BatchPolicy.default
  Carries p
    | .inl i, v => BatchPolicy.Carries p i v
    | .inr a, v => ∃ q, p.policy = some q ∧ ReadPolicy.Carries q a v

/-- The policies of each class. -/
abbrev PolicyClass.model : PolicyClass → PolicyModel
  | read => ReadPolicy.model
  | write => WritePolicy.model
  | query => QueryPolicy.model
  | scan => ScanPolicy.model
  | batch => BatchPolicy.model
  | batchRead =>
    { Message := Proto.BatchReadPolicy
      Property := BatchReadPolicy.Property
      Value := BatchReadPolicy.Property.Value
      accessor := BatchReadPolicy.accessor
      fresh := BatchReadPolicy.default
      Carries := BatchReadPolicy.Carries }
  | batchWrite =>
    { Message := Proto.BatchWritePolicy
      Property := BatchWritePolicy.Property
      Value := BatchWritePolicy.Property.Value
      accessor := BatchWritePolicy.accessor
      fresh := BatchWritePolicy.default
      Carries := BatchWritePolicy.Carries }
  | batchDelete =>
    { Message := Proto.BatchDeletePolicy
      Property := BatchDeletePolicy.Property
      Value := BatchDeletePolicy.Property.Value
      accessor := BatchDeletePolicy.accessor
      fresh := BatchDeletePolicy.default
      Carries := BatchDeletePolicy.Carries }
  | batchUdf =>
    { Message := Proto.BatchUdfPolicy
      Property := BatchUdfPolicy.Property
      Value := BatchUdfPolicy.Property.Value
      accessor := BatchUdfPolicy.accessor
      fresh := BatchUdfPolicy.default
      Carries := BatchUdfPolicy.Carries }
  | admin =>
    { Message := Proto.AdminPolicy
      Property := Unit
      Value := fun _ => UInt32
      accessor := fun _ => AdminPolicy.timeout
      fresh := AdminPolicy.default
      Carries := fun p _ v => p.timeout = v }
  | info =>
    { Message := Proto.InfoPolicy
      Property := Empty
      Value := Empty.elim
      accessor := fun i => i.elim
      fresh := InfoPolicy.default
      Carries := fun _ i _ => i.elim }

/-- The calls of the setters of a class. -/
abbrev PolicyClass.Calls (c : PolicyClass) := List (Write c.model.Value)

instance (m : PolicyModel) : DecidableEq m.Property := m.decEq

/-- After the calls, each getter returns the value last given to its setter, or what it
    returned at first, and the message carries this value in the field of that name. -/
def PolicyClass.Independent (c : PolicyClass) (calls : c.Calls) : Prop :=
  Properties.Independent c.model.accessor (fun i p => c.model.Carries p i) c.model.fresh calls

end AerospikePhp
