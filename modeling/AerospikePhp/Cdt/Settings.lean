import AerospikePhp.Cdt.BitFaithful
import AerospikePhp.Cdt.HllFaithful
import AerospikePhp.Cdt.ListFaithful
import AerospikePhp.Cdt.MapFaithful
import AerospikePhp.Lib.Flags

/-!
# Policies and context paths of collection operations

An operation of a program takes a policy, made of an order and any flags, and a context path,
made by the constructors of `CDTContext` (`src/lib.rs` lines 1939–2061). A flag is a bit of a
number, and a step of a path is a number with the kind of the step in its lower bits and the
order of a collection that it creates in its upper bits.

The results on whole operations (`mapFaithful_iff`, `listFaithful_iff`, `bitFaithful_iff`,
`hllFaithful`) start from the messages of a policy and of a path, which they take over as they are.
The results here are on what a program gives for these messages.

Results:
* `listPolicies_alike_iff`, `mapPolicies_alike_iff`: two policies reach the Go client alike iff
  they have one order and the same flags, the default flag aside.
* `bitPolicies_alike_iff`, `hllPolicies_alike_iff`: the same for the policies that have one flag.
* `path_read`: each step of a path of any length can be read off what reaches the Go client.
-/

namespace AerospikePhp

/-! ## Write flags -/

/-- `CdtListWriteFlags`. -/
inductive CdtListWriteFlags where
  | default
  | addUnique
  | insertBounded
  | noFail
  | partially
deriving DecidableEq

/-- The number of a flag in its enumeration. -/
def CdtListWriteFlags.number : CdtListWriteFlags → Int32
  | default => 0
  | addUnique => 1
  | insertBounded => 2
  | noFail => 4
  | partially => 8

/-- `CdtMapWriteFlags`. -/
inductive CdtMapWriteFlags where
  | default
  | createOnly
  | updateOnly
  | noFail
  | partially
deriving DecidableEq

/-- The number of a flag in its enumeration. -/
def CdtMapWriteFlags.number : CdtMapWriteFlags → Int32
  | default => 0
  | createOnly => 1
  | updateOnly => 2
  | noFail => 4
  | partially => 8

/-- `CdtBitwiseWriteFlags`. -/
inductive CdtBitwiseWriteFlags where
  | default
  | createOnly
  | updateOnly
  | noFail
  | partially
deriving DecidableEq

/-- The number of a flag in its enumeration. -/
def CdtBitwiseWriteFlags.number : CdtBitwiseWriteFlags → Int32
  | default => 0
  | createOnly => 1
  | updateOnly => 2
  | noFail => 4
  | partially => 8

/-- The bit of a flag. -/
def CdtListWriteFlags.bit : CdtListWriteFlags → Option ℕ
  | default => none
  | addUnique => some 0
  | insertBounded => some 1
  | noFail => some 2
  | partially => some 3

/-- The bit of a flag. -/
def CdtMapWriteFlags.bit : CdtMapWriteFlags → Option ℕ
  | default => none
  | createOnly => some 0
  | updateOnly => some 1
  | noFail => some 2
  | partially => some 3

theorem bits_zero (i : ℕ) : (0 : Int32).toBitVec.getLsbD i = true ↔ none = some i := by
  simp

/-- A number that is a power of two is one bit. -/
theorem bits_twoPow {n : Int32} {k : ℕ} (hn : n.toBitVec = BitVec.twoPow 32 k) (hk : k < 32)
    (i : ℕ) : n.toBitVec.getLsbD i = true ↔ some k = some i := by
  rw [hn, BitVec.getLsbD_twoPow]
  simp [hk]

namespace CdtListWriteFlags

theorem bits : Flags.Bits number bit := by
  intro f i
  cases f with
  | default => exact bits_zero i
  | addUnique | insertBounded | noFail | partially => exact bits_twoPow rfl (by decide) i

theorem bit_injective : Function.Injective bit := by
  intro f g h
  cases f <;> cases g <;> first | rfl | cases h

theorem bit_ne_none (f : CdtListWriteFlags) : bit f ≠ none ↔ f ≠ default :=
  bit_injective.ne_iff' rfl

end CdtListWriteFlags

namespace CdtMapWriteFlags

theorem bits : Flags.Bits number bit := by
  intro f i
  cases f with
  | default => exact bits_zero i
  | createOnly | updateOnly | noFail | partially => exact bits_twoPow rfl (by decide) i

theorem bit_injective : Function.Injective bit := by
  intro f g h
  cases f <;> cases g <;> first | rfl | cases h

theorem bit_ne_none (f : CdtMapWriteFlags) : bit f ≠ none ↔ f ≠ default :=
  bit_injective.ne_iff' rfl

end CdtMapWriteFlags

theorem toInt64_injective : Function.Injective Int32.toInt64 :=
  Function.LeftInverse.injective Int32.toInt32_toInt64

/-! ## Policies -/

/-- `CdtListPolicy::__construct` (`src/lib.rs` lines 5994–6010). -/
def CdtListPolicy.construct (order : ListOrderType) (flags : Option (List CdtListWriteFlags)) :
    Proto.CdtListPolicy where
  order := order
  flags := (flags.map fun flags => Flags.combine CdtListWriteFlags.number flags).getD 0

/-- `CdtHllPolicy::__construct` (lines 8495–8502): it takes a flag for lists. -/
def CdtHllPolicy.construct (flags : Option CdtListWriteFlags) : Proto.CdtHllPolicy where
  flags := (flags.map CdtListWriteFlags.number).getD 0

/-- `CdtBitwisePolicy::__construct` (lines 8990–8996). -/
def CdtBitwisePolicy.construct (flags : Option CdtBitwiseWriteFlags) :
    Proto.CdtBitwisePolicy where
  flags := (flags.map CdtBitwiseWriteFlags.number).getD 0

theorem CdtListPolicy.flags_eq (order : ListOrderType) (flags : Option (List CdtListWriteFlags)) :
    (construct order flags).flags = Flags.combine CdtListWriteFlags.number (flags.getD []) := by
  cases flags with
  | none => rfl
  | some flags => rfl

theorem ListOrderType.number_injective : Function.Injective ListOrderType.number := by
  intro order order' h
  cases order <;> cases order' <;> first | rfl | cases h

/-- Two list policies reach the Go client alike iff they have one order and the same flags. -/
theorem listPolicies_alike_iff {order order' : ListOrderType}
    {flags flags' : Option (List CdtListWriteFlags)} :
    toCdtListPolicy (some (CdtListPolicy.construct order flags)) =
        toCdtListPolicy (some (CdtListPolicy.construct order' flags')) ↔
      order = order' ∧ ∀ f, f ≠ .default → (f ∈ flags.getD [] ↔ f ∈ flags'.getD []) := by
  simp only [toCdtListPolicy, CdtListPolicy.flags_eq, Aero.ListPolicy.new.injEq]
  rw [toInt64_injective.eq_iff,
    Flags.combine_eq_iff CdtListWriteFlags.bits CdtListWriteFlags.bit_injective]
  simp only [CdtListWriteFlags.bit_ne_none]
  exact and_congr_left' ListOrderType.number_injective.eq_iff

/-- The flags of a map policy, as the constructor is given them. -/
theorem CdtMapPolicy.flags_eq (order : MapOrderType) (flags : Option (List CdtMapWriteFlags))
    (persistedIndex : Option Bool) :
    (construct order (flags.map fun flags => flags.map CdtMapWriteFlags.number)
        persistedIndex).flags = Flags.combine CdtMapWriteFlags.number (flags.getD []) := by
  cases flags with
  | none => rfl
  | some flags =>
    show (flags.map CdtMapWriteFlags.number).foldl (fun acc f => acc ||| f) 0 = _
    rw [List.foldl_map]
    rfl

theorem MapOrderType.toAero_injective : Function.Injective MapOrderType.toAero := by
  intro order order' h
  cases order <;> cases order' <;> first | rfl | cases h

theorem Proto.CdtMapPolicy.toAero_injective : Function.Injective Proto.CdtMapPolicy.toAero := by
  rintro ⟨order, flags, _ | _⟩ ⟨order', flags', _ | _⟩ h
  · obtain ⟨horder, hflags⟩ := Aero.MapPolicy.withFlags.inj h
    obtain rfl : order = order' := MapOrderType.toAero_injective horder
    obtain rfl : flags = flags' := toInt64_injective hflags
    rfl
  · cases h
  · cases h
  · obtain ⟨horder, hflags⟩ := Aero.MapPolicy.withFlagsAndPersistedIndex.inj h
    obtain rfl : order = order' := MapOrderType.toAero_injective horder
    obtain rfl : flags = flags' := toInt64_injective hflags
    rfl

/-- Two map policies, alike in the same sense and in whether the index is persisted. -/
theorem mapPolicies_alike_iff {order order' : MapOrderType}
    {flags flags' : Option (List CdtMapWriteFlags)} {persistedIndex persistedIndex' : Option Bool} :
    toCdtMapPolicy (some (CdtMapPolicy.construct order
        (flags.map fun flags => flags.map CdtMapWriteFlags.number) persistedIndex)) =
        toCdtMapPolicy (some (CdtMapPolicy.construct order'
          (flags'.map fun flags => flags.map CdtMapWriteFlags.number) persistedIndex')) ↔
      order = order' ∧ (∀ f, f ≠ .default → (f ∈ flags.getD [] ↔ f ∈ flags'.getD [])) ∧
        persistedIndex.getD false = persistedIndex'.getD false := by
  rw [toCdtMapPolicy_some, toCdtMapPolicy_some, Except.ok.injEq,
    Proto.CdtMapPolicy.toAero_injective.eq_iff, Proto.CdtMapPolicy.mk.injEq]
  refine and_congr_right' (and_congr_left' ?_)
  rw [CdtMapPolicy.flags_eq, CdtMapPolicy.flags_eq,
    Flags.combine_eq_iff CdtMapWriteFlags.bits CdtMapWriteFlags.bit_injective]
  simp only [CdtMapWriteFlags.bit_ne_none]

theorem CdtListWriteFlags.number_injective : Function.Injective CdtListWriteFlags.number := by
  intro f g h
  cases f <;> cases g <;> first | rfl | cases h

theorem CdtBitwiseWriteFlags.number_injective : Function.Injective CdtBitwiseWriteFlags.number := by
  intro f g h
  cases f <;> cases g <;> first | rfl | cases h

theorem CdtBitwisePolicy.construct_eq (flags : Option CdtBitwiseWriteFlags) :
    construct flags = ⟨(flags.getD .default).number⟩ := by
  cases flags with
  | none => rfl
  | some f => rfl

theorem CdtHllPolicy.construct_eq (flags : Option CdtListWriteFlags) :
    construct flags = ⟨(flags.getD .default).number⟩ := by
  cases flags with
  | none => rfl
  | some f => rfl

/-- A flag that is left out is the default flag. -/
theorem bitPolicies_alike_iff {flags flags' : Option CdtBitwiseWriteFlags} :
    toBitwisePolicy (some (CdtBitwisePolicy.construct flags)) =
        toBitwisePolicy (some (CdtBitwisePolicy.construct flags')) ↔
      flags.getD .default = flags'.getD .default := by
  rw [toBitwisePolicy_some, toBitwisePolicy_some, CdtBitwisePolicy.construct_eq,
    CdtBitwisePolicy.construct_eq, Proto.CdtBitwisePolicy.toAero, Proto.CdtBitwisePolicy.toAero,
    Aero.BitPolicy.new.injEq, toInt64_injective.eq_iff,
    CdtBitwiseWriteFlags.number_injective.eq_iff]

/-- The policies of sketches, with flags for lists. -/
theorem hllPolicies_alike_iff {flags flags' : Option CdtListWriteFlags} :
    toHLLPolicy (some (CdtHllPolicy.construct flags)) =
        toHLLPolicy (some (CdtHllPolicy.construct flags')) ↔
      flags.getD .default = flags'.getD .default := by
  rw [toHLLPolicy_some, toHLLPolicy_some, CdtHllPolicy.construct_eq, CdtHllPolicy.construct_eq,
    Proto.CdtHllPolicy.toAero, Proto.CdtHllPolicy.toAero, Aero.HllPolicy.new.injEq,
    toInt64_injective.eq_iff, CdtListWriteFlags.number_injective.eq_iff]

/-! ## Context paths -/

/-- `CDTContextType` (lines 1918–1926). -/
inductive CDTContextType where
  | listIndex
  | listRank
  | listValue
  | mapIndex
  | mapRank
  | mapKey
  | mapValue
deriving DecidableEq

/-- The number of a kind of step. -/
def CDTContextType.number : CDTContextType → Int32
  | listIndex => 0x10
  | listRank => 0x11
  | listValue => 0x13
  | mapIndex => 0x20
  | mapRank => 0x21
  | mapKey => 0x22
  | mapValue => 0x23

/-- `ListOrderType::flag` (lines 1826–1831). -/
def ListOrderType.flag : ListOrderType → Int32
  | unordered => 0
  | ordered => 1

/-- `MapOrderType::flag` (lines 1883–1889). -/
def MapOrderType.flag : MapOrderType → Int32
  | unordered => 0x40
  | keyOrdered => 0x80
  | keyValueOrdered => 0xc0

namespace CDTContext

/-- `CDTContext::list_order_flag` (lines 1949–1959). -/
def listOrderFlag (order : ListOrderType) (pad : Bool) : Int32 :=
  if order.flag = 1 then 0xc0 else if pad then 0x80 else 0x40

/-- `CDTContext::__construct` (lines 1943–1947): the default message. -/
def construct : CDTContext := ⟨0, none⟩

/-- A step that selects by an index or a rank. -/
def byNumber (id n : Int32) : CDTContext := ⟨id, some (.int n.toInt64)⟩

/-- `CDTContext::ListIndex` (lines 1969–1976). -/
def listIndex (index : Int32) : CDTContext := byNumber CDTContextType.listIndex.number index

/-- `CDTContext::ListIndexCreate` (lines 1979–1986). -/
def listIndexCreate (index : Int32) (order : ListOrderType) (pad : Bool) : CDTContext :=
  byNumber (CDTContextType.listIndex.number ||| listOrderFlag order pad) index

/-- `CDTContext::ListRank` (lines 1992–1999). -/
def listRank (rank : Int32) : CDTContext := byNumber CDTContextType.listRank.number rank

/-- `CDTContext::ListValue` (lines 2002–2009). -/
def listValue (key : Arg) : CDTContext := ⟨CDTContextType.listValue.number, some key⟩

/-- `CDTContext::MapIndex` (lines 2019–2026). -/
def mapIndex (index : Int32) : CDTContext := byNumber CDTContextType.mapIndex.number index

/-- `CDTContext::MapRank` (lines 2032–2039). -/
def mapRank (rank : Int32) : CDTContext := byNumber CDTContextType.mapRank.number rank

/-- `CDTContext::MapKey` (lines 2042–2049). -/
def mapKey (key : Arg) : CDTContext := ⟨CDTContextType.mapKey.number, some key⟩

/-- `CDTContext::MapKeyCreate` (lines 2052–2059). -/
def mapKeyCreate (key : Arg) (order : MapOrderType) : CDTContext :=
  ⟨CDTContextType.mapKey.number ||| order.flag, some key⟩

/-- `CDTContext::MapValue` (lines 2062–2069). -/
def mapValue (key : Arg) : CDTContext := ⟨CDTContextType.mapValue.number, some key⟩

end CDTContext

/-- A call of a constructor. -/
inductive ContextCall where
  | construct
  | listIndex (index : Int32)
  | listIndexCreate (index : Int32) (order : ListOrderType) (pad : Bool)
  | listRank (rank : Int32)
  | listValue (key : Arg)
  | mapIndex (index : Int32)
  | mapRank (rank : Int32)
  | mapKey (key : Arg)
  | mapKeyCreate (key : Arg) (order : MapOrderType)
  | mapValue (key : Arg)

/-- The context that the constructor makes. -/
def ContextCall.context : ContextCall → CDTContext
  | construct => .construct
  | listIndex index => .listIndex index
  | listIndexCreate index order pad => .listIndexCreate index order pad
  | listRank rank => .listRank rank
  | listValue key => .listValue key
  | mapIndex index => .mapIndex index
  | mapRank rank => .mapRank rank
  | mapKey key => .mapKey key
  | mapKeyCreate key order => .mapKeyCreate key order
  | mapValue key => .mapValue key

/-! ### What a step says -/

/-- The list that a step creates; an ordered list is not padded. -/
inductive ListCreation where
  | unordered
  | padded
  | ordered

/-- A step of a path, as the documentation of the constructors tells it. -/
inductive PathStep where
  | nowhere
  | listIndex (index : Int32) (create : Option ListCreation)
  | listRank (rank : Int32)
  | listValue (value : Aero.Value)
  | mapIndex (index : Int32)
  | mapRank (rank : Int32)
  | mapKey (key : Aero.Value) (create : Option MapOrderType)
  | mapValue (value : Aero.Value)

def ListCreation.of : ListOrderType → Bool → ListCreation
  | .ordered, _ => ordered
  | .unordered, true => padded
  | .unordered, false => unordered

def ContextCall.step : ContextCall → PathStep
  | construct => .nowhere
  | listIndex index => .listIndex index none
  | listIndexCreate index order pad => .listIndex index (some (.of order pad))
  | listRank rank => .listRank rank
  | listValue key => .listValue key.toAero
  | mapIndex index => .mapIndex index
  | mapRank rank => .mapRank rank
  | mapKey key => .mapKey key.toAero none
  | mapKeyCreate key order => .mapKey key.toAero (some order)
  | mapValue key => .mapValue key.toAero

/-! ### Reading a step -/

/-- The list that the upper bits of a step create. -/
def ListCreation.ofFlag (flag : Int64) : Option ListCreation :=
  if flag = 0x40 then some unordered
  else if flag = 0x80 then some padded
  else if flag = 0xc0 then some ordered
  else none

/-- The order of the map that they create. -/
def MapOrderType.ofFlag (flag : Int64) : Option MapOrderType :=
  [unordered, keyOrdered, keyValueOrdered].find? fun order => order.flag.toInt64 == flag

/-- The kind of a step. -/
def CDTContextType.ofNumber (number : Int64) : Option CDTContextType :=
  [listIndex, listRank, listValue, mapIndex, mapRank, mapKey, mapValue].find? fun kind =>
    kind.number.toInt64 == number

/-- The number that a step selects by. -/
def Aero.Value.int32 : Aero.Value → Option Int32
  | .integer i => some i.toInt32
  | _ => none

/-- The step of a kind, with the upper bits of its number and its value. -/
def CDTContextType.step (flag : Int64) (value : Aero.Value) : CDTContextType → Option PathStep
  | listIndex => value.int32.map fun i => .listIndex i (ListCreation.ofFlag flag)
  | listRank => value.int32.map .listRank
  | listValue => some (.listValue value)
  | mapIndex => value.int32.map .mapIndex
  | mapRank => value.int32.map .mapRank
  | mapKey => some (.mapKey value (MapOrderType.ofFlag flag))
  | mapValue => some (.mapValue value)

/-- The step, read from the context of the Go client. -/
def Aero.CDTContext.step (c : Aero.CDTContext) : Option PathStep :=
  match CDTContextType.ofNumber (c.id &&& 0x3f) with
  | some kind => kind.step (c.id &&& 0xc0) c.value
  | none => some .nowhere

/-- The kind and the upper bits are read off a number. -/
theorem step_of_number {id : Int32} {flag : Int64} {kind : CDTContextType}
    (hkind : CDTContextType.ofNumber (id.toInt64 &&& 0x3f) = some kind)
    (hflag : id.toInt64 &&& 0xc0 = flag) (value : Arg) :
    (CDTContext.toAero ⟨id, some value⟩).step = kind.step flag value.toAero := by
  show (match CDTContextType.ofNumber (id.toInt64 &&& 0x3f) with
    | some kind => kind.step (id.toInt64 &&& 0xc0) value.toAero
    | none => some .nowhere) = _
  rw [hkind, hflag]

/-- A number that was sent is read. -/
theorem Arg.int32_int (n : Int32) : (int n.toInt64).toAero.int32 = some n := by
  show some n.toInt64.toInt32 = some n
  rw [Int32.toInt32_toInt64]

/-- What a constructor made is read as what it was called with. -/
theorem ContextCall.step_context (c : ContextCall) : c.context.toAero.step = some c.step := by
  cases c with
  | construct => rfl
  | listIndex index | listRank index | mapIndex index | mapRank index =>
    refine (step_of_number rfl rfl _).trans ?_
    rw [CDTContextType.step, Arg.int32_int]
    rfl
  | listIndexCreate index order pad =>
    rcases order with _ | _ <;> rcases pad with _ | _
    all_goals
      refine (step_of_number rfl rfl _).trans ?_
      rw [CDTContextType.step, Arg.int32_int]
      rfl
  | listValue key | mapValue key | mapKey key => exact (step_of_number rfl rfl key).trans rfl
  | mapKeyCreate key order =>
    cases order with
    | unordered | keyOrdered | keyValueOrdered => exact (step_of_number rfl rfl key).trans rfl

/-- **Main theorem.** The contexts of a path arrive at the Go client, and each of them is read as
    what its constructor was called with. -/
theorem path_read (path : List ContextCall) :
    ∃ ctx, toCDTContexts (CDTContext.pathToProto (some (path.map ContextCall.context))) = .ok ctx ∧
      ctx.mapM Aero.CDTContext.step = some (path.map ContextCall.step) := by
  refine ⟨_, toCDTContexts_pathToProto _, ?_⟩
  show ((path.map ContextCall.context).map CDTContext.toAero).mapM Aero.CDTContext.step = _
  induction path with
  | nil => rfl
  | cons c path ih =>
    simp only [List.map_cons, List.mapM_cons, c.step_context, ih]
    rfl

end AerospikePhp
