import AerospikePhp.Cdt.MapOp

/-!
# Map operations are translated as documented, with six exceptions

`MapCall.documented` is the operation of the Go client that a constructor of
`MapOp` documents, and `MapCall.sent` is what `toCdtMapOp` makes of the message
that the constructor builds. They differ for these constructors:
* `size` sends the command `SetPolicy`;
* `remove_by_value_relative_rank_range_count` sends the command without a count;
* `get_by_index_range`, `get_by_rank_range` and their variants with a count send
  an argument more than the function of the Go client has.

Main results:
* `toCdtMapOp_build`: the translation of every constructor.
* `mapFaithful_iff`: the constructors whose messages are translated as documented.
-/

namespace AerospikePhp

/-! ## The documented operations -/

def MapOrderType.toAero : MapOrderType → Aero.MapOrder
  | unordered => .unordered
  | keyOrdered => .keyOrdered
  | keyValueOrdered => .keyValueOrdered

/-- The policy of the Go client for a policy of the program. -/
def Proto.CdtMapPolicy.toAero (policy : Proto.CdtMapPolicy) : Aero.MapPolicy :=
  if policy.persistedIndex then
    .withFlagsAndPersistedIndex policy.mapOrder.toAero policy.flags.toInt64
  else .withFlags policy.mapOrder.toAero policy.flags.toInt64

namespace MapCall

/-- The operation that a constructor documents, with its arguments in their roles;
    `ret` is the return type for the optional argument. There is none where the
    function of the Go client does not take all the arguments. -/
def documented (ret : Option MapReturnType → Int32) : MapCall → Option Aero.MapCommand
  | create order withIndex =>
    if withIndex = some true then none else some (.create order.toAero)
  | setPolicy policy => some (.setPolicy policy.toAero)
  | size => some .size
  | put policy map =>
    match map.toAero with
    | .map m => some (.putItems policy.toAero m)
    | _ => none
  | increment policy key incr => some (.increment policy.toAero key.toAero incr.toAero)
  | decrement policy key decr => some (.decrement policy.toAero key.toAero decr.toAero)
  | clear => some .clear
  | removeByKeys keys rt => some (.remove (.keys (keys.map Arg.toAero)) (ret rt))
  | removeByKeyRange _ begin stop rt =>
    some (.remove (.keyRange begin.toAero stop.toAero) (ret rt))
  | removeByValues _ values rt => some (.remove (.values (values.map Arg.toAero)) (ret rt))
  | removeByValueRange _ begin stop rt =>
    some (.remove (.valueRange begin.toAero stop.toAero) (ret rt))
  | removeByValueRelativeRankRange _ value rank rt =>
    some (.remove (.valueRelativeRankRange value.toAero rank) (ret rt))
  | removeByValueRelativeRankRangeCount _ value rank count rt =>
    some (.remove (.valueRelativeRankRangeCount value.toAero rank count) (ret rt))
  | removeByIndex _ index rt => some (.remove (.index index) (ret rt))
  | removeByIndexRange _ index rt => some (.remove (.indexRange index) (ret rt))
  | removeByIndexRangeCount _ index count rt =>
    some (.remove (.indexRangeCount index count) (ret rt))
  | removeByRank _ rank rt => some (.remove (.rank rank) (ret rt))
  | removeByRankRange _ rank rt => some (.remove (.rankRange rank) (ret rt))
  | removeByRankRangeCount _ rank count rt =>
    some (.remove (.rankRangeCount rank count) (ret rt))
  | removeByKeyRelativeIndexRange _ key index rt =>
    some (.remove (.keyRelativeIndexRange key.toAero index) (ret rt))
  | removeByKeyRelativeIndexRangeCount _ key index count rt =>
    some (.remove (.keyRelativeIndexRangeCount key.toAero index count) (ret rt))
  | getByKeys _ keys rt => some (.get (.keys (keys.map Arg.toAero)) (ret rt))
  | getByKeyRange _ begin stop rt => some (.get (.keyRange begin.toAero stop.toAero) (ret rt))
  | getByKeyRelativeIndexRange _ key index rt =>
    some (.get (.keyRelativeIndexRange key.toAero index) (ret rt))
  | getByKeyRelativeIndexRangeCount _ key index count rt =>
    some (.get (.keyRelativeIndexRangeCount key.toAero index count) (ret rt))
  | getByValues _ values rt => some (.get (.values (values.map Arg.toAero)) (ret rt))
  | getByValueRange _ begin stop rt =>
    some (.get (.valueRange begin.toAero stop.toAero) (ret rt))
  | getByValueRelativeRankRange _ value rank rt =>
    some (.get (.valueRelativeRankRange value.toAero rank) (ret rt))
  | getByValueRelativeRankRangeCount _ value rank count rt =>
    some (.get (.valueRelativeRankRangeCount value.toAero rank count) (ret rt))
  | getByIndex _ index rt => some (.get (.index index) (ret rt))
  | getByRank _ rank rt => some (.get (.rank rank) (ret rt))
  -- the functions take an index or a rank, and a count: no place for what is left
  | getByIndexRange _ _ _ _ | getByIndexRangeCount _ _ _ _ _ | getByRankRange _ _ _ _
  | getByRankRangeCount _ _ _ _ _ => none

/-! ## The operations that are sent -/

/-- The return type of the operation that is sent. -/
def sentReturn (rt : Option MapReturnType) : Int32 := toCdtMapReturnType (MapOp.returnNumber rt)

/-- What `toCdtMapOp` makes of the message of a constructor. -/
def sent : MapCall → Except Panic Aero.MapCommand
  | create _ _ => .error .indexOutOfRange
  | size => .ok (.setPolicy .default)
  | removeByValueRelativeRankRangeCount _ value rank _ rt =>
    .ok (.remove (.valueRelativeRankRange value.toAero rank) (sentReturn rt))
  | getByIndexRange _ begin _ rt =>
    .ok (.get (.indexRange (Proto.Value.getI (some begin.toProto))) (sentReturn rt))
  | getByIndexRangeCount _ index rank _ rt =>
    .ok (.get (.indexRangeCount index rank) (sentReturn rt))
  | getByRankRange _ begin _ rt =>
    .ok (.get (.rankRange (Proto.Value.getI (some begin.toProto))) (sentReturn rt))
  | getByRankRangeCount _ rank range _ rt =>
    .ok (.get (.rankRangeCount rank range) (sentReturn rt))
  | call =>
    match call.documented sentReturn with
    | some command => .ok command
    | none => .error .typeAssertion

end MapCall

/-! ## The translation -/

theorem toMapOrderType_number (order : MapOrderType) :
    toMapOrderType order.number = .ok order.toAero := by
  cases order with
  | unordered => rfl
  | keyOrdered => rfl
  | keyValueOrdered => rfl

@[simp] theorem toCdtMapPolicy_some (policy : Proto.CdtMapPolicy) :
    toCdtMapPolicy (some policy) = .ok policy.toAero := by
  rw [toCdtMapPolicy, toMapOrderType_number, Fallible.ok_bind, Proto.CdtMapPolicy.toAero]
  split_ifs
  · rfl
  · rfl

@[simp] theorem mapAt_hashMap {map : Arg} {h : List (PHPValue × PHPValue)}
    (hmap : map.val = .hashMap h) (vs : List Proto.Value) :
    mapAt (map.toProto :: vs) 0 = .ok (PHPValue.hashMapToAero h) := by
  rw [mapAt, valueAt_zero, Fallible.ok_bind, Arg.toAero_hashMap hmap]
  rfl

/-- A `put` that built a message was given a hash map. -/
theorem put_eq_some {policy : Proto.CdtMapPolicy} {binName : String}
    {ctx : Option (List CDTContext)} {map : Arg} {msg : Proto.CdtMapOperation}
    (h : MapOp.put policy binName ctx map = some msg) :
    ∃ entries, map.val = .hashMap entries ∧
      msg = MapOp.build .putItems (some policy) binName [map.toProto] ctx := by
  unfold MapOp.put at h
  split at h
  · next entries hmap =>
    cases h
    exact ⟨entries, hmap, rfl⟩
  · cases h

attribute [local simp] MapOp.select MapOp.build MapCall.sent MapCall.documented MapCall.sentReturn
  removeBy getBy selectInt selectIntInt selectRange selectValueInt selectValueIntInt selectList

theorem build_fields {binName : String} {ctx : Option (List CDTContext)} {call : MapCall}
    {msg : Proto.CdtMapOperation} (h : call.build binName ctx = some msg) :
    msg.binName = binName ∧ msg.ctx = CDTContext.pathToProto ctx := by
  cases call with
  | put policy map =>
    obtain ⟨entries, -, rfl⟩ := put_eq_some h
    exact ⟨rfl, rfl⟩
  | _ =>
    cases h
    exact ⟨rfl, rfl⟩

/-- The switch on the message of a constructor. -/
theorem mapCommand_build {binName : String} {ctx : Option (List CDTContext)} {call : MapCall}
    {msg : Proto.CdtMapOperation} (h : call.build binName ctx = some msg) :
    mapCommand msg = call.sent.map some := by
  cases call with
  | create order withIndex =>
    -- the constructor packs no argument, and the switch asks for one
    cases h
    rfl
  | put policy map =>
    obtain ⟨entries, hmap, rfl⟩ := put_eq_some h
    simp [mapCommand, mapAt_hashMap hmap, Arg.toAero_hashMap hmap, Except.map]
  | size =>
    cases h
    rfl
  | clear =>
    cases h
    rfl
  | setPolicy policy =>
    cases h
    simp [mapCommand, MapOp.setPolicy, Except.map]
  | increment policy key incr =>
    cases h
    simp [mapCommand, MapOp.increment, Except.map]
  | decrement policy key decr =>
    cases h
    simp [mapCommand, MapOp.decrement, Except.map]
  | getByIndexRange policy begin stop rt =>
    cases h
    simp [mapCommand, MapOp.getByIndexRange, Except.map, intAt]
  | getByRankRange policy begin stop rt =>
    cases h
    simp [mapCommand, MapOp.getByRankRange, Except.map, intAt]
  -- the other constructors pack their arguments as the switch takes them out
  | _ =>
    cases h
    simp [mapCommand, Except.map, MapOp.removeByKeys, MapOp.removeByKeyRange,
      MapOp.removeByValues, MapOp.removeByValueRange, MapOp.removeByValueRelativeRankRange,
      MapOp.removeByValueRelativeRankRangeCount, MapOp.removeByIndex, MapOp.removeByIndexRange,
      MapOp.removeByIndexRangeCount, MapOp.removeByRank, MapOp.removeByRankRange,
      MapOp.removeByRankRangeCount, MapOp.removeByKeyRelativeIndexRange,
      MapOp.removeByKeyRelativeIndexRangeCount, MapOp.getByKeys, MapOp.getByKeyRange,
      MapOp.getByKeyRelativeIndexRange, MapOp.getByKeyRelativeIndexRangeCount, MapOp.getByValues,
      MapOp.getByValueRange, MapOp.getByValueRelativeRankRange,
      MapOp.getByValueRelativeRankRangeCount, MapOp.getByIndex, MapOp.getByIndexRangeCount,
      MapOp.getByRank, MapOp.getByRankRangeCount]

/-- **Main theorem.** What the daemon makes of the message of a constructor. -/
theorem toCdtMapOp_build {binName : String} {ctx : Option (List CDTContext)} {call : MapCall}
    {msg : Proto.CdtMapOperation} (h : call.build binName ctx = some msg) :
    toCdtMapOp (some msg) =
      call.sent.map fun command => some ⟨binName, command, CDTContext.pathToAero ctx⟩ := by
  obtain ⟨hbin, hctx⟩ := build_fields h
  rw [toCdtMapOp, mapCommand_build h, hbin, hctx]
  cases call.sent with
  | error p => rfl
  | ok command => simp [Except.map]

/-! ## Faithful constructors -/

/-- Whenever the message of the constructor is translated, it is translated to the
    documented operation, with some return type. -/
def MapFaithful (binName : String) (ctx : Option (List CDTContext)) (call : MapCall) : Prop :=
  ∀ msg op, call.build binName ctx = some msg → toCdtMapOp (some msg) = .ok (some op) →
    ∃ ret command, call.documented ret = some command ∧
      op = ⟨binName, command, CDTContext.pathToAero ctx⟩

/-- Not one of the six constructors that send something else. -/
def MapCall.sentAsDocumented : MapCall → Bool
  | size | removeByValueRelativeRankRangeCount _ _ _ _ _ | getByIndexRange _ _ _ _
  | getByIndexRangeCount _ _ _ _ _ | getByRankRange _ _ _ _ | getByRankRangeCount _ _ _ _ _ => false
  | _ => true

theorem documented_of_sent {call : MapCall} (hcall : call.sentAsDocumented = true)
    {command : Aero.MapCommand} (h : call.sent = .ok command) :
    call.documented MapCall.sentReturn = some command := by
  cases call with
  | create order withIndex => cases h
  | size => cases hcall
  | removeByValueRelativeRankRangeCount policy value rank count rt => cases hcall
  | getByIndexRange policy begin stop rt => cases hcall
  | getByIndexRangeCount policy index rank count rt => cases hcall
  | getByRankRange policy begin stop rt => cases hcall
  | getByRankRangeCount policy rank range count rt => cases hcall
  | put policy map =>
    simp only [MapCall.sent] at h
    split at h
    · next command' hdoc =>
      cases h
      exact hdoc
    · cases h
  | _ =>
    cases h
    rfl

theorem not_mapFaithful {binName : String} {ctx : Option (List CDTContext)} {call : MapCall}
    {msg : Proto.CdtMapOperation} {command : Aero.MapCommand}
    (hbuild : call.build binName ctx = some msg) (hsent : call.sent = .ok command)
    (hdoc : ∀ ret, call.documented ret ≠ some command) : ¬ MapFaithful binName ctx call := by
  intro hfaithful
  have htranslated := toCdtMapOp_build hbuild
  rw [hsent] at htranslated
  obtain ⟨ret, command', hcommand, hop⟩ := hfaithful msg _ hbuild htranslated
  cases hop
  exact hdoc ret hcommand

/-- **Main theorem.** The message of a constructor is translated as documented iff
    the constructor is not one of six. -/
theorem mapFaithful_iff (binName : String) (ctx : Option (List CDTContext)) (call : MapCall) :
    MapFaithful binName ctx call ↔ call.sentAsDocumented = true := by
  constructor
  · intro hfaithful
    by_contra hcall
    revert hfaithful
    cases call with
    | size => exact not_mapFaithful rfl rfl (by rintro ret ⟨⟩)
    | removeByValueRelativeRankRangeCount policy value rank count rt =>
      exact not_mapFaithful rfl rfl (by rintro ret ⟨⟩)
    | getByIndexRange policy begin stop rt => exact not_mapFaithful rfl rfl (by rintro ret ⟨⟩)
    | getByIndexRangeCount policy index rank count rt =>
      exact not_mapFaithful rfl rfl (by rintro ret ⟨⟩)
    | getByRankRange policy begin stop rt => exact not_mapFaithful rfl rfl (by rintro ret ⟨⟩)
    | getByRankRangeCount policy rank range count rt =>
      exact not_mapFaithful rfl rfl (by rintro ret ⟨⟩)
    | _ => exact absurd rfl hcall
  · intro hcall msg op hbuild htranslated
    rw [toCdtMapOp_build hbuild] at htranslated
    cases hsent : call.sent with
    | error p =>
      rw [hsent] at htranslated
      cases htranslated
    | ok command =>
      rw [hsent] at htranslated
      cases htranslated
      exact ⟨MapCall.sentReturn, command, documented_of_sent hcall hsent, rfl⟩

/-- The size of a map is asked for, and the policy of the map is set. -/
theorem size_sets_policy :
    toCdtMapOp (some (MapOp.size "m" none)) = .ok (some ⟨"m", .setPolicy .default, []⟩) ∧
      ¬ MapFaithful "m" none .size := by
  refine ⟨rfl, ?_⟩
  exact not_mapFaithful rfl rfl (by rintro ret ⟨⟩)

end AerospikePhp
