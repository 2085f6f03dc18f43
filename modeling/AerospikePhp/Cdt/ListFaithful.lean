import AerospikePhp.Cdt.ListOp

/-!
# List operations are translated as documented, with one exception

`ListCall.documented` is the operation of the Go client that a constructor of
`ListOp` documents, and `ListCall.sent` is what `toCdtListOp` makes of the
message that the constructor builds. They differ for `remove_by_value_range`,
which sends the command `RemoveByValueList`: a list as the begin of the range is
taken for the list of the values to remove. On other values the daemon panics, as
it does for `get_by_value_range` without an end.

Main results:
* `toCdtListOp_build`: the translation of every constructor.
* `listFaithful_iff`: the calls whose messages are translated as documented.
-/

namespace AerospikePhp

/-! ## The documented operations -/

/-- The policy of the Go client for a policy of the program. -/
def Proto.CdtListPolicy.toAero (policy : Proto.CdtListPolicy) : Aero.ListPolicy :=
  .new policy.order.number policy.flags.toInt64

/-- The end of a range of values; the range is open if it is absent. -/
def stopToAero (stop : Option Arg) : Aero.Value := (stop.map Arg.toAero).getD .null

namespace ListCall

/-- The operation that a constructor documents, with its arguments in their roles;
    `ret` is the return type for the optional argument. The constructors `set` and
    `increment` have no policy: the default one is documented. -/
def documented (ret : Option ListReturnType → Int32) : ListCall → Aero.ListCommand
  | create order pad index =>
    if index.getD false then .createWithIndex order.number pad else .create order.number pad
  | setOrder order => .setOrder order.number
  | sort sortFlags => .sort sortFlags.number
  | append policy values => .append policy.toAero (values.map Arg.toAero)
  | insert policy index values => .insert policy.toAero index (values.map Arg.toAero)
  | pop index => .pop index
  | popRange index count => .popRange index count
  | popRangeFrom index => .popRangeFrom index
  | removeValues values rt => .remove (.values (values.map Arg.toAero)) (ret rt)
  | removeByValueRange begin stop rt =>
    .remove (.valueRange begin.toAero (stopToAero stop)) (ret rt)
  | removeByValueRelativeRankRange value rank rt =>
    .remove (.valueRelativeRankRange value.toAero rank) (ret rt)
  | removeByValueRelativeRankRangeCount value rank count rt =>
    .remove (.valueRelativeRankRangeCount value.toAero rank count) (ret rt)
  | removeRange index count => .removeRange index count
  | removeRangeFrom index => .removeRangeFrom index
  | set index value => .set .default index value.toAero
  | trim index count => .trim index count
  | clear => .clear
  | increment index value => .increment .default index value.toAero
  | size => .size
  | removeByIndex index rt => .remove (.index index) (ret rt)
  | removeByIndexRange index rt => .remove (.indexRange index) (ret rt)
  | removeByIndexRangeCount index count rt => .remove (.indexRangeCount index count) (ret rt)
  | removeByRank rank rt => .remove (.rank rank) (ret rt)
  | removeByRankRange rank rt => .remove (.rankRange rank) (ret rt)
  | removeByRankRangeCount rank count rt => .remove (.rankRangeCount rank count) (ret rt)
  | getByValues values rt => .get (.values (values.map Arg.toAero)) (ret rt)
  | getByValueRange begin stop rt => .get (.valueRange begin.toAero (stopToAero stop)) (ret rt)
  | getByIndex index rt => .get (.index index) (ret rt)
  | getByIndexRange index rt => .get (.indexRange index) (ret rt)
  | getByIndexRangeCount index count rt => .get (.indexRangeCount index count) (ret rt)
  | getByRank rank rt => .get (.rank rank) (ret rt)
  | getByRankRange rank rt => .get (.rankRange rank) (ret rt)
  | getByRankRangeCount rank count rt => .get (.rankRangeCount rank count) (ret rt)
  | getByValueRelativeRankRange value rank rt =>
    .get (.valueRelativeRankRange value.toAero rank) (ret rt)
  | getByValueRelativeRankRangeCount value rank count rt =>
    .get (.valueRelativeRankRangeCount value.toAero rank count) (ret rt)

/-! ## The operations that are sent -/

/-- The return type of the operation that is sent. -/
def sentReturn (rt : Option ListReturnType) : Int32 :=
  (rt.map fun v => v.number ListReturnBase.number).getD ListReturnBase.value.number

/-- What `toCdtListOp` makes of the message of a constructor. -/
def sent : ListCall → Except Panic Aero.ListCommand
  | removeByValueRange begin _ rt =>
    match begin.elements? with
    | some values => .ok (.remove (.values values) (sentReturn rt))
    | none => .error .nilDeref
  | getByValueRange _ none _ => .error .indexOutOfRange
  | call => .ok (call.documented sentReturn)

end ListCall

/-! ## The translation -/

@[simp] theorem toCdtListPolicy_some (policy : Proto.CdtListPolicy) :
    toCdtListPolicy (some policy) = policy.toAero := rfl

@[simp] theorem toCdtListPolicy_none : toCdtListPolicy none = .default := rfl

@[simp] theorem toListReturnType_returnNumber (rt : Option ListReturnType) :
    toListReturnType (ListOp.returnNumber rt) = .ok (ListCall.sentReturn rt) := by
  cases rt with
  | none => rfl
  | some rt => rfl

theorem listBuild_fields (binName : String) (ctx : Option (List CDTContext)) (call : ListCall) :
    (call.build binName ctx).binName = binName ∧
      (call.build binName ctx).ctx = CDTContext.pathToProto ctx := by
  cases call with
  | _ => exact ⟨rfl, rfl⟩

attribute [local simp] ListOp.select ListOp.build ListCall.build ListCall.sent
  ListCall.documented listRemoveBy listGetBy selectInt selectIntInt selectRange selectValueInt
  selectValueIntInt selectList

/-- The switch on the message of a constructor. -/
theorem listCommand_build (binName : String) (ctx : Option (List CDTContext)) (call : ListCall) :
    listCommand (call.build binName ctx) = call.sent := by
  cases call with
  | create order pad index =>
    simp only [ListCall.build, ListOp.create, ListOp.build, listCommand, intAt_zero, boolAt_succ,
      boolAt_zero, Fallible.ok_bind, ListCall.sent, ListCall.documented]
    split_ifs
    · rfl
    · rfl
  | removeByValueRange begin stop rt =>
    -- the command is that of a list of values
    have hvalues : valuesAt (ListOp.rangeArgs begin stop) 0 = match begin.elements? with
        | some values => .ok values
        | none => .error .nilDeref := by
      cases stop with
      | none => exact valuesAt_arg begin []
      | some stop => exact valuesAt_arg begin [stop.toProto]
    simp only [ListCall.build, ListOp.removeByValueRange, ListOp.select, listCommand,
      listRemoveBy, selectList, hvalues, ListCall.sent]
    cases begin.elements? with
    | none => rfl
    | some values => simp
  | getByValueRange begin stop rt =>
    cases stop with
    | none => simp [listCommand, ListOp.getByValueRange, ListOp.rangeArgs]
    | some stop => simp [listCommand, ListOp.getByValueRange, ListOp.rangeArgs, stopToAero]
  | _ =>
    simp [listCommand, ListOp.setOrder, ListOp.sort, ListOp.append, ListOp.insert, ListOp.pop,
      ListOp.popRange, ListOp.popRangeFrom, ListOp.removeValues,
      ListOp.removeByValueRelativeRankRange, ListOp.removeByValueRelativeRankRangeCount,
      ListOp.removeRange, ListOp.removeRangeFrom, ListOp.set, ListOp.trim, ListOp.clear,
      ListOp.increment, ListOp.size, ListOp.removeByIndex, ListOp.removeByIndexRange,
      ListOp.removeByIndexRangeCount, ListOp.removeByRank, ListOp.removeByRankRange,
      ListOp.removeByRankRangeCount, ListOp.getByValues, ListOp.getByIndex,
      ListOp.getByIndexRange, ListOp.getByIndexRangeCount, ListOp.getByRank,
      ListOp.getByRankRange, ListOp.getByRankRangeCount, ListOp.getByValueRelativeRankRange,
      ListOp.getByValueRelativeRankRangeCount]

/-- **Main theorem.** What the daemon makes of the message of a constructor. -/
theorem toCdtListOp_build (binName : String) (ctx : Option (List CDTContext)) (call : ListCall) :
    toCdtListOp (some (call.build binName ctx)) =
      call.sent.map fun command => some ⟨binName, command, CDTContext.pathToAero ctx⟩ := by
  obtain ⟨hbin, hctx⟩ := listBuild_fields binName ctx call
  rw [toCdtListOp, listCommand_build, hbin, hctx]
  exact bind_toCDTContexts call.sent ctx fun command ctx =>
    some (⟨binName, command, ctx⟩ : Aero.ListOp)

/-! ## Faithful calls -/

/-- Whenever the message of the call is translated, it is translated to the
    documented operation, with some return type. -/
def ListFaithful (binName : String) (ctx : Option (List CDTContext)) (call : ListCall) : Prop :=
  ∀ op, toCdtListOp (some (call.build binName ctx)) = .ok (some op) →
    ∃ ret, op = ⟨binName, call.documented ret, CDTContext.pathToAero ctx⟩

/-- Not a `remove_by_value_range` whose begin is a list. -/
def ListCall.sentAsDocumented : ListCall → Bool
  | removeByValueRange begin _ _ => begin.elements?.isNone
  | _ => true

theorem ListCall.sent_of_sentAsDocumented {call : ListCall}
    (hcall : call.sentAsDocumented = true) {command : Aero.ListCommand}
    (h : call.sent = .ok command) : command = call.documented ListCall.sentReturn := by
  cases call with
  | removeByValueRange begin stop rt =>
    rw [sentAsDocumented, Option.isNone_iff_eq_none] at hcall
    simp only [sent, hcall] at h
    cases h
  | getByValueRange begin stop rt =>
    cases stop with
    | none => cases h
    | some stop =>
      cases h
      rfl
  | _ =>
    cases h
    rfl

theorem Aero.Selector.values_ne_valueRange (vs : List Aero.Value) (begin stop : Aero.Value) :
    Aero.Selector.values vs ≠ .valueRange begin stop := by
  intro h
  unfold Aero.Selector.values at h
  split at h
  · cases h
  · cases h

/-- **Main theorem.** The message of a call is translated as documented iff the
    call is not a `remove_by_value_range` whose begin is a list. -/
theorem listFaithful_iff (binName : String) (ctx : Option (List CDTContext)) (call : ListCall) :
    ListFaithful binName ctx call ↔ call.sentAsDocumented = true := by
  constructor
  · intro hfaithful
    by_contra hcall
    cases call with
    | removeByValueRange begin stop rt =>
      cases helements : begin.elements? with
      | none => exact hcall (by rw [ListCall.sentAsDocumented, helements]; rfl)
      | some values =>
        have hsent := toCdtListOp_build binName ctx (.removeByValueRange begin stop rt)
        simp only [ListCall.sent, helements] at hsent
        obtain ⟨ret, hop⟩ := hfaithful _ hsent
        simp only [ListCall.documented, Aero.ListOp.mk.injEq, Aero.ListCommand.remove.injEq] at hop
        exact Aero.Selector.values_ne_valueRange _ _ _ hop.2.1.1
    | _ => exact hcall rfl
  · intro hcall op htranslated
    rw [toCdtListOp_build] at htranslated
    cases hsent : call.sent with
    | error p =>
      rw [hsent] at htranslated
      cases htranslated
    | ok command =>
      rw [hsent] at htranslated
      cases htranslated
      exact ⟨ListCall.sentReturn, by rw [ListCall.sent_of_sentAsDocumented hcall hsent]⟩

/-- Removing the values in the range from `[1, 2]` to `9` removes the values 1 and 2. -/
theorem removeByValueRange_removes_list :
    toCdtListOp (some (ListOp.removeByValueRange "l" none none (.list [.int 1, .int 2])
        (some (.int 9)))) =
      .ok (some ⟨"l", .remove (.valueList [.integer 1, .integer 2]) 7, []⟩) ∧
      ¬ ListFaithful "l" none
        (.removeByValueRange (.list [.int 1, .int 2]) (some (.int 9)) none) := by
  refine ⟨rfl, ?_⟩
  intro hfaithful
  obtain ⟨ret, hop⟩ := hfaithful _ rfl
  cases hop

end AerospikePhp
