import AerospikePhp.Cdt.BitOp

/-!
# Bitwise operations: what is sent

`BitwiseCall.documented` is the operation of the Go client that a constructor of
`BitwiseOp` documents, and `BitwiseCall.sent` is what `toCdtBitwiseOp` makes of
the message that the constructor builds. They differ for `add` and `subtract`,
whose overflow action is read from the argument that holds the sign flag: the
accessor is that of an integer, and yields zero.

Main results:
* `toCdtBitwiseOp_build`: the translation of every constructor.
* `bitFaithful_iff`: the operation is the documented one iff its overflow action, if it
  has one, is `fail`.
-/

namespace AerospikePhp

/-- The policy of the Go client for a policy of the program. -/
def Proto.CdtBitwisePolicy.toAero (policy : Proto.CdtBitwisePolicy) : Aero.BitPolicy :=
  .new policy.flags.toInt64

namespace BitwiseCall

/-- The operation that a constructor documents, with its arguments in their roles. -/
def documented : BitwiseCall → Aero.BitCommand
  | resize policy byteSize flags =>
    .resize policy.toAero byteSize ((flags.map BitResizeFlags.number).getD 0)
  | insert policy byteOffset value => .insert policy.toAero byteOffset value
  | remove policy byteOffset byteSize => .remove policy.toAero byteOffset byteSize
  | set policy offset size value => .set policy.toAero offset size value
  | or policy offset size value => .or policy.toAero offset size value
  | xor policy offset size value => .xor policy.toAero offset size value
  | and policy offset size value => .and policy.toAero offset size value
  | not policy offset size => .not policy.toAero offset size
  | lshift policy offset size shift => .lShift policy.toAero offset size shift
  | rshift policy offset size shift => .rShift policy.toAero offset size shift
  | add policy offset size value signed action =>
    .add policy.toAero offset size value signed action.number
  | subtract policy offset size value signed action =>
    .subtract policy.toAero offset size value signed action.number
  | setInt policy offset size value => .setInt policy.toAero offset size value
  | get offset size => .get offset size
  | count offset size => .count offset size
  | lscan offset size value => .lScan offset size value
  | rscan offset size value => .rScan offset size value
  | getInt offset size signed => .getInt offset size signed

/-- What `toCdtBitwiseOp` makes of the message of a constructor. -/
def sent : BitwiseCall → Aero.BitCommand
  | add policy offset size value signed _ => .add policy.toAero offset size value signed 0
  | subtract policy offset size value signed _ =>
    .subtract policy.toAero offset size value signed 0
  | call => call.documented

end BitwiseCall

/-! ## The translation -/

@[simp] theorem toBitwisePolicy_some (policy : Proto.CdtBitwisePolicy) :
    toBitwisePolicy (some policy) = policy.toAero := rfl

theorem bitBuild_fields (binName : String) (ctx : Option (List CDTContext))
    (call : BitwiseCall) :
    (call.build binName ctx).binName = binName ∧
      (call.build binName ctx).ctx = CDTContext.pathToProto ctx := by
  cases call with
  | _ => exact ⟨rfl, rfl⟩

section Arguments

variable (bitOffset bitSize : Int64)

@[simp] theorem bitRange_rangeArgs (f : Int64 → Int64 → Aero.BitCommand) :
    bitRange (BitwiseOp.rangeArgs bitOffset bitSize) f = .ok (f bitOffset bitSize) := by
  simp [bitRange, BitwiseOp.rangeArgs]

@[simp] theorem bitBytes_bytesArgs (value : List UInt8)
    (f : Int64 → Int64 → List UInt8 → Aero.BitCommand) :
    bitBytes (BitwiseOp.bytesArgs bitOffset bitSize value) f =
      .ok (f bitOffset bitSize value) := by
  simp [bitBytes, BitwiseOp.bytesArgs]

@[simp] theorem bitInt_intArgs (value : Int64) (f : Int64 → Int64 → Int64 → Aero.BitCommand) :
    bitInt (BitwiseOp.intArgs bitOffset bitSize value) f = .ok (f bitOffset bitSize value) := by
  simp [bitInt, BitwiseOp.intArgs]

@[simp] theorem bitBool_boolArgs (value : Bool) (f : Int64 → Int64 → Bool → Aero.BitCommand) :
    bitBool (BitwiseOp.boolArgs bitOffset bitSize value) f = .ok (f bitOffset bitSize value) := by
  simp [bitBool, BitwiseOp.boolArgs]

/-- The overflow action is lost: an integer is asked of a boolean. -/
@[simp] theorem bitAdd_addArgs (value : Int64) (signed : Bool) (action : BitOverflowAction)
    (f : Int64 → Int64 → Int64 → Bool → Int64 → Aero.BitCommand) :
    bitAdd (BitwiseOp.addArgs bitOffset bitSize value signed action) f =
      .ok (f bitOffset bitSize value signed 0) := by
  have haction : intAt ((Arg.bool signed).toProto :: [(Arg.int action.number).toProto]) 0 =
      .ok 0 := by
    simp [intAt]
  simp [bitAdd, BitwiseOp.addArgs, haction]

end Arguments

/-- The switch on the message of a constructor. -/
theorem bitCommand_build (binName : String) (ctx : Option (List CDTContext))
    (call : BitwiseCall) : bitCommand (call.build binName ctx) = .ok call.sent := by
  cases call with
  | resize policy byteSize flags =>
    simp [BitwiseCall.build, BitwiseOp.resize, BitwiseOp.modify, bitCommand, bitRange,
      BitwiseCall.sent, BitwiseCall.documented]
  | insert policy byteOffset value =>
    simp [BitwiseCall.build, BitwiseOp.insert, BitwiseOp.modify, bitCommand, BitwiseCall.sent,
      BitwiseCall.documented]
  | remove policy byteOffset byteSize =>
    simp [BitwiseCall.build, BitwiseOp.remove, BitwiseOp.modify, bitCommand, bitRange,
      BitwiseCall.sent, BitwiseCall.documented]
  | not policy bitOffset bitSize => exact bitRange_rangeArgs bitOffset bitSize _
  | get bitOffset bitSize => exact bitRange_rangeArgs bitOffset bitSize _
  | count bitOffset bitSize => exact bitRange_rangeArgs bitOffset bitSize _
  | set policy bitOffset bitSize value => exact bitBytes_bytesArgs bitOffset bitSize value _
  | or policy bitOffset bitSize value => exact bitBytes_bytesArgs bitOffset bitSize value _
  | xor policy bitOffset bitSize value => exact bitBytes_bytesArgs bitOffset bitSize value _
  | and policy bitOffset bitSize value => exact bitBytes_bytesArgs bitOffset bitSize value _
  | lshift policy bitOffset bitSize shift => exact bitInt_intArgs bitOffset bitSize shift _
  | rshift policy bitOffset bitSize shift => exact bitInt_intArgs bitOffset bitSize shift _
  | setInt policy bitOffset bitSize value => exact bitInt_intArgs bitOffset bitSize value _
  | lscan bitOffset bitSize value => exact bitBool_boolArgs bitOffset bitSize value _
  | rscan bitOffset bitSize value => exact bitBool_boolArgs bitOffset bitSize value _
  | getInt bitOffset bitSize signed => exact bitBool_boolArgs bitOffset bitSize signed _
  | add policy bitOffset bitSize value signed action =>
    exact bitAdd_addArgs bitOffset bitSize value signed action _
  | subtract policy bitOffset bitSize value signed action =>
    exact bitAdd_addArgs bitOffset bitSize value signed action _

/-- **Main theorem.** What the daemon makes of the message of a constructor. -/
theorem toCdtBitwiseOp_build (binName : String) (ctx : Option (List CDTContext))
    (call : BitwiseCall) :
    toCdtBitwiseOp (some (call.build binName ctx)) =
      .ok (some ⟨binName, call.sent, CDTContext.pathToAero ctx⟩) := by
  obtain ⟨hbin, hctx⟩ := bitBuild_fields binName ctx call
  rw [toCdtBitwiseOp, bitCommand_build, hbin, hctx]
  exact bind_toCDTContexts (.ok call.sent) ctx fun command ctx =>
    some (⟨binName, command, ctx⟩ : Aero.BitOp)

/-! ## Faithful operations -/

/-- The daemon makes of the message the operation of the same name on the same bin,
    with the arguments, the policy and the context path of the call. -/
def BitFaithful (binName : String) (ctx : Option (List CDTContext)) (call : BitwiseCall) : Prop :=
  toCdtBitwiseOp (some (call.build binName ctx)) =
    .ok (some ⟨binName, call.documented, CDTContext.pathToAero ctx⟩)

/-- The overflow action of a call; only `add` and `subtract` have one. -/
def BitwiseCall.overflowAction : BitwiseCall → Option BitOverflowAction
  | add _ _ _ _ _ action | subtract _ _ _ _ _ action => some action
  | _ => none

theorem BitOverflowAction.number_eq_zero (action : BitOverflowAction) :
    action.number = 0 ↔ action = .fail := by
  cases action with
  | fail => exact iff_of_true rfl rfl
  | saturate => exact iff_of_false (by decide) (by decide)
  | wrap => exact iff_of_false (by decide) (by decide)

/-- The zero that is sent in place of the action is the number of `fail`. -/
theorem BitwiseCall.sent_eq_documented_iff (call : BitwiseCall) :
    call.sent = call.documented ↔
      ∀ action, call.overflowAction = some action → action = .fail := by
  cases call with
  | add policy bitOffset bitSize value signed action =>
    simp only [sent, documented, overflowAction, Aero.BitCommand.add.injEq, true_and,
      Option.some.injEq, forall_eq']
    rw [eq_comm, action.number_eq_zero]
  | subtract policy bitOffset bitSize value signed action =>
    simp only [sent, documented, overflowAction, Aero.BitCommand.subtract.injEq, true_and,
      Option.some.injEq, forall_eq']
    rw [eq_comm, action.number_eq_zero]
  | _ => exact iff_of_true rfl nofun

/-- **Main theorem.** The translation of a bitwise operation is faithful iff its overflow
    action, if it has one, is `fail`. -/
theorem bitFaithful_iff (binName : String) (ctx : Option (List CDTContext))
    (call : BitwiseCall) :
    BitFaithful binName ctx call ↔
      ∀ action, call.overflowAction = some action → action = .fail := by
  rw [BitFaithful, toCdtBitwiseOp_build, ← call.sent_eq_documented_iff]
  simp only [Except.ok.injEq, Option.some.injEq, Aero.BitOp.mk.injEq, true_and, and_true]

/-- A saturating addition: the daemon asks for one that fails on overflow. -/
theorem saturating_add_fails :
    toCdtBitwiseOp (some (BitwiseOp.add ⟨0⟩ "b" none 0 8 200 false .saturate)) =
        .ok (some ⟨"b", .add (.new 0) 0 8 200 false 0, []⟩) ∧
      ¬ BitFaithful "b" none (.add ⟨0⟩ 0 8 200 false .saturate) := by
  refine ⟨rfl, ?_⟩
  intro h
  have hcommand : Aero.BitCommand.add (.new 0) 0 8 200 false 0 = .add (.new 0) 0 8 200 false 2 :=
    congrArg Aero.BitOp.command (Option.some.inj (Except.ok.inj h))
  revert hcommand
  decide

end AerospikePhp
