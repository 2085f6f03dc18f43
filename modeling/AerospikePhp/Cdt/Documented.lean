import AerospikePhp.Cdt.ReturnType
import AerospikePhp.Cdt.Total

/-!
# The operations that a program gets

A call of a constructor documents an operation of the Go client, with its arguments and its
return type. What the daemon makes of the message of the call is another operation for some
constructors of `MapOp` and `ListOp`, for inverted return types of maps, and for the overflow
actions of `add` and `subtract`.

Main result:
* `translated_eq_documented_iff`: the operation that a message is translated to is the
  documented one iff the call is none of these.
-/

namespace AerospikePhp

namespace OperationCall

/-- The operation that a call documents, with the return type that it asks for; none where
    the function of the Go client does not take all the arguments. -/
def documented : OperationCall → Option Aero.Operation
  | std call => some (.std call.documented)
  | map binName ctx call => (call.documented mapAsked).map fun command =>
    .map ⟨binName, command, CDTContext.pathToAero ctx⟩
  | list binName ctx call =>
    some (.list ⟨binName, call.documented listAsked, CDTContext.pathToAero ctx⟩)
  | bitwise binName ctx call =>
    some (.bit ⟨binName, call.documented, CDTContext.pathToAero ctx⟩)
  | hll binName call => call.documented.map fun command => .hll ⟨binName, command⟩

/-- The constructor sends what it documents, its return type is not an inverted one of a
    map, and its overflow action, if it has one, is `fail`. -/
def kept : OperationCall → Bool
  | std _ => true
  | map _ _ call => call.sentAsDocumented && !(CollectionCall.map call).mapInverted
  | list _ _ call => call.sentAsDocumented
  | bitwise _ _ call => call.overflowAction.all fun action => decide (action = .fail)
  | hll _ _ => true

end OperationCall

/-! ## Operations on maps and lists -/

theorem MapCall.documented_eq_iff {call : MapCall} (h : call.sentAsDocumented = true)
    {ret ret' : Option MapReturnType → Int32} :
    call.documented ret = call.documented ret' ↔
      ∀ rt, call.returnType? = some rt → ret rt = ret' rt := by
  cases call with
  | size | removeByValueRelativeRankRangeCount | getByIndexRange | getByIndexRangeCount
  | getByRankRange | getByRankRangeCount => cases h
  | create | setPolicy | put | increment | decrement | clear => exact iff_of_true rfl nofun
  | _ => simp [documented, returnType?]

/-- None of the six constructors that send something else sends what it documents. -/
theorem MapCall.documented_ne_of_sent {call : MapCall} (h : call.sentAsDocumented = false)
    {command : Aero.MapCommand} (hsent : call.sent = .ok command)
    (ret : Option MapReturnType → Int32) : call.documented ret ≠ some command := by
  cases call with
  | size | removeByValueRelativeRankRangeCount | getByIndexRange | getByIndexRangeCount
  | getByRankRange | getByRankRangeCount =>
    cases hsent
    rintro ⟨⟩
  | _ => cases h

theorem MapCall.sent_eq_documented_iff {call : MapCall} {command : Aero.MapCommand}
    (hsent : call.sent = .ok command) :
    call.documented mapAsked = some command ↔
      call.sentAsDocumented = true ∧ (CollectionCall.map call).mapInverted = false := by
  cases hcall : call.sentAsDocumented with
  | false =>
    refine iff_of_false (documented_ne_of_sent hcall hsent mapAsked) ?_
    rintro ⟨⟨⟩, -⟩
  | true =>
    rw [← documented_of_sent hcall hsent, eq_comm, documented_eq_iff hcall, and_iff_right rfl,
      CollectionCall.mapInverted]
    cases hrt : call.returnType? with
    | none =>
      refine iff_of_true ?_ rfl
      intro rt hsome
      cases hsome
    | some rt =>
      simp only [Option.some.injEq, forall_eq']
      exact sentReturn_map rt

theorem ListCall.sent_eq_documented_iff {call : ListCall} {command : Aero.ListCommand}
    (hsent : call.sent = .ok command) :
    call.documented listAsked = command ↔ call.sentAsDocumented = true := by
  have hasked : ListCall.sentReturn = listAsked := funext sentReturn_list
  rw [← hasked]
  constructor
  · intro hdoc
    by_contra hcall
    cases call with
    | removeByValueRange begin stop rt =>
      simp only [sent] at hsent
      split at hsent
      · cases hsent
        rw [documented, Aero.ListCommand.remove.injEq] at hdoc
        exact Aero.Selector.values_ne_valueRange _ _ _ hdoc.1.symm
      · cases hsent
    | _ => exact hcall rfl
  · intro hcall
    exact (sent_of_sentAsDocumented hcall hsent).symm

/-! ## All operations -/

/-- **Main theorem.** The operation that the message of a call is translated to is the one
    that the call documents iff the call is kept. -/
theorem translated_eq_documented_iff {call : OperationCall} {msg : Proto.Operation}
    (hbuild : call.build = some msg) {op : Aero.Operation} (h : toOp msg = .ok (some op)) :
    call.documented = some op ↔ call.kept = true := by
  have hsent : call.sent = .ok op := by
    rw [toOp_build hbuild, Fallible.map_some_eq_ok] at h
    exact h
  cases call with
  | std call =>
    cases hsent
    exact iff_of_true rfl rfl
  | map binName ctx call =>
    obtain ⟨command, hcommand, rfl⟩ := Fallible.map_eq_ok.1 hsent
    rw [OperationCall.documented, OperationCall.kept, Bool.and_eq_true, Bool.not_eq_true',
      ← MapCall.sent_eq_documented_iff hcommand]
    cases call.documented mapAsked with
    | none => exact iff_of_false nofun nofun
    | some command' => simp
  | list binName ctx call =>
    obtain ⟨command, hcommand, rfl⟩ := Fallible.map_eq_ok.1 hsent
    rw [OperationCall.documented, OperationCall.kept, ← ListCall.sent_eq_documented_iff hcommand]
    simp
  | bitwise binName ctx call =>
    cases hsent
    rw [OperationCall.documented, OperationCall.kept, Option.all_eq_true]
    simp only [Option.some.injEq, Aero.Operation.bit.injEq, Aero.BitOp.mk.injEq, true_and,
      and_true, decide_eq_true_eq]
    rw [eq_comm, BitwiseCall.sent_eq_documented_iff]
  | hll binName call =>
    simp only [OperationCall.sent] at hsent
    split at hsent
    · next command hdoc =>
      cases hsent
      refine iff_of_true ?_ rfl
      rw [OperationCall.documented, hdoc, Option.map_some]
    · cases hsent

/-! ## Lists of operations -/

/-- The operations of the Go client are those that the calls document, in order. -/
def AsDocumented (ops : List BuiltOperation) (aops : List (Option Aero.Operation)) : Prop :=
  List.Forall₂ (fun op aop => ∃ d, op.call.documented = some d ∧ aop = some d) ops aops

theorem toOps_eq_mapM (ops : List Proto.Operation) : toOps ops = ops.mapM toOp := by
  induction ops with
  | nil => rw [toOps, List.mapM_nil, Fallible.pure_eq_ok]
  | cons op ops ih => rw [toOps, ih, List.mapM_cons]

/-- The operations of a program that are translated are translated as documented iff each
    of their calls is kept. -/
theorem asDocumented_iff {ops : List BuiltOperation} {aops : List (Option Aero.Operation)}
    (h : toOps (ops.map BuiltOperation.msg) = .ok aops) :
    AsDocumented ops aops ↔ ∀ op ∈ ops, op.call.kept = true := by
  rw [toOps_eq_mapM, List.mapM_map, Fallible.mapM_eq_ok_iff] at h
  unfold AsDocumented
  induction h with
  | nil => simp
  | @cons op aop ops aops hop _ ih =>
    have hop : toOp op.msg = .ok aop := hop
    obtain ⟨aop', -, rfl⟩ := Fallible.map_eq_ok.1 ((toOp_built op).symm.trans hop)
    rw [List.forall₂_cons, ih, List.forall_mem_cons, ← translated_eq_documented_iff op.built hop]
    simp

end AerospikePhp
