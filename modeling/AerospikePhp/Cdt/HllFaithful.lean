import AerospikePhp.Cdt.HllOp

/-!
# HyperLogLog operations: what is let through is sent faithfully

`assert_hll_list` of the extension lets a list through iff it holds HLL objects
only, and on such a list the type assertion of the daemon's `toListOfHLLValues`
does not fail. The two are connected by `hllObjects`, the byte strings of a list of
HLL objects.

Main results:
* `assertHllList_eq`, `hllValuesAt_list`: the check and the assertion, by `hllObjects`.
* `hllFaithful`: a constructor throws and builds nothing, or its message translates
  to the operation it documents.
-/

namespace AerospikePhp

/-! ## Lists of HLL objects -/

/-- The bytes of an HLL object. -/
def PHPValue.hll? : PHPValue → Option (List UInt8)
  | .hll b => some b
  | _ => none

theorem PHPValue.hll?_eq_some {v : PHPValue} {b : List UInt8} : v.hll? = some b ↔ v = .hll b := by
  cases v with
  | hll b' => simp [hll?]
  | _ => simp [hll?]

/-- The bytes of the objects of a list, in its order; `none` if another value is
    among them. -/
def hllObjects : List PHPValue → Option (List (List UInt8))
  | [] => some []
  | v :: vs => do return (← v.hll?) :: (← hllObjects vs)

theorem hllObjects_eq_some {vs : List PHPValue} {bs : List (List UInt8)} :
    hllObjects vs = some bs ↔ vs = bs.map PHPValue.hll := by
  induction vs generalizing bs with
  | nil => cases bs <;> simp [hllObjects]
  | cons v vs ih =>
    constructor
    · intro h
      rw [hllObjects] at h
      obtain ⟨b, hb, h⟩ := Option.bind_eq_some_iff.1 h
      obtain ⟨bs', hbs, h⟩ := Option.bind_eq_some_iff.1 h
      obtain rfl : b :: bs' = bs := Option.some.inj h
      rw [List.map_cons, ← PHPValue.hll?_eq_some.1 hb, ← ih.1 hbs]
    · intro h
      cases bs with
      | nil => simp at h
      | cons b bs =>
        rw [List.map_cons, List.cons.injEq] at h
        obtain ⟨rfl, hvs⟩ := h
        rw [hllObjects, ih.2 hvs]
        rfl

/-- There are no bytes iff something else is in the list. -/
theorem hllObjects_eq_none {vs : List PHPValue} :
    hllObjects vs = none ↔ ∃ v ∈ vs, v.hll? = none := by
  induction vs with
  | nil => simp [hllObjects]
  | cons v vs ih =>
    rw [hllObjects]
    cases hv : v.hll? with
    | none => simp [hv]
    | some b =>
      cases hvs : hllObjects vs with
      | none => simpa [hv] using ih.1 hvs
      | some bs =>
        have hall : ¬ ∃ v ∈ vs, v.hll? = none := by
          rw [← ih, hvs]
          nofun
        simpa [hv] using hall

/-- The check of the extension. -/
theorem assertHllList_eq (vs : List PHPValue) :
    assertHllList vs = match hllObjects vs with
      | some _ => (none, true)
      | none => (some (.new "Invalid type"), false) := by
  induction vs with
  | nil => rfl
  | cons v vs ih =>
    cases v with
    | hll b =>
      rw [assertHllList, ih, hllObjects]
      cases hllObjects vs with
      | none => rfl
      | some bs => rfl
    | _ => rfl

/-- The assertion of the daemon holds on every element of a list that was let
    through. -/
theorem mapM_toHLLValue (bs : List (List UInt8)) :
    (PHPValue.listToProto (bs.map PHPValue.hll)).mapM toHLLValue = .ok bs := by
  have h : ∀ b ∈ bs, (toHLLValue ∘ PHPValue.toProto ∘ PHPValue.hll) b = .ok (id b) := by
    intro b _
    show toHLLValue (PHPValue.hll b).toProto = .ok b
    rw [toHLLValue, PHPValue.toProto, toValueV]
    rfl
  rw [PHPValue.listToProto_eq_map, List.map_map, List.mapM_map,
    Fallible.mapM_ok _ id bs h, List.map_id]

theorem hllValuesAt_list {list : List Arg} {bs : List (List UInt8)}
    (h : hllObjects (list.map Arg.val) = some bs) (vs : List Proto.Value) :
    hllValuesAt ((Arg.list list).toProto :: vs) 0 = .ok bs := by
  rw [hllValuesAt, argAt_zero, Fallible.ok_bind, Arg.getL_list, Fallible.ok_bind,
    hllObjects_eq_some.1 h, mapM_toHLLValue]

/-! ## Faithful operations -/

/-- The policy of the Go client for a policy of the program. -/
def Proto.CdtHllPolicy.toAero (policy : Proto.CdtHllPolicy) : Aero.HllPolicy :=
  .new policy.flags.toInt64

@[simp] theorem toHLLPolicy_some (policy : Proto.CdtHllPolicy) :
    toHLLPolicy (some policy) = policy.toAero := rfl

namespace HllCall

/-- The list of a call that must hold HLL objects. -/
def hllList : HllCall → Option (List Arg)
  | setUnion _ list | getUnion list | getUnionCount list | getIntersectCount list
  | getSimilarity list => some list
  | _ => none

/-- A list that must hold HLL objects contains something else. -/
def Refused (call : HllCall) : Prop :=
  ∃ list, call.hllList = some list ∧ ∃ v ∈ list, v.val.hll? = none

/-- The operation that a constructor documents. -/
def documented : HllCall → Option Aero.HllCommand
  | init policy indexBitCount minHashBitCount =>
    some (.init policy.toAero indexBitCount minHashBitCount)
  | add policy list indexBitCount minHashBitCount =>
    some (.add policy.toAero (list.map Arg.toAero) indexBitCount minHashBitCount)
  | setUnion policy list => (hllObjects (list.map Arg.val)).map (.setUnion policy.toAero)
  | refreshCount => some .refreshCount
  | fold indexBitCount => some (.fold indexBitCount)
  | getCount => some .getCount
  | getUnion list => (hllObjects (list.map Arg.val)).map .getUnion
  | getUnionCount list => (hllObjects (list.map Arg.val)).map .getUnionCount
  | getIntersectCount list => (hllObjects (list.map Arg.val)).map .getIntersectCount
  | getSimilarity list => (hllObjects (list.map Arg.val)).map .getSimilarity
  | describe => some .describe

/-- The constructor throws, and builds no operation. -/
def Throws (binName : String) (call : HllCall) : Prop :=
  call.build binName = ⟨some (.new "Invalid type"), none⟩

/-- The constructor builds an operation, and the daemon makes of it the documented one,
    on the same bin. -/
def Faithful (binName : String) (call : HllCall) : Prop :=
  ∃ op command, call.build binName = ⟨none, some op⟩ ∧ call.documented = some command ∧
    toCdtHLLOp (some op) = .ok (some ⟨binName, command⟩)

end HllCall

section Checked

variable {binName : String} {call : HllCall} {list : List Arg} {op : Proto.CdtHllOperation}

theorem HllOp.checked_of_none (h : hllObjects (list.map Arg.val) = none) :
    HllOp.checked list op = ⟨some (.new "Invalid type"), none⟩ := by
  simp only [HllOp.checked, assertHllList_eq, h]

theorem HllOp.checked_of_some {bs : List (List UInt8)}
    (h : hllObjects (list.map Arg.val) = some bs) :
    HllOp.checked list op = ⟨none, some op⟩ := by
  simp only [HllOp.checked, assertHllList_eq, h]

theorem HllCall.refused_iff (hlist : call.hllList = some list) :
    call.Refused ↔ hllObjects (list.map Arg.val) = none := by
  rw [hllObjects_eq_none]
  simp [Refused, hlist]

/-- A constructor that checks its list, and sends nothing else. -/
theorem HllCall.outcome_of_checked {f : List (List UInt8) → Aero.HllCommand}
    (hlist : call.hllList = some list) (hbuild : call.build binName = HllOp.checked list op)
    (hdoc : call.documented = (hllObjects (list.map Arg.val)).map f)
    (hbin : op.binName = binName)
    (hop : hllCommand op = do return f (← hllValuesAt [(Arg.list list).toProto] 0)) :
    (call.Refused → call.Throws binName) ∧ (¬ call.Refused → call.Faithful binName) := by
  rw [refused_iff hlist]
  cases h : hllObjects (list.map Arg.val) with
  | none =>
    refine ⟨fun _ => ?_, fun hne => absurd rfl hne⟩
    rw [Throws, hbuild, HllOp.checked_of_none h]
  | some bs =>
    refine ⟨nofun, fun _ => ⟨op, f bs, ?_, ?_, ?_⟩⟩
    · rw [hbuild, HllOp.checked_of_some h]
    · rw [hdoc, h, Option.map_some]
    · rw [toCdtHLLOp, hop, hllValuesAt_list h, hbin]
      rfl

/-- A constructor without such a list. -/
theorem HllCall.outcome_of_unchecked {command : Aero.HllCommand} (hlist : call.hllList = none)
    (hbuild : call.build binName = HllOp.unchecked op) (hdoc : call.documented = some command)
    (hbin : op.binName = binName) (hop : hllCommand op = .ok command) :
    (call.Refused → call.Throws binName) ∧ (¬ call.Refused → call.Faithful binName) := by
  constructor
  · rintro ⟨list, h, -⟩
    rw [hlist] at h
    cases h
  · intro _
    refine ⟨op, command, hbuild, hdoc, ?_⟩
    rw [toCdtHLLOp, hop, hbin]
    rfl

end Checked

/-- How a call of a constructor ends. -/
theorem HllCall.outcome (binName : String) (call : HllCall) :
    (call.Refused → call.Throws binName) ∧ (¬ call.Refused → call.Faithful binName) := by
  cases call with
  | init policy indexBitCount minHashBitCount =>
    refine HllCall.outcome_of_unchecked rfl rfl rfl rfl ?_
    simp [hllCommand, HllOp.modify]
  | add policy list indexBitCount minHashBitCount =>
    refine HllCall.outcome_of_unchecked rfl rfl rfl rfl ?_
    simp [hllCommand, HllOp.modify]
  | fold indexBitCount =>
    refine HllCall.outcome_of_unchecked rfl rfl rfl rfl ?_
    simp [hllCommand, HllOp.read]
  | refreshCount => exact HllCall.outcome_of_unchecked rfl rfl rfl rfl rfl
  | getCount => exact HllCall.outcome_of_unchecked rfl rfl rfl rfl rfl
  | describe => exact HllCall.outcome_of_unchecked rfl rfl rfl rfl rfl
  | setUnion policy list => exact HllCall.outcome_of_checked rfl rfl rfl rfl rfl
  | getUnion list => exact HllCall.outcome_of_checked rfl rfl rfl rfl rfl
  | getUnionCount list => exact HllCall.outcome_of_checked rfl rfl rfl rfl rfl
  | getIntersectCount list => exact HllCall.outcome_of_checked rfl rfl rfl rfl rfl
  | getSimilarity list => exact HllCall.outcome_of_checked rfl rfl rfl rfl rfl

/-- What the daemon makes of a message that a constructor returned. -/
theorem toCdtHLLOp_build {binName : String} {call : HllCall} {op : Proto.CdtHllOperation}
    (h : (call.build binName).operation = some op) :
    ∃ command, call.documented = some command ∧
      toCdtHLLOp (some op) = .ok (some ⟨binName, command⟩) := by
  obtain ⟨hthrows, hfaithful⟩ := call.outcome binName
  by_cases hrefused : call.Refused
  · have hbuild : call.build binName = _ := hthrows hrefused
    rw [hbuild] at h
    cases h
  · obtain ⟨op', command, hbuild, hdoc, htranslated⟩ := hfaithful hrefused
    rw [hbuild] at h
    cases h
    exact ⟨command, hdoc, htranslated⟩

/-- **Main theorem.** A constructor throws, and builds nothing, when a list that must
    hold HLL objects contains something else; otherwise the daemon makes of its message
    the documented operation. -/
theorem hllFaithful (binName : String) (call : HllCall) :
    call.Refused ∧ call.Throws binName ∨ ¬ call.Refused ∧ call.Faithful binName := by
  obtain ⟨hthrows, hfaithful⟩ := call.outcome binName
  by_cases hrefused : call.Refused
  · exact .inl ⟨hrefused, hthrows hrefused⟩
  · exact .inr ⟨hrefused, hfaithful hrefused⟩

end AerospikePhp
