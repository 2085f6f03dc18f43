import AerospikePhp.Cdt.BitFaithful
import AerospikePhp.Cdt.HllFaithful
import AerospikePhp.Cdt.ListFaithful
import AerospikePhp.Cdt.MapFaithful
import AerospikePhp.Cdt.Operation

/-!
# Which operations can be translated

Three constructors build messages that the daemon panics on:
* `MapOp::create` packs no argument, and the switch asks for one;
* `ListOp::get_by_value_range` without an end packs one argument of two;
* `ListOp::remove_by_value_range` packs a value where the switch asks for a list.

Main results:
* `toOp_built`: the translation of an operation is that of the call that built it.
* `translated_iff`: a list of operations is translated iff none of them comes from
  such a call.
-/

namespace AerospikePhp

/-! ## Lists of operations -/

/-- `toOps` panics on no operation, and returns an operation for each. -/
def Translated (ops : List Proto.Operation) : Prop :=
  ∃ res : List Aero.Operation, toOps ops = .ok (res.map some) ∧ res.length = ops.length

theorem translated_nil : Translated [] := ⟨[], rfl, rfl⟩

theorem translated_cons (op : Proto.Operation) (ops : List Proto.Operation) :
    Translated (op :: ops) ↔ (∃ res, toOp op = .ok (some res)) ∧ Translated ops := by
  constructor
  · rintro ⟨res, hres, hlen⟩
    rw [toOps] at hres
    obtain ⟨r, hop, hres⟩ := Fallible.bind_eq_ok.1 hres
    obtain ⟨rs, hops, hres⟩ := Fallible.bind_eq_ok.1 hres
    obtain _ | ⟨r', res⟩ := res
    · cases hres
    · simp only [Fallible.pure_eq_ok, Except.ok.injEq, List.map_cons, List.cons.injEq] at hres
      obtain ⟨rfl, rfl⟩ := hres
      exact ⟨⟨r', hop⟩, res, hops, by simpa using hlen⟩
  · rintro ⟨⟨r, hop⟩, res, hops, hlen⟩
    refine ⟨r :: res, ?_, by rw [List.length_cons, List.length_cons, hlen]⟩
    rw [toOps, hop, Fallible.ok_bind, hops, Fallible.ok_bind]
    rfl

/-- The operations of a list are translated one by one. -/
theorem translated_iff_forall (ops : List Proto.Operation) :
    Translated ops ↔ ∀ op ∈ ops, ∃ res, toOp op = .ok (some res) := by
  induction ops with
  | nil =>
    constructor
    · intro _ op hop
      cases hop
    · intro _
      exact translated_nil
  | cons op ops ih => rw [translated_cons, ih, List.forall_mem_cons]

/-! ## The translation of an operation -/

/-- The operation that a constructor of `Operation` documents. -/
def StdCall.documented : StdCall → Aero.StdOp
  | get (some binName) => .getBin binName
  | get none => .get
  | getHeader => .getHeader
  | put bin => .put bin.name bin.value.toAero
  | append bin => .append bin.name bin.value.toAero
  | prepend bin => .prepend bin.name bin.value.toAero
  | add bin => .add bin.name bin.value.toAero
  | touch => .touch
  | delete => .delete

theorem binOp_ofBin (opType : OperationType) (bin : Bin) (f : String → Aero.Value → Aero.StdOp) :
    binOp (Operation.ofBin opType bin) f = .ok (f bin.name bin.value.toAero) := by
  simp [binOp, Operation.ofBin]

theorem toStdOp_build (call : StdCall) : toStdOp (some call.build) = .ok call.documented := by
  cases call with
  | get binName =>
    cases binName with
    | none => rfl
    | some binName => rfl
  | put bin => exact binOp_ofBin .put bin _
  | append bin => exact binOp_ofBin .append bin _
  | prepend bin => exact binOp_ofBin .prepend bin _
  | add bin => exact binOp_ofBin .add bin _
  | getHeader => rfl
  | touch => rfl
  | delete => rfl

/-- What `toOp` makes of the message of a call. -/
def OperationCall.sent : OperationCall → Except Panic Aero.Operation
  | std call => .ok (.std call.documented)
  | map binName ctx call =>
    call.sent.map fun command => .map ⟨binName, command, CDTContext.pathToAero ctx⟩
  | list binName ctx call =>
    call.sent.map fun command => .list ⟨binName, command, CDTContext.pathToAero ctx⟩
  | bitwise binName ctx call => .ok (.bit ⟨binName, call.sent, CDTContext.pathToAero ctx⟩)
  | hll binName call =>
    match call.documented with
    | some command => .ok (.hll ⟨binName, command⟩)
    | none => .error .typeAssertion

theorem toOp_build {call : OperationCall} {msg : Proto.Operation} (h : call.build = some msg) :
    toOp msg = call.sent.map some := by
  cases call with
  | std call =>
    cases h
    rw [toOp, toStdOp_build]
    rfl
  | map binName ctx call =>
    obtain ⟨op, hop, rfl⟩ := Option.map_eq_some_iff.1 h
    rw [toOp, toCdtMapOp_build hop, OperationCall.sent]
    cases call.sent with
    | error p => rfl
    | ok command => rfl
  | list binName ctx call =>
    cases h
    rw [toOp, toCdtListOp_build, OperationCall.sent]
    cases call.sent with
    | error p => rfl
    | ok command => rfl
  | bitwise binName ctx call =>
    cases h
    rw [toOp, toCdtBitwiseOp_build]
    rfl
  | hll binName call =>
    obtain ⟨op, hop, rfl⟩ := Option.map_eq_some_iff.1 h
    obtain ⟨command, hdoc, htranslated⟩ := toCdtHLLOp_build hop
    simp only [toOp, htranslated, OperationCall.sent, hdoc]
    rfl

/-- The daemon makes of an operation what it makes of the call that built it. -/
theorem toOp_built (op : BuiltOperation) : toOp op.msg = op.call.sent.map some :=
  toOp_build op.built

/-! ## Calls that can be translated -/

/-- Not a `create`. -/
def MapCall.translatable : MapCall → Bool
  | create _ _ => false
  | _ => true

/-- Not a `get_by_value_range` without an end, nor a `remove_by_value_range` whose
    begin is not a list. -/
def ListCall.translatable : ListCall → Bool
  | getByValueRange _ none _ => false
  | removeByValueRange begin _ _ => begin.elements?.isSome
  | _ => true

def OperationCall.translatable : OperationCall → Bool
  | std _ => true
  | map _ _ call => call.translatable
  | list _ _ call => call.translatable
  | bitwise _ _ _ => true
  | hll _ _ => true

theorem mapSent_ok_iff {binName : String} {ctx : Option (List CDTContext)} {call : MapCall}
    {msg : Proto.CdtMapOperation} (h : call.build binName ctx = some msg) :
    (∃ command, call.sent = .ok command) ↔ call.translatable = true := by
  cases call with
  | create order withIndex =>
    constructor
    · rintro ⟨command, ⟨⟩⟩
    · rintro ⟨⟩
  | put policy map =>
    obtain ⟨entries, hmap, -⟩ := put_eq_some h
    have hsent : (MapCall.put policy map).sent =
        .ok (.putItems policy.toAero (PHPValue.hashMapToAero entries)) := by
      simp only [MapCall.sent, MapCall.documented, Arg.toAero_hashMap hmap]
    exact iff_of_true ⟨_, hsent⟩ rfl
  | _ => exact iff_of_true ⟨_, rfl⟩ rfl

theorem listSent_ok_iff (call : ListCall) :
    (∃ command, call.sent = .ok command) ↔ call.translatable = true := by
  cases call with
  | getByValueRange begin stop rt =>
    cases stop with
    | none =>
      constructor
      · rintro ⟨command, ⟨⟩⟩
      · rintro ⟨⟩
    | some stop => exact iff_of_true ⟨_, rfl⟩ rfl
  | removeByValueRange begin stop rt =>
    simp only [ListCall.sent, ListCall.translatable]
    cases begin.elements? with
    | none => simp
    | some values => simp
  | _ => exact iff_of_true ⟨_, rfl⟩ rfl

/-- One operation: a panic, or an operation of the Go client. -/
theorem toOp_built_ok_iff (op : BuiltOperation) :
    (∃ res, toOp op.msg = .ok (some res)) ↔ op.call.translatable = true := by
  rw [toOp_built]
  simp only [Fallible.map_some_eq_ok]
  rcases op with ⟨call, msg, built⟩
  cases call with
  | std call => exact iff_of_true ⟨_, rfl⟩ rfl
  | map binName ctx call =>
    obtain ⟨msg, hmsg, -⟩ := Option.map_eq_some_iff.1 built
    exact Fallible.exists_map_eq_ok.trans (mapSent_ok_iff hmsg)
  | list binName ctx call => exact Fallible.exists_map_eq_ok.trans (listSent_ok_iff call)
  | bitwise binName ctx call => exact iff_of_true ⟨_, rfl⟩ rfl
  | hll binName call =>
    obtain ⟨msg, hmsg, -⟩ := Option.map_eq_some_iff.1 built
    obtain ⟨command, hdoc, -⟩ := toCdtHLLOp_build hmsg
    exact iff_of_true ⟨.hll ⟨binName, command⟩, by simp only [OperationCall.sent, hdoc]⟩ rfl

/-- **Main theorem.** The operations of a list are translated iff none of them
    comes from a call that the daemon panics on. -/
theorem translated_iff (ops : List BuiltOperation) :
    Translated (ops.map BuiltOperation.msg) ↔ ∀ op ∈ ops, op.call.translatable = true := by
  rw [translated_iff_forall, List.forall_mem_map]
  constructor
  · intro h op hop
    exact (toOp_built_ok_iff op).1 (h op hop)
  · intro h op hop
    exact (toOp_built_ok_iff op).2 (h op hop)

/-- The creation of a map: an argument is out of range. -/
theorem create_panics :
    (OperationCall.map "m" none (.create .keyOrdered none)).build =
        some (.map (MapOp.create "m" none .keyOrdered none)) ∧
      toOps [.map (MapOp.create "m" none .keyOrdered none)] = .error .indexOutOfRange ∧
      ¬ Translated [.map (MapOp.create "m" none .keyOrdered none)] := by
  refine ⟨rfl, rfl, ?_⟩
  rintro ⟨res, hres, -⟩
  cases hres

end AerospikePhp
