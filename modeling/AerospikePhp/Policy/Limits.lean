import AerospikePhp.Policy.Registers
import Mathlib.Algebra.Order.Ring.Int

/-!
# Timeouts and limits

The message of a policy holds a duration as a number of milliseconds, and the daemon
multiplies it by `time.Millisecond` to a 64-bit number of nanoseconds. The timeouts of a
read are multiplied as 64-bit numbers, those of `toAdminPolicy` and `toInfoPolicy` as
32-bit ones, which wrap from 4295 milliseconds on. An `InfoPolicy` has no setter, and
its timeout of 3 seconds fits.

Results:
* `PolicyClass.keepsLimits_iff`: the Go policy holds every limit that a program sets,
  unless it sets the timeout of an `AdminPolicy` above 4294 milliseconds.
-/

namespace AerospikePhp

open Properties

/-! ## Amounts -/

/-- A 64-bit duration or count can be this number. -/
def Representable (n : ℤ) : Prop := -2 ^ 63 ≤ n ∧ n < 2 ^ 63

/-- The duration is that many milliseconds, if there is one. -/
def KeptMillis (ms : ℤ) (d : Int64) : Prop :=
  Representable (ms * millisecond) → d.toInt = ms * millisecond

/-- The count is this number, if there is one. -/
def KeptCount (n : ℤ) (c : Int64) : Prop := Representable n → c.toInt = n

theorem toInt_toInt64 {n : UInt64} (h : n.toNat < 2 ^ 63) : n.toInt64.toInt = n.toNat := by
  rw [← Int64.toInt_toBitVec, UInt64.toBitVec_toInt64, BitVec.toInt_eq_toNat_of_lt]
  · rw [UInt64.toNat_toBitVec]
  · rw [UInt64.toNat_toBitVec]
    omega

theorem toInt_of_uint32 (n : UInt32) : n.toUInt64.toInt64.toInt = n.toNat := by
  have hn := n.toNat_lt
  rw [toInt_toInt64, UInt32.toNat_toUInt64]
  rw [UInt32.toNat_toUInt64]
  omega

theorem keptCount_uint64 (n : UInt64) : KeptCount n.toNat n.toInt64 := by
  rintro ⟨-, h⟩
  exact toInt_toInt64 (by exact_mod_cast h)

theorem keptCount_uint32 (n : UInt32) : KeptCount n.toNat n.toUInt64.toInt64 :=
  fun _ => toInt_of_uint32 n

theorem keptCount_int32 (n : Int32) : KeptCount n.toInt n.toInt64 :=
  fun _ => Int32.toInt_toInt64 n

/-- A product of 64 bits holds every duration that there is. -/
theorem keptMillis_uint64 (n : UInt64) :
    KeptMillis n.toNat (n * UInt64.ofNat millisecond).toInt64 := by
  rintro ⟨-, h⟩
  have hn : n.toNat * millisecond < 2 ^ 63 := by exact_mod_cast h
  have hmul : (n * UInt64.ofNat millisecond).toNat = n.toNat * millisecond := by
    rw [UInt64.toNat_mul]
    exact Nat.mod_eq_of_lt (Nat.lt_trans hn (by decide))
  rw [toInt_toInt64 (hmul.symm ▸ hn), hmul]
  exact Int.natCast_mul ..

theorem keptMillis_int64 (n : Int64) : KeptMillis n.toInt (n * Int64.ofNat millisecond) := by
  rintro ⟨hlower, hupper⟩
  have hms : (Int64.ofNat millisecond).toInt = millisecond := rfl
  rw [Int64.toInt_mul, hms]
  exact Int.bmod_eq_of_le hlower hupper

/-- A product of 32 bits holds no duration above 4294 milliseconds. -/
theorem keptMillis_toDuration32 (n : UInt32) :
    KeptMillis n.toNat (toDuration32 n) ↔ n.toNat ≤ 4294 := by
  have hn := n.toNat_lt
  have hrange : Representable ((n.toNat : ℤ) * millisecond) := by
    unfold Representable millisecond
    omega
  have hmul : (n * UInt32.ofNat millisecond).toNat = n.toNat * millisecond % 2 ^ 32 :=
    UInt32.toNat_mul ..
  unfold KeptMillis toDuration32
  rw [toInt_of_uint32, hmul]
  unfold millisecond
  constructor
  · intro h
    have := h hrange
    omega
  · intro h _
    omega

/-! ## The daemon -/

section ToPolicy

variable {S : Aero.ValueString}

theorem deref_eq_ok {α : Type} {x : Option α} {a : α} : deref x = .ok a ↔ x = some a := by
  cases x with
  | none => simp [deref]
  | some b => simp [deref]

/-- The limits of a read in the policy of the Go client. -/
def ReadPolicy.Limit (go : Aero.BasePolicy) : ∀ a : ReadPolicy.Attr, a.Value → Prop
  | .totalTimeout, v => KeptMillis v.toNat go.totalTimeout
  | .socketTimeout, v => KeptMillis v.toNat go.socketTimeout
  | .sleepMultiplier, v => go.sleepMultiplier = v
  | .maxRetries, v => KeptCount v.toNat go.maxRetries
  | _, _ => True

theorem toReadPolicy_limit {p : Proto.ReadPolicy} {go : Aero.BasePolicy}
    (h : toReadPolicy S (some p) = .ok (some go)) {a : ReadPolicy.Attr} {v : a.Value}
    (hv : ReadPolicy.Carries p a v) : ReadPolicy.Limit go a v := by
  obtain ⟨e, -, h⟩ := Fallible.bind_eq_ok.1 h
  cases h
  cases a with
  | totalTimeout => exact hv ▸ keptMillis_uint64 p.totalTimeout
  | socketTimeout => exact hv ▸ keptMillis_uint64 p.socketTimeout
  | maxRetries => exact hv ▸ keptCount_uint32 p.maxRetries
  | sleepMultiplier => exact hv
  | _ => trivial

/-- The sleep between retries has no setter. -/
theorem toReadPolicy_sleep {p : Proto.ReadPolicy} {go : Aero.BasePolicy}
    (h : toReadPolicy S (some p) = .ok (some go)) :
    KeptMillis p.sleepBetweenRetries.toInt go.sleepBetweenRetries := by
  obtain ⟨e, -, h⟩ := Fallible.bind_eq_ok.1 h
  cases h
  exact keptMillis_int64 p.sleepBetweenRetries

theorem toWritePolicy_basePolicy {p : Proto.WritePolicy} {go : Aero.WritePolicy}
    (h : toWritePolicy S (some p) = .ok (some go)) :
    toReadPolicy S p.policy = .ok (some go.basePolicy) := by
  obtain ⟨base, hbase, h⟩ := Fallible.bind_eq_ok.1 h
  obtain ⟨b, hb, h⟩ := Fallible.bind_eq_ok.1 h
  cases h
  rw [hbase, deref_eq_ok.1 hb]

theorem toBatchPolicy_eq_ok {p : Proto.BatchPolicy} {go : Aero.BatchPolicy}
    (h : toBatchPolicy S (some p) = .ok (some go)) :
    toReadPolicy S p.policy = .ok (some go.basePolicy) ∧
      ∃ n, p.concurrentNodes = some n ∧ go.concurrentNodes = n.toInt64 := by
  obtain ⟨base, hbase, h⟩ := Fallible.bind_eq_ok.1 h
  obtain ⟨b, hb, h⟩ := Fallible.bind_eq_ok.1 h
  obtain ⟨n, hn, h⟩ := Fallible.bind_eq_ok.1 h
  cases h
  rw [hbase, deref_eq_ok.1 hb]
  exact ⟨rfl, n, deref_eq_ok.1 hn, rfl⟩

theorem toMultiPolicy_eq_ok {p : Proto.MultiPolicy} {go : Aero.MultiPolicy}
    (h : toMultiPolicy S (some p) = .ok (some go)) :
    toReadPolicy S p.readPolicy = .ok (some go.basePolicy) ∧
      go.maxRecords = p.maxRecords.toInt64 ∧
      go.maxConcurrentNodes = p.maxConcurrentNodes.toUInt64.toInt64 ∧
      go.recordQueueSize = p.recordQueueSize.toUInt64.toInt64 := by
  obtain ⟨base, hbase, h⟩ := Fallible.bind_eq_ok.1 h
  obtain ⟨b, hb, h⟩ := Fallible.bind_eq_ok.1 h
  cases h
  rw [hbase, deref_eq_ok.1 hb]
  exact ⟨rfl, rfl, rfl, rfl⟩

theorem toQueryPolicy_multiPolicy {p : Proto.QueryPolicy} {q : Proto.MultiPolicy}
    {go : Aero.QueryPolicy} (hq : p.multiPolicy = some q)
    (h : toQueryPolicy S (some p) = .ok (some go)) :
    toMultiPolicy S (some q) = .ok (some go.multiPolicy) := by
  obtain ⟨mp, d⟩ := p
  subst hq
  obtain ⟨multi, hmulti, h⟩ := Fallible.bind_eq_ok.1 h
  obtain ⟨b, hb, h⟩ := Fallible.bind_eq_ok.1 h
  cases h
  rw [hmulti, deref_eq_ok.1 hb]

theorem toScanPolicy_multiPolicy {p : Proto.ScanPolicy} {q : Proto.MultiPolicy}
    {go : Aero.ScanPolicy} (hq : p.multiPolicy = some q)
    (h : toScanPolicy S (some p) = .ok (some go)) :
    toMultiPolicy S (some q) = .ok (some go.multiPolicy) := by
  obtain ⟨mp⟩ := p
  subst hq
  obtain ⟨multi, hmulti, h⟩ := Fallible.bind_eq_ok.1 h
  obtain ⟨b, hb, h⟩ := Fallible.bind_eq_ok.1 h
  cases h
  rw [hmulti, deref_eq_ok.1 hb]

/-- The limits of a query or of a scan. -/
def MultiPolicy.Limit (go : Aero.MultiPolicy) :
    ∀ i : MultiPolicy.Property, MultiPolicy.Value i → Prop
  | .inl .maxConcurrentNodes, v => KeptCount v.toNat go.maxConcurrentNodes
  | .inl .recordQueueSize, v => KeptCount v.toNat go.recordQueueSize
  | .inr a, v => ReadPolicy.Limit go.basePolicy a v

theorem toMultiPolicy_limit {p : Proto.MultiPolicy} {go : Aero.MultiPolicy}
    (h : toMultiPolicy S (some p) = .ok (some go)) {i : MultiPolicy.Property}
    {v : MultiPolicy.Value i} (hv : MultiPolicy.Carries p i v) : MultiPolicy.Limit go i v := by
  obtain ⟨hbase, -, hnodes, hqueue⟩ := toMultiPolicy_eq_ok h
  cases i with
  | inl i =>
    cases i with
    | maxConcurrentNodes =>
      have hkept := keptCount_uint32 p.maxConcurrentNodes
      rw [← hnodes] at hkept
      exact hv ▸ hkept
    | recordQueueSize =>
      have hkept := keptCount_uint32 p.recordQueueSize
      rw [← hqueue] at hkept
      exact hv ▸ hkept
  | inr a =>
    obtain ⟨q, hq, hv⟩ := hv
    rw [hq] at hbase
    exact toReadPolicy_limit hbase hv

end ToPolicy

/-! ## Classes -/

/-- What the daemon makes of the policies of a class, and the limits in it. -/
structure GoPolicy (m : PolicyModel) where
  Policy : Type
  toPolicy : Aero.ValueString → Option m.Message → Except Panic (Option Policy)
  /-- The policy holds the value of a property that is a limit. -/
  Limit : Policy → ∀ i, m.Value i → Prop
  /-- The policy holds the limits of the message that have no setter. -/
  Unset : m.Message → Policy → Prop

/-- The functions of `kvs.go` for each class. -/
def PolicyClass.go : ∀ c : PolicyClass, GoPolicy c.model
  | .read =>
    { Policy := Aero.BasePolicy
      toPolicy := toReadPolicy
      Limit := fun go i v => match i, v with
        | .inl a, v => ReadPolicy.Limit go a v
        | .inr (), _ => True
      Unset := fun p go => KeptMillis p.sleepBetweenRetries.toInt go.sleepBetweenRetries }
  | .write =>
    { Policy := Aero.WritePolicy
      toPolicy := toWritePolicy
      Limit := fun go i v => match i, v with
        | .inl _, _ => True
        | .inr a, v => ReadPolicy.Limit go.basePolicy a v
      Unset := fun p go => ∀ q, p.policy = some q →
        KeptMillis q.sleepBetweenRetries.toInt go.basePolicy.sleepBetweenRetries }
  | .query =>
    { Policy := Aero.QueryPolicy
      toPolicy := toQueryPolicy
      Limit := fun go i v => match i, v with
        | .inl (), _ => True
        | .inr i, v => MultiPolicy.Limit go.multiPolicy i v
      Unset := fun p go => ∀ q r, p.multiPolicy = some q → q.readPolicy = some r →
        KeptMillis r.sleepBetweenRetries.toInt go.multiPolicy.basePolicy.sleepBetweenRetries }
  | .scan =>
    { Policy := Aero.ScanPolicy
      toPolicy := toScanPolicy
      Limit := fun go i v => match i, v with
        | .inl (), v => KeptCount v.toNat go.multiPolicy.maxRecords
        | .inr i, v => MultiPolicy.Limit go.multiPolicy i v
      Unset := fun p go => ∀ q r, p.multiPolicy = some q → q.readPolicy = some r →
        KeptMillis r.sleepBetweenRetries.toInt go.multiPolicy.basePolicy.sleepBetweenRetries }
  | .batch =>
    { Policy := Aero.BatchPolicy
      toPolicy := toBatchPolicy
      Limit := fun go i v => match i, v with
        | .inl .concurrentNodes, v => KeptCount v.toInt go.concurrentNodes
        | .inl _, _ => True
        | .inr a, v => ReadPolicy.Limit go.basePolicy a v
      Unset := fun p go => ∀ q, p.policy = some q →
        KeptMillis q.sleepBetweenRetries.toInt go.basePolicy.sleepBetweenRetries }
  | .batchRead =>
    { Policy := Aero.BatchReadPolicy
      toPolicy := toBatchReadPolicy
      Limit := fun _ _ _ => True
      Unset := fun _ _ => True }
  | .batchWrite =>
    { Policy := Aero.BatchWritePolicy
      toPolicy := toBatchWritePolicy
      Limit := fun _ _ _ => True
      Unset := fun _ _ => True }
  | .batchDelete =>
    { Policy := Aero.BatchDeletePolicy
      toPolicy := toBatchDeletePolicy
      Limit := fun _ _ _ => True
      Unset := fun _ _ => True }
  | .batchUdf =>
    { Policy := Aero.BatchUdfPolicy
      toPolicy := toBatchUdfPolicy
      Limit := fun _ _ _ => True
      Unset := fun _ _ => True }
  | .admin =>
    { Policy := Aero.AdminPolicy
      toPolicy := fun _ p => .ok (toAdminPolicy p)
      Limit := fun go _ v => KeptMillis v.toNat go.timeout
      Unset := fun _ _ => True }
  | .info =>
    { Policy := Aero.InfoPolicy
      toPolicy := fun _ p => .ok (toInfoPolicy p)
      Limit := fun _ i _ => i.elim
      Unset := fun p go => KeptMillis p.timeout.toNat go.timeout }

/-- After the calls, the policy that the daemon makes of the message holds the value of
    every limit: the last one set, or the first one. -/
def PolicyClass.KeepsLimits (S : Aero.ValueString) (c : PolicyClass) (calls : c.Calls) : Prop :=
  ∀ m policy, writeAll c.model.accessor c.model.fresh calls = .ok m →
    c.go.toPolicy S (some m) = .ok (some policy) →
    (∀ i v, expected c.model.accessor c.model.fresh calls i = .ok v → c.go.Limit policy i v) ∧
    c.go.Unset m policy

/-- The timeout of an administration command is at most 4294 milliseconds. -/
def PolicyClass.FitsIn32Bits : (c : PolicyClass) → c.Calls → Prop
  | .admin, calls => ((lastValue calls ()).getD (3000 : UInt32)).toNat ≤ 4294
  | _, _ => True

section Classes

variable {S : Aero.ValueString}

theorem ReadPolicy.keepsLimits (calls : PolicyClass.read.Calls) :
    PolicyClass.read.KeepsLimits S calls := by
  intro m go hrun hgo
  refine ⟨?_, toReadPolicy_sleep hgo⟩
  intro i v hv
  have hcarries := registers.holds_expected hrun hv
  cases i with
  | inl a => exact toReadPolicy_limit hgo hcarries
  | inr _ => trivial

theorem WritePolicy.keepsLimits (calls : PolicyClass.write.Calls) :
    PolicyClass.write.KeepsLimits S calls := by
  intro m go hrun hgo
  have hbase := toWritePolicy_basePolicy hgo
  refine ⟨?_, fun q hq => toReadPolicy_sleep (hq ▸ hbase)⟩
  intro i v hv
  have hcarries := registers.holds_expected hrun hv
  cases i with
  | inl _ => trivial
  | inr a =>
    obtain ⟨q, hq, hcarries⟩ := hcarries
    exact toReadPolicy_limit (hq ▸ hbase) hcarries

theorem QueryPolicy.keepsLimits (calls : PolicyClass.query.Calls) :
    PolicyClass.query.KeepsLimits S calls := by
  intro m go hrun hgo
  constructor
  · intro i v hv
    have hcarries := registers.holds_expected hrun hv
    cases i with
    | inl _ => trivial
    | inr i =>
      obtain ⟨q, hq, hcarries⟩ := hcarries
      exact toMultiPolicy_limit (toQueryPolicy_multiPolicy hq hgo) hcarries
  · intro q r hq hr
    have hbase := (toMultiPolicy_eq_ok (toQueryPolicy_multiPolicy hq hgo)).1
    exact toReadPolicy_sleep (hr ▸ hbase)

theorem ScanPolicy.keepsLimits (calls : PolicyClass.scan.Calls) :
    PolicyClass.scan.KeepsLimits S calls := by
  intro m go hrun hgo
  constructor
  · intro i v hv
    obtain ⟨q, hq, hcarries⟩ := registers.holds_expected hrun hv
    have hmulti := toScanPolicy_multiPolicy hq hgo
    cases i with
    | inl _ =>
      have hkept := keptCount_uint64 q.maxRecords
      rw [← (toMultiPolicy_eq_ok hmulti).2.1] at hkept
      exact hcarries ▸ hkept
    | inr i => exact toMultiPolicy_limit hmulti hcarries
  · intro q r hq hr
    have hbase := (toMultiPolicy_eq_ok (toScanPolicy_multiPolicy hq hgo)).1
    exact toReadPolicy_sleep (hr ▸ hbase)

theorem BatchPolicy.keepsLimits (calls : PolicyClass.batch.Calls) :
    PolicyClass.batch.KeepsLimits S calls := by
  intro m go hrun hgo
  obtain ⟨hbase, n, hn, hnodes⟩ := toBatchPolicy_eq_ok hgo
  refine ⟨?_, fun q hq => toReadPolicy_sleep (hq ▸ hbase)⟩
  intro i v hv
  cases i with
  | inl i =>
    cases i with
    | concurrentNodes =>
      obtain ⟨w, hw, -, hcarries⟩ := own_eq_expected hrun (i := .concurrentNodes) (by decide)
        (by decide)
      rw [hv] at hw
      cases hw
      have hkept := keptCount_int32 n
      rw [← hnodes] at hkept
      cases hn.symm.trans hcarries
      exact hkept
    | _ => trivial
  | inr a =>
    obtain ⟨w, hw, -, q, hq, hcarries⟩ := attr_eq_expected hrun a
    rw [hv] at hw
    cases hw
    exact toReadPolicy_limit (hq ▸ hbase) hcarries

theorem AdminPolicy.timeout_kept_iff (calls : PolicyClass.admin.Calls) :
    PolicyClass.admin.KeepsLimits S calls ↔ PolicyClass.admin.FitsIn32Bits calls := by
  obtain ⟨m, hrun, -⟩ := registers.keeps.exists_writeAll registers.inv calls
  have hlast : m.timeout = (lastValue calls ()).getD (3000 : UInt32) :=
    registers.holds_getD (i := ()) hrun rfl
  have hexp : expected PolicyClass.admin.model.accessor AdminPolicy.default calls () =
      .ok m.timeout := hlast ▸ expected_eq_getD rfl
  have hfits : PolicyClass.admin.FitsIn32Bits calls ↔ m.timeout.toNat ≤ 4294 :=
    hlast ▸ Iff.rfl
  rw [hfits, ← keptMillis_toDuration32]
  constructor
  · intro h
    exact (h m ⟨toDuration32 m.timeout⟩ hrun rfl).1 () m.timeout hexp
  · intro h m' go hrun' hgo
    rw [hrun, Except.ok.injEq] at hrun'
    subst hrun'
    cases hgo
    refine ⟨?_, trivial⟩
    intro i v hv
    rw [hexp] at hv
    cases hv
    exact h

theorem InfoPolicy.keepsLimits (calls : PolicyClass.info.Calls) :
    PolicyClass.info.KeepsLimits S calls := by
  intro m go hrun hgo
  refine ⟨fun i => i.elim, ?_⟩
  cases calls with
  | nil =>
    cases hrun
    cases hgo
    exact (keptMillis_toDuration32 3000).2 (by decide)
  | cons call _ => exact call.1.elim

end Classes

/-- The daemon keeps the limits of every policy, except long timeouts of administration
    commands. -/
theorem PolicyClass.keepsLimits_iff (S : Aero.ValueString) (c : PolicyClass) (calls : c.Calls) :
    c.KeepsLimits S calls ↔ c.FitsIn32Bits calls := by
  cases c with
  | read => exact iff_of_true (ReadPolicy.keepsLimits calls) trivial
  | write => exact iff_of_true (WritePolicy.keepsLimits calls) trivial
  | query => exact iff_of_true (QueryPolicy.keepsLimits calls) trivial
  | scan => exact iff_of_true (ScanPolicy.keepsLimits calls) trivial
  | batch => exact iff_of_true (BatchPolicy.keepsLimits calls) trivial
  | admin => exact AdminPolicy.timeout_kept_iff calls
  | info => exact iff_of_true (InfoPolicy.keepsLimits calls) trivial
  | batchRead | batchWrite | batchDelete | batchUdf =>
    refine iff_of_true ?_ trivial
    intro m policy _ _
    exact ⟨fun _ _ _ => trivial, trivial⟩

/-- `set_timeout(5000)` gives a timeout of 705032704 nanoseconds. -/
theorem admin_timeout_wraps :
    ¬ PolicyClass.admin.KeepsLimits Aero.ValueString.strings [⟨(), (5000 : UInt32)⟩] := by
  intro h
  have hfits : 5000 ≤ 4294 := (AdminPolicy.timeout_kept_iff _).1 h
  omega

end AerospikePhp
