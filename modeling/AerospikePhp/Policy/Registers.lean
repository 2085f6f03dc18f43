import AerospikePhp.Policy.Accessors

/-!
# Policies as registers

After any sequence of calls of setters, a getter should return the value last given to
its own setter, and the message should carry it. Four things go wrong:

* `get_read_mode_sc` returns the mode of AP, in every class but `BatchPolicy`;
* `get_durable_delete` of `WritePolicy` returns `respond_per_each_op`;
* `set_allow_partial_results` of `BatchPolicy` sets `respond_all_keys`;
* three numbers of seconds are read as another expiration.

Results:
* `PolicyClass.independent_iff_unmixed`: the calls after which none of it shows.
-/

namespace AerospikePhp

open Properties

/-! ## Getters -/

theorem ReadModeSC.ofNumber_eq_ok {n : Int32} {v : ReadModeSC} :
    ReadModeSC.ofNumber n = .ok v ↔ v.number = n := by
  constructor
  · unfold ReadModeSC.ofNumber
    split <;> intro h <;> cases h <;> rfl
  · rintro rfl
    exact ReadModeSC.ofNumber_number v

/-- A getter of the mode of SC that reads the mode of AP. -/
theorem ReadModeSC.ofNumber_readModeAP {n : Int32} {ap : ReadModeAP} {sc : ReadModeSC}
    (h : n = ap.number) : ReadModeSC.ofNumber n = .ok sc ↔ sc.number = ap.number := by
  rw [ReadModeSC.ofNumber_eq_ok, h]

/-- A getter of an expiration. -/
theorem Expiration.get_eq_ok {n : UInt32} {e : Expiration} (h : n = e.toUInt32) :
    (.ok (Expiration.ofUInt32 n) : Except Panic Expiration) = .ok e ↔ e.Unreserved := by
  rw [h, Except.ok.injEq, Expiration.ofUInt32_toUInt32]

/-- The last modes given have the same number. -/
def SameMode (ap : Option ReadModeAP) (sc : Option ReadModeSC) : Prop :=
  (sc.getD .session).number = (ap.getD .one).number

/-- The last flags given are the same. -/
def SameFlag (respond delete : Option Bool) : Prop := delete.getD false = respond.getD false

/-- The last expiration given is not a reserved number of seconds. -/
def LastUnreserved (e : Option Expiration) : Prop := (e.getD .namespaceDefault).Unreserved

/-! ## ReadPolicy -/

namespace ReadPolicy

theorem attr_table : Table attr fun i p => Carries p i := by
  intro i p v
  cases i with
  | _ =>
    refine ⟨_, rfl, rfl, ?_⟩
    intro j hne w hw
    cases j with
    | _ => first | exact hw | exact absurd rfl hne

/-- Every getter reads its own place, except that of the mode of SC. -/
theorem attr_reads {a : Attr} (ha : a ≠ .readModeSC) : Reads attr a (Carries · a) := by
  intro p v hv
  cases a with
  | readModeAP => exact (congrArg ReadModeAP.ofNumber hv).trans (ReadModeAP.ofNumber_number v)
  | readModeSC => exact absurd rfl ha
  | _ => exact congrArg Except.ok hv

theorem readModeSC_get {p : Proto.ReadPolicy} {ap : ReadModeAP} {sc : ReadModeSC}
    (h : Carries p .readModeAP ap) :
    (attr .readModeSC).get p = .ok sc ↔ sc.number = ap.number :=
  ReadModeSC.ofNumber_readModeAP h

/-- The same of a policy that holds a policy of a read. -/
theorem readModeSC_get_inner {P : Type} {e : Panic} {s : Slot P Proto.ReadPolicy} {p : P}
    {ap : ReadModeAP} {sc : ReadModeSC} (h : s.Filled (Carries · .readModeAP ap) p) :
    ((attr .readModeSC).inner e s).get p = .ok sc ↔ sc.number = ap.number := by
  obtain ⟨q, hq, hap⟩ := h
  rw [Accessor.get_inner hq]
  exact readModeSC_get hap

theorem attr_fresh (p : Proto.ReadPolicy) (hap : p.readModeAP = 0) (hsc : p.readModeSC = 0)
    (a : Attr) : Fresh attr a (Carries · a) p := by
  cases a with
  | readModeAP => exact ⟨.one, congrArg ReadModeAP.ofNumber hap, hap⟩
  | readModeSC => exact ⟨.session, congrArg ReadModeSC.ofNumber hap, hsc⟩
  | _ => exact ⟨_, rfl, rfl⟩

theorem registers :
    Registers model.accessor (fun _ => True) (fun i p => model.Carries p i) model.fresh where
  keeps := attr_table.keeps.sum fun _ _ _ _ => ⟨_, rfl, trivial⟩
  inv := trivial
  register
    | .inl a => (attr_table.register a).inl (by
        intro _ p p' v w hset hv
        cases hset
        cases a with
        | _ => exact hv)
    | .inr () => (Register.single (by
        intro p p' v hset
        cases hset
        rfl)).inr (by
        intro a p p' v w hset hv
        cases a with
        | _ =>
          cases hset
          exact hv)
  fresh
    | .inl a => attr_fresh ReadPolicy.default rfl rfl a
    | .inr () => ⟨_, rfl, rfl⟩

theorem reads {i : model.Property} (h : i ≠ .inl .readModeSC) :
    Reads model.accessor i (model.Carries · i) := by
  cases i with
  | inl a => exact attr_reads fun heq => h (congrArg Sum.inl heq)
  | inr u =>
    intro p v hv
    exact congrArg Except.ok hv

theorem independent_iff (calls : PolicyClass.read.Calls) :
    PolicyClass.read.Independent calls ↔
      SameMode (lastValue calls (.inl .readModeAP)) (lastValue calls (.inl .readModeSC)) := by
  obtain ⟨p', hrun, -⟩ := registers.keeps.exists_writeAll registers.inv calls
  refine registers.independent_iff_of_getter hrun ?_ fun i hi => reads hi
  exact registers.getter_iff hrun (.inl .readModeSC) (.inl .readModeAP) ReadModeSC.session
    ReadModeAP.one rfl rfl readModeSC_get

end ReadPolicy

/-! ## WritePolicy -/

namespace WritePolicy

theorem own_keeps : Keeps own (readPolicy.Filled fun _ => True) := by
  rintro i p v hp
  cases i with
  | _ => exact ⟨_, rfl, hp⟩

theorem own_table : Table own fun i p => Carries p i := by
  intro i p v
  cases i with
  | _ =>
    refine ⟨_, rfl, rfl, ?_⟩
    intro j hne w hw
    cases j with
    | _ => first | exact hw | exact absurd rfl hne

/-- The setters of a write leave the message of the read as it was. -/
theorem own_filled {i : Own} {p p' : Proto.WritePolicy} {v : i.Value}
    {Holds : Proto.ReadPolicy → Prop} (hset : (own i).set p v = .ok p')
    (h : readPolicy.Filled Holds p) : readPolicy.Filled Holds p' := by
  cases i with
  | _ =>
    cases hset
    exact h

/-- The setters of a read change the message of the read alone. -/
theorem attr_carries {a : ReadPolicy.Attr} {p p' : Proto.WritePolicy} {w : a.Value} {i : Own}
    {v : i.Value} (hset : (attr a).set p w = .ok p') (h : Carries p i v) : Carries p' i v := by
  obtain rfl | ⟨q', rfl⟩ := Accessor.exists_put_of_set_inner hset
  · exact h
  · cases i with
    | _ => exact h

theorem own_reads {i : Own} (hexp : i ≠ .expiration) (hdelete : i ≠ .durableDelete) :
    Reads own i (Carries · i) := by
  intro p v hv
  cases i with
  | recordExistsAction =>
    exact (congrArg RecordExistsAction.ofNumber hv).trans (RecordExistsAction.ofNumber_number v)
  | generationPolicy =>
    exact (congrArg GenerationPolicy.ofNumber hv).trans (GenerationPolicy.ofNumber_number v)
  | commitLevel => exact (congrArg CommitLevel.ofNumber hv).trans (CommitLevel.ofNumber_number v)
  | expiration => exact absurd rfl hexp
  | durableDelete => exact absurd rfl hdelete
  | _ => exact congrArg Except.ok hv

theorem registers :
    Registers model.accessor (readPolicy.Filled fun _ => True)
      (fun i p => model.Carries p i) model.fresh where
  keeps := own_keeps.sum ReadPolicy.attr_table.keeps.inner
  inv := ⟨_, rfl, trivial⟩
  register
    | .inl i => (own_table.register i).inl fun hset hv => attr_carries hset hv
    | .inr a => (ReadPolicy.attr_table.register a).inner.inr fun hset hv => own_filled hset hv
  fresh
    | .inl i => by
      cases i with
      | _ => exact ⟨_, rfl, rfl⟩
    | .inr a =>
      have ⟨v, hget, hv⟩ := ReadPolicy.attr_fresh Proto.ReadPolicy.default rfl rfl a
      ⟨v, hget, _, rfl, hv⟩

section Getters

variable {calls : PolicyClass.write.Calls} {p' : Proto.WritePolicy}
  (hrun : writeAll model.accessor model.fresh calls = .ok p')
include hrun

theorem readModeSC_iff :
    (attr .readModeSC).get p' = expected model.accessor model.fresh calls (.inr .readModeSC) ↔
      SameMode (lastValue calls (.inr .readModeAP)) (lastValue calls (.inr .readModeSC)) := by
  exact registers.getter_iff hrun (.inr .readModeSC) (.inr .readModeAP) ReadModeSC.session
    ReadModeAP.one rfl ⟨_, rfl, rfl⟩
    fun hap => ReadPolicy.readModeSC_get_inner (e := .unwrapNone) (s := readPolicy) hap

theorem durableDelete_iff :
    durableDelete.get p' = expected model.accessor model.fresh calls (.inl .durableDelete) ↔
      SameFlag (lastValue calls (.inl .respondPerEachOp))
        (lastValue calls (.inl .durableDelete)) := by
  refine registers.getter_iff hrun (.inl .durableDelete) (.inl .respondPerEachOp) false false rfl
    rfl ?_
  intro hrespond
  constructor
  · intro h
    exact (Except.ok.inj h).symm.trans hrespond
  · intro h
    exact congrArg Except.ok (hrespond.trans h.symm)

theorem expiration_iff :
    expiration.get p' = expected model.accessor model.fresh calls (.inl .expiration) ↔
      LastUnreserved (lastValue calls (.inl .expiration)) := by
  exact registers.getter_iff hrun (.inl .expiration) (.inl .expiration)
    Expiration.namespaceDefault Expiration.namespaceDefault rfl rfl Expiration.get_eq_ok

end Getters

theorem independent_iff (calls : PolicyClass.write.Calls) :
    PolicyClass.write.Independent calls ↔
      SameMode (lastValue calls (.inr .readModeAP)) (lastValue calls (.inr .readModeSC)) ∧
      SameFlag (lastValue calls (.inl .respondPerEachOp))
        (lastValue calls (.inl .durableDelete)) ∧
      LastUnreserved (lastValue calls (.inl .expiration)) := by
  obtain ⟨p', hrun, -⟩ := registers.keeps.exists_writeAll registers.inv calls
  refine (registers.independent_iff hrun).trans ?_
  constructor
  · intro h
    exact ⟨(readModeSC_iff hrun).1 (h (.inr .readModeSC)),
      (durableDelete_iff hrun).1 (h (.inl .durableDelete)),
      (expiration_iff hrun).1 (h (.inl .expiration))⟩
  · rintro ⟨hmode, hflag, hexp⟩ i
    cases i with
    | inl i =>
      by_cases hi : i = .expiration
      · subst hi
        exact (expiration_iff hrun).2 hexp
      · by_cases hi' : i = .durableDelete
        · subst hi'
          exact (durableDelete_iff hrun).2 hflag
        · exact registers.get_eq_expected hrun (own_reads hi hi')
    | inr a =>
      by_cases ha : a = .readModeSC
      · subst ha
        exact (readModeSC_iff hrun).2 hmode
      · refine registers.get_eq_expected hrun ?_
        rintro p v ⟨q, hq, hv⟩
        exact (Accessor.get_inner hq).trans (ReadPolicy.attr_reads ha hv)

end WritePolicy

/-! ## QueryPolicy and ScanPolicy -/

namespace MultiPolicy

theorem own_keeps : Keeps own (readPolicy.Filled fun _ => True) := by
  rintro i p v hp
  cases i with
  | _ => exact ⟨_, rfl, hp⟩

theorem own_table : Table own fun i p => Carries p (.inl i) := by
  intro i p v
  cases i with
  | _ =>
    refine ⟨_, rfl, rfl, ?_⟩
    intro j hne w hw
    cases j with
    | _ => first | exact hw | exact absurd rfl hne

theorem accessor_keeps : Keeps accessor (readPolicy.Filled fun _ => True) :=
  own_keeps.sum ReadPolicy.attr_table.keeps.inner

theorem register (i : Property) :
    Register accessor (readPolicy.Filled fun _ => True) i (Carries · i) := by
  cases i with
  | inl i =>
    refine (own_table.register i).inl ?_
    intro a p p' v w hset hv
    obtain rfl | ⟨q', rfl⟩ := Accessor.exists_put_of_set_inner hset
    · exact hv
    · cases i with
      | _ => exact hv
  | inr a =>
    refine (ReadPolicy.attr_table.register a).inner.inr ?_
    intro i p p' v w hset hv
    cases i with
    | _ =>
      cases hset
      exact hv

/-- Every getter reads its own place, except that of the mode of SC. -/
theorem reads {i : Property} (h : i ≠ .inr .readModeSC) : Reads accessor i (Carries · i) := by
  cases i with
  | inl i =>
    intro p v hv
    cases i with
    | _ => exact congrArg Except.ok hv
  | inr a =>
    rintro p v ⟨q, hq, hv⟩
    have ha : a ≠ .readModeSC := fun heq => h (congrArg Sum.inr heq)
    exact (Accessor.get_inner hq).trans (ReadPolicy.attr_reads ha hv)

/-- The getter of the mode of SC, two levels down. -/
theorem readModeSC_get_unwrapped {P : Type} {e : Panic} {s : Slot P Proto.MultiPolicy} {p : P}
    {ap : ReadModeAP} {sc : ReadModeSC} (h : s.Filled (Carries · (.inr .readModeAP) ap) p) :
    ((accessor (.inr .readModeSC)).unwrapped e s).get p = .ok sc ↔ sc.number = ap.number := by
  obtain ⟨q, hq, hap⟩ := h
  rw [Accessor.get_unwrapped hq]
  exact ReadPolicy.readModeSC_get_inner hap

theorem fresh (i : Property) : Fresh accessor i (Carries · i) MultiPolicy.default := by
  cases i with
  | inl i =>
    cases i with
    | _ => exact ⟨_, rfl, rfl⟩
  | inr a =>
    obtain ⟨v, hget, hv⟩ :=
      ReadPolicy.attr_fresh { ReadPolicy.default with totalTimeout := 0 } rfl rfl a
    exact ⟨v, hget, _, rfl, hv⟩

end MultiPolicy

namespace QueryPolicy

/-- A query holds a multi policy that holds a policy of a read. -/
abbrev Filled := multiPolicy.Filled (MultiPolicy.readPolicy.Filled fun _ => True)

theorem registers :
    Registers model.accessor Filled (fun i p => model.Carries p i) model.fresh where
  keeps := Keeps.sum (fun _ _ _ hp => ⟨_, rfl, hp⟩) MultiPolicy.accessor_keeps.unwrapped
  inv := ⟨_, rfl, _, rfl, trivial⟩
  register
    | .inl () => (Register.single (by
        intro p p' v hset
        cases hset
        rfl)).inl (by
        intro i p p' v w hset hv
        obtain ⟨q, q', -, -, rfl⟩ := Accessor.set_unwrapped_eq_ok.1 hset
        exact hv)
    | .inr i => (MultiPolicy.register i).unwrapped.inr (by
        intro _ p p' v w hset hv
        cases hset
        exact hv)
  fresh
    | .inl () => ⟨.long, rfl, rfl⟩
    | .inr i =>
      have ⟨v, hget, hv⟩ := MultiPolicy.fresh i
      ⟨v, hget, _, rfl, hv⟩

theorem reads {i : model.Property} (h : i ≠ .inr (.inr .readModeSC)) :
    Reads model.accessor i (model.Carries · i) := by
  cases i with
  | inl u =>
    intro p v hv
    exact (congrArg QueryDuration.ofNumber hv).trans (QueryDuration.ofNumber_number v)
  | inr i =>
    rintro p v ⟨q, hq, hv⟩
    have hi : i ≠ .inr .readModeSC := fun heq => h (congrArg Sum.inr heq)
    exact (Accessor.get_unwrapped hq).trans (MultiPolicy.reads hi hv)

theorem independent_iff (calls : PolicyClass.query.Calls) :
    PolicyClass.query.Independent calls ↔
      SameMode (lastValue calls (.inr (.inr .readModeAP)))
        (lastValue calls (.inr (.inr .readModeSC))) := by
  obtain ⟨p', hrun, -⟩ := registers.keeps.exists_writeAll registers.inv calls
  refine registers.independent_iff_of_getter hrun ?_ fun i hi => reads hi
  exact registers.getter_iff hrun (.inr (.inr .readModeSC)) (.inr (.inr .readModeAP))
    ReadModeSC.session ReadModeAP.one rfl ⟨_, rfl, _, rfl, rfl⟩
    fun hap => MultiPolicy.readModeSC_get_unwrapped (e := .unwrapNone) (s := multiPolicy) hap

end QueryPolicy

namespace ScanPolicy

/-- A scan holds a multi policy that holds a policy of a read. -/
abbrev Filled := multiPolicy.Filled (MultiPolicy.readPolicy.Filled fun _ => True)

theorem inMulti_keeps : Keeps inMulti (MultiPolicy.readPolicy.Filled fun _ => True) :=
  Keeps.sum (fun _ _ _ hp => ⟨_, rfl, hp⟩) MultiPolicy.accessor_keeps

theorem inMulti_register (i : Property) :
    Register inMulti (MultiPolicy.readPolicy.Filled fun _ => True) i (CarriesInMulti · i) := by
  cases i with
  | inl u =>
    refine (Register.single ?_).inl ?_
    · intro p p' v hset
      cases hset
      rfl
    · intro i p p' v w hset hv
      cases i with
      | inl i =>
        cases i with
        | _ =>
          cases hset
          exact hv
      | inr a =>
        obtain rfl | ⟨q', rfl⟩ := Accessor.exists_put_of_set_inner hset
        · exact hv
        · exact hv
  | inr i =>
    refine (MultiPolicy.register i).inr ?_
    intro _ p p' v w hset hv
    cases hset
    cases i with
    | inl i =>
      cases i with
      | _ => exact hv
    | inr a => exact hv

theorem inMulti_reads {i : Property} (h : i ≠ .inr (.inr .readModeSC)) :
    Reads inMulti i (CarriesInMulti · i) := by
  cases i with
  | inl u =>
    intro p v hv
    exact congrArg Except.ok hv
  | inr i => exact MultiPolicy.reads fun heq => h (congrArg Sum.inr heq)

theorem registers :
    Registers model.accessor Filled (fun i p => model.Carries p i) model.fresh where
  keeps := inMulti_keeps.unwrapped
  inv := ⟨_, rfl, _, rfl, trivial⟩
  register i := (inMulti_register i).unwrapped
  fresh
    | .inl () => ⟨_, rfl, _, rfl, rfl⟩
    | .inr i =>
      have ⟨v, hget, hv⟩ := MultiPolicy.fresh i
      ⟨v, hget, _, rfl, hv⟩

theorem reads {i : model.Property} (h : i ≠ .inr (.inr .readModeSC)) :
    Reads model.accessor i (model.Carries · i) := by
  rintro p v ⟨q, hq, hv⟩
  exact (Accessor.get_unwrapped hq).trans (inMulti_reads h hv)

theorem independent_iff (calls : PolicyClass.scan.Calls) :
    PolicyClass.scan.Independent calls ↔
      SameMode (lastValue calls (.inr (.inr .readModeAP)))
        (lastValue calls (.inr (.inr .readModeSC))) := by
  obtain ⟨p', hrun, -⟩ := registers.keeps.exists_writeAll registers.inv calls
  refine registers.independent_iff_of_getter hrun ?_ fun i hi => reads hi
  exact registers.getter_iff hrun (.inr (.inr .readModeSC)) (.inr (.inr .readModeAP))
    ReadModeSC.session ReadModeAP.one rfl ⟨_, rfl, _, rfl, rfl⟩
    fun hap => MultiPolicy.readModeSC_get_unwrapped (e := .unwrapNone) (s := multiPolicy) hap

end ScanPolicy

/-! ## BatchPolicy -/

namespace BatchPolicy

/-- The flag that a call gives to `respond_all_keys`. -/
def respondAllKeysOf : Write model.Value → Option Bool
  | ⟨.inl .respondAllKeys, v⟩ => some v
  | ⟨.inl .allowPartialResults, v⟩ => some v
  | _ => none

/-- The last flag that `set_respond_all_keys` or `set_allow_partial_results` is given. -/
def lastRespondAllKeys (calls : PolicyClass.batch.Calls) : Option Bool :=
  lastOf respondAllKeysOf calls

/-- The message holds this flag. -/
def RespondsAllKeys (p : Proto.BatchPolicy) (b : Bool) : Prop := p.respondAllKeys = b

/-- The batch holds a policy of a read, and partial results are off. -/
def Inv (p : Proto.BatchPolicy) : Prop :=
  readPolicy.Filled (fun _ => True) p ∧ p.allowPartialResults = false

theorem inv_default : Inv BatchPolicy.default := ⟨⟨_, rfl, trivial⟩, rfl⟩

theorem readAttr_table : Table readAttr fun i p => ReadPolicy.Carries p i := by
  intro i p v
  cases i with
  | _ =>
    refine ⟨_, rfl, rfl, ?_⟩
    intro j hne w hw
    cases j with
    | _ => first | exact hw | exact absurd rfl hne

/-- Every getter of a read reads its own place. -/
theorem readAttr_reads (a : ReadPolicy.Attr) : Reads readAttr a (ReadPolicy.Carries · a) := by
  intro p v hv
  cases a with
  | readModeAP => exact (congrArg ReadModeAP.ofNumber hv).trans (ReadModeAP.ofNumber_number v)
  | readModeSC => exact (congrArg ReadModeSC.ofNumber hv).trans (ReadModeSC.ofNumber_number v)
  | _ => exact congrArg Except.ok hv

theorem own_keeps : Keeps own Inv := by
  rintro i p v hp
  cases i with
  | _ => exact ⟨_, rfl, hp⟩

/-- Each setter of a batch but two has a place of its own. -/
theorem own_register {i : Own} (hall : i ≠ .respondAllKeys) (hsome : i ≠ .allowPartialResults) :
    Register own Inv i (Carries · i) where
  set := by
    intro p p' v _ hset
    cases i with
    | respondAllKeys => exact absurd rfl hall
    | allowPartialResults => exact absurd rfl hsome
    | _ =>
      cases hset
      rfl
  other := by
    intro j p p' v w hne hset hv
    cases j with
    | _ =>
      cases hset
      cases i with
      | respondAllKeys => exact absurd rfl hall
      | allowPartialResults => exact absurd rfl hsome
      | _ => first | exact hv | exact absurd rfl hne

theorem own_reads (i : Own) : Reads own i (Carries · i) := by
  intro p v hv
  cases i with
  | concurrentNodes => exact congrArg (fun n => Except.ok (Option.getD n 1)) hv
  | _ => exact congrArg Except.ok hv

theorem own_filled {i : Own} {p p' : Proto.BatchPolicy} {v : i.Value}
    {Holds : Proto.ReadPolicy → Prop} (hset : (own i).set p v = .ok p')
    (h : readPolicy.Filled Holds p) : readPolicy.Filled Holds p' := by
  cases i with
  | _ =>
    cases hset
    exact h

theorem attr_keeps : Keeps attr Inv := by
  rintro a p v ⟨⟨q, hq, -⟩, hsome⟩
  obtain ⟨q', hset, -⟩ := readAttr_table.keeps a q v trivial
  exact ⟨_, (Accessor.set_inner_eq_ok hq).2 ⟨q', hset, rfl⟩, ⟨q', rfl, trivial⟩, hsome⟩

theorem attr_carries {a : ReadPolicy.Attr} {p p' : Proto.BatchPolicy} {w : a.Value} {i : Own}
    {v : i.Value} (hset : (attr a).set p w = .ok p') (h : Carries p i v) : Carries p' i v := by
  obtain rfl | ⟨q', rfl⟩ := Accessor.exists_put_of_set_inner hset
  · exact h
  · cases i with
    | _ => exact h

theorem keeps : Keeps model.accessor Inv := own_keeps.sum attr_keeps

theorem attr_register (a : ReadPolicy.Attr) :
    Register model.accessor Inv (.inr a) (model.Carries · (.inr a)) :=
  ((readAttr_table.register a).inner.mono And.left).inr fun hset hv => own_filled hset hv

section Run

variable {calls : PolicyClass.batch.Calls} {p' : Proto.BatchPolicy}
  (hrun : writeAll model.accessor model.fresh calls = .ok p')
include hrun

/-- `respond_all_keys` holds the last flag that either setter was given. -/
theorem respondAllKeys_last :
    RespondsAllKeys p' ((lastRespondAllKeys calls).getD true) := by
  refine keeps.holds_lastOf ?_ ?_ inv_default hrun rfl
  · rintro p p₁ ⟨i, v⟩ b _ hset hb
    cases i with
    | inl i =>
      cases i with
      | respondAllKeys | allowPartialResults =>
        cases hb
        cases hset
        rfl
      | _ => cases hb
    | inr a => cases hb
  · rintro p p₁ ⟨i, v⟩ b hset hb hv
    cases i with
    | inl i =>
      cases i with
      | respondAllKeys | allowPartialResults => cases hb
      | _ =>
        cases hset
        exact hv
    | inr a => exact attr_carries (i := .respondAllKeys) hset hv

/-- A property with a place of its own, which its getter reads. -/
theorem eq_expected {i : model.Property} {v₀ : model.Value i}
    (hreg : Register model.accessor Inv i (model.Carries · i))
    (hreads : Reads model.accessor i (model.Carries · i))
    (hv₀ : model.Carries model.fresh i v₀) :
    ∃ v, expected model.accessor model.fresh calls i = .ok v ∧
      (model.accessor i).get p' = .ok v ∧ model.Carries p' i v := by
  have hlast := hreg.last keeps inv_default hrun hv₀
  exact ⟨_, expected_eq_getD (hreads hv₀), hreads hlast, hlast⟩

theorem own_eq_expected {i : Own} (hall : i ≠ .respondAllKeys)
    (hsome : i ≠ .allowPartialResults) :
    ∃ v, expected model.accessor model.fresh calls (.inl i) = .ok v ∧
      (own i).get p' = .ok v ∧ model.Carries p' (.inl i) v := by
  have hfresh : ∃ v, Carries BatchPolicy.default i v := by
    cases i with
    | _ => exact ⟨_, rfl⟩
  obtain ⟨v₀, hv₀⟩ := hfresh
  refine eq_expected hrun ?_ (fun hv => own_reads i hv) hv₀
  exact (own_register hall hsome).inl fun hset hv => attr_carries hset hv

theorem attr_eq_expected (a : ReadPolicy.Attr) :
    ∃ v, expected model.accessor model.fresh calls (.inr a) = .ok v ∧
      (attr a).get p' = .ok v ∧ model.Carries p' (.inr a) v := by
  have hfresh : ∃ v, ReadPolicy.Carries ReadPolicy.default a v := by
    cases a with
    | readModeAP => exact ⟨.one, rfl⟩
    | readModeSC => exact ⟨.session, rfl⟩
    | _ => exact ⟨_, rfl⟩
  obtain ⟨v₀, hv₀⟩ := hfresh
  refine eq_expected hrun (attr_register a) ?_ ⟨_, rfl, hv₀⟩
  rintro p v ⟨q, hq, hv⟩
  exact (Accessor.get_inner hq).trans (readAttr_reads a hv)

end Run

theorem independent_iff (calls : PolicyClass.batch.Calls) :
    PolicyClass.batch.Independent calls ↔
      (lastRespondAllKeys calls).getD true =
        (lastValue calls (.inl .respondAllKeys)).getD true ∧
      (lastValue calls (.inl .allowPartialResults)).getD false = false := by
  obtain ⟨p', hrun, -, hsome⟩ := keeps.exists_writeAll inv_default calls
  have hrespond := respondAllKeys_last hrun
  have hexp : expected model.accessor model.fresh calls (.inl .respondAllKeys) =
      .ok ((lastValue calls (.inl .respondAllKeys)).getD true) := expected_eq_getD rfl
  have hexp' : expected model.accessor model.fresh calls (.inl .allowPartialResults) =
      .ok ((lastValue calls (.inl .allowPartialResults)).getD false) := expected_eq_getD rfl
  constructor
  · rintro ⟨p₁, h₁, hall⟩
    rw [hrun, Except.ok.injEq] at h₁
    subst h₁
    obtain ⟨v, hv, -, hcarries⟩ := hall (.inl .respondAllKeys)
    obtain ⟨w, hw, -, hcarries'⟩ := hall (.inl .allowPartialResults)
    rw [hexp] at hv
    rw [hexp'] at hw
    cases hv
    cases hw
    exact ⟨hrespond.symm.trans hcarries, hcarries'.symm.trans hsome⟩
  · rintro ⟨hlast, hoff⟩
    refine ⟨p', hrun, fun i => ?_⟩
    cases i with
    | inl i =>
      cases i with
      | respondAllKeys =>
        have hv := hrespond.trans hlast
        exact ⟨_, hexp, congrArg Except.ok hv, hv⟩
      | allowPartialResults =>
        have hv := hsome.trans hoff.symm
        exact ⟨_, hexp', congrArg Except.ok hv, hv⟩
      | concurrentNodes | allowInline | allowInlineSSD =>
        exact own_eq_expected hrun (by decide) (by decide)
    | inr a => exact attr_eq_expected hrun a

end BatchPolicy

/-! ## The policies of batch commands -/

namespace PolicyClass

/-- The policy of a batch command holds no other message. -/
def isCommand : PolicyClass → Bool
  | batchRead | batchWrite | batchDelete | batchUdf => true
  | _ => false

/-- Each property of such a policy has a field of its own. -/
theorem command_table {c : PolicyClass} (hc : c.isCommand = true) :
    Table c.model.accessor fun i p => c.model.Carries p i := by
  intro i p v
  cases c with
  | batchRead | batchWrite | batchDelete | batchUdf =>
    cases i with
    | _ =>
      refine ⟨_, rfl, rfl, ?_⟩
      intro j hne w hw
      cases j with
      | _ => first | exact hw | exact absurd rfl hne
  | _ => cases hc

theorem command_registers {c : PolicyClass} (hc : c.isCommand = true) :
    Registers c.model.accessor (fun _ => True) (fun i p => c.model.Carries p i) c.model.fresh := by
  refine (command_table hc).registers fun i => ?_
  cases c with
  | batchRead | batchWrite | batchDelete | batchUdf =>
    cases i with
    | _ => exact ⟨_, rfl, rfl⟩
  | _ => cases hc

end PolicyClass

namespace BatchReadPolicy

theorem registers :
    Registers accessor (fun _ => True) (fun i p => Carries p i) BatchReadPolicy.default :=
  PolicyClass.command_registers (c := .batchRead) rfl

theorem reads {i : Property} (h : i ≠ .readModeSC) : Reads accessor i (Carries · i) := by
  intro p v hv
  cases i with
  | readModeAP => exact (congrArg ReadModeAP.ofNumber hv).trans (ReadModeAP.ofNumber_number v)
  | readModeSC => exact absurd rfl h
  | _ => exact congrArg Except.ok hv

theorem independent_iff (calls : PolicyClass.batchRead.Calls) :
    PolicyClass.batchRead.Independent calls ↔
      SameMode (lastValue calls .readModeAP) (lastValue calls .readModeSC) := by
  obtain ⟨p', hrun, -⟩ := registers.keeps.exists_writeAll registers.inv calls
  refine registers.independent_iff_of_getter hrun ?_ fun i hi => reads hi
  exact registers.getter_iff hrun .readModeSC .readModeAP ReadModeSC.session ReadModeAP.one rfl
    rfl ReadModeSC.ofNumber_readModeAP

end BatchReadPolicy

namespace BatchWritePolicy

theorem registers :
    Registers accessor (fun _ => True) (fun i p => Carries p i) BatchWritePolicy.default :=
  PolicyClass.command_registers (c := .batchWrite) rfl

theorem reads {i : Property} (h : i ≠ .expiration) : Reads accessor i (Carries · i) := by
  intro p v hv
  cases i with
  | recordExistsAction =>
    exact (congrArg RecordExistsAction.ofNumber hv).trans (RecordExistsAction.ofNumber_number v)
  | generationPolicy =>
    exact (congrArg GenerationPolicy.ofNumber hv).trans (GenerationPolicy.ofNumber_number v)
  | commitLevel => exact (congrArg CommitLevel.ofNumber hv).trans (CommitLevel.ofNumber_number v)
  | expiration => exact absurd rfl h
  | _ => exact congrArg Except.ok hv

theorem independent_iff (calls : PolicyClass.batchWrite.Calls) :
    PolicyClass.batchWrite.Independent calls ↔
      LastUnreserved (lastValue calls .expiration) := by
  obtain ⟨p', hrun, -⟩ := registers.keeps.exists_writeAll registers.inv calls
  refine registers.independent_iff_of_getter hrun ?_ fun i hi => reads hi
  exact registers.getter_iff hrun .expiration .expiration Expiration.namespaceDefault
    Expiration.namespaceDefault rfl rfl Expiration.get_eq_ok

end BatchWritePolicy

namespace BatchDeletePolicy

theorem registers :
    Registers accessor (fun _ => True) (fun i p => Carries p i) BatchDeletePolicy.default :=
  PolicyClass.command_registers (c := .batchDelete) rfl

theorem reads (i : Property) : Reads accessor i (Carries · i) := by
  intro p v hv
  cases i with
  | commitLevel => exact (congrArg CommitLevel.ofNumber hv).trans (CommitLevel.ofNumber_number v)
  | _ => exact congrArg Except.ok hv

theorem independent (calls : PolicyClass.batchDelete.Calls) :
    PolicyClass.batchDelete.Independent calls := by
  obtain ⟨p', hrun, -⟩ := registers.keeps.exists_writeAll registers.inv calls
  exact (registers.independent_iff hrun).2 fun i => registers.get_eq_expected hrun (reads i)

end BatchDeletePolicy

namespace BatchUdfPolicy

theorem registers :
    Registers accessor (fun _ => True) (fun i p => Carries p i) BatchUdfPolicy.default :=
  PolicyClass.command_registers (c := .batchUdf) rfl

theorem reads {i : Property} (h : i ≠ .expiration) : Reads accessor i (Carries · i) := by
  intro p v hv
  cases i with
  | commitLevel => exact (congrArg CommitLevel.ofNumber hv).trans (CommitLevel.ofNumber_number v)
  | expiration => exact absurd rfl h
  | _ => exact congrArg Except.ok hv

theorem independent_iff (calls : PolicyClass.batchUdf.Calls) :
    PolicyClass.batchUdf.Independent calls ↔
      LastUnreserved (lastValue calls .expiration) := by
  obtain ⟨p', hrun, -⟩ := registers.keeps.exists_writeAll registers.inv calls
  refine registers.independent_iff_of_getter hrun ?_ fun i hi => reads hi
  exact registers.getter_iff hrun .expiration .expiration Expiration.namespaceDefault
    Expiration.namespaceDefault rfl rfl Expiration.get_eq_ok

end BatchUdfPolicy

/-! ## AdminPolicy and InfoPolicy -/

namespace AdminPolicy

theorem registers :
    Registers PolicyClass.admin.model.accessor (fun _ => True)
      (fun i p => PolicyClass.admin.model.Carries p i) AdminPolicy.default where
  keeps _ _ _ _ := ⟨_, rfl, trivial⟩
  inv := trivial
  register _ := Register.single (by
    intro p p' v hset
    cases hset
    rfl)
  fresh _ := ⟨_, rfl, rfl⟩

theorem independent (calls : PolicyClass.admin.Calls) : PolicyClass.admin.Independent calls := by
  obtain ⟨p', hrun, -⟩ := registers.keeps.exists_writeAll registers.inv calls
  refine (registers.independent_iff hrun).2 fun i => registers.get_eq_expected hrun ?_
  intro p v hv
  exact congrArg Except.ok hv

end AdminPolicy

/-- An `InfoPolicy` has no properties. -/
theorem InfoPolicy.independent (calls : PolicyClass.info.Calls) :
    PolicyClass.info.Independent calls := by
  cases calls with
  | nil => exact ⟨InfoPolicy.default, rfl, fun i => i.elim⟩
  | cons call _ => exact call.1.elim

/-! ## All classes -/

/-- The last values given do not show that a getter or a setter uses the field of
    another property, and no expiration is read as another one. -/
def PolicyClass.Unmixed : (c : PolicyClass) → c.Calls → Prop
  | .read, calls =>
    SameMode (lastValue calls (.inl .readModeAP)) (lastValue calls (.inl .readModeSC))
  | .write, calls =>
    SameMode (lastValue calls (.inr .readModeAP)) (lastValue calls (.inr .readModeSC)) ∧
    SameFlag (lastValue calls (.inl .respondPerEachOp)) (lastValue calls (.inl .durableDelete)) ∧
    LastUnreserved (lastValue calls (.inl .expiration))
  | .query, calls =>
    SameMode (lastValue calls (.inr (.inr .readModeAP)))
      (lastValue calls (.inr (.inr .readModeSC)))
  | .scan, calls =>
    SameMode (lastValue calls (.inr (.inr .readModeAP)))
      (lastValue calls (.inr (.inr .readModeSC)))
  | .batch, calls =>
    (BatchPolicy.lastRespondAllKeys calls).getD true =
      (lastValue calls (.inl .respondAllKeys)).getD true ∧
    (lastValue calls (.inl .allowPartialResults)).getD false = false
  | .batchRead, calls => SameMode (lastValue calls .readModeAP) (lastValue calls .readModeSC)
  | .batchWrite, calls => LastUnreserved (lastValue calls .expiration)
  | .batchUdf, calls => LastUnreserved (lastValue calls .expiration)
  | .batchDelete, _ => True
  | .admin, _ => True
  | .info, _ => True

/-- The properties of a policy are independent registers iff the calls do not mix up
    those that share a field. -/
theorem PolicyClass.independent_iff_unmixed (c : PolicyClass) (calls : c.Calls) :
    c.Independent calls ↔ c.Unmixed calls := by
  cases c with
  | read => exact ReadPolicy.independent_iff calls
  | write => exact WritePolicy.independent_iff calls
  | query => exact QueryPolicy.independent_iff calls
  | scan => exact ScanPolicy.independent_iff calls
  | batch => exact BatchPolicy.independent_iff calls
  | batchRead => exact BatchReadPolicy.independent_iff calls
  | batchWrite => exact BatchWritePolicy.independent_iff calls
  | batchDelete => exact iff_of_true (BatchDeletePolicy.independent calls) trivial
  | batchUdf => exact BatchUdfPolicy.independent_iff calls
  | admin => exact iff_of_true (AdminPolicy.independent calls) trivial
  | info => exact iff_of_true (InfoPolicy.independent calls) trivial

/-- `set_durable_delete(true)` on a fresh policy of a write: the getter returns `false`. -/
theorem durableDelete_lost :
    ¬ PolicyClass.write.Independent [⟨.inl .durableDelete, true⟩] := by
  rintro ⟨p', hrun, hall⟩
  cases hrun
  obtain ⟨v, hexp, hget, -⟩ := hall (.inl .durableDelete)
  cases hexp
  cases hget

end AerospikePhp
