import AerospikePhp.Config.TlsProtocols
import AerospikePhp.Lib.Fallible
import Mathlib.Data.Finset.Basic

/-!
# The set of TLS versions that is asked for

The tokens of `TLSProtocolsFlag.Set` (`common/flags/tlsprotocol.go` lines 27–119) stand for
a set of versions, built from left to right. The code keeps it as a bit mask and looks at
two of the bits before it takes the lowest and the highest version.

Main results:
* `foldlM_token_eq_denoted`: the loop computes the mask of the set.
* `set_iff_supported`: the sets with which a range is selected and everything else
  refused.
-/

namespace AerospikePhp.Config

namespace TLSProtocolsFlag

/-! ## Sets of versions -/

/-- The versions that have a name. -/
def known : Finset TLSProtocol := {versionTLS10, versionTLS11, versionTLS12, versionTLS13}

/-- The versions that a name stands for. -/
def named : String → Option (Finset TLSProtocol)
  | "TLSv1" => some {versionTLS10}
  | "TLSv1.1" => some {versionTLS11}
  | "TLSv1.2" => some {versionTLS12}
  | "TLSv1.3" => some {versionTLS13}
  | "all" => some known
  | _ => none

/-- A token adds versions to the set, removes them from it, or sets it while it is empty. -/
def change (s : Finset TLSProtocol) (tok : String) : Option (Finset TLSProtocol) := do
  let t ← named (splitSign tok).2
  match (splitSign tok).1 with
  | some '+' => return s ∪ t
  | some _ => return s \ t
  | none => if s = ∅ then return t else none

/-- The set that tokens denote. -/
def denoted (toks : List String) : Option (Finset TLSProtocol) := toks.foldlM change ∅

/-- The set consists of the versions between the bounds of the flag, which are in it. -/
def IsRange (s : Finset TLSProtocol) (flag : TLSProtocolsFlag) : Prop :=
  flag.min ∈ s ∧ flag.max ∈ s ∧ s = known.filter fun v => flag.min ≤ v ∧ v ≤ flag.max

/-- The flag that tokens ask for. -/
def Selects (toks : List String) (flag : TLSProtocolsFlag) : Prop :=
  ∃ s, denoted toks = some s ∧ IsRange s flag

/-- The sets with which the code does what is asked for: no empty set, not the first three
    versions, and with the last version the one before it or no other. -/
def Supported (s : Finset TLSProtocol) : Prop :=
  s ≠ ∅ ∧ s ≠ {versionTLS10, versionTLS11, versionTLS12} ∧
    (versionTLS13 ∈ s → versionTLS12 ∈ s ∨ s = {versionTLS13})

/-! ## The mask of a set -/

/-- The versions whose bit is set. -/
def setOf (protocols : UInt8) : Finset TLSProtocol :=
  ((protocolSlice.filter fun p => protocols &&& p.1 != 0).map Prod.snd).toFinset

/-- The masks of four bits, and those of the names. -/
def masks : List UInt8 := (List.range 16).map UInt8.ofNat

def nameMasks : List UInt8 := [tlsV1, tlsV1_1, tlsV1_2, tlsV1_3, tlsAll]

/-- The operations of the loop on masks are those on sets. -/
theorem setOf_or : ∀ m ∈ masks, ∀ c ∈ nameMasks,
    m ||| c ∈ masks ∧ setOf (m ||| c) = setOf m ∪ setOf c := by decide +kernel

theorem setOf_and_not : ∀ m ∈ masks, ∀ c ∈ nameMasks,
    m &&& ~~~c ∈ masks ∧ setOf (m &&& ~~~c) = setOf m \ setOf c := by decide +kernel

theorem setOf_eq_empty : ∀ m ∈ masks, setOf m = ∅ ↔ m = 0 := by decide +kernel

theorem nameMasks_subset : ∀ c ∈ nameMasks, c ∈ masks := by decide +kernel

theorem versions_mem {tok : String} {c : UInt8} (h : versions tok = .ok c) : c ∈ nameMasks := by
  unfold versions at h
  split at h
  all_goals
    cases h
    try decide

theorem setOf_versions (tok : String) : (versions tok).toOption.map setOf = named tok := by
  unfold versions
  split
  · rfl
  · rfl
  · decide +kernel
  · decide +kernel
  · decide +kernel
  · decide +kernel
  · decide +kernel
  · unfold named
    split
    all_goals first | contradiction | rfl

/-! ## The loop -/

theorem sign_splitSign (tok : String) :
    (splitSign tok).1 = some '+' ∨ (splitSign tok).1 = some '-' ∨ (splitSign tok).1 = none := by
  unfold splitSign
  split
  · exact .inl rfl
  · exact .inr (.inl rfl)
  · exact .inr (.inr rfl)

/-- The body of the loop computes the mask of the changed set. -/
theorem token_eq_change {m : UInt8} (hm : m ∈ masks) (tok : String) :
    (token m tok).toOption.map setOf = change (setOf m) tok ∧
      ∀ m', token m tok = .ok m' → m' ∈ masks := by
  have hnamed := setOf_versions (splitSign tok).2
  simp only [token, change]
  cases hv : versions (splitSign tok).2 with
  | error err =>
    rw [hv, Fallible.toOption_error, Option.map_none] at hnamed
    rw [← hnamed]
    refine ⟨rfl, ?_⟩
    intro m' h
    cases h
  | ok c =>
    have hc := versions_mem hv
    obtain ⟨hor, hunion⟩ := setOf_or m hm c hc
    obtain ⟨hand, hdiff⟩ := setOf_and_not m hm c hc
    rw [hv, Fallible.toOption_ok, Option.map_some] at hnamed
    rw [← hnamed, Fallible.ok_bind, Option.bind_eq_bind, Option.bind_some]
    obtain hsign | hsign | hsign := sign_splitSign tok
    · rw [hsign]
      refine ⟨congrArg some hunion, ?_⟩
      intro m' h
      cases h
      exact hor
    · rw [hsign]
      refine ⟨congrArg some hdiff, ?_⟩
      intro m' h
      cases h
      exact hand
    · rw [hsign]
      by_cases hzero : m = 0
      · rw [if_neg (not_not.2 hzero), if_pos ((setOf_eq_empty m hm).2 hzero)]
        refine ⟨rfl, ?_⟩
        intro m' h
        cases h
        exact nameMasks_subset c hc
      · rw [if_pos hzero, if_neg fun he => hzero ((setOf_eq_empty m hm).1 he)]
        refine ⟨rfl, ?_⟩
        intro m' h
        cases h

/-- The loop computes the mask of the set that the tokens denote. -/
theorem foldlM_token_eq_denoted (toks : List String) {m : UInt8} (hm : m ∈ masks) :
    (toks.foldlM token m).toOption.map setOf = toks.foldlM change (setOf m) ∧
      ∀ m', toks.foldlM token m = .ok m' → m' ∈ masks := by
  induction toks generalizing m with
  | nil =>
    refine ⟨rfl, ?_⟩
    intro m' h
    cases h
    exact hm
  | cons tok toks ih =>
    obtain ⟨hstep, hmem⟩ := token_eq_change hm tok
    rw [List.foldlM_cons, List.foldlM_cons, ← hstep]
    cases htok : token m tok with
    | error err =>
      refine ⟨rfl, ?_⟩
      intro m' h
      cases h
    | ok m' => exact ih (hmem m' htok)

/-! ## The bounds of a set -/

/-- The bounds of a set are its least and its greatest version. -/
theorem IsRange.unique {s : Finset TLSProtocol} {flag flag' : TLSProtocolsFlag}
    (h : IsRange s flag) (h' : IsRange s flag') : flag = flag' := by
  have hbounds {v : TLSProtocol} {f : TLSProtocolsFlag} (hf : IsRange s f) (hv : v ∈ s) :
      f.min ≤ v ∧ v ≤ f.max := by
    rw [hf.2.2] at hv
    exact (Finset.mem_filter.1 hv).2
  have hmin : flag.min = flag'.min :=
    UInt16.le_antisymm (hbounds h h'.1).1 (hbounds h' h.1).1
  have hmax : flag.max = flag'.max :=
    UInt16.le_antisymm (hbounds h' h.2.1).2 (hbounds h h'.2.1).2
  cases flag
  cases flag'
  simp only at hmin hmax
  rw [hmin, hmax]

/-- The flags of which both bounds have a name. -/
def namedFlags : List TLSProtocolsFlag :=
  protocolSlice.flatMap fun lo => protocolSlice.map fun hi => ⟨lo.2, hi.2⟩

theorem IsRange.mem_namedFlags {s : Finset TLSProtocol} {flag : TLSProtocolsFlag}
    (h : IsRange s flag) : flag ∈ namedFlags := by
  have hsub {v : TLSProtocol} (hv : v ∈ s) : ∃ p ∈ protocolSlice, p.2 = v := by
    rw [h.2.2] at hv
    have hknown := (Finset.mem_filter.1 hv).1
    simp only [known, Finset.mem_insert, Finset.mem_singleton] at hknown
    simpa [protocolSlice, eq_comm] using hknown
  obtain ⟨lo, hlo, hmin⟩ := hsub h.1
  obtain ⟨hi, hhi, hmax⟩ := hsub h.2.1
  refine List.mem_flatMap.2 ⟨lo, hlo, List.mem_map.2 ⟨hi, hhi, ?_⟩⟩
  rw [hmin, hmax]

instance (s : Finset TLSProtocol) (flag : TLSProtocolsFlag) : Decidable (IsRange s flag) :=
  inferInstanceAs (Decidable (_ ∧ _ ∧ _))

instance (s : Finset TLSProtocol) : Decidable (Supported s) :=
  inferInstanceAs (Decidable (_ ∧ _ ∧ _))

/-- What `select` makes of a mask that is not empty depends on the mask alone, unless it is
    refused: then the flag stays. -/
theorem select_eq_zero (flag : TLSProtocolsFlag) :
    ∀ m ∈ masks, m ≠ 0 → (flag.select m).2 = (zero.select m).2 ∧
      (flag.select m).1 = if (zero.select m).2 = none then (zero.select m).1 else flag := by
  intro m hm hne
  have hm : m = 0 ∨ m = 1 ∨ m = 2 ∨ m = 3 ∨ m = 4 ∨ m = 5 ∨ m = 6 ∨ m = 7 ∨ m = 8 ∨ m = 9 ∨
      m = 10 ∨ m = 11 ∨ m = 12 ∨ m = 13 ∨ m = 14 ∨ m = 15 := by
    simpa [masks, List.range, List.range.loop] using hm
  rcases hm with rfl | rfl | rfl | rfl | rfl | rfl | rfl | rfl | rfl | rfl | rfl | rfl | rfl |
    rfl | rfl | rfl
  · exact absurd rfl hne
  all_goals exact ⟨rfl, rfl⟩

/-- Where a mask is accepted, its bounds delimit the set iff it is supported. -/
theorem isRange_iff_supported : ∀ m ∈ masks, m ≠ 0 → (zero.select m).2 = none →
    (IsRange (setOf m) (zero.select m).1 ↔ Supported (setOf m)) := by decide +kernel

/-- Where a mask is refused, its set is no range iff it is supported. -/
theorem not_isRange_iff_supported : ∀ m ∈ masks, m ≠ 0 → (zero.select m).2 ≠ none →
    ((∀ flag ∈ namedFlags, ¬ IsRange (setOf m) flag) ↔ Supported (setOf m)) := by
  decide +kernel

/-- What is done with a mask is what its set asks for iff the set is supported. -/
theorem select_iff_supported (flag : TLSProtocolsFlag) {m : UInt8} (hm : m ∈ masks) :
    (∀ flag', flag.select m = (flag', none) ↔ IsRange (setOf m) flag') ↔ Supported (setOf m) := by
  by_cases hzero : m = 0
  · subst hzero
    have hempty : setOf 0 = ∅ := rfl
    refine iff_of_false ?_ fun h => h.1 hempty
    intro h
    -- the empty set leaves the flag as it is
    have hrange := (h flag).1 rfl
    rw [hempty] at hrange
    exact absurd hrange.1 (Finset.notMem_empty _)
  · obtain ⟨herr, hflag⟩ := select_eq_zero flag m hm hzero
    by_cases haccepted : (zero.select m).2 = none
    · rw [if_pos haccepted] at hflag
      have hselect : flag.select m = ((zero.select m).1, none) :=
        Prod.ext hflag (herr.trans haccepted)
      rw [hselect, ← isRange_iff_supported m hm hzero haccepted]
      constructor
      · intro h
        exact (h _).1 rfl
      · intro h flag'
        rw [Prod.mk.injEq, eq_self, and_true]
        constructor
        · rintro rfl
          exact h
        · exact fun h' => h.unique h'
    · rw [← not_isRange_iff_supported m hm hzero haccepted]
      have hrefused : ∀ flag', flag.select m ≠ (flag', none) := by
        intro flag' hselect
        rw [hselect] at herr
        exact haccepted herr.symm
      constructor
      · intro h flag' _ hrange
        exact hrefused flag' ((h flag').2 hrange)
      · intro h flag'
        refine iff_of_false (hrefused flag') ?_
        intro hrange
        exact h flag' hrange.mem_namedFlags hrange

theorem select_of_error {flag : TLSProtocolsFlag} {m : UInt8} {err : String}
    (h : (flag.select m).2 = some err) : (flag.select m).1 = flag := by
  unfold select at h ⊢
  split_ifs at h ⊢
  rfl

/-- A call that returns an error leaves the flag as it was. -/
theorem set_of_error {flag : TLSProtocolsFlag} {val err : String}
    (h : (flag.set val).2 = some err) : (flag.set val).1 = flag := by
  unfold set at h ⊢
  split_ifs at h ⊢
  cases htoks : (fields val).foldlM token 0 with
  | ok m =>
    rw [htoks] at h
    exact select_of_error h
  | error _ => rfl

/-- The flag is set to what the tokens ask for, and where they ask for nothing an error is
    returned and the flag left as it was. -/
structure SetAsAsked (flag : TLSProtocolsFlag) (val : String) : Prop where
  accepted : ∀ flag', flag.set val = (flag', none) ↔ Selects (fields val) flag'
  refused : ∀ err, (flag.set val).2 = some err → (flag.set val).1 = flag

/-- **Main theorem.** The flag is set to what the tokens ask for, and an error returned where
    they ask for nothing, iff the set that they denote is supported. -/
theorem set_iff_supported (flag : TLSProtocolsFlag) (val : String) (hval : fields val ≠ []) :
    SetAsAsked flag val ↔ ∀ s, denoted (fields val) = some s → Supported s := by
  have hne : val ≠ "" := by
    rintro rfl
    exact hval rfl
  have hzero : (0 : UInt8) ∈ masks := by decide
  obtain ⟨hmask, hmem⟩ := foldlM_token_eq_denoted (fields val) hzero
  have hempty : setOf 0 = ∅ := rfl
  rw [hempty] at hmask
  have haccepted : (∀ flag', flag.set val = (flag', none) ↔ Selects (fields val) flag') ↔
      ∀ s, denoted (fields val) = some s → Supported s := by
    unfold Selects denoted
    rw [set, if_neg hne, ← hmask]
    cases htoks : (fields val).foldlM token 0 with
    | error err => simp
    | ok m =>
      have hselect := select_iff_supported flag (hmem m htoks)
      simpa using hselect
  rw [← haccepted]
  constructor
  · intro h
    exact h.accepted
  · intro h
    exact ⟨h, fun _ => set_of_error⟩

/-- `TLSv1.2 +TLSv1.3` sets the bounds that it asks for. -/
theorem set_iff_supported_last_two :
    fields "TLSv1.2 +TLSv1.3" ≠ [] ∧ SetAsAsked TLSProtocolsFlag.default "TLSv1.2 +TLSv1.3" := by
  refine ⟨by decide +kernel, (set_iff_supported _ _ (by decide +kernel)).2 ?_⟩
  have hdenoted : denoted (fields "TLSv1.2 +TLSv1.3") = some {versionTLS12, versionTLS13} := by
    decide +kernel
  rw [hdenoted]
  rintro s ⟨⟩
  decide +kernel

/-- `TLSv1 +TLSv1.1 +TLSv1.2` is a range, and it is refused. -/
theorem first_three_refused :
    TLSProtocolsFlag.default.set "TLSv1 +TLSv1.1 +TLSv1.2" =
        (TLSProtocolsFlag.default, some "you may only specify a range of protocols") ∧
      ¬ SetAsAsked TLSProtocolsFlag.default "TLSv1 +TLSv1.1 +TLSv1.2" := by
  have hrefused : TLSProtocolsFlag.default.set "TLSv1 +TLSv1.1 +TLSv1.2" =
      (TLSProtocolsFlag.default, some "you may only specify a range of protocols") := by
    decide +kernel
  have hselects : Selects (fields "TLSv1 +TLSv1.1 +TLSv1.2") ⟨versionTLS10, versionTLS12⟩ := by
    have hdenoted : denoted (fields "TLSv1 +TLSv1.1 +TLSv1.2") =
        some {versionTLS10, versionTLS11, versionTLS12} := by
      decide +kernel
    exact ⟨_, hdenoted, by decide +kernel⟩
  refine ⟨hrefused, ?_⟩
  intro h
  rw [← h.accepted, hrefused] at hselects
  cases hselects

end TLSProtocolsFlag

end AerospikePhp.Config
