import AerospikePhp.Config.Host
import AerospikePhp.Lib.Fallible
import Mathlib.Data.List.Induction

/-!
# Calls that add seeds

`HostTLSPortSliceFlag` (`common/flags/host.go` lines 20–32 and 97–149) starts with the
default seed. The first call of `Set` replaces it, the later ones add to the list; a call
appends its hosts one by one until one of them cannot be read.

Main results:
* `setAll_eq`: the flag after a sequence of calls.
* `accumulates_iff_clean`: the sequences after which the seeds are those of the calls that
  succeeded, and in which no failed call changed the flag.
-/

namespace AerospikePhp.Config

namespace HostTLSPortSliceFlag

/-! ## One call -/

/-- The hosts up to the first text that cannot be read, and its error. -/
def parsed : List String → List HostTLSPort × Option String
  | [] => ([], none)
  | val :: vals =>
    match parseHostTLSPort val with
    | .error err => ([], some err)
    | .ok host => (host :: (parsed vals).1, (parsed vals).2)

theorem appendAll_eq (slice : HostTLSPortSliceFlag) (vals : List String) :
    slice.appendAll vals =
      ({ slice with seeds := slice.seeds ++ (parsed vals).1 }, (parsed vals).2) := by
  induction vals generalizing slice with
  | nil => simp [appendAll, parsed]
  | cons val vals ih =>
    rw [appendAll, parsed]
    cases parseHostTLSPort val with
    | error err => simp
    | ok host => simp [ih]

/-- The hosts of a call, when all of its texts can be read. -/
def hostsOf (commaSepVal : String) : Option (List HostTLSPort) :=
  ((splitComma commaSepVal).mapM parseHostTLSPort).toOption

/-- The first text of a call cannot be read. -/
def FailsAtOnce (commaSepVal : String) : Prop :=
  ∀ val ∈ (splitComma commaSepVal).head?, ∀ host, parseHostTLSPort val ≠ .ok host

theorem parsed_eq_mapM (vals : List String) :
    (vals.mapM parseHostTLSPort).toOption =
      if (parsed vals).2 = none then some (parsed vals).1 else none := by
  induction vals with
  | nil => rfl
  | cons val vals ih =>
    rw [List.mapM_cons, parsed]
    cases parseHostTLSPort val with
    | error err => rfl
    | ok host =>
      rw [Fallible.ok_bind, Fallible.toOption_bind_pure, ih]
      split_ifs
      · rfl
      · rfl

theorem hostsOf_eq (val : String) :
    hostsOf val = if (parsed (splitComma val)).2 = none then some (parsed (splitComma val)).1
      else none :=
  parsed_eq_mapM _

theorem splitComma_ne_nil (val : String) : splitComma val ≠ [] := by
  rw [splitComma, Ne, List.map_eq_nil_iff]
  exact List.splitOnP_ne_nil _ _

theorem failsAtOnce_iff (val : String) :
    FailsAtOnce val ↔ (parsed (splitComma val)).1 = [] := by
  obtain ⟨v, vs, hsplit⟩ := List.exists_cons_of_ne_nil (splitComma_ne_nil val)
  rw [FailsAtOnce, hsplit, parsed]
  cases hv : parseHostTLSPort v with
  | error err => simp [hv]
  | ok host => simp [hv]

/-- What a call does to the seeds depends on whether it is the first. -/
theorem set_eq (slice : HostTLSPortSliceFlag) (val : String) :
    slice.set val =
      (⟨false, (if slice.useDefault then [] else slice.seeds) ++ (parsed (splitComma val)).1⟩,
        (parsed (splitComma val)).2) := by
  obtain ⟨useDefault, seeds⟩ := slice
  cases useDefault with
  | true => simp [set, replace, appendAll_eq]
  | false => simp [set, appendAll_eq]

/-! ## Sequences of calls -/

/-- The flag after a sequence of calls. -/
def setAll (vals : List String) : HostTLSPortSliceFlag :=
  vals.foldl (fun slice val => (slice.set val).1) new

theorem setAll_concat (vals : List String) (val : String) :
    setAll (vals ++ [val]) = ((setAll vals).set val).1 := by
  rw [setAll, List.foldl_append]
  rfl

/-- The flag holds what could be read of every call. -/
theorem setAll_eq {vals : List String} (hne : vals ≠ []) :
    setAll vals = ⟨false, vals.flatMap fun val => (parsed (splitComma val)).1⟩ := by
  induction vals using List.reverseRecOn with
  | nil => exact absurd rfl hne
  | append_singleton vals val ih =>
    rw [setAll_concat, set_eq]
    by_cases hvals : vals = []
    · subst hvals
      simp [setAll, new]
    · simp [ih hvals]

/-- The seeds are those of the calls that succeeded, or the default seed if none did, and a
    call that failed left the flag as it was. -/
structure Accumulates (vals : List String) : Prop where
  seeds : (setAll vals).seeds =
    if vals.filterMap hostsOf = [] then [.default] else (vals.filterMap hostsOf).flatten
  atomic : ∀ earlier val later, vals = earlier ++ val :: later →
    ((setAll earlier).set val).2 ≠ none → ((setAll earlier).set val).1 = setAll earlier

/-- The first call succeeds, and every call that fails does so at the first of its hosts. -/
structure Clean (vals : List String) : Prop where
  first : ∀ val ∈ vals.head?, (hostsOf val).isSome
  atOnce : ∀ val ∈ vals, hostsOf val = none → FailsAtOnce val

/-- What a call that fails does to the flag. -/
theorem set_unchanged_iff {slice : HostTLSPortSliceFlag} {val : String} :
    (slice.set val).1 = slice ↔ slice.useDefault = false ∧ FailsAtOnce val := by
  obtain ⟨useDefault, seeds⟩ := slice
  rw [set_eq, failsAtOnce_iff]
  cases useDefault with
  | true => simp
  | false => simp

theorem set_succeeds_iff (slice : HostTLSPortSliceFlag) {val : String} :
    (slice.set val).2 = none ↔ (hostsOf val).isSome := by
  rw [set_eq, hostsOf_eq]
  by_cases h : (parsed (splitComma val)).2 = none
  · simp [h]
  · simp [h]

theorem useDefault_setAll (vals : List String) : (setAll vals).useDefault = vals.isEmpty := by
  by_cases hvals : vals = []
  · subst hvals
    rfl
  · rw [setAll_eq hvals]
    simp [hvals]

/-- What a clean sequence could read of its calls is what its successful calls hold. -/
theorem flatMap_parsed {vals : List String} (h : ∀ val ∈ vals, hostsOf val = none → FailsAtOnce val) :
    (vals.flatMap fun val => (parsed (splitComma val)).1) = (vals.filterMap hostsOf).flatten := by
  induction vals with
  | nil => rfl
  | cons val vals ih =>
    have htail := ih fun v hv => h v (by simp [hv])
    rw [List.flatMap_cons, htail]
    cases hhosts : hostsOf val with
    | none =>
      rw [List.filterMap_cons_none hhosts, (failsAtOnce_iff val).1 (h val (by simp) hhosts),
        List.nil_append]
    | some hosts =>
      rw [List.filterMap_cons_some hhosts, List.flatten_cons]
      rw [hostsOf_eq] at hhosts
      split_ifs at hhosts
      cases hhosts
      rfl

/-- Where failed calls change nothing, a call that fails is not the first one and fails at
    once. -/
theorem Accumulates.of_fails {earlier later : List String} {val : String}
    (h : Accumulates (earlier ++ val :: later)) (hval : hostsOf val = none) :
    earlier ≠ [] ∧ FailsAtOnce val := by
  have hne : ((setAll earlier).set val).2 ≠ none := by
    rw [Ne, set_succeeds_iff, hval]
    decide
  have hsame := set_unchanged_iff.1 (h.atomic earlier val later rfl hne)
  rw [useDefault_setAll] at hsame
  refine ⟨?_, hsame.2⟩
  rintro rfl
  exact absurd hsame.1 (by decide)

theorem Clean.seeds_setAll {vals : List String} (h : Clean vals) :
    (setAll vals).seeds =
      if vals.filterMap hostsOf = [] then [.default] else (vals.filterMap hostsOf).flatten := by
  cases vals with
  | nil => rfl
  | cons val vals =>
    obtain ⟨hosts, hhosts⟩ := Option.isSome_iff_exists.1 (h.first val rfl)
    rw [setAll_eq (List.cons_ne_nil _ _), flatMap_parsed h.atOnce,
      List.filterMap_cons_some hhosts, if_neg (List.cons_ne_nil _ _)]

/-- In a clean sequence a call that fails comes after another one. -/
theorem Clean.earlier_ne_nil {earlier later : List String} {val : String}
    (h : Clean (earlier ++ val :: later)) (hval : hostsOf val = none) : earlier ≠ [] := by
  rintro rfl
  have hfirst := h.first val rfl
  rw [hval] at hfirst
  cases hfirst

/-- **Main theorem.** The seeds are those of the calls that succeeded, and the calls that failed
    changed nothing, iff the sequence is clean. -/
theorem accumulates_iff_clean (vals : List String) : Accumulates vals ↔ Clean vals := by
  constructor
  · intro h
    refine ⟨?_, ?_⟩
    · intro val hval
      obtain ⟨later, rfl⟩ := List.head?_eq_some_iff.1 hval
      by_contra hnone
      rw [Option.not_isSome_iff_eq_none] at hnone
      exact (@Accumulates.of_fails [] later val h hnone).1 rfl
    · intro val hval hnone
      obtain ⟨earlier, later, rfl⟩ := List.append_of_mem hval
      exact (h.of_fails hnone).2
  · intro h
    refine ⟨h.seeds_setAll, ?_⟩
    rintro earlier val later rfl hne
    have hnone : hostsOf val = none := by
      rw [← Option.not_isSome_iff_eq_none, ← set_succeeds_iff (setAll earlier)]
      exact hne
    refine set_unchanged_iff.2 ⟨?_, h.atOnce val (by simp) hnone⟩
    rw [useDefault_setAll, List.isEmpty_eq_false_iff]
    exact h.earlier_ne_nil hnone

/-- A second call fails at its second host, and its first host stays in the list. -/
theorem half_applied_call :
    ((setAll ["db1:3000"]).set "db2:3000,db3:x").2 ≠ none ∧
      ((setAll ["db1:3000"]).set "db2:3000,db3:x").1.seeds =
        [⟨"db1", "", 3000⟩, ⟨"db2", "", 3000⟩] ∧
      ¬ Accumulates ["db1:3000", "db2:3000,db3:x"] := by
  have hfails : ((setAll ["db1:3000"]).set "db2:3000,db3:x").2 ≠ none := by decide +kernel
  have hseeds : ((setAll ["db1:3000"]).set "db2:3000,db3:x").1.seeds =
      [⟨"db1", "", 3000⟩, ⟨"db2", "", 3000⟩] := by
    decide +kernel
  refine ⟨hfails, hseeds, ?_⟩
  intro h
  have hsame := congrArg seeds (h.atomic ["db1:3000"] "db2:3000,db3:x" [] rfl hfails)
  rw [hseeds] at hsame
  exact absurd hsame (by decide +kernel)

end HostTLSPortSliceFlag

end AerospikePhp.Config
