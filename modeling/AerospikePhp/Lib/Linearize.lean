import AerospikePhp.Lib.Transition
import Mathlib.Data.List.Induction
import Mathlib.Data.List.Nodup
import Mathlib.Logic.Function.Basic

/-!
# Concurrent calls of one object

`serve s i` is the answer of an object in the state `s` to the input `i`, and its next state.
Calls are invoked at any time. A call is performed at one point of time, and its answer is
returned after it. A caller can give a call up: it may then still be performed later, or never.

Results:
* `exists_linearized`: the calls, in the order in which they are performed, are a sequential
  run of the object with the answers that are returned.
* `Precedes.performed`: a call whose answer is returned before another call is invoked is
  performed before it.
* `Linearized.exists_between`: what is performed between two such calls.
-/

namespace Linearize

universe u v w x

/-! ## The object on its own -/

section Play

variable {σ : Type u} {ι : Type v} {ο : Type w} (serve : σ → ι → ο × σ)

/-- The answers to a sequence of inputs, and the last state. -/
def play : σ → List ι → List ο × σ
  | s, [] => ([], s)
  | s, i :: is =>
    ((serve s i).1 :: (play (serve s i).2 is).1, (play (serve s i).2 is).2)

theorem play_concat (s : σ) (is : List ι) (i : ι) :
    play serve s (is ++ [i]) =
      ((play serve s is).1 ++ [(serve (play serve s is).2 i).1],
        (serve (play serve s is).2 i).2) := by
  induction is generalizing s with
  | nil => rfl
  | cons j is ih =>
    rw [List.cons_append, play, ih]
    rfl

end Play

/-! ## Calls -/

/-- A call: its input, its answer once it is performed, and whether its caller waits. -/
structure Call (ι : Type v) (ο : Type w) where
  input : ι
  answer : Option ο
  waiting : Bool

/-- The object, and the calls that were invoked, each under a name of its own. -/
structure Shared (σ : Type u) (ν : Type x) (ι : Type v) (ο : Type w) where
  object : σ
  calls : ν → Option (Call ι ο)

inductive Event (ν : Type x) (ι : Type v) where
  | invoke (n : ν) (i : ι)
  | perform (n : ν)
  | answer (n : ν)
  | giveUp (n : ν)

variable {σ : Type u} {ν : Type x} {ι : Type v} {ο : Type w}

/-- Before any call. -/
def Shared.start (s : σ) : Shared σ ν ι ο := ⟨s, fun _ => none⟩

/-- The names of the calls that are performed, in the order in which they are. -/
def performed (es : List (Event ν ι)) : List ν :=
  es.filterMap fun
    | .perform n => some n
    | _ => none

theorem performed_append (es es' : List (Event ν ι)) :
    performed (es ++ es') = performed es ++ performed es' :=
  List.filterMap_append

/-- The answer to `n` is returned before `m` is invoked. -/
def Precedes (es : List (Event ν ι)) (n m : ν) : Prop :=
  ∃ a b, es = a ++ b ∧ Event.answer n ∈ a ∧ ∃ i, Event.invoke m i ∈ b

variable (serve : σ → ι → ο × σ)

/-- The calls of a run that were performed, with their inputs and answers, one after the other. -/
structure Linearized (s : σ) (es : List (Event ν ι)) (w : Shared σ ν ι ο)
    (log : List (ν × ι × ο)) : Prop where
  names : log.map Prod.fst = performed es
  nodup : (performed es).Nodup
  mem : ∀ n i o, (n, i, o) ∈ log ↔ ∃ waiting, w.calls n = some ⟨i, some o, waiting⟩
  played : play serve s (log.map fun e => e.2.1) = (log.map fun e => e.2.2, w.object)

namespace Linearized

variable {serve} {s : σ} {es : List (Event ν ι)} {w : Shared σ ν ι ο} {log : List (ν × ι × ο)}

theorem start (s : σ) : Linearized serve s [] (Shared.start s : Shared σ ν ι ο) [] where
  names := rfl
  nodup := List.nodup_nil
  mem n i o := by simp [Shared.start]
  played := rfl

/-- A call was performed iff it has an answer. -/
theorem mem_performed (h : Linearized serve s es w log) {n : ν} :
    n ∈ performed es ↔ ∃ i o waiting, w.calls n = some ⟨i, some o, waiting⟩ := by
  rw [← h.names, List.mem_map]
  constructor
  · rintro ⟨⟨m, i, o⟩, hmem, rfl⟩
    obtain ⟨waiting, hcall⟩ := (h.mem m i o).1 hmem
    exact ⟨i, o, waiting, hcall⟩
  · rintro ⟨i, o, waiting, hcall⟩
    exact ⟨(n, i, o), (h.mem n i o).2 ⟨waiting, hcall⟩, rfl⟩

end Linearized

/-! ## What each event does -/

/-- `n` comes before `m`. -/
def Before (l : List ν) (n m : ν) : Prop :=
  ∃ l₁ l₂, l = l₁ ++ l₂ ∧ n ∈ l₁ ∧ m ∈ l₂

theorem Before.not_of_nodup {l : List ν} {n m : ν} (h : Before l n m) (hnodup : l.Nodup) :
    ¬ Before l m n := by
  rintro ⟨l₁, l₂, hl, hm, hn⟩
  obtain ⟨l₁', l₂', hl', hn', hm'⟩ := h
  have hprefix : l₁ <+: l := ⟨l₂, hl.symm⟩
  have hprefix' : l₁' <+: l := ⟨l₂', hl'.symm⟩
  rcases List.prefix_or_prefix_of_prefix hprefix hprefix' with hle | hle
  · rw [hl'] at hnodup
    exact List.disjoint_of_nodup_append hnodup (hle.subset hm) hm'
  · rw [hl] at hnodup
    exact List.disjoint_of_nodup_append hnodup (hle.subset hn') hn

variable [DecidableEq ν] {serve : σ → ι → ο × σ}

/-- The call `n` becomes `c`. -/
def Shared.record (w : Shared σ ν ι ο) (n : ν) (c : Call ι ο) : Shared σ ν ι ο :=
  { w with calls := Function.update w.calls n (some c) }

@[simp] theorem Shared.record_self (w : Shared σ ν ι ο) (n : ν) (c : Call ι ο) :
    (w.record n c).calls n = some c := by
  show Function.update w.calls n (some c) n = some c
  rw [Function.update_self]

theorem Shared.record_ne (w : Shared σ ν ι ο) {n m : ν} (h : m ≠ n) (c : Call ι ο) :
    (w.record n c).calls m = w.calls m := by
  show Function.update w.calls n (some c) m = w.calls m
  rw [Function.update_of_ne h]

variable (serve) in
def Shared.step (w : Shared σ ν ι ο) : Event ν ι → Option (Shared σ ν ι ο)
  | .invoke n i =>
    match w.calls n with
    | none => some (w.record n ⟨i, none, true⟩)
    | some _ => none
  | .perform n =>
    match w.calls n with
    | some ⟨i, none, waiting⟩ =>
      some ({ w with object := (serve w.object i).2 }.record n
        ⟨i, some (serve w.object i).1, waiting⟩)
    | _ => none
  | .answer n =>
    match w.calls n with
    | some ⟨i, some o, true⟩ => some (w.record n ⟨i, some o, false⟩)
    | _ => none
  | .giveUp n =>
    match w.calls n with
    | some ⟨i, o, true⟩ => some (w.record n ⟨i, o, false⟩)
    | _ => none

section Step

variable {w w' : Shared σ ν ι ο} {n : ν}

theorem step_invoke {i : ι} : w.step serve (.invoke n i) = some w' ↔
    w.calls n = none ∧ w' = w.record n ⟨i, none, true⟩ := by
  unfold Shared.step
  cases h : w.calls n with
  | none => simp [h, eq_comm]
  | some c => simp [h]

theorem step_perform : w.step serve (.perform n) = some w' ↔
    ∃ i waiting, w.calls n = some ⟨i, none, waiting⟩ ∧
      w' = { w with object := (serve w.object i).2 }.record n
        ⟨i, some (serve w.object i).1, waiting⟩ := by
  unfold Shared.step
  rcases h : w.calls n with _ | ⟨i, _ | o, waiting⟩
  · simp [h]
  · simp only [h]
    constructor
    · intro hstep
      exact ⟨i, waiting, rfl, (Option.some.inj hstep).symm⟩
    · rintro ⟨i', waiting', heq, rfl⟩
      cases heq
      rfl
  · simp [h]

theorem step_answer : w.step serve (.answer n) = some w' ↔
    ∃ i o, w.calls n = some ⟨i, some o, true⟩ ∧ w' = w.record n ⟨i, some o, false⟩ := by
  unfold Shared.step
  rcases h : w.calls n with _ | ⟨i, _ | o, _ | _⟩
  · simp [h]
  · simp [h]
  · simp [h]
  · simp [h]
  · simp [h, eq_comm]

theorem step_giveUp : w.step serve (.giveUp n) = some w' ↔
    ∃ i o, w.calls n = some ⟨i, o, true⟩ ∧ w' = w.record n ⟨i, o, false⟩ := by
  unfold Shared.step
  rcases h : w.calls n with _ | ⟨i, o, _ | _⟩
  · simp [h]
  · simp [h]
  · simp [h, eq_comm]

end Step

/-! ## The order in which calls are performed -/

variable {s : σ} {es : List (Event ν ι)} {w w' : Shared σ ν ι ο} {log : List (ν × ι × ο)}

namespace Linearized

/-- A call that is written again with the same answer changes nothing. -/
theorem record (h : Linearized serve s es w log) {n : ν} {c : Call ι ο}
    (hanswer : ∀ i o, (∃ waiting, w.calls n = some ⟨i, some o, waiting⟩) ↔
      c.input = i ∧ c.answer = some o) {e : Event ν ι} (he : performed [e] = []) :
    Linearized serve s (es ++ [e]) (w.record n c) log where
  names := by rw [performed_append, he, List.append_nil, h.names]
  nodup := by
    rw [performed_append, he, List.append_nil]
    exact h.nodup
  mem m i o := by
    rw [h.mem]
    by_cases hm : m = n
    · subst hm
      rw [hanswer, Shared.record_self]
      obtain ⟨i', o', waiting⟩ := c
      simp
    · rw [Shared.record_ne w hm]
  played := h.played

/-- A call that is performed comes last. -/
theorem perform (h : Linearized serve s es w log) {n : ν} {i : ι} {waiting : Bool}
    (hcall : w.calls n = some ⟨i, none, waiting⟩) :
    Linearized serve s (es ++ [.perform n])
      ({ w with object := (serve w.object i).2 }.record n ⟨i, some (serve w.object i).1, waiting⟩)
      (log ++ [(n, i, (serve w.object i).1)]) where
  names := by
    rw [performed_append, List.map_append, h.names]
    rfl
  nodup := by
    have hnew : n ∉ performed es := by
      rw [h.mem_performed]
      rintro ⟨i', o', waiting', hcall'⟩
      rw [hcall] at hcall'
      cases hcall'
    rw [performed_append]
    exact List.nodup_append.2 ⟨h.nodup, List.nodup_singleton n, by
      rintro m hm _ hn rfl
      exact hnew (List.mem_singleton.1 hn ▸ hm)⟩
  mem m j o := by
    rw [List.mem_append, h.mem, List.mem_singleton]
    by_cases hm : m = n
    · subst hm
      rw [Shared.record_self, hcall]
      simp [eq_comm]
    · rw [Shared.record_ne _ hm]
      simp [hm]
  played := by
    rw [List.map_append, List.map_append, List.map_singleton, List.map_singleton, play_concat,
      h.played]
    rfl

/-- One event. -/
theorem step (h : Linearized serve s es w log) {e : Event ν ι}
    (hstep : w.step serve e = some w') : ∃ log', Linearized serve s (es ++ [e]) w' log' := by
  cases e with
  | invoke n i =>
    obtain ⟨hcall, rfl⟩ := step_invoke.1 hstep
    exact ⟨log, h.record (by simp [hcall]) rfl⟩
  | perform n =>
    obtain ⟨i, waiting, hcall, rfl⟩ := step_perform.1 hstep
    exact ⟨_, h.perform hcall⟩
  | answer n =>
    obtain ⟨i, o, hcall, rfl⟩ := step_answer.1 hstep
    exact ⟨log, h.record (by simp [hcall]) rfl⟩
  | giveUp n =>
    obtain ⟨i, o, hcall, rfl⟩ := step_giveUp.1 hstep
    exact ⟨log, h.record (by simp [hcall]) rfl⟩

end Linearized

/-- **Main theorem.** Every run is linearized by the order in which its calls are performed. -/
theorem exists_linearized (h : Transition.run (Shared.step serve) (Shared.start s) es = some w) :
    ∃ log, Linearized serve s es w log := by
  induction es using List.reverseRecOn generalizing w with
  | nil =>
    cases h
    exact ⟨[], .start s⟩
  | append_singleton es e ih =>
    obtain ⟨w₁, hrun, hstep⟩ := (Transition.run_concat_eq_some _).1 h
    obtain ⟨log, hlog⟩ := ih hrun
    exact hlog.step hstep

/-! ## Calls that do not overlap -/

/-- A call whose answer is returned was performed. -/
theorem mem_performed_of_answer
    (h : Transition.run (Shared.step serve) (Shared.start s) es = some w) {n : ν}
    (hn : Event.answer n ∈ es) : n ∈ performed es := by
  obtain ⟨a, b, rfl⟩ := List.append_of_mem hn
  obtain ⟨w₁, hrun, hrest⟩ := (Transition.run_append_eq_some _).1 h
  obtain ⟨w₂, hstep, -⟩ := (Transition.run_cons_eq_some _).1 hrest
  obtain ⟨i, o, hcall, -⟩ := step_answer.1 hstep
  obtain ⟨log, hlog⟩ := exists_linearized hrun
  rw [performed_append]
  exact List.mem_append_left _ (hlog.mem_performed.2 ⟨i, o, true, hcall⟩)

/-- A call is not performed before it is invoked. -/
theorem not_mem_performed_of_invoke {a b : List (Event ν ι)}
    (h : Transition.run (Shared.step serve) (Shared.start s) (a ++ b) = some w) {n : ν} {i : ι}
    (hn : Event.invoke n i ∈ b) : n ∉ performed a := by
  obtain ⟨b₁, b₂, rfl⟩ := List.append_of_mem hn
  rw [← List.append_assoc] at h
  obtain ⟨w₁, hrun, hrest⟩ := (Transition.run_append_eq_some _).1 h
  obtain ⟨w₂, hstep, -⟩ := (Transition.run_cons_eq_some _).1 hrest
  obtain ⟨hcall, -⟩ := step_invoke.1 hstep
  obtain ⟨log, hlog⟩ := exists_linearized hrun
  intro hmem
  have hboth : n ∈ performed (a ++ b₁) := by
    rw [performed_append]
    exact List.mem_append_left _ hmem
  obtain ⟨i', o', waiting, hcall'⟩ := hlog.mem_performed.1 hboth
  rw [hcall] at hcall'
  cases hcall'

/-- A call that precedes another one is performed before it. -/
theorem Precedes.performed {n m : ν} (hprec : Precedes es n m)
    (h : Transition.run (Shared.step serve) (Shared.start s) es = some w)
    (hm : m ∈ performed es) : Before (performed es) n m := by
  obtain ⟨a, b, rfl, hn, i, hinvoke⟩ := hprec
  obtain ⟨w₁, hrun, -⟩ := (Transition.run_append_eq_some _).1 h
  rw [performed_append, List.mem_append] at hm
  have hlate : m ∈ Linearize.performed b :=
    hm.resolve_left (not_mem_performed_of_invoke h hinvoke)
  exact ⟨_, _, performed_append a b, mem_performed_of_answer hrun hn, hlate⟩

/-- What is performed between a call and one that it precedes was not over before the first,
    and not invoked after the second. -/
theorem Linearized.exists_between (hlog : Linearized serve s es w log)
    (h : Transition.run (Shared.step serve) (Shared.start s) es = some w) {n m : ν} {i i' : ι}
    {o o' : ο} (hn : (n, i, o) ∈ log) (hm : (m, i', o') ∈ log) (hprec : Precedes es n m) :
    ∃ l₁ l₂ l₃, log = l₁ ++ (n, i, o) :: (l₂ ++ (m, i', o') :: l₃) ∧
      ∀ e ∈ l₂, e.1 ≠ n ∧ ¬ Precedes es e.1 n ∧ ¬ Precedes es m e.1 := by
  have hmem : ∀ e ∈ log, e.1 ∈ performed es := by
    intro e he
    rw [← hlog.names]
    exact List.mem_map_of_mem he
  obtain ⟨l₁, rest, rfl⟩ := List.append_of_mem hn
  have hnodup : (l₁.map Prod.fst ++ n :: rest.map Prod.fst).Nodup := by
    have hnodup := hlog.nodup
    rw [← hlog.names, List.map_append, List.map_cons] at hnodup
    exact hnodup
  have hbefore : Before (l₁.map Prod.fst ++ n :: rest.map Prod.fst) n m := by
    have hbefore := hprec.performed h (hmem _ hm)
    rw [← hlog.names, List.map_append, List.map_cons] at hbefore
    exact hbefore
  have hrest : (m, i', o') ∈ rest := by
    rcases List.mem_append.1 hm with hfirst | hrest
    · have hafter : Before (l₁.map Prod.fst ++ n :: rest.map Prod.fst) m n :=
        ⟨_, _, rfl, List.mem_map_of_mem hfirst, List.mem_cons_self⟩
      exact absurd hafter (hbefore.not_of_nodup hnodup)
    · rcases List.mem_cons.1 hrest with heq | hrest
      · cases heq
        exact absurd hbefore (hbefore.not_of_nodup hnodup)
      · exact hrest
  obtain ⟨l₂, l₃, rfl⟩ := List.append_of_mem hrest
  refine ⟨l₁, l₂, l₃, rfl, fun e he => ?_⟩
  have hlogged : e ∈ l₁ ++ (n, i, o) :: (l₂ ++ (m, i', o') :: l₃) := by simp [he]
  have hafter : Before (performed es) n e.1 := by
    rw [← hlog.names]
    exact ⟨(l₁ ++ [(n, i, o)]).map Prod.fst, (l₂ ++ (m, i', o') :: l₃).map Prod.fst,
      by simp, by simp, List.mem_map_of_mem (by simp [he])⟩
  have hahead : Before (performed es) e.1 m := by
    rw [← hlog.names]
    exact ⟨(l₁ ++ (n, i, o) :: l₂).map Prod.fst, ((m, i', o') :: l₃).map Prod.fst,
      by simp, List.mem_map_of_mem (by simp [he]), by simp⟩
  refine ⟨?_, fun hearly => ?_, fun hlate => ?_⟩
  · intro heq
    rw [heq] at hafter
    exact hafter.not_of_nodup hlog.nodup hafter
  · exact hafter.not_of_nodup hlog.nodup (hearly.performed h (hmem _ hn))
  · exact hahead.not_of_nodup hlog.nodup (hlate.performed h (hmem e hlogged))

end Linearize
