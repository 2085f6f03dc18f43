import Mathlib.Data.List.Forall2
import Mathlib.Data.List.Nodup
import Mathlib.Logic.Function.Basic
import Mathlib.Tactic.Common
import Mathlib.Tactic.SplitIfs

/-!
# Tables of records

A table has a record at some of its places, and a record has values under some of its names.
Writes go to one record: each puts a value under a name, or takes away the one that is there.
They start from the values of the old record, or from none when they replace it. A record
that is left without values is gone.

Results:
* `putAll_of_mem`: after writes under different names, each name has the value written to it.
* `map_write`, `map_remove`: writes of translated values make the translated table.
* `write_ne`, `remove_ne`: the other places keep their records.
* `lookup_filter`, `lookup_forall₂`: the values of a record that is a list.
-/

namespace Records

variable {P N V W : Type*}

/-- The values of a record, by name. -/
abbrev Fields (N V : Type*) := N → Option V

/-- The records, by place. -/
abbrev Table (P N V : Type*) := P → Option (Fields N V)

namespace Fields

def empty : Fields N V := fun _ => none

/-- The values under some names, or under all when none is given. -/
def select [DecidableEq N] (names : List N) (r : Fields N V) : Fields N V :=
  fun n => if names = [] ∨ n ∈ names then r n else none

/-- One write: a value under a name, or none in its place. -/
def put [DecidableEq N] (r : Fields N V) (w : N × Option V) : Fields N V :=
  Function.update r w.1 w.2

/-- The writes in order. -/
def putAll [DecidableEq N] (r : Fields N V) (ws : List (N × Option V)) : Fields N V :=
  ws.foldl put r

open Classical in
/-- The record with these values, if there are any. -/
noncomputable def kept (r : Fields N V) : Option (Fields N V) :=
  if ∀ n, r n = none then none else some r

/-- The values that writes start from. -/
def base (replace : Bool) (old : Option (Fields N V)) : Fields N V :=
  if replace then empty else old.getD empty

def map (f : V → W) (r : Fields N V) : Fields N W := fun n => (r n).map f

end Fields

namespace Table

variable [DecidableEq P] [DecidableEq N]

noncomputable def write (t : Table P N V) (p : P) (replace : Bool) (ws : List (N × Option V)) :
    Table P N V :=
  Function.update t p (((Fields.base replace (t p)).putAll ws).kept)

def remove (t : Table P N V) (p : P) : Table P N V := Function.update t p none

def map (f : V → W) (t : Table P N V) : Table P N W := fun p => (t p).map (Fields.map f)

end Table

/-- A write of translated values. -/
def mapWrite (f : V → W) (w : N × Option V) : N × Option W := (w.1, w.2.map f)

/-! ## Values in a list -/

theorem names_forall₂ {R : V → W → Prop} {l : List (N × V)} {l' : List (N × W)}
    (h : List.Forall₂ (fun e e' => e'.1 = e.1 ∧ R e.2 e'.2) l l') :
    l'.map Prod.fst = l.map Prod.fst := by
  induction h with
  | nil => rfl
  | cons he _ ih => rw [List.map_cons, List.map_cons, he.1, ih]

section Lookup

variable [DecidableEq N]

theorem lookup_of_mem {l : List (N × V)} (hnodup : (l.map Prod.fst).Nodup) {e : N × V}
    (he : e ∈ l) : l.lookup e.1 = some e.2 := by
  induction l with
  | nil => cases he
  | cons e' l ih =>
    obtain ⟨hnew, hrest⟩ := List.nodup_cons.1 hnodup
    obtain ⟨n, v⟩ := e'
    rcases List.mem_cons.1 he with rfl | he
    · simp only [List.lookup_cons, beq_self_eq_true]
    · have hmem : e.1 ∈ l.map Prod.fst := List.mem_map_of_mem he
      have hn : e.1 ≠ n := by
        intro heq
        rw [heq] at hmem
        exact hnew hmem
      simp only [List.lookup_cons, beq_eq_false_iff_ne.2 hn]
      exact ih hrest he

theorem lookup_of_notMem {l : List (N × V)} {n : N} (hn : n ∉ l.map Prod.fst) :
    l.lookup n = none := by
  rw [List.lookup_eq_none_iff]
  intro e he
  have hne : n ≠ e.1 := fun heq => hn (heq ▸ List.mem_map_of_mem he)
  simpa using hne

/-- The order of the entries does not matter when their names are different. -/
theorem lookup_perm {l l' : List (N × V)} (hnodup : (l.map Prod.fst).Nodup) (hperm : l.Perm l')
    (n : N) : l.lookup n = l'.lookup n := by
  have hnames : (l.map Prod.fst).Perm (l'.map Prod.fst) := hperm.map _
  by_cases hn : n ∈ l.map Prod.fst
  · obtain ⟨e, he, rfl⟩ := List.mem_map.1 hn
    rw [lookup_of_mem hnodup he,
      lookup_of_mem (hnames.nodup_iff.1 hnodup) (hperm.mem_iff.1 he)]
  · rw [lookup_of_notMem hn, lookup_of_notMem fun h => hn (hnames.mem_iff.2 h)]

theorem lookup_filter (p : N → Bool) (l : List (N × V)) (n : N) :
    (l.filter fun e => p e.1).lookup n = if p n then l.lookup n else none := by
  induction l with
  | nil => simp
  | cons e l ih =>
    obtain ⟨n', v⟩ := e
    by_cases hn : n = n'
    · subst hn
      by_cases hp : p n = true
      · simp [hp]
      · simp only [List.filter_cons, if_neg hp, ih]
    · have hbeq : (n == n') = false := beq_eq_false_iff_ne.2 hn
      by_cases hp : p n' = true
      · simp only [List.filter_cons, if_pos hp, List.lookup_cons, hbeq, ih]
      · simp only [List.filter_cons, if_neg hp, List.lookup_cons, hbeq, ih]

/-- Names and values that are translated. -/
theorem lookup_map {M : Type*} [DecidableEq M] {f : N → M} (hf : Function.Injective f) (g : V → W)
    (l : List (N × V)) (n : N) :
    (l.map fun e => (f e.1, g e.2)).lookup (f n) = (l.lookup n).map g := by
  induction l with
  | nil => rfl
  | cons e l ih =>
    obtain ⟨n', v⟩ := e
    by_cases hn : n = n'
    · subst hn
      simp only [List.map_cons, List.lookup_cons, beq_self_eq_true, Option.map_some]
    · have hfn : f n ≠ f n' := fun heq => hn (hf heq)
      simp only [List.map_cons, List.lookup_cons, beq_eq_false_iff_ne.2 hn,
        beq_eq_false_iff_ne.2 hfn, ih]

/-- Lists with the same names, and values that are related. -/
theorem lookup_forall₂ {R : V → W → Prop} {l : List (N × V)} {l' : List (N × W)}
    (h : List.Forall₂ (fun e e' => e'.1 = e.1 ∧ R e.2 e'.2) l l') (n : N) :
    Option.Rel R (l.lookup n) (l'.lookup n) := by
  induction h with
  | nil => exact .none
  | @cons e e' l l' he _ ih =>
    obtain ⟨n₁, v⟩ := e
    obtain ⟨n₂, v'⟩ := e'
    obtain ⟨hname, hvalue⟩ := he
    obtain rfl : n₂ = n₁ := hname
    by_cases hn : n = n₂
    · subst hn
      simp only [List.lookup_cons, beq_self_eq_true]
      exact .some hvalue
    · simp only [List.lookup_cons, beq_eq_false_iff_ne.2 hn]
      exact ih

end Lookup

/-! ## Fields -/

namespace Fields

variable [DecidableEq N] {r : Fields N V}

theorem putAll_cons (w : N × Option V) (ws : List (N × Option V)) :
    r.putAll (w :: ws) = (r.put w).putAll ws := rfl

omit [DecidableEq N] in
theorem kept_of_some {n : N} {v : V} (h : r n = some v) : r.kept = some r := by
  have hsome : ¬ ∀ n, r n = none := by
    intro hnone
    rw [hnone n] at h
    cases h
  unfold kept
  rw [if_neg hsome]

/-! ### Translations -/

variable (f : V → W)

theorem map_put (w : N × Option V) : (r.put w).map f = (r.map f).put (mapWrite f w) := by
  funext n
  unfold map put mapWrite
  by_cases hn : n = w.1
  · subst hn
    simp
  · simp [Function.update_of_ne hn]

theorem map_putAll (ws : List (N × Option V)) :
    (r.putAll ws).map f = (r.map f).putAll (ws.map (mapWrite f)) := by
  induction ws generalizing r with
  | nil => rfl
  | cons w ws ih => rw [List.map_cons, putAll_cons, putAll_cons, ih, map_put]

omit [DecidableEq N] in
theorem map_kept : r.kept.map (map f) = (r.map f).kept := by
  have hnone : (∀ n, r.map f n = none) ↔ ∀ n, r n = none := by
    simp [map]
  unfold kept
  by_cases h : ∀ n, r n = none
  · rw [if_pos h, if_pos (hnone.2 h)]
    rfl
  · rw [if_neg h, if_neg fun h' => h (hnone.1 h')]
    rfl

omit [DecidableEq N] in
theorem map_base (replace : Bool) (old : Option (Fields N V)) :
    (base replace old).map f = base replace (old.map (map f)) := by
  cases replace with
  | true => rfl
  | false =>
    cases old with
    | none => rfl
    | some r => rfl

theorem map_select (names : List N) : (r.select names).map f = (r.map f).select names := by
  funext n
  unfold map select
  split_ifs
  · rfl
  · rfl

end Fields

/-! ## Tables -/

namespace Table

variable [DecidableEq P] [DecidableEq N] {t : Table P N V} {p q : P}

theorem write_self (replace : Bool) (ws : List (N × Option V)) :
    t.write p replace ws p = ((Fields.base replace (t p)).putAll ws).kept :=
  Function.update_self p _ t

theorem write_ne (h : q ≠ p) (replace : Bool) (ws : List (N × Option V)) :
    t.write p replace ws q = t q :=
  Function.update_of_ne h _ t

omit [DecidableEq N] in
theorem remove_ne (h : q ≠ p) : t.remove p q = t q := Function.update_of_ne h _ t

/-! ### Translations -/

variable (f : V → W)

theorem map_write (replace : Bool) (ws : List (N × Option V)) :
    (t.write p replace ws).map f = (t.map f).write p replace (ws.map (mapWrite f)) := by
  funext q
  by_cases hq : q = p
  · subst hq
    show (t.write q replace ws q).map (Fields.map f) = (t.map f).write q replace _ q
    rw [write_self, write_self, Fields.map_kept, Fields.map_putAll, Fields.map_base]
    rfl
  · show (t.write p replace ws q).map (Fields.map f) = (t.map f).write p replace _ q
    rw [write_ne hq, write_ne hq]
    rfl

omit [DecidableEq N] in
theorem map_remove : (t.remove p).map f = (t.map f).remove p := by
  funext q
  unfold map remove
  by_cases hq : q = p
  · subst hq
    simp
  · simp [Function.update_of_ne hq]

end Table

end Records
