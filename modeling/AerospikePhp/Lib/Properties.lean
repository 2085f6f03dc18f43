import AerospikePhp.Lib.Fallible
import Mathlib.Data.List.Basic

/-!
# Objects with properties

An object has properties `i : ι`, each with values of its own type `V i`, a getter and a
setter that may fail. A write is a property and a value of it.

`Register acc Inv i Holds` says that property `i` has a place of its own in the object:
its setter makes this place hold the value, and no other setter changes it.

Results:
* `Keeps.exists_writeAll`: setters that succeed and keep an invariant make sequences of
  writes that do.
* `Register.last`: after a sequence of writes the place of a property holds the last
  value written to it, or what it held before.
* `Table.registers`: a table of properties whose setters never fail.
* `Register.inner`, `Register.unwrapped`, `Register.inl`, `Register.inr`: the places of
  an inner object, and those of an object with two kinds of properties.
-/

namespace Properties

variable {ε P Q U α : Type}

/-- A property: its getter and its setter. -/
structure Accessor (ε P U : Type) where
  get : P → Except ε U
  set : P → U → Except ε P

/-! ## Inner objects -/

/-- An optional object inside another one. -/
structure Slot (P Q : Type) where
  part : P → Option Q
  put : P → Option Q → P
  part_put : ∀ p q, part (put p q) = q

/-- The object inside is there, and has the property. -/
def Slot.Filled (s : Slot P Q) (Inv : Q → Prop) (p : P) : Prop :=
  ∃ q, s.part p = some q ∧ Inv q

namespace Accessor

/-- A field of the object. -/
def field (get : P → U) (set : P → U → P) : Accessor ε P U where
  get p := .ok (get p)
  set p v := .ok (set p v)

/-- A field of the object that holds the code of a value. -/
def coded {C : Type} (encode : U → C) (decode : C → Except ε U) (get : P → C)
    (set : P → C → P) : Accessor ε P U where
  get p := decode (get p)
  set p v := .ok (set p (encode v))

/-- A property of an inner object. Without it the getter fails and the setter does
    nothing. -/
def inner (e : ε) (s : Slot P Q) (a : Accessor ε Q U) : Accessor ε P U where
  get p := match s.part p with
    | some q => a.get q
    | none => .error e
  set p v := match s.part p with
    | some q => do return s.put p (some (← a.set q v))
    | none => .ok p

/-- A property of an inner object. Without it the getter and the setter fail. -/
def unwrapped (e : ε) (s : Slot P Q) (a : Accessor ε Q U) : Accessor ε P U where
  get p := match s.part p with
    | some q => a.get q
    | none => .error e
  set p v := match s.part p with
    | some q => do return s.put p (some (← a.set q v))
    | none => .error e

section Inner

variable {e : ε} {s : Slot P Q} {a : Accessor ε Q U} {p p' : P} {q : Q} {v : U}

theorem get_inner (hq : s.part p = some q) : (a.inner e s).get p = a.get q := by
  simp only [inner, hq]

theorem get_unwrapped (hq : s.part p = some q) : (a.unwrapped e s).get p = a.get q := by
  simp only [unwrapped, hq]

theorem set_inner_eq_ok (hq : s.part p = some q) :
    (a.inner e s).set p v = .ok p' ↔ ∃ q', a.set q v = .ok q' ∧ s.put p (some q') = p' := by
  simp only [inner, hq, Fallible.bind_eq_ok, Fallible.pure_eq_ok, Except.ok.injEq]

theorem set_unwrapped_eq_ok :
    (a.unwrapped e s).set p v = .ok p' ↔
      ∃ q q', s.part p = some q ∧ a.set q v = .ok q' ∧ s.put p (some q') = p' := by
  cases hq : s.part p with
  | none => simp [unwrapped, hq]
  | some q =>
    simp only [unwrapped, hq, Fallible.bind_eq_ok, Fallible.pure_eq_ok, Except.ok.injEq,
      Option.some.injEq]
    constructor
    · rintro ⟨q', hset, hput⟩
      exact ⟨q, q', rfl, hset, hput⟩
    · rintro ⟨_, q', rfl, hset, hput⟩
      exact ⟨q', hset, hput⟩

/-- A setter of an inner object changes nothing but this object. -/
theorem exists_put_of_set_inner (h : (a.inner e s).set p v = .ok p') :
    p' = p ∨ ∃ q', p' = s.put p (some q') := by
  cases hq : s.part p with
  | none =>
    simp only [inner, hq, Except.ok.injEq] at h
    exact .inl h.symm
  | some q =>
    obtain ⟨q', -, hput⟩ := (set_inner_eq_ok hq).1 h
    exact .inr ⟨q', hput.symm⟩

end Inner

end Accessor

/-! ## Writes -/

variable {ι : Type} {V : ι → Type}

/-- A write: a property, and a value of it. -/
abbrev Write (V : ι → Type) := Σ i, V i

/-- The object after the writes `ws`, in order. -/
def writeAll (acc : ∀ i, Accessor ε P (V i)) (p : P) (ws : List (Write V)) : Except ε P :=
  ws.foldlM (fun p w => (acc w.1).set p w.2) p

/-- What is read of the last write of which anything is read. -/
def lastOf (read : Write V → Option α) : List (Write V) → Option α
  | [] => none
  | w :: ws => (lastOf read ws).or (read w)

/-- The value that a write gives to property `i`, if it is a write of it. -/
def valueFor [DecidableEq ι] (i : ι) (w : Write V) : Option (V i) :=
  if h : w.1 = i then some (h ▸ w.2) else none

/-- The last value written to property `i`. -/
def lastValue [DecidableEq ι] (ws : List (Write V)) (i : ι) : Option (V i) :=
  lastOf (valueFor i) ws

@[simp] theorem valueFor_self [DecidableEq ι] (i : ι) (v : V i) :
    valueFor i (⟨i, v⟩ : Write V) = some v := by
  rw [valueFor, dif_pos rfl]

section WriteAll

variable {acc : ∀ i, Accessor ε P (V i)} {Inv : P → Prop}

theorem writeAll_cons_eq_ok {p p' : P} {w : Write V} {ws : List (Write V)} :
    writeAll acc p (w :: ws) = .ok p' ↔
      ∃ p₁, (acc w.1).set p w.2 = .ok p₁ ∧ writeAll acc p₁ ws = .ok p' := by
  rw [writeAll, List.foldlM_cons, Fallible.bind_eq_ok]
  rfl

/-- From an object with the invariant, every setter succeeds and keeps it. -/
def Keeps (acc : ∀ i, Accessor ε P (V i)) (Inv : P → Prop) : Prop :=
  ∀ i p (v : V i), Inv p → ∃ p', (acc i).set p v = .ok p' ∧ Inv p'

theorem Keeps.inv (h : Keeps acc Inv) {i : ι} {p p' : P} {v : V i} (hp : Inv p)
    (hset : (acc i).set p v = .ok p') : Inv p' := by
  obtain ⟨p₁, h₁, hp₁⟩ := h i p v hp
  rw [hset, Except.ok.injEq] at h₁
  exact h₁ ▸ hp₁

theorem Keeps.exists_writeAll (h : Keeps acc Inv) {p : P} (hp : Inv p) (ws : List (Write V)) :
    ∃ p', writeAll acc p ws = .ok p' ∧ Inv p' := by
  induction ws generalizing p with
  | nil => exact ⟨p, rfl, hp⟩
  | cons w ws ih =>
    obtain ⟨p₁, h₁, hp₁⟩ := h w.1 p w.2 hp
    obtain ⟨p', hrun, hp'⟩ := ih hp₁
    exact ⟨p', writeAll_cons_eq_ok.2 ⟨p₁, h₁, hrun⟩, hp'⟩

/-- If every write makes a part of the object hold what is read of it, or leaves this
    part as it was, then after a sequence of writes it holds what was read last. -/
theorem Keeps.holds_lastOf (hkeeps : Keeps acc Inv) {Holds : P → α → Prop}
    {read : Write V → Option α}
    (hset : ∀ {p p' w a}, Inv p → (acc w.1).set p w.2 = .ok p' → read w = some a → Holds p' a)
    (hother : ∀ {p p' w a}, (acc w.1).set p w.2 = .ok p' → read w = none → Holds p a →
      Holds p' a)
    {p p' : P} {a : α} {ws : List (Write V)} (hp : Inv p) (h : writeAll acc p ws = .ok p')
    (ha : Holds p a) : Holds p' ((lastOf read ws).getD a) := by
  induction ws generalizing p a with
  | nil =>
    cases h
    exact ha
  | cons w ws ih =>
    obtain ⟨p₁, h₁, h⟩ := writeAll_cons_eq_ok.1 h
    have hp₁ : Inv p₁ := hkeeps.inv hp h₁
    rw [lastOf]
    cases hw : read w with
    | none =>
      rw [Option.or_none]
      exact ih hp₁ h (hother h₁ hw ha)
    | some b =>
      have hb := ih hp₁ h (hset hp h₁ hw)
      cases hlast : lastOf read ws with
      | none =>
        rw [hlast] at hb
        exact hb
      | some c =>
        rw [hlast] at hb
        exact hb

/-! ## Registers -/

/-- Property `i` has a place of its own. -/
structure Register (acc : ∀ i, Accessor ε P (V i)) (Inv : P → Prop) (i : ι)
    (Holds : P → V i → Prop) : Prop where
  set : ∀ {p p' v}, Inv p → (acc i).set p v = .ok p' → Holds p' v
  other : ∀ {j p p' v} {w : V j}, j ≠ i → (acc j).set p w = .ok p' → Holds p v → Holds p' v

theorem Register.mono {Inv' : P → Prop} {i : ι} {Holds : P → V i → Prop}
    (h : Register acc Inv i Holds) (himp : ∀ {p}, Inv' p → Inv p) :
    Register acc Inv' i Holds where
  set hp hset := h.set (himp hp) hset
  other := h.other

/-- A property alone. -/
theorem Register.single {a : Accessor ε P α} {Holds : P → α → Prop}
    (hset : ∀ {p p' v}, a.set p v = .ok p' → Holds p' v) :
    Register (fun _ : Unit => a) Inv () Holds where
  set _ h := hset h
  other hne := absurd rfl hne

theorem Register.last [DecidableEq ι] {i : ι} {Holds : P → V i → Prop}
    (hreg : Register acc Inv i Holds) (hkeeps : Keeps acc Inv) {p p' : P} {v : V i}
    {ws : List (Write V)} (hp : Inv p) (h : writeAll acc p ws = .ok p') (hv : Holds p v) :
    Holds p' ((lastValue ws i).getD v) := by
  refine hkeeps.holds_lastOf ?_ ?_ hp h hv
  · rintro p p' ⟨j, w⟩ a hp hset ha
    rw [valueFor] at ha
    split_ifs at ha with hji
    · subst hji
      cases ha
      exact hreg.set hp hset
  · rintro p p' ⟨j, w⟩ a hset hnone ha
    refine hreg.other ?_ hset ha
    rintro rfl
    rw [valueFor_self] at hnone
    cases hnone

/-- A table of properties whose setters never fail: each makes its own place hold the value, and
    leaves every other place as it was. -/
def Table (acc : ∀ i, Accessor ε P (V i)) (Holds : ∀ i, P → V i → Prop) : Prop :=
  ∀ i p (v : V i), ∃ p', (acc i).set p v = .ok p' ∧ Holds i p' v ∧
    ∀ j, j ≠ i → ∀ w, Holds j p w → Holds j p' w

namespace Table

variable {Holds : ∀ i, P → V i → Prop} (htable : Table acc Holds)
include htable

theorem keeps : Keeps acc fun _ => True := by
  intro i p v _
  obtain ⟨p', hset, -⟩ := htable i p v
  exact ⟨p', hset, trivial⟩

theorem register (i : ι) : Register acc Inv i (Holds i) where
  set := by
    intro p p' v _ hset
    obtain ⟨p₁, h₁, hv, -⟩ := htable i p v
    rw [hset, Except.ok.injEq] at h₁
    exact h₁ ▸ hv
  other := by
    intro j p p' v w hne hset hv
    obtain ⟨p₁, h₁, -, hother⟩ := htable j p w
    rw [hset, Except.ok.injEq] at h₁
    exact h₁ ▸ hother i hne.symm v hv

end Table

end WriteAll

/-! ## Independent properties -/

section Independent

variable [DecidableEq ι] {acc : ∀ i, Accessor ε P (V i)} {Inv : P → Prop}
  {Holds : ∀ i, P → V i → Prop} {i : ι} {p p' : P} {v : V i} {ws : List (Write V)}

/-- What property `i` should read as after the writes: the last value written to it, or
    what it read as before. -/
def expected (acc : ∀ i, Accessor ε P (V i)) (p : P) (ws : List (Write V)) (i : ι) :
    Except ε (V i) :=
  match lastValue ws i with
  | some v => .ok v
  | none => (acc i).get p

/-- After the writes every property reads as expected, and its place holds this value. -/
def Independent (acc : ∀ i, Accessor ε P (V i)) (Holds : ∀ i, P → V i → Prop) (p : P)
    (ws : List (Write V)) : Prop :=
  ∃ p', writeAll acc p ws = .ok p' ∧
    ∀ i, ∃ v, expected acc p ws i = .ok v ∧ (acc i).get p' = .ok v ∧ Holds i p' v

/-- The getter of property `i` reads its place. -/
def Reads (acc : ∀ i, Accessor ε P (V i)) (i : ι) (Holds : P → V i → Prop) : Prop :=
  ∀ {p v}, Holds p v → (acc i).get p = .ok v

/-- The place of property `i` holds what is read. -/
def Fresh (acc : ∀ i, Accessor ε P (V i)) (i : ι) (Holds : P → V i → Prop) (p : P) : Prop :=
  ∃ v, (acc i).get p = .ok v ∧ Holds p v

theorem expected_of_some (h : lastValue ws i = some v) : expected acc p ws i = .ok v := by
  rw [expected, h]

theorem expected_of_none (h : lastValue ws i = none) : expected acc p ws i = (acc i).get p := by
  rw [expected, h]

theorem expected_eq_getD {v₀ : V i} (h : (acc i).get p = .ok v₀) :
    expected acc p ws i = .ok ((lastValue ws i).getD v₀) := by
  cases hlast : lastValue ws i with
  | some v => exact expected_of_some hlast
  | none => rw [expected_of_none hlast, h, Option.getD_none]

/-- Every property has a place of its own, and the object can be read. -/
structure Registers (acc : ∀ i, Accessor ε P (V i)) (Inv : P → Prop)
    (Holds : ∀ i, P → V i → Prop) (p : P) : Prop where
  keeps : Keeps acc Inv
  inv : Inv p
  register : ∀ i, Register acc Inv i (Holds i)
  fresh : ∀ i, Fresh acc i (Holds i) p

omit [DecidableEq ι] in
theorem Table.registers (htable : Table acc Holds) (hfresh : ∀ i, Fresh acc i (Holds i) p) :
    Registers acc (fun _ => True) Holds p where
  keeps := htable.keeps
  inv := trivial
  register := htable.register
  fresh := hfresh

namespace Registers

variable (hreg : Registers acc Inv Holds p) (h : writeAll acc p ws = .ok p')
include hreg h

theorem holds_getD {v₀ : V i} (hv₀ : Holds i p v₀) : Holds i p' ((lastValue ws i).getD v₀) :=
  (hreg.register i).last hreg.keeps hreg.inv h hv₀

theorem holds_expected {v : V i} (hv : expected acc p ws i = .ok v) : Holds i p' v := by
  obtain ⟨v₀, hget, hv₀⟩ := hreg.fresh i
  rw [expected_eq_getD hget, Except.ok.injEq] at hv
  exact hv ▸ hreg.holds_getD h hv₀

/-- A getter that reads its own place reads as expected. -/
theorem get_eq_expected (hreads : Reads acc i (Holds i)) :
    (acc i).get p' = expected acc p ws i := by
  obtain ⟨v₀, hget, hv₀⟩ := hreg.fresh i
  rw [expected_eq_getD hget]
  exact hreads (hreg.holds_getD h hv₀)

/-- When the getter of property `k` reads as expected, by what is in the place that it
    reads, that of property `l`. -/
theorem getter_iff (k l : ι) (v₀ : V k) (u₀ : V l) {C : Prop} (hv₀ : (acc k).get p = .ok v₀)
    (hu₀ : Holds l p u₀)
    (hget : Holds l p' ((lastValue ws l).getD u₀) →
      ((acc k).get p' = .ok ((lastValue ws k).getD v₀) ↔ C)) :
    (acc k).get p' = expected acc p ws k ↔ C := by
  rw [expected_eq_getD hv₀]
  exact hget (hreg.holds_getD h hu₀)

/-- Registers are independent iff the getters read as expected. -/
theorem independent_iff :
    Independent acc Holds p ws ↔ ∀ i, (acc i).get p' = expected acc p ws i := by
  constructor
  · rintro ⟨p₁, h₁, hall⟩ i
    rw [h, Except.ok.injEq] at h₁
    subst h₁
    obtain ⟨v, hexp, hget, -⟩ := hall i
    rw [hget, hexp]
  · intro hget
    refine ⟨p', h, fun i => ?_⟩
    obtain ⟨v₀, hget₀, hv₀⟩ := hreg.fresh i
    have hexp : expected acc p ws i = .ok ((lastValue ws i).getD v₀) := expected_eq_getD hget₀
    exact ⟨_, hexp, (hget i).trans hexp, hreg.holds_getD h hv₀⟩

/-- Where one getter may read another place, the rest is up to it. -/
theorem independent_iff_of_getter {k : ι} {C : Prop}
    (hk : (acc k).get p' = expected acc p ws k ↔ C)
    (hreads : ∀ i, i ≠ k → Reads acc i (Holds i)) : Independent acc Holds p ws ↔ C := by
  refine (hreg.independent_iff h).trans ⟨fun hget => hk.1 (hget k), fun hC i => ?_⟩
  by_cases hi : i = k
  · subst hi
    exact hk.2 hC
  · exact hreg.get_eq_expected h (hreads i hi)

end Registers

end Independent

/-! ## Registers of an inner object -/

section Inner

variable {acc : ∀ i, Accessor ε Q (V i)} {Inv : Q → Prop} {e : ε} {s : Slot P Q}

theorem Keeps.inner (h : Keeps acc Inv) :
    Keeps (fun i => (acc i).inner e s) (s.Filled Inv) := by
  rintro i p v ⟨q, hpart, hq⟩
  obtain ⟨q', hset, hq'⟩ := h i q v hq
  exact ⟨_, (Accessor.set_inner_eq_ok hpart).2 ⟨q', hset, rfl⟩, q', s.part_put p _, hq'⟩

theorem Keeps.unwrapped (h : Keeps acc Inv) :
    Keeps (fun i => (acc i).unwrapped e s) (s.Filled Inv) := by
  rintro i p v ⟨q, hpart, hq⟩
  obtain ⟨q', hset, hq'⟩ := h i q v hq
  exact ⟨_, Accessor.set_unwrapped_eq_ok.2 ⟨q, q', hpart, hset, rfl⟩, q', s.part_put p _, hq'⟩

variable {i : ι} {Holds : Q → V i → Prop}

theorem Register.inner (h : Register acc Inv i Holds) :
    Register (fun i => (acc i).inner e s) (s.Filled Inv) i
      fun p v => s.Filled (Holds · v) p where
  set := by
    rintro p p' v ⟨q, hpart, hq⟩ hset
    obtain ⟨q', hset', rfl⟩ := (Accessor.set_inner_eq_ok hpart).1 hset
    exact ⟨q', s.part_put p _, h.set hq hset'⟩
  other := by
    rintro j p p' v w hji hset ⟨q, hpart, hv⟩
    obtain ⟨q', hset', rfl⟩ := (Accessor.set_inner_eq_ok hpart).1 hset
    exact ⟨q', s.part_put p _, h.other hji hset' hv⟩

theorem Register.unwrapped (h : Register acc Inv i Holds) :
    Register (fun i => (acc i).unwrapped e s) (s.Filled Inv) i
      fun p v => s.Filled (Holds · v) p where
  set := by
    rintro p p' v ⟨q, hpart, hq⟩ hset
    obtain ⟨q₁, q', hpart₁, hset', rfl⟩ := Accessor.set_unwrapped_eq_ok.1 hset
    rw [hpart, Option.some.injEq] at hpart₁
    subst hpart₁
    exact ⟨q', s.part_put p _, h.set hq hset'⟩
  other := by
    rintro j p p' v w hji hset ⟨q, hpart, hv⟩
    obtain ⟨q₁, q', hpart₁, hset', rfl⟩ := Accessor.set_unwrapped_eq_ok.1 hset
    rw [hpart, Option.some.injEq] at hpart₁
    subst hpart₁
    exact ⟨q', s.part_put p _, h.other hji hset' hv⟩

end Inner

/-! ## Two kinds of properties -/

section Sum

variable {κ : Type} {W : κ → Type} {acc₁ : ∀ i, Accessor ε P (V i)}
  {acc₂ : ∀ j, Accessor ε P (W j)} {Inv : P → Prop}

/-- An object with two kinds of properties. -/
def sum (acc₁ : ∀ i, Accessor ε P (V i)) (acc₂ : ∀ j, Accessor ε P (W j)) :
    ∀ k, Accessor ε P (Sum.elim V W k)
  | .inl i => acc₁ i
  | .inr j => acc₂ j

theorem Keeps.sum (h₁ : Keeps acc₁ Inv) (h₂ : Keeps acc₂ Inv) :
    Keeps (Properties.sum acc₁ acc₂) Inv
  | .inl i, p, v, hp => h₁ i p v hp
  | .inr j, p, v, hp => h₂ j p v hp

theorem Register.inl {i : ι} {Holds : P → V i → Prop} (h : Register acc₁ Inv i Holds)
    (hcross : ∀ {j p p' v} {w : W j}, (acc₂ j).set p w = .ok p' → Holds p v → Holds p' v) :
    Register (Properties.sum acc₁ acc₂) Inv (.inl i) Holds where
  set := h.set
  other := by
    rintro (j | j) p p' v w hne hset hv
    · exact h.other (fun heq => hne (congrArg Sum.inl heq)) hset hv
    · exact hcross hset hv

theorem Register.inr {j : κ} {Holds : P → W j → Prop} (h : Register acc₂ Inv j Holds)
    (hcross : ∀ {i p p' v} {w : V i}, (acc₁ i).set p w = .ok p' → Holds p v → Holds p' v) :
    Register (Properties.sum acc₁ acc₂) Inv (.inr j) Holds where
  set := h.set
  other := by
    rintro (i | i) p p' v w hne hset hv
    · exact hcross hset hv
    · exact h.other (fun heq => hne (congrArg Sum.inr heq)) hset hv

end Sum

end Properties
