import AerospikePhp.Value.Native

/-!
# Values as keys

The keys of the hash maps of the extension are values, compared by the derived `PartialEq` and
hashed by an `impl Hash` of its own (`src/lib.rs` lines 11142–11224), which throws an exception
for what should not be a key, and hashes nothing of it.

A hash map needs equality to be an equivalence, and equal keys to be hashed alike. Two maps are
compared by their lengths and by the entries of one of them only.

Results:
* `WellKeyed.equivalence`: equality is an equivalence on the values of which every map has
  distinct keys.
* `hash_eq_of_eq`: equal values are hashed alike, with the same exceptions.
-/

namespace AerospikePhp

/-! ## What equality looks at -/

namespace F64

theorem orderedEq_refl (x : F64) : x.orderedEq x = true := by
  unfold orderedEq goEq
  cases x.isNaN <;> simp

theorem orderedEq_symm {x y : F64} (h : x.orderedEq y = true) : y.orderedEq x = true := by
  unfold orderedEq goEq at *
  grind

theorem orderedEq_trans {x y z : F64} (h : x.orderedEq y = true) (h' : y.orderedEq z = true) :
    x.orderedEq z = true := by
  unfold orderedEq goEq at *
  grind [isZero, isNaN]

/-- The bits of a number, those of one of the zeros and of one of the NaNs for all of them. -/
def canonicalBits (x : F64) : UInt64 :=
  if x.isNaN then 0x7ff8000000000000 else if x.isZero then 0 else x.bits

theorem canonicalBits_eq {x y : F64} (h : x.orderedEq y = true) :
    canonicalBits x = canonicalBits y := by
  unfold orderedEq goEq at h
  unfold canonicalBits isZero at *
  grind

end F64

namespace PHPValue

open AssocTable (Includes Distinct)

theorem hashMapSubset_iff {h h' : List (PHPValue × PHPValue)} :
    hashMapSubset h h' = true ↔ Includes eq eq h h' := by
  induction h with
  | nil => simp [hashMapSubset, Includes]
  | cons e h ih =>
    obtain ⟨k, v⟩ := e
    rw [hashMapSubset, Bool.and_eq_true, ih, List.any_eq_true]
    simp [Includes]

theorem jsonSubset_iff {h h' : List (String × PHPValue)} :
    jsonSubset h h' = true ↔ Includes (· == ·) eq h h' := by
  induction h with
  | nil => simp [jsonSubset, Includes]
  | cons e h ih =>
    obtain ⟨k, v⟩ := e
    rw [jsonSubset, Bool.and_eq_true, ih, List.any_eq_true]
    simp [Includes]

theorem listEq_iff : ∀ {l l' : List PHPValue},
    listEq l l' = true ↔ List.Forall₂ (fun v w => v.eq w = true) l l'
  | [], [] => by simp [listEq]
  | v :: vs, w :: ws => by
    rw [listEq, Bool.and_eq_true, listEq_iff, List.forall₂_cons]
  | [], _ :: _ => by simp [listEq]
  | _ :: _, [] => by simp [listEq]

theorem eq_list {l : List PHPValue} {w : PHPValue} :
    (list l).eq w = true ↔ ∃ l', w = list l' ∧ List.Forall₂ (fun v w => v.eq w = true) l l' := by
  cases w <;> simp [eq, listEq_iff]

theorem eq_hashMap {h : List (PHPValue × PHPValue)} {w : PHPValue} :
    (hashMap h).eq w = true ↔
      ∃ h', w = hashMap h' ∧ h.length = h'.length ∧ Includes eq eq h h' := by
  cases w <;> simp [eq, hashMapSubset_iff]

theorem eq_json {h : List (String × PHPValue)} {w : PHPValue} :
    (json h).eq w = true ↔
      ∃ h', w = json h' ∧ h.length = h'.length ∧ Includes (· == ·) eq h h' := by
  cases w <;> simp [eq, jsonSubset_iff]

theorem eq_float {x : F64} {w : PHPValue} :
    (float x).eq w = true ↔ ∃ y, w = float y ∧ x.orderedEq y = true := by
  cases w <;> simp [eq]

/-- Neither a number with several representations nor a value that holds other values. -/
def Scalar : PHPValue → Prop
  | float _ | list _ | hashMap _ | json _ => False
  | _ => True

theorem eq_of_scalar {v w : PHPValue} (h : v.eq w = true) (hv : v.Scalar) : v = w := by
  cases v with
  | float _ | list _ | hashMap _ | json _ => exact absurd hv id
  | _ => cases w <;> simp_all [eq]

/-! ## Values with distinct keys -/

mutual

/-- Every map in the value has distinct keys. -/
def WellKeyed : PHPValue → Prop
  | list l => listWellKeyed l
  | hashMap h => Distinct eq h ∧ hashMapWellKeyed h
  | json h => Distinct (· == ·) h ∧ jsonWellKeyed h
  | _ => True

def listWellKeyed : List PHPValue → Prop
  | [] => True
  | v :: vs => v.WellKeyed ∧ listWellKeyed vs

def hashMapWellKeyed : List (PHPValue × PHPValue) → Prop
  | [] => True
  | (k, v) :: h => (k.WellKeyed ∧ v.WellKeyed) ∧ hashMapWellKeyed h

def jsonWellKeyed : List (String × PHPValue) → Prop
  | [] => True
  | (_, v) :: h => v.WellKeyed ∧ jsonWellKeyed h

end

theorem listWellKeyed_iff {l : List PHPValue} : listWellKeyed l ↔ ∀ v ∈ l, v.WellKeyed := by
  induction l with
  | nil => simp [listWellKeyed]
  | cons v vs ih => simp [listWellKeyed, ih]

theorem hashMapWellKeyed_iff {h : List (PHPValue × PHPValue)} :
    hashMapWellKeyed h ↔ ∀ e ∈ h, e.1.WellKeyed ∧ e.2.WellKeyed := by
  induction h with
  | nil => simp [hashMapWellKeyed]
  | cons e h ih =>
    obtain ⟨k, v⟩ := e
    simp [hashMapWellKeyed, ih]

theorem jsonWellKeyed_iff {h : List (String × PHPValue)} :
    jsonWellKeyed h ↔ ∀ e ∈ h, e.2.WellKeyed := by
  induction h with
  | nil => simp [jsonWellKeyed]
  | cons e h ih =>
    obtain ⟨k, v⟩ := e
    simp [jsonWellKeyed, ih]

/-! ## Values that the extension has -/

theorem hashMapWellKeyed_insert {t : List (PHPValue × PHPValue)} {k v : PHPValue}
    (ht : hashMapWellKeyed t) (hk : k.WellKeyed) (hv : v.WellKeyed) :
    hashMapWellKeyed (AssocTable.insert eq t k v) := by
  rw [hashMapWellKeyed_iff] at *
  intro e he
  rcases AssocTable.mem_insert eq he with hold | ⟨rfl, rfl | ⟨e', he', hkey⟩⟩
  · exact ht e hold
  · exact ⟨hk, hv⟩
  · exact ⟨hkey ▸ (ht e' he').1, hv⟩

theorem jsonWellKeyed_insert {t : List (String × PHPValue)} {k : String} {v : PHPValue}
    (ht : jsonWellKeyed t) (hv : v.WellKeyed) :
    jsonWellKeyed (AssocTable.insert (· == ·) t k v) := by
  rw [jsonWellKeyed_iff] at *
  intro e he
  rcases AssocTable.mem_insert _ he with hold | ⟨rfl, -⟩
  · exact ht e hold
  · exact hv

mutual

/-- What is decoded of a message has distinct keys. -/
theorem fromProto_wellKeyed : ∀ {p : Proto.Value} {v : PHPValue},
    fromProto p = .ok v → v.WellKeyed
  | .l l, _, h => by
    rw [fromProto] at h
    obtain ⟨vs, hl, h⟩ := Fallible.bind_eq_ok.1 h
    cases h
    exact listFromProto_wellKeyed hl
  | .json j, _, h => by
    rw [fromProto] at h
    obtain ⟨t, hj, h⟩ := Fallible.bind_eq_ok.1 h
    cases h
    exact jsonFromProto_wellKeyed hj .nil trivial
  | .m m, _, h => by
    rw [fromProto] at h
    obtain ⟨t, hm, h⟩ := Fallible.bind_eq_ok.1 h
    cases h
    exact mapFromProto_wellKeyed hm .nil trivial
  | .unset, _, h => by
    rw [fromProto] at h
    cases h
  | .nil _, _, h | .b _, _, h | .i _, _, h | .f _, _, h | .s _, _, h | .blob _, _, h
  | .geo _, _, h | .hll _, _, h | .infinity _, _, h | .wildcard _, _, h => by
    rw [fromProto] at h
    cases h
    trivial

theorem listFromProto_wellKeyed : ∀ {ps : List Proto.Value} {vs : List PHPValue},
    listFromProto ps = .ok vs → listWellKeyed vs
  | [], _, h => by
    rw [listFromProto] at h
    cases h
    trivial
  | p :: ps, _, h => by
    rw [listFromProto] at h
    obtain ⟨v, hv, h⟩ := Fallible.bind_eq_ok.1 h
    obtain ⟨vs, hvs, h⟩ := Fallible.bind_eq_ok.1 h
    cases h
    exact ⟨fromProto_wellKeyed hv, listFromProto_wellKeyed hvs⟩

theorem fromProtoOption_wellKeyed : ∀ {p : Option Proto.Value} {v : PHPValue},
    fromProtoOption p = .ok v → v.WellKeyed
  | none, _, h => by
    rw [fromProtoOption] at h
    cases h
  | some p, _, h => by
    rw [fromProtoOption] at h
    exact fromProto_wellKeyed h

theorem jsonFromProto_wellKeyed : ∀ {j : List (String × Option Proto.Value)}
    {t t' : List (String × PHPValue)}, jsonFromProto j t = .ok t' → Distinct (· == ·) t →
      jsonWellKeyed t → Distinct (· == ·) t' ∧ jsonWellKeyed t'
  | [], _, _, h, hdistinct, ht => by
    rw [jsonFromProto] at h
    cases h
    exact ⟨hdistinct, ht⟩
  | (k, p) :: j, _, _, h, hdistinct, ht => by
    rw [jsonFromProto] at h
    obtain ⟨v, hv, h⟩ := Fallible.bind_eq_ok.1 h
    exact jsonFromProto_wellKeyed h (AssocTable.insert_distinct _ hdistinct k v)
      (jsonWellKeyed_insert ht (fromProtoOption_wellKeyed hv))

theorem mapFromProto_wellKeyed : ∀ {m : List (Option Proto.Value × Option Proto.Value)}
    {t t' : List (PHPValue × PHPValue)}, mapFromProto m t = .ok t' → Distinct eq t →
      hashMapWellKeyed t → Distinct eq t' ∧ hashMapWellKeyed t'
  | [], _, _, h, hdistinct, ht => by
    rw [mapFromProto] at h
    cases h
    exact ⟨hdistinct, ht⟩
  | (none, _) :: m, _, _, h, hdistinct, ht => by
    rw [mapFromProto] at h
    exact mapFromProto_wellKeyed h hdistinct ht
  | (some pk, pv) :: m, _, _, h, hdistinct, ht => by
    rw [mapFromProto] at h
    obtain ⟨k, hk, h⟩ := Fallible.bind_eq_ok.1 h
    obtain ⟨v, hv, h⟩ := Fallible.bind_eq_ok.1 h
    exact mapFromProto_wellKeyed h (AssocTable.insert_distinct eq hdistinct k v)
      (hashMapWellKeyed_insert ht (fromProto_wellKeyed hk) (fromProtoOption_wellKeyed hv))

end

theorem PlainKey.scalar {k : PHPValue} (h : PlainKey k) : k.Scalar := by
  cases h with
  | _ => trivial

theorem PlainKey.wellKeyed {k : PHPValue} (h : PlainKey k) : k.WellKeyed := by
  cases h with
  | _ => trivial

/-- So has what is made of a value of PHP. -/
theorem Plain.wellKeyed {v : PHPValue} (h : v.Plain) : v.WellKeyed := by
  induction h with
  | list l _ ih => exact listWellKeyed_iff.2 ih
  | hashMap t keys distinct _ ih =>
    refine ⟨distinct.imp_of_mem ?_, hashMapWellKeyed_iff.2 fun e he =>
      ⟨(keys e he).wellKeyed, ih e he⟩⟩
    intro e e' he _ hne
    exact Bool.eq_false_iff.2 fun heq => hne (eq_of_scalar heq (keys e he).scalar)
  | _ => trivial

/-! ## Equality is an equivalence -/

mutual

theorem eq_refl : ∀ v : PHPValue, v.eq v = true
  | float x => eq_float.2 ⟨x, rfl, x.orderedEq_refl⟩
  | list l => eq_list.2 ⟨l, rfl, list_refl l⟩
  | hashMap h => eq_hashMap.2 ⟨h, rfl, rfl, .refl (fun e he => (hashMap_refl h e he).1)
      fun e he => (hashMap_refl h e he).2⟩
  | json h => eq_json.2 ⟨h, rfl, rfl, .refl (fun e _ => beq_self_eq_true e.1) (json_refl h)⟩
  | nil | bool _ | int _ | uInt _ | string _ | blob _ | geoJSON _ | hll _ | wildcard
  | infinity => by simp [eq]

theorem list_refl : ∀ l : List PHPValue, List.Forall₂ (fun v w => v.eq w = true) l l
  | [] => .nil
  | v :: vs => .cons (eq_refl v) (list_refl vs)

theorem hashMap_refl : ∀ h : List (PHPValue × PHPValue), ∀ e ∈ h,
    e.1.eq e.1 = true ∧ e.2.eq e.2 = true
  | (k, v) :: h, e, he => by
    rcases List.mem_cons.1 he with rfl | he
    · exact ⟨eq_refl k, eq_refl v⟩
    · exact hashMap_refl h e he

theorem json_refl : ∀ h : List (String × PHPValue), ∀ e ∈ h, e.2.eq e.2 = true
  | (_, v) :: h, e, he => by
    rcases List.mem_cons.1 he with rfl | he
    · exact eq_refl v
    · exact json_refl h e he

end

/-- The values that a value holds. -/
def PartOf (x : PHPValue) : PHPValue → Prop
  | list l => x ∈ l
  | hashMap h => ∃ e ∈ h, x = e.1 ∨ x = e.2
  | json h => ∃ e ∈ h, x = e.2
  | _ => False

theorem PartOf.sizeOf_lt {x v : PHPValue} (h : x.PartOf v) : sizeOf x < sizeOf v := by
  cases v with
  | list l =>
    have hlt := List.sizeOf_lt_of_mem h
    simp only [list.sizeOf_spec]
    omega
  | hashMap l =>
    obtain ⟨⟨k, v⟩, he, hx⟩ := h
    have hlt := List.sizeOf_lt_of_mem he
    simp only [hashMap.sizeOf_spec, Prod.mk.sizeOf_spec] at hlt ⊢
    rcases hx with rfl | rfl
    · omega
    · omega
  | json l =>
    obtain ⟨⟨k, v⟩, he, rfl⟩ := h
    have hlt := List.sizeOf_lt_of_mem he
    simp only [json.sizeOf_spec, Prod.mk.sizeOf_spec] at hlt ⊢
    omega
  | _ => exact absurd h id

theorem PartOf.wellKeyed {x v : PHPValue} (h : x.PartOf v) (hv : v.WellKeyed) : x.WellKeyed := by
  cases v with
  | list l => exact listWellKeyed_iff.1 hv x h
  | hashMap l =>
    obtain ⟨e, he, rfl | rfl⟩ := h
    · exact (hashMapWellKeyed_iff.1 hv.2 e he).1
    · exact (hashMapWellKeyed_iff.1 hv.2 e he).2
  | json l =>
    obtain ⟨e, he, rfl⟩ := h
    exact jsonWellKeyed_iff.1 hv.2 e he
  | _ => exact absurd h id

/-- Equality is symmetric and transitive on a set of values. -/
structure EqvOn (P : PHPValue → Prop) : Prop where
  symm : ∀ v w, P v → P w → v.eq w = true → w.eq v = true
  trans : ∀ u v w, P u → P v → P w → u.eq v = true → v.eq w = true → u.eq w = true

namespace EqvOn

variable {P : PHPValue → Prop} (hP : EqvOn P)
include hP

theorem list_symm {l l' : List PHPValue} (h : List.Forall₂ (fun v w => v.eq w = true) l l')
    (hl : ∀ v ∈ l, P v) (hl' : ∀ v ∈ l', P v) :
    List.Forall₂ (fun v w => v.eq w = true) l' l := by
  induction h with
  | nil => exact .nil
  | cons hvw _ ih =>
    obtain ⟨hv, hl⟩ := List.forall_mem_cons.1 hl
    obtain ⟨hw, hl'⟩ := List.forall_mem_cons.1 hl'
    exact .cons (hP.symm _ _ hv hw hvw) (ih hl hl')

theorem list_trans {l l' l'' : List PHPValue}
    (h : List.Forall₂ (fun v w => v.eq w = true) l l')
    (h' : List.Forall₂ (fun v w => v.eq w = true) l' l'')
    (hl : ∀ v ∈ l, P v) (hl' : ∀ v ∈ l', P v) (hl'' : ∀ v ∈ l'', P v) :
    List.Forall₂ (fun v w => v.eq w = true) l l'' := by
  induction h generalizing l'' with
  | nil => exact h'
  | cons huv _ ih =>
    cases h' with
    | cons hvw h' =>
      obtain ⟨hu, hl⟩ := List.forall_mem_cons.1 hl
      obtain ⟨hv, hl'⟩ := List.forall_mem_cons.1 hl'
      obtain ⟨hw, hl''⟩ := List.forall_mem_cons.1 hl''
      exact .cons (hP.trans _ _ _ hu hv hw huv hvw) (ih h' hl hl' hl'')

/-- Symmetry on values that hold values of `P` only. -/
theorem symm_of_parts {v w : PHPValue} (hv : v.WellKeyed) (hpv : ∀ x, x.PartOf v → P x)
    (hpw : ∀ x, x.PartOf w → P x) (h : v.eq w = true) : w.eq v = true := by
  cases v with
  | float x =>
    obtain ⟨y, rfl, hxy⟩ := eq_float.1 h
    exact eq_float.2 ⟨x, rfl, F64.orderedEq_symm hxy⟩
  | list l =>
    obtain ⟨l', rfl, hl⟩ := eq_list.1 h
    exact eq_list.2 ⟨l, rfl, hP.list_symm hl hpv hpw⟩
  | hashMap t =>
    obtain ⟨t', rfl, hlength, ht⟩ := eq_hashMap.1 h
    have hk : ∀ e ∈ t, P e.1 ∧ P e.2 := fun e he =>
      ⟨hpv _ ⟨e, he, .inl rfl⟩, hpv _ ⟨e, he, .inr rfl⟩⟩
    have hk' : ∀ e ∈ t', P e.1 ∧ P e.2 := fun e he =>
      ⟨hpw _ ⟨e, he, .inl rfl⟩, hpw _ ⟨e, he, .inr rfl⟩⟩
    refine eq_hashMap.2 ⟨t, rfl, hlength.symm, ht.symm hv.1 (Nat.le_of_eq hlength.symm) ?_ ?_ ?_⟩
    · exact fun e he e' he' => hP.symm _ _ (hk e he).1 (hk' e' he').1
    · exact fun e he e' he' => hP.symm _ _ (hk e he).2 (hk' e' he').2
    · exact fun e he e' he' e₁ he₁ => hP.trans _ _ _ (hk e he).1 (hk' e' he').1 (hk e₁ he₁).1
  | json t =>
    obtain ⟨t', rfl, hlength, ht⟩ := eq_json.1 h
    refine eq_json.2 ⟨t, rfl, hlength.symm, ht.symm hv.1 (Nat.le_of_eq hlength.symm) ?_ ?_ ?_⟩
    · intro e _ e' _ hkey
      exact beq_iff_eq.2 (beq_iff_eq.1 hkey).symm
    · exact fun e he e' he' => hP.symm _ _ (hpv _ ⟨e, he, rfl⟩) (hpw _ ⟨e', he', rfl⟩)
    · intro e _ e' _ e₁ _ hkey hkey'
      exact beq_iff_eq.2 ((beq_iff_eq.1 hkey).trans (beq_iff_eq.1 hkey'))
  | _ =>
    cases eq_of_scalar h trivial
    exact h

/-- Transitivity on values that hold values of `P` only. -/
theorem trans_of_parts {u v w : PHPValue} (hpu : ∀ x, x.PartOf u → P x)
    (hpv : ∀ x, x.PartOf v → P x) (hpw : ∀ x, x.PartOf w → P x) (h : u.eq v = true)
    (h' : v.eq w = true) : u.eq w = true := by
  cases u with
  | float x =>
    obtain ⟨y, rfl, hxy⟩ := eq_float.1 h
    obtain ⟨z, rfl, hyz⟩ := eq_float.1 h'
    exact eq_float.2 ⟨z, rfl, F64.orderedEq_trans hxy hyz⟩
  | list l =>
    obtain ⟨l', rfl, hl⟩ := eq_list.1 h
    obtain ⟨l'', rfl, hl'⟩ := eq_list.1 h'
    exact eq_list.2 ⟨l'', rfl, hP.list_trans hl hl' hpu hpv hpw⟩
  | hashMap t =>
    obtain ⟨t', rfl, hlength, ht⟩ := eq_hashMap.1 h
    obtain ⟨t'', rfl, hlength', ht'⟩ := eq_hashMap.1 h'
    have hk : ∀ e ∈ t, P e.1 ∧ P e.2 := fun e he =>
      ⟨hpu _ ⟨e, he, .inl rfl⟩, hpu _ ⟨e, he, .inr rfl⟩⟩
    have hk' : ∀ e ∈ t', P e.1 ∧ P e.2 := fun e he =>
      ⟨hpv _ ⟨e, he, .inl rfl⟩, hpv _ ⟨e, he, .inr rfl⟩⟩
    have hk'' : ∀ e ∈ t'', P e.1 ∧ P e.2 := fun e he =>
      ⟨hpw _ ⟨e, he, .inl rfl⟩, hpw _ ⟨e, he, .inr rfl⟩⟩
    refine eq_hashMap.2 ⟨t'', rfl, hlength.trans hlength', ht.trans ht' ?_ ?_⟩
    · exact fun e he e' he' e'' he'' => hP.trans _ _ _ (hk e he).1 (hk' e' he').1 (hk'' e'' he'').1
    · exact fun e he e' he' e'' he'' => hP.trans _ _ _ (hk e he).2 (hk' e' he').2 (hk'' e'' he'').2
  | json t =>
    obtain ⟨t', rfl, hlength, ht⟩ := eq_json.1 h
    obtain ⟨t'', rfl, hlength', ht'⟩ := eq_json.1 h'
    refine eq_json.2 ⟨t'', rfl, hlength.trans hlength', ht.trans ht' ?_ ?_⟩
    · intro e _ e' _ e'' _ hkey hkey'
      exact beq_iff_eq.2 ((beq_iff_eq.1 hkey).trans (beq_iff_eq.1 hkey'))
    · exact fun e he e' he' e'' he'' => hP.trans _ _ _ (hpu _ ⟨e, he, rfl⟩) (hpv _ ⟨e', he', rfl⟩)
        (hpw _ ⟨e'', he'', rfl⟩)
  | _ =>
    cases eq_of_scalar h trivial
    exact h'

end EqvOn

/-- Equality is symmetric and transitive on values of a bounded size. -/
theorem eqvOn_below : ∀ n, EqvOn fun v => v.WellKeyed ∧ sizeOf v < n
  | 0 => ⟨fun _ _ h => absurd h.2 (Nat.not_lt_zero _),
      fun _ _ _ h => absurd h.2 (Nat.not_lt_zero _)⟩
  | n + 1 => by
    have hP := eqvOn_below n
    have hparts : ∀ v : PHPValue, v.WellKeyed ∧ sizeOf v < n + 1 →
        ∀ x : PHPValue, x.PartOf v → x.WellKeyed ∧ sizeOf x < n := by
      intro v hv x hx
      have hlt := hx.sizeOf_lt
      exact ⟨hx.wellKeyed hv.1, by omega⟩
    exact ⟨fun v w hv hw => hP.symm_of_parts hv.1 (hparts v hv) (hparts w hw),
      fun u v w hu hv hw => hP.trans_of_parts (hparts u hu) (hparts v hv) (hparts w hw)⟩

/-- **Main theorem.** Equality is an equivalence on the values whose maps have distinct keys. -/
theorem WellKeyed.equivalence :
    Equivalence fun v w : { v : PHPValue // v.WellKeyed } => v.val.eq w.val = true where
  refl v := eq_refl v.val
  symm {v w} h :=
    (eqvOn_below (sizeOf v.val + sizeOf w.val + 1)).symm v.val w.val ⟨v.property, by omega⟩
      ⟨w.property, by omega⟩ h
  trans {u v w} h h' :=
    (eqvOn_below (sizeOf u.val + sizeOf v.val + sizeOf w.val + 1)).trans u.val v.val w.val
      ⟨u.property, by omega⟩ ⟨v.property, by omega⟩ ⟨w.property, by omega⟩ h h'

/-! ## Hashes -/

/-- What `hash` does: it writes to the hasher, or throws an exception. -/
inductive HashAction where
  | writeIsize (i : Int64)
  | writeU8 (b : Bool)
  | writeI64 (i : Int64)
  | writeU64 (ui : UInt64)
  | writeStr (s : String)
  | writeLength (n : Nat)
  | write (b : List UInt8)
  | throw (message : String)
deriving DecidableEq, Repr

section Hash

variable (floatBits : F64 → UInt64)

mutual

/-- `impl Hash for PHPValue` (`src/lib.rs` lines 11192–11224), which does not tell the kinds of
    values apart. `floatBits` is what `OrderedFloat` hashes of a number. -/
def hash : PHPValue → List HashAction
  | nil => [.writeIsize 0]
  | bool b => [.writeU8 b]
  | int i => [.writeI64 i]
  | uInt ui => [.writeU64 ui]
  | float f => [.writeU64 (floatBits f)]
  | string s | geoJSON s => [.writeStr s]
  | blob b | hll b => [.writeLength b.length, .write b]
  | list l => .writeLength l.length :: listHash l
  | hashMap _ => [.throw "HashMaps cannot be used as map keys."]
  | json _ => [.throw "Jsons cannot be used as map keys."]
  | infinity => [.throw "Infinity cannot be used as map keys."]
  | wildcard => [.throw "Infinity cannot be used as map keys."]

def listHash : List PHPValue → List HashAction
  | [] => []
  | v :: vs => hash v ++ listHash vs

end

variable {floatBits}

mutual

theorem hash_alike (hfloat : ∀ x y : F64, x.orderedEq y = true → floatBits x = floatBits y) :
    ∀ {v w : PHPValue}, v.eq w = true → hash floatBits v = hash floatBits w
  | float x, _, h => by
    obtain ⟨y, rfl, hxy⟩ := eq_float.1 h
    rw [hash, hash, hfloat x y hxy]
  | list l, _, h => by
    obtain ⟨l', rfl, hl⟩ := eq_list.1 h
    rw [hash, hash, hl.length_eq, listHash_alike hfloat hl]
  | hashMap t, _, h => by
    obtain ⟨t', rfl, -⟩ := eq_hashMap.1 h
    rw [hash, hash]
  | json t, _, h => by
    obtain ⟨t', rfl, -⟩ := eq_json.1 h
    rw [hash, hash]
  | nil, _, h | bool _, _, h | int _, _, h | uInt _, _, h | string _, _, h | blob _, _, h
  | geoJSON _, _, h | hll _, _, h | wildcard, _, h | infinity, _, h => by
    cases eq_of_scalar h trivial
    rfl

theorem listHash_alike (hfloat : ∀ x y : F64, x.orderedEq y = true → floatBits x = floatBits y) :
    ∀ {l l' : List PHPValue}, List.Forall₂ (fun v w => v.eq w = true) l l' →
      listHash floatBits l = listHash floatBits l'
  | [], _, h => by
    cases h
    rfl
  | _ :: _, _, h => by
    cases h with
    | cons hv hvs => rw [listHash, listHash, hash_alike hfloat hv, listHash_alike hfloat hvs]

end

/-- **Main theorem.** Equal values are hashed alike, with the same exceptions. -/
theorem hash_eq_of_eq (hfloat : ∀ x y : F64, x.orderedEq y = true → floatBits x = floatBits y)
    {v w : PHPValue} (h : v.eq w = true) : hash floatBits v = hash floatBits w :=
  hash_alike hfloat h

/-- The two zeros, in a list. -/
theorem hash_eq_of_eq_zeros :
    hash F64.canonicalBits (list [float ⟨0⟩]) =
      hash F64.canonicalBits (list [float ⟨0x8000000000000000⟩]) := by
  have hzeros : (list [float ⟨0⟩]).eq (list [float ⟨0x8000000000000000⟩]) = true :=
    eq_list.2 ⟨_, rfl, .cons (eq_float.2 ⟨_, rfl, by decide⟩) .nil⟩
  exact hash_eq_of_eq (fun x y => F64.canonicalBits_eq) hzeros

end Hash

end PHPValue

end AerospikePhp
