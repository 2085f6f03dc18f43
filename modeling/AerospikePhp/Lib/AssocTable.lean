import Mathlib.Data.List.Pairwise
import Mathlib.Tactic.Common
import Mathlib.Tactic.SplitIfs

/-!
# Hash tables as association lists

A hash table over keys compared by `eq` is the list of its entries, no two of
which have equal keys. Writing to a key that is present replaces its value and
keeps the entry's key and place; writing to a new key adds an entry.

Results:
* `insert_distinct`: a write keeps the keys distinct.
* `insertAll_of_distinct`: writing entries with distinct new keys adds exactly
  these entries, in order.
* `insertAll_nil_eq_iff`: entries written to an empty table are all there iff their keys
  are distinct.
* `Includes.symm`: tables of as many entries, one of which includes the other, include each
  other.
-/

namespace AssocTable

variable {K V : Type*} (eq : K → K → Bool)

/-- The keys are pairwise different. -/
def Distinct (t : List (K × V)) : Prop :=
  t.Pairwise fun e e' => eq e.1 e'.1 = false

instance (t : List (K × V)) : Decidable (Distinct eq t) :=
  inferInstanceAs (Decidable (t.Pairwise fun e e' => eq e.1 e'.1 = false))

/-- `t[k] = v`. -/
def insert : List (K × V) → K → V → List (K × V)
  | [], k, v => [(k, v)]
  | e :: t, k, v => if eq e.1 k then (e.1, v) :: t else e :: insert t k v

/-- Writing the entries `es` in order. -/
def insertAll (t : List (K × V)) (es : List (K × V)) : List (K × V) :=
  es.foldl (fun t e => insert eq t e.1 e.2) t

@[simp] theorem insertAll_nil (t : List (K × V)) : insertAll eq t [] = t := rfl

@[simp] theorem insertAll_cons (t : List (K × V)) (e : K × V) (es : List (K × V)) :
    insertAll eq t (e :: es) = insertAll eq (insert eq t e.1 e.2) es := rfl

theorem insert_of_new {t : List (K × V)} {k : K} (v : V)
    (h : ∀ e ∈ t, eq e.1 k = false) : insert eq t k v = t ++ [(k, v)] := by
  induction t with
  | nil => rfl
  | cons e t ih =>
    have he : eq e.1 k = false := h e (by simp)
    have ht := ih fun e' he' => h e' (by simp [he'])
    simp [insert, he, ht]

/-- An entry after a write is an old one, or it holds the value written under
    the key written or a key of the table. -/
theorem mem_insert {t : List (K × V)} {k : K} {v : V} {e : K × V}
    (h : e ∈ insert eq t k v) : e ∈ t ∨ e.2 = v ∧ (e.1 = k ∨ ∃ e' ∈ t, e'.1 = e.1) := by
  induction t with
  | nil =>
    simp only [insert, List.mem_singleton] at h
    subst h
    exact .inr ⟨rfl, .inl rfl⟩
  | cons e₀ t ih =>
    simp only [insert] at h
    split_ifs at h
    · rcases List.mem_cons.1 h with rfl | h
      · exact .inr ⟨rfl, .inr ⟨e₀, by simp, rfl⟩⟩
      · exact .inl (by simp [h])
    · rcases List.mem_cons.1 h with rfl | h
      · exact .inl (by simp)
      · rcases ih h with ht | ⟨hv, hk | ⟨e', he', hk⟩⟩
        · exact .inl (by simp [ht])
        · exact .inr ⟨hv, .inl hk⟩
        · exact .inr ⟨hv, .inr ⟨e', by simp [he'], hk⟩⟩

theorem insert_distinct {t : List (K × V)} (h : Distinct eq t) (k : K) (v : V) :
    Distinct eq (insert eq t k v) := by
  induction t with
  | nil => simp [insert, Distinct]
  | cons e t ih =>
    obtain ⟨he, ht⟩ := List.pairwise_cons.1 h
    simp only [insert]
    split_ifs with hk
    · exact List.pairwise_cons.2 ⟨he, ht⟩
    · refine List.pairwise_cons.2 ⟨fun e' he' => ?_, ih ht⟩
      have hnew : eq e.1 k = false := by simpa using hk
      rcases mem_insert eq he' with hmem | ⟨-, hkey | ⟨e'', hmem, hkey⟩⟩
      · exact he e' hmem
      · rw [hkey]
        exact hnew
      · rw [← hkey]
        exact he e'' hmem

theorem insert_ne_nil (t : List (K × V)) (k : K) (v : V) : insert eq t k v ≠ [] := by
  cases t with
  | nil => simp [insert]
  | cons e t =>
    rw [insert]
    split_ifs
    · simp
    · simp

theorem insertAll_ne_nil {t es : List (K × V)} (h : t ≠ [] ∨ es ≠ []) :
    insertAll eq t es ≠ [] := by
  induction es generalizing t with
  | nil => simpa using h
  | cons e es ih =>
    rw [insertAll_cons]
    exact ih (.inl (insert_ne_nil eq t e.1 e.2))

theorem length_insert_le (t : List (K × V)) (k : K) (v : V) :
    (insert eq t k v).length ≤ t.length + 1 := by
  induction t with
  | nil => simp [insert]
  | cons e t ih =>
    rw [insert]
    split_ifs
    · simp
    · simpa using ih

theorem length_insertAll_le (t es : List (K × V)) :
    (insertAll eq t es).length ≤ t.length + es.length := by
  induction es generalizing t with
  | nil => simp
  | cons e es ih =>
    have hinsert := length_insert_le eq t e.1 e.2
    have hrest := ih (insert eq t e.1 e.2)
    rw [insertAll_cons, List.length_cons]
    omega

theorem insertAll_of_distinct {t es : List (K × V)} (h : Distinct eq (t ++ es)) :
    insertAll eq t es = t ++ es := by
  induction es generalizing t with
  | nil => simp
  | cons e es ih =>
    have hnew : ∀ e' ∈ t, eq e'.1 e.1 = false := by
      intro e' he'
      exact (List.pairwise_append.1 h).2.2 e' he' e (by simp)
    rw [insertAll_cons, insert_of_new eq e.2 hnew, ih]
    · simp
    · simpa using h

/-- A write that makes the table longer is one to a new key. -/
theorem new_of_length_insert {t : List (K × V)} {k : K} {v : V}
    (h : (insert eq t k v).length = t.length + 1) : ∀ e ∈ t, eq e.1 k = false := by
  induction t with
  | nil => simp
  | cons e t ih =>
    rw [insert] at h
    split_ifs at h with hk
    · simp at h
    · have ht : (insert eq t k v).length = t.length + 1 := by simpa using h
      exact List.forall_mem_cons.2 ⟨eq_false_of_ne_true hk, ih ht⟩

/-- Writes that each make the table longer have distinct new keys. -/
theorem distinct_of_length_insertAll {t es : List (K × V)} (ht : Distinct eq t)
    (h : (insertAll eq t es).length = t.length + es.length) : Distinct eq (t ++ es) := by
  induction es generalizing t with
  | nil => rwa [List.append_nil]
  | cons e es ih =>
    rw [insertAll_cons, List.length_cons] at h
    have hle := length_insert_le eq t e.1 e.2
    have hall := length_insertAll_le eq (insert eq t e.1 e.2) es
    have hinsert : (insert eq t e.1 e.2).length = t.length + 1 := by omega
    have hnew := insert_of_new eq e.2 (new_of_length_insert eq hinsert)
    have hdistinct := ih (insert_distinct eq ht e.1 e.2) (by omega)
    rwa [hnew, List.append_assoc, List.singleton_append] at hdistinct

/-- Writing entries to an empty table gives as many iff their keys are distinct, and then
    these entries. -/
theorem insertAll_nil_eq_iff {es es' : List (K × V)} (hlength : es'.length = es.length) :
    insertAll eq [] es = es' ↔ es = es' ∧ Distinct eq es := by
  constructor
  · intro h
    have hdistinct : Distinct eq ([] ++ es) := by
      refine distinct_of_length_insertAll eq .nil ?_
      rw [h, hlength, List.length_nil, Nat.zero_add]
    rw [insertAll_of_distinct eq hdistinct] at h
    exact ⟨h, hdistinct⟩
  · rintro ⟨rfl, hdistinct⟩
    exact insertAll_of_distinct eq hdistinct

/-- Tables with the same entries and the same keys in order are the same. -/
theorem eq_of_perm {t t' : List (K × V)} (hperm : t.Perm t')
    (hkeys : t.map Prod.fst = t'.map Prod.fst) (hnodup : (t.map Prod.fst).Nodup) : t = t' := by
  induction t generalizing t' with
  | nil => exact hperm.nil_eq
  | cons e t ih =>
    cases t' with
    | nil => cases hperm.symm.nil_eq
    | cons e' t' =>
      obtain ⟨-, htails⟩ := List.cons.inj hkeys
      obtain ⟨hnew, hnodup⟩ := List.nodup_cons.1 hnodup
      have he : e = e' := by
        rcases List.mem_cons.1 (hperm.mem_iff.1 (List.mem_cons_self ..)) with he | he
        · exact he
        · exact absurd (htails ▸ List.mem_map_of_mem he) hnew
      subst he
      rw [ih hperm.cons_inv htails hnodup]

/-! ## Tables that are compared -/

/-- Every entry of `t` is in `t'`, with an equal key and an equal value. -/
def Includes (eqV : V → V → Bool) (t t' : List (K × V)) : Prop :=
  ∀ e ∈ t, ∃ e' ∈ t', eq e.1 e'.1 = true ∧ eqV e.2 e'.2 = true

section Includes

variable {eq} {eqV : V → V → Bool} {t t' t'' : List (K × V)}

theorem Includes.refl (hkeys : ∀ e ∈ t, eq e.1 e.1 = true) (hvalues : ∀ e ∈ t, eqV e.2 e.2 = true) :
    Includes eq eqV t t :=
  fun e he => ⟨e, he, hkeys e he, hvalues e he⟩

theorem Includes.trans (h : Includes eq eqV t t') (h' : Includes eq eqV t' t'')
    (hkeys : ∀ e ∈ t, ∀ e' ∈ t', ∀ e'' ∈ t'', eq e.1 e'.1 = true → eq e'.1 e''.1 = true →
      eq e.1 e''.1 = true)
    (hvalues : ∀ e ∈ t, ∀ e' ∈ t', ∀ e'' ∈ t'', eqV e.2 e'.2 = true → eqV e'.2 e''.2 = true →
      eqV e.2 e''.2 = true) : Includes eq eqV t t'' := by
  intro e he
  obtain ⟨e', he', hkey, hvalue⟩ := h e he
  obtain ⟨e'', he'', hkey', hvalue'⟩ := h' e' he'
  exact ⟨e'', he'', hkeys e he e' he' e'' he'' hkey hkey',
    hvalues e he e' he' e'' he'' hvalue hvalue'⟩

/-- A table that includes one with as many distinct keys is included in it. -/
theorem Includes.symm (h : Includes eq eqV t t') (hdistinct : Distinct eq t)
    (hlength : t'.length ≤ t.length)
    (hsymm : ∀ e ∈ t, ∀ e' ∈ t', eq e.1 e'.1 = true → eq e'.1 e.1 = true)
    (hsymmV : ∀ e ∈ t, ∀ e' ∈ t', eqV e.2 e'.2 = true → eqV e'.2 e.2 = true)
    (htrans : ∀ e ∈ t, ∀ e' ∈ t', ∀ e₁ ∈ t, eq e.1 e'.1 = true → eq e'.1 e₁.1 = true →
      eq e.1 e₁.1 = true) : Includes eq eqV t' t := by
  induction t generalizing t' with
  | nil =>
    intro e' he'
    rw [List.length_nil, Nat.le_zero, List.length_eq_zero_iff] at hlength
    rw [hlength] at he'
    cases he'
  | cons e t ih =>
    obtain ⟨hnew, hdistinct⟩ := List.pairwise_cons.1 hdistinct
    obtain ⟨e', he', hkey, hvalue⟩ := h e List.mem_cons_self
    have hsymm' := hsymm e List.mem_cons_self e' he' hkey
    have hsymmV' := hsymmV e List.mem_cons_self e' he' hvalue
    -- what is left of `t'` without the partner of `e` includes what is left of the table
    obtain ⟨x, y, rfl⟩ := List.append_of_mem he'
    have hsub : ∀ d ∈ x ++ y, d ∈ x ++ e' :: y := by
      intro d hd
      rcases List.mem_append.1 hd with hd | hd
      · exact List.mem_append_left _ hd
      · exact List.mem_append_right _ (List.mem_cons_of_mem _ hd)
    have hincludes : Includes eq eqV t (x ++ y) := by
      intro e₁ he₁
      have he₁' := List.mem_cons_of_mem e he₁
      obtain ⟨d, hd, hkey₁, hvalue₁⟩ := h e₁ he₁'
      have hdmem := hd
      rw [List.mem_append, List.mem_cons] at hd
      rcases hd with hd | rfl | hd
      · exact ⟨d, List.mem_append_left _ hd, hkey₁, hvalue₁⟩
      · have hboth := htrans e List.mem_cons_self d hdmem e₁ he₁' hkey
          (hsymm e₁ he₁' d hdmem hkey₁)
        rw [hnew e₁ he₁] at hboth
        cases hboth
      · exact ⟨d, List.mem_append_right _ hd, hkey₁, hvalue₁⟩
    have hrest : Includes eq eqV (x ++ y) t := by
      refine ih hincludes hdistinct ?_ ?_ ?_ ?_
      · rw [List.length_append, List.length_cons, List.length_cons] at hlength
        rw [List.length_append]
        omega
      · exact fun d hd d' hd' => hsymm d (List.mem_cons_of_mem e hd) d' (hsub d' hd')
      · exact fun d hd d' hd' => hsymmV d (List.mem_cons_of_mem e hd) d' (hsub d' hd')
      · exact fun d hd d' hd' d₁ hd₁ => htrans d (List.mem_cons_of_mem e hd) d' (hsub d' hd') d₁
          (List.mem_cons_of_mem e hd₁)
    intro d hd
    rw [List.mem_append, List.mem_cons] at hd
    rcases hd with hd | rfl | hd
    · obtain ⟨e₁, he₁, hequal⟩ := hrest d (List.mem_append_left _ hd)
      exact ⟨e₁, List.mem_cons_of_mem e he₁, hequal⟩
    · exact ⟨e, List.mem_cons_self, hsymm', hsymmV'⟩
    · obtain ⟨e₁, he₁, hequal⟩ := hrest d (List.mem_append_right _ hd)
      exact ⟨e₁, List.mem_cons_of_mem e he₁, hequal⟩

end Includes

end AssocTable
