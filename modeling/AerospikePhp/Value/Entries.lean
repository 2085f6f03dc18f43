import AerospikePhp.Value.Zval
import Mathlib.Data.List.Nodup

/-!
# Entries of arrays

`from_zval` makes a list of a PHP array with sequential keys, and a map of any other one.
A map is filled by one of two loops, over the integer keys or over the string keys
(`src/lib.rs` lines 11387–11420), and each skips the keys of the other kind. Arrays with
keys of both kinds go to the second loop.

Results:
* `written_of_stringsFromZval`, `written_of_longsFromZval`: the entries that a loop writes.
* `written_iff_oneKind`: every entry is written, at every depth, iff no array has keys of
  both kinds.
-/

namespace AerospikePhp

namespace ArrayKey

/-- The key of a map that a key of an array becomes. -/
def toValue : ArrayKey → PHPValue
  | long i => .uInt i.toUInt64
  | string s => .string s

def isString : ArrayKey → Bool
  | long _ => false
  | string _ => true

/-- Different keys are different keys of the map. -/
theorem toValue_eq_false {k k' : ArrayKey} (h : k ≠ k') : k.toValue.eq k'.toValue = false := by
  cases k with
  | long i =>
    cases k' with
    | long i' =>
      have hne : i.toUInt64 ≠ i'.toUInt64 := by
        intro heq
        cases i
        cases i'
        exact h (congrArg (fun u => long ⟨u⟩) heq)
      simpa [toValue, PHPValue.eq] using hne
    | string s' => simp [toValue, PHPValue.eq]
  | string s =>
    cases k' with
    | long i' => simp [toValue, PHPValue.eq]
    | string s' =>
      have hne : s ≠ s' := fun heq => h (congrArg string heq)
      simpa [toValue, PHPValue.eq] using hne

theorem toValue_injective : Function.Injective toValue := by
  intro k k' heq
  by_contra hne
  have hplain : k.toValue.PlainKey := by
    cases k with
    | long i => exact .uInt _
    | string s => exact .string s
  exact PHPValue.ne_of_eq hplain (toValue_eq_false hne) heq

end ArrayKey

/-! ## The loops -/

/-- What a loop writes for an entry of the array. -/
def EntryWritten (e : ArrayKey × Zval) (e' : PHPValue × PHPValue) : Prop :=
  e'.1 = e.1.toValue ∧ fromZval e.2 = some e'.2

theorem forall₂_of_listFromZval {arr : List (ArrayKey × Zval)} {vs : List PHPValue}
    (h : listFromZval arr = some vs) :
    List.Forall₂ (fun e v => fromZval e.2 = some v) arr vs := by
  induction arr generalizing vs with
  | nil =>
    rw [listFromZval] at h
    cases h
    exact .nil
  | cons e arr ih =>
    obtain ⟨k, z⟩ := e
    rw [listFromZval] at h
    obtain ⟨v, hv, h⟩ := Option.bind_eq_some_iff.1 h
    obtain ⟨vs', hvs', h⟩ := Option.bind_eq_some_iff.1 h
    cases h
    exact .cons hv (ih hvs')

/-- The loop over string keys writes the entries with string keys. -/
theorem written_of_stringsFromZval {arr : List (ArrayKey × Zval)}
    {acc t : List (PHPValue × PHPValue)}
    (h : stringsFromZval arr acc = some t) :
    ∃ es, t = AssocTable.insertAll PHPValue.eq acc es ∧
      List.Forall₂ EntryWritten (arr.filter fun e => e.1.isString) es := by
  induction arr generalizing acc with
  | nil =>
    rw [stringsFromZval] at h
    cases h
    exact ⟨[], rfl, .nil⟩
  | cons e arr ih =>
    obtain ⟨_ | s, z⟩ := e
    · rw [stringsFromZval] at h
      exact ih h
    · rw [stringsFromZval] at h
      obtain ⟨v, hv, h⟩ := Option.bind_eq_some_iff.1 h
      obtain ⟨es, rfl, hes⟩ := ih h
      exact ⟨(.string s, v) :: es, rfl, .cons ⟨rfl, hv⟩ hes⟩

/-- The loop over integer keys writes the entries with integer keys. -/
theorem written_of_longsFromZval {arr : List (ArrayKey × Zval)} {acc t : List (PHPValue × PHPValue)}
    (h : longsFromZval arr acc = some t) :
    ∃ es, t = AssocTable.insertAll PHPValue.eq acc es ∧
      List.Forall₂ EntryWritten (arr.filter fun e => !e.1.isString) es := by
  induction arr generalizing acc with
  | nil =>
    rw [longsFromZval] at h
    cases h
    exact ⟨[], rfl, .nil⟩
  | cons e arr ih =>
    obtain ⟨i | s, z⟩ := e
    · rw [longsFromZval] at h
      obtain ⟨v, hv, h⟩ := Option.bind_eq_some_iff.1 h
      obtain ⟨es, rfl, hes⟩ := ih h
      exact ⟨(.uInt i.toUInt64, v) :: es, rfl, .cons ⟨rfl, hv⟩ hes⟩
    · rw [longsFromZval] at h
      exact ih h

theorem keys_of_written {arr : List (ArrayKey × Zval)} {es : List (PHPValue × PHPValue)}
    (h : List.Forall₂ EntryWritten arr es) :
    es.map Prod.fst = arr.map fun e => e.1.toValue := by
  induction h with
  | nil => rfl
  | cons he _ ih => rw [List.map_cons, List.map_cons, he.1, ih]

/-- Entries with different keys are all kept. -/
theorem insertAll_written {arr : List (ArrayKey × Zval)} {es : List (PHPValue × PHPValue)}
    (hnodup : (arr.map Prod.fst).Nodup) (hes : List.Forall₂ EntryWritten arr es) :
    AssocTable.insertAll PHPValue.eq [] es = es := by
  have hdistinct : AssocTable.Distinct PHPValue.eq ([] ++ es) := by
    have hkeys : (es.map Prod.fst).Pairwise fun k k' => k.eq k' = false := by
      rw [keys_of_written hes, List.pairwise_map]
      exact (List.pairwise_map.1 hnodup).imp ArrayKey.toValue_eq_false
    exact List.pairwise_map.1 hkeys
  rw [AssocTable.insertAll_of_distinct PHPValue.eq hdistinct, List.nil_append]

/-! ## Entries of the result -/

mutual

/-- Every array in the value has the property. -/
def Zval.AllArrays (P : List (ArrayKey × Zval) → Prop) : Zval → Prop
  | .array arr => P arr ∧ EntriesAllArrays P arr
  | _ => True

/-- Every array in a value of the array has the property. -/
def EntriesAllArrays (P : List (ArrayKey × Zval) → Prop) : List (ArrayKey × Zval) → Prop
  | [] => True
  | (_, z) :: arr => z.AllArrays P ∧ EntriesAllArrays P arr

end

/-- Each key is there once, as in every array of PHP. -/
def DistinctKeys (arr : List (ArrayKey × Zval)) : Prop := (arr.map Prod.fst).Nodup

/-- The keys are of one kind. -/
def OneKind (arr : List (ArrayKey × Zval)) : Prop :=
  (∀ e ∈ arr, e.1.isString = true) ∨ ∀ e ∈ arr, e.1.isString = false

mutual

/-- The value holds each element of the PHP value once: an array with sequential keys is
    the list of its elements, and any other one a map with one entry for each of its
    entries, in any order. -/
def Zval.Written : Zval → PHPValue → Prop
  | .array arr, v =>
    if hasSequentialKeys arr then ∃ l, v = .list l ∧ ListWritten arr l
    else ∃ h h', v = .hashMap h ∧ h.Perm h' ∧
      (h'.map Prod.fst = arr.map fun e => e.1.toValue) ∧ ListWritten arr (h'.map Prod.snd)
  | z, v => fromZval z = some v

/-- The values hold the elements of the array, in order. -/
def ListWritten : List (ArrayKey × Zval) → List PHPValue → Prop
  | [], [] => True
  | (_, z) :: arr, v :: vs => z.Written v ∧ ListWritten arr vs
  | _, _ => False

end

theorem ListWritten.length_eq {arr : List (ArrayKey × Zval)} {vs : List PHPValue}
    (h : ListWritten arr vs) : arr.length = vs.length := by
  induction arr generalizing vs with
  | nil =>
    cases vs with
    | nil => rfl
    | cons v vs => cases h
  | cons e arr ih =>
    cases vs with
    | nil => cases h
    | cons v vs => rw [List.length_cons, List.length_cons, ih h.2]

/-! ## Maps -/

/-- A map whose entries are those of the array, in some order, is made of its elements. -/
theorem tableWritten_iff {arr : List (ArrayKey × Zval)} {es : List (PHPValue × PHPValue)}
    (hnodup : DistinctKeys arr) (hes : List.Forall₂ EntryWritten arr es) :
    (∃ h h', PHPValue.hashMap es = .hashMap h ∧ h.Perm h' ∧
      (h'.map Prod.fst = arr.map fun e => e.1.toValue) ∧ ListWritten arr (h'.map Prod.snd)) ↔
      ListWritten arr (es.map Prod.snd) := by
  have hkeys := keys_of_written hes
  have hes_nodup : (es.map Prod.fst).Nodup := by
    have hmap := List.Nodup.map ArrayKey.toValue_injective hnodup
    rw [List.map_map] at hmap
    rw [hkeys]
    exact hmap
  constructor
  · rintro ⟨h, h', heq, hperm, hkeys', hwritten⟩
    cases heq
    rw [AssocTable.eq_of_perm hperm (hkeys.trans hkeys'.symm) hes_nodup]
    exact hwritten
  · intro hwritten
    exact ⟨es, es, rfl, .refl es, hkeys, hwritten⟩

/-- A loop that skips an entry does not write all. -/
theorem not_tableWritten {arr kept : List (ArrayKey × Zval)} {es : List (PHPValue × PHPValue)}
    (hkept : kept.length < arr.length) (hes : List.Forall₂ EntryWritten kept es) :
    ¬ ∃ h h', PHPValue.hashMap (AssocTable.insertAll PHPValue.eq [] es) = .hashMap h ∧
      h.Perm h' ∧ (h'.map Prod.fst = arr.map fun e => e.1.toValue) ∧
      ListWritten arr (h'.map Prod.snd) := by
  rintro ⟨h, h', heq, hperm, hkeys, -⟩
  cases heq
  have hlen := AssocTable.length_insertAll_le PHPValue.eq [] es
  have hlen' := congrArg List.length hkeys
  rw [List.length_map, List.length_map, ← hperm.length_eq] at hlen'
  rw [List.length_nil, ← hes.length_eq] at hlen
  omega

/-! ## Values -/

theorem isString_eq_false_of_numerical {arr : List (ArrayKey × Zval)}
    (h : hasNumericalKeys arr = true) : ∀ e ∈ arr, e.1.isString = false := by
  intro e he
  have hkey := List.all_eq_true.1 h e he
  obtain ⟨_ | s, z⟩ := e
  · rfl
  · cases hkey

theorem isString_eq_false_of_sequential {arr : List (ArrayKey × Zval)}
    (h : hasSequentialKeys arr = true) : ∀ e ∈ arr, e.1.isString = false := by
  intro e he
  have hmem : e.1 ∈ arr.map Prod.fst := List.mem_map_of_mem he
  rw [beq_iff_eq.1 h] at hmem
  obtain ⟨i, -, hi⟩ := List.mem_map.1 hmem
  rw [← hi]
  rfl

theorem isString_of_oneKind {arr : List (ArrayKey × Zval)} (hnum : ¬ hasNumericalKeys arr = true)
    (h : OneKind arr) : ∀ e ∈ arr, e.1.isString = true := by
  rcases h with h | h
  · exact h
  · refine absurd (List.all_eq_true.2 fun e he => ?_) hnum
    have hkey := h e he
    obtain ⟨_ | s, z⟩ := e
    · rfl
    · cases hkey

theorem forall₂_values {arr : List (ArrayKey × Zval)} {es : List (PHPValue × PHPValue)}
    (h : List.Forall₂ EntryWritten arr es) :
    List.Forall₂ (fun e v => fromZval e.2 = some v) arr (es.map Prod.snd) := by
  rw [List.forall₂_map_right_iff]
  exact h.imp fun _ _ he => he.2

/-- An array with an integer key among string keys. -/
theorem filter_isString_lt {arr : List (ArrayKey × Zval)} (h : ¬ OneKind arr) :
    (arr.filter fun e => e.1.isString).length < arr.length := by
  refine Nat.lt_of_le_of_ne (List.length_filter_le ..) fun hlen => h (.inl ?_)
  exact List.length_filter_eq_length_iff.1 hlen

mutual

theorem written_iff : ∀ {z : Zval} {v : PHPValue}, z.AllArrays DistinctKeys →
    fromZval z = some v → (z.Written v ↔ z.AllArrays OneKind)
  | .array arr, v, hdistinct, h => by
    rw [Zval.AllArrays] at hdistinct
    obtain ⟨hnodup, hrest⟩ := hdistinct
    rw [fromZval] at h
    rw [Zval.Written, Zval.AllArrays]
    split_ifs at h ⊢ with hseq hnum
    · obtain ⟨l, hl, h⟩ := Option.bind_eq_some_iff.1 h
      cases h
      rw [← listWritten_iff hrest (forall₂_of_listFromZval hl)]
      constructor
      · rintro ⟨l', hlist, hwritten⟩
        cases hlist
        exact ⟨.inr (isString_eq_false_of_sequential hseq), hwritten⟩
      · rintro ⟨-, hwritten⟩
        exact ⟨l, rfl, hwritten⟩
    · obtain ⟨t, ht, h⟩ := Option.bind_eq_some_iff.1 h
      cases h
      obtain ⟨es, rfl, hes⟩ := written_of_longsFromZval ht
      have hkeys := isString_eq_false_of_numerical hnum
      rw [List.filter_eq_self.2 fun e he => by rw [hkeys e he]; rfl] at hes
      rw [insertAll_written hnodup hes, tableWritten_iff hnodup hes,
        listWritten_iff hrest (forall₂_values hes)]
      exact (and_iff_right (.inr hkeys)).symm
    · obtain ⟨t, ht, h⟩ := Option.bind_eq_some_iff.1 h
      cases h
      obtain ⟨es, rfl, hes⟩ := written_of_stringsFromZval ht
      by_cases hkind : OneKind arr
      · have hkeys := isString_of_oneKind hnum hkind
        rw [List.filter_eq_self.2 hkeys] at hes
        rw [insertAll_written hnodup hes, tableWritten_iff hnodup hes,
          listWritten_iff hrest (forall₂_values hes)]
        exact (and_iff_right hkind).symm
      · exact iff_of_false (not_tableWritten (filter_isString_lt hkind) hes) fun h => hkind h.1
  | .null, v, _, h => iff_of_true h trivial
  | .bool b, v, _, h => iff_of_true h trivial
  | .long i, v, _, h => iff_of_true h trivial
  | .double f, v, _, h => iff_of_true h trivial
  | .string s, v, _, h => iff_of_true h trivial
  | .blob b, v, _, h => iff_of_true h trivial
  | .hll b, v, _, h => iff_of_true h trivial
  | .geoJSON gj, v, _, h => iff_of_true h trivial
  | .infinity, v, _, h => iff_of_true h trivial
  | .wildcard, v, _, h => iff_of_true h trivial
  | .other, v, _, h => iff_of_true h trivial

theorem listWritten_iff : ∀ {arr : List (ArrayKey × Zval)} {vs : List PHPValue},
    EntriesAllArrays DistinctKeys arr →
    List.Forall₂ (fun e v => fromZval e.2 = some v) arr vs →
    (ListWritten arr vs ↔ EntriesAllArrays OneKind arr)
  | [], _, _, .nil => iff_of_true trivial trivial
  | (_, _) :: _, _, hdistinct, .cons hv hvs =>
    and_congr (written_iff hdistinct.1 hv) (listWritten_iff hdistinct.2 hvs)

end

/-- A value of PHP: each array has a key once. -/
structure PhpValue where
  val : Zval
  distinct : val.AllArrays DistinctKeys

/-- What `from_zval` makes of a value has every entry of every array once, iff no array
    has both integer keys and string keys. -/
theorem written_iff_oneKind (z : PhpValue) {v : PHPValue} (h : fromZval z.val = some v) :
    z.val.Written v ↔ z.val.AllArrays OneKind :=
  written_iff z.distinct h

/-- `["name" => "ann", "tags" => [1, 2]]`. -/
def userArray : PhpValue where
  val := .array [(.string "name", .string "ann"),
    (.string "tags", .array [(.long 0, .long 1), (.long 1, .long 2)])]
  distinct := by
    simp [Zval.AllArrays, EntriesAllArrays, DistinctKeys]

theorem written_iff_oneKind_userArray :
    userArray.val.Written (.hashMap [(.string "name", .string "ann"),
      (.string "tags", .list [.int 1, .int 2])]) := by
  have hv : fromZval userArray.val = some (.hashMap [(.string "name", .string "ann"),
      (.string "tags", .list [.int 1, .int 2])]) := by
    simp [userArray, fromZval, stringsFromZval, listFromZval, hasSequentialKeys,
      hasNumericalKeys, AssocTable.insert, PHPValue.eq, List.range_succ_eq_map]
  refine (written_iff_oneKind userArray hv).2 ?_
  simp [userArray, Zval.AllArrays, EntriesAllArrays, OneKind, ArrayKey.isString]

/-- `[0 => "x", "a" => 1]`. -/
def mixedArray : PhpValue where
  val := .array [(.long 0, .string "x"), (.string "a", .long 1)]
  distinct := by
    simp [Zval.AllArrays, EntriesAllArrays, DistinctKeys]

/-- The entry `0 => "x"` is lost. -/
theorem mixedArray_not_written :
    ∃ v, fromZval mixedArray.val = some v ∧ ¬ mixedArray.val.Written v := by
  have hv : fromZval mixedArray.val = some (.hashMap [(.string "a", .int 1)]) := rfl
  refine ⟨_, hv, fun h => ?_⟩
  have hkind := ((written_iff mixedArray.distinct hv).1 h).1
  rcases hkind with hkind | hkind
  · cases hkind (.long 0, .string "x") (by simp)
  · cases hkind (.string "a", .long 1) (by simp)

end AerospikePhp
