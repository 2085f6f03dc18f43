import AerospikePhp.Value.RoundTrip
import Mathlib.Data.List.Nodup

/-!
# Values that a program reads and writes back

`set_zval` (`src/lib.rs` lines 11298–11358) makes a PHP value of a value of a record,
and `from_zval` (lines 11360–11423) makes a value of a PHP value. A list and a map
both become an array; the entries of a map are inserted under the texts of their keys
(`k.to_string()`), so that all keys of the array are strings. A text with a NUL byte
cannot be inserted, and the conversion panics.

Main result:
* `readModifyWrite_iff`: a value is written back as it was read iff it holds no JSON
  object and no empty map, and all keys of its maps are strings without a NUL byte.
-/

namespace AerospikePhp

/-- The text is one that `CString::new` takes: it has no NUL byte. -/
def isCString (s : String) : Bool := !s.toList.contains (Char.ofNat 0)

section Format

-- the text that Rust's formatter makes of a float, a byte string or a collection
variable (format : PHPValue → String)

/-! ## From the extension to PHP -/

namespace PHPValue

/-- `as_string` (`src/lib.rs` lines 11228–11246), the text of `to_string`. -/
def asString : PHPValue → String
  | nil => "<null>"
  | int val => toString val
  | uInt val => toString val
  | bool val => toString val
  | float val => format (float val)
  | string val => val
  | geoJSON val => "GeoJSON('" ++ val ++ "')"
  | blob val => "Blob(" ++ format (blob val) ++ ")"
  | hll val => "HLL('" ++ format (hll val) ++ "')"
  | list val => format (list val)
  | hashMap val => format (hashMap val)
  | json val => format (json val)
  | infinity => "<infinity>"
  | wildcard => "<wildcard>"

/-- `insert` of an array under a text (lines 11314 and 11324): the text is made a `CString`, and
    the `expect` fails on one with a NUL byte. -/
def insertText (arr : List (ArrayKey × Zval)) (key : String) (z : Zval) :
    Except Panic (List (ArrayKey × Zval)) :=
  if isCString key then .ok (AssocTable.insert (· == ·) arr (.string key) z)
  else .error .expectErr

mutual

/-- `set_zval` (`src/lib.rs` lines 11298–11358). -/
def setZval : PHPValue → Except Panic Zval
  | nil => .ok .null
  | bool b => .ok (.bool b)
  | int i => .ok (.long i)
  | uInt ui => .ok (.long ui.toInt64)
  | float f => .ok (.double f)
  | string s => .ok (.string s)
  | list l => do return .array (← listSetZval 0 l)
  | json h => do return .array (← jsonSetZval h [])
  | hashMap h => do return .array (← hashMapSetZval h [])
  | geoJSON s => .ok (.geoJSON s)
  | blob b => .ok (.blob b)
  | hll b => .ok (.hll b)
  | infinity => .ok .infinity
  | wildcard => .ok .wildcard

/-- `set_array`: the elements under the next keys, from `i`. -/
def listSetZval (i : ℕ) : List PHPValue → Except Panic (List (ArrayKey × Zval))
  | [] => .ok []
  | v :: vs => do
    let z ← v.setZval
    let arr ← listSetZval (i + 1) vs
    return (.long (Int64.ofNat i), z) :: arr

/-- The loop over a JSON object (lines 11311–11319). -/
def jsonSetZval :
    List (String × PHPValue) → List (ArrayKey × Zval) → Except Panic (List (ArrayKey × Zval))
  | [], arr => .ok arr
  | (k, v) :: h, arr => do
    let z ← v.setZval
    let arr ← insertText arr k z
    jsonSetZval h arr

/-- The loop over a hash map (lines 11320–11328). -/
def hashMapSetZval :
    List (PHPValue × PHPValue) → List (ArrayKey × Zval) → Except Panic (List (ArrayKey × Zval))
  | [], arr => .ok arr
  | (k, v) :: h, arr => do
    let z ← v.setZval
    let arr ← insertText arr (k.asString format) z
    hashMapSetZval h arr

end

/-! ## Texts of keys -/

mutual

/-- No text of a key has a NUL byte. -/
def insertable : PHPValue → Bool
  | list l => listInsertable l
  | json h => jsonInsertable h
  | hashMap h => entriesInsertable h
  | _ => true

def listInsertable : List PHPValue → Bool
  | [] => true
  | v :: vs => v.insertable && listInsertable vs

def jsonInsertable : List (String × PHPValue) → Bool
  | [] => true
  | (k, v) :: h => isCString k && v.insertable && jsonInsertable h

def entriesInsertable : List (PHPValue × PHPValue) → Bool
  | [] => true
  | (k, v) :: h => isCString (k.asString format) && v.insertable && entriesInsertable h

end

mutual

/-- What `set_zval` makes of a value if all keys can be inserted. -/
def asZval : PHPValue → Zval
  | nil => .null
  | bool b => .bool b
  | int i => .long i
  | uInt ui => .long ui.toInt64
  | float f => .double f
  | string s => .string s
  | list l => .array (listAsZval 0 l)
  | json h => .array (jsonAsZval h [])
  | hashMap h => .array (hashMapAsZval h [])
  | geoJSON s => .geoJSON s
  | blob b => .blob b
  | hll b => .hll b
  | infinity => .infinity
  | wildcard => .wildcard

def listAsZval (i : ℕ) : List PHPValue → List (ArrayKey × Zval)
  | [] => []
  | v :: vs => (.long (Int64.ofNat i), v.asZval) :: listAsZval (i + 1) vs

def jsonAsZval : List (String × PHPValue) → List (ArrayKey × Zval) → List (ArrayKey × Zval)
  | [], arr => arr
  | (k, v) :: h, arr =>
    jsonAsZval h (AssocTable.insert (· == ·) arr (.string k) v.asZval)

def hashMapAsZval :
    List (PHPValue × PHPValue) → List (ArrayKey × Zval) → List (ArrayKey × Zval)
  | [], arr => arr
  | (k, v) :: h, arr =>
    hashMapAsZval h (AssocTable.insert (· == ·) arr (.string (k.asString format)) v.asZval)

end

/-- An array is made unless a key is refused. -/
def unlessRefused {α : Type} (ok : Bool) (a : α) : Except Panic α :=
  if ok then .ok a else .error .expectErr

mutual

theorem setZval_eq : ∀ v : PHPValue,
    v.setZval format = unlessRefused (v.insertable format) (v.asZval format)
  | list l => by
    rw [setZval, listSetZval_eq, insertable, asZval]
    cases listInsertable format l <;> rfl
  | json h => by
    rw [setZval, jsonSetZval_eq, insertable, asZval]
    cases jsonInsertable format h <;> rfl
  | hashMap h => by
    rw [setZval, hashMapSetZval_eq, insertable, asZval]
    cases entriesInsertable format h <;> rfl
  | nil | bool _ | int _ | uInt _ | float _ | string _ | geoJSON _ | blob _ | hll _ | infinity
  | wildcard => by
    rw [setZval, insertable, asZval]
    · rfl
    all_goals simp

theorem listSetZval_eq (i : ℕ) : ∀ l : List PHPValue,
    listSetZval format i l = unlessRefused (listInsertable format l) (listAsZval format i l)
  | [] => by
    rw [listSetZval, listInsertable, listAsZval]
    rfl
  | v :: l => by
    rw [listSetZval, setZval_eq v, listSetZval_eq (i + 1) l, listInsertable, listAsZval]
    cases v.insertable format <;> cases listInsertable format l <;> rfl

theorem jsonSetZval_eq : ∀ (h : List (String × PHPValue)) (arr : List (ArrayKey × Zval)),
    jsonSetZval format h arr = unlessRefused (jsonInsertable format h) (jsonAsZval format h arr)
  | [], arr => by
    rw [jsonSetZval, jsonInsertable, jsonAsZval]
    rfl
  | (k, v) :: h, arr => by
    rw [jsonSetZval, setZval_eq v, jsonInsertable, jsonAsZval]
    unfold insertText
    cases v.insertable format <;> cases isCString k <;> first | rfl | exact jsonSetZval_eq h _

theorem hashMapSetZval_eq : ∀ (h : List (PHPValue × PHPValue)) (arr : List (ArrayKey × Zval)),
    hashMapSetZval format h arr =
      unlessRefused (entriesInsertable format h) (hashMapAsZval format h arr)
  | [], arr => by
    rw [hashMapSetZval, entriesInsertable, hashMapAsZval]
    rfl
  | (k, v) :: h, arr => by
    rw [hashMapSetZval, setZval_eq v, entriesInsertable, hashMapAsZval]
    unfold insertText
    cases v.insertable format <;> cases isCString (k.asString format) <;>
      first | rfl | exact hashMapSetZval_eq h _

end

theorem setZval_eq_ok {v : PHPValue} {z : Zval} :
    v.setZval format = .ok z ↔ v.insertable format = true ∧ v.asZval format = z := by
  rw [setZval_eq]
  cases v.insertable format <;> simp [unlessRefused]

end PHPValue

/-! ## The values of a record -/

namespace PHPValue

/-- A value that a record can contain: the keys of its maps are integers or strings,
    pairwise different. -/
inductive Stored : PHPValue → Prop
  | nil : Stored .nil
  | bool (b : Bool) : Stored (.bool b)
  | int (i : Int64) : Stored (.int i)
  | float (f : F64) : Stored (.float f)
  | string (s : String) : Stored (.string s)
  | blob (b : List UInt8) : Stored (.blob b)
  | list (l : List PHPValue) (h : ∀ v ∈ l, Stored v) : Stored (.list l)
  | hashMap (h : List (PHPValue × PHPValue)) (keys : ∀ e ∈ h, RecordKey e.1)
      (distinct : h.Pairwise fun e e' => e.1 ≠ e'.1) (vals : ∀ e ∈ h, Stored e.2) :
      Stored (.hashMap h)
  | json (h : List (String × PHPValue)) (vals : ∀ e ∈ h, Stored e.2) : Stored (.json h)
  | geoJSON (gj : String) : Stored (.geoJSON gj)
  | hll (b : List UInt8) : Stored (.hll b)
  | wildcard : Stored .wildcard
  | infinity : Stored .infinity

def isString : PHPValue → Bool
  | string _ => true
  | _ => false

/-- A string without a NUL byte. -/
def isText : PHPValue → Bool
  | string s => isCString s
  | _ => false

theorem isText_iff {k : PHPValue} : k.isText = true ↔ ∃ s, k = .string s ∧ isCString s = true := by
  cases k with
  | string s => simp [isText]
  | _ => exact iff_of_false nofun nofun

theorem isString_of_isText {k : PHPValue} (h : k.isText = true) : k.isString = true := by
  obtain ⟨s, rfl, -⟩ := isText_iff.1 h
  rfl

mutual

/-- The value holds no JSON object and no empty map, and all keys of its maps are
    strings without a NUL byte. -/
def stringKeyed : PHPValue → Bool
  | list l => listStringKeyed l
  | hashMap h => !h.isEmpty && entriesStringKeyed h
  | json _ => false
  | _ => true

def listStringKeyed : List PHPValue → Bool
  | [] => true
  | v :: vs => v.stringKeyed && listStringKeyed vs

def entriesStringKeyed : List (PHPValue × PHPValue) → Bool
  | [] => true
  | (k, v) :: h => k.isText && v.stringKeyed && entriesStringKeyed h

end

theorem listStringKeyed_iff (vs : List PHPValue) :
    listStringKeyed vs = true ↔ ∀ v ∈ vs, v.stringKeyed = true := by
  induction vs with
  | nil => simp [listStringKeyed]
  | cons v vs ih => rw [listStringKeyed, Bool.and_eq_true, ih, List.forall_mem_cons]

theorem entriesStringKeyed_iff (h : List (PHPValue × PHPValue)) :
    entriesStringKeyed h = true ↔
      (∀ e ∈ h, e.1.isText = true) ∧ ∀ e ∈ h, e.2.stringKeyed = true := by
  induction h with
  | nil => simp [entriesStringKeyed]
  | cons e h ih =>
    rw [entriesStringKeyed, Bool.and_eq_true, Bool.and_eq_true, ih, List.forall_mem_cons,
      List.forall_mem_cons]
    exact ⟨fun ⟨⟨hk, hv⟩, hks, hvs⟩ => ⟨⟨hk, hks⟩, hv, hvs⟩,
      fun ⟨⟨hk, hks⟩, hv, hvs⟩ => ⟨⟨hk, hv⟩, hks, hvs⟩⟩

end PHPValue

/-! ## Messages up to the order of map entries -/

/-- The two messages are the same up to the order of the entries of their maps. -/
inductive Proto.Value.Same : Proto.Value → Proto.Value → Prop
  | refl (v : Proto.Value) : Same v v
  | list {l l' : List Proto.Value} (elems : List.Forall₂ Same l l') : Same (.l l) (.l l')
  | map {m m₁ m' : List (Option Proto.Value × Option Proto.Value)} (perm : m.Perm m₁)
      (keys : List.Forall₂ (Option.Rel Same) (m₁.map Prod.fst) (m'.map Prod.fst))
      (vals : List.Forall₂ (Option.Rel Same) (m₁.map Prod.snd) (m'.map Prod.snd)) :
      Same (.m m) (.m m')
  | json {j j₁ j' : List (String × Option Proto.Value)} (perm : j.Perm j₁)
      (keys : j₁.map Prod.fst = j'.map Prod.fst)
      (vals : List.Forall₂ (Option.Rel Same) (j₁.map Prod.snd) (j'.map Prod.snd)) :
      Same (.json j) (.json j')

namespace Proto.Value.Same

theorem elements {l l' : List Proto.Value} (h : Same (.l l) (.l l')) :
    List.Forall₂ Same l l' := by
  cases h with
  | refl => exact List.forall₂_same.2 fun v _ => .refl v
  | list elems => exact elems

/-- Every entry of the second map stands for one of the first. -/
theorem entries {m m' : List (Option Proto.Value × Option Proto.Value)} (h : Same (.m m) (.m m'))
    {e' : Option Proto.Value × Option Proto.Value} (he' : e' ∈ m') :
    ∃ e ∈ m, Option.Rel Same e.1 e'.1 ∧ Option.Rel Same e.2 e'.2 := by
  have hrefl : ∀ o : Option Proto.Value, Option.Rel Same o o := by
    intro o
    cases o with
    | none => exact .none
    | some v => exact .some (.refl v)
  cases h with
  | refl => exact ⟨e', he', hrefl e'.1, hrefl e'.2⟩
  | @map m m₁ m' perm keys vals =>
    have hmem : ∃ e ∈ m₁, Option.Rel Same e.1 e'.1 ∧ Option.Rel Same e.2 e'.2 := by
      clear perm
      induction m' generalizing m₁ with
      | nil => cases he'
      | cons c m' ih =>
        obtain _ | ⟨e, m₁⟩ := m₁
        · cases keys
        · obtain ⟨hk, hks⟩ := List.forall₂_cons.1 keys
          obtain ⟨hv, hvs⟩ := List.forall₂_cons.1 vals
          rcases List.mem_cons.1 he' with rfl | he'
          · exact ⟨e, by simp, hk, hv⟩
          · obtain ⟨e₁, hmem, hrel⟩ := ih he' hks hvs
            exact ⟨e₁, by simp [hmem], hrel⟩
    obtain ⟨e, he, hrel⟩ := hmem
    exact ⟨e, perm.mem_iff.2 he, hrel⟩

end Proto.Value.Same

/-! ## Arrays with string keys -/

/-- The entry of the array for an entry of a map. -/
def mapEntry (e : PHPValue × PHPValue) : ArrayKey × Zval :=
  (.string (e.1.asString format), e.2.asZval format)

namespace PHPValue

theorem hashMapAsZval_eq (h : List (PHPValue × PHPValue)) (arr : List (ArrayKey × Zval)) :
    hashMapAsZval format h arr =
      AssocTable.insertAll (· == ·) arr (h.map (mapEntry format)) := by
  induction h generalizing arr with
  | nil => rw [hashMapAsZval, List.map_nil, AssocTable.insertAll_nil]
  | cons e h ih => rw [hashMapAsZval, ih, List.map_cons, AssocTable.insertAll_cons, mapEntry]

end PHPValue

/-- All keys of the array are strings. -/
def StringKeys (arr : List (ArrayKey × Zval)) : Prop := ∀ e ∈ arr, ∃ s, e.1 = .string s

theorem stringKeys_insertAll {arr es : List (ArrayKey × Zval)} (harr : StringKeys arr)
    (hes : StringKeys es) : StringKeys (AssocTable.insertAll (· == ·) arr es) := by
  induction es generalizing arr with
  | nil => exact harr
  | cons e es ih =>
    rw [AssocTable.insertAll_cons]
    apply ih
    · intro e' he'
      rcases AssocTable.mem_insert _ he' with hmem | ⟨-, hkey | ⟨e'', hmem, hkey⟩⟩
      · exact harr e' hmem
      · rw [hkey]
        exact hes e (by simp)
      · rw [← hkey]
        exact harr e'' hmem
    · intro e' he'
      exact hes e' (by simp [he'])

theorem stringKeys_map (h : List (PHPValue × PHPValue)) : StringKeys (h.map (mapEntry format)) := by
  intro e he
  obtain ⟨e', -, rfl⟩ := List.mem_map.1 he
  exact ⟨_, rfl⟩

/-- What `from_zval` makes of an array with string keys: a hash map. -/
theorem fromZval_stringKeys {arr : List (ArrayKey × Zval)} (hne : arr ≠ [])
    (h : StringKeys arr) :
    fromZval (.array arr) = (stringsFromZval arr []).map PHPValue.hashMap := by
  obtain _ | ⟨⟨k, z⟩, arr⟩ := arr
  · exact absurd rfl hne
  · obtain ⟨s, hs⟩ := h (k, z) (by simp)
    simp only at hs
    subst hs
    have hseq : hasSequentialKeys ((.string s, z) :: arr) = false := by
      simp [hasSequentialKeys, List.range_succ_eq_map]
    have hnum : hasNumericalKeys ((.string s, z) :: arr) = false := by
      simp [hasNumericalKeys]
    rw [fromZval, hseq, hnum]
    cases stringsFromZval ((.string s, z) :: arr) [] with
    | none => rfl
    | some t => rfl

/-- The keys of the hash map are strings again. -/
theorem isString_of_stringsFromZval {arr : List (ArrayKey × Zval)}
    {acc t : List (PHPValue × PHPValue)} (hacc : ∀ e ∈ acc, e.1.isString = true)
    (h : stringsFromZval arr acc = some t) : ∀ e ∈ t, e.1.isString = true := by
  induction arr generalizing acc with
  | nil =>
    rw [stringsFromZval] at h
    cases h
    exact hacc
  | cons e arr ih =>
    obtain ⟨_ | s, z⟩ := e
    · rw [stringsFromZval] at h
      exact ih hacc h
    · rw [stringsFromZval] at h
      obtain ⟨v, -, h⟩ := Option.bind_eq_some_iff.1 h
      refine ih ?_ h
      intro e he
      rcases AssocTable.mem_insert _ he with hmem | ⟨-, hkey | ⟨e', hmem, hkey⟩⟩
      · exact hacc e hmem
      · rw [hkey]
        rfl
      · rw [← hkey]
        exact hacc e' hmem

/-- What comes back for a map: a hash map whose keys are strings. -/
theorem fromZval_hashMap {h : List (PHPValue × PHPValue)} (hne : h ≠ []) :
    fromZval ((PHPValue.hashMap h).asZval format) =
      (stringsFromZval (AssocTable.insertAll (· == ·) [] (h.map (mapEntry format))) []).map
        PHPValue.hashMap := by
  have harr : AssocTable.insertAll (· == ·) [] (h.map (mapEntry format)) ≠ [] :=
    AssocTable.insertAll_ne_nil _ (.inr (by simpa using hne))
  have hstrings : StringKeys (AssocTable.insertAll (· == ·) [] (h.map (mapEntry format))) :=
    stringKeys_insertAll (fun e he => by cases he) (stringKeys_map format h)
  rw [PHPValue.asZval, PHPValue.hashMapAsZval_eq, fromZval_stringKeys harr hstrings]

/-! ## Maps whose keys are strings -/

theorem PHPValue.isString_iff {k : PHPValue} : k.isString = true ↔ ∃ s, k = .string s := by
  cases k with
  | string s => exact iff_of_true rfl ⟨s, rfl⟩
  | _ => exact iff_of_false nofun nofun

section StringKeyed

variable {h : List (PHPValue × PHPValue)} (keys : ∀ e ∈ h, e.1.isString = true)

include keys

/-- No key replaces another. -/
theorem insertAll_mapEntry (distinct : h.Pairwise fun e e' => e.1 ≠ e'.1) :
    AssocTable.insertAll (· == ·) [] (h.map (mapEntry format)) = h.map (mapEntry format) := by
  have hdistinct : AssocTable.Distinct (· == ·) ([] ++ h.map (mapEntry format)) := by
    rw [List.nil_append, AssocTable.Distinct, List.pairwise_map]
    apply distinct.imp_of_mem
    intro e e' he he' hne
    obtain ⟨s, hs⟩ := PHPValue.isString_iff.1 (keys e he)
    obtain ⟨s', hs'⟩ := PHPValue.isString_iff.1 (keys e' he')
    rw [hs, hs'] at hne
    simpa [mapEntry, hs, hs', PHPValue.asString] using hne
  rw [AssocTable.insertAll_of_distinct _ hdistinct, List.nil_append]

theorem stringsFromZval_ok (vals : ∀ e ∈ h, fromZval (e.2.asZval format) = some e.2)
    (acc : List (PHPValue × PHPValue)) :
    stringsFromZval (h.map (mapEntry format)) acc =
      some (AssocTable.insertAll PHPValue.eq acc h) := by
  induction h generalizing acc with
  | nil => rw [List.map_nil, stringsFromZval, AssocTable.insertAll_nil]
  | cons e h ih =>
    obtain ⟨s, hs⟩ := PHPValue.isString_iff.1 (keys e (by simp))
    have hv := vals e (by simp)
    have htail := ih (fun e' he' => keys e' (by simp [he'])) fun e' he' => vals e' (by simp [he'])
    rw [List.map_cons, mapEntry, stringsFromZval, hv, AssocTable.insertAll_cons, ← htail, hs,
      PHPValue.asString]
    rfl

/-- The entries that come back: the same keys, each with what comes back for its value. -/
theorem stringsFromZval_forall₂ {acc t : List (PHPValue × PHPValue)}
    (ht : stringsFromZval (h.map (mapEntry format)) acc = some t) :
    ∃ es, List.Forall₂ (fun e e' => e'.1 = e.1 ∧ fromZval (e.2.asZval format) = some e'.2) h es ∧
      t = AssocTable.insertAll PHPValue.eq acc es := by
  induction h generalizing acc with
  | nil =>
    rw [List.map_nil, stringsFromZval] at ht
    cases ht
    exact ⟨[], .nil, rfl⟩
  | cons e h ih =>
    obtain ⟨s, hs⟩ := PHPValue.isString_iff.1 (keys e (by simp))
    rw [List.map_cons, mapEntry, stringsFromZval] at ht
    obtain ⟨v, hv, ht⟩ := Option.bind_eq_some_iff.1 ht
    obtain ⟨es, hes, rfl⟩ := ih (fun e' he' => keys e' (by simp [he'])) ht
    refine ⟨(e.1, v) :: es, .cons ⟨rfl, hv⟩ hes, ?_⟩
    rw [AssocTable.insertAll_cons, hs, PHPValue.asString]

end StringKeyed

/-! ## Lists -/

theorem listAsZval_keys (i : ℕ) (vs : List PHPValue) :
    (PHPValue.listAsZval format i vs).map Prod.fst =
      (List.range' i vs.length).map fun j => .long (Int64.ofNat j) := by
  induction vs generalizing i with
  | nil => simp [PHPValue.listAsZval]
  | cons v vs ih =>
    rw [PHPValue.listAsZval, List.map_cons, ih, List.length_cons, List.range'_succ, List.map_cons]

/-- What comes back for a list: a list. -/
theorem fromZval_list (l : List PHPValue) :
    fromZval ((PHPValue.list l).asZval format) =
      (listFromZval (PHPValue.listAsZval format 0 l)).map PHPValue.list := by
  have hkeys := listAsZval_keys format 0 l
  have hlength : (PHPValue.listAsZval format 0 l).length = l.length := by
    have := congrArg List.length hkeys
    simpa using this
  have hseq : hasSequentialKeys (PHPValue.listAsZval format 0 l) = true := by
    rw [hasSequentialKeys, hkeys, hlength, List.range_eq_range']
    exact beq_self_eq_true _
  rw [PHPValue.asZval, fromZval, if_pos hseq]
  cases listFromZval (PHPValue.listAsZval format 0 l) with
  | none => rfl
  | some vs => rfl

theorem listFromZval_eq_some {i : ℕ} {l ws : List PHPValue} :
    listFromZval (PHPValue.listAsZval format i l) = some ws ↔
      List.Forall₂ (fun v w => fromZval (v.asZval format) = some w) l ws := by
  induction l generalizing i ws with
  | nil =>
    rw [PHPValue.listAsZval, listFromZval, List.forall₂_nil_left_iff, Option.some.injEq, eq_comm]
  | cons v l ih =>
    rw [PHPValue.listAsZval, listFromZval, List.forall₂_cons_left_iff]
    constructor
    · intro h
      obtain ⟨w, hw, h⟩ := Option.bind_eq_some_iff.1 h
      obtain ⟨ws', hws, h⟩ := Option.bind_eq_some_iff.1 h
      cases h
      exact ⟨w, ws', hw, ih.1 hws, rfl⟩
    · rintro ⟨w, ws', hw, hws, rfl⟩
      rw [hw, ih.2 hws]
      rfl

/-! ## Reading and writing back -/

/-- What is written back for a value, if anything, is the same message up to the order
    of map entries. -/
def Kept (v : PHPValue) : Prop :=
  ∃ z w, v.setZval format = .ok z ∧ fromZval z = some w ∧
    Proto.Value.Same w.toProto v.toProto

/-- The same, if no key is refused. -/
def BackSame (v : PHPValue) : Prop :=
  ∃ w, fromZval (v.asZval format) = some w ∧ Proto.Value.Same w.toProto v.toProto

theorem kept_iff {v : PHPValue} :
    Kept format v ↔ v.insertable format = true ∧ BackSame format v := by
  simp [Kept, BackSame, PHPValue.setZval_eq_ok, and_assoc]

namespace PHPValue

/-- A value whose maps have string keys comes back as it was. -/
theorem Stored.fromZval_asZval {v : PHPValue} (h : v.Stored) (hkeys : v.stringKeyed = true) :
    fromZval (v.asZval format) = some v := by
  induction h with
  | nil => rw [asZval, fromZval]
  | bool b => rw [asZval, fromZval]
  | int i => rw [asZval, fromZval]
  | float f => rw [asZval, fromZval]
  | string s => rw [asZval, fromZval]
  | blob b => rw [asZval, fromZval]
  | list l _ ih =>
    rw [stringKeyed, listStringKeyed_iff] at hkeys
    have hl : listFromZval (listAsZval format 0 l) = some l := by
      rw [listFromZval_eq_some, List.forall₂_same]
      intro v hv
      exact ih v hv (hkeys v hv)
    rw [fromZval_list, hl]
    rfl
  | hashMap h keys distinct _ ih =>
    rw [stringKeyed, Bool.and_eq_true, entriesStringKeyed_iff] at hkeys
    obtain ⟨hne, htexts, hvals⟩ := hkeys
    have hstrings : ∀ e ∈ h, e.1.isString = true := fun e he => isString_of_isText (htexts e he)
    have hnil : h ≠ [] := by
      rintro rfl
      cases hne
    have hdistinct : AssocTable.Distinct PHPValue.eq ([] ++ h) := by
      apply distinct.imp_of_mem
      intro e e' he he' hkey
      exact (keys e he).eq_of_ne (keys e' he') hkey
    have hback := stringsFromZval_ok format hstrings (fun e he => ih e he (hvals e he)) []
    rw [AssocTable.insertAll_of_distinct _ hdistinct, List.nil_append] at hback
    rw [fromZval_hashMap format hnil, insertAll_mapEntry format hstrings distinct, hback]
    rfl
  | json h _ _ =>
    rw [stringKeyed] at hkeys
    cases hkeys
  | geoJSON gj => rw [asZval, fromZval]
  | hll b => rw [asZval, fromZval]
  | wildcard => rw [asZval, fromZval]
  | infinity => rw [asZval, fromZval]

/-- What an array becomes: a list or a hash map. -/
theorem fromZval_array {arr : List (ArrayKey × Zval)} {w : PHPValue}
    (h : fromZval (.array arr) = some w) : (∃ l, w = list l) ∨ ∃ t, w = hashMap t := by
  rw [fromZval] at h
  split_ifs at h
  · obtain ⟨l, -, h⟩ := Option.bind_eq_some_iff.1 h
    cases h
    exact .inl ⟨l, rfl⟩
  · obtain ⟨t, -, h⟩ := Option.bind_eq_some_iff.1 h
    cases h
    exact .inr ⟨t, rfl⟩
  · obtain ⟨t, -, h⟩ := Option.bind_eq_some_iff.1 h
    cases h
    exact .inr ⟨t, rfl⟩

/-- The elements of a list that is kept are kept. -/
theorem backSame_of_mem_list {l : List PHPValue} (h : BackSame format (list l)) :
    ∀ v ∈ l, BackSame format v := by
  obtain ⟨w, hw, hsame⟩ := h
  rw [fromZval_list] at hw
  obtain ⟨ws, hws, rfl⟩ := Option.map_eq_some_iff.1 hw
  rw [toProto, toProto, listToProto_eq_map, listToProto_eq_map] at hsame
  have helems := hsame.elements
  have hback := (listFromZval_eq_some format).1 hws
  clear hsame hws hw
  induction hback with
  | nil =>
    intro v hv
    cases hv
  | @cons v w l ws hvw _ ih =>
    obtain ⟨hhead, htail⟩ := List.forall₂_cons.1 helems
    rw [List.forall_mem_cons]
    exact ⟨⟨w, hvw, hhead⟩, ih htail⟩

/-- The keys of a map that is kept are strings. -/
theorem isString_of_backSame {h : List (PHPValue × PHPValue)} (hne : h ≠ [])
    (keys : ∀ e ∈ h, RecordKey e.1) (hkept : BackSame format (hashMap h)) :
    ∀ e ∈ h, e.1.isString = true := by
  obtain ⟨w, hw, hsame⟩ := hkept
  rw [fromZval_hashMap format hne] at hw
  obtain ⟨t, ht, rfl⟩ := Option.map_eq_some_iff.1 hw
  have hstrings := isString_of_stringsFromZval (fun e he => by cases he) ht
  rw [toProto, toProto, hashMapToProto_eq_map, hashMapToProto_eq_map] at hsame
  intro e he
  obtain ⟨e', he', hkey, -⟩ := hsame.entries (List.mem_map_of_mem he)
  obtain ⟨e'', hmem, rfl⟩ := List.mem_map.1 he'
  obtain ⟨s, hs⟩ := isString_iff.1 (hstrings e'' hmem)
  have hkey' : Proto.Value.Same e''.1.toProto e.1.toProto := by
    cases hkey with
    | some hkey => exact hkey
  cases hk : e.1 with
  | string s' => rfl
  | int i =>
    -- an integer key cannot stand for a string
    rw [hs, hk, toProto, toProto] at hkey'
    cases hkey'
  | _ =>
    have hrecord := keys e he
    rw [hk] at hrecord
    cases hrecord

/-- The values of a map with string keys that is kept are kept. -/
theorem backSame_of_mem_hashMap {h : List (PHPValue × PHPValue)} (hne : h ≠ [])
    (hstrings : ∀ e ∈ h, e.1.isString = true) (keys : ∀ e ∈ h, RecordKey e.1)
    (distinct : h.Pairwise fun e e' => e.1 ≠ e'.1) (hkept : BackSame format (hashMap h)) :
    ∀ e ∈ h, BackSame format e.2 := by
  obtain ⟨w, hw, hsame⟩ := hkept
  rw [fromZval_hashMap format hne, insertAll_mapEntry format hstrings distinct] at hw
  obtain ⟨t, ht, rfl⟩ := Option.map_eq_some_iff.1 hw
  obtain ⟨es, hes, rfl⟩ := stringsFromZval_forall₂ format hstrings ht
  have hfrom : ∀ e' ∈ es, ∃ e ∈ h, e'.1 = e.1 ∧ fromZval (e.2.asZval format) = some e'.2 := by
    clear ht hw hsame hne hstrings keys distinct
    induction hes with
    | nil =>
      intro e' he'
      cases he'
    | @cons e e' h es hee' _ ih =>
      rw [List.forall_mem_cons]
      refine ⟨⟨e, by simp, hee'⟩, ?_⟩
      intro e₁ he₁
      obtain ⟨e₀, he₀, hrel⟩ := ih e₁ he₁
      exact ⟨e₀, by simp [he₀], hrel⟩
  have hfst : es.map Prod.fst = h.map Prod.fst := by
    clear ht hw hsame hne hstrings keys distinct hfrom
    induction hes with
    | nil => rfl
    | cons hee' _ ih => rw [List.map_cons, List.map_cons, hee'.1, ih]
  have hnodup : (h.map Prod.fst).Nodup := List.pairwise_map.2 distinct
  have hdistinct : AssocTable.Distinct PHPValue.eq ([] ++ es) := by
    have hpairs : es.Pairwise fun e e' => e.1 ≠ e'.1 := by
      rw [← hfst] at hnodup
      exact List.pairwise_map.1 hnodup
    apply hpairs.imp_of_mem
    intro e e' he he' hkey
    obtain ⟨e₀, he₀, heq, -⟩ := hfrom e he
    obtain ⟨e₁, he₁, heq', -⟩ := hfrom e' he'
    rw [heq, heq'] at hkey ⊢
    exact (keys e₀ he₀).eq_of_ne (keys e₁ he₁) hkey
  rw [AssocTable.insertAll_of_distinct _ hdistinct, List.nil_append, toProto, toProto,
    hashMapToProto_eq_map, hashMapToProto_eq_map] at hsame
  intro e he
  obtain ⟨e', he', hkey, hval⟩ := hsame.entries (List.mem_map_of_mem he)
  obtain ⟨e₁, he₁, rfl⟩ := List.mem_map.1 he'
  obtain ⟨e₀, he₀, heq, hback⟩ := hfrom e₁ he₁
  obtain ⟨s, hs⟩ := isString_iff.1 (hstrings e he)
  obtain ⟨s₀, hs₀⟩ := isString_iff.1 (hstrings e₀ he₀)
  have hkeys : e₀.1 = e.1 := by
    have hsame' : Proto.Value.Same e₁.1.toProto e.1.toProto := by
      cases hkey with
      | some hkey => exact hkey
    rw [heq, hs₀, hs, toProto, toProto] at hsame'
    rw [hs₀, hs]
    cases hsame'
    rfl
  obtain rfl : e₀ = e := List.inj_on_of_nodup_map hnodup he₀ he hkeys
  refine ⟨e₁.2, hback, ?_⟩
  cases hval with
  | some hval => exact hval

mutual

/-- No key of a value with string keys is refused. -/
theorem insertable_of_stringKeyed :
    ∀ {v : PHPValue}, v.stringKeyed = true → v.insertable format = true
  | list l, h => by
    rw [stringKeyed] at h
    rw [insertable]
    exact listInsertable_of_stringKeyed h
  | hashMap h, hkeys => by
    rw [stringKeyed, Bool.and_eq_true] at hkeys
    rw [insertable]
    exact entriesInsertable_of_stringKeyed hkeys.2
  | json _, h => by
    rw [stringKeyed] at h
    cases h
  | nil, _ | bool _, _ | int _, _ | uInt _, _ | float _, _ | string _, _ | geoJSON _, _
  | blob _, _ | hll _, _ | infinity, _ | wildcard, _ => by rw [insertable] <;> simp

theorem listInsertable_of_stringKeyed :
    ∀ {l : List PHPValue}, listStringKeyed l = true → listInsertable format l = true
  | [], _ => by rw [listInsertable]
  | v :: l, h => by
    rw [listStringKeyed, Bool.and_eq_true] at h
    rw [listInsertable, insertable_of_stringKeyed h.1, listInsertable_of_stringKeyed h.2]
    rfl

theorem entriesInsertable_of_stringKeyed :
    ∀ {h : List (PHPValue × PHPValue)}, entriesStringKeyed h = true →
      entriesInsertable format h = true
  | [], _ => by rw [entriesInsertable]
  | (k, v) :: h, hkeys => by
    rw [entriesStringKeyed, Bool.and_eq_true, Bool.and_eq_true] at hkeys
    obtain ⟨⟨hk, hv⟩, hrest⟩ := hkeys
    obtain ⟨s, rfl, hs⟩ := isText_iff.1 hk
    rw [entriesInsertable, asString, hs, insertable_of_stringKeyed hv,
      entriesInsertable_of_stringKeyed hrest]
    rfl

end

theorem listInsertable_iff (l : List PHPValue) :
    listInsertable format l = true ↔ ∀ v ∈ l, v.insertable format = true := by
  induction l with
  | nil => simp [listInsertable]
  | cons v l ih => rw [listInsertable, Bool.and_eq_true, ih, List.forall_mem_cons]

theorem entriesInsertable_iff (h : List (PHPValue × PHPValue)) :
    entriesInsertable format h = true ↔
      ∀ e ∈ h, isCString (e.1.asString format) = true ∧ e.2.insertable format = true := by
  induction h with
  | nil => simp [entriesInsertable]
  | cons e h ih =>
    rw [entriesInsertable, Bool.and_eq_true, Bool.and_eq_true, ih, List.forall_mem_cons]

/-- Only values without JSON objects and with string keys are kept. -/
theorem Stored.stringKeyed_of_backSame {v : PHPValue} (h : v.Stored)
    (hinsert : v.insertable format = true) (hback : BackSame format v) :
    v.stringKeyed = true := by
  induction h with
  | list l _ ih =>
    rw [insertable, listInsertable_iff] at hinsert
    rw [stringKeyed, listStringKeyed_iff]
    intro v hv
    exact ih v hv (hinsert v hv) (backSame_of_mem_list format hback v hv)
  | hashMap h keys distinct _ ih =>
    have hne : h ≠ [] := by
      -- an empty map comes back as a list
      rintro rfl
      obtain ⟨w, hw, hsame⟩ := hback
      have hlist : fromZval ((PHPValue.hashMap []).asZval format) = some (PHPValue.list []) := by
        rfl
      rw [hlist, Option.some.injEq] at hw
      subst hw
      rw [toProto, toProto] at hsame
      cases hsame
    have hstrings := isString_of_backSame format hne keys hback
    have hvals := backSame_of_mem_hashMap format hne hstrings keys distinct hback
    rw [insertable, entriesInsertable_iff] at hinsert
    rw [stringKeyed, Bool.and_eq_true, entriesStringKeyed_iff]
    refine ⟨by simpa using hne, ?_, ?_⟩
    · intro e he
      obtain ⟨s, hs⟩ := isString_iff.1 (hstrings e he)
      have htext := (hinsert e he).1
      rw [hs, asString] at htext
      exact isText_iff.2 ⟨s, hs, htext⟩
    · intro e he
      exact ih e he (hinsert e he).2 (hvals e he)
  | json h _ _ =>
    -- an array is no JSON object
    obtain ⟨w, hw, hsame⟩ := hback
    rw [asZval] at hw
    rcases fromZval_array hw with ⟨l, rfl⟩ | ⟨t, rfl⟩
    · rw [toProto, toProto] at hsame
      cases hsame
    · rw [toProto, toProto] at hsame
      cases hsame
  | _ => rfl

end PHPValue

/-- A value of a record. -/
structure StoredValue where
  val : PHPValue
  stored : val.Stored

/-- **Main theorem.** A program that reads a value and writes it back keeps it iff it
    holds no JSON object and no empty map, and all keys of its maps are strings without a NUL
    byte. -/
theorem readModifyWrite_iff (v : StoredValue) :
    Kept format v.val ↔ v.val.stringKeyed = true := by
  rw [kept_iff]
  constructor
  · intro h
    exact v.stored.stringKeyed_of_backSame format h.1 h.2
  · intro hkeys
    exact ⟨PHPValue.insertable_of_stringKeyed format hkeys, v.val,
      v.stored.fromZval_asZval format hkeys, .refl _⟩

end Format

/-- The map with 1 as its key is written back with the key "1", and an empty map as a
    list. -/
theorem integer_key_changes :
    ((PHPValue.hashMap [(.int 1, .int 5)]).setZval (fun _ => "") =
        .ok (.array [(.string "1", .long 5)]) ∧
      fromZval (.array [(.string "1", .long 5)]) = some (.hashMap [(.string "1", .int 5)]) ∧
      ¬ Kept (fun _ => "") (.hashMap [(.int 1, .int 5)])) ∧
    (PHPValue.hashMap []).setZval (fun _ => "") = .ok (.array []) ∧
      fromZval (.array []) = some (.list []) ∧
      ¬ Kept (fun _ => "") (.hashMap []) := by
  refine ⟨⟨rfl, rfl, ?_⟩, rfl, rfl, ?_⟩
  · intro hkept
    have hback := ((kept_iff _).1 hkept).2
    have hstring := PHPValue.isString_of_backSame (fun _ => "") (List.cons_ne_nil _ _)
      (fun e he => by rw [List.mem_singleton.1 he]; exact .int 1) hback (.int 1, .int 5) (by simp)
    cases hstring
  · intro hkept
    obtain ⟨w, hw, hsame⟩ := ((kept_iff _).1 hkept).2
    have hempty : fromZval ((PHPValue.hashMap []).asZval fun _ => "") = some (.list []) := by rfl
    rw [hempty, Option.some.injEq] at hw
    subst hw
    rw [PHPValue.toProto, PHPValue.toProto] at hsame
    cases hsame

end AerospikePhp
