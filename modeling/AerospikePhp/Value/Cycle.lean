import AerospikePhp.Value.Entries
import AerospikePhp.Value.SetZval

/-!
# Values that a program stores and reads

A value of PHP that is stored goes through `from_zval`, `toProto` and `toValue`; what the Go
client reads of it comes back through `fromValue`, `fromProto` and `set_zval`. In between is
the database. It keeps a value, and the Go client reads it as a native value of its own: a
list as a slice, a map as a Go map or, when it is ordered, as a slice of pairs, its entries in
any order. There is nothing to read of an infinity or a wildcard.

Results:
* `ReadAs.readable`: what is read of a value is one that `fromValue` and `fromProto` take.
* `comes_back_iff`: a value of PHP comes back as it was, up to the order of string keys, iff
  each array in it is a list or has only string keys without a NUL byte.
-/

namespace AerospikePhp

/-! ## What is read of a stored value -/

mutual

/-- The Go client reads a stored value as this native one. A JSON object is not stored by a
    program, which has no way to make one of a PHP value. -/
def Aero.Value.ReadAs : Aero.Value → GoValue → Prop
  | .null, g => g = .nil
  | .integer i, g => g = .int i
  | .float f, g => g = .float64 f
  | .string s, g => g = .string s
  | .bool b, g => g = .bool b
  | .bytes b, g => g = .bytes b
  | .geoJSON gj, g => g = .aero (.geoJSON gj)
  | .hll b, g => g = .aero (.hll b)
  | .list l, g => ∃ l', g = .slice l' ∧ ListReadAs l l'
  | .map m, g => ∃ m' m'', (g = .map m' ∨ g = .mapPairs m') ∧ m'.Perm m'' ∧ EntriesReadAs m m''
  | .json _, _ | .wildCard, _ | .infinity, _ => False

def ListReadAs : List Aero.Value → List GoValue → Prop
  | [], [] => True
  | v :: vs, g :: gs => v.ReadAs g ∧ ListReadAs vs gs
  | _, _ => False

def EntriesReadAs : List (Aero.Value × Aero.Value) → List (GoValue × GoValue) → Prop
  | [], [] => True
  | (k, v) :: m, (k', v') :: m' => k.ReadAs k' ∧ v.ReadAs v' ∧ EntriesReadAs m m'
  | _, _ => False

end

/-- A value of the extension comes back from the database as this one. -/
def PHPValue.ComesBackAs (v w : PHPValue) : Prop := ∃ g, v.toAero.ReadAs g ∧ w = g.denoted

theorem listReadAs_toAero {vs : List PHPValue} {gs : List GoValue}
    (h : ListReadAs (PHPValue.listToAero vs) gs) :
    List.Forall₂ (fun v g => v.toAero.ReadAs g) vs gs := by
  induction vs generalizing gs with
  | nil =>
    cases gs with
    | nil => exact .nil
    | cons g gs => cases h
  | cons v vs ih =>
    cases gs with
    | nil => cases h
    | cons g gs => exact .cons h.1 (ih h.2)

theorem entriesReadAs_toAero {h : List (PHPValue × PHPValue)} {m : List (GoValue × GoValue)}
    (hread : EntriesReadAs (PHPValue.hashMapToAero h) m) :
    List.Forall₂ (fun e e' => e.1.toAero.ReadAs e'.1 ∧ e.2.toAero.ReadAs e'.2) h m := by
  induction h generalizing m with
  | nil =>
    cases m with
    | nil => exact .nil
    | cons e m => cases hread
  | cons e h ih =>
    cases m with
    | nil => cases hread
    | cons e' m => exact .cons ⟨hread.1, hread.2.1⟩ (ih hread.2.2)

/-- A key of a map is read as the integer or the string that it is. -/
theorem PHPValue.PlainKey.readAs {k : PHPValue} (h : k.PlainKey) {g : GoValue}
    (hread : k.toAero.ReadAs g) : g.PlainKey ∧ g.denoted = k.signed := by
  cases h with
  | uInt ui =>
    cases hread
    exact ⟨.int _, rfl⟩
  | string s =>
    cases hread
    exact ⟨.string _, rfl⟩

/-- The keys that are read of the entries of a map, in the order of the entries. -/
theorem denoted_keys {h : List (PHPValue × PHPValue)} {m : List (GoValue × GoValue)}
    (keys : ∀ e ∈ h, PHPValue.PlainKey e.1)
    (hread : List.Forall₂ (fun e e' => e.1.toAero.ReadAs e'.1 ∧ e.2.toAero.ReadAs e'.2) h m) :
    (∀ e ∈ m, GoValue.PlainKey e.1) ∧
      m.map (fun e => e.1.denoted) = h.map fun e => e.1.signed := by
  induction hread with
  | nil => exact ⟨by simp, rfl⟩
  | @cons e e' h m he _ ih =>
    obtain ⟨hplain, hdenoted⟩ := (keys e (by simp)).readAs he.1
    obtain ⟨hrest, hrests⟩ := ih fun e₁ he₁ => keys e₁ (by simp [he₁])
    rw [List.forall_mem_cons, List.map_cons, List.map_cons, hdenoted, hrests]
    exact ⟨⟨hplain, hrest⟩, rfl⟩

theorem nodup_signed {h : List (PHPValue × PHPValue)} (keys : ∀ e ∈ h, PHPValue.PlainKey e.1)
    (distinct : h.Pairwise fun e e' => e.1 ≠ e'.1) : (h.map fun e => e.1.signed).Nodup := by
  apply List.pairwise_map.2
  apply distinct.imp_of_mem
  intro e e' he he' hne
  exact (keys e he).signed_ne (keys e' he') hne

/-- What is read of a map: its keys are plain and pairwise different. -/
theorem readable_entries {h : List (PHPValue × PHPValue)} {m m' : List (GoValue × GoValue)}
    (keys : ∀ e ∈ h, PHPValue.PlainKey e.1) (distinct : h.Pairwise fun e e' => e.1 ≠ e'.1)
    (vals : ∀ e ∈ h, ∀ g, e.2.toAero.ReadAs g → g.Readable ∧ g.jsonEmpty = true)
    (hperm : m'.Perm m)
    (hread : List.Forall₂ (fun e e' => e.1.toAero.ReadAs e'.1 ∧ e.2.toAero.ReadAs e'.2) h m) :
    (∀ e ∈ m', GoValue.PlainKey e.1) ∧
      (m'.Pairwise fun e e' => e.1.denoted ≠ e'.1.denoted) ∧
      (∀ e ∈ m', e.2.Readable) ∧ GoValue.entriesJsonEmpty m' = true := by
  obtain ⟨hplain, hkeys⟩ := denoted_keys keys hread
  have hvals : ∀ e' ∈ m, e'.2.Readable ∧ e'.2.jsonEmpty = true := by
    intro e' he'
    obtain ⟨i, hi, rfl⟩ := List.getElem_of_mem he'
    have hi' : i < h.length := hread.length_eq ▸ hi
    exact vals h[i] (List.getElem_mem hi') _ (hread.get hi' hi).2
  have hnodup : (m'.map fun e => e.1.denoted).Nodup := by
    rw [(hperm.map _).nodup_iff, hkeys]
    exact nodup_signed keys distinct
  refine ⟨fun e he => hplain e (hperm.mem_iff.1 he), List.pairwise_map.1 hnodup,
    fun e he => (hvals e (hperm.mem_iff.1 he)).1, ?_⟩
  have hall : ∀ e ∈ m', e.2.jsonEmpty = true := fun e he => (hvals e (hperm.mem_iff.1 he)).2
  clear hnodup hperm
  induction m' with
  | nil => rfl
  | cons e m' ih =>
    rw [GoValue.entriesJsonEmpty, hall e (by simp), ih fun e' he' => hall e' (by simp [he'])]
    rfl

/-- What is read of a value that a program stored can be encoded and decoded. -/
theorem PHPValue.Plain.readable {v : PHPValue} (h : v.Plain) :
    ∀ g, v.toAero.ReadAs g → g.Readable ∧ g.jsonEmpty = true := by
  induction h with
  | nil =>
    intro g hread
    cases hread
    exact ⟨.nil, rfl⟩
  | bool b =>
    intro g hread
    cases hread
    exact ⟨.bool b, rfl⟩
  | int i =>
    intro g hread
    cases hread
    exact ⟨.int i, rfl⟩
  | float f =>
    intro g hread
    cases hread
    exact ⟨.float64 f, rfl⟩
  | string s =>
    intro g hread
    cases hread
    exact ⟨.string s, rfl⟩
  | blob b =>
    intro g hread
    cases hread
    exact ⟨.bytes b, rfl⟩
  | geoJSON gj =>
    intro g hread
    cases hread
    exact ⟨.aero _ rfl, rfl⟩
  | hll b =>
    intro g hread
    cases hread
    exact ⟨.aero _ rfl, rfl⟩
  | list l _ ih =>
    intro g hread
    obtain ⟨l', rfl, hl⟩ := hread
    have helems := listReadAs_toAero hl
    have hall : ∀ x ∈ l', x.Readable ∧ x.jsonEmpty = true := by
      intro x hx
      obtain ⟨i, hi, rfl⟩ := List.getElem_of_mem hx
      have hi' : i < l.length := helems.length_eq ▸ hi
      exact ih l[i] (List.getElem_mem hi') _ (helems.get hi' hi)
    refine ⟨.slice l' fun x hx => (hall x hx).1, ?_⟩
    rw [GoValue.jsonEmpty, GoValue.listJsonEmpty_eq_all, List.all_eq_true]
    exact fun x hx => (hall x hx).2
  | hashMap h keys distinct _ ih =>
    intro g hread
    obtain ⟨m', m, hg, hperm, hm⟩ := hread
    obtain ⟨hplain, hdistinct, hvals, hjson⟩ :=
      readable_entries keys distinct ih hperm (entriesReadAs_toAero hm)
    rcases hg with rfl | rfl
    · exact ⟨.map m' hplain hdistinct hvals, hjson⟩
    · exact ⟨.mapPairs m' hplain hdistinct hvals, hjson⟩
  | wildcard =>
    intro g hread
    cases hread
  | infinity =>
    intro g hread
    cases hread

/-- It arrives in the extension as what it denotes. -/
theorem PHPValue.Plain.comesBack {v : PHPValue} (h : v.Plain) {g : GoValue}
    (hread : v.toAero.ReadAs g) :
    ∃ p, fromValue g = .ok p ∧ PHPValue.fromProto p = .ok g.denoted := by
  obtain ⟨hreadable, hjson⟩ := h.readable g hread
  obtain ⟨p, hp, hdecoded⟩ := hreadable.decodes
  unfold GoValue.Decodes at hdecoded
  rw [if_pos hjson] at hdecoded
  exact ⟨p, hp, Fallible.toOption_eq_some.1 hdecoded⟩

/-! ## Lists and maps that come back -/

namespace PHPValue

theorem comesBackAs_list {l : List PHPValue} {w : PHPValue} (h : (list l).ComesBackAs w) :
    ∃ ws, w = list ws ∧ List.Forall₂ ComesBackAs l ws := by
  obtain ⟨g, hread, rfl⟩ := h
  obtain ⟨l', rfl, hl⟩ := hread
  refine ⟨GoValue.listDenoted l', rfl, ?_⟩
  rw [GoValue.listDenoted_eq_map, List.forall₂_map_right_iff]
  exact (listReadAs_toAero hl).imp fun v g hg => ⟨g, hg, rfl⟩

/-- The entries come back in some order, with the keys that they had. -/
theorem comesBackAs_hashMap {h : List (PHPValue × PHPValue)} (keys : ∀ e ∈ h, PlainKey e.1)
    {w : PHPValue} (hback : (hashMap h).ComesBackAs w) :
    ∃ ws ws', w = hashMap ws ∧ ws.Perm ws' ∧
      (ws'.map Prod.fst = h.map fun e => e.1.signed) ∧
      List.Forall₂ ComesBackAs (h.map Prod.snd) (ws'.map Prod.snd) := by
  obtain ⟨g, hread, rfl⟩ := hback
  obtain ⟨m', m, hg, hperm, hm⟩ := hread
  have hentries := entriesReadAs_toAero hm
  have hdenoted : g.denoted = hashMap (GoValue.entriesDenoted m') := by
    rcases hg with rfl | rfl
    · rfl
    · rfl
  refine ⟨_, m.map fun e => (e.1.denoted, e.2.denoted), hdenoted, ?_, ?_, ?_⟩
  · rw [GoValue.entriesDenoted_eq_map]
    exact hperm.map _
  · rw [List.map_map]
    exact (denoted_keys keys hentries).2
  · rw [List.map_map, List.forall₂_map_left_iff, List.forall₂_map_right_iff]
    exact hentries.imp fun e e' he => ⟨e'.2, he.2, rfl⟩

end PHPValue

/-! ## Values of PHP up to order -/

mutual

/-- A value of PHP is this one, up to the order of the entries of its arrays. -/
def Zval.Alike : Zval → Zval → Prop
  | .array arr, z' => ∃ arr' arr'', z' = .array arr' ∧ arr'.Perm arr'' ∧
      arr''.map Prod.fst = arr.map Prod.fst ∧ ListAlike arr (arr''.map Prod.snd)
  | z, z' => z' = z

/-- The values are the elements of the array, in order. -/
def ListAlike : List (ArrayKey × Zval) → List Zval → Prop
  | [], [] => True
  | (_, z) :: arr, z' :: zs => z.Alike z' ∧ ListAlike arr zs
  | _, _ => False

end

/-- A string without a NUL byte. -/
def ArrayKey.isText : ArrayKey → Bool
  | .long _ => false
  | .string s => isCString s

theorem ArrayKey.isString_of_isText {k : ArrayKey} (h : k.isText = true) : k.isString = true := by
  cases k with
  | long i => cases h
  | string s => rfl

/-- The array is a list, or all its keys are strings without a NUL byte. -/
def Kindred (arr : List (ArrayKey × Zval)) : Prop :=
  hasSequentialKeys arr = true ∨ ∀ e ∈ arr, e.1.isText = true

theorem plainKeys_of_written {arr : List (ArrayKey × Zval)} {es : List (PHPValue × PHPValue)}
    (h : List.Forall₂ EntryWritten arr es) : ∀ e ∈ es, PHPValue.PlainKey e.1 := by
  intro e he
  have hmem : e.1 ∈ arr.map fun e => e.1.toValue := by
    rw [← keys_of_written h]
    exact List.mem_map_of_mem he
  obtain ⟨e', -, hkey⟩ := List.mem_map.1 hmem
  rw [← hkey]
  cases e'.1 with
  | long i => exact .uInt _
  | string s => exact .string s

/-- An array with the keys of another, in some order. -/
theorem alike_array_iff {arr arr' arr'' : List (ArrayKey × Zval)} (hnodup : DistinctKeys arr)
    (hperm : arr'.Perm arr'') (hkeys : arr''.map Prod.fst = arr.map Prod.fst) :
    (Zval.array arr).Alike (.array arr') ↔ ListAlike arr (arr''.map Prod.snd) := by
  constructor
  · intro h
    obtain ⟨arr₁, arr₂, heq, hperm₂, hkeys₂, hall⟩ := h
    cases heq
    have hsame : arr'' = arr₂ := by
      apply AssocTable.eq_of_perm (hperm.symm.trans hperm₂) (hkeys.trans hkeys₂.symm)
      rw [hkeys]
      exact hnodup
    rw [hsame]
    exact hall
  · intro hall
    exact ⟨arr', arr'', rfl, hperm, hkeys, hall⟩

/-- An array with string keys is not an array with another key. -/
theorem not_alike_stringKeys {arr arr' : List (ArrayKey × Zval)} (hstrings : StringKeys arr')
    (hother : ¬ ∀ e ∈ arr, e.1.isString = true) : ¬ (Zval.array arr).Alike (.array arr') := by
  intro h
  obtain ⟨arr₁, arr'', heq, hperm, hkeys, -⟩ := h
  cases heq
  apply hother
  intro e he
  have hmem : e.1 ∈ arr''.map Prod.fst := by
    rw [hkeys]
    exact List.mem_map_of_mem he
  obtain ⟨e', he', hkey⟩ := List.mem_map.1 hmem
  obtain ⟨s, hs⟩ := hstrings e' (hperm.mem_iff.2 he')
  rw [← hkey, hs]
  rfl

section Format

variable (format : PHPValue → String)

theorem listAsZval_values (i : ℕ) (vs : List PHPValue) :
    (PHPValue.listAsZval format i vs).map Prod.snd = vs.map (PHPValue.asZval format) := by
  induction vs generalizing i with
  | nil => rfl
  | cons v vs ih =>
    rw [PHPValue.listAsZval, List.map_cons, ih, List.map_cons]

/-- A list of the right length has the keys of an array with sequential keys. -/
theorem keys_listAsZval {arr : List (ArrayKey × Zval)} (hseq : hasSequentialKeys arr = true)
    {ws : List PHPValue} (hlength : ws.length = arr.length) :
    (PHPValue.listAsZval format 0 ws).map Prod.fst = arr.map Prod.fst := by
  rw [listAsZval_keys, hlength, ← List.range_eq_range']
  exact (beq_iff_eq.1 hseq).symm

/-- A map makes an array with string keys. -/
theorem asZval_hashMap (ws : List (PHPValue × PHPValue)) :
    ∃ arr', (PHPValue.hashMap ws).asZval format = .array arr' ∧ StringKeys arr' := by
  refine ⟨PHPValue.hashMapAsZval format ws [], by rw [PHPValue.asZval], ?_⟩
  rw [PHPValue.hashMapAsZval_eq]
  exact stringKeys_insertAll (fun e he => by cases he) (stringKeys_map format ws)

/-- An array with another key than strings does not come back from a map. -/
theorem not_alike_hashMap {arr : List (ArrayKey × Zval)} {ws : List (PHPValue × PHPValue)}
    (hseq : ¬ hasSequentialKeys arr = true) (hother : ¬ ∀ e ∈ arr, e.1.isString = true) :
    (PHPValue.hashMap ws).insertable format = true ∧
        (Zval.array arr).Alike ((PHPValue.hashMap ws).asZval format) ↔
      Kindred arr ∧ EntriesAllArrays Kindred arr := by
  obtain ⟨arr', hset, hstrings⟩ := asZval_hashMap format ws
  rw [hset]
  refine iff_of_false (fun h => not_alike_stringKeys hstrings hother h.2) ?_
  intro h
  rcases h.1 with h | h
  · exact hseq h
  · exact hother fun e he => ArrayKey.isString_of_isText (h e he)

/-- A map with the string keys of an array makes an array with these keys. -/
theorem asZval_stringMap {arr : List (ArrayKey × Zval)} {es ws ws' : List (PHPValue × PHPValue)}
    (hnodup : DistinctKeys arr) (hstrings : ∀ e ∈ arr, e.1.isString = true)
    (hes : List.Forall₂ EntryWritten arr es) (hperm : ws.Perm ws')
    (hkeys : ws'.map Prod.fst = es.map fun e => e.1.signed) :
    (PHPValue.hashMap ws).asZval format = .array (ws.map (mapEntry format)) ∧
      (ws'.map (mapEntry format)).map Prod.fst = arr.map Prod.fst := by
  have hsigned : ws'.map Prod.fst = arr.map fun e => e.1.toValue := by
    rw [hkeys]
    have hsame : (es.map fun e => e.1.signed) = es.map Prod.fst := by
      apply List.map_congr_left
      intro e he
      obtain ⟨i, hi, rfl⟩ := List.getElem_of_mem he
      have hi' : i < arr.length := hes.length_eq ▸ hi
      have hwritten := (hes.get hi' hi).1
      simp only [List.get_eq_getElem] at hwritten
      have hstring := hstrings arr[i] (List.getElem_mem hi')
      rw [hwritten]
      cases hkey : arr[i].1 with
      | long j =>
        rw [hkey] at hstring
        cases hstring
      | string s => rfl
    rw [hsame, keys_of_written hes]
  have hall : ∀ e ∈ ws', e.1.isString = true := by
    intro e he
    have hmem : e.1 ∈ arr.map fun e => e.1.toValue := by
      rw [← hsigned]
      exact List.mem_map_of_mem he
    obtain ⟨e', he', hkey⟩ := List.mem_map.1 hmem
    have hstring := hstrings e' he'
    rw [← hkey]
    cases hk : e'.1 with
    | long j =>
      rw [hk] at hstring
      cases hstring
    | string s => rfl
  have hdistinct : ws.Pairwise fun e e' => e.1 ≠ e'.1 := by
    apply List.pairwise_map.1
    show (ws.map Prod.fst).Nodup
    rw [(hperm.map Prod.fst).nodup_iff, hsigned]
    have hmap := List.Nodup.map ArrayKey.toValue_injective hnodup
    rw [List.map_map] at hmap
    exact hmap
  constructor
  · rw [PHPValue.asZval, PHPValue.hashMapAsZval_eq,
      insertAll_mapEntry format (fun e he => hall e (hperm.mem_iff.1 he)) hdistinct]
  · have htext : ∀ k : ArrayKey, k.isString = true →
        ArrayKey.string (k.toValue.asString format) = k := by
      intro k hk
      cases k with
      | long i => cases hk
      | string s => rfl
    have hfirst : (ws'.map (mapEntry format)).map Prod.fst =
        (ws'.map Prod.fst).map fun k => ArrayKey.string (k.asString format) := by
      rw [List.map_map, List.map_map]
      rfl
    rw [hfirst, hsigned, List.map_map]
    apply List.map_congr_left
    intro e he
    exact htext e.1 (hstrings e he)

/-- No key of a map is refused iff its texts have no NUL byte. -/
theorem insertable_hashMap_iff {arr : List (ArrayKey × Zval)} {ws ws' : List (PHPValue × PHPValue)}
    (hperm : ws.Perm ws')
    (hkeys : (ws'.map (mapEntry format)).map Prod.fst = arr.map Prod.fst) :
    (PHPValue.hashMap ws).insertable format = true ↔
      (∀ e ∈ arr, e.1.isText = true) ∧
        ∀ w ∈ ws'.map Prod.snd, PHPValue.insertable format w = true := by
  have htexts : (∀ e ∈ ws', isCString (e.1.asString format) = true) ↔
      ∀ e ∈ arr, e.1.isText = true := by
    have hall : (∀ k ∈ (ws'.map (mapEntry format)).map Prod.fst, k.isText = true) ↔
        ∀ k ∈ arr.map Prod.fst, k.isText = true := by rw [hkeys]
    rw [List.forall_mem_map, List.forall_mem_map, List.forall_mem_map] at hall
    exact hall
  rw [PHPValue.insertable, PHPValue.entriesInsertable_iff, ← htexts, List.forall_mem_map,
    ← forall₂_and]
  exact forall_congr' fun e => imp_congr_left hperm.mem_iff

/-- Integer keys that are no list are not all strings: there is one. -/
theorem not_strings_of_numerical {arr : List (ArrayKey × Zval)}
    (hseq : ¬ hasSequentialKeys arr = true) (hnum : hasNumericalKeys arr = true) :
    ¬ ∀ e ∈ arr, e.1.isString = true := by
  intro hstrings
  cases arr with
  | nil => exact hseq rfl
  | cons e arr =>
    have hlong := isString_eq_false_of_numerical hnum e (by simp)
    rw [hstrings e (by simp)] at hlong
    cases hlong

/-! ## The whole cycle -/

mutual

theorem alike_iff : ∀ {z : Zval} {v w : PHPValue}, z.AllArrays DistinctKeys →
    fromZval z = some v → v.ComesBackAs w →
    (w.insertable format = true ∧ z.Alike (w.asZval format) ↔ z.AllArrays Kindred)
  | .array arr, v, w, hdistinct, hz, hback => by
    rw [Zval.AllArrays] at hdistinct
    obtain ⟨hnodup, hrest⟩ := hdistinct
    rw [fromZval] at hz
    rw [Zval.AllArrays]
    split_ifs at hz with hseq hnum
    · -- a list
      obtain ⟨l, hl, hz⟩ := Option.bind_eq_some_iff.1 hz
      cases hz
      obtain ⟨ws, rfl, hws⟩ := PHPValue.comesBackAs_list hback
      have helems := forall₂_of_listFromZval hl
      have hlength : ws.length = arr.length := by
        rw [← hws.length_eq, ← helems.length_eq]
      have hset : (PHPValue.list ws).asZval format =
          .array (PHPValue.listAsZval format 0 ws) := by rw [PHPValue.asZval]
      rw [hset, alike_array_iff hnodup (.refl _) (keys_listAsZval format hseq hlength),
        listAsZval_values, PHPValue.insertable, PHPValue.listInsertable_iff,
        listAlike_iff hrest helems hws]
      exact (and_iff_right (.inl hseq)).symm
    · -- integer keys that are no list come back as strings
      obtain ⟨t, ht, hz⟩ := Option.bind_eq_some_iff.1 hz
      cases hz
      have hlongs := isString_eq_false_of_numerical hnum
      obtain ⟨es, rfl, hes⟩ := written_of_longsFromZval ht
      rw [List.filter_eq_self.2 fun e he => by rw [hlongs e he]; rfl] at hes
      rw [insertAll_written hnodup hes] at hback
      obtain ⟨ws, ws', rfl, -, -, -⟩ :=
        PHPValue.comesBackAs_hashMap (plainKeys_of_written hes) hback
      exact not_alike_hashMap format hseq (not_strings_of_numerical hseq hnum)
    · obtain ⟨t, ht, hz⟩ := Option.bind_eq_some_iff.1 hz
      cases hz
      obtain ⟨es, rfl, hes⟩ := written_of_stringsFromZval ht
      by_cases hstrings : ∀ e ∈ arr, e.1.isString = true
      · -- a map with string keys
        rw [List.filter_eq_self.2 hstrings] at hes
        rw [insertAll_written hnodup hes] at hback
        obtain ⟨ws, ws', rfl, hperm, hkeys, hvals⟩ :=
          PHPValue.comesBackAs_hashMap (plainKeys_of_written hes) hback
        obtain ⟨hset, hkeys'⟩ := asZval_stringMap format hnodup hstrings hes hperm hkeys
        have hvalues : (ws'.map (mapEntry format)).map Prod.snd =
            (ws'.map Prod.snd).map (PHPValue.asZval format) := by
          rw [List.map_map, List.map_map]
          rfl
        rw [hset, alike_array_iff hnodup (hperm.map _) hkeys', hvalues,
          insertable_hashMap_iff format hperm hkeys', and_assoc,
          listAlike_iff hrest (forall₂_values hes) hvals, Kindred, or_iff_right hseq]
      · -- integer keys among string keys are lost
        have hplain : ∀ e ∈ AssocTable.insertAll PHPValue.eq [] es, PHPValue.PlainKey e.1 :=
          (stringsFromZval_plain .empty ht).keys
        obtain ⟨ws, ws', rfl, -, -, -⟩ := PHPValue.comesBackAs_hashMap hplain hback
        exact not_alike_hashMap format hseq hstrings
  | .null, v, w, _, hz, hback | .bool _, v, w, _, hz, hback | .long _, v, w, _, hz, hback
  | .double _, v, w, _, hz, hback | .string _, v, w, _, hz, hback | .blob _, v, w, _, hz, hback
  | .hll _, v, w, _, hz, hback | .geoJSON _, v, w, _, hz, hback => by
    cases hz
    obtain ⟨g, hread, rfl⟩ := hback
    cases hread
    exact iff_of_true ⟨rfl, rfl⟩ trivial
  | .infinity, v, w, _, hz, hback | .wildcard, v, w, _, hz, hback => by
    cases hz
    obtain ⟨g, hread, -⟩ := hback
    cases hread
  | .other, v, w, _, hz, _ => by cases hz

theorem listAlike_iff : ∀ {arr : List (ArrayKey × Zval)} {vs ws : List PHPValue},
    EntriesAllArrays DistinctKeys arr →
    List.Forall₂ (fun e v => fromZval e.2 = some v) arr vs →
    List.Forall₂ PHPValue.ComesBackAs vs ws →
    ((∀ w ∈ ws, PHPValue.insertable format w = true) ∧
        ListAlike arr (ws.map (PHPValue.asZval format)) ↔ EntriesAllArrays Kindred arr)
  | [], _, _, _, .nil, .nil => iff_of_true ⟨by simp, trivial⟩ trivial
  | (_, _) :: _, _, _, hdistinct, .cons hv hvs, .cons hw hws => by
    rw [List.forall_mem_cons, EntriesAllArrays, ← alike_iff hdistinct.1 hv hw,
      ← listAlike_iff hdistinct.2 hvs hws]
    exact and_and_and_comm

end

/-- **Main theorem.** A value of PHP is stored and read: whatever the Go client reads of the value
    that it was given is sent and received, and the program has its value back, up to the order
    of string keys, iff each array in it is a list or has only string keys without a NUL byte. -/
theorem comes_back_iff (z : PhpValue) {v : PHPValue} (hz : fromZval z.val = some v)
    {a : Aero.Value} (ha : toValue (some v.toProto) = .ok a) {g : GoValue} (hread : a.ReadAs g) :
    (∃ p w z', fromValue g = .ok p ∧ PHPValue.fromProto p = .ok w ∧ w.setZval format = .ok z' ∧
        z.val.Alike z') ↔
      z.val.AllArrays Kindred := by
  have hplain : v.Plain := fromZval_plain hz
  rw [toValue_some, toValueV_toProto hplain, Except.ok.injEq] at ha
  subst ha
  obtain ⟨p, hp, hfrom⟩ := hplain.comesBack hread
  rw [← alike_iff format z.distinct hz ⟨g, hread, rfl⟩]
  constructor
  · intro h
    obtain ⟨p', w, z', hp', hw, hset, halike⟩ := h
    rw [hp] at hp'
    cases hp'
    rw [hfrom] at hw
    cases hw
    obtain ⟨hinsert, rfl⟩ := (PHPValue.setZval_eq_ok format).1 hset
    exact ⟨hinsert, halike⟩
  · intro halike
    exact ⟨p, _, _, hp, hfrom, (PHPValue.setZval_eq_ok format).2 ⟨halike.1, rfl⟩, halike.2⟩

end Format

/-- `["name" => "ann", "tags" => [1, 2]]` comes back, here from an ordered map. -/
theorem comes_back_iff_userArray :
    ∃ p w z, fromValue (.mapPairs [(.string "tags", .slice [.int 1, .int 2]),
        (.string "name", .string "ann")]) = .ok p ∧
      PHPValue.fromProto p = .ok w ∧ w.setZval (fun _ => "") = .ok z ∧
      userArray.val.Alike z := by
  have hv : fromZval userArray.val = some (.hashMap [(.string "name", .string "ann"),
      (.string "tags", .list [.int 1, .int 2])]) := by
    simp [userArray, fromZval, stringsFromZval, listFromZval, hasSequentialKeys,
      hasNumericalKeys, AssocTable.insert, PHPValue.eq, List.range_succ_eq_map]
  have ha := toValueV_toProto (fromZval_plain hv)
  rw [← toValue_some] at ha
  refine (comes_back_iff (fun _ => "") userArray hv ha ?_).2 ?_
  · refine ⟨_, [(.string "name", .string "ann"), (.string "tags", .slice [.int 1, .int 2])],
      .inr rfl, .swap _ _ _, rfl, rfl, rfl, ⟨[.int 1, .int 2], rfl, rfl, rfl, trivial⟩, trivial⟩
  · have hseq : hasSequentialKeys [(.long 0, .long 1), (.long 1, .long 2)] = true := by
      simp [hasSequentialKeys, List.range_succ_eq_map]
    refine ⟨.inr ?_, trivial, ⟨.inl hseq, trivial, trivial, trivial⟩, trivial⟩
    simp [ArrayKey.isText, isCString]

end AerospikePhp
