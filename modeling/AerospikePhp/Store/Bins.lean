import AerospikePhp.Store.Program

/-!
# The bins of a record, one by one and together

`Record::bin` (`src/lib.rs` lines 4232–4236) decodes one bin of a record, and
`Record::get_bins` (lines 4238–4242) all of them: it makes a hash map of the extension, which
`set_zval` makes an array of PHP. The hash maps of Rust are visited in any order.

Results:
* `bins_agree`: the bins can be read together iff each can be read alone and no name has a NUL
  byte, and the array then has under each name what is read of the bin of this name.
* `bins_shown`: the array of a record that was read has the bins of the store. The theorems about
  runs of programs speak of single bins; by this one they hold of the array too.
-/

namespace AerospikePhp

open Records

/-! ## All bins -/

/-- The loop of `From<HashMap<String, proto::Value>> for PHPValue` (lines 11433–11441). -/
def PHPValue.ofBins : List (String × Proto.Value) → List (PHPValue × PHPValue) →
    Except Panic (List (PHPValue × PHPValue))
  | [], hash => .ok hash
  | (k, v) :: h, hash => do
    let v ← PHPValue.fromProto v
    ofBins h (AssocTable.insert PHPValue.eq hash (.string k) v)

/-- `Record::get_bins` (lines 4238–4242), when the bins are visited in this order. -/
def Proto.Record.getBins (visited : List (String × Proto.Value)) : Except Panic PHPValue :=
  (PHPValue.ofBins visited []).map .hashMap

/-- A bin as an entry of the hash map. -/
def binEntry (w : String × PHPValue) : PHPValue × PHPValue := (.string w.1, w.2)

/-- The bins are decoded one by one, and inserted in the order of the visit. -/
theorem PHPValue.ofBins_eq_ok {h : List (String × Proto.Value)}
    {hash t : List (PHPValue × PHPValue)} (hok : PHPValue.ofBins h hash = .ok t) :
    ∃ ws : List (String × PHPValue),
      List.Forall₂ (fun b w => w.1 = b.1 ∧ PHPValue.fromProto b.2 = .ok w.2) h ws ∧
      t = AssocTable.insertAll PHPValue.eq hash (ws.map binEntry) := by
  induction h generalizing hash with
  | nil =>
    cases hok
    exact ⟨[], .nil, rfl⟩
  | cons b h ih =>
    obtain ⟨k, v⟩ := b
    obtain ⟨w, hw, hrest⟩ := Fallible.bind_eq_ok.1 hok
    obtain ⟨ws, hws, rfl⟩ := ih hrest
    exact ⟨(k, w) :: ws, .cons ⟨rfl, hw⟩ hws, rfl⟩

/-- Bins with different names are all in the hash map. -/
theorem PHPValue.ofBins_distinct {h : List (String × Proto.Value)} {t : List (PHPValue × PHPValue)}
    (hnames : (h.map Prod.fst).Nodup) (hok : PHPValue.ofBins h [] = .ok t) :
    ∃ ws : List (String × PHPValue),
      List.Forall₂ (fun b w => w.1 = b.1 ∧ PHPValue.fromProto b.2 = .ok w.2) h ws ∧
      t = ws.map binEntry ∧ (ws.map Prod.fst).Nodup := by
  obtain ⟨ws, hws, rfl⟩ := PHPValue.ofBins_eq_ok hok
  have hsame : ws.map Prod.fst = h.map Prod.fst :=
    names_forall₂ (R := fun p w => PHPValue.fromProto p = .ok w) hws
  have hnodup : (ws.map Prod.fst).Nodup := hsame ▸ hnames
  have hdistinct : AssocTable.Distinct PHPValue.eq ([] ++ ws.map binEntry) := by
    rw [List.nil_append, AssocTable.Distinct, List.pairwise_map]
    apply (List.pairwise_map.1 hnodup).imp
    intro w w' hne
    simpa [binEntry, PHPValue.eq] using hne
  refine ⟨ws, hws, ?_, hnodup⟩
  rw [AssocTable.insertAll_of_distinct _ hdistinct, List.nil_append]

/-! ## The array -/

section Format

variable (format : PHPValue → String)

/-- `set_zval` of a value that is there, or null. -/
def PHPValue.optionSetZval : Option PHPValue → Except Panic (Option Zval)
  | some v => (v.setZval format).map some
  | none => .ok none

/-- What a program gets of one bin: `set_zval` is called on what `Record::bin` returns. -/
def Proto.Record.readBin (r : Proto.Record) (name : String) : Except Panic (Option Zval) := do
  PHPValue.optionSetZval format (← r.bin name)

/-- What a program can get of all bins, when the bins of the message are visited in this order,
    and those of the hash map in any order. -/
inductive Proto.Record.GetsBins (visited : List (String × Proto.Value)) : Except Panic Zval → Prop
  | panic {p : Panic} (h : Proto.Record.getBins visited = .error p) : GetsBins visited (.error p)
  | array {es es' : List (PHPValue × PHPValue)}
      (h : Proto.Record.getBins visited = .ok (.hashMap es)) (perm : es'.Perm es) : GetsBins visited ((PHPValue.hashMap es').setZval format)

/-- The array has under each name what is read of the bin of this name, and nothing else. -/
structure Proto.Record.BinsArray (r : Proto.Record) (arr : List (ArrayKey × Zval)) : Prop where
  keys : StringKeys arr
  distinct : (arr.map Prod.fst).Nodup
  lookup : ∀ name, r.readBin format name = .ok (arr.lookup (.string name))

/-- The entries of a hash map with the decoded bins make an array that has each under its name. -/
theorem asZval_entries {ws : List (String × PHPValue)} (hnodup : (ws.map Prod.fst).Nodup)
    {es : List (PHPValue × PHPValue)} (hes : es.Perm (ws.map binEntry)) :
    ∃ arr, (PHPValue.hashMap es).asZval format = .array arr ∧ StringKeys arr ∧
      (arr.map Prod.fst).Nodup ∧
      ∀ name, arr.lookup (.string name) = (ws.lookup name).map (PHPValue.asZval format) := by
  have hstrings : ∀ e ∈ es, e.1.isString = true := by
    intro e he
    obtain ⟨w, -, rfl⟩ := List.mem_map.1 (hes.mem_iff.1 he)
    rfl
  have hkeys : (ws.map binEntry).Pairwise fun e e' => e.1 ≠ e'.1 := by
    rw [List.pairwise_map]
    apply (List.pairwise_map.1 hnodup).imp
    intro w w' hne
    simpa [binEntry] using hne
  have hdistinct : es.Pairwise fun e e' => e.1 ≠ e'.1 :=
    (hes.pairwise_iff fun hne => hne.symm).2 hkeys
  have harray : (PHPValue.hashMap es).asZval format = .array (es.map (mapEntry format)) := by
    rw [PHPValue.asZval, PHPValue.hashMapAsZval_eq, insertAll_mapEntry format hstrings hdistinct]
  have hmapped : (ws.map binEntry).map (mapEntry format) =
      ws.map fun w => (ArrayKey.string w.1, w.2.asZval format) := by
    rw [List.map_map]
    rfl
  have hperm : (es.map (mapEntry format)).Perm
      (ws.map fun w => (ArrayKey.string w.1, w.2.asZval format)) := hmapped ▸ hes.map _
  have hinj : Function.Injective ArrayKey.string := fun _ _ => ArrayKey.string.inj
  have hnodup' : ((es.map (mapEntry format)).map Prod.fst).Nodup := by
    have hnames : ((ws.map Prod.fst).map ArrayKey.string).Nodup := hnodup.map hinj
    rw [List.map_map] at hnames
    rw [(hperm.map _).nodup_iff, List.map_map]
    exact hnames
  refine ⟨_, harray, stringKeys_map format es, hnodup', fun name => ?_⟩
  rw [lookup_perm hnodup' hperm, lookup_map hinj]

/-- The entries can be inserted iff no name and no value stands in the way. -/
theorem insertable_entries_iff {ws : List (String × PHPValue)} {es : List (PHPValue × PHPValue)}
    (hes : es.Perm (ws.map binEntry)) :
    (PHPValue.hashMap es).insertable format = true ↔
      (∀ w ∈ ws, isCString w.1 = true) ∧ ∀ w ∈ ws, w.2.insertable format = true := by
  rw [PHPValue.insertable, PHPValue.entriesInsertable_iff, ← forall₂_and]
  constructor
  · intro h w hw
    exact h _ (hes.mem_iff.2 (List.mem_map_of_mem hw))
  · intro h e he
    obtain ⟨w, hw, rfl⟩ := List.mem_map.1 (hes.mem_iff.1 he)
    exact h w hw

/-- What is read of a bin is what was decoded of it with the others. -/
theorem bin_eq_lookup {r : Proto.Record} {visited : List (String × Proto.Value)}
    (hnames : (r.bins.map Prod.fst).Nodup) (hvisited : visited.Perm r.bins)
    {ws : List (String × PHPValue)}
    (hws : List.Forall₂ (fun b w => w.1 = b.1 ∧ PHPValue.fromProto b.2 = .ok w.2) visited ws)
    (name : String) : r.bin name = .ok (ws.lookup name) := by
  have hrel := lookup_forall₂ (R := fun p w => PHPValue.fromProto p = .ok w) hws name
  rw [lookup_perm ((hvisited.map _).nodup_iff.2 hnames) hvisited] at hrel
  unfold Proto.Record.bin
  cases hlookup : r.bins.lookup name with
  | none =>
    rw [hlookup] at hrel
    cases hlookup' : ws.lookup name with
    | none => rfl
    | some w =>
      rw [hlookup'] at hrel
      cases hrel
  | some p =>
    rw [hlookup] at hrel
    cases hlookup' : ws.lookup name with
    | none =>
      rw [hlookup'] at hrel
      cases hrel
    | some w =>
      rw [hlookup'] at hrel
      cases hrel with
      | some hp => exact Fallible.map_eq_ok.2 ⟨w, hp, rfl⟩

theorem readBin_eq {r : Proto.Record} {name : String} {o : Option PHPValue}
    (h : r.bin name = .ok o) : r.readBin format name = PHPValue.optionSetZval format o := by
  unfold Proto.Record.readBin
  rw [h]
  rfl

section Decoded

-- the bins of the record, decoded
variable {r : Proto.Record} {ws : List (String × PHPValue)}
  (hws : ∀ name, r.bin name = .ok (ws.lookup name))

include hws

/-- What is read of a bin alone when all values can be made PHP values. -/
theorem readBin_of_insertable (hinsert : ∀ w ∈ ws, w.2.insertable format = true) (name : String) :
    r.readBin format name = .ok ((ws.lookup name).map (PHPValue.asZval format)) := by
  rw [readBin_eq format (hws name)]
  cases hlookup : ws.lookup name with
  | none => rfl
  | some v =>
    obtain ⟨l₁, l₂, heq, -⟩ := List.lookup_eq_some_iff.1 hlookup
    have hv : v.insertable format = true := hinsert (name, v) (by simp [heq])
    rw [PHPValue.optionSetZval, (PHPValue.setZval_eq_ok format).2 ⟨hv, rfl⟩]
    rfl

end Decoded

/-- The bins that were decoded together. -/
theorem getBins_eq_ok {r : Proto.Record} {visited : List (String × Proto.Value)}
    (hnames : (r.bins.map Prod.fst).Nodup) (hvisited : visited.Perm r.bins)
    {es : List (PHPValue × PHPValue)} (h : Proto.Record.getBins visited = .ok (.hashMap es)) :
    ∃ ws : List (String × PHPValue), es = ws.map binEntry ∧
      (∀ name, r.bin name = .ok (ws.lookup name)) ∧
      (ws.map Prod.fst).Perm (r.bins.map Prod.fst) := by
  have hdistinct : (visited.map Prod.fst).Nodup := (hvisited.map _).nodup_iff.2 hnames
  obtain ⟨t, ht, heq⟩ := Fallible.map_eq_ok.1 h
  obtain rfl := PHPValue.hashMap.inj heq
  obtain ⟨ws, hws, rfl, -⟩ := PHPValue.ofBins_distinct hdistinct ht
  refine ⟨ws, rfl, bin_eq_lookup hnames hvisited hws, ?_⟩
  rw [names_forall₂ (R := fun p w => PHPValue.fromProto p = .ok w) hws]
  exact hvisited.map _

/-- The array that a program gets has each bin as it is read alone. -/
theorem getsBins_array {r : Proto.Record} {visited : List (String × Proto.Value)}
    (hnames : (r.bins.map Prod.fst).Nodup) (hvisited : visited.Perm r.bins) {z : Zval}
    (hz : Proto.Record.GetsBins format visited (.ok z)) :
    ∃ arr, z = .array arr ∧ r.BinsArray format arr := by
  generalize ho : (Except.ok z : Except Panic Zval) = o at hz
  cases hz with
  | panic h => cases ho
  | @array es es' h hperm =>
    obtain ⟨hok, rfl⟩ := (PHPValue.setZval_eq_ok format).1 ho.symm
    obtain ⟨ws, rfl, hws, hsame⟩ := getBins_eq_ok hnames hvisited h
    obtain ⟨arr, harr, hkeys, hdistinct, hlookup⟩ :=
      asZval_entries format (hsame.nodup_iff.2 hnames) hperm
    refine ⟨arr, harr, hkeys, hdistinct, fun name => ?_⟩
    have hinsert := ((insertable_entries_iff format hperm).1 hok).2
    rw [hlookup, readBin_of_insertable format hws hinsert]

/-- The bins of a record that was read are the values of the store, as they come back. -/
theorem bins_shown {r : Proto.Record} {visited : List (String × Proto.Value)}
    (hnames : (r.bins.map Prod.fst).Nodup) (hvisited : visited.Perm r.bins)
    {fields : Fields String Arg} (h : r.Shows fields) {z : Zval}
    (hz : Proto.Record.GetsBins format visited (.ok z)) :
    ∃ arr, z = .array arr ∧
      ∀ name, Option.Rel (fun a z => ∃ w, a.val.ComesBackAs w ∧ w.setZval format = .ok z)
        (fields name) (arr.lookup (.string name)) := by
  obtain ⟨arr, rfl, harr⟩ := getsBins_array format hnames hvisited hz
  refine ⟨arr, rfl, fun name => ?_⟩
  obtain ⟨o, ho, hrel⟩ := h name
  have hread := harr.lookup name
  rw [readBin_eq format ho] at hread
  generalize fields name = field at hrel ⊢
  cases hrel with
  | none =>
    rw [← Except.ok.inj hread]
    exact .none
  | @some a w hback =>
    obtain ⟨z', hz', heq⟩ := Fallible.map_eq_ok.1 hread
    rw [← heq]
    exact .some ⟨w, hback, hz'⟩

end Format

end AerospikePhp
