import AerospikePhp.Store.Basic

/-!
# A cluster in memory

It keeps the values as they are written, and answers a read with them, translated to native
values. It refuses a write of a value that is not stored: an infinity, a wildcard or a JSON
object.

Results:
* `native_readAs`: a value that is stored is read as its translation.
* `keeps`: it is a cluster that keeps records.
-/

namespace AerospikePhp

open Records

/-! ## Native values -/

mutual

/-- The value can be read back. -/
def Aero.Value.storable : Aero.Value → Bool
  | .list l => listStorable l
  | .map m => entriesStorable m
  | .json _ | .wildCard | .infinity => false
  | _ => true

def listStorable : List Aero.Value → Bool
  | [] => true
  | v :: vs => v.storable && listStorable vs

def entriesStorable : List (Aero.Value × Aero.Value) → Bool
  | [] => true
  | (k, v) :: m => k.storable && v.storable && entriesStorable m

end

mutual

/-- The native value that it is read as. -/
def Aero.Value.native : Aero.Value → GoValue
  | .integer i => .int i
  | .float f => .float64 f
  | .string s => .string s
  | .bool b => .bool b
  | .bytes b => .bytes b
  | .geoJSON gj => .aero (.geoJSON gj)
  | .hll b => .aero (.hll b)
  | .list l => .slice (listNative l)
  | .map m => .map (entriesNative m)
  | .null | .json _ | .wildCard | .infinity => .nil

def listNative : List Aero.Value → List GoValue
  | [] => []
  | v :: vs => v.native :: listNative vs

def entriesNative : List (Aero.Value × Aero.Value) → List (GoValue × GoValue)
  | [] => []
  | (k, v) :: m => (k.native, v.native) :: entriesNative m

end

mutual

theorem native_readAs : ∀ {v : Aero.Value}, v.storable = true → v.ReadAs v.native
  | .null, _ | .integer _, _ | .float _, _ | .string _, _ | .bool _, _ | .bytes _, _
  | .geoJSON _, _ | .hll _, _ => rfl
  | .list l, h => ⟨listNative l, rfl, listNative_readAs h⟩
  | .map m, h => ⟨entriesNative m, entriesNative m, .inl rfl, .rfl, entriesNative_readAs h⟩
  | .json _, h | .wildCard, h | .infinity, h => nomatch h

theorem listNative_readAs : ∀ {l : List Aero.Value}, listStorable l = true →
    ListReadAs l (listNative l)
  | [], _ => trivial
  | v :: vs, h =>
    have h : v.storable = true ∧ listStorable vs = true := by
      simpa only [listStorable, Bool.and_eq_true] using h
    ⟨native_readAs h.1, listNative_readAs h.2⟩

theorem entriesNative_readAs : ∀ {m : List (Aero.Value × Aero.Value)}, entriesStorable m = true →
    EntriesReadAs m (entriesNative m)
  | [], _ => trivial
  | (k, v) :: m, h =>
    have h : (k.storable = true ∧ v.storable = true) ∧ entriesStorable m = true := by
      simpa only [entriesStorable, Bool.and_eq_true] using h
    ⟨native_readAs h.1.1, native_readAs h.1.2, entriesNative_readAs h.2⟩

end

/-! ## Records in memory -/

/-- A record: each bin once, with a value that can be read back. -/
structure MemoryRecord where
  generation : UInt32
  bins : List (String × Aero.Value)
  nodup : (bins.map Prod.fst).Nodup
  storable : ∀ bin ∈ bins, bin.2.storable = true

namespace MemoryRecord

/-- The record before its first write. -/
def new : MemoryRecord := ⟨0, [], .nil, nofun⟩

def fields (r : MemoryRecord) : Fields String Aero.Value := fun name => r.bins.lookup name

/-- The record without a bin. -/
def without (r : MemoryRecord) (name : String) : MemoryRecord where
  generation := r.generation
  bins := r.bins.filter fun bin => bin.1 != name
  nodup := r.nodup.sublist (List.filter_sublist.map Prod.fst)
  storable bin h := r.storable bin (List.mem_of_mem_filter h)

theorem without_notMem (r : MemoryRecord) (name : String) :
    name ∉ (r.without name).bins.map Prod.fst := by
  intro h
  obtain ⟨bin, hbin, rfl⟩ := List.mem_map.1 h
  have hne := List.of_mem_filter hbin
  simp at hne

/-- The record with a value in a bin. -/
def insert (r : MemoryRecord) (name : String) (v : Aero.Value) (h : v.storable = true) :
    MemoryRecord where
  generation := r.generation
  bins := (name, v) :: (r.without name).bins
  nodup := List.nodup_cons.2 ⟨r.without_notMem name, (r.without name).nodup⟩
  storable := List.forall_mem_cons.2 ⟨h, (r.without name).storable⟩

/-- One write, unless the value cannot be read back. -/
def put (r : MemoryRecord) : String × Option Aero.Value → Option MemoryRecord
  | (name, none) => some (r.without name)
  | (name, some v) => if h : v.storable = true then some (r.insert name v h) else none

/-- The writes in order. -/
def putAll (r : MemoryRecord) (ws : List (String × Option Aero.Value)) : Option MemoryRecord :=
  ws.foldlM put r

/-- A record without a bin is gone. -/
def kept (r : MemoryRecord) : Option MemoryRecord := if r.bins = [] then none else some r

/-- What writes start from. -/
def base (replace : Bool) (old : Option MemoryRecord) : MemoryRecord :=
  let r := if replace then new else old.getD new
  { r with generation := (old.map generation).getD 0 + 1 }

/-- The bins with these names, or all of them, as they are read. -/
def read (r : MemoryRecord) (names : List String) : List (String × GoValue) :=
  (r.bins.filter fun bin => names.isEmpty || names.contains bin.1).map fun bin =>
    (bin.1, bin.2.native)

/-! ### Its values -/

theorem fields_without (r : MemoryRecord) (name : String) :
    (r.without name).fields = r.fields.put (name, none) := by
  funext n
  show (r.bins.filter fun bin => bin.1 != name).lookup n = Function.update r.fields name none n
  rw [lookup_filter (fun n => n != name)]
  by_cases hn : n = name
  · subst hn
    simp
  · rw [if_pos (bne_iff_ne.2 hn), Function.update_of_ne hn]
    rfl

theorem fields_insert (r : MemoryRecord) (name : String) (v : Aero.Value)
    (h : v.storable = true) : (r.insert name v h).fields = r.fields.put (name, some v) := by
  funext n
  show ((name, v) :: (r.without name).bins).lookup n = Function.update r.fields name (some v) n
  by_cases hn : n = name
  · subst hn
    rw [List.lookup_cons_self, Function.update_self]
  · rw [List.lookup_cons, beq_eq_false_iff_ne.2 hn, Function.update_of_ne hn]
    show (r.without name).fields n = r.fields n
    rw [fields_without]
    exact Function.update_of_ne hn _ _

theorem fields_put {r r' : MemoryRecord} {w : String × Option Aero.Value}
    (h : r.put w = some r') : r'.fields = r.fields.put w := by
  obtain ⟨name, o⟩ := w
  cases o with
  | none =>
    cases h
    exact fields_without r name
  | some v =>
    by_cases hv : v.storable = true
    · rw [put, dif_pos hv] at h
      cases h
      exact fields_insert r name v hv
    · rw [put, dif_neg hv] at h
      cases h

theorem fields_putAll {r r' : MemoryRecord} {ws : List (String × Option Aero.Value)}
    (h : r.putAll ws = some r') : r'.fields = r.fields.putAll ws := by
  induction ws generalizing r with
  | nil =>
    cases h
    rfl
  | cons w ws ih =>
    obtain ⟨r₁, hput, hrest⟩ := Option.bind_eq_some_iff.1 h
    rw [ih hrest, fields_put hput, Fields.putAll_cons]

theorem fields_kept (r : MemoryRecord) : r.kept.map fields = r.fields.kept := by
  by_cases hbins : r.bins = []
  · have hnone : ∀ n, r.fields n = none := by
      intro n
      unfold fields
      rw [hbins]
      rfl
    unfold kept Fields.kept
    rw [if_pos hbins, if_pos hnone]
    rfl
  · obtain ⟨bin, hbin⟩ := List.exists_mem_of_ne_nil _ hbins
    have hsome : r.fields bin.1 = some bin.2 := lookup_of_mem r.nodup hbin
    rw [Fields.kept_of_some hsome, kept, if_neg hbins]
    rfl

theorem fields_base (replace : Bool) (old : Option MemoryRecord) :
    (base replace old).fields = Fields.base replace (old.map fields) := by
  cases replace with
  | true => rfl
  | false =>
    cases old with
    | none => rfl
    | some r => rfl

/-- What is read of the bins with some names. -/
theorem holds_read (r : MemoryRecord) (names : List String) {ar : Aero.Record}
    (h : ar.bins = r.read names) : ar.Holds (r.fields.select names) := by
  refine ⟨r.bins.filter fun bin => names.isEmpty || names.contains bin.1,
    r.nodup.sublist (List.filter_sublist.map Prod.fst), ?_, ?_⟩
  · intro name
    rw [lookup_filter (fun n => names.isEmpty || names.contains n)]
    simp [Fields.select, fields]
  · rw [h, read, List.forall₂_map_right_iff]
    apply List.forall₂_same.2
    intro bin hbin
    exact ⟨rfl, native_readAs (r.storable bin (List.mem_of_mem_filter hbin))⟩

end MemoryRecord

/-! ## The cluster -/

/-- The records in memory. -/
abbrev Memory := Place → Option MemoryRecord

namespace Memory

/-- An error that leaves the records as they are. -/
def failed (code : Int32) (h : code ≠ 0) : Aero.CallError := ⟨⟨code, false⟩, h⟩

def notFound : Aero.CallError := failed ResultCode.keyNotFoundError (by decide)

/-- A call without a key, or with a value that is not stored. -/
def badParameter : Aero.CallError := failed 4 (by decide)

/-- The record after a write. -/
def written (memory : Memory) (policy : Option Aero.WritePolicy) (key : Aero.Key)
    (bins : List Aero.Bin) : Option MemoryRecord :=
  let replace := policy.any Aero.WritePolicy.replaces
  (MemoryRecord.base replace (memory key.place)).putAll (bins.map Aero.Bin.write)

/-- The record as it is read. -/
def answer (memory : Memory) (key : Aero.Key) (bins : MemoryRecord → List (String × GoValue)) :
    Except Aero.CallError Aero.Record :=
  match memory key.place with
  | some r => .ok ⟨some key, r.generation, 4294967295, bins r⟩
  | none => .error notFound

/-- How calls end. -/
def client (memory : Memory) : Aero.SingleClient where
  run := fun {k} c => match k, c with
    | .record, .get _ (some key) names => memory.answer key fun r => r.read names
    | .record, .getHeader _ (some key) => memory.answer key fun _ => []
    | .flag, .existsKey _ (some key) => .ok (memory key.place).isSome
    | .flag, .delete _ (some key) => .ok (memory key.place).isSome
    | .done, .putBins policy (some key) bins =>
      if (memory.written policy key bins).isSome then .ok () else .error badParameter
    | .done, .touch _ (some key) =>
      if (memory key.place).isSome then .ok () else .error notFound
    | _, _ => .error badParameter
  execute := fun _ _ _ _ _ => .error badParameter

/-- The records after a call. -/
def after : {k : SingleKind} → Aero.SingleCall k → Memory → Memory
  | _, .putBins policy (some key) bins, memory =>
    match memory.written policy key bins with
    | some r => Function.update memory key.place r.kept
    | none => memory
  | _, .delete _ (some key), memory => Function.update memory key.place none
  | _, .touch _ (some key), memory =>
    Function.update memory key.place
      ((memory key.place).map fun r => { r with generation := r.generation + 1 })
  | _, _, memory => memory

/-- The Go client of the records in memory. -/
def cluster : Aero.Cluster Memory where
  client := client
  after := after

/-- The table of the records. -/
def table (memory : Memory) : Table Place String Aero.Value :=
  fun p => (memory p).map MemoryRecord.fields

/-! ### It keeps records -/

theorem table_update (memory : Memory) (p : Place) (o : Option MemoryRecord) :
    table (Function.update memory p o) =
      Function.update (table memory) p (o.map MemoryRecord.fields) := by
  funext q
  unfold table
  by_cases hq : q = p
  · subst hq
    simp
  · simp [Function.update_of_ne hq]

theorem answer_read (memory : Memory) (key : Aero.Key)
    {bins : MemoryRecord → List (String × GoValue)}
    {shown : Fields String Aero.Value → Fields String Aero.Value}
    (h : ∀ (r : MemoryRecord) (ar : Aero.Record), ar.bins = bins r → ar.Holds (shown r.fields)) :
    Aero.Read (table memory key.place) key shown (memory.answer key bins) := by
  unfold table answer
  cases memory key.place with
  | none => exact fun _ => rfl
  | some r => exact ⟨r.fields, rfl, rfl, h r _ rfl⟩

/-- A write that is refused changes nothing; otherwise it is in the table. -/
theorem put_wrote (memory : Memory) (policy : Aero.WritePolicy) (key : Aero.Key)
    (bins : List Aero.Bin) :
    Aero.Wrote (table memory)
      ((table memory).write key.place policy.replaces (bins.map Aero.Bin.write))
      (table (cluster.after (.putBins (some policy) (some key) bins) memory))
      ((cluster.client memory).run (.putBins (some policy) (some key) bins)) := by
  show Aero.Wrote _ _ (table (match memory.written (some policy) key bins with
      | some r => Function.update memory key.place r.kept
      | none => memory))
    (if (memory.written (some policy) key bins).isSome then .ok () else .error badParameter)
  cases hwritten : memory.written (some policy) key bins with
  | none => exact .inl rfl
  | some r =>
    show table (Function.update memory key.place r.kept) = (table memory).write _ _ _
    have hfields := MemoryRecord.fields_putAll hwritten
    rw [table_update, MemoryRecord.fields_kept, hfields, MemoryRecord.fields_base]
    rfl

theorem touch_keeps (memory : Memory) (policy : Option Aero.WritePolicy) (key : Aero.Key) :
    table (cluster.after (.touch policy (some key)) memory) = table memory := by
  show table (Function.update memory key.place _) = table memory
  rw [table_update, Option.map_map]
  exact Function.update_eq_self key.place (table memory)

/-- The cluster in memory keeps records. -/
theorem keeps : cluster.Keeps table where
  get policy key names memory :=
    ⟨rfl, answer_read memory key fun r _ h => r.holds_read names h⟩
  getHeader policy key memory := by
    refine ⟨rfl, answer_read memory key fun r ar h => ⟨[], .nil, fun _ => rfl, ?_⟩⟩
    rw [h]
    exact .nil
  existsKey policy key memory := by
    refine ⟨rfl, fun b hb => ?_⟩
    cases hb
    exact Option.isSome_map.symm
  putBins policy key bins memory := put_wrote memory policy key bins
  delete policy key memory := by
    show table (Function.update memory key.place none) = (table memory).remove key.place
    rw [table_update]
    rfl
  touch policy key memory := by
    refine ⟨touch_keeps memory policy key, fun h => ?_⟩
    replace h : (if (memory key.place).isSome then .ok () else .error notFound :
      Except Aero.CallError Unit) = .ok () := h
    unfold table
    rw [Option.isSome_map]
    by_contra hnone
    rw [if_neg hnone] at h
    cases h

end Memory

end AerospikePhp
