import AerospikePhp.Errors
import AerospikePhp.Key.Basic
import AerospikePhp.Value.Arrival

/-!
# Records and errors of the Go client

The daemon sends a record of the Go client with its key, its counters and its bins,
and an error with its result code and its in-doubt flag (`kvs.go` lines 1607–1672).

Results:
* `fromRecord_ok`: what the message of a record says.
* `fromRecord_isOk`: a record has a message iff `fromValue` lists the types of all its
  values.
* `Aero.Record.SentAs.shownAs_iff`: the message shows the record to a program iff all its
  values arrive.
-/

namespace AerospikePhp

/-- The `Record` message. -/
structure Proto.Record where
  key : Option Proto.Key
  generation : UInt32
  expiration : UInt32
  bins : List (String × Proto.Value)

/-- A record of the Go client. -/
structure Aero.Record where
  key : Option Aero.Key
  generation : UInt32
  expiration : UInt32
  bins : List (String × GoValue)

/-- An error of the Go client. -/
structure Aero.Error where
  resultCode : Int32
  inDoubt : Bool
deriving DecidableEq

/-- `fromError` (`kvs.go` lines 1607–1616). -/
def fromError : Option Aero.Error → Option Proto.Error
  | some e => some ⟨e.resultCode, e.inDoubt⟩
  | none => none

/-- `fromBins` (lines 1663–1672). -/
def fromBins (bins : List (String × GoValue)) : Except Panic (List (String × Proto.Value)) :=
  bins.mapM fun bin => do return (bin.1, ← fromValue bin.2)

/-- `fromRecord` (lines 1651–1661). -/
def fromRecord : Option Aero.Record → Except Panic (Option Proto.Record)
  | some r => do
    let key ← fromKey r.key
    let bins ← fromBins r.bins
    return some { key := key, generation := r.generation, expiration := r.expiration, bins := bins }
  | none => .ok none

/-! ## Bins -/

theorem fromBins_ok {bins : List (String × GoValue)} {bins' : List (String × Proto.Value)} :
    fromBins bins = .ok bins' ↔
      List.Forall₂ (fun bin bin' => bin'.1 = bin.1 ∧ fromValue bin.2 = .ok bin'.2) bins bins' := by
  rw [fromBins, Fallible.mapM_eq_ok_iff]
  refine iff_of_eq (congrArg (fun R => List.Forall₂ R bins bins') ?_)
  funext bin bin'
  rw [Fallible.bind_eq_ok]
  refine propext ⟨?_, ?_⟩
  · rintro ⟨v, hv, h⟩
    cases h
    exact ⟨rfl, hv⟩
  · rintro ⟨hname, hv⟩
    refine ⟨bin'.2, hv, ?_⟩
    rw [← hname]
    rfl

/-- Known values have a message. -/
theorem fromBins_isOk (bins : List (String × GoValue)) :
    (∃ bins', fromBins bins = .ok bins') ↔ ∀ bin ∈ bins, bin.2.known = true := by
  simp only [fromBins_ok]
  induction bins with
  | nil => exact ⟨fun _ => by simp, fun _ => ⟨[], .nil⟩⟩
  | cons bin bins ih =>
    rw [List.forall_mem_cons, ← ih, ← fromValue_isOk, Fallible.isOk_iff]
    constructor
    · rintro ⟨bins', h⟩
      cases h with
      | cons hbin hbins => exact ⟨⟨_, hbin.2⟩, _, hbins⟩
    · rintro ⟨⟨v, hv⟩, bins', hbins⟩
      exact ⟨(bin.1, v) :: bins', .cons ⟨rfl, hv⟩ hbins⟩

/-! ## Records -/

/-- The record arrives as this message: with its own key, counters and bins. -/
structure Aero.Record.SentAs (r : Aero.Record) (r' : Proto.Record) : Prop where
  key : fromKey r.key = .ok r'.key
  generation : r'.generation = r.generation
  expiration : r'.expiration = r.expiration
  bins : List.Forall₂ (fun bin bin' => bin'.1 = bin.1 ∧ fromValue bin.2 = .ok bin'.2) r.bins r'.bins

theorem fromRecord_ok {r : Option Aero.Record} {r' : Option Proto.Record} :
    fromRecord r = .ok r' ↔ Option.Rel Aero.Record.SentAs r r' := by
  cases r with
  | none =>
    constructor
    · intro h
      cases h
      exact .none
    · intro h
      cases h
      rfl
  | some r =>
    constructor
    · intro h
      obtain ⟨key, hkey, h⟩ := Fallible.bind_eq_ok.1 h
      obtain ⟨bins, hbins, h⟩ := Fallible.bind_eq_ok.1 h
      cases h
      exact .some ⟨hkey, rfl, rfl, fromBins_ok.1 hbins⟩
    · intro h
      cases h with
      | @some _ r' hr =>
        have hbins := fromBins_ok.2 hr.bins
        simp only [fromRecord, hr.key, hbins, Fallible.ok_bind, ← hr.generation, ← hr.expiration]
        rfl

/-- Every value in the record, that of its key included, is of a type that
    `fromValue` lists. -/
def Aero.Record.known (r : Aero.Record) : Bool :=
  (r.key.bind Aero.Key.userKey).all Aero.Value.known && r.bins.all fun bin => bin.2.known

theorem fromKey_isOk (k : Option Aero.Key) :
    (∃ k', fromKey k = .ok k') ↔ (k.bind Aero.Key.userKey).all Aero.Value.known = true := by
  rw [← Fallible.isOk_iff]
  rcases k with _ | ⟨ns, setName, digest, _ | v⟩
  · simp [fromKey]
  · simp [fromKey, fromValue]
  · simp [fromKey, fromValue, fromAeroValue_isOk]

/-- Known records have a message. -/
theorem fromRecord_isOk (r : Aero.Record) :
    (∃ r', fromRecord (some r) = .ok r') ↔ r.known = true := by
  rw [Aero.Record.known, Bool.and_eq_true, ← fromKey_isOk, List.all_eq_true, ← fromBins_isOk]
  constructor
  · rintro ⟨r', h⟩
    obtain ⟨key, hkey, h⟩ := Fallible.bind_eq_ok.1 h
    obtain ⟨bins, hbins, -⟩ := Fallible.bind_eq_ok.1 h
    exact ⟨⟨key, hkey⟩, bins, hbins⟩
  · rintro ⟨⟨key, hkey⟩, bins, hbins⟩
    exact ⟨some ⟨key, r.generation, r.expiration, bins⟩, by simp [fromRecord, hkey, hbins]⟩

/-! ## Records that a program is shown -/

/-- The value of a key, for `fromValue`: nil without a user key. -/
def Aero.Key.goValue (k : Aero.Key) : GoValue :=
  match k.userKey with
  | some v => .aero v
  | none => .nil

/-- The key object has the namespace, the set and the digest of the key, and its value is
    decoded as that of the key. -/
structure Aero.Key.ShownAs (k : Aero.Key) (k' : Proto.Key) : Prop where
  ns : k'.ns = some k.ns
  set : k'.set = some k.setName
  digest : k'.digest = some k.digest.toList
  value : ∃ v, k'.value = some v ∧ PHPValue.fromProto v = .ok k.goValue.denoted

/-- The record object has the key and the counters of the record, and each of its bins is
    decoded as the value of the bin of that name. -/
structure Aero.Record.ShownAs (r : Aero.Record) (r' : Proto.Record) : Prop where
  key : Option.Rel Aero.Key.ShownAs r.key r'.key
  generation : r'.generation = r.generation
  expiration : r'.expiration = r.expiration
  bins : List.Forall₂ (fun bin bin' => bin'.1 = bin.1 ∧
    PHPValue.fromProto bin'.2 = .ok bin.2.denoted) r.bins r'.bins

/-- Every value in the record, that of its key included, arrives. -/
def Aero.Record.arrives (r : Aero.Record) : Bool :=
  (r.key.all fun k => k.goValue.arrives) && r.bins.all fun bin => bin.2.arrives

/-- The message of a value is decoded as what the value denotes iff the value arrives. -/
theorem GoValue.decoded_iff {g : GoValue} {p : Proto.Value} (h : fromValue g = .ok p) :
    PHPValue.fromProto p = .ok g.denoted ↔ g.arrives = true := by
  rw [← roundTrips_iff_arrives]
  constructor
  · intro hdecoded
    exact ⟨p, h, hdecoded⟩
  · rintro ⟨p', hp', hdecoded⟩
    obtain rfl : p = p' := Except.ok.inj (h.symm.trans hp')
    exact hdecoded

/-- A value that arrives is of types that `fromValue` lists. -/
theorem GoValue.known_of_arrives {g : GoValue} (h : g.arrives = true) : g.known = true := by
  obtain ⟨p, hp, -⟩ := (roundTrips_iff_arrives g).2 h
  rw [← fromValue_isOk]
  exact Fallible.isOk_iff.2 ⟨p, hp⟩

theorem bins_shown_iff {bins : List (String × GoValue)} {bins' : List (String × Proto.Value)}
    (h : List.Forall₂ (fun bin bin' => bin'.1 = bin.1 ∧ fromValue bin.2 = .ok bin'.2)
      bins bins') :
    List.Forall₂ (fun bin bin' => bin'.1 = bin.1 ∧
      PHPValue.fromProto bin'.2 = .ok bin.2.denoted) bins bins' ↔
      ∀ bin ∈ bins, bin.2.arrives = true := by
  induction h with
  | nil => simp
  | cons hbin _ ih =>
    rw [List.forall₂_cons, ih, List.forall_mem_cons, GoValue.decoded_iff hbin.2,
      and_iff_right hbin.1]

theorem key_shown_iff {k : Option Aero.Key} {k' : Option Proto.Key} (h : fromKey k = .ok k') :
    Option.Rel Aero.Key.ShownAs k k' ↔ (k.all fun k => k.goValue.arrives) = true := by
  cases k with
  | none =>
    cases h
    exact iff_of_true .none rfl
  | some k =>
    obtain ⟨v, hv, h⟩ := Fallible.bind_eq_ok.1 h
    cases h
    have hvalue : fromValue k.goValue = .ok v := hv
    rw [Option.all_some, ← GoValue.decoded_iff hvalue]
    constructor
    · intro hshown
      cases hshown with
      | some hshown =>
        obtain ⟨v', hv', hdecoded⟩ := hshown.value
        cases hv'
        exact hdecoded
    · intro hdecoded
      exact .some ⟨rfl, rfl, rfl, v, rfl, hdecoded⟩

/-- The message of a record shows the record iff all its values arrive. -/
theorem Aero.Record.SentAs.shownAs_iff {r : Aero.Record} {r' : Proto.Record} (h : r.SentAs r') :
    r.ShownAs r' ↔ r.arrives = true := by
  rw [arrives, Bool.and_eq_true, List.all_eq_true, ← key_shown_iff h.key, ← bins_shown_iff h.bins]
  constructor
  · intro hshown
    exact ⟨hshown.key, hshown.bins⟩
  · rintro ⟨hkey, hbins⟩
    exact ⟨hkey, h.generation, h.expiration, hbins⟩

theorem Aero.Record.known_of_arrives {r : Aero.Record} (h : r.arrives = true) :
    r.known = true := by
  rw [arrives, Bool.and_eq_true, List.all_eq_true] at h
  rw [known, Bool.and_eq_true, List.all_eq_true]
  refine ⟨?_, fun bin hbin => GoValue.known_of_arrives (h.2 bin hbin)⟩
  rcases r with ⟨_ | ⟨ns, setName, digest, _ | v⟩, generation, expiration, bins⟩
  · rfl
  · rfl
  · exact GoValue.known_of_arrives (g := .aero v) h.1

end AerospikePhp
