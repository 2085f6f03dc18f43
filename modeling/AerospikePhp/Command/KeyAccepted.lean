import AerospikePhp.Batch.Positions

/-!
# Keys accepted on both sides

A program can build a `Key` from any value. The key enters the daemon in the request
of a single-record command, of a UDF execution, or of a batch command, and in each of
them `toKey` panics when `aero.NewKey` refuses the value.

`Key::__construct` refuses nothing, and `compute_digest` answers with no bytes when
`write_key_bytes` reports that the value is not supported as a key.

Main results:
* `acceptedAlike_iff`: the two sides accept or refuse a key alike iff its value is an
  integer, a string or a byte string.
* `KeyedCall.raises_of_toKey`: a call with a key that `toKey` does not accept raises an
  exception, after the key has been sent.
-/

namespace AerospikePhp

/-! ## Requests with a key -/

/-- The service with its batch method. -/
structure Service extends KVS where
  batchOperate : Proto.BatchOperateRequest → Except String Proto.BatchOperateResponse

/-- A method of `Client` with a key among its arguments, with the others. The key of a
    batch is that of one of its commands. -/
inductive KeyedCall where
  | get (policy : Proto.ReadPolicy) (bins : Option (List String))
  | getHeader (policy : Proto.ReadPolicy)
  | existsKey (policy : Proto.ReadPolicy)
  | put (policy : Proto.WritePolicy) (bins : List Bin)
  | add (policy : Proto.WritePolicy) (bins : List Bin)
  | append (policy : Proto.WritePolicy) (bins : List Bin)
  | prepend (policy : Proto.WritePolicy) (bins : List Bin)
  | delete (policy : Proto.WritePolicy)
  | touch (policy : Proto.WritePolicy)
  | udfExecute (policy : Proto.WritePolicy) (packageName functionName : String) (args : List Arg)
  | batch (policy : Proto.BatchPolicy) (before : List BatchElement) (kind : BatchKind)
      (after : List BatchElement)

/-- The key that the switch of `toBatchRecordIfc` reads from an entry. -/
def Proto.BatchOperate.key (op : Proto.BatchOperate) : Option Proto.Key :=
  match op with
  | { br := some br, .. } => br.batchRecord.bind Proto.BatchRecord.key
  | { br := none, bw := some bw, .. } => bw.batchRecord.bind Proto.BatchRecord.key
  | { br := none, bw := none, bd := some bd, .. } => bd.batchRecord.bind Proto.BatchRecord.key
  | { br := none, bw := none, bd := none, bu := some bu } =>
    bu.batchRecord.bind Proto.BatchRecord.key
  | { br := none, bw := none, bd := none, bu := none } => none

/-- What comes of a call: the keys in the requests that are sent, and whether an
    exception is raised. -/
structure KeysSent where
  keys : List (Option Proto.Key)
  raises : Prop

/-- What comes of a call whose requests hold these keys. -/
def Called.keysSent {ρ α : Type} (keys : ρ → List (Option Proto.Key)) (c : Called ρ α) :
    KeysSent where
  keys := c.sent.flatMap keys
  raises := c.Raises

namespace KeyedCall

/-- The call with this key. -/
def run (service : Service) (key : Proto.Key) : KeyedCall → Except Panic KeysSent
  | get policy bins =>
    (Client.get service.toKVS policy key bins).map (Called.keysSent fun r => [r.key])
  | getHeader policy =>
    (Client.getHeader service.toKVS policy key).map (Called.keysSent fun r => [r.key])
  | existsKey policy =>
    (Client.existsKey service.toKVS policy key).map (Called.keysSent fun r => [r.key])
  | put policy bins => .ok ((Client.put service.toKVS policy key bins).keysSent fun r => [r.key])
  | add policy bins => .ok ((Client.add service.toKVS policy key bins).keysSent fun r => [r.key])
  | append policy bins =>
    .ok ((Client.append service.toKVS policy key bins).keysSent fun r => [r.key])
  | prepend policy bins =>
    .ok ((Client.prepend service.toKVS policy key bins).keysSent fun r => [r.key])
  | delete policy => .ok ((Client.delete service.toKVS policy key).keysSent fun r => [r.key])
  | touch policy => .ok ((Client.touch service.toKVS policy key).keysSent fun r => [r.key])
  | udfExecute policy packageName functionName args =>
    (Client.udfExecute service.toKVS policy key packageName functionName args).map
      (Called.keysSent fun r => [r.key])
  | batch policy before kind after =>
    .ok ((Client.batch service.batchOperate policy (before ++ kind.element key :: after)).keysSent
      fun r => r.records.map Proto.BatchOperate.key)

end KeyedCall

section Accepted

variable (lib : KeyClient)

/-- The extension refuses the key in the call: whatever the daemon answers, an
    exception is raised and nothing is sent. -/
def Refused (call : KeyedCall) (key : Proto.Key) : Prop :=
  ∀ service c, call.run service key = .ok c → c.raises ∧ c.keys = []

/-- The key has a digest of 20 bytes; it is sent, whatever the daemon answers; and
    `toKey` builds an aero key of it. -/
def Accepted (call : KeyedCall) (key : Proto.Key) : Prop :=
  (∃ d, Key.getDigestBytes lib.ripemd160 key = .ok d ∧ d.length = 20) ∧
    (∀ service c, call.run service key = .ok c → some key ∈ c.keys) ∧
    ∃ ak, toKey lib.newKey (some key) = .ok (some ak)

/-- The two sides accept the key in the call, or the extension refuses it. -/
def AcceptedAlike (call : KeyedCall) (key : Proto.Key) : Prop :=
  Refused call key ∨ Accepted lib call key

end Accepted

/-! ## What is sent -/

theorem BatchKind.key_entry (key : Proto.Key) (kind : BatchKind) :
    (kind.entry key).key = some key := by
  cases kind with
  | _ => rfl

namespace KeyedCall

/-- A method that sends one request, whose keys are these. -/
theorem keys_of_sending {ρ α : Type} {request : ρ} {keys : ρ → List (Option Proto.Key)}
    {x : Except Panic (CallResult α)} {c : KeysSent}
    (h : (x.map (Called.sending request)).map (Called.keysSent keys) = .ok c) :
    c.keys = keys request := by
  obtain ⟨called, hcalled, rfl⟩ := Fallible.map_eq_ok.1 h
  obtain ⟨res, -, rfl⟩ := Fallible.map_eq_ok.1 hcalled
  exact List.flatMap_singleton keys request

theorem batch_keys (server : Proto.BatchOperateRequest → Except String Proto.BatchOperateResponse)
    (policy : Proto.BatchPolicy) (cmds : List BatchElement) :
    ((Client.batch server policy cmds).keysSent fun r =>
        r.records.map Proto.BatchOperate.key).keys =
      (cmds.filterMap BatchElement.operate?).map Proto.BatchOperate.key := by
  rw [Called.keysSent, Client.batch_sent]
  exact List.flatMap_singleton _ _

theorem entry_mem (key : Proto.Key) (before : List BatchElement) (kind : BatchKind)
    (after : List BatchElement) :
    kind.entry key ∈ (before ++ kind.element key :: after).filterMap BatchElement.operate? :=
  List.mem_filterMap.2 ⟨kind.element key, by simp, kind.operate?_element key⟩

/-- The key is sent in every call. -/
theorem key_mem_run {service : Service} {key : Proto.Key} {call : KeyedCall} {c : KeysSent}
    (h : call.run service key = .ok c) : some key ∈ c.keys := by
  cases call with
  | get | getHeader | existsKey | udfExecute =>
    rw [keys_of_sending h]
    exact List.mem_cons_self
  | put | add | append | prepend | delete | touch =>
    cases h
    exact List.mem_cons_self
  | batch policy before kind after =>
    cases h
    rw [batch_keys, ← kind.key_entry key]
    exact List.mem_map_of_mem (entry_mem key before kind after)

end KeyedCall

/-- A daemon that answers nothing. -/
def Service.unavailable : Service where
  get _ := .error "unavailable"
  getHeader _ := .error "unavailable"
  existsKey _ := .error "unavailable"
  put _ := .error "unavailable"
  add _ := .error "unavailable"
  append _ := .error "unavailable"
  prepend _ := .error "unavailable"
  delete _ := .error "unavailable"
  touch _ := .error "unavailable"
  udfExecute _ := .error "unavailable"
  batchOperate _ := .error "unavailable"

/-- The extension refuses no key. -/
theorem not_refused (call : KeyedCall) (key : Proto.Key) : ¬ Refused call key := by
  intro h
  obtain ⟨c, hc⟩ : ∃ c, call.run .unavailable key = .ok c := by
    cases call with
    | _ => exact ⟨_, rfl⟩
  have hmem := KeyedCall.key_mem_run hc
  rw [(h _ c hc).2] at hmem
  cases hmem

section Alike

variable (lib : KeyClient)

/-- **Main theorem.** A key that a program builds is accepted on both sides, or refused
    by the extension, iff its value is an integer, a string or a byte string. -/
theorem acceptedAlike_iff (ns set : String) (value : Arg) (call : KeyedCall) :
    AcceptedAlike lib call (Key.construct ns set value) ↔ value.userKey?.isSome = true := by
  have htoKey := toKey_construct lib ns set value
  constructor
  · rintro (hrefused | ⟨-, -, ak, hak⟩)
    · exact absurd hrefused (not_refused call _)
    · cases hu : value.userKey? with
      | some u => rfl
      | none =>
        rw [htoKey, hu] at hak
        cases hak
  · intro hsome
    obtain ⟨u, hu⟩ := Option.isSome_iff_exists.1 hsome
    have hvalue : value = u.toArg := Arg.userKey?_eq_some.1 hu
    refine .inr ⟨?_, fun _ _ => KeyedCall.key_mem_run, ?_⟩
    · subst hvalue
      have hdigest := computeDigest_userKey lib.toKeyLibrary (Key.construct ns set u.toArg) rfl rfl
      exact ⟨_, (Key.getDigestBytes_eq_ok _).2 ⟨_, hdigest, rfl⟩, List.Vector.toList_length _⟩
    · rw [hu] at htoKey
      exact ⟨_, htoKey⟩

end Alike

/-- A key built from a null: it has no digest, and the daemon panics on it. -/
theorem null_key_not_alike :
    Key.getDigestBytes digestOfOne (Key.construct "test" "users" .nil) = .ok [] ∧
      toKey (KeyLibrary.ofHash digestOfOne).newKey (some (Key.construct "test" "users" .nil)) =
        .error .error ∧
      ¬ AcceptedAlike (.ofHash digestOfOne) (.get ReadPolicy.default none)
        (Key.construct "test" "users" .nil) := by
  refine ⟨rfl, rfl, ?_⟩
  rintro (hrefused | ⟨-, -, ak, hak⟩)
  · exact not_refused _ _ hrefused
  · cases hak

/-! ## Calls to the daemon -/

section Daemon

variable (lib : KeyClient) (S : Aero.ValueString) (client : Aero.SingleClient)
  (batchClient : Aero.BatchClient) (statusText : Panic → String)

/-- The daemon. -/
def Service.daemon : Service where
  toKVS := Server.kvs lib.newKey S client statusText
  batchOperate := batchServer lib S batchClient statusText

variable {lib S client batchClient statusText}

/-- A handler that does not return on such a key answers with a status. -/
theorem recovered_of_toKey {α : Type} {key : Option Proto.Key} {answer : Except Panic α}
    (hkey : ∀ ak, toKey lib.newKey key ≠ .ok ak)
    (h : ∀ a, answer = .ok a → ∃ ak, toKey lib.newKey key = .ok ak) :
    ∃ text, recovered statusText answer = .error text := by
  cases answer with
  | error p => exact ⟨statusText p, rfl⟩
  | ok a =>
    obtain ⟨ak, hak⟩ := h a rfl
    exact absurd hak (hkey ak)

/-- A method that fails on a status, whatever it does with other answers. -/
theorem raises_of_recovered {ρ α β : Type} {request : ρ} {keys : ρ → List (Option Proto.Key)}
    {c : KeysSent} {key : Option Proto.Key} {answer : Except Panic α}
    (onAnswer : Except String α → Except Panic (CallResult β))
    (hstatus : ∀ text, onAnswer (.error text) = .ok ⟨[], .error text⟩)
    (hkey : ∀ ak, toKey lib.newKey key ≠ .ok ak)
    (hrun : ((onAnswer (recovered statusText answer)).map (Called.sending request)).map
      (Called.keysSent keys) = .ok c)
    (h : ∀ a, answer = .ok a → ∃ ak, toKey lib.newKey key = .ok ak) : c.raises := by
  obtain ⟨text, htext⟩ := @recovered_of_toKey lib statusText _ _ _ hkey h
  rw [htext, hstatus] at hrun
  cases hrun
  exact .inr ⟨text, rfl⟩

/-- A batch handler that returns has an aero key for the key of each entry. -/
theorem toKey_of_batchOperate {req : Proto.BatchOperateRequest}
    {resp : Proto.BatchOperateResponse} {key : Proto.Key} {kind : BatchKind}
    (hmem : kind.entry key ∈ req.records)
    (h : Server.batchOperate lib.toKeyLibrary S batchClient req = .ok resp) :
    ∃ ak, toKey lib.newKey (some key) = .ok ak := by
  obtain ⟨policy, executed, -, hexecuted, -⟩ := Server.batchOperate_eq_ok h
  obtain ⟨i, hi⟩ := List.mem_iff_getElem?.1 hmem
  obtain ⟨brec, -, hbrec⟩ := Fallible.mapM_getElem? hexecuted hi
  exact ⟨brec.key, (toBatchRecordIfc_entry hbrec).1⟩

/-- **Main theorem.** A key that `toKey` does not accept: the call raises an exception,
    after the key has been sent. -/
theorem KeyedCall.raises_of_toKey {key : Proto.Key}
    (hkey : ∀ ak, toKey lib.newKey (some key) ≠ .ok ak) {call : KeyedCall} {c : KeysSent}
    (h : call.run (.daemon lib S client batchClient statusText) key = .ok c) :
    c.raises ∧ some key ∈ c.keys := by
  refine ⟨?_, key_mem_run h⟩
  cases call with
  | get | getHeader =>
    exact raises_of_recovered Client.matchSingle (fun _ => rfl) hkey h
      fun _ => Fallible.exists_second_of_eq_ok
  | existsKey =>
    exact raises_of_recovered Client.matchExists (fun _ => rfl) hkey h
      fun _ => Fallible.exists_second_of_eq_ok
  | put | add | append | prepend | touch =>
    exact raises_of_recovered (fun a => .ok (Client.matchError a)) (fun _ => rfl) hkey h
      fun _ => Fallible.exists_second_of_eq_ok
  | delete =>
    exact raises_of_recovered (fun a => .ok (Client.matchDelete a)) (fun _ => rfl) hkey h
      fun _ => Fallible.exists_second_of_eq_ok
  | udfExecute =>
    exact raises_of_recovered Client.matchUdfExecute (fun _ => rfl) hkey h
      fun _ => Fallible.exists_second_of_eq_ok
  | batch policy before kind after =>
    cases h
    exact Client.batch_raises_of_error _ _ _ <| recovered_of_toKey hkey fun _ =>
      toKey_of_batchOperate (entry_mem key before kind after)

end Daemon

end AerospikePhp
