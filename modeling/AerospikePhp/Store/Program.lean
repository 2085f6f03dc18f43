import AerospikePhp.Lib.Run
import AerospikePhp.Store.Memory

/-!
# Programs over a cluster that keeps records

A program writes, reads and deletes records with keys of its own. For it, the extension, the
daemon, the Go client and the cluster together are one store of values of PHP: an answer that
it gets is explained by the store before the command and by that after it.

Results:
* `step_explained`: one command is answered, and the answer is explained.
* `store_run`: every run of commands is answered, and its answers are explained.
* `read_your_writes`, `deleted_not_found`: what a put wrote is what a later get returns, and a
  record that was deleted is not found, unless another command writes it in between.
-/

namespace AerospikePhp

open Records

/-! ## The store of a program -/

/-- The values of PHP that records have. -/
abbrev Store := Table Place String Arg

/-- What a write of a bin does to the store. -/
def Bin.write (bin : Bin) : String × Option Arg :=
  (bin.name, match bin.value.val with
    | .nil => none
    | _ => some bin.value)

/-- `REPLACE` and `REPLACE_ONLY`. -/
def Proto.WritePolicy.replaces (policy : Proto.WritePolicy) : Bool :=
  policy.recordExistsAction == 2 || policy.recordExistsAction == 3

/-- `Record::bin` (`src/lib.rs` lines 4232–4236). -/
def Proto.Record.bin (r : Proto.Record) (name : String) : Except Panic (Option PHPValue) :=
  match r.bins.lookup name with
  | some v => (PHPValue.fromProto v).map some
  | none => .ok none

/-- A record that is returned has the values of the store, as they come back. -/
def Proto.Record.Shows (r : Proto.Record) (fields : Fields String Arg) : Prop :=
  ∀ name, ∃ o, r.bin name = .ok o ∧ Option.Rel (fun a w => a.val.ComesBackAs w) (fields name) o

section Program

variable (lib : KeyClient)

/-- A command of a program on the record of a key. -/
inductive StoreCommand : SingleKind → Type where
  | put (policy : Proto.WritePolicy) (key : ProgramKey lib) (bins : List Bin) : StoreCommand .done
  | get (policy : Proto.ReadPolicy) (key : ProgramKey lib) (bins : Option (List String)) :
      StoreCommand .record
  | getHeader (policy : Proto.ReadPolicy) (key : ProgramKey lib) : StoreCommand .record
  | existsKey (policy : Proto.ReadPolicy) (key : ProgramKey lib) : StoreCommand .flag
  | delete (policy : Proto.WritePolicy) (key : ProgramKey lib) : StoreCommand .flag
  | touch (policy : Proto.WritePolicy) (key : ProgramKey lib) : StoreCommand .done

variable {lib}

namespace StoreCommand

/-- The call of the method of `Client`. -/
def command : {k : SingleKind} → StoreCommand lib k → SingleCommand k
  | _, put policy key bins => .put policy key.key bins
  | _, get policy key bins => .get policy key.key bins
  | _, getHeader policy key => .getHeader policy key.key
  | _, existsKey policy key => .existsKey policy key.key
  | _, delete policy key => .delete policy key.key
  | _, touch policy key => .touch policy key.key

end StoreCommand

variable (lib) in
/-- A command and what the program saw of it. -/
structure Answered where
  kind : SingleKind
  cmd : StoreCommand lib kind
  res : CallResult kind.Php

variable {σ : Type}

section Step

variable (S : Aero.ValueString) (cluster : Aero.Cluster σ) (statusText : Panic → String)

/-- One command: what the program sees, and the state of the cluster after it. -/
def storeStep (s : σ) (c : (k : SingleKind) × StoreCommand lib k) :
    Except Panic (Answered lib × σ) := do
  let res ← c.2.command.call (Server.kvs lib.newKey S (cluster.client s) statusText)
  return (⟨c.1, c.2, res⟩, match c.2.command.goCall lib.newKey S with
    | .ok call => cluster.after call s
    | .error _ => s)

end Step

/-! ## Answers that are explained -/

/-- The answer to a command, with the store before it and after it. -/
inductive Explained (S : Aero.ValueString) (t : Store) : Answered lib → Store → Prop
  | refused {k : SingleKind} {cmd : StoreCommand lib k} {text : String} :
      (¬ ∃ call, cmd.command.goCall lib.newKey S = .ok call) →
      Explained S t ⟨k, cmd, ⟨[], .error text⟩⟩ t
  | failed {k : SingleKind} {cmd : StoreCommand lib k} {res : CallResult k.Php}
      {e : Aero.CallError} : res.Throws e → Explained S t ⟨k, cmd, res⟩ t
  | put {policy : Proto.WritePolicy} {key : ProgramKey lib} {bins : List Bin}
      {res : CallResult SingleKind.done.Php} : res.Returns () →
      Explained S t ⟨.done, .put policy key bins, res⟩
        (t.write key.place policy.replaces (bins.map Bin.write))
  | putInDoubt {policy : Proto.WritePolicy} {key : ProgramKey lib} {bins : List Bin}
      {res : CallResult SingleKind.done.Php} {e : Aero.CallError} :
      res.Throws e → e.inDoubt = true →
      Explained S t ⟨.done, .put policy key bins, res⟩
        (t.write key.place policy.replaces (bins.map Bin.write))
  | found {policy : Proto.ReadPolicy} {key : ProgramKey lib} {bins : Option (List String)}
      {res : CallResult SingleKind.record.Php} {r : Proto.Record} {fields : Fields String Arg} :
      res.Returns (some r) → t key.place = some fields →
      (∃ k', r.key = some k' ∧ key.key.SameAs lib.ripemd160 k') →
      r.Shows (fields.select (bins.getD [])) →
      Explained S t ⟨.record, .get policy key bins, res⟩ t
  | notFound {policy : Proto.ReadPolicy} {key : ProgramKey lib} {bins : Option (List String)}
      {res : CallResult SingleKind.record.Php} :
      res.Returns none → t key.place = none →
      Explained S t ⟨.record, .get policy key bins, res⟩ t
  | foundHeader {policy : Proto.ReadPolicy} {key : ProgramKey lib}
      {res : CallResult SingleKind.record.Php} {r : Proto.Record} :
      res.Returns (some r) → (t key.place).isSome = true →
      (∃ k', r.key = some k' ∧ key.key.SameAs lib.ripemd160 k') → r.Shows Fields.empty →
      Explained S t ⟨.record, .getHeader policy key, res⟩ t
  | noHeader {policy : Proto.ReadPolicy} {key : ProgramKey lib}
      {res : CallResult SingleKind.record.Php} :
      res.Returns none → t key.place = none →
      Explained S t ⟨.record, .getHeader policy key, res⟩ t
  | existsKey {policy : Proto.ReadPolicy} {key : ProgramKey lib}
      {res : CallResult SingleKind.flag.Php} :
      res.Returns (t key.place).isSome → Explained S t ⟨.flag, .existsKey policy key, res⟩ t
  | delete {policy : Proto.WritePolicy} {key : ProgramKey lib}
      {res : CallResult SingleKind.flag.Php} :
      res.Returns true → Explained S t ⟨.flag, .delete policy key, res⟩ (t.remove key.place)
  | deleteInDoubt {policy : Proto.WritePolicy} {key : ProgramKey lib}
      {res : CallResult SingleKind.flag.Php} {e : Aero.CallError} :
      res.Throws e → e.inDoubt = true →
      Explained S t ⟨.flag, .delete policy key, res⟩ (t.remove key.place)
  | touch {policy : Proto.WritePolicy} {key : ProgramKey lib}
      {res : CallResult SingleKind.done.Php} :
      res.Returns () → (t key.place).isSome = true →
      Explained S t ⟨.done, .touch policy key, res⟩ t

/-- The answers of a run, each explained by the store that the one before it left. -/
inductive ExplainedRun (S : Aero.ValueString) : Store → List (Answered lib) → Store → Prop
  | nil {t : Store} : ExplainedRun S t [] t
  | cons {t t₁ t' : Store} {a : Answered lib} {as : List (Answered lib)} :
      Explained S t a t₁ → ExplainedRun S t₁ as t' → ExplainedRun S t (a :: as) t'

/-! ## Values of the store and of the cluster -/

theorem write_toAero (bin : Bin) :
    Aero.Bin.write ⟨bin.name, bin.value.toAero⟩ = mapWrite Arg.toAero bin.write := by
  rcases bin with ⟨name, v, hv⟩
  cases hv with
  | _ => rfl

theorem toInt64_beq (n m : Int32) : (n.toInt64 == m.toInt64) = (n == m) := by
  have hinj : n.toInt64 = m.toInt64 ↔ n = m := by
    constructor
    · intro h
      rw [← Int32.toInt32_toInt64 n, h, Int32.toInt32_toInt64]
    · intro h
      rw [h]
  rw [Bool.eq_iff_iff, beq_iff_eq, beq_iff_eq, hinj]

/-- The policy replaces the record for the Go client iff it does for the program. -/
theorem replaces_of_toWritePolicy {S : Aero.ValueString} {policy : Proto.WritePolicy}
    {apolicy : Option Aero.WritePolicy} (h : toWritePolicy S (some policy) = .ok apolicy) :
    ∃ p, apolicy = some p ∧ p.replaces = policy.replaces := by
  obtain ⟨base, -, h⟩ := Fallible.bind_eq_ok.1 h
  obtain ⟨base', -, h⟩ := Fallible.bind_eq_ok.1 h
  cases h
  refine ⟨_, rfl, ?_⟩
  show (policy.recordExistsAction.toInt64 == (2 : Int32).toInt64 ||
    policy.recordExistsAction.toInt64 == (3 : Int32).toInt64) = policy.replaces
  rw [toInt64_beq, toInt64_beq]
  rfl

/-! ## Records that are read -/

/-- The values of programs that a record holds arrive. -/
theorem Aero.Record.Holds.arrives {r : Aero.Record} {fields : Fields String Arg}
    (h : r.Holds (fields.map Arg.toAero)) : ∀ bin ∈ r.bins, bin.2.arrives = true := by
  obtain ⟨l, hnodup, hfields, hbins⟩ := h
  intro bin hbin
  obtain ⟨i, hi, rfl⟩ := List.getElem_of_mem hbin
  have hi' : i < l.length := hbins.length_eq ▸ hi
  have hread := (hbins.get hi' hi).2
  simp only [List.get_eq_getElem] at hread
  have hstored : fields.map Arg.toAero l[i].1 = some l[i].2 := by
    rw [hfields]
    exact lookup_of_mem hnodup (List.getElem_mem hi')
  obtain ⟨a, -, ha⟩ := Option.map_eq_some_iff.1 hstored
  rw [← ha] at hread
  exact (GoValue.roundTrips_iff_arrives _).1 (a.plain.comesBack hread)

/-- A record that holds values of programs shows them. -/
theorem shows_of_holds {r : Aero.Record} {r' : Proto.Record} (hsent : r.SentAs r')
    {fields : Fields String Arg} (h : r.Holds (fields.map Arg.toAero)) : r'.Shows fields := by
  have hshown := (bins_shown_iff hsent.bins).2 h.arrives
  obtain ⟨l, -, hfields, hbins⟩ := h
  intro name
  have hread := lookup_forall₂ hbins name
  have hshownAs := lookup_forall₂
    (R := fun (g : GoValue) p => PHPValue.fromProto p = .ok g.denoted) hshown name
  have hname : (fields name).map Arg.toAero = l.lookup name := hfields name
  rw [← hname] at hread
  unfold Proto.Record.bin
  cases hfield : fields name with
  | none =>
    rw [hfield] at hread
    cases hlookup : r.bins.lookup name with
    | some g =>
      rw [hlookup] at hread
      cases hread
    | none =>
      rw [hlookup] at hshownAs
      cases hlookup' : r'.bins.lookup name with
      | some p =>
        rw [hlookup'] at hshownAs
        cases hshownAs
      | none => exact ⟨none, rfl, .none⟩
  | some a =>
    rw [hfield] at hread
    cases hlookup : r.bins.lookup name with
    | none =>
      rw [hlookup] at hread
      cases hread
    | some g =>
      rw [hlookup] at hread hshownAs
      cases hread with
      | some hread =>
        cases hlookup' : r'.bins.lookup name with
        | none =>
          rw [hlookup'] at hshownAs
          cases hshownAs
        | some p =>
          rw [hlookup'] at hshownAs
          cases hshownAs with
          | some hdecoded =>
            exact ⟨some g.denoted, Fallible.map_eq_ok.2 ⟨g.denoted, hdecoded, rfl⟩,
              .some ⟨g, hread, rfl⟩⟩

/-- What a program sees of a read. -/
theorem read_reported (statusText : Panic → String) {t : Store} {key : ProgramKey lib}
    {k : Aero.Key} (hplace : k.place = key.place)
    (hkey : ∃ k', fromKey (some k) = .ok (some k') ∧ key.key.SameAs lib.ripemd160 k')
    {shown : Fields String Arg → Fields String Arg}
    {ashown : Fields String Aero.Value → Fields String Aero.Value}
    (hshown : ∀ fields, ashown (fields.map Arg.toAero) = (shown fields).map Arg.toAero)
    {outcome : Except Aero.CallError Aero.Record}
    (hread : Aero.Read (t.map Arg.toAero k.place) k ashown outcome) :
    ∃ res, Client.matchSingle (recovered statusText (Server.singleResponse outcome)) = .ok res ∧
      ((∃ e, res.Throws e) ∨ (res.Returns none ∧ t key.place = none) ∨
        ∃ r fields, res.Returns (some r) ∧ t key.place = some fields ∧
          (∃ k', r.key = some k' ∧ key.key.SameAs lib.ripemd160 k') ∧ r.Shows (shown fields)) := by
  obtain ⟨k', hk', hsame⟩ := hkey
  rw [hplace] at hread
  cases outcome with
  | error e =>
    obtain ⟨res, hres, hreported⟩ := (matchSingle_reported statusText (.error e)).2 (by
      intro r hr
      cases hr)
    refine ⟨res, hres, ?_⟩
    replace hreported : if e.resultCode = ResultCode.keyNotFoundError ∧ e.inDoubt = false
        then res.Returns none else res.Throws e := hreported
    by_cases hnotFound : e.resultCode = ResultCode.keyNotFoundError ∧ e.inDoubt = false
    · rw [if_pos hnotFound] at hreported
      have hnone : t.map Arg.toAero key.place = none := hread hnotFound
      exact .inr (.inl ⟨hreported, Option.map_eq_none_iff.1 hnone⟩)
    · rw [if_neg hnotFound] at hreported
      exact .inl ⟨e, hreported⟩
  | ok r =>
    obtain ⟨afields, hafields, hrkey, hholds⟩ := hread
    obtain ⟨fields, hfields, rfl⟩ := Option.map_eq_some_iff.1 hafields
    rw [hshown] at hholds
    have hkeyKnown : (r.key.bind Aero.Key.userKey).all Aero.Value.known = true := by
      rw [← fromKey_isOk, hrkey]
      exact ⟨_, hk'⟩
    have hknown : r.known = true := by
      unfold Aero.Record.known
      rw [hkeyKnown, Bool.true_and, List.all_eq_true]
      exact fun bin hbin => GoValue.known_of_arrives (hholds.arrives bin hbin)
    obtain ⟨r', hr'⟩ := (fromRecord_isOk r).2 hknown
    cases fromRecord_ok.1 hr' with
    | @some _ r' hsent =>
      refine ⟨_, matchSingle_of_sentAs statusText hsent, .inr (.inr ⟨r', fields, ⟨rfl, rfl⟩,
        hfields, ⟨k', ?_, hsame⟩, shows_of_holds hsent hholds⟩)⟩
      have hsentKey := hsent.key
      rw [hrkey, hk'] at hsentKey
      exact (Except.ok.inj hsentKey).symm

/-! ## One command -/

section Step

variable {S : Aero.ValueString} {cluster : Aero.Cluster σ} {statusText : Panic → String}

/-- A command that is refused leaves the cluster as it is. -/
theorem storeStep_of_error {s : σ} {k : SingleKind} {cmd : StoreCommand lib k} {p : Panic}
    (h : cmd.command.goCall lib.newKey S = .error p) :
    storeStep S cluster statusText s ⟨k, cmd⟩ =
      .ok (⟨k, cmd, ⟨[], .error (statusText p)⟩⟩, s) := by
  unfold storeStep
  rw [SingleCommand.call_of_error h, h]
  rfl

/-- A command for which a call is made changes the cluster as the call does. -/
theorem storeStep_of_ok {s : σ} {k : SingleKind} {cmd : StoreCommand lib k}
    {c : Aero.SingleCall k} {res : CallResult k.Php}
    (h : cmd.command.goCall lib.newKey S = .ok c)
    (hres : cmd.command.report statusText ((cluster.client s).run c) = .ok res) :
    storeStep S cluster statusText s ⟨k, cmd⟩ = .ok (⟨k, cmd, res⟩, cluster.after c s) := by
  unfold storeStep
  rw [SingleCommand.call_of_ok h, hres, h]
  rfl

variable {table : σ → Table Place String Aero.Value}

/-- A command for which a call is made is explained, and the store follows the cluster. -/
def CallExplained (S : Aero.ValueString) (cluster : Aero.Cluster σ) (statusText : Panic → String)
    (table : σ → Table Place String Aero.Value) (s : σ) (t : Store) {k : SingleKind}
    (cmd : StoreCommand lib k) (c : Aero.SingleCall k) : Prop :=
  ∃ res t', cmd.command.report statusText ((cluster.client s).run c) = .ok res ∧
    table (cluster.after c s) = t'.map Arg.toAero ∧ Explained S t ⟨k, cmd, res⟩ t'

section Call

variable (hkeeps : cluster.Keeps table) {s : σ} {t : Store} (ht : table s = t.map Arg.toAero)
include hkeeps ht

theorem put_explained {policy : Proto.WritePolicy} {key : ProgramKey lib} {bins : List Bin}
    {c : Aero.SingleCall .done}
    (h : (StoreCommand.put policy key bins).command.goCall lib.newKey S = .ok c) :
    CallExplained S cluster statusText table s t (.put policy key bins) c := by
  obtain ⟨apolicy, hpolicy, h⟩ := Fallible.bind_eq_ok.1 h
  obtain ⟨akey, hkey, h⟩ := Fallible.bind_eq_ok.1 h
  obtain ⟨abins, hbins, h⟩ := Fallible.bind_eq_ok.1 h
  cases h
  rw [toBins_toProto] at hbins
  obtain ⟨p, rfl, hreplaces⟩ := replaces_of_toWritePolicy hpolicy
  obtain ⟨k, rfl, hplace, -⟩ := ProgramKey.place_of_toKey hkey
  have hwrites : abins.map Aero.Bin.write = (bins.map Bin.write).map (mapWrite Arg.toAero) := by
    cases hbins
    rw [List.map_map, List.map_map]
    exact List.map_congr_left fun bin _ => write_toAero bin
  have hwrote := hkeeps.putBins p k abins s
  rw [hwrites, hplace, hreplaces, ht, ← Table.map_write] at hwrote
  show ∃ res t', Except.ok (Client.matchError (.ok (Server.errorResponse
      ((cluster.client s).run (.putBins (some p) (some k) abins))))) = .ok res ∧ _
  cases houtcome : (cluster.client s).run (.putBins (some p) (some k) abins) with
  | ok u =>
    rw [houtcome] at hwrote
    exact ⟨_, _, rfl, hwrote, .put ⟨rfl, rfl⟩⟩
  | error e =>
    rw [houtcome] at hwrote
    have hthrows : ValueReported (.error e)
        (Client.matchError (recovered statusText (.ok (Server.errorResponse (.error e))))) :=
      matchError_reported statusText rfl
    rcases hwrote with hwrote | ⟨hdoubt, hwrote⟩
    · exact ⟨_, _, rfl, hwrote, .failed hthrows⟩
    · exact ⟨_, _, rfl, hwrote, .putInDoubt hthrows hdoubt⟩

theorem get_explained {policy : Proto.ReadPolicy} {key : ProgramKey lib}
    {bins : Option (List String)} {c : Aero.SingleCall .record}
    (h : (StoreCommand.get policy key bins).command.goCall lib.newKey S = .ok c) :
    CallExplained S cluster statusText table s t (.get policy key bins) c := by
  obtain ⟨apolicy, hpolicy, h⟩ := Fallible.bind_eq_ok.1 h
  obtain ⟨akey, hkey, h⟩ := Fallible.bind_eq_ok.1 h
  cases h
  obtain ⟨k, rfl, hplace, hback⟩ := ProgramKey.place_of_toKey hkey
  obtain ⟨hafter, hread⟩ := hkeeps.get apolicy k (bins.getD []) s
  rw [ht] at hafter hread
  obtain ⟨res, hres, hseen⟩ := read_reported statusText hplace hback
    (fun fields => (Fields.map_select Arg.toAero _).symm) hread
  refine ⟨res, t, hres, hafter, ?_⟩
  rcases hseen with ⟨e, hthrows⟩ | ⟨hreturns, hnone⟩ | ⟨r, fields, hreturns, hsome, hk, hshows⟩
  · exact .failed hthrows
  · exact .notFound hreturns hnone
  · exact .found hreturns hsome hk hshows

theorem getHeader_explained {policy : Proto.ReadPolicy} {key : ProgramKey lib}
    {c : Aero.SingleCall .record}
    (h : (StoreCommand.getHeader policy key).command.goCall lib.newKey S = .ok c) :
    CallExplained S cluster statusText table s t (.getHeader policy key) c := by
  obtain ⟨apolicy, hpolicy, h⟩ := Fallible.bind_eq_ok.1 h
  obtain ⟨akey, hkey, h⟩ := Fallible.bind_eq_ok.1 h
  cases h
  obtain ⟨k, rfl, hplace, hback⟩ := ProgramKey.place_of_toKey hkey
  obtain ⟨hafter, hread⟩ := hkeeps.getHeader apolicy k s
  rw [ht] at hafter hread
  have hshown : ∀ fields : Fields String Arg,
      (Fields.empty : Fields String Aero.Value) = Fields.empty.map Arg.toAero := fun _ => rfl
  obtain ⟨res, hres, hseen⟩ := read_reported statusText hplace hback hshown hread
  refine ⟨res, t, hres, hafter, ?_⟩
  rcases hseen with ⟨e, hthrows⟩ | ⟨hreturns, hnone⟩ | ⟨r, fields, hreturns, hsome, hk, hshows⟩
  · exact .failed hthrows
  · exact .noHeader hreturns hnone
  · exact .foundHeader hreturns (by rw [hsome]; rfl) hk hshows

theorem existsKey_explained {policy : Proto.ReadPolicy} {key : ProgramKey lib}
    {c : Aero.SingleCall .flag}
    (h : (StoreCommand.existsKey policy key).command.goCall lib.newKey S = .ok c) :
    CallExplained S cluster statusText table s t (.existsKey policy key) c := by
  obtain ⟨apolicy, hpolicy, h⟩ := Fallible.bind_eq_ok.1 h
  obtain ⟨akey, hkey, h⟩ := Fallible.bind_eq_ok.1 h
  cases h
  obtain ⟨k, rfl, hplace, -⟩ := ProgramKey.place_of_toKey hkey
  obtain ⟨hafter, hexists⟩ := hkeeps.existsKey apolicy k s
  rw [ht] at hafter hexists
  obtain ⟨res, hres, hreported⟩ :=
    matchExists_reported ((cluster.client s).run (.existsKey apolicy (some k)))
  refine ⟨res, t, hres, hafter, ?_⟩
  cases houtcome : (cluster.client s).run (.existsKey apolicy (some k)) with
  | error e =>
    rw [houtcome] at hreported
    exact .failed hreported
  | ok b =>
    rw [houtcome] at hreported
    have hb : b = (t key.place).isSome := by
      rw [hexists b houtcome, hplace]
      exact Option.isSome_map
    rw [hb] at hreported
    exact .existsKey hreported

theorem delete_explained {policy : Proto.WritePolicy} {key : ProgramKey lib}
    {c : Aero.SingleCall .flag}
    (h : (StoreCommand.delete policy key).command.goCall lib.newKey S = .ok c) :
    CallExplained S cluster statusText table s t (.delete policy key) c := by
  obtain ⟨apolicy, hpolicy, h⟩ := Fallible.bind_eq_ok.1 h
  obtain ⟨akey, hkey, h⟩ := Fallible.bind_eq_ok.1 h
  cases h
  obtain ⟨k, rfl, hplace, -⟩ := ProgramKey.place_of_toKey hkey
  have hwrote := hkeeps.delete apolicy k s
  rw [hplace, ht, ← Table.map_remove] at hwrote
  show ∃ res t', Except.ok (Client.matchDelete (.ok (Server.deleteResponse
      ((cluster.client s).run (.delete apolicy (some k)))))) = .ok res ∧ _
  cases houtcome : (cluster.client s).run (.delete apolicy (some k)) with
  | ok b =>
    rw [houtcome] at hwrote
    exact ⟨_, _, rfl, hwrote, .delete ⟨rfl, rfl⟩⟩
  | error e =>
    rw [houtcome] at hwrote
    have hthrows : (Client.matchDelete (.ok (Server.deleteResponse (.error e)))).Throws e :=
      ⟨_, rfl, rfl, rfl⟩
    rcases hwrote with hwrote | ⟨hdoubt, hwrote⟩
    · exact ⟨_, _, rfl, hwrote, .failed hthrows⟩
    · exact ⟨_, _, rfl, hwrote, .deleteInDoubt hthrows hdoubt⟩

theorem touch_explained {policy : Proto.WritePolicy} {key : ProgramKey lib}
    {c : Aero.SingleCall .done}
    (h : (StoreCommand.touch policy key).command.goCall lib.newKey S = .ok c) :
    CallExplained S cluster statusText table s t (.touch policy key) c := by
  obtain ⟨apolicy, hpolicy, h⟩ := Fallible.bind_eq_ok.1 h
  obtain ⟨akey, hkey, h⟩ := Fallible.bind_eq_ok.1 h
  cases h
  obtain ⟨k, rfl, hplace, -⟩ := ProgramKey.place_of_toKey hkey
  obtain ⟨hafter, htouched⟩ := hkeeps.touch apolicy k s
  rw [ht] at hafter htouched
  refine ⟨_, t, rfl, hafter, ?_⟩
  have hreported : ValueReported ((cluster.client s).run (.touch apolicy (some k)))
      (Client.matchError (recovered statusText (.ok _))) := matchError_reported statusText rfl
  cases houtcome : (cluster.client s).run (.touch apolicy (some k)) with
  | error e =>
    rw [houtcome] at hreported
    exact .failed hreported
  | ok u =>
    rw [houtcome] at hreported
    have hsome := htouched houtcome
    rw [hplace] at hsome
    exact .touch hreported (Option.isSome_map.symm.trans hsome)

end Call

/-! ## Commands on a counter -/

/-- The key 1. -/
def counterKey : ProgramKey (KeyClient.ofHash digestOfOne) := .constructed "test" "users" (.int 1)

def putCounter : StoreCommand (KeyClient.ofHash digestOfOne) .done :=
  .put WritePolicy.default counterKey [⟨"counter", .int 7⟩]

def getCounter : StoreCommand (KeyClient.ofHash digestOfOne) .record :=
  .get ReadPolicy.default counterKey none

def deleteCounter : StoreCommand (KeyClient.ofHash digestOfOne) .flag :=
  .delete WritePolicy.default counterKey

/-- A command, in memory. -/
def counterStep : Memory → (k : SingleKind) × StoreCommand (KeyClient.ofHash digestOfOne) k →
    Except Panic (Answered (KeyClient.ofHash digestOfOne) × Memory) :=
  storeStep .strings Memory.cluster fun _ => ""

/-! ## Runs of commands -/

/-- The answer to a command is explained by the store before it and after it:
    what a program does to its store is what the cluster does to its own. -/
theorem step_explained (hkeeps : cluster.Keeps table) {s : σ} {t : Store}
    (ht : table s = t.map Arg.toAero) (c : (k : SingleKind) × StoreCommand lib k) :
    ∃ res s' t', storeStep S cluster statusText s c = .ok (⟨c.1, c.2, res⟩, s') ∧
      table s' = t'.map Arg.toAero ∧ Explained S t ⟨c.1, c.2, res⟩ t' := by
  obtain ⟨k, cmd⟩ := c
  cases hcall : cmd.command.goCall lib.newKey S with
  | error p =>
    refine ⟨_, s, t, storeStep_of_error hcall, ht, .refused ?_⟩
    rintro ⟨call, hcall'⟩
    rw [hcall] at hcall'
    cases hcall'
  | ok call =>
    have hexplained : CallExplained S cluster statusText table s t cmd call := by
      cases cmd with
      | put policy key bins => exact put_explained hkeeps ht hcall
      | get policy key bins => exact get_explained hkeeps ht hcall
      | getHeader policy key => exact getHeader_explained hkeeps ht hcall
      | existsKey policy key => exact existsKey_explained hkeeps ht hcall
      | delete policy key => exact delete_explained hkeeps ht hcall
      | touch policy key => exact touch_explained hkeeps ht hcall
    obtain ⟨res, t', hres, htable, hexplained⟩ := hexplained
    exact ⟨res, _, t', storeStep_of_ok hcall hres, htable, hexplained⟩

/-- The answers of a run are to its commands, and are explained one by one. -/
theorem explained_of_run (hkeeps : cluster.Keeps table) {s s' : σ} {t : Store}
    (ht : table s = t.map Arg.toAero) {cs : List ((k : SingleKind) × StoreCommand lib k)}
    {as : List (Answered lib)}
    (hrun : Run.run (storeStep S cluster statusText) s cs = .ok (as, s')) :
    ∃ t', as.map (fun a => (⟨a.kind, a.cmd⟩ : (k : SingleKind) × StoreCommand lib k)) = cs ∧
      table s' = t'.map Arg.toAero ∧ ExplainedRun S t as t' := by
  induction cs generalizing s t as with
  | nil =>
    cases hrun
    exact ⟨t, rfl, ht, .nil⟩
  | cons c cs ih =>
    obtain ⟨a, s₁, as', hstep, hrest, rfl⟩ := (Run.run_cons_eq_ok _).1 hrun
    have hexplained : ∃ res s' t', storeStep S cluster statusText s c = .ok (⟨c.1, c.2, res⟩, s') ∧
        table s' = t'.map Arg.toAero ∧ Explained S t ⟨c.1, c.2, res⟩ t' :=
      step_explained hkeeps ht c
    obtain ⟨res, s₂, t₁, hstep', ht₁, hexplained⟩ := hexplained
    rw [hstep] at hstep'
    cases hstep'
    obtain ⟨t', hcmds, ht', hexplaineds⟩ := ih ht₁ hrest
    refine ⟨t', ?_, ht', .cons hexplained hexplaineds⟩
    rw [List.map_cons, hcmds]

/-- **Main theorem.** Every run of commands is answered, and its answers are explained one by
    one by the store of the program. -/
theorem store_run (hkeeps : cluster.Keeps table) {s : σ} {t : Store}
    (ht : table s = t.map Arg.toAero) (cs : List ((k : SingleKind) × StoreCommand lib k)) :
    ∃ as s' t', Run.run (storeStep S cluster statusText) s cs = .ok (as, s') ∧
      as.map (fun a => (⟨a.kind, a.cmd⟩ : (k : SingleKind) × StoreCommand lib k)) = cs ∧
      table s' = t'.map Arg.toAero ∧ ExplainedRun S t as t' := by
  have hstep : ∀ (s : σ) (c : (k : SingleKind) × StoreCommand lib k),
      (∃ t : Store, table s = t.map Arg.toAero) →
      ∃ a s', storeStep S cluster statusText s c = .ok (a, s') ∧
        ∃ t' : Store, table s' = t'.map Arg.toAero := by
    intro s c h
    obtain ⟨t, ht⟩ := h
    obtain ⟨res, s', t', hstep, ht', -⟩ := step_explained hkeeps ht c
    exact ⟨_, s', hstep, t', ht'⟩
  obtain ⟨as, s', hrun, -⟩ := Run.run_ok _ hstep ⟨t, ht⟩ cs
  obtain ⟨t', hcmds, ht', hexplained⟩ := explained_of_run hkeeps ht hrun
  exact ⟨as, s', t', hrun, hcmds, ht', hexplained⟩

/-- A counter is put, read and deleted in memory. -/
theorem store_run_counter :
    ∃ as s' t', Run.run counterStep (fun _ => none)
        [⟨_, putCounter⟩, ⟨_, getCounter⟩, ⟨_, deleteCounter⟩] = .ok (as, s') ∧
      as.map (fun a => (⟨a.kind, a.cmd⟩ : (k : SingleKind) × StoreCommand _ k)) =
        [⟨_, putCounter⟩, ⟨_, getCounter⟩, ⟨_, deleteCounter⟩] ∧
      Memory.table s' = t'.map Arg.toAero ∧ ExplainedRun .strings (fun _ => none) as t' :=
  store_run Memory.keeps rfl _

end Step

/-! ## Reading what was written -/

/-- The command writes the record at a place. -/
def StoreCommand.Writes (p : Place) : {k : SingleKind} → StoreCommand lib k → Prop
  | _, .put _ key _ | _, .delete _ key => key.place = p
  | _, _ => False

section Frame

variable {S : Aero.ValueString} {t t' : Store}

/-- A command leaves the other records of the store as they are. -/
theorem Explained.frame {a : Answered lib} (h : Explained S t a t') {p : Place}
    (hp : ¬ a.cmd.Writes p) : t' p = t p := by
  cases h with
  | put h | putInDoubt h => exact Table.write_ne (fun heq => hp heq.symm) _ _
  | delete h | deleteInDoubt h => exact Table.remove_ne fun heq => hp heq.symm
  | _ => rfl

theorem ExplainedRun.frame {as : List (Answered lib)} (h : ExplainedRun S t as t') {p : Place}
    (hp : ∀ a ∈ as, ¬ a.cmd.Writes p) : t' p = t p := by
  induction h with
  | nil => rfl
  | cons ha _ ih =>
    obtain ⟨hfirst, hrest⟩ := List.forall_mem_cons.1 hp
    rw [ih hrest, ha.frame hfirst]

theorem ExplainedRun.append_inv {as bs : List (Answered lib)}
    (h : ExplainedRun S t (as ++ bs) t') :
    ∃ t₁, ExplainedRun S t as t₁ ∧ ExplainedRun S t₁ bs t' := by
  induction as generalizing t with
  | nil => exact ⟨t, .nil, h⟩
  | cons a as ih =>
    cases h with
    | cons ha h =>
      obtain ⟨t₁, has, hbs⟩ := ih h
      exact ⟨t₁, .cons ha has, hbs⟩

theorem ExplainedRun.cons_inv {a : Answered lib} {as : List (Answered lib)}
    (h : ExplainedRun S t (a :: as) t') :
    ∃ t₁, Explained S t a t₁ ∧ ExplainedRun S t₁ as t' := by
  cases h with
  | cons ha h => exact ⟨_, ha, h⟩

/-- A call that returned did not throw. -/
theorem CallResult.Returns.not_throws {α : Type} {res : CallResult α} {a : α}
    (h : res.Returns a) (e : Aero.CallError) : ¬ res.Throws e := by
  rintro ⟨exception, hthrown, -⟩
  rw [h.1] at hthrown
  cases hthrown

theorem CallResult.Returns.unique {α : Type} {res : CallResult α} {a b : α}
    (ha : res.Returns a) (hb : res.Returns b) : a = b := by
  have h := ha.2
  rw [hb.2] at h
  exact (Except.ok.inj h).symm

/-- A delete that returned has taken the record away. -/
theorem Explained.delete_returned {policy : Proto.WritePolicy} {key : ProgramKey lib}
    {res : CallResult SingleKind.flag.Php} {b : Bool}
    (h : Explained S t ⟨.flag, .delete policy key, res⟩ t') (hres : res.Returns b) :
    t' = t.remove key.place := by
  cases h with
  | refused _ => cases hres.2
  | failed hthrows => exact absurd hthrows (hres.not_throws _)
  | delete _ => rfl
  | deleteInDoubt _ _ => rfl

/-- A get that returned has returned the record of the store, or there is none. -/
theorem Explained.get_returned {policy : Proto.ReadPolicy} {key : ProgramKey lib}
    {bins : Option (List String)} {res : CallResult SingleKind.record.Php}
    {o : Option Proto.Record} (h : Explained S t ⟨.record, .get policy key bins, res⟩ t')
    (hres : res.Returns o) :
    (o = none ∧ t key.place = none) ∨
      ∃ r fields, o = some r ∧ t key.place = some fields ∧
        (∃ k', r.key = some k' ∧ key.key.SameAs lib.ripemd160 k') ∧
        r.Shows (fields.select (bins.getD [])) := by
  cases h with
  | refused _ => cases hres.2
  | failed hthrows => exact absurd hthrows (hres.not_throws _)
  | found hreturns hsome hkey hshows =>
    exact .inr ⟨_, _, hres.unique hreturns, hsome, hkey, hshows⟩
  | notFound hreturns hnone => exact .inl ⟨hres.unique hreturns, hnone⟩

/-- A get does not find what a delete before it removed, unless a command in between writes the
    record. -/
theorem ExplainedRun.misses_deleted {before between after : List (Answered lib)}
    {policy : Proto.WritePolicy} {policy' : Proto.ReadPolicy} {key key' : ProgramKey lib}
    {names : Option (List String)} {res : CallResult SingleKind.flag.Php}
    {res' : CallResult SingleKind.record.Php} {b : Bool} {o : Option Proto.Record}
    (h : ExplainedRun S t (before ++ ⟨.flag, .delete policy key, res⟩ :: (between ++
      ⟨.record, .get policy' key' names, res'⟩ :: after)) t')
    (hdelete : res.Returns b) (hbetween : ∀ a ∈ between, ¬ a.cmd.Writes key.place)
    (hget : res'.Returns o) (hplace : key'.place = key.place) : o = none := by
  obtain ⟨t₀, -, hexplained⟩ := h.append_inv
  obtain ⟨t₁, hdeleted, hexplained⟩ := hexplained.cons_inv
  obtain ⟨t₂, hframe, hexplained⟩ := hexplained.append_inv
  obtain ⟨t₃, hread, -⟩ := hexplained.cons_inv
  have hgone : t₂ key'.place = none := by
    rw [hplace, hframe.frame hbetween, hdeleted.delete_returned hdelete]
    exact Function.update_self key.place none t₀
  rcases hread.get_returned hget with ⟨ho, -⟩ | ⟨r, fields, -, hfields, -⟩
  · exact ho
  · rw [hgone] at hfields
    cases hfields

end Frame

section Read

variable {S : Aero.ValueString} {cluster : Aero.Cluster σ} {statusText : Panic → String}
  {table : σ → Table Place String Aero.Value}

/-- A record that was deleted is not found by a later get, in any run of commands, unless
    another command in between writes it. -/
theorem deleted_not_found (hkeeps : cluster.Keeps table) {s s' : σ} {t : Store}
    (ht : table s = t.map Arg.toAero) {cs : List ((k : SingleKind) × StoreCommand lib k)}
    {before between after : List (Answered lib)} {policy : Proto.WritePolicy}
    {policy' : Proto.ReadPolicy} {key key' : ProgramKey lib} {names : Option (List String)}
    {res : CallResult SingleKind.flag.Php} {res' : CallResult SingleKind.record.Php} {b : Bool}
    {o : Option Proto.Record}
    (hrun : Run.run (storeStep S cluster statusText) s cs =
      .ok (before ++ ⟨.flag, .delete policy key, res⟩ :: (between ++
        ⟨.record, .get policy' key' names, res'⟩ :: after), s'))
    (hdelete : res.Returns b) (hbetween : ∀ a ∈ between, ¬ a.cmd.Writes key.place)
    (hget : res'.Returns o) (hplace : key'.place = key.place) : o = none := by
  obtain ⟨t', -, -, hexplained⟩ := explained_of_run hkeeps ht hrun
  exact hexplained.misses_deleted hdelete hbetween hget hplace

/-- A counter that is put, deleted and read in memory. -/
theorem counter_deleted :
    ∃ s' res' o, Run.run counterStep (fun _ => none)
        [⟨_, putCounter⟩, ⟨_, deleteCounter⟩, ⟨_, getCounter⟩] =
          .ok ([⟨_, putCounter, ⟨[], .ok ()⟩⟩, ⟨_, deleteCounter, ⟨[], .ok true⟩⟩,
            ⟨_, getCounter, res'⟩], s') ∧ res'.Returns o :=
  ⟨_, _, _, rfl, rfl, rfl⟩

/-- It is not found. -/
theorem deleted_not_found_counter :
    ∃ s' res', Run.run counterStep (fun _ => none)
        [⟨_, putCounter⟩, ⟨_, deleteCounter⟩, ⟨_, getCounter⟩] =
          .ok ([⟨_, putCounter, ⟨[], .ok ()⟩⟩, ⟨_, deleteCounter, ⟨[], .ok true⟩⟩,
            ⟨_, getCounter, res'⟩], s') ∧ res'.Returns none := by
  obtain ⟨s', res', o, hrun, hres'⟩ := counter_deleted
  have hcommands : Run.run (storeStep .strings Memory.cluster fun _ => "") (fun _ => none)
      [⟨_, putCounter⟩, ⟨_, deleteCounter⟩, ⟨_, getCounter⟩] =
        .ok ([⟨_, putCounter, ⟨[], .ok ()⟩⟩] ++ ⟨_, deleteCounter, ⟨[], .ok true⟩⟩ ::
          ([] ++ ⟨_, getCounter, res'⟩ :: []), s') := hrun
  have hempty : Memory.table (fun _ => none) = Table.map Arg.toAero fun _ => none := rfl
  have hnone : o = none :=
    deleted_not_found Memory.keeps hempty hcommands ⟨rfl, rfl⟩ (fun a ha => by cases ha) hres' rfl
  rw [hnone] at hres'
  exact ⟨s', res', hrun, hres'⟩

end Read

end Program

end AerospikePhp
