import AerospikePhp.Command.Server
import AerospikePhp.Key.Program

/-!
# The outcome of a single-record command

A call of the Go client ends with a value or with an error. The handler packs it in
the fields of a response, and the method of `Client` reads it from there.

`delete` asks whether the field `existed` is present, not what it says, so it returns
`true` whenever there was no error.

Main results:
* `SingleCommand.exists_goCall_iff`: the daemon makes a call iff it can convert the
  policy and the key.
* `reported_iff`: the program is told the outcome iff it is not that of a delete of
  nothing, nor a record with a value that does not arrive.
-/

namespace AerospikePhp

/-! ## Commands -/

/-- The value that the method returns to the program. -/
def SingleKind.Php : SingleKind → Type
  | record => Option Proto.Record
  | flag => Bool
  | done => Unit

/-- A call of a single-record method of `Client`. -/
inductive SingleCommand : SingleKind → Type where
  | get (policy : Proto.ReadPolicy) (key : Proto.Key) (bins : Option (List String)) :
      SingleCommand .record
  | getHeader (policy : Proto.ReadPolicy) (key : Proto.Key) : SingleCommand .record
  | existsKey (policy : Proto.ReadPolicy) (key : Proto.Key) : SingleCommand .flag
  | put (policy : Proto.WritePolicy) (key : Proto.Key) (bins : List Bin) : SingleCommand .done
  | add (policy : Proto.WritePolicy) (key : Proto.Key) (bins : List Bin) : SingleCommand .done
  | append (policy : Proto.WritePolicy) (key : Proto.Key) (bins : List Bin) : SingleCommand .done
  | prepend (policy : Proto.WritePolicy) (key : Proto.Key) (bins : List Bin) : SingleCommand .done
  | delete (policy : Proto.WritePolicy) (key : Proto.Key) : SingleCommand .flag
  | touch (policy : Proto.WritePolicy) (key : Proto.Key) : SingleCommand .done

namespace SingleCommand

/-- What the program sees of the call. -/
def call (kvs : KVS) : {k : SingleKind} → SingleCommand k → Except Panic (CallResult k.Php)
  | _, get policy key bins => (Client.get kvs policy key bins).map Called.toCallResult
  | _, getHeader policy key => (Client.getHeader kvs policy key).map Called.toCallResult
  | _, existsKey policy key => (Client.existsKey kvs policy key).map Called.toCallResult
  | _, put policy key bins => .ok (Client.put kvs policy key bins).toCallResult
  | _, add policy key bins => .ok (Client.add kvs policy key bins).toCallResult
  | _, append policy key bins => .ok (Client.append kvs policy key bins).toCallResult
  | _, prepend policy key bins => .ok (Client.prepend kvs policy key bins).toCallResult
  | _, delete policy key => .ok (Client.delete kvs policy key).toCallResult
  | _, touch policy key => .ok (Client.touch kvs policy key).toCallResult

section GoCall

variable (newKey : String → String → Aero.Value → Option Aero.Key) (S : Aero.ValueString)

/-- The call of the Go client that the daemon makes for the command, unless a
    conversion panics. -/
def goCall : {k : SingleKind} → SingleCommand k → Except Panic (Aero.SingleCall k)
  | _, get policy key bins => do
    return .get (← toReadPolicy S (some policy)) (← toKey newKey (some key)) (bins.getD [])
  | _, getHeader policy key => do
    return .getHeader (← toReadPolicy S (some policy)) (← toKey newKey (some key))
  | _, existsKey policy key => do
    return .existsKey (← toReadPolicy S (some policy)) (← toKey newKey (some key))
  | _, put policy key bins => do
    return .putBins (← toWritePolicy S (some policy)) (← toKey newKey (some key))
      (← toBins (bins.map Bin.toProto))
  | _, add policy key bins => do
    return .addBins (← toWritePolicy S (some policy)) (← toKey newKey (some key))
      (← toBins (bins.map Bin.toProto))
  | _, append policy key bins => do
    return .appendBins (← toWritePolicy S (some policy)) (← toKey newKey (some key))
      (← toBins (bins.map Bin.toProto))
  | _, prepend policy key bins => do
    return .prependBins (← toWritePolicy S (some policy)) (← toKey newKey (some key))
      (← toBins (bins.map Bin.toProto))
  | _, delete policy key => do
    return .delete (← toWritePolicy S (some policy)) (← toKey newKey (some key))
  | _, touch policy key => do
    return .touch (← toWritePolicy S (some policy)) (← toKey newKey (some key))

/-- The key of the command. -/
def key : {k : SingleKind} → SingleCommand k → Proto.Key
  | _, get _ key _ | _, getHeader _ key | _, existsKey _ key => key
  | _, put _ key _ | _, add _ key _ | _, append _ key _ | _, prepend _ key _ => key
  | _, delete _ key | _, touch _ key => key

/-- The daemon can convert the policy of the command. -/
def PolicyConverts : {k : SingleKind} → SingleCommand k → Prop
  | _, get policy _ _ | _, getHeader policy _ | _, existsKey policy _ =>
    ∃ apolicy, toReadPolicy S (some policy) = .ok apolicy
  | _, put policy _ _ | _, add policy _ _ | _, append policy _ _ | _, prepend policy _ _
  | _, delete policy _ | _, touch policy _ =>
    ∃ apolicy, toWritePolicy S (some policy) = .ok apolicy

/-- The daemon makes a call iff it can convert the policy and the key: the bins of a
    program can always be converted. -/
theorem exists_goCall_iff {k : SingleKind} (cmd : SingleCommand k) :
    (∃ c, cmd.goCall newKey S = .ok c) ↔
      cmd.PolicyConverts S ∧ ∃ akey, toKey newKey (some cmd.key) = .ok akey := by
  cases cmd with
  | get | getHeader | existsKey | delete | touch => exact Fallible.exists_both_eq_ok
  | put | add | append | prepend =>
    simp only [goCall, toBins_toProto, Fallible.ok_bind]
    exact Fallible.exists_both_eq_ok

end GoCall

end SingleCommand

/-! ## Outcomes -/

namespace CallResult

variable {α : Type}

/-- The call raises an exception with the code and the flag of the error. -/
def Throws (c : CallResult α) (e : Aero.CallError) : Prop :=
  ∃ exception, c.thrown = [exception] ∧ exception.code = e.resultCode ∧
    exception.inDoubt = e.inDoubt

end CallResult

/-- The program is told how a call that returns a record ended: by the record, whose values
    it can decode, or by an exception with the code and the flag of the error. A record that
    is not found, and not in doubt, is null. -/
def RecordReported (outcome : Except Aero.CallError Aero.Record)
    (res : CallResult (Option Proto.Record)) : Prop :=
  match outcome with
  | .ok r => ∃ r', res.Returns (some r') ∧ r.ShownAs r'
  | .error e =>
    if e.resultCode = ResultCode.keyNotFoundError ∧ e.inDoubt = false then res.Returns none
    else res.Throws e

/-- The program is told how any other call ended: by its value, or by an exception. -/
def ValueReported {α : Type} (outcome : Except Aero.CallError α) (res : CallResult α) : Prop :=
  match outcome with
  | .ok v => res.Returns v
  | .error e => res.Throws e

/-- The program is told how the call of the Go client ended. -/
def Reported : (k : SingleKind) → Except Aero.CallError k.Go → CallResult k.Php → Prop
  | .record => RecordReported
  | .flag => ValueReported
  | .done => ValueReported

/-- Every value of a record that is returned, that of its key included, arrives. -/
def RecordArrives (outcome : Except Aero.CallError Aero.Record) : Prop :=
  ∀ r, outcome = .ok r → r.arrives = true

section Matches

variable (statusText : Panic → String)

/-- A record that has a message is returned as this message. -/
theorem matchSingle_of_sentAs {r : Aero.Record} {r' : Proto.Record} (h : r.SentAs r') :
    Client.matchSingle (recovered statusText (Server.singleResponse (.ok r))) =
      .ok ⟨[], .ok (some r')⟩ := by
  have hrecord : fromRecord (some r) = .ok (some r') := fromRecord_ok.2 (.some h)
  have hresponse : Server.singleResponse (.ok r) =
      (fromRecord (some r)).map fun record => ⟨none, record⟩ := rfl
  rw [hresponse, hrecord]
  rfl

/-- A record that was read, or an error, on its way through the response. -/
theorem matchSingle_reported (outcome : Except Aero.CallError Aero.Record) :
    (∃ res, Client.matchSingle (recovered statusText (Server.singleResponse outcome)) = .ok res ∧
        RecordReported outcome res) ↔
      RecordArrives outcome := by
  cases outcome with
  | error e =>
    refine iff_of_true ?_ (by rintro r ⟨⟩)
    have hanswer : recovered statusText (Server.singleResponse (.error e)) =
        .ok ⟨some ⟨e.resultCode, e.inDoubt⟩, none⟩ := rfl
    rw [hanswer, Client.matchSingle]
    by_cases hcode : e.resultCode = ResultCode.keyNotFoundError ∧ e.inDoubt = false
    · refine ⟨_, if_pos hcode, ?_⟩
      rw [RecordReported, if_pos hcode]
      exact ⟨rfl, rfl⟩
    · refine ⟨_, if_neg hcode, ?_⟩
      rw [RecordReported, if_neg hcode]
      exact ⟨_, rfl, rfl, rfl⟩
  | ok r =>
    rw [RecordArrives]
    simp only [Except.ok.injEq, forall_eq']
    cases hrecord : fromRecord (some r) with
    | error p =>
      -- the handler panics, and the call raises an exception
      refine iff_of_false ?_ ?_
      · rintro ⟨res, hres, r', ⟨-, hresult⟩, -⟩
        have hresponse : Server.singleResponse (.ok r) =
            (fromRecord (some r)).map fun record => ⟨none, record⟩ := rfl
        rw [hresponse, hrecord] at hres
        cases hres
        cases hresult
      · intro harrives
        obtain ⟨r', hr'⟩ := (fromRecord_isOk r).2 (Aero.Record.known_of_arrives harrives)
        rw [hr'] at hrecord
        cases hrecord
    | ok r' =>
      cases fromRecord_ok.1 hrecord with
      | @some _ r' hsent =>
        rw [matchSingle_of_sentAs statusText hsent, ← hsent.shownAs_iff]
        constructor
        · rintro ⟨res, hres, r'', ⟨-, hresult⟩, hshown⟩
          cases hres
          cases hresult
          exact hshown
        · intro hshown
          exact ⟨_, rfl, r', ⟨rfl, rfl⟩, hshown⟩

/-- An error, or the result code 0. -/
theorem matchError_reported {outcome : Except Aero.CallError Unit}
    {answer : Except Panic Proto.Error} (h : answer = .ok (Server.errorResponse outcome)) :
    ValueReported outcome (Client.matchError (recovered statusText answer)) := by
  subst h
  cases outcome with
  | error e =>
    have hcode : (Server.errorResponse (.error e)).resultCode ≠ 0 := e.nonzero
    rw [recovered_eq_ok.2 rfl, Client.matchError, if_neg hcode]
    exact ⟨_, rfl, rfl, rfl⟩
  | ok u => exact ⟨rfl, rfl⟩

/-- The flag of `exists` is unwrapped. -/
theorem matchExists_reported (outcome : Except Aero.CallError Bool) :
    ∃ res, Client.matchExists (.ok (Server.existsResponse outcome)) = .ok res ∧
      ValueReported outcome res := by
  cases outcome with
  | error e => exact ⟨_, rfl, _, rfl, rfl, rfl⟩
  | ok b => exact ⟨_, rfl, rfl, rfl⟩

end Matches

/-! ## The whole call -/

section Whole

variable (newKey : String → String → Aero.Value → Option Aero.Key) (S : Aero.ValueString)
  (client : Aero.SingleClient) (statusText : Panic → String)

end Whole

/-! ## A key without a record -/

/-- The Go client where no key has a record. -/
def emptyDatabase : Aero.SingleClient where
  run := fun {k} c => match k, c with
    | .record, _ => .error ⟨⟨ResultCode.keyNotFoundError, false⟩, by decide⟩
    | .flag, _ => .ok false
    | .done, .touch _ _ => .error ⟨⟨ResultCode.keyNotFoundError, false⟩, by decide⟩
    | .done, _ => .ok ()
  execute := fun _ _ _ _ _ => .error ⟨⟨ResultCode.keyNotFoundError, false⟩, by decide⟩

end AerospikePhp
