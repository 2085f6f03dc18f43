import AerospikePhp.Command.Outcome
import AerospikePhp.Value.RoundTrip

/-!
# User-defined functions

`Client::udf_execute` (`src/lib.rs` lines 10358–10394) and `UDFExecute` (`kvs.go` lines 240–249)
run a function of the cluster on a record. The arguments are sent like values that are written,
and the result comes back like a value that is read; the extension decodes it at once.

Main result:
* `udf_reported_iff`: the function gets the arguments of the program, and the program gets what
  it returned or threw, iff no JSON object in the result has entries.
-/

namespace AerospikePhp

namespace Server

/-- The response of `UDFExecute`. -/
def udfResponse : Except Aero.CallError GoValue → Except Panic Proto.UdfExecuteResponse
  | .error e => .ok { error := fromError (some e.toError), result := none }
  | .ok res => do
    return { error := none, result := some (← fromValue res) }

/-- The handler answers with what the function returned on the arguments of the program. -/
theorem udfExecute_sent {newKey : String → String → Aero.Value → Option Aero.Key}
    {S : Aero.ValueString} {client : Aero.SingleClient} {policy : Proto.WritePolicy}
    {key : Proto.Key} {apolicy : Option Aero.WritePolicy} {akey : Option Aero.Key}
    (hpolicy : toWritePolicy S (some policy) = .ok apolicy)
    (hkey : toKey newKey (some key) = .ok akey) (packageName functionName : String)
    (args : List Arg) :
    udfExecute newKey S client
        { policy := some policy, key := some key, packageName := packageName
          functionName := functionName, args := args.map Arg.toProto } =
      udfResponse
        (client.execute apolicy akey packageName functionName (args.map Arg.toAero)) := by
  simp only [udfExecute, hpolicy, hkey, toValues_toProto, Fallible.ok_bind]
  cases client.execute apolicy akey packageName functionName (args.map Arg.toAero) with
  | error e => rfl
  | ok res => rfl

end Server

/-- The program is told how the call of a function ended: it gets the value that was returned,
    or an exception. -/
def UdfReported (outcome : Except Aero.CallError GoValue) (res : CallResult PHPValue) : Prop :=
  match outcome with
  | .ok g => res.Returns g.denoted
  | .error e => res.Throws e

/-- A value or an error, on its way through the response. -/
theorem matchUdfExecute_reported (statusText : Panic → String)
    {outcome : Except Aero.CallError GoValue} (hreadable : ∀ g, outcome = .ok g → g.Readable) :
    (∃ res, Client.matchUdfExecute (recovered statusText (Server.udfResponse outcome)) = .ok res ∧
        UdfReported outcome res) ↔
      ∀ g, outcome = .ok g → g.jsonEmpty = true := by
  cases outcome with
  | error e => exact iff_of_true ⟨_, rfl, _, rfl, rfl, rfl⟩ (fun g hg => by cases hg)
  | ok g =>
    obtain ⟨p, hp, hdecodes⟩ := (hreadable g rfl).decodes
    have hmatch : Client.matchUdfExecute (recovered statusText (Server.udfResponse (.ok g))) =
        (PHPValue.fromProto p).map fun v => ⟨[], .ok v⟩ := by
      have hanswer : recovered statusText (Server.udfResponse (.ok g)) = .ok ⟨none, some p⟩ := by
        simp only [Server.udfResponse, hp, Fallible.ok_bind, Fallible.pure_eq_ok,
          recovered_eq_ok]
      rw [hanswer, Client.matchUdfExecute]
      cases PHPValue.fromProto p <;> rfl
    rw [hmatch]
    unfold GoValue.Decodes at hdecodes
    simp only [Except.ok.injEq, forall_eq']
    constructor
    · rintro ⟨res, hres, -⟩
      obtain ⟨v, hv, -⟩ := Fallible.map_eq_ok.1 hres
      rw [hv] at hdecodes
      by_contra hjson
      rw [if_neg hjson] at hdecodes
      cases hdecodes
    · intro hjson
      rw [if_pos hjson] at hdecodes
      exact ⟨_, Fallible.map_eq_ok.2 ⟨_, Fallible.toOption_eq_some.1 hdecodes, rfl⟩, rfl, rfl⟩

/-- **Main theorem.** A function is called with the values that the arguments of the program
    denote, in order, and the program is told how the call ended iff every JSON object in what
    it returned is empty. -/
theorem udf_reported_iff {newKey : String → String → Aero.Value → Option Aero.Key}
    {S : Aero.ValueString} {client : Aero.SingleClient} {policy : Proto.WritePolicy}
    {key : Proto.Key} {apolicy : Option Aero.WritePolicy} {akey : Option Aero.Key}
    (hpolicy : toWritePolicy S (some policy) = .ok apolicy)
    (hkey : toKey newKey (some key) = .ok akey) (statusText : Panic → String)
    (packageName functionName : String) (args : List Arg)
    (hreadable : ∀ g, client.execute apolicy akey packageName functionName
      (args.map Arg.toAero) = .ok g → g.Readable) :
    (∃ called, Client.udfExecute (Server.kvs newKey S client statusText) policy key packageName
        functionName args = .ok called ∧
        UdfReported (client.execute apolicy akey packageName functionName (args.map Arg.toAero))
          called.toCallResult) ↔
      ∀ g, client.execute apolicy akey packageName functionName (args.map Arg.toAero) = .ok g →
        g.jsonEmpty = true := by
  rw [← matchUdfExecute_reported statusText hreadable,
    ← Server.udfExecute_sent hpolicy hkey packageName functionName args]
  constructor
  · rintro ⟨called, hcalled, hreported⟩
    obtain ⟨res, hres, rfl⟩ := Fallible.map_eq_ok.1 hcalled
    exact ⟨res, hres, hreported⟩
  · rintro ⟨res, hres, hreported⟩
    exact ⟨_, Fallible.map_eq_ok.2 ⟨res, hres, rfl⟩, hreported⟩

/-- The Go client whose functions return the list of their arguments. -/
def echoClient : Aero.SingleClient where
  run := fun c => emptyDatabase.run c
  execute := fun _ _ _ _ args => .ok (.slice (args.map .aero))

/-- The number 7 and a word are echoed. -/
theorem udf_reported_iff_echo :
    (∃ called, Client.udfExecute
        (Server.kvs (KeyLibrary.ofHash digestOfOne).newKey .strings echoClient fun _ => "")
        WritePolicy.default (Key.construct "test" "users" (.int 1)) "echo" "run"
        [.int 7, .string "seven"] = .ok called ∧
        UdfReported (.ok (.slice [.aero (.integer 7), .aero (.string "seven")]))
          called.toCallResult) ↔
      ∀ g, (.ok (.slice [.aero (.integer 7), .aero (.string "seven")]) :
        Except Aero.CallError GoValue) = .ok g → g.jsonEmpty = true := by
  have hreadable : ∀ apolicy akey g, echoClient.execute apolicy akey "echo" "run"
      ([Arg.int 7, .string "seven"].map Arg.toAero) = .ok g → g.Readable := by
    intro apolicy akey g hg
    cases hg
    refine .slice _ fun x hx => ?_
    rcases List.mem_pair.1 hx with rfl | rfl
    · exact .aero _ rfl
    · exact .aero _ rfl
  exact udf_reported_iff rfl rfl (fun _ => "") "echo" "run" [.int 7, .string "seven"]
    (hreadable _ _)

end AerospikePhp
