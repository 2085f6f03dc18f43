import AerospikePhp.Admin.Runs

/-!
# Where privileges come from

A program gets privileges from the roles that it queries, and passes them on to `create_role`,
`grant_privileges` and `revoke_privileges`; it cannot make one. The Go client names the ten kinds
of privileges by the codes that `toPrivilege` lists.

Results:
* `toPrivileges_fromPrivileges`: privileges go out and come back unchanged iff their codes are
  among the ten.
* `privileges_held`: over any run, each privilege that a program can pass is one that the cluster
  returned, and reaches the Go client as it was returned.
-/

namespace AerospikePhp

open Transition

/-! ## Out and back -/

theorem toPrivilege_fromPrivilege {p : Aero.Privilege} (h : p.code ∈ privilegeCodes) :
    toPrivilege (fromPrivilege p) = .ok p := by
  unfold toPrivilege
  rw [if_pos (show (fromPrivilege p).name ∈ privilegeCodes from h)]
  rfl

theorem toPrivileges_fromPrivileges (ps : List Aero.Privilege) :
    toPrivileges (fromPrivileges ps) = .ok ps ↔ ∀ p ∈ ps, p.code ∈ privilegeCodes := by
  unfold toPrivileges fromPrivileges
  rw [Fallible.mapM_eq_ok_iff, List.forall₂_map_left_iff, List.forall₂_same]
  constructor
  · intro h p hp
    by_contra hcode
    have hpanic : toPrivilege (fromPrivilege p) = .error .unreachable := if_neg hcode
    rw [h p hp] at hpanic
    cases hpanic
  · intro h p hp
    exact toPrivilege_fromPrivilege (h p hp)

/-! ## What a program holds -/

/-- The privileges in what a method returned. -/
def CallResult.privileges : {k : AdminKind} → CallResult k.Message → List Proto.Privilege
  | .roles, { result := .ok rs, thrown := _ } => rs.flatMap Proto.Role.privileges
  | _, _ => []

/-- The privileges in the roles that the Go client returned. -/
def AdminKind.privileges : (k : AdminKind) → Except Aero.CallError k.Go → List Aero.Privilege
  | roles, .ok rs => rs.flatMap fun r => (r.map Aero.Role.privileges).getD []
  | _, _ => []

/-- The cluster, and the privileges that the program holds. -/
structure Holding (σ : Type) where
  cluster : σ
  held : List Proto.Privilege

section Holding

variable {σ : Type} (S : Aero.ValueString) (client : Aero.AdminClient σ)
  (statusText : Panic → String)

/-- A command of a program that holds the privileges that it passes. -/
def Holding.step (h : Holding σ) (c : SomeAdmin) : Option (Holding σ) :=
  if ∀ p ∈ c.2.privileges, p ∈ h.held then
    let called := c.2.call S client statusText h.cluster
    some { cluster := called.2, held := h.held ++ called.1.privileges }
  else none

/-- The privileges that the Go client returns for a command. -/
def goPrivileges (s : σ) (c : SomeAdmin) : List Aero.Privilege :=
  match c.2.goCall S client with
  | .ok act => c.1.privileges (act s).1
  | .error _ => []

/-- The privileges that the Go client returns in a run. -/
def returned : σ → List SomeAdmin → List Aero.Privilege
  | _, [] => []
  | s, c :: cmds => goPrivileges S client s c ++ returned (goNext S client s c) cmds

/-- The Go client knows no other kinds of privileges than the ten. -/
def KnownCodes : Prop :=
  (∀ policy s rs, (client.exec (.queryRoles policy) s).1 = .ok rs →
      ∀ r ∈ rs, ∀ p ∈ r.privileges, p.code ∈ privilegeCodes) ∧
    ∀ policy name s r, (client.exec (.queryRole policy name) s).1 = .ok (some r) →
      ∀ p ∈ r.privileges, p.code ∈ privilegeCodes

variable {S client statusText}

theorem fromRoles_privileges {rs : List (Option Aero.Role)} {ms : List Proto.Role}
    (h : fromRoles rs = .ok ms) :
    ms.flatMap Proto.Role.privileges = fromPrivileges (AdminKind.roles.privileges (.ok rs)) := by
  have hall := (Fallible.mapM_eq_ok_iff fromRole rs ms).1 h
  clear h
  induction hall with
  | nil => rfl
  | @cons r m rs ms hr hrest ih =>
    cases r with
    | none => cases hr
    | some r =>
      cases hr
      show fromPrivileges r.privileges ++ ms.flatMap Proto.Role.privileges =
        fromPrivileges (r.privileges ++ AdminKind.roles.privileges (.ok rs))
      rw [ih]
      simp [fromPrivileges]

/-- What the program gets are privileges that the Go client returned. -/
theorem report_privileges {k : AdminKind} {outcome : Except Aero.CallError k.Go}
    {m : Proto.Privilege} (hm : m ∈ (k.report statusText outcome).privileges) :
    ∃ p ∈ k.privileges outcome, fromPrivilege p = m := by
  cases k with
  | done => cases hm
  | users => cases hm
  | udfs => cases hm
  | roles =>
    cases outcome with
    | error e => cases hm
    | ok rs =>
      cases hrs : fromRoles rs with
      | error p =>
        have hsend : AdminKind.send .roles rs = .error p := hrs
        simp only [AdminKind.report, hsend, recovered, Except.mapError, CallResult.privileges,
          List.not_mem_nil] at hm
      | ok ms =>
        have hsend : AdminKind.send .roles rs = .ok ms := hrs
        simp only [AdminKind.report, hsend, recovered, Except.mapError, CallResult.privileges,
          fromRoles_privileges hrs] at hm
        exact List.mem_map.1 hm

theorem call_privileges {s : σ} {c : SomeAdmin} {m : Proto.Privilege}
    (hm : m ∈ (c.2.call S client statusText s).1.privileges) :
    ∃ p ∈ goPrivileges S client s c, fromPrivilege p = m := by
  rw [AdminCommand.call_eq] at hm
  unfold goPrivileges
  cases hcall : c.2.goCall S client with
  | error p =>
    rw [hcall] at hm
    obtain ⟨k, cmd⟩ := c
    cases k <;> cases hm
  | ok act =>
    rw [hcall] at hm
    exact report_privileges hm

/-- What the program holds after a run. -/
theorem held_of_run {h h' : Holding σ} {cmds : List SomeAdmin}
    (hrun : run (Holding.step S client statusText) h cmds = some h') {m : Proto.Privilege}
    (hm : m ∈ h'.held) :
    m ∈ h.held ∨ ∃ p ∈ returned S client h.cluster cmds, fromPrivilege p = m := by
  induction cmds generalizing h with
  | nil =>
    simp only [run_nil, Option.some.injEq] at hrun
    exact .inl (hrun ▸ hm)
  | cons c cmds ih =>
    obtain ⟨h₁, hstep, hrest⟩ := (run_cons_eq_some _).1 hrun
    unfold Holding.step at hstep
    split_ifs at hstep with hpasses
    cases hstep
    have hnext : (c.2.call S client statusText h.cluster).2 = goNext S client h.cluster c :=
      adminNext_eq S client statusText h.cluster c
    rcases ih hrest with hbefore | ⟨p, hp, hpm⟩
    · rcases List.mem_append.1 hbefore with hheld | hnew
      · exact .inl hheld
      · obtain ⟨p, hp, hpm⟩ := call_privileges hnew
        exact .inr ⟨p, List.mem_append_left _ hp, hpm⟩
    · refine .inr ⟨p, List.mem_append_right _ ?_, hpm⟩
      rw [← hnext]
      exact hp

/-! ## Known codes -/

theorem code_of_roles {rs : List (Option Aero.Role)}
    (h : ∀ r, some r ∈ rs → ∀ p ∈ r.privileges, p.code ∈ privilegeCodes) {p : Aero.Privilege}
    (hp : p ∈ AdminKind.roles.privileges (.ok rs)) : p.code ∈ privilegeCodes := by
  obtain ⟨r, hr, hp⟩ := List.mem_flatMap.1 hp
  cases r with
  | none => cases hp
  | some r => exact h r hr p hp

theorem code_of_goPrivileges (hknown : KnownCodes client) {s : σ} {c : SomeAdmin}
    {p : Aero.Privilege} (hp : p ∈ goPrivileges S client s c) : p.code ∈ privilegeCodes := by
  obtain ⟨k, cmd⟩ := c
  cases k with
  | done | users | udfs =>
    unfold goPrivileges at hp
    split at hp <;> cases hp
  | roles =>
    cases cmd with
    | queryRoles policy roleName =>
      cases roleName with
      | none =>
        cases hout : (client.exec (.queryRoles (toAdminPolicy (some policy))) s).1 with
        | error e =>
          simp [goPrivileges, AdminCommand.goCall, Aero.AdminClient.act, hout, Except.map,
            AdminKind.privileges] at hp
        | ok rs =>
          have hp' : p ∈ AdminKind.roles.privileges (.ok (rs.map some)) := by
            simpa [goPrivileges, AdminCommand.goCall, Aero.AdminClient.act, hout, Except.map]
              using hp
          apply code_of_roles ?_ hp'
          intro r hr
          obtain ⟨r', hr', heq⟩ := List.mem_map.1 hr
          cases heq
          exact hknown.1 _ s rs hout r hr'
      | some name =>
        cases hout : (client.exec (.queryRole (toAdminPolicy (some policy)) name) s).1 with
        | error e =>
          simp [goPrivileges, AdminCommand.goCall, Aero.AdminClient.act, hout, Except.map,
            AdminKind.privileges] at hp
        | ok r =>
          have hp' : p ∈ AdminKind.roles.privileges (.ok [r]) := by
            simpa [goPrivileges, AdminCommand.goCall, Aero.AdminClient.act, hout, Except.map]
              using hp
          apply code_of_roles ?_ hp'
          intro r' hr'
          rw [List.mem_singleton] at hr'
          subst hr'
          exact hknown.2 _ name s r' hout

theorem code_of_returned (hknown : KnownCodes client) {s : σ} {cmds : List SomeAdmin}
    {p : Aero.Privilege} (hp : p ∈ returned S client s cmds) : p.code ∈ privilegeCodes := by
  induction cmds generalizing s with
  | nil => cases hp
  | cons c cmds ih =>
    rcases List.mem_append.1 hp with hp | hp
    · exact code_of_goPrivileges hknown hp
    · exact ih hp

/-- **Main theorem.** In any state of any program that began without privileges, the privileges
    that it can pass to a command reach the Go client, and they are privileges that the cluster
    returned to it, with their codes and scopes. -/
theorem privileges_held (hknown : KnownCodes client) {s : σ} {cmds : List SomeAdmin}
    {h : Holding σ} (hrun : run (Holding.step S client statusText) ⟨s, []⟩ cmds = some h)
    {privileges : List Proto.Privilege} (hheld : ∀ m ∈ privileges, m ∈ h.held) :
    ∃ ps, toPrivileges privileges = .ok ps ∧ fromPrivileges ps = privileges ∧
      ∀ p ∈ ps, p ∈ returned S client s cmds := by
  induction privileges with
  | nil => exact ⟨[], rfl, rfl, by simp⟩
  | cons m privileges ih =>
    obtain ⟨ps, hps, hback, hreturned⟩ := ih fun m' hm' => hheld m' (by simp [hm'])
    have hm := held_of_run hrun (hheld m (by simp))
    rcases hm with hnone | ⟨p, hp, hpm⟩
    · cases hnone
    · refine ⟨p :: ps, ?_, ?_, ?_⟩
      · have hpriv := toPrivilege_fromPrivilege (code_of_returned hknown hp)
        rw [hpm] at hpriv
        unfold toPrivileges at hps ⊢
        rw [List.mapM_cons, hpriv, hps]
        rfl
      · show fromPrivilege p :: fromPrivileges ps = _
        rw [hpm, hback]
      · intro q hq
        rcases List.mem_cons.1 hq with rfl | hq
        · exact hp
        · exact hreturned q hq

end Holding

/-! ## One role -/

/-- A privilege to read one namespace. -/
def readTest : Aero.Privilege := ⟨"read", "test", ""⟩

/-- The error of a call that a cluster refuses. -/
def refusal : Aero.CallError := ⟨⟨ResultCode.commonError, false⟩, by decide⟩

/-- A cluster that has one role, and refuses everything else. -/
def oneRole : Aero.AdminClient Unit where
  exec := fun {r} call s => match r, call with
    | .roles, .queryRoles _ => (.ok [⟨"reader", [readTest], [], 0, 0⟩], s)
    | _, _ => (.error refusal, s)

theorem knownCodes_oneRole : KnownCodes oneRole := by
  refine ⟨?_, ?_⟩
  · intro policy s rs hrs r hr p hp
    cases hrs
    rw [List.mem_singleton] at hr
    subst hr
    rw [List.mem_singleton] at hp
    subst hp
    decide
  · intro policy name s r hr
    cases hr

/-- A program that queries the roles can pass on their privilege. -/
theorem privileges_held_one :
    ∃ h ps, run (Holding.step .strings oneRole fun _ => "") ⟨(), []⟩
        [⟨.roles, .queryRoles AdminPolicy.default none⟩] = some h ∧
      fromPrivilege readTest ∈ h.held ∧ toPrivileges [fromPrivilege readTest] = .ok ps ∧
      fromPrivileges ps = [fromPrivilege readTest] ∧
      ∀ p ∈ ps, p ∈ returned .strings oneRole ()
        [⟨.roles, .queryRoles AdminPolicy.default none⟩] := by
  have hrun : run (Holding.step .strings oneRole fun _ => "") ⟨(), []⟩
      [⟨.roles, .queryRoles AdminPolicy.default none⟩] =
        some ⟨(), [fromPrivilege readTest]⟩ := rfl
  have hheld : ∀ m ∈ [fromPrivilege readTest], m ∈ [fromPrivilege readTest] := by simp
  obtain ⟨ps, hps, hback, hreturned⟩ := privileges_held knownCodes_oneRole hrun hheld
  exact ⟨_, ps, hrun, by simp, hps, hback, hreturned⟩

end AerospikePhp
