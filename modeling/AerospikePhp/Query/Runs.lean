import AerospikePhp.Lib.Run
import AerospikePhp.Query.Statement

/-!
# Programs that query

A program has any number of statements. It writes to their properties, gives the filter of one
to another, and runs queries with them at any time.

Results:
* `queries_run`: the daemon makes the calls of a Go program that does the same to statements of
  the Go client, and the program aborts where this one would need a filter that there is not.
* `queries_abort_iff`: a program aborts iff it makes a filter of an infinity or a wildcard.
-/

namespace AerospikePhp

/-! ## Programs -/

/-- A filter that a program gives to a statement: none, a new one, or that of a statement. -/
inductive FilterArg where
  | null
  | made (call : Filter.Call)
  | of (i : ℕ)

/-- What a program does: statement `i` is the one that it built after `i` others. -/
inductive QueryAction where
  | construct (ns setName : String) (filter : FilterArg) (binNames : Option (List String))
      (taskId : UInt64)
  | setFilter (i : ℕ) (filter : FilterArg)
  | setIndexName (i : ℕ) (indexName : Option String)
  | setBinNames (i : ℕ) (binNames : List String)
  | setNamespace (i : ℕ) (ns : String)
  | setSetname (i : ℕ) (setName : String)
  | query (policy : Proto.QueryPolicy) (partitionFilter : Proto.PartitionFilter) (i : ℕ)

/-- What the daemon does for a query: its call of the Go client, or a panic. -/
abbrev QueryOutput := Option (Except Panic Aero.QueryCall)

section Programs

variable (S : Aero.ValueString) (text : FloatText)

/-- The object that a program gives. -/
def FilterArg.build (statements : List Proto.Statement) :
    FilterArg → Except Panic (Option Proto.QueryFilter)
  | null => .ok none
  | made call => (call.build text).map some
  | of i => .ok (statements[i]?.bind Statement.getFilter)

/-- One action, with the statements of the program. -/
def queryStep (statements : List Proto.Statement) :
    QueryAction → Except Panic (QueryOutput × List Proto.Statement)
  | .construct ns setName filter binNames taskId => do
    let filter ← filter.build text statements
    return (none, statements ++ [Statement.construct ns setName filter binNames taskId])
  | .setFilter i filter => do
    let filter ← filter.build text statements
    return (none, statements.modify i fun st => Statement.setFilter st filter)
  | .setIndexName i indexName =>
    .ok (none, statements.modify i fun st => Statement.setIndexName st indexName)
  | .setBinNames i binNames =>
    .ok (none, statements.modify i fun st => Statement.setBinNames st binNames)
  | .setNamespace i ns => .ok (none, statements.modify i fun st => Statement.setNamespace st ns)
  | .setSetname i setName =>
    .ok (none, statements.modify i fun st => Statement.setSetname st setName)
  | .query policy partitionFilter i =>
    .ok (statements[i]?.map fun st =>
      Server.queryCall S ⟨some policy, some st, some partitionFilter⟩, statements)

/-! ## Programs of the Go client -/

/-- The filter of the Go client that is given. -/
def FilterArg.toAero (statements : List Aero.Statement) :
    FilterArg → Except Panic (Option Aero.Filter)
  | null => .ok none
  | made call =>
    match call.toAero text with
    | some filter => .ok (some filter)
    | none => .error .unreachable
  | of i => .ok (statements[i]?.bind Aero.Statement.filter)

/-- The same action, with statements of the Go client. -/
def goStep (statements : List Aero.Statement) :
    QueryAction → Except Panic (QueryOutput × List Aero.Statement)
  | .construct ns setName filter binNames taskId => do
    let filter ← filter.toAero text statements
    let st : Aero.Statement :=
      { ns := ns, setName := setName, indexName := "", binNames := binNames.getD [],
        filter := filter, taskId := taskId, returnData := true }
    return (none, statements ++ [st])
  | .setFilter i filter => do
    let filter ← filter.toAero text statements
    return (none, statements.modify i fun st => { st with filter := filter })
  | .setIndexName i indexName =>
    .ok (none, statements.modify i fun st => { st with indexName := indexName.getD "" })
  | .setBinNames i binNames =>
    .ok (none, statements.modify i fun st => { st with binNames := binNames })
  | .setNamespace i ns => .ok (none, statements.modify i fun st => { st with ns := ns })
  | .setSetname i setName =>
    .ok (none, statements.modify i fun st => { st with setName := setName })
  | .query policy partitionFilter i =>
    .ok (statements[i]?.map fun st => do
      let policy ← toQueryPolicy S (some policy)
      return ⟨policy, some st, toPartitionFilter (some partitionFilter)⟩, statements)

/-! ## The simulation -/

/-- A statement of a program, and the one of the Go client that it is. -/
def StatementSent (st : Proto.Statement) (go : Aero.Statement) : Prop :=
  toStatement (some st) = .ok (some go)

theorem statementSent_iff {st : Proto.Statement} {go : Aero.Statement} :
    StatementSent st go ↔ toFilter st.filter = .ok go.filter ∧ go.ns = st.ns ∧
      go.setName = st.setName ∧ go.indexName = st.indexName.getD "" ∧
      go.binNames = st.binNames ∧ go.taskId = st.taskId ∧ go.returnData = st.returnData := by
  unfold StatementSent toStatement
  rw [Fallible.bind_eq_ok]
  constructor
  · rintro ⟨filter, hfilter, h⟩
    cases h
    exact ⟨hfilter, rfl, rfl, rfl, rfl, rfl, rfl⟩
  · rintro ⟨hfilter, hns, hset, hindex, hbins, htask, hreturn⟩
    refine ⟨go.filter, hfilter, ?_⟩
    rw [← hns, ← hset, ← hindex, ← hbins, ← htask, ← hreturn]
    rfl

variable {S : Aero.ValueString} {text : FloatText} {statements : List Proto.Statement}
  {gos : List Aero.Statement}

theorem forall₂_modify {α β : Type} {R : α → β → Prop} {l : List α} {l' : List β}
    (h : List.Forall₂ R l l') {f : α → α} {g : β → β} (hfg : ∀ a b, R a b → R (f a) (g b))
    (i : ℕ) : List.Forall₂ R (l.modify i f) (l'.modify i g) := by
  induction h generalizing i with
  | nil => cases i <;> exact .nil
  | @cons a b l l' hab hl ih =>
    cases i with
    | zero => exact .cons (hfg a b hab) hl
    | succ i => exact .cons hab (ih i)

theorem forall₂_getElem? {α β : Type} {R : α → β → Prop} {l : List α} {l' : List β}
    (h : List.Forall₂ R l l') (i : ℕ) :
    (l[i]? = none ∧ l'[i]? = none) ∨ ∃ a b, l[i]? = some a ∧ l'[i]? = some b ∧ R a b := by
  induction h generalizing i with
  | nil => exact .inl ⟨rfl, rfl⟩
  | cons hab hl ih =>
    cases i with
    | zero => exact .inr ⟨_, _, rfl, rfl, hab⟩
    | succ i => exact ih i

variable (text) in
/-- The filter that is given is the same for both programs. -/
theorem FilterArg.agree (h : List.Forall₂ StatementSent statements gos) (filter : FilterArg) :
    (filter.build text statements = .error .unreachable ∧
        filter.toAero text gos = .error .unreachable) ∨
      ∃ f go, filter.build text statements = .ok f ∧ filter.toAero text gos = .ok go ∧
        toFilter f = .ok go := by
  cases filter with
  | null => exact .inr ⟨none, none, rfl, rfl, rfl⟩
  | made call =>
    rcases call.sent text with ⟨hbuild, hgo⟩ | ⟨f, go, hbuild, hgo, hsent⟩
    · refine .inl ⟨?_, ?_⟩
      · rw [FilterArg.build, hbuild]
        rfl
      · simp only [FilterArg.toAero, hgo]
    · refine .inr ⟨some f, some go, ?_, ?_, hsent⟩
      · rw [FilterArg.build, hbuild]
        rfl
      · simp only [FilterArg.toAero, hgo]
  | of i =>
    refine .inr ⟨_, _, rfl, rfl, ?_⟩
    rcases forall₂_getElem? h i with ⟨hst, hgo⟩ | ⟨st, go, hst, hgo, hsent⟩
    · rw [hst, hgo]
      rfl
    · rw [hst, hgo]
      exact (statementSent_iff.1 hsent).1

/-- One action of both programs. -/
theorem queryStep_agree (h : List.Forall₂ StatementSent statements gos) (action : QueryAction) :
    Run.Agree (List.Forall₂ StatementSent) (queryStep S text statements action)
      (goStep S text gos action) := by
  cases action with
  | construct ns setName filter binNames taskId =>
    unfold queryStep goStep
    rcases filter.agree text h with ⟨hbuild, hgo⟩ | ⟨f, go, hbuild, hgo, hsent⟩
    · simp only [hbuild, hgo]
      rfl
    · simp only [hbuild, hgo]
      refine ⟨rfl, List.rel_append h (.cons ?_ .nil)⟩
      exact statementSent_iff.2 ⟨hsent, rfl, rfl, rfl, rfl, rfl, rfl⟩
  | setFilter i filter =>
    unfold queryStep goStep
    rcases filter.agree text h with ⟨hbuild, hgo⟩ | ⟨f, go, hbuild, hgo, hsent⟩
    · simp only [hbuild, hgo]
      rfl
    · simp only [hbuild, hgo]
      refine ⟨rfl, forall₂_modify h (fun st go hst => ?_) i⟩
      exact statementSent_iff.2 ⟨hsent, (statementSent_iff.1 hst).2⟩
  | setIndexName i indexName =>
    refine ⟨rfl, forall₂_modify h (fun st go hst => ?_) i⟩
    obtain ⟨hfilter, hns, hset, -, hrest⟩ := statementSent_iff.1 hst
    exact statementSent_iff.2 ⟨hfilter, hns, hset, rfl, hrest⟩
  | setBinNames i binNames =>
    refine ⟨rfl, forall₂_modify h (fun st go hst => ?_) i⟩
    obtain ⟨hfilter, hns, hset, hindex, -, hrest⟩ := statementSent_iff.1 hst
    exact statementSent_iff.2 ⟨hfilter, hns, hset, hindex, rfl, hrest⟩
  | setNamespace i ns =>
    refine ⟨rfl, forall₂_modify h (fun st go hst => ?_) i⟩
    obtain ⟨hfilter, -, hrest⟩ := statementSent_iff.1 hst
    exact statementSent_iff.2 ⟨hfilter, rfl, hrest⟩
  | setSetname i setName =>
    refine ⟨rfl, forall₂_modify h (fun st go hst => ?_) i⟩
    obtain ⟨hfilter, hns, -, hrest⟩ := statementSent_iff.1 hst
    exact statementSent_iff.2 ⟨hfilter, hns, rfl, hrest⟩
  | query policy partitionFilter i =>
    refine ⟨?_, h⟩
    rcases forall₂_getElem? h i with ⟨hst, hgo⟩ | ⟨st, go, hst, hgo, hsent⟩
    · rw [hst, hgo]
      rfl
    · rw [hst, hgo]
      simp only [Option.map_some, Server.queryCall]
      rw [show toStatement (some st) = .ok (some go) from hsent]
      rfl

variable (S text) in
/-- **Main theorem.** In every run of a program, the daemon does for each query what a program
    of the Go client does with statements of its own, and the run aborts where this one would
    need a filter on a value without a type. -/
theorem queries_run (actions : List QueryAction) :
    (Run.run (queryStep S text) [] actions).map Prod.fst =
      (Run.run (goStep S text) [] actions).map Prod.fst :=
  Run.run_simulates _ (fun _ _ action h => queryStep_agree h action) .nil actions

/-! ## Aborts -/

/-- The value whose type a filter has; the text of a region or of a point has one. -/
def Filter.Call.typedValue : Filter.Call → Option Arg
  | .equal _ value _ | .contains _ value _ _ => some value
  | .range _ first _ _ | .containsRange _ first _ _ _ => some first
  | .withinRegion .. | .withinRadius .. | .regionsContainingPoint .. => none

/-- The filter is made of an infinity or a wildcard. -/
def FilterArg.Untyped : FilterArg → Prop
  | made call => ∃ value, call.typedValue = some value ∧
      (value.val = .infinity ∨ value.val = .wildcard)
  | _ => False

def QueryAction.Untyped : QueryAction → Prop
  | construct _ _ filter _ _ | setFilter _ filter => filter.Untyped
  | _ => False

theorem particleType_fails_iff {v : PHPValue} :
    (∃ p, v.particleType = .error p) ↔ v = .infinity ∨ v = .wildcard := by
  cases v with
  | infinity => exact iff_of_true ⟨_, rfl⟩ (.inl rfl)
  | wildcard => exact iff_of_true ⟨_, rfl⟩ (.inr rfl)
  | _ => simp [PHPValue.particleType]

theorem Filter.of_fails_iff {binName : String} {cit : IndexCollectionType} {value : PHPValue}
    {first last : Arg} {ctx : Option (List CDTContext)} :
    (∃ p, Filter.of binName cit value first last ctx = .error p) ↔
      value = .infinity ∨ value = .wildcard := by
  rw [← particleType_fails_iff]
  unfold Filter.of
  cases value.particleType with
  | error p => exact iff_of_true ⟨p, rfl⟩ ⟨p, rfl⟩
  | ok n => simp

variable (text statements) in
theorem FilterArg.build_fails_iff (filter : FilterArg) :
    (∃ p, filter.build text statements = .error p) ↔ filter.Untyped := by
  cases filter with
  | null | of i => exact iff_of_false (by simp [FilterArg.build]) id
  | made call =>
    have hmap : (∃ p, FilterArg.build text statements (.made call) = .error p) ↔
        ∃ p, call.build text = .error p := by
      rw [FilterArg.build]
      cases call.build text with
      | error p => exact iff_of_true ⟨p, rfl⟩ ⟨p, rfl⟩
      | ok f => simp [Except.map]
    rw [hmap]
    cases call with
    | _ => exact Filter.of_fails_iff.trans (by simp [FilterArg.Untyped, Filter.Call.typedValue])

theorem queryStep_fails_iff (action : QueryAction) :
    (∃ p, queryStep S text statements action = .error p) ↔ action.Untyped := by
  cases action with
  | construct ns setName filter binNames taskId | setFilter i filter =>
    refine Iff.trans ?_ (filter.build_fails_iff text statements)
    simp only [queryStep]
    cases filter.build text statements with
    | error p => exact iff_of_true ⟨p, rfl⟩ ⟨p, rfl⟩
    | ok f => simp
  | _ => exact iff_of_false (by simp [queryStep]) id

variable (S text) in
/-- **Main theorem.** A program aborts iff it makes a filter of an infinity or a wildcard. -/
theorem queries_abort_iff (actions : List QueryAction) :
    (∃ p, Run.run (queryStep S text) [] actions = .error p) ↔ ∃ a ∈ actions, a.Untyped :=
  Run.run_fails_iff _ (fun _ action => queryStep_fails_iff action) [] actions

end Programs

end AerospikePhp
