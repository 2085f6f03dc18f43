import AerospikePhp.Cdt.ListFaithful
import AerospikePhp.Cdt.MapFaithful

/-!
# The return type of a collection operation

A return type is a base type, and a flag that `Inverted` sets. The daemon takes
the number of a list's return type as it is, and looks the number of a map's up in
a switch over the enumeration (`toCdtMapReturnType`, `kvs.go` lines 929–962), in
which no number with the flag occurs.

Main result:
* `returnKept_iff`: the operation that is sent has the return type of the call iff
  the call is not an inverted one on a map.
-/

namespace AerospikePhp

/-! ## Return types of calls and operations -/

/-- The return types of the Go client's lists. -/
def Aero.listReturnType : ListReturnBase → Int32
  | .none => 0
  | .index => 1
  | .reverseIndex => 2
  | .rank => 3
  | .reverseRank => 4
  | .count => 5
  | .value => 7
  | .exists => 13

/-- A base type of the Go client, with the flag set or not. -/
def withInverted (inverted : Bool) (base : Int32) : Int32 :=
  if inverted then base ||| invertedFlag else base

/-- The optional return type of a constructor that takes one. -/
def MapCall.returnType? : MapCall → Option (Option MapReturnType)
  | removeByKeys _ rt | removeByKeyRange _ _ _ rt | removeByValues _ _ rt
  | removeByValueRange _ _ _ rt | removeByValueRelativeRankRange _ _ _ rt
  | removeByValueRelativeRankRangeCount _ _ _ _ rt | removeByIndex _ _ rt
  | removeByIndexRange _ _ rt | removeByIndexRangeCount _ _ _ rt | removeByRank _ _ rt
  | removeByRankRange _ _ rt | removeByRankRangeCount _ _ _ rt
  | removeByKeyRelativeIndexRange _ _ _ rt | removeByKeyRelativeIndexRangeCount _ _ _ _ rt
  | getByKeys _ _ rt | getByKeyRange _ _ _ rt | getByKeyRelativeIndexRange _ _ _ rt
  | getByKeyRelativeIndexRangeCount _ _ _ _ rt | getByValues _ _ rt | getByValueRange _ _ _ rt
  | getByValueRelativeRankRange _ _ _ rt | getByValueRelativeRankRangeCount _ _ _ _ rt
  | getByIndex _ _ rt | getByIndexRange _ _ _ rt | getByIndexRangeCount _ _ _ _ rt
  | getByRank _ _ rt | getByRankRange _ _ _ rt | getByRankRangeCount _ _ _ _ rt => some rt
  | create _ _ | setPolicy _ | size | put _ _ | increment _ _ _ | decrement _ _ _ | clear => none

/-- The optional return type of a constructor that takes one. -/
def ListCall.returnType? : ListCall → Option (Option ListReturnType)
  | removeValues _ rt | removeByValueRange _ _ rt | removeByValueRelativeRankRange _ _ rt
  | removeByValueRelativeRankRangeCount _ _ _ rt | removeByIndex _ rt | removeByIndexRange _ rt
  | removeByIndexRangeCount _ _ rt | removeByRank _ rt | removeByRankRange _ rt
  | removeByRankRangeCount _ _ rt | getByValues _ rt | getByValueRange _ _ rt
  | getByIndex _ rt | getByIndexRange _ rt | getByIndexRangeCount _ _ rt | getByRank _ rt
  | getByRankRange _ rt | getByRankRangeCount _ _ rt | getByValueRelativeRankRange _ _ rt
  | getByValueRelativeRankRangeCount _ _ _ rt => some rt
  | create _ _ _ | setOrder _ | sort _ | append _ _ | insert _ _ _ | pop _ | popRange _ _
  | popRangeFrom _ | removeRange _ _ | removeRangeFrom _ | set _ _ | trim _ _ | clear
  | increment _ _ | size => none

def Aero.MapCommand.returnType? : Aero.MapCommand → Option Int32
  | remove _ rt | get _ rt => some rt
  | _ => none

def Aero.ListCommand.returnType? : Aero.ListCommand → Option Int32
  | remove _ rt | get _ rt => some rt
  | _ => none

/-- The return type that the program asks for; without an argument, keys and
    values. -/
def mapAsked (rt : Option MapReturnType) : Int32 :=
  let rt := rt.getD (.base .keyValue)
  withInverted rt.isInverted (Aero.mapReturnType rt.baseType)

/-- The return type that the program asks for; without an argument, values. -/
def listAsked (rt : Option ListReturnType) : Int32 :=
  let rt := rt.getD (.base .value)
  withInverted rt.isInverted (Aero.listReturnType rt.baseType)

/-! ## Return types that are sent -/

theorem number_eq_listReturnType (b : ListReturnBase) : b.number = Aero.listReturnType b := by
  cases b with
  | _ => rfl

theorem sentReturn_list (rt : Option ListReturnType) : ListCall.sentReturn rt = listAsked rt := by
  cases rt with
  | none => rfl
  | some rt =>
    simp only [ListCall.sentReturn, Option.map_some, Option.getD_some, listAsked, withInverted,
      rt.number_eq, number_eq_listReturnType]

/-- The switch has a case for every base type. -/
theorem toCdtMapReturnType_base (b : MapReturnBase) :
    toCdtMapReturnType (some b.number) = Aero.mapReturnType b := by
  cases b with
  | _ => decide

/-- The switch has no case for a number with the flag. -/
theorem toCdtMapReturnType_inverted (b : MapReturnBase) :
    toCdtMapReturnType (some (b.number ||| invertedFlag)) = 0 := by
  cases b with
  | _ => decide

theorem withInverted_ne_zero (b : MapReturnBase) :
    withInverted true (Aero.mapReturnType b) ≠ 0 := by
  cases b with
  | _ => decide

theorem sentReturn_map (rt : Option MapReturnType) :
    MapCall.sentReturn rt = mapAsked rt ↔ rt.any ReturnTypeCall.isInverted = false := by
  cases rt with
  | none => exact iff_of_true rfl rfl
  | some rt =>
    simp only [MapCall.sentReturn, MapOp.returnNumber, Option.map_some, Option.some_or, mapAsked,
      Option.getD_some, rt.number_eq, Option.any_some]
    cases rt.isInverted with
    | false =>
      refine iff_of_true ?_ rfl
      exact toCdtMapReturnType_base rt.baseType
    | true =>
      refine iff_of_false ?_ (by simp)
      rw [if_pos rfl, toCdtMapReturnType_inverted]
      exact (withInverted_ne_zero rt.baseType).symm

theorem MapCall.sent_returnType {call : MapCall} {rt : Option MapReturnType}
    (h : call.returnType? = some rt) :
    ∃ command, call.sent = .ok command ∧ command.returnType? = some (MapCall.sentReturn rt) := by
  cases call with
  | create | setPolicy | size | put | increment | decrement | clear => cases h
  | _ =>
    cases h
    exact ⟨_, rfl, rfl⟩

theorem MapCall.build_returnType {call : MapCall} {rt : Option MapReturnType}
    (h : call.returnType? = some rt) (binName : String) (ctx : Option (List CDTContext)) :
    ∃ msg, call.build binName ctx = some msg := by
  cases call with
  | create | setPolicy | size | put | increment | decrement | clear => cases h
  | _ => exact ⟨_, rfl⟩

theorem ListCall.sent_returnType {call : ListCall} {rt : Option ListReturnType}
    (h : call.returnType? = some rt) {command : Aero.ListCommand}
    (hsent : call.sent = .ok command) :
    command.returnType? = some (ListCall.sentReturn rt) := by
  cases call with
  | removeByValueRange begin stop rt' =>
    cases h
    simp only [sent] at hsent
    split at hsent
    · cases hsent
      rfl
    · cases hsent
  | getByValueRange begin stop rt' =>
    cases h
    cases stop with
    | none => cases hsent
    | some stop =>
      cases hsent
      rfl
  | create | setOrder | sort | append | insert | pop | popRange | popRangeFrom | removeRange
  | removeRangeFrom | set | trim | clear | increment | size => cases h
  | _ =>
    cases h
    cases hsent
    rfl

/-! ## Calls on collections -/

/-- A call of a constructor of `MapOp` or of `ListOp`. -/
inductive CollectionCall where
  | map (call : MapCall)
  | list (call : ListCall)

namespace CollectionCall

/-- Whenever the message of a call that takes a return type is translated, the
    operation has the return type that the program asks for. -/
def ReturnKept (binName : String) (ctx : Option (List CDTContext)) : CollectionCall → Prop
  | map call => ∀ rt msg op, call.returnType? = some rt → call.build binName ctx = some msg →
      toCdtMapOp (some msg) = .ok (some op) → op.command.returnType? = some (mapAsked rt)
  | list call => ∀ rt op, call.returnType? = some rt →
      toCdtListOp (some (call.build binName ctx)) = .ok (some op) →
      op.command.returnType? = some (listAsked rt)

/-- Is it a call on a map with an inverted return type? -/
def mapInverted : CollectionCall → Bool
  | map call => (call.returnType?.bind id).any ReturnTypeCall.isInverted
  | list _ => false

end CollectionCall

/-- The operation of a call on a map has the return type of the switch. -/
theorem mapReturnKept_iff (binName : String) (ctx : Option (List CDTContext)) {call : MapCall}
    {rt : Option MapReturnType} (hrt : call.returnType? = some rt) :
    (CollectionCall.map call).ReturnKept binName ctx ↔ MapCall.sentReturn rt = mapAsked rt := by
  obtain ⟨command, hsent, hcommand⟩ := MapCall.sent_returnType hrt
  constructor
  · intro hkept
    obtain ⟨msg, hbuild⟩ := MapCall.build_returnType hrt binName ctx
    have htranslated := toCdtMapOp_build hbuild
    rw [hsent] at htranslated
    have hop := hkept rt msg _ hrt hbuild htranslated
    rw [hcommand, Option.some.injEq] at hop
    exact hop
  · intro heq rt' msg op hrt' hbuild htranslated
    rw [hrt, Option.some.injEq] at hrt'
    subst hrt'
    rw [toCdtMapOp_build hbuild, hsent] at htranslated
    cases htranslated
    rw [hcommand, heq]

/-- **Main theorem.** The return type of a call is kept iff the call is not an
    inverted one on a map. -/
theorem returnKept_iff (binName : String) (ctx : Option (List CDTContext))
    (call : CollectionCall) : call.ReturnKept binName ctx ↔ call.mapInverted = false := by
  cases call with
  | map call =>
    rw [CollectionCall.mapInverted]
    cases hrt : call.returnType? with
    | none =>
      refine iff_of_true ?_ rfl
      intro rt msg op hrt'
      rw [hrt] at hrt'
      cases hrt'
    | some rt =>
      rw [mapReturnKept_iff binName ctx hrt, sentReturn_map, Option.bind_some, id]
  | list call =>
    refine iff_of_true ?_ rfl
    intro rt op hrt htranslated
    rw [toCdtListOp_build] at htranslated
    cases hsent : call.sent with
    | error p =>
      rw [hsent] at htranslated
      cases htranslated
    | ok command =>
      rw [hsent] at htranslated
      cases htranslated
      rw [ListCall.sent_returnType hrt hsent, sentReturn_list]

/-- Removing all keys but `"a"` and counting them is sent as removing `"a"` and
    returning nothing. -/
theorem inverted_remove_lost :
    toCdtMapOp (some (MapOp.removeByKeys "m" (some (.inverted (.base .count))) none
        [.string "a"])) = .ok (some ⟨"m", .remove (.key (.string "a")) 0, []⟩) ∧
      ¬ CollectionCall.ReturnKept "m" none
        (.map (.removeByKeys [.string "a"] (some (.inverted (.base .count))))) := by
  refine ⟨rfl, ?_⟩
  rw [mapReturnKept_iff "m" none rfl]
  decide

end AerospikePhp
