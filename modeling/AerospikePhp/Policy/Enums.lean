import AerospikePhp.Policy.Basic

/-!
# The enumerations of the policies

A message holds the number of an enumeration. A setter stores the number of the PHP
object, and a getter makes the object from the number, with a match that ends in
`unreachable!()` (`src/lib.rs` lines 1140–1660).

`Expiration` is written as a number of seconds, three of which are not durations.

Results:
* `ofNumber_number`, for each enumeration: a number is read as it was written.
* `Expiration.ofUInt32_toUInt32`: so is an expiration, unless its seconds are one of the
  three numbers.
-/

namespace AerospikePhp

/-- `ReadModeAP`. -/
inductive ReadModeAP where
  | one
  | all
deriving DecidableEq

/-- `ReadModeSC`. -/
inductive ReadModeSC where
  | session
  | linearize
  | allowReplica
  | allowUnavailable
deriving DecidableEq

/-- `RecordExistsAction`. -/
inductive RecordExistsAction where
  | update
  | updateOnly
  | replace
  | replaceOnly
  | createOnly
deriving DecidableEq

/-- `GenerationPolicy`. -/
inductive GenerationPolicy where
  | none
  | expectGenEqual
  | expectGenGreater
deriving DecidableEq

/-- `CommitLevel`. -/
inductive CommitLevel where
  | commitAll
  | commitMaster
deriving DecidableEq

/-- `QueryDuration`. -/
inductive QueryDuration where
  | long
  | short
  | longRelaxAP
deriving DecidableEq

/-! ## Numbers -/

namespace ReadModeAP

def number : ReadModeAP → Int32
  | one => 0
  | all => 1

def ofNumber : Int32 → Except Panic ReadModeAP
  | 0 => .ok one
  | 1 => .ok all
  | _ => .error .unreachable

@[simp] theorem ofNumber_number (v : ReadModeAP) : ofNumber v.number = .ok v := by
  cases v with
  | _ => rfl

end ReadModeAP

namespace ReadModeSC

def number : ReadModeSC → Int32
  | session => 0
  | linearize => 1
  | allowReplica => 2
  | allowUnavailable => 3

def ofNumber : Int32 → Except Panic ReadModeSC
  | 0 => .ok session
  | 1 => .ok linearize
  | 2 => .ok allowReplica
  | 3 => .ok allowUnavailable
  | _ => .error .unreachable

@[simp] theorem ofNumber_number (v : ReadModeSC) : ofNumber v.number = .ok v := by
  cases v with
  | _ => rfl

end ReadModeSC

namespace RecordExistsAction

def number : RecordExistsAction → Int32
  | update => 0
  | updateOnly => 1
  | replace => 2
  | replaceOnly => 3
  | createOnly => 4

def ofNumber : Int32 → Except Panic RecordExistsAction
  | 0 => .ok update
  | 1 => .ok updateOnly
  | 2 => .ok replace
  | 3 => .ok replaceOnly
  | 4 => .ok createOnly
  | _ => .error .unreachable

@[simp] theorem ofNumber_number (v : RecordExistsAction) : ofNumber v.number = .ok v := by
  cases v with
  | _ => rfl

end RecordExistsAction

namespace GenerationPolicy

def number : GenerationPolicy → Int32
  | none => 0
  | expectGenEqual => 1
  | expectGenGreater => 2

def ofNumber : Int32 → Except Panic GenerationPolicy
  | 0 => .ok none
  | 1 => .ok expectGenEqual
  | 2 => .ok expectGenGreater
  | _ => .error .unreachable

@[simp] theorem ofNumber_number (v : GenerationPolicy) : ofNumber v.number = .ok v := by
  cases v with
  | _ => rfl

end GenerationPolicy

namespace CommitLevel

def number : CommitLevel → Int32
  | commitAll => 0
  | commitMaster => 1

def ofNumber : Int32 → Except Panic CommitLevel
  | 0 => .ok commitAll
  | 1 => .ok commitMaster
  | _ => .error .unreachable

@[simp] theorem ofNumber_number (v : CommitLevel) : ofNumber v.number = .ok v := by
  cases v with
  | _ => rfl

end CommitLevel

namespace QueryDuration

def number : QueryDuration → Int32
  | long => 0
  | short => 1
  | longRelaxAP => 2

/-- `impl From<i32> for QueryDuration` (`src/lib.rs` lines 1433–1442). -/
def ofNumber : Int32 → Except Panic QueryDuration
  | 0 => .ok long
  | 1 => .ok short
  | 2 => .ok longRelaxAP
  | _ => .error .unreachable

@[simp] theorem ofNumber_number (v : QueryDuration) : ofNumber v.number = .ok v := by
  cases v with
  | _ => rfl

end QueryDuration

/-! ## Expirations -/

/-- `NAMESPACE_DEFAULT` (`src/lib.rs` line 1598). -/
def namespaceDefault : UInt32 := 0x00000000

/-- `NEVER_EXPIRE` (line 1599). -/
def neverExpire : UInt32 := 0xFFFFFFFF

/-- `DONT_UPDATE` (line 1600). -/
def dontUpdate : UInt32 := 0xFFFFFFFE

/-- `Expiration` (lines 1602–1696). -/
inductive Expiration where
  | seconds (seconds : UInt32)
  | namespaceDefault
  | never
  | dontUpdate
deriving DecidableEq

namespace Expiration

/-- `impl From<&Expiration> for u32` (lines 1698–1707). -/
def toUInt32 : Expiration → UInt32
  | seconds secs => secs
  | namespaceDefault => AerospikePhp.namespaceDefault
  | never => neverExpire
  | dontUpdate => AerospikePhp.dontUpdate

/-- `impl From<u32> for Expiration` (lines 1709–1718), and the match of each
    `get_expiration`. -/
def ofUInt32 (exp : UInt32) : Expiration :=
  if exp = AerospikePhp.namespaceDefault then namespaceDefault
  else if exp = neverExpire then never
  else if exp = AerospikePhp.dontUpdate then dontUpdate
  else seconds exp

/-- A number of seconds that stands for something else. -/
def Reserved (secs : UInt32) : Prop :=
  secs = AerospikePhp.namespaceDefault ∨ secs = neverExpire ∨ secs = AerospikePhp.dontUpdate

/-- Not a reserved number of seconds. -/
def Unreserved (e : Expiration) : Prop := ∀ secs, e = seconds secs → ¬ Reserved secs

theorem toUInt32_ofUInt32 (n : UInt32) : (ofUInt32 n).toUInt32 = n := by
  unfold ofUInt32
  split_ifs with hdefault hnever hupdate
  · exact hdefault.symm
  · exact hnever.symm
  · exact hupdate.symm
  · rfl

/-- A reserved number is not read as seconds. -/
theorem ofUInt32_eq_seconds {n secs : UInt32} (h : ofUInt32 n = seconds secs) :
    n = secs ∧ ¬ Reserved secs := by
  unfold ofUInt32 at h
  split_ifs at h with hdefault hnever hupdate
  cases h
  refine ⟨rfl, ?_⟩
  rintro (hsecs | hsecs | hsecs)
  · exact hdefault hsecs
  · exact hnever hsecs
  · exact hupdate hsecs

/-- An expiration is read as it was written iff it is not a reserved number of seconds. -/
theorem ofUInt32_toUInt32 (e : Expiration) : ofUInt32 e.toUInt32 = e ↔ e.Unreserved := by
  constructor
  · rintro h secs rfl
    exact (ofUInt32_eq_seconds h).2
  · intro h
    cases e with
    | seconds secs =>
      have hsecs := h secs rfl
      unfold toUInt32 ofUInt32
      rw [if_neg fun heq => hsecs (.inl heq), if_neg fun heq => hsecs (.inr (.inl heq)),
        if_neg fun heq => hsecs (.inr (.inr heq))]
    | namespaceDefault => rfl
    | never => rfl
    | dontUpdate => rfl

end Expiration

end AerospikePhp
