import AerospikePhp.Config.HostMatch
import AerospikePhp.Lib.Fallible
import AerospikePhp.Lib.Numeral

/-!
# How the port of a host is read

`parseHostTLSPort` converts the port by `strconv.ParseInt(match, 0, 0)`
(`common/flags/host.go` line 73), which takes the base from the digits.

Results:
* `parseInt_eq_ok`: the ports that are read, and their numbers.
* `parseInt_eq_decimal`: a port that is read as the decimal number it is.
* `parseInt_toDigits`: a number that was printed is read back.
-/

namespace AerospikePhp.Config

open Pattern

/-- The number that digits are in base ten. -/
def decimal (p : List Char) : ℕ := Nat.ofDigitChars 10 p 0

/-- The number that `ParseInt` takes the digits for. -/
def written : List Char → ℕ
  | '0' :: octal => Nat.ofDigitChars 8 octal 0
  | p => decimal p

/-- The digits that `ParseInt` reads: octal ones after a zero, and a number of 63 bits. -/
def Readable (p : List Char) : Prop :=
  (p.head? = some '0' → '8' ∉ p ∧ '9' ∉ p) ∧ written p < 2 ^ 63

/-! ## The loop of `ParseUint` -/

/-- The body of the loop. -/
def digitStep (base n : ℕ) (c : Char) : Except String ℕ :=
  let d := c.toNat - '0'.toNat
  if base ≤ d then .error "invalid syntax"
  else if 2 ^ 64 ≤ base * n + d then .error "value out of range"
  else .ok (base * n + d)

theorem digitsValue_eq_foldlM (base : ℕ) (ds : List Char) :
    digitsValue base ds = ds.foldlM (digitStep base) 0 := rfl

theorem digitStep_eq_ok {base n m : ℕ} {c : Char} :
    digitStep base n c = .ok m ↔
      c.toNat - '0'.toNat < base ∧ base * n + (c.toNat - '0'.toNat) < 2 ^ 64 ∧
        m = base * n + (c.toNat - '0'.toNat) := by
  simp only [digitStep]
  split_ifs with hdigit hrange
  · constructor
    · intro h
      cases h
    · exact fun h => absurd h.1 (Nat.not_lt.2 hdigit)
  · constructor
    · intro h
      cases h
    · exact fun h => absurd h.2.1 (Nat.not_lt.2 hrange)
  · rw [Except.ok.injEq]
    constructor
    · rintro rfl
      exact ⟨Nat.not_le.1 hdigit, Nat.not_le.1 hrange, rfl⟩
    · rintro ⟨-, -, rfl⟩
      rfl

/-- Along the loop the number only grows, so it is in range iff it is in range at the
    end. -/
theorem foldlM_digitStep_eq_ok {base n m : ℕ} {ds : List Char} (hbase : 0 < base)
    (hn : n < 2 ^ 64) :
    ds.foldlM (digitStep base) n = .ok m ↔
      (∀ c ∈ ds, c.toNat - '0'.toNat < base) ∧ Nat.ofDigitChars base ds n < 2 ^ 64 ∧
        m = Nat.ofDigitChars base ds n := by
  induction ds generalizing n with
  | nil =>
    rw [List.foldlM_nil, Nat.ofDigitChars_nil, Fallible.pure_eq_ok, Except.ok.injEq]
    constructor
    · rintro rfl
      exact ⟨by simp, hn, rfl⟩
    · exact fun h => h.2.2.symm
  | cons c ds ih =>
    rw [List.foldlM_cons, Nat.ofDigitChars_cons, Fallible.bind_eq_ok]
    constructor
    · rintro ⟨n', hstep, hrest⟩
      obtain ⟨hdigit, hrange, rfl⟩ := digitStep_eq_ok.1 hstep
      obtain ⟨hdigits, hvalue⟩ := (ih hrange).1 hrest
      refine ⟨?_, hvalue⟩
      intro e he
      rcases List.mem_cons.1 he with rfl | he
      · exact hdigit
      · exact hdigits e he
    · rintro ⟨hdigits, hvalue⟩
      have hrange := Nat.lt_of_le_of_lt (Numeral.le_ofDigitChars hbase) hvalue.1
      refine ⟨_, digitStep_eq_ok.2 ⟨hdigits c (by simp), hrange, rfl⟩, (ih hrange).2 ⟨?_, hvalue⟩⟩
      intro e he
      exact hdigits e (by simp [he])

theorem digitsValue_eq_ok {base m : ℕ} {ds : List Char} (hbase : 0 < base) :
    digitsValue base ds = .ok m ↔
      (∀ c ∈ ds, c.toNat - '0'.toNat < base) ∧ Nat.ofDigitChars base ds 0 < 2 ^ 64 ∧
        m = Nat.ofDigitChars base ds 0 := by
  rw [digitsValue_eq_foldlM, foldlM_digitStep_eq_ok hbase (by decide)]

/-! ## Ports -/

theorem isDigit_lt_ten {c : Char} (h : c.isDigit) : c.toNat - '0'.toNat < 10 := by
  simp only [Char.isDigit, Bool.and_eq_true, decide_eq_true_eq] at h
  have h9 : c.toNat ≤ '9'.toNat := h.2
  have hzero : '0'.toNat = 48 := rfl
  have hnine : '9'.toNat = 57 := rfl
  omega

/-- A digit that is octal. -/
theorem isDigit_lt_eight_iff {c : Char} (h : c.isDigit) :
    c.toNat - '0'.toNat < 8 ↔ c ≠ '8' ∧ c ≠ '9' := by
  have hten := isDigit_lt_ten h
  have height : c = '8' ↔ c.toNat = 56 := Char.toNat_inj.symm
  have hnine : c = '9' ↔ c.toNat = 57 := Char.toNat_inj.symm
  have hzero : '0'.toNat = 48 := rfl
  rw [Ne, Ne, height, hnine]
  omega

/-- The number of `ParseInt` before its range is checked. -/
def portValue : List Char → Except String ℕ
  | '0' :: octal => digitsValue 8 octal
  | p => digitsValue 10 p

/-- What `ParseInt` makes of that number. -/
def rangeChecked (p : List Char) : Except String ℕ → Except String Int64
  | .error err => .error ("strconv.ParseInt: parsing \"" ++ String.ofList p ++ "\": " ++ err)
  | .ok n =>
    if n < 2 ^ 63 then .ok (Int64.ofNat n)
    else .error ("strconv.ParseInt: parsing \"" ++ String.ofList p ++ "\": " ++
      "value out of range")

theorem parseInt_eq_ok_iff {p : List Char} {n : Int64} :
    parseInt p = .ok n ↔ ∃ m, portValue p = .ok m ∧ m < 2 ^ 63 ∧ n = Int64.ofNat m := by
  have hunfold : parseInt p = rangeChecked p (portValue p) := rfl
  rw [hunfold]
  cases portValue p with
  | error err => simp [rangeChecked]
  | ok m =>
    simp only [rangeChecked, Except.ok.injEq, exists_eq_left']
    split_ifs with hrange
    · simp only [Except.ok.injEq, hrange, true_and, eq_comm]
    · simp only [hrange, false_and]

theorem written_of_head {p : List Char} (h : p.head? ≠ some '0') : written p = decimal p := by
  unfold written
  split
  · exact absurd rfl h
  · rfl

theorem portValue_of_head {p : List Char} (h : p.head? ≠ some '0') :
    portValue p = digitsValue 10 p := by
  unfold portValue
  split
  · exact absurd rfl h
  · rfl

/-- The digits after a leading zero are octal iff all of them are. -/
theorem octal_iff {octal : List Char} (hp : IsPort ('0' :: octal)) :
    (∀ c ∈ octal, c.toNat - '0'.toNat < 8) ↔ '8' ∉ '0' :: octal ∧ '9' ∉ '0' :: octal := by
  have hdigit (c : Char) (hc : c ∈ octal) :
      c.toNat - '0'.toNat < 8 ↔ c ≠ '8' ∧ c ≠ '9' :=
    isDigit_lt_eight_iff (hp.2 c (List.mem_cons_of_mem _ hc))
  constructor
  · intro h
    constructor
    · intro hmem
      rcases List.mem_cons.1 hmem with heq | hmem
      · exact absurd heq (by decide)
      · exact ((hdigit _ hmem).1 (h _ hmem)).1 rfl
    · intro hmem
      rcases List.mem_cons.1 hmem with heq | hmem
      · exact absurd heq (by decide)
      · exact ((hdigit _ hmem).1 (h _ hmem)).2 rfl
  · rintro ⟨height, hnine⟩ c hc
    rw [hdigit c hc]
    constructor
    · rintro rfl
      exact height (List.mem_cons_of_mem _ hc)
    · rintro rfl
      exact hnine (List.mem_cons_of_mem _ hc)

theorem portValue_eq_ok {p : List Char} {m : ℕ} (hp : IsPort p) :
    portValue p = .ok m ↔
      (p.head? = some '0' → '8' ∉ p ∧ '9' ∉ p) ∧ written p < 2 ^ 64 ∧ m = written p := by
  by_cases hhead : p.head? = some '0'
  · obtain ⟨octal, rfl⟩ := List.head?_eq_some_iff.1 hhead
    rw [portValue, written, digitsValue_eq_ok (by decide), octal_iff hp]
    simp only [hhead, forall_const]
  · have hdigits : ∀ c ∈ p, c.toNat - '0'.toNat < 10 := fun c hc => isDigit_lt_ten (hp.2 c hc)
    rw [portValue_of_head hhead, written_of_head hhead, digitsValue_eq_ok (by decide)]
    constructor
    · rintro ⟨-, hrange, hm⟩
      exact ⟨fun h => absurd h hhead, hrange, hm⟩
    · rintro ⟨-, hrange, hm⟩
      exact ⟨hdigits, hrange, hm⟩

theorem parseInt_eq_ok {p : List Char} {n : Int64} (hp : IsPort p) :
    parseInt p = .ok n ↔ Readable p ∧ n = Int64.ofNat (written p) := by
  rw [parseInt_eq_ok_iff, Readable]
  constructor
  · rintro ⟨m, hm, hrange, rfl⟩
    obtain ⟨hoctal, -, rfl⟩ := (portValue_eq_ok hp).1 hm
    exact ⟨⟨hoctal, hrange⟩, rfl⟩
  · rintro ⟨⟨hoctal, hrange⟩, rfl⟩
    exact ⟨_, (portValue_eq_ok hp).2 ⟨hoctal, by omega, rfl⟩, hrange, rfl⟩

/-- A port below 65536 is read in base ten iff it has no leading zero or is below eight. -/
theorem parseInt_eq_decimal {p : List Char} (hp : IsPort p) (hrange : decimal p ≤ 65535) :
    parseInt p = .ok (Int64.ofNat (decimal p)) ↔ (p.head? = some '0' → decimal p < 8) := by
  rw [parseInt_eq_ok hp, Readable]
  by_cases hhead : p.head? = some '0'
  · obtain ⟨octal, rfl⟩ := List.head?_eq_some_iff.1 hhead
    have hdecimal : decimal ('0' :: octal) = Nat.ofDigitChars 10 octal 0 := by
      rw [decimal, Nat.ofDigitChars_cons]
      rfl
    have hle : written ('0' :: octal) ≤ decimal ('0' :: octal) := by
      rw [hdecimal, written]
      exact Numeral.ofDigitChars_mono (by decide) le_rfl
    have hbases : (_ ∧ Nat.ofDigitChars 8 octal 0 = Nat.ofDigitChars 10 octal 0) ↔ _ :=
      Numeral.ofDigitChars_eq_iff (by decide) (by decide)
    rw [octal_iff hp] at hbases
    simp only [hhead, forall_const]
    rw [hdecimal, ← hbases]
    constructor
    · rintro ⟨⟨hoctal, -⟩, heq⟩
      refine ⟨hoctal, ?_⟩
      have hnat := congrArg Int64.toInt heq
      rw [Int64.toInt_ofNat_of_lt (by omega), Int64.toInt_ofNat_of_lt (by omega)] at hnat
      exact (Int.ofNat.inj hnat).symm
    · rintro ⟨hoctal, heq⟩
      refine ⟨⟨hoctal, by omega⟩, ?_⟩
      rw [written, heq]
  · have hwritten : written p < 2 ^ 63 := by
      rw [written_of_head hhead]
      omega
    refine iff_of_true ⟨⟨fun h => absurd h hhead, hwritten⟩, ?_⟩ fun h => absurd h hhead
    rw [written_of_head hhead]

theorem isPort_toDigits (n : ℕ) : IsPort (Nat.toDigits 10 n) :=
  ⟨Nat.toDigits_ne_nil, fun _ hc => Nat.isDigit_of_mem_toDigits (by decide) (by decide) hc⟩

/-- A positive number is printed without a leading zero. -/
theorem parseInt_toDigits {n : ℕ} (hpos : 0 < n) (hrange : n < 2 ^ 63) :
    parseInt (Nat.toDigits 10 n) = .ok (Int64.ofNat n) := by
  have hhead : (Nat.toDigits 10 n).head? ≠ some '0' := Numeral.head?_toDigits_ne hpos
  have hwritten : written (Nat.toDigits 10 n) = n := by
    rw [written_of_head hhead, decimal, Nat.ofDigitChars_ten_toDigits]
  rw [parseInt_eq_ok (isPort_toDigits n), Readable, hwritten]
  exact ⟨⟨fun h => absurd h hhead, hrange⟩, rfl⟩

/-! ## One host -/

/-- The port of a match: zero when there is none. -/
def HostMatch.readPort (m : HostMatch) : Except String Int64 :=
  match m.port with
  | none => .ok 0
  | some port => parseInt port

theorem parseHostTLSPort_eq_ok {v : String} {h : HostTLSPort} :
    parseHostTLSPort v = .ok h ↔
      ∃ m, matchHost v.toList = some m ∧ m.readPort = .ok h.port ∧
        h.host = String.ofList m.host ∧ h.tlsName = String.ofList m.tlsName := by
  rw [parseHostTLSPort]
  obtain ⟨host, tlsName, port⟩ := h
  cases hm : matchHost v.toList with
  | none => simp
  | some m =>
    obtain ⟨mhost, mname, mport⟩ := m
    cases mport with
    | none =>
      constructor
      · intro heq
        cases heq
        exact ⟨_, rfl, rfl, rfl, rfl⟩
      · rintro ⟨m, hm', hport, rfl, rfl⟩
        cases hm'
        cases hport
        rfl
    | some p =>
      cases hp : parseInt p with
      | error err => simp [HostMatch.readPort, hp]
      | ok n =>
        constructor
        · intro heq
          simp only [hp] at heq
          cases heq
          exact ⟨_, rfl, hp, rfl, rfl⟩
        · rintro ⟨m, hm', hport, rfl, rfl⟩
          cases hm'
          cases hp.symm.trans hport
          simp only [hp]

end AerospikePhp.Config
