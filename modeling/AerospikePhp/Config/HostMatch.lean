import AerospikePhp.Config.Host
import AerospikePhp.Lib.Split

/-!
# What the host patterns match

The six patterns of `parseHostTLSPort` (`common/flags/host.go` lines 34–56) in two
shapes: a host in brackets, or a host without colons, and after it nothing, a port, or
a TLS name and a port.

Results:
* `Pattern.many_eq_some`: a repetition takes as much as leaves a match of the rest.
* `matchHost_eq_some`: a match is of the first shape, or of the second and no match of
  the first shape exists.
* `matchHost_of_plain`, `exists_matchHost_of_bracketed`: every text of the two shapes
  matches.
-/

namespace AerospikePhp.Config

namespace Pattern

/-! ## One pattern -/

section Combinators

variable {β : Type} {k : List Char → Option β} {p : Char → Bool}

theorem many_eq_none {s : List Char} :
    many p k s = none ↔ ∀ x y, s = x ++ y → (∀ c ∈ x, p c) → k y = none := by
  induction s with
  | nil =>
    simp only [many, Option.map_eq_none_iff]
    constructor
    · intro h x y hxy _
      rw [(List.append_eq_nil_iff.1 hxy.symm).2]
      exact h
    · intro h
      exact h [] [] rfl (by simp)
  | cons c s ih =>
    have hhead : (if p c then many p k s else none) = none ↔ (p c → many p k s = none) := by
      split_ifs with hc
      · simp [hc]
      · simp [hc]
    rw [many]
    constructor
    · intro h x y hxy hx
      cases hm : (if p c then many p k s else none) with
      | some mb => simp [hm] at h
      | none =>
        simp only [hm, Option.map_eq_none_iff] at h
        cases x with
        | nil =>
          rw [List.nil_append] at hxy
          rw [← hxy]
          exact h
        | cons d x =>
          rw [List.cons_append, List.cons.injEq] at hxy
          obtain ⟨rfl, hxy⟩ := hxy
          exact ih.1 (hhead.1 hm (hx c (by simp))) x y hxy fun e he => hx e (by simp [he])
    · intro h
      have hm : (if p c then many p k s else none) = none := by
        rw [hhead]
        intro hc
        refine ih.2 fun x y hxy hx => h (c :: x) y (by rw [hxy, List.cons_append]) ?_
        intro e he
        rcases List.mem_cons.1 he with rfl | he
        · exact hc
        · exact hx e he
      simp only [hm, Option.map_eq_none_iff]
      exact h [] (c :: s) rfl (by simp)

/-- The longest match. -/
theorem many_eq_some {s m : List Char} {b : β} :
    many p k s = some (m, b) ↔
      ∃ r, s = m ++ r ∧ (∀ c ∈ m, p c) ∧ k r = some b ∧
        ∀ x y, r = x ++ y → x ≠ [] → (∀ c ∈ x, p c) → k y = none := by
  induction s generalizing m b with
  | nil =>
    simp only [many, Option.map_eq_some_iff, Prod.mk.injEq]
    constructor
    · rintro ⟨b', hb, rfl, rfl⟩
      refine ⟨[], rfl, by simp, hb, ?_⟩
      intro x y hxy hx
      exact absurd (List.append_eq_nil_iff.1 hxy.symm).1 hx
    · rintro ⟨r, hs, -, hb, -⟩
      obtain ⟨rfl, rfl⟩ := List.append_eq_nil_iff.1 hs.symm
      exact ⟨b, hb, rfl, rfl⟩
  | cons c s ih =>
    rw [many]
    cases hm : (if p c then many p k s else none) with
    | some mb =>
      obtain ⟨m', b'⟩ := mb
      have hc : p c = true := by
        by_contra hc
        simp [hc] at hm
      rw [if_pos hc] at hm
      simp only [Option.some.injEq, Prod.mk.injEq]
      constructor
      · rintro ⟨rfl, rfl⟩
        obtain ⟨r, rfl, hm', hb, hlast⟩ := ih.1 hm
        refine ⟨r, by simp, ?_, hb, hlast⟩
        intro e he
        rcases List.mem_cons.1 he with rfl | he
        · exact hc
        · exact hm' e he
      · rintro ⟨r, hs, hall, hb, hlast⟩
        cases m with
        | nil =>
          -- the shorter match is excluded by the longer one that `hm` gives
          obtain ⟨r', rfl, hm', hb', -⟩ := ih.1 hm
          have hnone := hlast (c :: m') r' (by rw [← List.nil_append r, ← hs, List.cons_append])
            (by simp) (by simpa [hc] using hm')
          rw [hnone] at hb'
          cases hb'
        | cons d m =>
          rw [List.cons_append, List.cons.injEq] at hs
          obtain ⟨rfl, rfl⟩ := hs
          have hsome := ih.2 ⟨r, rfl, fun e he => hall e (by simp [he]), hb, hlast⟩
          rw [hm] at hsome
          cases hsome
          exact ⟨rfl, rfl⟩
    | none =>
      simp only [Option.map_eq_some_iff, Prod.mk.injEq]
      constructor
      · rintro ⟨b', hb, rfl, rfl⟩
        refine ⟨c :: s, rfl, by simp, hb, ?_⟩
        intro x y hxy hx hall
        cases x with
        | nil => exact absurd rfl hx
        | cons d x =>
          rw [List.cons_append, List.cons.injEq] at hxy
          obtain ⟨rfl, hxy⟩ := hxy
          rw [if_pos (hall c (by simp))] at hm
          exact many_eq_none.1 hm x y hxy fun e he => hall e (by simp [he])
      · rintro ⟨r, hs, hall, hb, -⟩
        cases m with
        | nil =>
          rw [List.nil_append] at hs
          exact ⟨b, hs ▸ hb, rfl, rfl⟩
        | cons d m =>
          rw [List.cons_append, List.cons.injEq] at hs
          obtain ⟨rfl, hs⟩ := hs
          rw [if_pos (hall c (by simp))] at hm
          have hnone := many_eq_none.1 hm m r hs fun e he => hall e (by simp [he])
          rw [hnone] at hb
          cases hb

theorem char_eq_some {c : Char} {s : List Char} {b : β} :
    char c k s = some b ↔ ∃ s', s = c :: s' ∧ k s' = some b := by
  cases s with
  | nil => simp [char]
  | cons d s =>
    rw [char]
    split_ifs with h
    · simp [h]
    · simp [h]

theorem char_eq_none_of_ne {c d : Char} (h : d ≠ c) (s : List Char) :
    char c k (d :: s) = none := by
  rw [char, if_neg h]

theorem char_cons (c : Char) (s : List Char) : char c k (c :: s) = k s := by
  rw [char, if_pos rfl]

end Combinators

theorem done_eq_some {s : List Char} {u : Unit} : done s = some u ↔ s = [] := by
  cases s with
  | nil => simp [done]
  | cons c s => simp [done]

theorem dot_iff {m : List Char} : (∀ c ∈ m, dot c) ↔ '\n' ∉ m := by
  simp only [dot, decide_eq_true_eq]
  constructor
  · intro h hmem
    exact h '\n' hmem rfl
  · rintro h c hc rfl
    exact h hc

theorem noColon_iff {m : List Char} : (∀ c ∈ m, noColon c) ↔ ':' ∉ m := by
  simp only [noColon, decide_eq_true_eq]
  constructor
  · intro h hmem
    exact h ':' hmem rfl
  · rintro h c hc rfl
    exact h hc

/-- The text of a port. -/
def IsPort (p : List Char) : Prop := p ≠ [] ∧ ∀ c ∈ p, c.isDigit

theorem port_eq_some {s p : List Char} : port s = some p ↔ s = p ∧ IsPort p := by
  simp only [port, IsPort, List.all_eq_true]
  split_ifs with h
  · rw [Option.some.injEq]
    constructor
    · rintro rfl
      exact ⟨rfl, h⟩
    · exact fun hs => hs.1
  · constructor
    · intro hs
      cases hs
    · rintro ⟨rfl, hp⟩
      exact absurd hp h

theorem IsPort.not_mem {p : List Char} (h : IsPort p) {c : Char} (hc : c.isDigit = false) :
    c ∉ p := by
  intro hmem
  have hdigit := h.2 c hmem
  rw [hc] at hdigit
  cases hdigit

theorem IsPort.not_colon {p : List Char} (h : IsPort p) : ':' ∉ p := h.not_mem (by decide)

/-! ## The patterns of the host -/

theorem colonPort_eq_some {s p : List Char} :
    char ':' port s = some p ↔ s = ':' :: p ∧ IsPort p := by
  rw [char_eq_some]
  constructor
  · rintro ⟨s', rfl, hs⟩
    obtain ⟨rfl, hp⟩ := port_eq_some.1 hs
    exact ⟨rfl, hp⟩
  · rintro ⟨rfl, hp⟩
    exact ⟨p, rfl, port_eq_some.2 ⟨rfl, hp⟩⟩

theorem namePort_eq_some {s t p : List Char} :
    namePort s = some (t, p) ↔ s = ':' :: (t ++ ':' :: p) ∧ '\n' ∉ t ∧ IsPort p := by
  rw [namePort, char_eq_some]
  constructor
  · rintro ⟨s', rfl, hs⟩
    obtain ⟨r, rfl, ht, hr, -⟩ := many_eq_some.1 hs
    obtain ⟨rfl, hp⟩ := colonPort_eq_some.1 hr
    exact ⟨rfl, dot_iff.1 ht, hp⟩
  · rintro ⟨rfl, ht, hp⟩
    refine ⟨_, rfl, many_eq_some.2 ⟨_, rfl, dot_iff.2 ht, colonPort_eq_some.2 ⟨rfl, hp⟩, ?_⟩⟩
    -- a longer name would leave no colon
    intro x y hxy hx _
    rw [Option.eq_none_iff_forall_ne_some]
    intro p' hp'
    obtain ⟨rfl, -⟩ := colonPort_eq_some.1 hp'
    cases x with
    | nil => exact hx rfl
    | cons c x =>
      rw [List.cons_append, List.cons.injEq] at hxy
      exact hp.not_colon (hxy.2 ▸ by simp)

section Hosts

variable {β : Type} {k : List Char → Option β}

/-- The host in brackets ends at the last bracket that leaves a match of the rest. -/
theorem ipv6_eq_some {s h : List Char} {b : β} :
    ipv6 k s = some (h, b) ↔
      ∃ r, s = '[' :: (h ++ ']' :: r) ∧ '\n' ∉ h ∧ k r = some b ∧
        ∀ x y, r = x ++ ']' :: y → '\n' ∉ x → k y = none := by
  rw [ipv6, char_eq_some]
  constructor
  · rintro ⟨s', rfl, hs⟩
    obtain ⟨r, rfl, hh, hr, hlast⟩ := many_eq_some.1 hs
    obtain ⟨r, rfl, hb⟩ := char_eq_some.1 hr
    refine ⟨r, rfl, dot_iff.1 hh, hb, ?_⟩
    intro x y hxy hx
    have hnone := hlast (']' :: x) (']' :: y) (by rw [hxy, List.cons_append]) (by simp)
      (dot_iff.2 (by simpa using hx))
    rw [char_cons] at hnone
    exact hnone
  · rintro ⟨r, rfl, hh, hb, hlast⟩
    refine ⟨_, rfl, many_eq_some.2 ⟨_, rfl, dot_iff.2 hh, char_eq_some.2 ⟨r, rfl, hb⟩, ?_⟩⟩
    intro x y hxy hx hdot
    cases x with
    | nil => exact absurd rfl hx
    | cons c x =>
      rw [List.cons_append, List.cons.injEq] at hxy
      cases y with
      | nil => rfl
      | cons d y =>
        by_cases hd : d = ']'
        · subst hd
          rw [char_cons]
          refine hlast x y hxy.2 fun hmem => ?_
          exact dot_iff.1 hdot (List.mem_cons_of_mem c hmem)
        · exact char_eq_none_of_ne hd y

theorem ipv6_eq_none {s : List Char} :
    ipv6 k s = none ↔ ∀ h r, s = '[' :: (h ++ ']' :: r) → '\n' ∉ h → k r = none := by
  constructor
  · rintro hs h r rfl hh
    rw [ipv6, char_cons, many_eq_none] at hs
    have hnone := hs h (']' :: r) rfl (dot_iff.2 hh)
    rw [char_cons] at hnone
    exact hnone
  · intro hall
    rw [Option.eq_none_iff_forall_ne_some]
    rintro ⟨h, b⟩ hs
    obtain ⟨r, rfl, hh, hb, -⟩ := ipv6_eq_some.1 hs
    rw [hall h r rfl hh] at hb
    cases hb

/-- The host without brackets ends at the first colon. -/
theorem ipv4_eq_some (hk : ∀ c s, c ≠ ':' → k (c :: s) = none) {s h : List Char} {b : β} :
    ipv4 k s = some (h, b) ↔ ∃ r, s = h ++ r ∧ ':' ∉ h ∧ k r = some b := by
  rw [ipv4, many_eq_some]
  constructor
  · rintro ⟨r, rfl, hh, hb, -⟩
    exact ⟨r, rfl, noColon_iff.1 hh, hb⟩
  · rintro ⟨r, rfl, hh, hb⟩
    refine ⟨r, rfl, noColon_iff.2 hh, hb, ?_⟩
    intro x y hxy hx hcolon
    cases x with
    | nil => exact absurd rfl hx
    | cons c x =>
      -- the rest starts with the character after the host
      have hc : c ≠ ':' := by
        rintro rfl
        exact noColon_iff.1 hcolon (by simp)
      rw [hxy, List.cons_append, hk c (x ++ y) hc] at hb
      cases hb

end Hosts

/-! ## What follows the host -/

/-- What may follow a host, with the TLS name and the port in it. -/
inductive Rest : List Char → List Char → Option (List Char) → Prop
  | done : Rest [] [] none
  | port {p : List Char} (hp : IsPort p) : Rest (':' :: p) [] (some p)
  | namePort {t p : List Char} (ht : '\n' ∉ t) (hp : IsPort p) :
      Rest (':' :: (t ++ ':' :: p)) t (some p)

/-- A text whose host is in brackets. -/
def Bracketed (s : List Char) (m : HostMatch) : Prop :=
  ∃ r, s = '[' :: (m.host ++ ']' :: r) ∧ '\n' ∉ m.host ∧ Rest r m.tlsName m.port

/-- A text whose host has no colons. -/
def Plain (s : List Char) (m : HostMatch) : Prop :=
  ∃ r, s = m.host ++ r ∧ ':' ∉ m.host ∧ Rest r m.tlsName m.port

theorem Rest.cases {r t : List Char} {p : Option (List Char)} (h : Rest r t p) :
    (r = [] ∧ t = [] ∧ p = none) ∨
      ∃ q, p = some q ∧ IsPort q ∧ ((t = [] ∧ r = ':' :: q) ∨ r = ':' :: (t ++ ':' :: q)) := by
  cases h with
  | done => exact .inl ⟨rfl, rfl, rfl⟩
  | port hp => exact .inr ⟨_, rfl, hp, .inl ⟨rfl, rfl⟩⟩
  | namePort ht hp => exact .inr ⟨_, rfl, hp, .inr rfl⟩

theorem Rest.head {r t : List Char} {p : Option (List Char)} (h : Rest r t p) :
    r = [] ∨ ∃ r', r = ':' :: r' := by
  obtain ⟨rfl, -⟩ | ⟨q, -, -, ⟨-, rfl⟩ | rfl⟩ := h.cases
  · exact .inl rfl
  · exact .inr ⟨_, rfl⟩
  · exact .inr ⟨_, rfl⟩

/-- The port of a text is what stands after its last colon. -/
theorem IsPort.last_unique {u u' q q' : List Char} (hq : IsPort q) (hq' : IsPort q')
    (h : u ++ ':' :: q = u' ++ ':' :: q') : u = u' ∧ q = q' := by
  have hlast := Split.append_cons_inj_last (p := (· = ':'))
    (fun c hc e => hq.not_colon (e ▸ hc)) (fun c hc e => hq'.not_colon (e ▸ hc)) rfl rfl h
  exact ⟨hlast.1, hlast.2.2⟩

/-- A rest that has a port ends in it. -/
theorem Rest.port_eq {r t : List Char} {p : Option (List Char)} (h : Rest r t p) {u q : List Char}
    (hq : IsPort q) (hr : r = u ++ ':' :: q) : p = some q := by
  obtain ⟨rfl, -⟩ | ⟨q', rfl, hq', ⟨-, rfl⟩ | rfl⟩ := h.cases
  · simp at hr
  · rw [(hq'.last_unique hq (u := []) hr).2]
  · rw [(hq'.last_unique hq (u := ':' :: t) hr).2]

theorem Rest.not_lineBreak {r t : List Char} {p : Option (List Char)} (h : Rest r t p) :
    '\n' ∉ t := by
  cases h with
  | done => simp
  | port hp => simp
  | namePort ht hp => exact ht

/-- The name and the port can be read off a rest. -/
theorem Rest.unique {r t t' : List Char} {p p' : Option (List Char)} (h : Rest r t p)
    (h' : Rest r t' p') : t = t' ∧ p = p' := by
  obtain ⟨rfl, rfl, rfl⟩ | ⟨q, rfl, hq, hr⟩ := h.cases
  · obtain ⟨-, rfl, rfl⟩ | ⟨q', -, -, ⟨-, hr'⟩ | hr'⟩ := h'.cases
    · exact ⟨rfl, rfl⟩
    · cases hr'
    · cases hr'
  · have hp' : p' = some q := by
      obtain ⟨-, rfl⟩ | rfl := hr
      · exact h'.port_eq hq (u := []) rfl
      · exact h'.port_eq hq (u := ':' :: t) rfl
    refine ⟨?_, hp'.symm⟩
    subst hp'
    obtain ⟨-, -, hnone⟩ | ⟨q', hq', -, hr'⟩ := h'.cases
    · cases hnone
    · cases hq'
      obtain ⟨rfl, rfl⟩ | rfl := hr
      · obtain ⟨rfl, -⟩ | hr' := hr'
        · rfl
        · have hlength := congrArg List.length hr'
          simp at hlength
          omega
      · obtain ⟨rfl, hr'⟩ | hr' := hr'
        · have hlength := congrArg List.length hr'
          simp at hlength
          omega
        · simpa using hr'

/-- Where a text without colons ends, when nothing or a colon follows it. -/
theorem plain_unique {h h' r r' : List Char} (hh : ':' ∉ h) (hh' : ':' ∉ h')
    (hr : r = [] ∨ ∃ s, r = ':' :: s) (hr' : r' = [] ∨ ∃ s, r' = ':' :: s)
    (heq : h ++ r = h' ++ r') : h = h' ∧ r = r' := by
  obtain rfl | ⟨s, rfl⟩ := hr
  · obtain rfl | ⟨s', rfl⟩ := hr'
    · exact ⟨by simpa using heq, rfl⟩
    · rw [List.append_nil] at heq
      exact absurd (by simp [heq]) hh
  · obtain rfl | ⟨s', rfl⟩ := hr'
    · rw [List.append_nil] at heq
      exact absurd (by simp [← heq]) hh'
    · have hfirst := Split.append_cons_inj (p := (· = ':')) (fun c hc e => hh (e ▸ hc))
        (fun c hc e => hh' (e ▸ hc)) rfl rfl heq
      rw [hfirst.1, hfirst.2.2]
      exact ⟨rfl, rfl⟩

/-- A text without brackets is split in one way. -/
theorem Plain.unique {v : List Char} {m m' : HostMatch} (h : Plain v m) (h' : Plain v m') :
    m = m' := by
  obtain ⟨r, hv, hh, hr⟩ := h
  obtain ⟨r', hv', hh', hr'⟩ := h'
  obtain ⟨hhost, rfl⟩ := plain_unique hh hh' hr.head hr'.head (hv.symm.trans hv')
  obtain ⟨hname, hport⟩ := hr.unique hr'
  cases m
  cases m'
  simp only at hhost hname hport
  rw [hhost, hname, hport]

end Pattern

open Pattern

section Match

variable (host : {β : Type} → (List Char → Option β) → List Char → Option (List Char × β))

/-- A pattern of the host before each of the three patterns of what follows it. -/
def matchRests (v : List Char) : Option HostMatch :=
  ((host namePort v).map fun m => { host := m.1, tlsName := m.2.1, port := some m.2.2 }) <|>
  ((host (char ':' port) v).map fun m => { host := m.1, port := some m.2 }) <|>
  ((host done v).map fun m => { host := m.1 })

variable {host} {S : List Char → List Char → List Char → Prop}

/-- A match of the three patterns, when a match of the host alone is known to split the
    text as `S` says. -/
theorem matchRests_sound
    (sound : ∀ {β : Type} {k : List Char → Option β} {v h : List Char} {b : β},
      (∀ c s, c ≠ ':' → k (c :: s) = none) → host k v = some (h, b) →
        ∃ r, S v h r ∧ k r = some b)
    {v : List Char} {m : HostMatch} (h : matchRests host v = some m) :
    ∃ r, S v m.host r ∧ Rest r m.tlsName m.port := by
  simp only [matchRests, Option.orElse_eq_orElse, Option.orElse_eq_or, Option.or_eq_some_iff,
    Option.map_eq_some_iff] at h
  obtain ⟨⟨h, t, p⟩, hm, rfl⟩ | ⟨-, ⟨⟨h, p⟩, hm, rfl⟩ | ⟨-, ⟨h, u⟩, hm, rfl⟩⟩ := h
  · obtain ⟨r, hs, hr⟩ := sound (fun c s hc => char_eq_none_of_ne hc s) hm
    obtain ⟨rfl, ht, hp⟩ := namePort_eq_some.1 hr
    exact ⟨_, hs, .namePort ht hp⟩
  · obtain ⟨r, hs, hr⟩ := sound (fun c s hc => char_eq_none_of_ne hc s) hm
    obtain ⟨rfl, hp⟩ := colonPort_eq_some.1 hr
    exact ⟨_, hs, .port hp⟩
  · obtain ⟨r, hs, hr⟩ := sound (fun c s _ => rfl) hm
    obtain rfl := done_eq_some.1 hr
    exact ⟨_, hs, .done⟩

/-- The three patterns match whenever the host can be split off so that one of them
    matches the rest. -/
theorem exists_matchRests
    (complete : ∀ {β : Type} {k : List Char → Option β} {v h r : List Char} {b : β},
      S v h r → k r = some b → host k v ≠ none)
    {v h r t : List Char} {p : Option (List Char)} (hs : S v h r) (hr : Rest r t p) :
    ∃ m, matchRests host v = some m := by
  rw [← Option.isSome_iff_exists]
  simp only [matchRests, Option.orElse_eq_orElse, Option.orElse_eq_or, Option.isSome_or,
    Option.isSome_map, Bool.or_eq_true]
  cases hr with
  | namePort ht hp =>
    have hm := complete hs (namePort_eq_some.2 ⟨rfl, ht, hp⟩)
    exact .inl (Option.isSome_iff_ne_none.2 hm)
  | port hp =>
    have hm := complete hs (colonPort_eq_some.2 ⟨rfl, hp⟩)
    exact .inr (.inl (Option.isSome_iff_ne_none.2 hm))
  | done =>
    have hm := complete hs (done_eq_some (u := ()).2 rfl)
    exact .inr (.inr (Option.isSome_iff_ne_none.2 hm))

end Match

/-! ## The six patterns -/

theorem matchHost_eq (v : List Char) :
    matchHost v = (matchRests ipv6 v).or (matchRests ipv4 v) := by
  simp [matchHost, matchRests, Option.or_assoc]

theorem bracketed_of_matchRests {v : List Char} {m : HostMatch}
    (h : matchRests ipv6 v = some m) : Bracketed v m := by
  obtain ⟨r, ⟨hv, hh⟩, hr⟩ := matchRests_sound
    (S := fun v h r => v = '[' :: (h ++ ']' :: r) ∧ '\n' ∉ h) (fun _ hm => by
      obtain ⟨r, hv, hh, hb, -⟩ := ipv6_eq_some.1 hm
      exact ⟨r, ⟨hv, hh⟩, hb⟩) h
  exact ⟨r, hv, hh, hr⟩

theorem plain_of_matchRests {v : List Char} {m : HostMatch} (h : matchRests ipv4 v = some m) :
    Plain v m := by
  obtain ⟨r, ⟨hv, hh⟩, hr⟩ := matchRests_sound
    (S := fun v h r => v = h ++ r ∧ ':' ∉ h) (fun hk hm => by
      obtain ⟨r, hv, hh, hb⟩ := (ipv4_eq_some hk).1 hm
      exact ⟨r, ⟨hv, hh⟩, hb⟩) h
  exact ⟨r, hv, hh, hr⟩

theorem exists_matchRests_of_bracketed {v : List Char} {m : HostMatch} (h : Bracketed v m) :
    ∃ m', matchRests ipv6 v = some m' := by
  obtain ⟨r, hv, hh, hr⟩ := h
  refine exists_matchRests (S := fun v h r => v = '[' :: (h ++ ']' :: r) ∧ '\n' ∉ h) ?_
    ⟨hv, hh⟩ hr
  rintro β k v h r b ⟨hv, hh⟩ hb hnone
  rw [ipv6_eq_none.1 hnone h r hv hh] at hb
  cases hb

/-- A match of `parseHostTLSPort`: a host in brackets if there is one. -/
theorem matchHost_eq_some {v : List Char} {m : HostMatch} (h : matchHost v = some m) :
    Bracketed v m ∨ Plain v m := by
  rw [matchHost_eq, Option.or_eq_some_iff] at h
  obtain hm | ⟨-, hm⟩ := h
  · exact .inl (bracketed_of_matchRests hm)
  · exact .inr (plain_of_matchRests hm)

theorem exists_matchHost_of_bracketed {v : List Char} {m : HostMatch} (h : Bracketed v m) :
    ∃ m', matchHost v = some m' ∧ Bracketed v m' := by
  obtain ⟨m', hm'⟩ := exists_matchRests_of_bracketed h
  exact ⟨m', by rw [matchHost_eq, hm', Option.some_or], bracketed_of_matchRests hm'⟩

theorem matchHost_of_plain {v : List Char} {m : HostMatch} (h : Plain v m)
    (hnot : ∀ m', ¬ Bracketed v m') : matchHost v = some m := by
  have hbracketed : matchRests ipv6 v = none := by
    rw [Option.eq_none_iff_forall_ne_some]
    intro m' hm'
    exact hnot m' (bracketed_of_matchRests hm')
  obtain ⟨m', hm'⟩ : ∃ m', matchRests ipv4 v = some m' := by
    obtain ⟨r, hv, hh, hr⟩ := h
    refine exists_matchRests (S := fun v h r => v = h ++ r ∧ ':' ∉ h) ?_ ⟨hv, hh⟩ hr
    rintro β k v h r b ⟨rfl, hh⟩ hb hnone
    rw [ipv4, many_eq_none] at hnone
    rw [hnone h r rfl (noColon_iff.2 hh)] at hb
    cases hb
  rw [matchHost_eq, hbracketed, Option.none_or, hm', (plain_of_matchRests hm').unique h]

theorem exists_matchHost {v : List Char} {m : HostMatch} (h : Bracketed v m ∨ Plain v m) :
    ∃ m', matchHost v = some m' := by
  by_cases hb : ∃ m', Bracketed v m'
  · obtain ⟨m', hm'⟩ := hb
    obtain ⟨m'', hm'', -⟩ := exists_matchHost_of_bracketed hm'
    exact ⟨m'', hm''⟩
  · obtain hm | hm := h
    · exact absurd ⟨m, hm⟩ hb
    · exact ⟨m, matchHost_of_plain hm fun m' hm' => hb ⟨m', hm'⟩⟩

/-- A matched text ends in what follows its host. -/
theorem rest_of_match {v : List Char} {m : HostMatch} (h : Bracketed v m ∨ Plain v m) :
    ∃ x r, v = x ++ r ∧ Rest r m.tlsName m.port := by
  obtain ⟨r, hr, -, hrest⟩ | ⟨r, hr, -, hrest⟩ := h
  · exact ⟨'[' :: (m.host ++ [']']), r, by simp [hr], hrest⟩
  · exact ⟨m.host, r, hr, hrest⟩

/-- A TLS name stands before a port only. -/
theorem exists_port_of_name {v : List Char} {m : HostMatch} (h : Bracketed v m ∨ Plain v m)
    (hname : m.tlsName ≠ []) : ∃ p, m.port = some p := by
  obtain ⟨x, r, -, hrest⟩ := rest_of_match h
  obtain ⟨-, hnil, -⟩ | ⟨q, hq, -⟩ := hrest.cases
  · exact absurd hnil hname
  · exact ⟨q, hq⟩

/-- A text that is matched with a port ends in it. -/
theorem text_of_port {v p : List Char} {m : HostMatch} (h : Bracketed v m ∨ Plain v m)
    (hp : m.port = some p) : IsPort p ∧ ∃ u, v = u ++ ':' :: p := by
  obtain ⟨x, r, hx, hrest⟩ := rest_of_match h
  obtain ⟨-, -, hnone⟩ | ⟨q, hq, hqport, hr⟩ := hrest.cases
  · rw [hp] at hnone
    cases hnone
  · rw [hp] at hq
    cases hq
    obtain ⟨-, rfl⟩ | rfl := hr
    · exact ⟨hqport, x, hx⟩
    · exact ⟨hqport, x ++ ':' :: m.tlsName, by simp [hx]⟩

/-- A text that ends in a port does not end in a bracket. -/
theorem Pattern.IsPort.ne_bracket {u p y : List Char} (hp : IsPort p) :
    u ++ ':' :: p ≠ y ++ [']'] := by
  intro heq
  obtain ⟨p, c, rfl⟩ := (List.eq_nil_or_concat' p).resolve_left hp.1
  have hlast : (u ++ ':' :: p) ++ [c] = y ++ [']'] := by simpa using heq
  have hc : c = ']' := List.singleton_inj.1 (List.append_inj_right' hlast rfl)
  exact hp.not_mem (c := ']') (by decide) (by simp [hc])

/-- A text that ends in a colon and digits is matched with these digits as its port. -/
theorem port_of_match {v u p : List Char} {m : HostMatch} (h : Bracketed v m ∨ Plain v m)
    (hp : IsPort p) (hv : v = u ++ ':' :: p) : m.port = some p := by
  have hend {x r : List Char} (hx : v = x ++ r) (hrest : Rest r m.tlsName m.port)
      (hnil : v ≠ x) : m.port = some p := by
    obtain ⟨rfl, -⟩ | ⟨q, hq, hqport, hr⟩ := hrest.cases
    · exact absurd (by simpa using hx) hnil
    · obtain ⟨y, hy⟩ : ∃ y, v = y ++ ':' :: q := by
        obtain ⟨-, rfl⟩ | rfl := hr
        · exact ⟨x, hx⟩
        · exact ⟨x ++ ':' :: m.tlsName, by simp [hx]⟩
      rw [hq, (hqport.last_unique hp (hy.symm.trans hv)).2]
  obtain ⟨r, hr, -, hrest⟩ | ⟨r, hr, hhost, hrest⟩ := h
  · refine hend (x := '[' :: (m.host ++ [']'])) (by simp [hr]) hrest ?_
    rw [hv, ← List.cons_append]
    exact hp.ne_bracket
  · refine hend hr hrest ?_
    intro heq
    exact hhost (by rw [← heq, hv]; simp)

end AerospikePhp.Config
