import AerospikePhp.Config.HostPort
import AerospikePhp.Lib.Split
import Mathlib.Data.List.TakeWhile

/-!
# The grammar of a host

The flag describes its hosts as `host[:tls-name][:port]` (`common/flags/host.go` line 152).
`HostSpec` is such a host, with the parts that it denotes; `parseHostTLSPort` (lines 34–95)
is compared with it.

A host without brackets does not begin with one. What counts as an IPv6 address is left
open.

Main result:
* `parseHostTLSPort_iff_readAsMeant`: the texts for which the parser and the grammar
  agree.
-/

namespace AerospikePhp.Config

open Pattern

/-! ## The grammar -/

/-- The texts that are taken to be IPv6 addresses: none is empty, and none has a bracket
    that closes or a line break. -/
structure IPv6Texts where
  isAddress : List Char → Prop
  ne_nil : ∀ {a}, isAddress a → a ≠ []
  not_bracket : ∀ {a}, isAddress a → ']' ∉ a
  not_lineBreak : ∀ {a}, isAddress a → '\n' ∉ a

/-- Every text that can be read back from its brackets. -/
instance : Inhabited IPv6Texts :=
  ⟨⟨fun a => a ≠ [] ∧ ']' ∉ a ∧ '\n' ∉ a, fun h => h.1, fun h => h.2.1, fun h => h.2.2⟩⟩

/-- A host: a name or an address without colons, or an address in brackets. -/
inductive HostText where
  | name (h : List Char)
  | address (a : List Char)

namespace HostText

def text : HostText → List Char
  | name h => h
  | address a => '[' :: (a ++ [']'])

/-- The host without its brackets. -/
def host : HostText → List Char
  | name h => h
  | address a => a

end HostText

/-- A host, its TLS name and its port. -/
structure HostSpec where
  host : HostText
  tlsName : Option (List Char) := none
  port : Option (List Char) := none

namespace HostSpec

/-- The host as it is written. -/
def text (spec : HostSpec) : List Char :=
  spec.host.text ++ (spec.tlsName.elim [] (':' :: ·) ++ spec.port.elim [] (':' :: ·))

/-- The parts of the host: an absent name is empty, an absent port zero, and a port is read
    in base ten. -/
def denoted (spec : HostSpec) : HostTLSPort where
  host := String.ofList spec.host.host
  tlsName := String.ofList (spec.tlsName.getD [])
  port := spec.port.elim 0 fun p => Int64.ofNat (decimal p)

end HostSpec

namespace IPv6Texts

variable (addresses : IPv6Texts)

/-- A host that the grammar allows. -/
def IsHost : HostText → Prop
  | .name h => h ≠ [] ∧ ':' ∉ h ∧ h.head? ≠ some '['
  | .address a => addresses.isAddress a

/-- A text of the grammar: the TLS name is not empty and not a number, the port is between 1
    and 65535. -/
structure WellFormed (spec : HostSpec) : Prop where
  host : addresses.IsHost spec.host
  tlsName : ∀ t ∈ spec.tlsName, t ≠ [] ∧ ':' ∉ t ∧ ∃ c ∈ t, c.isDigit = false
  port : ∀ p ∈ spec.port, IsPort p ∧ 1 ≤ decimal p ∧ decimal p ≤ 65535

/-- The text `v` is a host of the grammar with the parts `h`. -/
def Denotes (v : String) (h : HostTLSPort) : Prop :=
  ∃ spec, addresses.WellFormed spec ∧ v.toList = spec.text ∧ h = spec.denoted

end IPv6Texts

/-! ## Where the parser differs -/

/-- A host that the parser reads as the grammar does: a TLS name stands before a port and has
    no line break, and a port from eight on has no leading zero. -/
structure HostSpec.Supported (spec : HostSpec) : Prop where
  alone : spec.tlsName.isSome → spec.port.isSome
  lineBreak : ∀ t ∈ spec.tlsName, '\n' ∉ t
  zero : ∀ p ∈ spec.port, p.head? = some '0' → decimal p < 8

/-- A text that the parser accepts: one without colons, one in brackets, or one that ends in a
    colon and a port, without a line break after the first colon. -/
def Accepted (v : List Char) : Prop :=
  ':' ∉ v ∨ (∃ a, v = '[' :: (a ++ [']']) ∧ '\n' ∉ a) ∨
    ∃ u p, v = u ++ ':' :: p ∧ IsPort p ∧ Readable p ∧ '\n' ∉ u.dropWhile (· ≠ ':')

/-- The texts of the grammar are supported, and no other text is accepted. -/
structure IPv6Texts.ReadAsMeant (addresses : IPv6Texts) (v : String) : Prop where
  supported : ∀ spec, addresses.WellFormed spec → v.toList = spec.text → spec.Supported
  accepted : Accepted v.toList → ∃ h, addresses.Denotes v h

/-! ## What is accepted -/

theorem accepted_of_match {v : List Char} {m : HostMatch} (h : Bracketed v m ∨ Plain v m)
    {n : Int64} (hn : m.readPort = .ok n) : Accepted v := by
  have hreadable {q : List Char} (hq : IsPort q) (hport : m.port = some q) : Readable q := by
    rw [HostMatch.readPort, hport] at hn
    exact ((parseInt_eq_ok hq).1 hn).1
  obtain ⟨r, rfl, hhost, hrest⟩ | ⟨r, rfl, hhost, hrest⟩ := h
  · -- no part of a host in brackets has a line break
    have hname := hrest.not_lineBreak
    obtain ⟨rfl, -⟩ | ⟨q, hport, hq, ⟨-, rfl⟩ | rfl⟩ := hrest.cases
    · exact .inr (.inl ⟨m.host, rfl, hhost⟩)
    · refine .inr (.inr ⟨'[' :: (m.host ++ [']']), q, by simp, hq, hreadable hq hport, ?_⟩)
      intro hmem
      have hmem := (List.dropWhile_sublist _).subset hmem
      simp [hhost] at hmem
    · refine .inr (.inr ⟨'[' :: (m.host ++ ']' :: ':' :: m.tlsName), q, by simp, hq,
        hreadable hq hport, ?_⟩)
      intro hmem
      have hmem := (List.dropWhile_sublist _).subset hmem
      simp [hhost, hname] at hmem
  · have hname := hrest.not_lineBreak
    have hdrop (x : List Char) : (m.host ++ x).dropWhile (· ≠ ':') = x.dropWhile (· ≠ ':') := by
      refine List.dropWhile_append_of_pos fun c hc => ?_
      simp only [ne_eq, decide_eq_true_eq]
      rintro rfl
      exact hhost hc
    obtain ⟨rfl, -⟩ | ⟨q, hport, hq, ⟨-, rfl⟩ | rfl⟩ := hrest.cases
    · exact .inl (by simpa using hhost)
    · refine .inr (.inr ⟨m.host, q, rfl, hq, hreadable hq hport, ?_⟩)
      have hnil := hdrop []
      rw [List.append_nil] at hnil
      rw [hnil]
      simp
    · refine .inr (.inr ⟨m.host ++ ':' :: m.tlsName, q, by simp, hq, hreadable hq hport, ?_⟩)
      rw [hdrop]
      simpa using hname

/-- A text is split at its first colon. -/
theorem exists_plain {u p : List Char} (hp : IsPort p) (hu : '\n' ∉ u.dropWhile (· ≠ ':')) :
    ∃ m, Plain (u ++ ':' :: p) m := by
  have hhost : ':' ∉ u.takeWhile (· ≠ ':') := by
    intro hmem
    simpa using List.mem_takeWhile_imp hmem
  cases hw : u.dropWhile (· ≠ ':') with
  | nil =>
    have hsplit := List.takeWhile_append_dropWhile (p := (· ≠ ':')) (l := u)
    rw [hw, List.append_nil] at hsplit
    exact ⟨⟨u, [], some p⟩, _, rfl, hsplit ▸ hhost, .port hp⟩
  | cons c t =>
    obtain ⟨hc, hsplit⟩ := Split.of_dropWhile_eq_cons hw
    obtain rfl : c = ':' := by simpa using hc
    rw [hw] at hu
    refine ⟨⟨u.takeWhile (· ≠ ':'), t, some p⟩, ':' :: (t ++ ':' :: p), ?_, hhost, .namePort ?_ hp⟩
    · conv_lhs => rw [hsplit]
      simp
    · exact fun hmem => hu (List.mem_cons_of_mem _ hmem)

/-- The texts that the parser accepts. -/
theorem exists_parseHostTLSPort_iff {v : String} :
    (∃ h, parseHostTLSPort v = .ok h) ↔ Accepted v.toList := by
  constructor
  · rintro ⟨h, hv⟩
    obtain ⟨m, hm, hport, -⟩ := parseHostTLSPort_eq_ok.1 hv
    exact accepted_of_match (matchHost_eq_some hm) hport
  · intro hacc
    have hmatch : ∃ m, Bracketed v.toList m ∨ Plain v.toList m := by
      obtain hcolon | ⟨a, ha, hline⟩ | ⟨u, p, hv, hp, -, hline⟩ := hacc
      · exact ⟨⟨v.toList, [], none⟩, .inr ⟨[], by simp, hcolon, .done⟩⟩
      · exact ⟨⟨a, [], none⟩, .inl ⟨[], ha, hline, .done⟩⟩
      · obtain ⟨m, hm⟩ := exists_plain hp hline
        exact ⟨m, .inr (hv ▸ hm)⟩
    obtain ⟨m', hm'⟩ := hmatch
    obtain ⟨m, hm⟩ := exists_matchHost hm'
    have hshape := matchHost_eq_some hm
    have hport : ∃ n, m.readPort = .ok n := by
      rw [HostMatch.readPort]
      cases hq : m.port with
      | none => exact ⟨0, rfl⟩
      | some q =>
        obtain ⟨hqport, w, hw⟩ := text_of_port hshape hq
        obtain hcolon | ⟨a, ha, hline⟩ | ⟨u, p, hv, hp, hreadable, -⟩ := hacc
        · exact absurd (by simp [hw]) hcolon
        · exact absurd (hw.symm.trans ha) (by rw [← List.cons_append]; exact hqport.ne_bracket)
        · have hqp := port_of_match hshape hp hv
          rw [hq] at hqp
          cases hqp
          exact ⟨_, (parseInt_eq_ok hp).2 ⟨hreadable, rfl⟩⟩
    obtain ⟨n, hn⟩ := hport
    exact ⟨⟨String.ofList m.host, String.ofList m.tlsName, n⟩,
      parseHostTLSPort_eq_ok.2 ⟨m, hm, hn, rfl, rfl⟩⟩

/-! ## Texts of the grammar -/

/-- What follows the host of a supported text. -/
theorem HostSpec.Supported.rest {addresses : IPv6Texts} {spec : HostSpec} (hs : spec.Supported)
    (hw : addresses.WellFormed spec) :
    Rest (spec.tlsName.elim [] (':' :: ·) ++ spec.port.elim [] (':' :: ·))
      (spec.tlsName.getD []) spec.port := by
  rcases spec with ⟨host, _ | t, _ | p⟩
  · exact .done
  · exact .port (hw.port p rfl).1
  · exact absurd (hs.alone rfl) (by simp)
  · exact .namePort (hs.lineBreak t rfl) (hw.port p rfl).1

/-- A supported name is matched as a host without brackets. -/
theorem matchHost_name {addresses : IPv6Texts} {h : List Char} {tlsName port : Option (List Char)}
    (hw : addresses.WellFormed ⟨.name h, tlsName, port⟩)
    (hs : HostSpec.Supported ⟨.name h, tlsName, port⟩) :
    matchHost (HostSpec.text ⟨.name h, tlsName, port⟩) = some ⟨h, tlsName.getD [], port⟩ := by
  obtain ⟨hne, hcolon, hhead⟩ := hw.host
  refine matchHost_of_plain ⟨_, rfl, hcolon, hs.rest hw⟩ ?_
  rintro m ⟨r, hr, -⟩
  obtain ⟨c, h, rfl⟩ := List.exists_cons_of_ne_nil hne
  refine hhead ?_
  simp only [HostSpec.text, HostText.text, List.cons_append, List.cons.injEq] at hr
  rw [List.head?_cons, hr.1]

/-- A supported address is matched as a host in brackets. -/
theorem matchHost_address {addresses : IPv6Texts} {a : List Char} {tlsName port : Option (List Char)}
    (hw : addresses.WellFormed ⟨.address a, tlsName, port⟩)
    (hs : HostSpec.Supported ⟨.address a, tlsName, port⟩) :
    matchHost (HostSpec.text ⟨.address a, tlsName, port⟩) = some ⟨a, tlsName.getD [], port⟩ := by
  have hbracket := addresses.not_bracket hw.host
  have hline := addresses.not_lineBreak hw.host
  have hrest := hs.rest hw
  set r := tlsName.elim [] (':' :: ·) ++ port.elim [] (':' :: ·) with hr
  have htext : HostSpec.text ⟨.address a, tlsName, port⟩ = '[' :: (a ++ ']' :: r) := by
    simp [HostSpec.text, HostText.text, hr]
  rw [htext]
  cases tlsName with
  | some t =>
    obtain ⟨p, hp⟩ := Option.isSome_iff_exists.1 (hs.alone rfl)
    simp only at hp
    subst hp
    have hport := (hw.port p rfl).1
    have hfirst : ipv6 namePort ('[' :: (a ++ ']' :: r)) = some (a, t, p) := by
      refine ipv6_eq_some.2 ⟨r, rfl, hline,
        namePort_eq_some.2 ⟨rfl, hs.lineBreak t rfl, hport⟩, ?_⟩
      -- a later bracket would leave a colon in the name
      intro x y hxy _
      rw [Option.eq_none_iff_forall_ne_some]
      rintro ⟨t', p'⟩ h'
      obtain ⟨rfl, -, hport'⟩ := namePort_eq_some.1 h'
      have hsame : (':' :: t) ++ ':' :: p = (x ++ ']' :: ':' :: t') ++ ':' :: p' := by
        rw [hr] at hxy
        simpa using hxy
      have hlast := (hport.last_unique hport' hsame).1
      cases x with
      | nil => simp at hlast
      | cons c x =>
        rw [List.cons_append, List.cons.injEq] at hlast
        exact (hw.tlsName t rfl).2.1 (by simp [hlast.2])
    simp [matchHost, hfirst]
  | none =>
    have hnot : ']' ∉ r := by
      cases port with
      | none => simp [hr]
      | some p => simpa [hr] using (hw.port p rfl).1.not_mem (c := ']') (by decide)
    obtain ⟨m, hm, r', hv, -, hrest'⟩ := exists_matchHost_of_bracketed
      (v := '[' :: (a ++ ']' :: r)) (m := ⟨a, [], port⟩) ⟨r, rfl, hline, hrest⟩
    rw [List.cons.injEq, List.append_cons_inj_of_notMem hbracket hnot] at hv
    obtain ⟨-, rfl, -, rfl⟩ := hv
    obtain ⟨hname, hport⟩ := hrest'.unique hrest
    rw [hm]
    cases m
    simp only at hname hport
    rw [hname, hport]

theorem matchHost_text {addresses : IPv6Texts} {spec : HostSpec}
    (hw : addresses.WellFormed spec) (hs : spec.Supported) :
    matchHost spec.text = some ⟨spec.host.host, spec.tlsName.getD [], spec.port⟩ := by
  rcases spec with ⟨h | a, tlsName, port⟩
  · exact matchHost_name hw hs
  · exact matchHost_address hw hs

/-- A supported text is read as the grammar has it. -/
theorem parseHostTLSPort_of_supported {addresses : IPv6Texts} {spec : HostSpec} {v : String}
    (hw : addresses.WellFormed spec) (hv : v.toList = spec.text) (hs : spec.Supported) :
    parseHostTLSPort v = .ok spec.denoted := by
  refine parseHostTLSPort_eq_ok.2 ⟨_, by rw [hv]; exact matchHost_text hw hs, ?_, rfl, rfl⟩
  rw [HostMatch.readPort, HostSpec.denoted]
  cases hport : spec.port with
  | none => rfl
  | some p =>
    obtain ⟨hp, -, hle⟩ := hw.port p hport
    exact (parseInt_eq_decimal hp hle).2 (hs.zero p hport)

/-- A text of the grammar that is read as the grammar has it is supported. -/
theorem supported_of_parseHostTLSPort {addresses : IPv6Texts} {spec : HostSpec} {v : String}
    (hw : addresses.WellFormed spec) (hv : v.toList = spec.text)
    (hok : parseHostTLSPort v = .ok spec.denoted) : spec.Supported := by
  obtain ⟨m, hm, hport, -, hname⟩ := parseHostTLSPort_eq_ok.1 hok
  have hshape := matchHost_eq_some hm
  have hname : spec.tlsName.getD [] = m.tlsName := String.ofList_inj.1 hname
  have hend {p : List Char} (hp : spec.port = some p) : ∃ u, v.toList = u ++ ':' :: p := by
    refine ⟨spec.host.text ++ spec.tlsName.elim [] (':' :: ·), ?_⟩
    rw [hv, HostSpec.text, hp]
    simp
  refine ⟨?_, ?_, ?_⟩
  · intro htls
    obtain ⟨t, ht⟩ := Option.isSome_iff_exists.1 htls
    obtain ⟨hne, hcolon, c, hc, hdigit⟩ := hw.tlsName t ht
    rw [ht, Option.getD_some] at hname
    by_contra hnone
    rw [Option.not_isSome_iff_eq_none] at hnone
    -- the name would be the port of the match
    obtain ⟨q, hq⟩ := exists_port_of_name hshape (hname ▸ hne)
    obtain ⟨hqport, u, hu⟩ := text_of_port hshape hq
    have htext : v.toList = spec.host.text ++ ':' :: t := by
      rw [hv, HostSpec.text, ht, hnone]
      simp
    have hlast := Split.append_cons_inj_last (p := (· = ':')) (fun d hd e => hcolon (e ▸ hd))
      (fun d hd e => hqport.not_colon (e ▸ hd)) rfl rfl (htext.symm.trans hu)
    rw [hlast.2.2] at hc
    rw [hqport.2 c hc] at hdigit
    cases hdigit
  · intro t ht
    obtain ⟨x, r, -, hrest⟩ := rest_of_match hshape
    rw [ht, Option.getD_some] at hname
    rw [hname]
    exact hrest.not_lineBreak
  · intro p hp
    obtain ⟨hpport, -, hle⟩ := hw.port p hp
    obtain ⟨u, hu⟩ := hend hp
    rw [HostMatch.readPort, port_of_match hshape hpport hu, HostSpec.denoted, hp] at hport
    exact (parseInt_eq_decimal hpport hle).1 hport

/-- **Main theorem.** The parser accepts a text iff it is a host of the grammar, and with the
    parts that it denotes, iff the text is read as meant. -/
theorem parseHostTLSPort_iff_readAsMeant (addresses : IPv6Texts) (v : String) :
    (∀ h, parseHostTLSPort v = .ok h ↔ addresses.Denotes v h) ↔ addresses.ReadAsMeant v := by
  constructor
  · intro hiff
    refine ⟨?_, ?_⟩
    · intro spec hw hv
      exact supported_of_parseHostTLSPort hw hv ((hiff _).2 ⟨spec, hw, hv, rfl⟩)
    · intro hacc
      obtain ⟨h, hv⟩ := exists_parseHostTLSPort_iff.2 hacc
      exact ⟨h, (hiff h).1 hv⟩
  · intro hread h
    constructor
    · intro hv
      obtain ⟨h', spec, hw, hs, -⟩ := hread.accepted (exists_parseHostTLSPort_iff.1 ⟨h, hv⟩)
      have hdenoted := parseHostTLSPort_of_supported hw hs (hread.supported spec hw hs)
      rw [hv, Except.ok.injEq] at hdenoted
      exact ⟨spec, hw, hs, hdenoted⟩
    · rintro ⟨spec, hw, hs, rfl⟩
      exact parseHostTLSPort_of_supported hw hs (hread.supported spec hw hs)

/-- `db1:cluster` is a host and a TLS name, and it is refused. -/
theorem tlsName_without_port_refused :
    parseHostTLSPort "db1:cluster" = .error "does not match any expected formats" ∧
      ∀ addresses : IPv6Texts,
        ¬ ∀ v h, parseHostTLSPort v = .ok h ↔ addresses.Denotes v h := by
  have hrefused :
      parseHostTLSPort "db1:cluster" = .error "does not match any expected formats" := by
    decide +kernel
  refine ⟨hrefused, ?_⟩
  intro addresses hiff
  have hdenotes : addresses.Denotes "db1:cluster" ⟨"db1", "cluster", 0⟩ := by
    refine ⟨⟨.name "db1".toList, some "cluster".toList, none⟩, ⟨?_, ?_, ?_⟩, rfl, rfl⟩
    · exact ⟨by decide, by decide, by decide⟩
    · intro t ht
      cases ht
      exact ⟨by decide, by decide, 'c', by decide, by decide⟩
    · intro p hp
      cases hp
  rw [← hiff, hrefused] at hdenotes
  cases hdenotes

end AerospikePhp.Config
