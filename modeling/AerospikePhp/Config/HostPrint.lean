import AerospikePhp.Config.HostPort
import AerospikePhp.Config.HostSeeds

/-!
# Hosts that are printed and read again

`HostTLSPort.String` (`common/client/host.go` lines 29–41) writes a host without brackets,
and a TLS name also where no port follows. `GetSlice` and `Replace`
(`common/flags/host.go` lines 110–132) print the seeds and read them again.

Main results:
* `parseHostTLSPort_string_iff`: the hosts that are read back from their own text.
* `reread_iff_printsBack`: these, and the lists of seeds that survive.
-/

namespace AerospikePhp.Config

open Pattern

/-! ## The printed text -/

/-- What is printed after the host. -/
def HostTLSPort.printed (h : HostTLSPort) : List Char :=
  (if h.tlsName = "" then [] else ':' :: h.tlsName.toList) ++
    if h.port = 0 then [] else ':' :: Nat.toDigits 10 h.port.toNatClampNeg

theorem toInt_eq_toNatClampNeg {i : Int64} (h : 0 ≤ i.toInt) : i.toInt = i.toNatClampNeg := by
  rw [Int64.toNatClampNeg, Int.toNat_of_nonneg h]

theorem toList_string {h : HostTLSPort} (hport : 0 ≤ h.port.toInt) :
    h.string.toList = h.host.toList ++ h.printed := by
  have hdigits : h.port.toInt.repr.toList = Nat.toDigits 10 h.port.toNatClampNeg := by
    rw [toInt_eq_toNatClampNeg hport]
    exact Nat.toList_repr
  rw [HostTLSPort.string, HostTLSPort.printed]
  by_cases hname : h.tlsName = ""
  · by_cases hzero : h.port = 0
    · simp [hname, hzero]
    · simp [hname, hzero, hdigits]
  · by_cases hzero : h.port = 0
    · simp [hname, hzero]
    · simp [hname, hzero, hdigits]

/-! ## Hosts that were read -/

/-- What is known of a host that `parseHostTLSPort` returns. -/
structure Returned (h : HostTLSPort) : Prop where
  port : 0 ≤ h.port.toInt
  lineBreak : '\n' ∉ h.tlsName.toList

theorem returned_of_parseHostTLSPort {v : String} {h : HostTLSPort}
    (hv : parseHostTLSPort v = .ok h) : Returned h := by
  obtain ⟨m, hm, hport, -, hname⟩ := parseHostTLSPort_eq_ok.1 hv
  have hshape := matchHost_eq_some hm
  refine ⟨?_, ?_⟩
  · unfold HostMatch.readPort at hport
    cases hp : m.port with
    | none =>
      simp only [hp, Except.ok.injEq] at hport
      rw [← hport]
      decide
    | some p =>
      simp only [hp] at hport
      obtain ⟨hreadable, hvalue⟩ := (parseInt_eq_ok (text_of_port hshape hp).1).1 hport
      have hrange := hreadable.2
      rw [hvalue, Int64.toInt_ofNat_of_lt (by omega)]
      exact Int.natCast_nonneg _
  · obtain ⟨x, r, -, hrest⟩ := rest_of_match hshape
    rw [hname, String.toList_ofList]
    exact hrest.not_lineBreak

/-- The port of a printed host, if it is printed. -/
def HostTLSPort.portText (h : HostTLSPort) : Option (List Char) :=
  if h.port = 0 then none else some (Nat.toDigits 10 h.port.toNatClampNeg)

/-- The printed port is read back. -/
theorem parseInt_portText {h : HostTLSPort} (hport : 0 ≤ h.port.toInt) (hzero : h.port ≠ 0) :
    parseInt (Nat.toDigits 10 h.port.toNatClampNeg) = .ok h.port := by
  have hclamp := toInt_eq_toNatClampNeg hport
  have hlt : h.port.toInt < 2 ^ 63 := h.port.toInt_lt
  have hpos : 0 < h.port.toNatClampNeg := by
    rw [Nat.pos_iff_ne_zero]
    intro hnat
    rw [hnat] at hclamp
    exact hzero (Int64.toInt_inj.1 hclamp)
  rw [parseInt_toDigits hpos (by omega)]
  refine congrArg _ (Int64.toInt_inj.1 ?_)
  rw [Int64.toInt_ofNat_of_lt (by omega), hclamp]

/-! ## Reading the printed text -/

/-- A host that is read back from its text: it has no colon, its TLS name stands before a port,
    and no bracket at its start is closed where the host or a part of the TLS name ends. -/
structure PrintsBack (h : HostTLSPort) : Prop where
  noColon : ':' ∉ h.host.toList
  port : h.tlsName ≠ "" → h.port ≠ 0
  host : ¬ ∃ x, h.host.toList = '[' :: (x ++ [']']) ∧ '\n' ∉ x
  name : ¬ ∃ x y z, h.host.toList = '[' :: x ∧ '\n' ∉ x ∧ h.tlsName.toList = y ++ ']' :: z ∧
    (z = [] ∨ z.head? = some ':')

theorem rest_printed {h : HostTLSPort} (hret : Returned h) (hport : h.tlsName ≠ "" → h.port ≠ 0) :
    Rest h.printed h.tlsName.toList h.portText := by
  rw [HostTLSPort.printed, HostTLSPort.portText]
  by_cases hname : h.tlsName = ""
  · by_cases hzero : h.port = 0
    · simpa [hname, hzero] using Rest.done
    · simpa [hname, hzero] using Rest.port (isPort_toDigits _)
  · have hzero := hport hname
    simpa [hname, hzero] using Rest.namePort hret.lineBreak (isPort_toDigits _)

/-- A text in brackets is longer than the text that is printed for its host. -/
theorem not_bracketed_self {h : HostTLSPort} (hret : Returned h) {m : HostMatch}
    (hhost : m.host = h.host.toList) (hname : m.tlsName = h.tlsName.toList) :
    ¬ Bracketed h.string.toList m := by
  intro hm
  have hport : h.port ≠ 0 → m.port = some (Nat.toDigits 10 h.port.toNatClampNeg) := by
    intro hzero
    refine port_of_match (.inl hm) (isPort_toDigits _) (u := h.host.toList ++
      if h.tlsName = "" then [] else ':' :: h.tlsName.toList) ?_
    rw [toList_string hret.port, HostTLSPort.printed, if_neg hzero, List.append_assoc]
  obtain ⟨r, hr, -, hrest⟩ := hm
  rw [toList_string hret.port, hhost] at hr
  have hlength : h.printed.length = r.length + 2 := by
    have hsame := congrArg List.length hr
    simp only [List.length_append, List.length_cons] at hsame
    omega
  have hle : h.printed.length ≤ r.length := by
    rw [HostTLSPort.printed]
    by_cases hzero : h.port = 0
    · obtain ⟨rfl, hnil, -⟩ | ⟨q, -, -, ⟨hnil, rfl⟩ | rfl⟩ := hrest.cases
      · simp [hzero, String.toList_eq_nil_iff.1 (hname.symm.trans hnil)]
      · simp [hzero, String.toList_eq_nil_iff.1 (hname.symm.trans hnil)]
      · split_ifs
        · simp
        · simp [hname]
    · obtain ⟨-, -, hnone⟩ | ⟨q, hq, -, ⟨hnil, rfl⟩ | rfl⟩ := hrest.cases
      · rw [hport hzero] at hnone
        cases hnone
      · cases (hport hzero).symm.trans hq
        simp [hzero, String.toList_eq_nil_iff.1 (hname.symm.trans hnil)]
      · cases (hport hzero).symm.trans hq
        split_ifs
        · simp only [List.nil_append, List.length_append, List.length_cons]
          omega
        · simp [hname]
  omega

/-- A bracket that is closed before a port, and after the colon that precedes a name, is closed
    in the name. -/
theorem closed_in_name {a r t q : List Char} (hq : IsPort q)
    (h : ':' :: (t ++ ':' :: q) = a ++ ']' :: r) :
    ∃ y z, t = y ++ ']' :: z ∧ r = z ++ ':' :: q := by
  cases a with
  | nil => simp at h
  | cons c y =>
    rw [List.cons_append, List.cons.injEq] at h
    obtain ⟨c', -, hr⟩ | ⟨z, ht, hr⟩ := List.append_eq_append_iff.1 h.2
    · have hmem : ']' ∈ ':' :: q := by
        rw [hr]
        simp
      exact absurd (by simpa using hmem) (hq.not_mem (c := ']') (by decide))
    · cases z with
      | nil => simp at hr
      | cons d z =>
        rw [List.cons_append, List.cons.injEq] at hr
        obtain ⟨rfl, hr⟩ := hr
        exact ⟨y, z, ht, hr⟩

/-- What comes first in a rest is a colon. -/
theorem head_of_rest {r t z s : List Char} {p : Option (List Char)} (hrest : Rest r t p)
    (hr : r = z ++ s) : z = [] ∨ z.head? = some ':' := by
  cases z with
  | nil => exact .inl rfl
  | cons c z =>
    obtain rfl | ⟨r', rfl⟩ := hrest.head
    · simp at hr
    · rw [List.cons_append, List.cons.injEq] at hr
      exact .inr (by rw [List.head?_cons, hr.1])

/-- The text of a host that is printed back is not in brackets. -/
theorem not_bracketed_of_printsBack {h : HostTLSPort} (hret : Returned h) (hback : PrintsBack h)
    (m : HostMatch) : ¬ Bracketed h.string.toList m := by
  rintro ⟨r, hr, hline, hrest⟩
  have hprinted := rest_printed hret hback.port
  rw [toList_string hret.port] at hr
  cases hhost : h.host.toList with
  | nil =>
    -- an empty host is followed by a colon
    rw [hhost, List.nil_append] at hr
    obtain hp | ⟨r', hp⟩ := hprinted.head
    · simp [hp] at hr
    · simp [hp] at hr
  | cons c host =>
    rw [hhost, List.cons_append, List.cons.injEq] at hr
    obtain ⟨rfl, hr⟩ := hr
    obtain ⟨a, ha, hp⟩ | ⟨b, hb, hr'⟩ := List.append_eq_append_iff.1 hr
    · -- the bracket is closed after the host
      obtain ⟨hnil, -⟩ | ⟨q, -, hq, ⟨-, hport⟩ | hport⟩ := hprinted.cases
      · simp [hnil] at hp
      · have hmem : ']' ∈ ':' :: q := by
          rw [← hport, hp]
          simp
        exact hq.not_mem (c := ']') (by decide) (by simpa using hmem)
      · rw [hport] at hp
        obtain ⟨y, z, ht, hr'⟩ := closed_in_name hq hp
        exact hback.name ⟨host, y, z, hhost, fun hmem => hline (by simp [ha, hmem]), ht,
          head_of_rest hrest hr'⟩
    · -- the bracket is closed in the host, which nothing but a colon can follow
      cases b with
      | nil =>
        obtain hnil | ⟨r', hp⟩ := hprinted.head
        · simp [hnil] at hr'
        · simp [hp] at hr'
      | cons c b =>
        rw [List.cons_append, List.cons.injEq] at hr'
        obtain ⟨rfl, hr'⟩ := hr'
        obtain rfl | hcolon := head_of_rest hrest hr'
        · exact hback.host ⟨m.host, by rw [hhost, hb], hline⟩
        · have hmem := List.mem_of_mem_head? hcolon
          exact hback.noColon (by rw [hhost, hb]; simp [hmem])

/-- A host whose text is not in brackets prints back. -/
theorem printsBack_of_not_bracketed {h : HostTLSPort} (hret : Returned h)
    (hcolon : ':' ∉ h.host.toList) (hzero : h.tlsName ≠ "" → h.port ≠ 0)
    (hnot : ∀ m, ¬ Bracketed h.string.toList m) : PrintsBack h := by
  refine ⟨hcolon, hzero, ?_, ?_⟩
  · rintro ⟨x, hx, hline⟩
    refine hnot ⟨x, h.tlsName.toList, h.portText⟩ ⟨h.printed, ?_, hline,
      rest_printed hret hzero⟩
    rw [toList_string hret.port, hx]
    simp
  · rintro ⟨x, y, z, hx, hline, hy, hz⟩
    have hne : h.tlsName ≠ "" := by
      intro hempty
      rw [hempty] at hy
      simp at hy
    have hprinted : h.printed =
        ':' :: (y ++ ']' :: z ++ ':' :: Nat.toDigits 10 h.port.toNatClampNeg) := by
      rw [HostTLSPort.printed, if_neg hne, if_neg (hzero hne), hy, List.cons_append]
    have hret' := hret.lineBreak
    rw [hy] at hret'
    have htext : h.string.toList = '[' :: ((x ++ ':' :: y) ++ ']' :: (z ++ ':' ::
        Nat.toDigits 10 h.port.toNatClampNeg)) := by
      rw [toList_string hret.port, hx, hprinted]
      simp
    have hline' : '\n' ∉ x ++ ':' :: y := by
      simp only [List.mem_append, List.mem_cons, not_or] at hret' ⊢
      exact ⟨hline, by decide, hret'.1⟩
    obtain rfl | hhead := hz
    · exact hnot ⟨x ++ ':' :: y, [], some _⟩ ⟨_, htext, hline', .port (isPort_toDigits _)⟩
    · obtain ⟨z, rfl⟩ := List.head?_eq_some_iff.1 hhead
      refine hnot ⟨x ++ ':' :: y, z, some _⟩ ⟨_, htext, hline', .namePort ?_ (isPort_toDigits _)⟩
      intro hmem
      exact hret' (by simp [hmem])

/-- A host is read back from its text iff it prints back. -/
theorem parseHostTLSPort_string_iff {h : HostTLSPort} (hret : Returned h) :
    parseHostTLSPort h.string = .ok h ↔ PrintsBack h := by
  constructor
  · intro hok
    obtain ⟨m, hm, hport, hhost, hname⟩ := parseHostTLSPort_eq_ok.1 hok
    have hhost : m.host = h.host.toList := by rw [hhost, String.toList_ofList]
    have hname : m.tlsName = h.tlsName.toList := by rw [hname, String.toList_ofList]
    -- a text in brackets would have been matched as one
    have hnot (m' : HostMatch) : ¬ Bracketed h.string.toList m' := by
      intro hm'
      obtain ⟨m'', hm'', hbracketed⟩ := exists_matchHost_of_bracketed hm'
      cases hm.symm.trans hm''
      exact not_bracketed_self hret hhost hname hbracketed
    obtain ⟨r, hr, hcolon, hrest⟩ := (matchHost_eq_some hm).resolve_left (hnot m)
    rw [hhost] at hcolon
    rw [toList_string hret.port, hhost, List.append_cancel_left_eq] at hr
    subst hr
    have hzero : h.tlsName ≠ "" → h.port ≠ 0 := by
      intro hname' hzero
      have hne : m.tlsName ≠ [] := by
        rw [hname]
        exact fun h => hname' (String.toList_eq_nil_iff.1 h)
      obtain ⟨-, hnil, -⟩ | ⟨q, -, -, ⟨hnil, -⟩ | hq⟩ := hrest.cases
      · exact hne hnil
      · exact hne hnil
      · have hlength := congrArg List.length hq
        rw [HostTLSPort.printed, if_pos hzero, List.append_nil] at hlength
        rw [if_neg hname', hname] at hlength
        simp at hlength
    exact printsBack_of_not_bracketed hret hcolon hzero hnot
  · intro hback
    have hmatch := matchHost_of_plain (m := ⟨h.host.toList, h.tlsName.toList, h.portText⟩)
      ⟨h.printed, toList_string hret.port, hback.noColon, rest_printed hret hback.port⟩
      (not_bracketed_of_printsBack hret hback)
    refine parseHostTLSPort_eq_ok.2 ⟨_, hmatch, ?_, by simp, by simp⟩
    rw [HostMatch.readPort, HostTLSPort.portText]
    by_cases hzero : h.port = 0
    · rw [if_pos hzero, hzero]
    · rw [if_neg hzero]
      exact parseInt_portText hret.port hzero

/-! ## Lists of seeds -/

/-- The texts of hosts that print back are read as these hosts. -/
theorem parsed_string_iff {hosts : List HostTLSPort} (hret : ∀ h ∈ hosts, Returned h) :
    (HostTLSPortSliceFlag.parsed (hosts.map HostTLSPort.string)).1 = hosts ↔
      ∀ h ∈ hosts, PrintsBack h := by
  induction hosts with
  | nil => simp [HostTLSPortSliceFlag.parsed]
  | cons h hosts ih =>
    have hhead := parseHostTLSPort_string_iff (hret h (by simp))
    have htail := ih fun h' hh' => hret h' (by simp [hh'])
    rw [List.map_cons, HostTLSPortSliceFlag.parsed, List.forall_mem_cons, ← hhead, ← htail]
    cases hparse : parseHostTLSPort h.string with
    | error err => simp
    | ok h' => simp

/-- **Main theorem.** A host that was read is read back from its text iff it prints back, and a
    list of seeds is kept when it is replaced by its own texts iff every seed does. -/
theorem reread_iff_printsBack (v : String) (h : HostTLSPort) (slice : HostTLSPortSliceFlag)
    (hv : parseHostTLSPort v = .ok h)
    (hseeds : ∀ seed ∈ slice.seeds, ∃ text, parseHostTLSPort text = .ok seed) :
    (parseHostTLSPort h.string = .ok h ↔ PrintsBack h) ∧
      ((slice.replace slice.getSlice).1.seeds = slice.seeds ↔
        ∀ seed ∈ slice.seeds, PrintsBack seed) := by
  constructor
  · exact parseHostTLSPort_string_iff (returned_of_parseHostTLSPort hv)
  · have hret : ∀ seed ∈ slice.seeds, Returned seed := by
      intro seed hseed
      obtain ⟨text, htext⟩ := hseeds seed hseed
      exact returned_of_parseHostTLSPort htext
    rw [← parsed_string_iff hret, HostTLSPortSliceFlag.replace,
      HostTLSPortSliceFlag.appendAll_eq, HostTLSPortSliceFlag.getSlice, List.nil_append]

/-- `db1:cluster:4000` is read back from its own text, and kept in a list of seeds. -/
theorem reread_iff_printsBack_db1 :
    parseHostTLSPort (HostTLSPort.string ⟨"db1", "cluster", 4000⟩) =
        .ok ⟨"db1", "cluster", 4000⟩ ∧
      (HostTLSPortSliceFlag.replace ⟨false, [⟨"db1", "cluster", 4000⟩]⟩
        (HostTLSPortSliceFlag.getSlice ⟨false, [⟨"db1", "cluster", 4000⟩]⟩)).1.seeds =
        [⟨"db1", "cluster", 4000⟩] := by
  have hread : parseHostTLSPort "db1:cluster:4000" = .ok ⟨"db1", "cluster", 4000⟩ := by
    decide +kernel
  have hback : PrintsBack ⟨"db1", "cluster", 4000⟩ := by
    have htext : "db1".toList = ['d', 'b', '1'] := by decide
    refine ⟨by decide, fun _ => by decide, ?_, ?_⟩
    · rintro ⟨x, hx, -⟩
      simp [htext] at hx
    · rintro ⟨x, y, z, hx, -⟩
      simp [htext] at hx
  obtain ⟨hhost, hlist⟩ :=
    reread_iff_printsBack _ _ ⟨false, [⟨"db1", "cluster", 4000⟩]⟩ hread (by simpa using ⟨_, hread⟩)
  exact ⟨hhost.2 hback, hlist.2 (by simpa using hback)⟩

/-- `[::1]:3000` is printed as `::1:3000`, which is read as another host. -/
theorem address_printed_without_brackets :
    parseHostTLSPort "[::1]:3000" = .ok ⟨"::1", "", 3000⟩ ∧
      HostTLSPort.string ⟨"::1", "", 3000⟩ = "::1:3000" ∧
      parseHostTLSPort "::1:3000" = .ok ⟨"", ":1", 3000⟩ ∧
      ¬ ∀ v h, parseHostTLSPort v = .ok h → parseHostTLSPort h.string = .ok h := by
  have hread : parseHostTLSPort "[::1]:3000" = .ok ⟨"::1", "", 3000⟩ := by decide +kernel
  have hprinted : HostTLSPort.string ⟨"::1", "", 3000⟩ = "::1:3000" := by decide +kernel
  have hreread : parseHostTLSPort "::1:3000" = .ok ⟨"", ":1", 3000⟩ := by decide +kernel
  refine ⟨hread, hprinted, hreread, ?_⟩
  intro h
  have hsame := h _ _ hread
  rw [hprinted, hreread] at hsame
  exact absurd (Except.ok.inj hsame) (by decide)

end AerospikePhp.Config
