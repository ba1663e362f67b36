import AdAway.Library.Dissector
import Mathlib.Data.List.GetD
import Mathlib.Tactic.IntervalCases

/-!
# How tcpdump prints a DNS query

The bundled tcpdump writes what the device asks for to a log. `print-domain.c` prints a message from
the bytes captured of it: the header, and for each question the type, the class and the name. A name
is a sequence of labels, each behind its length; a length of a special form is a pointer to where the
name goes on, and the loop that follows pointers stops when it has processed as many characters as
there are.

Offsets are relative to the start of the message. `snapend` is the end of what was captured, which
may lie anywhere in the message.

## What is left out

The branch of `ns_print` for responses is a parameter here. The sections that only `-vv` prints and the
spelling for multicast DNS do not come up in the log, which tcpdump writes with `-v` for packets to
port 53. `char` is unsigned, as on ARM; on x86 one hexadecimal digit of a bit label may differ.

## Main definitions

* `fnPrintn`, `labellen`, `blabelPrint` — the parts of a name
* `nsNskip`, `nsNprint` — a name, skipped and printed
* `nsQprint`, `nsPrint` — a question and the message

## Main results

* `meets_nprintLoop` — the loop of a name ends, whatever its pointers are
* `meets_nsPrint` — no byte is read that was not captured, the loops end, the text is printable
-/

namespace AdAway

open Dissector

/-- What `print-domain.c` is made of. -/
abbrev Printer (α : Type) := Dissector UInt8 Char α

/-! ### Numbers -/

/-- `%d`. -/
def decimal (n : ℕ) : List Char := Nat.toDigits 10 n

/-- `%x`, of at least this width with leading zeros. -/
def hexadecimal (width n : ℕ) : List Char := (Nat.toDigits 16 n).leftpad width '0'

/-- `EXTRACT_16BITS`. -/
def extract16Bits (cp : ℕ) : Printer ℕ := do
  let high ← byte cp
  let low ← byte (cp + 1)
  pure (high.toNat * 256 + low.toNat)

/-! ### Labels -/

/-- `INDIR_MASK`. -/
def indirMask : UInt8 := 0xc0

/-- `EDNS0_MASK`. -/
def edns0Mask : UInt8 := 0x40

/-- `EDNS0_ELT_BITLABEL`. -/
def edns0EltBitlabel : UInt8 := 0x01

/-- What `fn_printn` prints for a character. -/
def printnChar (c : UInt8) : List Char :=
  let ascii := c &&& 0x80 = 0
  let c := if ascii then c else c &&& 0x7f
  (if ascii then [] else ['M', '-']) ++
    if 0x20 ≤ c ∧ c ≤ 0x7e then [Char.ofNat c.toNat] else ['^', Char.ofNat (c ^^^ 0x40).toNat]

/-- `fn_printn`; `true` if the text is truncated. -/
def fnPrintn : ℕ → ℕ → Printer Bool
  | 0, _ => pure false
  | n + 1, s => do
    if s < (← snapend) then
      print (printnChar (← byte s))
      fnPrintn n (s + 1)
    else pure true

/-- The number of bits of a bit label. -/
def bitlen (count : UInt8) : ℕ := if count = 0 then 256 else count.toNat

/-- `labellen`. -/
def labellen (cp : ℕ) : Printer (Option ℕ) := do
  if ← captured cp 1 then
    let i ← byte cp
    if i &&& indirMask = edns0Mask then
      let elt := i &&& ~~~indirMask
      if elt ≠ edns0EltBitlabel then
        print ("<ELT ".toList ++ decimal elt.toNat ++ ">".toList)
        pure none
      else if ← captured (cp + 1) 1 then
        let count ← byte (cp + 1)
        pure (some ((bitlen count + 7) / 8 + 1))
      else pure none
    else pure (some i.toNat)
  else pure none

/-- The loop of `blabel_print`: where it ends, and the bits that are left. -/
def blabelBytes (lim : ℕ) : ℕ → ℕ → ℕ → Printer (Option (ℕ × ℕ))
  | 0, _, _ => endless
  | fuel + 1, bitp, b => do
    if bitp < lim ∧ 7 < b then
      if ← captured bitp 1 then
        print (hexadecimal 2 (← byte bitp).toNat)
        blabelBytes lim fuel (bitp + 1) (b - 8)
      else pure none
    else pure (some (bitp, b))

/-- The end of `blabel_print`: the bits that fill no byte. -/
def blabelRest (bitp b : ℕ) : Printer Bool := do
  if 4 < b then
    if ← captured bitp 1 then
      let tc ← byte bitp
      print (hexadecimal 2 (tc.toNat &&& (0xff <<< (8 - b))))
      pure true
    else pure false
  else if 0 < b then
    if ← captured bitp 1 then
      let tc ← byte bitp
      print (hexadecimal 1 ((tc.toNat >>> 4) &&& 0x0f &&& (0x0f <<< (4 - b))))
      pure true
    else pure false
  else pure true

/-- `blabel_print`. -/
def blabelPrint (cp : ℕ) : Printer (Option ℕ) := do
  if ← captured cp 1 then
    let bitlen := bitlen (← byte cp)
    let slen := (bitlen + 3) / 4
    let lim := cp + 1 + slen
    print "\\[x".toList
    match ← blabelBytes lim (bitlen + 1) (cp + 1) bitlen with
    | none =>
      print (".../".toList ++ decimal bitlen ++ "]".toList)
      pure none
    | some (bitp, b) =>
      if ← blabelRest bitp b then
        print ("/".toList ++ decimal bitlen ++ "]".toList)
        pure (some lim)
      else
        print (".../".toList ++ decimal bitlen ++ "]".toList)
        pure none
  else pure none

/-! ### Names -/

/-- The body of the loop of `ns_nskip`, up to the next length. -/
def skipLabel (i : UInt8) (cp : ℕ) : Printer (Option ℕ) := do
  if i &&& indirMask = edns0Mask then
    if i &&& ~~~indirMask ≠ edns0EltBitlabel then pure none
    else if ← captured cp 1 then
      let count ← byte cp
      pure (some (cp + 1 + (bitlen count + 7) / 8))
    else pure none
  else pure (some (cp + i.toNat))

/-- The loop of `ns_nskip`. -/
def nskipLoop : ℕ → UInt8 → ℕ → Printer (Option ℕ)
  | 0, _, _ => endless
  | fuel + 1, i, cp => do
    if i = 0 then pure (some cp)
    else if i &&& indirMask = indirMask then pure (some (cp + 1))
    else
      match ← skipLabel i cp with
      | none => pure none
      | some cp =>
        if ← captured cp 1 then
          nskipLoop fuel (← byte cp) (cp + 1)
        else pure none

/-- `ns_nskip`. -/
def nsNskip (cp : ℕ) : Printer (Option ℕ) := do
  if ← captured cp 1 then
    let i ← byte cp
    nskipLoop ((← snapend) + 1) i (cp + 1)
  else pure none

/-- The label at `cp` is printed; `true` if that is all there is to it. -/
def printLabel (i : UInt8) (l cp : ℕ) : Printer Bool := do
  if i &&& indirMask = edns0Mask then
    let elt := i &&& ~~~indirMask
    if elt = edns0EltBitlabel then
      pure (← blabelPrint cp).isSome
    else
      print ("<ELT ".toList ++ decimal elt.toNat ++ ">".toList)
      pure false
  else pure (!(← fnPrintn l cp))

/-- The local variables of `ns_nprint` that its loop changes. -/
structure NprintState where
  i : UInt8
  l : ℕ
  cp : ℕ
  charsProcessed : ℕ
  compress : Bool
  rp : Option ℕ

/-- The next length byte: what `labellen` says of it, and the byte. -/
def nextLength (cp : ℕ) : Printer (Option (ℕ × UInt8)) := do
  match ← labellen cp with
  | none => pure none
  | some l =>
    if ← captured cp 1 then
      pure (some (l, ← byte cp))
    else pure none

/-- The loop of `ns_nprint`. -/
def nprintLoop (bp dataSize : ℕ) : ℕ → NprintState → Printer (Option ℕ)
  | 0, _ => endless
  | fuel + 1, s => do
    if s.i ≠ 0 ∧ s.cp < (← snapend) then
      if s.i &&& indirMask = indirMask then
        let rp := if s.compress then s.rp else some (s.cp + 1)
        if ← captured s.cp 1 then
          let low ← byte s.cp
          let cp := bp + (((s.i.toNat <<< 8) ||| low.toNat) &&& 0x3fff)
          match ← nextLength cp with
          | none => pure none
          | some (l, i) =>
            let charsProcessed := s.charsProcessed + 1
            -- a character has been looked at twice
            if dataSize ≤ charsProcessed then
              print "<LOOP>".toList
              pure none
            else nprintLoop bp dataSize fuel ⟨i, l, cp + 1, charsProcessed, true, rp⟩
        else pure none
      else if ← printLabel s.i s.l s.cp then
        print ".".toList
        let cp := s.cp + s.l
        match ← nextLength cp with
        | none => pure none
        | some (l, i) =>
          let rp := if s.compress then s.rp else s.rp.map (· + (l + 1))
          nprintLoop bp dataSize fuel ⟨i, l, cp + 1, s.charsProcessed + s.l + 1, s.compress, rp⟩
      else pure none
    else pure s.rp

/-- `ns_nprint`. -/
def nsNprint (cp bp : ℕ) : Printer (Option ℕ) := do
  let snapend ← snapend
  let dataSize := snapend - bp
  match ← nextLength cp with
  | none => pure none
  | some (l, i) =>
    let cp := cp + 1
    let rp := if i &&& indirMask = indirMask then none else some (cp + l)
    if i = 0 then
      print ".".toList
      pure rp
    else nprintLoop bp dataSize ((snapend + 1) * (snapend + 1)) ⟨i, l, cp, 1, false, rp⟩

/-! ### Questions -/

/-- `tok2str`. -/
def tok2str (table : List (ℕ × String)) (fmt : ℕ → List Char) (v : ℕ) : List Char :=
  match table.lookup v with
  | some s => s.toList
  | none => fmt v

/-- `ns_type2str`. -/
def nsType2str : List (ℕ × String) :=
  [(1, "A"), (2, "NS"), (3, "MD"), (4, "MF"), (5, "CNAME"), (6, "SOA"), (7, "MB"), (8, "MG"),
    (9, "MR"), (10, "NULL"), (11, "WKS"), (12, "PTR"), (13, "HINFO"), (14, "MINFO"), (15, "MX"),
    (16, "TXT"), (17, "RP"), (18, "AFSDB"), (19, "X25"), (20, "ISDN"), (21, "RT"), (22, "NSAP"),
    (23, "NSAP_PTR"), (24, "SIG"), (25, "KEY"), (26, "PX"), (27, "GPOS"), (28, "AAAA"), (29, "LOC"),
    (30, "NXT"), (31, "EID"), (32, "NIMLOC"), (33, "SRV"), (34, "ATMA"), (35, "NAPTR"), (36, "KX"),
    (37, "CERT"), (38, "A6"), (39, "DNAME"), (40, "SINK"), (41, "OPT"), (42, "APL"), (43, "DS"),
    (44, "SSHFP"), (45, "IPSECKEY"), (46, "RRSIG"), (47, "NSEC"), (48, "DNSKEY"), (99, "SPF"),
    (100, "UINFO"), (101, "UID"), (102, "GID"), (103, "UNSPEC"), (104, "UNSPECA"), (249, "TKEY"),
    (250, "TSIG"), (251, "IXFR"), (252, "AXFR"), (253, "MAILB"), (254, "MAILA"), (255, "ANY")]

/-- `ns_class2str`. -/
def nsClass2str : List (ℕ × String) := [(1, "IN"), (3, "CHAOS"), (4, "HS"), (255, "ANY")]

/-- The type of a question. -/
def typeText (type : ℕ) : List Char := tok2str nsType2str (fun v => "Type".toList ++ decimal v) type

/-- The class of a question, if it is not `C_IN`. -/
def classText (class' : ℕ) : List Char :=
  if class' = 1 then []
  else " ".toList ++
    tok2str nsClass2str (fun v => "(Class ".toList ++ decimal v ++ ")".toList) class'

/-- `ns_qprint`. -/
def nsQprint (cp bp : ℕ) : Printer (Option ℕ) := do
  match ← nsNskip cp with
  | none => pure none
  | some next =>
    if ← captured next 4 then
      print (" ".toList ++ typeText (← extract16Bits next))
      print (classText (← extract16Bits (next + 2)))
      print "? ".toList
      pure ((← nsNprint cp bp).map (· + 4))
    else pure none

/-! ### The message -/

/-- `ns_ops`. -/
def nsOps : List String :=
  ["", " inv_q", " stat", " op3", " notify", " update", " op6", " op7", " op8", " updateA",
    " updateD", " updateDA", " updateM", " updateMA", " zoneInit", " zoneRef"]

/-- The header of a message. -/
structure DnsHeader where
  id : ℕ
  flags1 : UInt8
  flags2 : UInt8
  qdcount : ℕ
  ancount : ℕ
  nscount : ℕ
  arcount : ℕ

namespace DnsHeader

/-- `DNS_OPCODE`. -/
def opcode (np : DnsHeader) : ℕ := ((np.flags1 >>> 3) &&& 0xf).toNat

/-- A count that is not what it should be. -/
def countText (isUsual : Bool) (n : ℕ) (unit : String) : List Char :=
  if isUsual then [] else " [".toList ++ decimal n ++ unit.toList ++ "]".toList

/-- What `ns_print` prints of the header of a request. -/
def requestText (np : DnsHeader) : List Char :=
  let b2 := np.flags1.toNat * 256 + np.flags2.toNat
  decimal np.id ++ (nsOps.getD np.opcode "").toList ++
    (if np.flags1 &&& 0x01 = 0 then [] else ['+']) ++
    (if np.flags2 &&& 0x10 = 0 then [] else ['%']) ++
    (if b2 &&& 0x6cf = 0 then [] else " [b2&3=0x".toList ++ hexadecimal 1 b2 ++ "]".toList) ++
    (if np.opcode = 1 then
      countText (np.qdcount = 0) np.qdcount "q" ++ countText (np.ancount = 1) np.ancount "a"
    else countText (np.ancount = 0) np.ancount "a" ++ countText (np.qdcount = 1) np.qdcount "q") ++
    countText (np.nscount = 0) np.nscount "n" ++ countText (np.arcount = 0) np.arcount "au"

end DnsHeader

/-- The header at the start of the message. -/
def readHeader : Printer DnsHeader := do
  let id ← extract16Bits 0
  let flags1 ← byte 2
  let flags2 ← byte 3
  let qdcount ← extract16Bits 4
  let ancount ← extract16Bits 6
  let nscount ← extract16Bits 8
  let arcount ← extract16Bits 10
  pure ⟨id, flags1, flags2, qdcount, ancount, nscount, arcount⟩

/-- The questions after the first one: those not printed, or nothing if one is truncated. -/
def moreQuestions : ℕ → ℕ → Printer (Option ℕ)
  | 0, _ => pure (some 0)
  | qdcount + 1, cp => do
    if cp < (← snapend) then
      match ← nsQprint cp 0 with
      | none => pure none
      | some cp => moreQuestions qdcount cp
    else pure (some (qdcount + 1))

/-- The questions of a request: those not printed, or nothing if one is truncated. -/
def questions : ℕ → Printer (Option ℕ)
  | 0 => pure (some 0)
  | qdcount + 1 => do
    match ← nsQprint 12 0 with
    | none => pure none
    | some cp => moreQuestions qdcount cp

/-- The label `trunc` of `ns_print`. -/
def trunc : Printer Unit := print "[|domain]".toList

/-- `ns_print`, for a message of this length. -/
def nsPrint (response : DnsHeader → Printer Unit) (length : ℕ) : Printer Unit := do
  if ← captured 0 12 then
    let np ← readHeader
    if np.flags1 &&& 0x80 ≠ 0 then response np
    else
      print np.requestText
      match ← questions np.qdcount with
      | some 0 => print (" (".toList ++ decimal length ++ ")".toList)
      | some (_ + 1) | none => trunc
  else trunc

/-! ### What is printed is printable -/

/-- A printable ASCII character. No line ends in one. -/
def Printable (c : Char) : Prop := 0x20 ≤ c.toNat ∧ c.toNat ≤ 0x7e

instance : DecidablePred Printable := fun c =>
  inferInstanceAs (Decidable (0x20 ≤ c.toNat ∧ c.toNat ≤ 0x7e))

/-- A printable character that is no question mark. Only a question prints one. -/
def Unmarked (c : Char) : Prop := Printable c ∧ c ≠ '?'

instance : DecidablePred Unmarked := fun c => inferInstanceAs (Decidable (Printable c ∧ c ≠ '?'))

theorem printable_of_unmarked {text : List Char} (h : ∀ c ∈ text, Unmarked c) :
    ∀ c ∈ text, Printable c := fun c hc => (h c hc).1

/-- Texts one behind the other. -/
theorem forall_append {P : Char → Prop} {text more : List Char} (h : ∀ c ∈ text, P c)
    (h' : ∀ c ∈ more, P c) : ∀ c ∈ text ++ more, P c :=
  fun c hc => (List.mem_append.mp hc).elim (h c) (h' c)

theorem unmarked_digitChar (n : ℕ) : Unmarked n.digitChar := by
  rcases Nat.lt_or_ge n 16 with hlt | hge
  · interval_cases n <;> decide
  · have hstar : n.digitChar = '*' := by
      unfold Nat.digitChar
      simp only [show ∀ k < 16, n ≠ k by omega, if_false, Nat.reduceLT]
    rw [hstar]
    decide

theorem unmarked_toDigits {b n : ℕ} : ∀ c ∈ Nat.toDigits b n, Unmarked c := by
  have hcore : ∀ (fuel n : ℕ) (ds : List Char), (∀ c ∈ ds, Unmarked c) →
      ∀ c ∈ Nat.toDigitsCore b fuel n ds, Unmarked c := by
    intro fuel
    induction fuel with
    | zero => exact fun _ _ hds => hds
    | succ fuel ih =>
      intro n ds hds
      have hcons := List.forall_mem_cons.mpr ⟨unmarked_digitChar (n % b), hds⟩
      rw [Nat.toDigitsCore]
      split
      · exact hcons
      · exact ih _ _ hcons
  exact hcore _ _ _ nofun

theorem unmarked_hexadecimal (width n : ℕ) : ∀ c ∈ hexadecimal width n, Unmarked c := by
  intro c hc
  rcases List.mem_append.mp hc with hc | hc
  · rw [List.eq_of_mem_replicate hc]
    decide
  · exact unmarked_toDigits c hc

/-- A number between two texts. -/
theorem unmarked_between {front back : List Char} (hfront : ∀ c ∈ front, Unmarked c)
    (hback : ∀ c ∈ back, Unmarked c) (n : ℕ) : ∀ c ∈ front ++ decimal n ++ back, Unmarked c :=
  forall_append (forall_append hfront unmarked_toDigits) hback

theorem unmarked_tok2str {table : List (ℕ × String)}
    (htable : ∀ p ∈ table, ∀ c ∈ p.2.toList, Unmarked c) {fmt : ℕ → List Char}
    (hfmt : ∀ v, ∀ c ∈ fmt v, Unmarked c) (v : ℕ) : ∀ c ∈ tok2str table fmt v, Unmarked c := by
  rw [tok2str]
  split
  next s hs =>
    obtain ⟨front, rest, rfl, -⟩ := List.lookup_eq_some_iff.mp hs
    exact htable (v, s) (List.mem_append_right _ List.mem_cons_self)
  next => exact hfmt v

theorem unmarked_typeText (type : ℕ) : ∀ c ∈ typeText type, Unmarked c :=
  unmarked_tok2str (by decide) (fun _ => forall_append (by decide) unmarked_toDigits) type

theorem unmarked_classText (class' : ℕ) : ∀ c ∈ classText class', Unmarked c := by
  rw [classText]
  split
  · exact nofun
  · exact forall_append (by decide)
      (unmarked_tok2str (by decide) (unmarked_between (by decide) (by decide)) class')

theorem unmarked_countText (isUsual : Bool) (n : ℕ) {unit : String}
    (hunit : ∀ c ∈ unit.toList, Unmarked c) :
    ∀ c ∈ DnsHeader.countText isUsual n unit, Unmarked c := by
  rw [DnsHeader.countText]
  split
  · exact nofun
  · exact forall_append (unmarked_between (by decide) hunit n) (by decide)

theorem unmarked_getD {table : List String} (htable : ∀ s ∈ table, ∀ c ∈ s.toList, Unmarked c)
    (i : ℕ) : ∀ c ∈ (table.getD i "").toList, Unmarked c := by
  rcases Nat.lt_or_ge i table.length with hi | hi
  · rw [List.getD_eq_getElem _ _ hi]
    exact htable _ (List.getElem_mem hi)
  · rw [List.getD_eq_default _ _ hi]
    exact nofun

theorem unmarked_nsOps (i : ℕ) : ∀ c ∈ (nsOps.getD i "").toList, Unmarked c :=
  unmarked_getD (by decide) i

theorem unmarked_requestText (np : DnsHeader) : ∀ c ∈ np.requestText, Unmarked c := by
  rw [DnsHeader.requestText]
  refine forall_append (forall_append (forall_append (forall_append (forall_append
    (forall_append (forall_append unmarked_toDigits (unmarked_nsOps _)) ?_) ?_) ?_) ?_)
    (unmarked_countText _ _ (by decide))) (unmarked_countText _ _ (by decide))
  · split <;> decide
  · split <;> decide
  · split
    · exact nofun
    · exact forall_append (forall_append (by decide) (unmarked_hexadecimal _ _)) (by decide)
  · split
    all_goals
      exact forall_append (unmarked_countText _ _ (by decide)) (unmarked_countText _ _ (by decide))

theorem printable_printnChar (c : UInt8) : ∀ d ∈ printnChar c, Printable d := by
  have hall : ∀ n < 256, ∀ d ∈ printnChar (UInt8.ofNat n), Printable d := by decide +kernel
  have hc := hall c.toNat c.toNat_lt
  rwa [UInt8.ofNat_toNat] at hc

/-! ### What is read was captured -/

section Safety

/-- The kind has all that is printed for a capture, except for question marks: the printer's own
texts, and what `fn_printn` makes of a byte. -/
structure CoversPrint (capture : List UInt8) (kind : Char → Prop) : Prop where
  unmarked : ∀ c, Unmarked c → kind c
  printnChar : ∀ b ∈ capture, ∀ c ∈ printnChar b, kind c

theorem CoversPrint.text {capture : List UInt8} {kind : Char → Prop} (hk : CoversPrint capture kind)
    {text : List Char} (h : ∀ c ∈ text, Unmarked c) : ∀ c ∈ text, kind c :=
  fun c hc => hk.unmarked c (h c hc)

theorem covers_printable (capture : List UInt8) : CoversPrint capture Printable where
  unmarked _ h := h.1
  printnChar b _ := printable_printnChar b

variable {capture : List UInt8} {kind : Char → Prop}

theorem meets_extract16Bits {cp : ℕ} (h : cp + 2 ≤ capture.length) :
    Meets capture kind (extract16Bits cp) fun _ => True := by
  rw [extract16Bits]
  refine meets_bind (meets_byte (by omega)) fun high _ => ?_
  exact meets_bind (meets_byte (by omega)) fun low _ => meets_pure trivial

theorem meets_fnPrintn (hk : CoversPrint capture kind) (n s : ℕ) :
    Meets capture kind (fnPrintn n s) fun _ => True := by
  induction n generalizing s with
  | zero => exact meets_pure trivial
  | succ n ih =>
    rw [fnPrintn]
    refine meets_bind meets_snapend fun e he => ?_
    refine meets_ite (fun hs => ?_) fun _ => meets_pure trivial
    refine meets_bind (meets_byte (he ▸ hs)) fun b hb => ?_
    have hprinted := hk.printnChar b (List.mem_of_getElem? hb)
    exact meets_bind (meets_print hprinted) fun _ _ => ih _

/-- A length is one of a captured byte. -/
theorem meets_labellen (hk : CoversPrint capture kind) (cp : ℕ) :
    Meets capture kind (labellen cp) fun l => l.isSome = true → cp < capture.length := by
  rw [labellen]
  refine meets_bind (meets_captured cp 1) fun b hb => ?_
  refine meets_ite (fun htested => ?_) fun _ => meets_pure nofun
  have hcp : cp < capture.length := hb.mp htested
  refine meets_bind (meets_byte hcp) fun i _ => ?_
  refine meets_ite (fun _ => ?_) fun _ => meets_pure fun _ => hcp
  refine meets_ite (fun _ => ?_) fun _ => ?_
  · refine meets_bind (meets_print ?_) fun _ _ => meets_pure nofun
    exact hk.text (unmarked_between (by decide) (by decide) _)
  · refine meets_bind (meets_captured (cp + 1) 1) fun b hb => ?_
    refine meets_ite (fun htested => ?_) fun _ => meets_pure nofun
    exact meets_bind (meets_byte (by have := hb.mp htested; omega)) fun _ _ => meets_pure fun _ => hcp

theorem meets_blabelBytes (hk : CoversPrint capture kind) (lim : ℕ) {fuel b : ℕ} (hfuel : b < fuel)
    (bitp : ℕ) :
    Meets capture kind (blabelBytes lim fuel bitp b) fun _ => True := by
  induction fuel generalizing bitp b with
  | zero => omega
  | succ fuel ih =>
    rw [blabelBytes]
    refine meets_ite (fun hmore => ?_) fun _ => meets_pure trivial
    refine meets_bind (meets_captured bitp 1) fun b hb => ?_
    refine meets_ite (fun htested => ?_) fun _ => meets_pure trivial
    refine meets_bind (meets_byte (hb.mp htested)) fun c _ => ?_
    exact meets_bind (meets_print (hk.text (unmarked_hexadecimal 2 _)))
      fun _ _ => ih (by omega) _

theorem meets_blabelRest (hk : CoversPrint capture kind) (bitp b : ℕ) :
    Meets capture kind (blabelRest bitp b) fun _ => True := by
  have hdigits : ∀ (width : ℕ) (digits : UInt8 → ℕ), Meets capture kind
      (do if ← captured bitp 1 then
            let tc ← byte bitp
            print (hexadecimal width (digits tc))
            pure true
          else pure false : Printer Bool) fun _ => True := by
    intro width digits
    refine meets_bind (meets_captured bitp 1) fun b hb => ?_
    refine meets_ite (fun htested => ?_) fun _ => meets_pure trivial
    refine meets_bind (meets_byte (hb.mp htested)) fun tc _ => ?_
    exact meets_bind (meets_print (hk.text (unmarked_hexadecimal width _)))
      fun _ _ => meets_pure trivial
  rw [blabelRest]
  refine meets_ite (fun _ => hdigits 2 _) fun _ => ?_
  exact meets_ite (fun _ => hdigits 1 _) fun _ => meets_pure trivial

theorem meets_blabelPrint (hk : CoversPrint capture kind) (cp : ℕ) :
    Meets capture kind (blabelPrint cp) fun _ => True := by
  have hend : ∀ (front : String), (∀ c ∈ front.toList, Unmarked c) → ∀ n,
      ∀ c ∈ front.toList ++ decimal n ++ "]".toList, kind c := fun front hfront n =>
    hk.text (unmarked_between hfront (by decide) n)
  rw [blabelPrint]
  refine meets_bind (meets_captured cp 1) fun b hb => ?_
  refine meets_ite (fun htested => ?_) fun _ => meets_pure trivial
  refine meets_bind (meets_byte (hb.mp htested)) fun count _ => ?_
  dsimp only
  refine meets_bind (meets_print (hk.text (by decide))) fun _ _ => ?_
  refine meets_bind (meets_blabelBytes hk _ (Nat.lt_succ_self _) _) fun bytes _ => ?_
  match bytes with
  | none => exact meets_bind (meets_print (hend ".../" (by decide) _)) fun _ _ => meets_pure trivial
  | some (bitp, b) =>
    refine meets_bind (meets_blabelRest hk bitp b) fun printed _ => ?_
    refine meets_ite (fun _ => ?_) fun _ => ?_
    · exact meets_bind (meets_print (hend "/" (by decide) _)) fun _ _ => meets_pure trivial
    · exact meets_bind (meets_print (hend ".../" (by decide) _)) fun _ _ => meets_pure trivial

/-- The next length does not lie before the label. -/
theorem meets_skipLabel (i : UInt8) (cp : ℕ) :
    Meets capture kind (skipLabel i cp) fun next => ∀ cp' ∈ next, cp ≤ cp' := by
  rw [skipLabel]
  refine meets_ite (fun _ => ?_) fun _ => meets_pure fun cp' hcp' => ?_
  · refine meets_ite (fun _ => meets_pure nofun) fun _ => ?_
    refine meets_bind (meets_captured cp 1) fun b hb => ?_
    refine meets_ite (fun htested => ?_) fun _ => meets_pure nofun
    refine meets_bind (meets_byte (hb.mp htested)) fun count _ => meets_pure fun cp' hcp' => ?_
    obtain rfl := Option.some.inj hcp'
    omega
  · obtain rfl := Option.some.inj hcp'
    omega

theorem meets_nskipLoop {fuel cp : ℕ} (hcp : cp ≤ capture.length) (hfuel : capture.length - cp < fuel)
    (i : UInt8) : Meets capture kind (nskipLoop fuel i cp) fun _ => True := by
  induction fuel generalizing i cp with
  | zero => omega
  | succ fuel ih =>
    rw [nskipLoop]
    refine meets_ite (fun _ => meets_pure trivial) fun _ => ?_
    refine meets_ite (fun _ => meets_pure trivial) fun _ => ?_
    refine meets_bind (meets_skipLabel i cp) fun next hnext => ?_
    match next with
    | none => exact meets_pure trivial
    | some cp' =>
      have hle := hnext cp' rfl
      refine meets_bind (meets_captured cp' 1) fun b hb => ?_
      refine meets_ite (fun htested => ?_) fun _ => meets_pure trivial
      have hlt := hb.mp htested
      exact meets_bind (meets_byte hlt) fun i' _ => ih (by omega) (by omega) i'

theorem meets_nsNskip (cp : ℕ) : Meets capture kind (nsNskip cp) fun _ => True := by
  rw [nsNskip]
  refine meets_bind (meets_captured cp 1) fun b hb => ?_
  refine meets_ite (fun htested => ?_) fun _ => meets_pure trivial
  have hlt := hb.mp htested
  refine meets_bind (meets_byte hlt) fun i _ => ?_
  refine meets_bind meets_snapend fun e he => ?_
  obtain rfl := he
  exact meets_nskipLoop (by omega) (by omega) i

theorem meets_printLabel (hk : CoversPrint capture kind) (i : UInt8) (l cp : ℕ) :
    Meets capture kind (printLabel i l cp) fun _ => True := by
  rw [printLabel]
  refine meets_ite (fun _ => ?_) fun _ => ?_
  · refine meets_ite (fun _ => ?_) fun _ => ?_
    · exact meets_bind (meets_blabelPrint hk cp) fun _ _ => meets_pure trivial
    · refine meets_bind (meets_print ?_) fun _ _ => meets_pure trivial
      exact hk.text (unmarked_between (by decide) (by decide) _)
  · exact meets_bind (meets_fnPrintn hk l cp) fun _ _ => meets_pure trivial

theorem meets_nextLength (hk : CoversPrint capture kind) (cp : ℕ) :
    Meets capture kind (nextLength cp) fun next => next.isSome = true → cp < capture.length := by
  rw [nextLength]
  refine meets_bind (meets_labellen hk cp) fun l hl => ?_
  match l with
  | none => exact meets_pure nofun
  | some l =>
    have hlt := hl rfl
    refine meets_bind (meets_captured cp 1) fun b _ => ?_
    refine meets_ite (fun _ => ?_) fun _ => meets_pure nofun
    exact meets_bind (meets_byte hlt) fun _ _ => meets_pure fun _ => hlt

/-- How long the loop of `ns_nprint` can go on: a pointer uses up a character, and what is between
two pointers a part of the capture. -/
def NprintState.measure (s : NprintState) (dataSize size : ℕ) : ℕ :=
  (dataSize - s.charsProcessed) * (size + 1) + (size - s.cp)

/-- **The loop of `ns_nprint` ends**, within the capture. -/
theorem meets_nprintLoop (hk : CoversPrint capture kind) (bp dataSize : ℕ) {fuel : ℕ} {s : NprintState}
    (hcp : s.cp ≤ capture.length) (hfuel : s.measure dataSize capture.length < fuel) :
    Meets capture kind (nprintLoop bp dataSize fuel s) fun _ => True := by
  induction fuel generalizing s with
  | zero => omega
  | succ fuel ih =>
    rw [nprintLoop]
    refine meets_bind meets_snapend fun e he => ?_
    obtain rfl := he
    refine meets_ite (fun hmore => ?_) fun _ => meets_pure trivial
    refine meets_ite (fun _ => ?_) fun _ => ?_
    · dsimp only
      refine meets_bind (meets_captured s.cp 1) fun b hb => ?_
      refine meets_ite (fun htested => ?_) fun _ => meets_pure trivial
      refine meets_bind (meets_byte hmore.2) fun low _ => ?_
      refine meets_bind (meets_nextLength hk _) fun next hnext => ?_
      match next with
      | none => exact meets_pure trivial
      | some (l, i) =>
        have hlt := hnext rfl
        refine meets_ite (fun _ => ?_) fun hloop => ih hlt ?_
        · exact meets_bind (meets_print (hk.text (by decide))) fun _ _ => meets_pure trivial
        · have hless : dataSize - (s.charsProcessed + 1) + 1 = dataSize - s.charsProcessed := by omega
          rw [NprintState.measure, ← hless, Nat.add_mul] at hfuel
          rw [NprintState.measure]
          dsimp only
          omega
    · refine meets_bind (meets_printLabel hk s.i s.l s.cp) fun printed _ => ?_
      refine meets_ite (fun _ => ?_) fun _ => meets_pure trivial
      refine meets_bind (meets_print (hk.text (by decide))) fun _ _ => ?_
      refine meets_bind (meets_nextLength hk _) fun next hnext => ?_
      match next with
      | none => exact meets_pure trivial
      | some (l, i) =>
        have hlt := hnext rfl
        refine ih hlt ?_
        have hless : (dataSize - (s.charsProcessed + s.l + 1)) * (capture.length + 1)
            ≤ (dataSize - s.charsProcessed) * (capture.length + 1) :=
          Nat.mul_le_mul_right _ (by omega)
        rw [NprintState.measure] at hfuel ⊢
        dsimp only
        omega

theorem meets_nsNprint (hk : CoversPrint capture kind) (cp bp : ℕ) :
    Meets capture kind (nsNprint cp bp) fun _ => True := by
  rw [nsNprint]
  refine meets_bind meets_snapend fun e he => ?_
  obtain rfl := he
  dsimp only
  refine meets_bind (meets_nextLength hk cp) fun next hnext => ?_
  match next with
  | none => exact meets_pure trivial
  | some (l, i) =>
    have hlt := hnext rfl
    refine meets_ite (fun _ => ?_) fun _ => meets_nprintLoop hk bp _ hlt ?_
    · exact meets_bind (meets_print (hk.text (by decide))) fun _ _ => meets_pure trivial
    · have hsize : (capture.length - bp - 1) * (capture.length + 1)
          ≤ capture.length * (capture.length + 1) := Nat.mul_le_mul_right _ (by omega)
      have hsquare : (capture.length + 1) * (capture.length + 1)
          = capture.length * (capture.length + 1) + (capture.length + 1) := Nat.add_one_mul _ _
      rw [NprintState.measure, hsquare]
      dsimp only
      omega

theorem meets_nsQprint (cp bp : ℕ) : Meets capture Printable (nsQprint cp bp) fun _ => True := by
  rw [nsQprint]
  refine meets_bind (meets_nsNskip cp) fun next _ => ?_
  match next with
  | none => exact meets_pure trivial
  | some next =>
    refine meets_bind (meets_captured next 4) fun b hb => ?_
    refine meets_ite (fun htested => ?_) fun _ => meets_pure trivial
    have hle := hb.mp htested
    refine meets_bind (meets_extract16Bits (by omega)) fun type _ => ?_
    refine meets_bind (meets_print (printable_of_unmarked
      (forall_append (by decide) (unmarked_typeText type)))) fun _ _ => ?_
    refine meets_bind (meets_extract16Bits (by omega)) fun class' _ => ?_
    refine meets_bind (meets_print (printable_of_unmarked (unmarked_classText class'))) fun _ _ => ?_
    refine meets_bind (meets_print (by decide)) fun _ _ => ?_
    exact meets_bind (meets_nsNprint (covers_printable capture) cp bp) fun _ _ => meets_pure trivial

theorem meets_moreQuestions (qdcount cp : ℕ) :
    Meets capture Printable (moreQuestions qdcount cp) fun _ => True := by
  induction qdcount generalizing cp with
  | zero => exact meets_pure trivial
  | succ qdcount ih =>
    rw [moreQuestions]
    refine meets_bind meets_snapend fun e _ => ?_
    refine meets_ite (fun _ => ?_) fun _ => meets_pure trivial
    refine meets_bind (meets_nsQprint cp 0) fun next _ => ?_
    match next with
    | none => exact meets_pure trivial
    | some cp => exact ih cp

theorem meets_questions (qdcount : ℕ) :
    Meets capture Printable (questions qdcount) fun _ => True := by
  cases qdcount with
  | zero => exact meets_pure trivial
  | succ qdcount =>
    rw [questions]
    refine meets_bind (meets_nsQprint 12 0) fun next _ => ?_
    match next with
    | none => exact meets_pure trivial
    | some cp => exact meets_moreQuestions qdcount cp

theorem meets_readHeader (h : 12 ≤ capture.length) :
    Meets capture kind readHeader fun np => capture[2]? = some np.flags1 := by
  rw [readHeader]
  refine meets_bind (meets_extract16Bits (by omega)) fun id _ => ?_
  refine meets_bind (meets_byte (by omega)) fun flags1 hflags1 => ?_
  refine meets_bind (meets_byte (by omega)) fun flags2 _ => ?_
  refine meets_bind (meets_extract16Bits (by omega)) fun qdcount _ => ?_
  refine meets_bind (meets_extract16Bits (by omega)) fun ancount _ => ?_
  refine meets_bind (meets_extract16Bits (by omega)) fun nscount _ => ?_
  exact meets_bind (meets_extract16Bits (by omega)) fun arcount _ => meets_pure hflags1

/-- **Printing a message** meets what printing a response does. -/
theorem meets_nsPrint {response : DnsHeader → Printer Unit}
    (hresponse : ∀ np, Meets capture Printable (response np) fun _ => True) (length : ℕ) :
    Meets capture Printable (nsPrint response length) fun _ => True := by
  rw [nsPrint]
  refine meets_bind (meets_captured 0 12) fun b hb => ?_
  refine meets_ite (fun htested => ?_) fun _ => meets_print (by decide)
  have hheader := hb.mp htested
  refine meets_bind (meets_readHeader (by omega)) fun np _ => ?_
  refine meets_ite (fun _ => hresponse np) fun _ => ?_
  refine meets_bind (meets_print (printable_of_unmarked (unmarked_requestText np))) fun _ _ => ?_
  refine meets_bind (meets_questions np.qdcount) fun left _ => ?_
  match left with
  | some 0 =>
    exact meets_print (printable_of_unmarked (unmarked_between (by decide) (by decide) length))
  | some (_ + 1) => exact meets_print (by decide)
  | none => exact meets_print (by decide)

end Safety

end AdAway
