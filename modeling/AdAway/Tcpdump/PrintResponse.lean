import AdAway.Tcpdump.TcpdumpUtils

/-!
# How tcpdump prints a DNS response

The filter of the log is the port that a packet is sent to, so a response that an application sends
to port 53 is printed as well, with the records it answers by. What stands in the records is up to
that application: lengths, pointers and strings.

It can do no harm. Printing a message of any kind reads nothing that was not captured and ends, and
the line is of printable ASCII characters, so a message makes one line of the log, and reading the
log meets no malformed text. A response is not taken for a query either, unless it has a question mark
of its own.

## What is left out

The records of the authorities and the additional ones, which only `-vv` prints. `inet_ntop` is the
one of the C library.

## Main definitions

* `recordData`, `nsRprint` — the data of a record, and the record
* `nsResponse` — the branch of `ns_print` for responses

## Main results

* `nsPrint_safe` — every message is printed without a fault, as printable text
* `getTcpdumpHostname_response` — what a response has to do with a host that is found
-/

namespace AdAway

open Dissector

/-! ### The data of a record

Each function says whether the data was there: what follows in the message is not printed if it was
not. -/

/-- `EXTRACT_32BITS`. -/
def extract32Bits (cp : ℕ) : Printer ℕ := do
  let high ← extract16Bits cp
  let low ← extract16Bits (cp + 2)
  pure (high * 0x10000 + low)

/-- `memcpy`, of this many bytes. -/
def memcpy : ℕ → ℕ → Printer (List UInt8)
  | 0, _ => pure []
  | n + 1, cp => do
    let b ← byte cp
    pure (b :: (← memcpy n (cp + 1)))

/-- `intoa`, of an address in the order of the host. -/
def intoa (addr : ℕ) : List Char :=
  ['.'].intercalate ([24, 16, 8, 0].map fun shift => decimal ((addr >>> shift) &&& 0xff))

/-- `ns_cprint`. -/
def nsCprint (cp : ℕ) : Printer (Option ℕ) := do
  if ← captured cp 1 then
    let i ← byte cp
    if ← fnPrintn i.toNat (cp + 1) then pure none
    else pure (some (cp + 1 + i.toNat))
  else pure none

/-- The data of `T_A`. -/
def aData (cp : ℕ) : Printer Bool := do
  if ← captured cp 4 then
    print (" ".toList ++ intoa (← extract32Bits cp))
    pure true
  else pure false

/-- The data of `T_NS`, `T_CNAME`, `T_PTR` and `T_DNAME`. -/
def nameData (cp bp : ℕ) : Printer Bool := do
  print " ".toList
  pure (← nsNprint cp bp).isSome

/-- Numbers of 32 bits. -/
def numbers : ℕ → ℕ → Printer Unit
  | 0, _ => pure ()
  | n + 1, cp => do
    print (" ".toList ++ decimal (← extract32Bits cp))
    numbers n (cp + 4)

/-- The data of `T_SOA`. -/
def soaData (cp bp : ℕ) : Printer Bool := do
  print " ".toList
  match ← nsNprint cp bp with
  | none => pure false
  | some cp =>
    print " ".toList
    match ← nsNprint cp bp with
    | none => pure false
    | some cp =>
      if ← captured cp (5 * 4) then
        numbers 5 cp
        pure true
      else pure false

/-- The data of `T_MX`. -/
def mxData (cp bp : ℕ) : Printer Bool := do
  print " ".toList
  if ← captured cp 2 then
    if (← nsNprint (cp + 2) bp).isSome then
      print (" ".toList ++ decimal (← extract16Bits cp))
      pure true
    else pure false
  else pure false

/-- The data of `T_TXT`, from `cp` to `rp`. -/
def txtData (rp : ℕ) : ℕ → ℕ → Printer Bool
  | 0, _ => endless
  | fuel + 1, cp => do
    if cp < rp then
      print " \"".toList
      match ← nsCprint cp with
      | none => pure false
      | some cp =>
        print "\"".toList
        txtData rp fuel cp
    else pure true

/-- The data of `T_SRV`. -/
def srvData (cp bp : ℕ) : Printer Bool := do
  print " ".toList
  if ← captured cp 6 then
    if (← nsNprint (cp + 6) bp).isSome then
      print (":".toList ++ decimal (← extract16Bits (cp + 4)))
      print (" ".toList ++ decimal (← extract16Bits cp))
      print (" ".toList ++ decimal (← extract16Bits (cp + 2)))
      pure true
    else pure false
  else pure false

/-- The data of `T_OPT`; the class is the size of a buffer. -/
def optData (class' optFlags : ℕ) : Printer Bool := do
  print (" UDPsize=".toList ++ decimal class' ++
    if optFlags &&& 0x8000 = 0 then [] else " OK".toList)
  pure true

/-- The data of `T_UNSPECA`. -/
def unspecaData (cp len : ℕ) : Printer Bool := do
  if ← captured cp len then pure (!(← fnPrintn len cp))
  else pure false

/-- A field of `T_TSIG`: its value, if it is there. -/
def tsigField (name : String) (cp : ℕ) : Printer (Option ℕ) := do
  if ← captured cp 2 then
    let value ← extract16Bits cp
    print (" ".toList ++ name.toList ++ "=".toList ++ decimal value)
    pure (some value)
  else pure none

/-- The fields of `T_TSIG`, from behind the time. -/
def tsigFields (cp : ℕ) : Printer Bool := do
  match ← tsigField "fudge" cp with
  | none => pure false
  | some _ =>
    match ← tsigField "maclen" (cp + 2) with
    | none => pure false
    | some maclen =>
      let cp := cp + 4 + maclen
      match ← tsigField "origid" cp with
      | none => pure false
      | some _ =>
        match ← tsigField "error" (cp + 2) with
        | none => pure false
        | some _ => pure (← tsigField "otherlen" (cp + 4)).isSome

/-- The data of `T_TSIG`. -/
def tsigData (cp bp len : ℕ) : Printer Bool := do
  if (← snapend) < cp + len then pure false
  else
    print " ".toList
    match ← nsNprint cp bp with
    | none => pure false
    | some cp => tsigFields (cp + 6)

section InetNtop

-- `inet_ntop`, of the bytes of an IPv6 address
variable (inetNtop : List UInt8 → List Char)

/-- The data of `T_AAAA`. -/
def aaaaData (cp : ℕ) : Printer Bool := do
  if ← captured cp 16 then
    print (" ".toList ++ inetNtop (← memcpy 16 cp))
    pure true
  else pure false

/-- The part of the address that `T_A6` has. -/
def a6Address (pbit pbyte cp : ℕ) : Printer Bool := do
  if pbit < 128 then
    if ← captured (cp + 1) (16 - pbyte) then
      let suffix ← memcpy (16 - pbyte) (cp + 1)
      print (" ".toList ++ decimal pbit ++ " ".toList ++
        inetNtop (List.replicate pbyte 0 ++ suffix))
      pure true
    else pure false
  else pure true

/-- The data of `T_A6`. -/
def a6Data (cp bp : ℕ) : Printer Bool := do
  if ← captured cp 1 then
    let pbit ← byte cp
    let pbyte := ((pbit &&& ~~~7) / 8).toNat
    if 128 < pbit then
      print (" ".toList ++ decimal pbit.toNat ++ "(bad plen)".toList)
      pure true
    else if ← a6Address inetNtop pbit.toNat pbyte cp then
      if 0 < pbit then nameData (cp + 1 + 16 - pbyte) bp
      else pure true
    else pure false
  else pure false

/-- The data of a record of this type, at `cp`. -/
def recordData (typ class' optFlags len cp bp : ℕ) : Printer Bool := do
  match typ with
  | 1 => aData cp
  | 2 | 5 | 12 | 39 => nameData cp bp
  | 6 => soaData cp bp
  | 15 => mxData cp bp
  | 16 => txtData (cp + len) (len + 1) cp
  | 28 => aaaaData inetNtop cp
  | 33 => srvData cp bp
  | 38 => a6Data inetNtop cp bp
  | 41 => optData class' optFlags
  | 104 => unspecaData cp len
  | 250 => tsigData cp bp len
  | _ => pure true

/-! ### Records -/

/-- The flags of `T_OPT`, which has them in place of a time. -/
def optFlags (typ cp : ℕ) : Printer ℕ :=
  if typ = 41 then extract16Bits (cp + 6) else pure 0

/-- `ns_rprint`: where the next record starts, if this one was there. -/
def nsRprint (cp bp : ℕ) : Printer (Option ℕ) := do
  print " ".toList
  match ← nsNprint cp bp with
  | none => pure none
  | some cp =>
    if ← captured cp 10 then
      let typ ← extract16Bits cp
      let class' ← extract16Bits (cp + 2)
      print (if typ = 41 then [] else classText class')
      let flags ← optFlags typ cp
      let len ← extract16Bits (cp + 8)
      let rp := cp + 10 + len
      print (" ".toList ++ typeText typ)
      if (← snapend) < rp then pure none
      else if ← recordData inetNtop typ class' flags len (cp + 10) bp then pure (some rp)
      else pure none
    else pure (some (← snapend))

/-- The records after the first one: those not printed, or nothing if one is truncated. -/
def moreRecords : ℕ → ℕ → Printer (Option ℕ)
  | 0, _ => pure (some 0)
  | ancount + 1, cp => do
    if cp < (← snapend) then
      print ",".toList
      match ← nsRprint inetNtop cp 0 with
      | none => pure none
      | some cp => moreRecords ancount cp
    else pure (some (ancount + 1))

/-- The records of a section: those not printed, or nothing if one is truncated. -/
def records : ℕ → ℕ → Printer (Option ℕ)
  | 0, _ => pure (some 0)
  | ancount + 1, cp => do
    match ← nsRprint inetNtop cp 0 with
    | none => pure none
    | some cp => moreRecords inetNtop ancount cp

/-! ### The response -/

/-- `ns_resp`. -/
def nsResp : List String :=
  ["", " FormErr", " ServFail", " NXDomain", " NotImp", " Refused", " YXDomain", " YXRRSet",
    " NXRRSet", " NotAuth", " NotZone", " Resp11", " Resp12", " Resp13", " Resp14", " NoChange"]

/-- What `ns_print` prints of the header of a response. -/
def DnsHeader.responseText (np : DnsHeader) : List Char :=
  decimal np.id ++ (nsOps.getD np.opcode "").toList ++
    (nsResp.getD (np.flags2 &&& 0xf).toNat "").toList ++
    (if np.flags1 &&& 0x04 = 0 then [] else ['*']) ++
    (if np.flags2 &&& 0x80 = 0 then ['-'] else []) ++
    (if np.flags1 &&& 0x02 = 0 then [] else ['|']) ++
    (if np.flags2 &&& 0x20 = 0 then [] else ['$']) ++
    countText (np.qdcount = 1) np.qdcount "q"

/-- The questions of a response are skipped: what follows them, if they are there. -/
def skipQuestions (count : ℕ) : ℕ → ℕ → Printer (Option ℕ)
  | 0, cp => pure (some cp)
  | qdcount + 1, cp => do
    print (if qdcount < count - 1 then ",".toList else [])
    match ← nsNskip cp with
    | none => pure none
    | some cp => skipQuestions count qdcount (cp + 4)

/-- `ns_print`, for a response of this length. -/
def nsResponse (length : ℕ) (np : DnsHeader) : Printer Unit := do
  print np.responseText
  match ← skipQuestions np.qdcount np.qdcount 12 with
  | none => trunc
  | some cp =>
    print (" ".toList ++ decimal np.ancount ++ "/".toList ++ decimal np.nscount ++ "/".toList ++
      decimal np.arcount)
    match ← records inetNtop np.ancount cp with
    | some 0 => print (" (".toList ++ decimal length ++ ")".toList)
    | some (_ + 1) | none => trunc

end InetNtop

/-! ### What is read was captured -/

section Safety

variable {capture : List UInt8} {kind : Char → Prop} {inetNtop : List UInt8 → List Char}

theorem meets_extract32Bits {cp : ℕ} (h : cp + 4 ≤ capture.length) :
    Meets capture kind (extract32Bits cp) fun _ => True := by
  rw [extract32Bits]
  refine meets_bind (meets_extract16Bits (by omega)) fun high _ => ?_
  exact meets_bind (meets_extract16Bits (by omega)) fun low _ => meets_pure trivial

theorem meets_memcpy {n cp : ℕ} (h : cp + n ≤ capture.length) :
    Meets capture kind (memcpy n cp) fun _ => True := by
  induction n generalizing cp with
  | zero => exact meets_pure trivial
  | succ n ih =>
    rw [memcpy]
    refine meets_bind (meets_byte (by omega)) fun b _ => ?_
    exact meets_bind (ih (by omega)) fun _ _ => meets_pure trivial

theorem unmarked_intoa (addr : ℕ) : ∀ c ∈ intoa addr, Unmarked c := by
  simp only [intoa, List.map_cons, List.map_nil, List.intercalate_cons_cons,
    List.intercalate_singleton]
  have hdot : ∀ c ∈ ['.'], Unmarked c := by decide
  exact forall_append (forall_append unmarked_toDigits hdot) (forall_append (forall_append
    unmarked_toDigits hdot) (forall_append (forall_append unmarked_toDigits hdot) unmarked_toDigits))

/-- The next string lies behind this one. -/
theorem meets_nsCprint (hk : CoversPrint capture kind) (cp : ℕ) :
    Meets capture kind (nsCprint cp) fun next => ∀ cp' ∈ next, cp < cp' := by
  rw [nsCprint]
  refine meets_bind (meets_captured cp 1) fun b hb => ?_
  refine meets_ite (fun htested => ?_) fun _ => meets_pure nofun
  refine meets_bind (meets_byte (hb.mp htested)) fun i _ => ?_
  refine meets_bind (meets_fnPrintn hk _ _) fun truncated _ => ?_
  refine meets_ite (fun _ => meets_pure nofun) fun _ => meets_pure fun cp' hcp' => ?_
  obtain rfl := Option.some.inj hcp'
  omega

theorem meets_aData (hk : CoversPrint capture kind) (cp : ℕ) :
    Meets capture kind (aData cp) fun _ => True := by
  rw [aData]
  refine meets_bind (meets_captured cp 4) fun b hb => ?_
  refine meets_ite (fun htested => ?_) fun _ => meets_pure trivial
  refine meets_bind (meets_extract32Bits (hb.mp htested)) fun addr _ => ?_
  refine meets_bind (meets_print (hk.text (forall_append (by decide) (unmarked_intoa addr)))) ?_
  exact fun _ _ => meets_pure trivial

theorem meets_nameData (hk : CoversPrint capture kind) (cp bp : ℕ) :
    Meets capture kind (nameData cp bp) fun _ => True := by
  rw [nameData]
  refine meets_bind (meets_print (hk.text (by decide))) fun _ _ => ?_
  exact meets_bind (meets_nsNprint hk cp bp) fun _ _ => meets_pure trivial

theorem meets_numbers (hk : CoversPrint capture kind) {n cp : ℕ} (h : cp + n * 4 ≤ capture.length) :
    Meets capture kind (numbers n cp) fun _ => True := by
  induction n generalizing cp with
  | zero => exact meets_pure trivial
  | succ n ih =>
    rw [numbers]
    refine meets_bind (meets_extract32Bits (by omega)) fun number _ => ?_
    refine meets_bind (meets_print (hk.text (forall_append (by decide) unmarked_toDigits))) ?_
    exact fun _ _ => ih (by omega)

theorem meets_soaData (hk : CoversPrint capture kind) (cp bp : ℕ) :
    Meets capture kind (soaData cp bp) fun _ => True := by
  rw [soaData]
  refine meets_bind (meets_print (hk.text (by decide))) fun _ _ => ?_
  refine meets_bind (meets_nsNprint hk cp bp) fun next _ => ?_
  match next with
  | none => exact meets_pure trivial
  | some cp =>
    refine meets_bind (meets_print (hk.text (by decide))) fun _ _ => ?_
    refine meets_bind (meets_nsNprint hk cp bp) fun next _ => ?_
    match next with
    | none => exact meets_pure trivial
    | some cp =>
      refine meets_bind (meets_captured cp (5 * 4)) fun b hb => ?_
      refine meets_ite (fun htested => ?_) fun _ => meets_pure trivial
      exact meets_bind (meets_numbers hk (hb.mp htested)) fun _ _ => meets_pure trivial

theorem meets_mxData (hk : CoversPrint capture kind) (cp bp : ℕ) :
    Meets capture kind (mxData cp bp) fun _ => True := by
  rw [mxData]
  refine meets_bind (meets_print (hk.text (by decide))) fun _ _ => ?_
  refine meets_bind (meets_captured cp 2) fun b hb => ?_
  refine meets_ite (fun htested => ?_) fun _ => meets_pure trivial
  refine meets_bind (meets_nsNprint hk (cp + 2) bp) fun next _ => ?_
  refine meets_ite (fun _ => ?_) fun _ => meets_pure trivial
  refine meets_bind (meets_extract16Bits (hb.mp htested)) fun preference _ => ?_
  refine meets_bind (meets_print (hk.text (forall_append (by decide) unmarked_toDigits))) ?_
  exact fun _ _ => meets_pure trivial

/-- Each string takes the loop on. -/
theorem meets_txtData (hk : CoversPrint capture kind) {rp fuel cp : ℕ} (hfuel : rp - cp < fuel) :
    Meets capture kind (txtData rp fuel cp) fun _ => True := by
  induction fuel generalizing cp with
  | zero => omega
  | succ fuel ih =>
    rw [txtData]
    refine meets_ite (fun hmore => ?_) fun _ => meets_pure trivial
    refine meets_bind (meets_print (hk.text (by decide))) fun _ _ => ?_
    refine meets_bind (meets_nsCprint hk cp) fun next hnext => ?_
    match next with
    | none => exact meets_pure trivial
    | some cp' =>
      have hlt := hnext cp' rfl
      exact meets_bind (meets_print (hk.text (by decide))) fun _ _ => ih (by omega)

theorem meets_srvData (hk : CoversPrint capture kind) (cp bp : ℕ) :
    Meets capture kind (srvData cp bp) fun _ => True := by
  have hnumber : ∀ {front : String}, (∀ c ∈ front.toList, Unmarked c) → ∀ n,
      ∀ c ∈ front.toList ++ decimal n, kind c := fun hfront n =>
    hk.text (forall_append hfront unmarked_toDigits)
  rw [srvData]
  refine meets_bind (meets_print (hk.text (by decide))) fun _ _ => ?_
  refine meets_bind (meets_captured cp 6) fun b hb => ?_
  refine meets_ite (fun htested => ?_) fun _ => meets_pure trivial
  have hle := hb.mp htested
  refine meets_bind (meets_nsNprint hk (cp + 6) bp) fun next _ => ?_
  refine meets_ite (fun _ => ?_) fun _ => meets_pure trivial
  refine meets_bind (meets_extract16Bits (by omega)) fun port _ => ?_
  refine meets_bind (meets_print (hnumber (by decide) port)) fun _ _ => ?_
  refine meets_bind (meets_extract16Bits (by omega)) fun priority _ => ?_
  refine meets_bind (meets_print (hnumber (by decide) priority)) fun _ _ => ?_
  refine meets_bind (meets_extract16Bits (by omega)) fun weight _ => ?_
  exact meets_bind (meets_print (hnumber (by decide) weight)) fun _ _ => meets_pure trivial

theorem meets_optData (hk : CoversPrint capture kind) (class' flags : ℕ) :
    Meets capture kind (optData class' flags) fun _ => True := by
  have hok : ∀ c ∈ if flags &&& 0x8000 = 0 then [] else " OK".toList, Unmarked c := by
    split <;> decide
  refine meets_bind (meets_print (hk.text ?_)) fun _ _ => meets_pure trivial
  exact forall_append (forall_append (by decide) unmarked_toDigits) hok

theorem meets_unspecaData (hk : CoversPrint capture kind) (cp len : ℕ) :
    Meets capture kind (unspecaData cp len) fun _ => True := by
  rw [unspecaData]
  refine meets_bind (meets_captured cp len) fun b _ => ?_
  refine meets_ite (fun _ => ?_) fun _ => meets_pure trivial
  exact meets_bind (meets_fnPrintn hk len cp) fun _ _ => meets_pure trivial

theorem meets_tsigField (hk : CoversPrint capture kind) {name : String}
    (hname : ∀ c ∈ name.toList, Unmarked c) (cp : ℕ) :
    Meets capture kind (tsigField name cp) fun _ => True := by
  rw [tsigField]
  refine meets_bind (meets_captured cp 2) fun b hb => ?_
  refine meets_ite (fun htested => ?_) fun _ => meets_pure trivial
  refine meets_bind (meets_extract16Bits (hb.mp htested)) fun value _ => ?_
  refine meets_bind (meets_print (hk.text ?_)) fun _ _ => meets_pure trivial
  exact forall_append (forall_append (forall_append (by decide) hname) (by decide)) unmarked_toDigits

theorem meets_tsigFields (hk : CoversPrint capture kind) (cp : ℕ) :
    Meets capture kind (tsigFields cp) fun _ => True := by
  rw [tsigFields]
  refine meets_bind (meets_tsigField hk (by decide) _) fun fudge _ => ?_
  match fudge with
  | none => exact meets_pure trivial
  | some _ =>
    refine meets_bind (meets_tsigField hk (by decide) _) fun maclen _ => ?_
    match maclen with
    | none => exact meets_pure trivial
    | some maclen =>
      refine meets_bind (meets_tsigField hk (by decide) _) fun origid _ => ?_
      match origid with
      | none => exact meets_pure trivial
      | some _ =>
        refine meets_bind (meets_tsigField hk (by decide) _) fun error _ => ?_
        match error with
        | none => exact meets_pure trivial
        | some _ =>
          refine meets_bind (meets_tsigField hk (by decide) _) fun otherlen _ => ?_
          exact meets_pure trivial

theorem meets_tsigData (hk : CoversPrint capture kind) (cp bp len : ℕ) :
    Meets capture kind (tsigData cp bp len) fun _ => True := by
  rw [tsigData]
  refine meets_bind meets_snapend fun e _ => ?_
  refine meets_ite (fun _ => meets_pure trivial) fun _ => ?_
  refine meets_bind (meets_print (hk.text (by decide))) fun _ _ => ?_
  refine meets_bind (meets_nsNprint hk cp bp) fun next _ => ?_
  match next with
  | none => exact meets_pure trivial
  | some cp => exact meets_tsigFields hk (cp + 6)

/-- What `inet_ntop` writes: hexadecimal digits, colons and dots. -/
def WritesUnmarked (inetNtop : List UInt8 → List Char) : Prop :=
  ∀ addr, ∀ c ∈ inetNtop addr, Unmarked c

theorem meets_aaaaData (hk : CoversPrint capture kind) (hntop : WritesUnmarked inetNtop) (cp : ℕ) :
    Meets capture kind (aaaaData inetNtop cp) fun _ => True := by
  rw [aaaaData]
  refine meets_bind (meets_captured cp 16) fun b hb => ?_
  refine meets_ite (fun htested => ?_) fun _ => meets_pure trivial
  refine meets_bind (meets_memcpy (hb.mp htested)) fun addr _ => ?_
  refine meets_bind (meets_print (hk.text (forall_append (by decide) (hntop addr)))) ?_
  exact fun _ _ => meets_pure trivial

theorem meets_a6Address (hk : CoversPrint capture kind) (hntop : WritesUnmarked inetNtop)
    (pbit pbyte cp : ℕ) : Meets capture kind (a6Address inetNtop pbit pbyte cp) fun _ => True := by
  rw [a6Address]
  refine meets_ite (fun _ => ?_) fun _ => meets_pure trivial
  refine meets_bind (meets_captured (cp + 1) (16 - pbyte)) fun b hb => ?_
  refine meets_ite (fun htested => ?_) fun _ => meets_pure trivial
  refine meets_bind (meets_memcpy (hb.mp htested)) fun suffix _ => ?_
  refine meets_bind (meets_print (hk.text ?_)) fun _ _ => meets_pure trivial
  exact forall_append (unmarked_between (by decide) (by decide) pbit) (hntop _)

theorem meets_a6Data (hk : CoversPrint capture kind) (hntop : WritesUnmarked inetNtop) (cp bp : ℕ) :
    Meets capture kind (a6Data inetNtop cp bp) fun _ => True := by
  rw [a6Data]
  refine meets_bind (meets_captured cp 1) fun b hb => ?_
  refine meets_ite (fun htested => ?_) fun _ => meets_pure trivial
  refine meets_bind (meets_byte (hb.mp htested)) fun pbit _ => ?_
  dsimp only
  refine meets_ite (fun _ => ?_) fun _ => ?_
  · refine meets_bind (meets_print (hk.text ?_)) fun _ _ => meets_pure trivial
    exact unmarked_between (by decide) (by decide) pbit.toNat
  · refine meets_bind (meets_a6Address hk hntop _ _ cp) fun address _ => ?_
    refine meets_ite (fun _ => ?_) fun _ => meets_pure trivial
    exact meets_ite (fun _ => meets_nameData hk _ bp) fun _ => meets_pure trivial

theorem meets_recordData (hk : CoversPrint capture kind) (hntop : WritesUnmarked inetNtop)
    (typ class' flags len cp bp : ℕ) :
    Meets capture kind (recordData inetNtop typ class' flags len cp bp) fun _ => True := by
  unfold recordData
  split
  · exact meets_aData hk cp
  · exact meets_nameData hk cp bp
  · exact meets_nameData hk cp bp
  · exact meets_nameData hk cp bp
  · exact meets_nameData hk cp bp
  · exact meets_soaData hk cp bp
  · exact meets_mxData hk cp bp
  · exact meets_txtData hk (by omega)
  · exact meets_aaaaData hk hntop cp
  · exact meets_srvData hk cp bp
  · exact meets_a6Data hk hntop cp bp
  · exact meets_optData hk class' flags
  · exact meets_unspecaData hk cp len
  · exact meets_tsigData hk cp bp len
  · exact meets_pure trivial

theorem meets_optFlags (typ : ℕ) {cp : ℕ} (h : cp + 10 ≤ capture.length) :
    Meets capture kind (optFlags typ cp) fun _ => True :=
  meets_ite (fun _ => meets_extract16Bits (by omega)) fun _ => meets_pure trivial

theorem meets_nsRprint (hk : CoversPrint capture kind) (hntop : WritesUnmarked inetNtop) (cp bp : ℕ) :
    Meets capture kind (nsRprint inetNtop cp bp) fun _ => True := by
  rw [nsRprint]
  refine meets_bind (meets_print (hk.text (by decide))) fun _ _ => ?_
  refine meets_bind (meets_nsNprint hk cp bp) fun next _ => ?_
  match next with
  | none => exact meets_pure trivial
  | some cp =>
    refine meets_bind (meets_captured cp 10) fun b hb => ?_
    refine meets_ite (fun htested => ?_) fun _ => ?_
    · have hle := hb.mp htested
      refine meets_bind (meets_extract16Bits (by omega)) fun typ _ => ?_
      refine meets_bind (meets_extract16Bits (by omega)) fun class' _ => ?_
      refine meets_bind (meets_print (hk.text ?_)) fun _ _ => ?_
      · split
        · exact nofun
        · exact unmarked_classText class'
      refine meets_bind (meets_optFlags typ hle) fun flags _ => ?_
      refine meets_bind (meets_extract16Bits (by omega)) fun len _ => ?_
      dsimp only
      refine meets_bind (meets_print (hk.text (forall_append (by decide) (unmarked_typeText typ))))
        fun _ _ => ?_
      refine meets_bind meets_snapend fun e _ => ?_
      refine meets_ite (fun _ => meets_pure trivial) fun _ => ?_
      refine meets_bind (meets_recordData hk hntop typ class' flags len _ bp) fun _ _ => ?_
      exact meets_ite (fun _ => meets_pure trivial) fun _ => meets_pure trivial
    · exact meets_bind meets_snapend fun _ _ => meets_pure trivial

theorem meets_records (hk : CoversPrint capture kind) (hntop : WritesUnmarked inetNtop)
    (ancount cp : ℕ) : Meets capture kind (records inetNtop ancount cp) fun _ => True := by
  have hmore : ∀ ancount cp, Meets capture kind (moreRecords inetNtop ancount cp) fun _ => True := by
    intro ancount
    induction ancount with
    | zero => exact fun _ => meets_pure trivial
    | succ ancount ih =>
      intro cp
      rw [moreRecords]
      refine meets_bind meets_snapend fun e _ => ?_
      refine meets_ite (fun _ => ?_) fun _ => meets_pure trivial
      refine meets_bind (meets_print (hk.text (by decide))) fun _ _ => ?_
      refine meets_bind (meets_nsRprint hk hntop cp 0) fun next _ => ?_
      match next with
      | none => exact meets_pure trivial
      | some cp => exact ih cp
  cases ancount with
  | zero => exact meets_pure trivial
  | succ ancount =>
    rw [records]
    refine meets_bind (meets_nsRprint hk hntop cp 0) fun next _ => ?_
    match next with
    | none => exact meets_pure trivial
    | some cp => exact hmore ancount cp

theorem meets_skipQuestions (hk : CoversPrint capture kind) (count qdcount cp : ℕ) :
    Meets capture kind (skipQuestions count qdcount cp) fun _ => True := by
  induction qdcount generalizing cp with
  | zero => exact meets_pure trivial
  | succ qdcount ih =>
    have hcomma : ∀ c ∈ if qdcount < count - 1 then ",".toList else [], Unmarked c := by
      split <;> decide
    rw [skipQuestions]
    refine meets_bind (meets_print (hk.text hcomma)) fun _ _ => ?_
    refine meets_bind (meets_nsNskip cp) fun next _ => ?_
    match next with
    | none => exact meets_pure trivial
    | some cp => exact ih (cp + 4)

theorem unmarked_responseText (np : DnsHeader) : ∀ c ∈ np.responseText, Unmarked c := by
  have hresp : ∀ s ∈ nsResp, ∀ c ∈ s.toList, Unmarked c := by decide
  rw [DnsHeader.responseText]
  refine forall_append (forall_append (forall_append (forall_append (forall_append (forall_append
    (forall_append unmarked_toDigits (unmarked_nsOps _)) (unmarked_getD hresp _)) ?_) ?_) ?_) ?_)
    (unmarked_countText _ _ (by decide))
  all_goals
    split <;> decide

/-- **Printing a response**: nothing is printed but what the records bring and what is unmarked. -/
theorem meets_nsResponse (hk : CoversPrint capture kind) (hntop : WritesUnmarked inetNtop)
    (length : ℕ) (np : DnsHeader) :
    Meets capture kind (nsResponse inetNtop length np) fun _ => True := by
  have htrunc : Meets capture kind trunc fun _ => True := meets_print (hk.text (by decide))
  rw [nsResponse]
  refine meets_bind (meets_print (hk.text (unmarked_responseText np))) fun _ _ => ?_
  refine meets_bind (meets_skipQuestions hk np.qdcount np.qdcount 12) fun next _ => ?_
  match next with
  | none => exact htrunc
  | some cp =>
    refine meets_bind (meets_print (hk.text ?_)) fun _ _ => ?_
    · exact forall_append (forall_append (forall_append
        (unmarked_between (by decide) (by decide) _) unmarked_toDigits) (by decide)) unmarked_toDigits
    refine meets_bind (meets_records hk hntop np.ancount cp) fun left _ => ?_
    match left with
    | some 0 => exact meets_print (hk.text (unmarked_between (by decide) (by decide) length))
    | some (_ + 1) => exact htrunc
    | none => exact htrunc

/-! ### The line of the log -/

/-- **Every message is printed safely.** Whatever was captured of it, and wherever its lengths and
pointers point, printing it reads no byte that was not captured and ends, and what it adds to its line
of the log is printable. -/
theorem nsPrint_safe (hntop : WritesUnmarked inetNtop) (length : ℕ) (capture : List UInt8) :
    ∃ line, nsPrint (nsResponse inetNtop length) length capture = .ok ((), line) ∧
      ∀ c ∈ line, Printable c := by
  obtain ⟨⟨⟩, line, hrun, hline, -⟩ :=
    meets_nsPrint (meets_nsResponse (covers_printable capture) hntop length) length
  exact ⟨line, hrun, hline⟩

/-- What is printed of a response has a question mark only if a byte of it does. -/
theorem meets_nsPrint_response (hk : CoversPrint capture kind) (hntop : WritesUnmarked inetNtop)
    (hresponse : ∀ flags1, capture[2]? = some flags1 → flags1 &&& 0x80 ≠ 0) (length : ℕ) :
    Meets capture kind (nsPrint (nsResponse inetNtop length) length) fun _ => True := by
  rw [nsPrint]
  refine meets_bind (meets_captured 0 12) fun b hb => ?_
  refine meets_ite (fun htested => ?_) fun _ => meets_print (hk.text (by decide))
  have hheader := hb.mp htested
  refine meets_bind (meets_readHeader (by omega)) fun np hnp => ?_
  exact meets_ite (fun _ => meets_nsResponse hk hntop length np) fun hrequest =>
    absurd (hresponse _ hnp) hrequest

/-- **A response is not taken for a query.** If a host is found in the line that is printed for a
response, and not in what stands in front of it, then a byte of the response itself is printed as a
question mark. -/
theorem getTcpdumpHostname_response (hntop : WritesUnmarked inetNtop) (length : ℕ)
    {capture : List UInt8} (hresponse : ∀ flags1, capture[2]? = some flags1 → flags1 &&& 0x80 ≠ 0)
    {front : String} (hfront : '?' ∉ front.toList) :
    ∃ line, nsPrint (nsResponse inetNtop length) length capture = .ok ((), line) ∧
      (getTcpdumpHostname (front ++ String.ofList line) ≠ none →
        ∃ b ∈ capture, '?' ∈ printnChar b) := by
  by_cases hmarked : ∃ b ∈ capture, '?' ∈ printnChar b
  · obtain ⟨line, hrun, -⟩ := nsPrint_safe hntop length capture
    exact ⟨line, hrun, fun _ => hmarked⟩
  have hk : CoversPrint capture fun c => c ≠ '?' :=
    ⟨fun _ hc => hc.2, fun b hb c hc hmark => hmarked ⟨b, hb, hmark ▸ hc⟩⟩
  obtain ⟨⟨⟩, line, hrun, hline, -⟩ := meets_nsPrint_response hk hntop hresponse length
  refine ⟨line, hrun, fun hfound => absurd ?_ hfound⟩
  have htext : '?' ∉ (front ++ String.ofList line).toList := by
    rw [String.toList_append, String.toList_ofList, List.mem_append, not_or]
    exact ⟨hfront, fun hmem => hline _ hmem rfl⟩
  rw [getTcpdumpHostname, search_eq_none_of_unmarked htext]

end Safety

/-- `inet_ntop`, of an address without a zero among its words: nothing is left out. -/
def hexadecimalWords : List UInt8 → List Char
  | high :: low :: rest =>
    hexadecimal 1 (high.toNat * 256 + low.toNat) ++
      if rest = [] then [] else ':' :: hexadecimalWords rest
  | _ => []

theorem writesUnmarked_hexadecimalWords : WritesUnmarked hexadecimalWords := by
  intro addr
  induction addr using hexadecimalWords.induct with
  | case1 high low rest ih =>
    rw [hexadecimalWords]
    refine forall_append (unmarked_hexadecimal 1 _) ?_
    split
    · exact nofun
    · exact List.forall_mem_cons.mpr ⟨by decide, ih⟩
  | case2 addr hshort =>
    rw [hexadecimalWords]
    · exact nofun
    · exact hshort

/-- A response with an address, and with a record whose name points to itself. -/
def loopingResponse : List UInt8 :=
  [0x12, 0x34, 0x84, 0x80, 0, 0, 0, 2, 0, 0, 0, 0] ++
    [1, 0x61, 0, 0, 28, 0, 1, 0, 0, 0, 60, 0, 16] ++
    [0x20, 1, 0x0d, 0xb8, 0, 1, 0, 2, 0, 3, 0, 4, 0, 5, 0, 6] ++
    [0xc0, 41, 0, 1, 0, 1, 0, 0, 0, 60, 0, 4, 192, 0, 2, 1]

theorem nsPrint_safe_loopingResponse :
    ∃ line, nsPrint (nsResponse hexadecimalWords 57) 57 loopingResponse = .ok ((), line) ∧
      ∀ c ∈ line, Printable c :=
  nsPrint_safe writesUnmarked_hexadecimalWords 57 loopingResponse

theorem getTcpdumpHostname_response_loopingResponse :
    ∃ line, nsPrint (nsResponse hexadecimalWords 57) 57 loopingResponse = .ok ((), line) ∧
      getTcpdumpHostname ("IP 10.0.0.2.5353 > 10.0.0.1.53: " ++ String.ofList line) = none := by
  have hresponse : ∀ flags1, loopingResponse[2]? = some flags1 → flags1 &&& 0x80 ≠ 0 := by
    rintro flags1 ⟨rfl⟩
    decide
  have hfront : '?' ∉ "IP 10.0.0.2.5353 > 10.0.0.1.53: ".toList := by decide
  obtain ⟨line, hrun, hfound⟩ :=
    getTcpdumpHostname_response writesUnmarked_hexadecimalWords 57 hresponse hfront
  have hmarks : ¬ ∃ b ∈ loopingResponse, '?' ∈ printnChar b := by decide
  exact ⟨line, hrun, by_contra fun hsome => hmarks (hfound hsome)⟩

end AdAway
