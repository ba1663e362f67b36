import AdAway.Tcpdump.PrintDomain

/-!
# A query in the log

A well-formed query has one question, whose name is a list of labels. Its line in the log is the
header, the type, the class unless it is `IN`, and the name with a dot behind each label. Nothing that
follows the question changes the line, however much of it was captured.

## Main definitions

* `encodeName`, `nameText` — a name in a message and in the log
* `DnsQueryMessage` — a query
* `DnsQueryMessage.line` — its line

## Main results

* `prints_nsNskip`, `prints_nsNprint` — a name is skipped and printed up to the same offset
* `prints_nsPrint` — the line of a query
-/

namespace AdAway

open Dissector

/-! ### Names -/

/-- A label of a name. -/
def IsLabel (label : List UInt8) : Prop := label ≠ [] ∧ label.length < 64

/-- A name in a message, without pointers. -/
def encodeName (labels : List (List UInt8)) : List UInt8 :=
  labels.flatMap (fun label => UInt8.ofNat label.length :: label) ++ [0]

/-- The labels in the log, with a dot behind each. -/
def labelsText (labels : List (List UInt8)) : List Char :=
  labels.flatMap fun label => label.flatMap printnChar ++ ['.']

/-- A name in the log. -/
def nameText (labels : List (List UInt8)) : List Char :=
  if labels = [] then ['.'] else labelsText labels

theorem encodeName_cons (label : List UInt8) (labels : List (List UInt8)) :
    encodeName (label :: labels) = UInt8.ofNat label.length :: (label ++ encodeName labels) := by
  rw [encodeName, List.flatMap_cons, List.append_assoc]
  rfl

theorem length_le_encodeName (labels : List (List UInt8)) :
    labels.length < (encodeName labels).length := by
  induction labels with
  | nil => exact Nat.zero_lt_one
  | cons label labels ih =>
    rw [encodeName_cons, List.length_cons, List.length_cons, List.length_append]
    omega

theorem labelsText_cons (label : List UInt8) (labels : List (List UInt8)) :
    labelsText (label :: labels) = label.flatMap printnChar ++ (['.'] ++ labelsText labels) := by
  rw [labelsText, List.flatMap_cons, List.append_assoc]
  rfl

/-- The length of a label has none of the bits of a pointer. -/
theorem and_indirMask_ofNat {n : ℕ} (hn : n < 64) : UInt8.ofNat n &&& indirMask = 0 := by
  have hall : ∀ n < 64, UInt8.ofNat n &&& indirMask = 0 := by decide +kernel
  exact hall n hn

theorem toNat_ofNat_length {label : List UInt8} (h : IsLabel label) :
    (UInt8.ofNat label.length).toNat = label.length :=
  UInt8.toNat_ofNat_of_lt' (h.2.trans (by decide))

theorem ofNat_length_ne_zero {label : List UInt8} (h : IsLabel label) :
    UInt8.ofNat label.length ≠ 0 := by
  intro hzero
  have hlength := toNat_ofNat_length h
  rw [hzero] at hlength
  exact h.1 (List.length_eq_zero_iff.mp hlength.symm)

section Names

variable {capture : List UInt8}

/-- The characters of a label. -/
theorem prints_fnPrintn (front label back : List UInt8) :
    Prints (front ++ label ++ back) (fnPrintn label.length front.length) false
      (label.flatMap printnChar) := by
  induction label generalizing front with
  | nil => exact prints_pure false
  | cons c label ih =>
    rw [List.length_cons, fnPrintn, List.flatMap_cons]
    refine Prints.nil_bind prints_snapend ?_
    rw [if_pos (by simp)]
    refine Prints.nil_bind (a := c) (prints_byte ?_) ?_
    · rw [List.append_assoc]
      exact getElem?_front _ _ _
    · refine Prints.bind (prints_print _) ?_
      have hrest := ih (front ++ [c])
      simpa using hrest

/-- A length that is the one of a label, or zero. -/
theorem prints_nextLength {cp : ℕ} {i : UInt8} (hi : capture[cp]? = some i)
    (hlabel : i &&& indirMask = 0) :
    Prints capture (nextLength cp) (some (i.toNat, i)) [] := by
  have hcp : cp + 1 ≤ capture.length := (List.getElem?_eq_some_iff.mp hi).1
  have hlength : Prints capture (labellen cp) (some i.toNat) [] := by
    rw [labellen]
    refine Prints.nil_bind (prints_captured hcp) ?_
    rw [if_pos rfl]
    refine Prints.nil_bind (prints_byte hi) ?_
    rw [hlabel, if_neg (by decide)]
    exact prints_pure _
  rw [nextLength]
  refine Prints.nil_bind hlength ?_
  refine Prints.nil_bind (prints_captured hcp) ?_
  rw [if_pos rfl]
  exact Prints.nil_bind (prints_byte hi) (prints_pure _)

/-- The byte a name begins with. -/
theorem head_encodeName (labels : List (List UInt8)) (hlabels : ∀ label ∈ labels, IsLabel label) :
    ∃ i rest, encodeName labels = i :: rest ∧ i &&& indirMask = 0 := by
  cases labels with
  | nil => exact ⟨0, [], rfl, rfl⟩
  | cons label labels =>
    exact ⟨_, _, encodeName_cons label labels,
      and_indirMask_ofNat (hlabels label List.mem_cons_self).2⟩

/-- A label that is a text. -/
theorem prints_printLabel (front back : List UInt8) {label : List UInt8} (h : IsLabel label) :
    Prints (front ++ label ++ back)
      (printLabel (UInt8.ofNat label.length) label.length front.length) true
      (label.flatMap printnChar) := by
  rw [printLabel, and_indirMask_ofNat h.2, if_neg (by decide)]
  exact (prints_fnPrintn front label back).bind_nil (prints_pure _)

/-- The labels are printed, each with a dot behind it. -/
theorem prints_nprintLoop {labels : List (List UInt8)} (hlabels : ∀ label ∈ labels, IsLabel label)
    (bp dataSize : ℕ) {fuel : ℕ} (hfuel : labels.length < fuel) (charsProcessed : ℕ)
    (front back rest : List UInt8) {i : UInt8} (hi : encodeName labels = i :: rest) :
    Prints (front ++ i :: rest ++ back)
      (nprintLoop bp dataSize fuel
        ⟨i, i.toNat, front.length + 1, charsProcessed, false, some (front.length + 1 + i.toNat)⟩)
      (some (front.length + (encodeName labels).length)) (labelsText labels) := by
  induction labels generalizing fuel charsProcessed front rest i with
  | nil =>
    obtain ⟨rfl, rfl⟩ := List.cons.inj hi
    cases fuel with
    | zero => exact absurd hfuel (Nat.not_lt_zero _)
    | succ fuel =>
      rw [nprintLoop]
      refine Prints.nil_bind prints_snapend ?_
      rw [if_neg (fun h => h.1 rfl)]
      exact prints_pure _
  | cons label labels ih =>
    obtain ⟨hlabel, hlabels⟩ := List.forall_mem_cons.mp hlabels
    rw [encodeName_cons] at hi
    obtain ⟨rfl, rfl⟩ := List.cons.inj hi
    obtain ⟨i', rest', hi', hindir⟩ := head_encodeName labels hlabels
    cases fuel with
    | zero => exact absurd hfuel (Nat.not_lt_zero _)
    | succ fuel =>
      have hcapture : front ++ UInt8.ofNat label.length :: (label ++ encodeName labels) ++ back
          = (front ++ [UInt8.ofNat label.length]) ++ label ++ (i' :: rest' ++ back) := by
        rw [hi']
        simp
      have hcapture' : front ++ UInt8.ofNat label.length :: (label ++ encodeName labels) ++ back
          = (front ++ UInt8.ofNat label.length :: label) ++ i' :: rest' ++ back := by
        rw [hi']
        simp
      have hcp : front.length + 1 + label.length
          = (front ++ UInt8.ofNat label.length :: label).length := by
        rw [List.length_append, List.length_cons]
        omega
      rw [nprintLoop]
      refine Prints.nil_bind prints_snapend ?_
      rw [if_pos ⟨ofNat_length_ne_zero hlabel, by rw [hcapture]; simp⟩]
      rw [and_indirMask_ofNat hlabel.2, if_neg (by decide), toNat_ofNat_length hlabel]
      rw [labelsText_cons]
      refine Prints.bind (a := true) ?_ ?_
      · rw [hcapture]
        have hprinted := prints_printLabel (front ++ [UInt8.ofNat label.length])
          (i' :: rest' ++ back) hlabel
        rwa [List.length_append, List.length_singleton] at hprinted
      · rw [if_pos rfl]
        refine Prints.bind (prints_print _) ?_
        dsimp only
        rw [hcp]
        refine Prints.nil_bind (a := some (i'.toNat, i')) ?_ ?_
        · refine prints_nextLength ?_ hindir
          rw [hcapture', List.append_assoc]
          exact getElem?_front _ _ _
        · have hless : labels.length < fuel := Nat.lt_of_succ_lt_succ hfuel
          have hrest := ih hlabels hless
            (charsProcessed + label.length + 1) (front ++ UInt8.ofNat label.length :: label) rest' hi'
          rw [← hcapture'] at hrest
          have hlength : front.length + (encodeName (label :: labels)).length
              = (front ++ UInt8.ofNat label.length :: label).length + (encodeName labels).length := by
            rw [encodeName_cons]
            simp
            omega
          have hrp : (front ++ UInt8.ofNat label.length :: label).length + 1 + i'.toNat
              = (front ++ UInt8.ofNat label.length :: label).length + (i'.toNat + 1) := by omega
          rw [hlength]
          rw [hrp] at hrest
          exact hrest

/-- **A name is printed** up to its end. -/
theorem prints_nsNprint {labels : List (List UInt8)} (hlabels : ∀ label ∈ labels, IsLabel label)
    (front back : List UInt8) (bp : ℕ) :
    Prints (front ++ encodeName labels ++ back) (nsNprint front.length bp)
      (some (front.length + (encodeName labels).length)) (nameText labels) := by
  obtain ⟨i, rest, hi, hindir⟩ := head_encodeName labels hlabels
  have hfirst : (front ++ encodeName labels ++ back)[front.length]? = some i := by
    rw [hi, List.append_assoc]
    exact getElem?_front _ _ _
  rw [nsNprint]
  refine Prints.nil_bind prints_snapend ?_
  refine Prints.nil_bind (prints_nextLength hfirst hindir) ?_
  dsimp only
  rw [hindir, if_neg (by decide : ¬ (0 : UInt8) = indirMask)]
  cases labels with
  | nil =>
    obtain ⟨rfl, rfl⟩ := List.cons.inj hi
    rw [if_pos rfl]
    exact (prints_print ['.']).bind_nil (prints_pure _)
  | cons label labels =>
    have hne : i ≠ 0 := by
      rw [encodeName_cons] at hi
      obtain ⟨rfl, -⟩ := List.cons.inj hi
      exact ofNat_length_ne_zero (hlabels label List.mem_cons_self)
    rw [if_neg hne, nameText, if_neg (List.cons_ne_nil _ _)]
    have hfuel : (label :: labels).length <
        ((front ++ encodeName (label :: labels) ++ back).length + 1)
          * ((front ++ encodeName (label :: labels) ++ back).length + 1) := by
      have hlength := length_le_encodeName (label :: labels)
      have hsquare := Nat.le_mul_self
        ((front ++ encodeName (label :: labels) ++ back).length + 1)
      rw [List.length_append, List.length_append] at hsquare ⊢
      omega
    have hloop := prints_nprintLoop hlabels bp
      ((front ++ encodeName (label :: labels) ++ back).length - bp) hfuel 1 front back rest hi
    rwa [← hi] at hloop

/-- **A name is skipped** up to its end. -/
theorem prints_nskipLoop {labels : List (List UInt8)} (hlabels : ∀ label ∈ labels, IsLabel label)
    {fuel : ℕ} (hfuel : labels.length < fuel) (front back rest : List UInt8) {i : UInt8}
    (hi : encodeName labels = i :: rest) :
    Prints (front ++ i :: rest ++ back) (nskipLoop fuel i (front.length + 1))
      (some (front.length + (encodeName labels).length)) [] := by
  induction labels generalizing fuel front rest i with
  | nil =>
    obtain ⟨rfl, rfl⟩ := List.cons.inj hi
    cases fuel with
    | zero => exact absurd hfuel (Nat.not_lt_zero _)
    | succ fuel =>
      rw [nskipLoop, if_pos rfl]
      exact prints_pure _
  | cons label labels ih =>
    obtain ⟨hlabel, hlabels⟩ := List.forall_mem_cons.mp hlabels
    rw [encodeName_cons] at hi
    obtain ⟨rfl, rfl⟩ := List.cons.inj hi
    obtain ⟨i', rest', hi', hindir⟩ := head_encodeName labels hlabels
    cases fuel with
    | zero => exact absurd hfuel (Nat.not_lt_zero _)
    | succ fuel =>
      have hcapture : front ++ UInt8.ofNat label.length :: (label ++ encodeName labels) ++ back
          = (front ++ UInt8.ofNat label.length :: label) ++ i' :: rest' ++ back := by
        rw [hi']
        simp
      have hcp : front.length + 1 + label.length
          = (front ++ UInt8.ofNat label.length :: label).length := by
        rw [List.length_append, List.length_cons]
        omega
      rw [nskipLoop, if_neg (ofNat_length_ne_zero hlabel), and_indirMask_ofNat hlabel.2,
        if_neg (by decide)]
      refine Prints.nil_bind (a := some (front.length + 1 + label.length)) ?_ ?_
      · rw [skipLabel, and_indirMask_ofNat hlabel.2, if_neg (by decide), toNat_ofNat_length hlabel]
        exact prints_pure _
      · dsimp only
        rw [hcp]
        have hnext : (front ++ UInt8.ofNat label.length :: (label ++ encodeName labels)
            ++ back)[(front ++ UInt8.ofNat label.length :: label).length]? = some i' := by
          rw [hcapture, List.append_assoc]
          exact getElem?_front _ _ _
        refine Prints.nil_bind (prints_captured (List.getElem?_eq_some_iff.mp hnext).1) ?_
        rw [if_pos rfl]
        refine Prints.nil_bind (prints_byte hnext) ?_
        have hless : labels.length < fuel := Nat.lt_of_succ_lt_succ hfuel
        have hrest := ih hlabels hless
          (front ++ UInt8.ofNat label.length :: label) rest' hi'
        rw [← hcapture] at hrest
        have hlength : front.length + (encodeName (label :: labels)).length
            = (front ++ UInt8.ofNat label.length :: label).length
              + (encodeName labels).length := by
          rw [encodeName_cons]
          simp
          omega
        rw [hlength]
        exact hrest

theorem prints_nsNskip {labels : List (List UInt8)} (hlabels : ∀ label ∈ labels, IsLabel label)
    (front back : List UInt8) :
    Prints (front ++ encodeName labels ++ back) (nsNskip front.length)
      (some (front.length + (encodeName labels).length)) [] := by
  obtain ⟨i, rest, hi, -⟩ := head_encodeName labels hlabels
  have hfirst : (front ++ encodeName labels ++ back)[front.length]? = some i := by
    rw [hi, List.append_assoc]
    exact getElem?_front _ _ _
  rw [nsNskip]
  refine Prints.nil_bind (prints_captured (List.getElem?_eq_some_iff.mp hfirst).1) ?_
  rw [if_pos rfl]
  refine Prints.nil_bind (prints_byte hfirst) ?_
  refine Prints.nil_bind prints_snapend ?_
  have hfuel : labels.length < (front ++ encodeName labels ++ back).length + 1 := by
    have hlength := length_le_encodeName labels
    rw [List.length_append, List.length_append]
    omega
  have hloop := prints_nskipLoop hlabels hfuel front back rest hi
  rwa [← hi] at hloop

/-- The two bytes of a number. -/
def bytes16 (n : UInt16) : List UInt8 := [(n / 256).toUInt8, n.toUInt8]

theorem prints_extract16Bits {cp : ℕ} {n : UInt16} (hhigh : capture[cp]? = some (n / 256).toUInt8)
    (hlow : capture[cp + 1]? = some n.toUInt8) : Prints capture (extract16Bits cp) n.toNat [] := by
  have hvalue : (n / 256).toUInt8.toNat * 256 + n.toUInt8.toNat = n.toNat := by
    have hn := n.toNat_lt
    simp only [UInt16.toNat_toUInt8, UInt16.toNat_div, UInt16.reduceToNat]
    omega
  rw [extract16Bits]
  refine Prints.nil_bind (prints_byte hhigh) ?_
  refine Prints.nil_bind (prints_byte hlow) ?_
  rw [hvalue]
  exact prints_pure _

theorem prints_extract16Bits_front (front back : List UInt8) (n : UInt16) :
    Prints (front ++ (bytes16 n ++ back)) (extract16Bits front.length) n.toNat [] := by
  refine prints_extract16Bits (getElem?_front _ _ _) ?_
  have hlow := getElem?_front (front ++ [(n / 256).toUInt8]) n.toUInt8 back
  rw [List.length_append, List.length_singleton, List.append_assoc] at hlow
  exact hlow

/-- A question in the log. -/
def questionText (labels : List (List UInt8)) (type class' : UInt16) : List Char :=
  " ".toList ++ typeText type.toNat ++ (classText class'.toNat ++ ("? ".toList ++ nameText labels))

/-- **A question is printed**, and the next one is looked for behind it. -/
theorem prints_nsQprint {labels : List (List UInt8)} (hlabels : ∀ label ∈ labels, IsLabel label)
    (front back : List UInt8) (type class' : UInt16) (bp : ℕ) :
    Prints (front ++ encodeName labels ++ (bytes16 type ++ (bytes16 class' ++ back)))
      (nsQprint front.length bp) (some (front.length + (encodeName labels).length + 4))
      (questionText labels type class') := by
  have hnext : front.length + (encodeName labels).length = (front ++ encodeName labels).length :=
    List.length_append.symm
  have htype := prints_extract16Bits_front (front ++ encodeName labels) (bytes16 class' ++ back) type
  have hclass := prints_extract16Bits_front (front ++ encodeName labels ++ bytes16 type) back class'
  rw [List.append_assoc (front ++ encodeName labels),
    @List.length_append _ (front ++ encodeName labels) (bytes16 type)] at hclass
  rw [nsQprint]
  refine Prints.nil_bind (prints_nsNskip hlabels front _) ?_
  dsimp only
  rw [hnext]
  refine Prints.nil_bind (prints_captured ?_) ?_
  · simp only [bytes16, List.length_append, List.length_cons, List.length_nil]
    omega
  rw [if_pos rfl]
  refine Prints.nil_bind htype ?_
  refine Prints.bind (prints_print _) ?_
  refine Prints.nil_bind hclass ?_
  refine Prints.bind (prints_print _) ?_
  refine Prints.bind (prints_print _) ?_
  have hname := prints_nsNprint hlabels front (bytes16 type ++ (bytes16 class' ++ back)) bp
  rw [hnext] at hname
  exact hname.bind_nil (prints_pure _)

end Names

/-! ### Messages -/

/-- A request with one question. -/
structure DnsQueryMessage where
  id : UInt16
  flags1 : UInt8
  flags2 : UInt8
  ancount : UInt16
  nscount : UInt16
  arcount : UInt16
  labels : List (List UInt8)
  type : UInt16
  class' : UInt16
  isRequest : flags1 &&& 0x80 = 0
  isLabel : ∀ label ∈ labels, IsLabel label

namespace DnsQueryMessage

/-- The header of the query. -/
def header (m : DnsQueryMessage) : DnsHeader :=
  ⟨m.id.toNat, m.flags1, m.flags2, 1, m.ancount.toNat, m.nscount.toNat, m.arcount.toNat⟩

/-- The twelve bytes of the header. -/
def encodeHeader (m : DnsQueryMessage) : List UInt8 :=
  bytes16 m.id ++ [m.flags1, m.flags2] ++ bytes16 1 ++ bytes16 m.ancount ++ bytes16 m.nscount ++
    bytes16 m.arcount

/-- The message up to the end of its question. -/
def encode (m : DnsQueryMessage) : List UInt8 :=
  m.encodeHeader ++ encodeName m.labels ++ (bytes16 m.type ++ bytes16 m.class')

/-- What `ns_print` prints of the query. -/
def line (m : DnsQueryMessage) (length : ℕ) : List Char :=
  m.header.requestText ++
    (questionText m.labels m.type m.class' ++ (" (".toList ++ decimal length ++ ")".toList))

theorem prints_readHeader (m : DnsQueryMessage) (back : List UInt8) :
    Prints (m.encodeHeader ++ back) readHeader m.header [] := by
  rw [readHeader]
  refine Prints.nil_bind (prints_extract16Bits (n := m.id) rfl rfl) ?_
  refine Prints.nil_bind (prints_byte (b := m.flags1) rfl) ?_
  refine Prints.nil_bind (prints_byte (b := m.flags2) rfl) ?_
  refine Prints.nil_bind (prints_extract16Bits (n := 1) rfl rfl) ?_
  refine Prints.nil_bind (prints_extract16Bits (n := m.ancount) rfl rfl) ?_
  refine Prints.nil_bind (prints_extract16Bits (n := m.nscount) rfl rfl) ?_
  refine Prints.nil_bind (prints_extract16Bits (n := m.arcount) rfl rfl) ?_
  exact prints_pure _

/-- **The line of a query**, if its question was captured. -/
theorem prints_nsPrint (m : DnsQueryMessage) (response : DnsHeader → Printer Unit) (length : ℕ)
    (back : List UInt8) :
    Prints (m.encode ++ back) (nsPrint response length) () (m.line length) := by
  have hcapture : m.encode ++ back = m.encodeHeader ++ encodeName m.labels ++
      (bytes16 m.type ++ (bytes16 m.class' ++ back)) := by
    rw [encode, List.append_assoc, List.append_assoc (bytes16 m.type)]
  have hheader := m.prints_readHeader (encodeName m.labels ++
    (bytes16 m.type ++ (bytes16 m.class' ++ back)))
  have hquestion := prints_nsQprint m.isLabel m.encodeHeader back m.type m.class' 0
  rw [← List.append_assoc, ← hcapture] at hheader
  rw [← hcapture] at hquestion
  rw [nsPrint]
  refine Prints.nil_bind (prints_captured ?_) ?_
  · rw [hcapture]
    simp [encodeHeader, bytes16]
  rw [if_pos rfl]
  refine Prints.nil_bind hheader ?_
  rw [if_neg (fun h => h m.isRequest)]
  refine Prints.bind (prints_print _) ?_
  refine Prints.bind (a := some 0) ?_ (prints_print _)
  exact hquestion.bind_nil (prints_pure _)

end DnsQueryMessage

end AdAway
