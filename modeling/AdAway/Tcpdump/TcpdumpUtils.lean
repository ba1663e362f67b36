import AdAway.Library.LinkedSet
import AdAway.Library.Regex
import AdAway.Tcpdump.PrintedQuery
import AdAway.Util.RegexUtils

/-!
# The hosts found in the log

`TcpdumpUtils.getTcpdumpHostname` looks for a query in a line of the log by a pattern: an `A?` or an
`AAAA?`, a space, the name and a dot before the next space. The name of the type is not looked at from
its start, so a query of any type whose name ends in `A` is found.

## Main definitions

* `tcpdumpHostnamePatterns`, `getTcpdumpHostname`, `getLogs` — the methods
* `IsPlainLabel` — a label without a space or a question mark in the log

## Main results

* `getTcpdumpHostname_printed` — what is found in the line that is printed for a query
-/

namespace AdAway

open Dissector Regex

/-! ### The pattern -/

/-- A text, and what follows it. -/
def literal (text : List Char) (r : Pattern Char) : Pattern Char :=
  text.foldr (fun c r => .seq (.one fun d => d = c) r) r

/-- `\s(\S+)\.\s`. -/
def namePattern : Pattern Char :=
  .seq (.one isSpace) (.seq (.group (plus fun c => !isSpace c))
    (.seq (.one fun c => c = '.') (.one isSpace)))

/-- `TCPDUMP_HOSTNAME_REGEX`, one pattern for each way to begin. -/
def tcpdumpHostnamePatterns : List (Pattern Char) :=
  [literal ['A', '?'] namePattern, literal ['A', 'A', 'A', 'A', '?'] namePattern]

/-- `TcpdumpUtils.getTcpdumpHostname`. -/
def getTcpdumpHostname (input : String) : Option String :=
  match search tcpdumpHostnamePatterns input.toList with
  | some [hostname] => some (String.ofList hostname)
  | _ => none

/-- `TcpdumpUtils.getLogs`, for the lines of the log file. -/
def getLogs (lines : List String) : List String :=
  (LinkedSet.ofList (lines.filterMap getTcpdumpHostname)).elements

/-! ### Where the pattern matches -/

/-- A text is matched where the rest begins with it. -/
theorem run_literal {β : Type} (text : List Char) (r : Pattern Char)
    (k : List Char → List (List Char) → Option β) (s : List Char) (groups : List (List Char)) :
    run (literal text r) k s groups =
      if text <+: s then run r k (s.drop text.length) groups else none := by
  induction text generalizing s with
  | nil => simp [literal]
  | cons c text ih =>
    cases s with
    | nil => simp [literal, run]
    | cons d s =>
      rw [literal, List.foldr_cons, ← literal, run, run, ih]
      simp only [List.cons_prefix_cons, List.length_cons, List.drop_succ_cons, decide_eq_true_eq]
      by_cases hd : d = c
      · simp [hd]
      · simp [hd, Ne.symm hd]

theorem run_literal_append {β : Type} (text : List Char) (r : Pattern Char)
    (k : List Char → List (List Char) → Option β) (s : List Char) (groups : List (List Char)) :
    run (literal text r) k (text ++ s) groups = run r k s groups := by
  rw [run_literal, if_pos (List.prefix_append text s), List.drop_left]

theorem takes_literal {text : List Char} {r : Pattern Char} {taken rest : List Char}
    (h : Takes (literal text r) taken rest) : ∃ back, taken = text ++ back ∧ Takes r back rest := by
  induction text generalizing taken with
  | nil => exact ⟨taken, rfl, h⟩
  | cons c text ih =>
    obtain ⟨front, back, rfl, ⟨d, rfl, hd⟩, hback⟩ := h
    obtain ⟨back, rfl, hr⟩ := ih hback
    obtain rfl : d = c := by simpa using hd
    exact ⟨back, rfl, hr⟩

/-- The name in front of the last dot before a space. -/
theorem run_namePattern {name : List Char} (hne : name ≠ []) (hname : ∀ c ∈ name, isSpace c = false)
    (back : List Char) (groups : List (List Char)) :
    run namePattern (fun _ groups => some groups) (' ' :: (name ++ '.' :: ' ' :: back)) groups
      = some (groups ++ [name]) := by
  obtain ⟨c, name', rfl⟩ := List.exists_cons_of_ne_nil hne
  obtain ⟨hc, hname'⟩ := List.forall_mem_cons.mp hname
  have hspace : isSpace ' ' = true := rfl
  simp only [namePattern, run, plus, List.cons_append]
  rw [if_pos hspace, if_pos (by simp [hc])]
  refine runMany_append (fun d hd => by simp [hname' d hd]) ?_
  -- the dot is taken first, and given back
  have htaken : (c :: (name' ++ '.' :: ' ' :: back)).take
      ((c :: (name' ++ '.' :: ' ' :: back)).length - ('.' :: ' ' :: back).length) = c :: name' := by
    rw [← List.cons_append, List.length_append, Nat.add_sub_cancel, List.take_left]
  have hdot : isSpace '.' = false := rfl
  rw [runMany, hdot, Bool.not_false, if_pos rfl, runMany, hspace, Bool.not_true,
    if_neg Bool.false_ne_true, htaken]
  rfl

/-- **What is found** behind the first question mark, if an `A` stands before it. -/
theorem search_of_address {front name : List Char} (hfront : '?' ∉ front) (hne : name ≠ [])
    (hname : ∀ c ∈ name, isSpace c = false) (back : List Char) :
    search tcpdumpHostnamePatterns (front ++ 'A' :: '?' :: ' ' :: (name ++ '.' :: ' ' :: back))
      = some [name] := by
  have hfound := run_namePattern hne hname back []
  induction front with
  | nil =>
    refine search_of_some ?_
    have ha := (run_literal_append ['A', '?'] namePattern (fun _ groups => some groups) _ []).trans
      hfound
    rw [tcpdumpHostnamePatterns, List.findSome?_cons]
    simp only [List.nil_append, List.cons_append] at ha ⊢
    rw [ha]
  | cons c front ih =>
    have hc : '?' ≠ c := fun heq => hfront (heq ▸ List.mem_cons_self)
    have hfront' : '?' ∉ front := fun hmem => hfront (List.mem_cons_of_mem c hmem)
    have hfirst :
        ¬ ['A', '?'] <+: c :: (front ++ 'A' :: '?' :: ' ' :: (name ++ '.' :: ' ' :: back)) := by
      cases front with
      | nil => simp
      | cons d front =>
        have hd : '?' ≠ d := fun heq => hfront' (heq ▸ List.mem_cons_self)
        simp [hd]
    by_cases haaaa : c :: front = ['A', 'A', 'A']
    · rw [haaaa, List.cons_append]
      refine search_of_some ?_
      have ha := (run_literal_append ['A', 'A', 'A', 'A', '?'] namePattern
        (fun _ groups => some groups) _ []).trans hfound
      obtain ⟨rfl, rfl⟩ := List.cons.inj haaaa
      rw [tcpdumpHostnamePatterns, List.findSome?_cons, run_literal, if_neg hfirst,
        List.findSome?_cons]
      simp only [List.nil_append, List.cons_append] at ha ⊢
      rw [ha]
    · have hsecond : ¬ ['A', 'A', 'A', 'A', '?'] <+:
          c :: (front ++ 'A' :: '?' :: ' ' :: (name ++ '.' :: ' ' :: back)) := by
        match front, haaaa, hfront' with
        | [], _, _ => simp
        | [a], _, _ => simp
        | [a, b], haaaa, _ =>
          simp only [List.cons_append, List.nil_append, List.cons_prefix_cons]
          rintro ⟨rfl, rfl, rfl, -⟩
          exact haaaa rfl
        | [a, b, d], _, _ => simp
        | a :: b :: d :: e :: front, _, hfront' =>
          simp only [List.mem_cons, not_or] at hfront'
          simp [hfront'.2.2.2.1]
      rw [List.cons_append, search_cons_of_none, ih hfront']
      intro r hr
      rw [tcpdumpHostnamePatterns, List.mem_cons, List.mem_singleton] at hr
      rcases hr with rfl | rfl
      · rw [run_literal, if_neg hfirst]
      · rw [run_literal, if_neg hsecond]

/-- A match stands behind an `A` and the only question mark of the text. -/
theorem isSome_search_of_marked {front back : List Char} (hfront : '?' ∉ front) (hback : '?' ∉ back)
    (h : (search tcpdumpHostnamePatterns (front ++ '?' :: back)).isSome = true) :
    ∃ taken rest, front.getLast? = some 'A' ∧ back = taken ++ rest ∧ Takes namePattern taken rest := by
  obtain ⟨r, hr, before, taken, rest, heq, htakes⟩ := isSome_search_iff.mp h
  obtain ⟨type, name, htaken, hname⟩ : ∃ type name, taken = type ++ 'A' :: '?' :: name ∧
      Takes namePattern name rest := by
    rw [tcpdumpHostnamePatterns, List.mem_cons, List.mem_singleton] at hr
    rcases hr with rfl | rfl
    · obtain ⟨name, rfl, hname⟩ := takes_literal htakes
      exact ⟨[], name, rfl, hname⟩
    · obtain ⟨name, rfl, hname⟩ := takes_literal htakes
      exact ⟨['A', 'A', 'A'], name, rfl, hname⟩
  have hsplit : front ++ '?' :: back = (before ++ type ++ ['A']) ++ '?' :: (name ++ rest) := by
    rw [heq, htaken]
    simp
  obtain ⟨rfl, -, rfl⟩ := (List.append_cons_inj_of_notMem hfront hback).mp hsplit
  exact ⟨name, rest, by simp, rfl, hname⟩

/-- Nothing is found in a text without a question mark. -/
theorem search_eq_none_of_unmarked {text : List Char} (h : '?' ∉ text) :
    search tcpdumpHostnamePatterns text = none := by
  by_contra hsome
  obtain ⟨r, hr, before, taken, rest, rfl, htakes⟩ :=
    isSome_search_iff.mp (Option.isSome_iff_ne_none.mpr hsome)
  refine h (List.mem_append_left _ (List.mem_append_right _ ?_))
  rw [tcpdumpHostnamePatterns, List.mem_cons, List.mem_singleton] at hr
  rcases hr with rfl | rfl
  · obtain ⟨name, rfl, -⟩ := takes_literal htakes
    simp
  · obtain ⟨name, rfl, -⟩ := takes_literal htakes
    simp

/-- Nothing is found behind another type or class. -/
theorem search_eq_none_of_getLast {front back : List Char} (hfront : '?' ∉ front) (hback : '?' ∉ back)
    (hlast : front.getLast? ≠ some 'A') :
    search tcpdumpHostnamePatterns (front ++ '?' :: back) = none := by
  by_contra hsome
  obtain ⟨-, -, hlast', -⟩ :=
    isSome_search_of_marked hfront hback (Option.isSome_iff_ne_none.mpr hsome)
  exact hlast hlast'

/-- Nothing is found for the root. -/
theorem search_eq_none_of_root {front back : List Char} (hfront : '?' ∉ front) (hback : '?' ∉ back) :
    search tcpdumpHostnamePatterns (front ++ '?' :: ' ' :: '.' :: ' ' :: back) = none := by
  by_contra hsome
  obtain ⟨taken, rest, -, htaken, front', more, rfl, ⟨space, rfl, -⟩, name, dotted, rfl,
      ⟨first, others, rfl, ⟨c, rfl, -⟩, hothers⟩, dot, space', rfl, ⟨d, rfl, hd⟩, -⟩ :=
    isSome_search_of_marked hfront (by simp [hback]) (Option.isSome_iff_ne_none.mpr hsome)
  simp only [List.cons_append, List.nil_append, List.cons.injEq, List.append_assoc] at htaken
  obtain ⟨-, -, htaken⟩ := htaken
  cases others with
  | nil =>
    obtain ⟨rfl, -⟩ := List.cons.inj htaken
    exact absurd hd (by decide)
  | cons e others =>
    obtain ⟨rfl, -⟩ := List.cons.inj htaken
    exact absurd (hothers ' ' List.mem_cons_self) (by decide)

/-! ### The hosts of the queries -/

/-- A label that is printed as it is, without a space or a question mark. -/
def IsPlainLabel (label : List UInt8) : Prop := ∀ b ∈ label, 0x21 ≤ b ∧ b ≤ 0x7e ∧ b ≠ 0x3f

/-- The name as a text. -/
def hostnameOf (labels : List (List UInt8)) : List Char :=
  ['.'].intercalate (labels.map fun label => label.map fun b => Char.ofNat b.toNat)

theorem printnChar_of_isPlain {b : UInt8} (hb : 0x21 ≤ b ∧ b ≤ 0x7e ∧ b ≠ 0x3f) :
    printnChar b = [Char.ofNat b.toNat] ∧ isSpace (Char.ofNat b.toNat) = false ∧
      Char.ofNat b.toNat ≠ '?' := by
  have hall : ∀ n < 256, 0x21 ≤ UInt8.ofNat n ∧ UInt8.ofNat n ≤ 0x7e ∧ UInt8.ofNat n ≠ 0x3f →
      printnChar (UInt8.ofNat n) = [Char.ofNat (UInt8.ofNat n).toNat] ∧
      isSpace (Char.ofNat (UInt8.ofNat n).toNat) = false ∧
      Char.ofNat (UInt8.ofNat n).toNat ≠ '?' := by decide +kernel
  have hb' := hall b.toNat b.toNat_lt
  rw [UInt8.ofNat_toNat] at hb'
  exact hb' hb

theorem flatMap_printnChar {label : List UInt8} (h : IsPlainLabel label) :
    label.flatMap printnChar = label.map fun b => Char.ofNat b.toNat := by
  induction label with
  | nil => rfl
  | cons b label ih =>
    obtain ⟨hb, hlabel⟩ := List.forall_mem_cons.mp h
    rw [List.flatMap_cons, (printnChar_of_isPlain hb).1, ih hlabel]
    rfl

/-- A name is printed with one dot more. -/
theorem nameText_of_isPlain {labels : List (List UInt8)} (hne : labels ≠ [])
    (hplain : ∀ label ∈ labels, IsPlainLabel label) : nameText labels = hostnameOf labels ++ ['.'] := by
  rw [nameText, if_neg hne]
  induction labels with
  | nil => exact absurd rfl hne
  | cons label labels ih =>
    obtain ⟨hlabel, hlabels⟩ := List.forall_mem_cons.mp hplain
    rw [labelsText_cons, flatMap_printnChar hlabel]
    cases labels with
    | nil => simp [hostnameOf, labelsText]
    | cons label' labels =>
      rw [ih (List.cons_ne_nil _ _) hlabels]
      simp [hostnameOf, List.intercalate]

/-- The characters of a name. -/
theorem hostnameOf_isPlain {labels : List (List UInt8)} (hplain : ∀ label ∈ labels, IsPlainLabel label) :
    ∀ c ∈ hostnameOf labels, isSpace c = false ∧ c ≠ '?' := by
  intro c hc
  have hne : labels ≠ [] := by
    rintro rfl
    cases hc
  have hmem : c ∈ labelsText labels := by
    have htext := nameText_of_isPlain hne hplain
    rw [nameText, if_neg hne] at htext
    rw [htext]
    exact List.mem_append_left _ hc
  obtain ⟨label, hlabel, hc⟩ := List.mem_flatMap.mp hmem
  rw [flatMap_printnChar (hplain label hlabel), List.mem_append, List.mem_singleton] at hc
  rcases hc with hc | rfl
  · obtain ⟨b, hb, rfl⟩ := List.mem_map.mp hc
    exact (printnChar_of_isPlain (hplain label hlabel b hb)).2
  · decide

theorem hostnameOf_ne_nil {labels : List (List UInt8)} (hne : labels ≠ [])
    (hlabels : ∀ label ∈ labels, IsLabel label) : hostnameOf labels ≠ [] := by
  obtain ⟨label, labels, rfl⟩ := List.exists_cons_of_ne_nil hne
  have hlabel := (hlabels label List.mem_cons_self).1
  cases labels with
  | nil => simpa [hostnameOf] using hlabel
  | cons label' labels => simp [hostnameOf, List.intercalate]

/-- The types whose names end in `A`. -/
def loggedTypes : List ℕ := [1, 6, 28, 34, 104, 254]

theorem decimal_ne_nil (n : ℕ) : decimal n ≠ [] := Nat.toDigits_ne_nil

theorem getLast?_decimal_ne (n : ℕ) : (decimal n).getLast? ≠ some 'A' := by
  intro hlast
  have hdigit := Nat.isDigit_of_mem_toDigits (b := 10) (by decide) (by decide)
    (List.mem_of_getLast? hlast)
  cases hdigit

theorem typeText_ne_nil (type : ℕ) : typeText type ≠ [] := by
  have htable : ∀ p ∈ nsType2str, p.2.toList ≠ [] := by decide
  rw [typeText, tok2str]
  split
  next s hs =>
    obtain ⟨before, after, heq, -⟩ := List.lookup_eq_some_iff.mp hs
    exact htable (type, s) (heq ▸ List.mem_append_right _ List.mem_cons_self)
  next => exact List.append_ne_nil_of_right_ne_nil _ (decimal_ne_nil type)

theorem getLast?_typeText (type : ℕ) :
    (typeText type).getLast? = some 'A' ↔ type ∈ loggedTypes := by
  have htable : ∀ p ∈ nsType2str, p.2.toList.getLast? = some 'A' ↔ p.1 ∈ loggedTypes := by decide
  have hlisted : ∀ v ∈ loggedTypes, (nsType2str.lookup v).isSome = true := by decide
  rw [typeText, tok2str]
  split
  next s hs =>
    obtain ⟨before, after, heq, -⟩ := List.lookup_eq_some_iff.mp hs
    exact htable (type, s) (heq ▸ List.mem_append_right _ List.mem_cons_self)
  next hnone =>
    refine iff_of_false ?_ fun hmem => ?_
    · rw [List.getLast?_append_of_ne_nil _ (decimal_ne_nil type)]
      exact getLast?_decimal_ne type
    · have hsome := hlisted type hmem
      rw [hnone] at hsome
      cases hsome

theorem getLast?_classText {class' : ℕ} (h : class' ≠ 1) :
    classText class' ≠ [] ∧ (classText class').getLast? ≠ some 'A' := by
  have htable : ∀ p ∈ nsClass2str, p.2.toList ≠ [] ∧ p.2.toList.getLast? ≠ some 'A' := by decide
  have hclass : ∀ text : List Char, text ≠ [] ∧ text.getLast? ≠ some 'A' →
      " ".toList ++ text ≠ [] ∧ (" ".toList ++ text).getLast? ≠ some 'A' := by
    rintro text ⟨hne, hlast⟩
    exact ⟨List.append_ne_nil_of_right_ne_nil _ hne,
      by rwa [List.getLast?_append_of_ne_nil _ hne]⟩
  rw [classText, if_neg h]
  refine hclass _ ?_
  rw [tok2str]
  split
  next s hs =>
    obtain ⟨before, after, heq, -⟩ := List.lookup_eq_some_iff.mp hs
    exact htable (class', s) (heq ▸ List.mem_append_right _ List.mem_cons_self)
  next =>
    rw [List.getLast?_append_of_ne_nil _ (by decide)]
    exact ⟨List.append_ne_nil_of_right_ne_nil _ (by decide), by decide⟩

/-- The name is found if the class is `IN`, the name of the type ends in `A` and the name is not the
root. -/
theorem getTcpdumpHostname_line (m : DnsQueryMessage) (hplain : ∀ label ∈ m.labels, IsPlainLabel label)
    {front : String} (hfront : '?' ∉ front.toList) (length : ℕ) :
    getTcpdumpHostname (front ++ String.ofList (m.line length)) =
      if m.class' = 1 ∧ m.type.toNat ∈ loggedTypes ∧ m.labels ≠ [] then
        some (String.ofList (hostnameOf m.labels))
      else none := by
  let before := front.toList ++ m.header.requestText ++ " ".toList ++ typeText m.type.toNat ++
    classText m.class'.toNat
  let length' := '(' :: (decimal length ++ [')'])
  have hline : (front ++ String.ofList (m.line length)).toList
      = before ++ '?' :: ' ' :: (nameText m.labels ++ ' ' :: length') := by
    simp [before, length', DnsQueryMessage.line, questionText]
  have hbefore : '?' ∉ before := by
    have hmark : ∀ {text : List Char}, (∀ c ∈ text, Unmarked c) → '?' ∉ text :=
      fun h hmem => (h _ hmem).2 rfl
    simp only [before, List.mem_append, not_or]
    exact ⟨⟨⟨⟨hfront, hmark (unmarked_requestText _)⟩, by decide⟩, hmark (unmarked_typeText _)⟩,
      hmark (unmarked_classText _)⟩
  have hlength : '?' ∉ length' := by
    have hmark : '?' ∉ decimal length := fun hmem => (unmarked_toDigits _ hmem).2 rfl
    simp [length', hmark]
  have hlast : before.getLast? = some 'A' ↔ m.class' = 1 ∧ m.type.toNat ∈ loggedTypes := by
    by_cases hclass : m.class' = 1
    · have hnone : classText m.class'.toNat = [] := by rw [hclass]; rfl
      rw [and_iff_right hclass, ← getLast?_typeText]
      simp only [before, hnone, List.append_nil]
      rw [List.getLast?_append_of_ne_nil _ (typeText_ne_nil _)]
    · obtain ⟨hne, hlast⟩ := getLast?_classText
        (fun heq => hclass (UInt16.toNat_inj.mp (heq.trans rfl)) : m.class'.toNat ≠ 1)
      simp only [before]
      rw [List.getLast?_append_of_ne_nil _ hne]
      exact iff_of_false hlast fun h => hclass h.1
  rw [getTcpdumpHostname, hline]
  by_cases hroot : m.labels = []
  · rw [hroot, if_neg (fun h => h.2.2 rfl)]
    have hnone := search_eq_none_of_root hbefore hlength
    simp only [nameText, if_true, List.cons_append, List.nil_append]
    rw [hnone]
  · have hname := hostnameOf_isPlain hplain
    have hmark : '?' ∉ hostnameOf m.labels := fun hmem => (hname _ hmem).2 rfl
    rw [nameText_of_isPlain hroot hplain]
    by_cases hlogged : m.class' = 1 ∧ m.type.toNat ∈ loggedTypes
    · obtain ⟨front', hfront'⟩ := List.getLast?_eq_some_iff.mp (hlast.mpr hlogged)
      have hmark' : '?' ∉ front' := fun hmem => hbefore (hfront' ▸ List.mem_append_left _ hmem)
      have hspace : ∀ c ∈ hostnameOf m.labels, isSpace c = false := fun c hc => (hname c hc).1
      have hfound := search_of_address hmark' (hostnameOf_ne_nil hroot m.isLabel) hspace length'
      have htext : before ++ '?' :: ' ' :: (hostnameOf m.labels ++ ['.'] ++ ' ' :: length')
          = front' ++ 'A' :: '?' :: ' ' :: (hostnameOf m.labels ++ '.' :: ' ' :: length') := by
        rw [hfront']
        simp
      rw [if_pos ⟨hlogged.1, hlogged.2, hroot⟩, htext, hfound]
    · have hback : '?' ∉ ' ' :: (hostnameOf m.labels ++ ['.'] ++ ' ' :: length') := by
        simp [hmark, hlength]
      rw [if_neg (fun h => hlogged ⟨h.1, h.2.1⟩),
        search_eq_none_of_getLast hbefore hback (fun h => hlogged (hlast.mp h))]

/-- **What is found in the line printed for a query.** Whatever else is captured of the message, and
whatever stands in front of it in the line, the name that was asked for is found as it is spelled if
the class is `IN`, the name of the type ends in `A` and the name is not the root; otherwise nothing is
found. -/
theorem getTcpdumpHostname_printed (m : DnsQueryMessage)
    (hplain : ∀ label ∈ m.labels, IsPlainLabel label) (response : DnsHeader → Printer Unit) (length : ℕ)
    (back : List UInt8) {front : String} (hfront : '?' ∉ front.toList) :
    ∃ line, nsPrint response length (m.encode ++ back) = .ok ((), line) ∧
      getTcpdumpHostname (front ++ String.ofList line) =
        if m.class' = 1 ∧ m.type.toNat ∈ loggedTypes ∧ m.labels ≠ [] then
          some (String.ofList (hostnameOf m.labels))
        else none :=
  ⟨m.line length, m.prints_nsPrint response length back, getTcpdumpHostname_line m hplain hfront length⟩

/-- A query about `ads.example`. -/
def adsQueryMessage (type : UInt16) : DnsQueryMessage where
  id := 0x1234
  flags1 := 1
  flags2 := 0
  ancount := 0
  nscount := 0
  arcount := 0
  labels := [[97, 100, 115], [101, 120, 97, 109, 112, 108, 101]]
  type := type
  class' := 1
  isRequest := by decide
  isLabel := by
    intro label hlabel
    rw [List.mem_cons, List.mem_singleton] at hlabel
    rcases hlabel with rfl | rfl <;> exact ⟨List.cons_ne_nil _ _, by decide⟩

theorem isPlain_adsQueryMessage (type : UInt16) :
    ∀ label ∈ (adsQueryMessage type).labels, IsPlainLabel label := by
  intro label hlabel
  rw [adsQueryMessage, List.mem_cons, List.mem_singleton] at hlabel
  rcases hlabel with rfl | rfl <;> (unfold IsPlainLabel; decide)

/-- A query of type `SOA` is found like one for an address. -/
theorem getTcpdumpHostname_printed_soa :
    ∃ line, nsPrint (fun _ => trunc) 29 ((adsQueryMessage 6).encode ++ []) = .ok ((), line) ∧
      getTcpdumpHostname ("    localhost.40000 > dns.domain: " ++ String.ofList line)
        = some "ads.example" :=
  getTcpdumpHostname_printed (adsQueryMessage 6) (isPlain_adsQueryMessage 6) (fun _ => trunc) 29 []
    (by decide)

end AdAway
