import AdAway.Db.Entity
import AdAway.Library.Comparator
import Mathlib.Data.List.TakeWhile

/-!
# The order of the log entries

The log screen sorts the requests by host, or by domain: the labels of a host are compared from the
last one on. `List.sort` may throw on a comparison that is not lawful, and then only for some logs.

The second comparison is a loop that returns from its middle, over two arrays whose lengths differ.
It compares keys, though: the labels of the two hosts, the last one first, in lexicographic order.
Where one host has no more labels it comes first. This is where a domain is placed before its
subdomains.

Java compares strings by code units, not by characters, and `String.split` drops the empty labels at
the end. So two hosts compare as equal when they have the same labels, which is not only when they
are the same: a dot at the end does not count.

## Main definitions

* `compareTo` — `String.compareTo`
* `splitHost` — `String.split`, at dots
* `LogEntrySort.comparator` — the two orders
* `sortDnsRequests`, `updateLogEntryType` — the entries that are shown

## Main results

* `comparator_lawful` — both comparisons are lawful
* `pairwise_sortDnsRequests`, `pairwise_updateLogEntryType` — the entries are in order, and stay so
* `splitHost_subdomain` — the labels of a subdomain end with those of its domain
* `topLevelDomain_comparator_spec` — the order by domain
-/

namespace AdAway

/-! ### Strings -/

/-- The UTF-16 code units of a character. -/
def codeUnits (c : Char) : List ℕ :=
  if c.toNat < 0x10000 then [c.toNat]
  else [0xd800 + (c.toNat - 0x10000) / 0x400, 0xdc00 + (c.toNat - 0x10000) % 0x400]

/-- The UTF-16 code units of a string. -/
def stringUnits (s : String) : List ℕ := s.toList.flatMap codeUnits

/-- The loop of `String.compareTo`: the first code units that differ decide, and else the
lengths. -/
def compareUnits : List ℕ → List ℕ → ℤ
  | c1 :: units1, c2 :: units2 =>
    if (c1 : ℤ) - c2 ≠ 0 then (c1 : ℤ) - c2 else compareUnits units1 units2
  | units1, units2 => units1.length - units2.length

/-- `String.compareTo`. -/
def compareTo (s t : String) : ℤ := compareUnits (stringUnits s) (stringUnits t)

/-- `String.split` at dots. The empty parts at the end are dropped, but a string without a dot is
returned as it is. -/
def splitHost (host : String) : List String :=
  if '.' ∈ host.toList then
    (((host.toList.splitOn '.').reverse.dropWhile List.isEmpty).reverse).map String.ofList
  else [host]

example : splitHost ".www..example.com.." = ["", "www", "", "example", "com"] := by decide

/-! ### The comparisons -/

/-- `LogEntry`. -/
structure LogEntry where
  host : String
  type : Option ListType
  deriving DecidableEq, Repr

/-- `LogEntry.compareTo`. -/
def LogEntry.compareTo (entry other : LogEntry) : ℤ := AdAway.compareTo entry.host other.host

/-- The loop of `TOP_LEVEL_DOMAIN`. The two numbers are `index1 + 1` and `index2 + 1`: as many
labels have not been compared yet. -/
def compareParts (split1 split2 : List String) :
    (index1 index2 : ℕ) → index1 ≤ split1.length → index2 ≤ split2.length → ℤ
  | 0, 0, _, _ => 0
  | 0, _ + 1, _, _ => -1
  | _ + 1, 0, _, _ => 1
  | index1 + 1, index2 + 1, h1, h2 =>
    let partCompare := compareTo split1[index1] split2[index2]
    if partCompare ≠ 0 then partCompare
    else compareParts split1 split2 index1 index2 (Nat.le_of_succ_le h1) (Nat.le_of_succ_le h2)

/-- `LogEntrySort`. -/
inductive LogEntrySort
  | alphabetical
  | topLevelDomain
  deriving DecidableEq, Repr

/-- `LogEntrySort.comparator`. -/
def LogEntrySort.comparator : LogEntrySort → LogEntry → LogEntry → ℤ
  | .alphabetical => LogEntry.compareTo
  | .topLevelDomain => fun entry1 entry2 =>
    let split1 := splitHost entry1.host
    let split2 := splitHost entry2.host
    compareParts split1 split2 split1.length split2.length le_rfl le_rfl

example :
    let compare := LogEntrySort.topLevelDomain.comparator
    compare ⟨"google.com", none⟩ ⟨"beta.google.com", none⟩ < 0 ∧
      compare ⟨"beta.google.com", none⟩ ⟨"www.google.com", none⟩ < 0 ∧
      compare ⟨"google.com", none⟩ ⟨"google.com", some .allowed⟩ = 0 := by
  decide

/-- `LogViewModel.sortDnsRequests`: the entries after `List.sort`, which is stable. -/
def sortDnsRequests (sort : LogEntrySort) (entries : List LogEntry) : List LogEntry :=
  entries.insertionSort fun entry1 entry2 => sort.comparator entry1 entry2 ≤ 0

/-- `LogViewModel.updateLogEntryType`. -/
def updateLogEntryType (host : String) (type : Option ListType) (entries : List LogEntry) :
    List LogEntry :=
  entries.map fun entry => if entry.host = host then ⟨host, type⟩ else entry

/-! ### The keys -/

theorem compareUnits_compares : Comparator.Compares compareUnits id := by
  have hunit : Comparator.Compares (fun c1 c2 : ℕ => (c1 : ℤ) - c2) id :=
    ⟨fun a b => by rw [id, id]; omega, fun a b => by rw [id, id]; omega⟩
  have hshort : ∀ b t, compareUnits [] (b :: t) < 0 := by
    intro b t
    rw [compareUnits, List.length_nil, List.length_cons]
    · omega
    · nofun
  have hlong : ∀ a s, 0 < compareUnits (a :: s) [] := by
    intro a s
    rw [compareUnits, List.length_nil, List.length_cons]
    · omega
    · nofun
  have hlist : Comparator.Compares compareUnits (List.map id) :=
    hunit.list rfl hshort hlong fun a s b t => rfl
  rwa [List.map_id_fun] at hlist

theorem compareTo_compares : Comparator.Compares compareTo stringUnits :=
  compareUnits_compares.comap stringUnits

/-- The code units of a text are those of no other. A unit of a pair is never a character. -/
theorem flatMap_codeUnits_injective :
    Function.Injective fun s : List Char => s.flatMap codeUnits := by
  intro s
  induction s with
  | nil =>
    intro t h
    cases t with
    | nil => rfl
    | cons d t =>
      simp only [List.flatMap_nil, List.flatMap_cons, codeUnits] at h
      split at h <;> cases h
  | cons c s ih =>
    intro t h
    cases t with
    | nil =>
      simp only [List.flatMap_nil, List.flatMap_cons, codeUnits] at h
      split at h <;> cases h
    | cons d t =>
      have hc : c.toNat < 0xd800 ∨ 0xdfff < c.toNat ∧ c.toNat < 0x110000 := c.valid
      have hd : d.toNat < 0xd800 ∨ 0xdfff < d.toNat ∧ d.toNat < 0x110000 := d.valid
      have hboth : c.toNat = d.toNat ∧ s.flatMap codeUnits = t.flatMap codeUnits := by
        simp only [List.flatMap_cons, codeUnits] at h
        split at h <;> split at h <;>
          simp only [List.cons_append, List.nil_append, List.cons.injEq] at h
        · exact h
        · omega
        · omega
        · exact ⟨by omega, h.2.2⟩
      rw [Char.toNat_inj.mp hboth.1, ih hboth.2]

theorem compareTo_eq_zero_iff (s t : String) : compareTo s t = 0 ↔ s = t := by
  rw [compareTo_compares.eq_zero_iff]
  constructor
  · intro h
    exact String.toList_injective (flatMap_codeUnits_injective h)
  · rintro rfl
    rfl

/-- What the loop computes, on the labels with the last one first. -/
def compareLabels : List String → List String → ℤ
  | [], [] => 0
  | [], _ :: _ => -1
  | _ :: _, [] => 1
  | part1 :: parts1, part2 :: parts2 =>
    if compareTo part1 part2 ≠ 0 then compareTo part1 part2 else compareLabels parts1 parts2

theorem compareParts_eq {split1 split2 : List String} :
    ∀ {index1 index2 : ℕ} (h1 : index1 ≤ split1.length) (h2 : index2 ≤ split2.length),
      compareParts split1 split2 index1 index2 h1 h2 =
        compareLabels (split1.take index1).reverse (split2.take index2).reverse := by
  have htake : ∀ {l : List String} {i : ℕ} (hi : i + 1 ≤ l.length),
      (l.take (i + 1)).reverse = l[i] :: (l.take i).reverse := by
    intro l i hi
    rw [← List.take_append_getElem hi, List.reverse_append]
    rfl
  intro index1
  induction index1 with
  | zero =>
    intro index2 h1 h2
    cases index2 with
    | zero => rfl
    | succ index2 =>
      rw [htake h2]
      rfl
  | succ index1 ih =>
    intro index2 h1 h2
    cases index2 with
    | zero =>
      rw [htake h1]
      rfl
    | succ index2 =>
      rw [htake h1, htake h2, compareLabels, compareParts, ih]

theorem compareLabels_compares : Comparator.Compares compareLabels (List.map stringUnits) :=
  compareTo_compares.list rfl (fun b t => by rw [compareLabels]; decide)
    (fun a s => by rw [compareLabels]; decide) (fun a s b t => rfl)

/-- The labels of a log entry, the last one first. -/
def LogEntry.labelsFromLast (entry : LogEntry) : List String := (splitHost entry.host).reverse

theorem topLevelDomain_comparator_eq (entry1 entry2 : LogEntry) :
    LogEntrySort.topLevelDomain.comparator entry1 entry2 =
      compareLabels entry1.labelsFromLast entry2.labelsFromLast := by
  refine (compareParts_eq le_rfl le_rfl).trans ?_
  rw [List.take_length, List.take_length]
  rfl

/-- **Both comparisons are lawful.** -/
theorem comparator_lawful (sort : LogEntrySort) : Comparator.Lawful sort.comparator := by
  cases sort with
  | alphabetical => exact (compareTo_compares.comap LogEntry.host).lawful
  | topLevelDomain =>
    have heq : LogEntrySort.topLevelDomain.comparator =
        fun entry1 entry2 => compareLabels entry1.labelsFromLast entry2.labelsFromLast :=
      funext fun entry1 => funext fun entry2 => topLevelDomain_comparator_eq entry1 entry2
    rw [heq]
    exact (compareLabels_compares.comap LogEntry.labelsFromLast).lawful

/-- Sorting puts the entries in order. -/
theorem pairwise_sortDnsRequests (sort : LogEntrySort) (entries : List LogEntry) :
    (sortDnsRequests sort entries).Pairwise fun entry1 entry2 =>
      sort.comparator entry1 entry2 ≤ 0 :=
  (comparator_lawful sort).pairwise_insertionSort entries

/-- The type of an entry does not matter for its place. -/
theorem comparator_eq_of_host_eq (sort : LogEntrySort) {entry1 entry2 entry1' entry2' : LogEntry}
    (h1 : entry1.host = entry1'.host) (h2 : entry2.host = entry2'.host) :
    sort.comparator entry1 entry2 = sort.comparator entry1' entry2' := by
  cases sort with
  | alphabetical => rw [LogEntrySort.comparator, LogEntry.compareTo, h1, h2, LogEntry.compareTo]
  | topLevelDomain =>
    rw [topLevelDomain_comparator_eq, topLevelDomain_comparator_eq, LogEntry.labelsFromLast, h1,
      LogEntry.labelsFromLast, h2]
    rfl

/-- An entry with a new type stays where it is. -/
theorem pairwise_updateLogEntryType {sort : LogEntrySort} {entries : List LogEntry}
    (hsorted : entries.Pairwise fun entry1 entry2 => sort.comparator entry1 entry2 ≤ 0)
    (host : String) (type : Option ListType) :
    (updateLogEntryType host type entries).Pairwise fun entry1 entry2 =>
      sort.comparator entry1 entry2 ≤ 0 := by
  have hhost : ∀ entry : LogEntry,
      (if entry.host = host then ⟨host, type⟩ else entry : LogEntry).host = entry.host := by
    intro entry
    split
    next heq => exact heq.symm
    next => rfl
  rw [updateLogEntryType, List.pairwise_map]
  refine hsorted.imp fun hle => ?_
  rwa [comparator_eq_of_host_eq sort (hhost _) (hhost _)]

/-! ### Domains and subdomains -/

/-- A text that is not only dots has a label that is not empty. -/
theorem exists_ne_nil_of_mem_splitOn {s : List Char} (hs : ∃ c ∈ s, c ≠ '.') :
    ∃ part ∈ s.splitOn '.', part ≠ [] := by
  induction s with
  | nil =>
    obtain ⟨c, hc, -⟩ := hs
    cases hc
  | cons d s ih =>
    rw [List.splitOn_cons_eq_if_modifyHead]
    split
    next hdot =>
      obtain rfl : d = '.' := by simpa using hdot
      obtain ⟨c, hc, hne⟩ := hs
      have hc' : c ∈ s := (List.mem_cons.mp hc).resolve_left hne
      obtain ⟨part, hpart, hpartne⟩ := ih ⟨c, hc', hne⟩
      exact ⟨part, List.mem_cons_of_mem _ hpart, hpartne⟩
    next =>
      obtain ⟨part, parts, hparts⟩ := List.exists_cons_of_ne_nil (List.splitOn_ne_nil '.' s)
      rw [hparts]
      exact ⟨d :: part, List.mem_cons_self, List.cons_ne_nil _ _⟩

/-- Only the empty labels at the end are dropped. -/
theorem splitHost_eq {host : String} (hhost : ∃ c ∈ host.toList, c ≠ '.') :
    splitHost host = (((host.toList.splitOn '.').reverse.dropWhile List.isEmpty).reverse).map
      String.ofList := by
  rw [splitHost]
  split
  next => rfl
  next hdot =>
    obtain ⟨c, hc, -⟩ := hhost
    have hne : host.toList.isEmpty = false := List.isEmpty_eq_false_iff.mpr (List.ne_nil_of_mem hc)
    rw [List.splitOn_eq_singleton hdot, List.reverse_singleton,
      List.dropWhile_cons_of_neg (by rw [hne]; exact Bool.false_ne_true)]
    simp

/-- **The labels of a subdomain end with those of its domain**, unless this is nothing but dots. -/
theorem splitHost_subdomain (name : String) {domain : String}
    (hdomain : ∃ c ∈ domain.toList, c ≠ '.') :
    splitHost (name ++ "." ++ domain) =
      (name.toList.splitOn '.').map String.ofList ++ splitHost domain := by
  have htext : (name ++ "." ++ domain).toList = name.toList ++ '.' :: domain.toList := by simp
  have hhost : ∃ c ∈ (name ++ "." ++ domain).toList, c ≠ '.' := by
    obtain ⟨c, hc, hne⟩ := hdomain
    rw [htext]
    exact ⟨c, List.mem_append_right _ (List.mem_cons_of_mem _ hc), hne⟩
  obtain ⟨part, hpart, hne⟩ := exists_ne_nil_of_mem_splitOn hdomain
  -- the label that is not empty ends the dropping before it reaches the other name
  have hkept : (domain.toList.splitOn '.').reverse.dropWhile List.isEmpty ≠ [] := by
    intro hnil
    exact hne (List.isEmpty_iff.mp
      (List.dropWhile_eq_nil_iff.mp hnil part (List.mem_reverse.mpr hpart)))
  rw [splitHost_eq hhost, splitHost_eq hdomain, htext, List.splitOn_append_cons_self,
    List.reverse_append, List.dropWhile_append, if_neg (mt List.isEmpty_iff.mp hkept),
    List.reverse_append, List.reverse_reverse, List.map_append]

/-- **The order by domain.** The comparison is lawful. It reads the labels from the last one on, and
the first difference decides; so hosts with the same labels compare as equal, and a domain comes
before those whose labels end with its own, such as its subdomains. -/
theorem topLevelDomain_comparator_spec :
    Comparator.Lawful LogEntrySort.topLevelDomain.comparator ∧
      (∀ entry1 entry2, LogEntrySort.topLevelDomain.comparator entry1 entry2 < 0 ↔
        Comparator.Before compareTo entry1.labelsFromLast entry2.labelsFromLast) ∧
      (∀ entry1 entry2, LogEntrySort.topLevelDomain.comparator entry1 entry2 = 0 ↔
        splitHost entry1.host = splitHost entry2.host) ∧
      (∀ entry1 entry2 front, front ≠ [] →
        splitHost entry2.host = front ++ splitHost entry1.host →
        LogEntrySort.topLevelDomain.comparator entry1 entry2 < 0) ∧
      ∀ name domain type1 type2, (∃ c ∈ domain.toList, c ≠ '.') →
        LogEntrySort.topLevelDomain.comparator ⟨domain, type1⟩
          ⟨name ++ "." ++ domain, type2⟩ < 0 := by
  have hneg : ∀ entry1 entry2, LogEntrySort.topLevelDomain.comparator entry1 entry2 < 0 ↔
      Comparator.Before compareTo entry1.labelsFromLast entry2.labelsFromLast := by
    intro entry1 entry2
    rw [topLevelDomain_comparator_eq]
    exact Comparator.list_neg_iff compareTo_eq_zero_iff rfl
      (fun b t => by rw [compareLabels]; decide) (fun a s => by rw [compareLabels]; decide)
      (fun a s b t => rfl) _ _
  have hsuffix : ∀ entry1 entry2 front, front ≠ [] →
      splitHost entry2.host = front ++ splitHost entry1.host →
      LogEntrySort.topLevelDomain.comparator entry1 entry2 < 0 := by
    intro entry1 entry2 front hfront hlabels
    obtain ⟨label, rest, hreverse⟩ :=
      List.exists_cons_of_ne_nil (mt List.reverse_eq_nil_iff.mp hfront)
    refine (hneg entry1 entry2).mpr (Or.inl ⟨label, rest, ?_⟩)
    rw [LogEntry.labelsFromLast, hlabels, List.reverse_append, hreverse]
    rfl
  refine ⟨comparator_lawful .topLevelDomain, hneg, fun entry1 entry2 => ?_, hsuffix, ?_⟩
  · rw [topLevelDomain_comparator_eq, compareLabels_compares.eq_zero_iff]
    constructor
    · intro hunits
      have hinjective : Function.Injective stringUnits := fun s t h =>
        (compareTo_eq_zero_iff s t).mp ((compareTo_compares.eq_zero_iff s t).mpr h)
      exact List.reverse_injective (List.map_injective_iff.mpr hinjective hunits)
    · intro hlabels
      rw [LogEntry.labelsFromLast, hlabels]
      rfl
  · intro name domain type1 type2 hdomain
    refine hsuffix _ _ _ ?_ (splitHost_subdomain name hdomain)
    rw [Ne, List.map_eq_nil_iff]
    exact List.splitOn_ne_nil '.' name.toList

end AdAway
