import AdAway.Library.Separated
import Mathlib.Algebra.GroupWithZero.Nat
import Mathlib.Tactic.MkIffOfInductiveProp

/-!
# The domain names of Guava

`InternetDomainName.isValid` is the function behind `RegexUtils.isValidHostname`. A name is split at
its dots, of which there are four kinds, after one final dot is dropped. Each part obeys rules of
its own; the last one does not begin with a digit.

What is not ASCII is allowed everywhere. The case of a letter is not looked at, so that lower-casing
the name first, as the library does, changes nothing and is left out.

## Main definitions

* `isValidInternetDomainName` — the function
* `WithinLimits` — the lengths, and the first character of the last part

## Main results

* `isValidInternetDomainName_iff` — validity as limits, characters and a rule on neighbours
-/

namespace AdAway

open Separated

/-- The UTF-16 code units of a character. -/
def utf16Size (c : Char) : ℕ := if c.toNat < 0x10000 then 1 else 2

/-- `String.length`, of the characters of a string. -/
def utf16Length (s : List Char) : ℕ := (s.map utf16Size).sum

/-- `DOTS_MATCHER`. -/
def isDot (c : Char) : Bool := c ∈ ['.', '\u3002', '\uff0e', '\uff61']

/-- `DASH_MATCHER`. -/
def isDash (c : Char) : Bool := c = '-' ∨ c = '_'

/-- `PART_CHAR_MATCHER`, and the characters that are not ASCII. -/
def isPartChar (c : Char) : Bool := 128 ≤ c.toNat ∨ c.isAlphanum ∨ isDash c

/-- `InternetDomainName.validatePart`. -/
def validatePart (part : List Char) (isFinalPart : Bool) : Bool :=
  if utf16Length part < 1 ∨ 63 < utf16Length part then false
  else if !part.all isPartChar then false
  else if part.head?.any isDash ∨ part.getLast?.any isDash then false
  else if isFinalPart ∧ part.head?.any Char.isDigit then false
  else true

/-- `InternetDomainName.validateSyntax`. -/
def validateSyntax (parts : List (List Char)) : Bool :=
  parts.getLast?.all (validatePart · true) && parts.dropLast.all (validatePart · false)

/-- `InternetDomainName.isValid`. -/
def isValidInternetDomainName (name : String) : Bool :=
  let name := dropFinal isDot name.toList
  let parts := name.splitOnP isDot
  utf16Length name ≤ 253 && parts.length ≤ 127 && validateSyntax parts

/-! ### Validity -/

/-- The limits of a name: its length and those of its parts, and the last part does not begin with a
digit. -/
@[mk_iff]
structure WithinLimits (name : List Char) : Prop where
  length_le : utf16Length (dropFinal isDot name) ≤ 253
  part_le : ∀ part ∈ (dropFinal isDot name).splitOnP isDot, utf16Length part ≤ 63
  not_digit : ∀ part ∈ ((dropFinal isDot name).splitOnP isDot).getLast?,
    ∀ c ∈ part.head?, c.isDigit = false

theorem utf16Size_pos (c : Char) : 0 < utf16Size c := by
  rw [utf16Size]
  split <;> omega

theorem length_le_utf16Length (s : List Char) : s.length ≤ utf16Length s := by
  induction s with
  | nil => exact Nat.le_refl _
  | cons c s ih =>
    have hpos := utf16Size_pos c
    rw [utf16Length, List.map_cons, List.sum_cons, List.length_cons]
    rw [utf16Length] at ih
    omega

theorem utf16Length_pos_iff {s : List Char} : 0 < utf16Length s ↔ s ≠ [] := by
  constructor
  · rintro h rfl
    exact absurd h (by decide)
  · intro h
    exact Nat.lt_of_lt_of_le (List.length_pos_of_ne_nil h) (length_le_utf16Length s)

theorem validatePart_iff {part : List Char} {isFinalPart : Bool} :
    validatePart part isFinalPart = true ↔
      (EdgesOk isDash part ∧ (∀ c ∈ part, isPartChar c = true) ∧ utf16Length part ≤ 63) ∧
        (isFinalPart = true → ∀ c ∈ part.head?, c.isDigit = false) := by
  have hany : ∀ (p : Char → Bool) (o : Option Char), o.any p = false ↔ ∀ c ∈ o, p c = false := by
    intro p o
    cases o <;> simp
  have hlength : ¬ (utf16Length part < 1 ∨ 63 < utf16Length part) ↔
      part ≠ [] ∧ utf16Length part ≤ 63 := by
    rw [← utf16Length_pos_iff]
    omega
  rw [validatePart, EdgesOk, ← hany, ← hany, ← hany, ← List.all_eq_true]
  simp only [Bool.if_false_left, Bool.and_true, Bool.and_eq_true, Bool.not_eq_true',
    decide_eq_false_iff_not, hlength, not_or, not_and, Bool.not_eq_true, Bool.not_eq_false]
  constructor
  · rintro ⟨⟨hne, hle⟩, hchars, ⟨hhead, hlast⟩, hdigit⟩
    exact ⟨⟨⟨hne, hhead, hlast⟩, hchars, hle⟩, hdigit⟩
  · rintro ⟨⟨⟨hne, hhead, hlast⟩, hchars, hle⟩, hdigit⟩
    exact ⟨⟨hne, hle⟩, hchars, ⟨hhead, hlast⟩, hdigit⟩

/-- The parts of a name obey the same rules, but that the last one does not begin with a digit. -/
theorem validateSyntax_iff {parts : List (List Char)} :
    validateSyntax parts = true ↔
      (∀ part ∈ parts, EdgesOk isDash part ∧ (∀ c ∈ part, isPartChar c = true) ∧
        utf16Length part ≤ 63) ∧
      ∀ part ∈ parts.getLast?, ∀ c ∈ part.head?, c.isDigit = false := by
  rcases List.eq_nil_or_concat parts with rfl | ⟨parts, final, rfl⟩
  · simp [validateSyntax]
  · rw [List.concat_eq_append, validateSyntax, List.getLast?_concat, List.dropLast_concat,
      Option.all_some, Bool.and_eq_true, List.all_eq_true, validatePart_iff, List.forall_mem_append,
      List.forall_mem_singleton]
    simp only [validatePart_iff, Option.mem_def, Option.some.injEq, forall_eq', Bool.false_eq_true,
      false_implies, and_true, true_implies]
    constructor
    · rintro ⟨⟨hfinal, hdigit⟩, hparts⟩
      exact ⟨⟨hparts, hfinal⟩, hdigit⟩
    · rintro ⟨⟨hparts, hfinal⟩, hdigit⟩
      exact ⟨⟨hfinal, hdigit⟩, hparts⟩

theorem toNat_of_isAlphanum {c : Char} (h : c.isAlphanum = true) :
    48 ≤ c.toNat ∧ c.toNat < 128 := by
  change ((decide (65 ≤ c.val ∧ c.val ≤ 90) || (97 ≤ c.val && c.val ≤ 122)) ||
    (48 ≤ c.val && c.val ≤ 57)) = true at h
  simp only [Bool.or_eq_true, Bool.and_eq_true, decide_eq_true_eq, UInt32.le_iff_toNat_le] at h
  have hnat : c.toNat = c.val.toNat := rfl
  simp at h
  omega

theorem isDash_eq_false_of_isDot (c : Char) (hc : isDot c = true) : isDash c = false := by
  simp only [isDot, List.mem_cons, List.not_mem_nil, or_false, decide_eq_true_eq] at hc
  rcases hc with rfl | rfl | rfl | rfl <;> rfl

/-- **A valid name**, by its characters, its limits, and a rule on neighbours. -/
theorem isValidInternetDomainName_iff {name : String} :
    isValidInternetDomainName name = true ↔
      (name.toList ≠ [] ∧ List.IsChain (Fits isDot isDash) ('.' :: name.toList) ∧
        ∀ c ∈ name.toList.getLast?, isDash c = false) ∧
      (∀ c ∈ name.toList, isDot c = false → isPartChar c = true) ∧ WithinLimits name.toList := by
  rw [← forall_edgesOk_dropFinal_iff (by rfl) isDash_eq_false_of_isDot, ← forall_mem_dropFinal_iff,
    ← forall_mem_splitOnP_iff, isValidInternetDomainName]
  simp only [Bool.and_eq_true, decide_eq_true_eq, validateSyntax_iff]
  constructor
  · rintro ⟨⟨hlength, -⟩, hparts, hdigit⟩
    exact ⟨fun part hpart => (hparts part hpart).1, fun part hpart => (hparts part hpart).2.1,
      hlength, fun part hpart => (hparts part hpart).2.2, hdigit⟩
  · rintro ⟨hedges, hchars, hlimits⟩
    refine ⟨⟨hlimits.length_le, ?_⟩, ?_, hlimits.not_digit⟩
    · -- each part has a character, and two are parted by another
      have hcount := two_mul_length_splitOnP_le fun part hpart => (hedges part hpart).1
      have hlength := length_le_utf16Length (dropFinal isDot name.toList)
      have hle := hlimits.length_le
      omega
    · exact fun part hpart => ⟨hedges part hpart, hchars part hpart, hlimits.part_le part hpart⟩

end AdAway
