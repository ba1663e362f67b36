import AdAway.Util.InternetDomainName
import AdAway.Util.RegexUtils

/-!
# Which wildcard hostnames are rejected

`isValidWildcardHostname` tries two names in the place of a wildcard hostname: one without its
wildcards, and one with a letter for each. It is meant to reject only what cannot match a valid
hostname.

What is wrong in the wildcard hostname itself is wrong in each hostname it matches: a character that
is not allowed, two dots in a row, a dash beside a dot. But `*` may also stand for text with dots,
or for no text at all, and then neither the lengths nor the first character of the last label are
those of the hostname.

## Main definitions

* `MatchesHostname` — the hostnames of a wildcard hostname
* `clearWildcards`, `replaceWildcards` — the two names tried

## Main results

* `isValidWildcardHostname_iff_of_matches` — which of those with a valid hostname are accepted
-/

namespace AdAway

open Separated

/-- The wildcard hostname matches the hostname. -/
def MatchesHostname (wildcard hostname : String) : Prop :=
  Glob.Matches (· = ·) (wildcard.toList.map wildcardToken) hostname.toList

/-- A wildcard hostname without its wildcards. -/
def clearWildcards (name : List Char) : List Char := name.filter fun c => !isWildcard c

/-- A wildcard hostname with a letter for each wildcard. -/
def replaceWildcards (name : List Char) : List Char :=
  name.map fun c => if isWildcard c then 'a' else c

theorem fill_wildcardToken (name : List Char) :
    (name.map wildcardToken).map (Glob.Token.fill 'a') = replaceWildcards name := by
  rw [List.map_map, replaceWildcards]
  refine List.map_congr_left fun c _ => ?_
  rw [Function.comp_apply, wildcardToken, isWildcard]
  by_cases hstar : c = '*'
  · simp [hstar, Glob.Token.fill]
  · by_cases hquestion : c = '?'
    · simp [hquestion, Glob.Token.fill]
    · simp [hstar, hquestion, Glob.Token.fill]

/-- A wildcard is neither a dot nor a digit, and takes one code unit, like the letter for it. -/
theorem eq_of_isWildcard (c : Char) :
    isDot (if isWildcard c then 'a' else c) = isDot c ∧
      utf16Size (if isWildcard c then 'a' else c) = utf16Size c ∧
      (if isWildcard c then 'a' else c).isDigit = c.isDigit := by
  by_cases hc : isWildcard c = true
  · rw [if_pos hc]
    rw [isWildcard, decide_eq_true_eq] at hc
    rcases hc with rfl | rfl <;> decide
  · rw [if_neg hc]
    exact ⟨rfl, rfl, rfl⟩

/-- Replacing the wildcards leaves the limits of a name as they are. -/
theorem withinLimits_replaceWildcards {name : List Char} :
    WithinLimits (replaceWildcards name) ↔ WithinLimits name := by
  have hdot : isDot ∘ (fun c => if isWildcard c then 'a' else c) = isDot :=
    funext fun c => (eq_of_isWildcard c).1
  have hlength : ∀ s, utf16Length (replaceWildcards s) = utf16Length s := by
    intro s
    rw [utf16Length, replaceWildcards, List.map_map, utf16Length]
    exact congrArg _ (List.map_congr_left fun c _ => (eq_of_isWildcard c).2.1)
  have hname : dropFinal isDot (replaceWildcards name) =
      replaceWildcards (dropFinal isDot name) := by
    rw [replaceWildcards, dropFinal_map, hdot, replaceWildcards]
  have hparts : (replaceWildcards (dropFinal isDot name)).splitOnP isDot =
      ((dropFinal isDot name).splitOnP isDot).map replaceWildcards := by
    rw [replaceWildcards, splitOnP_map, hdot]
    rfl
  have hdigit : ∀ part : List Char, (∀ c ∈ (replaceWildcards part).head?, c.isDigit = false) ↔
      ∀ c ∈ part.head?, c.isDigit = false := by
    intro part
    rw [replaceWildcards, List.head?_map]
    cases part.head? <;> simp [(eq_of_isWildcard _).2.2]
  rw [withinLimits_iff, withinLimits_iff, hname, hparts, hlength, List.forall_mem_map,
    List.getLast?_map]
  simp only [hlength, Option.mem_def, Option.map_eq_some_iff, forall_exists_index, and_imp,
    forall_apply_eq_imp_iff₂]
  simp only [← Option.mem_def, hdigit]

section Matched

variable {g : Guava} {wildcard hostname : String}

/-- What is no wildcard stands in each hostname that matches. -/
theorem mem_of_matchesHostname (hmatch : MatchesHostname wildcard hostname) {c : Char}
    (hc : c ∈ wildcard.toList) (hlit : isWildcard c = false) : c ∈ hostname.toList := by
  have htoken : wildcardToken c = .lit c := by
    rw [isWildcard, decide_eq_false_iff_not, not_or] at hlit
    rw [wildcardToken, if_neg hlit.1, if_neg hlit.2]
  have hmem : .lit c ∈ wildcard.toList.map wildcardToken := by
    rw [← htoken]
    exact List.mem_map_of_mem hc
  obtain ⟨d, hd, heq⟩ := hmatch.exists_of_lit_mem hmem
  obtain rfl : c = d := by simpa using heq
  exact hd

variable (hg : g.isValidDomainName = isValidInternetDomainName)
  (hvalid : isValidHostname g hostname = true) (hmatch : MatchesHostname wildcard hostname)
include hg hvalid hmatch

/-- The characters that are no wildcards are allowed. -/
theorem isPartChar_of_mem {c : Char} (hc : c ∈ wildcard.toList) (hlit : isWildcard c = false)
    (hdot : isDot c = false) : isPartChar c = true := by
  rw [isValidHostname, hg, isValidInternetDomainName_iff] at hvalid
  exact hvalid.2.1 c (mem_of_matchesHostname hmatch hc hlit) hdot

/-- The name with a letter for each wildcard obeys all rules but the limits. -/
theorem isValidHostname_replaceWildcards_iff :
    isValidHostname g (String.ofList (replaceWildcards wildcard.toList)) = true ↔
      WithinLimits wildcard.toList := by
  have hchars : ∀ c ∈ replaceWildcards wildcard.toList, isDot c = false → isPartChar c = true := by
    intro c hc hdot
    obtain ⟨d, hd, rfl⟩ := List.mem_map.mp hc
    by_cases hlit : isWildcard d = true
    · rw [if_pos hlit]
      rfl
    · rw [if_neg hlit] at hdot ⊢
      exact isPartChar_of_mem hg hvalid hmatch hd (Bool.eq_false_iff.mpr hlit) hdot
  have hvalid' := hvalid
  rw [isValidHostname, hg, isValidInternetDomainName_iff] at hvalid'
  obtain ⟨⟨hne, hchain, hlast⟩, -, -⟩ := hvalid'
  have heqv : ∀ a c : Char, decide (a = c) = true → a = c := fun a c h => of_decide_eq_true h
  -- a letter goes with all neighbours
  have hletter : ∀ c, Fits isDot isDash 'a' c ∧ Fits isDot isDash c 'a' := by
    intro c
    constructor
    · exact (fits_of_not_sep rfl).mpr fun _ => rfl
    · exact ⟨fun _ => ⟨rfl, rfl⟩, fun h => absurd h (by decide)⟩
  have hneighbours :
      List.IsChain (Fits isDot isDash) ('.' :: replaceWildcards wildcard.toList) := by
    rw [← fill_wildcardToken]
    exact hmatch.isChain_fill heqv hletter (Or.inl rfl) hchain
  have hnonempty : replaceWildcards wildcard.toList ≠ [] := by
    intro hnil
    rw [MatchesHostname, List.map_eq_nil_iff.mp hnil] at hmatch
    apply hne
    generalize hostname.toList = s at hmatch
    cases hmatch
    rfl
  have hend : ∀ c ∈ (replaceWildcards wildcard.toList).getLast?, isDash c = false := by
    intro c hc
    rw [← fill_wildcardToken] at hc
    rcases hmatch.getLast?_fill heqv c hc with rfl | hc
    · rfl
    · exact hlast c hc
  rw [isValidHostname, hg, isValidInternetDomainName_iff, String.toList_ofList,
    withinLimits_replaceWildcards]
  constructor
  · rintro ⟨-, -, hlimits⟩
    exact hlimits
  · intro hlimits
    exact ⟨⟨hnonempty, hneighbours, hend⟩, hchars, hlimits⟩

/-- The name without the wildcards may break a rule on the edges of a label as well. -/
theorem isValidHostname_clearWildcards_iff :
    isValidHostname g (String.ofList (clearWildcards wildcard.toList)) = true ↔
      WithinLimits (clearWildcards wildcard.toList) ∧
        ∀ part ∈ (dropFinal isDot (clearWildcards wildcard.toList)).splitOnP isDot,
          EdgesOk isDash part := by
  have hchars : ∀ c ∈ clearWildcards wildcard.toList, isDot c = false → isPartChar c = true := by
    intro c hc hdot
    obtain ⟨hmem, hlit⟩ := List.mem_filter.mp hc
    exact isPartChar_of_mem hg hvalid hmatch hmem (by simpa using hlit) hdot
  rw [isValidHostname, hg, isValidInternetDomainName_iff, String.toList_ofList,
    ← forall_edgesOk_dropFinal_iff (by rfl) isDash_eq_false_of_isDot]
  constructor
  · rintro ⟨hedges, -, hlimits⟩
    exact ⟨hlimits, hedges⟩
  · rintro ⟨hlimits, hedges⟩
    exact ⟨hedges, hchars, hlimits⟩

/-- **Which wildcard hostnames are accepted**, among those that match a valid hostname: those within
the limits when each wildcard counts as a letter, and those that are within the limits, and have no
label that is empty or has a dash at an edge, once the wildcards are deleted. -/
theorem isValidWildcardHostname_iff_of_matches :
    isValidWildcardHostname g wildcard = true ↔
      WithinLimits wildcard.toList ∨
        WithinLimits (clearWildcards wildcard.toList) ∧
          ∀ part ∈ (dropFinal isDot (clearWildcards wildcard.toList)).splitOnP isDot,
            EdgesOk isDash part := by
  rw [← isValidHostname_replaceWildcards_iff hg hvalid hmatch,
    ← isValidHostname_clearWildcards_iff hg hvalid hmatch, isValidWildcardHostname, Bool.or_eq_true,
    or_comm]
  rfl

end Matched

/-- The library as it validates names. -/
def guava : Guava := ⟨isValidInternetDomainName, fun _ => false⟩

/-- A label of 64 question marks. -/
def longWildcard : String := String.ofList (List.replicate 64 '?')

/-- A hostname of as many characters, in two labels. -/
def longHostname : String :=
  String.ofList (List.replicate 30 'a' ++ '.' :: List.replicate 33 'a')

theorem matchesHostname_longWildcard : MatchesHostname longWildcard longHostname := by
  rw [MatchesHostname, ← Glob.accepts_iff]
  decide +kernel

theorem isValidWildcardHostname_subdomains :
    isValidWildcardHostname guava "*.example.com" = true := by
  have hmatch : MatchesHostname "*.example.com" "ads.example.com" := by
    rw [MatchesHostname, ← Glob.accepts_iff]
    decide
  refine (isValidWildcardHostname_iff_of_matches rfl (by decide) hmatch).mpr (Or.inl ?_)
  exact ⟨by decide, by decide, by rintro part ⟨⟩ c ⟨⟩; decide⟩

/-- Sixty-four question marks are rejected, and match a valid hostname of two labels. -/
theorem not_isValidWildcardHostname_of_matches :
    ¬ ∀ wildcard hostname : String, isValidHostname guava hostname = true →
      MatchesHostname wildcard hostname → isValidWildcardHostname guava wildcard = true := by
  intro h
  exact absurd (h _ longHostname (by decide +kernel) matchesHostname_longWildcard)
    (by decide +kernel)

end AdAway
