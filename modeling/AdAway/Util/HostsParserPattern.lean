import AdAway.Library.Regex
import AdAway.Util.RegexUtils

/-!
# The pattern of a hosts line

`HOSTS_PARSER_PATTERN` is matched by backtracking. Here its matches are compared with `hostsParser`,
which computes the two groups without giving anything back, and with the form of a hosts line.

A line has this form with any text behind the second token. The pattern has `.*` there, which does
not match a line terminator. A line that is read from a file has no line feed and no carriage
return, but it may have one of the three others, and then the pattern does not match.

## Main definitions

* `hostsParserPattern` — the pattern
* `IsHostsLine` — the form of a hosts line
* `MatchesForm` — a line is matched as its form says

## Main results

* `fullMatch_hostsParserPattern` — the matcher finds the groups of `hostsParser`
* `matchesForm_iff` — when a line is matched as its form says
-/

namespace AdAway

open Regex

/-- `$`: what is left is at most a line terminator. -/
def isAtEnd : List Char → Bool
  | [] => true
  | [c] => isLineTerminator c
  | [c, d] => c = '\r' ∧ d = '\n'
  | _ => false

/-- `HOSTS_PARSER`. A match of the whole line begins at its start, as `^` asks. -/
def hostsParserPattern : Pattern Char :=
  .seq (.many isSpace) <| .seq (.group (plus isToken)) <| .seq (plus isSpace) <|
    .seq (.group (plus isToken)) <| .seq (.many fun c => !isLineTerminator c) (.look isAtEnd)

/-! ### The matcher -/

/-- What accepts at the end of a line. -/
abbrev acceptAtEnd (rest : List Char) (groups : List (List Char)) : Option (List (List Char)) :=
  if rest.isEmpty then some groups else none

/-- `.*$` matches a text without line terminators. -/
theorem run_rest (rest : List Char) (groups : List (List Char)) :
    run (.seq (.many fun c => !isLineTerminator c) (.look isAtEnd)) acceptAtEnd rest groups =
      if rest.all (fun c => !isLineTerminator c) then some groups else none := by
  have hnil : ∀ s, run (.look isAtEnd) acceptAtEnd s groups =
      if s = [] then some groups else none := by
    intro s
    cases s with
    | nil => rfl
    | cons c s => simp [run, acceptAtEnd]
  rw [run, run]
  simp only [hnil]
  rw [runMany_eq_dropWhile (fun c t _ h => absurd h (by simp))]
  simp only [List.dropWhile_eq_nil_iff, List.all_eq_true]

section Parts

variable {t : Pattern Char} {k : List Char → List (List Char) → Option (List (List Char))}

/-- `([^#\s]+)` does not begin with white space. -/
theorem run_group_token_of_isSpace {c : Char} (hc : isSpace c = true) (s : List Char)
    (groups : List (List Char)) :
    run (.seq (.group (plus isToken)) t) k (c :: s) groups = none := by
  rw [run, run, plus, run, run, if_neg]
  rw [isToken_eq_false_of_isSpace hc]
  exact Bool.false_ne_true

/-- `\s+` does not begin with a character of a token. -/
theorem run_plus_space_of_isToken {c : Char} (hc : isToken c = true) (s : List Char)
    (groups : List (List Char)) :
    run (.seq (plus isSpace) t) k (c :: s) groups = none := by
  rw [run, plus, run, run, if_neg]
  rw [isSpace_eq_false_of_isToken hc]
  exact Bool.false_ne_true

/-- `\s*([^#\s]+)` gives no white space back. -/
theorem run_many_space (s : List Char) (groups : List (List Char)) :
    run (.seq (.many isSpace) (.seq (.group (plus isToken)) t)) k s groups =
      run (.seq (.group (plus isToken)) t) k (s.dropWhile isSpace) groups := by
  rw [run, run]
  refine runMany_eq_dropWhile (fun c t hc h => ?_) s
  rw [run_group_token_of_isSpace hc] at h
  cases h

/-- `([^#\s]+)\s+` gives nothing of the token back. -/
theorem run_group_token (s : List Char) (groups : List (List Char)) :
    run (.seq (.group (plus isToken)) (.seq (plus isSpace) t)) k s groups =
      if s.takeWhile isToken = [] then none
      else run (.seq (plus isSpace) t) k (s.dropWhile isToken)
        (groups ++ [s.takeWhile isToken]) := by
  rw [run]
  refine run_group_plus (fun c t g g' hc h => ?_) s groups
  rw [run_plus_space_of_isToken hc] at h
  cases h

/-- `\s+([^#\s]+)` gives no white space back. -/
theorem run_plus_space (s : List Char) (groups : List (List Char)) :
    run (.seq (plus isSpace) (.seq (.group (plus isToken)) t)) k s groups =
      if s.takeWhile isSpace = [] then none
      else run (.seq (.group (plus isToken)) t) k (s.dropWhile isSpace) groups := by
  rw [run]
  refine run_plus (fun c t hc h => ?_) s
  rw [run_group_token_of_isSpace hc] at h
  cases h

end Parts

/-- `([^#\s]+).*$` could give back a part of the token, but `.*` then matches no more. -/
theorem run_group_token_rest (s : List Char) (groups : List (List Char)) :
    run (.seq (.group (plus isToken)) (.seq (.many fun c => !isLineTerminator c) (.look isAtEnd)))
        acceptAtEnd s groups =
      if s.takeWhile isToken = [] then none
      else if (s.dropWhile isToken).all (fun c => !isLineTerminator c)
        then some (groups ++ [s.takeWhile isToken]) else none := by
  rw [run]
  simp only [run_rest]
  refine run_group_plus (fun c t g g' _ h => ?_) s groups
  rw [List.all_cons] at h
  cases hall : t.all fun c => !isLineTerminator c
  · simp [hall] at h
  · rfl

/-- **The matcher finds the groups of `hostsParser`.** -/
theorem fullMatch_hostsParserPattern (line : List Char) :
    fullMatch hostsParserPattern line = (hostsParser line).map fun groups =>
      [groups.1, groups.2] := by
  have hrun : fullMatch hostsParserPattern line = run hostsParserPattern acceptAtEnd line [] := rfl
  rw [hrun, hostsParserPattern, run_many_space, run_group_token, run_plus_space,
    run_group_token_rest, hostsParser]
  by_cases hip : (line.dropWhile isSpace).takeWhile isToken = []
  · rw [if_pos hip, if_neg fun h => h.1 hip]
    rfl
  by_cases hgap : ((line.dropWhile isSpace).dropWhile isToken).takeWhile isSpace = []
  · rw [if_neg hip, if_pos hgap, if_neg fun h => h.2.1 hgap]
    rfl
  by_cases hhostname :
      (((line.dropWhile isSpace).dropWhile isToken).dropWhile isSpace).takeWhile isToken = []
  · rw [if_neg hip, if_neg hgap, if_pos hhostname, if_neg fun h => h.2.2.1 hhostname]
    rfl
  rw [if_neg hip, if_neg hgap, if_neg hhostname]
  by_cases hrest : (((((line.dropWhile isSpace).dropWhile isToken).dropWhile isSpace).dropWhile
      isToken).all fun c => !isLineTerminator c) = true
  · rw [if_pos hrest, if_pos ⟨hip, hgap, hhostname, hrest⟩]
    rfl
  · rw [if_neg hrest, if_neg fun h => hrest h.2.2.2]
    rfl

/-! ### The form of a line -/

/-- A hosts line: two tokens with white space before and between them, and then any text that does
not go on with the second token. -/
structure IsHostsLine (line ip hostname rest : List Char) : Prop where
  line_eq : ∃ front, line = front ++ rest ∧ HostsFront front ip hostname
  maximal : ∀ c, rest.head? = some c → isToken c = false

/-- The matches of a line, and their groups, are those of its form. -/
def MatchesForm (line : List Char) : Prop :=
  ∀ groups, fullMatch hostsParserPattern line = some groups ↔
    ∃ ip hostname rest, IsHostsLine line ip hostname rest ∧ groups = [ip, hostname]

/-- The text has none of the line terminators but line feed and carriage return. -/
def IsPlain (rest : List Char) : Prop :=
  ∀ c ∈ rest, c ≠ '\u0085' ∧ c ≠ '\u2028' ∧ c ≠ '\u2029'

theorem all_not_isLineTerminator_iff {rest : List Char} (hrest : '\n' ∉ rest ∧ '\r' ∉ rest) :
    rest.all (fun c => !isLineTerminator c) = true ↔ IsPlain rest := by
  rw [List.all_eq_true]
  refine forall₂_congr fun c hc => ?_
  have hn : c ≠ '\n' := fun h => hrest.1 (h ▸ hc)
  have hr : c ≠ '\r' := fun h => hrest.2 (h ▸ hc)
  simp [isLineTerminator, hn, hr]

/-- A line of this form is matched where the rest of it is plain. -/
theorem IsHostsLine.fullMatch_eq {line ip hostname rest : List Char}
    (h : IsHostsLine line ip hostname rest) :
    fullMatch hostsParserPattern line =
      if rest.all (fun c => !isLineTerminator c) then some [ip, hostname] else none := by
  obtain ⟨front, rfl, hfront⟩ := h.line_eq
  rw [fullMatch_hostsParserPattern, hfront.hostsParser_eq h.maximal]
  split <;> rfl

/-- A line that is matched has this form. -/
theorem isHostsLine_of_fullMatch {line : List Char} {groups : List (List Char)}
    (h : fullMatch hostsParserPattern line = some groups) :
    ∃ ip hostname rest, IsHostsLine line ip hostname rest ∧ groups = [ip, hostname] := by
  rw [fullMatch_hostsParserPattern, Option.map_eq_some_iff] at h
  obtain ⟨⟨ip, hostname⟩, hparse, rfl⟩ := h
  obtain ⟨rest, hline, hmax⟩ := hostsParser_eq_some_iff.mp hparse
  obtain ⟨space, gap, hline_eq, hspace, hgapne, hgap⟩ := hline.line_eq
  refine ⟨ip, hostname, rest, ⟨⟨space ++ (ip ++ (gap ++ hostname)), ?_, ?_⟩, hmax⟩, rfl⟩
  · simp only [hline_eq, List.append_assoc]
  · exact ⟨⟨space, gap, rfl, hspace, hgapne, hgap⟩, hline.ip_ne, hline.ip_token, hline.hostname_ne,
      hline.hostname_token⟩

/-- The rest of a line has no line feed and no carriage return if the line has none. -/
theorem IsHostsLine.not_mem_rest {line ip hostname rest : List Char}
    (h : IsHostsLine line ip hostname rest) (hline : '\n' ∉ line ∧ '\r' ∉ line) :
    '\n' ∉ rest ∧ '\r' ∉ rest := by
  obtain ⟨front, rfl, -⟩ := h.line_eq
  exact ⟨fun hc => hline.1 (List.mem_append_right front hc),
    fun hc => hline.2 (List.mem_append_right front hc)⟩

/-- **When a line is matched as its form says.** The pattern matches nothing else, and with the
right groups; but what stands behind the second token may keep it from matching. Two lines with the
same tokens are matched alike when both rests are plain, or neither is. -/
theorem matchesForm_iff {line : List Char} (hline : '\n' ∉ line ∧ '\r' ∉ line) :
    (MatchesForm line ↔
        ∀ ip hostname rest, IsHostsLine line ip hostname rest → IsPlain rest) ∧
      ∀ line' ip hostname rest rest', '\n' ∉ line' ∧ '\r' ∉ line' →
        IsHostsLine line ip hostname rest → IsHostsLine line' ip hostname rest' →
        (fullMatch hostsParserPattern line = fullMatch hostsParserPattern line' ↔
          (IsPlain rest ↔ IsPlain rest')) := by
  refine ⟨⟨?_, ?_⟩, ?_⟩
  · intro hmatches ip hostname rest hform
    have hgroups := (hmatches [ip, hostname]).mpr ⟨ip, hostname, rest, hform, rfl⟩
    rw [hform.fullMatch_eq] at hgroups
    obtain ⟨hall, -⟩ := Option.ite_none_right_eq_some.mp hgroups
    exact (all_not_isLineTerminator_iff (hform.not_mem_rest hline)).mp hall
  · intro hplain groups
    refine ⟨isHostsLine_of_fullMatch, ?_⟩
    rintro ⟨ip, hostname, rest, hform, rfl⟩
    have hall := (all_not_isLineTerminator_iff (hform.not_mem_rest hline)).mpr
      (hplain ip hostname rest hform)
    rw [hform.fullMatch_eq, if_pos hall]
  · intro line' ip hostname rest rest' hline' hform hform'
    rw [hform.fullMatch_eq, hform'.fullMatch_eq,
      ← all_not_isLineTerminator_iff (hform.not_mem_rest hline),
      ← all_not_isLineTerminator_iff (hform'.not_mem_rest hline')]
    cases rest.all (fun c => !isLineTerminator c) <;>
      cases rest'.all (fun c => !isLineTerminator c) <;> simp

/-- The form of `0.0.0.0 ads.example`, with a rest. -/
theorem isHostsLine_ads {rest : List Char} (hmax : ∀ c, rest.head? = some c → isToken c = false) :
    IsHostsLine ("0.0.0.0 ads.example".toList ++ rest) "0.0.0.0".toList "ads.example".toList
      rest :=
  ⟨⟨_, rfl, ⟨⟨[], [' '], rfl, nofun, by decide, List.all_eq_true.mp (by decide)⟩, by decide,
    List.all_eq_true.mp (by decide), by decide, List.all_eq_true.mp (by decide)⟩⟩, hmax⟩

theorem matchesForm_iff_ads :
    fullMatch hostsParserPattern "0.0.0.0 ads.example # ads".toList =
        fullMatch hostsParserPattern "0.0.0.0 ads.example".toList ↔
      (IsPlain " # ads".toList ↔ IsPlain []) :=
  (matchesForm_iff (by decide)).2 _ _ _ _ _ (by decide)
    (isHostsLine_ads (by rintro c ⟨⟩; decide)) (isHostsLine_ads nofun)

/-- A comment with a line separator, U+2028, keeps the line from matching. -/
theorem not_matchesForm :
    ¬ ∀ line : List Char, '\n' ∉ line ∧ '\r' ∉ line → MatchesForm line := by
  intro h
  have hmatches := h "0.0.0.0 ads.example # \u2028".toList (by decide)
    ["0.0.0.0".toList, "ads.example".toList]
  have hform : IsHostsLine "0.0.0.0 ads.example # \u2028".toList "0.0.0.0".toList
      "ads.example".toList " # \u2028".toList := isHostsLine_ads (by rintro c ⟨⟩; decide)
  have hgroups := hmatches.mpr ⟨_, _, _, hform, rfl⟩
  rw [hform.fullMatch_eq] at hgroups
  exact absurd hgroups (by decide)

end AdAway
