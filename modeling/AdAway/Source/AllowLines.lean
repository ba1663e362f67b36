import AdAway.Source.SourceLoader
import AdAway.Util.WildcardHostname

/-!
# Comments in an allow list

A line of an allow list is a wildcard hostname, with white space around it. `parseAllowListItem`
looks for a comment behind it, but cuts it off only when it starts at index 1. Any other comment
stays in the host, where it makes the host invalid, and the line is dropped.

## Main definitions

* `AllowLine` — a line without its comment: white space, a wildcard hostname, white space
* `allowItem` — the item it stands for

## Main results

* `parseLine_allowLine` — the item of a line without a comment
* `parseLine_allowLine_comment` — what a comment makes of it
-/

namespace AdAway

/-! ### White space and comments -/

/-- `trim` leaves what stands between white space. -/
theorem trim_append {pre name post : List Char} (hpre : ∀ c ∈ pre, c ≤ ' ')
    (hpost : ∀ c ∈ post, c ≤ ' ') (hne : name ≠ []) (hname : ∀ c ∈ name, ' ' < c) :
    trim (pre ++ (name ++ post)) = name := by
  have hkept : ∀ c ∈ name, decide (c ≤ ' ') = false := by
    intro c hc
    exact decide_eq_false (Char.not_le.mpr (hname c hc))
  have hleft := span_append (p := fun c => c ≤ ' ') (fun c hc => by simpa using hpre c hc)
    (head_append post hne hkept)
  have hspace : ∀ c ∈ post.reverse, decide (c ≤ ' ') = true := by
    intro c hc
    exact decide_eq_true (hpost c (List.mem_reverse.mp hc))
  have hright := span_append hspace fun c hc =>
    hkept c (List.mem_reverse.mp (List.mem_of_head? hc))
  rw [trim, hleft.2, List.reverse_append, hright.2, List.reverse_reverse]

/-- `trim` drops white space only. -/
theorem mem_trim {c : Char} (hc : ' ' < c) {line : List Char} (hmem : c ∈ line) :
    c ∈ trim line := by
  have hdrop : ∀ s : List Char, c ∈ s → c ∈ s.dropWhile fun c => c ≤ ' ' := by
    intro s hs
    rw [← List.takeWhile_append_dropWhile (p := fun c => c ≤ ' ') (l := s)] at hs
    rcases List.mem_append.mp hs with htake | hdrop
    · have hle := List.mem_takeWhile_imp htake
      exact absurd hc (Char.not_lt.mpr (by simpa using hle))
    · exact hdrop
  rw [trim, List.mem_reverse]
  exact hdrop _ (List.mem_reverse.mpr (hdrop line hmem))

theorem indexOf_append {c : Char} {before : List Char} (hbefore : c ∉ before) (after : List Char) :
    indexOf c (before ++ c :: after) = some (utf16Length before) := by
  induction before with
  | nil => simp [indexOf, utf16Length]
  | cons d before ih =>
    obtain ⟨hne, hbefore⟩ := not_or.mp (mt List.mem_cons.mpr hbefore)
    rw [List.cons_append, indexOf, if_neg (Ne.symm hne), ih hbefore]
    rfl

theorem indexOf_eq_none {c : Char} {line : List Char} (h : c ∉ line) : indexOf c line = none := by
  induction line with
  | nil => rfl
  | cons d line ih =>
    obtain ⟨hne, hline⟩ := not_or.mp (mt List.mem_cons.mpr h)
    rw [indexOf, if_neg (Ne.symm hne), ih hline]
    rfl

/-! ### The lines -/

/-- A valid name is not empty, and has neither white space nor `#`. -/
def NamesWithoutSpace (g : Guava) : Prop :=
  ∀ name, g.isValidDomainName name = true →
    name.toList ≠ [] ∧ ∀ c ∈ name.toList, ' ' < c ∧ c ≠ '#'

/-- A line of an allow list: a wildcard hostname, with white space around it. -/
structure AllowLine (g : Guava) where
  pre : List Char
  hostname : String
  post : List Char
  pre_space : ∀ c ∈ pre, c ≤ ' '
  post_space : ∀ c ∈ post, c ≤ ' '
  no_comment : '#' ∉ hostname.toList
  valid : isValidWildcardHostname g hostname = true

/-- The text of the line. -/
def AllowLine.text {g : Guava} (line : AllowLine g) : List Char :=
  line.pre ++ (line.hostname.toList ++ line.post)

/-- The text of the line, with a comment behind it. -/
def AllowLine.withComment {g : Guava} (line : AllowLine g) (comment : List Char) : List Char :=
  line.text ++ '#' :: comment

/-- The item a line of an allow list stands for. -/
def allowItem (source : HostsSource) (hostname : String) : HostListItem :=
  ⟨0, hostname, .allowed, true, none, source.id⟩

section Lines

variable {g : Guava} {source : HostsSource}

/-- A wildcard hostname that is accepted has what a valid name has. -/
theorem NamesWithoutSpace.wildcard (hg : NamesWithoutSpace g) {hostname : String}
    (hvalid : isValidWildcardHostname g hostname = true) :
    hostname.toList ≠ [] ∧ ∀ c ∈ hostname.toList, ' ' < c ∧ c ≠ '#' := by
  have hwild : ∀ c, isWildcard c = true → ' ' < c ∧ c ≠ '#' := by
    intro c hc
    rw [isWildcard, decide_eq_true_eq] at hc
    rcases hc with rfl | rfl <;> decide
  rw [isValidWildcardHostname, Bool.or_eq_true] at hvalid
  rcases hvalid with hvalid | hvalid <;> obtain ⟨hne, hchars⟩ := hg _ hvalid <;>
    rw [String.toList_ofList] at hne hchars
  · refine ⟨fun hnil => hne (by rw [hnil]; rfl), fun c hc => ?_⟩
    by_cases hlit : isWildcard c = true
    · exact hwild c hlit
    · exact hchars c (List.mem_filter.mpr ⟨hc, by simpa using hlit⟩)
  · refine ⟨fun hnil => hne (by rw [hnil]; rfl), fun c hc => ?_⟩
    by_cases hlit : isWildcard c = true
    · exact hwild c hlit
    · have hmem := hchars _ (List.mem_map_of_mem (f := fun c => if isWildcard c then 'a' else c) hc)
      rwa [if_neg hlit] at hmem

/-- The text of a line has no comment, and does not begin with one. -/
theorem AllowLine.not_mem_text (line : AllowLine g) : '#' ∉ line.text := by
  intro hmem
  rcases List.mem_append.mp hmem with hpre | hmem
  · exact absurd (line.pre_space _ hpre) (by decide)
  rcases List.mem_append.mp hmem with hname | hpost
  · exact line.no_comment hname
  · exact absurd (line.post_space _ hpost) (by decide)

theorem AllowLine.text_ne_nil (hg : NamesWithoutSpace g) (line : AllowLine g) :
    line.text ≠ [] := by
  intro hnil
  exact (hg.wildcard line.valid).1 (List.append_eq_nil_iff.mp (List.append_eq_nil_iff.mp hnil).2).1

/-- A line that is no comment itself, in an allow list. -/
theorem parseLine_eq_filter (hallow : source.allowEnabled = true) {before : List Char}
    (hbefore : '#' ∉ before) (hne : before ≠ []) (after : List Char) :
    parseLine g source (String.ofList (before ++ after)) =
      (some (parseAllowListItem source (String.ofList (before ++ after)))).filter fun item =>
        isValidWildcardHostname g item.host := by
  have hhead : ((before ++ after).head?.all (· = '#')) = false := by
    obtain ⟨c, before, rfl⟩ := List.exists_cons_of_ne_nil hne
    have hc : c ≠ '#' := by
      rintro rfl
      exact hbefore List.mem_cons_self
    simp [hc]
  rw [parseLine, String.toList_ofList, if_neg (Bool.eq_false_iff.mp hhead),
    if_pos hallow]
  rfl

/-- **A line without a comment** gives the item it stands for. -/
theorem parseLine_allowLine (hg : NamesWithoutSpace g) (hallow : source.allowEnabled = true)
    (line : AllowLine g) :
    parseLine g source (String.ofList line.text) = some (allowItem source line.hostname) := by
  have hitem : parseAllowListItem source (String.ofList line.text) =
      allowItem source line.hostname := by
    obtain ⟨hne, hname⟩ := hg.wildcard line.valid
    have hindex : indexOf '#' line.text ≠ some 1 := by
      rw [indexOf_eq_none line.not_mem_text]
      exact nofun
    rw [parseAllowListItem, String.toList_ofList, if_neg hindex, AllowLine.text,
      trim_append line.pre_space line.post_space hne fun c hc => (hname c hc).1,
      String.ofList_toList]
    rfl
  have hparse := parseLine_eq_filter (g := g) hallow line.not_mem_text (line.text_ne_nil hg) []
  rw [List.append_nil, hitem] at hparse
  rw [hparse, Option.filter_some]
  exact if_pos line.valid

/-- A comment at index 1 stands behind a hostname of one character. -/
theorem AllowLine.hostname_eq (hg : NamesWithoutSpace g) (line : AllowLine g)
    (hlength : utf16Length line.text = 1) : line.text = line.hostname.toList := by
  have hle := length_le_utf16Length line.text
  have hpos := List.length_pos_of_ne_nil (hg.wildcard line.valid).1
  rw [hlength, AllowLine.text, List.length_append, List.length_append] at hle
  have hpre : line.pre = [] := List.eq_nil_of_length_eq_zero (by omega)
  have hpost : line.post = [] := List.eq_nil_of_length_eq_zero (by omega)
  rw [AllowLine.text, hpre, hpost, List.nil_append, List.append_nil]

/-- A comment elsewhere ends up in the host, and the line is dropped. -/
theorem parseLine_withComment_eq_none (hg : NamesWithoutSpace g)
    (hallow : source.allowEnabled = true) (line : AllowLine g) (comment : List Char)
    (hlength : utf16Length line.text ≠ 1) :
    parseLine g source (String.ofList (line.withComment comment)) = none := by
  have hindex : indexOf '#' (line.withComment comment) ≠ some 1 := by
    rw [AllowLine.withComment, indexOf_append line.not_mem_text]
    exact fun h => hlength (Option.some.inj h)
  have hinvalid : isValidWildcardHostname g
      (String.ofList (trim (line.withComment comment))) = false := by
    by_contra hvalid
    have hmem : '#' ∈ trim (line.withComment comment) :=
      mem_trim (by decide) (List.mem_append_right _ List.mem_cons_self)
    have hchars := (hg.wildcard ((Bool.not_eq_false _).mp hvalid)).2
    rw [String.toList_ofList] at hchars
    exact (hchars _ hmem).2 rfl
  rw [AllowLine.withComment, parseLine_eq_filter hallow line.not_mem_text (line.text_ne_nil hg),
    ← AllowLine.withComment, parseAllowListItem, String.toList_ofList, if_neg hindex,
    Option.filter_some]
  exact if_neg (Bool.eq_false_iff.mp hinvalid)

/-- **What a comment makes of a line**: it gives the item it gives without the comment only where
one UTF-16 unit stands before the comment. -/
theorem parseLine_allowLine_comment (hg : NamesWithoutSpace g)
    (hallow : source.allowEnabled = true) (line : AllowLine g) (comment : List Char) :
    parseLine g source (String.ofList line.text) = some (allowItem source line.hostname) ∧
      (parseLine g source (String.ofList (line.withComment comment)) =
          some (allowItem source line.hostname) ↔ utf16Length line.text = 1) := by
  have htext := parseLine_allowLine hg hallow line
  refine ⟨htext, ?_, ?_⟩
  · intro hparse
    by_contra hlength
    rw [parseLine_withComment_eq_none hg hallow line comment hlength] at hparse
    cases hparse
  · intro hlength
    have hindex : indexOf '#' (line.withComment comment) = some 1 := by
      rw [AllowLine.withComment, indexOf_append line.not_mem_text, hlength]
    have hcut : (line.withComment comment).take 1 = line.hostname.toList := by
      have hle := length_le_utf16Length line.text
      have hpos := List.length_pos_of_ne_nil (line.text_ne_nil hg)
      rw [AllowLine.withComment, List.take_append_of_le_length hpos, ← line.hostname_eq hg hlength]
      exact List.take_of_length_le (by omega)
    obtain ⟨hne, hname⟩ := hg.wildcard line.valid
    have hnone : ∀ c ∈ ([] : List Char), c ≤ ' ' := fun c hc => absurd hc List.not_mem_nil
    have htrim := trim_append hnone hnone hne fun c hc => (hname c hc).1
    rw [List.append_nil, List.nil_append] at htrim
    rw [AllowLine.withComment, parseLine_eq_filter hallow line.not_mem_text (line.text_ne_nil hg),
      ← AllowLine.withComment, parseAllowListItem, String.toList_ofList, if_pos hindex, hcut, htrim,
      String.ofList_toList, Option.filter_some]
    exact if_pos line.valid

end Lines

/-- The characters of a valid name. -/
theorem lt_of_isPartChar {c : Char} (h : isPartChar c = true) : ' ' < c ∧ c ≠ '#' := by
  have hcode : 32 < c.toNat ∧ c.toNat ≠ 35 := by
    simp only [isPartChar, isDash, decide_eq_true_eq] at h
    rcases h with h | h | rfl | rfl
    · omega
    · have hrange := toNat_of_isAlphanum h
      omega
    · decide
    · decide
  refine ⟨Char.lt_def.mpr hcode.1, ?_⟩
  rintro rfl
  exact hcode.2 rfl

theorem namesWithoutSpace_guava : NamesWithoutSpace guava := by
  intro name hvalid
  obtain ⟨⟨hne, -⟩, hchars, -⟩ := isValidInternetDomainName_iff.mp hvalid
  refine ⟨hne, fun c hc => ?_⟩
  cases hdot : isDot c with
  | false => exact lt_of_isPartChar (hchars c hc hdot)
  | true =>
    simp only [isDot, List.mem_cons, List.not_mem_nil, or_false, decide_eq_true_eq] at hdot
    rcases hdot with rfl | rfl | rfl | rfl <;> decide

/-- An allow list. -/
def allowListSource : HostsSource := { hostsFileSource with allowEnabled := true }

/-- The line `ads.example `, up to its comment. -/
def adsLine : AllowLine guava where
  pre := []
  hostname := "ads.example"
  post := [' ']
  pre_space := nofun
  post_space := by simp
  no_comment := by decide
  valid := by decide

theorem parseLine_allowLine_comment_ads :
    parseLine guava allowListSource "ads.example " =
        some (allowItem allowListSource "ads.example") ∧
      (parseLine guava allowListSource "ads.example # ads" =
        some (allowItem allowListSource "ads.example") ↔ utf16Length adsLine.text = 1) :=
  parseLine_allowLine_comment namesWithoutSpace_guava rfl adsLine " ads".toList

/-- The line `ads.example # ads` of an allow list is dropped. -/
theorem not_parseLine_withComment :
    ¬ ∀ (source : HostsSource) (line : AllowLine guava) (comment : List Char),
      source.allowEnabled = true →
      parseLine guava source (String.ofList (line.withComment comment)) =
        some (allowItem source line.hostname) := by
  intro h
  exact absurd (h allowListSource adsLine " ads".toList rfl) (by decide)

end AdAway
