import AdAway.Ui.ItemInvariants

/-!
# Wildcards and `LIKE`

An allowed host and the query of the list screens are wildcards: `*` stands for any sequence of
characters, `?` for any one character. `HostEntryDao.sync` and `ListsFilter` turn them into patterns
of `LIKE`, replacing the two wildcards by `%` and `_`.

A domain name has no `%`, but it may have `_`, which `LIKE` reads as any one character. So a pattern
matches all that its wildcard matches, and the same only where the wildcard has no `_`. And `LIKE`
takes patterns of 50000 bytes at most, while a wildcard may have any number of `*`.

No name of a host has NUL, but the text of a backup may. `LIKE` reads such a text up to its first
NUL, which is enough for a wildcard that has only `*`, and these at its end.

## Main definitions

* `convertToLikeQuery` — the pattern of `ListsFilter`
* `MatchesWildcard`, `ContainsWildcard` — what a wildcard stands for

## Main results

* `like_toLikePattern_of_matches` — a pattern matches what its wildcard matches
* `likePatterns_exact_iff` — when the patterns match the same as the wildcard
-/

namespace AdAway

/-- `ListsFilter.convertToLikeQuery`. -/
def convertToLikeQuery (query : String) : String :=
  String.ofList ('%' :: (((query.toList.map fun c => if c = '*' then '%' else c).map
    fun c => if c = '?' then '_' else c) ++ ['%']))

/-- The pattern is longer than the query by the two `%`. -/
theorem utf8ByteSize_convertToLikeQuery (query : String) :
    (convertToLikeQuery query).utf8ByteSize = query.utf8ByteSize + 2 := by
  have hpattern := utf8ByteSize_toLikePattern query
  rw [toLikePattern, String.utf8ByteSize_ofList] at hpattern
  rw [convertToLikeQuery, String.utf8ByteSize_ofList, String.utf8Len_cons, String.utf8Len_append,
    hpattern]
  rfl

theorem tooComplex_convertToLikeQuery_iff {query : String} :
    TooComplex (convertToLikeQuery query) ↔ maxLikePatternLength < query.utf8ByteSize + 2 := by
  rw [TooComplex, utf8ByteSize_convertToLikeQuery]

/-! ### What a wildcard stands for -/

/-- The host matches the wildcard, up to the case of ASCII letters. -/
def MatchesWildcard (host wildcard : String) : Prop :=
  Glob.Matches likeEq (wildcard.toList.map wildcardToken) host.toList

/-- A part of the host matches the wildcard. -/
def ContainsWildcard (host wildcard : String) : Prop :=
  ∃ before middle after, host.toList = before ++ (middle ++ after) ∧
    Glob.Matches likeEq (wildcard.toList.map wildcardToken) middle

theorem wildcardToken_eq_many_iff {c : Char} : wildcardToken c = .many ↔ c = '*' := by
  rw [wildcardToken]
  split
  next hstar => exact iff_of_true rfl hstar
  next hstar => split <;> exact iff_of_false nofun hstar

/-! ### The patterns -/

/-- How `LIKE` reads a character of a wildcard, once the wildcards are replaced. -/
def patternToken (c : Char) : Glob.Token Char :=
  likeToken ((fun c => if c = '?' then '_' else c) (if c = '*' then '%' else c))

theorem patternToken_eq (c : Char) :
    patternToken c = if c = '_' then .one else if c = '%' then .many else wildcardToken c := by
  by_cases hstar : c = '*'
  · subst hstar
    rfl
  · by_cases hquestion : c = '?'
    · subst hquestion
      rfl
    · simp only [patternToken, wildcardToken, hstar, hquestion, if_false, likeToken]
      by_cases hunderscore : c = '_'
      · subst hunderscore
        rfl
      · simp only [hunderscore, if_false]

theorem ne_nul_of_mem_replaced {l : List Char} (h : '\x00' ∉ l) {c : Char}
    (hc : c ∈ (l.map fun c => if c = '*' then '%' else c).map fun c => if c = '?' then '_' else c) :
    c ≠ '\x00' := by
  rw [List.map_map, List.mem_map] at hc
  obtain ⟨d, hd, rfl⟩ := hc
  have hne : d ≠ '\x00' := fun heq => h (heq ▸ hd)
  simp only [Function.comp_apply]
  split <;> split <;> first | decide | exact hne

theorem like_toLikePattern {host wildcard : String} (hhost : NoNul host) (hwild : NoNul wildcard) :
    like host (toLikePattern wildcard) = some true ↔ ¬ TooComplex wildcard ∧
      Glob.Matches likeEq (wildcard.toList.map patternToken) host.toList := by
  have hpattern : NoNul (toLikePattern wildcard) := by
    rw [NoNul, toLikePattern, String.toList_ofList]
    exact fun hc => ne_nul_of_mem_replaced hwild hc rfl
  rw [like_eq_some_true_iff, tooComplex_toLikePattern_iff, likeChars_eq hpattern,
    likeChars_eq hhost, toLikePattern, String.toList_ofList, List.map_map, List.map_map,
    Glob.accepts_iff]
  exact Iff.rfl

theorem like_convertToLikeQuery {host wildcard : String} (hhost : NoNul host)
    (hwild : NoNul wildcard) :
    like host (convertToLikeQuery wildcard) = some true ↔
      ¬ TooComplex (convertToLikeQuery wildcard) ∧
        ∃ before middle after, host.toList = before ++ (middle ++ after) ∧
          Glob.Matches likeEq (wildcard.toList.map patternToken) middle := by
  have hpattern : NoNul (convertToLikeQuery wildcard) := by
    rw [NoNul, convertToLikeQuery, String.toList_ofList, List.mem_cons, List.mem_append]
    rintro (hc | hc | hc)
    · exact absurd hc (by decide)
    · exact ne_nul_of_mem_replaced hwild hc rfl
    · exact absurd hc (by decide)
  rw [like_eq_some_true_iff, likeChars_eq hpattern, likeChars_eq hhost, and_congr_right_iff]
  intro _
  rw [convertToLikeQuery, String.toList_ofList, Glob.accepts_iff, List.map_cons,
    List.map_append, List.map_map, List.map_map, ← Glob.matches_many_append_many]
  exact Iff.rfl

/-! ### Accepted wildcards -/

section Accepted

variable {g : Guava} (hg : g.Lawful) {wildcard : String}
  (haccepted : isValidWildcardHostname g wildcard = true)

include hg haccepted

/-- A wildcard that is accepted has no other special character of ASCII than its wildcards. -/
theorem isNameChar_of_accepted {c : Char} (hc : c ∈ wildcard.toList) (hascii : c.toNat < 128) :
    isWildcard c = true ∨ isNameChar c = true := by
  by_cases hwild : isWildcard c = true
  · exact Or.inl hwild
  · refine Or.inr ?_
    rw [isValidWildcardHostname, Bool.or_eq_true] at haccepted
    rcases haccepted with hcleared | hreplaced
    · refine hg.domainName _ hcleared c ?_ hascii
      rw [String.toList_ofList, List.mem_filter]
      exact ⟨hc, by simpa using hwild⟩
    · refine hg.domainName _ hreplaced c ?_ hascii
      rw [String.toList_ofList, List.mem_map]
      exact ⟨c, hc, if_neg hwild⟩

theorem ne_percent_of_accepted {c : Char} (hc : c ∈ wildcard.toList) : c ≠ '%' := by
  rintro rfl
  rcases isNameChar_of_accepted hg haccepted hc (by decide) with h | h
  · exact absurd h (by decide)
  · exact absurd h (by decide)

theorem noNul_of_accepted : NoNul wildcard := by
  intro hc
  rcases isNameChar_of_accepted hg haccepted hc (by decide) with h | h
  · exact absurd h (by decide)
  · exact absurd h (by decide)

/-- `LIKE` reads more into a character of the wildcard only when it is `_`. -/
theorem patternToken_of_accepted {c : Char} (hc : c ∈ wildcard.toList) :
    patternToken c = if c = '_' then .one else wildcardToken c := by
  rw [patternToken_eq]
  simp only [ne_percent_of_accepted hg haccepted hc, if_false]

theorem matches_patternToken {text : List Char}
    (h : Glob.Matches likeEq (wildcard.toList.map wildcardToken) text) :
    Glob.Matches likeEq (wildcard.toList.map patternToken) text := by
  refine h.relax fun c hc => ?_
  rw [patternToken_of_accepted hg haccepted hc]
  by_cases hunderscore : c = '_'
  · subst hunderscore
    exact Or.inr ⟨rfl, '_', rfl⟩
  · exact Or.inl (if_neg hunderscore)

/-- **A pattern matches what its wildcard matches**, unless it is too long. -/
theorem like_toLikePattern_of_matches (hfits : ¬ TooComplex wildcard) {host : String}
    (hhost : NoNul host) (h : MatchesWildcard host wildcard) :
    like host (toLikePattern wildcard) = some true :=
  (like_toLikePattern hhost (noNul_of_accepted hg haccepted)).mpr
    ⟨hfits, matches_patternToken hg haccepted h⟩

theorem like_convertToLikeQuery_of_contains (hfits : ¬ TooComplex (convertToLikeQuery wildcard))
    {host : String} (hhost : NoNul host) (h : ContainsWildcard host wildcard) :
    like host (convertToLikeQuery wildcard) = some true := by
  obtain ⟨before, middle, after, heq, hmiddle⟩ := h
  exact (like_convertToLikeQuery hhost (noNul_of_accepted hg haccepted)).mpr
    ⟨hfits, before, middle, after, heq, matches_patternToken hg haccepted hmiddle⟩

/-- Without `_` the two readings are the same. -/
theorem map_patternToken (hunderscore : '_' ∉ wildcard.toList) :
    wildcard.toList.map patternToken = wildcard.toList.map wildcardToken := by
  refine List.map_congr_left fun c hc => ?_
  rw [patternToken_of_accepted hg haccepted hc, if_neg]
  rintro rfl
  exact hunderscore hc

end Accepted

/-! ### Hosts that match -/

theorem eq_underscore_of_toLower {c : Char} (h : c.toLower = '_') : c = '_' := by
  by_cases hupper : c.val ≥ 'A'.val ∧ c.val ≤ 'Z'.val
  · have hval : c.toLower.val = c.val + ('a'.val - 'A'.val) := congrArg Char.val (dif_pos hupper)
    rw [h] at hval
    simp [UInt32.le_iff_toNat_le] at hupper
    have hnat := congrArg UInt32.toNat hval
    simp at hnat
    omega
  · have hsame : c.toLower = c := dif_neg hupper
    rwa [hsame] at h

/-- What matches a wildcard with `_` has `_` itself. -/
theorem underscore_mem_of_matches {wildcard : String} (hunderscore : '_' ∈ wildcard.toList)
    {text : List Char} (h : Glob.Matches likeEq (wildcard.toList.map wildcardToken) text) :
    '_' ∈ text := by
  obtain ⟨c, hc, heqv⟩ := h.exists_of_lit_mem (List.mem_map.mpr ⟨'_', hunderscore, rfl⟩)
  obtain rfl := eq_underscore_of_toLower (beq_iff_eq.mp heqv).symm
  exact hc

/-- A host that matches the tokens of a wildcard. -/
def sampleHost (token : Char → Glob.Token Char) (wildcard : String) : String :=
  String.ofList ((wildcard.toList.map token).filterMap (Glob.Token.shortest 'a'))

theorem matches_sampleHost (token : Char → Glob.Token Char) (wildcard : String) :
    Glob.Matches likeEq (wildcard.toList.map token) (sampleHost token wildcard).toList := by
  rw [sampleHost, String.toList_ofList]
  exact Glob.matches_shortest (fun c => beq_self_eq_true c.toLower) 'a' _

/-- A literal of either reading is a character of the wildcard. -/
theorem eq_of_lit {c d : Char} :
    (wildcardToken c = .lit d → d = c) ∧ (patternToken c = .lit d → d = c ∧ c ≠ '_') := by
  have hwild : wildcardToken c = .lit d → d = c := by
    rw [wildcardToken]
    split
    · nofun
    · split
      · nofun
      · exact fun h => (Glob.Token.lit.inj h).symm
  refine ⟨hwild, ?_⟩
  rw [patternToken_eq]
  split
  · nofun
  next hne =>
    split
    · nofun
    · exact fun h => ⟨hwild h, hne⟩

theorem noNul_sampleHost {token : Char → Glob.Token Char}
    (htoken : ∀ c d, token c = .lit d → d = c) {wildcard : String} (h : NoNul wildcard) :
    NoNul (sampleHost token wildcard) := by
  rw [NoNul, sampleHost, String.toList_ofList]
  intro hc
  rcases Glob.mem_shortest hc with hchar | hlit
  · exact absurd hchar (by decide)
  · obtain ⟨c, hmem, heq⟩ := List.mem_map.mp hlit
    exact h (htoken c _ heq ▸ hmem)

/-- The host that the pattern matches has no `_`. -/
theorem underscore_not_mem_sampleHost (wildcard : String) :
    '_' ∉ (sampleHost patternToken wildcard).toList := by
  rw [sampleHost, String.toList_ofList]
  intro hc
  rcases Glob.mem_shortest hc with hchar | hlit
  · exact absurd hchar (by decide)
  · obtain ⟨c, -, heq⟩ := List.mem_map.mp hlit
    obtain ⟨heq, hne⟩ := eq_of_lit.2 heq
    exact hne heq.symm

/-! ### Hosts with NUL -/

/-- A literal of an accepted wildcard is not NUL. -/
theorem likeEq_nul_of_lit {wildcard : String} (h : NoNul wildcard) {a : Char}
    (ha : .lit a ∈ wildcard.toList.map wildcardToken) : likeEq a '\x00' = false := by
  obtain ⟨c, hc, heq⟩ := List.mem_map.mp ha
  obtain rfl := eq_of_lit.1 heq
  rw [likeEq, beq_eq_false_iff_ne]
  intro heq
  obtain rfl := toLower_eq_nul_iff.mp heq
  exact h hc

/-- A pattern that is right for each host without NUL is right for each host exactly if it needs
nothing behind a NUL. -/
theorem forall_like_iff {pattern : String} {p : List (Glob.Token Char)}
    (hp : ∀ a, .lit a ∈ p → likeEq a '\x00' = false) :
    (∀ host, like host pattern = some true ↔ Glob.Matches likeEq p host.toList) ↔
      (∀ host, NoNul host → (like host pattern = some true ↔ Glob.Matches likeEq p host.toList)) ∧
        Glob.IsPrefix p := by
  have hread : ∀ host, NoNul (String.ofList (likeChars host)) := by
    intro host hmem
    rw [String.toList_ofList] at hmem
    exact absurd (List.mem_takeWhile_imp hmem) (by decide)
  have hchars : ∀ host, (String.ofList (likeChars host)).toList
      = host.toList.takeWhile fun c => c ≠ '\x00' := fun host => String.toList_ofList
  rw [← Glob.forall_matches_takeWhile_iff (fun c => beq_self_eq_true c.toLower) hp]
  constructor
  · refine fun h => ⟨fun host _ => h host, fun s => ?_⟩
    have hpart := h (String.ofList (likeChars (String.ofList s)))
    have hwhole := h (String.ofList s)
    rw [like_ofList_likeChars, hchars, String.toList_ofList] at hpart
    rw [String.toList_ofList] at hwhole
    exact hpart.symm.trans hwhole
  · rintro ⟨h, hpart⟩ host
    rw [← like_ofList_likeChars, h _ (hread host), hchars]
    exact hpart host.toList

/-! ### When the patterns are exact -/

section Exact

variable {g : Guava} (hg : g.Lawful) {wildcard : String}
  (haccepted : isValidWildcardHostname g wildcard = true)

include hg haccepted

theorem toLikePattern_exact_iff :
    (∀ host, NoNul host →
        (like host (toLikePattern wildcard) = some true ↔ MatchesWildcard host wildcard)) ↔
      '_' ∉ wildcard.toList ∧ ¬ TooComplex wildcard := by
  have hwild := noNul_of_accepted hg haccepted
  constructor
  · intro hexact
    have hhost := noNul_sampleHost (fun c d => eq_of_lit.1) hwild
    obtain ⟨hfits, -⟩ := (like_toLikePattern hhost hwild).mp
      ((hexact _ hhost).mpr (matches_sampleHost wildcardToken wildcard))
    refine ⟨fun hunderscore => underscore_not_mem_sampleHost wildcard ?_, hfits⟩
    have hplain := noNul_sampleHost (fun c d h => (eq_of_lit.2 h).1) hwild
    exact underscore_mem_of_matches hunderscore ((hexact _ hplain).mp
      ((like_toLikePattern hplain hwild).mpr ⟨hfits, matches_sampleHost patternToken wildcard⟩))
  · rintro ⟨hunderscore, hfits⟩ host hhost
    rw [like_toLikePattern hhost hwild, map_patternToken hg haccepted hunderscore]
    exact and_iff_right hfits

theorem convertToLikeQuery_exact_iff :
    (∀ host, NoNul host →
        (like host (convertToLikeQuery wildcard) = some true ↔ ContainsWildcard host wildcard)) ↔
      '_' ∉ wildcard.toList ∧ ¬ TooComplex (convertToLikeQuery wildcard) := by
  have hwild := noNul_of_accepted hg haccepted
  constructor
  · intro hexact
    have hhost := noNul_sampleHost (fun c d => eq_of_lit.1) hwild
    obtain ⟨hfits, -⟩ := (like_convertToLikeQuery hhost hwild).mp ((hexact _ hhost).mpr
      ⟨[], _, [], (List.append_nil _).symm, matches_sampleHost wildcardToken wildcard⟩)
    refine ⟨fun hunderscore => underscore_not_mem_sampleHost wildcard ?_, hfits⟩
    have hplain := noNul_sampleHost (fun c d h => (eq_of_lit.2 h).1) hwild
    obtain ⟨before, middle, after, heq, hmatch⟩ := (hexact _ hplain).mp
      ((like_convertToLikeQuery hplain hwild).mpr
        ⟨hfits, [], _, [], (List.append_nil _).symm, matches_sampleHost patternToken wildcard⟩)
    rw [heq]
    exact List.mem_append_right _
      (List.mem_append_left _ (underscore_mem_of_matches hunderscore hmatch))
  · rintro ⟨hunderscore, hfits⟩ host hhost
    rw [like_convertToLikeQuery hhost hwild, map_patternToken hg haccepted hunderscore]
    exact and_iff_right hfits

theorem toLikePattern_exact_all_iff :
    (∀ host, like host (toLikePattern wildcard) = some true ↔ MatchesWildcard host wildcard) ↔
      '_' ∉ wildcard.toList ∧ ¬ TooComplex wildcard ∧
        Glob.IsPrefix (wildcard.toList.map wildcardToken) := by
  have hwild := noNul_of_accepted hg haccepted
  rw [← and_assoc, ← toLikePattern_exact_iff hg haccepted]
  exact forall_like_iff fun a ha => likeEq_nul_of_lit hwild ha

theorem convertToLikeQuery_exact_all_iff :
    (∀ host, like host (convertToLikeQuery wildcard) = some true ↔
        ContainsWildcard host wildcard) ↔
      '_' ∉ wildcard.toList ∧ ¬ TooComplex (convertToLikeQuery wildcard) ∧
        ∀ c ∈ wildcard.toList, c = '*' := by
  have hwild := noNul_of_accepted hg haccepted
  have hstar : Glob.IsPrefix (.many :: (wildcard.toList.map wildcardToken ++ [.many])) ↔
      ∀ c ∈ wildcard.toList, c = '*' := by
    simp [Glob.IsPrefix, wildcardToken_eq_many_iff, or_imp]
  rw [← hstar, ← and_assoc, ← convertToLikeQuery_exact_iff hg haccepted]
  simp only [ContainsWildcard, ← Glob.matches_many_append_many]
  refine forall_like_iff fun a ha => likeEq_nul_of_lit hwild ?_
  simpa using ha

end Exact

/-- **When the patterns match the same as the wildcard**: when it has no `_`, and the pattern has
50000 bytes at most. A pattern of this length matches what the wildcard matches in any case; of a
longer one `LIKE` raises an error. This is so for hosts without NUL; of a host with NUL the part in
front of it is compared, which changes nothing exactly if the wildcard of an allowed host is a text
with `*` behind it, and that of a query has nothing but `*`. -/
theorem likePatterns_exact_iff {g : Guava} (hg : g.Lawful) {wildcard : String}
    (haccepted : isValidWildcardHostname g wildcard = true) :
    ((∀ host, NoNul host →
          (like host (toLikePattern wildcard) = some true ↔ MatchesWildcard host wildcard)) ↔
        '_' ∉ wildcard.toList ∧ wildcard.utf8ByteSize ≤ maxLikePatternLength) ∧
      ((∀ host, NoNul host →
          (like host (convertToLikeQuery wildcard) = some true ↔ ContainsWildcard host wildcard)) ↔
        '_' ∉ wildcard.toList ∧ wildcard.utf8ByteSize + 2 ≤ maxLikePatternLength) ∧
      ((∀ host, like host (toLikePattern wildcard) = some true ↔ MatchesWildcard host wildcard) ↔
        '_' ∉ wildcard.toList ∧ wildcard.utf8ByteSize ≤ maxLikePatternLength ∧
          Glob.IsPrefix (wildcard.toList.map wildcardToken)) ∧
      ((∀ host, like host (convertToLikeQuery wildcard) = some true ↔
          ContainsWildcard host wildcard) ↔
        '_' ∉ wildcard.toList ∧ wildcard.utf8ByteSize + 2 ≤ maxLikePatternLength ∧
          ∀ c ∈ wildcard.toList, c = '*') ∧
      (wildcard.utf8ByteSize ≤ maxLikePatternLength → ∀ host, NoNul host →
        MatchesWildcard host wildcard → like host (toLikePattern wildcard) = some true) ∧
      (wildcard.utf8ByteSize + 2 ≤ maxLikePatternLength → ∀ host, NoNul host →
        ContainsWildcard host wildcard → like host (convertToLikeQuery wildcard) = some true) ∧
      ∀ host,
        (like host (toLikePattern wildcard) = none ↔
          maxLikePatternLength < wildcard.utf8ByteSize) ∧
        (like host (convertToLikeQuery wildcard) = none ↔
          maxLikePatternLength < wildcard.utf8ByteSize + 2) ∧
        ∀ pattern, like host pattern = like (String.ofList (likeChars host)) pattern := by
  have hfits : ¬ TooComplex wildcard ↔ wildcard.utf8ByteSize ≤ maxLikePatternLength := not_lt
  have hfitsQuery : ¬ TooComplex (convertToLikeQuery wildcard) ↔
      wildcard.utf8ByteSize + 2 ≤ maxLikePatternLength := by
    rw [tooComplex_convertToLikeQuery_iff, not_lt]
  rw [← hfits, ← hfitsQuery]
  refine ⟨toLikePattern_exact_iff hg haccepted, convertToLikeQuery_exact_iff hg haccepted,
    toLikePattern_exact_all_iff hg haccepted, convertToLikeQuery_exact_all_iff hg haccepted,
    fun hshort host hhost => like_toLikePattern_of_matches hg haccepted hshort hhost,
    fun hshort host hhost => like_convertToLikeQuery_of_contains hg haccepted hshort hhost,
    fun host => ⟨?_, ?_, fun pattern => (like_ofList_likeChars host pattern).symm⟩⟩
  · exact like_eq_none_iff.trans tooComplex_toLikePattern_iff
  · exact like_eq_none_iff.trans tooComplex_convertToLikeQuery_iff

/-- Without `_`, a short allowed host is exact, and with one `*` at its end it is so for every
text. -/
theorem likePatterns_exact_iff_ads :
    (∀ host, NoNul host → (like host (toLikePattern "*ads?.example") = some true ↔
      MatchesWildcard host "*ads?.example")) ∧
    (∀ host, like host (toLikePattern "ads.*") = some true ↔ MatchesWildcard host "ads.*") ∧
    ¬ ∀ host, NoNul host → (like host (toLikePattern "ad_s.example") = some true ↔
      MatchesWildcard host "ad_s.example") := by
  have hads : isValidWildcardHostname asciiGuava "*ads?.example" = true := by decide
  have hunderscore : isValidWildcardHostname asciiGuava "ad_s.example" = true := by decide
  have hprefix : isValidWildcardHostname asciiGuava "ads.*" = true := by decide
  refine ⟨(likePatterns_exact_iff lawful_asciiGuava hads).1.mpr ⟨by decide, by decide⟩,
    (likePatterns_exact_iff lawful_asciiGuava hprefix).2.2.1.mpr
      ⟨by decide, by decide, by decide⟩, fun h => ?_⟩
  exact absurd ((likePatterns_exact_iff lawful_asciiGuava hunderscore).1.mp h).1 (by decide)

/-- The wildcard has no wildcard character, and unblocks a host of another name. -/
theorem not_likePatterns_exact :
    ¬ ∀ (g : Guava), g.Lawful → ∀ wildcard, isValidWildcardHostname g wildcard = true → ∀ host,
      NoNul host → ((like host (toLikePattern wildcard) = some true ↔ MatchesWildcard host wildcard) ∧
        (like host (convertToLikeQuery wildcard) = some true ↔ ContainsWildcard host wildcard)) := by
  intro h
  have hexact := (h asciiGuava lawful_asciiGuava "ad_s.example" (by decide) "adxs.example"
    (by decide)).1
  have hmatch : MatchesWildcard "adxs.example" "ad_s.example" := hexact.mp (by decide)
  exact absurd (underscore_mem_of_matches (by decide) hmatch) (by decide)

end AdAway
