import AdAway.Util.HostsParserPattern
import AdAway.Util.WildcardHostname

/-!
# Wildcards and regular expressions

`wildcardToRegex` writes a regular expression for a wildcard, one character at a time, and escapes
those that are special. The list of the special characters has no `+`.

So a `+` of a wildcard becomes a quantifier. Behind a literal it stands for more of the same, behind
another quantifier it forbids to give back, and a third in a row is a syntax error. In none of these
readings does the expression ask for a `+`: replacing all `+` of a text by `*` changes nothing for
it. The wildcard matches itself, and does not match itself so changed. Thus each wildcard with a `+`
is translated wrongly, unless it has a line terminator: then neither side matches a text without
one.

Regular expressions are read by `parseRegex`, as far as `wildcardToRegex` can write them; what it
never writes is `notModelled`.

## Main definitions

* `wildcardToRegex` — the translation
* `Piece`, `parseRegex` — the regular expressions, and how they are read
* `matchesRegex` — a text matches a regular expression

## Main results

* `parseRegex_wildcardToRegex` — how a translation is read
* `matchesRegex_hidePlus` — no translation tells a `+` of a text from a `*`
* `matchesRegex_wildcardToRegex_iff` — the wildcards that are translated correctly
-/

namespace AdAway

open Regex

/-! ### The translation -/

/-- The characters that `wildcardToRegex` escapes. -/
def isEscaped (c : Char) : Bool :=
  c ∈ ['(', ')', '[', ']', '$', '^', '.', '{', '}', '|', '\\']

/-- What `wildcardToRegex` appends for a character. -/
def regexOf (c : Char) : List Char :=
  if c = '*' then ['.', '*']
  else if c = '?' then ['.']
  else if isEscaped c then ['\\', c]
  else [c]

/-- `RegexUtils.wildcardToRegex`. -/
def wildcardToRegex (wildcard : String) : String :=
  String.ofList ('^' :: (wildcard.toList.flatMap regexOf ++ ['$']))

example : wildcardToRegex "example*.*" = "^example.*\\..*$" := by decide

/-! ### Regular expressions -/

/-- What a quantifier may stand behind. -/
inductive Atom
  /-- A character standing for itself. -/
  | lit (c : Char)
  /-- `.` -/
  | dot
  /-- `^` -/
  | start
  /-- `$` -/
  | stop
  deriving DecidableEq, Repr

/-- How often. -/
inductive Quantifier
  | once
  /-- `*` -/
  | star
  /-- `+` -/
  | plus
  /-- `*+` -/
  | starPossessive
  /-- `++` -/
  | plusPossessive
  deriving DecidableEq, Repr

/-- A part of a regular expression. -/
structure Piece where
  atom : Atom
  quantifier : Quantifier
  deriving DecidableEq, Repr

/-- Why a regular expression is not read. -/
inductive RegexError
  /-- `PatternSyntaxException`, as a quantifier has nothing to stand behind. -/
  | danglingQuantifier
  /-- The expression has something else than pieces. -/
  | notModelled
  deriving DecidableEq, Repr

/-- A `*` behind a quantifier. -/
def Quantifier.addStar : Quantifier → Option Quantifier
  | .once => some .star
  | _ => none

/-- A `+` behind a quantifier. -/
def Quantifier.addPlus : Quantifier → Option Quantifier
  | .once => some .plus
  | .star => some .starPossessive
  | .plus => some .plusPossessive
  | .starPossessive => none
  | .plusPossessive => none

/-- A piece with one more quantifier. -/
def Piece.addQuantifier (c : Char) (piece : Piece) : Option Piece :=
  (if c = '*' then piece.quantifier.addStar else piece.quantifier.addPlus).map fun quantifier =>
    ⟨piece.atom, quantifier⟩

/-- The pieces of a regular expression, behind a piece that may still get a quantifier. -/
def parsePieces : Option Piece → List Char → Except RegexError (List Piece)
  | pending, [] => .ok pending.toList
  | pending, '\\' :: c :: rest =>
    if c.isAlphanum then .error .notModelled
    else (parsePieces (some ⟨.lit c, .once⟩) rest).map (pending.toList ++ ·)
  | pending, c :: rest =>
    if c = '*' ∨ c = '+' then
      match pending.bind (Piece.addQuantifier c) with
      | none => .error .danglingQuantifier
      | some piece => parsePieces (some piece) rest
    else if c ∈ ['\\', '?', '(', ')', '[', '{', '|'] then .error .notModelled
    else
      let atom :=
        if c = '.' then .dot else if c = '^' then .start else if c = '$' then .stop else .lit c
      (parsePieces (some ⟨atom, .once⟩) rest).map (pending.toList ++ ·)

/-- `Pattern.compile`. -/
def parseRegex (regex : String) : Except RegexError (List Piece) := parsePieces none regex.toList

/-- A greedy repetition that gives nothing back. -/
def possessive (p : Char → Bool) : Pattern Char :=
  .seq (.many p) (.look fun rest => !rest.head?.any p)

/-- Characters of a kind. -/
def Quantifier.characters (p : Char → Bool) : Quantifier → Pattern Char
  | .once => .one p
  | .star => .many p
  | .plus => Regex.plus p
  | .starPossessive => possessive p
  | .plusPossessive => .seq (.one p) (possessive p)

/-- It need not be there. -/
def Quantifier.isOptional : Quantifier → Bool
  | .once => false
  | .star => true
  | .plus => false
  | .starPossessive => true
  | .plusPossessive => false

/-- A condition. To ask for it again changes nothing. -/
def Quantifier.condition (q : List Char → Bool) (quantifier : Quantifier) : Pattern Char :=
  .look fun rest => quantifier.isOptional || q rest

/-- How a piece is matched, in a text of this length. -/
def Piece.pattern (length : ℕ) (piece : Piece) : Pattern Char :=
  match piece.atom with
  | .lit c => piece.quantifier.characters fun d => d = c
  | .dot => piece.quantifier.characters fun d => !isLineTerminator d
  | .start => piece.quantifier.condition fun rest => rest.length = length
  | .stop => piece.quantifier.condition isAtEnd

/-- How the pieces are matched, one behind another. -/
def regexPattern (length : ℕ) : List Piece → Pattern Char
  | [] => .look fun _ => true
  | piece :: pieces => .seq (piece.pattern length) (regexPattern length pieces)

/-- `Matcher.matches`: the whole text matches. Nothing matches an expression with an error. -/
def matchesRegex (s regex : String) : Bool :=
  match parseRegex regex with
  | .error _ => false
  | .ok pieces => (fullMatch (regexPattern s.toList.length pieces) s.toList).isSome

example : matchesRegex "aab" (wildcardToRegex "a+b") = true ∧
    matchesRegex "a+b" (wildcardToRegex "a+b") = false := by decide

/-! ### How a translation is read -/

/-- What a character of a wildcard is read as, unless it is a `+`. -/
def pieceOf (c : Char) : Piece :=
  if c = '*' then ⟨.dot, .star⟩ else if c = '?' then ⟨.dot, .once⟩ else ⟨.lit c, .once⟩

theorem parsePieces_regexOf {c : Char} (hc : c ≠ '+') (pending : Option Piece) (rest : List Char) :
    parsePieces pending (regexOf c ++ rest) =
      (parsePieces (some (pieceOf c)) rest).map (pending.toList ++ ·) := by
  by_cases hstar : c = '*'
  · subst hstar
    rfl
  by_cases hquestion : c = '?'
  · subst hquestion
    rfl
  rw [regexOf, pieceOf, if_neg hstar, if_neg hquestion, if_neg hstar, if_neg hquestion]
  split
  next hescaped =>
    have halphanum : c.isAlphanum = false := by
      simp only [isEscaped, decide_eq_true_eq, List.mem_cons, List.not_mem_nil, or_false]
        at hescaped
      rcases hescaped with rfl | rfl | rfl | rfl | rfl | rfl | rfl | rfl | rfl | rfl | rfl <;> rfl
    rw [List.cons_append, List.singleton_append, parsePieces, halphanum, if_neg Bool.false_ne_true]
  next hplain =>
    simp only [isEscaped, decide_eq_true_eq, List.mem_cons, List.not_mem_nil, or_false, not_or]
      at hplain
    rw [List.singleton_append, parsePieces, if_neg (by simp [hstar, hc]),
      if_neg (by simp [hplain, hquestion])]
    · simp [hplain]
    · intro d rest' heq
      exact absurd heq hplain.2.2.2.2.2.2.2.2.2.2

theorem parsePieces_plus (pending : Piece) (rest : List Char) :
    parsePieces (some pending) ('+' :: rest) =
      match pending.addQuantifier '+' with
      | none => .error .danglingQuantifier
      | some piece => parsePieces (some piece) rest := rfl

/-- Without a `+`, the pieces are those of the characters. -/
theorem parsePieces_of_not_mem {wildcard : List Char} (hplus : '+' ∉ wildcard) (pending : Piece) :
    parsePieces (some pending) (wildcard.flatMap regexOf ++ ['$']) =
      .ok (pending :: (wildcard.map pieceOf ++ [⟨.stop, .once⟩])) := by
  induction wildcard generalizing pending with
  | nil => rfl
  | cons c wildcard ih =>
    rw [List.mem_cons, not_or] at hplus
    rw [List.flatMap_cons, List.append_assoc, parsePieces_regexOf (Ne.symm hplus.1), ih hplus.2]
    rfl

/-- The pieces of a wildcard, also if it has a `+`: no piece asks for a `+`, or for a `*`, and each
literal is asked for. -/
structure Covers (wildcard : List Char) (pieces : List Piece) : Prop where
  ne : ∀ c quantifier, ⟨.lit c, quantifier⟩ ∈ pieces → c ≠ '+' ∧ c ≠ '*'
  literal : ∀ c ∈ wildcard, c ≠ '+' → isWildcard c = false →
    ∃ quantifier, ⟨.lit c, quantifier⟩ ∈ pieces ∧ quantifier.isOptional = false

theorem addQuantifier_plus {pending piece : Piece} (h : pending.addQuantifier '+' = some piece) :
    piece.atom = pending.atom ∧
      piece.quantifier.isOptional = pending.quantifier.isOptional := by
  obtain ⟨quantifier, hquantifier, rfl⟩ := Option.map_eq_some_iff.mp h
  refine ⟨rfl, ?_⟩
  rw [if_neg (by decide)] at hquantifier
  generalize pending.quantifier = before at hquantifier
  cases before <;> cases hquantifier <;> rfl

theorem Covers.cons {c : Char} {wildcard : List Char} {pieces : List Piece}
    {quantifier : Quantifier} (hc : c ≠ '+')
    (hquantifier : quantifier.isOptional = (pieceOf c).quantifier.isOptional)
    (h : Covers wildcard pieces) :
    Covers (c :: wildcard) (⟨(pieceOf c).atom, quantifier⟩ :: pieces) := by
  by_cases hwildcard : isWildcard c = true
  · have hdot : (pieceOf c).atom = .dot := by
      rw [isWildcard, decide_eq_true_eq] at hwildcard
      rcases hwildcard with rfl | rfl <;> rfl
    constructor
    · intro d q hmem
      rcases List.mem_cons.mp hmem with heq | hmem
      · have hatom := congrArg Piece.atom heq
        rw [hdot] at hatom
        cases hatom
      · exact h.ne d q hmem
    · intro d hd hdplus hlit
      rcases List.mem_cons.mp hd with rfl | hd
      · rw [hwildcard] at hlit
        cases hlit
      · obtain ⟨q, hmem, hq⟩ := h.literal d hd hdplus hlit
        exact ⟨q, List.mem_cons_of_mem _ hmem, hq⟩
  · rw [isWildcard, decide_eq_true_eq, not_or] at hwildcard
    have hpiece : pieceOf c = ⟨.lit c, .once⟩ := by
      rw [pieceOf, if_neg hwildcard.1, if_neg hwildcard.2]
    rw [hpiece] at hquantifier ⊢
    constructor
    · intro d q hmem
      rcases List.mem_cons.mp hmem with heq | hmem
      · cases heq
        exact ⟨hc, hwildcard.1⟩
      · exact h.ne d q hmem
    · intro d hd hdplus hlit
      rcases List.mem_cons.mp hd with rfl | hd
      · exact ⟨quantifier, List.mem_cons_self, hquantifier⟩
      · obtain ⟨q, hmem, hq⟩ := h.literal d hd hdplus hlit
        exact ⟨q, List.mem_cons_of_mem _ hmem, hq⟩

theorem parsePieces_wildcard (wildcard : List Char) (pending : Piece) :
    parsePieces (some pending) (wildcard.flatMap regexOf ++ ['$']) = .error .danglingQuantifier ∨
      ∃ quantifier pieces, quantifier.isOptional = pending.quantifier.isOptional ∧
        Covers wildcard pieces ∧
        parsePieces (some pending) (wildcard.flatMap regexOf ++ ['$']) =
          .ok (⟨pending.atom, quantifier⟩ :: pieces) := by
  induction wildcard generalizing pending with
  | nil =>
    refine Or.inr ⟨pending.quantifier, [⟨.stop, .once⟩], rfl, ⟨?_, nofun⟩, rfl⟩
    intro c quantifier hmem
    cases List.mem_singleton.mp hmem
  | cons c wildcard ih =>
    rw [List.flatMap_cons, List.append_assoc]
    by_cases hc : c = '+'
    · subst hc
      have hregex : regexOf '+' ++ (wildcard.flatMap regexOf ++ ['$']) =
          '+' :: (wildcard.flatMap regexOf ++ ['$']) := rfl
      rw [hregex, parsePieces_plus]
      cases hadd : pending.addQuantifier '+' with
      | none => exact Or.inl rfl
      | some piece =>
        obtain ⟨hatom, hoptional⟩ := addQuantifier_plus hadd
        rcases ih piece with herror | ⟨quantifier, pieces, hquantifier, hcovers, hok⟩
        · exact Or.inl herror
        · refine Or.inr ⟨quantifier, pieces, hquantifier.trans hoptional, ⟨hcovers.ne, ?_⟩, ?_⟩
          · intro d hd hdplus
            exact hcovers.literal d ((List.mem_cons.mp hd).resolve_left hdplus) hdplus
          · rw [← hatom]
            exact hok
    · rw [parsePieces_regexOf hc]
      rcases ih (pieceOf c) with herror | ⟨quantifier, pieces, hquantifier, hcovers, hok⟩
      · rw [herror]
        exact Or.inl rfl
      · rw [hok]
        exact Or.inr ⟨pending.quantifier, _, rfl, hcovers.cons hc hquantifier, rfl⟩

/-- **How a translation is read**: as the pieces of the characters, if there is no `+`; and else
with a syntax error, or as pieces none of which asks for a `+`. -/
theorem parseRegex_wildcardToRegex (wildcard : String) :
    ('+' ∉ wildcard.toList → parseRegex (wildcardToRegex wildcard) =
        .ok (⟨.start, .once⟩ :: (wildcard.toList.map pieceOf ++ [⟨.stop, .once⟩]))) ∧
      (parseRegex (wildcardToRegex wildcard) = .error .danglingQuantifier ∨
        ∃ pieces, Covers wildcard.toList pieces ∧
          parseRegex (wildcardToRegex wildcard) = .ok pieces) := by
  have hparse : parseRegex (wildcardToRegex wildcard) =
      (parsePieces (some ⟨.start, .once⟩) (wildcard.toList.flatMap regexOf ++ ['$'])).map
        ([] ++ ·) := by
    rw [parseRegex, wildcardToRegex, String.toList_ofList]
    rfl
  rw [hparse]
  constructor
  · intro hplus
    rw [parsePieces_of_not_mem hplus]
    rfl
  · rcases parsePieces_wildcard wildcard.toList ⟨.start, .once⟩ with
      herror | ⟨quantifier, pieces, -, hcovers, hok⟩
    · rw [herror]
      exact Or.inl rfl
    · rw [hok]
      refine Or.inr ⟨_, ⟨fun c q hmem => ?_, fun c hc hplus hlit => ?_⟩, rfl⟩
      · rcases List.mem_cons.mp hmem with heq | hmem
        · cases heq
        · exact hcovers.ne c q hmem
      · obtain ⟨q, hmem, hq⟩ := hcovers.literal c hc hplus hlit
        exact ⟨q, List.mem_cons_of_mem _ hmem, hq⟩

/-! ### What a translation matches -/

theorem matchesRegex_iff {s regex : String} {pieces : List Piece}
    (hpieces : parseRegex regex = .ok pieces) :
    matchesRegex s regex = true ↔
      Takes (regexPattern s.toList.length pieces) s.toList [] := by
  rw [matchesRegex, hpieces]
  exact isSome_fullMatch_iff

/-- Without a `+`, the pieces take what the wildcard stands for. -/
theorem takes_map_pieceOf_iff {length : ℕ} {wildcard s : List Char}
    (hs : ∀ c ∈ s, isLineTerminator c = false) :
    Takes (regexPattern length (wildcard.map pieceOf ++ [⟨.stop, .once⟩])) s [] ↔
      Glob.Matches (· = ·) (wildcard.map wildcardToken) s := by
  induction wildcard generalizing s with
  | nil =>
    constructor
    · rintro ⟨front, back, rfl, ⟨rfl, -⟩, rfl, -⟩
      exact .nil
    · intro h
      cases h
      exact ⟨[], [], rfl, ⟨rfl, rfl⟩, rfl, rfl⟩
  | cons c wildcard ih =>
    rw [List.map_cons, List.cons_append, List.map_cons, pieceOf, wildcardToken]
    by_cases hstar : c = '*'
    · rw [if_pos hstar, if_pos hstar]
      constructor
      · rintro ⟨front, back, rfl, -, hback⟩
        exact .many front ((ih fun c hc => hs c (List.mem_append_right _ hc)).mp hback)
      · rintro (_ | ⟨front, h⟩)
        refine ⟨front, _, rfl, fun c hc => ?_, (ih fun c hc => ?_).mpr h⟩
        · simp [hs c (List.mem_append_left _ hc)]
        · exact hs c (List.mem_append_right _ hc)
    · rw [if_neg hstar, if_neg hstar]
      by_cases hquestion : c = '?'
      · rw [if_pos hquestion, if_pos hquestion]
        constructor
        · rintro ⟨front, back, rfl, ⟨d, rfl, -⟩, hback⟩
          exact .one d ((ih fun c hc => hs c (List.mem_cons_of_mem _ hc)).mp hback)
        · intro h
          cases h with
          | one d h =>
            obtain ⟨hd, hrest⟩ := List.forall_mem_cons.mp hs
            refine ⟨[d], _, rfl, ⟨d, rfl, ?_⟩, (ih hrest).mpr h⟩
            simp [hd]
      · rw [if_neg hquestion, if_neg hquestion]
        constructor
        · rintro ⟨front, back, rfl, ⟨d, rfl, hd⟩, hback⟩
          refine .lit ?_ ((ih fun c hc => hs c (List.mem_cons_of_mem _ hc)).mp hback)
          rw [decide_eq_true_eq] at hd ⊢
          exact hd.symm
        · intro h
          cases h with
          | lit hd h =>
            refine ⟨[_], _, rfl, ⟨_, rfl, ?_⟩,
              (ih fun c hc => hs c (List.mem_cons_of_mem _ hc)).mpr h⟩
            rw [decide_eq_true_eq] at hd ⊢
            exact hd.symm

/-- A literal that is asked for is in each text that is taken. -/
theorem mem_of_takes {length : ℕ} {c : Char} {quantifier : Quantifier} {pieces : List Piece}
    (hmem : ⟨.lit c, quantifier⟩ ∈ pieces) (hquantifier : quantifier.isOptional = false)
    {s rest : List Char} (h : Takes (regexPattern length pieces) s rest) : c ∈ s := by
  induction pieces generalizing s with
  | nil => cases hmem
  | cons piece pieces ih =>
    obtain ⟨front, back, rfl, hfront, hback⟩ := h
    rcases List.mem_cons.mp hmem with rfl | hmem
    · refine List.mem_append_left _ ?_
      cases quantifier with
      | once =>
        obtain ⟨d, rfl, hd⟩ := hfront
        rw [of_decide_eq_true hd]
        exact List.mem_singleton_self c
      | star => cases hquantifier
      | plus =>
        obtain ⟨_, _, rfl, ⟨d, rfl, hd⟩, -⟩ := hfront
        rw [of_decide_eq_true hd]
        exact List.mem_cons_self
      | starPossessive => cases hquantifier
      | plusPossessive =>
        obtain ⟨_, _, rfl, ⟨d, rfl, hd⟩, -⟩ := hfront
        rw [of_decide_eq_true hd]
        exact List.mem_cons_self
    · exact List.mem_append_right _ (ih hmem hback)

/-! ### A text without its `+` -/

/-- A `*` in the place of a `+`. -/
def hidePlus (c : Char) : Char := if c = '+' then '*' else c

theorem hidePlus_eq_iff {c d : Char} (hd : d ≠ '+' ∧ d ≠ '*') : hidePlus c = d ↔ c = d := by
  by_cases hc : c = '+'
  · subst hc
    exact iff_of_false (Ne.symm hd.2) (Ne.symm hd.1)
  · rw [hidePlus, if_neg hc]

theorem plus_not_mem_map_hidePlus (s : List Char) : '+' ∉ s.map hidePlus := by
  intro hmem
  obtain ⟨c, -, hc⟩ := List.mem_map.mp hmem
  by_cases hplus : c = '+'
  · subst hplus
    exact absurd hc (by decide)
  · rw [hidePlus, if_neg hplus] at hc
    exact hplus hc

theorem isLineTerminator_hidePlus (c : Char) :
    isLineTerminator (hidePlus c) = isLineTerminator c := by
  by_cases hc : c = '+'
  · subst hc
    rfl
  · rw [hidePlus, if_neg hc]

theorem isAtEnd_map_hidePlus (rest : List Char) : isAtEnd (rest.map hidePlus) = isAtEnd rest := by
  match rest with
  | [] => rfl
  | [c] => exact isLineTerminator_hidePlus c
  | [c, d] =>
    have hc : hidePlus c = '\r' ↔ c = '\r' := hidePlus_eq_iff (by decide)
    have hd : hidePlus d = '\n' ↔ d = '\n' := hidePlus_eq_iff (by decide)
    simp only [List.map_cons, List.map_nil, isAtEnd, hc, hd]
  | _ :: _ :: _ :: _ => rfl

theorem blind_characters {p : Char → Bool} (hp : ∀ c, p (hidePlus c) = p c)
    (quantifier : Quantifier) : Blind hidePlus (quantifier.characters p) := by
  have hpossessive : Blind hidePlus (possessive p) := by
    refine ⟨hp, fun rest => ?_⟩
    cases rest with
    | nil => rfl
    | cons c rest => simp only [List.map_cons, List.head?_cons, Option.any_some, hp]
  cases quantifier with
  | once => exact hp
  | star => exact hp
  | plus => exact ⟨hp, hp⟩
  | starPossessive => exact hpossessive
  | plusPossessive => exact ⟨hp, hpossessive⟩

/-- The pieces of a wildcard do not see the difference. -/
theorem blind_regexPattern {length : ℕ} {pieces : List Piece}
    (hpieces : ∀ c quantifier, ⟨.lit c, quantifier⟩ ∈ pieces → c ≠ '+' ∧ c ≠ '*') :
    Blind hidePlus (regexPattern length pieces) := by
  induction pieces with
  | nil => exact fun _ => rfl
  | cons piece pieces ih =>
    refine ⟨?_, ih fun c quantifier hmem => hpieces c quantifier (List.mem_cons_of_mem _ hmem)⟩
    obtain ⟨atom, quantifier⟩ := piece
    cases atom with
    | lit c =>
      have hc := hpieces c quantifier List.mem_cons_self
      refine blind_characters (fun d => ?_) quantifier
      simp only [hidePlus_eq_iff hc]
    | dot =>
      refine blind_characters (fun d => ?_) quantifier
      rw [isLineTerminator_hidePlus]
    | start =>
      intro rest
      simp only [List.length_map]
    | stop =>
      intro rest
      simp only [isAtEnd_map_hidePlus]

/-- A wildcard matches itself. -/
theorem matchesHostname_self (wildcard : String) : MatchesHostname wildcard wildcard := by
  rw [MatchesHostname]
  induction wildcard.toList with
  | nil => exact .nil
  | cons c name ih =>
    rw [List.map_cons, wildcardToken]
    split
    next => exact .many [c] ih
    next =>
      split
      next => exact .one c ih
      next => exact .lit (decide_eq_true rfl) ih

/-! ### Which wildcards are translated correctly -/

section Translated

variable {wildcard s : String}

/-- **No translation tells a `+` of a text from a `*`.** -/
theorem matchesRegex_hidePlus (h : matchesRegex s (wildcardToRegex wildcard) = true) :
    matchesRegex (String.ofList (s.toList.map hidePlus)) (wildcardToRegex wildcard) = true := by
  rcases (parseRegex_wildcardToRegex wildcard).2 with herror | ⟨pieces, hcovers, hpieces⟩
  · rw [matchesRegex, herror] at h
    cases h
  · have htakes := ((matchesRegex_iff hpieces).mp h).map (blind_regexPattern hcovers.ne)
    rw [matchesRegex_iff hpieces, String.toList_ofList, List.length_map]
    exact htakes

/-- What is neither a wildcard nor a `+` stands in each text that the translation matches. -/
theorem mem_of_matchesRegex (h : matchesRegex s (wildcardToRegex wildcard) = true) {c : Char}
    (hc : c ∈ wildcard.toList) (hplus : c ≠ '+') (hlit : isWildcard c = false) :
    c ∈ s.toList := by
  rcases (parseRegex_wildcardToRegex wildcard).2 with herror | ⟨pieces, hcovers, hpieces⟩
  · rw [matchesRegex, herror] at h
    cases h
  · obtain ⟨quantifier, hmem, hquantifier⟩ := hcovers.literal c hc hplus hlit
    exact mem_of_takes hmem hquantifier ((matchesRegex_iff hpieces).mp h)

/-- Without a `+`, a translation matches what the wildcard does. -/
theorem matchesRegex_iff_of_not_mem (hplus : '+' ∉ wildcard.toList)
    (hs : ∀ c ∈ s.toList, isLineTerminator c = false) :
    matchesRegex s (wildcardToRegex wildcard) = true ↔ MatchesHostname wildcard s := by
  rw [matchesRegex_iff ((parseRegex_wildcardToRegex wildcard).1 hplus), MatchesHostname,
    ← takes_map_pieceOf_iff hs]
  constructor
  · rintro ⟨front, back, heq, ⟨rfl, -⟩, hback⟩
    rw [heq]
    exact hback
  · intro h
    exact ⟨[], s.toList, rfl, ⟨rfl, by simp⟩, h⟩

end Translated

/-- The translation matches the same texts without line terminators. -/
def WildcardRegexExact (wildcard : String) : Prop :=
  ∀ s : String, (∀ c ∈ s.toList, isLineTerminator c = false) →
    (matchesRegex s (wildcardToRegex wildcard) = true ↔ MatchesHostname wildcard s)

/-- **The wildcards that are translated correctly**: those without a `+`, and those with a line
terminator, which match none of these texts. -/
theorem wildcardRegexExact_iff (wildcard : String) :
    WildcardRegexExact wildcard ↔
      '+' ∉ wildcard.toList ∨ ∃ c ∈ wildcard.toList, isLineTerminator c = true := by
  constructor
  · intro hexact
    by_contra hnot
    rw [not_or, not_not] at hnot
    obtain ⟨hplus, hplain⟩ := hnot
    have hplain : ∀ c ∈ wildcard.toList, isLineTerminator c = false := fun c hc =>
      Bool.eq_false_iff.mpr fun hterminator => hplain ⟨c, hc, hterminator⟩
    have hhidden : ∀ c ∈ (String.ofList (wildcard.toList.map hidePlus)).toList,
        isLineTerminator c = false := by
      intro c hc
      rw [String.toList_ofList] at hc
      obtain ⟨d, hd, rfl⟩ := List.mem_map.mp hc
      rw [isLineTerminator_hidePlus]
      exact hplain d hd
    -- the wildcard matches itself, so its translation does, and also without the `+`
    have hself := (hexact wildcard hplain).mpr (matchesHostname_self wildcard)
    have hmatch := (hexact _ hhidden).mp (matchesRegex_hidePlus hself)
    have hmem := mem_of_matchesHostname hmatch hplus (by decide)
    rw [String.toList_ofList] at hmem
    exact plus_not_mem_map_hidePlus _ hmem
  · rintro (hplus | ⟨c, hc, hterminator⟩) s hs
    · exact matchesRegex_iff_of_not_mem hplus hs
    · have hlit : isWildcard c = false ∧ c ≠ '+' := by
        rw [isLineTerminator, decide_eq_true_eq] at hterminator
        simp only [List.mem_cons, List.not_mem_nil, or_false] at hterminator
        rcases hterminator with rfl | rfl | rfl | rfl | rfl <;> exact ⟨rfl, by decide⟩
      have hnotMem : c ∉ s.toList := by
        intro hmem
        rw [hs c hmem] at hterminator
        cases hterminator
      exact iff_of_false (fun h => hnotMem (mem_of_matchesRegex h hc hlit.2 hlit.1))
        fun h => hnotMem (mem_of_matchesHostname h hc hlit.1)

/-- `a+b` does not match itself. -/
theorem not_wildcardRegexExact : ¬ ∀ wildcard, WildcardRegexExact wildcard := by
  intro h
  have hplain : ∀ c ∈ "a+b".toList, isLineTerminator c = false := by simp [isLineTerminator]
  have hmatch := (h "a+b" "a+b" hplain).mpr (matchesHostname_self "a+b")
  exact absurd hmatch (by decide)

end AdAway
