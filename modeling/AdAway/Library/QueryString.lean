import AdAway.Library.Separated
import Mathlib.Data.List.TakeWhile

/-!
# Reading a URL

A URL is taken apart as RFC 3986 has it: the parts of its path, and the parameters of its query,
which are separated by `&`. A part of the path is percent-encoded. So is a parameter, but a form
encodes a blank as `+` there, so that a server that reads one decodes the other way.

## Main definitions

* `QueryString.pathParts`, `QueryString.value?` — a part of the path, a parameter of the query
* `QueryString.percentDecode`, `QueryString.formDecode` — the bytes that they stand for

## Main results

* `QueryString.pathParts_append`, `QueryString.query_append` — a URL put together is taken apart
* `QueryString.not_mem_of_value?` — a parameter ends at the next separator
* `QueryString.formDecode_eq_percentDecode_iff` — what both decodings agree on
* `QueryString.percentDecode_append` — where a text can be split before it is decoded
-/

namespace QueryString

/-! ### Decoding -/

/-- The value of a hexadecimal digit. -/
def hexDigit? (c : Char) : Option ℕ :=
  if '0' ≤ c ∧ c ≤ '9' then some (c.toNat - '0'.toNat)
  else if 'a' ≤ c ∧ c ≤ 'f' then some (c.toNat - 'a'.toNat + 10)
  else if 'A' ≤ c ∧ c ≤ 'F' then some (c.toNat - 'A'.toNat + 10)
  else none

/-- The bytes that a percent-encoded text stands for. A `%` without two digits stands for itself. -/
def percentDecode : List Char → List UInt8
  | [] => []
  | '%' :: a :: b :: cs =>
    match hexDigit? a, hexDigit? b with
    | some high, some low => UInt8.ofNat (16 * high + low) :: percentDecode cs
    | _, _ => String.utf8EncodeChar '%' ++ percentDecode (a :: b :: cs)
  | c :: cs => String.utf8EncodeChar c ++ percentDecode cs

/-- A form encodes a blank as `+`. -/
def plusToSpace (c : Char) : Char := if c = '+' then ' ' else c

/-- The bytes that a parameter of a form stands for. -/
def formDecode (cs : List Char) : List UInt8 := percentDecode (cs.map plusToSpace)

theorem plusToSpace_of_ne {c : Char} (h : c ≠ '+') : plusToSpace c = c := if_neg h

theorem hexDigit?_plusToSpace (c : Char) : hexDigit? (plusToSpace c) = hexDigit? c := by
  rw [plusToSpace]
  split
  next h =>
    rw [h]
    decide
  next => rfl

theorem ne_plus_of_hexDigit? {c : Char} {n : ℕ} (h : hexDigit? c = some n) : c ≠ '+' := by
  rintro rfl
  have hnone : hexDigit? '+' = none := by decide
  rw [hnone] at h
  cases h

theorem percentDecode_escape {a b : Char} {high low : ℕ} (ha : hexDigit? a = some high)
    (hb : hexDigit? b = some low) (cs : List Char) :
    percentDecode ('%' :: a :: b :: cs) = UInt8.ofNat (16 * high + low) :: percentDecode cs := by
  rw [percentDecode, ha, hb]

theorem percentDecode_cons_of_ne {c : Char} (hc : c ≠ '%') (cs : List Char) :
    percentDecode (c :: cs) = String.utf8EncodeChar c ++ percentDecode cs := by
  rw [percentDecode]
  exact fun _ _ _ heq => (hc heq).elim

theorem percentDecode_no_escape {a b : Char}
    (h : ∀ high low, hexDigit? a = some high → hexDigit? b = some low → False) (cs : List Char) :
    percentDecode ('%' :: a :: b :: cs) =
      String.utf8EncodeChar '%' ++ percentDecode (a :: b :: cs) := by
  rw [percentDecode]
  split
  next high low ha hb => exact (h high low ha hb).elim
  next => rfl

theorem utf8EncodeChar_plusToSpace_append {c : Char} {bs bs' : List UInt8} :
    String.utf8EncodeChar (plusToSpace c) ++ bs = String.utf8EncodeChar c ++ bs' ↔
      c ≠ '+' ∧ bs = bs' := by
  rw [plusToSpace]
  split
  next h =>
    rw [h]
    have hspace : String.utf8EncodeChar ' ' = [0x20] := by decide
    have hplus : String.utf8EncodeChar '+' = [0x2b] := by decide
    simp [hspace, hplus]
  next h => simp [h]

/-- **The two decodings** agree on the texts without a `+`. -/
theorem formDecode_eq_percentDecode_iff (cs : List Char) :
    formDecode cs = percentDecode cs ↔ '+' ∉ cs := by
  rw [formDecode]
  fun_induction percentDecode cs with
  | case1 => simp [percentDecode]
  | case2 a b cs high low hb ha ih =>
    have hmap : ('%' :: a :: b :: cs).map plusToSpace = '%' :: a :: b :: cs.map plusToSpace := by
      simp [plusToSpace_of_ne, ne_plus_of_hexDigit? ha, ne_plus_of_hexDigit? hb]
    rw [hmap, percentDecode_escape ha hb, List.cons.injEq, and_iff_right rfl, ih]
    simp [(ne_plus_of_hexDigit? ha).symm, (ne_plus_of_hexDigit? hb).symm]
  | case3 a b cs hnot ih =>
    rw [List.map_cons, plusToSpace_of_ne (by decide), List.map_cons, List.map_cons,
      percentDecode_no_escape (by simpa only [hexDigit?_plusToSpace] using hnot),
      List.append_cancel_left_eq, ← List.map_cons, ← List.map_cons, ih]
    simp
  | case4 c cs hnot ih =>
    have hstep : percentDecode ((c :: cs).map plusToSpace) =
        String.utf8EncodeChar (plusToSpace c) ++ percentDecode (cs.map plusToSpace) := by
      rw [List.map_cons, percentDecode]
      intro a b cs' hc hcs
      obtain ⟨a', l, rfl, -, hl⟩ := List.map_eq_cons_iff.mp hcs
      obtain ⟨b', l', rfl, -, -⟩ := List.map_eq_cons_iff.mp hl
      refine hnot a' b' l' ?_ rfl
      by_contra hne
      rw [plusToSpace] at hc
      split at hc
      · exact absurd hc (by decide)
      · exact hne hc
    rw [hstep, utf8EncodeChar_plusToSpace_append, ih, List.mem_cons, not_or, ne_comm]

/-- A text can be decoded in two parts, if the second does not begin with a digit. -/
theorem percentDecode_append (cs : List Char) {ds : List Char}
    (h : ∀ d ∈ ds.head?, hexDigit? d = none) :
    percentDecode (cs ++ ds) = percentDecode cs ++ percentDecode ds := by
  fun_induction percentDecode cs with
  | case1 => rfl
  | case2 a b cs high low hb ha ih =>
    show percentDecode ('%' :: a :: b :: (cs ++ ds)) = _
    rw [percentDecode_escape ha hb, ih]
    rfl
  | case3 a b cs hnot ih =>
    show percentDecode ('%' :: a :: b :: (cs ++ ds)) = _
    rw [percentDecode_no_escape hnot, List.append_assoc, ← ih]
    rfl
  | case4 c cs hnot ih =>
    have hstep : percentDecode (c :: (cs ++ ds)) =
        String.utf8EncodeChar c ++ percentDecode (cs ++ ds) := by
      by_cases hc : c = '%'
      · obtain rfl := hc
        -- at most one character follows, and then no digit
        rcases hrest : cs ++ ds with _ | ⟨a, _ | ⟨b, rest⟩⟩
        · rfl
        · rfl
        · refine percentDecode_no_escape (fun high low ha hb => ?_) rest
          rcases cs with _ | ⟨a', _ | ⟨b', cs⟩⟩
          · obtain rfl : ds = a :: b :: rest := hrest
            exact absurd ((h a rfl).symm.trans ha) (by simp)
          · obtain ⟨rfl, rfl⟩ : a' = a ∧ ds = b :: rest := by simpa using hrest
            exact absurd ((h b rfl).symm.trans hb) (by simp)
          · exact hnot a' b' cs rfl rfl
      · exact percentDecode_cons_of_ne hc (cs ++ ds)
    show percentDecode (c :: (cs ++ ds)) = _
    rw [hstep, ih, List.append_assoc]

/-! ### The parts of a URL -/

/-- A URL up to its query or its fragment. -/
def location (url : List Char) : List Char := url.takeWhile fun c => c ≠ '?' ∧ c ≠ '#'

/-- The parts of the path, behind the scheme and the host. -/
def pathParts (url : List Char) : List (List Char) := ((location url).splitOn '/').drop 3

/-- The query of a URL. -/
def query (url : List Char) : List Char :=
  ((url.takeWhile fun c => c ≠ '#').dropWhile fun c => c ≠ '?').drop 1

/-- The value of the first parameter with this name, as it is written. -/
def value? (name query : List Char) : Option (List Char) :=
  (query.splitOn '&').findSome? fun parameter =>
    if (name ++ ['=']).isPrefixOf parameter then some (parameter.drop (name.length + 1)) else none

variable {before rest name value : List Char}

theorem location_append (hquery : '?' ∉ before) (hfragment : '#' ∉ before) (rest : List Char) :
    location (before ++ '?' :: rest) = before := by
  rw [location, List.takeWhile_append_of_pos]
  · simp
  · intro c hc
    simp [ne_of_mem_of_not_mem hc hquery, ne_of_mem_of_not_mem hc hfragment]

/-- The characters of a path are those of its parts, and separators. -/
theorem not_mem_intercalate_iff {sep c : Char} (hc : c ≠ sep) {parts : List (List Char)} :
    c ∉ [sep].intercalate parts ↔ ∀ part ∈ parts, c ∉ part := by
  induction parts with
  | nil => simp
  | cons part parts ih =>
    rw [List.forall_mem_cons, ← ih]
    cases parts with
    | nil => simp
    | cons part' parts =>
      rw [List.intercalate_cons_cons]
      simp [hc]

/-- The parts of a path, of a URL with a query. -/
theorem pathParts_append {parts : List (List Char)} (hne : parts ≠ [])
    (hparts : ∀ part ∈ parts, '/' ∉ part ∧ '?' ∉ part ∧ '#' ∉ part) (rest : List Char) :
    pathParts (['/'].intercalate parts ++ '?' :: rest) = parts.drop 3 := by
  have hquery : '?' ∉ ['/'].intercalate parts :=
    (not_mem_intercalate_iff (by decide)).mpr fun part hp => (hparts part hp).2.1
  have hfragment : '#' ∉ ['/'].intercalate parts :=
    (not_mem_intercalate_iff (by decide)).mpr fun part hp => (hparts part hp).2.2
  rw [pathParts, location_append hquery hfragment,
    List.splitOn_intercalate '/' (fun part hp => (hparts part hp).1) hne]

/-- The query behind a path. -/
theorem query_append {parts : List (List Char)}
    (hparts : ∀ part ∈ parts, '/' ∉ part ∧ '?' ∉ part ∧ '#' ∉ part) (hrest : '#' ∉ rest) :
    query (['/'].intercalate parts ++ '?' :: rest) = rest := by
  have hquery : '?' ∉ ['/'].intercalate parts :=
    (not_mem_intercalate_iff (by decide)).mpr fun part hp => (hparts part hp).2.1
  have hfragment : '#' ∉ ['/'].intercalate parts :=
    (not_mem_intercalate_iff (by decide)).mpr fun part hp => (hparts part hp).2.2
  generalize ['/'].intercalate parts = before at hquery hfragment
  have hnot : '#' ∉ before ++ '?' :: rest := by simp [hfragment, hrest]
  have hall : (before ++ '?' :: rest).takeWhile (fun c => c ≠ '#') = before ++ '?' :: rest := by
    refine List.takeWhile_eq_self_iff.mpr fun c hc => ?_
    simp [ne_of_mem_of_not_mem hc hnot]
  rw [query, hall, List.dropWhile_append_of_pos]
  · simp
  · intro c hc
    simp [ne_of_mem_of_not_mem hc hquery]

/-! ### Parameters -/

/-- **A parameter ends** at the next separator. -/
theorem not_mem_of_value? {query : List Char} (h : value? name query = some value) :
    '&' ∉ value := by
  obtain ⟨parameter, hmem, h⟩ := List.exists_of_findSome?_eq_some h
  obtain ⟨-, h⟩ := Option.ite_none_right_eq_some.mp h
  obtain rfl := Option.some.inj h
  rw [List.splitOn_eq_splitOnP] at hmem
  have hnot : ∀ c ∈ parameter, (c == '&') = false :=
    Separated.forall_mem_splitOnP_iff.mpr (fun _ _ hc => hc) parameter hmem
  exact fun hvalue => absurd (hnot '&' (List.mem_of_mem_drop hvalue)) (by decide)

/-- The last parameter of a query. -/
theorem value?_last (hname : '&' ∉ name) (hvalue : '&' ∉ value) :
    value? name (name ++ '=' :: value) = some value := by
  rw [value?, List.splitOn_eq_singleton (by simp [hname, hvalue])]
  simp

/-- The first parameter of a query. -/
theorem value?_first (hname : '&' ∉ name) (hvalue : '&' ∉ value) (rest : List Char) :
    value? name (name ++ '=' :: value ++ '&' :: rest) = some value := by
  rw [value?, List.splitOn_append_cons_self_of_not_mem (by simp [hname, hvalue])]
  simp

/-- A parameter of another name is passed over. -/
theorem value?_of_not_prefix {parameter : List Char} (hnot : '&' ∉ parameter)
    (hname : (name ++ ['=']).isPrefixOf parameter = false) (rest : List Char) :
    value? name (parameter ++ '&' :: rest) = value? name rest := by
  rw [value?, List.splitOn_append_cons_self_of_not_mem hnot, List.findSome?_cons, hname]
  rfl

end QueryString
