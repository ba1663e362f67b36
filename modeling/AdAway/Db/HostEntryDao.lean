import AdAway.Db.Entity
import AdAway.Library.Glob
import AdAway.Library.KeyedTable
import Mathlib.Data.List.TakeWhile
import Mathlib.Data.String.Basic

/-!
# Rebuilding `host_entries`

`HostEntryDao.sync()` rebuilds the table of host entries from the enabled rows of `hosts_lists`
in four passes: clear the table, import the blocked hosts, delete what an allowed host matches,
insert or replace the redirections.

## What the database leaves open

SQL fixes neither the order in which the allowed hosts are returned nor the order of two
redirections that tie on `host` and `source_id`. `SyncAnswers` is the pair of answers the two list
queries of one run may give: any permutation of the selected rows, sorted where the query says so.
Every theorem quantifies over them.

## The statements that throw

`importBlocked` is a plain `INSERT`, so the unique key of `host_entries` refuses it when a blocked
host would occur twice. `allowHost` compares each row that is left with its pattern, and SQLite
refuses to compare with a pattern of more than 50000 bytes. No other statement fails.

## Main definitions

* `like`, `toLikePattern` — SQL `LIKE` and the pattern built from an allowed host
* `clear`, `importBlocked`, `allowHost`, `redirectHost` — the statements of the DAO
* `SyncAnswers` — the answers of its two list queries
* `sync` — the whole rebuild

## Main results

* `like_map_toLower` — `LIKE` does not see the case of the text
* `tooComplex_toLikePattern_iff` — the pattern of an allowed host has the bytes of the host
* `allowHost_eq_none_iff` — when the deletion throws
* `mem_blockedRows`, `SyncAnswers.mem_allowed`, `SyncAnswers.mem_redirected` — the selections
-/

namespace AdAway

/-- The table `host_entries`, whose primary key is the host. -/
abbrev HostEntries := KeyedTable HostEntry.host

/-! ### SQL `LIKE` -/

/-- `LIKE` folds the case of ASCII letters. -/
def likeEq (a c : Char) : Bool := a.toLower == c.toLower

/-- The wildcards of `LIKE`. -/
def likeToken (c : Char) : Glob.Token Char :=
  if c = '%' then .many else if c = '_' then .one else .lit c

/-- `SQLITE_MAX_LIKE_PATTERN_LENGTH`, in bytes. -/
def maxLikePatternLength : ℕ := 50000

/-- SQLite refuses the pattern: "LIKE or GLOB pattern too complex". -/
def TooComplex (pattern : String) : Prop := maxLikePatternLength < pattern.utf8ByteSize

instance (pattern : String) : Decidable (TooComplex pattern) := by
  unfold TooComplex; infer_instance

/-- What `LIKE` reads of a text: it stops at the first NUL. -/
def likeChars (text : String) : List Char := text.toList.takeWhile fun c => c ≠ '\x00'

/-- `text LIKE pattern`; `none` when the comparison raises an error. -/
def like (text pattern : String) : Option Bool :=
  if TooComplex pattern then none
  else some (Glob.accepts likeEq ((likeChars pattern).map likeToken) (likeChars text))

theorem like_eq_none_iff {text pattern : String} :
    like text pattern = none ↔ TooComplex pattern := by
  rw [like]
  split <;> simp [*]

theorem like_eq_some_true_iff {text pattern : String} :
    like text pattern = some true ↔ ¬ TooComplex pattern ∧
      Glob.accepts likeEq ((likeChars pattern).map likeToken) (likeChars text) = true := by
  rw [like]
  split <;> simp [*]

/-- The text has no NUL. -/
def NoNul (text : String) : Prop := '\x00' ∉ text.toList

instance (text : String) : Decidable (NoNul text) := by
  unfold NoNul; infer_instance

/-- A text without NUL is read whole. -/
theorem likeChars_eq {text : String} (h : NoNul text) : likeChars text = text.toList :=
  List.takeWhile_eq_self_iff.mpr fun _ hc => decide_eq_true fun heq => h (heq ▸ hc)

/-- `LIKE` does not see what comes behind a NUL. -/
theorem like_ofList_likeChars (text pattern : String) :
    like (String.ofList (likeChars text)) pattern = like text pattern := by
  have hchars : likeChars (String.ofList (likeChars text)) = likeChars text := by
    rw [likeChars, likeChars, String.toList_ofList, List.takeWhile_idem]
  rw [like, like, hchars]

theorem toLower_toLower (c : Char) : c.toLower.toLower = c.toLower := by
  by_cases hupper : c.val ≥ 'A'.val ∧ c.val ≤ 'Z'.val
  · have hval : c.toLower.val = c.val + ('a'.val - 'A'.val) := congrArg Char.val (dif_pos hupper)
    have hnot : ¬ (c.toLower.val ≥ 'A'.val ∧ c.toLower.val ≤ 'Z'.val) := by
      rw [hval]
      simp [UInt32.le_iff_toNat_le] at hupper ⊢
      omega
    exact dif_neg hnot
  · have hsame : c.toLower = c := dif_neg hupper
    rw [hsame, hsame]

theorem toLower_eq_nul_iff {c : Char} : c.toLower = '\x00' ↔ c = '\x00' := by
  constructor
  · intro h
    by_cases hupper : c.val ≥ 'A'.val ∧ c.val ≤ 'Z'.val
    · have hval : c.toLower.val = c.val + ('a'.val - 'A'.val) := congrArg Char.val (dif_pos hupper)
      rw [h] at hval
      have hnat := congrArg UInt32.toNat hval
      simp [UInt32.le_iff_toNat_le, UInt32.toNat_add] at hupper hnat
      omega
    · have hsame : c.toLower = c := dif_neg hupper
      rw [← hsame, h]
  · rintro rfl
    rfl

/-- `LIKE` does not see the case of the text. -/
theorem like_map_toLower (text pattern : String) :
    like (String.ofList (text.toList.map Char.toLower)) pattern = like text pattern := by
  have hcase : ∀ a c, likeEq a (Char.toLower c) = likeEq a c := by
    intro a c
    rw [likeEq, likeEq, toLower_toLower]
  have hchars : likeChars (String.ofList (text.toList.map Char.toLower))
      = (likeChars text).map Char.toLower := by
    rw [likeChars, likeChars, String.toList_ofList, List.takeWhile_map]
    congr 2
    funext c
    simp [toLower_eq_nul_iff]
  rw [like, like, hchars, Glob.accepts_map hcase]

/-- `ANY_CHAR_PATTERN` then `A_CHAR_PATTERN`, replaced by the wildcards of `LIKE`. -/
def toLikePattern (allowedHost : String) : String :=
  String.ofList ((allowedHost.toList.map fun c => if c = '*' then '%' else c).map
    fun c => if c = '?' then '_' else c)

theorem utf8ByteSize_toLikePattern (allowedHost : String) :
    (toLikePattern allowedHost).utf8ByteSize = allowedHost.utf8ByteSize := by
  have hmap : ∀ (a b : Char) (cs : List Char), a.utf8Size = b.utf8Size →
      String.utf8Len (cs.map fun c => if c = a then b else c) = String.utf8Len cs := by
    intro a b cs hab
    induction cs with
    | nil => rfl
    | cons c cs ih =>
      rw [List.map_cons, String.utf8Len_cons, String.utf8Len_cons, ih]
      split
      · rw [‹c = a›, hab]
      · rfl
  rw [toLikePattern, String.utf8ByteSize_ofList, hmap '?' '_' _ rfl,
    hmap '*' '%' _ rfl, ← String.utf8ByteSize_ofList, String.ofList_toList]

/-- The pattern of an allowed host is too complex exactly if the host is that long. -/
theorem tooComplex_toLikePattern_iff {allowedHost : String} :
    TooComplex (toLikePattern allowedHost) ↔ TooComplex allowedHost := by
  rw [TooComplex, TooComplex, utf8ByteSize_toLikePattern]

/-! ### The statements -/

/-- `HostEntryDao.clear`. -/
def clear (_ : HostEntries) : HostEntries := ∅

/-- The rows selected by `HostEntryDao.importBlocked`. -/
def blockedRows (items : List HostListItem) : List HostEntry :=
  ((items.filter fun i => i.type = .blocked ∧ i.enabled).map fun i =>
    ⟨i.host, i.type, i.redirection⟩).dedup

/-- `HostEntryDao.importBlocked`. -/
def importBlocked (items : List HostListItem) (t : HostEntries) : Option HostEntries :=
  t.insertAll? (blockedRows items)

/-- The rows selected by `HostEntryDao.getEnabledAllowedHosts`. -/
def enabledAllowedHosts (items : List HostListItem) : List String :=
  (items.filter fun i => i.type = .allowed ∧ i.enabled).map HostListItem.host

/-- `HostEntryDao.allowHost`. -/
def allowHost (hostPattern : String) (t : HostEntries) : Option HostEntries :=
  t.deleteWhere? fun e => like e.host hostPattern

/-- The rows selected by `HostEntryDao.getEnabledRedirectedHosts`. -/
def enabledRedirectedHosts (items : List HostListItem) : List HostListItem :=
  items.filter fun i => i.type = .redirected ∧ i.enabled

/-- `ORDER BY host ASC, source_id DESC`. -/
def RedirectOrder (i j : HostListItem) : Prop :=
  i.host < j.host ∨ i.host = j.host ∧ j.sourceId ≤ i.sourceId

instance : DecidableRel RedirectOrder := fun i j => by unfold RedirectOrder; infer_instance

/-- The entry `sync` builds from a redirected item. -/
def redirectEntry (i : HostListItem) : HostEntry := ⟨i.host, .redirected, i.redirection⟩

/-- `HostEntryDao.redirectHost`. -/
def redirectHost (redirection : HostEntry) (t : HostEntries) : HostEntries := t.upsert redirection

/-- `HostEntryDao.getEntry`. -/
def getEntry (host : String) (t : HostEntries) : Option HostEntry := t.find? host

/-- The answers of the two list queries of one `sync`: the selected rows, in an order the queries
allow. -/
structure SyncAnswers (items : List HostListItem) where
  /-- The answer of `getEnabledAllowedHosts`. -/
  allowed : List String
  allowed_perm : allowed.Perm (enabledAllowedHosts items)
  /-- The answer of `getEnabledRedirectedHosts`. -/
  redirected : List HostListItem
  redirected_perm : redirected.Perm (enabledRedirectedHosts items)
  redirected_sorted : redirected.Pairwise RedirectOrder

/-- `HostEntryDao.sync`, on the tables `hosts_lists` and `host_entries`; `none` when a statement
throws. -/
def sync (items : List HostListItem) (q : SyncAnswers items) (t : HostEntries) :
    Option HostEntries := do
  let t ← importBlocked items (clear t)
  let t ← q.allowed.foldlM (fun t allowedHost => allowHost (toLikePattern allowedHost) t) t
  return q.redirected.foldl (fun t i => redirectHost (redirectEntry i) t) t

/-! ### What a lookup answers after a statement -/

/-- The deletion throws exactly if a row is left to compare with a host that is too complex. -/
theorem allowHost_eq_none_iff {allowedHost : String} {t : HostEntries} :
    allowHost (toLikePattern allowedHost) t = none ↔ TooComplex allowedHost ∧ t.rows ≠ [] := by
  rw [← Option.not_isSome_iff_eq_none, allowHost, KeyedTable.deleteWhere?_isSome_iff]
  simp only [ne_eq, like_eq_none_iff, tooComplex_toLikePattern_iff, List.eq_nil_iff_forall_not_mem,
    not_forall, not_not, exists_prop]
  exact ⟨fun ⟨e, he, hlong⟩ => ⟨hlong, e, he⟩, fun ⟨hlong, e, he⟩ => ⟨e, he, hlong⟩⟩

/-- The deletion leaves rows of before only. -/
theorem mem_of_mem_allowHost {hostPattern : String} {t t' : HostEntries}
    (h : allowHost hostPattern t = some t') {e : HostEntry} (he : e ∈ t'.rows) : e ∈ t.rows := by
  rw [(KeyedTable.deleteWhere?_eq_some_iff.mp h).2] at he
  exact (List.mem_filter.mp he).1

theorem find?_of_allowHost {hostPattern : String} {t t' : HostEntries}
    (h : allowHost hostPattern t = some t') (host : String) :
    t'.find? host = if like host hostPattern = some true then none else t.find? host := by
  rw [KeyedTable.find?_of_deleteWhere? h]
  cases hfind : t.find? host with
  | none => split <;> rfl
  | some e =>
    have hhost : e.host = host := KeyedTable.key_of_find? hfind
    rw [Option.filter_some, hhost]
    by_cases hlike : like host hostPattern = some true <;> simp [hlike]

theorem find?_redirectHost (i : HostListItem) (t : HostEntries) (host : String) :
    (redirectHost (redirectEntry i) t).find? host
      = if i.host = host then some (redirectEntry i) else t.find? host :=
  KeyedTable.find?_upsert t (redirectEntry i) host

/-! ### Reading the selections back -/

theorem mem_blockedRows {items : List HostListItem} {e : HostEntry} :
    e ∈ blockedRows items ↔
      ∃ i ∈ items, i.type = .blocked ∧ i.enabled = true ∧ e = ⟨i.host, .blocked, i.redirection⟩ := by
  rw [blockedRows, List.mem_dedup, List.mem_map]
  constructor
  · rintro ⟨i, hi, rfl⟩
    simp only [List.mem_filter, decide_eq_true_eq] at hi
    exact ⟨i, hi.1, hi.2.1, hi.2.2, by rw [hi.2.1]⟩
  · rintro ⟨i, hi, htype, hen, rfl⟩
    exact ⟨i, by simp [hi, htype, hen], by rw [htype]⟩

theorem SyncAnswers.mem_allowed {items : List HostListItem} (q : SyncAnswers items) {w : String} :
    w ∈ q.allowed ↔ ∃ i ∈ items, i.type = .allowed ∧ i.enabled = true ∧ i.host = w := by
  rw [q.allowed_perm.mem_iff, enabledAllowedHosts, List.mem_map]
  exact exists_congr fun i => by simp [and_assoc]

theorem SyncAnswers.mem_redirected {items : List HostListItem} (q : SyncAnswers items)
    {i : HostListItem} : i ∈ q.redirected ↔ i ∈ items ∧ i.type = .redirected ∧ i.enabled = true := by
  rw [q.redirected_perm.mem_iff, enabledRedirectedHosts, List.mem_filter, decide_eq_true_eq]

end AdAway
