import AdAway.Db.HostEntrySync
import AdAway.Library.Interleaving
import AdAway.Source.SourceModel

/-!
# Retrieving and toggling at once

Calls of `retrieveHostsSources` and `toggleEnabled` run on different threads, and nothing but the
single statement is atomic. A call of `retrieveHostsSources` reads the sources once and works from
that answer; it inserts the items of a source as enabled, in several statements, long after it has
read and cleared the source. A toggle switches the source first and its items afterwards.

## What can go wrong

A source may be switched off while its items are still being inserted, two toggles of one source may
overlap, and two calls may copy one source at once. `OrderlyFor` excludes exactly these three steps
for a source, by the state before the step. Then the flags of the items follow the flag of their
source, except for the debt of a toggle that is between its statements, and no source holds more
than one body.

## Main definitions

* `Task`, `TaskState`, `stepTasks` — the calls and their interleavings
* `FlagsAgree`, `HeldBody` — what should hold
* `OrderlyFor` — the condition on the steps

## Main results

* `TasksInv.step` — what an orderly step preserves
* `tasks_consistent` — the tables when all calls have finished
-/

namespace AdAway

/-! ### The calls -/

/-- A call of `retrieveHostsSources` that finds a network: its clock, the answers `getAll` would
give it, what the address of a source leads to when its turn comes, and its batches. -/
structure RetrieveCall (g : Guava) where
  now : ZonedDateTime
  answer : Database → List HostsSource
  isAnswer : ∀ db, IsAnswer db (answer db)
  site : HostsSource → Site
  loads : Loads g

variable {g : Guava}

/-- The turn of a source in the loop of a call. -/
def RetrieveCall.turn (call : RetrieveCall g) (s : HostsSource) : List Statement :=
  retrieveSource call.now (onlineDate call.now (call.site s) s) s
    (copySource call.loads call.now (call.site s) s)

/-- A call. -/
inductive Task (g : Guava)
  | retrieve (call : RetrieveCall g)
  /-- `toggleEnabled` of a source as the caller knows it. -/
  | toggle (source : HostsSource)

/-- The statements of a call that starts now. -/
def Task.statements (db : Database) : Task g → List Statement
  | .retrieve call => (call.answer db).flatMap call.turn
  | .toggle source => toggleEnabled source

/-- Over a web that does not change, they are those of `retrieveHostsSources`. -/
theorem statements_eq_retrieveHostsSources (call : RetrieveCall g) (web : String → Site)
    (hsite : ∀ s, call.site s = web s.url) (db : Database) :
    (Task.retrieve call).statements db
      = (retrieveHostsSources call.loads false call.now web (call.answer db)).2 := by
  show (call.answer db).flatMap call.turn = (call.answer db).flatMap _
  congr 1
  funext s
  rw [RetrieveCall.turn, hsite]

/-- How far a call has come. -/
inductive TaskState
  | notStarted
  /-- The statements still to be made. -/
  | running (statements : List Statement)

/-- The next turn of a call: it reads, or makes its next statement. -/
def taskTurn (task : Task g) : TaskState → Database → Option (TaskState × Database)
  | .notStarted, db => some (.running (task.statements db), db)
  | .running (st :: sts), db => some (.running sts, st.exec db)
  | .running [], _ => none

theorem taskTurn_eq_some {task : Task g} {pc pc' : TaskState} {db db' : Database}
    (h : taskTurn task pc db = some (pc', db')) :
    (pc = .notStarted ∧ pc' = .running (task.statements db) ∧ db' = db) ∨
      ∃ st sts, pc = .running (st :: sts) ∧ pc' = .running sts ∧ db' = st.exec db := by
  cases pc with
  | notStarted =>
    cases h
    exact Or.inl ⟨rfl, rfl, rfl⟩
  | running sts =>
    cases sts with
    | nil => cases h
    | cons st sts =>
      cases h
      exact Or.inr ⟨st, sts, rfl, rfl, rfl⟩

/-- The calls and the tables. -/
abbrev Tasks (ι : Type*) := Interleaving.State ι TaskState Database

/-- No call has started. -/
def startTasks {ι : Type*} (db : Database) : Tasks ι := ⟨fun _ => .notStarted, db⟩

/-- Every call has finished. -/
def AllFinished {ι : Type*} (s : Tasks ι) : Prop := ∀ i, s.locals i = .running []

section Tasks

variable {ι : Type*} [DecidableEq ι]

/-- One turn of call `i`. -/
def stepTasks (task : ι → Task g) : Tasks ι → ι → Option (Tasks ι) :=
  Interleaving.step fun i => taskTurn (task i)

end Tasks

/-! ### What should hold -/

/-- The items of the source have its flag. -/
def FlagsAgree (k : ℤ) (db : Database) : Prop :=
  ∀ source, db.source k = some source →
    ∀ i ∈ db.hostsLists.rows, i.sourceId = k → i.enabled = source.enabled

/-- The items, whatever their flags. -/
def content (items : List HostListItem) : List HostListItem :=
  items.map fun i => i.withEnabled true

/-- What source `k` may hold: its items at the start, or the items of one body that a call has got
for it, as far as it was delivered. -/
inductive HeldBody {ι : Type*} (task : ι → Task g) (db₀ : Database) (k : ℤ) :
    List HostListItem → Prop
  | initial : HeldBody task db₀ k (db₀.sourceItems k)
  | loaded {j : ι} {call : RetrieveCall g} {db : Database} {s : HostsSource} {page : Page}
      (htask : task j = .retrieve call) (hs : s ∈ call.answer db) (hid : s.id = k)
      (hpage : (call.site s).page = some page) :
      HeldBody task db₀ k (((call.site s).delivered page).filterMap (parseLine g s))

/-! ### The condition -/

/-- A toggle has switched the source, and not yet its items. -/
def MidToggle (k : ℤ) (pc : TaskState) : Prop :=
  ∃ enabled, pc = .running [.setSourceItemsEnabled k enabled]

/-- The items that a statement inserts. -/
def Statement.newItems : Statement → List HostListItem
  | .insertItems items => items
  | _ => []

/-- The items of the source that the statements insert. -/
def inserts (k : ℤ) (sts : List Statement) : List HostListItem :=
  ofSource k (sts.flatMap Statement.newItems)

/-- The items of the source that a call has still to insert, once it has cleared the source. -/
def pending (k : ℤ) : TaskState → List HostListItem
  | .notStarted => []
  | .running sts => if .clearSourceHosts k ∈ sts then [] else inserts k sts

/-- The condition on a step, for source `k`: items are inserted while the source is enabled or a
toggle is under way, no toggle starts within another one, and the source is not cleared for a copy
while another call has items to insert. -/
def OrderlyFor {ι : Type*} (k : ℤ) (s : Tasks ι) (i : ι) : Prop :=
  match s.locals i with
  | .running (.insertItems items :: _) =>
    (∃ item ∈ items, item.sourceId = k) →
      (∀ source, s.shared.source k = some source → source.enabled = true) ∨
        ∃ j, MidToggle k (s.locals j)
  | .running (.setSourceEnabled id _ :: _) => id = k → ∀ j, ¬ MidToggle k (s.locals j)
  | .running (.clearSourceHosts id :: sts) =>
    id = k → inserts k sts ≠ [] → ∀ j, pending k (s.locals j) = []
  | _ => True

/-! ### What the statements of a call are -/

theorem inserts_cons (k : ℤ) (st : Statement) (sts : List Statement) :
    inserts k (st :: sts) = ofSource k st.newItems ++ inserts k sts := by
  rw [inserts, List.flatMap_cons, ofSource_append]
  rfl

theorem inserts_append (k : ℤ) (sts sts' : List Statement) :
    inserts k (sts ++ sts') = inserts k sts ++ inserts k sts' := by
  rw [inserts, List.flatMap_append, ofSource_append]
  rfl

/-- The statement neither clears the source nor inserts items into it. -/
structure Statement.Spares (k : ℤ) (st : Statement) : Prop where
  ne_clear : st ≠ .clearSourceHosts k
  newItems : ofSource k st.newItems = []

theorem inserts_of_spares {k : ℤ} {sts : List Statement} (h : ∀ st ∈ sts, st.Spares k) :
    inserts k sts = [] := by
  induction sts with
  | nil => rfl
  | cons st sts ih =>
    rw [List.forall_mem_cons] at h
    rw [inserts_cons, h.1.newItems, ih h.2]
    rfl

theorem clear_not_mem_of_spares {k : ℤ} {sts : List Statement} (h : ∀ st ∈ sts, st.Spares k) :
    .clearSourceHosts k ∉ sts :=
  fun hmem => (h _ hmem).ne_clear rfl

/-- A statement about another source spares a source. -/
theorem Statement.About.spares {k k' : ℤ} {st : Statement} (h : st.About k') (hne : k' ≠ k) :
    st.Spares k := by
  constructor
  · rintro rfl
    exact hne h.symm
  · cases st with
    | insertItems items => exact ofSource_eq_nil h hne
    | _ => rfl

theorem Statement.Stamps.spares {k k' : ℤ} {st : Statement} (h : st.Stamps k) : st.Spares k' := by
  cases st with
  | updateEntityTag | updateModificationDates | updateSize | clearProperties =>
    exact ⟨Statement.noConfusion, rfl⟩
  | _ => exact h.elim

/-- The statements spare the source, or clear it once for a copy: they spare it before, and what
they insert into it afterwards meets `P`. -/
def Copies (k : ℤ) (P : List HostListItem → Prop) (sts : List Statement) : Prop :=
  (∀ st ∈ sts, st.Spares k) ∨
    ∃ before after, sts = before ++ .clearSourceHosts k :: after ∧ (∀ st ∈ before, st.Spares k) ∧
      .clearSourceHosts k ∉ after ∧ P (inserts k after)

theorem Copies.append {k : ℤ} {P : List HostListItem → Prop} {sts front back : List Statement}
    (h : Copies k P sts) (hfront : ∀ st ∈ front, st.Spares k) (hback : ∀ st ∈ back, st.Spares k) :
    Copies k P (front ++ (sts ++ back)) := by
  rcases h with h | ⟨before, after, rfl, hbefore, hafter, hP⟩
  · refine Or.inl ?_
    rw [List.forall_mem_append, List.forall_mem_append]
    exact ⟨hfront, h, hback⟩
  · refine Or.inr ⟨front ++ before, after ++ back, by simp, ?_, ?_, ?_⟩
    · rw [List.forall_mem_append]
      exact ⟨hfront, hbefore⟩
    · rw [List.mem_append, not_or]
      exact ⟨hafter, clear_not_mem_of_spares hback⟩
    · rwa [inserts_append, inserts_of_spares hback, List.append_nil]

theorem Copies.imp {k : ℤ} {P Q : List HostListItem → Prop} {sts : List Statement}
    (h : Copies k P sts) (hPQ : ∀ items, P items → Q items) : Copies k Q sts := by
  rcases h with h | ⟨before, after, hsts, hbefore, hafter, hP⟩
  · exact Or.inl h
  · exact Or.inr ⟨before, after, hsts, hbefore, hafter, hPQ _ hP⟩

/-- Before it starts with them, a call has nothing pending. -/
theorem Copies.pending {k : ℤ} {P : List HostListItem → Prop} {sts : List Statement}
    (h : Copies k P sts) : AdAway.pending k (.running sts) = [] := by
  rw [AdAway.pending]
  split
  next => rfl
  next hclear =>
    rcases h with h | ⟨before, after, rfl, -⟩
    · exact inserts_of_spares h
    · exact absurd (List.mem_append_right before List.mem_cons_self) hclear

/-- What remains of such statements: a clear is the only one, nothing is inserted before it, and
what is inserted after it meets `P`. -/
def CopiesOnce (k : ℤ) (P : List HostListItem → Prop) : List Statement → Prop
  | [] => True
  | st :: sts =>
    (st = .clearSourceHosts k → .clearSourceHosts k ∉ sts ∧ P (inserts k sts)) ∧
      (.clearSourceHosts k ∈ sts → ofSource k st.newItems = []) ∧ CopiesOnce k P sts

namespace CopiesOnce

variable {k : ℤ} {P : List HostListItem → Prop} {sts : List Statement}

theorem of_suffix {sts' : List Statement} (h : CopiesOnce k P sts) (hsuffix : sts' <:+ sts) :
    CopiesOnce k P sts' := by
  induction sts with
  | nil => exact (List.suffix_nil.mp hsuffix) ▸ trivial
  | cons st sts ih =>
    rcases List.suffix_cons_iff.mp hsuffix with rfl | hsuffix
    · exact h
    · exact ih h.2.2 hsuffix

theorem of_clear_not_mem (h : .clearSourceHosts k ∉ sts) : CopiesOnce k P sts := by
  induction sts with
  | nil => trivial
  | cons st sts ih =>
    rw [List.mem_cons, not_or] at h
    exact ⟨fun hst => absurd hst.symm h.1, fun hmem => absurd hmem h.2, ih h.2⟩

theorem append_left {before : List Statement} (hbefore : ∀ st ∈ before, st.Spares k)
    (h : CopiesOnce k P sts) : CopiesOnce k P (before ++ sts) := by
  induction before with
  | nil => exact h
  | cons st before ih =>
    rw [List.forall_mem_cons] at hbefore
    exact ⟨fun hst => absurd hst hbefore.1.ne_clear, fun _ => hbefore.1.newItems, ih hbefore.2⟩

end CopiesOnce

theorem Copies.copiesOnce {k : ℤ} {P : List HostListItem → Prop} {sts : List Statement}
    (h : Copies k P sts) : CopiesOnce k P sts := by
  rcases h with h | ⟨before, after, rfl, hbefore, hafter, hP⟩
  · exact .of_clear_not_mem (clear_not_mem_of_spares h)
  · exact .append_left hbefore ⟨fun _ => ⟨hafter, hP⟩, fun _ => rfl, .of_clear_not_mem hafter⟩

/-! ### The calls, source by source -/

theorem about_turn (call : RetrieveCall g) (s : HostsSource) : ∀ st ∈ call.turn s, st.About s.id :=
  about_retrieveSource call.loads call.now (fun _ => call.site s) s

theorem spares_flatMap_turn (call : RetrieveCall g) {k : ℤ} {sources : List HostsSource}
    (h : ∀ s ∈ sources, s.id ≠ k) : ∀ st ∈ sources.flatMap call.turn, st.Spares k := by
  intro st hst
  obtain ⟨s, hs, hst⟩ := List.mem_flatMap.mp hst
  exact (about_turn call s st hst).spares (h s hs)

theorem inserts_insertItems (k : ℤ) (batches : List (List HostListItem)) :
    inserts k (batches.map .insertItems) = ofSource k batches.flatten := by
  induction batches with
  | nil => rfl
  | cons batch batches ih =>
    rw [List.map_cons, inserts_cons, ih, List.flatten_cons, ofSource_append]
    rfl

/-- What a copy stores is nothing, or one clearing of the source for the items of its batches. -/
theorem copies_storeStatements {k : ℤ} {P : List HostListItem → Prop} {entityTag : Option String}
    {batches : Option (List (List HostListItem))}
    (hP : ∀ b, batches = some b → P (ofSource k b.flatten)) :
    Copies k P (storeStatements k entityTag batches) := by
  have hparse : Copies k P (batches.toList.flatMap (parseStatements k)) := by
    cases batches with
    | none => exact Or.inl fun st hst => absurd hst List.not_mem_nil
    | some b =>
      rw [Option.toList_some, List.flatMap_singleton, parseStatements]
      refine Or.inr ⟨[], _, rfl, fun st hst => absurd hst List.not_mem_nil, ?_, ?_⟩
      · intro hmem
        obtain ⟨batch, -, hbatch⟩ := List.mem_map.mp hmem
        cases hbatch
      · rw [inserts_insertItems]
        exact hP b rfl
  rw [storeStatements, ← List.append_nil (batches.toList.flatMap _)]
  exact hparse.append (fun st hst => (stamps_updateEntityTag st hst).spares)
    fun st hst => absurd hst List.not_mem_nil

theorem Copies.statements {k : ℤ} {P : List HostListItem → Prop} {now online : ZonedDateTime}
    {copy : Copy} (hP : ∀ b, copy.loaded = some b → P (ofSource k b.flatten)) :
    Copies k P (copy.statements now online k) := by
  cases copy with
  | skipped => exact Or.inl fun st hst => absurd hst List.not_mem_nil
  | failed entityTag batches => exact copies_storeStatements hP
  | done entityTag batches =>
    exact (copies_storeStatements hP).append (fun st hst => absurd hst List.not_mem_nil)
      fun st hst => (stamps_updateModificationDates st hst).spares

/-- **The turn of a source** spares it, or clears it for nothing or for one body. -/
theorem copies_turn (call : RetrieveCall g) (s : HostsSource) :
    Copies s.id (fun items => items = [] ∨ ∃ page, (call.site s).page = some page ∧
      items.Perm (((call.site s).delivered page).filterMap (parseLine g s))) (call.turn s) := by
  rw [RetrieveCall.turn, retrieveSource]
  split
  next =>
    refine Copies.statements fun b hloaded => ?_
    obtain ⟨page, hpage, rfl⟩ := loaded_copySource hloaded
    rw [SourceLoad.ofSource_flatten]
    exact Or.inr ⟨page, hpage, (call.loads s ((call.site s).delivered page)).perm⟩
  next =>
    refine Or.inr ⟨[], _, rfl, fun st hst => absurd hst List.not_mem_nil, ?_, Or.inl rfl⟩
    intro hmem
    cases List.mem_singleton.mp hmem

/-- What a call inserts into a source is what the source may hold. -/
def OneBody {ι : Type*} (task : ι → Task g) (db₀ : Database) (k : ℤ) (items : List HostListItem) :
    Prop :=
  items = [] ∨ ∃ body, HeldBody task db₀ k body ∧ items.Perm body

theorem copies_statements {ι : Type*} (task : ι → Task g) (db₀ : Database) (k : ℤ) (j : ι)
    (db : Database) : Copies k (OneBody task db₀ k) ((task j).statements db) := by
  cases htask : task j with
  | toggle source =>
    refine Or.inl fun st hst => ?_
    rcases List.mem_cons.mp hst with rfl | hst
    · exact ⟨Statement.noConfusion, rfl⟩
    · obtain rfl := List.mem_singleton.mp hst
      exact ⟨Statement.noConfusion, rfl⟩
  | retrieve call =>
    show Copies k _ ((call.answer db).flatMap call.turn)
    by_cases hk : ∃ s ∈ call.answer db, s.id = k
    · obtain ⟨s, hs, rfl⟩ := hk
      have hnodup := nodup_of_perm_filter (call.isAnswer db).1
      obtain ⟨before, after, hsources⟩ := List.append_of_mem hs
      rw [hsources, List.map_append, List.map_cons, List.nodup_middle, List.nodup_cons,
        List.mem_append, not_or] at hnodup
      obtain ⟨⟨hbefore, hafter⟩, -⟩ := hnodup
      rw [hsources, List.flatMap_append, List.flatMap_cons]
      refine Copies.append ((copies_turn call s).imp fun items hitems => ?_)
        (spares_flatMap_turn call fun s' hs' heq => hbefore (List.mem_map.mpr ⟨s', hs', heq⟩))
        (spares_flatMap_turn call fun s' hs' heq => hafter (List.mem_map.mpr ⟨s', hs', heq⟩))
      refine hitems.imp id ?_
      rintro ⟨page, hpage, hperm⟩
      exact ⟨_, .loaded htask hs rfl hpage, hperm⟩
    · exact Or.inl (spares_flatMap_turn call fun s hs heq => hk ⟨s, hs, heq⟩)

/-- A statement of retrieving switches nothing on or off, and inserts enabled items. -/
def Statement.Retrieves : Statement → Prop
  | .setSourceEnabled _ _ | .setSourceItemsEnabled _ _ => False
  | .insertItems items => ∀ i ∈ items, i.enabled = true
  | _ => True

theorem retrieves_turn (call : RetrieveCall g) (s : HostsSource) :
    ∀ st ∈ call.turn s, st.Retrieves := by
  intro st hst
  rcases mem_retrieveSource hst with rfl | hstamps | ⟨page, -, batch, hbatch, rfl⟩
  · trivial
  · cases st with
    | updateEntityTag | updateModificationDates | updateSize | clearProperties => trivial
    | _ => exact hstamps.elim
  · intro i hi
    exact ((call.loads s ((call.site s).delivered page)).stored
      (List.mem_flatten.mpr ⟨batch, hbatch, hi⟩)).1

/-! ### What remains of a call -/

theorem suffix_toggleEnabled {source : HostsSource} {sts : List Statement}
    (h : sts <:+ toggleEnabled source) :
    sts = toggleEnabled source ∨ sts = [.setSourceItemsEnabled source.id !source.enabled] ∨
      sts = [] := by
  rcases List.suffix_cons_iff.mp h with rfl | h
  · exact Or.inl rfl
  · rcases List.suffix_cons_iff.mp h with rfl | h
    · exact Or.inr (Or.inl rfl)
    · exact Or.inr (Or.inr (List.suffix_nil.mp h))

/-- What remains of a call is a suffix of its statements. -/
def Task.Within (task : Task g) : TaskState → Prop
  | .notStarted => True
  | .running sts => ∃ db, sts <:+ task.statements db

namespace Task.Within

variable {task : Task g}

theorem turn {pc pc' : TaskState} {db db' : Database} (h : task.Within pc)
    (hturn : taskTurn task pc db = some (pc', db')) : task.Within pc' := by
  rcases taskTurn_eq_some hturn with ⟨-, rfl, -⟩ | ⟨st, sts, rfl, rfl, -⟩
  · exact ⟨db, List.suffix_rfl⟩
  · obtain ⟨db₀, hsuffix⟩ := h
    exact ⟨db₀, (List.suffix_cons st sts).trans hsuffix⟩

theorem retrieves {call : RetrieveCall g} {st : Statement} {sts : List Statement}
    (h : (Task.retrieve call).Within (.running (st :: sts))) : st.Retrieves := by
  obtain ⟨db, hsuffix⟩ := h
  obtain ⟨s, -, hst⟩ := List.mem_flatMap.mp (hsuffix.subset List.mem_cons_self)
  exact retrieves_turn call s st hst

/-- A toggle that switches the source switches its items next. -/
theorem setSourceEnabled {id : ℤ} {enabled : Bool} {sts : List Statement}
    (h : task.Within (.running (.setSourceEnabled id enabled :: sts))) :
    sts = [.setSourceItemsEnabled id enabled] := by
  cases task with
  | retrieve call => exact h.retrieves.elim
  | toggle source =>
    obtain ⟨db, hsuffix⟩ := h
    rcases suffix_toggleEnabled hsuffix with h | h | h <;> cases h
    rfl

/-- A toggle that switches the items is done. -/
theorem setSourceItemsEnabled {id : ℤ} {enabled : Bool} {sts : List Statement}
    (h : task.Within (.running (.setSourceItemsEnabled id enabled :: sts))) : sts = [] := by
  cases task with
  | retrieve call => exact h.retrieves.elim
  | toggle source =>
    obtain ⟨db, hsuffix⟩ := h
    rcases suffix_toggleEnabled hsuffix with h | h | h <;> cases h
    rfl

/-- A toggle switches the source before it switches the items. -/
theorem before_setSourceItemsEnabled {id : ℤ} {enabled : Bool} {st : Statement}
    (h : task.Within (.running [st, .setSourceItemsEnabled id enabled])) :
    st = .setSourceEnabled id enabled := by
  cases task with
  | retrieve call =>
    obtain ⟨db, hsuffix⟩ := h
    have hrest : (Task.retrieve call).Within (.running [.setSourceItemsEnabled id enabled]) :=
      ⟨db, (List.suffix_cons st _).trans hsuffix⟩
    exact hrest.retrieves.elim
  | toggle source =>
    obtain ⟨db, hsuffix⟩ := h
    rcases suffix_toggleEnabled hsuffix with h | h | h <;> cases h
    rfl

/-- A call does not start between the statements of a toggle. -/
theorem statements_ne {id : ℤ} {enabled : Bool} {db : Database} :
    task.statements db ≠ [.setSourceItemsEnabled id enabled] := by
  intro heq
  cases task with
  | retrieve call =>
    have hrest : (Task.retrieve call).Within (.running [.setSourceItemsEnabled id enabled]) :=
      ⟨db, heq ▸ List.suffix_rfl⟩
    exact hrest.retrieves.elim
  | toggle source => cases heq

/-- Items are inserted as enabled. -/
theorem insertItems {items : List HostListItem} {sts : List Statement}
    (h : task.Within (.running (.insertItems items :: sts))) : ∀ i ∈ items, i.enabled = true := by
  cases task with
  | retrieve call => exact h.retrieves
  | toggle source =>
    obtain ⟨db, hsuffix⟩ := h
    rcases suffix_toggleEnabled hsuffix with h | h | h <;> cases h

end Task.Within

/-! ### The flags -/

theorem flagsAgree_iff {k : ℤ} {db : Database} :
    FlagsAgree k db ↔ ∀ source, db.source k = some source →
      ∀ i ∈ db.sourceItems k, i.enabled = source.enabled := by
  refine forall_congr' fun source => forall_congr' fun _ => ?_
  constructor
  · intro h i hi
    obtain ⟨j, hj, hk, rfl⟩ := mem_ofSource.mp hi
    exact h j hj hk
  · intro h j hj hk
    exact h j.unnumbered (mem_ofSource.mpr ⟨j, hj, hk, rfl⟩)

/-- Only switching the source changes its flag. -/
theorem Statement.enabled_onSource {st : Statement} {s : HostsSource}
    (h : ∀ enabled, st ≠ .setSourceEnabled s.id enabled) (db : Database) :
    (st.onSource db s).enabled = s.enabled := by
  cases st with
  | clearSourceHosts | insertItems | setSourceItemsEnabled => rfl
  | setSourceEnabled id enabled =>
    have hne : s.id ≠ id := by
      rintro rfl
      exact h enabled rfl
    exact congrArg HostsSource.enabled (if_neg hne)
  | _ =>
    simp only [Statement.onSource]
    split <;> rfl

theorem enabled_exec {k : ℤ} {st : Statement} (h : ∀ enabled, st ≠ .setSourceEnabled k enabled)
    {db : Database} {source : HostsSource} (hsource : (st.exec db).source k = some source) :
    ∃ old, db.source k = some old ∧ source.enabled = old.enabled := by
  rw [Statement.source_exec] at hsource
  obtain ⟨old, hold, rfl⟩ := Option.map_eq_some_iff.mp hsource
  refine ⟨old, hold, Statement.enabled_onSource ?_ db⟩
  rw [id_of_source hold]
  exact h

/-- A statement that does not switch the source or its items keeps the flags right, if the source is
enabled when enabled items are inserted into it. -/
theorem FlagsAgree.exec {k : ℤ} {db : Database} {st : Statement} (h : FlagsAgree k db)
    (hsource : ∀ enabled, st ≠ .setSourceEnabled k enabled)
    (hitems : ∀ enabled, st ≠ .setSourceItemsEnabled k enabled)
    (hinsert : ∀ items, st = .insertItems items → (∀ i ∈ items, i.enabled = true) ∧
      ((∃ i ∈ items, i.sourceId = k) →
        ∀ source, db.source k = some source → source.enabled = true)) :
    FlagsAgree k (st.exec db) := by
  rw [flagsAgree_iff] at h ⊢
  intro source hrow i hi
  obtain ⟨old, hold, henabled⟩ := enabled_exec hsource hrow
  rw [henabled]
  rw [Statement.sourceItems_exec] at hi
  cases st with
  | clearSourceHosts id =>
    rw [Statement.onSourceItems] at hi
    split at hi
    next => cases hi
    next => exact h old hold i hi
  | insertItems items =>
    rcases List.mem_append.mp hi with hi | hi
    · exact h old hold i hi
    · obtain ⟨j, hj, hk, rfl⟩ := mem_ofSource.mp hi
      obtain ⟨hall, hon⟩ := hinsert items rfl
      have hj' : j.unnumbered.enabled = true := hall j hj
      rw [hj', hon ⟨j, hj, hk⟩ old hold]
  | setSourceItemsEnabled id enabled =>
    have hne : id ≠ k := by
      rintro rfl
      exact hitems enabled rfl
    rw [Statement.onSourceItems, if_neg hne] at hi
    exact h old hold i hi
  | _ => exact h old hold i hi

/-- Switching the items repays the debt. -/
theorem flagsAgree_setSourceItemsEnabled {k : ℤ} {db : Database} {enabled : Bool}
    (h : ∀ source, db.source k = some source → source.enabled = enabled) :
    FlagsAgree k (Statement.exec db (.setSourceItemsEnabled k enabled)) := by
  rw [flagsAgree_iff]
  intro source hrow i hi
  obtain ⟨old, hold, henabled⟩ := enabled_exec (fun _ => Statement.noConfusion) hrow
  rw [Statement.sourceItems_exec, Statement.onSourceItems, if_pos rfl] at hi
  obtain ⟨j, -, rfl⟩ := List.mem_map.mp hi
  rw [henabled, h old hold]
  rfl

/-! ### The items -/

theorem content_append (items items' : List HostListItem) :
    content (items ++ items') = content items ++ content items' := List.map_append

/-- A statement that spares a source may only switch its items. -/
theorem Statement.Spares.content_onSourceItems {k : ℤ} {st : Statement} (h : st.Spares k)
    (items : List HostListItem) : content (st.onSourceItems k items) = content items := by
  cases st with
  | clearSourceHosts id =>
    have hne : id ≠ k := by
      rintro rfl
      exact h.ne_clear rfl
    exact congrArg content (if_neg hne)
  | insertItems new =>
    have hnil : ofSource k new = [] := h.newItems
    show content (items ++ ofSource k new) = _
    rw [hnil, List.append_nil]
  | setSourceItemsEnabled id enabled =>
    rw [Statement.onSourceItems]
    split
    next => exact List.map_map
    next => rfl
  | _ => rfl

theorem Statement.Spares.pending_cons {k : ℤ} {st : Statement} (h : st.Spares k)
    (sts : List Statement) : pending k (.running (st :: sts)) = pending k (.running sts) := by
  have hmem : .clearSourceHosts k ∈ st :: sts ↔ .clearSourceHosts k ∈ sts := by
    rw [List.mem_cons, or_iff_right fun heq => h.ne_clear heq.symm]
  rw [pending, pending, inserts_cons, h.newItems, List.nil_append]
  exact if_congr hmem rfl rfl

theorem pending_of_not_mem {k : ℤ} {sts : List Statement} (h : .clearSourceHosts k ∉ sts) :
    pending k (.running sts) = inserts k sts := if_neg h

/-- A statement that does not spare a source clears it or inserts items into it. -/
theorem Statement.eq_of_not_spares {k : ℤ} {st : Statement} (h : ¬ st.Spares k) :
    st = .clearSourceHosts k ∨ ∃ items, st = .insertItems items ∧ ofSource k items ≠ [] := by
  by_cases hclear : st = .clearSourceHosts k
  · exact Or.inl hclear
  · have hitems : ofSource k st.newItems ≠ [] := fun hnil => h ⟨hclear, hnil⟩
    cases st with
    | insertItems items => exact Or.inr ⟨items, rfl, hitems⟩
    | _ => exact absurd rfl hitems

section Tasks

variable {ι : Type*}

/-- The source holds a part of one body: what one call has still to insert belongs to the same body,
and the other calls have nothing to insert. -/
def HoldsOne (k : ℤ) (Body : List HostListItem → Prop) (s : Tasks ι) : Prop :=
  ∃ body rest, Body body ∧
    (content (s.shared.sourceItems k ++ rest)).Subperm (content body) ∧
    ∀ j, pending k (s.locals j) = [] ∨
      (pending k (s.locals j) = rest ∧ ∀ j', j' ≠ j → pending k (s.locals j') = [])

theorem HoldsOne.congr {k : ℤ} {Body : List HostListItem → Prop} {s s' : Tasks ι}
    (h : HoldsOne k Body s)
    (hitems : content (s'.shared.sourceItems k) = content (s.shared.sourceItems k))
    (hpending : ∀ j, pending k (s'.locals j) = pending k (s.locals j)) : HoldsOne k Body s' := by
  obtain ⟨body, rest, hbody, hsub, hrest⟩ := h
  refine ⟨body, rest, hbody, ?_, ?_⟩
  · rw [content_append, hitems, ← content_append]
    exact hsub
  · simpa only [hpending] using hrest

variable [DecidableEq ι]

theorem pending_update {k : ℤ} {locals : ι → TaskState} {i : ι} {pc : TaskState}
    (h : pending k pc = pending k (locals i)) (j : ι) :
    pending k (Function.update locals i pc j) = pending k (locals j) := by
  rcases eq_or_ne j i with rfl | hne
  · rw [Function.update_self, h]
  · rw [Function.update_of_ne hne]

/-- Only the call that has taken the turn has items to insert. -/
theorem holdsOne_of_turn {k : ℤ} {Body : List HostListItem → Prop} {s : Tasks ι} {i : ι}
    {pc : TaskState} {db : Database} {body : List HostListItem} (hbody : Body body)
    (hsub : (content (db.sourceItems k ++ pending k pc)).Subperm (content body))
    (hothers : ∀ j, j ≠ i → pending k (s.locals j) = []) :
    HoldsOne k Body ⟨Function.update s.locals i pc, db⟩ := by
  have hupdate : ∀ j, j ≠ i → pending k (Function.update s.locals i pc j) = [] := by
    intro j hj
    rw [Function.update_of_ne hj]
    exact hothers j hj
  refine ⟨body, pending k pc, hbody, hsub, fun j => ?_⟩
  rcases eq_or_ne j i with rfl | hj
  · refine Or.inr ⟨?_, hupdate⟩
    show pending k (Function.update s.locals j pc j) = _
    rw [Function.update_self]
  · exact Or.inl (hupdate j hj)

/-- The call that has cleared the source inserts the next items of its body. -/
theorem HoldsOne.insert {k : ℤ} {Body : List HostListItem → Prop} {s : Tasks ι} {i : ι}
    (h : HoldsOne k Body s) {items : List HostListItem} {sts : List Statement}
    (hpc : s.locals i = .running (.insertItems items :: sts)) (hitems : ofSource k items ≠ [])
    (hclear : .clearSourceHosts k ∉ sts) :
    HoldsOne k Body ⟨Function.update s.locals i (.running sts),
      Statement.exec s.shared (.insertItems items)⟩ := by
  have hpending : pending k (s.locals i) = ofSource k items ++ inserts k sts := by
    rw [hpc, pending_of_not_mem (by simpa using hclear), inserts_cons]
    rfl
  obtain ⟨body, rest, hbody, hsub, hrest⟩ := h
  have hne : pending k (s.locals i) ≠ [] := by
    rw [hpending]
    exact fun hnil => hitems (List.append_eq_nil_iff.mp hnil).1
  obtain ⟨hown, hothers⟩ := (hrest i).resolve_left hne
  refine holdsOne_of_turn hbody ?_ hothers
  rw [Statement.sourceItems_exec, Statement.onSourceItems, pending_of_not_mem hclear,
    List.append_assoc, ← hpending, hown]
  exact hsub

/-- Clearing the source to copy one body, while no call has items to insert, or clearing it for
nothing. -/
theorem HoldsOne.clear {k : ℤ} {Body : List HostListItem → Prop} {s : Tasks ι} {i : ι}
    (h : HoldsOne k Body s) {sts : List Statement}
    (hpc : s.locals i = .running (.clearSourceHosts k :: sts))
    (hclear : .clearSourceHosts k ∉ sts)
    (hbody : inserts k sts = [] ∨ ∃ body, Body body ∧ (inserts k sts).Perm body)
    (hok : inserts k sts ≠ [] → ∀ j, pending k (s.locals j) = []) :
    HoldsOne k Body ⟨Function.update s.locals i (.running sts),
      Statement.exec s.shared (.clearSourceHosts k)⟩ := by
  have hcleared : (Statement.exec s.shared (.clearSourceHosts k)).sourceItems k = [] := by
    rw [Statement.sourceItems_exec]
    exact if_pos rfl
  have hafter : pending k (.running sts) = inserts k sts := pending_of_not_mem hclear
  have hbefore : pending k (s.locals i) = [] := by
    rw [hpc]
    exact if_pos List.mem_cons_self
  by_cases hnil : inserts k sts = []
  · obtain ⟨body, rest, hb, hsub, hrest⟩ := h
    refine ⟨body, rest, hb, ?_, ?_⟩
    · show (content ((Statement.exec s.shared (.clearSourceHosts k)).sourceItems k ++ _)).Subperm _
      rw [hcleared, List.nil_append]
      rw [content_append] at hsub
      exact (List.sublist_append_right _ _).subperm.trans hsub
    · simp only [pending_update (hafter.trans (hnil.trans hbefore.symm))]
      exact hrest
  · obtain ⟨body, hb, hperm⟩ := hbody.resolve_left hnil
    refine holdsOne_of_turn hb ?_ fun j _ => hok hnil j
    rw [hcleared, List.nil_append, hafter]
    exact (hperm.map _).subperm

/-! ### The invariant -/

/-- What every orderly interleaving keeps. -/
structure TasksInv (task : ι → Task g) (db₀ : Database) (k : ℤ) (s : Tasks ι) : Prop where
  within : ∀ j, (task j).Within (s.locals j)
  settled : Interleaving.Settled (FlagsAgree k) (fun _ => MidToggle k) s
  target : ∀ j enabled, s.locals j = .running [.setSourceItemsEnabled k enabled] →
    ∀ source, s.shared.source k = some source → source.enabled = enabled
  holds : HoldsOne k (HeldBody task db₀ k) s

omit [DecidableEq ι] in
theorem tasksInv_start (task : ι → Task g) {db₀ : Database} {k : ℤ} (h : FlagsAgree k db₀) :
    TasksInv task db₀ k (startTasks db₀) where
  within := fun _ => trivial
  settled := Or.inl h
  target := fun _ _ hpc => nomatch hpc
  holds := by
    refine ⟨db₀.sourceItems k, [], .initial, ?_, fun _ => Or.inl rfl⟩
    rw [List.append_nil]
    exact List.Subperm.refl _

omit [DecidableEq ι] in
theorem midToggle_cons {k : ℤ} {st : Statement} {sts : List Statement}
    (h : MidToggle k (.running (st :: sts))) :
    ∃ enabled, st = .setSourceItemsEnabled k enabled := by
  obtain ⟨enabled, heq⟩ := h
  cases heq
  exact ⟨enabled, rfl⟩

/-- A statement keeps the flags right or owed. -/
theorem TasksInv.settled_step {task : ι → Task g} {db₀ : Database} {k : ℤ} {s : Tasks ι} {i : ι}
    (hs : TasksInv task db₀ k s) {st : Statement} {sts : List Statement}
    (hpc : s.locals i = .running (st :: sts)) (hok : OrderlyFor k s i) :
    Interleaving.Settled (FlagsAgree k) (fun _ => MidToggle k)
      ⟨Function.update s.locals i (.running sts), st.exec s.shared⟩ := by
  have hwithin : (task i).Within (.running (st :: sts)) := hpc ▸ hs.within i
  by_cases hother : ∃ j, j ≠ i ∧ MidToggle k (s.locals j)
  · obtain ⟨j, hj, hmid⟩ := hother
    refine Or.inr ⟨j, ?_⟩
    show MidToggle k (Function.update s.locals i _ j)
    rwa [Function.update_of_ne hj]
  refine hs.settled.step fun hself => ?_
  rw [hpc] at hself
  by_cases hsource : ∃ enabled, st = .setSourceEnabled k enabled
  · obtain ⟨enabled, rfl⟩ := hsource
    rw [hwithin.setSourceEnabled]
    exact Or.inr ⟨enabled, rfl⟩
  by_cases hitems : ∃ enabled, st = .setSourceItemsEnabled k enabled
  · obtain ⟨enabled, rfl⟩ := hitems
    refine Or.inl (flagsAgree_setSourceItemsEnabled (hs.target i enabled ?_))
    rw [hpc, hwithin.setSourceItemsEnabled]
  -- the statement is not the one of a toggle, so nothing is owed by this call
  have hagree : FlagsAgree k s.shared :=
    hself.resolve_right fun hmid => hitems (midToggle_cons hmid)
  refine Or.inl (hagree.exec (fun e h => hsource ⟨e, h⟩) (fun e h => hitems ⟨e, h⟩) ?_)
  rintro items rfl
  refine ⟨hwithin.insertItems, fun hmem => ?_⟩
  rw [OrderlyFor, hpc] at hok
  refine (hok hmem).resolve_right ?_
  rintro ⟨j, hmid⟩
  rcases eq_or_ne j i with rfl | hj
  · rw [hpc] at hmid
    exact hitems (midToggle_cons hmid)
  · exact hother ⟨j, hj, hmid⟩

/-- A toggle that is between its statements has switched the source. -/
theorem TasksInv.target_step {task : ι → Task g} {db₀ : Database} {k : ℤ} {s : Tasks ι} {i : ι}
    (hs : TasksInv task db₀ k s) {st : Statement} {sts : List Statement}
    (hpc : s.locals i = .running (st :: sts)) (hok : OrderlyFor k s i) {j : ι} {enabled : Bool}
    (hj : Function.update s.locals i (.running sts) j = .running [.setSourceItemsEnabled k enabled])
    {source : HostsSource} (hsource : (st.exec s.shared).source k = some source) :
    source.enabled = enabled := by
  have hwithin : (task i).Within (.running (st :: sts)) := hpc ▸ hs.within i
  by_cases hswitch : ∃ e, st = .setSourceEnabled k e
  · obtain ⟨e, rfl⟩ := hswitch
    rw [OrderlyFor, hpc] at hok
    rcases eq_or_ne j i with rfl | hne
    · rw [Function.update_self, hwithin.setSourceEnabled] at hj
      cases hj
      rw [Statement.source_exec] at hsource
      obtain ⟨old, hold, rfl⟩ := Option.map_eq_some_iff.mp hsource
      exact congrArg HostsSource.enabled (if_pos (id_of_source hold))
    · rw [Function.update_of_ne hne] at hj
      exact absurd ⟨enabled, hj⟩ (hok rfl j)
  · obtain ⟨old, hold, henabled⟩ := enabled_exec (fun e h => hswitch ⟨e, h⟩) hsource
    rw [henabled]
    rcases eq_or_ne j i with rfl | hne
    · -- only switching the source leads a call between the statements of a toggle
      rw [Function.update_self] at hj
      cases hj
      exact absurd ⟨enabled, hwithin.before_setSourceItemsEnabled⟩ hswitch
    · rw [Function.update_of_ne hne] at hj
      exact hs.target j enabled hj old hold

/-- A statement keeps the source at one body. -/
theorem TasksInv.holds_step {task : ι → Task g} {db₀ : Database} {k : ℤ} {s : Tasks ι} {i : ι}
    (hs : TasksInv task db₀ k s) {st : Statement} {sts : List Statement}
    (hpc : s.locals i = .running (st :: sts)) (hok : OrderlyFor k s i) :
    HoldsOne k (HeldBody task db₀ k)
      ⟨Function.update s.locals i (.running sts), st.exec s.shared⟩ := by
  have hcopies : CopiesOnce k (OneBody task db₀ k) (st :: sts) := by
    have hwithin : (task i).Within (.running (st :: sts)) := hpc ▸ hs.within i
    obtain ⟨db, hsuffix⟩ := hwithin
    exact (copies_statements task db₀ k i db).copiesOnce.of_suffix hsuffix
  obtain ⟨hclear, hitems, -⟩ := hcopies
  by_cases hspares : st.Spares k
  · refine hs.holds.congr ?_ (pending_update ?_)
    · show content ((st.exec s.shared).sourceItems k) = _
      rw [Statement.sourceItems_exec, hspares.content_onSourceItems]
    · rw [hpc, hspares.pending_cons]
  · rcases Statement.eq_of_not_spares hspares with rfl | ⟨items, rfl, hnew⟩
    · rw [OrderlyFor, hpc] at hok
      exact hs.holds.clear hpc (hclear rfl).1 (hclear rfl).2 (hok rfl)
    · exact hs.holds.insert hpc hnew fun hmem => hnew (hitems hmem)

/-- **The step lemma.** -/
theorem TasksInv.step {task : ι → Task g} {db₀ : Database} {k : ℤ} {s s' : Tasks ι} {i : ι}
    (hs : TasksInv task db₀ k s) (hok : OrderlyFor k s i) (h : stepTasks task s i = some s') :
    TasksInv task db₀ k s' := by
  obtain ⟨pc, db, hturn, rfl⟩ := Interleaving.step_eq_some.mp h
  have hwithin := Interleaving.forall_update (P := fun j pc => (task j).Within pc) hs.within
    ((hs.within i).turn hturn)
  rcases taskTurn_eq_some hturn with ⟨hpc, rfl, rfl⟩ | ⟨st, sts, hpc, rfl, rfl⟩
  · have hpending : pending k (.running ((task i).statements s.shared)) = pending k (s.locals i) := by
      rw [hpc]
      exact (copies_statements task db₀ k i s.shared).pending
    refine ⟨hwithin, hs.settled.step fun hself => ?_, fun j enabled hj => ?_,
      hs.holds.congr rfl (pending_update hpending)⟩
    · rw [hpc] at hself
      exact Or.inl (hself.resolve_right fun ⟨_, heq⟩ => nomatch heq)
    · rcases eq_or_ne j i with rfl | hne
      · have heq := TaskState.running.inj ((Function.update_self j _ _).symm.trans hj)
        exact absurd heq Task.Within.statements_ne
      · exact hs.target j enabled ((Function.update_of_ne hne _ _).symm.trans hj)
  · exact ⟨hwithin, hs.settled_step hpc hok, fun j enabled hj source hsource =>
      hs.target_step hpc hok hj hsource, hs.holds_step hpc hok⟩

/-! ### When all calls have finished -/

/-- **Retrieving and toggling at once.** In every interleaving whose steps are orderly for a source,
once all calls have finished, the items of the source have its flag and belong to one body. If the
source is disabled, a completed `sync` leaves what the items of the other sources ask for. -/
theorem tasks_consistent (task : ι → Task g) {db₀ : Database} {k : ℤ} {as : List ι} {s : Tasks ι}
    (hagree : FlagsAgree k db₀)
    (hok : ActionSystem.StepsMeet (stepTasks task) (OrderlyFor k) (startTasks db₀) as)
    (hrun : ActionSystem.run (stepTasks task) (startTasks db₀) as = some s) (hfin : AllFinished s) :
    FlagsAgree k s.shared ∧
    (∃ body, HeldBody task db₀ k body ∧
      (content (s.shared.sourceItems k)).Subperm (content body)) ∧
    ∀ source, s.shared.source k = some source → source.enabled = false →
      ∀ (q : SyncAnswers s.shared.hostsLists.rows) (old new : HostEntries),
        sync s.shared.hostsLists.rows q old = some new →
          IsRebuilt (s.shared.hostsLists.rows.filter fun i => i.sourceId ≠ k) new := by
  have hs : TasksInv task db₀ k s :=
    ActionSystem.invariant_run_of_stepsMeet (fun _ _ _ hs hok hstep => hs.step hok hstep)
      (tasksInv_start task hagree) hok hrun
  have hflags : FlagsAgree k s.shared := by
    refine hs.settled.good fun j => ?_
    rw [hfin j]
    exact fun ⟨_, heq⟩ => nomatch heq
  refine ⟨hflags, ?_, ?_⟩
  · obtain ⟨body, rest, hbody, hsub, -⟩ := hs.holds
    rw [content_append] at hsub
    exact ⟨body, hbody, (List.sublist_append_left _ _).subperm.trans hsub⟩
  · intro source hsource hdisabled q old new hsync
    refine (isRebuilt_of_sync hsync).of_enabled fun i hen => ?_
    rw [List.mem_filter, iff_self_and]
    intro hi
    have hne : i.sourceId ≠ k := by
      intro hk
      have := hflags source hsource i hi hk
      rw [hen, hdisabled] at this
      cases this
    simpa using hne

end Tasks

/-! ### Four runs -/

/-- The address of the source leads to one blocked host. -/
def adsCall : RetrieveCall lenientGuava where
  now := fromTimestamp 100
  answer := getAll
  isAnswer := isAnswer_getAll
  site := fun _ => ⟨some ⟨["0.0.0.0 ads.example"], none, none, false⟩, none, none, false⟩
  loads := oneBatch

/-- One enabled source, with number 2. -/
def oneSource : Database :=
  insertSource (newSource "ads" "https://example.org/hosts" true false false) installedDatabase

/-- Its item has been loaded. -/
def oneSourceLoaded : Database :=
  execAll oneSource [.insertItems [⟨0, "ads.example", .blocked, true, none, 2⟩]]

/-- `toggleEnabled` of the source by a caller that takes it for enabled or not. -/
def adsToggle (enabled : Bool) : Task lenientGuava :=
  .toggle { newSource "ads" "https://example.org/hosts" enabled false false with id := 2 }

/-- The source is retrieved, and switched off. -/
def retrieveAndToggle (i : Bool) : Task lenientGuava :=
  if i then adsToggle true else .retrieve adsCall

/-- It is switched off after it has been retrieved. -/
theorem stepsMeet_retrieveAndToggle :
    ActionSystem.StepsMeet (stepTasks retrieveAndToggle) (OrderlyFor 2) (startTasks oneSource)
      [false, false, false, false, false, true, true, true] := by
  refine ⟨trivial, fun s hs => ?_⟩
  cases hs
  refine ⟨fun _ _ => Bool.rec rfl rfl, fun s hs => ?_⟩
  cases hs
  refine ⟨fun _ => Or.inl ?_, fun s hs => ?_⟩
  · rintro source ⟨⟩
    rfl
  cases hs
  refine ⟨trivial, fun s hs => ?_⟩
  cases hs
  refine ⟨trivial, fun s hs => ?_⟩
  cases hs
  refine ⟨trivial, fun s hs => ?_⟩
  cases hs
  refine ⟨fun _ => ?_, fun s hs => ?_⟩
  · rintro (_ | _) ⟨_, ⟨⟩⟩
  cases hs
  exact ⟨trivial, fun _ _ => trivial⟩

theorem tasks_consistent_after : ∃ s : Tasks Bool,
    ActionSystem.run (stepTasks retrieveAndToggle) (startTasks oneSource)
      [false, false, false, false, false, true, true, true] = some s ∧
    AllFinished s ∧ FlagsAgree 2 s.shared ∧
    ∃ body, HeldBody retrieveAndToggle oneSource 2 body ∧
      (content (s.shared.sourceItems 2)).Subperm (content body) := by
  obtain ⟨s, hs⟩ : ∃ s : Tasks Bool,
      ActionSystem.run (stepTasks retrieveAndToggle) (startTasks oneSource)
        [false, false, false, false, false, true, true, true] = some s := ⟨_, rfl⟩
  have hfin : AllFinished s := by
    cases hs
    exact Bool.rec rfl rfl
  have hagree : FlagsAgree 2 oneSource := fun _ _ _ hi => nomatch hi
  obtain ⟨hflags, hbody, -⟩ :=
    tasks_consistent retrieveAndToggle hagree stepsMeet_retrieveAndToggle hs hfin
  exact ⟨s, hs, hfin, hflags, hbody⟩

theorem length_le_of_heldBody {body : List HostListItem}
    (h : HeldBody (fun _ : Bool => Task.retrieve adsCall) oneSource 2 body) : body.length ≤ 1 := by
  cases h with
  | initial => exact Nat.zero_le 1
  | @loaded j call db s page htask hs hid hpage =>
    cases htask
    cases hpage
    exact List.length_filterMap_le (parseLine lenientGuava s) ["0.0.0.0 ads.example"]

/-- Three overlaps: the source is switched off before its item is inserted, two calls copy it at
once, or two toggles overlap. -/
theorem not_tasks_consistent :
    (FlagsAgree 2 oneSource ∧ ∃ s : Tasks Bool,
      ActionSystem.run (stepTasks retrieveAndToggle) (startTasks oneSource)
        [false, false, true, true, true, false, false, false] = some s ∧
      AllFinished s ∧ ¬ FlagsAgree 2 s.shared) ∧
    (∃ s : Tasks Bool,
      ActionSystem.run (stepTasks fun _ => Task.retrieve adsCall) (startTasks oneSource)
        [false, true, false, true, false, true, false, true, false, true] = some s ∧
      AllFinished s ∧
      ¬ ∃ body, HeldBody (fun _ : Bool => Task.retrieve adsCall) oneSource 2 body ∧
        (content (s.shared.sourceItems 2)).Subperm (content body)) ∧
    (FlagsAgree 2 oneSourceLoaded ∧ ∃ s : Tasks Bool,
      ActionSystem.run (stepTasks adsToggle) (startTasks oneSourceLoaded)
        [false, true, true, false, false, true] = some s ∧
      AllFinished s ∧ ¬ FlagsAgree 2 s.shared) := by
  refine ⟨⟨(fun _ _ _ hi => nomatch hi), _, rfl, Bool.rec rfl rfl, fun h => ?_⟩,
    ⟨_, rfl, Bool.rec rfl rfl, ?_⟩, fun source hsource i hi _ => ?_, _, rfl, Bool.rec rfl rfl,
    fun h => ?_⟩
  · cases h _ rfl _ List.mem_cons_self rfl
  · rintro ⟨body, hbody, hsub⟩
    have hlength := hsub.length_le
    rw [content, List.length_map, content, List.length_map] at hlength
    exact absurd (hlength.trans (length_le_of_heldBody hbody)) (by decide)
  · cases hsource
    obtain rfl := List.mem_singleton.mp hi
    rfl
  · cases h _ rfl _ List.mem_cons_self rfl

end AdAway
