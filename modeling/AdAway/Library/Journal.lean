import Mathlib.Data.List.Basic

/-!
# Computations that write and may throw

A `Journal` is what one run of a method leaves behind: the entries it wrote, in order, and its
result or the exception that ended it. What was written before an exception stays written, and a
handler goes on from there. This is the difference to a transaction.

## Main definitions

* `Journal` — the entries and the result
* `Journal.tell`, `throw`, `tryCatch`, `closing` — writing, throwing, handling, releasing a resource
* `Journal.forEach` — a loop, with the results of its turns
* `Journal.tellEach` — writing entries that may be exceptions, one by one

## Main results

* `Journal.bind_of_ok`, `bind_of_error` — how the steps of a method compose
* `Journal.forEach_isOk_iff` — a loop ends when each of its turns does
* `Journal.log_forEach` — a loop that ends writes what its turns write
* `Journal.exists_log_forEach` — what a loop writes that gets to a given turn
* `Journal.tellEach_cases` — what is written before the first exception
-/

/-- The entries written, and the result. -/
@[ext]
structure Journal (ω ε α : Type) where
  log : List ω
  result : Except ε α

namespace Journal

variable {ω ε α β : Type}

instance : Monad (Journal ω ε) where
  pure a := ⟨[], .ok a⟩
  bind x f :=
    match x.result with
    | .ok a => ⟨x.log ++ (f a).log, (f a).result⟩
    | .error e => ⟨x.log, .error e⟩

/-- Writes the entries. -/
def tell (entries : List ω) : Journal ω ε Unit := ⟨entries, .ok ()⟩

/-- Throws. -/
def throw (e : ε) : Journal ω ε α := ⟨[], .error e⟩

/-- A computation that writes nothing. -/
def lift (x : Except ε α) : Journal ω ε α := ⟨[], x⟩

/-- Handles an exception. What was written stays written. -/
def tryCatch (x : Journal ω ε α) (handler : ε → Journal ω ε α) : Journal ω ε α :=
  match x.result with
  | .ok _ => x
  | .error e => ⟨x.log ++ (handler e).log, (handler e).result⟩

/-- Releases a resource at the end, which may throw. An exception thrown before is the one that
leaves. -/
def closing (close : Except ε Unit) (x : Journal ω ε α) : Journal ω ε α :=
  x >>= fun a => lift close >>= fun _ => pure a

/-- Writes the entries one by one, up to the first that is an exception. -/
def tellEach : List (Except ε ω) → Journal ω ε Unit
  | [] => pure ()
  | x :: xs => lift x >>= fun entry => tell [entry] >>= fun _ => tellEach xs

/-- A loop, with the results of its turns. -/
def forEach (f : α → Journal ω ε β) : List α → Journal ω ε (List β)
  | [] => pure []
  | a :: as => f a >>= fun b => forEach f as >>= fun bs => pure (b :: bs)

/-! ### Steps -/

theorem bind_of_ok {x : Journal ω ε α} {a : α} (h : x.result = .ok a) (f : α → Journal ω ε β) :
    x >>= f = ⟨x.log ++ (f a).log, (f a).result⟩ := by
  show (match x.result with | .ok a => _ | .error e => _) = _
  rw [h]

theorem bind_of_error {x : Journal ω ε α} {e : ε} (h : x.result = .error e)
    (f : α → Journal ω ε β) : x >>= f = ⟨x.log, .error e⟩ := by
  show (match x.result with | .ok a => _ | .error e => _) = _
  rw [h]

@[simp] theorem pure_bind (a : α) (f : α → Journal ω ε β) : (pure a : Journal ω ε α) >>= f = f a :=
  bind_of_ok rfl f

@[simp] theorem throw_bind (e : ε) (f : α → Journal ω ε β) :
    (throw e : Journal ω ε α) >>= f = throw e := bind_of_error rfl f

@[simp] theorem tell_bind (entries : List ω) (f : Unit → Journal ω ε β) :
    (tell entries : Journal ω ε Unit) >>= f = ⟨entries ++ (f ()).log, (f ()).result⟩ :=
  bind_of_ok rfl f

@[simp] theorem lift_ok (a : α) : (lift (.ok a) : Journal ω ε α) = pure a := rfl

@[simp] theorem lift_error (e : ε) : (lift (.error e) : Journal ω ε α) = throw e := rfl

@[simp] theorem log_pure (a : α) : (pure a : Journal ω ε α).log = [] := rfl

@[simp] theorem result_pure (a : α) : (pure a : Journal ω ε α).result = .ok a := rfl

@[simp] theorem log_throw (e : ε) : (throw e : Journal ω ε α).log = [] := rfl

@[simp] theorem result_throw (e : ε) : (throw e : Journal ω ε α).result = .error e := rfl

protected theorem bind_assoc {γ : Type} (x : Journal ω ε α) (f : α → Journal ω ε β)
    (g : β → Journal ω ε γ) : x >>= f >>= g = x >>= fun a => f a >>= g := by
  rcases h : x.result with e | a
  · rw [bind_of_error h, bind_of_error h, bind_of_error rfl]
  · rw [bind_of_ok h, bind_of_ok h]
    rcases hf : (f a).result with e | b
    · rw [bind_of_error rfl, bind_of_error hf]
    · rw [bind_of_ok rfl, bind_of_ok hf, List.append_assoc]

/-- What holds of all that both parts write holds of all that is written. -/
theorem forall_log_bind {P : ω → Prop} {x : Journal ω ε α} {f : α → Journal ω ε β}
    (hx : ∀ entry ∈ x.log, P entry)
    (hf : ∀ a, x.result = .ok a → ∀ entry ∈ (f a).log, P entry) :
    ∀ entry ∈ (x >>= f).log, P entry := by
  intro entry hentry
  rcases h : x.result with e | a
  · rw [bind_of_error h] at hentry
    exact hx entry hentry
  · rw [bind_of_ok h] at hentry
    rcases List.mem_append.mp hentry with hentry | hentry
    · exact hx entry hentry
    · exact hf a h entry hentry

theorem forall_log_lift_bind {P : ω → Prop} {x : Except ε α} {f : α → Journal ω ε β}
    (hf : ∀ a, x = .ok a → ∀ entry ∈ (f a).log, P entry) :
    ∀ entry ∈ ((lift x : Journal ω ε α) >>= f).log, P entry :=
  forall_log_bind (fun _ hentry => absurd hentry List.not_mem_nil) hf

theorem tryCatch_of_ok {x : Journal ω ε α} {a : α} (h : x.result = .ok a)
    (handler : ε → Journal ω ε α) : x.tryCatch handler = x := by
  rw [tryCatch, h]

theorem tryCatch_of_error {x : Journal ω ε α} {e : ε} (h : x.result = .error e)
    (handler : ε → Journal ω ε α) :
    x.tryCatch handler = ⟨x.log ++ (handler e).log, (handler e).result⟩ := by
  rw [tryCatch, h]

theorem closing_of_ok {x : Journal ω ε α} {a : α} (h : x.result = .ok a) :
    closing (.ok ()) x = x := by
  rw [closing, bind_of_ok h, lift_ok, pure_bind]
  ext1
  · exact List.append_nil _
  · exact h.symm

theorem closing_of_close_error {x : Journal ω ε α} {a : α} (h : x.result = .ok a) (e : ε) :
    closing (.error e) x = ⟨x.log, .error e⟩ := by
  rw [closing, bind_of_ok h, lift_error, throw_bind]
  exact Journal.ext (List.append_nil _) rfl

/-! ### Loops -/

/-- The computation ends without an exception. -/
def IsOk (x : Journal ω ε α) : Prop := ∃ a, x.result = .ok a

theorem isOk_or_error (x : Journal ω ε α) : x.IsOk ∨ ∃ e, x.result = .error e := by
  rcases h : x.result with e | a
  · exact Or.inr ⟨e, rfl⟩
  · exact Or.inl ⟨a, h⟩

theorem not_isOk_of_error {x : Journal ω ε α} {e : ε} (h : x.result = .error e) : ¬ x.IsOk := by
  rintro ⟨a, ha⟩
  rw [h] at ha
  cases ha

theorem forEach_cons_of_ok {f : α → Journal ω ε β} {a : α} {b : β} (h : (f a).result = .ok b)
    {as : List α} {bs : List β} (hs : (forEach f as).result = .ok bs) :
    forEach f (a :: as) = ⟨(f a).log ++ (forEach f as).log, .ok (b :: bs)⟩ := by
  rw [forEach, bind_of_ok h, bind_of_ok hs]
  exact Journal.ext (congrArg ((f a).log ++ ·) (List.append_nil _)) rfl

theorem forEach_cons_of_error {f : α → Journal ω ε β} {a : α} {e : ε} (h : (f a).result = .error e)
    (as : List α) : forEach f (a :: as) = ⟨(f a).log, .error e⟩ := by
  rw [forEach, bind_of_error h]

theorem forEach_cons_of_rest_error {f : α → Journal ω ε β} {a : α} {b : β}
    (h : (f a).result = .ok b) {as : List α} {e : ε} (hs : (forEach f as).result = .error e) :
    forEach f (a :: as) = ⟨(f a).log ++ (forEach f as).log, .error e⟩ := by
  rw [forEach, bind_of_ok h, bind_of_error hs]

/-- **A loop ends** exactly when each of its turns does. -/
theorem forEach_isOk_iff {f : α → Journal ω ε β} {as : List α} :
    (forEach f as).IsOk ↔ ∀ a ∈ as, (f a).IsOk := by
  induction as with
  | nil => exact iff_of_true ⟨[], rfl⟩ fun a ha => absurd ha List.not_mem_nil
  | cons a as ih =>
    rw [List.forall_mem_cons]
    rcases isOk_or_error (f a) with ⟨b, hb⟩ | ⟨e, he⟩
    · rcases isOk_or_error (forEach f as) with ⟨bs, hbs⟩ | ⟨e, he⟩
      · refine iff_of_true ⟨b :: bs, ?_⟩ ⟨⟨b, hb⟩, ih.mp ⟨bs, hbs⟩⟩
        rw [forEach_cons_of_ok hb hbs]
      · refine iff_of_false (not_isOk_of_error (e := e) ?_) fun h => ?_
        · rw [forEach_cons_of_rest_error hb he]
        · exact not_isOk_of_error he (ih.mpr h.2)
    · refine iff_of_false (not_isOk_of_error (e := e) ?_) fun h => not_isOk_of_error he h.1
      rw [forEach_cons_of_error he]

/-- **A loop that ends** writes what its turns write, and has their results. -/
theorem log_forEach {f : α → Journal ω ε β} {as : List α} {bs : List β}
    (h : (forEach f as).result = .ok bs) :
    (forEach f as).log = as.flatMap (fun a => (f a).log) ∧
      as.map (fun a => (f a).result) = bs.map .ok := by
  induction as generalizing bs with
  | nil =>
    cases h
    exact ⟨rfl, rfl⟩
  | cons a as ih =>
    have hall : ∀ a' ∈ a :: as, (f a').IsOk := forEach_isOk_iff.mp ⟨bs, h⟩
    rw [List.forall_mem_cons] at hall
    obtain ⟨⟨b, hb⟩, hrest⟩ := hall
    obtain ⟨cs, hcs⟩ := forEach_isOk_iff.mpr hrest
    obtain ⟨hlog, hresults⟩ := ih hcs
    rw [forEach_cons_of_ok hb hcs] at h ⊢
    cases h
    rw [List.flatMap_cons, List.map_cons, List.map_cons, hlog, hresults, hb]
    exact ⟨rfl, rfl⟩

/-- Each turn of a loop with these results has one of them. -/
theorem exists_result_of_map_eq {f : α → Journal ω ε β} {as : List α} {bs : List β}
    (h : as.map (fun a => (f a).result) = bs.map .ok) {a : α} (ha : a ∈ as) :
    ∃ b ∈ bs, (f a).result = .ok b := by
  have hmem := List.mem_map_of_mem (f := fun a => (f a).result) ha
  rw [h] at hmem
  obtain ⟨b, hb, heq⟩ := List.mem_map.mp hmem
  exact ⟨b, hb, heq.symm⟩

/-- A loop that ends has got through its first turns. -/
theorem isOk_forEach_of_append {f : α → Journal ω ε β} {as bs : List α}
    (h : (forEach f (as ++ bs)).IsOk) : (forEach f as).IsOk :=
  forEach_isOk_iff.mpr fun a ha => forEach_isOk_iff.mp h a (List.mem_append_left bs ha)

/-- An exception that ends a loop is one of its turns'. -/
theorem exists_error_of_forEach {f : α → Journal ω ε β} {as : List α} {e : ε}
    (h : (forEach f as).result = .error e) : ∃ a ∈ as, (f a).result = .error e := by
  induction as with
  | nil => cases h
  | cons a as ih =>
    rcases isOk_or_error (f a) with ⟨b, hb⟩ | ⟨e', he'⟩
    · rcases isOk_or_error (forEach f as) with ⟨bs, hbs⟩ | ⟨e', he'⟩
      · rw [forEach_cons_of_ok hb hbs] at h
        cases h
      · rw [forEach_cons_of_rest_error hb he'] at h
        cases h
        obtain ⟨c, hc, hce⟩ := ih he'
        exact ⟨c, List.mem_cons_of_mem a hc, hce⟩
    · rw [forEach_cons_of_error he'] at h
      cases h
      exact ⟨a, List.mem_cons_self, he'⟩

/-- A loop writes what its turns write, however it ends. -/
theorem mem_log_forEach {f : α → Journal ω ε β} {as : List α} {entry : ω}
    (h : entry ∈ (forEach f as).log) : ∃ a ∈ as, entry ∈ (f a).log := by
  induction as with
  | nil => exact absurd h List.not_mem_nil
  | cons a as ih =>
    have hcons : entry ∈ (f a).log ∨ entry ∈ (forEach f as).log := by
      rcases isOk_or_error (f a) with ⟨b, hb⟩ | ⟨e, he⟩
      · rcases isOk_or_error (forEach f as) with ⟨bs, hbs⟩ | ⟨e, he⟩
        · rw [forEach_cons_of_ok hb hbs] at h
          exact List.mem_append.mp h
        · rw [forEach_cons_of_rest_error hb he] at h
          exact List.mem_append.mp h
      · rw [forEach_cons_of_error he] at h
        exact Or.inl h
    rcases hcons with h | h
    · exact ⟨a, List.mem_cons_self, h⟩
    · obtain ⟨b, hb, hlog⟩ := ih h
      exact ⟨b, List.mem_cons_of_mem a hb, hlog⟩

/-- What a loop that gets to `a` writes: before, at and after the turn of `a`. -/
theorem exists_log_forEach {f : α → Journal ω ε β} {before : List α} (h : (forEach f before).IsOk)
    (a : α) (after : List α) :
    ∃ rest, (forEach f (before ++ a :: after)).log
        = (forEach f before).log ++ ((f a).log ++ rest) ∧
      ∀ entry ∈ rest, ∃ b ∈ after, entry ∈ (f b).log := by
  induction before with
  | nil =>
    have hnil : (forEach f []).log = [] := rfl
    rw [hnil]
    show ∃ rest, (forEach f (a :: after)).log = (f a).log ++ rest ∧ _
    rcases isOk_or_error (f a) with ⟨b, hb⟩ | ⟨e, he⟩
    · refine ⟨(forEach f after).log, ?_, fun entry => mem_log_forEach⟩
      rcases isOk_or_error (forEach f after) with ⟨bs, hbs⟩ | ⟨e, he⟩
      · rw [forEach_cons_of_ok hb hbs]
      · rw [forEach_cons_of_rest_error hb he]
    · refine ⟨[], ?_, fun entry h => absurd h List.not_mem_nil⟩
      rw [forEach_cons_of_error he, List.append_nil]
  | cons c before ih =>
    obtain ⟨hc, hbefore⟩ := List.forall_mem_cons.mp (forEach_isOk_iff.mp h)
    obtain ⟨rest, hlog, hrest⟩ := ih (forEach_isOk_iff.mpr hbefore)
    obtain ⟨d, hd⟩ := hc
    obtain ⟨ds, hds⟩ := forEach_isOk_iff.mpr hbefore
    refine ⟨rest, ?_, hrest⟩
    rw [forEach_cons_of_ok hd hds]
    show (forEach f (c :: (before ++ a :: after))).log = _
    rw [List.append_assoc, ← hlog]
    rcases isOk_or_error (forEach f (before ++ a :: after)) with ⟨bs, hbs⟩ | ⟨e, he⟩
    · rw [forEach_cons_of_ok hd hbs]
    · rw [forEach_cons_of_rest_error hd he]

/-! ### Writing one by one -/

theorem tellEach_append (xs ys : List (Except ε ω)) :
    tellEach (xs ++ ys) = tellEach xs >>= fun _ => tellEach ys := by
  induction xs with
  | nil => exact (pure_bind () fun _ => tellEach ys).symm
  | cons x xs ih =>
    show lift x >>= (fun entry => tell [entry] >>= fun _ => tellEach (xs ++ ys)) = _
    rw [tellEach, Journal.bind_assoc, ih]
    simp only [Journal.bind_assoc]

/-- **How writing one by one ends**: all entries are written, or those before the first exception.
-/
theorem tellEach_cases (xs : List (Except ε ω)) :
    (∃ entries, xs = entries.map .ok ∧ tellEach xs = ⟨entries, .ok ()⟩) ∨
      ∃ before e after, xs = before.map .ok ++ .error e :: after ∧ tellEach xs = ⟨before, .error e⟩ := by
  induction xs with
  | nil => exact Or.inl ⟨[], rfl, rfl⟩
  | cons x xs ih =>
    rcases x with e | entry
    · exact Or.inr ⟨[], e, xs, rfl, rfl⟩
    · have hstep : tellEach (.ok entry :: xs)
          = ⟨entry :: (tellEach xs).log, (tellEach xs).result⟩ := rfl
      rcases ih with ⟨entries, rfl, heq⟩ | ⟨before, e, after, rfl, heq⟩
      · exact Or.inl ⟨entry :: entries, rfl, by rw [hstep, heq]⟩
      · exact Or.inr ⟨entry :: before, e, after, rfl, by rw [hstep, heq]⟩

/-- A loop whose turns write one entry each. -/
theorem forEach_bind_eq_tellEach {f : α → Journal ω ε Unit} {g : α → Except ε ω}
    (hf : ∀ a, f a = lift (g a) >>= fun entry => tell [entry]) (as : List α) (k : Journal ω ε β) :
    (forEach f as >>= fun _ => k) = tellEach (as.map g) >>= fun _ => k := by
  induction as with
  | nil => rfl
  | cons a as ih =>
    rw [List.map_cons, tellEach, forEach, hf]
    simp only [Journal.bind_assoc, pure_bind]
    rw [ih]

end Journal
