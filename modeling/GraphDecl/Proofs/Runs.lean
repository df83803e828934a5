import GraphDecl.Logged

/-!
# Runs that only check and report

`x.giving a` is the run of `x`, its events and its failure, with `a` for its result. Lists of such
runs are such runs again (`mapM_giving`), so what a generator makes can be told apart from what it
checks and reports on its way.
-/

namespace GraphDecl
namespace Logged
variable {ε α β : Type}

/-- The run of `x` with the result `a`. -/
def giving (x : Logged ε Unit) (a : α) : Logged ε α := ⟨x.events, x.outcome.map fun _ => a⟩

@[simp] theorem events_giving (x : Logged ε Unit) (a : α) : (x.giving a).events = x.events := rfl

@[simp] theorem outcome_giving (x : Logged ε Unit) (a : α) :
    (x.giving a).outcome = x.outcome.map fun _ => a := rfl

theorem outcome_giving_eq_ok {x : Logged ε Unit} {a b : α} :
    (x.giving a).outcome = .ok b ↔ x.outcome = .ok () ∧ b = a := by
  rw [outcome_giving]
  cases x.outcome with
  | error e => simp [Except.map]
  | ok u => simp [Except.map, eq_comm]

theorem outcome_giving_eq_error {x : Logged ε Unit} {a : α} {e : ε} :
    (x.giving a).outcome = .error e ↔ x.outcome = .error e := by
  rw [outcome_giving]
  cases x.outcome with
  | error e => simp [Except.map]
  | ok u => simp [Except.map]

theorem map_giving (f : α → β) (x : Logged ε Unit) (a : α) : f <$> x.giving a = x.giving (f a) := by
  cases x with
  | mk events outcome => cases outcome <;> simp [giving, Functor.map, andThen, Except.map]

theorem giving_bind (x : Logged ε Unit) (a : α) (f : α → Logged ε β) :
    x.giving a >>= f = x >>= fun _ => f a := by
  cases x with
  | mk events outcome => cases outcome <;> rfl

theorem bind_giving (x y : Logged ε Unit) (b : β) :
    (x >>= fun _ => y.giving b) = (x >>= fun _ => y).giving b := by
  cases x with
  | mk events outcome => cases outcome <;> rfl

/-- A list of runs with known results is the run of their effects, with the list of the results. -/
theorem mapM_giving (x : α → Logged ε Unit) (v : α → β) (l : List α) :
    l.mapM (fun a => (x a).giving (v a)) = (l.forM x).giving (l.map v) := by
  induction l with
  | nil => rfl
  | cons a l ih =>
    rw [List.mapM_cons, ih, List.forM_eq_forM, List.forM_cons, giving_bind, List.map_cons]
    simp only [bind_pure_comp, map_giving, bind_giving]

theorem outcome_then_eq_ok {x : Logged ε Unit} {y : Logged ε α} {a : α} :
    (x >>= fun _ => y).outcome = .ok a ↔ x.outcome = .ok () ∧ y.outcome = .ok a := by
  cases h : x.outcome with
  | error e => simp [bind_error h]
  | ok u => simp [bind_ok h]

theorem outcome_then_eq_error {x : Logged ε Unit} {y : Logged ε α} {e : ε} :
    (x >>= fun _ => y).outcome = .error e ↔
      x.outcome = .error e ∨ x.outcome = .ok () ∧ y.outcome = .error e := by
  cases h : x.outcome with
  | error e => simp [bind_error h]
  | ok u => simp [bind_ok h]

theorem eq_mk_of_ok {x : Logged ε Unit} (h : x.outcome = .ok ()) : x = ⟨x.events, .ok ()⟩ := by
  cases x with
  | mk events outcome => rw [show outcome = .ok () from h]

/-- A list of steps succeeds if and only if every step does. -/
theorem outcome_forM_eq_ok {f : α → Logged ε Unit} {l : List α} :
    (l.forM f).outcome = .ok () ↔ ∀ a ∈ l, (f a).outcome = .ok () := by
  induction l with
  | nil => simp
  | cons a l ih =>
    rw [List.forM_eq_forM, List.forM_cons, List.forall_mem_cons, ← ih]
    exact outcome_then_eq_ok

/-- The events of a list that succeeds are those of its steps in order. -/
theorem events_forM_of_ok {f : α → Logged ε Unit} {l : List α} (h : (l.forM f).outcome = .ok ()) :
    (l.forM f).events = l.flatMap fun a => (f a).events := by
  induction l with
  | nil => rfl
  | cons a l ih =>
    obtain ⟨ha, hl⟩ := List.forall_mem_cons.1 (outcome_forM_eq_ok.1 h)
    rw [List.forM_eq_forM, List.forM_cons, bind_ok ha, List.flatMap_cons]
    exact congrArg _ (ih (outcome_forM_eq_ok.2 hl))

/-- A list of steps ends with the first that fails. Its events are those of the steps before and then
those of the step that fails. -/
theorem forM_of_error {f : α → Logged ε Unit} {before after : List α} {a : α} {e : ε}
    (hbefore : ∀ x ∈ before, (f x).outcome = .ok ()) (ha : (f a).outcome = .error e) :
    (before ++ a :: after).forM f =
      ⟨(before.flatMap fun x => (f x).events) ++ (f a).events, .error e⟩ := by
  induction before with
  | nil =>
    rw [List.nil_append, List.forM_eq_forM, List.forM_cons, bind_error ha]
    rfl
  | cons x before ih =>
    obtain ⟨hx, hbefore⟩ := List.forall_mem_cons.1 hbefore
    have hrest := ih hbefore
    rw [List.forM_eq_forM] at hrest
    rw [List.cons_append, List.forM_eq_forM, List.forM_cons, bind_ok hx, hrest, List.flatMap_cons,
      List.append_assoc]

theorem forM_congr {f g : α → Logged ε Unit} {l : List α} (h : ∀ a ∈ l, f a = g a) :
    l.forM f = l.forM g := by
  induction l with
  | nil => rfl
  | cons a l ih =>
    obtain ⟨ha, hl⟩ := List.forall_mem_cons.1 h
    rw [List.forM_eq_forM, List.forM_cons, List.forM_cons, ha]
    exact congrArg (g a >>= ·) (funext fun _ => ih hl)

/-- What comes of a run that would meet these faults one after the other: it ends at the first. -/
def first : List ε → Except ε Unit
  | [] => .ok ()
  | e :: _ => .error e

theorem first_eq_ok {faults : List ε} : first faults = .ok () ↔ faults = [] := by
  cases faults <;> simp [first]

theorem first_eq_error {faults : List ε} {e : ε} :
    first faults = .error e ↔ faults.head? = some e := by
  cases faults <;> simp [first]

/-- A list of steps meets the faults of its steps in order. -/
theorem outcome_forM_eq_first {f : α → Logged ε Unit} {faults : α → List ε} {l : List α}
    (h : ∀ a ∈ l, (f a).outcome = first (faults a)) :
    (l.forM f).outcome = first (l.flatMap faults) := by
  induction l with
  | nil => rfl
  | cons a l ih =>
    obtain ⟨ha, hl⟩ := List.forall_mem_cons.1 h
    rw [List.forM_eq_forM, List.forM_cons, List.flatMap_cons]
    cases hfaults : faults a with
    | nil =>
      rw [hfaults] at ha
      rw [bind_ok ha, List.nil_append]
      exact ih hl
    | cons e es =>
      rw [hfaults] at ha
      rw [bind_error ha]
      rfl

/-- The warnings among the events of a run. -/
def warnings (x : Logged ε α) : List Event := x.events.filter fun e => e.level = .warn

theorem warnings_then_of_ok {x : Logged ε Unit} (h : x.outcome = .ok ()) (y : Logged ε α) :
    (x >>= fun _ => y).warnings = x.warnings ++ y.warnings := by
  rw [bind_ok h, warnings, List.filter_append]
  rfl

theorem warnings_forM_of_ok {f : α → Logged ε Unit} {l : List α} (h : (l.forM f).outcome = .ok ()) :
    (l.forM f).warnings = l.flatMap fun a => (f a).warnings := by
  rw [warnings, events_forM_of_ok h, List.filter_flatMap]
  rfl

/-- Every event of the run satisfies `p`. -/
def Reports (p : Event → Prop) (x : Logged ε α) : Prop := ∀ e ∈ x.events, p e

theorem Reports.then {p : Event → Prop} {x : Logged ε Unit} {y : Logged ε α} (hx : x.Reports p)
    (hy : y.Reports p) : (x >>= fun _ => y).Reports p := by
  cases h : x.outcome with
  | error e => rw [bind_error h]; exact hx
  | ok u =>
    rw [bind_ok h]
    intro e he
    exact (List.mem_append.1 he).elim (hx e) (hy e)

theorem Reports.forM {p : Event → Prop} {f : α → Logged ε Unit} {l : List α}
    (h : ∀ a ∈ l, (f a).Reports p) : (l.forM f).Reports p := by
  induction l with
  | nil => intro e he; cases he
  | cons a l ih =>
    obtain ⟨ha, hl⟩ := List.forall_mem_cons.1 h
    rw [List.forM_eq_forM, List.forM_cons]
    exact ha.then (ih hl)

end Logged
end GraphDecl
