/-!
# Steps that may fail, and runs of characters

How a chain of steps in `Except` succeeds, and how a list is cut behind the run of members at its
start that pass a test.
-/

namespace Inlay

section

variable {ε α β : Type}

/-- A chain of two steps ends well exactly if the first does, and the second from its result. -/
theorem Except.bind_eq_ok {step : Except ε α} {next : α → Except ε β} {result : β} :
    step >>= next = .ok result ↔ ∃ value, step = .ok value ∧ next value = .ok result := by
  cases step with
  | error reason => simp [bind, Except.bind]
  | ok value => simp [bind, Except.bind]

/-- From a first step that ended well, a chain goes on with the second. -/
theorem Except.ok_bind (value : α) (next : α → Except ε β) :
    (.ok value >>= next : Except ε β) = next value := rfl

/-- Members that are changed alike are put together as before, and then changed. -/
theorem Except.mapM_map (change : α → β) (members : List (Except ε α)) :
    (members.map (Except.map change)).mapM id = (members.mapM id).map (List.map change) := by
  induction members with
  | nil => rfl
  | cons member rest ih =>
    rw [List.map_cons, List.mapM_cons, List.mapM_cons, ih]
    cases member with
    | error reason => rfl
    | ok value => cases rest.mapM id <;> rfl

/-- Members are put together to these values if each of them is one, in the same order. -/
theorem Except.mapM_id_eq_ok {members : List (Except ε α)} {values : List α} :
    members.mapM id = .ok values ↔ members = values.map .ok := by
  induction members generalizing values with
  | nil =>
    rw [List.mapM_nil]
    cases values <;> simp [pure, Except.pure]
  | cons member rest ih =>
    rw [List.mapM_cons, Except.bind_eq_ok]
    constructor
    · rintro ⟨first, hfirst, hbehind⟩
      obtain ⟨others, hothers, hvalues⟩ := Except.bind_eq_ok.1 hbehind
      cases hvalues
      rw [List.map_cons, ← ih.1 hothers]
      exact congrArg (· :: rest) hfirst
    · intro h
      obtain ⟨first, others, rfl, rfl, rfl⟩ := List.map_eq_cons_iff.1 h.symm
      refine ⟨first, rfl, ?_⟩
      rw [ih.2 rfl]
      rfl

/-- Members that are put together are there one by one. -/
theorem Except.mem_of_mapM {members : List (Except ε α)} {values : List α}
    (h : members.mapM id = .ok values) : ∀ value ∈ values, .ok value ∈ members := by
  intro value hvalue
  rw [Except.mapM_id_eq_ok.1 h]
  exact List.mem_map_of_mem hvalue

/-- What a step makes of the members of a list, one after the other, is what it makes of each. -/
theorem Except.mem_mapM_iff {step : α → Except ε β} {members : List α} {values : List β}
    (h : members.mapM step = .ok values) (value : β) :
    value ∈ values ↔ ∃ member ∈ members, step member = .ok value := by
  induction members generalizing values with
  | nil =>
    cases h
    simp
  | cons member rest ih =>
    rw [List.mapM_cons] at h
    obtain ⟨first, hfirst, hbehind⟩ := Except.bind_eq_ok.1 h
    obtain ⟨others, hothers, hvalues⟩ := Except.bind_eq_ok.1 hbehind
    cases hvalues
    simp only [List.mem_cons, ih hothers, exists_eq_or_imp, hfirst, Except.ok.injEq]
    rw [eq_comm]

/-- A step can be taken for all members of a list if it can be taken for each. -/
theorem Except.exists_mapM_iff {step : α → Except ε β} {members : List α} :
    (∃ values, members.mapM step = .ok values) ↔
      ∀ member ∈ members, ∃ value, step member = .ok value := by
  induction members with
  | nil => simp [pure, Except.pure]
  | cons member rest ih =>
    rw [List.forall_mem_cons, ← ih, List.mapM_cons]
    cases step member with
    | error reason => simp [bind, Except.bind]
    | ok first =>
      rw [Except.ok_bind]
      cases rest.mapM step <;> simp [bind, Except.bind, pure, Except.pure]

/-- A step that ends well for each member of a list changes them one by one. -/
theorem Except.mapM_eq_ok_map {step : α → Except ε β} {change : α → β} {members : List α}
    (h : ∀ member ∈ members, step member = .ok (change member)) :
    members.mapM step = .ok (members.map change) := by
  induction members with
  | nil => rfl
  | cons member rest ih =>
    rw [List.forall_mem_cons] at h
    rw [List.mapM_cons, h.1, ih h.2]
    rfl

/-- Where a step cannot be taken for all members of a list, the reason is that of one of them. -/
theorem Except.exists_of_mapM_eq_error {step : α → Except ε β} {members : List α} {reason : ε}
    (h : members.mapM step = .error reason) : ∃ member ∈ members, step member = .error reason := by
  induction members with
  | nil => cases h
  | cons member rest ih =>
    rw [List.mapM_cons] at h
    cases hfirst : step member with
    | error first =>
      rw [hfirst] at h
      cases h
      exact ⟨member, List.mem_cons_self, hfirst⟩
    | ok value =>
      rw [hfirst, Except.ok_bind] at h
      cases hrest : rest.mapM step with
      | error last =>
        rw [hrest] at h
        cases h
        obtain ⟨other, hother, hreason⟩ := ih hrest
        exact ⟨other, List.mem_cons_of_mem _ hother, hreason⟩
      | ok others =>
        rw [hrest] at h
        cases h

/-- Members that cannot be put together hold the reason for that. -/
theorem Except.error_mem_of_mapM {members : List (Except ε α)} {reason : ε}
    (h : members.mapM id = .error reason) : .error reason ∈ members := by
  obtain ⟨member, hmember, hreason⟩ := Except.exists_of_mapM_eq_error h
  exact hreason ▸ hmember

end

section

variable {α : Type} {p : α → Bool} {run rest : List α}

/-- A run ends where the first member that fails the test stands. -/
theorem dropWhile_run (hrun : ∀ a ∈ run, p a = true) (hrest : ∀ a ∈ rest.head?, p a = false) :
    (run ++ rest).dropWhile p = rest := by
  rw [List.dropWhile_append_of_pos hrun]
  cases rest with
  | nil => rfl
  | cons a rest => exact List.dropWhile_cons_of_neg (by simpa using hrest a rfl)

/-- A run is all that is taken where the first member behind it fails the test. -/
theorem takeWhile_run (hrun : ∀ a ∈ run, p a = true) (hrest : ∀ a ∈ rest.head?, p a = false) :
    (run ++ rest).takeWhile p = run := by
  rw [List.takeWhile_append_of_pos hrun]
  cases rest with
  | nil => exact List.append_nil run
  | cons a rest =>
    rw [List.takeWhile_cons_of_neg (by simpa using hrest a rfl), List.append_nil]

/-- What is left behind a run begins with a member that fails the test. -/
theorem head_dropWhile (l : List α) : ∀ a ∈ (l.dropWhile p).head?, p a = false := by
  intro a ha
  have h := List.head?_dropWhile_not p l
  rw [Option.mem_def.1 ha] at h
  exact h

/-- With a member in front of what is left, whatever stands before it, there is a first member. -/
theorem exists_cons_of_append (l : List α) (a : α) (r : List α) : ∃ b t, l ++ a :: r = b :: t := by
  cases l with
  | nil => exact ⟨a, r, rfl⟩
  | cons b t => exact ⟨b, t ++ a :: r, rfl⟩

end

end Inlay
