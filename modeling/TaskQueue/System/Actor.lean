import TaskQueue.System.Step
set_option autoImplicit false

namespace TaskQueue

open Redis

/-! Procedures in flight as control points. A point stands for the rest of its Go procedure and
has one next effect, whose replies lead to other points; a system state is then described by the
list of points its procedures stand at. -/

/-- A point's next effect: a store command, a clock reading or a handler call, each with the
point its reply leads to, or the end of the procedure. -/
inductive Move (A : Type) : Type 1
  | cmd {β : Type} (c : Cmd β) (next : Except Error β → A)
  | time (next : Nat → A)
  | call (t : Task) (next : Outcome → A)
  | stop

namespace Move

variable {A : Type}

def prog (p : A → Prog Unit) : Move A → Prog Unit
  | .cmd c next => .redis c fun r => p (next r)
  | .time next => .time fun n => p (next n)
  | .call t next => .handler t fun o => p (next o)
  | .stop => .ret ()

def cmdStep (s : Store) : Move A → Option (Store × A)
  | .cmd c next => some ((c.run s).2, next (c.run s).1)
  | _ => none

variable {p : A → Prog Unit} {m : Move A}

theorem prog_eq_redis {β : Type} {c : Cmd β} {k : Except Error β → Prog Unit}
    (h : m.prog p = .redis c k) : ∃ next, m = .cmd c next ∧ k = fun r => p (next r) := by
  cases m with
  | cmd c' next =>
    injection h with hβ hc hk
    subst hβ
    obtain rfl := eq_of_heq hc
    exact ⟨next, rfl, (eq_of_heq hk).symm⟩
  | time | call | stop => cases h

theorem prog_eq_time {k : Nat → Prog Unit} (h : m.prog p = .time k) :
    ∃ next, m = .time next ∧ k = fun n => p (next n) := by
  cases m with
  | time next => injection h with hk; exact ⟨next, rfl, hk.symm⟩
  | cmd | call | stop => cases h

theorem prog_eq_handler {t : Task} {k : Outcome → Prog Unit} (h : m.prog p = .handler t k) :
    ∃ next, m = .call t next ∧ k = fun o => p (next o) := by
  cases m with
  | call t' next => injection h with ht hk; subst ht; exact ⟨next, rfl, hk.symm⟩
  | cmd | time | stop => cases h

theorem prog_eq_ret (h : m.prog p = .ret ()) : m = .stop := by
  cases m with
  | stop => rfl
  | cmd | time | call => cases h

end Move

section Points

variable {α : Type} {as : List α}

/-- At most one position of the list holds an element with `P`. -/
def Unique (P : α → Prop) (as : List α) : Prop :=
  ∀ (j k : Nat) (a b : α), as[j]? = some a → as[k]? = some b → P a → P b → j = k

theorem getElem?_append_single {a' b : α} {j : Nat} (h : (as ++ [a'])[j]? = some b) :
    as[j]? = some b ∨ (j = as.length ∧ b = a') := by
  rw [List.getElem?_append] at h
  split at h
  · exact .inl h
  · rcases hj : j - as.length with _ | n
    · rw [hj] at h
      exact .inr ⟨by omega, (Option.some.inj h).symm⟩
    · simp [hj] at h

theorem getElem?_set_some {i j : Nat} {a' b : α} (h : (as.set i a')[j]? = some b) :
    (j = i ∧ b = a') ∨ (j ≠ i ∧ as[j]? = some b) := by
  rw [List.getElem?_set] at h
  by_cases hij : i = j
  · subst hij
    simp only [if_true] at h
    split at h <;> cases h
    exact .inl ⟨rfl, rfl⟩
  · simp only [hij, if_false] at h
    exact .inr ⟨Ne.symm hij, h⟩

theorem mem_set_cases {i : Nat} {a' b : α} (hb : b ∈ as.set i a') :
    b = a' ∨ ∃ j, j ≠ i ∧ as[j]? = some b := by
  obtain ⟨j, hj⟩ := List.mem_iff_getElem?.1 hb
  rcases getElem?_set_some hj with ⟨-, rfl⟩ | ⟨hji, hj'⟩
  · exact .inl rfl
  · exact .inr ⟨j, hji, hj'⟩

variable {P : α → Prop}

theorem Unique.eraseIdx (h : Unique P as) (i : Nat) : Unique P (as.eraseIdx i) := by
  intro j k a b hj hk ha hb
  rw [List.getElem?_eraseIdx] at hj hk
  split at hj <;> split at hk <;> have := h _ _ _ _ hj hk ha hb <;> omega

theorem Unique.set (h : Unique P as) {i : Nat} {a' : α}
    (hnew : P a' → ∀ k b, k ≠ i → as[k]? = some b → ¬P b) : Unique P (as.set i a') := by
  intro j k a b hj hk ha hb
  rcases getElem?_set_some hj with ⟨rfl, rfl⟩ | ⟨hji, hj'⟩ <;>
    rcases getElem?_set_some hk with ⟨rfl, rfl⟩ | ⟨hki, hk'⟩
  · rfl
  · exact absurd hb (hnew ha k b hki hk')
  · exact absurd ha (hnew hb j a hji hj')
  · exact h _ _ _ _ hj' hk' ha hb

theorem Unique.append (h : Unique P as) {a' : α} (hnew : P a' → ∀ b ∈ as, ¬P b) :
    Unique P (as ++ [a']) := by
  intro j k a b hj hk ha hb
  rcases getElem?_append_single hj with hj' | ⟨rfl, rfl⟩ <;>
    rcases getElem?_append_single hk with hk' | ⟨rfl, rfl⟩
  · exact h _ _ _ _ hj' hk' ha hb
  · exact absurd ha (hnew hb a (List.getElem?_mem hj'))
  · exact absurd hb (hnew ha b (List.getElem?_mem hk'))
  · rfl

theorem map_eraseIdx {β : Type 1} (f : α → β) :
    ∀ (l : List α) (i : Nat), (l.eraseIdx i).map f = (l.map f).eraseIdx i
  | [], _ => rfl
  | _ :: _, 0 => rfl
  | a :: l, i + 1 => congrArg (f a :: ·) (map_eraseIdx f l i)

/-- A procedure in flight at a point runs that point's next move. -/
theorem getElem?_map_prog {p : α → Prog Unit} {move : α → Move α}
    (hp : ∀ a, p a = (move a).prog p) {i : Nat} {q : Prog Unit} (h : (as.map p)[i]? = some q) :
    ∃ a, as[i]? = some a ∧ (move a).prog p = q := by
  rw [List.getElem?_map, Option.map_eq_some'] at h
  obtain ⟨a, hi, rfl⟩ := h
  exact ⟨a, hi, (hp a).symm⟩

end Points

end TaskQueue
