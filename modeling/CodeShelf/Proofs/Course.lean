import CodeShelf.Proofs.Run

/-!
# The course of one task

The events of one task, picked out of the history of its component, make a chain: the
start, then one answer after another, each to the request that the event before it sent.
What other tasks do in between can only change the states in which these events find the
component.
-/

namespace CodeShelf

variable {σ ι κ ρ χ : Type}

namespace Run

def story (task : Nat) (r : Run σ ι κ ρ χ) : List (Event σ ι κ ρ χ) :=
  r.history.filter fun e => e.task? = some task

def requests (task : Nat) (r : Run σ ι κ ρ χ) : List Request :=
  (r.story task).filterMap Event.request?

theorem results_eq (task : Nat) (r : Run σ ι κ ρ χ) :
    r.results task = (r.story task).filterMap Event.result? := by
  rw [results, story, List.filterMap_filter]
  refine List.filterMap_congr fun e _ => ?_
  by_cases h : e.task? = some task <;> simp [h]

theorem story_extend_of_eq {task : Nat} {e : Event σ ι κ ρ χ} (h : e.task? = some task)
    (r : Run σ ι κ ρ χ) : (r.extend e).story task = r.story task ++ [e] := by
  simp [story, extend, h]

theorem story_extend_of_ne {task : Nat} {e : Event σ ι κ ρ χ} (h : e.task? ≠ some task)
    (r : Run σ ι κ ρ χ) : (r.extend e).story task = r.story task := by
  simp [story, extend, h]

theorem mem_history_of_mem_story {task : Nat} {e : Event σ ι κ ρ χ} {r : Run σ ι κ ρ χ}
    (h : e ∈ r.story task) : e ∈ r.history :=
  (List.mem_filter.mp h).1

theorem results_eq_nil_of_history {task : Nat} {r r' : Run σ ι κ ρ χ}
    (h : r.history <+: r'.history) (hnil : r'.results task = []) : r.results task = [] := by
  obtain ⟨later, hlater⟩ := h
  rw [results, ← hlater, List.filterMap_append, List.append_eq_nil_iff] at hnil
  exact hnil.1

end Run

namespace Actor

/-- The chains of events that a task can go through, and how it goes on after them. -/
inductive Course (a : Actor σ ι κ ρ χ) (task : Nat) (op : ι) :
    List (Event σ ι κ ρ χ) → Next κ ρ → Prop
  | start (s : σ) :
      Course a task op [.ofTurn (.start task op) s (a.start op s)] (a.start op s).next
  | reply {events : List (Event σ ι κ ρ χ)} {request : Request} {awaiting : κ}
      (before : Course a task op events (.ask request awaiting)) (reply : Reply) (s : σ) :
      Course a task op
        (events ++ [.ofTurn (.reply ⟨task, op, request, awaiting⟩ reply) s
          (a.resume awaiting reply s)])
        (a.resume awaiting reply s).next

variable {a : Actor σ ι κ ρ χ}

theorem Course.op_eq {task : Nat} {op : ι} {events : List (Event σ ι κ ρ χ)}
    {next : Next κ ρ} (h : a.Course task op events next) {e : Event σ ι κ ρ χ}
    (he : e ∈ events) {task' : Nat} {op' : ι} (hcause : e.cause = .start task' op') :
    op' = op := by
  induction h with
  | start s =>
      rw [List.mem_singleton.mp he] at hcause
      cases hcause
      rfl
  | reply before reply s ih =>
      rcases List.mem_append.mp he with hold | hlast
      · exact ih hold
      · rw [List.mem_singleton.mp hlast] at hcause
        cases hcause

theorem Course.results {task : Nat} {op : ι} {events : List (Event σ ι κ ρ χ)}
    {next : Next κ ρ} (h : a.Course task op events next) :
    events.filterMap Event.result? = next.result?.toList := by
  have hlast : ∀ (cause : Cause ι κ χ) (s : σ) (t : Turn σ κ ρ),
      [Event.ofTurn cause s t].filterMap Event.result? = t.next.result?.toList := by
    intro cause s t
    cases hnext : t.next <;> simp [Event.ofTurn, Event.result?, hnext, Next.result?]
  induction h with
  | start s => exact hlast _ s _
  | reply before reply s ih =>
      rw [List.filterMap_append, ih, hlast]
      rfl

/-- Every task that was started is on its course, and what it waits for is what its last
event has sent. -/
def OnCourse (a : Actor σ ι κ ρ χ) (r : Run σ ι κ ρ χ) : Prop :=
  ∀ task < r.tasks, ∃ op next, a.Course task op (r.story task) next ∧
    ∀ p ∈ r.waiting, p.task = task → p ∈ next.pending task op

theorem Numbered.story_eq_nil {r : Run σ ι κ ρ χ} (h : Numbered r) : r.story r.tasks = [] := by
  refine List.filter_eq_nil_iff.mpr fun e he htask => ?_
  exact Nat.lt_irrefl _ (h.2 e he r.tasks (of_decide_eq_true htask))

theorem OnCourse.extend {r : Run σ ι κ ρ χ} {e : Event σ ι κ ρ χ} (h : a.OnCourse r)
    (numbered : Numbered r) (he : a.Possible r e) : a.OnCourse (r.extend e) := by
  -- A task that the event does not belong to neither moves on nor waits for anything new.
  have hothers : ∀ task < r.tasks, e.task? ≠ some task → ∃ op next,
      a.Course task op ((r.extend e).story task) next ∧
        ∀ p ∈ (r.extend e).waiting, p.task = task → p ∈ next.pending task op := by
    intro task hlt hne
    obtain ⟨op, next, hcourse, hwaiting⟩ := h task hlt
    refine ⟨op, next, by rwa [Run.story_extend_of_ne hne], ?_⟩
    intro p hp htask
    rcases numbered.waiting_cases he hp with ⟨hold, -⟩ | ⟨-, hown⟩
    · exact hwaiting p hold htask
    · rw [htask] at hown
      exact absurd hown hne
  intro task hlt
  cases he with
  | change c => exact hothers task hlt (by simp [Event.task?, Event.ofChange])
  | start op =>
      rcases Nat.lt_succ_iff_lt_or_eq.mp hlt with hold | rfl
      · exact hothers task hold fun heq => Nat.ne_of_gt hold (Option.some.inj heq)
      · refine ⟨op, (a.start op r.state).next, ?_, ?_⟩
        · rw [Run.story_extend_of_eq rfl, numbered.story_eq_nil]
          exact .start r.state
        · intro p hp htask
          rcases numbered.waiting_cases (.start op) hp with ⟨hold, -⟩ | ⟨hopened, -⟩
          · exact absurd htask (Nat.ne_of_lt (numbered.1 p hold))
          · exact hopened
  | reply q reply hq =>
      by_cases htask : q.task = task
      · subst htask
        obtain ⟨op, next, hcourse, hwaiting⟩ := h q.task hlt
        obtain ⟨-, rfl, rfl⟩ := mem_pending (hwaiting q hq rfl)
        refine ⟨q.op, (a.resume q.awaiting reply r.state).next, ?_, ?_⟩
        · rw [Run.story_extend_of_eq rfl]
          exact hcourse.reply reply r.state
        · intro p hp htask
          rcases numbered.waiting_cases (.reply q reply hq) hp with ⟨-, hne⟩ | ⟨hopened, -⟩
          · exact absurd (congrArg some htask.symm) hne
          · exact hopened
      · exact hothers task hlt fun heq => htask (Option.some.inj heq)

theorem onCourse_run (moves : List (Move ι χ)) : a.OnCourse (a.run moves) := by
  refine run_induction ?_ ?_ moves
  · intro task hlt
    cases hlt
  · intro moves e ih he
    exact ih.extend (numbered_run moves) he

theorem exists_course {moves : List (Move ι χ)} {task : Nat} {op : ι}
    (h : ∃ e ∈ (a.run moves).history, e.cause = .start task op) :
    ∃ next, a.Course task op ((a.run moves).story task) next ∧
      (a.run moves).results task = next.result?.toList := by
  obtain ⟨e, he, hcause⟩ := h
  have htask : e.task? = some task := by rw [Event.task?, hcause]
  obtain ⟨op', next, hcourse, -⟩ :=
    onCourse_run moves task ((numbered_run moves).2 e he task htask)
  have hmem : e ∈ (a.run moves).story task := List.mem_filter.mpr ⟨he, by simpa using htask⟩
  obtain rfl := hcourse.op_eq hmem hcause
  exact ⟨next, hcourse, by rw [Run.results_eq, hcourse.results]⟩

end Actor

end CodeShelf
