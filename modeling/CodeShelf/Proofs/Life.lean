import CodeShelf.Proofs.Run

/-!
# Lives

A component sees of the service no more than what the answers mean to it: a failed call means
that it failed, whatever its status is and whatever its words are.  A life is what a component
meets, turn by turn, with what it shows then.  If the turns of a component cannot tell apart
answers of the same meaning, then two lives that meet the same show the same, but for the
status and the words inside the errors that they return.
-/

namespace CodeShelf

/-! ## Turns and what they meet -/

/-- What an answer means to the one who waits for it.  A failed call means no more than that
it failed. -/
inductive Meaning where
  | samples (samples : Option (List Sample))
  | id (id : Option SampleId)
  | code (text : Option String)
  | created (done : Bool)
  | output (text : Option String)
  deriving DecidableEq

inductive Incident (ι χ : Type) where
  | start (task : Nat) (op : ι)
  | reply (task : Nat) (meaning : Meaning)
  | change (c : χ)
  deriving DecidableEq

structure Entry (σ ι κ ρ χ : Type) where
  met : Incident ι χ
  state : σ
  notified : Bool
  next : Option (Next κ ρ)

namespace Incident

variable {ι χ : Type}

def task? : Incident ι χ → Option Nat
  | start task _ => some task
  | reply task _ => some task
  | change _ => none

def rename (f : Nat → Nat) : Incident ι χ → Incident ι χ
  | start task op => start (f task) op
  | reply task meaning => reply (f task) meaning
  | change c => change c

theorem task?_rename (f : Nat → Nat) (i : Incident ι χ) :
    (i.rename f).task? = i.task?.map f := by
  cases i <;> rfl

end Incident

variable {σ ι κ ρ χ : Type}

def Next.awaits? : Next κ ρ → Option κ
  | ask _ awaiting => some awaiting
  | finish _ => none

namespace Entry

def ofTurn (met : Incident ι χ) (t : Turn σ κ ρ) : Entry σ ι κ ρ χ :=
  ⟨met, t.state, t.notified, some t.next⟩

def ofChange (c : χ) (changed : σ × Bool) : Entry σ ι κ ρ χ :=
  ⟨.change c, changed.1, changed.2, none⟩

def awaits? (e : Entry σ ι κ ρ χ) : Option κ :=
  e.next.bind Next.awaits?

/-- What a task waits for after the entries: what its last entry has asked for. -/
def asked (task : Nat) (entries : List (Entry σ ι κ ρ χ)) : Option κ :=
  entries.foldl (fun last e => if e.met.task? = some task then e.awaits? else last) none

theorem asked_concat (task : Nat) (entries : List (Entry σ ι κ ρ χ)) (e : Entry σ ι κ ρ χ) :
    asked task (entries ++ [e]) =
      if e.met.task? = some task then e.awaits? else asked task entries := by
  simp [asked]

end Entry

namespace Actor

variable (a : Actor σ ι κ ρ χ) (meaning : κ → Reply → Meaning)

inductive Meets (entries : List (Entry σ ι κ ρ χ)) (s : σ) : Entry σ ι κ ρ χ → Prop
  | start (task : Nat) (op : ι) : Meets entries s (.ofTurn (.start task op) (a.start op s))
  | reply {task : Nat} {awaiting : κ} (h : Entry.asked task entries = some awaiting)
      (reply : Reply) :
      Meets entries s
        (.ofTurn (.reply task (meaning awaiting reply)) (a.resume awaiting reply s))
  | change (c : χ) : Meets entries s (.ofChange c (a.change c s))

inductive Lives : List (Entry σ ι κ ρ χ) → σ → Prop
  | fresh : Lives [] a.fresh
  | concat {entries : List (Entry σ ι κ ρ χ)} {s : σ} {e : Entry σ ι κ ρ χ}
      (h : Lives entries s) (he : a.Meets meaning entries s e) : Lives (entries ++ [e]) e.state

/-- Components with their lives, where `waits` holds of the tasks that wait for something. -/
structure Recounts (states : List σ) (lives : Nat → List (Entry σ ι κ ρ χ))
    (waits : Nat → Nat → κ → Prop) : Prop where
  lived : ∀ index s, states[index]? = some s → a.Lives meaning (lives index) s
  asked : ∀ index task awaiting, waits index task awaiting →
    Entry.asked task (lives index) = some awaiting

variable {a meaning}

theorem Recounts.concat {states : List σ} {lives lives' : Nat → List (Entry σ ι κ ρ χ)}
    {waits waits' : Nat → Nat → κ → Prop} (h : a.Recounts meaning states lives waits)
    {index : Nat} {s : σ} (hs : states[index]? = some s) {e : Entry σ ι κ ρ χ}
    (he : a.Meets meaning (lives index) s e)
    (own : lives' index = lives index ++ [e]) (others : ∀ j, j ≠ index → lives' j = lives j)
    (waiting : ∀ j task awaiting, waits' j task awaiting →
      (waits j task awaiting ∧ e.met.task? ≠ some task) ∨
        (j = index ∧ e.met.task? = some task ∧ e.awaits? = some awaiting)) :
    a.Recounts meaning (states.set index e.state) lives' waits' := by
  constructor
  · intro j s' hs'
    by_cases hj : j = index
    · subst hj
      have hlt := (List.getElem?_eq_some_iff.mp hs).1
      simp only [List.getElem?_set_self hlt, Option.some.injEq] at hs'
      rw [own, ← hs']
      exact (h.lived j s hs).concat he
    · rw [List.getElem?_set_ne (Ne.symm hj)] at hs'
      rw [others j hj]
      exact h.lived j s' hs'
  · intro j task awaiting hw
    rcases waiting j task awaiting hw with ⟨hold, hne⟩ | ⟨rfl, htask, hawaits⟩
    · by_cases hj : j = index
      · subst hj
        rw [own, Entry.asked_concat, if_neg hne]
        exact h.asked j task awaiting hold
      · rw [others j hj]
        exact h.asked j task awaiting hold
    · rw [own, Entry.asked_concat, if_pos htask, hawaits]

theorem Recounts.mono {states : List σ} {lives : Nat → List (Entry σ ι κ ρ χ)}
    {waits waits' : Nat → Nat → κ → Prop} (h : a.Recounts meaning states lives waits)
    (fewer : ∀ index task awaiting, waits' index task awaiting → waits index task awaiting) :
    a.Recounts meaning states lives waits' :=
  ⟨h.lived, fun index task awaiting hw => h.asked index task awaiting (fewer index task awaiting hw)⟩

end Actor

/-! ## Two lives -/

def OperationError.veiled : OperationError → OperationError
  | .transport _ => .transport ⟨none, ""⟩
  | e => e

section

variable {α : Type}

def Next.veiled : Next κ (Except OperationError α) → Next κ (Except OperationError α)
  | ask request awaiting => ask request awaiting
  | finish result => finish (result.mapError OperationError.veiled)

@[simp] theorem Next.awaits?_veiled (next : Next κ (Except OperationError α)) :
    next.veiled.awaits? = next.awaits? := by
  cases next <;> rfl

def Turn.veiled (t : Turn σ κ (Except OperationError α)) : Turn σ κ (Except OperationError α) :=
  { t with next := t.next.veiled }

namespace Entry

def shown (e : Entry σ ι κ (Except OperationError α) χ) :
    σ × Bool × Option (Next κ (Except OperationError α)) :=
  (e.state, e.notified, e.next.map Next.veiled)

theorem shown_ofTurn {met met' : Incident ι χ} {t t' : Turn σ κ (Except OperationError α)}
    (h : t.veiled = t'.veiled) : (ofTurn met t).shown = (ofTurn met' t').shown := by
  obtain ⟨hstate, hnotified, hnext⟩ := Turn.mk.inj h
  simp [shown, ofTurn, hstate, hnotified, hnext]

theorem awaits?_eq (e : Entry σ ι κ (Except OperationError α) χ) :
    e.awaits? = e.shown.2.2.bind Next.awaits? := by
  cases hnext : e.next <;> simp [awaits?, shown, hnext]

theorem asked_of_shown {f : Nat → Nat} (inj : Function.Injective f)
    {entries entries' : List (Entry σ ι κ (Except OperationError α) χ)}
    (met : entries.map (·.met.rename f) = entries'.map (·.met))
    (seen : entries.map shown = entries'.map shown) (task : Nat) :
    asked (f task) entries' = asked task entries := by
  unfold asked
  generalize none = last
  induction entries generalizing entries' last with
  | nil =>
      obtain rfl : entries' = [] := by simpa using met.symm
      rfl
  | cons e entries ih =>
      cases entries' with
      | nil => simp at met
      | cons e' entries' =>
          simp only [List.map_cons, List.cons.injEq] at met seen
          have htask : e'.met.task? = some (f task) ↔ e.met.task? = some task := by
            rw [← met.1, Incident.task?_rename, Option.map_eq_some_iff]
            simp [inj.eq_iff]
          have hawaits : e.awaits? = e'.awaits? := by rw [awaits?_eq, awaits?_eq, seen.1]
          simp only [List.foldl_cons, htask, hawaits]
          exact ih met.2 seen.2 _

end Entry

namespace Actor

/-- Whether the turns of a component are the same, up to the veil, after answers of the same
meaning. -/
def Blind (a : Actor σ ι κ (Except OperationError α) χ) (meaning : κ → Reply → Meaning) : Prop :=
  ∀ awaiting r r' s, meaning awaiting r = meaning awaiting r' →
    (a.resume awaiting r s).veiled = (a.resume awaiting r' s).veiled

variable {a : Actor σ ι κ (Except OperationError α) χ} {meaning : κ → Reply → Meaning}

theorem Meets.shown_eq (blind : a.Blind meaning) {f : Nat → Nat}
    {entries entries' : List (Entry σ ι κ (Except OperationError α) χ)} {s : σ}
    {e e' : Entry σ ι κ (Except OperationError α) χ} (h : a.Meets meaning entries s e)
    (h' : a.Meets meaning entries' s e') (met : e.met.rename f = e'.met)
    (asked : ∀ task, Entry.asked (f task) entries' = Entry.asked task entries) :
    e.shown = e'.shown := by
  cases h with
  | start task op =>
      cases h' with
      | start task' op' =>
          cases met
          exact Entry.shown_ofTurn rfl
      | reply _ _ => cases met
      | change c' => cases met
  | reply hasked reply =>
      cases h' with
      | start task' op' => cases met
      | change c' => cases met
      | reply hasked' reply' =>
          -- That both answers are read in the same way is not assumed: it follows from what the
          -- task asked last.
          obtain ⟨rfl, hmeaning⟩ := Incident.reply.inj met
          rw [asked, hasked, Option.some.injEq] at hasked'
          subst hasked'
          exact Entry.shown_ofTurn (blind _ _ _ s hmeaning)
  | change c =>
      cases h' with
      | start task' op' => cases met
      | reply _ _ => cases met
      | change c' =>
          cases met
          rfl

theorem Lives.shown_eq (blind : a.Blind meaning) {f : Nat → Nat} (inj : Function.Injective f)
    {entries entries' : List (Entry σ ι κ (Except OperationError α) χ)} {s s' : σ}
    (h : a.Lives meaning entries s) (h' : a.Lives meaning entries' s')
    (met : entries.map (·.met.rename f) = entries'.map (·.met)) :
    entries.map Entry.shown = entries'.map Entry.shown ∧ s = s' := by
  -- By induction on the first life.  Before the last turn both have shown the same, so both
  -- are in the same state and their tasks wait for the same.
  induction h generalizing entries' s' with
  | fresh =>
      cases h' with
      | fresh => exact ⟨rfl, rfl⟩
      | concat _ _ => simp at met
  | concat h he ih =>
      cases h' with
      | fresh => simp at met
      | concat h' he' =>
          simp only [List.map_append, List.map_cons, List.map_nil] at met ⊢
          obtain ⟨hbefore, hlast⟩ := List.append_inj' met rfl
          obtain ⟨hseen, rfl⟩ := ih h' hbefore
          have hshown := he.shown_eq blind he' (List.cons.inj hlast).1
            (Entry.asked_of_shown inj hbefore hseen)
          exact ⟨by rw [hseen, hshown], congrArg (·.1) hshown⟩

end Actor

end

end CodeShelf
