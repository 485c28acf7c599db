import CodeShelf.Proofs.World.Chronicle
import CodeShelf.Transport.Script

/-!
# Isolation

However many stores and sessions share a transport, and whatever else goes on in the world,
what a component shows depends on nothing but what it meets: its own operations, its own
changes, and what the answers to its own calls mean.  Of a failed call neither the status nor
the words can be seen, except inside the error that the operation returns.
-/

namespace CodeShelf

/-! ## Turns see only what an answer means -/

theorem eq_or_errors_of_toOption_eq {ε α : Type} {x y : Except ε α}
    (h : x.toOption = y.toOption) : x = y ∨ ∃ e e', x = .error e ∧ y = .error e' := by
  cases x <;> cases y <;> simp_all [Except.toOption]

namespace Store

theorem resumeLive_lookup (name : String) (reply : Reply) (s : Store) :
    s.resumeLive (.lookup name) reply =
      match reply.id?.toOption.join with
      | some id => ⟨s, false, .ask (.content id) .content⟩
      | none => ⟨s.withError (some (.notFound name)), true, .finish (.error (.notFound name))⟩ := by
  simp only [resumeLive]
  rcases reply.id? with e | id
  · rfl
  · cases id <;> rfl

theorem blind : actor.Blind meaning := by
  intro awaiting r r' s h
  change (s.resume awaiting r).veiled = (s.resume awaiting r').veiled
  simp only [resume]
  split
  · cases awaiting with
    | listing number purpose =>
        simp only [meaning, Meaning.samples.injEq] at h
        simp only [resumeLive]
        rcases eq_or_errors_of_toOption_eq h with heq | ⟨e, e', he, he'⟩
        · rw [heq]
        · rw [he, he']
          cases purpose <;> rfl
    | lookup name =>
        simp only [meaning, Meaning.id.injEq] at h
        rw [resumeLive_lookup, resumeLive_lookup, h]
    | content =>
        simp only [meaning, Meaning.code.injEq] at h
        simp only [resumeLive]
        rcases eq_or_errors_of_toOption_eq h with heq | ⟨e, e', he, he'⟩
        · rw [heq]
        · rw [he, he']
          rfl
    | creation =>
        simp only [meaning, Meaning.created.injEq] at h
        cases r with
        | error e =>
            cases r' with
            | error e' => rfl
            | ok body' => simp [Except.isOk, Except.toBool] at h
        | ok body =>
            cases r' with
            | error e' => simp [Except.isOk, Except.toBool] at h
            | ok body' => rfl
  · rfl

end Store

namespace Session

theorem blind : actor.Blind meaning := by
  intro awaiting r r' s h
  simp only [meaning, Meaning.output.injEq] at h
  simp only [actor, resume, h]

end Session

/-! ## Components of two worlds -/

namespace Chronicle

/-- Components are isolated from each other and from the causes of failures.  Take any two
worlds, over any two transports and with whatever going on in them.  If a component of the
first meets the same as a component of the second, in the same order and up to the numbers of
its tasks, then both show the same after every turn, and they end in the same state.  The two
chronicles hold all results and notifications of the worlds. -/
theorem components_isolated {τ ω τ' ω' : Type} [Transport τ ω] [Transport τ' ω']
    (transport : τ) (transport' : τ') (stores sessions stores' sessions' : Nat)
    (happenings : List (Happening τ ω)) (happenings' : List (Happening τ' ω'))
    (rename : Nat → Nat) (distinct : Function.Injective rename) :
    let c := (fresh transport stores sessions).after happenings
    let c' := (fresh transport' stores' sessions').after happenings'
    (c.Complete ∧ c'.Complete) ∧
      (∀ (i i' : Nat) s s', c.world.stores[i]? = some s → c'.world.stores[i']? = some s' →
        (storeLife c.log i).map (·.met.rename rename) = (storeLife c'.log i').map (·.met) →
        (storeLife c.log i).map (·.shown) = (storeLife c'.log i').map (·.shown) ∧ s = s') ∧
      ∀ (i i' : Nat) s s', c.world.sessions[i]? = some s → c'.world.sessions[i']? = some s' →
        (sessionLife c.log i).map (·.met.rename rename) = (sessionLife c'.log i').map (·.met) →
        (sessionLife c.log i).map (·.shown) = (sessionLife c'.log i').map (·.shown) ∧ s = s' := by
  intro c c'
  have h : c.Faithful := (faithful_fresh transport stores sessions).after happenings
  have h' : c'.Faithful :=
    (faithful_fresh transport' stores' sessions').after happenings'
  refine ⟨⟨h.toComplete, h'.toComplete⟩, ?_, ?_⟩
  · intro i i' s s' hs hs' met
    exact (h.told.stores.lived i s hs).shown_eq Store.blind distinct
      (h'.told.stores.lived i' s' hs') met
  · intro i i' s s' hs hs' met
    exact (h.told.sessions.lived i s hs).shown_eq Session.blind distinct
      (h'.told.sessions.lived i' s' hs') met

def script : Script where
  replies := [
    .error ⟨none, "unreachable"⟩,
    .ok .null,
    .ok (.arr [(Sample.mk ⟨"1"⟩ "eins" "1").toJson]),
    .ok (.obj [("output", .str "1")]),
    .ok .null,
    .ok (.obj [("error", .str "no room")])
  ]

def aloneOverScript : List (Happening Script Empty) := [
  .act (.store 0 .attach),
  .act (.store 0 (.addSample "eins" "1")),
  .act (.session 0 (.execute "1")),
  .act (.store 0 (.fetchContent "zwei")),
  .act (.changeStore 0 (.search "ei")),
  .act (.session 0 .run)
]

def failingService : Memory :=
  { outputs := [("1", "1")], failing := [.listSamples] }

/-- The second store and the second session meet the same, while others are busy, the creation
is held for a while, and calls fail for other reasons. -/
def crowdedOverMemory : List (Happening Memory HeldCall) := [
  .act (.store 0 .fetchAll),
  .act (.store 1 .attach),
  .shift fun m => { m with failing := [], gated := [.createSample], shape := .keyed },
  .act (.store 0 (.fetchContent "eins")),
  .act (.store 1 (.addSample "eins" "1")),
  .act (.session 0 (.execute "2")),
  .wake fun hold => hold.wait == .gate .createSample 0,
  .act (.session 1 (.execute "1")),
  .act (.bare Request.hello.call .body),
  .act (.store 1 (.fetchContent "zwei")),
  .act (.changeStore 0 .detach),
  .act (.changeStore 1 (.search "ei")),
  .shift fun m => { m with failing := [.compile] },
  .act (.changeSession 0 .detach),
  .act (.session 1 .run)
]

def alone : Chronicle Script Empty :=
  (fresh script 1 1).after aloneOverScript

def crowded : Chronicle Memory HeldCall :=
  (fresh failingService 2 2).after crowdedOverMemory

theorem components_isolated_in_a_crowd :
    ((storeLife alone.log 0).length = 8 ∧
        (storeLife alone.log 0).map (·.shown) = (storeLife crowded.log 1).map (·.shown)) ∧
      (sessionLife alone.log 0).length = 4 ∧
        (sessionLife alone.log 0).map (·.shown) = (sessionLife crowded.log 1).map (·.shown) := by
  obtain ⟨s, hs⟩ : ∃ s, alone.world.stores[0]? = some s :=
    Option.isSome_iff_exists.mp (by decide +kernel)
  obtain ⟨s', hs'⟩ : ∃ s, crowded.world.stores[1]? = some s :=
    Option.isSome_iff_exists.mp (by decide +kernel)
  obtain ⟨t, ht⟩ : ∃ t, alone.world.sessions[0]? = some t :=
    Option.isSome_iff_exists.mp (by decide +kernel)
  obtain ⟨t', ht'⟩ : ∃ t, crowded.world.sessions[1]? = some t :=
    Option.isSome_iff_exists.mp (by decide +kernel)
  have inj : Function.Injective fun n : Nat => 2 * n + 1 := by
    intro m n h
    simp only at h
    omega
  obtain ⟨-, hstores, hsessions⟩ := components_isolated script failingService 1 1 2 2
    aloneOverScript crowdedOverMemory _ inj
  refine ⟨⟨by decide +kernel, ?_⟩, by decide +kernel, ?_⟩
  · exact (hstores 0 1 s s' hs hs' (by decide +kernel)).1
  · exact (hsessions 0 1 t t' ht ht' (by decide +kernel)).1

end Chronicle

end CodeShelf
