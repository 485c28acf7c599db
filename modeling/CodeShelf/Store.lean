import CodeShelf.Turn

/-!
# The sample store

A store holds the client's copy of the samples of the service, the view of it that
the search term leaves, and what the user should know about failures.

Listings may overlap.  Each is numbered when it is asked for, and its answer is
applied only if no listing asked for later was applied first.  Of additions only one
may be under way.  A store that is detached stays as it is.
-/

namespace CodeShelf

inductive Lifecycle where
  | created
  | attached
  | detached
  deriving DecidableEq, Repr

inductive Notice where
  | loadFailed
  | addFailed
  | contentFailed
  | notFound (name : String)
  deriving DecidableEq, Repr

def Notice.text : Notice → String
  | loadFailed => "Something went wrong while loading code samples."
  | addFailed => "There was a problem adding the code sample."
  | contentFailed => "Failed to load the code sample. Please try again later."
  | notFound name => "No code sample named '" ++ name ++ "' was found."

structure StoreView where
  samples : List Sample := []
  filtered : List Sample := []
  searchTerm : String := ""
  error : Option Notice := none
  loading : Bool := false
  adding : Bool := false
  formOpen : Bool := false
  lifecycle : Lifecycle := .created
  deriving DecidableEq, Repr

/-- A store: its view, how many listings are under way, the number of the listing that
was applied last, and the number of the listing that was asked for last.  The numbers have no
bound; of counters of 64 bits, what is proved is meant for fewer than 2 ^ 64 listings. -/
structure Store where
  view : StoreView := {}
  inFlight : Nat := 0
  applied : Nat := 0
  issued : Nat := 0
  deriving DecidableEq, Repr

namespace Store

inductive Operation where
  | attach
  | fetchAll
  | fetchContent (name : String)
  | addSample (name code : String)
  deriving DecidableEq, Repr

inductive Change where
  | search (term : String)
  | openForm
  | closeForm
  | detach
  deriving DecidableEq, Repr

/-- What a listing is asked for: by itself, or after an addition, which is a success
whatever becomes of the listing. -/
inductive Purpose where
  | fetch
  | refresh
  deriving DecidableEq, Repr

inductive Awaiting where
  | listing (number : Nat) (purpose : Purpose)
  | lookup (name : String)
  | content
  | creation
  deriving DecidableEq, Repr

def Awaiting.callsLeft : Awaiting → Nat
  | listing _ _ => 1
  | lookup _ => 2
  | content => 1
  | creation => 2

inductive Answer where
  | done
  | code (text : String)
  deriving DecidableEq, Repr

def Answer.text : Answer → String
  | done => ""
  | code text => text

abbrev Result := Except OperationError Answer

abbrev StoreTurn := Turn Store Awaiting Result

def isLive (s : Store) : Bool :=
  s.view.lifecycle != .detached

def withError (error : Option Notice) (s : Store) : Store :=
  { s with view := { s.view with error := error } }

def Purpose.result : Purpose → Result → Result
  | fetch, r => r
  | refresh, _ => .ok .done

/-- Asks for a listing.  The number is used up even if the store is detached. -/
def issueListing (purpose : Purpose) (s : Store) : StoreTurn :=
  let number := s.issued + 1
  let s := { s with issued := number }
  if s.isLive then
    ⟨{ s with inFlight := s.inFlight + 1, view := { s.view with loading := true } }, true,
      .ask .listing (.listing number purpose)⟩
  else .refuse s (purpose.result (.error .detached))

def applyListing (number : Nat) (answer : Except CallError (List Sample)) (s : Store) : Store :=
  match answer with
  | .ok samples =>
      { s with
        applied := number
        view := { s.view with
          samples := samples
          filtered := Sample.search s.view.searchTerm samples
          error := none } }
  | .error _ => { s with applied := number, view := { s.view with error := some .loadFailed } }

/-- Takes the answer to a listing in: one listing less is under way, and the answer is
applied unless a later listing was applied before. -/
def settleListing (number : Nat) (answer : Except CallError (List Sample)) (s : Store) : Store :=
  let inFlight := s.inFlight - 1
  let s := { s with
    inFlight := inFlight
    view := { s.view with loading := decide (0 < inFlight) } }
  if number ≤ s.applied then s else applyListing number answer s

def start (op : Operation) (s : Store) : StoreTurn :=
  match op with
  | .attach =>
      if s.view.lifecycle = .created then
        issueListing .fetch { s with view := { s.view with lifecycle := .attached } }
      else .refuse s (.ok .done)
  | .fetchAll => issueListing .fetch s
  | .fetchContent name =>
      if s.isLive then ⟨s, false, .ask (.idOf name) (.lookup name)⟩
      else .refuse s (.error .detached)
  | .addSample name code =>
      match Draft.check name code with
      | .error e => .refuse s (.error (.ofData e))
      | .ok draft =>
          if s.isLive then
            if s.view.adding then .refuse s (.error (.busy .sampleAdd))
            else
              ⟨{ s with view := { s.view with adding := true } }, true,
                .ask (.create draft) .creation⟩
          else .refuse s (.error .detached)

def resumeLive (awaiting : Awaiting) (reply : Reply) (s : Store) : StoreTurn :=
  match awaiting with
  | .listing number purpose =>
      let answer := reply.samples
      ⟨settleListing number answer s, true,
        .finish (purpose.result ((answer.mapError .transport).map fun _ => .done))⟩
  | .lookup name =>
      match reply.id? with
      | .ok (some id) => ⟨s, false, .ask (.content id) .content⟩
      | _ => ⟨s.withError (some (.notFound name)), true, .finish (.error (.notFound name))⟩
  | .content =>
      match reply.code with
      | .ok code => ⟨s.withError none, true, .finish (.ok (.code code))⟩
      | .error e =>
          ⟨s.withError (some .contentFailed), true, .finish (.error (.transport e))⟩
  | .creation =>
      match reply with
      | .ok _ =>
          issueListing .refresh
            { s with view := { s.view with adding := false, formOpen := false, error := none } }
      | .error e =>
          ⟨{ s with view := { s.view with adding := false, error := some .addFailed } }, true,
            .finish (.error (.transport e))⟩

def lateResult : Awaiting → Result
  | .listing _ purpose => purpose.result (.error .detached)
  | _ => .error .detached

/-- Goes on with an operation when the answer it waits for arrives.  A detached store
drops the answer. -/
def resume (awaiting : Awaiting) (reply : Reply) (s : Store) : StoreTurn :=
  if s.isLive then resumeLive awaiting reply s else .refuse s (lateResult awaiting)

def change (c : Change) (s : Store) : Store × Bool :=
  if s.isLive then
    match c with
    | .search term =>
        ({ s with view := { s.view with
            searchTerm := term
            filtered := Sample.search term s.view.samples } }, true)
    | .openForm => ({ s with view := { s.view with formOpen := true } }, true)
    | .closeForm => ({ s with view := { s.view with formOpen := false } }, true)
    | .detach =>
        ({ s with view := { s.view with
            lifecycle := .detached
            loading := false
            adding := false } }, true)
  else (s, false)

theorem callsLeft_resume {s : Store} {awaiting next : Awaiting} {reply : Reply}
    {request : Request} (h : (s.resume awaiting reply).next = .ask request next) :
    next.callsLeft < awaiting.callsLeft := by
  unfold resume at h
  split at h
  · cases awaiting with
    | listing number purpose => simp [resumeLive] at h
    | lookup name =>
        simp only [resumeLive] at h
        split at h
        · simp only [Next.ask.injEq] at h
          simp [← h.2, Awaiting.callsLeft]
        · simp at h
    | content =>
        simp only [resumeLive] at h
        split at h <;> simp at h
    | creation =>
        simp only [resumeLive] at h
        split at h
        · simp only [issueListing] at h
          split at h
          · simp only [Next.ask.injEq] at h
            simp [← h.2, Awaiting.callsLeft]
          · simp [Turn.refuse] at h
        · simp at h
  · simp [Turn.refuse] at h

end Store

end CodeShelf
