import CodeShelf.Proofs.Cli.Outcome

/-!
# Running a stored sample

A stored sample is run as its code is shown, and as the code is then run that was shown.  Calls
made one after another use up the answers of the peer in that order, and what was sent before
makes no difference to what a call brings back, so the two commands can be told apart at the
request after which the code is there.
-/

namespace CodeShelf

namespace Http

def Peer.after (answered : Nat) : Peer → Peer
  | absent => absent
  | serving responses => serving (responses.drop answered)

namespace Link

def after (requests : List Request) (l : Link) : Link :=
  { l with peer := l.peer.after requests.length, sent := l.sent ++ requests }

/-- The link with requests that were sent before all others. -/
def preceded (earlier : List Request) (l : Link) : Link :=
  { l with sent := earlier ++ l.sent }

theorem after_nil (l : Link) : l.after [] = l := by
  obtain ⟨config, peer, sent⟩ := l
  cases peer <;> simp [after, Peer.after]

theorem after_after (requests more : List Request) (l : Link) :
    (l.after requests).after more = l.after (requests ++ more) := by
  obtain ⟨config, peer, sent⟩ := l
  cases peer <;> simp [after, Peer.after, List.append_assoc]

theorem exists_send_eq (call : Call) (l : Link) :
    ∃ requests, (l.send call).1 = l.after requests := by
  cases hurl : callUrl? l.config call with
  | none => exact ⟨[], by simp [send, hurl, after_nil]⟩
  | some url =>
      cases hname : canName url with
      | false => exact ⟨[], by simp [send, hurl, hname, after_nil]⟩
      | true =>
          cases hpeer : l.peer with
          | absent => exact ⟨[], by simp [send, hurl, hname, hpeer, after_nil]⟩
          | serving responses =>
              exact ⟨[requestOf call url], by simp [send, hurl, hname, hpeer, after, Peer.after]⟩

theorem send_preceded (call : Call) (earlier : List Request) (l : Link) :
    (l.preceded earlier).send call = ((l.send call).1.preceded earlier, (l.send call).2) := by
  obtain ⟨config, peer, sent⟩ := l
  cases hurl : callUrl? config call with
  | none => simp [send, preceded, hurl]
  | some url =>
      cases hname : canName url with
      | false => simp [send, preceded, hurl, hname]
      | true => cases peer <;> simp [send, preceded, hurl, hname]

end Link

end Http

namespace Cli

open Http

/-! ## What goes over a link -/

theorem exists_finishStore_eq (s : Store) (awaiting : Store.Awaiting) (reply : Reply)
    (link : Link) :
    ∃ requests, (finishStore s awaiting reply link).2.2 = link.after requests := by
  fun_induction finishStore s awaiting reply link with
  | case1 s awaiting reply link result h =>
      exact ⟨[], link.after_nil.symm⟩
  | case2 s awaiting reply link request next h sent ih =>
      obtain ⟨requests, hrequests⟩ := link.exists_send_eq request.call
      obtain ⟨more, hmore⟩ := ih
      refine ⟨requests ++ more, ?_⟩
      rw [hmore, hrequests, Link.after_after]

theorem exists_performStore_eq (op : Store.Operation) (s : Store) (link : Link) :
    ∃ requests, (performStore op s link).2.2 = link.after requests := by
  cases h : (s.start op).next with
  | finish result =>
      rw [performStore_of_finish link h]
      exact ⟨[], link.after_nil.symm⟩
  | ask request awaiting =>
      obtain ⟨requests, hrequests⟩ := link.exists_send_eq request.call
      obtain ⟨more, hmore⟩ := exists_finishStore_eq (s.start op).state awaiting
        (link.send request.call).2 (link.send request.call).1
      refine ⟨requests ++ more, ?_⟩
      rw [performStore_of_ask link h, hmore, hrequests, Link.after_after]

theorem exists_fetchCode_eq (name : String) (link : Link) :
    ∃ requests, (fetchCode name link).2 = link.after requests := by
  obtain ⟨requests, hrequests⟩ := exists_performStore_eq (.fetchContent name) {} link
  refine ⟨requests, ?_⟩
  rw [← hrequests, fetchCode]
  split <;> next h => rw [h]

theorem performSession_preceded (op : Session.Operation) (s : Session) (earlier : List Http.Request)
    (link : Link) :
    performSession op s (link.preceded earlier) =
      ((performSession op s link).1, (performSession op s link).2.1,
        (performSession op s link).2.2.preceded earlier) := by
  cases h : (s.start op).next with
  | finish result => simp [performSession, h]
  | ask request awaiting => simp [performSession, h, Link.send_preceded]

theorem execute_preceded (code : String) (earlier : List Http.Request) (link : Link) :
    execute code (link.preceded earlier) =
      ((execute code link).1, (execute code link).2.preceded earlier) := by
  simp [execute, performSession_preceded]

/-! ## The two commands -/

section

variable (files : String → Except FileError String)

theorem perform_sample_cases (name : String) (link : Link) :
    (∃ code requests, perform files (.show name) link = (.printed code, link.after requests) ∧
        perform files (.run (.sample name)) link = execute code (link.after requests)) ∨
      (perform files (.show name) link).1.exit = .failure ∧
        perform files (.run (.sample name)) link = perform files (.show name) link := by
  obtain ⟨requests, hrequests⟩ := exists_fetchCode_eq name link
  rcases fetchCode_cases name link with
    ⟨code, link', hfetch, -⟩ | ⟨ending, link', hfetch, exit, -⟩
  · rw [hfetch] at hrequests
    have hlink : link' = link.after requests := hrequests
    rw [hlink] at hfetch
    exact .inl ⟨code, requests, by simp [perform, showCode, hfetch], by simp [perform, hfetch]⟩
  · exact .inr ⟨by simpa [perform, showCode, hfetch], by simp [perform, showCode, hfetch]⟩

end

/-! ## The two command lines -/

theorem run_of_config_error (files : String → Except FileError String) (peer : Config → Peer)
    {i : Invocation} {e : ConfigError} (h : i.config = .error e) :
    i.run files peer = (.failed .config (OperationError.config e).message, []) := by
  rw [Invocation.run, h]

theorem printed_injective : Function.Injective Ending.printed := by
  intro code code' h
  have hline : code ++ "\n" = code' ++ "\n" := congrArg Ending.stdout h
  have hchars := congrArg String.toList hline
  rw [String.toList_append, String.toList_append, List.append_left_inj] at hchars
  exact String.toList_injective hchars

section

variable (files : String → Except FileError String) (peer : Config → Peer)
  (backend : Option String)

theorem run_sample_cases (name : String) :
    let shown := Invocation.run files peer ⟨backend, .show name⟩
    let ran := Invocation.run files peer ⟨backend, .run (.sample name)⟩
    (∃ code, shown.1 = .printed code ∧
        let rest := Invocation.run files (fun config => (peer config).after shown.2.length)
          ⟨backend, .run (.text code)⟩
        ran = (rest.1, shown.2 ++ rest.2)) ∨
      shown.1.exit ≠ .success ∧ ran = shown := by
  intro shown ran
  cases hconfig : (Invocation.mk backend (.show name)).config with
  | error e =>
      right
      have hshown : shown = _ := run_of_config_error files peer hconfig
      have hran : ran = _ :=
        run_of_config_error (i := ⟨backend, .run (.sample name)⟩) files peer hconfig
      rw [hshown, hran]
      exact ⟨by rintro ⟨⟩, rfl⟩
  | ok config =>
      have hshown : shown = _ := run_of_config peer hconfig
      have hran : ran = _ := run_of_config (i := ⟨backend, .run (.sample name)⟩) peer hconfig
      rcases perform_sample_cases files name (freshLink peer config) with
        ⟨code, requests, hshow, hrun⟩ | ⟨exit, hsame⟩
      · left
        -- The link on which the code is there is a fresh one with the answers that remain.
        have hlink : (freshLink peer config).after requests =
            (freshLink (fun config => (peer config).after requests.length) config).preceded
              requests := by
          simp [freshLink, Link.after, Link.preceded]
        have hsent : ((freshLink peer config).after requests).sent = requests := rfl
        rw [hshow, hsent] at hshown
        rw [hrun, hlink, execute_preceded] at hran
        rw [hshown, hran]
        refine ⟨code, rfl, ?_⟩
        intro rest
        have hrest : rest = _ := run_of_config (i := ⟨backend, .run (.text code)⟩) _ hconfig
        rw [hrest]
        rfl
      · right
        rw [hshown, hran, hsame, exit]
        exact ⟨by rintro ⟨⟩, rfl⟩

/-- A command line that runs a stored sample starts with the requests of the one that shows it.  If
that one fails, it ends the same way and sends nothing more.  If that one prints a code, any code
at all, it goes on as the command line that runs this code does with the answers that remain. -/
theorem sample_run_as_shown (name : String) :
    let shown := Invocation.run files peer ⟨backend, .show name⟩
    let ran := Invocation.run files peer ⟨backend, .run (.sample name)⟩
    shown.2 <+: ran.2 ∧ (shown.1.exit = .success → ∃ code, shown.1 = .printed code) ∧
      (shown.1.exit ≠ .success → ran = shown) ∧
      ∀ code, shown.1 = .printed code →
        let rest := Invocation.run files (fun config => (peer config).after shown.2.length)
          ⟨backend, .run (.text code)⟩
        ran = (rest.1, shown.2 ++ rest.2) := by
  intro shown ran
  rcases run_sample_cases files peer backend name with ⟨code, hshown, hran⟩ | ⟨failed, hran⟩
  · refine ⟨?_, fun _ => ⟨code, hshown⟩, ?_, ?_⟩
    · exact ⟨_, (congrArg Prod.snd hran).symm⟩
    · intro failed
      exact absurd (congrArg Ending.exit hshown) failed
    · intro code' hshown'
      cases printed_injective (hshown'.symm.trans hshown)
      exact hran
  · refine ⟨⟨[], ?_⟩, fun success => absurd success failed, fun _ => hran, ?_⟩
    · rw [List.append_nil]
      exact (congrArg Prod.snd hran).symm
    intro code hshown
    exact absurd (congrArg Ending.exit hshown) failed

end

end Cli

end CodeShelf
