import CodeShelf.Proofs.Cli.Operations

/-!
# Exit codes

The exit code of a command line tells how it ended.  Without a usable address of the
service it is 3; with a source file that cannot be read, or a draft that is blank, it is 2;
and otherwise it is 0 exactly if the service answered every call that counts, and 1 if not.
The calls that count are those that `Command.Succeeds` names for each command.
-/

namespace CodeShelf.Cli

open Http

/-! ## Endings -/

/-- How a command ends that has all it needs before it turns to the service: it succeeds if
the service does its part, and otherwise it fails and prints nothing. -/
structure EndsBy (served : Prop) (e : Ending) : Prop where
  success : served → e.exit = .success
  failure : ¬ served → e.exit = .failure ∧ e.stdout = ""

theorem EndsBy.of_success {served : Prop} {e : Ending} (h : served) (exit : e.exit = .success) :
    EndsBy served e :=
  ⟨fun _ => exit, fun hnot => absurd h hnot⟩

theorem EndsBy.of_failure {served : Prop} {e : Ending} (h : ¬ served)
    (exit : e.exit = .failure) (silent : e.stdout = "") : EndsBy served e :=
  ⟨fun hserved => absurd hserved h, fun _ => ⟨exit, silent⟩⟩

theorem report_of_ne_validation (s : Store) {e : OperationError} (h : ∀ d, e ≠ .validation d) :
    (report s e).exit = .failure ∧ (report s e).stdout = "" := by
  cases e with
  | validation d => exact absurd rfl (h d)
  | _ => exact ⟨rfl, rfl⟩

theorem endsBy_list (search : Option String) (link : Link) :
    EndsBy (∃ body l' samples, link.Obtains Request.listing.call body l' ∧
        Wire.readListing body = .ok samples) (list search link).1 := by
  -- The store that attaches has the term already, which attaching does not look at.
  obtain ⟨s, created, listed, failed⟩ : ∃ s : Store, s.view.lifecycle = .created ∧
      (∀ s' answer link', performStore .attach s link = (s', .ok answer, link') →
        (list search link).1.exit = .success) ∧
      ∀ s' e link', performStore .attach s link = (s', .error e, link') →
        (list search link).1 = report s' e := by
    cases search with
    | none => exact ⟨{}, rfl, fun _ _ _ h => by simp [list, h], fun _ _ _ h => by simp [list, h]⟩
    | some term =>
        exact ⟨(Store.change (.search term) {}).1, rfl, fun _ _ _ h => by simp [list, h],
          fun _ _ _ h => by simp [list, h]⟩
  rcases performStore_attach created link with
    ⟨s', link', hperform, body, samples, answer, read⟩ | ⟨s', e, link', hperform, hnot⟩
  · exact .of_success ⟨body, link', samples, answer, read⟩ (listed _ _ _ hperform)
  · rw [failed _ _ _ hperform]
    exact .of_failure (fun ⟨body, l', samples, answer, read⟩ => hnot body l' samples answer read)
      rfl rfl

theorem fetchCode_cases (name : String) (link : Link) :
    (∃ code link', fetchCode name link = (.ok code, link') ∧ Loads name link code link') ∨
      ∃ ending link', fetchCode name link = (.error ending, link') ∧ ending.exit = .failure ∧
        ending.stdout = "" ∧ ∀ code link'', ¬ Loads name link code link'' := by
  have live : Store.isLive {} = true := rfl
  rcases performStore_fetchContent live name link with
    ⟨s', code, link', hperform, hloads⟩ | ⟨s', e, link', hperform, hvalid, hnot⟩
  · exact .inl ⟨code, link', by simp [fetchCode, hperform, Store.Answer.text], hloads⟩
  · obtain ⟨exit, silent⟩ := report_of_ne_validation s' hvalid
    exact .inr ⟨report s' e, link', by simp [fetchCode, hperform], exit, silent, hnot⟩

theorem endsBy_show (name : String) (link : Link) :
    EndsBy (∃ code l', Loads name link code l') (showCode name link).1 := by
  rcases fetchCode_cases name link with
    ⟨code, link', hfetch, hloads⟩ | ⟨ending, link', hfetch, exit, silent, hnot⟩
  · exact .of_success ⟨code, link', hloads⟩ (by simp [showCode, hfetch, Ending.printed])
  · exact .of_failure (fun ⟨code, l', h⟩ => hnot code l' h) (by simpa [showCode, hfetch])
      (by simpa [showCode, hfetch])

theorem endsBy_add {name code : String} (name_solid : isBlankText name = false)
    (code_solid : isBlankText code = false) (link : Link) :
    EndsBy (∃ body l', link.Obtains (Request.create ⟨name, code⟩).call body l')
      (add name code link).1 := by
  have accepts : (Store.change .openForm {}).1.Accepts name code :=
    ⟨name_solid, code_solid, rfl, rfl⟩
  rcases performStore_addSample accepts link with
    ⟨s', link', hperform, hserved⟩ | ⟨s', e, link', hperform, hnot⟩
  · exact .of_success hserved (by simp [add, hperform, addedEnding])
  · obtain ⟨exit, silent⟩ := @report_of_ne_validation s' (.transport e) (by simp)
    exact .of_failure (fun ⟨body, l', h⟩ => hnot body l' h) (by simpa [add, hperform])
      (by simpa [add, hperform])

theorem add_of_blank {name code : String}
    (h : isBlankText name = true ∨ isBlankText code = true) (link : Link) :
    ∃ ending, add name code link = (ending, link) ∧ ending.exit = .usage ∧
      ending.stdout = "" := by
  obtain ⟨field, hcheck⟩ : ∃ field, Draft.check name code = .error (.emptyField field) := by
    rw [Draft.check]
    cases hname : isBlankText name with
    | true => exact ⟨.name, rfl⟩
    | false =>
        have hcode : isBlankText code = true := by simpa [hname] using h
        exact ⟨.code, by rw [hcode]; rfl⟩
  have hstart : (Store.change .openForm {}).1.start (.addSample name code) =
      .refuse (Store.change .openForm {}).1 (.error (.validation (.emptyField field))) := by
    rw [Store.start, hcheck]
    rfl
  have hperform := performStore_of_finish link (by rw [hstart]; rfl)
  exact ⟨.failed .usage (DataError.emptyField field).message, by rw [add, hperform]; rfl, rfl, rfl⟩

theorem endsBy_execute (code : String) (link : Link) :
    EndsBy (∃ body l' output, link.Obtains (Request.compile code).call body l' ∧
        body.stringMember? "output" = some output) (execute code link).1 := by
  have hexecute : (execute code link).1 =
      executionEnding (performSession (.execute code) {} link).2.1 := rfl
  rw [hexecute, performSession_execute]
  generalize hsend : link.send (Request.compile code).call = sent
  obtain ⟨l', reply⟩ := sent
  simp only [Link.obtains_of_send hsend]
  cases reply with
  | error e => exact .of_failure (by simp) rfl rfl
  | ok body =>
      cases houtput : body.stringMember? "output" with
      | some output =>
          refine .of_success ⟨body, l', output, ⟨rfl, rfl⟩, houtput⟩ ?_
          simp only [Session.verdict, houtput]
          rfl
      | none =>
          refine .of_failure ?_ ?_ ?_
          · rintro ⟨_, _, output, ⟨-, hbody⟩, houtput'⟩
            cases hbody
            cases houtput.symm.trans houtput'
          · simp only [Session.verdict, houtput]
            rfl
          · simp only [Session.verdict, houtput]
            rfl

theorem endsBy_hello (link : Link) :
    EndsBy (∃ body l', link.Obtains Request.hello.call body l') (hello link).1 := by
  rw [hello]
  generalize hsend : link.send Request.hello.call = sent
  obtain ⟨l', reply⟩ := sent
  simp only [Link.obtains_of_send hsend]
  cases reply with
  | ok body => exact .of_success ⟨body, l', rfl, rfl⟩ rfl
  | error e => exact .of_failure (by simp) rfl rfl

/-! ## Commands -/

def CodeSource.text? (files : String → Except FileError String) : CodeSource → Option String
  | text code => some code
  | file path => (files path).toOption

/-- A command that cannot be carried out, whatever the service does: its source file cannot be
read, or the draft that it adds has a blank name or a blank code. -/
inductive Command.Unusable (files : String → Except FileError String) : Command → Prop
  | unreadable {c : Command} {path : String} {e : FileError} (path_eq : c.path? = some path)
      (unread : files path = .error e) : Unusable files c
  | blank {name code : String} {source : CodeSource} (text_eq : source.text? files = some code)
      (blank : isBlankText name = true ∨ isBlankText code = true) :
      Unusable files (.add name source)

inductive RunSource.Obtained (files : String → Except FileError String) (l : Link) :
    RunSource → String → Link → Prop
  | text {code : String} : Obtained files l (.text code) code l
  | file {path code : String} (read : files path = .ok code) : Obtained files l (.file path) code l
  | sample {name code : String} {l' : Link} (loads : Loads name l code l') :
      Obtained files l (.sample name) code l'

inductive Command.Succeeds (files : String → Except FileError String) (l : Link) :
    Command → Prop
  | list {search : Option String} {body : Json} {l' : Link} {samples : List Sample}
      (answer : l.Obtains Request.listing.call body l')
      (read : Wire.readListing body = .ok samples) : Succeeds files l (.list search)
  | show {name code : String} {l' : Link} (loads : Loads name l code l') :
      Succeeds files l (.show name)
  | add {name code : String} {source : CodeSource} {body : Json} {l' : Link}
      (text_eq : source.text? files = some code)
      (answer : l.Obtains (Request.create ⟨name, code⟩).call body l') :
      Succeeds files l (.add name source)
  | run {source : RunSource} {code output : String} {body : Json} {l' l'' : Link}
      (source_eq : source.Obtained files l code l')
      (answer : l'.Obtains (Request.compile code).call body l'')
      (read : body.stringMember? "output" = some output) : Succeeds files l (.run source)
  | hello {body : Json} {l' : Link} (answer : l.Obtains Request.hello.call body l') :
      Succeeds files l .hello

section Perform

variable {files : String → Except FileError String} (link : Link)

theorem EndsBy.congr {p q : Prop} {e : Ending} (h : EndsBy p e) (iff : p ↔ q) : EndsBy q e :=
  ⟨fun hq => h.success (iff.mpr hq), fun hq => h.failure fun hp => hq (iff.mp hp)⟩

theorem perform_add {name code : String} {source : CodeSource}
    (h : source.text? files = some code) :
    perform files (.add name source) link = add name code link := by
  cases source with
  | text text =>
      cases h
      rfl
  | file path =>
      rw [CodeSource.text?] at h
      cases hread : files path with
      | error e =>
          rw [hread] at h
          cases h
      | ok text =>
          rw [hread] at h
          cases h
          simp only [perform, readFile, hread]

theorem perform_of_unreadable {c : Command} {path : String} {e : FileError}
    (hpath : c.path? = some path) (hread : files path = .error e) :
    ∃ ending, perform files c link = (ending, link) ∧ ending.exit = .usage ∧
      ending.stdout = "" := by
  have hfile : ∃ ending, readFile files path = .error ending ∧ ending.exit = .usage ∧
      ending.stdout = "" := ⟨_, by rw [readFile, hread], rfl, rfl⟩
  obtain ⟨ending, hfile, hending⟩ := hfile
  refine ⟨ending, ?_, hending⟩
  cases c with
  | add name source =>
      cases source with
      | file =>
          cases hpath
          simp only [perform, hfile]
      | text => cases hpath
  | run source =>
      cases source with
      | file =>
          cases hpath
          simp only [perform, hfile]
      | _ => cases hpath
  | _ => cases hpath

theorem perform_of_unusable {c : Command} (h : c.Unusable files) :
    ∃ ending, perform files c link = (ending, link) ∧ ending.exit = .usage ∧
      ending.stdout = "" := by
  cases h with
  | unreadable path_eq unread => exact perform_of_unreadable link path_eq unread
  | blank text_eq blank =>
      rw [perform_add link text_eq]
      exact add_of_blank blank link

theorem endsBy_add_of_usable {name : String} {source : CodeSource}
    (h : ¬ Command.Unusable files (.add name source)) :
    EndsBy (Command.Succeeds files link (.add name source))
      (perform files (.add name source) link).1 := by
  obtain ⟨code, hcode⟩ : ∃ code, source.text? files = some code := by
    cases source with
    | text code => exact ⟨code, rfl⟩
    | file path =>
        cases hread : files path with
        | ok code => exact ⟨code, by rw [CodeSource.text?, hread]; rfl⟩
        | error e => exact absurd (.unreadable rfl hread) h
  have solid : isBlankText name = false ∧ isBlankText code = false := by
    refine ⟨?_, ?_⟩ <;> rw [← Bool.not_eq_true] <;> intro hblank
    · exact h (.blank hcode (.inl hblank))
    · exact h (.blank hcode (.inr hblank))
  rw [perform_add link hcode]
  refine (endsBy_add solid.1 solid.2 link).congr ⟨fun ⟨body, l', answer⟩ => .add hcode answer, ?_⟩
  intro succeeds
  cases succeeds with
  | add text_eq answer =>
      cases hcode.symm.trans text_eq
      exact ⟨_, _, answer⟩

theorem endsBy_run_of_usable {source : RunSource} (h : ¬ Command.Unusable files (.run source)) :
    EndsBy (Command.Succeeds files link (.run source)) (perform files (.run source) link).1 := by
  -- A source is obtained in at most one way, and what follows is the execution of its code.
  have executed : ∀ code link', source.Obtained files link code link' →
      (∀ code' link'', source.Obtained files link code' link'' →
        code' = code ∧ link'' = link') →
      EndsBy (Command.Succeeds files link (.run source)) (execute code link').1 := by
    intro code link' hsource unique
    refine (endsBy_execute code link').congr ⟨fun ⟨body, l', output, answer, read⟩ =>
      .run hsource answer read, ?_⟩
    intro succeeds
    cases succeeds with
    | run source_eq answer read =>
        obtain ⟨rfl, rfl⟩ := unique _ _ source_eq
        exact ⟨_, _, _, answer, read⟩
  cases source with
  | text code =>
      refine executed code link .text ?_
      rintro _ _ ⟨⟩
      exact ⟨rfl, rfl⟩
  | file path =>
      cases hread : files path with
      | error e => exact absurd (.unreadable rfl hread) h
      | ok code =>
          have hperform : perform files (.run (.file path)) link = execute code link := by
            simp only [perform, readFile, hread]
          rw [hperform]
          refine executed code link (.file hread) ?_
          intro code' link'' obtained
          cases obtained with
          | file read =>
              cases hread.symm.trans read
              exact ⟨rfl, rfl⟩
  | sample name =>
      rcases fetchCode_cases name link with
        ⟨code, link', hfetch, loads⟩ | ⟨ending, link', hfetch, exit, silent, hnot⟩
      · simp only [perform, hfetch]
        refine executed code link' (.sample loads) ?_
        intro code' link'' obtained
        cases obtained with
        | sample loads' => exact loads'.unique loads
      · simp only [perform, hfetch]
        refine .of_failure ?_ exit silent
        intro succeeds
        cases succeeds with
        | run source_eq answer read =>
            cases source_eq with
            | sample loads => exact hnot _ _ loads

theorem endsBy_perform {c : Command} (h : ¬ c.Unusable files) :
    EndsBy (c.Succeeds files link) (perform files c link).1 := by
  cases c with
  | list search =>
      refine (endsBy_list search link).congr ⟨fun ⟨body, l', samples, answer, read⟩ =>
        .list answer read, ?_⟩
      intro succeeds
      cases succeeds with
      | list answer read => exact ⟨_, _, _, answer, read⟩
  | «show» name =>
      refine (endsBy_show name link).congr ⟨fun ⟨code, l', loads⟩ => .show loads, ?_⟩
      intro succeeds
      cases succeeds with
      | «show» loads => exact ⟨_, _, loads⟩
  | add name source => exact endsBy_add_of_usable link h
  | run source => exact endsBy_run_of_usable link h
  | hello =>
      refine (endsBy_hello link).congr ⟨fun ⟨body, l', answer⟩ => .hello answer, ?_⟩
      intro succeeds
      cases succeeds with
      | hello answer => exact ⟨_, _, answer⟩

end Perform

/-! ## Command lines -/

def Invocation.Unconfigured (i : Invocation) : Prop :=
  i.backend = none ∨ ∃ text e, i.backend = some text ∧ Config.ofText text = .error e

theorem Invocation.config_cases (i : Invocation) :
    (i.Unconfigured ∧ ∃ e, i.config = .error e) ∨
      ¬ i.Unconfigured ∧ ∃ config, i.config = .ok config := by
  rw [Invocation.config, Invocation.Unconfigured]
  cases i.backend with
  | none => exact .inl ⟨.inl rfl, _, rfl⟩
  | some text =>
      cases htext : Config.ofText text with
      | error e => exact .inl ⟨.inr ⟨text, e, rfl, htext⟩, e, htext⟩
      | ok config => exact .inr ⟨by simp [htext], config, htext⟩

def freshLink (peer : Config → Peer) (config : Config) : Link where
  config := config
  peer := peer config

theorem run_of_unconfigured (files : String → Except FileError String) (peer : Config → Peer)
    {i : Invocation} {e : ConfigError} (h : i.config = .error e) :
    ∃ ending, i.run files peer = (ending, []) ∧ ending.exit = .config ∧ ending.stdout = "" :=
  ⟨_, by rw [Invocation.run, h], rfl, rfl⟩

theorem run_of_config {files : String → Except FileError String} (peer : Config → Peer)
    {i : Invocation} {config : Config} (h : i.config = .ok config) :
    i.run files peer = ((perform files i.command (freshLink peer config)).1,
      (perform files i.command (freshLink peer config)).2.sent) := by
  rw [Invocation.run, h]
  rfl

/-- The exit code of a command line says what became of it: 3 without a usable address of the
service, else 2 for a command that cannot be carried out, else 0 if the service did its part
and 1 if it did not.  Nothing is sent where the code is 2 or 3, and nothing is printed where
it is not 0. -/
theorem exit_code_tells_outcome (files : String → Except FileError String)
    (peer : Config → Peer) (i : Invocation) :
    ((i.run files peer).1.exit.code = 3 ↔ i.Unconfigured) ∧
      ((i.run files peer).1.exit.code = 2 ↔ ¬ i.Unconfigured ∧ i.command.Unusable files) ∧
      ((i.run files peer).1.exit.code = 0 ↔ ∃ config, i.config = .ok config ∧
        ¬ i.command.Unusable files ∧ i.command.Succeeds files (freshLink peer config)) ∧
      ((i.run files peer).1.exit.code = 1 ↔ ∃ config, i.config = .ok config ∧
        ¬ i.command.Unusable files ∧ ¬ i.command.Succeeds files (freshLink peer config)) ∧
      ((i.run files peer).1.exit.code = 2 ∨ (i.run files peer).1.exit.code = 3 →
        (i.run files peer).2 = []) ∧
      ((i.run files peer).1.exit.code ≠ 0 → (i.run files peer).1.stdout = "") := by
  rcases i.config_cases with ⟨unconfigured, e, hconfig⟩ | ⟨configured, config, hconfig⟩
  · obtain ⟨ending, hrun, exit, silent⟩ := run_of_unconfigured files peer hconfig
    simp [hrun, exit, silent, Exit.code, unconfigured, hconfig]
  · by_cases unusable : i.command.Unusable files
    · obtain ⟨ending, hperform, exit, silent⟩ :=
        perform_of_unusable (freshLink peer config) unusable
      have hsent : (freshLink peer config).sent = [] := rfl
      rw [run_of_config peer hconfig, hperform]
      simp [exit, silent, Exit.code, configured, unusable, hsent]
    · have ends := endsBy_perform (freshLink peer config) unusable
      rw [run_of_config peer hconfig]
      by_cases served : i.command.Succeeds files (freshLink peer config)
      · simp [ends.success served, Exit.code, configured, unusable, hconfig, served]
      · simp [ends.failure served, Exit.code, configured, unusable, hconfig, served]

end CodeShelf.Cli
