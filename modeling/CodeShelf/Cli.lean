import CodeShelf.Cli.Arguments
import CodeShelf.Cli.Files
import CodeShelf.Session
import CodeShelf.Store
import CodeShelf.Transport.Http

/-!
# The commands

What each command does: the operations of a store or a session that it drives over
HTTP, what it prints, and the exit code it ends with.  The address of the service is
checked before anything else, and files are read before anything is sent.
-/

namespace CodeShelf.Cli

open Http

inductive Exit where
  | success
  | failure
  | usage
  | config
  deriving DecidableEq, Repr

def Exit.code : Exit → Nat
  | success => 0
  | failure => 1
  | usage => 2
  | config => 3

structure Ending where
  exit : Exit
  stdout : String := ""
  stderr : String := ""
  deriving DecidableEq, Repr

namespace Ending

def printed (line : String) : Ending :=
  { exit := .success, stdout := line ++ "\n" }

def complained (exit : Exit) (line : String) : Ending :=
  { exit := exit, stderr := line ++ "\n" }

def failed (exit : Exit) (message : String) : Ending :=
  complained exit ("Error: " ++ message)

end Ending

/-! ## Driving operations -/

def finishStore (s : Store) (awaiting : Store.Awaiting) (reply : Reply) (link : Link) :
    Store × Store.Result × Link :=
  match _h : (s.resume awaiting reply).next with
  | .finish result => ((s.resume awaiting reply).state, result, link)
  | .ask request next =>
      let sent := link.send request.call
      finishStore (s.resume awaiting reply).state next sent.2 sent.1
termination_by awaiting.callsLeft
decreasing_by exact Store.callsLeft_resume _h

def performStore (op : Store.Operation) (s : Store) (link : Link) :
    Store × Store.Result × Link :=
  let t := s.start op
  match t.next with
  | .finish result => (t.state, result, link)
  | .ask request awaiting =>
      let sent := link.send request.call
      finishStore t.state awaiting sent.2 sent.1

def performSession (op : Session.Operation) (s : Session) (link : Link) :
    Session × Session.Result × Link :=
  let t := s.start op
  match t.next with
  | .finish result => (t.state, result, link)
  | .ask request _ =>
      let sent := link.send request.call
      let t := t.state.resume sent.2
      (t.state, t.next.result, sent.1)

/-! ## Commands -/

def report (s : Store) (e : OperationError) : Ending :=
  match e with
  | .validation error => .failed .usage error.message
  -- What the store tells its user comes first.
  | e => .failed .failure ((s.view.error.map Notice.text).getD e.message)

def sampleLine (s : Sample) : String :=
  s.id.text ++ "\t" ++ s.name ++ "\n"

def list (search : Option String) (link : Link) : Ending × Link :=
  let fresh : Store := {}
  let store :=
    match search with
    | some term => (fresh.change (.search term)).1
    | none => fresh
  match performStore .attach store link with
  | (s, .error e, link) => (report s e, link)
  | (s, .ok _, link) =>
      ({ exit := .success, stdout := String.join (s.view.filtered.map sampleLine) }, link)

def fetchCode (name : String) (link : Link) : Except Ending String × Link :=
  match performStore (.fetchContent name) {} link with
  | (_, .ok answer, link) => (.ok answer.text, link)
  | (s, .error e, link) => (.error (report s e), link)

def showCode (name : String) (link : Link) : Ending × Link :=
  match fetchCode name link with
  | (.ok code, link) => (.printed code, link)
  | (.error ending, link) => (ending, link)

def readFile (files : String → Except FileError String) (path : String) :
    Except Ending String :=
  match files path with
  | .ok text => .ok text
  | .error e => .error (.failed .usage ("failed to read '" ++ path ++ "': " ++ e.message))

def addedEnding (name : String) (view : StoreView) : Ending where
  exit := .success
  stdout :=
    "Added '" ++ name ++ "'. " ++ toString view.samples.length ++
      " sample(s) in collection.\n"
  stderr :=
    match view.error with
    | some notice => "Warning: " ++ notice.text ++ "\n"
    | none => ""

def add (name code : String) (link : Link) : Ending × Link :=
  let fresh : Store := {}
  match performStore (.addSample name code) (fresh.change .openForm).1 link with
  | (s, .ok _, link) => (addedEnding name s.view, link)
  | (s, .error e, link) => (report s e, link)

def executionEnding : Session.Result → Ending
  | .ok (.succeeded output) => .printed output
  | .ok (.failed message) => .complained .failure message
  | .ok .idle => .failed .failure "unexpected execution state Idle"
  | .ok .pending => .failed .failure "unexpected execution state Pending"
  | .error e => .failed .failure e.message

def execute (code : String) (link : Link) : Ending × Link :=
  let (_, result, link) := performSession (.execute code) {} link
  (executionEnding result, link)

def helloFailedMessage : String := "Failed to fetch data. Please try again later."

def hello (link : Link) : Ending × Link :=
  match link.send Request.hello.call with
  | (link, .ok body) => (.printed body.toPrettyText, link)
  | (link, .error _) => (.complained .failure helloFailedMessage, link)

def perform (files : String → Except FileError String) (c : Command) (link : Link) :
    Ending × Link :=
  match c with
  | .list search => list search link
  | .show name => showCode name link
  | .add name (.text code) => add name code link
  | .add name (.file path) =>
      match readFile files path with
      | .ok code => add name code link
      | .error ending => (ending, link)
  | .run (.text code) => execute code link
  | .run (.file path) =>
      match readFile files path with
      | .ok code => execute code link
      | .error ending => (ending, link)
  | .run (.sample name) =>
      match fetchCode name link with
      | (.ok code, link) => execute code link
      | (.error ending, link) => (ending, link)
  | .hello => hello link

def Invocation.config (i : Invocation) : Except ConfigError Config :=
  match i.backend with
  | none => .error .noBackend
  | some text => Config.ofText text

/-- Carries a command line out: how it ends, and the requests it sent. -/
def Invocation.run (files : String → Except FileError String) (peer : Config → Peer)
    (i : Invocation) : Ending × List Http.Request :=
  match i.config with
  | .error e => (.failed .config (OperationError.config e).message, [])
  | .ok config =>
      let (ending, link) := perform files i.command { config := config, peer := peer config }
      (ending, link.sent)

end CodeShelf.Cli
