import CodeShelf.Cli
import CodeShelf.Transport.Message
import Std.Async.DNS
import Std.Async.TCP

/-!
# The program

Reads the command line, the environment and the source file, carries the command out,
prints what it prints and exits as it says.  The command itself is a pure function of
the responses of the service: it is run on those that are there, and as long as it
sends a request beyond them, that request is sent over the network and the command run
again with its response.
-/

namespace CodeShelf.Main

open Std.Async

def addressesOf (host : Url.Host) : IO (Array Std.Net.IPAddr) :=
  match host with
  | .domain name => (DNS.getAddrInfo (String.ofList name) "").block
  | .ipv4 address =>
      return ((Std.Net.IPv4Addr.ofString (String.ofList (Url.ipv4Text address))).map .v4).toArray
  | .ipv6 pieces =>
      return ((Std.Net.IPv6Addr.ofString (String.ofList (Url.ipv6Text pieces))).map .v6).toArray

def socketAddress (address : Std.Net.IPAddr) (number : UInt16) : Std.Net.SocketAddress :=
  match address with
  | .v4 a => .v4 ⟨a, number⟩
  | .v6 a => .v6 ⟨a, number⟩

partial def readAll (socket : TCP.Socket.Client) (bytes : ByteArray) : Async ByteArray := do
  match ← socket.recv? 65536 with
  | some more => readAll socket (bytes ++ more)
  | none => return bytes

def exchange (url : Url.Web) (request : Http.Request) : IO Http.Response := do
  let number := (url.port.or (Url.defaultPort? url.scheme)).getD 80
  let some address := (← addressesOf url.host)[0]? | return .lost
  let host := String.ofList url.host.text ++ (url.port.map fun n => s!":{n}").getD ""
  let socket ← TCP.Socket.Client.mk
  let bytes ← Async.block do
    socket.connect (socketAddress address number.toUInt16)
    socket.send ⟨(request.bytes host).toArray⟩
    readAll socket .empty
  return .ofBytes bytes.toList

/-- The response to a request, which is lost where there is no connection.  Every request to an
`https` address is answered by a lost response, as no connection is encrypted. -/
def respond (config : Config) (request : Http.Request) : IO Http.Response := do
  match Url.parse config.baseUrl.toList with
  | .ok (.web url) =>
      if url.scheme = "http" then
        try exchange url request catch _ => return .lost
      else return .lost
  | _ => return .lost

partial def carryOut (files : String → Except Cli.FileError String)
    (invocation : Cli.Invocation) (responses : List Http.Response) : IO Cli.Ending := do
  let (ending, requests) := invocation.run files fun _ => .serving responses
  match requests[responses.length]?, invocation.config with
  | some request, .ok config =>
      carryOut files invocation (responses ++ [← respond config request])
  | _, _ => return ending

/-- Reads a source file.  A path that leads through a file fails when it is opened, a
directory when it is read. -/
def readSource (path : String) : IO (Except Cli.FileError String) := do
  try
    return Cli.textOf (← IO.FS.readBinFile path).toList
  catch
    | .noFileOrDirectory .. => return .error .noSuchFile
    | .inappropriateType (some _) .. => return .error .notDirectory
    | .inappropriateType none .. => return .error .isDirectory
    | .invalidArgument .. => return .error .nameTooLong
    | e => return .error (.other (toString e))

def usage : String :=
  "usage: [--backend URL] list [-s TERM] | show NAME | add NAME (-f FILE | -c CODE) | " ++
    "run (FILE | -c CODE | -s NAME) | hello\n"

end CodeShelf.Main

open CodeShelf in
def main (arguments : List String) : IO UInt32 := do
  let environment ← IO.getEnv backendVariable
  match Cli.Invocation.read? environment arguments with
  | none =>
      IO.eprint Main.usage
      return 2
  | some invocation =>
      let source ← match invocation.command.path? with
        | some path => Main.readSource path
        | none => pure (.error .noSuchFile)
      let ending ← Main.carryOut (fun _ => source) invocation []
      IO.print ending.stdout
      IO.eprint ending.stderr
      return ending.exit.code.toUInt32
