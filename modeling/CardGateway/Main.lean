import CardGateway.Config.Basic
import CardGateway.Live.Tape
import CardGateway.Url.Domain
import Std.Async.DNS
import Std.Async.Signal
import Std.Async.TCP
import Std.Async.Timer
import Std.Internal.UV.System

/-!
# The command line

Runs one session for a token from a file, or shows the configuration in effect.
-/

namespace CardGateway.CommandLine

open CardGateway.Text Std.Async

inductive Command where
  | run (token : String) (card : Option String)
  | showConfig
  deriving Repr

structure Options where
  verbose : Bool
  config : Option String
  token : Option String
  card : Option String
  words : List String
  deriving Repr

def Options.empty : Options := ⟨false, none, none, none, []⟩

def usage : String :=
  "Usage: chipgateway [--verbose] [--config FILE] run --token FILE [--card FILE]\n" ++
  "       chipgateway [--verbose] [--config FILE] show-config"

def parse (options : Options) : List String → Except String Options
  | [] => .ok options
  | "-v" :: rest | "--verbose" :: rest => parse { options with verbose := true } rest
  | "-c" :: file :: rest | "--config" :: file :: rest =>
      parse { options with config := some file } rest
  | "-t" :: file :: rest | "--token" :: file :: rest =>
      parse { options with token := some file } rest
  | "--card" :: file :: rest => parse { options with card := some file } rest
  | word :: rest =>
      if word.startsWith "-" then .error s!"unexpected argument {word}"
      else parse { options with words := options.words ++ [word] } rest

def Options.command (options : Options) : Except String Command :=
  match options.words, options.token with
  | ["run"], some token => .ok (.run token options.card)
  | ["run"], none => .error "run needs --token"
  | ["show-config"], _ => .ok .showConfig
  | _, _ => .error "expected run or show-config"

def quoted (text : String) : String :=
  let escape (c : Char) : String := match c with
    | '"' => "\\\""
    | '\\' => "\\\\"
    | '\n' => "\\n"
    | c => c.toString
  "\"" ++ String.join (text.toList.map escape) ++ "\""

/-- A configuration as its file would hold it. -/
def shownConfig (config : Config) : String :=
  let entries := config.allowlist.map fun entry => "    " ++ quoted entry ++ ",\n"
  let allowlist := if entries.isEmpty then "[]" else "[\n" ++ String.join entries ++ "]"
  let store := match config.trustStore with
    | some path => "trust_store = " ++ quoted path ++ "\n"
    | none => ""
  s!"validate_challenge_response = {config.validateChallenge}\n" ++
  s!"remote_pin_allowed = {config.remotePinAllowed}\n" ++
  s!"enforce_update_allowlist = {config.enforceAllowlist}\n" ++
  s!"update_allowlist = {allowlist}\n" ++ store

def readFile (path : String) : IO (Option Bytes) := do
  try return some (← IO.FS.readBinFile path).toList
  catch _ => return none

def loadConfig (file : Option String) : IO (Except Failure Config) := do
  let content ← readFile (file.getD Config.fileName)
  let environment ← Std.Internal.UV.System.osEnviron
  match Config.load content environment.toList with
  | .ok config => return .ok config
  | .error issue => return .error (.config [issue])

/-- The bytes of a challenge, as random as the system has them. -/
def drawChallenge : IO Challenge := do
  let bytes := (← IO.getRandomBytes 32).toList
  if h : bytes.length = 32 then return ⟨bytes, h⟩
  else throw (IO.userError "no random bytes")

def dial (host port : String) : Async TCP.Socket.Client := do
  match (← DNS.getAddrInfo host port)[0]?, port.toNat? with
  | some address, some port =>
      let socket ← TCP.Socket.Client.mk
      socket.connect (match address with
        | .v4 address => .v4 ⟨address, port.toUInt16⟩
        | .v6 address => .v6 ⟨address, port.toUInt16⟩)
      socket.noDelay
      return socket
  | _, _ => throw (IO.userError "address not found")

def elapsed (start : Nat) : IO Millis := do return (← IO.monoMsNow) - start

/-- The task that ends when the user interrupts the program, if the system tells. -/
def listen : IO (Option (AsyncTask Int)) := do
  try return some (← (← Signal.Waiter.mk .sigint true).wait)
  catch problem =>
    IO.eprintln s!"Failed to listen for Ctrl-C: {problem}"
    return none

/-- What comes first while something is waited for. -/
inductive Heard (α : Type) where
  | came (result : Except IO.Error α)
  | interrupted
  | late

/-- What may be waited for at once: something of the network, the user, and an instant. -/
structure Watch (α : Type) where
  work : Option (AsyncTask α)
  interrupt : Option (AsyncTask Int)
  limit : Option Millis

def Watch.hear {α : Type} (start : Nat) (watch : Watch α) : IO (Heard α) := do
  let work := watch.work.toList.map fun task => Task.map .came task
  let interrupt := watch.interrupt.toList.map fun task => Task.map (fun _ => .interrupted) task
  let timer ← watch.limit.toList.mapM fun instant => do
    let left := instant - (← elapsed start)
    let timer ← (sleep (.ofNat left)).toIO
    return Task.map (fun _ => .late) timer
  match work ++ interrupt ++ timer with
  | first :: rest => IO.waitAny (first :: rest)
  | [] => return .late

/-- What an entry of a journal tells on the terminal: what the user is told, and every step of the
run if asked for. -/
def Entry.shown (verbose : Bool) (entry : Entry) : Option String :=
  match entry.event with
  | .present notice => some notice.logLine.2
  | .enter before after =>
      if verbose then some s!"{entry.time} ms: {before.text} > {after.text}" else none
  | _ => none

/-- A run and the means to go on with it. -/
structure Conduct where
  setup : Setup
  card : Fixture
  host : String
  port : String
  verbose : Bool
  start : Nat
  /-- None behind the first interrupt. -/
  interrupt : Option (AsyncTask Int)
  sockets : Array TCP.Socket.Client
  tape : Live.Tape

namespace Conduct

def interrupted (conduct : Conduct) (instant : Millis) : IO Conduct := do
  IO.eprintln "Interrupted, stopping the session"
  return { conduct with interrupt := none, tape := conduct.tape.interrupted instant }

/-- Gets what a run wants of the network, unless the user or the end of the run comes first. -/
def get (conduct : Conduct) (limit : Option Millis) : Live.Want → IO (Option Conduct)
  | .stream => do
      let dialing ← (dial conduct.host conduct.port).toIO
      let heard ← Watch.hear conduct.start ⟨some dialing, conduct.interrupt, limit⟩
      let now ← elapsed conduct.start
      let refused (reason : String) := conduct.tape.addOpening now (.error reason)
      match heard with
      | .came (.ok socket) => return some { conduct with
          sockets := conduct.sockets.push socket, tape := conduct.tape.addOpening now (.ok ()) }
      | .came (.error problem) => return some { conduct with tape := refused (toString problem) }
      -- A stream that is given up counts as one that was asked for.
      | .interrupted => some <$> { conduct with tape := refused "interrupted" }.interrupted now
      | .late => return none
  | .answer stream request isWritten => do
      let opened := (conduct.tape.openings.take stream).countP fun (_, opening) =>
        opening.toOption.isSome
      let some socket := conduct.sockets[opened]? | throw (IO.userError "no such stream")
      let conduct := if isWritten then conduct
        else { conduct with tape := conduct.tape.addRequest }
      unless isWritten do
        try (socket.send ⟨request.toBytes.toArray⟩).block
        catch _ => pure ()
      let receiving ← (socket.recv? 65536).toIO
      let heard ← Watch.hear conduct.start ⟨some receiving, conduct.interrupt, limit⟩
      let now ← elapsed conduct.start
      match heard with
      | .came result =>
          let bytes := result.toOption.join.map fun bytes => bytes.toList
          return some { conduct with tape := conduct.tape.addPiece ⟨now, bytes⟩ }
      | .interrupted => some <$> conduct.interrupted now
      | .late => return none

/-- Goes on until the run is over. A run that has ended may still wait for the answer to its notice. -/
partial def finish (conduct : Conduct) : IO (Except Failure Terminate) := do
  let (ending, run) := Live.play conduct.setup conduct.card s!"{conduct.host}:{conduct.port}"
    conduct.tape
  let now ← elapsed conduct.start
  match ending, run.world.playback.want with
  | .finished result, want =>
      let more ← match want with
        | some want => if now < run.now then conduct.get (some run.now) want else pure none
        | none => pure none
      match more with
      | some conduct => conduct.finish
      | none =>
          for line in run.journal.filterMap (Entry.shown conduct.verbose) do IO.eprintln line
          return result
  | _, some want =>
      let heard : Heard Unit ←
        Watch.hear conduct.start ⟨none, conduct.interrupt, some run.now⟩
      match heard with
      | .interrupted => (← conduct.interrupted (min (← elapsed conduct.start) run.now)).finish
      | _ =>
          let some conduct ← conduct.get none want
            | throw (IO.userError "the run does not go on")
          conduct.finish
  | _, none => throw (IO.userError "the run does not go on")

end Conduct

def complain (message : String) : IO UInt32 := do
  IO.eprintln ("Error: " ++ message)
  return 1

def complainOf (failure : Failure) : IO UInt32 := do
  if let some url := failure.redirect? then IO.println s!"Error address: {url.text}"
  complain (failure.message?.getD failure.kind.text)

def loadCard (file : Option String) : IO (Except Fixture.Fault Fixture) := do
  match file with
  | none => return Fixture.bundled
  | some path =>
      match ← readFile path with
      | some document => return Fixture.ofJson document
      | none => return .error .unreadable

def runSession (verbose : Bool) (config : Config) (tokenFile : String)
    (cardFile : Option String) : IO UInt32 := do
  let some document ← readFile tokenFile
    | complain s!"failed to read token {tokenFile}"
  match SessionToken.codec.decode document with
  | .error fault => complain s!"malformed token: {fault.message}"
  | .ok token =>
      match Session.ofToken token, ← loadCard cardFile with
      | .error failure, _ => complainOf failure
      | .ok _, .error fault => complain (String.intercalate ": " fault.chain)
      | .ok session, .ok card =>
          let store ← match config.trustStore with
            | some path => readFile path
            | none => pure none
          let setup : Setup := ⟨session, config, none, fun _ => store, ← drawChallenge⟩
          match session.server.hostText, session.server.effectivePort with
          | some host, some port =>
              let conduct : Conduct := ⟨setup, card, host, toString port, verbose, ← IO.monoMsNow,
                ← listen, #[], .empty⟩
              match ← conduct.finish with
              | .ok message =>
                  IO.println s!"Session terminated: {message.result.text}"
                  return 0
              | .error failure => complainOf failure
          | none, _ => complain Url.PeerFault.hostless.message
          | some _, none => complain Url.PeerFault.portless.message

def perform (arguments : List String) : IO UInt32 := do
  match (parse .empty arguments).bind fun options => return (options, ← options.command) with
  | .error problem =>
      IO.eprintln s!"error: {problem}\n\n{usage}"
      return 2
  | .ok (options, command) =>
      match ← loadConfig options.config with
      | .error failure => complainOf failure
      | .ok config =>
          match command with
          | .run token card => runSession options.verbose config token card
          | .showConfig =>
              IO.print (shownConfig config)
              return 0

end CardGateway.CommandLine

def main (arguments : List String) : IO UInt32 :=
  CardGateway.CommandLine.perform arguments
