import LinkObservatory.Enums
import LinkObservatory.Identity
import LinkObservatory.Lib.LabelledRun
import LinkObservatory.Lib.Population

namespace LinkObservatory
set_option autoImplicit true

open Labelled

/-- A listener that keeps failing to accept is broken. -/
def kMaxConsecutiveAcceptFailures : Nat := 64

def isLoopbackHost (host : Bytes) : Bool :=
  host == ascii "localhost" || host == ascii "::1" || host == ascii "[::1]" ||
    (ascii "127.").isPrefixOf host

/-- The fields of `ServerOptions` that the accept loop reads. -/
structure AcceptOptions where
  host : Bytes := ascii "127.0.0.1"
  allowNonLoopback : Bool := false
  maxConnections : UInt64 := 8
  connectionLimit : UInt64 := 0
  persistOnClose : Bool := true
deriving DecidableEq, Repr

/-- The thread of a connection: in its handler, past the decrement of the active connections, or
past its last statement. -/
inductive ConnectionThread
  | handling
  | released
  | finished
deriving DecidableEq, Repr

/-- Where the caller of `serve` is. Between two of its accesses to what the threads share it is in
one phase. -/
inductive ServePhase
  | idle
  | looping
  | limiting
  | accepting
  | failed
  | accepted
  | counting
  | comparing
  | refusing
  | activating
  | noting
  | spawning
  | reclaiming (index : Nat)
  | joining (index : Nat)
  | persisting
  | returned (status : Status)
deriving DecidableEq, Repr

/-- `serve` has not been called or has returned. -/
def ServePhase.resting : ServePhase → Bool
  | idle | returned _ => true
  | _ => false

/-- A server: its options and members, the connections that wait in the listener's queue, the stop
requests that have not yet woken the accept loop, and where `serve` is. -/
structure TransportServer where
  options : AcceptOptions
  listener : Bool := false
  listening : Bool := false
  backlog : Nat := 0
  stopRequested : Bool := false
  wakers : Nat := 0
  activeConnections : Nat := 0
  totalConnections : Nat := 0
  connectionsAccepted : Nat := 0
  connectionsRefused : Nat := 0
  connectionsClosed : Nat := 0
  consecutiveFailures : Nat := 0
  connectionThreads : List ConnectionThread := []
  phase : ServePhase := .idle
deriving DecidableEq, Repr

/-- What one step of the server's threads does that the others can see. -/
inductive ServerAction
  | listen
  | serve
  | connect
  | requestStop
  | wake
  | check
  | accept (ok : Bool)
  | drop
  | count
  | refuse
  | activate
  | note
  | spawn
  | join (index : Nat)
  | reclaim
  | leave
  | persist (result : Status)
  | release (index : Nat)
  | finish (index : Nat)
deriving DecidableEq, Repr

namespace TransportServer

def make (options : AcceptOptions) : TransportServer := { options := options }

def limitReached (server : TransportServer) : Bool :=
  server.options.connectionLimit != 0 &&
    server.options.connectionLimit.toNat ≤ server.totalConnections

/-- The number of thread handles at which the loop waits for all of them; the product wraps. -/
def reclaimBound (options : AcceptOptions) : Nat := (options.maxConnections * 4).toNat

/-- `persist` is not asked for, or has nowhere to write to, or its status is returned. -/
def persistStatus (result : Status) : Status :=
  if !result.ok && result.code != .invalidArgument then result else .success

/-- `listen` before it touches a socket. -/
def listenCheck (options : AcceptOptions) : Status :=
  if !options.allowNonLoopback && !isLoopbackHost options.host then
    .of .rejected "listening beyond loopback requires an explicit opt in"
  else if options.maxConnections = 0 then
    .of .invalidArgument "max_connections must be positive"
  else .success

/-- A stop request connects to the listener once, if it can be reached over loopback. -/
def woken (server : TransportServer) : Nat :=
  if server.listening && server.listener && isLoopbackHost server.options.host then
    server.backlog + 1
  else server.backlog

/-- The atomic steps of the caller of `serve`, of the connection threads, of clients and of those
that ask for a stop. -/
inductive Step : TransportServer → ServerAction → TransportServer → Prop
  | listen {server : TransportServer} (hphase : server.phase = .idle)
      (hcheck : (listenCheck server.options).ok = true) :
      Step server .listen { server with listener := true, listening := true }
  | serve {server : TransportServer} (hphase : server.phase = .idle)
      (hlistener : server.listener = true) :
      Step server .serve { server with consecutiveFailures := 0, phase := .looping }
  | serveClosed {server : TransportServer} (hphase : server.phase = .idle)
      (hlistener : server.listener = false) :
      Step server .serve
        { server with phase := .returned (.of .internal "server is not listening") }
  | connect {server : TransportServer} (hlistener : server.listener = true) :
      Step server .connect { server with backlog := server.backlog + 1 }
  | requestStop {server : TransportServer} :
      Step server .requestStop
        { server with stopRequested := true, wakers := server.wakers + 1 }
  | wake {server : TransportServer} (hwakers : server.wakers = others + 1) :
      Step server .wake { server with wakers := others, backlog := server.woken }
  | stopped {server : TransportServer} (hphase : server.phase = .looping)
      (hstop : server.stopRequested = true) :
      Step server .check { server with phase := .joining 0 }
  | continued {server : TransportServer} (hphase : server.phase = .looping)
      (hstop : server.stopRequested = false) :
      Step server .check { server with phase := .limiting }
  | limited {server : TransportServer} (hphase : server.phase = .limiting)
      (hlimit : server.limitReached = true) :
      Step server .check { server with phase := .joining 0 }
  | permitted {server : TransportServer} (hphase : server.phase = .limiting)
      (hlimit : server.limitReached = false) :
      Step server .check { server with phase := .accepting }
  | acceptFailed {server : TransportServer} (hphase : server.phase = .accepting) :
      Step server (.accept false) { server with phase := .failed }
  | failedStopped {server : TransportServer} (hphase : server.phase = .failed)
      (hstop : server.stopRequested = true) :
      Step server .check { server with phase := .joining 0 }
  | failedAgain {server : TransportServer} (hphase : server.phase = .failed)
      (hstop : server.stopRequested = false)
      (hfailures : server.consecutiveFailures + 1 < kMaxConsecutiveAcceptFailures) :
      Step server .check
        { server with
          consecutiveFailures := server.consecutiveFailures + 1
          phase := .looping }
  | failedEnough {server : TransportServer} (hphase : server.phase = .failed)
      (hstop : server.stopRequested = false)
      (hfailures : kMaxConsecutiveAcceptFailures ≤ server.consecutiveFailures + 1) :
      Step server .check
        { server with
          consecutiveFailures := server.consecutiveFailures + 1
          phase := .joining 0 }
  | accept {server : TransportServer} (hphase : server.phase = .accepting)
      (hbacklog : server.backlog = others + 1) :
      Step server (.accept true)
        { server with backlog := others, consecutiveFailures := 0, phase := .accepted }
  | drop {server : TransportServer} (hphase : server.phase = .accepted)
      (hstop : server.stopRequested = true) :
      Step server .drop { server with phase := .joining 0 }
  | keep {server : TransportServer} (hphase : server.phase = .accepted)
      (hstop : server.stopRequested = false) :
      Step server .check { server with phase := .counting }
  | count {server : TransportServer} (hphase : server.phase = .counting) :
      Step server .count
        { server with totalConnections := server.totalConnections + 1, phase := .comparing }
  | full {server : TransportServer} (hphase : server.phase = .comparing)
      (hfull : server.options.maxConnections.toNat ≤ server.activeConnections) :
      Step server .check { server with phase := .refusing }
  | room {server : TransportServer} (hphase : server.phase = .comparing)
      (hroom : server.activeConnections < server.options.maxConnections.toNat) :
      Step server .check { server with phase := .activating }
  | refuse {server : TransportServer} (hphase : server.phase = .refusing) :
      Step server .refuse
        { server with connectionsRefused := server.connectionsRefused + 1, phase := .looping }
  | activate {server : TransportServer} (hphase : server.phase = .activating) :
      Step server .activate
        { server with activeConnections := server.activeConnections + 1, phase := .noting }
  | note {server : TransportServer} (hphase : server.phase = .noting) :
      Step server .note
        { server with connectionsAccepted := server.connectionsAccepted + 1, phase := .spawning }
  | spawn {server : TransportServer} (hphase : server.phase = .spawning)
      (hfew : server.connectionThreads.length + 1 < reclaimBound server.options) :
      Step server .spawn
        { server with
          connectionThreads := server.connectionThreads ++ [.handling]
          phase := .looping }
  | spawnMany {server : TransportServer} (hphase : server.phase = .spawning)
      (hmany : reclaimBound server.options ≤ server.connectionThreads.length + 1) :
      Step server .spawn
        { server with
          connectionThreads := server.connectionThreads ++ [.handling]
          phase := .reclaiming 0 }
  | reclaimJoin {server : TransportServer} (hphase : server.phase = .reclaiming index)
      (hthread : server.connectionThreads[index]? = some .finished) :
      Step server (.join index) { server with phase := .reclaiming (index + 1) }
  | reclaim {server : TransportServer}
      (hphase : server.phase = .reclaiming server.connectionThreads.length) :
      Step server .reclaim { server with connectionThreads := [], phase := .looping }
  | join {server : TransportServer} (hphase : server.phase = .joining index)
      (hthread : server.connectionThreads[index]? = some .finished) :
      Step server (.join index) { server with phase := .joining (index + 1) }
  | leavePersisting {server : TransportServer}
      (hphase : server.phase = .joining server.connectionThreads.length)
      (hpersist : server.options.persistOnClose = true) :
      Step server .leave
        { server with connectionThreads := [], listening := false, phase := .persisting }
  | leave {server : TransportServer}
      (hphase : server.phase = .joining server.connectionThreads.length)
      (hpersist : server.options.persistOnClose = false) :
      Step server .leave
        { server with connectionThreads := [], listening := false, phase := .returned .success }
  | persist {server : TransportServer} (hphase : server.phase = .persisting) :
      Step server (.persist result) { server with phase := .returned (persistStatus result) }
  | release {server : TransportServer}
      (hthread : server.connectionThreads[index]? = some .handling) :
      Step server (.release index)
        { server with
          activeConnections := server.activeConnections - 1
          connectionThreads := server.connectionThreads.set index .released }
  | finish {server : TransportServer}
      (hthread : server.connectionThreads[index]? = some .released) :
      Step server (.finish index)
        { server with
          connectionsClosed := server.connectionsClosed + 1
          connectionThreads := server.connectionThreads.set index .finished }

end TransportServer

end LinkObservatory
