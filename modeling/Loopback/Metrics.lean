/-
Counters of calls and of how they ended.

Each counter is a word of 64 bits. A call counts once when it starts and once when it ends.
-/
import Loopback.Failure

namespace Loopback

/-- what is counted -/
inductive Counter where
  | calls
  | successes
  /-- calls that returned the declared error of the service -/
  | declared
  | remote
  | localAccess
  | configuration
  | codec
  | protocol
deriving DecidableEq, Repr

/-- all counters -/
def Counter.all : List Counter :=
  [calls, successes, declared, remote, localAccess, configuration, codec, protocol]

/-- the name under which a counter is exported -/
def Counter.exportName : Counter → String
  | calls => "localrpc.invocations.total"
  | successes => "localrpc.invocations.succeeded"
  | declared => "localrpc.failures.declared"
  | remote => "localrpc.failures.remote"
  | localAccess => "localrpc.failures.local_access"
  | configuration => "localrpc.failures.configuration"
  | codec => "localrpc.failures.codec"
  | protocol => "localrpc.failures.protocol"

/-- the counter of a kind of failure -/
def Counter.ofKind : FailureKind → Counter
  | .configuration => configuration
  | .localAccess => localAccess
  | .remoteTransport => remote
  | .codec => codec
  | .protocol => protocol

/-- the counters -/
structure Metrics where
  calls : UInt64
  successes : UInt64
  declared : UInt64
  remote : UInt64
  localAccess : UInt64
  configuration : UInt64
  codec : UInt64
  protocol : UInt64
deriving DecidableEq, Repr

namespace Metrics

def zero : Metrics := ⟨0, 0, 0, 0, 0, 0, 0, 0⟩

/-- the value of a counter -/
def get (m : Metrics) : Counter → UInt64
  | .calls => m.calls
  | .successes => m.successes
  | .declared => m.declared
  | .remote => m.remote
  | .localAccess => m.localAccess
  | .configuration => m.configuration
  | .codec => m.codec
  | .protocol => m.protocol

/-- count one more -/
def bump (m : Metrics) : Counter → Metrics
  | .calls => { m with calls := m.calls + 1 }
  | .successes => { m with successes := m.successes + 1 }
  | .declared => { m with declared := m.declared + 1 }
  | .remote => { m with remote := m.remote + 1 }
  | .localAccess => { m with localAccess := m.localAccess + 1 }
  | .configuration => { m with configuration := m.configuration + 1 }
  | .codec => { m with codec := m.codec + 1 }
  | .protocol => { m with protocol := m.protocol + 1 }

/-- the calls that failed in any way -/
def failures (m : Metrics) : UInt64 :=
  m.declared + m.remote + m.localAccess + m.configuration + m.codec + m.protocol

theorem get_bump (m : Metrics) (c c' : Counter) :
    (m.bump c).get c' = if c' = c then m.get c + 1 else m.get c' := by
  cases c <;> cases c' <;> rfl

end Metrics

end Loopback
