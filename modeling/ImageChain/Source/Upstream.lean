import ImageChain.Failure
import ImageChain.Text.Blank
import ImageChain.Text.Fields

/-!
# Hosts of a web source

A web source has several hosts that offer the same images.  Each is checked from time to time by
asking for one path, and lookups go to the healthy ones in turn.  A host is sick until a check
succeeds, and an event is reported whenever a check changes its state.
-/

namespace ImageChain

/-- A host of a web source. -/
structure Host where
  /-- Where its paths begin. -/
  baseUrl : String
  /-- Whether its last check succeeded. -/
  healthy : Bool
  deriving DecidableEq, Repr

/-- What a check found out about a host. -/
inductive HostStatus where
  | healthy
  | sick
  deriving DecidableEq, Repr

/-- The status that goes with the outcome of a check. -/
def HostStatus.ofOutcome (succeeded : Bool) : HostStatus :=
  if succeeded then .healthy else .sick

/-- A change in the state of a host. -/
structure HostEvent where
  /-- The place of the host in the list. -/
  place : Nat
  /-- Where its paths begin. -/
  baseUrl : String
  /-- Its state from now on. -/
  status : HostStatus
  deriving DecidableEq, Repr

/-- The hosts of a web source. -/
structure Upstream where
  /-- The hosts, in the order of the source's address. -/
  hosts : List Host
  /-- The path that checks ask for. -/
  ping : String
  /-- The number of hosts picked so far. -/
  cursor : Nat
  deriving DecidableEq, Repr

namespace Upstream

/-- The characters before and after the first `://`. -/
def splitScheme : List Char → Option (List Char × List Char)
  | [] => none
  | ':' :: '/' :: '/' :: rest => some ([], rest)
  | c :: rest => (splitScheme rest).map fun (scheme, rest) => (c :: scheme, rest)

/-- Whether a character ends the list of hosts. -/
def endsHosts (c : Char) : Bool :=
  c == '/' || c == '?'

/-- The hosts in a list that is separated by commas; blank ones are left out. -/
def parseHosts (hosts : List Char) : List (List Char) :=
  ((splitChars ',' hosts).map trimChars).filter fun host => !host.isEmpty

/-- The hosts and the path that the address of a web source gives. -/
def parse (uri : String) : Except Failure Upstream :=
  match splitScheme uri.toList with
  | none => .error (.configuration ("Invalid upstream URI: " ++ uri))
  | some (scheme, rest) =>
    let hosts := parseHosts (rest.takeWhile fun c => !endsHosts c)
    let path := (rest.dropWhile fun c => !endsHosts c).takeWhile (· != '?')
    if hosts.isEmpty then .error (.configuration ("No upstream hosts in " ++ uri))
    else
      let host (name : List Char) : Host :=
        ⟨String.ofList (scheme ++ ("://".toList ++ name)), false⟩
      .ok ⟨hosts.map host, if path.isEmpty then "/" else String.ofList path, 0⟩

/-- The base addresses of the healthy hosts, in order. -/
def healthyHosts (upstream : Upstream) : List String :=
  (upstream.hosts.filter (·.healthy)).map (·.baseUrl)

/-- The number of picks after which counting starts again. -/
def cursorLimit : Nat := UInt64.size

/-- The next healthy host in turn, and the hosts afterwards. -/
def pick (upstream : Upstream) : Option (String × Upstream) :=
  let healthy := upstream.healthyHosts
  match healthy[upstream.cursor % healthy.length]? with
  | none => none
  | some host => some (host, { upstream with cursor := (upstream.cursor + 1) % cursorLimit })

/-- The address that a check of a host asks for. -/
def pingUrl (upstream : Upstream) (host : Host) : String :=
  host.baseUrl ++ upstream.ping

/-- The hosts after a check of the one in a place, and the event if its state changed. -/
def observe (upstream : Upstream) (place : Nat) (succeeded : Bool) : Upstream × Option HostEvent :=
  match upstream.hosts[place]? with
  | none => (upstream, none)
  | some host =>
    let hosts := upstream.hosts.set place { host with healthy := succeeded }
    let event : Option HostEvent :=
      if host.healthy = succeeded then none
      else some ⟨place, host.baseUrl, .ofOutcome succeeded⟩
    ({ upstream with hosts := hosts }, event)

/-- The hosts after checks that finish in the given order, and the events. -/
def observeAll (upstream : Upstream) : List (Nat × Bool) → Upstream × List HostEvent
  | [] => (upstream, [])
  | (place, succeeded) :: rest =>
    let (next, event) := upstream.observe place succeeded
    let (final, events) := next.observeAll rest
    (final, event.toList ++ events)

/-- Checks all hosts in order; `check` tells whether a request for an address succeeds. -/
def checkAll {m : Type → Type} [Monad m] (check : String → m Bool) (upstream : Upstream) :
    m (Upstream × List HostEvent) := do
  let outcomes ← upstream.hosts.mapM fun host => check (upstream.pingUrl host)
  return upstream.observeAll (outcomes.zipIdx.map fun (succeeded, place) => (place, succeeded))

/-- The hosts after their first check.  The time between checks must not be zero. -/
def connect {m : Type → Type} [Monad m] (check : String → m Bool) (uri : String)
    (interval : Duration) : ExceptT Failure m (Upstream × List HostEvent) := do
  if interval = .zero then
    throw (.configuration "Health check interval must be positive")
  let upstream ← ExceptT.mk (pure (parse uri))
  upstream.checkAll fun url => ExceptT.lift (check url)

/-- The hosts as they are shown to a developer. -/
def inspect (upstream : Upstream) : String :=
  let hosts := quoteAll (upstream.hosts.map (·.baseUrl))
  "HttpSource \x7b hosts: " ++ hosts ++ ", ping: " ++ quote upstream.ping ++ " \x7d"

end Upstream

end ImageChain
