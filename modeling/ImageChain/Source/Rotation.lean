import ImageChain.Source.Request

/-!
# Lookups that share hosts

Many lookups may go through the hosts of a web source at the same time, while checks change the
state of hosts.  A lookup looks at the hosts one after the other, each as it is at that moment, and
remembers where it found healthy ones.  Then it takes the next number from the cursor, in one go, and
asks the host that the number stands for.

Lookups are numbered in the order in which they start, and an event says which of them gets on with
its work.
-/

namespace ImageChain

/-- How far a lookup has got. -/
inductive LookupStage where
  /-- It goes through the hosts.  It has looked at the first few, and found healthy ones in some
  places. -/
  | looking (path : String) (looked : Nat) (found : List Nat)
  /-- It asks the host in a place for a path. -/
  | asking (place : Nat) (path : String)
  /-- It has failed. -/
  | failed (failure : Failure)

/-- A lookup in a web source. -/
structure Lookup where
  /-- What it is given. -/
  parameters : List String
  /-- How far it has got. -/
  stage : LookupStage

/-- The hosts, and all lookups since they were connected. -/
structure Rotation where
  /-- The hosts. -/
  upstream : Upstream
  /-- The lookups, by number. -/
  lookups : List Lookup
  /-- The lookups that have picked a host and the place that they have picked, in that order. -/
  picks : List (Nat × Nat)

/-- Something that happens to the hosts. -/
inductive RotationEvent where
  /-- A new lookup starts. -/
  | lookUp (parameters : List String)
  /-- A lookup looks at the next host. -/
  | look (lookup : Nat)
  /-- A lookup that has looked at all hosts picks one. -/
  | pick (lookup : Nat)
  /-- A check of a host finishes. -/
  | check (place : Nat) (succeeded : Bool)

namespace Rotation

/-- The hosts as they are built, and no lookup. -/
def start (upstream : Upstream) : Rotation := ⟨upstream, [], []⟩

/-- The path that a lookup asks for. -/
def pathOf (parameters : List String) : Except Failure String := do
  requireParameters "http" 1 parameters
  queryUnescape (parameters.headD "")

/-- Where a lookup begins. -/
def firstStage (parameters : List String) : LookupStage :=
  match pathOf parameters with
  | .error failure => .failed failure
  | .ok path => .looking path 0 []

/-- What comes of a lookup that finds no healthy host. -/
def noHealthyHost : Failure := .backend "No healthy http upstream"

/-- The rotation after a lookup has got to a stage. -/
def advance (rotation : Rotation) (lookup : Nat) (parameters : List String) (stage : LookupStage) :
    Rotation :=
  { rotation with lookups := rotation.lookups.set lookup ⟨parameters, stage⟩ }

/-- The rotation after a lookup has looked at the next host, if there is one. -/
def look (rotation : Rotation) (lookup : Nat) : Option Rotation :=
  match rotation.lookups[lookup]? with
  | some ⟨parameters, .looking path looked found⟩ =>
    match rotation.upstream.hosts[looked]? with
    | some host =>
      let found := if host.healthy then found ++ [looked] else found
      some (rotation.advance lookup parameters (.looking path (looked + 1) found))
    | none => none
  | _ => none

/-- The rotation after a lookup has picked one of the hosts that it found, if it has looked at all of
them.  Without any healthy host the cursor stays where it is. -/
def pick (rotation : Rotation) (lookup : Nat) : Option Rotation :=
  match rotation.lookups[lookup]? with
  | some ⟨parameters, .looking path looked found⟩ =>
    if looked < rotation.upstream.hosts.length then none
    else
      match found[rotation.upstream.cursor % found.length]? with
      | none => some (rotation.advance lookup parameters (.failed noHealthyHost))
      | some place =>
        let cursor := (rotation.upstream.cursor + 1) % Upstream.cursorLimit
        some { rotation.advance lookup parameters (.asking place path) with
          upstream := { rotation.upstream with cursor := cursor }
          picks := rotation.picks ++ [(lookup, place)] }
  | _ => none

/-- The rotation after an event, if the event can happen. -/
def step (rotation : Rotation) : RotationEvent → Option Rotation
  | .lookUp parameters =>
    some { rotation with lookups := rotation.lookups ++ [⟨parameters, firstStage parameters⟩] }
  | .look lookup => rotation.look lookup
  | .pick lookup => rotation.pick lookup
  | .check place succeeded =>
    some { rotation with upstream := (rotation.upstream.observe place succeeded).1 }

/-- The rotation after several events, if all of them can happen in order. -/
def run (rotation : Rotation) (events : List RotationEvent) : Option Rotation :=
  events.foldlM step rotation

/-- What a lookup asks for, once it has picked a host. -/
def request (rotation : Rotation) (lookup : Nat) : Option Request :=
  match rotation.lookups[lookup]? with
  | some ⟨_, .asking place path⟩ =>
    rotation.upstream.hosts[place]?.map fun host => .web (host.baseUrl ++ path)
  | _ => none

end Rotation

end ImageChain
