import ImageChain.Registry

/-!
# Connections by address

Connections are kept by address and never given up.  While an address is being dialed, everyone who
asks for it waits for that one dial.  A failed dial is told to those who wait for it and then
forgotten, so that the next one who asks starts another.

Asking and settling are the two short sections in which the cache is read or changed.  The dial and
the wait for it happen between them.
-/

namespace ImageChain

/-- The connections and dials of all addresses.  Dials are numbered. -/
structure ConnectionCache (κ : Type) where
  /-- The connections, by address. -/
  ready : Registry κ
  /-- The dials under way, by address. -/
  dialing : Registry Nat

/-- What becomes of a call that asks for an address. -/
inductive ConnectionAnswer (κ : Type) where
  /-- It gets a connection at once. -/
  | ready (connection : κ)
  /-- It waits for a dial that is under way. -/
  | joins (dial : Nat)
  /-- It starts a dial and waits for it. -/
  | dials (dial : Nat)

namespace ConnectionCache

variable {κ : Type}

/-- The cache without any connection. -/
def empty : ConnectionCache κ := ⟨.empty, .empty⟩

/-- Asks for an address; a dial that has to be started gets the number `next`. -/
def ask (cache : ConnectionCache κ) (address : String) (next : Nat) :
    ConnectionAnswer κ × ConnectionCache κ :=
  match cache.ready.find? address with
  | some connection => (.ready connection, cache)
  | none =>
    match cache.dialing.find? address with
    | some dial => (.joins dial, cache)
    | none => (.dials next, { cache with dialing := cache.dialing.insert address next })

/-- Takes note of the outcome of a dial, unless that has been done already. -/
def settle (cache : ConnectionCache κ) (address : String) (dial : Nat)
    (outcome : Except Failure κ) : ConnectionCache κ :=
  if cache.dialing.find? address = some dial then
    match outcome with
    | .ok connection => ⟨cache.ready.insert address connection, cache.dialing.erase address⟩
    | .error _ => { cache with dialing := cache.dialing.erase address }
  else cache

/-- Whether there is a connection for an address. -/
def isReady (cache : ConnectionCache κ) (address : String) : Bool :=
  (cache.ready.find? address).isSome

/-- Gets a connection when nobody else uses the cache: the one there is, or a new one. -/
def connect {m : Type → Type} [Monad m] (dial : String → m (Except Failure κ)) (address : String) :
    ExceptT Failure (StateT (ConnectionCache κ) m) κ := ExceptT.mk do
  match (← get).ask address 0 with
  | (.ready connection, _) => return .ok connection
  | (.joins number, cache) | (.dials number, cache) =>
    let outcome ← StateT.lift (dial address)
    set (cache.settle address number outcome)
    return outcome

end ConnectionCache

end ImageChain
