import ImageChain.Connection.Cache

/-!
# Calls that share connections

Many calls may ask for connections at the same time.  Each asks the cache, waits for a dial if it has
to, and settles the outcome; or it is given up while it waits.  Calls and dials are numbered in the
order in which they start, and an event says which of them gets on with its work.

A dial belongs to those who wait for it: it can only finish while at least one call waits for it.
-/

namespace ImageChain

/-- How far a call has got. -/
inductive CallStage (κ : Type) where
  /-- It waits for a dial. -/
  | waiting (dial : Nat)
  /-- It has its answer. -/
  | returned (outcome : Except Failure κ)
  /-- It was given up while it waited. -/
  | dropped

/-- A call for a connection. -/
structure Call (κ : Type) where
  /-- The address it asks for. -/
  address : String
  /-- How far it has got. -/
  stage : CallStage κ

/-- A dial. -/
structure Dial (κ : Type) where
  /-- The address it dials. -/
  address : String
  /-- Its outcome, once it is finished. -/
  outcome : Option (Except Failure κ)

/-- The cache, and all dials and calls since it was made. -/
structure Exchange (κ : Type) where
  /-- The cache. -/
  cache : ConnectionCache κ
  /-- The dials, by number. -/
  dials : List (Dial κ)
  /-- The calls, by number. -/
  calls : List (Call κ)

/-- Something that happens in an exchange. -/
inductive ExchangeEvent (κ : Type) where
  /-- A new call asks for an address. -/
  | ask (address : String)
  /-- A dial finishes. -/
  | finish (dial : Nat) (outcome : Except Failure κ)
  /-- A waiting call takes the outcome of its dial. -/
  | collect (call : Nat)
  /-- A waiting call is given up. -/
  | drop (call : Nat)

namespace Exchange

variable {κ : Type}

/-- The exchange without any call. -/
def start : Exchange κ := ⟨.empty, [], []⟩

/-- Whether a call waits for a dial. -/
def awaits (call : Call κ) (dial : Nat) : Bool :=
  match call.stage with
  | .waiting number => number == dial
  | _ => false

/-- The exchange after a new call has asked for an address. -/
def ask (exchange : Exchange κ) (address : String) : Exchange κ :=
  match exchange.cache.ask address exchange.dials.length with
  | (.ready connection, cache) =>
    { exchange with
      cache := cache
      calls := exchange.calls ++ [⟨address, .returned (.ok connection)⟩] }
  | (.joins dial, cache) =>
    { exchange with cache := cache, calls := exchange.calls ++ [⟨address, .waiting dial⟩] }
  | (.dials dial, cache) =>
    ⟨cache, exchange.dials ++ [⟨address, none⟩], exchange.calls ++ [⟨address, .waiting dial⟩]⟩

/-- The exchange after a dial has finished, if it is under way and somebody waits for it. -/
def finish (exchange : Exchange κ) (dial : Nat) (outcome : Except Failure κ) :
    Option (Exchange κ) :=
  match exchange.dials[dial]? with
  | some ⟨address, none⟩ =>
    if exchange.calls.any (awaits · dial) then
      some { exchange with dials := exchange.dials.set dial ⟨address, some outcome⟩ }
    else none
  | _ => none

/-- The exchange after a call has taken the outcome of its dial, if that has finished. -/
def collect (exchange : Exchange κ) (call : Nat) : Option (Exchange κ) :=
  match exchange.calls[call]? with
  | some ⟨address, .waiting dial⟩ =>
    match exchange.dials[dial]? with
    | some ⟨_, some outcome⟩ =>
      some { exchange with
        cache := exchange.cache.settle address dial outcome
        calls := exchange.calls.set call ⟨address, .returned outcome⟩ }
    | _ => none
  | _ => none

/-- The exchange after a waiting call has been given up. -/
def drop (exchange : Exchange κ) (call : Nat) : Option (Exchange κ) :=
  match exchange.calls[call]? with
  | some ⟨address, .waiting _⟩ =>
    some { exchange with calls := exchange.calls.set call ⟨address, .dropped⟩ }
  | _ => none

/-- The exchange after an event, if the event can happen. -/
def step (exchange : Exchange κ) : ExchangeEvent κ → Option (Exchange κ)
  | .ask address => some (exchange.ask address)
  | .finish dial outcome => exchange.finish dial outcome
  | .collect call => exchange.collect call
  | .drop call => exchange.drop call

/-- The exchange after several events, if all of them can happen in order. -/
def run (exchange : Exchange κ) (events : List (ExchangeEvent κ)) : Option (Exchange κ) :=
  events.foldlM step exchange

end Exchange

end ImageChain
