import Ardents.Crypto.Session

/-!
# Idempotency keys

A client that repeats a request sends the same idempotency key. `handleRPC` looks the key up,
dispatches the request if nothing is found, and stores the response. The cache has a lock, which
is held for the lookup and for the storing and not in between.
-/

namespace Ardents.Rpc

open Go
open Crypto (Time)

/-! ## The cache -/

structure RpcError where
  code : Int
  message : String
  deriving DecidableEq, Repr

/-- `rpcResponse`; `ρ` are the results. -/
structure RpcResponse (ρ : Type) where
  id : String
  result : Option ρ
  error : Option RpcError
  deriving DecidableEq, Repr

structure RpcIdempotencyEntry (ρ : Type) where
  requestHash : String
  response : RpcResponse ρ
  createdAt : Time
  deriving DecidableEq, Repr

def rpcIdempotencyTTL : Int := 600 * 10 ^ 9

def rpcIdempotencyMaxEntries : Nat := 1024

abbrev RpcIdempotencyCache (ρ : Type) : Type := GoMap String (RpcIdempotencyEntry ρ)

inductive Lookup (ρ : Type) where
  | missing
  | conflict
  | found (response : RpcResponse ρ)
  deriving DecidableEq, Repr

namespace RpcIdempotencyCache

variable {ρ : Type}

variable (cache : RpcIdempotencyCache ρ)

def prune (now : Time) : RpcIdempotencyCache ρ :=
  cache.filter fun _ entry => !decide (rpcIdempotencyTTL < now - entry.createdAt)

def get (cacheKey requestHash : String) (now : Time) : Lookup ρ × RpcIdempotencyCache ρ :=
  let cache := prune cache now
  match cache[cacheKey]? with
  | none => (.missing, cache)
  | some entry =>
    if entry.requestHash ≠ requestHash then (.conflict, cache)
    else (.found entry.response, cache)

/-- The loop of `set`: the first key with the least time. -/
def oldestKey : List (String × RpcIdempotencyEntry ρ) → Option (String × Time)
  | [] => none
  | (key, entry) :: rest =>
    some (rest.foldl (fun oldest next =>
      if next.2.createdAt < oldest.2 then (next.1, next.2.createdAt) else oldest)
      (key, entry.createdAt))

def set (cacheKey requestHash : String) (resp : RpcResponse ρ)
    (now : Time) (r : RangeOrder String (RpcIdempotencyEntry ρ)) : RpcIdempotencyCache ρ :=
  let cache := (prune cache now).insert cacheKey ⟨requestHash, resp, now⟩
  if cache.size ≤ rpcIdempotencyMaxEntries then cache
  else
    match oldestKey (r.entries cache) with
    | none => cache
    | some (key, _) => if key ≠ "" then cache.erase key else cache

end RpcIdempotencyCache

def rpcIdempotencyKey (raw authToken : String) : String :=
  let key := trimSpace raw
  if key = "" then "" else authToken ++ "|" ++ key

/-! ## `handleRPC` -/

/-- What the executions have in common: the token, the idempotency key, the method and the
parameters. -/
structure Request where
  token : String
  idempotencyKey : String
  method : String
  params : String

def Request.cacheKey (q : Request) : String := rpcIdempotencyKey q.idempotencyKey q.token

/-- What an execution has of its own: the rest of the request, where it comes from, what the clock
shows and what comes of the dispatch if it gets there. -/
structure Execution (ρ : Type) where
  jsonrpc : String
  id : String
  apiVersion : Option Int
  loopback : Bool
  lookedUpAt : Time
  result : Option ρ
  error : Option RpcError
  storedAt : Time
  range : RangeOrder String (RpcIdempotencyEntry ρ)

structure Server where
  /-- `s.service` is not nil. -/
  initialized : Bool
  /-- `rpcRequestHash` of method, parameters and version. -/
  rpcRequestHash : String → String → Option Int → String

def rpcAPIMinSupportedVersion : Int := 1

def rpcAPICurrentVersion : Int := 1

def validateRPCAPIVersion : Option Int → Option RpcError
  | none => none
  | some v =>
    if v < rpcAPIMinSupportedVersion then
      some ⟨-32081, "rpc api version is deprecated and no longer supported"⟩
    else if rpcAPICurrentVersion < v then
      some ⟨-32080, "rpc api version is not supported by this server"⟩
    else none

def refusal {ρ : Type} (q : Request) (e : Execution ρ) : Option RpcError :=
  if e.jsonrpc ≠ "2.0" ∨ q.method = "" then some ⟨-32600, "invalid request"⟩
  else if (bytesOf "node.").isPrefixOf (bytesOf q.method) ∧ e.loopback = false then
    some ⟨-32084, "node methods are available only from loopback client"⟩
  else validateRPCAPIVersion e.apiVersion

inductive Phase (ρ : Type) where
  | arrived
  /-- The key was looked up and nothing was found. -/
  | missed
  /-- There is a response, which is not stored yet. -/
  | ready (response : RpcResponse ρ)
  | answered (response : RpcResponse ρ)
  deriving DecidableEq, Repr

/-- The cache, how far each execution has come, and which of them were dispatched. -/
structure World (ρ : Type) where
  cache : RpcIdempotencyCache ρ
  phase : Nat → Phase ρ
  dispatched : List Nat

/-- The next step of an execution, or what a request with another key does to the cache. -/
inductive Event (ρ : Type) where
  | advance (i : Nat)
  | otherGet (now : Time)
  | otherSet (cacheKey requestHash : String) (response : RpcResponse ρ) (now : Time)
      (r : RangeOrder String (RpcIdempotencyEntry ρ))

section

variable {ρ : Type} (S : Server) (q : Request) (execution : Nat → Execution ρ)

variable (w : World ρ)

def World.setPhase (i : Nat) (p : Phase ρ) : World ρ :=
  { w with phase := fun j => if j = i then p else w.phase j }

def notInitialized : RpcError := ⟨-32099, "service is not initialized"⟩

def Server.refuses (method : String) : Bool :=
  !S.initialized && method ≠ "rpc.version" && method ≠ "rpc.capabilities"

def lookUp (i : Nat) : World ρ :=
  let e := execution i
  match refusal q e with
  | some err => w.setPhase i (.answered ⟨e.id, none, some err⟩)
  | none =>
    if q.cacheKey = "" then w.setPhase i .missed
    else
      let hash := S.rpcRequestHash q.method q.params e.apiVersion
      let (found, cache) := RpcIdempotencyCache.get w.cache q.cacheKey hash e.lookedUpAt
      let w := { w with cache := cache }
      match found with
      | .missing => w.setPhase i .missed
      | .conflict =>
        w.setPhase i (.answered ⟨e.id, none,
          some ⟨-32082, "idempotency key reuse with different request payload"⟩⟩)
      | .found response => w.setPhase i (.answered { response with id := e.id })

/-- `dispatchRPC`, if there is a service. -/
def dispatch (i : Nat) : World ρ :=
  let e := execution i
  if S.refuses q.method then w.setPhase i (.ready ⟨"", none, some notInitialized⟩)
  else
    { w with dispatched := w.dispatched ++ [i] }.setPhase i (.ready ⟨e.id, e.result, e.error⟩)

def answer (i : Nat) (response : RpcResponse ρ) : World ρ :=
  let e := execution i
  let hash := S.rpcRequestHash q.method q.params e.apiVersion
  let cache :=
    if q.cacheKey = "" then w.cache
    else RpcIdempotencyCache.set w.cache q.cacheKey hash response e.storedAt e.range
  { w with cache := cache }.setPhase i (.answered response)

def step : Event ρ → World ρ
  | .advance i =>
    match w.phase i with
    | .arrived => lookUp S q execution w i
    | .missed => dispatch S q execution w i
    | .ready response => answer S q execution w i response
    | .answered _ => w
  | .otherGet now => { w with cache := RpcIdempotencyCache.prune w.cache now }
  | .otherSet cacheKey requestHash response now r =>
    { w with cache := RpcIdempotencyCache.set w.cache cacheKey requestHash response now r }

end

end Ardents.Rpc
