import CkpoolGenerator.Jansson

/-!
# The generator's records

`NotifyInstance`, `ShareMsg` and `ProxyInstance` are the C structs `notify_instance`,
`share_msg` and `proxy_instance`, with the fields the generator reads. Pointers into the
two hash tables are the records themselves: a table is the list of its entries in
insertion order, which is the order `HASH_ITER` visits them in. The upstream socket `cs`
is what has happened on it so far, oldest first.
-/

namespace CkpoolGenerator.Instance

open CkpoolGenerator.Jansson

/-- One decoded `mining.notify`. A fixed-width field is the C string its `char` row holds, as
jansson reads it back: `none` when the row ends inside a UTF-8 sequence. Its Merkle rows number
`merkles`, as `send_notify` reads them. -/
structure NotifyInstance where
  id : Nat
  prevhash : Option String
  jobid : String
  coinbase1 : String
  coinbase2 : String
  merkles : Nat
  merklehash : List (Option String)
  nbit : Option String
  ntime : Option String
  bbversion : Option String
  clean : Bool
  notifyTime : Int
  merkles_eq : merklehash.length = merkles
  deriving DecidableEq, Repr

structure ShareMsg where
  id : Nat
  clientId : Int
  msgId : Int
  submitTime : Int
  deriving DecidableEq, Repr

/-- An event on the upstream socket. Writing `none` is the bare newline that `send_json_msg`
sends when `json_pack` has failed and handed it a `NULL` message. -/
inductive SockEvent where
  | connect
  | write (msg : Option Json)
  | close
  deriving DecidableEq, Repr

/-- The shared state of one proxied upstream. The C struct starts zeroed (`ckzalloc`). -/
structure ProxyInstance where
  cs : List SockEvent := []
  auth : String := ""
  pass : String := ""
  enonce1 : Option String := none
  enonce1bin : Option (List UInt8) := none
  nonce1len : Nat := 0
  sessionid : Option String := none
  nonce2len : Int := 0
  diff : Rat := 0
  id : Nat := 0
  noSessionid : Bool := false
  noParams : Bool := false
  notified : Bool := false
  diffed : Bool := false
  notifyInstances : List NotifyInstance := []
  currentNotify : Option NotifyInstance := none
  notifyId : Nat := 0
  psends : List Json := []
  shares : List ShareMsg := []
  shareId : Nat := 0
  deriving Repr

namespace ProxyInstance

/-- The parts of the instance guarded by the three locks, with the credentials and the
difficulty: what subscribing to the upstream never touches. -/
def caches (p : ProxyInstance) :
    List NotifyInstance × Option NotifyInstance × Nat × List Json × List ShareMsg × Nat ×
      String × String × Rat × Bool × Bool :=
  (p.notifyInstances, p.currentNotify, p.notifyId, p.psends, p.shares, p.shareId, p.auth,
    p.pass, p.diff, p.notified, p.diffed)

/-- The fields `notify_lock` guards. -/
def notifyState (p : ProxyInstance) : List NotifyInstance × Option NotifyInstance × Nat :=
  (p.notifyInstances, p.currentNotify, p.notifyId)

theorem notifyState_of_caches {p q : ProxyInstance} (h : q.caches = p.caches) :
    q.notifyState = p.notifyState :=
  congrArg (fun c => (c.1, c.2.1, c.2.2.1)) h

theorem psends_of_caches {p q : ProxyInstance} (h : q.caches = p.caches) : q.psends = p.psends :=
  congrArg (·.2.2.2.1) h

theorem shares_of_caches {p q : ProxyInstance} (h : q.caches = p.caches) : q.shares = p.shares :=
  congrArg (·.2.2.2.2.1) h

theorem shareId_of_caches {p q : ProxyInstance} (h : q.caches = p.caches) :
    q.shareId = p.shareId :=
  congrArg (·.2.2.2.2.2.1) h

/-- `send_json_msg`: the line goes on the socket; whether all of it did is the caller's input. -/
@[simp] def sendJsonMsg (p : ProxyInstance) (msg : Option Json) : ProxyInstance :=
  { p with cs := p.cs ++ [.write msg] }

@[simp] def closeSock (p : ProxyInstance) : ProxyInstance := { p with cs := p.cs ++ [.close] }

/-- `connect_proxy` that has succeeded. -/
@[simp] def connectSock (p : ProxyInstance) : ProxyInstance := { p with cs := p.cs ++ [.connect] }

end ProxyInstance

/-- The messages written whole or in part on a socket, oldest first. -/
def written (log : List SockEvent) : List Json :=
  log.filterMap fun | .write (some m) => some m | _ => none

/-- The written messages whose `method` member is one of `methods`. -/
def requests (methods : List String) (log : List SockEvent) : List Json :=
  (written log).filter fun m => methods.any fun x => jsonObjectGet (some m) "method" == some (.str x)

@[simp] theorem requests_append (methods : List String) (l₁ l₂ : List SockEvent) :
    requests methods (l₁ ++ l₂) = requests methods l₁ ++ requests methods l₂ := by
  simp [requests, written]

@[simp] theorem requests_nil (methods : List String) : requests methods [] = [] := rfl

@[simp] theorem requests_close (methods : List String) : requests methods [.close] = [] := rfl

@[simp] theorem requests_connect (methods : List String) : requests methods [.connect] = [] := rfl

/-- The `id` member of a message. -/
def idOf (m : Json) : Option Json := jsonObjectGet (some m) "id"

end CkpoolGenerator.Instance
