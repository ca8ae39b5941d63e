import CkpoolGenerator.Jansson

/-!
# The generator in server mode

`gen_loop` serves the stratifier for the node that `server_mode` has picked: one request per
connection on its unix socket, tested against `shutdown`, `getbase`, `getbest`, `getlast`,
`submitblock:` and `ping` in that order. The node's answers to the calls a request makes
(`gen_gbtbase`, `get_bestblockhash`, `get_blockcount`, `get_blockhash` and `submit_block`, all
in `bitcoin.c`) come with that request's connection.
-/

namespace CkpoolGenerator.Server

open CkpoolGenerator.Jansson

/-- What the node answers to the calls one request makes: the template (`none` when
`gen_gbtbase` fails), the best block hash, the block count (`-1` on failure), the hash at each
height, and whether it accepts a block given in hex. -/
structure NodeAnswers where
  gbtbase : Option Json
  bestblockhash : Option String
  blockcount : Int
  blockhash : Int → Option String
  submitBlock : String → Bool

inductive Accept where
  | ok
  /-- `accept` failed and `interrupted` says a signal was the cause -/
  | interrupted
  | failed
  deriving DecidableEq, Repr

/-- One pass of `gen_loop`: what `accept` did and the descriptor it returned, the request
`recv_unix_msg` read on it (`none` when it failed), and the node's answers. -/
structure GenConn where
  accept : Accept
  sockd : Nat
  request : Option String
  node : NodeAnswers

inductive GenEvent where
  /-- `send_unix_msg` of a text on a request's socket -/
  | reply (sockd : Nat) (msg : String)
  /-- `send_unix_msg` of what `json_dumps` prints of a block template -/
  | template (sockd : Nat) (base : Json)
  /-- `send_proc (ckp->stratifier, "update")` -/
  | update
  | close (sockd : Nat)
  deriving DecidableEq, Repr

/-- The answer to one request other than `shutdown`, on its socket `sockd`. -/
def genRequest (node : NodeAnswers) (sockd : Nat) (buf : String) : List GenEvent :=
  if strncasecmp buf "getbase" then
    [match node.gbtbase with
      | some base => .template sockd base
      | none => .reply sockd "Failed"]
  else if strncasecmp buf "getbest" then
    [.reply sockd (node.bestblockhash.getD "Failed")]
  else if strncasecmp buf "getlast" then
    [.reply sockd (if node.blockcount = -1 then "Failed"
      else (node.blockhash node.blockcount).getD "Failed")]
  else if strncasecmp buf "submitblock:" then
    if node.submitBlock (buf.drop 12) then [.update] else []
  else if strncasecmp buf "ping" then [.reply sockd "pong"]
  else []

/-- `gen_loop` over the passes of its loop: the code it returns (`none` while the passes run
out first), and the events on the request sockets and to the stratifier. A `shutdown` request
leaves the loop at `out`, which does not close its socket. -/
def genLoop : List GenConn → Option Int × List GenEvent
  | [] => (none, [])
  | c :: cs =>
    match c.accept, c.request with
    | .interrupted, _ => genLoop cs
    | .failed, _ => (some 1, [])
    | .ok, none => ((genLoop cs).1, .close c.sockd :: (genLoop cs).2)
    | .ok, some buf =>
      if strncasecmp buf "shutdown" then (some 0, [])
      else ((genLoop cs).1, genRequest c.node c.sockd buf ++ .close c.sockd :: (genLoop cs).2)

/-- An event that answers the request on socket `sockd`: a reply on it, or the `update` to the
stratifier. -/
def GenEvent.answers (sockd : Nat) : GenEvent → Bool
  | .reply s _ | .template s _ => s == sockd
  | .update => true
  | .close _ => false

/-- Whether a pass ends `gen_loop`: an `accept` that failed for a reason other than a signal, or
a request that begins with `shutdown`. -/
def GenConn.stops (c : GenConn) : Bool :=
  match c.accept, c.request with
  | .failed, _ => true
  | .ok, some buf => strncasecmp buf "shutdown"
  | _, _ => false

/-- The connections `gen_loop` serves, in order: those accepted before the pass that ends it. -/
def served (cs : List GenConn) : List GenConn :=
  (cs.takeWhile fun c => !c.stops).filter fun c => c.accept == .ok

/-- A request is answered with at most one event, on its own socket or to the stratifier. -/
theorem genRequest_answer (node : NodeAnswers) (sockd : Nat) (buf : String) :
    ∃ e : Option GenEvent, (∀ x ∈ e, x.answers sockd = true) ∧ genRequest node sockd buf = e.toList := by
  unfold genRequest
  repeat' split
  all_goals first
    | exact ⟨some _, fun x hx => by cases hx; simp [GenEvent.answers], rfl⟩
    | exact ⟨none, nofun, rfl⟩

theorem served_cons (c : GenConn) (cs : List GenConn) :
    served (c :: cs) = if c.stops then [] else if c.accept = .ok then c :: served cs else served cs := by
  unfold served
  rw [List.takeWhile_cons]
  cases hs : c.stops <;> cases h : c.accept <;> simp [hs, h]

/-- A `ping`, a block the node accepts, then `shutdown`, whose socket is left open. -/
example :
    genLoop [⟨.ok, 5, some "ping", ⟨none, none, -1, fun _ => none, fun _ => true⟩⟩,
      ⟨.ok, 5, some "submitblock:00", ⟨none, none, -1, fun _ => none, fun _ => true⟩⟩,
      ⟨.ok, 6, some "shutdown", ⟨none, none, -1, fun _ => none, fun _ => true⟩⟩] =
      (some 0, [.reply 5 "pong", .close 5, .update, .close 5]) := rfl

end CkpoolGenerator.Server
