import CkpoolGenerator.Subscribe
import CkpoolGenerator.Method
import CkpoolGenerator.Share

/-!
# Reconnecting, and what the receive loop does with a line

`reconnect_stratum` flushes the notification cache once, then retries close, connect,
subscribe and authorise until an attempt authorises. The upstream's part in an attempt is a
`ReconnectTry`. A line that the receive loop reads goes to `parse_method`, which may owe the
stratifier a `notify` or `diff` signal, and otherwise to `parse_share`.
-/

namespace CkpoolGenerator.Reconnect

open CkpoolGenerator.Jansson CkpoolGenerator.Instance CkpoolGenerator.Codec
  CkpoolGenerator.Subscribe CkpoolGenerator.Notify CkpoolGenerator.Method CkpoolGenerator.Share

/-- The upstream's part in one pass of the loop of `reconnect_stratum`, up to the reads of
`auth_stratum`. -/
structure Attempt where
  connected : Bool
  subscribe : List SubscribeTry
  authSent : Bool

structure ReconnectTry where
  attempt : Attempt
  lines : List Incoming

section

variable (tag : String)

/-- One pass of the loop up to the read loop of `auth_stratum`: close, `connect_proxy`,
`subscribe_stratum`, and the write of `mining.authorize`. True when `auth_stratum` goes on
to read. -/
def startAttempt (p : ProxyInstance) (a : Attempt) : Bool × ProxyInstance :=
  if !a.connected then (false, p.closeSock) else
  match subscribeStratum tag p.closeSock.connectSock a.subscribe with
  | (false, q) => (false, q)
  | (true, q) => sendAuth q a.authSent

/-- The retry loop, one try per pass; `none` while the tries run out before one authorises. -/
def reconnectLoop (now : Int) : ProxyInstance → List ReconnectTry → Option ProxyInstance
  | _, [] => none
  | p, r :: rs =>
    match startAttempt tag p r.attempt with
    | (false, q) => reconnectLoop now q rs
    | (true, q) =>
      match authLoop tag now q r.lines with
      | (true, q') => some q'
      | (false, q') => reconnectLoop now q' rs

/-- `reconnect_stratum`, with one clock reading for the whole call. -/
def reconnectStratum (now : Int) (p : ProxyInstance) (tries : List ReconnectTry) :
    Option ProxyInstance :=
  reconnectLoop tag now (flushNotify p) tries

/-- `proxy_recv` on a line it has read: the instance after it, and the signals sent to the
stratifier. -/
def recvLine (now : Int) (p : ProxyInstance) (l : Incoming) : ProxyInstance × List String :=
  match parseMethod tag now p l with
  | (true, q) =>
    ({ q with notified := false, diffed := false },
      (if q.notified then ["notify"] else []) ++ (if q.diffed then ["diff"] else []))
  | (false, q) => ((parseShare q l.msg).2, [])

theorem startAttempt_caches (p : ProxyInstance) (a : Attempt) :
    (startAttempt tag p a).2.caches = p.caches := by
  have h := subscribeStratum_caches tag a.subscribe p.closeSock.connectSock
  unfold startAttempt
  split
  · rfl
  split
  next q heq => rw [heq] at h; exact h
  next q heq => rw [heq] at h; exact (sendAuth_caches q a.authSent).trans h

/-- What the receive loop does with a line: the effect of `parse_method`, then either
clearing the two flags it has turned into signals, or `parse_share`. -/
theorem recvLine_cases (now : Int) (p : ProxyInstance) (l : Incoming) :
    ∃ q, MethodEffect tag p q ∧
      ((recvLine tag now p l).1 = { q with notified := false, diffed := false } ∨
        handles tag l = false ∧ (recvLine tag now p l).1 = (parseShare q l.msg).2) := by
  obtain ⟨hv, h⟩ := parseMethod_spec tag now p l
  unfold recvLine
  split
  next q heq => rw [heq] at h; exact ⟨q, h, .inl rfl⟩
  next q heq => rw [heq] at h hv; exact ⟨q, h, .inr ⟨hv.symm, rfl⟩⟩

theorem recvLine_untouched (now : Int) (p : ProxyInstance) (l : Incoming) :
    Untouched p (recvLine tag now p l).1 := by
  obtain ⟨q, hq, e | ⟨-, e⟩⟩ := recvLine_cases tag now p l <;>
    obtain ⟨hp, hs, hi, hn, hpa, hsid, he, hk, hc⟩ := hq.untouched.1
  · rw [e]; exact ⟨hp, hs, hi, hn, hpa, hsid, he, hk, hc⟩
  · obtain ⟨shares, e'⟩ := parseShare_eq q l.msg
    rw [e, e']; exact ⟨hp, hs, hi, hn, hpa, hsid, he, hk, hc⟩

theorem recvLine_links (now : Int) (p : ProxyInstance) (l : Incoming) :
    Links p (recvLine tag now p l).1 := by
  obtain ⟨q, hq, h | ⟨-, h⟩⟩ := recvLine_cases tag now p l <;> rw [h]
  · exact hq.links
  · obtain ⟨shares, e⟩ := parseShare_eq q l.msg
    rw [e]
    exact hq.links

end

/-- A subscribe response that `parse_subscribe` accepts: extranonce1 `08000002`, nonce2
length 4. -/
def subscribeOk : SubscribeTry :=
  ⟨true, some (some (.obj [("id", .int 0), ("result", .arr [.arr [.arr [.str "mining.notify",
    .str "ae68"]], .str "08000002", .int 4]), ("error", .null)])), true⟩

/-- A `mining.notify` push with upstream job id `jobid` and an empty Merkle branch. -/
def notifyPush (jobid : String) : Incoming :=
  { msg := some (.obj [("id", .null), ("method", .str "mining.notify"), ("params", .arr [.str jobid,
    .str "000000000019d6689c085ae165831e934ff763ae46a2a6c172b3f1b60a8ce26f", .str "01000000",
    .str "ffffffff", .arr [], .str "20000000", .str "1d00ffff", .str "5a5a5a5a", .bool true])]) }

/-- The first attempt subscribes, receives a job `stale`, and is refused authorisation; the
second authorises and receives no job. -/
def staleTries : List ReconnectTry :=
  [⟨⟨true, [subscribeOk], true⟩, [notifyPush "stale", authAnswer false]⟩,
   ⟨⟨true, [subscribeOk], true⟩, [authAnswer true]⟩]

/-- The job received on the refused attempt's connection is still cached, and current, when
`reconnect_stratum` returns on the second connection. -/
theorem reconnect_keeps_stale_notify :
    ∃ p, reconnectStratum "ckpool" 0 {} staleTries = some p ∧
      p.notifyInstances.map (·.jobid) = ["stale"] ∧ (p.currentNotify.map (·.jobid)) = some "stale" :=
  ⟨_, rfl, rfl, rfl⟩

end CkpoolGenerator.Reconnect
