import CkpoolGenerator.Threads

/-!
# The control socket of a proxied upstream

`proxy_loop` reads one request per connection on its unix socket and tests it against its
verbs in order: `shutdown`, `getsubscribe`, `getnotify`, `getdiff` and `ping`. Anything else
is decoded by `json_loads` and handed to `submit_share`. `send_subscribe` and `send_diff`
answer with what the upstream last gave.

`parse_subscribe` stores an extranonce1 only once it has checked it is not empty, and a
nonce2 length only on success, and nothing else writes either. So once `proxy_mode` has
set the upstream up, every state of the run holds a usable subscription, and `getsubscribe`
is always answered with one.
-/

namespace CkpoolGenerator.Control

open CkpoolGenerator.Jansson CkpoolGenerator.Instance CkpoolGenerator.Codec
  CkpoolGenerator.Subscribe CkpoolGenerator.Notify CkpoolGenerator.Method
  CkpoolGenerator.Share CkpoolGenerator.Reconnect CkpoolGenerator.Threads

/-- `send_subscribe`; `none` stands for `json_pack` failing on a `NULL` `enonce1`. -/
def sendSubscribe (p : ProxyInstance) : Option Json :=
  p.enonce1.map fun e => .obj [("enonce1", .str e), ("nonce2len", .int p.nonce2len)]

def sendDiff (p : ProxyInstance) : Json := .obj [("diff", .real p.diff)]

/-- What `proxy_loop` does with a request it has read. -/
inductive ProxyAction where
  | shutdown
  /-- the message `send_subscribe`, `send_notify` or `send_diff` builds -/
  | reply (msg : Option Json)
  | pong
  | submit (val : Json)
  /-- `json_loads` failed: the request is logged and dropped -/
  | unrecognised
  /-- `send_notify` dereferences a `NULL` `current_notify` -/
  | crash
  deriving DecidableEq, Repr

/-- The tests of `proxy_loop` on a request `buf`, in its order; `loads` is `json_loads`. -/
def proxyAction (loads : String → Option Json) (p : ProxyInstance) (buf : String) : ProxyAction :=
  if strncasecmp buf "shutdown" then .shutdown
  else if strncasecmp buf "getsubscribe" then .reply (sendSubscribe p)
  else if strncasecmp buf "getnotify" then
    match sendNotify p with
    | some msg => .reply msg
    | none => .crash
  else if strncasecmp buf "getdiff" then .reply (some (sendDiff p))
  else if strncasecmp buf "ping" then .pong
  else match loads buf with
    | some val => .submit val
    | none => .unrecognised

/-- A request that begins with a verb begins with its first letter, in either case. -/
theorem strncasecmp_head {s lit : String} {c : Char} {cs : List Char} (hl : lit.data = c :: cs)
    (h : strncasecmp s lit = true) : ∃ a rest, s.data = a :: rest ∧ a.toLower = c.toLower := by
  unfold strncasecmp at h
  rw [String.length, hl] at h
  cases hs : s.data with
  | nil => simp [hs, hl] at h
  | cons a rest =>
    simp only [hs, List.length_cons, List.take_succ_cons, List.map_cons, beq_iff_eq,
      List.cons.injEq] at h
    exact ⟨a, rest, rfl, h.1⟩

/-- No request begins with two verbs whose first letters differ. -/
theorem strncasecmp_exclusive {s l₁ l₂ : String} {c₁ c₂ : Char} {cs₁ cs₂ : List Char}
    (h₁ : l₁.data = c₁ :: cs₁) (h₂ : l₂.data = c₂ :: cs₂) (hc : c₁.toLower ≠ c₂.toLower)
    (hs : strncasecmp s l₁ = true) : strncasecmp s l₂ = false := by
  obtain ⟨a, rest, hd, ha⟩ := strncasecmp_head h₁ hs
  refine Bool.eq_false_iff.2 fun hs' => hc ?_
  obtain ⟨a', rest', hd', ha'⟩ := strncasecmp_head h₂ hs'
  rw [hd, List.cons.injEq] at hd'
  rw [← ha, ← ha', hd'.1]

theorem quiet_subscribed {p q : ProxyInstance} (h : Quiet p q) (hp : Subscribed p) :
    Subscribed q :=
  hp.congr h.enonce1 h.nonce2len

theorem sendAuth_subscribed (p : ProxyInstance) (sent : Bool) (h : Subscribed p) :
    Subscribed (sendAuth p sent).2 :=
  h.congr (by cases sent <;> rfl) (by cases sent <;> rfl)

theorem startAttempt_subscribed (tag : String) (p : ProxyInstance) (a : Attempt)
    (h : Subscribed p) : Subscribed (startAttempt tag p a).2 := by
  unfold startAttempt
  split
  · exact h
  have hs := (subscribeStratum_subscribed tag a.subscribe p.closeSock.connectSock).1 h
  split
  next q heq => rw [heq] at hs; exact hs
  next q heq => rw [heq] at hs; exact sendAuth_subscribed q a.authSent hs

theorem step_subscribed {tag : String} {s s' : World} (h : Step tag s s')
    (hs : Subscribed s.proxi) : Subscribed s'.proxi := by
  rcases step_connection h with ⟨a, e⟩ | hq
  · rw [e]; exact startAttempt_subscribed tag _ a hs
  · exact quiet_subscribed hq hs

theorem proxySetup_subscribed {tag auth pass : String} {u : Setup} {p : ProxyInstance}
    (h : proxySetup tag auth pass u = some p) : Subscribed p := by
  obtain ⟨q, hq, hr⟩ := proxySetup_eq h
  have hs := (subscribeStratum_subscribed tag u.subscribe ({} : ProxyInstance).connectSock).2
    (by rw [hq])
  rw [hq] at hs
  have ha := sendAuth_subscribed { q with auth := auth, pass := pass } true hs
  clear h
  induction hr with
  | refl => exact ha
  | tail _ he ih => exact quiet_subscribed he.untouched.1.quiet ih

theorem reachable_subscribed {tag : String} {s : World} (hs : Reachable tag s) :
    Subscribed s.proxi := by
  induction hs with
  | start h => exact proxySetup_subscribed h
  | step _ hst ih => exact step_subscribed hst ih

/-- Over any run, a `getsubscribe` request on the control socket is answered by
`send_subscribe` with a non-empty extranonce1 and a nonce2 length between 4 and 8. -/
theorem getsubscribe_answered {tag : String} {s : World} (hs : Reachable tag s)
    (loads : String → Option Json) (buf : String) (hb : strncasecmp buf "getsubscribe" = true) :
    ∃ e, e ≠ "" ∧
      proxyAction loads s.proxi buf =
        .reply (some (.obj [("enonce1", .str e), ("nonce2len", .int s.proxi.nonce2len)])) ∧
      4 ≤ s.proxi.nonce2len ∧ s.proxi.nonce2len ≤ 8 := by
  obtain ⟨⟨e, he, hne⟩, h4, h8⟩ := reachable_subscribed hs
  have hsd : strncasecmp buf "shutdown" = false := strncasecmp_exclusive rfl rfl (by decide) hb
  refine ⟨e, hne, ?_, h4, h8⟩
  simp [proxyAction, hsd, hb, sendSubscribe, he]

/-- The request `getsubscribe`, right after the setup of `quietSetup`. -/
theorem getsubscribe_answered_after_setup :
    ∃ s : World, (Reachable "ckpool" s ∧ strncasecmp "getsubscribe" "getsubscribe" = true) ∧
      ∃ e, e ≠ "" ∧
        proxyAction (fun _ => none) s.proxi "getsubscribe" =
          .reply (some (.obj [("enonce1", .str e), ("nonce2len", .int s.proxi.nonce2len)])) ∧
        4 ≤ s.proxi.nonce2len ∧ s.proxi.nonce2len ≤ 8 :=
  have hs : Reachable "ckpool" _ := @Reachable.start "ckpool" "user" "pass" quietSetup _ rfl
  ⟨_, ⟨hs, rfl⟩, getsubscribe_answered hs (fun _ => none) "getsubscribe" rfl⟩

/-- A response with extranonce1 `0a0b0c0d` and a nonce2 length of 3, which `parse_subscribe`
rejects after it has stored the extranonce1. -/
def nonce2Three : SubscribeTry := ⟨true, some (subscribeReply .null "0a0b0c0d" 3), false⟩

/-- In any session state, `parse_subscribe` rejects `nonce2Three` with the extranonce1 already
replaced and the nonce2 length kept. When a reconnect attempt gets only that response, the
control thread's `getsubscribe` hands the stratifier the rejected extranonce1 with the old
nonce2 length. -/
theorem rejected_subscribe_partly_applied :
    (∀ p : ProxyInstance, (parseSubscribe p nonce2Three.response).1 = false ∧
      (parseSubscribe p nonce2Three.response).2.enonce1 = some "0a0b0c0d" ∧
      (parseSubscribe p nonce2Three.response).2.nonce2len = p.nonce2len) ∧
    ∃ s : World, Reachable "ckpool" s ∧ s.ctrl = .ready ∧
      proxyAction (fun _ => none) s.proxi "getsubscribe" =
        .reply (some (.obj [("enonce1", .str "0a0b0c0d"), ("nonce2len", .int 4)])) :=
  ⟨fun p => ⟨rfl, rfl, by
    obtain ⟨sid, hc, -⟩ := copySessionid_eq p (.arr [.str "mining.notify", .str "ae68"])
    have e : parseSubscribe p nonce2Three.response =
        parseEnonce (copySessionid p (.arr [.str "mining.notify", .str "ae68"]))
          [.arr [.arr [.str "mining.notify", .str "ae68"]], .str "0a0b0c0d", .int 3] := rfl
    rw [e, hc]; rfl⟩,
    _, .step (.step (.step (.step (.step (@Reachable.start "ckpool" "user" "pass" quietSetup _ rfl)
      (.ctrl (.announce rfl))) (.recv (.ageNotify rfl))) (.recv (.ageShares rfl)))
      (.recv (.stall rfl))) (.recv (.attempt ⟨true, [nonce2Three], true⟩ rfl)),
    rfl, rfl⟩

/-- Whatever `json_loads` decodes from a request that begins with none of the verbs, `proxy_loop`
hands to `submit_share`, which checks no member: from any state of the control thread, the
request adds the share record of `share_id`, with `client_id` and `msg_id` read by
`json_integer_value` (0 when absent), takes that share id, and queues the request without those
two members and with the share id as its `id`. A request `json_loads` cannot decode is dropped. -/
theorem unmatched_request_queued {tag : String} (s : World) (hr : s.ctrl = .ready)
    (loads : String → Option Json) (buf : String)
    (hv : ∀ verb ∈ ["shutdown", "getsubscribe", "getnotify", "getdiff", "ping"],
      strncasecmp buf verb = false) :
    (loads buf = none → proxyAction loads s.proxi buf = .unrecognised) ∧
    ∀ val, loads buf = some val →
      proxyAction loads s.proxi buf = .submit val ∧
      ∃ s' s'', Step tag s s' ∧ Step tag s' s'' ∧ s''.ctrl = .ready ∧
        s''.proxi.shares = s.proxi.shares ++
          [⟨s.proxi.shareId, cint (jsonIntegerValue (jsonObjectGet (some val) "client_id")),
            cint (jsonIntegerValue (jsonObjectGet (some val) "msg_id")), s.now⟩] ∧
        s''.proxi.shareId = s.proxi.shareId + 1 ∧
        s''.proxi.psends = s.proxi.psends ++
          [jsonObjectSet (jsonObjectDel (jsonObjectDel val "client_id") "msg_id") "id" (.int s.proxi.shareId)] := by
  simp only [List.forall_mem_cons, List.forall_mem_nil, and_true] at hv
  obtain ⟨h1, h2, h3, h4, h5⟩ := hv
  have hact : proxyAction loads s.proxi buf = match loads buf with
      | some val => ProxyAction.submit val
      | none => ProxyAction.unrecognised := by
    simp only [proxyAction, h1, h2, h3, h4, h5, Bool.false_eq_true, if_false]
  refine ⟨fun hl => by rw [hact, hl], fun val hl => ⟨by rw [hact, hl], _, _,
    Step.ctrl (CtrlStep.submit val hr), Step.ctrl (CtrlStep.queue rfl), rfl, rfl, rfl, rfl⟩⟩

/-- The request `{}` once `quietSetup` has set the upstream up, with `json_loads` decoding it. -/
theorem unmatched_request_queued_after_setup :
    ∃ s : World, (Reachable "ckpool" s ∧ s.ctrl = .ready ∧
      ∀ verb ∈ ["shutdown", "getsubscribe", "getnotify", "getdiff", "ping"],
        strncasecmp "{}" verb = false) ∧
    ((fun _ : String => some (Json.obj [])) "{}" = none →
        proxyAction (fun _ : String => some (Json.obj [])) s.proxi "{}" = .unrecognised) ∧
    ∀ val, (fun _ : String => some (Json.obj [])) "{}" = some val →
      proxyAction (fun _ : String => some (Json.obj [])) s.proxi "{}" = .submit val ∧
      ∃ s' s'', Step "ckpool" s s' ∧ Step "ckpool" s' s'' ∧ s''.ctrl = .ready ∧
        s''.proxi.shares = s.proxi.shares ++
          [⟨s.proxi.shareId, cint (jsonIntegerValue (jsonObjectGet (some val) "client_id")),
            cint (jsonIntegerValue (jsonObjectGet (some val) "msg_id")), s.now⟩] ∧
        s''.proxi.shareId = s.proxi.shareId + 1 ∧
        s''.proxi.psends = s.proxi.psends ++
          [jsonObjectSet (jsonObjectDel (jsonObjectDel val "client_id") "msg_id") "id" (.int s.proxi.shareId)] :=
  ⟨_, ⟨.step (@Reachable.start "ckpool" "user" "pass" quietSetup _ rfl) (.ctrl (.announce rfl)), rfl,
    by decide⟩, unmatched_request_queued _ rfl (fun _ : String => some (Json.obj [])) "{}" (by decide)⟩

/-- The request `{}` once `quietSetup` has set the upstream up: it has none of the members of a
share, and is recorded and queued all the same. -/
theorem empty_request_queued :
    ∃ s s' s'' : World, Reachable "ckpool" s ∧
      proxyAction (fun _ => some (.obj [])) s.proxi "{}" = .submit (.obj []) ∧
      Step "ckpool" s s' ∧ Step "ckpool" s' s'' ∧
      s''.proxi.shares.length = s.proxi.shares.length + 1 ∧
      s''.proxi.psends = s.proxi.psends ++ [.obj [("id", .int s.proxi.shareId)]] :=
  ⟨_, _, _, .step (@Reachable.start "ckpool" "user" "pass" quietSetup _ rfl) (.ctrl (.announce rfl)),
    rfl, .ctrl (.submit (.obj []) rfl), .ctrl (.queue rfl), rfl, rfl⟩

end CkpoolGenerator.Control
