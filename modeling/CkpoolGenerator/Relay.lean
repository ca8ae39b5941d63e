import CkpoolGenerator.Submit

/-!
# What the proxy writes upstream

What the proxy is for: a share the stratifier submits on the control socket goes upstream as
a `mining.submit` on the job the upstream gave, or is dropped when no cached notification has
its job. Over any interleaving of the three threads, the `mining.submit` requests on the
upstream socket are the submissions the send thread took from `psends`, in the order it took
them, less those it dropped, every one re-keyed by `proxy_send` from our local job id to the
upstream job id of a notification linked in the run under a local id with the same low 32
bits, and signed with the session's user name. Besides them the upstream sees only the
session's `mining.subscribe` and `mining.authorize` requests and the replies to
`client.get_version`.
-/

namespace CkpoolGenerator.Relay

open Relation
open CkpoolGenerator.Jansson CkpoolGenerator.Instance CkpoolGenerator.Codec
  CkpoolGenerator.Subscribe CkpoolGenerator.Notify CkpoolGenerator.Method CkpoolGenerator.Share
  CkpoolGenerator.Reconnect CkpoolGenerator.Threads CkpoolGenerator.Cache CkpoolGenerator.Submit

theorem credentials_of_methodEffect {tag : String} {p q : ProxyInstance} (h : MethodEffect tag p q) :
    q.auth = p.auth ∧ q.pass = p.pass := by
  cases h <;> exact ⟨rfl, rfl⟩

/-- No step changes the user name and password that `proxy_mode` set the session up with. -/
theorem step_credentials {tag : String} {s s' : World} (h : Step tag s s') :
    s'.proxi.auth = s.proxi.auth ∧ s'.proxi.pass = s.proxi.pass := by
  cases h with
  | recv h =>
    cases h with
    | line l _ =>
      obtain ⟨q, hq, e | ⟨-, e⟩⟩ := recvLine_cases tag s.now s.proxi l <;> rw [e]
      · exact (credentials_of_methodEffect hq : q.auth = _ ∧ q.pass = _)
      · obtain ⟨shares, e'⟩ := parseShare_eq q l.msg
        rw [e']; exact (credentials_of_methodEffect hq : q.auth = _ ∧ q.pass = _)
    | attempt a _ =>
      have hc := startAttempt_caches tag s.proxi a
      exact ⟨congrArg (·.2.2.2.2.2.2.1) hc, congrArg (·.2.2.2.2.2.2.2.1) hc⟩
    | authLine l _ => exact credentials_of_methodEffect (authLine_effect tag s.now s.proxi l)
    | _ => exact ⟨rfl, rfl⟩
  | send h =>
    cases h with
    | drop ret _ _ => cases ret <;> exact ⟨rfl, rfl⟩
    | write ok _ => cases ok <;> exact ⟨rfl, rfl⟩
    | _ => exact ⟨rfl, rfl⟩
  | ctrl h => cases h <;> exact ⟨rfl, rfl⟩
  | tick _ _ => exact ⟨rfl, rfl⟩

/-- The messages the proxy writes to the upstream, as `json_pack` builds them: `mining.subscribe`
with one of its three tiers of parameters, `mining.authorize` with the session's credentials,
`mining.submit` under the session's user name, and the reply to `client.get_version`. The
first two are numbered by `proxi->id`, so their ids are below `next`, its value now. -/
inductive UpstreamMsg (tag auth pass : String) (next : Nat) : Json → Prop
  | subscribe (id : Nat) (params : List Json) : id < next →
      params = [] ∨ params = [.str tag] ∨ (∃ sid, params = [.str tag, .str sid]) →
      UpstreamMsg tag auth pass next
        (.obj [("id", .int id), ("method", .str "mining.subscribe"), ("params", .arr params)])
  | authorize (id : Nat) : id < next →
      UpstreamMsg tag auth pass next
        (.obj [("id", .int id), ("method", .str "mining.authorize"), ("params", .arr [.str auth, .str pass])])
  | submit (jobid : String) (nonce2 ntime nonce id : Json) :
      UpstreamMsg tag auth pass next (.obj [("params", .arr [.str auth, .str jobid, nonce2, ntime, nonce]),
        ("id", id), ("method", .str "mining.submit")])
  | version (id : Json) :
      UpstreamMsg tag auth pass next (.obj [("id", id), ("result", .str tag), ("error", .null)])

/-- Every message written, whole or in part, on a socket log is one of `UpstreamMsg`. -/
def WritesUpstream (tag auth pass : String) (next : Nat) (log : List SockEvent) : Prop :=
  ∀ m ∈ written log, UpstreamMsg tag auth pass next m

/-- What the session writes on its own account after `p`'s socket log: connects, closes, and
`UpstreamMsg`s none of which is a `mining.submit`, numbered below `q`'s next message id, which
is not below `p`'s. -/
def Appends (tag auth pass : String) (p q : ProxyInstance) : Prop :=
  p.id ≤ q.id ∧ ∃ new, q.cs = p.cs ++ new ∧ WritesUpstream tag auth pass q.id new ∧
    requests ["mining.submit"] new = []

section

variable {tag auth pass : String}

theorem UpstreamMsg.mono {next next' : Nat} {m : Json} (h : UpstreamMsg tag auth pass next m)
    (hle : next ≤ next') : UpstreamMsg tag auth pass next' m := by
  cases h with
  | subscribe id params hid hp => exact .subscribe id params (by omega) hp
  | authorize id hid => exact .authorize id (by omega)
  | submit => exact .submit _ _ _ _ _
  | version id => exact .version id

theorem WritesUpstream.mono {next next' : Nat} {log : List SockEvent}
    (h : WritesUpstream tag auth pass next log) (hle : next ≤ next') :
    WritesUpstream tag auth pass next' log :=
  fun m hm => (h m hm).mono hle

theorem written_append (l₁ l₂ : List SockEvent) : written (l₁ ++ l₂) = written l₁ ++ written l₂ :=
  List.filterMap_append _ _ _

theorem WritesUpstream.append {next : Nat} {l₁ l₂ : List SockEvent}
    (h₁ : WritesUpstream tag auth pass next l₁) (h₂ : WritesUpstream tag auth pass next l₂) :
    WritesUpstream tag auth pass next (l₁ ++ l₂) := by
  intro m hm
  rw [written_append, List.mem_append] at hm
  exact hm.elim (h₁ m) (h₂ m)

theorem Appends.of_cs {p q : ProxyInstance} (hc : q.cs = p.cs) (hid : p.id ≤ q.id) :
    Appends tag auth pass p q :=
  ⟨hid, [], by rw [hc, List.append_nil], nofun, rfl⟩

theorem Appends.trans {p q r : ProxyInstance} (h₁ : Appends tag auth pass p q)
    (h₂ : Appends tag auth pass q r) : Appends tag auth pass p r := by
  obtain ⟨i₁, n₁, e₁, w₁, r₁⟩ := h₁
  obtain ⟨i₂, n₂, e₂, w₂, r₂⟩ := h₂
  exact ⟨i₁.trans i₂, n₁ ++ n₂, by rw [e₂, e₁, List.append_assoc], (w₁.mono i₂).append w₂,
    by rw [requests_append, r₁, r₂]; rfl⟩

theorem Appends.submits {p q : ProxyInstance} (h : Appends tag auth pass p q) :
    requests ["mining.submit"] q.cs = requests ["mining.submit"] p.cs := by
  obtain ⟨-, new, e, -, hr⟩ := h
  rw [e, requests_append, hr, List.append_nil]

theorem Appends.writes {p q : ProxyInstance} (h : Appends tag auth pass p q)
    (hp : WritesUpstream tag auth pass p.id p.cs) : WritesUpstream tag auth pass q.id q.cs := by
  obtain ⟨hid, new, e, hw, -⟩ := h
  rw [e]
  exact (hp.mono hid).append hw

theorem appends_event (p : ProxyInstance) {e : SockEvent} (he : e = .close ∨ e = .connect) :
    Appends tag auth pass p { p with cs := p.cs ++ [e] } :=
  ⟨le_rfl, [e], rfl, by rcases he with rfl | rfl <;> exact nofun, by rcases he with rfl | rfl <;> rfl⟩

/-- Writing one message, numbered below the next message id that follows it. -/
theorem appends_write (p : ProxyInstance) {m : Json} {next : Nat} (hid : p.id ≤ next)
    (hm : UpstreamMsg tag auth pass next m) (hr : requests ["mining.submit"] [.write (some m)] = []) :
    Appends tag auth pass p { p.sendJsonMsg (some m) with id := next } :=
  ⟨hid, [.write (some m)], rfl, fun _ hx => List.mem_singleton.1 hx ▸ hm, hr⟩

theorem upstream_subscribeRequest (p : ProxyInstance) :
    UpstreamMsg tag auth pass (p.id + 1) (subscribeRequest tag p) := by
  unfold subscribeRequest
  refine .subscribe _ _ (Nat.lt_succ_self _) ?_
  split
  · exact .inr (.inr ⟨_, rfl⟩)
  · split
    exacts [.inr (.inl rfl), .inl rfl]

theorem appends_subscribeMove {p q : ProxyInstance} (h : SubscribeMove tag p q) :
    Appends tag auth pass p q := by
  cases h with
  | send =>
    exact appends_write p (Nat.le_succ _) (upstream_subscribeRequest p) rfl
  | parse r =>
    obtain ⟨-, -, hc, hid, -⟩ := (parseSubscribe_resubscribed p r).flags
    exact .of_cs hc hid.ge
  | close => exact appends_event p (.inl rfl)
  | connect => exact appends_event p (.inr rfl)
  | fallBack => exact .of_cs (fallBack_cs p) (by unfold fallBack; split <;> exact le_rfl)

theorem appends_subscribeStratum (ts : List SubscribeTry) (p : ProxyInstance) :
    Appends tag auth pass p (subscribeStratum tag p ts).2 := by
  have moves := subscribeStratum_moves tag ts p
  generalize (subscribeStratum tag p ts).2 = q at moves ⊢
  induction moves with
  | refl => exact .of_cs rfl le_rfl
  | tail _ hm ih => exact ih.trans (appends_subscribeMove hm)

theorem appends_sendAuth (p : ProxyInstance) (sent : Bool) :
    Appends tag p.auth p.pass p (sendAuth p sent).2 := by
  have hw : Appends tag p.auth p.pass p { p.sendJsonMsg (some (authRequest p)) with id := p.id + 1 } :=
    appends_write p (Nat.le_succ _) (.authorize p.id (Nat.lt_succ_self _)) rfl
  cases sent
  · exact hw.trans (appends_event _ (.inl rfl))
  · exact hw

theorem appends_methodEffect {p q : ProxyInstance} (h : MethodEffect tag p q) : Appends tag auth pass p q := by
  cases h with
  | version val =>
    unfold sendVersion
    cases jsonObjectGet (some val) "id" with
    | none => exact ⟨le_rfl, [.write none], rfl, nofun, rfl⟩
    | some id => exact appends_write p le_rfl (.version id) rfl
  | _ => exact .of_cs rfl le_rfl

/-- A line the receive loop reads leads to no write but the reply of `send_version`. -/
theorem appends_recvLine (now : Int) (p : ProxyInstance) (l : Incoming) :
    Appends tag auth pass p (recvLine tag now p l).1 := by
  obtain ⟨q, hq, e | ⟨-, e⟩⟩ := recvLine_cases tag now p l <;> rw [e]
  · exact (appends_methodEffect hq).trans (.of_cs rfl le_rfl)
  · obtain ⟨shares, e'⟩ := parseShare_eq q l.msg
    rw [e']
    exact (appends_methodEffect hq).trans (.of_cs rfl le_rfl)

/-- A reconnect attempt writes `mining.subscribe` and `mining.authorize` requests only. -/
theorem appends_startAttempt (p : ProxyInstance) (a : Attempt) :
    Appends tag p.auth p.pass p (startAttempt tag p a).2 := by
  have hc := subscribeStratum_caches tag a.subscribe p.closeSock.connectSock
  have hs : Appends tag p.auth p.pass p (subscribeStratum tag p.closeSock.connectSock a.subscribe).2 :=
    ((appends_event p (.inl rfl)).trans (appends_event _ (.inr rfl))).trans (appends_subscribeStratum _ _)
  unfold startAttempt
  split
  · exact appends_event p (.inl rfl)
  split
  next q heq => rw [heq] at hs; exact hs
  next q heq =>
    rw [heq] at hs hc
    have hq : q.auth = p.auth ∧ q.pass = p.pass :=
      ⟨congrArg (·.2.2.2.2.2.2.1) hc, congrArg (·.2.2.2.2.2.2.2.1) hc⟩
    have ha : Appends tag p.auth p.pass q (sendAuth q a.authSent).2 := by
      rw [← hq.1, ← hq.2]
      exact appends_sendAuth q a.authSent
    exact hs.trans ha

end

/-- `proxy_mode`'s setup writes no `mining.submit`, and its `mining.authorize` carries the
credentials the session keeps. -/
theorem appends_proxySetup {tag auth pass : String} {u : Setup} {p : ProxyInstance}
    (h : proxySetup tag auth pass u = some p) : Appends tag p.auth p.pass {} p := by
  obtain ⟨q, hq, hr⟩ := proxySetup_eq h
  have hs : Appends tag auth pass {} (subscribeStratum tag ({} : ProxyInstance).connectSock u.subscribe).2 :=
    (appends_event {} (.inr rfl)).trans (appends_subscribeStratum _ _)
  rw [hq] at hs
  have ha : Appends tag auth pass {} (sendAuth { q with auth := auth, pass := pass } true).2 :=
    (hs.trans (Appends.of_cs (q := { q with auth := auth, pass := pass }) rfl le_rfl)).trans
      (appends_sendAuth _ true)
  clear h
  induction hr with
  | refl => exact ha
  | tail _ he ih =>
    rw [(credentials_of_methodEffect he).1, (credentials_of_methodEffect he).2]
    exact ih.trans (appends_methodEffect he)

theorem submits_closeSock (p : ProxyInstance) :
    requests ["mining.submit"] p.closeSock.cs = requests ["mining.submit"] p.cs := by
  simp [requests, written]

/-- What `proxy_send` writes is a `mining.submit` exactly when `json_pack` succeeded. -/
theorem submits_submitRequest (auth jobid : String) (m : Json) :
    requests ["mining.submit"] [.write (submitRequest auth jobid m)] = (submitRequest auth jobid m).toList := by
  unfold submitRequest
  split <;> simp [requests, written, jsonObjectGet, List.lookup_cons]

/-- What the relay writes upstream for one submission the send thread took: the re-keyed
`mining.submit` when the lookup found the notification `ni`, and nothing when it failed. -/
def relayed (auth : String) : Json × Option NotifyInstance → Option Json
  | (m, some ni) => submitRequest auth ni.jobid m
  | (_, none) => none

/-- What the send thread has done with the submissions it took. `trace` pairs each one it has
let go of, in the order it took them, with the notification its lookup found, or with
`none` when it dropped it; the one it holds comes last. Each notification was linked in the
run, under a local id that the submission's job id names in its low 32 bits. -/
structure RelayInv (s : World) (trace : List (Json × Option NotifyInstance)) : Prop where
  log : requests ["mining.submit"] s.proxi.cs = trace.filterMap (relayed s.proxi.auth)
  order : trace.map Prod.fst ++ sendHeld s.send = s.taken
  keyed : ∀ m ni, (m, some ni) ∈ trace → ni ∈ s.issued ∧ bits32 ni.id = bits32 (jobidOf m)
  pending : ∀ jobid m, s.send = .sending jobid m →
    ∃ ni ∈ s.issued, ni.jobid = jobid ∧ bits32 ni.id = bits32 (jobidOf m)

/-- A step that writes no `mining.submit`, keeps the user name and what the send thread holds
and has taken, and only adds to the notifications linked. -/
theorem RelayInv.frame {s s' : World} {trace : List (Json × Option NotifyInstance)}
    (h : RelayInv s trace)
    (hc : requests ["mining.submit"] s'.proxi.cs = requests ["mining.submit"] s.proxi.cs)
    (ha : s'.proxi.auth = s.proxi.auth) (hh : sendHeld s'.send = sendHeld s.send)
    (hp : ∀ jobid m, s'.send = .sending jobid m → s.send = .sending jobid m)
    (ht : s'.taken = s.taken) (hi : s.issued ⊆ s'.issued) : RelayInv s' trace :=
  ⟨by rw [hc, ha, h.log], by rw [hh, ht]; exact h.order,
    fun m ni hr => ⟨hi (h.keyed m ni hr).1, (h.keyed m ni hr).2⟩,
    fun jobid m hs => let ⟨ni, hni, hj, hb⟩ := h.pending jobid m (hp jobid m hs); ⟨ni, hi hni, hj, hb⟩⟩

/-- `proxy_send` lets go of the submission it held, having written what the relay writes for
it. -/
theorem RelayInv.release {s s' : World} {trace : List (Json × Option NotifyInstance)}
    (h : RelayInv s trace) {m : Json} {o : Option NotifyInstance} (hm : sendHeld s.send = [m])
    (hs : s'.send = .top) (ha : s'.proxi.auth = s.proxi.auth)
    (hc : requests ["mining.submit"] s'.proxi.cs =
      requests ["mining.submit"] s.proxi.cs ++ (relayed s.proxi.auth (m, o)).toList)
    (hk : ∀ ni ∈ o, ni ∈ s.issued ∧ bits32 ni.id = bits32 (jobidOf m))
    (ht : s'.taken = s.taken) (hi : s'.issued = s.issued) : RelayInv s' (trace ++ [(m, o)]) := by
  refine ⟨?_, ?_, fun m' ni hr => ?_, by rw [hs]; exact nofun⟩
  · rw [hc, ha, h.log, List.filterMap_append, List.filterMap_cons, List.filterMap_nil]
    cases relayed s.proxi.auth (m, o) <;> rfl
  · rw [hs, ht, ← h.order, hm]
    simp [sendHeld]
  · rw [hi]
    rcases List.mem_append.1 hr with hr | hr
    · exact h.keyed m' ni hr
    · cases List.mem_singleton.1 hr
      exact hk ni rfl

/-- Every step of every thread keeps the relay invariant, `proxy_send`'s drop and write adding
the submission it held. -/
theorem RelayInv.step {tag : String} {s s' : World} {trace : List (Json × Option NotifyInstance)}
    (h : RelayInv s trace) (hn : NotifyInv s) (hst : Step tag s s') :
    ∃ trace', RelayInv s' trace' := by
  have ha := (step_credentials hst).1
  have keep {s'' : World} (hc : requests ["mining.submit"] s''.proxi.cs = requests ["mining.submit"] s.proxi.cs)
      (ha : s''.proxi.auth = s.proxi.auth) (he : s''.send = s.send) (ht : s''.taken = s.taken)
      (hi : s.issued ⊆ s''.issued) : ∃ trace', RelayInv s'' trace' :=
    ⟨trace, h.frame hc ha (by rw [he]) (fun _ _ e => he ▸ e) ht hi⟩
  cases hst with
  | recv hr =>
    cases hr with
    | line l _ =>
      exact keep (appends_recvLine s.now s.proxi l : Appends tag s.proxi.auth s.proxi.pass _ _).submits
        ha rfl rfl (List.subset_append_left _ _)
    | attempt a _ => exact keep (appends_startAttempt s.proxi a).submits ha rfl rfl (List.Subset.refl _)
    | authLine l _ =>
      exact keep (appends_methodEffect (authLine_effect tag s.now s.proxi l) :
          Appends tag s.proxi.auth s.proxi.pass _ _).submits ha rfl rfl (List.subset_append_left _ _)
    | _ => exact keep rfl ha rfl rfl (List.Subset.refl _)
  | send hs =>
    cases hs with
    | wait h1 _ | idle h1 _ | wake h1 =>
      exact ⟨trace, h.frame rfl ha (by rw [h1]; rfl) nofun rfl (List.Subset.refl _)⟩
    | @take m ms h1 _ =>
      have hh : sendHeld s.send = [] := by rcases h1 with h1 | h1 <;> rw [h1] <;> rfl
      refine ⟨trace, h.log, ?_, h.keyed, nofun⟩
      rw [World.dequeue, ← h.order, hh, List.append_nil]
      rfl
    | @found m ni h1 hf =>
      refine ⟨trace, h.log, by rw [← h.order, h1]; rfl, h.keyed, fun jobid m' e => ?_⟩
      cases e
      have hb := List.find?_some hf
      rw [beq_iff_eq] at hb
      exact ⟨ni, hn.table (List.mem_of_find?_eq_some hf), rfl, hb⟩
    | @drop m ret h1 _ =>
      refine ⟨_, h.release (o := none) (by rw [h1]; rfl) rfl ha ?_ nofun rfl rfl⟩
      cases ret
      · exact (submits_closeSock _).trans (List.append_nil _).symm
      · exact (List.append_nil _).symm
    | @write jobid m ok h1 =>
      obtain ⟨ni, hni, rfl, hb⟩ := h.pending jobid m h1
      have hq : requests ["mining.submit"] (s.proxi.sendJsonMsg (submitRequest s.proxi.auth ni.jobid m)).cs =
          requests ["mining.submit"] s.proxi.cs ++ (relayed s.proxi.auth (m, some ni)).toList := by
        rw [ProxyInstance.sendJsonMsg, requests_append, submits_submitRequest]
        rfl
      refine ⟨_, h.release (o := some ni) (by rw [h1]; rfl) rfl ha ?_
        (fun n hn => by cases Option.mem_some_iff.1 hn; exact ⟨hni, hb⟩) rfl rfl⟩
      cases ok
      · exact (submits_closeSock _).trans hq
      · exact hq
  | ctrl hc =>
    cases hc with
    | queue _ =>
      refine ⟨trace, h.frame rfl ha ?_ ?_ rfl (List.Subset.refl _)⟩
      · dsimp only
        split
        next hw => rw [hw]; rfl
        · rfl
      · intro jobid m e
        dsimp only at e
        split at e
        · cases e
        · exact e
    | _ => exact keep rfl ha rfl rfl (List.Subset.refl _)
  | tick t _ => exact keep rfl ha rfl rfl (List.Subset.refl _)

theorem reachable_relayInv {tag : String} {s : World} (hs : Reachable tag s) :
    ∃ trace, RelayInv s trace := by
  induction hs with
  | start h => exact ⟨[], (appends_proxySetup h).submits, rfl, nofun, nofun⟩
  | step hs' hst ih =>
    obtain ⟨trace, h⟩ := ih
    exact h.step (reachable_notifyInv hs') hst

/-- The proxy relays the stratifier's shares as a first-in first-out filter. Over any
interleaving of the three threads, every submission `submit_share` queued is, in the order it
was queued, one the send thread has let go of, the one it holds, or one still in `psends`;
and the `mining.submit` requests on the upstream socket are exactly, in that order, those the
relay writes for the submissions let go of: each re-keyed by `proxy_send` to the upstream job
id of a notification linked in this run whose local id has the submission's job id in its
low 32 bits, and signed with the session's user name; a submission whose lookup failed is
dropped. -/
theorem submits_relay_queued {tag : String} {s : World} (hs : Reachable tag s) :
    ∃ trace : List (Json × Option NotifyInstance),
      s.appended = trace.map Prod.fst ++ sendHeld s.send ++ s.proxi.psends ∧
      requests ["mining.submit"] s.proxi.cs = trace.filterMap (relayed s.proxi.auth) ∧
      ∀ m ni, (m, some ni) ∈ trace → ni ∈ s.issued ∧ bits32 ni.id = bits32 (jobidOf m) := by
  obtain ⟨trace, h⟩ := reachable_relayInv hs
  exact ⟨trace, by rw [h.order, (reachable_queueInv hs).fifo], h.log, h.keyed⟩

/-- The share for the job `a` of `notifiedSetup`, written upstream on the job's upstream id. -/
theorem submits_relay_share_for_a :
    ∃ s : World, (Reachable "ckpool" s ∧ (requests ["mining.submit"] s.proxi.cs).length = 1) ∧
      ∃ trace : List (Json × Option NotifyInstance),
        s.appended = trace.map Prod.fst ++ sendHeld s.send ++ s.proxi.psends ∧
        requests ["mining.submit"] s.proxi.cs = trace.filterMap (relayed s.proxi.auth) ∧
        ∀ m ni, (m, some ni) ∈ trace → ni ∈ s.issued ∧ bits32 ni.id = bits32 (jobidOf m) :=
  have hs : Reachable "ckpool" _ :=
    .step (.step (.step (.step (.step (.step
      (@Reachable.start "ckpool" "user" "pass" notifiedSetup _ rfl)
      (.ctrl (.announce rfl))) (.ctrl (.submit shareForA rfl))) (.ctrl (.queue rfl)))
      (.send (.take (.inl rfl) rfl))) (.send (.found rfl rfl))) (.send (.write true rfl))
  ⟨_, ⟨hs, rfl⟩, submits_relay_queued hs⟩

/-- Every step of every thread writes upstream only what `UpstreamMsg` lists. -/
theorem step_writesUpstream {tag : String} {s s' : World} (hst : Step tag s s')
    (h : WritesUpstream tag s.proxi.auth s.proxi.pass s.proxi.id s.proxi.cs) :
    WritesUpstream tag s'.proxi.auth s'.proxi.pass s'.proxi.id s'.proxi.cs := by
  rw [(step_credentials hst).1, (step_credentials hst).2]
  cases hst with
  | recv hr =>
    cases hr with
    | line l _ => exact (appends_recvLine s.now s.proxi l).writes h
    | attempt a _ => exact (appends_startAttempt s.proxi a).writes h
    | authLine l _ => exact (appends_methodEffect (authLine_effect tag s.now s.proxi l)).writes h
    | _ => exact h
  | send hs =>
    cases hs with
    | drop ret _ _ => cases ret; exacts [(appends_event _ (.inl rfl)).writes h, h]
    | @write jobid m ok _ =>
      have hw : WritesUpstream tag s.proxi.auth s.proxi.pass s.proxi.id
          (s.proxi.cs ++ [.write (submitRequest s.proxi.auth jobid m)]) := h.append fun x hx => by
        unfold submitRequest at hx
        split at hx
        · cases List.mem_singleton.1 hx; exact .submit _ _ _ _ _
        · cases hx
      cases ok
      exacts [(appends_event (s.proxi.sendJsonMsg _) (.inl rfl)).writes hw, hw]
    | _ => exact h
  | ctrl hc => cases hc <;> exact h
  | tick _ _ => exact h

end CkpoolGenerator.Relay
