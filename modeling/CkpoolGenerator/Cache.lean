import Mathlib.Data.List.Nodup
import CkpoolGenerator.Threads

/-!
# The notification cache over a run

`parse_notify` gives each notification the next value of `notify_id`, and nothing else writes
the counter: neither the ageing pass nor the flush of `reconnect_stratum` resets it. So the
notifications linked over a run carry the ids `0, 1, …` in the order they were linked, and
while there are fewer than `2^31` of them the 32-bit lookup of `proxy_send` finds the entry
a local id was given to, or none. The flush does not clear `current_notify`, and
`proxy_loop` announces a notification before one need have arrived; the other `notify` signals
come after a notification is linked, and are no more than the notifications linked.
-/

namespace CkpoolGenerator.Cache

open CkpoolGenerator.Jansson CkpoolGenerator.Instance CkpoolGenerator.Codec
  CkpoolGenerator.Subscribe CkpoolGenerator.Notify CkpoolGenerator.Method CkpoolGenerator.Share
  CkpoolGenerator.Reconnect CkpoolGenerator.Threads

/-- The cache of a single session: the table holds every notification linked so far, in
order, and `current_notify` is the last of them. -/
def TableInv (p : ProxyInstance) : Prop :=
  p.notifyInstances.map (·.id) = List.range p.notifyId ∧
    p.currentNotify = p.notifyInstances.getLast?

theorem TableInv.links {p q : ProxyInstance} (h : TableInv p) (hl : Links p q) : TableInv q := by
  rcases hl with e | ⟨ni, hid, e⟩ <;>
    simp only [ProxyInstance.notifyState, linkNotify, Prod.mk.injEq] at e <;>
    obtain ⟨ht, hc, hn⟩ := e <;> rw [TableInv, ht, hc, hn]
  · exact h
  · exact ⟨by simp [h.1, hid, List.range_succ], by simp⟩

theorem proxySetup_tableInv {tag auth pass : String} {u : Setup} {p : ProxyInstance}
    (h : proxySetup tag auth pass u = some p) : TableInv p := by
  obtain ⟨q, hq, hr⟩ := proxySetup_eq h
  have hs := subscribeStratum_caches tag u.subscribe ({} : ProxyInstance).connectSock
  rw [hq] at hs
  simp only [ProxyInstance.caches, Prod.mk.injEq] at hs
  clear h
  induction hr with
  | refl => simp [TableInv, sendAuth, hs]
  | tail _ he ih => exact ih.links he.links

/-- The notifications linked so far took the ids `0, 1, …` in order, the table holds only such
notifications, and `current_notify` is the one linked last. -/
structure NotifyInv (s : World) : Prop where
  ids : s.issued.map (·.id) = List.range s.proxi.notifyId
  table : s.proxi.notifyInstances ⊆ s.issued
  current : s.proxi.currentNotify = s.issued.getLast?

/-- What one step does to the cache: link one entry, which joins `issued`, or drop entries
from the table and change nothing else. -/
def CacheMove (s s' : World) : Prop :=
  (∃ ni : NotifyInstance, ni.id = s.proxi.notifyId ∧
      s'.proxi.notifyState = (linkNotify s.proxi ni).notifyState ∧ s'.issued = s.issued ++ [ni]) ∨
    (s'.proxi.notifyInstances ⊆ s.proxi.notifyInstances ∧
      s'.proxi.currentNotify = s.proxi.currentNotify ∧ s'.proxi.notifyId = s.proxi.notifyId ∧
      s'.issued = s.issued)

theorem cacheMove_of_frame {s s' : World} (h : s'.proxi.notifyState = s.proxi.notifyState)
    (hi : s'.issued = s.issued) : CacheMove s s' := by
  simp only [ProxyInstance.notifyState, Prod.mk.injEq] at h
  exact .inr ⟨h.1 ▸ List.Subset.refl _, h.2.1, h.2.2, hi⟩

theorem cacheMove_of_links {s s' : World} (h : Links s.proxi s'.proxi)
    (hi : s'.issued = s.issued ++ linked s.proxi s'.proxi) : CacheMove s s' := by
  rcases h with e | ⟨ni, hid, e⟩
  · refine cacheMove_of_frame e ?_
    have hn : s'.proxi.notifyId = s.proxi.notifyId := congrArg (·.2.2) e
    simp [hi, linked, hn]
  · have hc : s'.proxi.currentNotify = some ni := congrArg (·.2.1) e
    have hn : s'.proxi.notifyId = s.proxi.notifyId + 1 := congrArg (·.2.2) e
    exact .inl ⟨ni, hid, e, by simp [hi, linked, hc, hn]⟩

/-- Every step of every thread moves the cache as `CacheMove` says. -/
theorem step_cacheMove {tag : String} {s s' : World} (h : Step tag s s') : CacheMove s s' := by
  cases h with
  | recv h =>
    cases h with
    | ageNotify _ => exact .inr ⟨(ageNotify_sublist _ _ _).subset, rfl, rfl, rfl⟩
    | line l _ => exact cacheMove_of_links (recvLine_links tag _ _ l) rfl
    | stall _ => exact .inr ⟨List.nil_subset _, rfl, rfl, rfl⟩
    | attempt a _ =>
      exact cacheMove_of_frame (ProxyInstance.notifyState_of_caches (startAttempt_caches tag _ a)) rfl
    | authLine l _ => exact cacheMove_of_links (authLine_effect tag _ _ l).links rfl
    | ageShares _ | authFail _ => exact cacheMove_of_frame rfl rfl
  | send h =>
    cases h with
    | drop ret _ _ => exact cacheMove_of_frame (by cases ret <;> rfl) rfl
    | write ok _ => exact cacheMove_of_frame (by cases ok <;> rfl) rfl
    | _ => exact cacheMove_of_frame rfl rfl
  | ctrl h => cases h <;> exact cacheMove_of_frame rfl rfl
  | tick _ _ => exact cacheMove_of_frame rfl rfl

theorem NotifyInv.move {s s' : World} (h : NotifyInv s) (hm : CacheMove s s') : NotifyInv s' := by
  rcases hm with ⟨ni, hid, e, hi⟩ | ⟨ht, hc, hn, hi⟩
  · simp only [ProxyInstance.notifyState, linkNotify, Prod.mk.injEq] at e
    obtain ⟨ht, hc, hn⟩ := e
    refine ⟨by simp [hi, hn, h.ids, hid, List.range_succ], ?_, ?_⟩
    · intro x hx
      rw [ht, List.mem_append] at hx
      rw [hi, List.mem_append]
      exact hx.imp_left (h.table ·)
    · simp [hc, hi]
  · exact ⟨hi ▸ hn ▸ h.ids, fun x hx => hi ▸ h.table (ht hx), hi ▸ hc ▸ h.current⟩

theorem reachable_notifyInv {tag : String} {s : World} (hs : Reachable tag s) : NotifyInv s := by
  induction hs with
  | start h =>
    have ht := proxySetup_tableInv h
    exact ⟨ht.1, List.Subset.refl _, ht.2⟩
  | step _ hst ih => exact ih.move (step_cacheMove hst)

theorem NotifyInv.id_lt {s : World} (h : NotifyInv s) {ni : NotifyInstance} (hni : ni ∈ s.issued) :
    ni.id < s.proxi.notifyId :=
  List.mem_range.mp (h.ids ▸ List.mem_map_of_mem (·.id) hni)

/-- No local id is given twice. -/
theorem NotifyInv.unique {s : World} (h : NotifyInv s) {a b : NotifyInstance} (ha : a ∈ s.issued)
    (hb : b ∈ s.issued) (e : a.id = b.id) : a = b :=
  List.inj_on_of_nodup_map (h.ids ▸ List.nodup_range _) ha hb e

theorem find?_eq_of_unique {l : List NotifyInstance} {f : NotifyInstance → Bool}
    {x : NotifyInstance} (hf : ∀ y ∈ l, f y = true ↔ y = x) :
    l.find? f = if x ∈ l then some x else none := by
  induction l with
  | nil => rfl
  | cons y l ih =>
    have ih := ih fun z hz => hf z (.tail _ hz)
    by_cases hy : y = x
    · subst hy; simp [(hf y (.head _)).2 rfl]
    · have hfy : f y = false := Bool.eq_false_iff.2 fun e => hy ((hf y (.head _)).1 e)
      simp [hfy, ih, Ne.symm hy]

/-- While fewer than `2^31` notifications have been linked, the 32-bit lookup of a local id
that was given out finds that notification if it is still in the table, and nothing if not. -/
theorem findJob_issued {s : World} (h : NotifyInv s) (hlt : s.proxi.notifyId < 2 ^ 31)
    {ni : NotifyInstance} (hni : ni ∈ s.issued) {m : Json} (hj : jobidOf m = ni.id) :
    findJob s.proxi m = if ni ∈ s.proxi.notifyInstances then some ni else none := by
  apply find?_eq_of_unique
  intro n hn
  have hn' := h.table hn
  have := h.id_lt hn'
  have := h.id_lt hni
  rw [hj, beq_iff_eq, bits32_eq_of_lt (by omega) (by omega) (by omega) (by omega), Int.ofNat_inj]
  exact ⟨h.unique hn' hni, fun e => e ▸ rfl⟩

/-- Over a run with fewer than `2^31` notifications, no local id is given twice; and when
`proxy_send` looks up a submission whose `jobid` is the local id of a notification `ni`, it goes
on to write exactly when `ni` is still in the table, and otherwise writes nothing. What it
writes is the result of its `json_pack`: the `mining.submit` with the user name, `ni`'s upstream
job id and the submission's `nonce2`, `ntime`, `nonce` and `id`, or the bare line
`send_json_msg` sends when one of those members is missing. -/
theorem proxy_send_rekeys_local_jobid {tag : String} {s : World} (hs : Reachable tag s)
    (hlt : s.proxi.notifyId < 2 ^ 31) :
    (∀ a ∈ s.issued, ∀ b ∈ s.issued, a.id = b.id → a = b) ∧
    ∀ (m : Json) (ni : NotifyInstance) (s' : World), s.send = .holding m → ni ∈ s.issued →
      jobidOf m = ni.id → SendStep s s' →
        (ni ∈ s.proxi.notifyInstances ∧ s' = { s with send := .sending ni.jobid m } ∧
          ∀ s'', SendStep s' s'' → ∃ (w : Option Json) (ok : Bool),
            s''.proxi.cs = s.proxi.cs ++ .write w :: (if ok then [] else [.close]) ∧
            (w = none ↔ jsonObjectGet (some m) "nonce2" = none ∨ jsonObjectGet (some m) "ntime" = none ∨
              jsonObjectGet (some m) "nonce" = none ∨ jsonObjectGet (some m) "id" = none) ∧
            ∀ a b c d, jsonObjectGet (some m) "nonce2" = some a → jsonObjectGet (some m) "ntime" = some b →
              jsonObjectGet (some m) "nonce" = some c → jsonObjectGet (some m) "id" = some d →
              w = some (.obj [("params", .arr [.str s.proxi.auth, .str ni.jobid, a, b, c]), ("id", d),
                ("method", .str "mining.submit")])) ∨
        (ni ∉ s.proxi.notifyInstances ∧ s'.send = .top ∧
          ∃ ret : Bool, s'.proxi.cs = s.proxi.cs ++ if ret then [] else [.close]) := by
  have h := reachable_notifyInv hs
  refine ⟨fun a ha b hb => h.unique ha hb, fun m ni s' hm hni hj hst => ?_⟩
  have hf := findJob_issued h hlt hni hj
  rcases hst.of_holding hm with ⟨n, hn, rfl⟩ | ⟨hn, ret, rfl⟩ <;> rw [hf] at hn <;> split at hn
  · cases hn
    refine .inl ⟨‹_›, rfl, fun s'' hw => ?_⟩
    obtain ⟨ok, rfl⟩ := hw.of_sending rfl
    exact ⟨_, ok, by cases ok <;> simp, submitRequest_eq_none _ _ m,
      fun _ _ _ _ ha hb hc hd => submitRequest_eq_some ha hb hc hd⟩
  · cases hn
  · cases hn
  · exact .inr ⟨‹_›, rfl, ret, by cases ret <;> simp⟩

/-- A submission for the job `a` of `notifiedSetup`, which took local id 0. -/
def shareForA : Json :=
  .obj [("client_id", .int 7), ("msg_id", .int 42), ("jobid", .int 0),
    ("nonce2", .str "00000000"), ("ntime", .str "5a5a5a5a"), ("nonce", .str "12345678")]

theorem proxy_send_rekeys_share_for_a :
    ∃ s : World, (Reachable "ckpool" s ∧ s.proxi.notifyId < 2 ^ 31 ∧
      s.send = .holding (jsonObjectSet (jsonObjectDel (jsonObjectDel shareForA "client_id") "msg_id")
        "id" (.int 0))) ∧
      ((∀ a ∈ s.issued, ∀ b ∈ s.issued, a.id = b.id → a = b) ∧
      ∀ (m : Json) (ni : NotifyInstance) (s' : World), s.send = .holding m → ni ∈ s.issued →
        jobidOf m = ni.id → SendStep s s' →
          (ni ∈ s.proxi.notifyInstances ∧ s' = { s with send := .sending ni.jobid m } ∧
            ∀ s'', SendStep s' s'' → ∃ (w : Option Json) (ok : Bool),
              s''.proxi.cs = s.proxi.cs ++ .write w :: (if ok then [] else [.close]) ∧
              (w = none ↔ jsonObjectGet (some m) "nonce2" = none ∨ jsonObjectGet (some m) "ntime" = none ∨
                jsonObjectGet (some m) "nonce" = none ∨ jsonObjectGet (some m) "id" = none) ∧
              ∀ a b c d, jsonObjectGet (some m) "nonce2" = some a → jsonObjectGet (some m) "ntime" = some b →
                jsonObjectGet (some m) "nonce" = some c → jsonObjectGet (some m) "id" = some d →
                w = some (.obj [("params", .arr [.str s.proxi.auth, .str ni.jobid, a, b, c]), ("id", d),
                  ("method", .str "mining.submit")])) ∨
          (ni ∉ s.proxi.notifyInstances ∧ s'.send = .top ∧
            ∃ ret : Bool, s'.proxi.cs = s.proxi.cs ++ if ret then [] else [.close])) :=
  have hs : Reachable "ckpool" _ :=
    .step (.step (.step (.step (@Reachable.start "ckpool" "user" "pass" notifiedSetup _ rfl)
      (.ctrl (.announce rfl))) (.ctrl (.submit shareForA rfl))) (.ctrl (.queue rfl)))
      (.send (.take (.inl rfl) rfl))
  ⟨_, ⟨hs, by decide, rfl⟩, proxy_send_rekeys_local_jobid hs (by decide)⟩

/-- A submission for the cached job `a` that carries no share fields: `proxy_send` finds the
job, and writes the bare line that the failure of its `json_pack` leaves, not a
`mining.submit`. -/
theorem proxy_send_bare_line_for_cached_job :
    ∃ s s' s'' : World, Reachable "ckpool" s ∧ SendStep s s' ∧ SendStep s' s'' ∧
      (∃ m ni, s.send = .holding m ∧ findJob s.proxi m = some ni ∧ ni ∈ s.proxi.notifyInstances) ∧
      s''.proxi.cs = s.proxi.cs ++ [.write none] ∧
      requests ["mining.submit"] s''.proxi.cs = requests ["mining.submit"] s.proxi.cs :=
  ⟨_, _, _, .step (.step (.step (.step (@Reachable.start "ckpool" "user" "pass" notifiedSetup _ rfl)
      (.ctrl (.announce rfl))) (.ctrl (.submit (.obj [("jobid", .int 0)]) rfl))) (.ctrl (.queue rfl)))
      (.send (.take (.inl rfl) rfl)),
    .found rfl rfl, .write true rfl, ⟨_, _, rfl, rfl, List.mem_singleton_self _⟩, rfl, rfl⟩

/-- Over any run, `current_notify` is the notification linked last, and `NULL` before the
first: nothing moves it off the newest notification, not even when the flush of
`reconnect_stratum` or an ageing pass has freed that notification. -/
theorem current_notify_is_last_linked {tag : String} {s : World} (hs : Reachable tag s) :
    s.proxi.currentNotify = s.issued.getLast? :=
  (reachable_notifyInv hs).current

/-- The setup of `notifiedSetup`, whose job `a` is linked and current. -/
theorem current_notify_is_last_linked_after_setup :
    ∃ s : World, (Reachable "ckpool" s ∧ s.issued.length = 1) ∧
      s.proxi.currentNotify = s.issued.getLast? :=
  have hs : Reachable "ckpool" _ := @Reachable.start "ckpool" "user" "pass" notifiedSetup _ rfl
  ⟨_, ⟨hs, rfl⟩, current_notify_is_last_linked hs⟩


/-- The flush of `reconnect_stratum` frees the table and keeps `current_notify`: after a
reconnect whose new session has pushed no job yet, `current_notify` points at an entry that is
no longer in the table, and `getnotify` reads it. -/
theorem current_notify_dangles_after_flush :
    ∃ s : World, Reachable "ckpool" s ∧ s.ctrl = .ready ∧ s.recv = .top ∧
      ∃ ni, s.proxi.currentNotify = some ni ∧ ni ∉ s.proxi.notifyInstances :=
  ⟨_, .step (.step (.step (.step (.step (.step
      (@Reachable.start "ckpool" "user" "pass" notifiedSetup _ rfl)
      (.ctrl (.announce rfl))) (.recv (.ageNotify rfl))) (.recv (.ageShares rfl)))
      (.recv (.stall rfl))) (.recv (.attempt ⟨true, [subscribeOk], true⟩ rfl)))
      (.recv (.authLine (authAnswer true) rfl)),
    rfl, rfl, _, rfl, List.not_mem_nil _⟩

/-- `proxy_loop` sends `notify` to the stratifier before it has read anything, and an upstream
need push no job before it authorises: the `getnotify` that follows finds `current_notify`
`NULL`. -/
theorem getnotify_before_first_notify :
    ∃ s : World, Reachable "ckpool" s ∧ s.ctrl = .ready ∧ "notify" ∈ s.signals ∧
      sendNotify s.proxi = none :=
  ⟨_, .step (@Reachable.start "ckpool" "user" "pass" quietSetup _ rfl) (.ctrl (.announce rfl)),
    rfl, by decide, rfl⟩

/-- A `mining.notify` whose params are not an array of the nine fields. -/
def malformedNotify : Incoming :=
  { msg := some (.obj [("id", .null), ("method", .str "mining.notify"), ("params", .arr [])]) }

/-- `auth_stratum` leaves `notified` set for a job the upstream pushes while a reconnect is
being authorised, for the receive loop to signal; but `parse_method` sets `notified` to what
`parse_notify` returns, so a malformed `mining.notify` read next clears it, and the
stratifier never hears of the job `b`. -/
theorem malformed_notify_cancels_signal :
    ∃ s s' : World, Reachable "ckpool" s ∧ Step "ckpool" s s' ∧
      s.signals = ["subscribe", "notify", "subscribe"] ∧ s.issued.map (·.jobid) = ["b"] ∧
      s.proxi.notified = true ∧ s'.proxi.notified = false ∧ s'.signals = s.signals ∧
      s'.issued = s.issued :=
  ⟨_, _, .step (.step (.step (.step (.step (.step (.step (.step (.step
      (@Reachable.start "ckpool" "user" "pass" quietSetup _ rfl)
      (.ctrl (.announce rfl))) (.recv (.ageNotify rfl))) (.recv (.ageShares rfl)))
      (.recv (.stall rfl))) (.recv (.attempt ⟨true, [subscribeOk], true⟩ rfl)))
      (.recv (.authLine (notifyPush "b") rfl))) (.recv (.authLine (authAnswer true) rfl)))
      (.recv (.ageNotify rfl))) (.recv (.ageShares rfl)),
    .recv (.line malformedNotify rfl), rfl, rfl, rfl, rfl, rfl, rfl⟩

/-- The `notify` signals `proxy_loop` sends itself: the one it sends at startup. -/
def loopNotifies : CtrlPc → Nat
  | .starting => 0
  | .ready | .queueing _ | .stopped => 1

/-- The signal owed, and every signal beyond `proxy_loop`'s own, are for a notification that
is current; and the signals sent and owed number at most the notifications linked and the
startup one. -/
structure SignalInv (s : World) : Prop where
  owed : s.proxi.notified = true → s.proxi.currentNotify.isSome
  sent : loopNotifies s.ctrl < s.signals.count "notify" → s.proxi.currentNotify.isSome
  bound : s.signals.count "notify" + s.proxi.notified.toNat ≤ s.proxi.notifyId + loopNotifies s.ctrl

/-- `parse_method` sets `notified` only on the notification it links, and never unsets
`current_notify`. -/
theorem signal_of_methodEffect {tag : String} {p q : ProxyInstance} (h : MethodEffect tag p q)
    (hp : p.notified = true → p.currentNotify.isSome) :
    (q.notified = true → q.currentNotify.isSome) ∧ (p.currentNotify.isSome → q.currentNotify.isSome) ∧
      p.notifyId ≤ q.notifyId ∧ q.notified.toNat ≤ p.notified.toNat + (q.notifyId - p.notifyId) := by
  cases h with
  | link ni _ => exact ⟨fun _ => rfl, fun _ => rfl, Nat.le_succ _, by simp [linkNotify]⟩
  | badNotify => exact ⟨nofun, id, le_rfl, Nat.zero_le _⟩
  | unchanged | diff _ | version _ => exact ⟨hp, id, le_rfl, Nat.le_add_right _ _⟩

/-- The receive loop signals `notify` for the flag `parse_method` left, and clears it, or
passes the line on to `parse_share` with the flag still owed. -/
theorem recvLine_signals (tag : String) (now : Int) (p : ProxyInstance) (l : Incoming) :
    ∃ q, MethodEffect tag p q ∧ (recvLine tag now p l).1.currentNotify = q.currentNotify ∧
      (recvLine tag now p l).1.notifyId = q.notifyId ∧
      ((recvLine tag now p l).2.count "notify" = q.notified.toNat ∧
          (recvLine tag now p l).1.notified = false ∨
        (recvLine tag now p l).2.count "notify" = 0 ∧ (recvLine tag now p l).1.notified = q.notified) := by
  obtain ⟨-, h⟩ := parseMethod_spec tag now p l
  unfold recvLine
  split
  next q heq =>
    rw [heq] at h
    refine ⟨q, h, rfl, rfl, .inl ⟨?_, rfl⟩⟩
    cases q.notified <;> cases q.diffed <;> rfl
  next q heq =>
    rw [heq] at h
    obtain ⟨shares, e⟩ := parseShare_eq q l.msg
    rw [e]
    exact ⟨q, h, rfl, rfl, .inr ⟨rfl, rfl⟩⟩

theorem SignalInv.frame {s s' : World} (h : SignalInv s) (hn : s'.proxi.notified = s.proxi.notified)
    (hc : s'.proxi.currentNotify = s.proxi.currentNotify) (hi : s'.proxi.notifyId = s.proxi.notifyId)
    (hs : s'.signals.count "notify" = s.signals.count "notify")
    (hl : loopNotifies s'.ctrl = loopNotifies s.ctrl) : SignalInv s' :=
  ⟨by rw [hn, hc]; exact h.owed, by rw [hs, hl, hc]; exact h.sent, by rw [hn, hi, hs, hl]; exact h.bound⟩

/-- A step that runs `parse_method` on a line, then either signals the flag it leaves and
clears it, or keeps it owed. -/
theorem SignalInv.parse {tag : String} {s s' : World} {q : ProxyInstance} (h : SignalInv s)
    (hq : MethodEffect tag s.proxi q) (hc : s'.proxi.currentNotify = q.currentNotify)
    (hi : s'.proxi.notifyId = q.notifyId)
    (hs : s'.signals.count "notify" = s.signals.count "notify" + q.notified.toNat ∧
        s'.proxi.notified = false ∨
      s'.signals.count "notify" = s.signals.count "notify" ∧ s'.proxi.notified = q.notified)
    (hl : s'.ctrl = s.ctrl) : SignalInv s' := by
  obtain ⟨hq1, hq2, hq3, hq4⟩ := signal_of_methodEffect hq h.owed
  refine ⟨fun hn => hc ▸ ?_, fun hlt => hc ▸ ?_, ?_⟩
  · rcases hs with ⟨-, e⟩ | ⟨-, e⟩ <;> rw [e] at hn
    · cases hn
    · exact hq1 hn
  · cases hqn : q.notified
    · have e : s'.signals.count "notify" = s.signals.count "notify" := by
        rcases hs with ⟨e, -⟩ | ⟨e, -⟩
        · rw [e, hqn]; rfl
        · exact e
      exact hq2 (h.sent (by rw [← hl, ← e]; exact hlt))
    · exact hq1 hqn
  · have := h.bound
    rcases hs with ⟨e, hn⟩ | ⟨e, hn⟩ <;> rw [e, hn, hi, hl]
    · rw [Bool.toNat_false]; omega
    · omega

/-- Every step of every thread keeps the signal invariant. -/
theorem SignalInv.step {tag : String} {s s' : World} (h : SignalInv s) (hst : Step tag s s') :
    SignalInv s' := by
  cases hst with
  | recv hr =>
    cases hr with
    | line l _ =>
      obtain ⟨q, hq, hc, hi, hs⟩ := recvLine_signals tag s.now s.proxi l
      refine h.parse hq hc hi ?_ rfl
      rw [List.count_append]
      rcases hs with ⟨e, hn⟩ | ⟨e, hn⟩
      · exact .inl ⟨by rw [e], hn⟩
      · exact .inr ⟨by rw [e]; rfl, hn⟩
    | attempt a _ =>
      have hc := startAttempt_caches tag s.proxi a
      exact h.frame (congrArg (·.2.2.2.2.2.2.2.2.2.1) hc) (congrArg (·.2.1) hc) (congrArg (·.2.2.1) hc)
        rfl rfl
    | authLine l _ =>
      refine h.parse (authLine_effect tag s.now s.proxi l) rfl rfl (.inr ⟨?_, rfl⟩) rfl
      dsimp only
      split
      · rw [List.count_append]; rfl
      · rfl
    | _ => exact h.frame rfl rfl rfl rfl rfl
  | send hs =>
    cases hs with
    | drop ret _ _ => cases ret <;> exact h.frame rfl rfl rfl rfl rfl
    | write ok _ => cases ok <;> exact h.frame rfl rfl rfl rfl rfl
    | _ => exact h.frame rfl rfl rfl rfl rfl
  | ctrl hc =>
    cases hc with
    | announce h1 =>
      have hl : loopNotifies s.ctrl = 0 := by rw [h1]; rfl
      have hs : (s.signals ++ ["subscribe", "notify"]).count "notify" = s.signals.count "notify" + 1 := by
        rw [List.count_append]; rfl
      have := h.bound
      refine ⟨nofun, fun hlt => h.sent ?_, ?_⟩
      · rw [hl]
        have : 1 < s.signals.count "notify" + 1 := hs ▸ hlt
        omega
      · show (s.signals ++ ["subscribe", "notify"]).count "notify" + 0 ≤ s.proxi.notifyId + 1
        omega
    | shutdown h1 | submit _ h1 | queue h1 => exact h.frame rfl rfl rfl rfl (by rw [h1]; rfl)
  | tick _ _ => exact h.frame rfl rfl rfl rfl rfl

/-- `proxy_mode`'s setup leaves a `notified` flag only for a notification it linked. -/
theorem proxySetup_signals {tag auth pass : String} {u : Setup} {p : ProxyInstance}
    (h : proxySetup tag auth pass u = some p) :
    (p.notified = true → p.currentNotify.isSome) ∧ p.notified.toNat ≤ p.notifyId := by
  obtain ⟨q, hq, hr⟩ := proxySetup_eq h
  have hs := subscribeStratum_caches tag u.subscribe ({} : ProxyInstance).connectSock
  rw [hq] at hs
  simp only [ProxyInstance.caches, Prod.mk.injEq] at hs
  clear h
  induction hr with
  | refl => simp [sendAuth, hs]
  | tail _ he ih =>
    obtain ⟨h1, -, h3, h4⟩ := signal_of_methodEffect he ih.1
    exact ⟨h1, by omega⟩

theorem reachable_signalInv {tag : String} {s : World} (hs : Reachable tag s) : SignalInv s := by
  induction hs with
  | start h =>
    have := proxySetup_signals h
    exact ⟨this.1, nofun, by simpa [World.start, loopNotifies] using this.2⟩
  | step _ hst ih => exact ih.step hst

/-- Over any run, the stratifier hears `notify` at most as often as there are notifications
linked, besides the once `proxy_loop` sends it at startup; and once it has heard a `notify`
beyond that one, `current_notify` is set, so that the `getnotify` it answers with finds a
notification. Only the startup signal can come before one. -/
theorem notify_signals_follow_links {tag : String} {s : World} (hs : Reachable tag s) :
    s.signals.count "notify" ≤ s.issued.length + loopNotifies s.ctrl ∧
      (loopNotifies s.ctrl < s.signals.count "notify" → (sendNotify s.proxi).isSome) := by
  have h := reachable_signalInv hs
  have hl : s.issued.length = s.proxi.notifyId := by
    simpa using congrArg List.length (reachable_notifyInv hs).ids
  refine ⟨by have := h.bound; omega, fun hlt => ?_⟩
  simpa [sendNotify] using h.sent hlt

/-- The stratifier hears of job `b` after the startup signal, and `getnotify` serves it. -/
theorem notify_signals_follow_links_b :
    ∃ s : World, (Reachable "ckpool" s ∧ s.signals.count "notify" = 2) ∧
      (s.signals.count "notify" ≤ s.issued.length + loopNotifies s.ctrl ∧
        (loopNotifies s.ctrl < s.signals.count "notify" → (sendNotify s.proxi).isSome)) :=
  have hs : Reachable "ckpool" _ :=
    .step (.step (.step (.step (@Reachable.start "ckpool" "user" "pass" quietSetup _ rfl)
      (.ctrl (.announce rfl))) (.recv (.ageNotify rfl))) (.recv (.ageShares rfl)))
      (.recv (.line (notifyPush "b") rfl))
  ⟨_, ⟨hs, rfl⟩, notify_signals_follow_links hs⟩

end CkpoolGenerator.Cache
