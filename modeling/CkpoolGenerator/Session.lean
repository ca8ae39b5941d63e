import CkpoolGenerator.Threads

/-!
# The subscription tier over a run

`subscribe_stratum` falls back from a session id to one parameter to none, and records each
fallback in `no_sessionid` or `no_params`. Nothing clears the two flags: not
`parse_subscribe`, not `reconnect_stratum`, not any line the receive loop reads. So from any
reachable state on, the flags set there stay set, no session id is held while one is set,
and every later `mining.subscribe` is of a tier they allow.
-/

namespace CkpoolGenerator.Session

open Relation
open CkpoolGenerator.Jansson CkpoolGenerator.Instance CkpoolGenerator.Codec
  CkpoolGenerator.Subscribe CkpoolGenerator.Notify CkpoolGenerator.Method CkpoolGenerator.Share
  CkpoolGenerator.Reconnect CkpoolGenerator.Threads

theorem quiet_session {p q : ProxyInstance} (h : Quiet p q) (hi : SessionInv p) :
    SessionFrom p q := by
  obtain ⟨new, hc, hr⟩ := h.cs
  exact .frame hi h.noSessionid h.noParams h.sessionid new hc (hr _ (by decide))

theorem sendAuth_session (p : ProxyInstance) (sent : Bool) (hi : SessionInv p) :
    SessionFrom p (sendAuth p sent).2 := by
  have hr : requests ["mining.subscribe"] [.write (some (authRequest p))] = [] := by
    simp [requests, written, authRequest, jsonObjectGet, List.lookup_cons]
  cases sent
  · exact .frame hi rfl rfl rfl ([SockEvent.write (some (authRequest p))] ++ [SockEvent.close])
      (List.append_assoc _ _ _) (by rw [requests_append, hr]; rfl)
  · exact .frame hi rfl rfl rfl [.write (some (authRequest p))] rfl hr

theorem startAttempt_session (tag : String) (p : ProxyInstance) (a : Attempt) (hi : SessionInv p) :
    SessionFrom p (startAttempt tag p a).2 := by
  unfold startAttempt
  split
  · exact .frame hi rfl rfl rfl [.close] rfl rfl
  have hc : SessionFrom p p.closeSock.connectSock :=
    .frame hi rfl rfl rfl [.close, .connect] (by simp) rfl
  have hs := hc.trans (subscribeStratum_session tag a.subscribe _ hc.1)
  split
  next q heq => rw [heq] at hs; exact hs
  next q heq => rw [heq] at hs; exact hs.trans (sendAuth_session q a.authSent hs.1)

/-- One step of any thread, from a state where the session invariant holds. -/
theorem step_session {tag : String} {s s' : World} (h : Step tag s s') (hi : SessionInv s.proxi) :
    SessionFrom s.proxi s'.proxi := by
  rcases step_connection h with ⟨a, e⟩ | hq
  · rw [e]; exact startAttempt_session tag _ a hi
  · exact quiet_session hq hi

theorem proxySetup_session {tag auth pass : String} {u : Setup} {p : ProxyInstance}
    (h : proxySetup tag auth pass u = some p) : SessionFrom ({} : ProxyInstance) p := by
  obtain ⟨q, hq, hr⟩ := proxySetup_eq h
  have h0 : SessionInv ({} : ProxyInstance) := fun _ => rfl
  have hc : SessionFrom ({} : ProxyInstance) ({} : ProxyInstance).connectSock :=
    .frame h0 rfl rfl rfl [.connect] rfl rfl
  have hs := hc.trans (subscribeStratum_session tag u.subscribe _ hc.1)
  rw [hq] at hs
  have hq' : SessionFrom ({} : ProxyInstance) (sendAuth { q with auth := auth, pass := pass } true).2 :=
    hs.trans ((SessionFrom.frame hs.1 rfl rfl rfl [] (List.append_nil _).symm rfl).trans
      (sendAuth_session _ true hs.1))
  clear h
  induction hr with
  | refl => exact hq'
  | tail _ he ih => exact ih.trans (quiet_session he.untouched.1.quiet ih.1)

/-- From `proxy_mode`'s setup on, and from any reachable state through any run after it: the
fallback flags set at the start stay set, a set flag means no session id is held, and every
`mining.subscribe` written meanwhile is of a tier the flags at the start allow. -/
theorem subscribe_tier_flags_persist {tag : String} :
    (∀ auth pass u p, proxySetup tag auth pass u = some p → SessionFrom ({} : ProxyInstance) p) ∧
    ∀ s s', Reachable tag s → ReflTransGen (Step tag) s s' → SessionFrom s.proxi s'.proxi := by
  have hinv : ∀ s, Reachable tag s → SessionInv s.proxi := by
    intro s hs
    induction hs with
    | start h => exact (proxySetup_session h).1
    | step _ hst ih => exact (step_session hst ih).1
  refine ⟨fun _ _ _ _ => proxySetup_session, fun s s' hs hr => ?_⟩
  induction hr with
  | refl => exact .frame (hinv s hs) rfl rfl rfl [] (List.append_nil _).symm rfl
  | tail _ hst ih => exact ih.trans (step_session hst ih.1)

/-- An upstream that answers the first `mining.subscribe` with a nonce2 length of 2 and
accepts the second, so that the setup drops the session id it copied and sets `no_sessionid`. -/
def droppedSidSetup : Setup := ⟨0, true, [shortNonce2, subscribeOk], true, [authAnswer true]⟩

/-- The setup of `droppedSidSetup`, and a run after it that stalls and reconnects once:
`no_sessionid`, set at the setup, is still set after the reconnect. -/
theorem subscribe_tier_flags_persist_dropped :
    (∃ p, proxySetup "ckpool" "user" "pass" droppedSidSetup = some p ∧ p.noSessionid = true ∧
      SessionFrom ({} : ProxyInstance) p) ∧
    ∃ s s', Reachable "ckpool" s ∧ ReflTransGen (Step "ckpool") s s' ∧
      SessionFrom s.proxi s'.proxi ∧ s.proxi.noSessionid = true ∧ s'.proxi.noSessionid = true :=
  have hs : Reachable "ckpool" _ := @Reachable.start "ckpool" "user" "pass" droppedSidSetup _ rfl
  have hr : ReflTransGen (Step "ckpool") _ _ :=
    (((ReflTransGen.single (.recv (.ageNotify rfl))).tail (.recv (.ageShares rfl))).tail
      (.recv (.stall rfl))).tail (.recv (.attempt ⟨true, [subscribeOk], true⟩ rfl))
  by refine ⟨⟨_, rfl, rfl, subscribe_tier_flags_persist.1 "user" "pass" droppedSidSetup _ rfl⟩,
      _, _, hs, hr, subscribe_tier_flags_persist.2 _ _ hs hr, ?_, ?_⟩ <;> rfl

theorem sendAuth_rising (p : ProxyInstance) (sent : Bool) (h : IdsRising p) :
    IdsRising (sendAuth p sent).2 := by
  have hw := h.write (authRequest p)
    (by simp [sessionIds, requests, written, authRequest, jsonObjectGet, List.lookup_cons, idOf])
  cases sent
  · exact hw.frame rfl [.close] rfl rfl
  · exact hw

theorem quiet_rising {p q : ProxyInstance} (h : Quiet p q) (hr : IdsRising p) :
    IdsRising q := by
  obtain ⟨new, hc, hn⟩ := h.cs
  exact hr.frame h.id new hc (by rw [sessionIds, hn _ (by decide)]; rfl)

theorem startAttempt_rising (tag : String) (p : ProxyInstance) (a : Attempt) (h : IdsRising p) :
    IdsRising (startAttempt tag p a).2 := by
  unfold startAttempt
  split
  · exact h.frame rfl [.close] rfl rfl
  have hc : IdsRising p.closeSock.connectSock := h.frame rfl [.close, .connect] (by simp) rfl
  have hs := subscribeStratum_rising tag a.subscribe hc
  split
  next q heq => rw [heq] at hs; exact hs
  next q heq => rw [heq] at hs; exact sendAuth_rising q a.authSent hs

theorem step_rising {tag : String} {s s' : World} (h : Step tag s s') (hr : IdsRising s.proxi) :
    IdsRising s'.proxi := by
  rcases step_connection h with ⟨a, e⟩ | hq
  · rw [e]; exact startAttempt_rising tag _ a hr
  · exact quiet_rising hq hr

theorem proxySetup_rising {tag auth pass : String} {u : Setup} {p : ProxyInstance}
    (h : proxySetup tag auth pass u = some p) : IdsRising p := by
  obtain ⟨q, hq, hr⟩ := proxySetup_eq h
  have h0 : IdsRising ({} : ProxyInstance).connectSock := ⟨[], rfl, .nil, nofun⟩
  have hs := subscribeStratum_rising tag u.subscribe h0
  rw [hq] at hs
  have ha := sendAuth_rising { q with auth := auth, pass := pass } true hs
  clear h
  induction hr with
  | refl => exact ha
  | tail _ he ih => exact quiet_rising he.untouched.1.quiet ih

theorem reachable_idsRising {tag : String} {s : World} (hs : Reachable tag s) :
    IdsRising s.proxi := by
  induction hs with
  | start h => exact proxySetup_rising h
  | step _ hst ih => exact step_rising hst ih

/-- Over any run in which the `int` counter `proxi->id` has not passed `INT_MAX`, across every
connection, the `mining.subscribe` and `mining.authorize` requests written upstream carry
strictly rising ids, each below the next value of `proxi->id` and the value of the C `int`
it was taken from: that counter is never reset and nothing else numbers those requests. -/
theorem session_request_ids_rise {tag : String} {s : World} (hs : Reachable tag s)
    (hlt : s.proxi.id < 2 ^ 31) :
    ∃ ks : List Nat, sessionIds s.proxi.cs = ks.map (fun k => .int k) ∧ ks.Pairwise (· < ·) ∧
      ∀ k ∈ ks, k < s.proxi.id ∧ cint k = k := by
  obtain ⟨ks, hks, hsort, hk⟩ := reachable_idsRising hs
  exact ⟨ks, hks, hsort, fun k hm => ⟨hk k hm, cint_of_lt (Int.ofNat_nonneg k) (by have := hk k hm; omega)⟩⟩

/-- The setup of `notifiedSetup` wrote its subscribe and authorize requests with ids 0 and 1. -/
theorem session_request_ids_rise_after_setup :
    ∃ s : World, (Reachable "ckpool" s ∧ sessionIds s.proxi.cs = [.int 0, .int 1] ∧ s.proxi.id < 2 ^ 31) ∧
      ∃ ks : List Nat, sessionIds s.proxi.cs = ks.map (fun k => .int k) ∧ ks.Pairwise (· < ·) ∧
        ∀ k ∈ ks, k < s.proxi.id ∧ cint k = k :=
  have hs : Reachable "ckpool" _ := @Reachable.start "ckpool" "user" "pass" notifiedSetup _ rfl
  ⟨_, ⟨hs, rfl, by decide⟩, session_request_ids_rise hs (by decide)⟩

end CkpoolGenerator.Session
