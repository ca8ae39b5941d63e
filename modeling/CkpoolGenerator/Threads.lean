import CkpoolGenerator.Reconnect

/-!
# The threads of a proxied upstream

After `proxy_mode` has set an upstream up, three threads share its `proxy_instance`: the
receive thread (`proxy_recv`, which runs `reconnect_stratum` and `auth_stratum`), the send
thread (`proxy_send`) and the control thread (`proxy_loop`, which runs `submit_share`). A
step is one critical section, or the code between two of them that touches nothing shared;
each thread keeps a program counter for where it is. Requests on the control socket that
only read the instance (`getsubscribe`, `getnotify`, `getdiff`, `ping`) can be served at
any state where the control thread is `ready`, and change nothing.

`issued`, `appended` and `taken` record history for the statements about whole runs: every
notification ever linked, every submission ever queued, every submission ever dequeued.
-/

namespace CkpoolGenerator.Threads

open CkpoolGenerator.Jansson CkpoolGenerator.Instance CkpoolGenerator.Codec
  CkpoolGenerator.Subscribe CkpoolGenerator.Notify CkpoolGenerator.Method CkpoolGenerator.Share
  CkpoolGenerator.Reconnect

inductive RecvPc where
  /-- at the head of the `while` loop -/
  | top
  /-- between the two ageing passes, with the loop's `now` -/
  | ageing (now : Int)
  | reading
  /-- in the retry loop of `reconnect_stratum`, after its flush -/
  | reconnecting
  /-- in the read loop of `auth_stratum`, inside `reconnect_stratum` -/
  | authorising
  deriving DecidableEq, Repr

inductive SendPc where
  | top
  /-- blocked in `pthread_cond_wait` -/
  | waiting
  /-- woken, before it holds `psend_lock` again -/
  | woken
  /-- a submission dequeued, before its lookup -/
  | holding (msg : Json)
  /-- looked up, with a copy of the upstream job id, before `json_pack` and `send_json_msg` -/
  | sending (jobid : String) (msg : Json)
  deriving DecidableEq, Repr

inductive CtrlPc where
  /-- `proxy_loop` before its first signals -/
  | starting
  | ready
  /-- in `submit_share`, between its two critical sections -/
  | queueing (msg : Json)
  | stopped
  deriving DecidableEq, Repr

structure World where
  proxi : ProxyInstance
  now : Int
  recv : RecvPc
  send : SendPc
  ctrl : CtrlPc
  /-- what has been sent to the stratifier -/
  signals : List String
  issued : List NotifyInstance
  appended : List Json
  taken : List Json

/-- The entry a call linked into the cache, read off the counter it advanced:
`parse_notify` is the only writer of `notify_id`, and it leaves the entry it links current. -/
def linked (p q : ProxyInstance) : List NotifyInstance :=
  if p.notifyId < q.notifyId then q.currentNotify.toList else []

/-- The upstream's part in `proxy_mode`'s setup of one server. -/
structure Setup where
  now : Int
  connected : Bool
  subscribe : List SubscribeTry
  authSent : Bool
  lines : List Incoming

section

variable (tag : String)

/-- How the probe of one server in `proxy_mode` ends. -/
inductive Probe where
  /-- subscribed and authorised: `si->alive` is set, with the instance the threads share -/
  | alive (p : ProxyInstance)
  /-- a step failed, and the loop goes on to the next server -/
  | failed
  /-- `send_version` wrote through the still `NULL` `proxi->cs` -/
  | crashed

/-- The probe of `proxy_mode` for one server, from the zeroed instance: connect, subscribe,
then authorise with the server's credentials, all before `proxi->cs` is set. -/
def proxyProbe (auth pass : String) (u : Setup) : Probe :=
  if !u.connected then .failed else
  match subscribeStratum tag ({} : ProxyInstance).connectSock u.subscribe with
  | (false, _) => .failed
  | (true, p) =>
    match probeAuthStratum tag u.now { p with auth := auth, pass := pass } u.authSent u.lines with
    | none => .crashed
    | some (true, q) => .alive q
    | some (false, _) => .failed

/-- The instance of a server whose probe passed. -/
def proxySetup (auth pass : String) (u : Setup) : Option ProxyInstance :=
  match proxyProbe tag auth pass u with
  | .alive p => some p
  | .failed | .crashed => none

/-- A setup that succeeds subscribed, wrote `mining.authorize`, and read lines that
`parse_method` handled up to the answer. -/
theorem proxySetup_eq {tag auth pass : String} {u : Setup} {p : ProxyInstance}
    (h : proxySetup tag auth pass u = some p) :
    ∃ q, subscribeStratum tag ({} : ProxyInstance).connectSock u.subscribe = (true, q) ∧
      Relation.ReflTransGen (MethodEffect tag) (sendAuth { q with auth := auth, pass := pass } true).2 p := by
  replace h : proxyProbe tag auth pass u = .alive p := by
    unfold proxySetup at h
    split at h
    next heq => cases h; exact heq
    all_goals cases h
  unfold proxyProbe at h
  split at h
  · cases h
  split at h
  · cases h
  next q hq =>
    refine ⟨q, hq, ?_⟩
    have he := authLoop_effects tag u.now (sendAuth { q with auth := auth, pass := pass } true).2 u.lines
    cases hs : u.authSent
    · rw [hs] at h; cases h
    rw [hs, probeAuthStratum, sendAuth_true] at h
    dsimp only at h
    rw [probeAuthLoop_eq] at h
    split_ifs at h
    rcases hr : authLoop tag u.now (sendAuth { q with auth := auth, pass := pass } true).2 u.lines with
      ⟨_ | _, r⟩ <;> rw [hr] at h he <;> cases h
    exact he

/-- The threads just created, the control thread about to send its first signals. -/
def World.start (p : ProxyInstance) (now : Int) : World :=
  ⟨p, now, .top, .top, .starting, [], p.notifyInstances, [], []⟩

/-- Taking the head of `psends` under `psend_lock`. -/
def World.dequeue (s : World) (m : Json) (ms : List Json) : World :=
  { s with proxi := { s.proxi with psends := ms }, send := .holding m, taken := s.taken ++ [m] }

inductive RecvStep : World → World → Prop
  | ageNotify {s : World} : s.recv = .top →
      RecvStep s { s with proxi := ageNotifyInstances s.now s.proxi, recv := .ageing s.now }
  | ageShares {s : World} {now : Int} : s.recv = .ageing now →
      RecvStep s { s with proxi := ageShares now s.proxi, recv := .reading }
  | line {s : World} (l : Incoming) : s.recv = .reading →
      RecvStep s { s with
        proxi := (recvLine tag s.now s.proxi l).1
        signals := s.signals ++ (recvLine tag s.now s.proxi l).2
        issued := s.issued ++ linked s.proxi (recvLine tag s.now s.proxi l).1
        recv := .top }
  /-- a read error, or 24 reads in a row that time out: `reconnect_stratum` flushes -/
  | stall {s : World} : s.recv = .reading →
      RecvStep s { s with proxi := flushNotify s.proxi, recv := .reconnecting }
  | attempt {s : World} (a : Attempt) : s.recv = .reconnecting →
      RecvStep s { s with
        proxi := (startAttempt tag s.proxi a).2
        recv := if (startAttempt tag s.proxi a).1 then .authorising else .reconnecting }
  | authLine {s : World} (l : Incoming) : s.recv = .authorising →
      RecvStep s { s with
        proxi := (authLine tag s.now s.proxi l).2
        issued := s.issued ++ linked s.proxi (authLine tag s.now s.proxi l).2
        recv := match (authLine tag s.now s.proxi l).1 with
          | none => .authorising
          | some true => .top
          | some false => .reconnecting
        signals := if (authLine tag s.now s.proxi l).1 = some true then s.signals ++ ["subscribe"]
          else s.signals }
  | authFail {s : World} : s.recv = .authorising → RecvStep s { s with recv := .reconnecting }

end

inductive SendStep : World → World → Prop
  | wait {s : World} : s.send = .top → s.proxi.psends = [] → SendStep s { s with send := .waiting }
  | take {s : World} {m : Json} {ms : List Json} : s.send = .top ∨ s.send = .woken →
      s.proxi.psends = m :: ms → SendStep s (s.dequeue m ms)
  /-- a spurious wakeup; a signal wakes the thread in `CtrlStep.queue` -/
  | wake {s : World} : s.send = .waiting → SendStep s { s with send := .woken }
  | idle {s : World} : s.send = .woken → s.proxi.psends = [] → SendStep s { s with send := .top }
  | found {s : World} {m : Json} {ni : NotifyInstance} : s.send = .holding m →
      findJob s.proxi m = some ni → SendStep s { s with send := .sending ni.jobid m }
  /-- no entry has the job id: the submission is dropped, and the socket is closed when the
  uninitialised `ret` happens to be false -/
  | drop {s : World} {m : Json} (ret : Bool) : s.send = .holding m → findJob s.proxi m = none →
      SendStep s { s with proxi := if ret then s.proxi else s.proxi.closeSock, send := .top }
  | write {s : World} {jobid : String} {m : Json} (ok : Bool) : s.send = .sending jobid m →
      SendStep s { s with
        send := .top
        proxi := let q := s.proxi.sendJsonMsg (submitRequest s.proxi.auth jobid m)
          if ok then q else q.closeSock }

/-- From a lookup, the send thread either goes on to write the re-keyed submission or drops
it. -/
theorem SendStep.of_holding {s s' : World} {m : Json} (h : SendStep s s')
    (hm : s.send = .holding m) :
    (∃ ni, findJob s.proxi m = some ni ∧ s' = { s with send := .sending ni.jobid m }) ∨
      (findJob s.proxi m = none ∧
        ∃ ret : Bool, s' = { s with proxi := if ret then s.proxi else s.proxi.closeSock, send := .top }) := by
  cases h with
  | found h1 h2 => rw [hm] at h1; cases h1; exact .inl ⟨_, h2, rfl⟩
  | drop ret h1 h2 => rw [hm] at h1; cases h1; exact .inr ⟨h2, ret, rfl⟩
  | _ => simp_all

theorem SendStep.of_sending {s s' : World} {jobid : String} {m : Json} (h : SendStep s s')
    (hm : s.send = .sending jobid m) :
    ∃ ok : Bool, s' = { s with
      send := .top
      proxi := let q := s.proxi.sendJsonMsg (submitRequest s.proxi.auth jobid m)
        if ok then q else q.closeSock } := by
  cases h with
  | write ok h1 => rw [hm] at h1; cases h1; exact ⟨ok, rfl⟩
  | _ => simp_all

inductive CtrlStep : World → World → Prop
  | announce {s : World} : s.ctrl = .starting →
      CtrlStep s { s with
        proxi := { s.proxi with notified := false }
        signals := s.signals ++ ["subscribe", "notify"]
        ctrl := .ready }
  | shutdown {s : World} : s.ctrl = .ready → CtrlStep s { s with ctrl := .stopped }
  /-- a request that is none of the verbs and that `json_loads` decodes -/
  | submit {s : World} (val : Json) : s.ctrl = .ready →
      CtrlStep s { s with
        proxi := (submitShare s.now s.proxi val).1
        ctrl := .queueing (submitShare s.now s.proxi val).2 }
  | queue {s : World} {m : Json} : s.ctrl = .queueing m →
      CtrlStep s { s with
        proxi := queueShare s.proxi m
        appended := s.appended ++ [m]
        ctrl := .ready
        send := if s.send = .waiting then .woken else s.send }

inductive Step (tag : String) : World → World → Prop
  | recv {s s' : World} : RecvStep tag s s' → Step tag s s'
  | send {s s' : World} : SendStep s s' → Step tag s s'
  | ctrl {s s' : World} : CtrlStep s s' → Step tag s s'
  | tick {s : World} (t : Int) : s.now ≤ t → Step tag s { s with now := t }

inductive Reachable (tag : String) : World → Prop
  | start {auth pass : String} {u : Setup} {p : ProxyInstance} :
      proxySetup tag auth pass u = some p → Reachable tag (World.start p u.now)
  | step {s s' : World} : Reachable tag s → Step tag s s' → Reachable tag s'

/-- What one step of any thread does to the connection: a pass of `reconnect_stratum`'s loop
up to its reads, or nothing beyond writing a `mining.submit` and closing the socket. -/
theorem step_connection {tag : String} {s s' : World} (h : Step tag s s') :
    (∃ a, s'.proxi = (startAttempt tag s.proxi a).2) ∨ Quiet s.proxi s'.proxi := by
  cases h with
  | recv h =>
    cases h with
    | line l _ => exact .inr (recvLine_untouched tag _ _ l).quiet
    | attempt a _ => exact .inl ⟨a, rfl⟩
    | authLine l _ => exact .inr (authLine_effect tag _ _ l).untouched.1.quiet
    | _ => exact .inr ⟨rfl, rfl, rfl, rfl, rfl, rfl, [], (List.append_nil _).symm, fun _ _ => rfl⟩
  | send h =>
    cases h with
    | drop ret _ _ =>
      cases ret
      · exact .inr ⟨rfl, rfl, rfl, rfl, rfl, rfl, [.close], rfl, fun _ _ => rfl⟩
      · exact .inr ⟨rfl, rfl, rfl, rfl, rfl, rfl, [], (List.append_nil _).symm, fun _ _ => rfl⟩
    | @write jobid m ok _ =>
      have hr := fun methods h => requests_submitRequest methods h s.proxi.auth jobid m
      cases ok
      · refine .inr ⟨rfl, rfl, rfl, rfl, rfl, rfl, [.write (submitRequest s.proxi.auth jobid m)] ++ [.close],
          by simp, fun methods h => ?_⟩
        rw [requests_append, hr methods h]; rfl
      · exact .inr ⟨rfl, rfl, rfl, rfl, rfl, rfl, [.write _], rfl, hr⟩
    | _ => exact .inr ⟨rfl, rfl, rfl, rfl, rfl, rfl, [], (List.append_nil _).symm, fun _ _ => rfl⟩
  | ctrl h =>
    cases h <;> exact .inr ⟨rfl, rfl, rfl, rfl, rfl, rfl, [], (List.append_nil _).symm, fun _ _ => rfl⟩
  | tick _ _ => exact .inr ⟨rfl, rfl, rfl, rfl, rfl, rfl, [], (List.append_nil _).symm, fun _ _ => rfl⟩

/-- An upstream that subscribes and authorises with no job pushed before its answer. -/
def quietSetup : Setup := ⟨0, true, [subscribeOk], true, [authAnswer true]⟩

/-- An upstream that pushes the job `a` before it authorises. -/
def notifiedSetup : Setup := ⟨0, true, [subscribeOk], true, [notifyPush "a", authAnswer true]⟩

end CkpoolGenerator.Threads
