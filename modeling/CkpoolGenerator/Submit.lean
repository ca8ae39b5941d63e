import CkpoolGenerator.Cache

/-!
# Submissions, from the control socket to the upstream

`submit_share` records a share and appends the submission to `psends` under `psend_lock`;
`proxy_send` takes the head of the queue, sleeping on `psend_cond` while the queue is empty.
Over any interleaving the queue is a FIFO: what has been appended is what has been taken,
in order, followed by what is still queued, and the send thread can always empty it. The
share records and the request ids are another matter: `parse_share` reads any line's `id`
through `json_integer_value` and 32 bits, and the two id counters both start at zero.
-/

namespace CkpoolGenerator.Submit

open Relation
open CkpoolGenerator.Jansson CkpoolGenerator.Instance CkpoolGenerator.Codec
  CkpoolGenerator.Subscribe CkpoolGenerator.Notify CkpoolGenerator.Method CkpoolGenerator.Share
  CkpoolGenerator.Reconnect CkpoolGenerator.Threads CkpoolGenerator.Cache

/-- What has been appended to `psends` is what the send thread has taken, in order, followed
by what is still queued; and the send thread sleeps only on an empty queue. -/
structure QueueInv (s : World) : Prop where
  fifo : s.appended = s.taken ++ s.proxi.psends
  asleep : s.send = .waiting → s.proxi.psends = []

theorem QueueInv.frame {s s' : World} (h : QueueInv s) (hp : s'.proxi.psends = s.proxi.psends)
    (ha : s'.appended = s.appended) (ht : s'.taken = s.taken) (hs : s'.send = s.send) :
    QueueInv s' :=
  ⟨by rw [ha, ht, hp, h.fifo], fun hw => hp ▸ h.asleep (hs ▸ hw)⟩

theorem step_queueInv {tag : String} {s s' : World} (h : Step tag s s') (hi : QueueInv s) :
    QueueInv s' := by
  cases h with
  | recv h =>
    cases h with
    | line l _ => exact hi.frame (recvLine_untouched tag _ _ l).psends rfl rfl rfl
    | attempt a _ =>
      exact hi.frame (ProxyInstance.psends_of_caches (startAttempt_caches tag _ a)) rfl rfl rfl
    | authLine l _ => exact hi.frame (authLine_effect tag _ _ l).untouched.1.psends rfl rfl rfl
    | _ => exact hi.frame rfl rfl rfl rfl
  | send h =>
    cases h with
    | wait _ hp => exact ⟨hi.fifo, fun _ => hp⟩
    | take _ hp => exact ⟨by simp [World.dequeue, hi.fifo, hp], nofun⟩
    | drop ret _ _ => exact ⟨by cases ret <;> exact hi.fifo, nofun⟩
    | write ok _ => exact ⟨by cases ok <;> exact hi.fifo, nofun⟩
    | idle | wake | found => exact ⟨hi.fifo, nofun⟩
  | ctrl h =>
    cases h with
    | queue _ =>
      refine ⟨by simp [queueShare, hi.fifo], fun hw => ?_⟩
      split at hw
      · cases hw
      · exact absurd hw ‹_›
    | _ => exact hi.frame rfl rfl rfl rfl
  | tick _ _ => exact hi.frame rfl rfl rfl rfl

/-- `proxy_mode`'s setup leaves the queue and the share tracker empty. -/
theorem proxySetup_sendPath {tag auth pass : String} {u : Setup} {p : ProxyInstance}
    (h : proxySetup tag auth pass u = some p) : p.psends = [] ∧ p.shares = [] := by
  obtain ⟨q, hq, hr⟩ := proxySetup_eq h
  have hc := subscribeStratum_caches tag u.subscribe ({} : ProxyInstance).connectSock
  rw [hq] at hc
  have hs : q.psends = [] ∧ q.shares = [] :=
    ⟨ProxyInstance.psends_of_caches hc, ProxyInstance.shares_of_caches hc⟩
  clear h
  induction hr with
  | refl => exact hs
  | tail _ he ih => exact ⟨he.untouched.1.psends.trans ih.1, he.untouched.2.trans ih.2⟩

theorem reachable_queueInv {tag : String} {s : World} (hs : Reachable tag s) : QueueInv s := by
  induction hs with
  | start h => exact ⟨by simp [World.start, (proxySetup_sendPath h).1], nofun⟩
  | step _ hst ih => exact step_queueInv hst ih

/-- The send thread can go from `s` to `s'` on its own, taking `ms` from the queue. -/
def Drains (s s' : World) (ms : List Json) : Prop :=
  ReflTransGen SendStep s s' ∧ s'.taken = s.taken ++ ms ∧ s'.appended = s.appended ∧
    s.proxi.psends = ms ++ s'.proxi.psends

theorem Drains.refl (s : World) : Drains s s [] := ⟨.refl, by simp, rfl, rfl⟩

theorem Drains.trans {s₁ s₂ s₃ : World} {ms₁ ms₂ : List Json} (h₁ : Drains s₁ s₂ ms₁)
    (h₂ : Drains s₂ s₃ ms₂) : Drains s₁ s₃ (ms₁ ++ ms₂) :=
  ⟨h₁.1.trans h₂.1, by rw [h₂.2.1, h₁.2.1, List.append_assoc], h₂.2.2.1.trans h₁.2.2.1,
    by rw [h₁.2.2.2, h₂.2.2.2, List.append_assoc]⟩

/-- A send step that leaves the queue and the history alone. -/
theorem Drains.single {s s' : World} (h : SendStep s s') (hp : s'.proxi.psends = s.proxi.psends)
    (ht : s'.taken = s.taken) (ha : s'.appended = s.appended) : Drains s s' [] :=
  ⟨.single h, by simp [ht], ha, by simp [hp]⟩

/-- From a write in progress, or a lookup, the send thread gets back to the head of its loop
without touching the queue. -/
theorem finish_sending {s : World} {jobid : String} {m : Json} (hs : s.send = .sending jobid m) :
    ∃ s', Drains s s' [] ∧ s'.send = .top :=
  ⟨_, .single (.write true hs) rfl rfl rfl, rfl⟩

theorem finish_holding {s : World} {m : Json} (hs : s.send = .holding m) :
    ∃ s', Drains s s' [] ∧ s'.send = .top := by
  cases hf : findJob s.proxi m with
  | none => exact ⟨_, .single (.drop true hs hf) rfl rfl rfl, rfl⟩
  | some ni =>
    obtain ⟨s', h, hs'⟩ := @finish_sending { s with send := .sending ni.jobid m } _ _ rfl
    exact ⟨s', (Drains.single (.found hs hf) rfl rfl rfl).trans h, hs'⟩

/-- At the head of its loop, or woken, the send thread takes the queued submissions one by
one until the queue is empty. -/
theorem drain_queue : ∀ (ms : List Json) (s : World), s.proxi.psends = ms →
    (s.send = .top ∨ s.send = .woken) → ∃ s', Drains s s' ms ∧ s'.proxi.psends = []
  | [], s, hp, _ => ⟨s, .refl s, hp⟩
  | m :: ms, s, hp, hs => by
    have taken : Drains s (s.dequeue m ms) [m] :=
      ⟨.single (.take hs hp), rfl, rfl, by simp [World.dequeue, hp]⟩
    obtain ⟨s₁, h₁, ht⟩ := @finish_holding (s.dequeue m ms) m rfl
    obtain ⟨s₂, h₂, hp₂⟩ := drain_queue ms s₁ h₁.2.2.2.symm (.inl ht)
    exact ⟨s₂, taken.trans (h₁.trans h₂), hp₂⟩

theorem send_drains {s : World} (h : QueueInv s) :
    ∃ s', Drains s s' s.proxi.psends ∧ s'.proxi.psends = [] := by
  obtain ⟨s₁, h₁, hs₁⟩ : ∃ s₁, Drains s s₁ [] ∧
      (s₁.send = .top ∨ s₁.send = .woken ∨ s₁.proxi.psends = []) := by
    cases hs : s.send with
    | top => exact ⟨s, .refl s, .inl hs⟩
    | woken => exact ⟨s, .refl s, .inr (.inl hs)⟩
    | waiting => exact ⟨s, .refl s, .inr (.inr (h.asleep hs))⟩
    | holding m => obtain ⟨s₁, h₁, ht⟩ := finish_holding hs; exact ⟨s₁, h₁, .inl ht⟩
    | sending j m => obtain ⟨s₁, h₁, ht⟩ := finish_sending hs; exact ⟨s₁, h₁, .inl ht⟩
  obtain ⟨s₂, h₂, hp₂⟩ : ∃ s₂, Drains s₁ s₂ s₁.proxi.psends ∧ s₂.proxi.psends = [] := by
    rcases hs₁ with ht | ht | he
    · exact drain_queue _ s₁ rfl (.inl ht)
    · exact drain_queue _ s₁ rfl (.inr ht)
    · exact ⟨s₁, he ▸ .refl s₁, he⟩
  have hp : s.proxi.psends = s₁.proxi.psends := h₁.2.2.2
  exact ⟨s₂, hp ▸ h₁.trans h₂, hp₂⟩

/-- Over any interleaving of the three threads, `psends` is a FIFO queue: what has been
appended is what the send thread has taken, in append order, followed by what is still
queued; the send thread sleeps only on an empty queue; and on its own it can go on to take
every queued submission, after which it has taken all that was ever appended, once each and
in order. -/
theorem psends_fifo {tag : String} {s : World} (hs : Reachable tag s) :
    s.appended = s.taken ++ s.proxi.psends ∧ (s.send = .waiting → s.proxi.psends = []) ∧
      ∃ s', ReflTransGen SendStep s s' ∧ s'.taken = s.appended ∧ s'.appended = s.appended ∧
        s'.proxi.psends = [] := by
  have h := reachable_queueInv hs
  obtain ⟨s', ⟨hr, ht, ha, -⟩, hp⟩ := send_drains h
  exact ⟨h.fifo, h.asleep, s', hr, ht.trans h.fifo.symm, ha, hp⟩

/-- Two submissions queued behind the setup of `notifiedSetup`. -/
theorem psends_fifo_two_queued :
    ∃ s : World, (Reachable "ckpool" s ∧ s.proxi.psends.length = 2) ∧
      (s.appended = s.taken ++ s.proxi.psends ∧ (s.send = .waiting → s.proxi.psends = []) ∧
        ∃ s', ReflTransGen SendStep s s' ∧ s'.taken = s.appended ∧ s'.appended = s.appended ∧
          s'.proxi.psends = []) :=
  have hs : Reachable "ckpool" _ :=
    .step (.step (.step (.step (.step (@Reachable.start "ckpool" "user" "pass" notifiedSetup _ rfl)
      (.ctrl (.announce rfl))) (.ctrl (.submit shareForA rfl))) (.ctrl (.queue rfl)))
      (.ctrl (.submit shareForA rfl))) (.ctrl (.queue rfl))
  ⟨_, ⟨hs, rfl⟩, psends_fifo hs⟩

/-- A record that the receive loop's handling of a line removes is the one `parse_share`
matched: `parse_method` did not handle the line, and its `id` has the record's id in its low 32
bits. -/
theorem recvLine_removes {tag : String} {now : Int} {p : ProxyInstance} {l : Incoming}
    {sh : ShareMsg} (hin : sh ∈ p.shares) (hout : sh ∉ (recvLine tag now p l).1.shares) :
    ∃ val idval, handles tag l = false ∧ l.msg = some val ∧
      jsonObjectGet (some val) "id" = some idval ∧
      bits32 sh.id = bits32 (jsonIntegerValue (some idval)) := by
  obtain ⟨q, hq, e | ⟨hv, e⟩⟩ := recvLine_cases tag now p l <;> rw [e] at hout <;>
    have hq' : sh ∈ q.shares := hq.untouched.2 ▸ hin
  · exact absurd hq' hout
  rcases parseShare_cases q l.msg with e' | ⟨val, idval, sh', hl, hid, hf, e'⟩ <;> rw [e'] at hout
  · exact absurd hq' hout
  obtain rfl : sh = sh' := by
    by_contra hne
    exact hout ((List.mem_erase_of_ne hne).2 hq')
  have hb := List.find?_some hf
  simp only [beq_iff_eq, bits32_cint] at hb
  exact ⟨val, idval, hv, hl, hid, hb⟩

/-- A share record leaves the tracker only in the ageing pass of `proxy_recv`, once it is more
than two minutes old, or when `proxy_recv` hands `parse_share` a line that `parse_method` did
not handle and whose `id` member, read by `json_integer_value`, has the record's id in its low
32 bits. -/
theorem share_record_leaves_only {tag : String} {s s' : World} (h : Step tag s s')
    {sh : ShareMsg} (hin : sh ∈ s.proxi.shares) (hout : sh ∉ s'.proxi.shares) :
    (∃ now, s.recv = .ageing now ∧ sh.submitTime < now - 120) ∨
      (s.recv = .reading ∧ ∃ (l : Incoming) (val idval : Json), handles tag l = false ∧
        l.msg = some val ∧ jsonObjectGet (some val) "id" = some idval ∧
        bits32 sh.id = bits32 (jsonIntegerValue (some idval)) ∧
        s'.proxi = (recvLine tag s.now s.proxi l).1) := by
  cases h with
  | recv h =>
    cases h with
    | @ageShares now hr =>
      refine .inl ⟨now, hr, ?_⟩
      by_contra hlt
      exact hout (List.mem_filter.2 ⟨hin, by rw [decide_eq_false hlt]; rfl⟩)
    | line l hr =>
      obtain ⟨val, idval, hv, hl, hid, hb⟩ := recvLine_removes hin hout
      exact .inr ⟨hr, l, val, idval, hv, hl, hid, hb, rfl⟩
    | attempt a _ =>
      exact (hout (ProxyInstance.shares_of_caches (startAttempt_caches tag s.proxi a) ▸ hin)).elim
    | authLine l _ => exact (hout ((authLine_effect tag s.now s.proxi l).untouched.2 ▸ hin)).elim
    | _ => exact absurd hin hout
  | send h =>
    cases h with
    | drop ret _ _ => cases ret <;> exact absurd hin hout
    | write ok _ => cases ok <;> exact absurd hin hout
    | _ => exact absurd hin hout
  | ctrl h =>
    cases h with
    | submit val _ => exact absurd (List.mem_append_left _ hin) hout
    | _ => exact absurd hin hout
  | tick _ _ => exact absurd hin hout

/-- The upstream's answer to share 0. -/
def shareZeroAnswer : Incoming :=
  { msg := some (.obj [("id", .int 0), ("result", .bool true), ("error", .null)]) }

/-- The receive thread reading, with share 0 in flight. -/
def waitingShareZero : World :=
  ⟨{ shares := [⟨0, 7, 42, 0⟩] }, 0, .reading, .top, .ready, [], [], [], []⟩

/-- Share 0 leaves when its answer is read. -/
theorem share_record_leaves_only_on_answer :
    ∃ (s s' : World) (sh : ShareMsg), (Step "ckpool" s s' ∧ sh ∈ s.proxi.shares ∧
      sh ∉ s'.proxi.shares) ∧
      ((∃ now, s.recv = .ageing now ∧ sh.submitTime < now - 120) ∨
        (s.recv = .reading ∧ ∃ (l : Incoming) (val idval : Json), handles "ckpool" l = false ∧
          l.msg = some val ∧ jsonObjectGet (some val) "id" = some idval ∧
          bits32 sh.id = bits32 (jsonIntegerValue (some idval)) ∧
          s'.proxi = (recvLine "ckpool" s.now s.proxi l).1)) :=
  have hs : Step "ckpool" waitingShareZero _ := .recv (.line shareZeroAnswer rfl)
  have hin : ⟨0, 7, 42, 0⟩ ∈ waitingShareZero.proxi.shares := List.mem_singleton_self _
  ⟨_, _, _, ⟨hs, hin, by decide⟩, share_record_leaves_only hs hin (by decide)⟩

/-- Appending the next value of a counter to distinct values below it keeps them distinct, and
below the counter's new value. -/
theorem fresh_append {ks : List Nat} {n : Nat} (hnd : ks.Nodup) (hlt : ∀ k ∈ ks, k < n) :
    (ks ++ [n]).Nodup ∧ ∀ k ∈ ks ++ [n], k < n + 1 := by
  refine ⟨List.nodup_append_comm.2 (List.nodup_cons.2 ⟨fun h => Nat.lt_irrefl _ (hlt n h), hnd⟩),
    fun k hk => ?_⟩
  rcases List.mem_append.1 hk with hk | hk
  · exact Nat.lt_succ_of_lt (hlt k hk)
  · rw [List.mem_singleton.1 hk]; exact Nat.lt_succ_self _

/-- The receive loop's handling of a line only removes share records. -/
theorem recvLine_shares (tag : String) (now : Int) (p : ProxyInstance) (l : Incoming) :
    (recvLine tag now p l).1.shares.Sublist p.shares := by
  obtain ⟨q, hq, e | ⟨-, e⟩⟩ := recvLine_cases tag now p l <;> simp only [e, ← hq.untouched.2]
  · exact .refl _
  rcases parseShare_cases q l.msg with e' | ⟨-, -, sh, -, -, -, e'⟩ <;> simp only [e']
  · exact .refl _
  · exact List.erase_sublist _ _

/-- What one step does to the share tracker: remove records, or add one under the next share
id. -/
def SharesMove (p q : ProxyInstance) : Prop :=
  (q.shares.Sublist p.shares ∧ q.shareId = p.shareId) ∨
    ∃ sh : ShareMsg, sh.id = p.shareId ∧ q.shares = p.shares ++ [sh] ∧ q.shareId = p.shareId + 1

theorem step_sharesMove {tag : String} {s s' : World} (h : Step tag s s') :
    SharesMove s.proxi s'.proxi := by
  cases h with
  | recv h =>
    cases h with
    | ageShares _ => exact .inl ⟨List.filter_sublist _, rfl⟩
    | line l _ => exact .inl ⟨recvLine_shares tag _ _ l, (recvLine_untouched tag _ _ l).shareId⟩
    | attempt a _ =>
      have hc := startAttempt_caches tag s.proxi a
      exact .inl ⟨ProxyInstance.shares_of_caches hc ▸ .refl _, ProxyInstance.shareId_of_caches hc⟩
    | authLine l _ =>
      have hu := (authLine_effect tag s.now s.proxi l).untouched
      exact .inl ⟨hu.2 ▸ .refl _, hu.1.shareId⟩
    | _ => exact .inl ⟨.refl _, rfl⟩
  | send h =>
    cases h with
    | drop ret _ _ => cases ret <;> exact .inl ⟨.refl _, rfl⟩
    | write ok _ => cases ok <;> exact .inl ⟨.refl _, rfl⟩
    | _ => exact .inl ⟨.refl _, rfl⟩
  | ctrl h =>
    cases h with
    | submit val _ => exact .inr ⟨_, rfl, rfl, rfl⟩
    | _ => exact .inl ⟨.refl _, rfl⟩
  | tick _ _ => exact .inl ⟨.refl _, rfl⟩

/-- The keys of the share tracker are distinct and below the next share id. -/
def SharesInv (p : ProxyInstance) : Prop :=
  (p.shares.map (·.id)).Nodup ∧ ∀ sh ∈ p.shares, sh.id < p.shareId

theorem SharesInv.move {p q : ProxyInstance} (h : SharesInv p) (hm : SharesMove p q) :
    SharesInv q := by
  obtain ⟨hnd, hlt⟩ := h
  rcases hm with ⟨hsub, hid⟩ | ⟨sh, hsh, hq, hid⟩
  · exact ⟨hnd.sublist (hsub.map _), fun k hk => hid ▸ hlt k (hsub.subset hk)⟩
  have hf := fresh_append hnd (List.forall_mem_map.2 hlt)
  have e : q.shares.map (·.id) = p.shares.map (·.id) ++ [p.shareId] := by
    rw [hq, List.map_append, List.map_singleton, hsh]
  exact ⟨e ▸ hf.1, fun x hx => hid ▸ hf.2 _ (e ▸ List.mem_map_of_mem _ hx)⟩

theorem reachable_sharesInv {tag : String} {s : World} (hs : Reachable tag s) :
    SharesInv s.proxi := by
  induction hs with
  | start h => simp [SharesInv, World.start, (proxySetup_sendPath h).2]
  | step _ hst ih => exact ih.move (step_sharesMove hst)

/-- Distinct counter values below `2^31` are distinct in the 32 bits of an `int` key. -/
theorem nodup_bits32_of_lt {ks : List Nat} (hnd : ks.Nodup) (hlt : ∀ k ∈ ks, k < 2 ^ 31) :
    (ks.map fun k : Nat => bits32 (k : Int)).Nodup :=
  hnd.map_on fun x hx y hy h => by
    have := hlt x hx
    have := hlt y hy
    exact_mod_cast (bits32_eq_of_lt (by omega) (by omega) (by omega) (by omega)).1 h

/-- `submit_share` adds each record to the tracker under a key that `HASH_ADD_INT` has not
seen: over any run in which the `int` counter `share_id` has not passed `INT_MAX`, the records
have ids below it that are distinct in the 32 bits `HASH_FIND_INT` compares. -/
theorem share_ids_distinct {tag : String} {s : World} (hs : Reachable tag s)
    (hlt : s.proxi.shareId < 2 ^ 31) :
    (s.proxi.shares.map fun sh => bits32 sh.id).Nodup ∧ ∀ sh ∈ s.proxi.shares, sh.id < s.proxi.shareId := by
  obtain ⟨hnd, hk⟩ := reachable_sharesInv hs
  refine ⟨?_, hk⟩
  have h := nodup_bits32_of_lt hnd (List.forall_mem_map.2 fun sh hsh => (hk sh hsh).trans hlt)
  rwa [List.map_map] at h

/-- Two shares in the tracker, submitted after the setup of `notifiedSetup`. -/
theorem share_ids_distinct_two_submitted :
    ∃ s : World, (Reachable "ckpool" s ∧ s.proxi.shares.map (·.id) = [0, 1] ∧ s.proxi.shareId < 2 ^ 31) ∧
      ((s.proxi.shares.map fun sh => bits32 sh.id).Nodup ∧ ∀ sh ∈ s.proxi.shares, sh.id < s.proxi.shareId) :=
  have hs : Reachable "ckpool" _ :=
    .step (.step (.step (.step (@Reachable.start "ckpool" "user" "pass" notifiedSetup _ rfl)
      (.ctrl (.announce rfl))) (.ctrl (.submit shareForA rfl))) (.ctrl (.queue rfl)))
      (.ctrl (.submit shareForA rfl))
  ⟨_, ⟨hs, rfl, by decide⟩, share_ids_distinct hs (by decide)⟩

/-- The ids of the `mining.submit` requests in a socket log. -/
def submitIds (log : List SockEvent) : List Json := (requests ["mining.submit"] log).filterMap idOf

@[simp] theorem submitIds_append (l₁ l₂ : List SockEvent) :
    submitIds (l₁ ++ l₂) = submitIds l₁ ++ submitIds l₂ := by
  simp [submitIds]

/-- A message `submit_share` queues carries the share id it took, or no id at all when the
request was not an object. -/
theorem idOf_submitShare (now : Int) (p : ProxyInstance) (val : Json) :
    ∀ x ∈ idOf (submitShare now p val).2, x = .int p.shareId := by
  intro x hx
  cases val with
  | obj kvs =>
    simp only [submitShare, idOf, jsonObjectDel, jsonObjectGet_set, Option.mem_def,
      Option.some.injEq] at hx
    exact hx.symm
  | _ => simp [submitShare, idOf, jsonObjectDel, jsonObjectSet, jsonObjectGet] at hx

/-- A `mining.submit` that `proxy_send` writes carries the id of the submission. -/
theorem submitIds_submitRequest (auth jobid : String) (m : Json) :
    (submitIds [.write (submitRequest auth jobid m)]).Sublist (idOf m).toList := by
  unfold submitRequest
  split
  next hid =>
    rw [idOf, hid]
    simp [submitIds, requests, written, jsonObjectGet, List.lookup_cons, idOf]
  · simp [submitIds, requests, written]

theorem submitIds_subscribeMove {tag : String} {p q : ProxyInstance} (h : SubscribeMove tag p q) :
    submitIds q.cs = submitIds p.cs := by
  cases h with
  | send => simp [writeSubscribe, submitIds, requests, written, subscribeRequest, jsonObjectGet,
      List.lookup_cons]
  | parse r => rw [(parseSubscribe_resubscribed p r).flags.2.2.1]
  | close | connect => simp [submitIds, requests, written]
  | fallBack => rw [fallBack_cs]

theorem submitIds_subscribeStratum (tag : String) (ts : List SubscribeTry) (p : ProxyInstance) :
    submitIds (subscribeStratum tag p ts).2.cs = submitIds p.cs := by
  have moves := subscribeStratum_moves tag ts p
  generalize (subscribeStratum tag p ts).2 = q at moves ⊢
  induction moves with
  | refl => rfl
  | tail _ hm ih => exact (submitIds_subscribeMove hm).trans ih

theorem submitIds_sendAuth (p : ProxyInstance) (sent : Bool) :
    submitIds (sendAuth p sent).2.cs = submitIds p.cs := by
  cases sent <;> simp [sendAuth, submitIds, requests, written, authRequest, jsonObjectGet,
    List.lookup_cons]

theorem submitIds_startAttempt (tag : String) (p : ProxyInstance) (a : Attempt) :
    submitIds (startAttempt tag p a).2.cs = submitIds p.cs := by
  have hs := submitIds_subscribeStratum tag a.subscribe p.closeSock.connectSock
  have hc : submitIds p.closeSock.connectSock.cs = submitIds p.cs := by
    simp [submitIds, requests, written]
  unfold startAttempt
  split
  · simp [submitIds, requests, written]
  split
  next q heq => rw [heq] at hs; exact hs.trans hc
  next q heq => rw [heq] at hs; exact (submitIds_sendAuth q a.authSent).trans (hs.trans hc)

theorem submitIds_untouched {p q : ProxyInstance} (h : Untouched p q) :
    submitIds q.cs = submitIds p.cs := by
  obtain ⟨new, hc, hr⟩ := h.cs
  simp [hc, submitIds, hr]

/-- The submission `proxy_send` holds: dequeued, looked up, or being written. -/
def sendHeld : SendPc → List Json
  | .holding m | .sending _ m => [m]
  | .top | .waiting | .woken => []

/-- The submission `submit_share` has built and not yet queued. -/
def ctrlHeld : CtrlPc → List Json
  | .queueing m => [m]
  | .starting | .ready | .stopped => []

/-- The submissions the send path holds, oldest first: the one `proxy_send` is looking up or
writing, the queue, and the one `submit_share` is about to queue. -/
def inFlight (s : World) : List Json := sendHeld s.send ++ s.proxi.psends ++ ctrlHeld s.ctrl

/-- The ids the send path has written, then those of the submissions it holds, oldest first. -/
def submitTrail (s : World) : List Json := submitIds s.proxi.cs ++ (inFlight s).filterMap idOf

theorem filterMap_idOf_cons (m : Json) (l : List Json) :
    (m :: l).filterMap idOf = (idOf m).toList ++ l.filterMap idOf := by
  cases h : idOf m <;> simp [List.filterMap_cons, h]

theorem submitIds_closeSock (p : ProxyInstance) : submitIds p.closeSock.cs = submitIds p.cs := by
  simp [submitIds, requests, written]

/-- What one step does to those ids: keep or drop some, or, in `submit_share`, add the share
id it takes. -/
def TrailMove (s s' : World) : Prop :=
  ((submitTrail s').Sublist (submitTrail s) ∧ s'.proxi.shareId = s.proxi.shareId) ∨
    (∃ j : Option Json, (∀ x ∈ j, x = .int s.proxi.shareId) ∧
      submitTrail s' = submitTrail s ++ j.toList ∧ s'.proxi.shareId = s.proxi.shareId + 1)

theorem trailMove_frame {s s' : World} (hc : submitIds s'.proxi.cs = submitIds s.proxi.cs)
    (hf : inFlight s' = inFlight s) (hid : s'.proxi.shareId = s.proxi.shareId) : TrailMove s s' :=
  .inl ⟨by rw [submitTrail, submitTrail, hc, hf], hid⟩

/-- `proxy_send` lets go of the submission it held, having written at most that submission's
id to the socket. -/
theorem trailMove_release {s s' : World} {m : Json} (hm : inFlight s = m :: inFlight s')
    (w : List Json) (hc : submitIds s'.proxi.cs = submitIds s.proxi.cs ++ w)
    (hw : w.Sublist (idOf m).toList) (hid : s'.proxi.shareId = s.proxi.shareId) :
    TrailMove s s' := by
  refine .inl ⟨?_, hid⟩
  rw [submitTrail, submitTrail, hc, hm, filterMap_idOf_cons, List.append_assoc]
  exact (hw.append (.refl _)).append_left _

theorem inFlight_release {s s' : World} {m : Json} (hm : sendHeld s.send = [m])
    (hs : s'.send = .top) (hp : s'.proxi.psends = s.proxi.psends) (hc : s'.ctrl = s.ctrl) :
    inFlight s = m :: inFlight s' := by
  rw [inFlight, inFlight, hm, hs, hp, hc]
  rfl

/-- Every step of every thread moves the send path's ids as `TrailMove` says. -/
theorem step_trailMove {tag : String} {s s' : World} (h : Step tag s s') : TrailMove s s' := by
  cases h with
  | recv h =>
    cases h with
    | line l _ =>
      have hu := recvLine_untouched tag s.now s.proxi l
      exact trailMove_frame (submitIds_untouched hu) (by simp only [inFlight, hu.psends]) hu.shareId
    | attempt a _ =>
      have hc := startAttempt_caches tag s.proxi a
      exact trailMove_frame (submitIds_startAttempt tag _ a)
        (by simp only [inFlight, ProxyInstance.psends_of_caches hc])
        (ProxyInstance.shareId_of_caches hc)
    | authLine l _ =>
      have hu := (authLine_effect tag s.now s.proxi l).untouched.1
      exact trailMove_frame (submitIds_untouched hu) (by simp only [inFlight, hu.psends]) hu.shareId
    | _ => exact trailMove_frame rfl rfl rfl
  | send h =>
    cases h with
    | wait h1 _ | idle h1 _ | wake h1 | found h1 _ =>
      exact trailMove_frame rfl (by simp only [inFlight, h1, sendHeld]) rfl
    | take h1 hp =>
      refine trailMove_frame rfl ?_ rfl
      rcases h1 with h1 | h1 <;> simp [inFlight, World.dequeue, h1, hp, sendHeld]
    | drop ret h1 _ =>
      refine trailMove_release (inFlight_release (by rw [h1]; rfl) rfl (by cases ret <;> rfl) rfl)
        [] ?_ (List.nil_sublist _) (by cases ret <;> rfl)
      rw [List.append_nil]
      cases ret
      · exact submitIds_closeSock _
      · rfl
    | @write jobid m ok h1 =>
      have hw : submitIds (s.proxi.sendJsonMsg (submitRequest s.proxi.auth jobid m)).cs =
          submitIds s.proxi.cs ++ submitIds [.write (submitRequest s.proxi.auth jobid m)] :=
        submitIds_append _ _
      refine trailMove_release (inFlight_release (by rw [h1]; rfl) rfl (by cases ok <;> rfl) rfl)
        (submitIds [.write (submitRequest s.proxi.auth jobid m)]) ?_ (submitIds_submitRequest _ _ _)
        (by cases ok <;> rfl)
      cases ok
      · exact (submitIds_closeSock _).trans hw
      · exact hw
  | ctrl h =>
    cases h with
    | submit val h1 =>
      have hc : (submitShare s.now s.proxi val).1.cs = s.proxi.cs := rfl
      have hp : (submitShare s.now s.proxi val).1.psends = s.proxi.psends := rfl
      refine .inr ⟨idOf (submitShare s.now s.proxi val).2, idOf_submitShare _ _ _, ?_, rfl⟩
      simp only [submitTrail, inFlight, h1, hc, hp, ctrlHeld, List.filterMap_append,
        filterMap_idOf_cons, List.filterMap_nil, List.append_nil, List.append_assoc]
    | queue h1 =>
      have hw : sendHeld (if s.send = .waiting then .woken else s.send) = sendHeld s.send := by
        split <;> simp_all [sendHeld]
      exact trailMove_frame rfl (by simp [inFlight, h1, hw, queueShare, ctrlHeld]) rfl
    | announce h1 | shutdown h1 => exact trailMove_frame rfl (by simp only [inFlight, h1, ctrlHeld]) rfl
  | tick _ _ => exact trailMove_frame rfl rfl rfl

/-- The ids on the socket and on the send path are distinct share ids already taken. -/
def SubmitInv (s : World) : Prop :=
  ∃ ks : List Nat, submitTrail s = ks.map (fun k => .int k) ∧ ks.Nodup ∧ ∀ k ∈ ks, k < s.proxi.shareId

theorem SubmitInv.move {s s' : World} (h : SubmitInv s) (hm : TrailMove s s') : SubmitInv s' := by
  obtain ⟨ks, hks, hnd, hlt⟩ := h
  rcases hm with ⟨hsub, hid⟩ | ⟨j, hj, ht, hid⟩
  · obtain ⟨ks', hsub', e⟩ := List.sublist_map_iff.1 (hks ▸ hsub)
    exact ⟨ks', e, hnd.sublist hsub', fun k hk => hid ▸ hlt k (hsub'.subset hk)⟩
  cases j with
  | none => exact ⟨ks, by simp [ht, hks], hnd, fun k hk => hid ▸ Nat.lt_succ_of_lt (hlt k hk)⟩
  | some x =>
    obtain rfl := hj x rfl
    have hf := fresh_append hnd hlt
    exact ⟨ks ++ [s.proxi.shareId], by simp [ht, hks], hf.1, hid ▸ hf.2⟩

theorem proxySetup_submitIds {tag auth pass : String} {u : Setup} {p : ProxyInstance}
    (h : proxySetup tag auth pass u = some p) : submitIds p.cs = [] := by
  obtain ⟨q, hq, hr⟩ := proxySetup_eq h
  have hs := submitIds_subscribeStratum tag u.subscribe ({} : ProxyInstance).connectSock
  rw [hq] at hs
  have ha : submitIds (sendAuth { q with auth := auth, pass := pass } true).2.cs = [] :=
    (submitIds_sendAuth _ true).trans (hs.trans rfl)
  clear h
  induction hr with
  | refl => exact ha
  | tail _ he ih => exact (submitIds_untouched he.untouched.1).trans ih

theorem reachable_submitInv {tag : String} {s : World} (hs : Reachable tag s) : SubmitInv s := by
  induction hs with
  | start h =>
    refine ⟨[], ?_, List.nodup_nil, nofun⟩
    simp [submitTrail, inFlight, World.start, proxySetup_submitIds h, (proxySetup_sendPath h).1,
      sendHeld, ctrlHeld]
  | step _ hst ih => exact ih.move (step_trailMove hst)

/-- Over any run in which the `int` counter `share_id` has not passed `INT_MAX`, across every
connection, the `mining.submit` requests written upstream carry ids that are share ids
`submit_share` has already taken, and that are distinct in the 32 bits `parse_share` reads of
an answer's `id`: `share_id` is never reset, and `proxy_send` writes each queued submission at
most once. -/
theorem submit_request_ids_distinct {tag : String} {s : World} (hs : Reachable tag s)
    (hlt : s.proxi.shareId < 2 ^ 31) :
    ((submitIds s.proxi.cs).map fun j => bits32 (jsonIntegerValue (some j))).Nodup ∧
      ∀ j ∈ submitIds s.proxi.cs, ∃ k < s.proxi.shareId, j = .int k := by
  obtain ⟨ks, hks, hnd, hk⟩ := reachable_submitInv hs
  have hsub : (submitIds s.proxi.cs).Sublist (ks.map fun k : Nat => .int k) :=
    hks ▸ List.sublist_append_left _ _
  obtain ⟨ks', hks', e⟩ := List.sublist_map_iff.1 hsub
  refine ⟨?_, fun j hj => ?_⟩
  · rw [e, List.map_map]
    exact nodup_bits32_of_lt (hnd.sublist hks') fun k hm => (hk k (hks'.subset hm)).trans hlt
  obtain ⟨k, hm, rfl⟩ := List.mem_map.1 (e ▸ hj)
  exact ⟨k, hk k (hks'.subset hm), rfl⟩

/-- Share 0, written upstream on the connection of `notifiedSetup`. -/
theorem submit_request_ids_distinct_one_written :
    ∃ s : World, (Reachable "ckpool" s ∧ submitIds s.proxi.cs = [.int 0] ∧ s.proxi.shareId < 2 ^ 31) ∧
      (((submitIds s.proxi.cs).map fun j => bits32 (jsonIntegerValue (some j))).Nodup ∧
        ∀ j ∈ submitIds s.proxi.cs, ∃ k < s.proxi.shareId, j = .int k) :=
  have hs : Reachable "ckpool" _ :=
    .step (.step (.step (.step (.step (.step
      (@Reachable.start "ckpool" "user" "pass" notifiedSetup _ rfl)
      (.ctrl (.announce rfl))) (.ctrl (.submit shareForA rfl))) (.ctrl (.queue rfl)))
      (.send (.take (.inl rfl) rfl))) (.send (.found rfl rfl))) (.send (.write true rfl))
  ⟨_, ⟨hs, rfl, by decide⟩, submit_request_ids_distinct hs (by decide)⟩

/-- Three upstream lines that do not answer share 0: a response with a null `id`, a response
with `id` `2^32`, and a `mining.set_extranonce` push with `id` 0, which `parse_method` does
not handle. -/
def notShareZero : List Incoming :=
  [{ msg := some (.obj [("id", .null), ("result", .null),
      ("error", .arr [.int 20, .str "Other/Unknown", .null])]) },
   { msg := some (.obj [("id", .int 4294967296), ("result", .bool true), ("error", .null)]) },
   { msg := some (.obj [("id", .int 0), ("method", .str "mining.set_extranonce"),
      ("params", .arr [.str "08000003", .int 4])]) }]

/-- `parse_share` reads a line's `id` with `json_integer_value`, which gives 0 for null, and
compares 32 bits of it; lines that `parse_method` does not handle reach it too. Each of these
lines removes the record of share 0. -/
theorem share_zero_removed_by_other_lines :
    ∃ s : World, Reachable "ckpool" s ∧ s.recv = .reading ∧ s.proxi.shares.map (·.id) = [0] ∧
      ∀ l ∈ notShareZero, (recvLine "ckpool" s.now s.proxi l).1.shares = [] :=
  ⟨_, .step (.step (.step (.step (@Reachable.start "ckpool" "user" "pass" quietSetup _ rfl)
      (.ctrl (.announce rfl))) (.ctrl (.submit shareForA rfl))) (.recv (.ageNotify rfl)))
      (.recv (.ageShares rfl)), rfl, rfl, by decide⟩

/-- `subscribe_stratum` numbers its request from `proxi->id` and `submit_share` numbers shares
from `share_id`; both start at 0. On the one connection of this run the first
`mining.subscribe` and the first `mining.submit` both have id 0. -/
theorem subscribe_and_submit_share_id_zero :
    ∃ s : World, Reachable "ckpool" s ∧ s.proxi.cs.head? = some .connect ∧
      (∀ e ∈ s.proxi.cs.tail, e ≠ .connect ∧ e ≠ .close) ∧
      (requests ["mining.subscribe"] s.proxi.cs).map idOf = [some (.int 0)] ∧
      (requests ["mining.submit"] s.proxi.cs).map idOf = [some (.int 0)] :=
  ⟨_, .step (.step (.step (.step (.step (.step
      (@Reachable.start "ckpool" "user" "pass" notifiedSetup _ rfl)
      (.ctrl (.announce rfl))) (.ctrl (.submit shareForA rfl))) (.ctrl (.queue rfl)))
      (.send (.take (.inl rfl) rfl))) (.send (.found rfl rfl))) (.send (.write true rfl)),
    rfl, by decide, rfl, rfl⟩

/-- Two passes of `proxy_send` that close the upstream socket without a `mining.submit` on it:
one drops a submission whose job is not cached and then tests its uninitialised `ret`, here
false; the other found the job, but `json_pack` failed on a submission that lacks the share
fields, and the bare line `send_json_msg` wrote was short. -/
theorem proxy_send_closes_without_submit :
    (∃ s s' : World, Reachable "ckpool" s ∧ Step "ckpool" s s' ∧
      (∃ m, s.send = .holding m ∧ findJob s.proxi m = none) ∧
      s'.proxi.cs = s.proxi.cs ++ [.close]) ∧
    ∃ s s' : World, Reachable "ckpool" s ∧ Step "ckpool" s s' ∧
      s'.proxi.cs = s.proxi.cs ++ [.write none, .close] :=
  ⟨⟨_, _, .step (.step (.step (.step (@Reachable.start "ckpool" "user" "pass" quietSetup _ rfl)
      (.ctrl (.announce rfl))) (.ctrl (.submit shareForA rfl))) (.ctrl (.queue rfl)))
      (.send (.take (.inl rfl) rfl)),
    .send (.drop false rfl rfl), ⟨_, rfl, rfl⟩, rfl⟩,
   ⟨_, _, .step (.step (.step (.step (.step (@Reachable.start "ckpool" "user" "pass" notifiedSetup _ rfl)
      (.ctrl (.announce rfl))) (.ctrl (.submit (.obj []) rfl))) (.ctrl (.queue rfl)))
      (.send (.take (.inl rfl) rfl))) (.send (.found rfl rfl)),
    .send (.write false rfl), rfl⟩⟩

end CkpoolGenerator.Submit
