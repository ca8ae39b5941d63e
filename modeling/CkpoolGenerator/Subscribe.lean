import Mathlib.Logic.Relation
import CkpoolGenerator.Instance
import CkpoolGenerator.Codec

/-!
# Subscribing to the upstream

`parse_subscribe` and the three-tier retry loop of `subscribe_stratum`. The upstream's part
in one pass of the loop is a `SubscribeTry`: whether the request went out whole, the
response line (`none` when the read fails), and whether the reconnect after a rejected
response succeeds. A call takes one try per pass; once the tries run out, the write of the
next request fails.
-/

namespace CkpoolGenerator.Subscribe

open CkpoolGenerator.Jansson CkpoolGenerator.Instance CkpoolGenerator.Codec

def hexNibble (c : Char) : Option Nat :=
  if '0' ≤ c ∧ c ≤ '9' then some (c.toNat - '0'.toNat)
  else if 'a' ≤ c ∧ c ≤ 'f' then some (c.toNat - 'a'.toNat + 10)
  else if 'A' ≤ c ∧ c ≤ 'F' then some (c.toNat - 'A'.toNat + 10)
  else none

/-- Modelled from the spec: `hex2bin` of libckpool, which the source calls but does not
contain. Decoding into a buffer of `len` bytes: the bytes written before the string ends or a
character is not hex. -/
def hex2bin : List Char → Nat → List UInt8
  | a :: b :: rest, len + 1 =>
    match hexNibble a, hexNibble b with
    | some x, some y => UInt8.ofNat (16 * x + y) :: hex2bin rest len
    | _, _ => []
  | _, _ => []

structure SubscribeTry where
  sent : Bool
  response : Option Line
  reconnected : Bool

/-- The session id copy of `parse_subscribe`, made before any other check of the response. -/
def copySessionid (p : ProxyInstance) (notifyVal : Json) : ProxyInstance :=
  if !p.noParams && !p.noSessionid && jsonArraySize (some notifyVal) > 1 then
    match jsonStringValue (jsonArrayGet (some notifyVal) 1) with
    | some s => { p with sessionid := some s }
    | none => p
  else p

/-- `parse_subscribe` from `result[1]` on: the extranonce1 and the nonce2 length. -/
def parseEnonce (p : ProxyInstance) (res : List Json) : Bool × ProxyInstance :=
  match jsonArrayGet (some (.arr res)) 1 with
  | some (.str s) =>
    if s.utf8ByteSize < 1 then (false, p) else
    let p := { p with enonce1 := some s, nonce1len := s.utf8ByteSize / 2 }
    if p.nonce1len > 15 then (false, p) else
    let p := { p with enonce1bin := some (hex2bin s.data p.nonce1len) }
    match jsonArrayGet (some (.arr res)) 2 with
    | some (.int v) =>
      let size := cint v
      if size < 1 ∨ size > 8 then (false, p)
      else if size < 4 then (false, p)
      else (true, { p with nonce2len := size })
    | _ => (false, p)
  | _ => (false, p)

def parseSubscribe (p : ProxyInstance) : Option Line → Bool × ProxyInstance
  | none => (false, p)
  | some line =>
    match jsonMsgResult line with
    | some (.arr res) =>
      if res.length < 3 then (false, p) else
      match findNotify (.arr res) with
      | none => (false, p)
      | some notifyVal => parseEnonce (copySessionid p notifyVal) res
    | _ => (false, p)

section

variable (tag : String)

/-- The `mining.subscribe` request of the tier the session is at; `tag` is `PACKAGE"/"VERSION`. -/
def subscribeRequest (p : ProxyInstance) : Json :=
  .obj [("id", .int p.id), ("method", .str "mining.subscribe"),
    ("params", .arr (match p.sessionid with
      | some sid => [.str tag, .str sid]
      | none => if !p.noParams then [.str tag] else []))]

/-- What a rejected response leads to: drop the session id first, then the parameters. -/
def fallBack (p : ProxyInstance) : ProxyInstance :=
  if p.sessionid.isSome then { p with noSessionid := true, sessionid := none }
  else { p with noParams := true }

/-- Building the request takes the next message id; then `send_json_msg` writes it. -/
def writeSubscribe (p : ProxyInstance) : ProxyInstance :=
  { p.sendJsonMsg (some (subscribeRequest tag p)) with id := p.id + 1 }

def subscribeStratum : ProxyInstance → List SubscribeTry → Bool × ProxyInstance
  | p, [] => (false, (writeSubscribe tag p).closeSock)
  | p, t :: ts =>
    if !t.sent then (false, (writeSubscribe tag p).closeSock) else
    match parseSubscribe (writeSubscribe tag p) t.response with
    | (true, q) => (true, q)
    | (false, q) =>
      if q.noParams then (false, q.closeSock)
      else if !t.reconnected then (false, fallBack q.closeSock)
      else subscribeStratum (fallBack q.closeSock).connectSock ts

end

/-- A set fallback flag means no session id is held. -/
def SessionInv (p : ProxyInstance) : Prop :=
  p.noSessionid = true ∨ p.noParams = true → p.sessionid = none

/-- What `parse_subscribe` may change: the subscription fields, and the session id only
while both fallback flags are clear. -/
def Resubscribed (p q : ProxyInstance) : Prop :=
  ∃ sid e n b k,
    q = { p with sessionid := sid, enonce1 := e, nonce1len := n, enonce1bin := b, nonce2len := k } ∧
    (sid = p.sessionid ∨ p.noParams = false ∧ p.noSessionid = false)

theorem copySessionid_eq (p : ProxyInstance) (v : Json) : ∃ sid,
    copySessionid p v = { p with sessionid := sid } ∧
      (sid = p.sessionid ∨ p.noParams = false ∧ p.noSessionid = false) := by
  unfold copySessionid
  split
  · rename_i h
    split
    · exact ⟨_, rfl, .inr (by simp at h; exact h.1)⟩
    · exact ⟨_, rfl, .inl rfl⟩
  · exact ⟨_, rfl, .inl rfl⟩

theorem parseEnonce_eq (p : ProxyInstance) (res : List Json) : ∃ e n b k,
    (parseEnonce p res).2 = { p with enonce1 := e, nonce1len := n, enonce1bin := b, nonce2len := k } := by
  unfold parseEnonce
  dsimp only
  repeat' split
  all_goals exact ⟨_, _, _, _, rfl⟩

theorem parseSubscribe_resubscribed (p : ProxyInstance) (r : Option Line) :
    Resubscribed p (parseSubscribe p r).2 := by
  unfold parseSubscribe
  repeat' split
  all_goals try exact ⟨_, _, _, _, _, rfl, .inl rfl⟩
  rename_i v _
  obtain ⟨sid, hc, hsid⟩ := copySessionid_eq p v
  obtain ⟨e, n, b, k, he⟩ := parseEnonce_eq (copySessionid p v) _
  exact ⟨sid, e, n, b, k, by rw [he, hc], hsid⟩

theorem Resubscribed.inv {p q : ProxyInstance} (h : Resubscribed p q) (hp : SessionInv p) :
    SessionInv q := by
  obtain ⟨sid, e, n, b, k, rfl, hsid⟩ := h
  rcases hsid with rfl | ⟨h1, h2⟩
  · exact hp
  · simp [SessionInv, h1, h2]

theorem fallBack_inv (p : ProxyInstance) : SessionInv (fallBack p) := by
  unfold fallBack SessionInv
  split
  · simp
  · exact fun _ => Option.not_isSome_iff_eq_none.mp ‹_›

/-- `q` has every fallback flag that `p` has. -/
def FlagsLe (p q : ProxyInstance) : Prop :=
  (p.noSessionid = true → q.noSessionid = true) ∧ (p.noParams = true → q.noParams = true)

theorem FlagsLe.refl (p : ProxyInstance) : FlagsLe p p := ⟨id, id⟩

theorem FlagsLe.trans {p q r : ProxyInstance} (h : FlagsLe p q) (h' : FlagsLe q r) : FlagsLe p r :=
  ⟨h'.1 ∘ h.1, h'.2 ∘ h.2⟩

theorem fallBack_flags (p : ProxyInstance) : FlagsLe p (fallBack p) := by
  unfold fallBack FlagsLe; split <;> simp_all

@[simp] theorem fallBack_cs (p : ProxyInstance) : (fallBack p).cs = p.cs := by
  unfold fallBack; split <;> rfl

@[simp] theorem fallBack_caches (p : ProxyInstance) : (fallBack p).caches = p.caches := by
  unfold fallBack; split <;> rfl

theorem Resubscribed.flags {p q : ProxyInstance} (h : Resubscribed p q) :
    q.noSessionid = p.noSessionid ∧ q.noParams = p.noParams ∧ q.cs = p.cs ∧ q.id = p.id ∧
      q.caches = p.caches := by
  obtain ⟨sid, e, n, b, k, rfl, -⟩ := h
  exact ⟨rfl, rfl, rfl, rfl, rfl⟩

/-- A `mining.subscribe` carries no session id once `no_sessionid` is set, and no params
once `no_params` is. -/
def TierAllowed (p : ProxyInstance) (req : Json) : Prop :=
  (p.noSessionid = true → jsonArraySize (jsonObjectGet (some req) "params") ≤ 1) ∧
    (p.noParams = true → jsonObjectGet (some req) "params" = some (.arr []))

theorem TierAllowed.mono {p q : ProxyInstance} {req : Json} (h : FlagsLe p q)
    (hq : TierAllowed q req) : TierAllowed p req :=
  ⟨hq.1 ∘ h.1, hq.2 ∘ h.2⟩

theorem subscribeRequest_allowed (tag : String) {p : ProxyInstance} (h : SessionInv p) :
    TierAllowed p (subscribeRequest tag p) := by
  constructor <;> intro hf
  · simp [subscribeRequest, h (.inl hf), jsonObjectGet, List.lookup_cons, jsonArraySize]
    split <;> simp
  · simp [subscribeRequest, h (.inr hf), jsonObjectGet, List.lookup_cons, hf]

theorem requests_subscribe_write (tag : String) (p : ProxyInstance) :
    requests ["mining.subscribe"] [.write (some (subscribeRequest tag p))] = [subscribeRequest tag p] := by
  simp [requests, written, subscribeRequest, jsonObjectGet, List.lookup_cons]

/-- The moves `subscribe_stratum` is made of. -/
inductive SubscribeMove (tag : String) : ProxyInstance → ProxyInstance → Prop
  | send (p : ProxyInstance) : SubscribeMove tag p (writeSubscribe tag p)
  | parse (p : ProxyInstance) (r : Option Line) : SubscribeMove tag p (parseSubscribe p r).2
  | close (p : ProxyInstance) : SubscribeMove tag p p.closeSock
  | connect (p : ProxyInstance) : SubscribeMove tag p p.connectSock
  | fallBack (p : ProxyInstance) : SubscribeMove tag p (fallBack p)

open Relation in
theorem subscribeStratum_moves (tag : String) : ∀ (ts : List SubscribeTry) (p : ProxyInstance),
    ReflTransGen (SubscribeMove tag) p (subscribeStratum tag p ts).2
  | [], p => .tail (.single (.send p)) (.close _)
  | t :: ts, p => by
    have sent : ReflTransGen (SubscribeMove tag) p _ := .single (.send p)
    have parsed := sent.tail (.parse _ t.response)
    unfold subscribeStratum
    split
    · exact sent.tail (.close _)
    generalize parseSubscribe (writeSubscribe tag p) t.response = r at parsed ⊢
    obtain ⟨_ | _, q⟩ := r
    · dsimp only
      split
      · exact parsed.tail (.close _)
      split
      · exact (parsed.tail (.close _)).tail (.fallBack _)
      · exact (((parsed.tail (.close _)).tail (.fallBack _)).tail (.connect _)).trans
          (subscribeStratum_moves tag ts _)
    · exact parsed

/-- Subscribing touches nothing but the session and the socket. -/
theorem SubscribeMove.caches {tag : String} {p q : ProxyInstance} (h : SubscribeMove tag p q) :
    q.caches = p.caches := by
  cases h with
  | parse r => exact (parseSubscribe_resubscribed p r).flags.2.2.2.2
  | fallBack => exact fallBack_caches p
  | _ => rfl

/-- What one call of `subscribe_stratum` keeps of the session it starts from: the fallback
flags stay set, the session invariant holds, and each `mining.subscribe` written since is
of a tier the starting flags allow. -/
def SessionFrom (p q : ProxyInstance) : Prop :=
  SessionInv q ∧ FlagsLe p q ∧
    ∃ new, q.cs = p.cs ++ new ∧ ∀ req ∈ requests ["mining.subscribe"] new, TierAllowed p req

theorem SessionFrom.move {tag : String} {p q r : ProxyInstance} (h : SessionFrom p q)
    (hm : SubscribeMove tag q r) : SessionFrom p r := by
  obtain ⟨hinv, hle, new, hcs, hall⟩ := h
  cases hm with
  | send =>
    refine ⟨hinv, hle, new ++ [.write (some (subscribeRequest tag q))], by simp [writeSubscribe, hcs], ?_⟩
    intro req hreq
    rw [requests_append, requests_subscribe_write, List.mem_append, List.mem_singleton] at hreq
    rcases hreq with hreq | rfl
    · exact hall req hreq
    · exact (subscribeRequest_allowed tag hinv).mono hle
  | parse r =>
    obtain ⟨hn, hp, hc, -, -⟩ := (parseSubscribe_resubscribed q r).flags
    exact ⟨(parseSubscribe_resubscribed q r).inv hinv, ⟨fun h => hn ▸ hle.1 h, fun h => hp ▸ hle.2 h⟩,
      new, hc.trans hcs, hall⟩
  | close => exact ⟨hinv, hle, new ++ [.close], by simp [hcs], by simpa using hall⟩
  | connect => exact ⟨hinv, hle, new ++ [.connect], by simp [hcs], by simpa using hall⟩
  | fallBack => exact ⟨fallBack_inv q, hle.trans (fallBack_flags q), new, by simp [hcs], hall⟩

theorem SessionFrom.trans {p q r : ProxyInstance} (h : SessionFrom p q) (h' : SessionFrom q r) :
    SessionFrom p r := by
  obtain ⟨-, hle, new, hcs, hall⟩ := h
  obtain ⟨hinv, hle', new', hcs', hall'⟩ := h'
  refine ⟨hinv, hle.trans hle', new ++ new', by rw [hcs', hcs, List.append_assoc], fun req hreq => ?_⟩
  rw [requests_append, List.mem_append] at hreq
  exact hreq.elim (hall req) fun h => (hall' req h).mono hle

/-- A call that leaves the flags and the session id alone and writes no `mining.subscribe`. -/
theorem SessionFrom.frame {p q : ProxyInstance} (hi : SessionInv p)
    (hn : q.noSessionid = p.noSessionid) (hp : q.noParams = p.noParams)
    (hs : q.sessionid = p.sessionid) (new : List SockEvent) (hc : q.cs = p.cs ++ new)
    (hr : requests ["mining.subscribe"] new = []) : SessionFrom p q := by
  refine ⟨fun h => ?_, ⟨fun h => hn ▸ h, fun h => hp ▸ h⟩, new, hc, by simp [hr]⟩
  rw [hn, hp] at h
  rw [hs]
  exact hi h

theorem subscribeStratum_caches (tag : String) (ts : List SubscribeTry) (p : ProxyInstance) :
    (subscribeStratum tag p ts).2.caches = p.caches := by
  have moves := subscribeStratum_moves tag ts p
  generalize (subscribeStratum tag p ts).2 = q at moves ⊢
  induction moves with
  | refl => rfl
  | tail _ hm ih => exact hm.caches.trans ih

/-- One call of `subscribe_stratum`: the fallback flags it finds set stay set, it leaves the
session invariant holding, and each `mining.subscribe` it writes is of a tier those flags
allow. -/
theorem subscribeStratum_session (tag : String) (ts : List SubscribeTry) (p : ProxyInstance)
    (h : SessionInv p) : SessionFrom p (subscribeStratum tag p ts).2 := by
  have moves := subscribeStratum_moves tag ts p
  generalize (subscribeStratum tag p ts).2 = q at moves ⊢
  induction moves with
  | refl => exact ⟨h, .refl p, [], by simp, by simp⟩
  | tail _ hm ih => exact ih.move hm

/-- The `mining.subscribe` requests a call can still write from the state it starts in: one
once `no_params` is set, two from the client-tag tier with no session id to drop, and three
otherwise. -/
def tierBudget (p : ProxyInstance) : Nat :=
  if p.noParams then 1 else if p.noSessionid && p.sessionid.isNone then 2 else 3

theorem one_le_tierBudget (p : ProxyInstance) : 1 ≤ tierBudget p := by
  unfold tierBudget; split_ifs <;> omega

/-- A rejected response costs one request of the budget: `parse_subscribe` copies a session
id only while `no_sessionid` is clear, and dropping one leaves only the client-tag tier and
the empty one. -/
theorem tierBudget_fallBack {p q : ProxyInstance} (hr : Resubscribed p q) (hp : p.noParams = false) :
    tierBudget (fallBack q.closeSock).connectSock + 1 ≤ tierBudget p := by
  obtain ⟨sid, e, n, b, k, rfl, hsid⟩ := hr
  rcases hsid with rfl | ⟨-, hn⟩
  · cases h : p.sessionid with
    | none => simp [tierBudget, fallBack, hp, h]; split <;> omega
    | some => simp [tierBudget, fallBack, hp, h]
  · cases sid <;> simp [tierBudget, fallBack, hp, hn]

/-- A pass that writes one request and nothing else of its kind stays within the budget. -/
theorem requests_subscribe_one (tag : String) (p : ProxyInstance) (tail : List SockEvent)
    (ht : requests ["mining.subscribe"] tail = []) :
    (requests ["mining.subscribe"] ([.write (some (subscribeRequest tag p))] ++ tail)).length ≤
      tierBudget p := by
  rw [requests_append, requests_subscribe_write, ht]
  exact one_le_tierBudget p

/-- One call writes at most as many `mining.subscribe` requests as the budget of the state it
starts in. -/
theorem subscribeStratum_budget (tag : String) (ts : List SubscribeTry) (p : ProxyInstance) :
    ∃ new, (subscribeStratum tag p ts).2.cs = p.cs ++ new ∧
      (requests ["mining.subscribe"] new).length ≤ tierBudget p := by
  have one := requests_subscribe_one tag
  induction ts generalizing p with
  | nil => exact ⟨_, by simp [subscribeStratum, writeSubscribe], one p [.close] rfl⟩
  | cons t ts ih =>
    have hq := parseSubscribe_resubscribed (writeSubscribe tag p) t.response
    unfold subscribeStratum
    split
    · exact ⟨_, by simp [writeSubscribe], one p [.close] rfl⟩
    generalize parseSubscribe (writeSubscribe tag p) t.response = r at hq
    obtain ⟨-, hnp, hcs, -, -⟩ := hq.flags
    obtain ⟨_ | _, q⟩ := r
    · dsimp only at hnp hcs ⊢
      split_ifs with hp
      · exact ⟨_, by simp [hcs, writeSubscribe], one p [.close] rfl⟩
      · exact ⟨_, by simp [hcs, writeSubscribe], one p [.close] rfl⟩
      obtain ⟨new, hnew, hlen⟩ := ih (fallBack q.closeSock).connectSock
      have hb := tierBudget_fallBack hq (by rw [← hnp]; simpa using hp)
      have hcc : requests ["mining.subscribe"] [.close, .connect] = [] := rfl
      refine ⟨[.write (some (subscribeRequest tag p))] ++ ([.close, .connect] ++ new),
        by rw [hnew]; simp [hcs, writeSubscribe], ?_⟩
      rw [requests_append, requests_append, requests_subscribe_write, hcc, List.nil_append,
        List.singleton_append, List.length_cons]
      exact (Nat.add_le_add_right hlen 1).trans hb
    · exact ⟨_, hcs, one p [] rfl⟩

/-- For every starting session state and every run of responses, send outcomes and
reconnects, one call of `subscribe_stratum` writes at most one `mining.subscribe` from a state
with `no_params` set, two from the client-tag tier with no session id to drop, and three
otherwise: each rejected response costs one request of that budget, even when `parse_subscribe`
has copied a session id out of it. -/
theorem subscribe_within_tier_budget (tag : String) (p : ProxyInstance) (ts : List SubscribeTry) :
    ∃ new, (subscribeStratum tag p ts).2.cs = p.cs ++ new ∧
      (requests ["mining.subscribe"] new).length ≤
        if p.noParams then 1 else if p.noSessionid && p.sessionid.isNone then 2 else 3 :=
  subscribeStratum_budget tag ts p

/-- A response to a `mining.subscribe`, with session id `ae68` in its notify descriptor. -/
def subscribeReply (error : Json) (enonce1 : String) (nonce2len : Int) : Line :=
  some (.obj [("id", .int 0), ("result", .arr [.arr [.arr [.str "mining.notify", .str "ae68"]],
    .str enonce1, .int nonce2len]), ("error", error)])

/-- A response whose nonce2 length is 2, too small to proxy, after which the reconnect
succeeds. -/
def shortNonce2 : SubscribeTry := ⟨true, some (subscribeReply .null "08000002" 2), true⟩

/-- From the zeroed instance `proxy_mode` subscribes with, an upstream that always answers
`shortNonce2` is sent the client-tag tier twice: `parse_subscribe` copies the session id
before it rejects the response, so the fallback drops that id instead of the parameters. -/
theorem subscribe_repeats_tag_tier :
    (subscribeStratum "ckpool" ({} : ProxyInstance).connectSock
        [shortNonce2, shortNonce2, shortNonce2]).1 = false ∧
      (requests ["mining.subscribe"] (subscribeStratum "ckpool" ({} : ProxyInstance).connectSock
        [shortNonce2, shortNonce2, shortNonce2]).2.cs).map (fun req => jsonObjectGet (some req) "params") =
      [some (.arr [.str "ckpool"]), some (.arr [.str "ckpool"]), some (.arr [])] :=
  ⟨rfl, rfl⟩

/-- Whatever the session state, `parse_subscribe` accepts a response that carries an error
beside its result, an extranonce1 of odd length, and a nonce2 length of `2^32 + 4`, which it
truncates to 4 and stores. -/
theorem parse_subscribe_accepts_unchecked (p : ProxyInstance) :
    (parseSubscribe p (some (subscribeReply (.str "overloaded") "08000002" 4))).1 = true ∧
      (parseSubscribe p (some (subscribeReply .null "0800000" 4))).1 = true ∧
      (parseSubscribe p (some (subscribeReply .null "08000002" 4294967300))).1 = true ∧
      (parseSubscribe p (some (subscribeReply .null "08000002" 4294967300))).2.nonce2len = 4 :=
  ⟨rfl, rfl, rfl, rfl⟩

/-- The ids of the `mining.subscribe` and `mining.authorize` requests on a socket, the two
that `proxi->id` numbers. -/
def sessionIds (log : List SockEvent) : List Json :=
  (requests ["mining.subscribe", "mining.authorize"] log).filterMap idOf

/-- The session requests on the socket carry strictly rising ids, all below the next
message id. -/
def IdsRising (p : ProxyInstance) : Prop :=
  ∃ ks : List Nat, sessionIds p.cs = ks.map (fun k => .int k) ∧ ks.Pairwise (· < ·) ∧ ∀ k ∈ ks, k < p.id

@[simp] theorem sessionIds_append (l₁ l₂ : List SockEvent) :
    sessionIds (l₁ ++ l₂) = sessionIds l₁ ++ sessionIds l₂ := by
  simp [sessionIds]

@[simp] theorem sessionIds_close : sessionIds [.close] = [] := rfl

@[simp] theorem sessionIds_connect : sessionIds [.connect] = [] := rfl

theorem sessionIds_subscribe (tag : String) (p : ProxyInstance) :
    sessionIds [.write (some (subscribeRequest tag p))] = [.int p.id] := by
  simp [sessionIds, requests, written, subscribeRequest, jsonObjectGet, List.lookup_cons, idOf]

/-- Writing a request numbered by the next message id, and taking that id, keeps the ids
rising. -/
theorem IdsRising.write {p : ProxyInstance} (h : IdsRising p) (m : Json)
    (hm : sessionIds [.write (some m)] = [.int p.id]) :
    IdsRising { p.sendJsonMsg (some m) with id := p.id + 1 } := by
  obtain ⟨ks, hks, hsort, hlt⟩ := h
  refine ⟨ks ++ [p.id], by simp [hks, hm], ?_, ?_⟩
  · exact List.pairwise_append.mpr ⟨hsort, List.pairwise_singleton _ _, fun a ha b hb => by
      rw [List.mem_singleton.mp hb]; exact hlt a ha⟩
  · intro k hk
    rcases List.mem_append.mp hk with hk | hk
    · exact Nat.lt_succ_of_lt (hlt k hk)
    · rw [List.mem_singleton.mp hk]; exact Nat.lt_succ_self _

/-- A call that keeps the next message id and writes no session request keeps the ids
rising. -/
theorem IdsRising.frame {p q : ProxyInstance} (h : IdsRising p) (hid : q.id = p.id)
    (new : List SockEvent) (hc : q.cs = p.cs ++ new) (hn : sessionIds new = []) : IdsRising q := by
  obtain ⟨ks, hks, hsort, hlt⟩ := h
  exact ⟨ks, by rw [hc, sessionIds_append, hks, hn, List.append_nil], hsort, hid ▸ hlt⟩

theorem IdsRising.move {tag : String} {p q : ProxyInstance} (h : IdsRising p)
    (hm : SubscribeMove tag p q) : IdsRising q := by
  cases hm with
  | send => exact h.write _ (sessionIds_subscribe tag p)
  | parse r =>
    obtain ⟨-, -, hcs, hid, -⟩ := (parseSubscribe_resubscribed p r).flags
    obtain ⟨ks, hks, hsort, hlt⟩ := h
    exact ⟨ks, hcs ▸ hks, hsort, hid ▸ hlt⟩
  | close => obtain ⟨ks, hks, hsort, hlt⟩ := h; exact ⟨ks, by simp [hks], hsort, hlt⟩
  | connect => obtain ⟨ks, hks, hsort, hlt⟩ := h; exact ⟨ks, by simp [hks], hsort, hlt⟩
  | fallBack =>
    obtain ⟨ks, hks, hsort, hlt⟩ := h
    exact ⟨ks, by simpa using hks, hsort, by unfold fallBack; split <;> exact hlt⟩

theorem subscribeStratum_rising (tag : String) (ts : List SubscribeTry) {p : ProxyInstance}
    (h : IdsRising p) : IdsRising (subscribeStratum tag p ts).2 := by
  have moves := subscribeStratum_moves tag ts p
  generalize (subscribeStratum tag p ts).2 = q at moves
  induction moves with
  | refl => exact h
  | tail _ hm ih => exact ih.move hm

/-- What `send_subscribe` hands the stratifier is usable: an extranonce1 is held and is not
empty, and the nonce2 length is one that `parse_subscribe` accepts. -/
def Subscribed (p : ProxyInstance) : Prop :=
  (∃ e, p.enonce1 = some e ∧ e ≠ "") ∧ 4 ≤ p.nonce2len ∧ p.nonce2len ≤ 8

theorem Subscribed.congr {p q : ProxyInstance} (h : Subscribed p) (he : q.enonce1 = p.enonce1)
    (hn : q.nonce2len = p.nonce2len) : Subscribed q := by
  rw [Subscribed, he, hn]; exact h

/-- `parse_subscribe` stores an extranonce1 only once it has checked it is not empty, and a
nonce2 length only on success, once it has checked it is between 4 and 8. -/
theorem parseEnonce_subscribed (p : ProxyInstance) (res : List Json) :
    (Subscribed p → Subscribed (parseEnonce p res).2) ∧
      ((parseEnonce p res).1 = true → Subscribed (parseEnonce p res).2) := by
  unfold parseEnonce
  split
  next s _ =>
    dsimp only
    split
    · exact ⟨id, nofun⟩
    next h0 =>
    have hs : s ≠ "" := by rintro rfl; exact h0 (by decide)
    have kept (h : Subscribed p) : (∃ e, some s = some e ∧ e ≠ "") ∧ 4 ≤ p.nonce2len ∧ p.nonce2len ≤ 8 :=
      ⟨⟨s, rfl, hs⟩, h.2⟩
    repeat' split
    all_goals first
      | exact ⟨kept, nofun⟩
      | exact (fun h => ⟨fun _ => h, fun _ => h⟩) ⟨⟨s, rfl, hs⟩, by dsimp only; omega⟩
  · exact ⟨id, nofun⟩

theorem parseSubscribe_subscribed (p : ProxyInstance) (r : Option Line) :
    (Subscribed p → Subscribed (parseSubscribe p r).2) ∧
      ((parseSubscribe p r).1 = true → Subscribed (parseSubscribe p r).2) := by
  unfold parseSubscribe
  repeat' split
  all_goals try exact ⟨id, nofun⟩
  rename_i res _ _ _ v _
  have h := parseEnonce_subscribed (copySessionid p v) res
  obtain ⟨sid, hc, -⟩ := copySessionid_eq p v
  exact ⟨fun hp => h.1 (hp.congr (by rw [hc]) (by rw [hc])), h.2⟩

theorem SubscribeMove.subscribed {tag : String} {p q : ProxyInstance} (h : SubscribeMove tag p q)
    (hp : Subscribed p) : Subscribed q := by
  cases h with
  | parse r => exact (parseSubscribe_subscribed p r).1 hp
  | fallBack =>
    exact hp.congr (by unfold Subscribe.fallBack; split <;> rfl) (by unfold Subscribe.fallBack; split <;> rfl)
  | _ => exact hp

/-- `subscribe_stratum` keeps a usable subscription, and leaves one whenever it succeeds. -/
theorem subscribeStratum_subscribed (tag : String) (ts : List SubscribeTry) (p : ProxyInstance) :
    (Subscribed p → Subscribed (subscribeStratum tag p ts).2) ∧
      ((subscribeStratum tag p ts).1 = true → Subscribed (subscribeStratum tag p ts).2) := by
  refine ⟨fun hp => ?_, ?_⟩
  · have moves := subscribeStratum_moves tag ts p
    generalize (subscribeStratum tag p ts).2 = q at moves
    induction moves with
    | refl => exact hp
    | tail _ hm ih => exact hm.subscribed ih
  induction ts generalizing p with
  | nil => exact nofun
  | cons t ts ih =>
    unfold subscribeStratum
    split
    · exact nofun
    have parsed := parseSubscribe_subscribed (writeSubscribe tag p) t.response
    generalize parseSubscribe (writeSubscribe tag p) t.response = r at parsed ⊢
    obtain ⟨_ | _, q⟩ := r
    · dsimp only
      split
      · exact nofun
      split
      · exact nofun
      · exact ih _
    · exact parsed.2

end CkpoolGenerator.Subscribe
