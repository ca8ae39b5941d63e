import CkpoolGenerator.Notify
import CkpoolGenerator.Codec

/-!
# Shares

`submit_share` moves `client_id` and `msg_id` from a submission into a `share_msg`, keyed by
the next share id, and queues the submission with that id. `proxy_send` looks the
submission's local job id up in the notification cache and re-keys it as a
`mining.submit`; `parse_share` removes the record an upstream response names; the receive
loop reaps records after two minutes. Both hash lookups compare the 32 bits of an `int`
key.
-/

namespace CkpoolGenerator.Share

open CkpoolGenerator.Jansson CkpoolGenerator.Instance CkpoolGenerator.Codec

/-- The part of `submit_share` under `share_lock`, with the edits of the message around it:
the new record, and the message as it will be queued. -/
def submitShare (now : Int) (p : ProxyInstance) (val : Json) : ProxyInstance × Json :=
  let share : ShareMsg :=
    { id := p.shareId, clientId := cint (jsonIntegerValue (jsonObjectGet (some val) "client_id")),
      msgId := cint (jsonIntegerValue (jsonObjectGet (some val) "msg_id")), submitTime := now }
  let msg := jsonObjectDel (jsonObjectDel val "client_id") "msg_id"
  ({ p with shareId := p.shareId + 1, shares := p.shares ++ [share] },
    jsonObjectSet msg "id" (.int p.shareId))

/-- The part of `submit_share` under `psend_lock`: `DL_APPEND` to `psends`. -/
def queueShare (p : ProxyInstance) (msg : Json) : ProxyInstance :=
  { p with psends := p.psends ++ [msg] }

/-- `parse_share`: the record whose id has the 32 bits of the line's `id` is removed. -/
def parseShare (p : ProxyInstance) : Line → Bool × ProxyInstance
  | none => (false, p)
  | some val =>
    match jsonObjectGet (some val) "id" with
    | none => (false, p)
    | some idval =>
      let id := cint (jsonIntegerValue (some idval))
      match p.shares.find? fun s => bits32 s.id == bits32 id with
      | some share => (true, { p with shares := p.shares.erase share })
      | none => (false, p)

/-- `parse_share` either changes nothing, or removes the first record whose id has the 32
bits of the line's `id`, read through `json_integer_value`. -/
theorem parseShare_cases (p : ProxyInstance) (l : Line) :
    (parseShare p l).2 = p ∨
      ∃ val idval sh, l = some val ∧ jsonObjectGet (some val) "id" = some idval ∧
        p.shares.find? (fun s => bits32 s.id == bits32 (cint (jsonIntegerValue (some idval)))) = some sh ∧
        (parseShare p l).2 = { p with shares := p.shares.erase sh } := by
  unfold parseShare
  split
  · exact .inl rfl
  next val =>
    split
    · exact .inl rfl
    next idval hid =>
      dsimp only
      split
      next sh h => exact .inr ⟨val, idval, sh, rfl, hid, h, rfl⟩
      · exact .inl rfl

/-- `parse_share` changes the share records and nothing else. -/
theorem parseShare_eq (p : ProxyInstance) (l : Line) :
    ∃ shares, (parseShare p l).2 = { p with shares := shares } := by
  rcases parseShare_cases p l with e | ⟨-, -, sh, -, -, -, e⟩
  · exact ⟨p.shares, e⟩
  · exact ⟨_, e⟩

/-- The share-ageing pass of `proxy_recv`: records more than two minutes old are removed. -/
def ageShares (now : Int) (p : ProxyInstance) : ProxyInstance :=
  { p with shares := p.shares.filter fun s => !(s.submitTime < now - 120) }

/-- Modelled from the spec: `json_uintcpy` of libckpool, which the source calls but does not
contain. The `jobid` member, read as `json_integer_value` does; its `uint32_t` is taken by
`bits32` at the lookup. -/
def jobidOf (msg : Json) : Int := jsonIntegerValue (jsonObjectGet (some msg) "jobid")

/-- The lookup of `proxy_send` under `notify_lock`. -/
def findJob (p : ProxyInstance) (msg : Json) : Option NotifyInstance :=
  p.notifyInstances.find? fun ni => bits32 ni.id == bits32 (jobidOf msg)

/-- The `mining.submit` that `json_pack` builds from the upstream job id and the
submission's members; `none` when one of those members is missing. -/
def submitRequest (auth jobid : String) (msg : Json) : Option Json :=
  match jsonObjectGet (some msg) "nonce2", jsonObjectGet (some msg) "ntime",
    jsonObjectGet (some msg) "nonce", jsonObjectGet (some msg) "id" with
  | some nonce2, some ntime, some nonce, some id =>
    some (.obj [("params", .arr [.str auth, .str jobid, nonce2, ntime, nonce]), ("id", id),
      ("method", .str "mining.submit")])
  | _, _, _, _ => none

/-- `json_pack` fails exactly when the submission lacks one of the members it takes. -/
theorem submitRequest_eq_none (auth jobid : String) (m : Json) :
    submitRequest auth jobid m = none ↔
      jsonObjectGet (some m) "nonce2" = none ∨ jsonObjectGet (some m) "ntime" = none ∨
        jsonObjectGet (some m) "nonce" = none ∨ jsonObjectGet (some m) "id" = none := by
  unfold submitRequest
  cases jsonObjectGet (some m) "nonce2" <;> cases jsonObjectGet (some m) "ntime" <;>
    cases jsonObjectGet (some m) "nonce" <;> cases jsonObjectGet (some m) "id" <;> simp

/-- `json_pack` builds the `mining.submit` from the members the submission has. -/
theorem submitRequest_eq_some {auth jobid : String} {m a b c d : Json}
    (ha : jsonObjectGet (some m) "nonce2" = some a) (hb : jsonObjectGet (some m) "ntime" = some b)
    (hc : jsonObjectGet (some m) "nonce" = some c) (hd : jsonObjectGet (some m) "id" = some d) :
    submitRequest auth jobid m = some (.obj [("params", .arr [.str auth, .str jobid, a, b, c]),
      ("id", d), ("method", .str "mining.submit")]) := by
  simp [submitRequest, ha, hb, hc, hd]

/-- What `proxy_send` writes is a `mining.submit` or a bare line. -/
theorem requests_submitRequest (methods : List String) (h : "mining.submit" ∉ methods)
    (auth jobid : String) (m : Json) : requests methods [.write (submitRequest auth jobid m)] = [] := by
  unfold submitRequest
  split <;> simp [requests, written, jsonObjectGet, List.lookup_cons]
  exact fun x hx e => h (e ▸ hx)

end CkpoolGenerator.Share
