import Mathlib.Logic.Relation
import CkpoolGenerator.Notify
import CkpoolGenerator.Codec

/-!
# Method dispatch and authorisation

`parse_method` handles the pushes an upstream sends (`mining.notify`,
`mining.set_difficulty`, `client.reconnect`, `client.get_version`, `client.show_message`)
and reports whether it handled the line. `auth_stratum` writes `mining.authorize`, then
hands lines to `parse_method` until one is not handled, and takes that line as the answer.
-/

namespace CkpoolGenerator.Method

open CkpoolGenerator.Jansson CkpoolGenerator.Instance CkpoolGenerator.Codec
  CkpoolGenerator.Notify

/-- A line read from the upstream, with whether the reply that `send_version` would write to
it goes out whole. -/
structure Incoming where
  msg : Line
  replied : Bool := true

def parseDiff (p : ProxyInstance) (val : Option Json) : Bool × ProxyInstance :=
  let diff := jsonNumberValue (jsonArrayGet val 0)
  if diff = 0 ∨ diff = p.diff then (true, p)
  else (true, { p with diff := diff, diffed := true })

def showMessage (val : Option Json) : Bool :=
  jsonIsArray val && (jsonStringValue (jsonArrayGet val 0)).isSome

section

variable (tag : String)

/-- `send_version`, on the socket `proxi->cs` points to: the reply echoes the request's id.
`json_pack` fails on a request with no id, and a bare line goes out. In the probe of
`proxy_mode` the pointer is still `NULL`; `probeAuthLoop` crashes there instead. -/
def sendVersion (p : ProxyInstance) (val : Json) : ProxyInstance :=
  p.sendJsonMsg ((jsonObjectGet (some val) "id").map fun id =>
    .obj [("id", id), ("result", .str tag), ("error", .null)])

/-- The handler `parse_method` calls once a line has passed its checks. -/
inductive Handler where
  | notify (params : Option Json)
  | diff (params : Option Json)
  | reconnect
  | version (val : Json)
  | showMessage (params : Option Json)

/-- The checks of `parse_method`, in its order, and the handler it then calls; `none` where it
returns false without calling one. -/
def dispatch : Line → Option Handler
  | none => none
  | some val =>
    match jsonObjectGet (some val) "method" with
    | none => none
    | some method =>
      let errVal := jsonObjectGet (some val) "error"
      let params := jsonObjectGet (some val) "params"
      if errVal.isSome && !jsonIsNull errVal then none else
      match method with
      | .str buf =>
        if buf.utf8ByteSize < 1 then none
        else if strncasecmp buf "mining.notify" then some (.notify params)
        else if strncasecmp buf "mining.set_difficulty" then some (.diff params)
        else if strncasecmp buf "client.reconnect" then some .reconnect
        else if strncasecmp buf "client.get_version" then some (.version val)
        else if strncasecmp buf "client.show_message" then some (.showMessage params)
        else none
      | _ => none

def parseMethod (now : Int) (p : ProxyInstance) (l : Incoming) : Bool × ProxyInstance :=
  match dispatch l.msg with
  | none => (false, p)
  | some (.notify params) =>
    let r := parseNotify now p params
    (r.1, { r.2 with notified := r.1 })
  | some (.diff params) => parseDiff p params
  | some .reconnect => (true, p)
  | some (.version val) => (l.replied, sendVersion tag p val)
  | some (.showMessage params) => (showMessage params, p)

def authRequest (p : ProxyInstance) : Json :=
  .obj [("id", .int p.id), ("method", .str "mining.authorize"),
    ("params", .arr [.str p.auth, .str p.pass])]

/-- Building the request takes the next message id; a failed write closes the socket. -/
def sendAuth (p : ProxyInstance) (sent : Bool) : Bool × ProxyInstance :=
  let q := { p.sendJsonMsg (some (authRequest p)) with id := p.id + 1 }
  if sent then (true, q) else (false, q.closeSock)

theorem sendAuth_true (p : ProxyInstance) : sendAuth p true = (true, (sendAuth p true).2) := rfl

/-- What `auth_stratum` makes of the line that ended its read loop. -/
def authResult (l : Line) : Bool := jsonIsTrue (jsonMsgResult l)

/-- One pass of the read loop of `auth_stratum`: `none` while `parse_method` handles the
line, else the verdict read from it. -/
def authLine (now : Int) (p : ProxyInstance) (l : Incoming) : Option Bool × ProxyInstance :=
  match parseMethod tag now p l with
  | (true, q) => (none, q)
  | (false, q) => (some (authResult l.msg), q)

/-- The read loop of `auth_stratum` over the lines the upstream sends, with one clock
reading; when the lines run out, the read fails. -/
def authLoop (now : Int) : ProxyInstance → List Incoming → Bool × ProxyInstance
  | p, [] => (false, p)
  | p, l :: ls =>
    match authLine tag now p l with
    | (none, q) => authLoop now q ls
    | (some ok, q) => (ok, q)

def authStratum (now : Int) (p : ProxyInstance) (sent : Bool) (lines : List Incoming) :
    Bool × ProxyInstance :=
  match sendAuth p sent with
  | (true, q) => authLoop tag now q lines
  | (false, q) => (false, q)

theorem parseNotify_fst (now : Int) (p : ProxyInstance) (v : Option Json) :
    (parseNotify now p v).1 = (notifyParams v).isSome := by
  unfold parseNotify; split <;> simp_all

theorem parseDiff_fst (p : ProxyInstance) (v : Option Json) : (parseDiff p v).1 = true := by
  unfold parseDiff; dsimp only; split <;> rfl

/-- Whether `parse_method` handles a line. -/
def handles (l : Incoming) : Bool := (parseMethod tag 0 {} l).1

/-- Everything `parse_method` can do to the instance: nothing; clear `notified` after a bad
notify; link a notification; take a new difficulty; or write the reply of `send_version`. -/
inductive MethodEffect (p : ProxyInstance) : ProxyInstance → Prop
  | unchanged : MethodEffect p p
  | badNotify : MethodEffect p { p with notified := false }
  | link (ni : NotifyInstance) : ni.id = p.notifyId →
      MethodEffect p { linkNotify p ni with notified := true }
  | diff (d : Rat) : MethodEffect p { p with diff := d, diffed := true }
  | version (val : Json) : MethodEffect p (sendVersion tag p val)

theorem parseNotify_effect (now : Int) (p : ProxyInstance) (v : Option Json) :
    MethodEffect tag p { (parseNotify now p v).2 with notified := (parseNotify now p v).1 } := by
  unfold parseNotify; split
  · exact .badNotify
  · exact .link _ rfl

theorem parseDiff_effect (p : ProxyInstance) (v : Option Json) :
    MethodEffect tag p (parseDiff p v).2 := by
  unfold parseDiff; dsimp only; split
  · exact .unchanged
  · exact .diff _

/-- The verdict of `parse_method` depends on the line alone, not on the session, and its
effect on the instance is one of `MethodEffect`, one case per handler. -/
theorem parseMethod_spec (now : Int) (p : ProxyInstance) (l : Incoming) :
    (parseMethod tag now p l).1 = handles tag l ∧ MethodEffect tag p (parseMethod tag now p l).2 := by
  unfold handles parseMethod
  cases dispatch l.msg with
  | none => exact ⟨rfl, .unchanged⟩
  | some h =>
    cases h with
    | notify params =>
      exact ⟨(parseNotify_fst _ _ _).trans (parseNotify_fst _ _ _).symm, parseNotify_effect tag now p _⟩
    | diff params => exact ⟨(parseDiff_fst _ _).trans (parseDiff_fst _ _).symm, parseDiff_effect tag p _⟩
    | version val => exact ⟨rfl, .version _⟩
    | reconnect | showMessage _ => exact ⟨rfl, .unchanged⟩

theorem parseMethod_fst (now : Int) (p : ProxyInstance) (l : Incoming) :
    (parseMethod tag now p l).1 = handles tag l :=
  (parseMethod_spec tag now p l).1

theorem parseMethod_effect (now : Int) (p : ProxyInstance) (l : Incoming) :
    MethodEffect tag p (parseMethod tag now p l).2 :=
  (parseMethod_spec tag now p l).2

theorem MethodEffect.links {tag : String} {p q : ProxyInstance} (h : MethodEffect tag p q) : Links p q := by
  cases h with
  | link ni hid => exact .inr ⟨ni, hid, rfl⟩
  | _ => exact .inl rfl

/-- What a line from the upstream leaves alone: the queue, the share counter, the message id,
the session and the subscription; and what it writes back is no request. -/
structure Untouched (p q : ProxyInstance) : Prop where
  psends : q.psends = p.psends
  shareId : q.shareId = p.shareId
  id : q.id = p.id
  noSessionid : q.noSessionid = p.noSessionid
  noParams : q.noParams = p.noParams
  sessionid : q.sessionid = p.sessionid
  enonce1 : q.enonce1 = p.enonce1
  nonce2len : q.nonce2len = p.nonce2len
  cs : ∃ new, q.cs = p.cs ++ new ∧ ∀ methods, requests methods new = []

/-- What a step leaves alone unless it reconnects: the message id, the session and the
subscription; and it writes no request but a `mining.submit`. -/
structure Quiet (p q : ProxyInstance) : Prop where
  id : q.id = p.id
  noSessionid : q.noSessionid = p.noSessionid
  noParams : q.noParams = p.noParams
  sessionid : q.sessionid = p.sessionid
  enonce1 : q.enonce1 = p.enonce1
  nonce2len : q.nonce2len = p.nonce2len
  cs : ∃ new, q.cs = p.cs ++ new ∧ ∀ methods, "mining.submit" ∉ methods → requests methods new = []

theorem Untouched.quiet {p q : ProxyInstance} (h : Untouched p q) : Quiet p q :=
  ⟨h.id, h.noSessionid, h.noParams, h.sessionid, h.enonce1, h.nonce2len,
    h.cs.imp fun _ ⟨hc, hr⟩ => ⟨hc, fun methods _ => hr methods⟩⟩

/-- `parse_method` touches neither what `Untouched` lists nor the share records. -/
theorem MethodEffect.untouched {tag : String} {p q : ProxyInstance} (h : MethodEffect tag p q) :
    Untouched p q ∧ q.shares = p.shares := by
  cases h with
  | version val =>
    refine ⟨⟨rfl, rfl, rfl, rfl, rfl, rfl, rfl, rfl, _, rfl, fun methods => ?_⟩, rfl⟩
    cases jsonObjectGet (some val) "id" <;> simp [requests, written, jsonObjectGet, List.lookup_cons]
  | _ => exact ⟨⟨rfl, rfl, rfl, rfl, rfl, rfl, rfl, rfl, [], (List.append_nil _).symm, fun _ => rfl⟩, rfl⟩

theorem authLine_snd (now : Int) (p : ProxyInstance) (l : Incoming) :
    (authLine tag now p l).2 = (parseMethod tag now p l).2 := by
  unfold authLine; split <;> simp_all

/-- A line that `auth_stratum` reads has the effect `parse_method` gives it. -/
theorem authLine_effect (now : Int) (p : ProxyInstance) (l : Incoming) :
    MethodEffect tag p (authLine tag now p l).2 := by
  rw [authLine_snd]; exact parseMethod_effect tag now p l

/-- The read loop of `auth_stratum` is a run of `parse_method` effects. -/
theorem authLoop_effects (now : Int) : ∀ (p : ProxyInstance) (lines : List Incoming),
    Relation.ReflTransGen (MethodEffect tag) p (authLoop tag now p lines).2
  | p, [] => .refl
  | p, l :: ls => by
    have h := authLine_effect tag now p l
    unfold authLoop
    split
    next q heq => rw [heq] at h; exact .head h (authLoop_effects now q ls)
    next q heq => rw [heq] at h; exact .single h

theorem sendAuth_caches (p : ProxyInstance) (sent : Bool) : (sendAuth p sent).2.caches = p.caches := by
  cases sent <;> rfl

/-- The verdict of the read loop: that of the first line `parse_method` does not handle,
false when the lines run out first. -/
def authOutcome (lines : List Incoming) : Bool :=
  match lines.dropWhile (handles tag) with
  | [] => false
  | l :: _ => authResult l.msg

theorem authLoop_fst (now : Int) : ∀ (p : ProxyInstance) (lines : List Incoming),
    (authLoop tag now p lines).1 = authOutcome tag lines
  | p, [] => rfl
  | p, l :: ls => by
    have h := parseMethod_fst tag now p l
    unfold authLoop authLine
    generalize parseMethod tag now p l = r at h ⊢
    obtain ⟨b, q⟩ := r
    subst h
    cases hh : handles tag l
    · simp [authOutcome, List.dropWhile, hh]
    · simp only [authLoop_fst now q ls, authOutcome, List.dropWhile, hh]

/-- A line `parse_method` does not dispatch is not handled. -/
theorem handles_of_dispatch {l : Incoming} (h : dispatch l.msg = none) : handles tag l = false := by
  unfold handles parseMethod; rw [h]

/-- Whether `parse_method` hands a line to `send_version`. -/
def callsSendVersion (l : Incoming) : Bool :=
  match dispatch l.msg with
  | some (.version _) => true
  | _ => false

/-- The lines the read loop of `auth_stratum` reads: up to the first that `parse_method` does
not handle, that one included. -/
def authReads : List Incoming → List Incoming
  | [] => []
  | l :: ls => if handles tag l then l :: authReads ls else [l]

/-- The read loop of `auth_stratum` in the probe of `proxy_mode`, which has not yet stored the
socket in `proxi->cs`: `send_version` writes through the `NULL` pointer, and the process
crashes (`none`). -/
def probeAuthLoop (now : Int) : ProxyInstance → List Incoming → Option (Bool × ProxyInstance)
  | p, [] => some (false, p)
  | p, l :: ls =>
    if callsSendVersion l then none else
    match authLine tag now p l with
    | (none, q) => probeAuthLoop now q ls
    | (some ok, q) => some (ok, q)

/-- `auth_stratum` in the probe of `proxy_mode`. -/
def probeAuthStratum (now : Int) (p : ProxyInstance) (sent : Bool) (lines : List Incoming) :
    Option (Bool × ProxyInstance) :=
  match sendAuth p sent with
  | (true, q) => probeAuthLoop tag now q lines
  | (false, q) => some (false, q)

/-- The probe's read loop is the read loop of `auth_stratum`, unless it reads a
`client.get_version` request. -/
theorem probeAuthLoop_eq (now : Int) : ∀ (p : ProxyInstance) (lines : List Incoming),
    probeAuthLoop tag now p lines =
      if (authReads tag lines).any callsSendVersion then none else some (authLoop tag now p lines)
  | p, [] => rfl
  | p, l :: ls => by
    have h := parseMethod_fst tag now p l
    simp only [probeAuthLoop, authLoop, authLine, authReads]
    generalize parseMethod tag now p l = r at h ⊢
    obtain ⟨b, q⟩ := r
    subst h
    cases hv : callsSendVersion l <;> cases hh : handles tag l <;>
      simp [hv, hh, probeAuthLoop_eq now q ls]

end

/-- The upstream's answer to `mining.authorize` with id 1. -/
def authAnswer (ok : Bool) : Incoming :=
  { msg := some (.obj [("id", .int 1), ("result", .bool ok), ("error", .null)]) }

/-- An upstream that answers another request, such as a share submitted during a reconnect,
before it rejects the authorisation. -/
def otherAnswerFirst : List Incoming :=
  [{ msg := some (.obj [("id", .int 7), ("result", .bool true), ("error", .null)]) },
   { msg := some (.obj [("id", .int 1), ("result", .bool false), ("error", .null)]) }]

/-- A `mining.set_extranonce` push, a method `parse_method` does not know. -/
def extranoncePush : Incoming :=
  { msg := some (.obj [("id", .null), ("method", .str "mining.set_extranonce"),
      ("params", .arr [.str "08000003", .int 4])]) }

/-- A `client.get_version` request from the upstream. -/
def versionPush : Incoming :=
  { msg := some (.obj [("id", .int 9), ("method", .str "client.get_version"), ("params", .arr [])]) }

end CkpoolGenerator.Method
