import CkpoolGenerator.Threads

/-!
# The receive thread runs `reconnect_stratum`

`reconnectStratum` is `reconnect_stratum` as one function of the upstream's part in each
pass of its retry loop; the receive thread's steps `stall`, `attempt`, `authLine` and
`authFail` are the same code cut at its reads. The two agree: the instances in which a failed
read leaves the receive thread when it is back at the head of its loop are exactly the results
of `reconnectStratum` on the tries the upstream could answer with.
-/

namespace CkpoolGenerator.ReconnectRun

open Relation
open CkpoolGenerator.Instance CkpoolGenerator.Notify CkpoolGenerator.Method
  CkpoolGenerator.Reconnect CkpoolGenerator.Threads

/-- A step of the receive thread inside `reconnect_stratum`: the failed read that enters it,
or a step of its retry loop. -/
def ReconnectStep (tag : String) (s s' : World) : Prop :=
  RecvStep tag s s' ∧
    (s.recv = .reading ∧ s'.recv = .reconnecting ∨ s.recv = .reconnecting ∨ s.recv = .authorising)

section

variable (tag : String) (now : Int)

/-- What `reconnect_stratum` returns from a point of its retry loop, given the tries left and,
inside `auth_stratum`, the lines left to read. -/
def loopRest : RecvPc → ProxyInstance → List ReconnectTry → List Incoming → Option ProxyInstance
  | .reconnecting, p, tries, _ => reconnectLoop tag now p tries
  | .authorising, p, tries, lines =>
    match authLoop tag now p lines with
    | (true, q) => some q
    | (false, q) => reconnectLoop tag now q tries
  | .top, p, _, _ | .ageing _, p, _, _ | .reading, p, _, _ => some p

/-- The pass of the retry loop that an attempt starts. -/
theorem loopRest_attempt (p : ProxyInstance) (a : Attempt) (lines : List Incoming)
    (tries : List ReconnectTry) :
    reconnectLoop tag now p (⟨a, lines⟩ :: tries) =
      loopRest tag now (if (startAttempt tag p a).1 then .authorising else .reconnecting)
        (startAttempt tag p a).2 tries lines := by
  unfold reconnectLoop
  split <;> next q heq => rw [heq]; rfl

/-- The read loop of `auth_stratum` after one line. -/
theorem loopRest_authLine (p : ProxyInstance) (l : Incoming) (tries : List ReconnectTry)
    (lines : List Incoming) :
    loopRest tag now .authorising p tries (l :: lines) =
      loopRest tag now
        (match (authLine tag now p l).1 with
          | none => .authorising
          | some true => .top
          | some false => .reconnecting)
        (authLine tag now p l).2 tries lines := by
  simp only [loopRest, authLoop]
  rcases authLine tag now p l with ⟨_ | _ | _, q⟩ <;> rfl

end

/-- One step of the retry loop stays in it or returns to the head of the receive loop, and
leaves what `reconnect_stratum` can still return the same, for the try or the line the step
has consumed. -/
theorem loopRest_step {tag : String} {t t' : World} (h : RecvStep tag t t')
    (ht : t.recv = .reconnecting ∨ t.recv = .authorising) (tries : List ReconnectTry)
    (lines : List Incoming) :
    t'.recv ≠ .reading ∧ ∃ tries' lines', loopRest tag t.now t.recv t.proxi tries' lines' =
      loopRest tag t'.now t'.recv t'.proxi tries lines := by
  cases h with
  | attempt a h1 =>
    exact ⟨by dsimp only; split <;> nofun,
      ⟨a, lines⟩ :: tries, [], by rw [h1]; exact loopRest_attempt tag _ _ a _ _⟩
  | authLine l h1 =>
    exact ⟨by dsimp only; split <;> nofun,
      tries, l :: lines, by rw [h1]; exact loopRest_authLine tag _ _ l _ _⟩
  | authFail h1 => exact ⟨nofun, tries, [], by rw [h1]; rfl⟩
  | ageNotify h1 | ageShares h1 | line _ h1 | stall h1 =>
    rcases ht with ht | ht <;> rw [ht] at h1 <;> cases h1

/-- Every run of the retry loop that reaches the head of the receive loop returns what
`reconnect_stratum` returns on some tries. -/
theorem loopRest_of_steps {tag : String} {t s' : World} (h : ReflTransGen (ReconnectStep tag) t s')
    (ht : t.recv ≠ .reading) (hs' : s'.recv = .top) :
    ∃ tries lines, loopRest tag t.now t.recv t.proxi tries lines = some s'.proxi := by
  induction h using ReflTransGen.head_induction_on with
  | refl => exact ⟨[], [], by rw [hs']; rfl⟩
  | @head a c hst hrest ih =>
    obtain ⟨hst, hpc⟩ := hst
    have hloop : a.recv = .reconnecting ∨ a.recv = .authorising := hpc.resolve_left fun h => ht h.1
    obtain ⟨tries, lines, e⟩ := ih (loopRest_step hst hloop [] []).1
    obtain ⟨-, tries', lines', e'⟩ := loopRest_step hst hloop tries lines
    exact ⟨tries', lines', e'.trans e⟩

/-- The receive thread can reach each result of `auth_stratum`'s read loop, and from there
each result of the tries left, given that it can reach those. -/
theorem steps_of_authLoop {tag : String} {tries : List ReconnectTry}
    (hrest : ∀ t : World, t.recv = .reconnecting → ∀ q, reconnectLoop tag t.now t.proxi tries = some q →
      ∃ s', ReflTransGen (ReconnectStep tag) t s' ∧ s'.recv = .top ∧ s'.proxi = q) :
    ∀ (lines : List Incoming) (t : World), t.recv = .authorising → ∀ q,
      loopRest tag t.now .authorising t.proxi tries lines = some q →
      ∃ s', ReflTransGen (ReconnectStep tag) t s' ∧ s'.recv = .top ∧ s'.proxi = q
  | [], t, ht, q, h =>
    let ⟨s', hr, hs', hq⟩ := hrest { t with recv := .reconnecting } rfl q h
    ⟨s', .head ⟨.authFail ht, .inr (.inr ht)⟩ hr, hs', hq⟩
  | l :: ls, t, ht, q, h => by
    obtain ⟨t', hs, hn, hr, hp⟩ : ∃ t', ReconnectStep tag t t' ∧ t'.now = t.now ∧
        t'.recv = (match (authLine tag t.now t.proxi l).1 with
          | none => .authorising
          | some true => .top
          | some false => .reconnecting) ∧
        t'.proxi = (authLine tag t.now t.proxi l).2 :=
      ⟨_, ⟨.authLine l ht, .inr (.inr ht)⟩, rfl, rfl, rfl⟩
    rw [loopRest_authLine, ← hp, ← hr, ← hn] at h
    rcases hres : (authLine tag t.now t.proxi l).1 with _ | ⟨_ | _⟩ <;> rw [hres] at hr <;> rw [hr] at h
    · obtain ⟨s', hr', hs', hq⟩ := steps_of_authLoop hrest ls t' hr q h
      exact ⟨s', .head hs hr', hs', hq⟩
    · obtain ⟨s', hr', hs', hq⟩ := hrest t' hr q h
      exact ⟨s', .head hs hr', hs', hq⟩
    · exact ⟨t', .single hs, hr, Option.some.inj h⟩

/-- The receive thread can reach each result of the retry loop. -/
theorem steps_of_reconnectLoop {tag : String} :
    ∀ (tries : List ReconnectTry) (t : World), t.recv = .reconnecting → ∀ q,
      reconnectLoop tag t.now t.proxi tries = some q →
      ∃ s', ReflTransGen (ReconnectStep tag) t s' ∧ s'.recv = .top ∧ s'.proxi = q
  | [], _, _, _, h => nomatch h
  | ⟨a, lines⟩ :: rs, t, ht, q, h => by
    obtain ⟨t', hs, hn, hr, hp⟩ : ∃ t', ReconnectStep tag t t' ∧ t'.now = t.now ∧
        t'.recv = (if (startAttempt tag t.proxi a).1 then .authorising else .reconnecting) ∧
        t'.proxi = (startAttempt tag t.proxi a).2 :=
      ⟨_, ⟨.attempt a ht, .inr (.inl ht)⟩, rfl, rfl, rfl⟩
    rw [loopRest_attempt, ← hp, ← hr, ← hn] at h
    cases hok : (startAttempt tag t.proxi a).1
    · rw [hok, if_neg Bool.false_ne_true] at hr
      rw [hr] at h
      obtain ⟨s', hr', hs', hq⟩ := steps_of_reconnectLoop rs t' hr q h
      exact ⟨s', .head hs hr', hs', hq⟩
    · rw [hok, if_pos rfl] at hr
      rw [hr] at h
      obtain ⟨s', hr', hs', hq⟩ := steps_of_authLoop (steps_of_reconnectLoop rs) lines t' hr q h
      exact ⟨s', .head hs hr', hs', hq⟩

/-- From a failed read, the instances in which the receive thread's steps through
`reconnect_stratum` bring it back to the head of its loop are exactly the results of
`reconnectStratum`, over every sequence of connect, subscribe, authorise and read outcomes of
the upstream. -/
theorem reconnect_steps_refine {tag : String} {s : World} (hs : s.recv = .reading)
    (q : ProxyInstance) :
    (∃ tries, reconnectStratum tag s.now s.proxi tries = some q) ↔
      ∃ s', ReflTransGen (ReconnectStep tag) s s' ∧ s'.recv = .top ∧ s'.proxi = q := by
  constructor
  · rintro ⟨tries, h⟩
    obtain ⟨s', hr, hs', hq⟩ := steps_of_reconnectLoop tries { s with
      proxi := flushNotify s.proxi, recv := .reconnecting } rfl q h
    exact ⟨s', .head ⟨.stall hs, .inl ⟨hs, rfl⟩⟩ hr, hs', hq⟩
  · rintro ⟨s', hr, hs', rfl⟩
    rcases hr.cases_head with e | ⟨t, ⟨hst, hpc⟩, hrest⟩
    · rw [← e, hs] at hs'; cases hs'
    have ht : t.recv = .reconnecting := (hpc.resolve_right (by rw [hs]; nofun)).2
    cases hst with
    | stall _ =>
      obtain ⟨tries, lines, e⟩ := loopRest_of_steps hrest (by rw [ht]; nofun) hs'
      exact ⟨tries, e⟩
    | line _ _ => cases ht
    | ageNotify h1 | ageShares h1 | attempt _ h1 | authLine _ h1 | authFail h1 =>
      rw [hs] at h1; cases h1

/-- The tries of `staleTries`, from a read that fails on the zeroed instance. -/
theorem reconnect_steps_refine_stale :
    ∃ q, reconnectStratum "ckpool" 0 {} staleTries = some q ∧
      ({ World.start {} 0 with recv := .reading } : World).recv = .reading ∧
      ((∃ tries, reconnectStratum "ckpool" 0 {} tries = some q) ↔
        ∃ s', ReflTransGen (ReconnectStep "ckpool") { World.start {} 0 with recv := .reading } s' ∧
          s'.recv = .top ∧ s'.proxi = q) :=
  ⟨_, rfl, rfl, reconnect_steps_refine (s := { World.start {} 0 with recv := .reading }) rfl _⟩

end CkpoolGenerator.ReconnectRun
