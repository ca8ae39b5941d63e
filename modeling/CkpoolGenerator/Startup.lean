import Mathlib.Data.List.Nodup
import CkpoolGenerator.Threads

/-!
# Choosing a server, and releasing them all

`server_mode` and `proxy_mode` probe every configured server, run the generator on one that
answered, and release every server record at `out`. Both pick the server and release the
records with loops of the shape `for (i = 0; i < n; si = servers[i], i++)`, whose body sees
the `si` the loop starts with before it sees `servers[0]`. The probe loop, which assigns `si`
on every pass, leaves it at the last server, and the selection loop leaves it at the server
it picked, so each later loop looks at that server first and at `servers[n - 1]` not at all.

What a bitcoind answers to the probes of `server_mode` (`extract_sockaddr`, `http_base64`,
`connect_socket`, `gen_gbtbase`, `validate_address`) is an input here: a list of which
servers passed. The probe of `proxy_mode` is `proxySetup`, once the URL has been parsed.
-/

namespace CkpoolGenerator.Startup

open CkpoolGenerator.Instance CkpoolGenerator.Method CkpoolGenerator.Reconnect CkpoolGenerator.Threads

/-- The values of `si` that the body of `for (i = 0; i < n; si = servers[i], i++)` sees,
from the `si` the loop starts with, over the values `i` takes. -/
def sweep (si : Nat) : List Nat → List Nat
  | [] => []
  | i :: is => si :: sweep i is

/-- `for (i = 0; i < n; si = servers[i], i++) if (si->alive) break;`: the server `si` is left
at. -/
def selectAlive (alive : Nat → Bool) (si : Nat) : List Nat → Nat
  | [] => si
  | i :: is => if alive si then si else selectAlive alive i is

/-- What both modes do once the probe loop has run: the server the generator runs on (`none`
when no server is alive and the mode goes to `out`), and the server records the teardown at
`out` releases, in order. The probe loop leaves `si` at `servers[n - 1]`; when `n = 0` no
later loop reads it. -/
def startup (alive : List Bool) : Option Nat × List Nat :=
  let n := alive.length
  let si := n - 1
  if alive.count true = 0 then (none, sweep si (List.range n))
  else
    let si := selectAlive (fun i => alive.getD i false) si (List.range n)
    (some si, sweep si (List.range n))

/-- `server_mode`: `gen_loop` serves the chosen bitcoind. -/
def serverMode (alive : List Bool) : Option Nat × List Nat := startup alive

/-- One configured upstream of `proxy_mode`: its credentials, and the upstream's part in its
probe; `none` when `extract_sockaddr` cannot parse its URL. -/
structure Upstream where
  auth : String
  pass : String
  setup : Option Setup

/-- The probe of `proxy_mode` got as far as allocating the instance `si->data`: the URL
parsed and `connect_proxy` succeeded. -/
def Upstream.hasData (u : Upstream) : Bool :=
  match u.setup with
  | some s => s.connected
  | none => false

/-- The upstream subscribed and authorised, and `si->alive` is set. -/
def Upstream.alive (tag : String) (u : Upstream) : Bool :=
  match u.setup with
  | some s => (proxySetup tag u.auth u.pass s).isSome
  | none => false

/-- The probe of one configured upstream: `none` when it crashes the process, else whether it
sets `si->alive`. -/
def Upstream.probe (tag : String) (u : Upstream) : Option Bool :=
  match u.setup with
  | some s =>
    match proxyProbe tag u.auth u.pass s with
    | .alive _ => some true
    | .failed => some false
    | .crashed => none
  | none => some false

/-- The probe loop of `proxy_mode`, over every configured upstream in order: `none` when a probe
crashes the process, else the `si->alive` flags it leaves. -/
def probeLoop (tag : String) : List Upstream → Option (List Bool)
  | [] => some []
  | u :: us =>
    match u.probe tag, probeLoop tag us with
    | some b, some bs => some (b :: bs)
    | _, _ => none

/-- `proxy_mode` once its probe loop has run to the end: the chosen upstream's instance goes to
`proxy_loop` and its two threads; the teardown reads `si->data` of every record it visits. -/
def proxyMode (tag : String) (ups : List Upstream) : Option Nat × List Nat :=
  startup (ups.map (Upstream.alive tag))

theorem Upstream.probe_alive {tag : String} {u : Upstream} {b : Bool} (h : u.probe tag = some b) :
    u.alive tag = b := by
  unfold Upstream.probe at h
  unfold Upstream.alive
  cases hs : u.setup with
  | none => rw [hs] at h; cases h; rfl
  | some s =>
    unfold proxySetup
    cases hp : proxyProbe tag u.auth u.pass s <;> simp only [hs, hp] at h <;> simp_all

/-- A probe loop that runs to its end leaves the flags `Upstream.alive` reads. -/
theorem probeLoop_alive {tag : String} : ∀ {ups : List Upstream} {alive : List Bool},
    probeLoop tag ups = some alive → ups.map (Upstream.alive tag) = alive
  | [], alive, h => by cases h; rfl
  | u :: us, alive, h => by
    unfold probeLoop at h
    split at h
    next b bs hb hbs =>
      cases h
      rw [List.map_cons, Upstream.probe_alive hb, probeLoop_alive hbs]
    · cases h

/-- The body of a sweep sees the starting `si`, then every value of `i` but the last. -/
theorem sweep_append (si x : Nat) (l : List Nat) : sweep si (l ++ [x]) = si :: l := by
  induction l generalizing si with
  | nil => rfl
  | cons i is ih => rw [List.cons_append, sweep, ih]

/-- The selection loop tests what a sweep visits, in order, and stops at the last value of `i`
when none passes. -/
theorem selectAlive_append (alive : Nat → Bool) (si x : Nat) (l : List Nat) :
    selectAlive alive si (l ++ [x]) = ((si :: l).find? alive).getD x := by
  induction l generalizing si with
  | nil => by_cases h : alive si <;> simp [selectAlive, h]
  | cons i is ih => by_cases h : alive si <;> simp [selectAlive, h, ih]

section

variable (alive : List Bool)

/-- Once the probes have run, the server tested first is the last one. -/
theorem startup_eq (m : Nat) (hm : alive.length = m + 1) :
    startup alive =
      if alive.count true = 0 then (none, m :: List.range m)
      else (some (((m :: List.range m).find? fun i => alive.getD i false).getD m),
        (((m :: List.range m).find? fun i => alive.getD i false).getD m) :: List.range m) := by
  simp only [startup, hm, Nat.add_sub_cancel, List.range_succ, sweep_append, selectAlive_append]

/-- The teardown visits the server the generator ran on (the last one when none did), then
every server but the last. -/
theorem startup_visits (m : Nat) (hm : alive.length = m + 1) :
    (startup alive).2 = (startup alive).1.getD m :: List.range m := by
  rw [startup_eq alive m hm]
  split <;> rfl

/-- When some server passed its probe, the selection loop stops at one that passed. -/
theorem startup_chosen_alive (h : true ∈ alive) :
    ∃ j, (startup alive).1 = some j ∧ alive[j]? = some true := by
  obtain ⟨xs, b, rfl⟩ : ∃ xs b, alive = xs ++ [b] := by
    rcases List.eq_nil_or_concat alive with rfl | ⟨xs, b, rfl⟩
    · cases h
    · exact ⟨xs, b, List.concat_eq_append _ _⟩
  have alive_of (c : Nat) (hc : (xs ++ [b]).getD c false = true) : (xs ++ [b])[c]? = some true := by
    rw [List.getD_eq_getElem?_getD] at hc
    revert hc; cases (xs ++ [b])[c]? <;> simp
  obtain ⟨k, hk, hxk⟩ := List.getElem_of_mem h
  have hsome : ((xs.length :: List.range xs.length).find? fun i => (xs ++ [b]).getD i false).isSome :=
    List.find?_isSome.2 ⟨k, by simp at hk ⊢; omega,
      by simp [List.getD_eq_getElem?_getD, List.getElem?_eq_getElem hk, hxk]⟩
  obtain ⟨j, hj⟩ := Option.isSome_iff_exists.1 hsome
  have hfj := List.find?_some hj
  refine ⟨j, ?_, alive_of j hfj⟩
  rw [startup_eq _ xs.length (by simp), if_neg (List.count_pos_iff.2 h).ne', hj]
  rfl

/-- When the last configured server passes its probe, both modes run the generator on it,
whichever others pass: the selection loop tests the `si` that the probe loop left before it
reads `servers[0]`. -/
theorem startup_runs_last_server (h : alive.getLast? = some true) :
    (serverMode alive).1 = some (alive.length - 1) ∧
      ∀ (tag : String) (ups : List Upstream), ups.map (Upstream.alive tag) = alive →
        (proxyMode tag ups).1 = some (alive.length - 1) := by
  obtain ⟨xs, rfl⟩ := List.getLast?_eq_some_iff.1 h
  have hrun : (startup (xs ++ [true])).1 = some xs.length := by
    rw [startup_eq _ xs.length (by simp), if_neg (by simp)]
    simp
  refine ⟨hrun.trans (by simp), fun tag ups hups => ?_⟩
  rw [proxyMode, hups, hrun]
  simp

/-- Two bitcoinds or two upstreams that both pass their probes: the generator runs on the
second. -/
theorem startup_runs_last_of_two :
    [true, true].getLast? = some true ∧ (serverMode [true, true]).1 = some 1 ∧
      ∀ (tag : String) (ups : List Upstream), ups.map (Upstream.alive tag) = [true, true] →
        (proxyMode tag ups).1 = some 1 :=
  ⟨rfl, startup_runs_last_server [true, true] rfl⟩

/-- When the last server fails its probe and another passes, the generator runs on an
earlier server `j`, and the teardown at `out` releases `j` twice and never releases the last
record. Whatever the probes found, the teardown of `proxy_mode` also visits every server
before the last, and reads `enonce1` through its `si->data` even when the probe of that
server never allocated one. -/
theorem teardown_releases_chosen_twice (hlast : alive.getLast? = some false) (hsome : true ∈ alive) :
    (∃ j, j + 1 < alive.length ∧ (serverMode alive).1 = some j ∧
      (serverMode alive).2.count j = 2 ∧ alive.length - 1 ∉ (serverMode alive).2 ∧
      ∀ (tag : String) (ups : List Upstream), ups.map (Upstream.alive tag) = alive →
        (proxyMode tag ups).1 = some j ∧ (proxyMode tag ups).2 = (serverMode alive).2) ∧
    ∀ (tag : String) (ups : List Upstream) (k : Nat) (u : Upstream), ups[k]? = some u →
      k + 1 < ups.length → u.hasData = false → k ∈ (proxyMode tag ups).2 := by
  refine ⟨?_, fun tag ups k u _ hk _ => ?_⟩
  · obtain ⟨j, hj, hja⟩ := startup_chosen_alive alive hsome
    obtain ⟨xs, rfl⟩ := List.getLast?_eq_some_iff.1 hlast
    have hjm : j < xs.length := by
      obtain ⟨hjl, hjv⟩ := List.getElem?_eq_some_iff.1 hja
      refine Nat.lt_of_not_le fun hge => ?_
      simp [List.getElem_append_right hge] at hjv
    have e : (serverMode (xs ++ [false])).2 = j :: List.range xs.length := by
      rw [serverMode, startup_visits _ xs.length (by simp), hj]; rfl
    refine ⟨j, by simp; omega, hj, ?_, by rw [e]; simp; omega, fun tag ups hups => ?_⟩
    · rw [e, List.count_cons_self, List.count_eq_one_of_mem (List.nodup_range _) (List.mem_range.2 hjm)]
    · rw [proxyMode, hups]; exact ⟨hj, rfl⟩
  · rw [proxyMode, startup_visits _ (ups.length - 1) (by simp; omega)]
    exact List.mem_cons_of_mem _ (List.mem_range.2 (by omega))

/-- Two bitcoinds, or two upstreams, of which only the first passes its probe: both modes
release the first record twice and never the second. -/
theorem teardown_releases_first_of_two_twice :
    ([true, false].getLast? = some false ∧ true ∈ [true, false]) ∧
    (∃ j, j + 1 < [true, false].length ∧ (serverMode [true, false]).1 = some j ∧
      (serverMode [true, false]).2.count j = 2 ∧ [true, false].length - 1 ∉ (serverMode [true, false]).2 ∧
      ∀ (tag : String) (ups : List Upstream), ups.map (Upstream.alive tag) = [true, false] →
        (proxyMode tag ups).1 = some j ∧ (proxyMode tag ups).2 = (serverMode [true, false]).2) ∧
    ∀ (tag : String) (ups : List Upstream) (k : Nat) (u : Upstream), ups[k]? = some u →
      k + 1 < ups.length → u.hasData = false → k ∈ (proxyMode tag ups).2 :=
  ⟨⟨rfl, by decide⟩, teardown_releases_chosen_twice [true, false] rfl (by decide)⟩

/-- An upstream that sends `client.get_version` before it authorises crashes the probe loop,
whichever upstreams come before it: `proxy_mode` never reaches `proxy_loop`. -/
example : probeLoop "ckpool" [⟨"user", "pass", some quietSetup⟩,
    ⟨"user", "pass", some ⟨0, true, [subscribeOk], true, [versionPush, authAnswer true]⟩⟩] = none := rfl

end

end CkpoolGenerator.Startup
