import CkpoolGenerator.Instance

/-!
# The notification cache

`parse_notify` decodes the params of a `mining.notify` and links the new entry under
`notify_lock`, where it takes the next local id and becomes `current_notify`. The receive
loop ages the table, `reconnect_stratum` flushes it, and `send_notify` hands the current
entry to the stratifier.

The copies into the fixed-width fields copy bytes. They are also listed as `Memcpy` records, so
that whether each stays inside its source string and its destination row is a statement about
the model.
-/

namespace CkpoolGenerator.Notify

open CkpoolGenerator.Jansson CkpoolGenerator.Instance

/-- Modelled from the spec: `__json_array_string` of libckpool, which the source calls but
does not contain. The string at `entry` of an array, `NULL` when the entry is missing or is
not a string (§4.8: an absent field is a decode failure). -/
def jsonArrayString (val : Option Json) (entry : Nat) : Option String :=
  jsonStringValue (jsonArrayGet val entry)

/-- The first `n` bytes of a C string, as characters: those whose bytes the `n` take whole, up
to the first NUL; `none` when the `n`-th byte falls inside a character. -/
def cutBytes : Nat → List Char → Option (List Char)
  | _, [] => some []
  | n, c :: cs =>
    if c = '\x00' ∨ n = 0 then some []
    else if c.utf8Size ≤ n then (cutBytes (n - c.utf8Size) cs).map (c :: ·)
    else none

/-- What a zeroed `char` row holds after `memcpy` of `n` bytes from the C string `s`, read back
as a jansson string: `none` when the row ends inside a UTF-8 sequence. A copy longer than `s`
and its terminator reads past them, which `Memcpy.inBounds` rules out, and still leaves `s`. -/
def fixedCopy (n : Nat) (s : String) : Option String := (cutBytes n s.data).map String.mk

/-- The fields of a `mining.notify` params array, once all seven strings are there. -/
structure NotifyParams where
  merkleArr : List Json
  jobId : String
  prevHash : String
  coinbase1 : String
  coinbase2 : String
  bbversion : String
  nbit : String
  ntime : String
  clean : Bool

/-- The checks of `parse_notify`: `params[4]` an array, the seven string fields present. -/
def notifyParams (val : Option Json) : Option NotifyParams :=
  match jsonArrayGet val 4 with
  | some (.arr arr) =>
    match jsonArrayString val 0, jsonArrayString val 1, jsonArrayString val 2,
      jsonArrayString val 3, jsonArrayString val 5, jsonArrayString val 6, jsonArrayString val 7 with
    | some j, some ph, some c1, some c2, some bv, some nb, some nt =>
      some ⟨arr, j, ph, c1, c2, bv, nb, nt, jsonIsTrue (jsonArrayGet val 8)⟩
    | _, _, _, _, _, _, _ => none
  | _ => none

/-- The entry `parse_notify` fills in. A Merkle entry that is not a string is read as empty
here, where the code copies from the `NULL` that `__json_array_string` returns. -/
def decodeNotify (now : Int) (id : Nat) (np : NotifyParams) : NotifyInstance where
  id := id
  prevhash := fixedCopy 65 np.prevHash
  jobid := np.jobId
  coinbase1 := np.coinbase1
  coinbase2 := np.coinbase2
  merkles := np.merkleArr.length
  merklehash := np.merkleArr.map fun m => fixedCopy 65 ((jsonStringValue (some m)).getD "")
  nbit := fixedCopy 9 np.nbit
  ntime := fixedCopy 9 np.ntime
  bbversion := fixedCopy 9 np.bbversion
  clean := np.clean
  notifyTime := now
  merkles_eq := by simp

/-- The critical section of `parse_notify`: the entry takes the next local id, joins the
table and becomes `current_notify`. -/
def linkNotify (p : ProxyInstance) (ni : NotifyInstance) : ProxyInstance :=
  { p with notifyId := p.notifyId + 1, notifyInstances := p.notifyInstances ++ [ni],
           currentNotify := some ni }

/-- The flush at the start of `reconnect_stratum`: every entry is deleted and freed, and
`current_notify` is left as it was. -/
def flushNotify (p : ProxyInstance) : ProxyInstance := { p with notifyInstances := [] }

def parseNotify (now : Int) (p : ProxyInstance) (val : Option Json) : Bool × ProxyInstance :=
  match notifyParams val with
  | none => (false, p)
  | some np => (true, linkNotify p (decodeNotify now p.notifyId np))

/-- The notification-ageing pass of `proxy_recv`: entries in insertion order; the pass stops
once fewer than three remain (`count` is `HASH_COUNT`) and deletes those more than ten
minutes old. -/
def ageNotify (now : Int) : Nat → List NotifyInstance → List NotifyInstance
  | _, [] => []
  | count, ni :: rest =>
    if count < 3 then ni :: rest
    else if ni.notifyTime < now - 600 then ageNotify now (count - 1) rest
    else ni :: ageNotify now count rest

def ageNotifyInstances (now : Int) (p : ProxyInstance) : ProxyInstance :=
  { p with notifyInstances := ageNotify now p.notifyInstances.length p.notifyInstances }

/-- What a call may do to the fields `notify_lock` guards: leave them, or link one entry under
the next local id. -/
def Links (p q : ProxyInstance) : Prop :=
  q.notifyState = p.notifyState ∨
    ∃ ni : NotifyInstance, ni.id = p.notifyId ∧ q.notifyState = (linkNotify p ni).notifyState

theorem ageNotify_sublist (now : Int) :
    ∀ (count : Nat) (l : List NotifyInstance), (ageNotify now count l).Sublist l
  | _, [] => .slnil
  | count, ni :: rest => by
    unfold ageNotify
    split
    · exact .refl _
    split
    · exact (ageNotify_sublist now (count - 1) rest).cons ni
    · exact (ageNotify_sublist now count rest).cons₂ ni

/-- The entries one pass may take: older than ten minutes. -/
def stale (now : Int) (ni : NotifyInstance) : Bool := decide (ni.notifyTime < now - 600)

/-- A pass over entries none of which is stale keeps them all, whatever the count. -/
theorem ageNotify_of_fresh (now : Int) :
    ∀ (count : Nat) (l : List NotifyInstance), (∀ ni ∈ l, stale now ni = false) →
      ageNotify now count l = l
  | _, [], _ => rfl
  | count, ni :: rest, h => by
    have hni : ¬ ni.notifyTime < now - 600 := by simpa [stale] using h ni (List.mem_cons_self _ _)
    have hr := ageNotify_of_fresh now count rest fun m hm => h m (List.mem_cons_of_mem _ hm)
    unfold ageNotify
    split <;> simp only [if_neg hni, hr]

/-- Ten notifications one second apart, the last inserted at time 9. -/
def tenJobs : List NotifyInstance :=
  (List.range 10).map fun i => ⟨i, none, toString i, "", "", 0, [], none, none, none, false, i, rfl⟩

/-- With the entries' times nondecreasing in insertion order, the stale ones form a prefix, and
one pass deletes them from the oldest on until two entries are left: it keeps every entry
that is not stale, and never fewer than two. -/
theorem age_notify_law (now : Int) (p : ProxyInstance)
    (hs : p.notifyInstances.Pairwise fun a b => a.notifyTime ≤ b.notifyTime) :
    (ageNotifyInstances now p).notifyInstances =
      p.notifyInstances.drop (min (p.notifyInstances.countP (stale now)) (p.notifyInstances.length - 2)) := by
  show ageNotify now p.notifyInstances.length p.notifyInstances = _
  generalize p.notifyInstances = l at hs ⊢
  induction l with
  | nil => rfl
  | cons ni rest ih =>
    obtain ⟨hle, hrest⟩ := List.pairwise_cons.1 hs
    simp only [ageNotify, List.length_cons]
    split
    · rw [Nat.sub_eq_zero_of_le (by omega), Nat.min_zero, List.drop_zero]
    split
    next hold =>
      have hni : stale now ni = true := by simpa [stale] using hold
      rw [Nat.add_sub_cancel, ih hrest, List.countP_cons_of_pos _ _ hni,
        show rest.length + 1 - 2 = rest.length - 2 + 1 by omega, Nat.succ_min_succ, List.drop_succ_cons]
    next hyoung =>
      have hfresh : ∀ m ∈ rest, stale now m = false := fun m hm => by
        have := hle m hm
        simp only [stale, decide_eq_false_iff_not]
        omega
      have hni : stale now ni = false := by simpa [stale] using hyoung
      rw [ageNotify_of_fresh now _ rest hfresh, List.countP_cons_of_neg _ _ (by simp [hni]),
        List.countP_eq_zero.2 fun m hm => by simp [hfresh m hm]]
      simp

/-- At time 605, the five of the ten inserted before time 5 are more than ten minutes old, and
go. -/
theorem age_notify_law_ten :
    tenJobs.Pairwise (fun a b => a.notifyTime ≤ b.notifyTime) ∧
      (ageNotifyInstances 605 { notifyInstances := tenJobs }).notifyInstances.map (·.id) = [5, 6, 7, 8, 9] :=
  have hs : tenJobs.Pairwise (fun a b => a.notifyTime ≤ b.notifyTime) := by decide
  ⟨hs, by rw [age_notify_law 605 { notifyInstances := tenJobs } hs]; rfl⟩

/-- The rule one ageing pass follows on a table whose times are nondecreasing, from the oldest
entry on: an entry goes when it is more than ten minutes old and at least two younger entries
follow it. -/
def reapWithYounger (now : Int) : List NotifyInstance → List NotifyInstance
  | [] => []
  | ni :: rest =>
    if stale now ni = true ∧ 2 ≤ rest.length then reapWithYounger now rest
    else ni :: reapWithYounger now rest

theorem reapWithYounger_short (now : Int) : ∀ l : List NotifyInstance, l.length ≤ 2 →
    reapWithYounger now l = l
  | [], _ => rfl
  | ni :: rest, h => by
    simp only [List.length_cons] at h
    rw [reapWithYounger, if_neg (by omega), reapWithYounger_short now rest (by omega)]

theorem reapWithYounger_of_fresh (now : Int) : ∀ l : List NotifyInstance,
    (∀ ni ∈ l, stale now ni = false) → reapWithYounger now l = l
  | [], _ => rfl
  | ni :: rest, h => by
    rw [reapWithYounger, if_neg (by simp [h ni (List.mem_cons_self _ _)]),
      reapWithYounger_of_fresh now rest fun m hm => h m (List.mem_cons_of_mem _ hm)]

/-- With the entries' times nondecreasing in insertion order, one ageing pass removes exactly
the entries more than ten minutes old that have at least two younger entries in the table, and
keeps every other: the two newest always survive and a table of two is never aged, but an old
entry with exactly two younger ones goes. -/
theorem age_notify_reaps_two_younger (now : Int) (p : ProxyInstance)
    (hs : p.notifyInstances.Pairwise fun a b => a.notifyTime ≤ b.notifyTime) :
    (ageNotifyInstances now p).notifyInstances = reapWithYounger now p.notifyInstances := by
  show ageNotify now p.notifyInstances.length p.notifyInstances = _
  generalize p.notifyInstances = l at hs ⊢
  induction l with
  | nil => rfl
  | cons ni rest ih =>
    obtain ⟨hle, hrest⟩ := List.pairwise_cons.1 hs
    simp only [ageNotify, List.length_cons]
    split
    · exact (reapWithYounger_short now _ (by simp; omega)).symm
    split
    next hold =>
      have hni : stale now ni = true := by simpa [stale] using hold
      rw [Nat.add_sub_cancel, ih hrest, reapWithYounger, if_pos ⟨hni, by omega⟩]
    next hyoung =>
      have hfresh : ∀ m ∈ rest, stale now m = false := fun m hm => by
        have := hle m hm
        simp only [stale, decide_eq_false_iff_not]
        omega
      have hni : stale now ni = false := by simpa [stale] using hyoung
      rw [ageNotify_of_fresh now _ rest hfresh, reapWithYounger, if_neg (by simp [hni]),
        reapWithYounger_of_fresh now rest hfresh]

/-- The spec's scenario: seven hundred seconds after the last of ten notifications inserted one
second apart. -/
theorem age_notify_reaps_two_younger_ten :
    tenJobs.Pairwise (fun a b => a.notifyTime ≤ b.notifyTime) ∧
      (ageNotifyInstances 709 { notifyInstances := tenJobs }).notifyInstances =
        reapWithYounger 709 ({ notifyInstances := tenJobs } : ProxyInstance).notifyInstances :=
  have hs : tenJobs.Pairwise (fun a b => a.notifyTime ≤ b.notifyTime) := by decide
  ⟨hs, age_notify_reaps_two_younger 709 { notifyInstances := tenJobs } hs⟩

/-- In that scenario every entry is more than ten minutes old, and the pass keeps two: the
entry with exactly two younger ones goes with the seven before it. -/
theorem age_notify_keeps_two_of_ten :
    (∀ ni ∈ tenJobs, ni.notifyTime < 709 - 600) ∧
      (ageNotifyInstances 709 { notifyInstances := tenJobs }).notifyInstances.map (·.id) = [8, 9] :=
  ⟨by decide, rfl⟩

/-- The reply of `send_notify`, with our local id in place of the upstream job id; `none`
stands for `current_notify` being `NULL`, which `send_notify` dereferences. A Merkle row that
is not a UTF-8 string makes `json_string` return `NULL`, which `json_array_append` skips; a
fixed-width field that is not makes `json_pack` fail, and `json_dumps` hands `send_unix_msg` a
`NULL` message (the inner `none`). -/
def sendNotify (p : ProxyInstance) : Option (Option Json) :=
  p.currentNotify.map fun ni =>
    match ni.prevhash, ni.bbversion, ni.nbit, ni.ntime with
    | some ph, some bv, some nb, some nt =>
      some (.obj [("jobid", .int ni.id), ("prevhash", .str ph), ("coinbase1", .str ni.coinbase1),
        ("coinbase2", .str ni.coinbase2), ("merklehash", .arr (ni.merklehash.filterMap (·.map .str))),
        ("bbversion", .str bv), ("nbit", .str nb), ("ntime", .str nt), ("clean", .bool ni.clean)])
    | _, _, _, _ => none

/-- One `memcpy` of `parse_notify`: `len` bytes from the C string `src` (`NULL` when absent)
into row `row` of a buffer of `rows` rows of `width` bytes. -/
structure Memcpy where
  src : Option String
  len : Nat
  row : Nat
  rows : Nat
  width : Nat

/-- The copy reads inside its source string, terminator included, and writes inside its
destination row. -/
def Memcpy.inBounds (c : Memcpy) : Prop :=
  (∃ s, c.src = some s ∧ c.len ≤ s.utf8ByteSize + 1) ∧ c.row < c.rows ∧ c.len ≤ c.width

/-- The copies `parse_notify` makes once its checks pass: `prevhash[68]`, the three
`char[12]` fields, and one row of `merklehash[16][68]` per entry of the Merkle array. -/
def notifyCopies (val : Option Json) : List Memcpy :=
  match notifyParams val with
  | none => []
  | some np =>
    [⟨some np.prevHash, 65, 0, 1, 68⟩, ⟨some np.bbversion, 9, 0, 1, 12⟩,
      ⟨some np.nbit, 9, 0, 1, 12⟩, ⟨some np.ntime, 9, 0, 1, 12⟩] ++
    (List.range np.merkleArr.length).map fun i =>
      ⟨jsonArrayString (some (.arr np.merkleArr)) i, 65, i, 16, 68⟩

deriving instance DecidableEq for Memcpy

/-- A hex digit. -/
def hexChar (c : Char) : Bool :=
  decide (48 ≤ c.toNat ∧ c.toNat ≤ 57 ∨ 97 ≤ c.toNat ∧ c.toNat ≤ 102 ∨ 65 ≤ c.toNat ∧ c.toNat ≤ 70)

/-- A hex field of §4.8: `n` hex digits. -/
def HexField (n : Nat) (s : String) : Prop := s.length = n ∧ ∀ c ∈ s.data, hexChar c = true

instance (n : Nat) (s : String) : Decidable (HexField n s) := inferInstanceAs (Decidable (_ ∧ _))

theorem utf8Size_of_hexChar {c : Char} (h : hexChar c = true) : c.utf8Size = 1 := by
  have hc : c.toNat ≤ 127 := by unfold hexChar at h; simp at h; omega
  unfold Char.utf8Size
  rw [if_pos]
  exact hc

theorem ne_nul_of_hexChar {c : Char} (h : hexChar c = true) : c ≠ '\x00' := by
  rintro rfl; revert h; decide

/-- A copy at least as long as a string of hex digits copies it whole. -/
theorem cutBytes_of_hex : ∀ {n : Nat} {cs : List Char}, (∀ c ∈ cs, hexChar c = true) →
    cs.length ≤ n → cutBytes n cs = some cs
  | _, [], _, _ => rfl
  | n, c :: cs, h, hl => by
    have hc := h c (List.mem_cons_self _ _)
    simp only [List.length_cons] at hl
    rw [cutBytes, if_neg (not_or.2 ⟨ne_nul_of_hexChar hc, by omega⟩), utf8Size_of_hexChar hc,
      if_pos (by omega), cutBytes_of_hex (fun d hd => h d (List.mem_cons_of_mem _ hd)) (by omega)]
    rfl

/-- A string of hex digits takes a byte a digit. -/
theorem utf8ByteSize_of_hex : ∀ {cs : List Char}, (∀ c ∈ cs, hexChar c = true) →
    String.utf8ByteSize.go cs = cs.length
  | [], _ => rfl
  | c :: cs, h => by
    show String.utf8ByteSize.go cs + c.utf8Size = cs.length + 1
    rw [utf8ByteSize_of_hex fun d hd => h d (List.mem_cons_of_mem _ hd),
      utf8Size_of_hexChar (h c (List.mem_cons_self _ _))]

theorem fixedCopy_of_hex {n m : Nat} {s : String} (h : HexField m s) (hm : m ≤ n) :
    fixedCopy n s = some s := by
  obtain ⟨cs⟩ := s
  obtain ⟨hl, hc⟩ := h
  have hl : cs.length = m := hl
  rw [fixedCopy, cutBytes_of_hex hc (hl ▸ hm)]
  rfl

/-- A copy from a hex field of `m` digits that takes at most the digits and the terminator, into
a row of the buffer. -/
theorem inBounds_of_hex {s : String} {m len row rows width : Nat} (h : HexField m s)
    (hl : len ≤ m + 1) (hr : row < rows) (hw : len ≤ width) :
    Memcpy.inBounds ⟨some s, len, row, rows, width⟩ := by
  obtain ⟨cs⟩ := s
  refine ⟨⟨⟨cs⟩, rfl, ?_⟩, hr, hw⟩
  have hm : cs.length = m := h.1
  show len ≤ String.utf8ByteSize.go cs + 1
  rw [utf8ByteSize_of_hex h.2, hm]
  exact hl

/-- The params of a `mining.notify`, in the order of §4.8. -/
def notifyArray (jobId prevHash coinbase1 coinbase2 : String) (merkles : List String)
    (bbversion nbit ntime : String) (clean : Bool) : Json :=
  .arr [.str jobId, .str prevHash, .str coinbase1, .str coinbase2, .arr (merkles.map .str),
    .str bbversion, .str nbit, .str ntime, .bool clean]

theorem notifyParams_notifyArray (jobId prevHash coinbase1 coinbase2 : String) (merkles : List String)
    (bbversion nbit ntime : String) (clean : Bool) :
    notifyParams (some (notifyArray jobId prevHash coinbase1 coinbase2 merkles bbversion nbit ntime clean)) =
      some ⟨merkles.map .str, jobId, prevHash, coinbase1, coinbase2, bbversion, nbit, ntime, clean⟩ := by
  cases clean <;> rfl

/-- Each copy `parse_notify` makes of a notification of §4.8 reads inside its source string,
terminator included, and writes inside its destination row. -/
theorem notifyCopies_of_hex {prevHash bbversion nbit ntime : String} {merkles : List String}
    (hph : HexField 64 prevHash) (hbv : HexField 8 bbversion) (hnb : HexField 8 nbit)
    (hnt : HexField 8 ntime) (hm : merkles.length ≤ 16) (hms : ∀ m ∈ merkles, HexField 64 m)
    (jobId coinbase1 coinbase2 : String) (clean : Bool) :
    ∀ c ∈ notifyCopies (some (notifyArray jobId prevHash coinbase1 coinbase2 merkles bbversion nbit
      ntime clean)), c.inBounds := by
  simp only [notifyCopies, notifyParams_notifyArray, List.length_map]
  intro c hc
  rcases List.mem_append.1 hc with hc | hc
  · simp only [List.mem_cons, List.mem_singleton, List.not_mem_nil, or_false] at hc
    rcases hc with rfl | rfl | rfl | rfl
    · exact inBounds_of_hex hph (by omega) Nat.zero_lt_one (by omega)
    · exact inBounds_of_hex hbv (by omega) Nat.zero_lt_one (by omega)
    · exact inBounds_of_hex hnb (by omega) Nat.zero_lt_one (by omega)
    · exact inBounds_of_hex hnt (by omega) Nat.zero_lt_one (by omega)
  · obtain ⟨i, hi, rfl⟩ := List.mem_map.1 hc
    have hi := List.mem_range.1 hi
    have hs : jsonArrayString (some (.arr (merkles.map .str))) i = some merkles[i] := by
      simp [jsonArrayString, jsonArrayGet, jsonStringValue, List.getElem?_eq_getElem hi]
    rw [hs]
    exact inBounds_of_hex (hms _ (List.getElem_mem hi)) (by omega) (by omega) (by omega)

/-- A `mining.notify` in the format of §4.8 survives `parse_notify` and `send_notify` unchanged,
under the local id `parse_notify` gave it, with the upstream job id cached under that id; each
of its fixed-width copies reads inside its source string, terminator included, and writes
inside its destination row. -/
theorem notify_round_trip (now : Int) (p : ProxyInstance)
    (jobId prevHash coinbase1 coinbase2 bbversion nbit ntime : String) (merkles : List String)
    (clean : Bool) (hph : HexField 64 prevHash) (hbv : HexField 8 bbversion)
    (hnb : HexField 8 nbit) (hnt : HexField 8 ntime) (hm : merkles.length ≤ 16)
    (hms : ∀ m ∈ merkles, HexField 64 m) :
    let val := notifyArray jobId prevHash coinbase1 coinbase2 merkles bbversion nbit ntime clean
    (parseNotify now p (some val)).1 = true ∧
      sendNotify (parseNotify now p (some val)).2 =
        some (some (.obj [("jobid", .int p.notifyId), ("prevhash", .str prevHash),
          ("coinbase1", .str coinbase1), ("coinbase2", .str coinbase2),
          ("merklehash", .arr (merkles.map .str)), ("bbversion", .str bbversion),
          ("nbit", .str nbit), ("ntime", .str ntime), ("clean", .bool clean)])) ∧
      (∃ ni ∈ (parseNotify now p (some val)).2.notifyInstances, ni.id = p.notifyId ∧ ni.jobid = jobId) ∧
      ∀ c ∈ notifyCopies (some val), c.inBounds := by
  have hrows : (merkles.map Json.str).map (fun m => fixedCopy 65 ((jsonStringValue (some m)).getD "")) =
      merkles.map some := by
    rw [List.map_map]
    exact List.map_congr_left fun m hm => fixedCopy_of_hex (hms m hm) (by omega)
  refine ⟨rfl, ?_, ⟨_, List.mem_append_right _ (List.mem_singleton_self _), rfl, rfl⟩,
    notifyCopies_of_hex hph hbv hnb hnt hm hms jobId coinbase1 coinbase2 clean⟩
  simp only [parseNotify, notifyParams_notifyArray, sendNotify, linkNotify, decodeNotify,
    Option.map_some', hrows, fixedCopy_of_hex hph (by omega : 64 ≤ 65),
    fixedCopy_of_hex hbv (by omega : 8 ≤ 9), fixedCopy_of_hex hnb (by omega : 8 ≤ 9),
    fixedCopy_of_hex hnt (by omega : 8 ≤ 9)]
  rw [List.filterMap_map, show ((fun x => Option.map Json.str x) ∘ some) = some ∘ Json.str from rfl,
    List.filterMap_eq_map]

/-- The previous-block hash and Merkle root of the genesis block. -/
def genesisHash : String := "000000000019d6689c085ae165831e934ff763ae46a2a6c172b3f1b60a8ce26f"

def genesisMerkle : String := "4a5e1e4baab89f3a32518a88c31bc87f618f76673e2cc77ab2127b7afdeda33b"

/-- A notification at the real widths: a 64-digit prevhash, 8-digit fields and one 64-digit
Merkle entry. -/
theorem notify_round_trip_genesis :
    (HexField 64 genesisHash ∧ HexField 8 "01000000" ∧ HexField 8 "1d00ffff" ∧ HexField 8 "495fab29" ∧
      [genesisMerkle].length ≤ 16 ∧ ∀ m ∈ [genesisMerkle], HexField 64 m) ∧
    let val := notifyArray "4d16" genesisHash "01" "ff" [genesisMerkle] "01000000" "1d00ffff" "495fab29" true
    (parseNotify 0 {} (some val)).1 = true ∧
      sendNotify (parseNotify 0 {} (some val)).2 =
        some (some (.obj [("jobid", .int 0), ("prevhash", .str genesisHash), ("coinbase1", .str "01"),
          ("coinbase2", .str "ff"), ("merklehash", .arr [.str genesisMerkle]),
          ("bbversion", .str "01000000"), ("nbit", .str "1d00ffff"), ("ntime", .str "495fab29"),
          ("clean", .bool true)])) ∧
      (∃ ni ∈ (parseNotify 0 {} (some val)).2.notifyInstances, ni.id = 0 ∧ ni.jobid = "4d16") ∧
      ∀ c ∈ notifyCopies (some val), c.inBounds :=
  ⟨⟨by decide, by decide, by decide, by decide, by decide, by decide⟩,
    notify_round_trip 0 {} "4d16" genesisHash "01" "ff" "01000000" "1d00ffff" "495fab29" [genesisMerkle] true
      (by decide) (by decide) (by decide) (by decide) (by decide) (by decide)⟩

/-- A params array that is well formed except that its Merkle branch has seventeen entries. -/
def seventeenMerkles : Json :=
  let h := "000000000019d6689c085ae165831e934ff763ae46a2a6c172b3f1b60a8ce26f"
  .arr [.str "4d16", .str h, .str "01000000", .str "ffffffff", .arr (List.replicate 17 (.str h)),
    .str "20000000", .str "1d00ffff", .str "5a5a5a5a", .bool true]

/-- `parse_notify` copies every entry of the Merkle array into `merklehash[16][68]`: the
seventeenth copy writes row 16, past the end of the buffer. -/
theorem parse_notify_merkle_overflow :
    ¬ ∀ c ∈ notifyCopies (some seventeenMerkles), c.inBounds := by
  intro h
  have hc := h ⟨some "000000000019d6689c085ae165831e934ff763ae46a2a6c172b3f1b60a8ce26f", 65, 16, 16, 68⟩
    (by decide)
  exact absurd hc.2.1 (by decide)

end CkpoolGenerator.Notify
