import Mathlib.Algebra.Group.Int
import Mathlib.Algebra.Group.Nat.Basic
import Mathlib.Data.Rat.Defs

/-!
# Jansson values and the accessors the generator calls

`Json` is what a `json_t *` points to. An accessor that takes a `json_t *` which may be
`NULL` takes an `Option Json`, and returns `none` where jansson returns `NULL`, so each
definition reads as its C namesake. Integers are `json_int_t` values; a real is a finite
double, given by its exact value. Objects keep their members in order, as jansson does.
-/

namespace CkpoolGenerator.Jansson

inductive Json where
  | null
  | bool (b : Bool)
  | int (v : Int)
  | real (v : Rat)
  | str (s : String)
  | arr (xs : List Json)
  | obj (kvs : List (String × Json))
  deriving Repr, Inhabited

mutual
/-- Structural equality test, so that `decide` evaluates comparisons of small values. -/
def Json.decEq : (a b : Json) → Decidable (a = b)
  | .null, .null => isTrue rfl
  | .bool a, .bool b => decidable_of_iff (a = b) (by simp)
  | .int a, .int b => decidable_of_iff (a = b) (by simp)
  | .real a, .real b => decidable_of_iff (a = b) (by simp)
  | .str a, .str b => decidable_of_iff (a = b) (by simp)
  | .arr a, .arr b =>
    match Json.decEqList a b with
    | isTrue h => isTrue (h ▸ rfl)
    | isFalse h => isFalse (by simpa using h)
  | .obj a, .obj b =>
    match Json.decEqObj a b with
    | isTrue h => isTrue (h ▸ rfl)
    | isFalse h => isFalse (by simpa using h)
  | .null, .bool _ | .null, .int _ | .null, .real _ | .null, .str _ | .null, .arr _
  | .null, .obj _ | .bool _, .null | .bool _, .int _ | .bool _, .real _ | .bool _, .str _
  | .bool _, .arr _ | .bool _, .obj _ | .int _, .null | .int _, .bool _ | .int _, .real _
  | .int _, .str _ | .int _, .arr _ | .int _, .obj _ | .real _, .null | .real _, .bool _
  | .real _, .int _ | .real _, .str _ | .real _, .arr _ | .real _, .obj _ | .str _, .null
  | .str _, .bool _ | .str _, .int _ | .str _, .real _ | .str _, .arr _ | .str _, .obj _
  | .arr _, .null | .arr _, .bool _ | .arr _, .int _ | .arr _, .real _ | .arr _, .str _
  | .arr _, .obj _ | .obj _, .null | .obj _, .bool _ | .obj _, .int _ | .obj _, .real _
  | .obj _, .str _ | .obj _, .arr _ => isFalse nofun
def Json.decEqList : (a b : List Json) → Decidable (a = b)
  | [], [] => isTrue rfl
  | [], _ :: _ | _ :: _, [] => isFalse nofun
  | x :: xs, y :: ys =>
    match Json.decEq x y, Json.decEqList xs ys with
    | isTrue h, isTrue h' => isTrue (h ▸ h' ▸ rfl)
    | isFalse h, _ => isFalse (by simp [h])
    | _, isFalse h => isFalse (by simp [h])
def Json.decEqObj : (a b : List (String × Json)) → Decidable (a = b)
  | [], [] => isTrue rfl
  | [], _ :: _ | _ :: _, [] => isFalse nofun
  | (k, x) :: xs, (l, y) :: ys =>
    match (inferInstance : Decidable (k = l)), Json.decEq x y, Json.decEqObj xs ys with
    | isTrue hk, isTrue h, isTrue h' => isTrue (hk ▸ h ▸ h' ▸ rfl)
    | isFalse hk, _, _ => isFalse (by simp [hk])
    | _, isFalse h, _ => isFalse (by simp [h])
    | _, _, isFalse h => isFalse (by simp [h])
end

instance : DecidableEq Json := Json.decEq

def jsonObjectGet : Option Json → String → Option Json
  | some (.obj kvs), k => kvs.lookup k
  | _, _ => none

def jsonArrayGet : Option Json → Nat → Option Json
  | some (.arr xs), i => xs[i]?
  | _, _ => none

def jsonArraySize : Option Json → Nat
  | some (.arr xs) => xs.length
  | _ => 0

def jsonIsArray : Option Json → Bool
  | some (.arr _) => true
  | _ => false

def jsonIsNull : Option Json → Bool
  | some .null => true
  | _ => false

def jsonIsTrue : Option Json → Bool
  | some (.bool true) => true
  | _ => false

def jsonStringValue : Option Json → Option String
  | some (.str s) => some s
  | _ => none

/-- `json_integer_value`: zero for anything but an integer. -/
def jsonIntegerValue : Option Json → Int
  | some (.int v) => v
  | _ => 0

/-- A `json_int_t` rounded to the nearest double, ties to even, at 53 significant bits. -/
def roundToDouble (n : Nat) : Nat :=
  if n < 2 ^ 53 then n else
    let s := Nat.log2 n - 52
    let q := n / 2 ^ s
    let r := n % 2 ^ s
    (if 2 ^ (s - 1) < r ∨ (r = 2 ^ (s - 1) ∧ q % 2 = 1) then q + 1 else q) * 2 ^ s

/-- `json_number_value`: the double of an integer or a real, zero for anything else. -/
def jsonNumberValue : Option Json → Rat
  | some (.int v) => if v < 0 then -(roundToDouble v.natAbs : Rat) else (roundToDouble v.natAbs : Rat)
  | some (.real r) => r
  | _ => 0

/-- `json_object_del`: a no-op on anything but an object. -/
def jsonObjectDel : Json → String → Json
  | .obj kvs, k => .obj (kvs.filter (·.1 != k))
  | v, _ => v

/-- `json_object_set_nocheck`: replaces the member in place, or appends it. -/
def jsonObjectSet : Json → String → Json → Json
  | .obj kvs, k, v =>
    if kvs.any (·.1 == k) then .obj (kvs.map fun m => if m.1 == k then (k, v) else m)
    else .obj (kvs ++ [(k, v)])
  | j, _, _ => j

/-- On an object, `json_object_get` of the key `json_object_set_nocheck` has just set gives the
value set. -/
theorem jsonObjectGet_set (kvs : List (String × Json)) (k : String) (v : Json) :
    jsonObjectGet (some (jsonObjectSet (.obj kvs) k v)) k = some v := by
  rw [jsonObjectSet]
  split
  next h =>
    induction kvs with
    | nil => cases h
    | cons kv rest ih =>
      obtain ⟨k', w⟩ := kv
      by_cases hk : k' = k
      · simp [jsonObjectGet, hk]
      · have hr : rest.any (·.1 == k) = true := by simpa [hk] using h
        have hb : (k == k') = false := beq_false_of_ne (Ne.symm hk)
        simpa [jsonObjectGet, hk, List.lookup_cons, hb] using ih hr
  next h =>
    have hn : kvs.lookup k = none := List.lookup_eq_none_iff.2 fun kv hkv => by
      have hne := List.any_eq_false.1 (Bool.eq_false_iff.2 h) kv hkv
      rw [bne_iff_ne]
      rintro rfl
      exact hne (beq_self_eq_true _)
    simp [jsonObjectGet, List.lookup_append, hn]

/-- `strncasecmp (s, lit, strlen (lit)) == 0`: `s` starts with `lit`, ignoring ASCII case. -/
def strncasecmp (s lit : String) : Bool :=
  (s.data.take lit.length).map Char.toLower == lit.data.map Char.toLower

/-- The `int` that a `json_int_t` is converted to. -/
def cint (v : Int) : Int := if v % 2 ^ 32 < 2 ^ 31 then v % 2 ^ 32 else v % 2 ^ 32 - 2 ^ 32

/-- The 32 bits of an `int` or `uint32_t` key that `HASH_FIND_INT` compares. -/
def bits32 (v : Int) : Int := v % 2 ^ 32

@[simp] theorem bits32_cint (v : Int) : bits32 (cint v) = bits32 v := by
  unfold bits32 cint; split <;> omega

/-- A value an `int` holds is its own C value. -/
theorem cint_of_lt {v : Int} (h0 : 0 ≤ v) (h : v < 2 ^ 31) : cint v = v := by
  unfold cint; rw [Int.emod_eq_of_lt h0 (by omega), if_pos h]

theorem bits32_eq_of_lt {a b : Int} (ha : 0 ≤ a) (ha' : a < 2 ^ 32) (hb : 0 ≤ b) (hb' : b < 2 ^ 32) :
    bits32 a = bits32 b ↔ a = b := by
  unfold bits32; rw [Int.emod_eq_of_lt ha ha', Int.emod_eq_of_lt hb hb']

end CkpoolGenerator.Jansson
