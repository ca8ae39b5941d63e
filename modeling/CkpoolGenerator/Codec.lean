import CkpoolGenerator.Jansson

/-!
# JSON-RPC decoding

`json_result`, `json_msg_result` and the reentrant `find_notify` of the generator. A line
read from the upstream is taken as what `json_loads` makes of it: `none` when it is not
JSON. What `find_notify` returns is stated against the list of the arrays a value holds,
through array elements only, in depth-first pre-order.
-/

namespace CkpoolGenerator.Codec

open CkpoolGenerator.Jansson

/-- A line read from the upstream, as `json_loads` decodes it. -/
abbrev Line := Option Json

/-- `json_result`: the `result` member, unless it is missing or null. The `error` member is
only logged. -/
def jsonResult (val : Json) : Option Json :=
  match jsonObjectGet (some val) "result" with
  | some .null => none
  | r => r

/-- `json_msg_result`: the result of a decoded line, `none` when there is none. -/
def jsonMsgResult : Line → Option Json
  | none => none
  | some val => jsonResult val

mutual
/-- `find_notify`: the first array, in depth-first pre-order through array elements, whose
first element is a string starting with `mining.notify`. -/
def findNotify : Json → Option Json
  | .arr xs =>
    match xs with
    | .str s :: _ => if strncasecmp s "mining.notify" then some (.arr xs) else findNotifyIn xs
    | _ => findNotifyIn xs
  | _ => none
def findNotifyIn : List Json → Option Json
  | [] => none
  | x :: xs =>
    match findNotify x with
    | some r => some r
    | none => findNotifyIn xs
end

mutual
/-- The arrays reachable from a value through array elements only, the value itself first,
in depth-first pre-order. -/
def arraysPre : Json → List (List Json)
  | .arr xs => xs :: arraysPreIn xs
  | _ => []
/-- The arrays reachable from the elements of an array, element by element. -/
def arraysPreIn : List Json → List (List Json)
  | [] => []
  | x :: xs => arraysPre x ++ arraysPreIn xs
end

/-- An array whose first element is a string that begins with `mining.notify`, whatever the
case of its letters. -/
def notifyHead : List Json → Bool
  | .str s :: _ => ("mining.notify".data.map Char.toLower).isPrefixOf (s.data.map Char.toLower)
  | _ => false

/-- The test `strncasecmp (s, lit, strlen (lit)) == 0` holds exactly when `s` begins with
`lit` up to case. -/
theorem strncasecmp_eq_isPrefixOf (s lit : String) :
    strncasecmp s lit = (lit.data.map Char.toLower).isPrefixOf (s.data.map Char.toLower) := by
  rw [Bool.eq_iff_iff, strncasecmp, beq_iff_eq, List.isPrefixOf_iff_prefix, List.prefix_iff_eq_take,
    List.length_map, ← List.map_take, eq_comm]
  rfl

theorem findNotify_arr (xs : List Json) :
    findNotify (.arr xs) = if notifyHead xs then some (.arr xs) else findNotifyIn xs := by
  rcases xs with _ | ⟨_ | _ | _ | _ | s | _ | _, rest⟩ <;> try rfl
  rw [findNotify, notifyHead, strncasecmp_eq_isPrefixOf]

mutual
theorem findNotify_eq : ∀ v : Json, findNotify v = ((arraysPre v).find? notifyHead).map .arr
  | .arr xs => by
    rw [findNotify_arr, arraysPre, List.find?_cons, findNotifyIn_eq xs]
    cases notifyHead xs <;> rfl
  | .null | .bool _ | .int _ | .real _ | .str _ | .obj _ => rfl
theorem findNotifyIn_eq : ∀ xs : List Json,
    findNotifyIn xs = ((arraysPreIn xs).find? notifyHead).map .arr
  | [] => rfl
  | x :: xs => by
    rw [findNotifyIn, arraysPreIn, List.find?_append, findNotify_eq x, findNotifyIn_eq xs]
    cases (arraysPre x).find? notifyHead <;> rfl
end

/-- For every JSON value, `find_notify` returns: the first array, in depth-first pre-order
through array elements from the value itself, whose first element is a string beginning with
`mining.notify` in any case; and `NULL` exactly when there is none. -/
theorem find_notify_first_in_preorder (v : Json) :
    findNotify v = ((arraysPre v).find? notifyHead).map .arr ∧
      (findNotify v = none ↔ ∀ xs ∈ arraysPre v, notifyHead xs = false) := by
  refine ⟨findNotify_eq v, ?_⟩
  rw [findNotify_eq, Option.map_eq_none', List.find?_eq_none]
  simp

example : findNotify (.arr [.arr [.arr [.str "mining.notify", .str "ae6812eb4cd7735a302a8a9dd95cf71f"]],
    .str "08000002", .int 4]) = some (.arr [.str "mining.notify", .str "ae6812eb4cd7735a302a8a9dd95cf71f"]) := by
  decide

end CkpoolGenerator.Codec
