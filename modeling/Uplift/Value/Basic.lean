/-! # Document values

What a JSON or a YAML document holds. Both formats read into this type and write from it. A mapping
keeps its entries in document order; a floating-point number is kept as its bits, so that equality
is decidable.

* `Value.instDecidableEq`: two values can be compared.
* `Value.sortKeys`: every mapping with its keys in order and the last of equal keys.
-/

namespace Uplift

/-- A document value. -/
inductive Value where
  | null
  | bool (b : Bool)
  | int (n : Int)
  | float (bits : UInt64)
  | str (s : String)
  | seq (items : List Value)
  | map (entries : List (Value × Value))
  | tagged (tag : String) (value : Value)
deriving Inhabited

namespace Value

mutual

/-- Whether two values are equal. -/
def decEq : (a b : Value) → Decidable (a = b)
  | .null, b => match b with
    | .null => isTrue rfl
    | .bool _ | .int _ | .float _ | .str _ | .seq _ | .map _ | .tagged _ _ => isFalse nofun
  | .bool x, b => match b with
    | .bool y => if h : x = y then isTrue (h ▸ rfl) else isFalse fun e => h (bool.inj e)
    | .null | .int _ | .float _ | .str _ | .seq _ | .map _ | .tagged _ _ => isFalse nofun
  | .int x, b => match b with
    | .int y => if h : x = y then isTrue (h ▸ rfl) else isFalse fun e => h (int.inj e)
    | .null | .bool _ | .float _ | .str _ | .seq _ | .map _ | .tagged _ _ => isFalse nofun
  | .float x, b => match b with
    | .float y => if h : x = y then isTrue (h ▸ rfl) else isFalse fun e => h (float.inj e)
    | .null | .bool _ | .int _ | .str _ | .seq _ | .map _ | .tagged _ _ => isFalse nofun
  | .str x, b => match b with
    | .str y => if h : x = y then isTrue (h ▸ rfl) else isFalse fun e => h (str.inj e)
    | .null | .bool _ | .int _ | .float _ | .seq _ | .map _ | .tagged _ _ => isFalse nofun
  | .seq x, b => match b with
    | .seq y => match decEqItems x y with
      | isTrue h => isTrue (h ▸ rfl)
      | isFalse h => isFalse fun e => h (seq.inj e)
    | .null | .bool _ | .int _ | .float _ | .str _ | .map _ | .tagged _ _ => isFalse nofun
  | .map x, b => match b with
    | .map y => match decEqEntries x y with
      | isTrue h => isTrue (h ▸ rfl)
      | isFalse h => isFalse fun e => h (map.inj e)
    | .null | .bool _ | .int _ | .float _ | .str _ | .seq _ | .tagged _ _ => isFalse nofun
  | .tagged t x, b => match b with
    | .tagged u y =>
      if h : t = u then
        match decEq x y with
        | isTrue h' => isTrue (h ▸ h' ▸ rfl)
        | isFalse h' => isFalse fun e => h' (tagged.inj e).2
      else isFalse fun e => h (tagged.inj e).1
    | .null | .bool _ | .int _ | .float _ | .str _ | .seq _ | .map _ => isFalse nofun

/-- Whether two lists of values are equal. -/
def decEqItems : (a b : List Value) → Decidable (a = b)
  | [], [] => isTrue rfl
  | [], _ :: _ => isFalse nofun
  | _ :: _, [] => isFalse nofun
  | x :: xs, y :: ys => match decEq x y with
    | isFalse h => isFalse fun e => h (List.cons.inj e).1
    | isTrue h => match decEqItems xs ys with
      | isTrue h' => isTrue (h ▸ h' ▸ rfl)
      | isFalse h' => isFalse fun e => h' (List.cons.inj e).2

/-- Whether two lists of entries are equal. -/
def decEqEntries : (a b : List (Value × Value)) → Decidable (a = b)
  | [], [] => isTrue rfl
  | [], _ :: _ => isFalse nofun
  | _ :: _, [] => isFalse nofun
  | (k, x) :: xs, (l, y) :: ys => match decEq k l with
    | isFalse h => isFalse fun e => h (Prod.mk.inj (List.cons.inj e).1).1
    | isTrue hk => match decEq x y with
      | isFalse h => isFalse fun e => h (Prod.mk.inj (List.cons.inj e).1).2
      | isTrue h => match decEqEntries xs ys with
        | isTrue h' => isTrue (hk ▸ h ▸ h' ▸ rfl)
        | isFalse h' => isFalse fun e => h' (List.cons.inj e).2

end

instance instDecidableEq : DecidableEq Value := decEq

/-- A mapping with text keys. -/
def record (fields : List (String × Value)) : Value :=
  .map (fields.map fun (k, v) => (.str k, v))

/-- A sequence of texts. -/
def strings (xs : List String) : Value := .seq (xs.map .str)

/-- The text, or null if there is none. -/
def optStr : Option String → Value
  | some s => .str s
  | none => .null

/-- The value under its tags. -/
def untag : Value → Value
  | .tagged _ v => untag v
  | v => v

/-- The text that a value is, tags aside. -/
def asStr? (v : Value) : Option String :=
  match v.untag with
  | .str s => some s
  | _ => none

/-- The entry under a text key: the first of them. -/
def get? (v : Value) (key : String) : Option Value :=
  match v with
  | .map entries => (entries.find? fun (k, _) => k = .str key).map (·.2)
  | _ => none

/-- Puts an entry into a list that is sorted by key, in place of one with the same key. -/
def insertSorted (k : String) (v : Value) : List (String × Value) → List (String × Value)
  | [] => [(k, v)]
  | (l, w) :: rest =>
    if k = l then (k, v) :: rest
    else if k < l then (k, v) :: (l, w) :: rest
    else (l, w) :: insertSorted k v rest

/-- The entries of a mapping with text keys, sorted by key; the last of equal keys stays. -/
def sortEntries (entries : List (String × Value)) : List (String × Value) :=
  entries.foldl (fun acc (k, v) => insertSorted k v acc) []

mutual

/-- The value with every mapping of text keys sorted, as a reader that looks entries up by key
keeps it. Entries under other keys are dropped. -/
def sortKeys : Value → Value
  | .seq items => .seq (sortKeysItems items)
  | .map entries => record (sortEntries (sortKeysEntries entries))
  | .tagged t v => .tagged t (sortKeys v)
  | v => v

/-- `sortKeys` on each item. -/
def sortKeysItems : List Value → List Value
  | [] => []
  | v :: rest => sortKeys v :: sortKeysItems rest

/-- `sortKeys` on each value under a text key. -/
def sortKeysEntries : List (Value × Value) → List (String × Value)
  | [] => []
  | (.str k, v) :: rest => (k, sortKeys v) :: sortKeysEntries rest
  | _ :: rest => sortKeysEntries rest

end

end Value

end Uplift
