import PageScripts.Listing
import PageScripts.Number.Binary64

/-!
# JSON values

A JSON value keeps what the reader saw: integers and doubles are different numbers, and an
object lists its members in order.  Three views of a value matter to rules and records:

* `kind` — what sort of value it is, and the name of the sort in messages;
* `truth` — whether it counts as true: everything does but null, false, zero and the empty
  text, list and object;
* `sameAs` — equality of meaning: true is one, false is zero, an integer is the double of the
  same value, and the order of members is ignored.
-/

namespace PageScripts

/-- A JSON value. -/
inductive Json
  | null
  | bool (value : Bool)
  | int (value : Int)
  | float (value : Binary64)
  | str (value : String)
  | arr (items : List Json)
  | obj (fields : List (String × Json))
  deriving Inhabited

/-- The members of an object, in order. -/
abbrev Fields := Listing String Json

/-- The sort of a JSON value. -/
inductive Kind
  | null
  | bool
  | int
  | float
  | str
  | arr
  | obj
  deriving DecidableEq, Repr

/-- The name of a sort of value in messages. -/
def Kind.name : Kind → String
  | null => "NoneType"
  | bool => "bool"
  | int => "int"
  | float => "float"
  | str => "str"
  | arr => "list"
  | obj => "dict"

namespace Json

/-- The sort of a value. -/
def kind : Json → Kind
  | null => .null
  | bool _ => .bool
  | int _ => .int
  | float _ => .float
  | str _ => .str
  | arr _ => .arr
  | obj _ => .obj

/-- Whether a value counts as true. -/
def truth : Json → Bool
  | null => false
  | bool b => b
  | int n => n != 0
  | float x => !x.isZero
  | str s => s != ""
  | arr items => !items.isEmpty
  | obj fields => !fields.isEmpty

/-- A scalar is a text or a number; a truth value is none. -/
def isScalar : Json → Bool
  | str _ => true
  | int _ => true
  | float _ => true
  | _ => false

/-- The members, if the value is an object. -/
def fields? : Json → Option Fields
  | obj fields => some fields
  | _ => none

/-- The text, if the value is one. -/
def text? : Json → Option String
  | str s => some s
  | _ => none

mutual

/-- Equality of meaning. -/
def sameAs : Json → Json → Bool
  | null, null => true
  | bool a, other =>
      match other with
      | bool b => a == b
      | int n => n == (if a then 1 else 0)
      | float x => x.isInt (if a then 1 else 0)
      | _ => false
  | int n, other =>
      match other with
      | bool b => n == (if b then 1 else 0)
      | int m => n == m
      | float x => x.isInt n
      | _ => false
  | float x, other =>
      match other with
      | bool b => x.isInt (if b then 1 else 0)
      | int n => x.isInt n
      | float y => x.sameAs y
      | _ => false
  | str a, str b => a == b
  | arr xs, arr ys => sameItems xs ys
  | obj xs, obj ys => xs.length == ys.length && sameMembers xs ys
  | _, _ => false

/-- Equality of meaning, item by item. -/
def sameItems : List Json → List Json → Bool
  | [], [] => true
  | x :: xs, y :: ys => sameAs x y && sameItems xs ys
  | _, _ => false

/-- Whether each member on the left is on the right with the same meaning. -/
def sameMembers : List (String × Json) → List (String × Json) → Bool
  | [], _ => true
  | (k, x) :: rest, ys =>
      (match Listing.value? k ys with
        | some y => sameAs x y
        | none => false) && sameMembers rest ys

end

mutual

/-- Decides whether two values are the very same. -/
def decEq : (a b : Json) → Decidable (a = b)
  | null, other => by
      cases other with
      | null => exact isTrue rfl
      | _ => exact isFalse (by simp)
  | bool x, other => by
      cases other with
      | bool y => exact decidable_of_iff (x = y) (by simp)
      | _ => exact isFalse (by simp)
  | int x, other => by
      cases other with
      | int y => exact decidable_of_iff (x = y) (by simp)
      | _ => exact isFalse (by simp)
  | float x, other => by
      cases other with
      | float y => exact decidable_of_iff (x = y) (by simp)
      | _ => exact isFalse (by simp)
  | str x, other => by
      cases other with
      | str y => exact decidable_of_iff (x = y) (by simp)
      | _ => exact isFalse (by simp)
  | arr xs, other => by
      cases other with
      | arr ys =>
          exact
            match decEqItems xs ys with
            | isTrue h => isTrue (by rw [h])
            | isFalse h => isFalse (by simpa using h)
      | _ => exact isFalse (by simp)
  | obj xs, other => by
      cases other with
      | obj ys =>
          exact
            match decEqMembers xs ys with
            | isTrue h => isTrue (by rw [h])
            | isFalse h => isFalse (by simpa using h)
      | _ => exact isFalse (by simp)

/-- Decides whether two lists of values are the very same. -/
def decEqItems : (xs ys : List Json) → Decidable (xs = ys)
  | [], [] => isTrue rfl
  | [], _ :: _ => isFalse (by simp)
  | _ :: _, [] => isFalse (by simp)
  | x :: xs, y :: ys =>
      match decEq x y with
      | isFalse h => isFalse (by simp [h])
      | isTrue h =>
          match decEqItems xs ys with
          | isTrue t => isTrue (by rw [h, t])
          | isFalse t => isFalse (by simp [t])

/-- Decides whether two lists of members are the very same. -/
def decEqMembers : (xs ys : List (String × Json)) → Decidable (xs = ys)
  | [], [] => isTrue rfl
  | [], _ :: _ => isFalse (by simp)
  | _ :: _, [] => isFalse (by simp)
  | (k, x) :: xs, (l, y) :: ys =>
      if hk : k = l then
        match decEq x y with
        | isFalse h => isFalse (by simp [h])
        | isTrue h =>
            match decEqMembers xs ys with
            | isTrue t => isTrue (by rw [hk, h, t])
            | isFalse t => isFalse (by simp [t])
      else
        isFalse (by simp [hk])

end

instance : DecidableEq Json := decEq

/-- Whether a value means that nothing was given: null, the empty text, false or zero. -/
def isVoid (value : Json) : Bool :=
  value.sameAs null || value.sameAs (str "") || value.sameAs (bool false)

/-- Whether a value is the empty text or null. -/
def isUnset : Json → Bool
  | null => true
  | str s => s == ""
  | _ => false

end Json
end PageScripts
