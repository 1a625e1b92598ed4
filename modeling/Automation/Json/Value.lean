import Automation.Number.Binary64

/-!
JSON values. An object is a list of members in the order of their keys; `Members.insert` keeps that
order and gives each key one value.
-/
namespace Automation.Json

/-- Integers stay exact; every other number is binary64. -/
inductive Number where
  | int (value : Int)
  | float (value : Binary64.Finite)
  deriving DecidableEq

inductive Value where
  | null
  | bool (value : Bool)
  | number (value : Number)
  | string (value : String)
  | array (items : List Value)
  | object (members : List (String × Value))
  deriving Inhabited

/-- Members of an object, ascending by key. -/
abbrev Members := List (String × Value)

namespace Members

def get? (key : String) : Members → Option Value
  | [] => none
  | (k, v) :: rest => if k = key then some v else get? key rest

def insert (key : String) (value : Value) : Members → Members
  | [] => [(key, value)]
  | (k, v) :: rest =>
    if k = key then (key, value) :: rest
    else if key < k then (key, value) :: (k, v) :: rest
    else (k, v) :: insert key value rest

def erase (key : String) (members : Members) : Members :=
  members.filter fun member => member.1 != key

/-- The last of several values for one key wins. -/
def ofList (pairs : List (String × Value)) : Members :=
  pairs.foldl (fun members pair => members.insert pair.1 pair.2) []

/-- `members` overwritten by `others`. -/
def merge (members others : Members) : Members :=
  others.foldl (fun members pair => members.insert pair.1 pair.2) members

@[simp] theorem get?_nil (key : String) : get? key [] = none := rfl

@[simp] theorem get?_insert_self (key : String) (value : Value) (members : Members) :
    get? key (insert key value members) = some value := by
  induction members with
  | nil => simp [insert, get?]
  | cons member rest ih => grind [insert, get?]

theorem get?_insert_of_ne {key other : String} (value : Value) (members : Members)
    (h : key ≠ other) : get? other (insert key value members) = get? other members := by
  induction members with
  | nil => simp [insert, get?, h]
  | cons member rest ih => grind [insert, get?]

@[simp] theorem get?_erase_self (key : String) (members : Members) :
    get? key (erase key members) = none := by
  induction members with
  | nil => rfl
  | cons member rest ih => grind [erase, get?]

theorem get?_erase_of_ne {key other : String} (members : Members) (h : key ≠ other) :
    get? other (erase key members) = get? other members := by
  induction members with
  | nil => rfl
  | cons member rest ih => grind [erase, get?]

end Members

namespace Value

def ofInt (i : Int) : Value := .number (.int i)

def ofNat (n : Nat) : Value := .number (.int n)

/-- An absent text is null. -/
def ofText? : Option String → Value
  | some text => .string text
  | none => .null

def ofPairs (pairs : List (String × Value)) : Value := .object (Members.ofList pairs)

/-- Members that have a value, in the order in which they are listed: a value to be printed. -/
def listed (pairs : List (String × Option Value)) : Value :=
  .object (pairs.filterMap fun (key, value) => value.map (key, ·))

/-- An object without the members that have no value. -/
def ofPresent (pairs : List (String × Option Value)) : Value :=
  ofPairs (pairs.filterMap fun (key, value) => value.map (key, ·))

def isNull : Value → Bool
  | .null => true
  | _ => false

def asString? : Value → Option String
  | .string text => some text
  | _ => none

def asBool? : Value → Option Bool
  | .bool b => some b
  | _ => none

def asArray? : Value → Option (List Value)
  | .array items => some items
  | _ => none

def asObject? : Value → Option Members
  | .object members => some members
  | _ => none

/-- A signed integer of 64 bits. -/
def asInt64? : Value → Option Int
  | .number (.int i) => if -0x8000000000000000 ≤ i ∧ i < 0x8000000000000000 then some i else none
  | _ => none

/-- An unsigned integer of 64 bits. -/
def asNat64? : Value → Option Nat
  | .number (.int i) => if 0 ≤ i ∧ i < 0x10000000000000000 then some i.toNat else none
  | _ => none

/-- The value of one member; only objects have members. -/
def member? (key : String) : Value → Option Value
  | .object members => Members.get? key members
  | _ => none

mutual
private def decideEq : (a b : Value) → Decidable (a = b)
  | .null, b => match b with
    | .null => isTrue rfl
    | .bool _ | .number _ | .string _ | .array _ | .object _ => isFalse nofun
  | .bool x, b => match b with
    | .bool y => decidable_of_iff (x = y) (by simp)
    | .null | .number _ | .string _ | .array _ | .object _ => isFalse nofun
  | .number x, b => match b with
    | .number y => decidable_of_iff (x = y) (by simp)
    | .null | .bool _ | .string _ | .array _ | .object _ => isFalse nofun
  | .string x, b => match b with
    | .string y => decidable_of_iff (x = y) (by simp)
    | .null | .bool _ | .number _ | .array _ | .object _ => isFalse nofun
  | .array xs, b => match b with
    | .array ys => @decidable_of_iff _ (xs = ys) (by simp) (decideEqItems xs ys)
    | .null | .bool _ | .number _ | .string _ | .object _ => isFalse nofun
  | .object xs, b => match b with
    | .object ys => @decidable_of_iff _ (xs = ys) (by simp) (decideEqMembers xs ys)
    | .null | .bool _ | .number _ | .string _ | .array _ => isFalse nofun
termination_by structural a => a

private def decideEqItems : (xs ys : List Value) → Decidable (xs = ys)
  | [], ys => match ys with
    | [] => isTrue rfl
    | _ :: _ => isFalse nofun
  | x :: xs, ys => match ys with
    | [] => isFalse nofun
    | y :: ys =>
      @decidable_of_iff _ (x = y ∧ xs = ys) (by simp)
        (@instDecidableAnd _ _ (decideEq x y) (decideEqItems xs ys))
termination_by structural xs => xs

private def decideEqMembers : (xs ys : List (String × Value)) → Decidable (xs = ys)
  | [], ys => match ys with
    | [] => isTrue rfl
    | _ :: _ => isFalse nofun
  | (k, x) :: xs, ys => match ys with
    | [] => isFalse nofun
    | (l, y) :: ys =>
      @decidable_of_iff _ ((k = l ∧ x = y) ∧ xs = ys) (by simp)
        (@instDecidableAnd _ _
          (@instDecidableAnd _ _ (inferInstanceAs (Decidable (k = l))) (decideEq x y))
          (decideEqMembers xs ys))
termination_by structural xs => xs
end

instance : DecidableEq Value := decideEq

end Value
end Automation.Json
