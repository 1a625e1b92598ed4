import Automation.Template

/-!
What placeholders may tell: the record of a run, outputs and loop variables, and nothing of the run
itself. A value without placeholders is the same wherever it is resolved.
-/
namespace Automation.Template

open Json (Value)

mutual
/-- Placeholders are filled in alike for all runs. -/
theorem resolve_executionId (ctx : Context) (executionId : Option String) :
    ∀ value, resolve { ctx with executionId } value = resolve ctx value
  | .string _ => rfl
  | .array items => congrArg Value.array (resolveItems_executionId ctx executionId items)
  | .object members => congrArg Value.object (resolveMembers_executionId ctx executionId members)
  | .null | .bool _ | .number _ => rfl
termination_by structural value => value

theorem resolveItems_executionId (ctx : Context) (executionId : Option String) :
    ∀ items, resolveItems { ctx with executionId } items = resolveItems ctx items
  | [] => rfl
  | item :: rest => by
    rw [resolveItems, resolveItems, resolve_executionId ctx executionId item,
      resolveItems_executionId ctx executionId rest]
termination_by structural items => items

theorem resolveMembers_executionId (ctx : Context) (executionId : Option String) :
    ∀ members, resolveMembers { ctx with executionId } members = resolveMembers ctx members
  | [] => rfl
  | (key, value) :: rest => by
    rw [resolveMembers, resolveMembers, resolve_executionId ctx executionId value,
      resolveMembers_executionId ctx executionId rest]
termination_by structural members => members
end

theorem resolveItems_eq_map (ctx : Context) (items : List Value) :
    resolveItems ctx items = items.map (resolve ctx) := by
  induction items with
  | nil => rfl
  | cons item rest ih => rw [resolveItems, ih, List.map_cons]

theorem keys_resolveMembers (ctx : Context) (members : Json.Members) :
    (resolveMembers ctx members).map Prod.fst = members.map Prod.fst := by
  induction members with
  | nil => rfl
  | cons member rest ih => rw [resolveMembers, List.map_cons, ih, List.map_cons]

theorem get?_resolveMembers (ctx : Context) (key : String) (members : Json.Members) :
    Json.Members.get? key (resolveMembers ctx members) = (members.get? key).map (resolve ctx) := by
  induction members with
  | nil => rfl
  | cons member rest ih =>
    simp only [resolveMembers, Json.Members.get?]
    split
    · rfl
    · exact ih

def Piece.isLiteral : Piece → Bool
  | .literal _ => true
  | .path _ => false

mutual
/-- No text in the value holds a placeholder. -/
def isLiteral : Value → Bool
  | .string text => (pieces text.toList).all (·.isLiteral)
  | .array items => areLiteral items
  | .object members => haveLiterals members
  | .null | .bool _ | .number _ => true
termination_by structural value => value

def areLiteral : List Value → Bool
  | [] => true
  | item :: rest => isLiteral item && areLiteral rest
termination_by structural items => items

def haveLiterals : List (String × Value) → Bool
  | [] => true
  | (_, value) :: rest => isLiteral value && haveLiterals rest
termination_by structural members => members
end

private theorem pieces_eq_map {cs : List Char} (literal : (pieces cs).all (·.isLiteral) = true) :
    pieces cs = cs.map .literal := by
  induction cs using pieces.induct with
  | case1 => rw [pieces, List.map_nil]
  | case2 c rest path behind found ih =>
    rw [pieces, found] at literal
    cases literal
  | case3 c rest none ih =>
    rw [pieces, none] at literal ⊢
    simp only [List.all_cons, Bool.and_eq_true] at literal
    rw [ih literal.2, List.map_cons]

private theorem resolveText_literal (ctx : Context) {text : String}
    (literal : (pieces text.toList).all (·.isLiteral) = true) :
    resolveText ctx text = .string text := by
  have written : (text.toList.map Piece.literal).flatMap (·.toText ctx) = text.toList := by
    rw [List.flatMap_map]
    exact List.flatMap_singleton' _
  unfold resolveText
  split
  · next path alone =>
    rw [alone] at literal
    cases literal
  · rw [pieces_eq_map literal, written, String.ofList_toList]

mutual
theorem resolve_literal (ctx : Context) : ∀ value, isLiteral value = true → resolve ctx value = value
  | .string _, literal => resolveText_literal ctx literal
  | .array items, literal => congrArg Value.array (resolveItems_literal ctx items literal)
  | .object members, literal => congrArg Value.object (resolveMembers_literal ctx members literal)
  | .null, _ | .bool _, _ | .number _, _ => rfl
termination_by structural value => value

theorem resolveItems_literal (ctx : Context) :
    ∀ items, areLiteral items = true → resolveItems ctx items = items
  | [], _ => rfl
  | item :: rest, literal => by
    have both := Bool.and_eq_true_iff.mp literal
    rw [resolveItems, resolve_literal ctx item both.1, resolveItems_literal ctx rest both.2]
termination_by structural items => items

theorem resolveMembers_literal (ctx : Context) :
    ∀ members, haveLiterals members = true → resolveMembers ctx members = members
  | [], _ => rfl
  | (key, value) :: rest, literal => by
    have both := Bool.and_eq_true_iff.mp literal
    rw [resolveMembers, resolve_literal ctx value both.1, resolveMembers_literal ctx rest both.2]
termination_by structural members => members
end

end Automation.Template
