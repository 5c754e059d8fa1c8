import Mathlib.Data.List.Forall2
import RespClient.Call.Answer

set_option autoImplicit false

namespace RespClient

inductive Rejects (expected : List Reply.Kind) : Reply → Failure → Prop where
  | server {text : String} : Rejects expected (.error text) (.server text)
  | shape {reply : Reply} :
      reply.kind ≠ .error → Rejects expected reply (.wrongShape expected reply.kind)

inductive Reply.Names : Reply → Bytes → Prop where
  | bulk {data : Bytes} : Reply.Names (.bulk data) data
  | status {text : String} : Reply.Names (.status text) (Bytes.ofText text)

inductive Reply.Holds : Reply → Bytes → Prop where
  | bulk {data : Bytes} : Reply.Holds (.bulk data) data
  | nil : Reply.Holds .nil []

theorem rejection_exists (expected : List Reply.Kind) (reply : Reply) :
    ∃ failure, Rejects expected reply failure := by
  by_cases error : reply.kind = .error
  · cases reply with
    | error text => exact ⟨_, .server⟩
    | _ => cases error
  · exact ⟨_, .shape error⟩

namespace Shape
variable {α : Type} (shape : Shape α) (reply : Reply)

theorem read_rejected (failure : Failure) (rejects : Rejects shape.kinds reply failure)
    (untaken : shape.content? reply = none) : shape.read reply = .error failure := by
  cases rejects with
  | server => rfl
  | shape plain =>
      unfold read
      split
      · exact absurd rfl plain
      · rw [untaken]

theorem array_untaken (other : reply.kind ≠ .array) : array.content? reply = none := by
  cases reply with
  | array items => exact absurd rfl other
  | _ => rfl

end Shape

structure Recognizes (read : Reply → Except Failure Bytes) (holds : Reply → Bytes → Prop)
    (expected : List Reply.Kind) : Prop where
  found : ∀ item value, holds item value → read item = .ok value
  rejected : ∀ item failure, (∀ value, ¬ holds item value) → Rejects expected item failure →
    read item = .error failure

theorem member_recognizes : Recognizes Shape.member.read Reply.Names [.bulk] where
  found item value named := by
    cases named <;> rfl
  rejected item failure odd rejects := by
    refine Shape.read_rejected Shape.member item failure rejects ?_
    cases item with
    | bulk data => exact absurd .bulk (odd data)
    | status text => exact absurd .status (odd (Bytes.ofText text))
    | _ => rfl

theorem field_value_recognizes : Recognizes Call.fieldValue Reply.Holds [.bulk, .nil] where
  found item value held := by
    cases held <;> rfl
  rejected item failure odd rejects := by
    have untaken : Shape.bulkOrNil.content? item = none := by
      cases item with
      | bulk data => exact absurd .bulk (odd data)
      | nil => exact absurd .nil (odd [])
      | _ => rfl
    rw [Call.fieldValue, Shape.read_rejected Shape.bulkOrNil item failure rejects untaken]
    rfl

theorem all_or_odd (holds : Reply → Bytes → Prop) (items : List Reply) :
    (∃ values, List.Forall₂ holds items values) ∨
      ∃ front values odd back, items = front ++ odd :: back ∧ List.Forall₂ holds front values ∧
        ∀ value, ¬ holds odd value := by
  induction items with
  | nil => exact Or.inl ⟨[], .nil⟩
  | cons item items ih =>
      by_cases holding : ∃ value, holds item value
      · obtain ⟨value, held⟩ := holding
        rcases ih with ⟨values, all⟩ | ⟨front, values, odd, back, rfl, all, unheld⟩
        · exact Or.inl ⟨value :: values, .cons held all⟩
        · exact Or.inr ⟨item :: front, value :: values, odd, back, rfl, .cons held all, unheld⟩
      · exact Or.inr ⟨[], [], item, items, rfl, .nil, fun value held => holding ⟨value, held⟩⟩

section
variable {read : Reply → Except Failure Bytes} {holds : Reply → Bytes → Prop}
  {expected : List Reply.Kind} (recognizes : Recognizes read holds expected)
include recognizes

theorem found_all (items : List Reply) (values : List Bytes) (all : List.Forall₂ holds items values) :
    List.Forall₂ (fun item value => read item = .ok value) items values := by
  exact all.imp recognizes.found

theorem each_read (items : List Reply) (values : List Bytes) (all : List.Forall₂ holds items values) :
    items.mapM read = .ok values := by
  induction all with
  | nil => rfl
  | cons held _ ih =>
      rw [List.mapM_cons, recognizes.found _ _ held, ih]
      rfl

theorem each_stopped (front back : List Reply) (values : List Bytes) (odd : Reply)
    (failure : Failure) (all : List.Forall₂ holds front values) (unheld : ∀ value, ¬ holds odd value)
    (rejects : Rejects expected odd failure) :
    (front ++ odd :: back).mapM read = .error failure := by
  induction all with
  | nil =>
      rw [List.nil_append, List.mapM_cons, recognizes.rejected odd failure unheld rejects]
      rfl
  | cons held _ ih =>
      rw [List.cons_append, List.mapM_cons, recognizes.found _ _ held, ih]
      rfl

end
end RespClient
