/-
The call trace of `execution_result.rs`: `CallType` with its one-byte wire
form for the far-call variant, and the recursive `Call` node.

`impl PartialEq for Call` compares nine of the twelve fields and leaves out
`parent_gas`, `gas` and `gas_used`; on `calls` it is `Vec`'s element-wise
`==`, so the same comparison recurses through the whole tree. The node
function and its list function are one `mutual` block, structurally
recursive, as is `erase_gas`, which zeroes the three gas fields at every node.
`eq_iff_erase_gas_eq` says the custom equality is exactly equality after
erasure, at every depth, and so an equivalence relation.
-/
import VmInterface.Primitives

set_option autoImplicit false

namespace VmInterface

/-! ## `CallType` -/

/-- `zk_evm`'s `FarCallOpcode`; its discriminants are 0, 1, 2 in this order. -/
inductive FarCallOpcode where
  | Normal
  | Delegate
  | Mimic
deriving DecidableEq, Repr

inductive CallType where
  | Call (op : FarCallOpcode)
  | Create
  | NearCall
deriving DecidableEq, Repr

instance : Inhabited CallType := ⟨.Call .Normal⟩

/-- The byte `u8::deserialize` produced, mapped back to an opcode; any other
byte is the recoverable `serde` error. -/
def far_call_type_from_u8 (res : UInt8) : Except String FarCallOpcode :=
  match res with
  | 0 => .ok .Normal
  | 1 => .ok .Delegate
  | 2 => .ok .Mimic
  | _ => .error "Invalid FarCallOpcode"

/-- `s.serialize_u8(*far_call_type as u8)`. -/
def far_call_type_to_u8 (far_call_type : FarCallOpcode) : UInt8 :=
  match far_call_type with
  | .Normal => 0
  | .Delegate => 1
  | .Mimic => 2

/-- **The wire byte round-trips**, and the decoder accepts no other byte:
`far_call_type_from_u8` is the exact inverse of `far_call_type_to_u8` on its
image, and fails with its message everywhere else. -/
theorem far_call_type_from_u8_eq_ok_iff (b : UInt8) (op : FarCallOpcode) :
    far_call_type_from_u8 b = .ok op ↔ far_call_type_to_u8 op = b := by
  constructor
  · intro h
    unfold far_call_type_from_u8 at h
    split at h <;> cases h <;> rfl
  · rintro rfl
    cases op <;> rfl

/-- The bytes the decoder rejects are exactly `3..255`. -/
theorem far_call_type_from_u8_eq_error_iff (b : UInt8) :
    far_call_type_from_u8 b = .error "Invalid FarCallOpcode" ↔ 3 ≤ b.toNat := by
  unfold far_call_type_from_u8
  split
  case h_4 h₀ h₁ h₂ =>
    have e₀ : b.toNat ≠ 0 := fun h => h₀ (UInt8.toNat.inj h)
    have e₁ : b.toNat ≠ 1 := fun h => h₁ (UInt8.toNat.inj h)
    have e₂ : b.toNat ≠ 2 := fun h => h₂ (UInt8.toNat.inj h)
    exact iff_of_true rfl (by omega)
  all_goals exact iff_of_false (by simp) (by decide)

/-! ## `Call` -/

/-- Represents a call in the VM trace. -/
structure Call where
  /-- Type of the call. -/
  type : CallType
  /-- Address of the caller. -/
  «from» : Address
  /-- Address of the callee. -/
  «to» : Address
  /-- Gas from the parent call. -/
  parent_gas : UInt64
  /-- Gas provided for the call. -/
  gas : UInt64
  /-- Gas used by the call. -/
  gas_used : UInt64
  /-- Value transferred. -/
  value : U256
  /-- Input data. -/
  input : Bytes
  /-- Output data. -/
  output : Bytes
  /-- Error message provided by vm or some unexpected errors. -/
  error : Option String
  /-- Revert reason. -/
  revert_reason : Option String
  /-- Subcalls. -/
  calls : List Call

namespace Call

mutual
/-- `impl PartialEq for Call`. -/
def eq : Call → Call → Bool
  | ⟨type₁, from₁, to₁, _, _, _, value₁, input₁, output₁, error₁, revert_reason₁, calls₁⟩,
    ⟨type₂, from₂, to₂, _, _, _, value₂, input₂, output₂, error₂, revert_reason₂, calls₂⟩ =>
    revert_reason₁ == revert_reason₂ && input₁ == input₂ && from₁ == from₂ && to₁ == to₂ &&
      type₁ == type₂ && value₁ == value₂ && error₁ == error₂ && output₁ == output₂ &&
      eq_vec calls₁ calls₂

/-- `==` on `Vec<Call>`: equal lengths and `eq` element-wise. -/
def eq_vec : List Call → List Call → Bool
  | [], [] => true
  | c₁ :: cs₁, c₂ :: cs₂ => eq c₁ c₂ && eq_vec cs₁ cs₂
  | _, _ => false
end

mutual
/-- The trace with `parent_gas`, `gas` and `gas_used` zeroed at every node. -/
def erase_gas : Call → Call
  | ⟨type, «from», «to», _, _, _, value, input, output, error, revert_reason, calls⟩ =>
    ⟨type, «from», «to», 0, 0, 0, value, input, output, error, revert_reason, erase_gas_vec calls⟩

def erase_gas_vec : List Call → List Call
  | [] => []
  | c :: cs => erase_gas c :: erase_gas_vec cs
end

mutual
theorem eq_iff : ∀ c₁ c₂ : Call, eq c₁ c₂ = true ↔ erase_gas c₁ = erase_gas c₂
  | ⟨_, _, _, _, _, _, _, _, _, _, _, cs₁⟩, ⟨_, _, _, _, _, _, _, _, _, _, _, cs₂⟩ => by
    simp only [eq, erase_gas, Bool.and_eq_true, beq_iff_eq, Call.mk.injEq, eq_vec_iff cs₁ cs₂,
      true_and]
    tauto

theorem eq_vec_iff :
    ∀ cs₁ cs₂ : List Call, eq_vec cs₁ cs₂ = true ↔ erase_gas_vec cs₁ = erase_gas_vec cs₂
  | [], [] => by simp [eq_vec, erase_gas_vec]
  | c₁ :: cs₁, c₂ :: cs₂ => by
    simp only [eq_vec, erase_gas_vec, Bool.and_eq_true, eq_iff c₁ c₂, eq_vec_iff cs₁ cs₂,
      List.cons.injEq]
  | [], _ :: _ => by simp [eq_vec, erase_gas_vec]
  | _ :: _, [] => by simp [eq_vec, erase_gas_vec]
end

/-- **The custom equality is equality up to gas, at every depth.** Two call
trees are `==` exactly when they agree once `parent_gas`, `gas` and
`gas_used` are zeroed at every node; so `==` is an equivalence relation on
trees of any depth and width. -/
theorem eq_iff_erase_gas_eq :
    (∀ c₁ c₂ : Call, c₁.eq c₂ = true ↔ c₁.erase_gas = c₂.erase_gas) ∧
      Equivalence fun c₁ c₂ : Call => c₁.eq c₂ = true :=
  ⟨eq_iff, ⟨fun c => (eq_iff c c).2 rfl, fun h => (eq_iff _ _).2 ((eq_iff _ _).1 h).symm,
    fun h₁ h₂ => (eq_iff _ _).2 (((eq_iff _ _).1 h₁).trans ((eq_iff _ _).1 h₂))⟩⟩

/-- Gas is ignored; the output is not. -/
example : (Call.mk .Create (FixedBytes.zero 20) (FixedBytes.zero 20) 1 2 3 0 Bytes.empty
      Bytes.empty none none []).eq
    (Call.mk .Create (FixedBytes.zero 20) (FixedBytes.zero 20) 4 5 6 0 Bytes.empty Bytes.empty
      none none []) = true ∧
    (Call.mk .Create (FixedBytes.zero 20) (FixedBytes.zero 20) 1 2 3 0 Bytes.empty
      Bytes.empty none none []).eq
    (Call.mk .Create (FixedBytes.zero 20) (FixedBytes.zero 20) 1 2 3 0 Bytes.empty
      ⟨[0], by decide⟩ none none []) = false := by decide

end Call

end VmInterface
