/-
The scalar and byte types `execution_result.rs` is written over, and the
collaborators it imports but does not define.

`H256`, `Address` and `U256` are the `primitive-types` words; `Vec<u8>` is
`Bytes`, a byte list that carries the one bound every Rust allocation keeps,
`len ≤ isize::MAX`. That bound is what makes `event.len() + 31` safe in
`get_execution_metrics`, so it is a field here rather than a hypothesis of
every theorem that needs it.

`usize` is `UInt64` (the node runs on 64-bit targets) with wrapping addition:
release builds, where `Iterator::sum` and `+` wrap rather than panic. A Rust
panic (`[i]` past the end, `Result::expect`, `as_u64` of a large word) is an
`Except String` error carrying the panic's message; for `Result::expect` that
is the message, a colon and the error's `Debug` text.

The rest of the file is `SystemEnv`: the three system-contract addresses and
the publish overhead from `zksync_system_constants`, the `ethabi` decoder of a
single `bytes` argument, and `BytecodeHash::try_from` followed by
`len_in_bytes`, the two fallible ones returning their error's `Debug` text.
None of them is under `src/`, so every theorem downstream is stated for an
arbitrary `SystemEnv`. `SystemEnv.sample`, which the witnesses run on, has
the system addresses of the protocol, a decoder of one ABI `bytes` argument
and a reader of EraVM bytecode hashes.
-/
import Mathlib

set_option autoImplicit false

namespace VmInterface

/-! ## Fixed-width words -/

/-- `[u8; n]`: exactly `n` bytes. -/
structure FixedBytes (n : Nat) where
  bytes : List UInt8
  length_eq : bytes.length = n
deriving DecidableEq, Repr

/-- `H256`. -/
abbrev H256 := FixedBytes 32

/-- `Address` (`H160`). -/
abbrev Address := FixedBytes 20

/-- `H256::zero()` and `Address::zero()`. -/
def FixedBytes.zero (n : Nat) : FixedBytes n := ⟨List.replicate n 0, List.length_replicate n 0⟩

/-- `U256`. -/
abbrev U256 := BitVec 256

/-- `usize` on the 64-bit targets the node is built for. -/
abbrev usize := UInt64

/-- `isize::MAX`: no `Vec` is longer. -/
def isize_MAX : Nat := 2 ^ 63 - 1

theorem usize_toNat_add (a b : usize) : (a + b).toNat = (a.toNat + b.toNat) % 2 ^ 64 :=
  BitVec.toNat_add a.toBitVec b.toBitVec

@[simp] theorem usize_toNat_ofNat (n : Nat) : n.toUInt64.toNat = n % 2 ^ 64 :=
  BitVec.toNat_ofNat n 64

theorem usize_toNat_mul (a b : usize) : (a * b).toNat = a.toNat * b.toNat % 2 ^ 64 :=
  BitVec.toNat_mul a.toBitVec b.toBitVec

/-- A wrapping sum is the exact sum, reduced once at the end. -/
theorem usize_list_sum_toNat (xs : List usize) :
    xs.sum.toNat = (xs.map UInt64.toNat).sum % 2 ^ 64 := by
  induction xs with
  | nil => rfl
  | cons x xs ih =>
    rw [List.sum_cons, usize_toNat_add, ih, List.map_cons, List.sum_cons, Nat.add_mod_mod]

@[simp] theorem usize_ofNat_zero : (0 : Nat).toUInt64 = 0 := rfl

@[simp] theorem usize_ofNat_one : (1 : Nat).toUInt64 = 1 := rfl

/-- `Nat → usize` is additive: a length cast after `++` is the sum of the casts. -/
theorem usize_ofNat_add (m n : Nat) : (m + n).toUInt64 = m.toUInt64 + n.toUInt64 :=
  UInt64.toNat.inj (by rw [usize_toNat_add, usize_toNat_ofNat, usize_toNat_ofNat,
    usize_toNat_ofNat, Nat.add_mod])

/-- `Iterator::sum` over `usize`: a left fold of wrapping `+` from `0`. -/
def usize_sum (xs : List usize) : usize := xs.foldl (· + ·) 0

/-- The fold is the list sum: wrapping addition is associative and commutative. -/
@[simp] theorem usize_sum_eq (xs : List usize) : usize_sum xs = xs.sum := by
  rw [usize_sum, List.sum, List.foldl_eq_foldr]

/-! ## Panics

`Except String` as the panic channel, and `Except.toOption` for forgetting
which panic it was. -/

@[simp] theorem ok_bind {α β : Type} (a : α) (f : α → Except String β) :
    (Except.ok a >>= f) = f a := rfl

@[simp] theorem error_bind {α β : Type} (e : String) (f : α → Except String β) :
    (Except.error e >>= f) = Except.error e := rfl

theorem pure_eq_ok {α : Type} (a : α) : (pure a : Except String α) = .ok a := rfl

/-- Inverting a successful sequencing step. -/
theorem bind_eq_ok {α β : Type} {x : Except String α} {f : α → Except String β} {b : β} :
    x >>= f = .ok b ↔ ∃ a, x = .ok a ∧ f a = .ok b := by
  cases x <;> simp

theorem bind_eq_error_iff {α β : Type} (x : Except String α) (f : α → Except String β)
    (msg : String) : x >>= f = .error msg ↔ x = .error msg ∨ ∃ a, x = .ok a ∧ f a = .error msg := by
  cases x <;> simp

theorem bind_pure_eq_error {α β : Type} (x : Except String α) (g : α → β) (msg : String) :
    (x >>= fun a => pure (g a)) = .error msg ↔ x = .error msg := by
  cases x <;> simp [pure_eq_ok]

/-- `Result::expect`: on `Err(e)` it panics with the message, a colon and
`e`'s `Debug` text, which is what a collaborator's `Except` error carries. -/
def expect {α : Type} (r : Except String α) (msg : String) : Except String α :=
  match r with
  | .ok a => .ok a
  | .error err => .error (msg ++ ": " ++ err)

@[simp] theorem expect_ok {α : Type} (a : α) (msg : String) : expect (.ok a) msg = .ok a := rfl

@[simp] theorem expect_error {α : Type} (err msg : String) :
    expect (.error err : Except String α) msg = .error (msg ++ ": " ++ err) :=
  rfl

theorem expect_eq_ok_iff {α : Type} (r : Except String α) (msg : String) (a : α) :
    expect r msg = .ok a ↔ r = .ok a := by
  cases r <;> simp

theorem expect_eq_error_iff {α : Type} (r : Except String α) (msg m : String) :
    expect r msg = .error m ↔ ∃ err, r = .error err ∧ m = msg ++ ": " ++ err := by
  cases r <;> simp [eq_comm]

/-- Forgetting the panic message commutes with sequencing. -/
theorem toOption_bind {α β : Type} (x : Except String α) (f : α → Except String β) :
    (x >>= f).toOption = x.toOption >>= fun a => (f a).toOption := by
  cases x <;> rfl

theorem toOption_mapM {α β : Type} (f : α → Except String β) (l : List α) :
    (l.mapM f).toOption = l.mapM fun a => (f a).toOption := by
  induction l with
  | nil => rfl
  | cons a l ih =>
    simp only [List.mapM_cons, toOption_bind, ih]
    rfl

@[simp] theorem toOption_expect {α : Type} (r : Except String α) (msg : String) :
    (expect r msg).toOption = r.toOption := by
  cases r <;> rfl

/-- `expect` on every element is `expect` on the whole: the first `Err` is the
one reported. -/
theorem mapM_expect {α β : Type} (g : α → Except String β) (msg : String) (l : List α) :
    (l.mapM fun a => expect (g a) msg) = expect (l.mapM g) msg := by
  induction l with
  | nil => rfl
  | cons a l ih =>
    rw [List.mapM_cons, List.mapM_cons, ih]
    cases g a with
    | error e => rfl
    | ok b => cases l.mapM g <;> rfl

theorem mapM_map_eq {α β γ : Type} (h : α → β) (g : β → Except String γ) (l : List α) :
    (l.map h).mapM g = l.mapM fun a => g (h a) := by
  induction l with
  | nil => rfl
  | cons a l ih => rw [List.map_cons, List.mapM_cons, List.mapM_cons, ih]

/-- Splitting `x :: l` around one element: either the element is `x`, or it
lies in `l`. -/
theorem exists_cons_eq_append_cons {α : Type} (x : α) (l : List α)
    (R : List α → α → List α → Prop) :
    (∃ pre a post, x :: l = pre ++ a :: post ∧ R pre a post) ↔
      R [] x l ∨ ∃ pre a post, l = pre ++ a :: post ∧ R (x :: pre) a post := by
  constructor
  · rintro ⟨_ | ⟨y, pre⟩, a, post, h, hR⟩
    · obtain ⟨rfl, rfl⟩ := List.cons.inj h
      exact .inl hR
    · obtain ⟨rfl, rfl⟩ := List.cons.inj h
      exact .inr ⟨pre, a, post, rfl, hR⟩
  · rintro (hR | ⟨pre, a, post, rfl, hR⟩)
    · exact ⟨[], x, l, rfl, hR⟩
    · exact ⟨x :: pre, a, post, rfl, hR⟩

/-- **Where a filtered `mapM` panics.** It panics exactly with the panic of
the first kept element whose function panics, every kept element before it
having returned. -/
theorem filter_mapM_eq_error_iff {α β : Type} (q : α → Bool) (f : α → Except String β)
    (l : List α) (msg : String) :
    (l.filter q).mapM f = .error msg ↔
      ∃ pre a post, l = pre ++ a :: post ∧ (∀ b ∈ pre, q b = true → ∃ y, f b = .ok y) ∧
        q a = true ∧ f a = .error msg := by
  induction l with
  | nil =>
    refine ⟨(fun h => nomatch h), ?_⟩
    rintro ⟨pre, a, post, h, -⟩
    exact absurd h.symm (List.append_ne_nil_of_right_ne_nil pre (List.cons_ne_nil a post))
  | cons x l ih =>
    rw [exists_cons_eq_append_cons, List.filter_cons]
    simp only [List.forall_mem_cons, List.not_mem_nil, false_implies, implies_true, true_and]
    cases hq : q x
    · simp only [hq, Bool.false_eq_true, ite_false, false_implies, true_and, false_and, and_false,
        false_or, ih]
    · rw [if_pos rfl, List.mapM_cons]
      cases hf : f x with
      | error m =>
        simp only [hf, error_bind, Except.error.injEq, reduceCtorEq, exists_false, imp_false,
          not_true_eq_false, false_and, and_false, exists_false, or_false, and_true, true_and]
      | ok y =>
        simp only [hf, ok_bind, bind_pure_eq_error, ih, reduceCtorEq, and_false, false_or,
          exists_const, implies_true, true_and, true_implies, Except.ok.injEq, exists_eq']

/-- A filtered `mapM` returns exactly when the function returns on every kept element. -/
theorem filter_mapM_isOk_iff {α β : Type} (q : α → Bool) (f : α → Except String β) (l : List α) :
    (∃ ys, (l.filter q).mapM f = .ok ys) ↔ ∀ b ∈ l, q b = true → ∃ y, f b = .ok y := by
  induction l with
  | nil => exact iff_of_true ⟨[], rfl⟩ fun b h => absurd h (List.not_mem_nil b)
  | cons x l ih =>
    rw [List.filter_cons, List.forall_mem_cons]
    cases hq : q x
    · simp only [Bool.false_eq_true, ite_false, false_implies, true_and, ih]
    · rw [if_pos rfl, List.mapM_cons]
      cases hf : f x with
      | error m => simp only [error_bind, reduceCtorEq, exists_false, true_implies, false_and]
      | ok y =>
        rw [← ih, ok_bind]
        cases (l.filter q).mapM f <;>
          simp only [error_bind, ok_bind, pure_eq_ok, reduceCtorEq, Except.ok.injEq, exists_false,
            exists_eq', true_implies, true_and, and_false]

/-! ## `Vec<u8>` -/

/-- `Vec<u8>`: a byte list within the allocation bound. -/
structure Bytes where
  toList : List UInt8
  length_le : toList.length ≤ isize_MAX
deriving DecidableEq, Repr

/-- `vec![]`. -/
def Bytes.empty : Bytes := ⟨[], Nat.zero_le _⟩

/-- `Vec::len`, as a `usize`. -/
def Bytes.len (b : Bytes) : usize := b.toList.length.toUInt64

/-- `data[offset..][..len]`, clamped to the end: never longer than `data`. -/
def Bytes.slice (b : Bytes) (offset len : Nat) : Bytes :=
  ⟨(b.toList.drop offset).take len, by
    have := b.length_le
    simp only [List.length_take, List.length_drop]
    omega⟩

/-- The cast in `len` never wraps. -/
@[simp] theorem Bytes.len_toNat (b : Bytes) : b.len.toNat = b.toList.length := by
  have := b.length_le
  simp only [Bytes.len, usize_toNat_ofNat, isize_MAX] at *
  omega

/-! ## `Vec` indexing -/

/-- `v[i]`: `Index` on a `Vec` panics past the end. -/
def index {α : Type} (v : List α) (i : Nat) : Except String α :=
  match v[i]? with
  | some a => .ok a
  | none => .error ("index out of bounds: the len is " ++ toString v.length ++
      " but the index is " ++ toString i)

theorem index_of_lt {α : Type} (v : List α) (i : Nat) (h : i < v.length) :
    index v i = .ok v[i] := by
  rw [index, List.getElem?_eq_getElem h]

/-! ## The collaborators -/

/-- What `execution_result.rs` imports and does not define. `ethabi_decode_bytes`
is `ethabi::decode(&[ParamType::Bytes], _)` with its one token taken as bytes:
`ethabi` returns one token per requested type, so the two `unwrap`s after it
cannot fail, and an error is the `Err` the `.expect` panics on, as its `Debug`
text. `bytecode_len_in_bytes` is `BytecodeHash::try_from(_)` followed by
`len_in_bytes()`, its error likewise the `try_from` error's `Debug` text. -/
structure SystemEnv where
  L1_MESSENGER_ADDRESS : Address
  KNOWN_CODES_STORAGE_ADDRESS : Address
  BOOTLOADER_ADDRESS : Address
  PUBLISH_BYTECODE_OVERHEAD : UInt32
  ethabi_decode_bytes : Bytes → Except String Bytes
  bytecode_len_in_bytes : H256 → Except String usize

/-! ## The ABI encoding of one `bytes` argument -/

/-- A 32-byte big-endian word. -/
def abi_word (n : Nat) : List UInt8 :=
  List.ofFn fun i : Fin 32 => (n / 256 ^ (31 - i.val) % 256).toUInt8

/-- Right-pad to a multiple of 32 with zeros. -/
def pad32 (bs : List UInt8) : List UInt8 :=
  bs ++ List.replicate ((32 - bs.length % 32) % 32) 0

/-- `ethabi::encode(&[Token::Bytes(m)])`: the head's offset word (32), the
length word, then the bytes right-padded to a multiple of 32. -/
def abi_encode_bytes (m : List UInt8) : List UInt8 :=
  abi_word 32 ++ abi_word m.length ++ pad32 m

@[simp] theorem abi_word_length (n : Nat) : (abi_word n).length = 32 := List.length_ofFn _

/-- **The encoded length.** Two words of head, then the payload rounded up to
a whole number of words. -/
theorem abi_encode_bytes_length (m : List UInt8) :
    (abi_encode_bytes m).length = (m.length + 31) / 32 * 32 + 64 := by
  simp only [abi_encode_bytes, pad32, List.length_append, abi_word_length,
    List.length_replicate]
  omega

/-! ## The sample environment -/

/-- A 32-byte word read big-endian. -/
def abi_word_value (w : List UInt8) : Nat := w.foldl (fun acc b => acc * 256 + b.toNat) 0

/-- The word at `offset` read as a `usize`, as `ethabi`'s `peek_32_bytes` and
`as_usize` read it: the word must lie inside the data and its first 28 bytes
must be zero. -/
def abi_read_usize (data : List UInt8) (offset : Nat) : Except String Nat :=
  if offset + 32 ≤ data.length ∧ ((data.drop offset).take 28).all (· == 0) then
    .ok (abi_word_value ((data.drop offset).take 32))
  else .error "InvalidData"

/-- The sample's decoder of one ABI `bytes` argument: the offset word, the
length word at that offset, then that many bytes after it. An empty input is
`InvalidName` and any other malformed one `InvalidData`, as `ethabi` names them. -/
def abi_decode_bytes (data : Bytes) : Except String Bytes :=
  if data.toList.isEmpty then .error "InvalidName" else do
    let dynamic_offset ← abi_read_usize data.toList 0
    let len ← abi_read_usize data.toList dynamic_offset
    if dynamic_offset + 32 + len ≤ data.toList.length then
      .ok (data.slice (dynamic_offset + 32) len)
    else .error "InvalidData"

/-- The sample's `BytecodeHash::try_from(_).len_in_bytes()`: a hash with
version byte 1 (an EraVM bytecode) carries its length in 32-byte words in
bytes 2 and 3; the sample rejects every other version. -/
def sample_bytecode_len_in_bytes (h : H256) : Except String usize :=
  match h.bytes with
  | 1 :: _ :: hi :: lo :: _ => .ok ((hi.toNat * 256 + lo.toNat) * 32).toUInt64
  | _ => .error "unsupported bytecode hash version"

/-- A system-contract address `0x…80xx`. -/
def system_address (lo : UInt8) : Address := ⟨List.replicate 18 0 ++ [0x80, lo], by simp⟩

/-- A `SystemEnv` to run the model on: the bootloader at `0x8001`, the known
codes storage at `0x8004`, the L1 messenger at `0x8008`, a publish overhead of
100, and the two sample collaborators above. -/
def SystemEnv.sample : SystemEnv :=
  ⟨system_address 0x08, system_address 0x04, system_address 0x01, 100, abi_decode_bytes,
    sample_bytecode_len_in_bytes⟩

end VmInterface
