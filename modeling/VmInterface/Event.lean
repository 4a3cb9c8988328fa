/-
`VmEvent` and the four extractors of `execution_result.rs`.

The three list extractors are one iterator pipeline,
`events.iter().filter(p).map(f).collect()`, with their own `p` and `f`; it is
`filter_map_collect` below, lazy as Rust's is, so the first panic in event
order is the one raised. The filters read `indexed_topics[0]` (and the
published-bytecode filter `indexed_topics[2]`) through `index`, which panics
past the end, and every extractor's `map` reads `indexed_topics[1]` the same
way: that these never panic is a theorem here (`matches_filter_eq`,
`index_topic_of_admits`), not a property of the encoding.

Over the pipeline sits the extractors' admission rule as a plain `Bool`,
`VmEvent.admits` (the address, exactly three topics, and topic 0 the
signature), and each extractor is shown equal to a `List.filter` /
`List.map` over it (`extract_*_eq`): that is where the topic-count check does
its work. Everything after that, and everything in `Metrics`, is about the
pure forms.
-/
import VmInterface.Primitives

set_option autoImplicit false

namespace VmInterface

/-! ## The event -/

/-- `L1BatchNumber`. -/
structure L1BatchNumber where
  val : UInt32
deriving DecidableEq, Repr

/-- Event generated by the VM. -/
structure VmEvent where
  location : L1BatchNumber × UInt32
  address : Address
  indexed_topics : List H256
  value : Bytes
deriving DecidableEq, Repr

namespace VmEvent

/-- Long signature of the contract deployment event (`ContractDeployed`). -/
def DEPLOY_EVENT_SIGNATURE : H256 := ⟨[
    41, 10, 253, 174, 35, 26, 63, 192, 187, 174, 139, 26, 246, 54, 152, 176, 161, 215, 155, 33,
    173, 23, 223, 3, 66, 223, 185, 82, 254, 116, 248, 229], rfl⟩

/-- Long signature of the known bytecodes storage bytecode publication event (`MarkedAsKnown`). -/
def PUBLISHED_BYTECODE_SIGNATURE : H256 := ⟨[
    201, 71, 34, 255, 19, 234, 207, 83, 84, 124, 71, 65, 218, 181, 34, 131, 83, 160, 89, 56,
    255, 205, 213, 212, 162, 213, 51, 174, 14, 97, 130, 135], rfl⟩

/-- Long signature of the L1 messenger publication event (`L1MessageSent`). -/
def L1_MESSAGE_EVENT_SIGNATURE : H256 := ⟨[
    58, 54, 228, 114, 145, 244, 32, 31, 175, 19, 127, 171, 8, 29, 146, 41, 91, 206, 45, 83,
    190, 44, 108, 166, 139, 168, 44, 127, 170, 156, 226, 65], rfl⟩

end VmEvent

/-! ## The iterator pipeline -/

/-- `iter().filter(p).map(f).collect()`. Each element is tested and, when kept,
mapped before the next is looked at. -/
def filter_map_collect {α β : Type} (p : α → Except String Bool) (f : α → Except String β) :
    List α → Except String (List β)
  | [] => pure []
  | a :: as => do
    if ← p a then
      let b ← f a
      let bs ← filter_map_collect p f as
      pure (b :: bs)
    else filter_map_collect p f as

section Pipeline

variable {α β : Type} (p : α → Except String Bool) (f : α → Except String β)

/-- **The pipeline is a list homomorphism**, panics included: on `as ++ bs` it
panics where it panics on `as`, and otherwise where it panics on `bs`. -/
theorem filter_map_collect_append (as bs : List α) :
    filter_map_collect p f (as ++ bs) =
      (do let xs ← filter_map_collect p f as
          let ys ← filter_map_collect p f bs
          pure (xs ++ ys)) := by
  induction as with
  | nil => simp only [List.nil_append, filter_map_collect, pure_bind, bind_pure]
  | cons a as ih =>
    simp only [List.cons_append, filter_map_collect]
    rcases p a with e | _ | _
    · rfl
    · simpa only [ok_bind, Bool.false_eq_true, ite_false] using ih
    · rcases f a with e | b
      · rfl
      · simp only [ok_bind, ite_true, List.append_eq, ih, bind_assoc, pure_bind, List.cons_append]

/-- With a filter that cannot panic and a map that cannot panic on what the
filter keeps, the pipeline is `List.filter` then `List.map`. -/
theorem filter_map_collect_eq_ok (q : α → Bool) (g : α → β) (l : List α)
    (hp : ∀ a ∈ l, p a = .ok (q a)) (hf : ∀ a ∈ l, q a = true → f a = .ok (g a)) :
    filter_map_collect p f l = .ok ((l.filter q).map g) := by
  induction l with
  | nil => rfl
  | cons a l ih =>
    have ih' := ih (fun x hx => hp x (List.mem_cons_of_mem a hx))
      (fun x hx => hf x (List.mem_cons_of_mem a hx))
    simp only [filter_map_collect, hp a (List.mem_cons_self a l), ok_bind, List.filter_cons]
    cases hq : q a
    · simpa using ih'
    · simp [hf a (List.mem_cons_self a l) hq, ih']

/-- With a filter that cannot panic, the pipeline is `List.filter` then
`List.mapM`: the map's panics are the only ones left. -/
theorem filter_map_collect_eq_mapM (q : α → Bool) (l : List α)
    (hp : ∀ a ∈ l, p a = .ok (q a)) :
    filter_map_collect p f l = (l.filter q).mapM f := by
  induction l with
  | nil => rfl
  | cons a l ih =>
    simp only [filter_map_collect, hp a (List.mem_cons_self a l), ok_bind, List.filter_cons,
      ih (fun x hx => hp x (List.mem_cons_of_mem a hx))]
    cases q a
    · rfl
    · rw [if_pos rfl, if_pos rfl, List.mapM_cons]

end Pipeline

/-! ## The filters and the extractors -/

namespace VmEvent

variable (env : SystemEnv)

/-- The admission filter the extractors share,
`event.address == address && event.indexed_topics.len() == 3 &&
event.indexed_topics[0] == signature`, short-circuiting left to right. -/
def matches_filter (address : Address) (signature : H256) (event : VmEvent) :
    Except String Bool :=
  if event.address == address then
    if event.indexed_topics.length == 3 then
      (· == signature) <$> index event.indexed_topics 0
    else pure false
  else pure false

/-- The decoding `map` of `extract_long_l2_to_l1_messages`. -/
def decode_l1_message (event : VmEvent) : Except String Bytes :=
  expect (env.ethabi_decode_bytes event.value) "Failed to decode L1MessageSent message"

/-- Extracts all the "long" L2->L1 messages that were submitted by the L1Messenger contract. -/
def extract_long_l2_to_l1_messages (events : List VmEvent) : Except String (List Bytes) :=
  filter_map_collect (matches_filter env.L1_MESSENGER_ADDRESS L1_MESSAGE_EVENT_SIGNATURE)
    (decode_l1_message env) events

/-- The filter of `extract_published_bytecodes`: the shared one, then
`event.indexed_topics[2] != H256::zero()`. -/
def published_bytecode_filter (event : VmEvent) : Except String Bool := do
  if ← matches_filter env.KNOWN_CODES_STORAGE_ADDRESS PUBLISHED_BYTECODE_SIGNATURE event then
    (· != FixedBytes.zero 32) <$> index event.indexed_topics 2
  else pure false

/-- Extracts bytecodes that were marked as known on the system contracts and
should be published onchain. -/
def extract_published_bytecodes (events : List VmEvent) : Except String (List H256) :=
  filter_map_collect (published_bytecode_filter env) (fun event => index event.indexed_topics 1)
    events

/-- Extracts all bytecodes marked as known on the system contracts. The Rust
returns the lazy iterator; its one consumer, `count()`, drives it to the end,
map included, so the collected list is what it sees. -/
def extract_bytecodes_marked_as_known (events : List VmEvent) : Except String (List H256) :=
  filter_map_collect (matches_filter env.KNOWN_CODES_STORAGE_ADDRESS PUBLISHED_BYTECODE_SIGNATURE)
    (fun event => index event.indexed_topics 1) events

/-- Returns `true` if any of the given events is a `ContractDeployed` event.
`get(0)` is the checked access, so there is nothing to panic. -/
def contains_contract_deployment (events : List VmEvent) : Bool :=
  events.any fun event => event.indexed_topics[0]?.elim false (· == DEPLOY_EVENT_SIGNATURE)

/-! ## The admission rule, and why the filters cannot panic -/

/-- The rule the extractors' filters decide: the address, exactly three
topics, and topic 0 the signature. -/
def admits (address : Address) (signature : H256) (event : VmEvent) : Bool :=
  event.address == address && event.indexed_topics.length == 3 &&
    event.indexed_topics[0]? == some signature

theorem admits_iff (address : Address) (signature : H256) (event : VmEvent) :
    admits address signature event = true ↔
      event.address = address ∧ event.indexed_topics.length = 3 ∧
        event.indexed_topics[0]? = some signature := by
  simp [admits, and_assoc]

/-- The admission rule of `extract_long_l2_to_l1_messages`. -/
abbrev admits_l1_message : VmEvent → Bool :=
  admits env.L1_MESSENGER_ADDRESS L1_MESSAGE_EVENT_SIGNATURE

/-- The admission rule of `extract_bytecodes_marked_as_known`. -/
abbrev admits_marked_as_known : VmEvent → Bool :=
  admits env.KNOWN_CODES_STORAGE_ADDRESS PUBLISHED_BYTECODE_SIGNATURE

/-- Topic `i`, read without a panic; the zero word past the end. -/
def topic (event : VmEvent) (i : Nat) : H256 := event.indexed_topics.getD i (FixedBytes.zero 32)

/-- **The shared filter never panics**: `indexed_topics[0]` is reached only
once `len() == 3` has held. -/
theorem matches_filter_eq (address : Address) (signature : H256) (event : VmEvent) :
    matches_filter address signature event = .ok (admits address signature event) := by
  by_cases ha : event.address = address
  · by_cases hl : event.indexed_topics.length = 3
    · have h0 : 0 < event.indexed_topics.length := by omega
      simp [matches_filter, admits, ha, hl, index_of_lt event.indexed_topics 0 h0,
        List.getElem?_eq_getElem h0]
    · simp [matches_filter, admits, ha, hl, pure_eq_ok]
  · simp [matches_filter, admits, ha, pure_eq_ok]

/-- On an admitted event the three topics are there to read. -/
theorem index_topic_of_admits {address : Address} {signature : H256} {event : VmEvent}
    (h : admits address signature event = true) (i : Nat) (hi : i < 3) :
    index event.indexed_topics i = .ok (topic event i) := by
  have hl := ((admits_iff _ _ _).1 h).2.1
  have hi' : i < event.indexed_topics.length := by omega
  rw [index_of_lt _ i hi', topic, List.getD_eq_getElem?_getD, List.getElem?_eq_getElem hi',
    Option.getD_some]

/-- The published-bytecode filter never panics either: `indexed_topics[2]` is
reached only on an admitted event. -/
theorem published_bytecode_filter_eq (event : VmEvent) :
    published_bytecode_filter env event =
      .ok (admits env.KNOWN_CODES_STORAGE_ADDRESS PUBLISHED_BYTECODE_SIGNATURE event &&
        topic event 2 != FixedBytes.zero 32) := by
  rw [published_bytecode_filter, matches_filter_eq, ok_bind]
  cases h : admits env.KNOWN_CODES_STORAGE_ADDRESS PUBLISHED_BYTECODE_SIGNATURE event
  · rfl
  · simp [index_topic_of_admits h 2 (by omega)]

/-! ## The extractors as list functions -/

/-- The hash `extract_published_bytecodes` and `extract_bytecodes_marked_as_known`
take from an admitted event. -/
abbrev bytecode_hash (event : VmEvent) : H256 := topic event 1

/-- The admission rule of `extract_published_bytecodes`: marked as known, with
a non-zero third topic. -/
abbrev admits_published (event : VmEvent) : Bool :=
  admits_marked_as_known env event && topic event 2 != FixedBytes.zero 32

theorem extract_bytecodes_marked_as_known_eq (events : List VmEvent) :
    extract_bytecodes_marked_as_known env events =
      .ok ((events.filter (admits_marked_as_known env)).map bytecode_hash) :=
  filter_map_collect_eq_ok _ _ _ _ events (fun e _ => matches_filter_eq _ _ e)
    (fun _ _ h => index_topic_of_admits h 1 (by omega))

theorem extract_published_bytecodes_eq (events : List VmEvent) :
    extract_published_bytecodes env events =
      .ok ((events.filter (admits_published env)).map bytecode_hash) :=
  filter_map_collect_eq_ok _ _ _ _ events (fun e _ => published_bytecode_filter_eq env e)
    (fun _ _ h => index_topic_of_admits (Bool.and_eq_true _ _ ▸ h).1 1 (by omega))

/-- The published-bytecode filter is the marked-as-known filter followed by
the zero-flag test, so the published hashes are the known ones with the
zero-flag events' entries deleted. -/
theorem extract_published_bytecodes_eq_filter (events : List VmEvent) :
    extract_published_bytecodes env events =
      .ok (((events.filter (admits_marked_as_known env)).filter
        fun e => topic e 2 != FixedBytes.zero 32).map bytecode_hash) := by
  rw [extract_published_bytecodes_eq, List.filter_filter]
  exact congrArg (fun l => .ok (l.map bytecode_hash) : List VmEvent → Except String (List H256))
    (List.filter_congr fun e _ => Bool.and_comm _ _)

theorem extract_long_l2_to_l1_messages_eq (events : List VmEvent) :
    extract_long_l2_to_l1_messages env events =
      (events.filter (admits_l1_message env)).mapM (decode_l1_message env) :=
  filter_map_collect_eq_mapM _ _ _ events (fun e _ => matches_filter_eq _ _ e)

/-- `contains_contract_deployment` holds exactly when some event's first
topic is the deployment signature, whatever its address or topic count. -/
theorem contains_contract_deployment_iff (events : List VmEvent) :
    contains_contract_deployment events = true ↔
      ∃ e ∈ events, e.indexed_topics[0]? = some DEPLOY_EVENT_SIGNATURE := by
  simp only [contains_contract_deployment, List.any_eq_true]
  refine exists_congr fun e => and_congr_right fun _ => ?_
  cases e.indexed_topics[0]? <;> simp

/-- **No extractor reads a topic out of bounds.** Every topic read of the
three filters and of the bytecode extractors' `map` returns, for every event
whatever its address and topic count; so the two bytecode extractors always
return, and `extract_long_l2_to_l1_messages` panics exactly when an admitted
`L1MessageSent` event does not decode: at the first such event, with the
`.expect` message followed by the decoder's error, every admitted event before
it having decoded. The deployment check reads through `get(0)` and holds
exactly when some event's first topic is the deployment signature. -/
theorem extractors_never_index_out_of_bounds (events : List VmEvent) :
    (∀ (address : Address) (signature : H256) (e : VmEvent),
      matches_filter address signature e = .ok (admits address signature e)) ∧
    (∀ e : VmEvent, published_bytecode_filter env e =
      .ok (admits env.KNOWN_CODES_STORAGE_ADDRESS PUBLISHED_BYTECODE_SIGNATURE e &&
        topic e 2 != FixedBytes.zero 32)) ∧
    (∀ e : VmEvent, admits env.KNOWN_CODES_STORAGE_ADDRESS PUBLISHED_BYTECODE_SIGNATURE e = true →
      index e.indexed_topics 1 = .ok (topic e 1)) ∧
    (∃ hs, extract_published_bytecodes env events = .ok hs) ∧
    (∃ hs, extract_bytecodes_marked_as_known env events = .ok hs) ∧
    (∀ msg, extract_long_l2_to_l1_messages env events = .error msg ↔
      ∃ pre e post err, events = pre ++ e :: post ∧
        (∀ e' ∈ pre, e'.address = env.L1_MESSENGER_ADDRESS → e'.indexed_topics.length = 3 →
          e'.indexed_topics[0]? = some L1_MESSAGE_EVENT_SIGNATURE →
            ∃ m, env.ethabi_decode_bytes e'.value = .ok m) ∧
        e.address = env.L1_MESSENGER_ADDRESS ∧ e.indexed_topics.length = 3 ∧
        e.indexed_topics[0]? = some L1_MESSAGE_EVENT_SIGNATURE ∧
        env.ethabi_decode_bytes e.value = .error err ∧
        msg = "Failed to decode L1MessageSent message: " ++ err) ∧
    (contains_contract_deployment events = true ↔
      ∃ e ∈ events, e.indexed_topics[0]? = some DEPLOY_EVENT_SIGNATURE) := by
  refine ⟨matches_filter_eq, published_bytecode_filter_eq env,
    fun e h => index_topic_of_admits h 1 (by omega), ⟨_, extract_published_bytecodes_eq env events⟩,
    ⟨_, extract_bytecodes_marked_as_known_eq env events⟩, fun msg => ?_,
    contains_contract_deployment_iff events⟩
  rw [extract_long_l2_to_l1_messages_eq, filter_mapM_eq_error_iff]
  simp only [admits_iff, decode_l1_message, expect_eq_ok_iff, expect_eq_error_iff, and_imp,
    and_assoc, exists_and_left, String.reduceAppend]

end VmEvent

end VmInterface
