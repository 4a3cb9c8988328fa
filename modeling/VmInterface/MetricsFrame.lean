/-
What `get_execution_metrics` reads of the event log, which panic it raises,
and what it does with the order of the events.

The extractors admit an event by its address, its topic count and its topic
0, so the metrics read only the events one of them admits: any other event
(another contract's, a `ContractDeployed`, a system event of the wrong arity)
moves `vm_events` and nothing else, and cannot make the call panic. The
deployment flag reads the rest: an admitted event's topic 0 is never the
`ContractDeployed` signature, so the flag and the metrics never look at the
same event.

The panic is exact. Every long message is extracted before any bytecode is
measured, so the call panics at the first admitted `L1MessageSent` payload
that does not decode, wherever it stands in the log, with the first
`.expect`'s message and the decoder's error; and only when every payload
decodes, at the first published bytecode hash that does not parse. The lemma
under both is `filter_mapM_eq_error_iff`.

Whether the call panics, and the record it returns, do not depend on the
order of the log: the sums are taken in a commutative monoid, and a panic
only needs some bad event. The message does: two undecodable payloads with
different decoder errors swap their messages with their places.
-/
import VmInterface.Metrics

set_option autoImplicit false

namespace VmInterface

open VmEvent

namespace VmExecutionResultAndLogs

variable (env : SystemEnv)

/-! ## What the metrics read -/

/-- The events one of the extractors admits. -/
def admits_any (event : VmEvent) : Bool :=
  admits_l1_message env event || admits_marked_as_known env event

theorem filter_filter_of_imp {α : Type} {p q : α → Bool} (h : ∀ a, p a = true → q a = true)
    (l : List α) : (l.filter q).filter p = l.filter p := by
  rw [List.filter_filter]
  exact List.filter_congr fun a _ => by cases hp : p a <;> simp [hp, h a]

theorem extract_long_l2_to_l1_messages_filter_admits_any (events : List VmEvent) :
    extract_long_l2_to_l1_messages env (events.filter (admits_any env)) =
      extract_long_l2_to_l1_messages env events := by
  rw [extract_long_l2_to_l1_messages_eq, extract_long_l2_to_l1_messages_eq,
    filter_filter_of_imp fun e h => by simp [admits_any, h]]

theorem extract_published_bytecodes_filter_admits_any (events : List VmEvent) :
    extract_published_bytecodes env (events.filter (admits_any env)) =
      extract_published_bytecodes env events := by
  rw [extract_published_bytecodes_eq, extract_published_bytecodes_eq,
    filter_filter_of_imp fun e h => by simp_all [admits_any]]

theorem extract_bytecodes_marked_as_known_filter_admits_any (events : List VmEvent) :
    extract_bytecodes_marked_as_known env (events.filter (admits_any env)) =
      extract_bytecodes_marked_as_known env events := by
  rw [extract_bytecodes_marked_as_known_eq, extract_bytecodes_marked_as_known_eq,
    filter_filter_of_imp fun e h => by simp [admits_any, h]]

/-- An admitted event's topic 0 is its extractor's signature, which is not
the `ContractDeployed` one. -/
theorem admits_any_eq_false_of_deploy {e : VmEvent}
    (h : e.indexed_topics[0]? = some DEPLOY_EVENT_SIGNATURE) : admits_any env e = false := by
  have h₁ : DEPLOY_EVENT_SIGNATURE ≠ L1_MESSAGE_EVENT_SIGNATURE := by decide
  have h₂ : DEPLOY_EVENT_SIGNATURE ≠ PUBLISHED_BYTECODE_SIGNATURE := by decide
  simp [admits_any, admits, h, h₁, h₂]

/-- **The metrics read only the admitted events, and the deployment flag only
the others.** On every result, `get_execution_metrics` (panic message
included) is what it is on the sublog of events some extractor admits, with
`vm_events` counting the whole log: no other event, from whatever contract,
can move a fee metric or make the call panic. `contains_contract_deployment`
is unchanged when every admitted event is removed. -/
theorem get_execution_metrics_reads_admitted_events (r : VmExecutionResultAndLogs) :
    r.get_execution_metrics env =
        ((r.with_events (r.logs.events.filter (admits_any env))).get_execution_metrics env).map
          (fun m => { m with vm_events := r.logs.events.length.toUInt64 }) ∧
      contains_contract_deployment (r.logs.events.filter fun e => !admits_any env e) =
        contains_contract_deployment r.logs.events := by
  refine ⟨?_, Bool.eq_iff_iff.2 ?_⟩
  · simp only [get_execution_metrics, with_events, extract_long_l2_to_l1_messages_filter_admits_any,
      extract_published_bytecodes_filter_admits_any,
      extract_bytecodes_marked_as_known_filter_admits_any]
    rw [extract_published_bytecodes_eq, extract_bytecodes_marked_as_known_eq]
    cases extract_long_l2_to_l1_messages env r.logs.events with
    | error m => rfl
    | ok msgs =>
      simp only [ok_bind]
      cases List.mapM (published_bytecode_len env)
        ((r.logs.events.filter (admits_published env)).map bytecode_hash) <;> rfl
  · simp only [contains_contract_deployment_iff, List.mem_filter]
    exact ⟨fun ⟨e, ⟨he, _⟩, h⟩ => ⟨e, he, h⟩,
      fun ⟨e, he, h⟩ => ⟨e, ⟨he, by simp [admits_any_eq_false_of_deploy env h]⟩, h⟩⟩

/-! ## The panic channel -/

/-- **The panic channel.** `get_execution_metrics` panics in exactly two
ways. At the first admitted `L1MessageSent` event whose payload does not
decode, wherever it stands in the log, with the first `.expect`'s message and
the decoder's error; or, only when every such payload decodes, at the first
published event whose bytecode hash does not parse, with the second message
and the parser's error. No other event, and no topic read, makes it panic. -/
theorem get_execution_metrics_eq_error_iff (r : VmExecutionResultAndLogs) (msg : String) :
    r.get_execution_metrics env = .error msg ↔
      (∃ pre e post err, r.logs.events = pre ++ e :: post ∧
        (∀ e' ∈ pre, admits_l1_message env e' = true →
          ∃ m, env.ethabi_decode_bytes e'.value = .ok m) ∧
        admits_l1_message env e = true ∧ env.ethabi_decode_bytes e.value = .error err ∧
        msg = "Failed to decode L1MessageSent message: " ++ err) ∨
      ((∀ e ∈ r.logs.events, admits_l1_message env e = true →
          ∃ m, env.ethabi_decode_bytes e.value = .ok m) ∧
        ∃ pre e post err, r.logs.events = pre ++ e :: post ∧
          (∀ e' ∈ pre, admits_published env e' = true →
            ∃ n, env.bytecode_len_in_bytes (bytecode_hash e') = .ok n) ∧
          admits_published env e = true ∧ env.bytecode_len_in_bytes (bytecode_hash e) = .error err ∧
          msg = "published unparseable bytecode hash: " ++ err) := by
  simp only [get_execution_metrics, extract_long_l2_to_l1_messages_eq,
    extract_published_bytecodes_eq, extract_bytecodes_marked_as_known_eq, ok_bind, mapM_map_eq,
    bind_eq_error_iff, bind_pure_eq_error, exists_and_right, filter_mapM_eq_error_iff,
    filter_mapM_isOk_iff, decode_l1_message, expect_eq_ok_iff, expect_eq_error_iff,
    published_bytecode_len_eq_error_iff, published_bytecode_len_isOk_iff, String.reduceAppend,
    pure_eq_ok, reduceCtorEq, and_false, exists_false, or_false, and_assoc, exists_and_left]

/-! ## Order -/

theorem map_sum_bind_cons {M : Type} [AddMonoid M] (a : M) (o : Option (List M)) :
    (o >>= fun as => pure (a :: as)).map List.sum = (o.map List.sum).map (a + ·) := by
  cases o <;> rfl

/-- A fallible sum does not depend on the order of its terms; `none` absorbs
wherever it stands. -/
theorem mapM_map_sum_perm {α M : Type} [AddCommMonoid M] (f : α → Option M) {l₁ l₂ : List α}
    (h : l₁.Perm l₂) : (l₁.mapM f).map List.sum = (l₂.mapM f).map List.sum := by
  induction h with
  | nil => rfl
  | cons x _ ih =>
    rw [List.mapM_cons, List.mapM_cons]
    cases f x with
    | none => rfl
    | some a => exact (map_sum_bind_cons a _).trans ((congrArg _ ih).trans (map_sum_bind_cons a _).symm)
  | swap x y l =>
    rw [List.mapM_cons, List.mapM_cons, List.mapM_cons, List.mapM_cons]
    cases f x <;> cases f y <;> cases l.mapM f <;>
      first | rfl | exact congrArg some (add_left_comm _ _ _)
  | trans _ _ ih₁ ih₂ => exact ih₁.trans ih₂

theorem event_metrics_of_perm {l₁ l₂ : List VmEvent} (h : l₁.Perm l₂) :
    event_metrics_of env l₁ = event_metrics_of env l₂ := by
  rw [event_metrics_of_eq_sum, event_metrics_of_eq_sum, mapM_map_sum_perm _ h]

/-- **Whether the metrics panic, and what they are, do not depend on the
order of the log.** On any two event logs that are permutations of each
other, `get_execution_metrics` either returns the same record on both or
panics on both. -/
theorem get_execution_metrics_perm (r : VmExecutionResultAndLogs) {l₁ l₂ : List VmEvent}
    (h : l₁.Perm l₂) :
    ((r.with_events l₁).get_execution_metrics env).toOption =
        ((r.with_events l₂).get_execution_metrics env).toOption ∧
      ((r.with_events l₁).get_execution_metrics env).toBool =
        ((r.with_events l₂).get_execution_metrics env).toBool := by
  have ho : ((r.with_events l₁).get_execution_metrics env).toOption =
      ((r.with_events l₂).get_execution_metrics env).toOption := by
    rw [get_execution_metrics_toOption, get_execution_metrics_toOption]
    exact congrArg (Option.map _) (event_metrics_of_perm env h)
  refine ⟨ho, ?_⟩
  revert ho
  cases (r.with_events l₁).get_execution_metrics env <;>
    cases (r.with_events l₂).get_execution_metrics env <;> simp [Except.toOption, Except.toBool]

/-- A bytecode hash of version 1 (EraVM) for a three-word bytecode. -/
def sample_bytecode_hash : H256 := ⟨[1, 0, 0, 3] ++ List.replicate 28 0, by decide⟩

/-- A `MarkedAsKnown` event of `SystemEnv.sample` with a non-zero publish flag. -/
def sample_published_event : VmEvent :=
  ⟨(⟨0⟩, 1), SystemEnv.sample.KNOWN_CODES_STORAGE_ADDRESS,
    [PUBLISHED_BYTECODE_SIGNATURE, sample_bytecode_hash, ⟨List.replicate 31 0 ++ [1], by decide⟩],
    Bytes.empty⟩

/-- A long message and a published bytecode, in either order. -/
theorem get_execution_metrics_of_swapped_sample :
    [sample_l1_message_event, sample_published_event].Perm
        [sample_published_event, sample_l1_message_event] ∧
      ((mock_success.with_events [sample_l1_message_event, sample_published_event]).get_execution_metrics
          SystemEnv.sample).toOption =
        ((mock_success.with_events [sample_published_event, sample_l1_message_event]).get_execution_metrics
          SystemEnv.sample).toOption ∧
      ((mock_success.with_events [sample_l1_message_event, sample_published_event]).get_execution_metrics
          SystemEnv.sample).toBool =
        ((mock_success.with_events [sample_published_event, sample_l1_message_event]).get_execution_metrics
          SystemEnv.sample).toBool :=
  ⟨List.Perm.swap _ _ _, get_execution_metrics_perm _ _ (List.Perm.swap _ _ _)⟩

end VmExecutionResultAndLogs

end VmInterface
