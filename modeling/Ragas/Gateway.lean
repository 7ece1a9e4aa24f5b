import Ragas.Cost

/-!
# The language model gateway

`BaseRagasLLM` and `LangchainLLMWrapper` (`ragas/llms/base.py`) put a langchain
model behind `generate_text`, `agenerate_text` and the dispatcher `generate`.
A run of the gateway is a computation in `GatewayM`: it may raise, and it
appends every call it makes to the provider to a trace, which a failed attempt
does not roll back. A provider answers a call given the calls made before it,
so it may fail on some attempts and not others.

Both entry points are tenacity's `retry` around one body: the temperature is
`get_temperature(n)` whatever the caller asked for, and a provider that cannot
complete several times natively gets `n` copies of the prompt, whose first
completions are re-packed into one list. The non-blocking path awaits
`agenerate_prompt` where the blocking one calls `generate_prompt`. Waiting
between attempts, the executor hop of `run_in_executor` and callbacks are not
modelled.

`retrySpec` states what tenacity's `stop_after_attempt` promises, read off the
outcome of each attempt, and the retry loop is proved to refine it. `Sends`
bounds the provider calls a run adds to the trace, every retried attempt
included; the metrics' per-row budgets are built from it.
-/
namespace Ragas

/-- The classes of `MULTIPLE_COMPLETION_SUPPORTED`, and any other class by name. -/
inductive LangchainClass where
  | openAI
  | chatOpenAI
  | azureOpenAI
  | azureChatOpenAI
  | chatVertexAI
  | vertexAI
  | other (name : String)
  deriving DecidableEq, Repr

def multipleCompletionSupported : List LangchainClass :=
  [.openAI, .chatOpenAI, .azureOpenAI, .azureChatOpenAI, .chatVertexAI, .vertexAI]

/-- One call of `generate_prompt` or `agenerate_prompt`; `n` is only passed on the
native multi-completion path. -/
structure ProviderCall (P : Type) where
  prompts : List P
  n : Option ℤ
  temperature : ℚ
  stop : Option (List String)
  deriving DecidableEq, Repr

/-- A provider entry point: its answer to a call, given the calls made before it. -/
abbrev Provider (P : Type) := List (ProviderCall P) → ProviderCall P → Except PyError LLMResult

abbrev GatewayM (P : Type) := ExceptT PyError (StateM (List (ProviderCall P)))

/-- A langchain `BaseLanguageModel`: the classes it is an instance of, in MRO order, and its
blocking and non-blocking entry points. -/
structure BaseLanguageModel (P : Type) where
  mro : List LangchainClass
  generatePrompt : Provider P
  ageneratePrompt : Provider P

variable {P α : Type}

def isinstance (llm : BaseLanguageModel P) (cls : LangchainClass) : Bool := llm.mro.contains cls

def isMultipleCompletionSupported (llm : BaseLanguageModel P) : Bool :=
  multipleCompletionSupported.any (isinstance llm)

/-- Send one call: it joins the trace, and the provider answers it given the calls before. -/
def send (provider : Provider P) (call : ProviderCall P) : GatewayM P LLMResult :=
  ExceptT.mk fun calls => (provider calls call, calls ++ [call])

/-- tenacity's `retry(stop=stop_after_attempt(attempts))`: the body reruns after an
exception, and the last one is raised in a `RetryError`. -/
def retry (body : GatewayM P α) : ℕ → GatewayM P α
  | 0 | 1 => tryCatch body fun e => throw (.retryError e)
  | k + 2 => tryCatch body fun _ => retry body (k + 1)

def getTemperature (n : ℤ) : ℚ := if 1 < n then 0.3 else 1e-8

structure BaseRagasLLM (P : Type) where
  generateText : P → ℤ → ℚ → Option (List String) → GatewayM P LLMResult
  agenerateText : P → ℤ → ℚ → Option (List String) → GatewayM P LLMResult

/-- `generate`: `agenerate_text` when `is_async`, otherwise `generate_text` on the default
executor, which hands back its result or raises its exception. -/
def BaseRagasLLM.generate (llm : BaseRagasLLM P) (prompt : P) (n : ℤ) (temperature : ℚ)
    (stop : Option (List String)) (isAsync : Bool) : GatewayM P LLMResult :=
  if isAsync then llm.agenerateText prompt n temperature stop
  else llm.generateText prompt n temperature stop

structure LangchainLLMWrapper (P : Type) where
  langchainLlm : BaseLanguageModel P

/-- `result.generations[0][0].text`, the text a metric reads of a reply. -/
def firstText (result : LLMResult) : Except PyError String :=
  match result.generations with
  | (g :: _) :: _ => pure g.text
  | _ => throw (.indexError "list index out of range")

def firstCompletion : List Generation → Except PyError Generation
  | g :: _ => pure g
  | [] => throw (.indexError "list index out of range")

namespace LangchainLLMWrapper

/-- The body of `generate_text` and of `agenerate_text`, over the entry point each awaits. -/
def generateWith (self : LangchainLLMWrapper P) (entry : Provider P) (prompt : P) (n : ℤ)
    (_temperature : ℚ) (stop : Option (List String)) : GatewayM P LLMResult := do
  let temperature := getTemperature n
  if isMultipleCompletionSupported self.langchainLlm then
    send entry ⟨[prompt], some n, temperature, stop⟩
  else
    let result ← send entry ⟨List.replicate n.toNat prompt, none, temperature, stop⟩
    let generations ← MonadExcept.ofExcept (result.generations.mapM firstCompletion)
    pure { result with generations := [generations] }

def generateText (self : LangchainLLMWrapper P) (prompt : P) (n : ℤ) (temperature : ℚ)
    (stop : Option (List String)) : GatewayM P LLMResult :=
  retry (self.generateWith self.langchainLlm.generatePrompt prompt n temperature stop) 6

def agenerateText (self : LangchainLLMWrapper P) (prompt : P) (n : ℤ) (temperature : ℚ)
    (stop : Option (List String)) : GatewayM P LLMResult :=
  retry (self.generateWith self.langchainLlm.ageneratePrompt prompt n temperature stop) 6

def toBaseRagasLLM (self : LangchainLLMWrapper P) : BaseRagasLLM P :=
  ⟨self.generateText, self.agenerateText⟩

end LangchainLLMWrapper

section Runs
variable (s : List (ProviderCall P))

@[simp] theorem run_pure (a : α) : (pure a : GatewayM P α).run.run s = (.ok a, s) := rfl

@[simp] theorem run_throw (e : PyError) : (throw e : GatewayM P α).run.run s = (.error e, s) :=
  rfl

@[simp] theorem run_ofExcept (x : Except PyError α) :
    (MonadExcept.ofExcept x : GatewayM P α).run.run s = (x, s) := by
  cases x <;> rfl

@[simp] theorem run_send (provider : Provider P) (call : ProviderCall P) :
    (send provider call).run.run s = (provider s call, s ++ [call]) := rfl

theorem run_bind {β : Type} (x : GatewayM P α) (f : α → GatewayM P β) :
    (x >>= f).run.run s =
      match x.run.run s with
      | (.ok a, s') => (f a).run.run s'
      | (.error e, s') => (.error e, s') := by
  show StateT.run (ExceptT.bind x f) s = _
  simp only [ExceptT.bind, ExceptT.mk, ExceptT.bindCont, ExceptT.run, StateT.run, bind,
    StateT.bind]
  rcases h : x s with ⟨_ | _, s'⟩ <;> simp [h, pure, StateT.pure]

theorem run_tryCatch (body : GatewayM P α) (handler : PyError → GatewayM P α) :
    (tryCatch body handler).run.run s =
      match body.run.run s with
      | (.ok a, s') => (.ok a, s')
      | (.error e, s') => (handler e).run.run s' := by
  show (ExceptT.tryCatch body handler).run.run s = _
  simp only [ExceptT.tryCatch, ExceptT.run, ExceptT.mk, bind, StateT.bind, StateT.run]
  rcases h : body s with ⟨_ | _, s'⟩ <;> simp [h, pure, StateT.pure]

end Runs

/-- Every value the run returns, from any trace, satisfies `Q`. -/
def Returns (Q : α → Prop) (x : GatewayM P α) : Prop :=
  ∀ s a s', x.run.run s = (.ok a, s') → Q a

section Returns
variable {Q : α → Prop}

theorem returns_bind {β : Type} (x : GatewayM P β) {f : β → GatewayM P α}
    (h : ∀ b, Returns Q (f b)) : Returns Q (x >>= f) := by
  intro s a s' hrun
  rw [run_bind] at hrun
  split at hrun
  · exact h _ _ _ _ hrun
  · cases hrun

theorem returns_bind_of {β : Type} {R : β → Prop} {x : GatewayM P β} {f : β → GatewayM P α}
    (hx : Returns R x) (hf : ∀ b, R b → Returns Q (f b)) : Returns Q (x >>= f) := by
  intro s a s' hrun
  rw [run_bind] at hrun
  rcases hxs : x.run.run s with ⟨_ | b, s''⟩ <;> rw [hxs] at hrun
  · cases hrun
  · exact hf b (hx s b s'' hxs) _ _ _ hrun

theorem returns_pure {a : α} (h : Q a) : Returns Q (pure a : GatewayM P α) := by
  intro s b s' hrun
  cases hrun
  exact h

theorem returns_throw (e : PyError) : Returns Q (throw e : GatewayM P α) := by
  intro s a s' hrun
  cases hrun

theorem returns_ofExcept {x : Except PyError α} (h : ∀ a, x = .ok a → Q a) :
    Returns Q (MonadExcept.ofExcept x : GatewayM P α) := by
  intro s a s' hrun
  rw [run_ofExcept] at hrun
  exact h a (Prod.mk.inj hrun).1

end Returns

section Retry
variable {body : GatewayM P α} {s s' : List (ProviderCall P)}

theorem retry_of_ok {a : α} (h : body.run.run s = (.ok a, s')) (k : ℕ) :
    (retry body k).run.run s = (.ok a, s') := by
  rcases k with _ | _ | k <;> simp [retry, run_tryCatch, h]

theorem retry_of_error {e : PyError} (h : body.run.run s = (.error e, s')) (k : ℕ) :
    (retry body (k + 2)).run.run s = (retry body (k + 1)).run.run s' := by
  simp [retry, run_tryCatch, h]

theorem retry_of_always_error {e : PyError} {c : ProviderCall P}
    (h : ∀ s, body.run.run s = (.error e, s ++ [c])) (k : ℕ) (s : List (ProviderCall P)) :
    (retry body (k + 1)).run.run s = (.error (.retryError e), s ++ List.replicate (k + 1) c) := by
  induction k generalizing s with
  | zero => simp [retry, run_tryCatch, h]
  | succ k ih => rw [retry_of_error (h s), ih, List.append_assoc, List.singleton_append,
      ← List.replicate_succ]

end Retry

/-- tenacity's contract: the outcome of the first attempt that returns, with the attempts
run; when none does, `RetryError` of the last exception after all of them. -/
def retrySpec (outcome : ℕ → Except PyError α) (attempts : ℕ) : Except PyError α × ℕ :=
  match (List.range attempts).find? fun i => (outcome i).isOk with
  | some i => (outcome i, i + 1)
  | none =>
      (match outcome (attempts - 1) with
        | .error e => .error (.retryError e)
        | .ok a => .ok a, attempts)

section RetrySpec
variable {outcome : ℕ → Except PyError α}

theorem find?_range_succ (p : ℕ → Bool) (k : ℕ) :
    (List.range (k + 1)).find? p =
      if p 0 then some 0 else ((List.range k).find? fun i => p (i + 1)).map (· + 1) := by
  rw [List.range_succ_eq_map, List.find?_cons]
  cases p 0 <;> simp [List.find?_map, Function.comp_def]

theorem retrySpec_of_ok {a : α} (h : outcome 0 = .ok a) (k : ℕ) :
    retrySpec outcome (k + 1) = (.ok a, 1) := by
  simp [retrySpec, find?_range_succ, h, Except.isOk, Except.toBool]

theorem retrySpec_one_of_error {e : PyError} (h : outcome 0 = .error e) :
    retrySpec outcome 1 = (.error (.retryError e), 1) := by
  simp [retrySpec, find?_range_succ, h, Except.isOk, Except.toBool]

theorem retrySpec_succ_of_error {e : PyError} (h : outcome 0 = .error e) (k : ℕ) :
    retrySpec outcome (k + 2) =
      ((retrySpec (fun i => outcome (i + 1)) (k + 1)).1,
        (retrySpec (fun i => outcome (i + 1)) (k + 1)).2 + 1) := by
  unfold retrySpec
  rw [find?_range_succ, h]
  rcases (List.range (k + 1)).find? fun i => (outcome (i + 1)).isOk with _ | i <;> rfl

/-- The contract runs at least one attempt and at most `attempts`, and the only exception it
raises is a `RetryError`. -/
theorem retrySpec_bounds (k : ℕ) :
    1 ≤ (retrySpec outcome (k + 1)).2 ∧ (retrySpec outcome (k + 1)).2 ≤ k + 1 ∧
      ∀ e, (retrySpec outcome (k + 1)).1 = .error e → ∃ e₀, e = .retryError e₀ := by
  unfold retrySpec
  split
  · rename_i i hi
    have hlt := List.mem_range.mp (List.mem_of_find?_eq_some hi)
    refine ⟨by omega, by omega, fun e he => ?_⟩
    have hok := List.find?_some hi
    rw [show outcome i = .error e from he] at hok
    cases hok
  · refine ⟨by omega, le_refl _, fun e he => ?_⟩
    split at he <;> cases he
    exact ⟨_, rfl⟩

end RetrySpec

private theorem run_of_sends_one {x : GatewayM P α} {c : ProviderCall P}
    (hsend : ∀ s, (x.run.run s).2 = s ++ [c]) {s : List (ProviderCall P)} {r : Except PyError α}
    (h : (x.run.run s).1 = r) : x.run.run s = (r, s ++ [c]) :=
  Prod.ext h (hsend s)

/-- The retry loop refines tenacity's contract: for a body that sends one call `c` on every
attempt, attempt `i` runs from the trace left by `i` earlier calls. -/
theorem retry_eq_retrySpec {body : GatewayM P α} {c : ProviderCall P}
    (hsend : ∀ s, (body.run.run s).2 = s ++ [c]) (k : ℕ) (s : List (ProviderCall P)) :
    (retry body (k + 1)).run.run s =
      ((retrySpec (fun i => (body.run.run (s ++ List.replicate i c)).1) (k + 1)).1,
        s ++ List.replicate (retrySpec (fun i => (body.run.run (s ++ List.replicate i c)).1)
          (k + 1)).2 c) := by
  induction k generalizing s with
  | zero =>
      rcases h0 : (body.run.run s).1 with e | a
      · rw [retrySpec_one_of_error (by simpa using h0)]
        simp [retry, run_tryCatch, run_of_sends_one hsend h0]
      · rw [retry_of_ok (run_of_sends_one hsend h0), retrySpec_of_ok (by simpa using h0)]
        rfl
  | succ k ih =>
      rcases h0 : (body.run.run s).1 with e | a
      · rw [retry_of_error (run_of_sends_one hsend h0), ih,
          retrySpec_succ_of_error (by simpa using h0)]
        simp only [List.append_assoc, List.singleton_append, List.replicate_succ]
      · rw [retry_of_ok (run_of_sends_one hsend h0), retrySpec_of_ok (by simpa using h0)]
        rfl

/-- The run extends the trace by at most `k` calls, each satisfying `ok`. -/
def Sends (k : ℕ) (ok : ProviderCall P → Prop) (x : GatewayM P α) : Prop :=
  ∀ s, ∃ new, (x.run.run s).2 = s ++ new ∧ new.length ≤ k ∧ ∀ c ∈ new, ok c

section Sends
variable {ok : ProviderCall P → Prop}

theorem sends_pure (a : α) : Sends 0 ok (pure a : GatewayM P α) :=
  fun s => ⟨[], by simp, le_refl _, by simp⟩

theorem sends_throw (e : PyError) : Sends 0 ok (throw e : GatewayM P α) :=
  fun s => ⟨[], by simp, le_refl _, by simp⟩

theorem sends_ofExcept (x : Except PyError α) :
    Sends 0 ok (MonadExcept.ofExcept x : GatewayM P α) :=
  fun s => ⟨[], by simp, le_refl _, by simp⟩

theorem sends_send {provider : Provider P} {call : ProviderCall P} (h : ok call) :
    Sends 1 ok (send provider call) :=
  fun s => ⟨[call], rfl, le_refl _, by simpa using h⟩

theorem sends_mono {k m : ℕ} {x : GatewayM P α} (hkm : k ≤ m) (h : Sends k ok x) :
    Sends m ok x := fun s =>
  let ⟨new, hs, hlen, hok⟩ := h s
  ⟨new, hs, hlen.trans hkm, hok⟩

private theorem sends_then {k m : ℕ} {y : GatewayM P α} {s : List (ProviderCall P)}
    {new : List (ProviderCall P)} (hlen : new.length ≤ k) (hok : ∀ c ∈ new, ok c)
    (hy : Sends m ok y) :
    ∃ new', (y.run.run (s ++ new)).2 = s ++ new' ∧ new'.length ≤ k + m ∧ ∀ c ∈ new', ok c :=
  let ⟨more, hs, hlen', hok'⟩ := hy (s ++ new)
  ⟨new ++ more, by rw [hs, List.append_assoc], by simp; omega,
    fun c hc => (List.mem_append.mp hc).elim (hok c) (hok' c)⟩

theorem sends_bind {β : Type} {k m : ℕ} {x : GatewayM P β} {f : β → GatewayM P α}
    (hx : Sends k ok x) (hf : ∀ b, Sends m ok (f b)) : Sends (k + m) ok (x >>= f) := by
  intro s
  obtain ⟨new, hs, hlen, hok⟩ := hx s
  rw [run_bind]
  rcases hxs : x.run.run s with ⟨_ | b, s'⟩ <;> rw [hxs] at hs <;> dsimp only at hs ⊢
  · exact ⟨new, hs, by omega, hok⟩
  · exact hs ▸ sends_then hlen hok (hf b)

theorem sends_tryCatch {k m : ℕ} {body : GatewayM P α} {handler : PyError → GatewayM P α}
    (hb : Sends k ok body) (hh : ∀ e, Sends m ok (handler e)) :
    Sends (k + m) ok (tryCatch body handler) := by
  intro s
  obtain ⟨new, hs, hlen, hok⟩ := hb s
  rw [run_tryCatch]
  rcases hbs : body.run.run s with ⟨e | a, s'⟩ <;> rw [hbs] at hs <;> dsimp only at hs ⊢
  · exact hs ▸ sends_then hlen hok (hh e)
  · exact ⟨new, hs, by omega, hok⟩

theorem sends_weaken {ok' : ProviderCall P → Prop} {k : ℕ} {x : GatewayM P α}
    (h : Sends k ok x) (hok : ∀ c, ok c → ok' c) : Sends k ok' x := fun s =>
  let ⟨new, hs, hlen, hnew⟩ := h s
  ⟨new, hs, hlen, fun c hc => hok c (hnew c hc)⟩

theorem sends_ofExcept_bind {β : Type} {k : ℕ} {x : Except PyError β} {f : β → GatewayM P α}
    (hf : ∀ b, x = .ok b → Sends k ok (f b)) : Sends k ok (MonadExcept.ofExcept x >>= f) := by
  intro s
  cases x with
  | error e => exact ⟨[], by simp [run_bind], Nat.zero_le _, by simp⟩
  | ok b =>
      obtain ⟨new, hs, hlen, hnew⟩ := hf b rfl s
      exact ⟨new, by simpa [run_bind] using hs, hlen, hnew⟩

theorem sends_retry {k : ℕ} {body : GatewayM P α} (h : Sends k ok body) :
    ∀ n, Sends (k * (n + 1)) ok (retry body (n + 1))
  | 0 => by simpa using sends_tryCatch (m := 0) h fun e => sends_throw _
  | n + 1 => by
      have := sends_tryCatch h fun _ => sends_retry h n
      exact sends_mono (by rw [Nat.mul_succ k (n + 1)]; omega) this

end Sends

theorem mapM_firstCompletion {runs : List (List Generation)} (h : ∀ run ∈ runs, run.length = 1) :
    runs.mapM firstCompletion = .ok runs.flatten := by
  induction runs with
  | nil => rfl
  | cons run runs ih =>
      obtain ⟨g, rfl⟩ := List.length_eq_one.mp (h run (List.mem_cons_self _ _))
      simp only [List.mapM_cons, firstCompletion, ih fun r hr => h r (List.mem_cons_of_mem _ hr)]
      rfl

theorem length_flatten_of_singletons {runs : List (List Generation)}
    (h : ∀ run ∈ runs, run.length = 1) : runs.flatten.length = runs.length := by
  induction runs with
  | nil => rfl
  | cons run runs ih =>
      simp [h run (List.mem_cons_self _ _), ih fun r hr => h r (List.mem_cons_of_mem _ hr),
        Nat.add_comm]

/-- Without native multi-completion, `generate_text` sends `n` copies at
`get_temperature(n)` and re-packs the runs into one list of `n`, keeping `llm_output`. -/
theorem generateText_repacks (llm : BaseLanguageModel P)
    (hsingle : isMultipleCompletionSupported llm = false)
    (hprov : ∀ calls call, ∃ r, llm.generatePrompt calls call = .ok r ∧
      r.generations.length = call.prompts.length ∧ ∀ run ∈ r.generations, run.length = 1)
    (prompt : P) (n : ℤ) (temperature : ℚ) (stop : Option (List String))
    (calls : List (ProviderCall P)) :
    ∃ r, llm.generatePrompt calls ⟨List.replicate n.toNat prompt, none, getTemperature n, stop⟩ =
        .ok r ∧
      (LangchainLLMWrapper.generateText ⟨llm⟩ prompt n temperature stop).run.run calls =
        (.ok { r with generations := [r.generations.flatten] },
          calls ++ [⟨List.replicate n.toNat prompt, none, getTemperature n, stop⟩]) ∧
      r.generations.flatten.length = n.toNat ∧
      parseLlmResult { r with generations := [r.generations.flatten] } = parseLlmResult r := by
  obtain ⟨r, hr, hlen, hone⟩ :=
    hprov calls ⟨List.replicate n.toNat prompt, none, getTemperature n, stop⟩
  refine ⟨r, hr, retry_of_ok ?_ 6, ?_, parseLlmResult_congr rfl (by simp)⟩
  · simp only [LangchainLLMWrapper.generateWith, hsingle, Bool.false_eq_true, if_false,
      run_bind, run_send, hr, run_ofExcept, mapM_firstCompletion hone, run_pure]
  · rw [length_flatten_of_singletons hone, hlen, List.length_replicate]

/-- A provider that answers each prompt with one completion holding the prompt. -/
def echo : Provider String := fun _ call =>
  .ok ⟨call.prompts.map fun p => [.plain p], some [], none⟩

def echoLlm : BaseLanguageModel String := ⟨[.other "EchoLLM"], echo, echo⟩

theorem echoLlm_single_runs (calls : List (ProviderCall String)) (call : ProviderCall String) :
    ∃ r, echoLlm.generatePrompt calls call = .ok r ∧
      r.generations.length = call.prompts.length ∧ ∀ run ∈ r.generations, run.length = 1 :=
  ⟨_, rfl, by simp, by simp⟩

theorem generateText_repacks_echo :
    isMultipleCompletionSupported echoLlm = false ∧
    ∃ r, echoLlm.generatePrompt [] ⟨["p", "p", "p"], none, getTemperature 3, none⟩ = .ok r ∧
      (LangchainLLMWrapper.generateText ⟨echoLlm⟩ "p" 3 0.7 none).run.run [] =
        (.ok { r with generations := [r.generations.flatten] },
          [⟨["p", "p", "p"], none, getTemperature 3, none⟩]) ∧
      r.generations.flatten.length = 3 ∧
      parseLlmResult { r with generations := [r.generations.flatten] } = parseLlmResult r :=
  ⟨rfl, generateText_repacks echoLlm rfl echoLlm_single_runs "p" 3 0.7 none []⟩

/-- With the same sync and async entry, `generate` is one run whichever it uses: the same
calls, and the same result or exception. -/
theorem generate_async_eq_sync (llm : BaseLanguageModel P)
    (hsame : llm.ageneratePrompt = llm.generatePrompt) (prompt : P) (n : ℤ) (temperature : ℚ)
    (stop : Option (List String)) :
    (LangchainLLMWrapper.toBaseRagasLLM ⟨llm⟩).generate prompt n temperature stop true =
      (LangchainLLMWrapper.toBaseRagasLLM ⟨llm⟩).generate prompt n temperature stop false := by
  simp only [BaseRagasLLM.generate, LangchainLLMWrapper.toBaseRagasLLM, if_true,
    Bool.false_eq_true, if_false, LangchainLLMWrapper.agenerateText,
    LangchainLLMWrapper.generateText, hsame]

theorem generate_async_eq_sync_echo :
    echoLlm.ageneratePrompt = echoLlm.generatePrompt ∧
    (LangchainLLMWrapper.toBaseRagasLLM ⟨echoLlm⟩).generate "p" 2 0 none true =
      (LangchainLLMWrapper.toBaseRagasLLM ⟨echoLlm⟩).generate "p" 2 0 none false :=
  ⟨rfl, generate_async_eq_sync echoLlm rfl "p" 2 0 none⟩

theorem generateWith_sends (self : LangchainLLMWrapper P) (entry : Provider P) (prompt : P)
    (n : ℤ) (temperature : ℚ) (stop : Option (List String)) :
    Sends 1 (fun c => c = if isMultipleCompletionSupported self.langchainLlm
        then ⟨[prompt], some n, getTemperature n, stop⟩
        else ⟨List.replicate n.toNat prompt, none, getTemperature n, stop⟩)
      (self.generateWith entry prompt n temperature stop) := by
  unfold LangchainLLMWrapper.generateWith
  cases h : isMultipleCompletionSupported self.langchainLlm
  · simp only [h, Bool.false_eq_true, if_false]
    show Sends (1 + (0 + 0)) _ _
    exact sends_bind (sends_send rfl) fun _ => sends_bind (sends_ofExcept _) fun _ => sends_pure _
  · simp only [h, if_true]
    exact sends_send rfl

/-- `generate` sends at most six calls, each with its branch's prompts and `n` at
`get_temperature(n)`. -/
theorem generate_sends (llm : BaseLanguageModel P) (prompt : P) (n : ℤ) (temperature : ℚ)
    (stop : Option (List String)) (isAsync : Bool) :
    Sends 6 (fun c => c = if isMultipleCompletionSupported llm
        then ⟨[prompt], some n, getTemperature n, stop⟩
        else ⟨List.replicate n.toNat prompt, none, getTemperature n, stop⟩)
      ((LangchainLLMWrapper.toBaseRagasLLM ⟨llm⟩).generate prompt n temperature stop isAsync) := by
  cases isAsync <;> exact sends_retry (generateWith_sends ⟨llm⟩ _ prompt n temperature stop) 5

/-- The call one attempt of `generate_text` or `agenerate_text` sends: the prompt once with `n`
on the native multi-completion path, `n` copies of it otherwise, at `get_temperature(n)`. -/
def attemptCall (llm : BaseLanguageModel P) (prompt : P) (n : ℤ) (stop : Option (List String)) :
    ProviderCall P :=
  if isMultipleCompletionSupported llm then ⟨[prompt], some n, getTemperature n, stop⟩
  else ⟨List.replicate n.toNat prompt, none, getTemperature n, stop⟩

theorem generateWith_trace (llm : BaseLanguageModel P) (entry : Provider P) (prompt : P) (n : ℤ)
    (temperature : ℚ) (stop : Option (List String)) (s : List (ProviderCall P)) :
    (((⟨llm⟩ : LangchainLLMWrapper P).generateWith entry prompt n temperature stop).run.run s).2 =
      s ++ [attemptCall llm prompt n stop] := by
  unfold LangchainLLMWrapper.generateWith attemptCall
  cases h : isMultipleCompletionSupported llm <;> simp [h, run_bind]
  split <;> simp_all

theorem sends_retry_generateWith (llm : BaseLanguageModel P) (entry : Provider P) (prompt : P)
    (n : ℤ) (temperature : ℚ) (stop : Option (List String)) :
    Sends 6 (· = attemptCall llm prompt n stop)
      (retry ((⟨llm⟩ : LangchainLLMWrapper P).generateWith entry prompt n temperature stop) 6) :=
  sends_retry (generateWith_sends ⟨llm⟩ entry prompt n temperature stop) 5

theorem retry_outcome_bounds {body : GatewayM P α} {c : ProviderCall P}
    (hsend : ∀ s, (body.run.run s).2 = s ++ [c]) (k : ℕ) (s : List (ProviderCall P)) :
    ∃ r calls, 1 ≤ calls ∧ calls ≤ k + 1 ∧ (∀ e, r = .error e → ∃ e₀, e = .retryError e₀) ∧
      (retry body (k + 1)).run.run s = (r, s ++ List.replicate calls c) :=
  ⟨_, _, (retrySpec_bounds k).1, (retrySpec_bounds k).2.1, (retrySpec_bounds k).2.2,
    retry_eq_retrySpec hsend k s⟩

/-- The provider answers `call`, whatever calls came before it, with one run of one
completion whose text is `text`. -/
def Answers (provider : Provider P) (call : ProviderCall P) (text : String) : Prop :=
  ∀ calls, ∃ r g, provider calls call = .ok r ∧ r.generations = [[g]] ∧ g.text = text

/-- Against a provider that answers the attempt's call, `generate_text` and `agenerate_text`
return after that one call, and the metric reads the provider's text. -/
theorem retry_generateWith_of_answers {llm : BaseLanguageModel P} {entry : Provider P}
    {prompt : P} {n : ℤ} {stop : Option (List String)} {text : String}
    (h : Answers entry (attemptCall llm prompt n stop) text) (temperature : ℚ)
    (s : List (ProviderCall P)) :
    ∃ r, (retry ((⟨llm⟩ : LangchainLLMWrapper P).generateWith entry prompt n temperature stop)
        6).run.run s = (.ok r, s ++ [attemptCall llm prompt n stop]) ∧ firstText r = .ok text := by
  obtain ⟨r, g, hr, hgen, htext⟩ := h s
  unfold attemptCall at hr ⊢
  cases hmulti : isMultipleCompletionSupported llm <;>
    simp only [hmulti, Bool.false_eq_true, ↓reduceIte] at hr ⊢
  · refine ⟨{ r with generations := [[g]] }, retry_of_ok ?_ 6,
      by simp [firstText, htext, pure, Except.pure]⟩
    simp only [LangchainLLMWrapper.generateWith, hmulti, Bool.false_eq_true, if_false, run_bind,
      run_send, hr, run_ofExcept, hgen]
    rfl
  · refine ⟨r, retry_of_ok ?_ 6, by simp [firstText, hgen, htext, pure, Except.pure]⟩
    simp [LangchainLLMWrapper.generateWith, hmulti, hr]

/-- `generate` refines tenacity's contract over its six attempts, one call each; an empty run
is an `IndexError` that is retried. -/
theorem generate_refines_retrySpec (llm : BaseLanguageModel P) (prompt : P) (n : ℤ)
    (temperature : ℚ) (stop : Option (List String)) (isAsync : Bool)
    (s : List (ProviderCall P)) :
    let body := (⟨llm⟩ : LangchainLLMWrapper P).generateWith
      (if isAsync then llm.ageneratePrompt else llm.generatePrompt) prompt n temperature stop
    let outcome := fun i => (body.run.run (s ++ List.replicate i (attemptCall llm prompt n stop))).1
    ((LangchainLLMWrapper.toBaseRagasLLM ⟨llm⟩).generate prompt n temperature stop isAsync).run.run
        s =
      ((retrySpec outcome 6).1,
        s ++ List.replicate (retrySpec outcome 6).2 (attemptCall llm prompt n stop)) := by
  intro body outcome
  cases isAsync <;>
    exact retry_eq_retrySpec (generateWith_trace llm _ prompt n temperature stop) 5 s

/-- Against a provider that always raises `e`, `generate_text` sends its call six times and
then raises `RetryError` of `e`. -/
theorem generateText_always_failing (llm : BaseLanguageModel P) (e : PyError)
    (hfail : ∀ calls call, llm.generatePrompt calls call = .error e) (prompt : P) (n : ℤ)
    (temperature : ℚ) (stop : Option (List String)) (calls : List (ProviderCall P)) :
    (LangchainLLMWrapper.generateText ⟨llm⟩ prompt n temperature stop).run.run calls =
      (.error (.retryError e), calls ++ List.replicate 6
        (if isMultipleCompletionSupported llm then ⟨[prompt], some n, getTemperature n, stop⟩
          else ⟨List.replicate n.toNat prompt, none, getTemperature n, stop⟩)) := by
  refine retry_of_always_error (fun s => ?_) 5 calls
  cases h : isMultipleCompletionSupported llm <;>
    simp [LangchainLLMWrapper.generateWith, h, run_bind, hfail]

theorem generateText_always_failing_timeout :
    (∀ (calls : List (ProviderCall String)) call,
      (⟨[.openAI], fun _ _ => .error (.providerError "timeout"),
        fun _ _ => .error (.providerError "timeout")⟩ : BaseLanguageModel String).generatePrompt
          calls call = .error (.providerError "timeout")) ∧
    (LangchainLLMWrapper.generateText ⟨⟨[.openAI], fun _ _ => .error (.providerError "timeout"),
        fun _ _ => .error (.providerError "timeout")⟩⟩ "p" 1 0 none).run.run [] =
      (.error (.retryError (.providerError "timeout")),
        List.replicate 6 ⟨["p"], some 1, getTemperature 1, none⟩) :=
  ⟨fun _ _ => rfl, generateText_always_failing _ _ (fun _ _ => rfl) "p" 1 0 none []⟩

end Ragas
