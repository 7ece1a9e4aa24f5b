import Ragas.Pydantic
import Mathlib.Algebra.BigOperators.Group.List

/-!
# Token usage and its accounting

`TokenUsage` (`ragas/llms/cost.py`) counts the input and output tokens of one
or more model calls, with an optional model identity. `add` is its `__add__`,
`eq` its `__eq__`, `isSameModel` its `is_same_model` and `cost` its `cost`;
`parseLlmResult` reads the usage of one `LLMResult`.

`__add__` checks that both sides name the same model and then builds the sum
without a model, so the sum of two usages of one named model is a usage of no
model, and adding a third usage of that model raises. `UsageSum` is a bracketed
sum of usages, evaluated the way Python evaluates `+`. `parse_llm_result` only
ever adds usages of no model, so its fold cannot raise `__add__`'s error; what
it can raise is pydantic's `ValidationError` on a count that is not an int.

The langchain output types keep what the modelled code reads: a completion's
text and, for a chat completion, its response metadata. `cost` is computed in
Python floats, so it is not additive over `__add__`.
-/

namespace Ragas

/-- A chat completion's message, reduced to its `response_metadata` mapping. -/
structure ChatMessage where
  responseMetadata : PyDict Json
  deriving Repr

/-- langchain's `Generation`, or its subclass `ChatGeneration` with a message. -/
inductive Generation where
  | plain (text : String)
  | chat (text : String) (message : ChatMessage)
  deriving Repr

def Generation.text : Generation → String
  | .plain t | .chat t _ => t

structure RunInfo where
  runId : ℕ
  deriving DecidableEq, Repr

/-- langchain's `LLMResult`: one list of completions per prompt, the provider's aggregate
output, and its runs. -/
structure LLMResult where
  generations : List (List Generation)
  llmOutput : Option (PyDict Json)
  run : Option (List RunInfo)
  deriving Repr

structure TokenUsage where
  inputTokens : ℤ
  outputTokens : ℤ
  model : Option String
  deriving DecidableEq, Repr

namespace TokenUsage

/-- `TokenUsage(input_tokens=i, output_tokens=o)`: both values go through the `int` validator
and `model` keeps its default `None`. -/
def validate (i o : Json) : Except PyError TokenUsage :=
  match Pydantic.intValidator i, Pydantic.intValidator o with
  | some i, some o => pure ⟨i, o, none⟩
  | _, _ => throw (.validationError "TokenUsage")

theorem validate_model {i o : Json} {u : TokenUsage} (h : validate i o = .ok u) :
    u.model = none := by
  unfold validate at h
  split at h <;> cases h
  rfl

/-- `__add__`: both sides must name the same model, and the sum is built without one. -/
def add (self y : TokenUsage) : Except PyError TokenUsage :=
  if self.model = y.model ∨ (self.model = none ∧ y.model = none) then
    pure ⟨self.inputTokens + y.inputTokens, self.outputTokens + y.outputTokens, none⟩
  else
    throw (.valueError "Cannot add TokenUsage objects with different models")

def isSameModel (self other : TokenUsage) : Bool :=
  if self.model = none ∧ other.model = none then true
  else if self.model = other.model then true
  else false

def eq (self other : TokenUsage) : Bool :=
  self.inputTokens == other.inputTokens && self.outputTokens == other.outputTokens &&
    self.isSameModel other

/-- `cost`: each count, made a float, times its price, in Python floats. The output price
defaults to the input price. -/
def cost (self : TokenUsage) (costPerInputToken : Float) (costPerOutputToken : Option Float) :
    Except PyError Float := do
  let costPerOutputToken := costPerOutputToken.getD costPerInputToken
  pure ((← pyFloatOfInt self.inputTokens) * costPerInputToken +
    (← pyFloatOfInt self.outputTokens) * costPerOutputToken)

theorem add_of_model_eq {x y : TokenUsage} (h : x.model = y.model) :
    x.add y = .ok ⟨x.inputTokens + y.inputTokens, x.outputTokens + y.outputTokens, none⟩ :=
  if_pos (.inl h)

theorem add_of_model_ne {x y : TokenUsage} (h : x.model ≠ y.model) :
    x.add y = .error (.valueError "Cannot add TokenUsage objects with different models") :=
  if_neg (by rintro (h' | ⟨h₁, h₂⟩) <;> simp_all)

theorem add_comm (x y : TokenUsage) : x.add y = y.add x := by
  by_cases h : x.model = y.model
  · rw [add_of_model_eq h, add_of_model_eq h.symm, Int.add_comm x.inputTokens,
      Int.add_comm x.outputTokens]
  · rw [add_of_model_ne h, add_of_model_ne (Ne.symm h)]

end TokenUsage

/-- A sum of usages written with `+` and brackets, in any order. -/
inductive UsageSum where
  | leaf (u : TokenUsage)
  | plus (l r : UsageSum)
  deriving Repr

namespace UsageSum

/-- Python evaluates `l + r` as `l.__add__(r)` after both sides. -/
def eval : UsageSum → Except PyError TokenUsage
  | leaf u => pure u
  | plus l r => do (← l.eval).add (← r.eval)

def leaves : UsageSum → List TokenUsage
  | leaf u => [u]
  | plus l r => l.leaves ++ r.leaves

def inputTotal (e : UsageSum) : ℤ := (e.leaves.map TokenUsage.inputTokens).sum

def outputTotal (e : UsageSum) : ℤ := (e.leaves.map TokenUsage.outputTokens).sum

def isLeaf : UsageSum → Bool
  | leaf _ => true
  | plus _ _ => false

@[simp] theorem isLeaf_plus (l r : UsageSum) : (plus l r).isLeaf = false := rfl

/-- At every `+` both sides are single usages or both are sums. -/
def Uniform : UsageSum → Bool
  | leaf _ => true
  | plus l r => l.isLeaf == r.isLeaf && l.Uniform && r.Uniform

@[simp] theorem inputTotal_plus (l r : UsageSum) :
    (plus l r).inputTotal = l.inputTotal + r.inputTotal := by
  simp [inputTotal, leaves, List.sum_append]

@[simp] theorem outputTotal_plus (l r : UsageSum) :
    (plus l r).outputTotal = l.outputTotal + r.outputTotal := by
  simp [outputTotal, leaves, List.sum_append]

/-- Every bracketing of model-less usages evaluates, to the token totals and no model. -/
theorem eval_of_none (e : UsageSum) (h : ∀ u ∈ e.leaves, u.model = none) :
    e.eval = .ok ⟨e.inputTotal, e.outputTotal, none⟩ := by
  induction e with
  | leaf u =>
      obtain ⟨i, o, m⟩ := u
      simp_all [eval, leaves, inputTotal, outputTotal, pure, Except.pure]
  | plus l r ihl ihr =>
      have hl := ihl fun u hu => h u (List.mem_append_left _ hu)
      have hr := ihr fun u hu => h u (List.mem_append_right _ hu)
      simp only [eval, hl, hr, bind, Except.bind, inputTotal_plus, outputTotal_plus]
      exact TokenUsage.add_of_model_eq rfl

/-- `TokenUsage(1, 2) + (TokenUsage(3, 4) + TokenUsage(5, 6))`. -/
def threeUnnamed : UsageSum :=
  plus (leaf ⟨1, 2, none⟩) (plus (leaf ⟨3, 4, none⟩) (leaf ⟨5, 6, none⟩))

theorem eval_of_none_example :
    (∀ u ∈ threeUnnamed.leaves, u.model = none) ∧ threeUnnamed.eval = .ok ⟨9, 12, none⟩ :=
  ⟨by decide, (eval_of_none threeUnnamed (by decide)).trans rfl⟩

private theorem ite_some_eq_iff (s : String) (a b : Bool) :
    ((if a then some s else none) = if b then some s else none) ↔ a = b := by
  cases a <;> cases b <;> simp

/-- The bracketings of usages of one named model that evaluate are the uniform ones; a
single usage keeps its model and every sum has none. -/
theorem eval_named (s : String) (e : UsageSum) (h : ∀ u ∈ e.leaves, u.model = some s) :
    e.eval = if e.Uniform then
      .ok ⟨e.inputTotal, e.outputTotal, if e.isLeaf then some s else none⟩
    else .error (.valueError "Cannot add TokenUsage objects with different models") := by
  induction e with
  | leaf u =>
      obtain ⟨i, o, m⟩ := u
      simp_all [eval, leaves, Uniform, isLeaf, inputTotal, outputTotal, pure, Except.pure]
  | plus l r ihl ihr =>
      have hl := ihl fun u hu => h u (List.mem_append_left _ hu)
      have hr := ihr fun u hu => h u (List.mem_append_right _ hu)
      simp only [eval, hl, hr, Uniform, isLeaf_plus, inputTotal_plus, outputTotal_plus]
      cases l.Uniform <;> cases r.Uniform <;>
        simp only [Bool.and_false, Bool.false_eq_true, if_false, if_true, bind, Except.bind,
          Bool.and_true]
      by_cases hlr : l.isLeaf = r.isLeaf
      · rw [TokenUsage.add_of_model_eq ((ite_some_eq_iff s _ _).mpr hlr)]
        simp [hlr]
      · rw [TokenUsage.add_of_model_ne (mt (ite_some_eq_iff s _ _).mp hlr)]
        simp [hlr]

def threeNamed : UsageSum :=
  plus (plus (leaf ⟨1, 1, some "gpt-4"⟩) (leaf ⟨1, 1, some "gpt-4"⟩)) (leaf ⟨1, 1, some "gpt-4"⟩)

theorem eval_named_example :
    (∀ u ∈ threeNamed.leaves, u.model = some "gpt-4") ∧
    threeNamed.eval = .error (.valueError "Cannot add TokenUsage objects with different models") :=
  ⟨by decide, (eval_named "gpt-4" threeNamed (by decide)).trans rfl⟩

end UsageSum

/-- `(a + b) + c` for three usages of one named model raises, and already `a + b` is not
`__eq__` to the usage of that model with the summed counts. -/
theorem add_named_usages_raises :
    (TokenUsage.add ⟨1, 1, some "gpt-4"⟩ ⟨1, 1, some "gpt-4"⟩ >>= fun s =>
        s.add ⟨1, 1, some "gpt-4"⟩) =
      .error (.valueError "Cannot add TokenUsage objects with different models") ∧
    (TokenUsage.add ⟨1, 1, some "gpt-4"⟩ ⟨1, 1, some "gpt-4"⟩ >>= fun s =>
        pure (s.eq ⟨2, 2, some "gpt-4"⟩) : Except PyError Bool) = .ok false :=
  ⟨rfl, rfl⟩

/-- The metadata `parse_llm_result` reads per-completion usage from: that of a chat
completion whose `response_metadata` is not `{}`. -/
def Generation.usageMetadata : Generation → Option (PyDict Json)
  | .chat _ m => if m.responseMetadata.isEmpty then none else some m.responseMetadata
  | .plain _ => none

def completionUsage (md : PyDict Json) : Except PyError TokenUsage :=
  TokenUsage.validate (getFromDict (.obj md) "usage.input_tokens" (.int 0))
    (getFromDict (.obj md) "usage.output_tokens" (.int 0))

/-- `parse_llm_result`: an aggregate `llm_output` gives the usage; an empty one gives the sum
of the usage of every chat completion that carries metadata; no `llm_output` gives zero. -/
def parseLlmResult (r : LLMResult) : Except PyError TokenUsage :=
  match r.llmOutput with
  | some llmOutput@(_ :: _) =>
      TokenUsage.validate (getFromDict (.obj llmOutput) "token_usage.input_tokens" (.int 0))
        (getFromDict (.obj llmOutput) "token_usage.completion_tokens" (.int 0))
  | some [] => do
      let tokenUsages ← (r.generations.flatten.filterMap Generation.usageMetadata).mapM
        completionUsage
      tokenUsages.foldlM TokenUsage.add ⟨0, 0, none⟩
  | none => pure ⟨0, 0, none⟩

theorem parseLlmResult_congr {r r' : LLMResult} (hout : r'.llmOutput = r.llmOutput)
    (hgen : r'.generations.flatten = r.generations.flatten) :
    parseLlmResult r' = parseLlmResult r := by
  unfold parseLlmResult
  rw [hout, hgen]

def countedMetadata (r : LLMResult) : List (PyDict Json) :=
  r.generations.flatten.filterMap Generation.usageMetadata

theorem parseLlmResult_of_empty {r : LLMResult} (h : r.llmOutput = some []) :
    parseLlmResult r = (countedMetadata r).mapM completionUsage >>= fun us =>
      us.foldlM TokenUsage.add ⟨0, 0, none⟩ := by
  simp only [parseLlmResult, h]
  rfl

def usageTokens (md : PyDict Json) (key : String) : ℤ :=
  match getFromDict (.obj md) key (.int 0) with
  | .int k => k
  | _ => 0

/-- What one completion adds to the total at `key`: the count of a chat completion whose
`response_metadata` is not `{}`, and nothing for any other completion. -/
def chatUsageTokens (key : String) : Generation → ℤ
  | .chat _ ⟨md@(_ :: _)⟩ => usageTokens md key
  | _ => 0

theorem sum_usageMetadata (key : String) (gs : List Generation) :
    ((gs.filterMap Generation.usageMetadata).map fun md => usageTokens md key).sum =
      (gs.map (chatUsageTokens key)).sum := by
  induction gs with
  | nil => rfl
  | cons g gs ih =>
      rcases g with _ | ⟨_, _ | ⟨kv, md⟩⟩ <;>
        simp [List.filterMap_cons, Generation.usageMetadata, chatUsageTokens, ih]

theorem mem_countedMetadata {r : LLMResult} {md : PyDict Json} (h : md ∈ countedMetadata r) :
    ∃ text, md ≠ [] ∧ Generation.chat text ⟨md⟩ ∈ r.generations.flatten := by
  obtain ⟨g, hg, hmd⟩ := List.mem_filterMap.mp h
  rcases g with _ | ⟨text, ⟨_ | _⟩⟩ <;> simp [Generation.usageMetadata] at hmd
  cases hmd
  exact ⟨text, List.cons_ne_nil _ _, hg⟩

theorem foldlM_add_of_none (us : List TokenUsage) (t : TokenUsage) (ht : t.model = none)
    (hus : ∀ u ∈ us, u.model = none) :
    us.foldlM TokenUsage.add t = .ok ⟨t.inputTokens + (us.map TokenUsage.inputTokens).sum,
      t.outputTokens + (us.map TokenUsage.outputTokens).sum, none⟩ := by
  induction us generalizing t with
  | nil =>
      obtain ⟨i, o, m⟩ := t
      simp_all [pure, Except.pure]
  | cons u us ih =>
      rw [List.foldlM_cons, TokenUsage.add_of_model_eq (by rw [ht, hus u (by simp)])]
      simp only [bind, Except.bind]
      rw [ih _ rfl fun v hv => hus v (List.mem_cons_of_mem u hv)]
      simp [Int.add_assoc]

theorem completionUsage_of_nat {md : PyDict Json}
    (h : ∀ key ∈ ["usage.input_tokens", "usage.output_tokens"],
      ∃ k : ℕ, getFromDict (.obj md) key (.int 0) = .int k) :
    completionUsage md =
      .ok ⟨usageTokens md "usage.input_tokens", usageTokens md "usage.output_tokens", none⟩ := by
  obtain ⟨i, hi⟩ := h _ (List.mem_cons_self _ _)
  obtain ⟨o, ho⟩ := h "usage.output_tokens" (by simp)
  simp [completionUsage, usageTokens, TokenUsage.validate, Pydantic.intValidator, hi, ho,
    pure, Except.pure]

theorem mapM_completionUsage {mds : List (PyDict Json)}
    (h : ∀ md ∈ mds, ∀ key ∈ ["usage.input_tokens", "usage.output_tokens"],
      ∃ k : ℕ, getFromDict (.obj md) key (.int 0) = .int k) :
    mds.mapM completionUsage = .ok (mds.map fun md =>
      ⟨usageTokens md "usage.input_tokens", usageTokens md "usage.output_tokens", none⟩) := by
  induction mds with
  | nil => rfl
  | cons md mds ih =>
      simp only [List.mapM_cons, completionUsage_of_nat (h md (List.mem_cons_self _ _)),
        ih fun m hm => h m (List.mem_cons_of_mem _ hm), List.map_cons]
      rfl

/-- With an empty `llm_output` and non-negative counts, `parse_llm_result` returns the sums
over the chat completions with non-empty `response_metadata`, of no model. -/
theorem parseLlmResult_chat_sum (r : LLMResult) (hout : r.llmOutput = some [])
    (hcounts : ∀ g ∈ r.generations.flatten, ∀ text md, g = .chat text ⟨md⟩ → md ≠ [] →
      ∀ key ∈ ["usage.input_tokens", "usage.output_tokens"],
        ∃ k : ℕ, getFromDict (.obj md) key (.int 0) = .int k) :
    parseLlmResult r =
      .ok ⟨(r.generations.flatten.map (chatUsageTokens "usage.input_tokens")).sum,
        (r.generations.flatten.map (chatUsageTokens "usage.output_tokens")).sum, none⟩ := by
  have hmd : ∀ md ∈ countedMetadata r, ∀ key ∈ ["usage.input_tokens", "usage.output_tokens"],
      ∃ k : ℕ, getFromDict (.obj md) key (.int 0) = .int k := fun md hmd => by
    obtain ⟨text, hne, hg⟩ := mem_countedMetadata hmd
    exact hcounts _ hg text md rfl hne
  rw [parseLlmResult_of_empty hout, mapM_completionUsage hmd]
  refine (foldlM_add_of_none _ _ rfl (by simp)).trans ?_
  rw [← sum_usageMetadata, ← sum_usageMetadata]
  simp [countedMetadata, Function.comp_def]

/-- A run whose chat completion reports 3 input and 5 output tokens, beside a plain
completion, and an empty run. -/
def chatUsageResult : LLMResult :=
  ⟨[[.chat "a" ⟨[("usage", .obj [("input_tokens", .int 3), ("output_tokens", .int 5)])]⟩,
      .plain "b"], []], some [], none⟩

theorem parseLlmResult_chat_sum_example :
    chatUsageResult.llmOutput = some [] ∧
    (∀ g ∈ chatUsageResult.generations.flatten, ∀ text md, g = .chat text ⟨md⟩ → md ≠ [] →
      ∀ key ∈ ["usage.input_tokens", "usage.output_tokens"],
        ∃ k : ℕ, getFromDict (.obj md) key (.int 0) = .int k) ∧
    parseLlmResult chatUsageResult = .ok ⟨3, 5, none⟩ := by
  have hcounts : ∀ g ∈ chatUsageResult.generations.flatten, ∀ text md,
      g = .chat text ⟨md⟩ → md ≠ [] → ∀ key ∈ ["usage.input_tokens", "usage.output_tokens"],
        ∃ k : ℕ, getFromDict (.obj md) key (.int 0) = .int k := by
    intro g hg text md hgm _ key hkey
    simp only [chatUsageResult, List.flatten, List.append_nil, List.mem_cons,
      List.mem_singleton, List.not_mem_nil, or_false] at hg hkey
    rcases hg with rfl | rfl <;> cases hgm
    rcases hkey with rfl | rfl
    · exact ⟨3, rfl⟩
    · exact ⟨5, rfl⟩
  exact ⟨rfl, hcounts, (parseLlmResult_chat_sum chatUsageResult rfl hcounts).trans rfl⟩

structure CostCallbackHandler where
  usageData : List TokenUsage
  llmResultParser : LLMResult → Except PyError TokenUsage

namespace CostCallbackHandler

def init : CostCallbackHandler := ⟨[], parseLlmResult⟩

/-- `on_llm_end`, whose body is `pass`. -/
def onLlmEnd (self : CostCallbackHandler) (_response : LLMResult) : CostCallbackHandler := self

def getUsageData (self : CostCallbackHandler) : List TokenUsage := self.usageData

end CostCallbackHandler

end Ragas
