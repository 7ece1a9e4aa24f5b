import Ragas.Gateway

/-!
# The structured output loader

`json_loader.safe_load` is not under src/: it is modelled from the spec (§4.3).
It looks for a JSON value in a completion's text. When there is none and
retries remain, it asks the same gateway to repair the text with `JSON_PROMPT`,
spends one retry and starts again on the completion it gets back; with no
retries left it returns its failure marker instead of raising. The repair calls
are `generate` calls with its defaults `n = 1` and `temperature = 1e-8` and the
loader's `is_async`, so they are provider calls of the row like any other, and
an exception of the gateway reaches the metric.

How a JSON value is located and parsed in free text, the failure marker, the
default number of retries and the default `is_async` are not given by the spec.
They are the fields of `JsonLoader`, and every result holds for all of them.
The loader never makes up a value: what it returns is a parse of some text or
its failure marker.
-/

namespace Ragas

/-- What the spec leaves open about the loader. -/
structure JsonLoader where
  /-- Locating a JSON-shaped substring of free text and parsing it. -/
  findJson : String → Option Json
  failureMarker : Json
  /-- The default of `retries_remaining`. -/
  maxRetries : ℕ
  /-- The default of `is_async`. -/
  isAsync : Bool

namespace JsonLoader
variable {P : Type} (self : JsonLoader)

/-- `safe_load(text, llm, is_async, retries)`; `jsonPrompt` is `JSON_PROMPT` formatted with a
text, among the metric's prompts. -/
def safeLoad (llm : BaseRagasLLM P) (jsonPrompt : String → P) (isAsync : Bool) :
    ℕ → String → GatewayM P Json
  | 0, text => pure ((self.findJson text).getD self.failureMarker)
  | retries + 1, text =>
      match self.findJson text with
      | some value => pure value
      | none => do
          let result ← llm.generate (jsonPrompt text) 1 1e-8 none isAsync
          let text ← MonadExcept.ofExcept (firstText result)
          safeLoad llm jsonPrompt isAsync retries text

theorem safeLoad_of_findJson {llm : BaseRagasLLM P} {jsonPrompt : String → P} {isAsync : Bool}
    {text : String} {value : Json} (h : self.findJson text = some value) (retries : ℕ)
    (s : List (ProviderCall P)) :
    (self.safeLoad llm jsonPrompt isAsync retries text).run.run s = (.ok value, s) := by
  cases retries <;> simp [safeLoad, h]

/-- Every value the loader returns is a parse of some text, or its failure marker. -/
theorem safeLoad_returns (llm : BaseRagasLLM P) (jsonPrompt : String → P) (isAsync : Bool) :
    ∀ retries text, Returns (fun value => value = self.failureMarker ∨
      ∃ text, self.findJson text = some value) (self.safeLoad llm jsonPrompt isAsync retries text)
  | 0, text => returns_pure <| by
      rcases h : self.findJson text with _ | value
      · exact .inl rfl
      · exact .inr ⟨text, h⟩
  | retries + 1, text => by
      rw [safeLoad]
      split
      · exact returns_pure (.inr ⟨text, ‹_›⟩)
      · exact returns_bind _ fun _ => returns_bind _ fun text =>
          safeLoad_returns llm jsonPrompt isAsync retries text

/-- With `retries` retries, the loader makes at most `retries` gateway calls, at most six
provider calls each, and each asks to repair a text in which no JSON was found. -/
theorem safeLoad_sends (llm : BaseLanguageModel P) (jsonPrompt : String → P) (isAsync : Bool) :
    ∀ retries text, Sends (6 * retries)
      (fun c => ∃ text, self.findJson text = none ∧ c = attemptCall llm (jsonPrompt text) 1 none)
      (self.safeLoad (LangchainLLMWrapper.toBaseRagasLLM ⟨llm⟩) jsonPrompt isAsync retries text)
  | 0, _ => sends_pure _
  | retries + 1, text => by
      rw [safeLoad]
      split
      · exact sends_mono (Nat.zero_le _) (sends_pure _)
      · rename_i hnone
        refine sends_mono (by omega : 6 + 6 * retries ≤ 6 * (retries + 1)) ?_
        exact sends_bind (sends_weaken (generate_sends llm (jsonPrompt text) 1 1e-8 none isAsync)
          fun c hc => ⟨text, hnone, hc⟩) fun _ =>
            sends_ofExcept_bind fun text _ => safeLoad_sends llm jsonPrompt isAsync retries text

end JsonLoader

end Ragas
