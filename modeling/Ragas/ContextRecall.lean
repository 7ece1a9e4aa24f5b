import Ragas.JsonLoad

/-!
# Context Recall

`ContextRecall._ascore` (`ragas/metrics/_context_recall.py`) asks, in one
gateway call, which sentences of the row's ground truth can be attributed to
the joined contexts. `_compute_score` validates the loaded reply, unwrapped
from `"classification"` when it is such a mapping, as
`ContextRecallClassificationAnswers`, a pydantic list of `{statement: str,
attributed: bool, reason: str}` records, and scores the share of attributed
records. A failed validation and an empty list both give NaN.

The validation is pydantic v1's on JSON values (`Ragas.Pydantic`): a record
may also come as a list of key and value pairs, `attributed` accepts pydantic's
boolean words and numbers, and the string fields accept numbers. Its only
exception is the `ValidationError` that `_compute_score` catches, so
`_compute_score` never raises. The reply goes through `json_loader.safe_load`
with the metric's model and the row's `is_async`, so a reply with no JSON in it
costs up to `max_retries` more gateway calls.
-/

namespace Ragas.ContextRecall

/-- `ContextRecallClassificationAnswer`; `statement` and `reason` are the values the `str`
validator accepted. -/
structure ContextRecallClassificationAnswer where
  statement : Json
  attributed : Bool
  reason : Json
  deriving Repr

/-- Validating one record from its keyword arguments: the three fields are required and go
through their validators; other keys are ignored. -/
def ContextRecallClassificationAnswer.validate (value : Json) :
    Option ContextRecallClassificationAnswer := do
  let kwargs ← Pydantic.kwargsOf value
  let statement ← Pydantic.strValidator (← PyDict.get? kwargs "statement")
  let attributed ← Pydantic.boolValidator (← PyDict.get? kwargs "attributed")
  let reason ← Pydantic.strValidator (← PyDict.get? kwargs "reason")
  pure ⟨statement, attributed, reason⟩

/-- `ContextRecallClassificationAnswers.parse_obj`: the `__root__` value must be a list of
valid records; any failure raises one `ValidationError`. -/
def parseObj (obj : Json) : Except PyError (List ContextRecallClassificationAnswer) :=
  match Pydantic.rootValue obj with
  | .arr items =>
      match items.mapM ContextRecallClassificationAnswer.validate with
      | some answers => pure answers
      | none => throw (.validationError "ContextRecallClassificationAnswers")
  | _ => throw (.validationError "ContextRecallClassificationAnswers")

/-- The reply `_compute_score` validates: the value under `"classification"` of a mapping
that has one, the reply itself otherwise. -/
def classificationOf : Json → Json
  | .obj d => (PyDict.get? d "classification").getD (.obj d)
  | response => response

def computeScore (response : Json) : Except PyError Score :=
  match parseObj (classificationOf response) with
  | .error (.validationError _) => pure .nan
  | .error e => throw e
  | .ok answers =>
      let response := answers.map fun item => if item.attributed then 1 else 0
      let denom := response.length
      let numerator : ℕ := response.sum
      pure (if denom > 0 then .value (numerator / denom) else .nan)

theorem sum_attributed (answers : List ContextRecallClassificationAnswer) :
    (answers.map fun item => if item.attributed then 1 else 0).sum =
      (answers.filter (·.attributed)).length := by
  induction answers with
  | nil => rfl
  | cons a answers ih => cases h : a.attributed <;> simp [h, ih, Nat.add_comm]

/-- The JSON of a well-typed record `{statement: str, attributed: bool, reason: str}`. -/
def recordJson (record : String × Bool × String) : Json :=
  .obj [("statement", .str record.1), ("attributed", .bool record.2.1),
    ("reason", .str record.2.2)]

theorem mapM_validate_records (records : List (String × Bool × String)) :
    (records.map recordJson).mapM ContextRecallClassificationAnswer.validate =
      some (records.map fun record => ⟨.str record.1, record.2.1, .str record.2.2⟩) := by
  induction records with
  | nil => rfl
  | cons record records ih =>
      rw [List.map_cons, List.mapM_cons, ih]
      rfl

theorem parseObj_records (records : List (String × Bool × String)) :
    parseObj (.arr (records.map recordJson)) =
      .ok (records.map fun record => ⟨.str record.1, record.2.1, .str record.2.2⟩) := by
  simp only [parseObj, Pydantic.rootValue, mapM_validate_records]
  rfl

theorem computeScore_records (records : List (String × Bool × String)) :
    computeScore (.arr (records.map recordJson)) = .ok (if records = [] then .nan
      else .value ((records.filter (·.2.1)).length / records.length)) := by
  simp only [computeScore, classificationOf, parseObj_records, List.length_map, sum_attributed,
    List.filter_map, Function.comp_def]
  cases records <;> simp [pure, Except.pure]

/-- Three records, two of them attributed, as the reply's `"classification"`. -/
example : computeScore (.obj [("classification", .arr ([("a", true, "r"), ("b", true, "r"),
    ("c", false, "r")].map recordJson))]) = .ok (.value (2 / 3)) := rfl

theorem computeScore_inUnit {r : Json} {score : Score} (h : computeScore r = .ok score) :
    score.InUnit := by
  unfold computeScore at h
  split at h <;> cases h
  · trivial
  · split
    · simpa [sum_attributed] using Score.inUnit_ratio (List.length_filter_le _ _)
    · trivial

inductive Prompt where
  /-- `CONTEXT_RECALL_RA` formatted with a question, a context and an answer. -/
  | contextRecallRa (question context answer : Json)
  /-- The loader's `JSON_PROMPT` with the text to repair. -/
  | json (input : String)
  deriving Repr

/-- `_create_context_recall_prompt`: the row's ground truth is the prompt's answer, and list
contexts are joined by newlines. -/
def createContextRecallPrompt (row : PyDict Json) : Except PyError Prompt := do
  let qstn ← PyDict.getItem row "question"
  let ctx ← PyDict.getItem row "contexts"
  let gt ← PyDict.getItem row "ground_truth"
  let ctx ← match ctx with
    | .arr _ => Json.str <$> pyJoin "\n" ctx
    | ctx => pure ctx
  pure (.contextRecallRa qstn ctx gt)

/-- `ContextRecall._ascore`: the gateway is called through `generate` with its default
`is_async`; the row's flag reaches the loader. -/
def ascore (llm : Option (BaseRagasLLM Prompt)) (jsonLoader : JsonLoader) (row : PyDict Json)
    (isAsync : Bool) : GatewayM Prompt Score := do
  let some llm := llm | throw (.assertionError "set LLM before use")
  let prompt ← MonadExcept.ofExcept (createContextRecallPrompt row)
  let result ← llm.generate prompt 1 1e-8 none true
  let text ← MonadExcept.ofExcept (firstText result)
  let response ← jsonLoader.safeLoad llm .json isAsync jsonLoader.maxRetries text
  MonadExcept.ofExcept (computeScore response)

/-- Whatever `_ascore` returns, from any trace, is `_compute_score` of a value the loader
returned: a parse of some text, or the loader's failure marker. -/
theorem ascore_returns_computeScore (llm : Option (BaseRagasLLM Prompt)) (jsonLoader : JsonLoader)
    (row : PyDict Json) (isAsync : Bool) :
    Returns (fun score => ∃ response, (response = jsonLoader.failureMarker ∨
        ∃ text, jsonLoader.findJson text = some response) ∧ computeScore response = .ok score)
      (ascore llm jsonLoader row isAsync) := by
  cases llm with
  | none => exact returns_throw _
  | some llm =>
      unfold ascore
      iterate 3 (apply returns_bind; intro _)
      exact returns_bind_of (jsonLoader.safeLoad_returns llm .json _ _ _) fun response hresponse =>
        returns_ofExcept fun _ hs => ⟨response, hresponse, hs⟩

theorem contextRecall_inUnit (llm : Option (BaseRagasLLM Prompt)) (jsonLoader : JsonLoader)
    (row : PyDict Json) (isAsync : Bool) :
    Returns Score.InUnit (ascore llm jsonLoader row isAsync) :=
  fun s score s' hrun =>
    let ⟨_, _, hs⟩ := ascore_returns_computeScore llm jsonLoader row isAsync s score s' hrun
    computeScore_inUnit hs

/-- At most `6 + 6 r` calls per row, each the row's prompt or a repair prompt for a text with
no JSON; a row whose prompt cannot be built makes none. -/
theorem contextRecall_sends (llm : BaseLanguageModel Prompt) (jsonLoader : JsonLoader)
    (row : PyDict Json) (isAsync : Bool) :
    Sends (6 + 6 * jsonLoader.maxRetries) (fun c => ∃ prompt,
        createContextRecallPrompt row = .ok prompt ∧ (c = attemptCall llm prompt 1 none ∨
          ∃ text, jsonLoader.findJson text = none ∧ c = attemptCall llm (.json text) 1 none))
      (ascore (some (LangchainLLMWrapper.toBaseRagasLLM ⟨llm⟩)) jsonLoader row isAsync) := by
  unfold ascore
  refine sends_ofExcept_bind fun prompt hprompt => ?_
  refine sends_mono (by omega : 6 + (6 * jsonLoader.maxRetries + 0) ≤
    6 + 6 * jsonLoader.maxRetries) ?_
  refine sends_bind (sends_weaken (sends_retry_generateWith llm _ _ 1 _ none)
    fun c hc => ⟨prompt, hprompt, .inl hc⟩) fun _ => sends_ofExcept_bind fun _ _ => ?_
  exact sends_bind (sends_weaken (jsonLoader.safeLoad_sends llm .json _ _ _)
    fun c hc => ⟨prompt, hprompt, .inr hc⟩) fun _ => sends_ofExcept _

/-- When the reply loads to well-typed records, `_ascore` makes exactly the one call and
returns the share of attributed records. -/
theorem ascore_scores_loaded_records (llm : BaseLanguageModel Prompt) (jsonLoader : JsonLoader)
    {row : PyDict Json} {prompt : Prompt} {text : String}
    {records : List (String × Bool × String)} (isAsync : Bool)
    (hprompt : createContextRecallPrompt row = .ok prompt)
    (hanswer : Answers llm.ageneratePrompt (attemptCall llm prompt 1 none) text)
    (hrecords : jsonLoader.findJson text = some (.arr (records.map recordJson)))
    (s : List (ProviderCall Prompt)) :
    (ascore (some (LangchainLLMWrapper.toBaseRagasLLM ⟨llm⟩)) jsonLoader row isAsync).run.run s =
      (.ok (if records = [] then .nan
        else .value ((records.filter (·.2.1)).length / records.length)),
        s ++ [attemptCall llm prompt 1 none]) := by
  obtain ⟨r, hrun, htext⟩ := retry_generateWith_of_answers hanswer 1e-8 s
  simp only [ascore, run_bind, run_ofExcept, hprompt, BaseRagasLLM.generate, if_true,
    LangchainLLMWrapper.toBaseRagasLLM, LangchainLLMWrapper.agenerateText, hrun, htext,
    jsonLoader.safeLoad_of_findJson hrecords, computeScore_records]

def recordsReply : Provider Prompt := fun _ _ => .ok ⟨[[.plain "R"]], some [], none⟩

def recordsModel : BaseLanguageModel Prompt := ⟨[.other "RecordsLLM"], recordsReply, recordsReply⟩

def halfAttributed : List (String × Bool × String) := [("s", true, "r"), ("t", false, "r")]

def recordsLoader : JsonLoader :=
  ⟨fun _ => some (.arr (halfAttributed.map recordJson)), .obj [], 2, true⟩

def recallRow : PyDict Json :=
  [("question", .str "q"), ("contexts", .arr [.str "c"]), ("ground_truth", .str "g")]

theorem ascore_scores_loaded_records_half :
    createContextRecallPrompt recallRow = .ok (.contextRecallRa (.str "q") (.str "c") (.str "g")) ∧
    Answers recordsModel.ageneratePrompt
      (attemptCall recordsModel (.contextRecallRa (.str "q") (.str "c") (.str "g")) 1 none) "R" ∧
    recordsLoader.findJson "R" = some (.arr (halfAttributed.map recordJson)) ∧
    (ascore (some (LangchainLLMWrapper.toBaseRagasLLM ⟨recordsModel⟩)) recordsLoader recallRow
        false).run.run [] =
      (.ok (.value (1 / 2)),
        [attemptCall recordsModel (.contextRecallRa (.str "q") (.str "c") (.str "g")) 1 none]) := by
  have hanswer : Answers recordsModel.ageneratePrompt
      (attemptCall recordsModel (.contextRecallRa (.str "q") (.str "c") (.str "g")) 1 none) "R" :=
    fun _ => ⟨_, _, rfl, rfl, rfl⟩
  exact ⟨rfl, hanswer, rfl, (@ascore_scores_loaded_records recordsModel recordsLoader recallRow
    (.contextRecallRa (.str "q") (.str "c") (.str "g")) "R" halfAttributed false rfl hanswer rfl
    []).trans rfl⟩

end Ragas.ContextRecall
