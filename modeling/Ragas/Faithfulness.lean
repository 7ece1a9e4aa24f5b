import Ragas.JsonLoad

/-!
# Faithfulness

`Faithfulness.ascore` (`ragas/metrics/_faithfulness.py`) makes two gateway
calls on one row. The first extracts statements from the answer; the loaded
reply's `"statements"` are judged, with `["Nil"]` standing in for none. The
second asks for a verdict on each statement against the joined contexts. The
score is Python's `sum` of the verdicts mapped by `{"yes": 1, "no": 0,
"null": nan}`, with NaN for any other verdict, divided by the number of
verdicts, and NaN when there are none. A NaN term makes the sum NaN, so one
unrecognised verdict makes the whole score NaN.

Both replies go through `json_loader.safe_load` with the metric's model, so a
reply with no JSON in it costs up to `max_retries` more gateway calls. The
metric reads the loaded value directly, so its loader is the blocking one with
its default `is_async`. The prompts keep the values their templates are
formatted with.

The verification reply is checked to be a list, but the extraction reply is read
with `.get`, the statements are enumerated and each verdict record is read with
`.get` and `.lower()` without a check, so a reply of another shape raises.
-/

namespace Ragas.Faithfulness

/-- The prompts `ascore` sends, by the values their templates are formatted with. -/
inductive Prompt where
  /-- `LONG_FORM_ANSWER_PROMPT` with the row's question and answer. -/
  | longFormAnswer (question answer : Json)
  /-- `NLI_STATEMENTS_MESSAGE` with the joined contexts and the enumerated statements. -/
  | nliStatements (context : String) (statements : List Json)
  /-- The loader's `JSON_PROMPT` with the text to repair. -/
  | json (input : String)
  deriving Repr

/-- `v != []` fails only for the empty list. -/
def isEmptyList : Json → Bool
  | .arr [] => true
  | _ => false

/-- The statements to judge: the reply's `"statements"` (`[]` when absent), or `["Nil"]`
in place of `[]`. -/
def statementsOf (reply : Json) : Except PyError Json := do
  let statements ← reply.get "statements" (.arr [])
  pure (if isEmptyList statements then .arr [.str "Nil"] else statements)

def verdictScoreMap : String → Score
  | "yes" => .value 1
  | "no" => .value 0
  | "null" => .nan
  | _ => .nan

/-- One term of the sum: `verdict_score_map.get(dict.get("verdict", "").lower(), np.nan)`. -/
def verdictScore (record : Json) : Except PyError Score := do
  let verdict ← record.get "verdict" (.str "")
  match verdict with
  | .str v => pure (verdictScoreMap (pyLower v))
  | v => throw (.noAttribute v.typeName "lower")

def pySum (terms : List Score) : Score := terms.foldl Score.add (.value 0)

/-- The verdict step: a reply that is not a list counts as no verdicts; the score is the
sum of the terms over their number, NaN for none. -/
def scoreVerdicts (reply : Json) : Except PyError Score := do
  let output := match reply with
    | .arr records => records
    | _ => []
  let faithfulStatements := pySum (← output.mapM verdictScore)
  let numStatements := output.length
  if numStatements ≠ 0 then pure (faithfulStatements.div numStatements) else pure .nan

def ascore (llm : Option (BaseRagasLLM Prompt)) (jsonLoader : JsonLoader)
    (dataRow : PyDict Json) : GatewayM Prompt Score := do
  let some llm := llm | throw (.assertionError "LLM is not set")
  let question ← MonadExcept.ofExcept (PyDict.getItem dataRow "question")
  let answer ← MonadExcept.ofExcept (PyDict.getItem dataRow "answer")
  let contexts ← MonadExcept.ofExcept (PyDict.getItem dataRow "contexts")
  let result ← llm.generateText (.longFormAnswer question answer) 1 1e-8 none
  let contextsStr ← MonadExcept.ofExcept (pyJoin "\n" contexts)
  let text ← MonadExcept.ofExcept (firstText result)
  let reply ← jsonLoader.safeLoad llm .json jsonLoader.isAsync jsonLoader.maxRetries text
  let statements ← MonadExcept.ofExcept (statementsOf reply)
  let statements ← MonadExcept.ofExcept statements.iter
  let result ← llm.generateText (.nliStatements contextsStr statements) 1 1e-8 none
  let output ← MonadExcept.ofExcept (firstText result)
  let output ← jsonLoader.safeLoad llm .json jsonLoader.isAsync jsonLoader.maxRetries output
  MonadExcept.ofExcept (scoreVerdicts output)

theorem verdictScoreMap_eq (v : String) :
    verdictScoreMap v = if v = "yes" then .value 1 else if v = "no" then .value 0 else .nan := by
  unfold verdictScoreMap
  split <;> simp_all

theorem foldl_add_nan (terms : List Score) : terms.foldl Score.add .nan = .nan := by
  induction terms with
  | nil => rfl
  | cons t terms ih => exact ih

theorem foldl_verdictScoreMap {β : Type} (f : β → String) (V : List β) (a : ℚ) :
    (V.map fun d => verdictScoreMap (f d)).foldl Score.add (.value a) =
      if ∀ d ∈ V, f d = "yes" ∨ f d = "no" then .value (a + (V.filter fun d => f d = "yes").length)
      else .nan := by
  induction V generalizing a with
  | nil => simp
  | cons d V ih =>
      simp only [List.map_cons, List.foldl_cons, List.mem_cons, forall_eq_or_imp]
      by_cases hy : f d = "yes"
      · rw [verdictScoreMap_eq, if_pos hy, Score.add_value, ih,
          List.filter_cons_of_pos (by simpa using hy), List.length_cons, Nat.cast_succ, add_assoc,
          add_comm (1 : ℚ)]
        simp only [hy, true_or, true_and]
      by_cases hn : f d = "no"
      · rw [verdictScoreMap_eq, if_neg hy, if_pos hn, Score.add_value, add_zero, ih,
          List.filter_cons_of_neg (by simpa using hy)]
        simp [hn]
      · rw [verdictScoreMap_eq, if_neg hy, if_neg hn, Score.add_nan, foldl_add_nan]
        simp [hy, hn]

def verdictText (d : PyDict Json) : String :=
  match PyDict.get? d "verdict" with
  | some (.str s) => s
  | _ => ""

theorem verdictScore_record {d : PyDict Json}
    (h : ∀ v, PyDict.get? d "verdict" = some v → ∃ s, v = .str s) :
    verdictScore (.obj d) = .ok (verdictScoreMap (pyLower (verdictText d))) := by
  rcases hv : PyDict.get? d "verdict" with _ | v
  · simp only [verdictScore, verdictText, Json.get, hv]
    rfl
  · obtain ⟨s, rfl⟩ := h v hv
    simp only [verdictScore, verdictText, Json.get, hv]
    rfl

theorem mapM_verdictScore_records {V : List (PyDict Json)}
    (hV : ∀ d ∈ V, ∀ v, PyDict.get? d "verdict" = some v → ∃ s, v = .str s) :
    (V.map Json.obj).mapM verdictScore =
      .ok (V.map fun d => verdictScoreMap (pyLower (verdictText d))) := by
  induction V with
  | nil => rfl
  | cons d V ih =>
      simp only [List.map_cons, List.mapM_cons, verdictScore_record (hV d (List.mem_cons_self _ _)),
        ih fun e he => hV e (List.mem_cons_of_mem _ he)]
      rfl

theorem verdictScore_term {record : Json} {t : Score} (h : verdictScore record = .ok t) :
    t = .nan ∨ t = .value 0 ∨ t = .value 1 := by
  obtain ⟨_, -, h⟩ := bind_eq_ok.mp h
  split at h
  · cases h
    rw [verdictScoreMap_eq]
    split_ifs <;> simp
  · cases h

theorem foldl_terms {terms : List Score}
    (h : ∀ t ∈ terms, t = .nan ∨ t = .value 0 ∨ t = .value 1) (a : ℚ) :
    terms.foldl Score.add (.value a) = .nan ∨
      ∃ c : ℕ, c ≤ terms.length ∧ terms.foldl Score.add (.value a) = .value (a + c) := by
  induction terms generalizing a with
  | nil => exact .inr ⟨0, le_refl _, by simp⟩
  | cons t terms ih =>
      have ht := ih fun u hu => h u (List.mem_cons_of_mem _ hu)
      rcases h t (List.mem_cons_self _ _) with rfl | rfl | rfl
      · exact .inl (foldl_add_nan terms)
      · rcases ht a with hnan | ⟨c, hc, hsum⟩
        · exact .inl (by simpa using hnan)
        · exact .inr ⟨c, by simp; omega, by simpa using hsum⟩
      · rcases ht (a + 1) with hnan | ⟨c, hc, hsum⟩
        · exact .inl hnan
        · refine .inr ⟨c + 1, by simp [hc], ?_⟩
          rw [List.foldl_cons, Score.add_value, hsum, Nat.cast_succ, add_assoc, add_comm (1 : ℚ)]

theorem scoreVerdicts_inUnit {reply : Json} {score : Score}
    (h : scoreVerdicts reply = .ok score) : score.InUnit := by
  obtain ⟨terms, hterms, h⟩ := bind_eq_ok.mp h
  obtain ⟨hlen, hmem⟩ := mapM_except_ok hterms
  have hterm : ∀ t ∈ terms, t = .nan ∨ t = .value 0 ∨ t = .value 1 := fun t ht => by
    obtain ⟨_, _, hx⟩ := hmem t ht
    exact verdictScore_term hx
  dsimp only at h
  split at h <;> cases h
  · rcases foldl_terms hterm 0 with hnan | ⟨c, hc, hsum⟩
    · simp [pySum, hnan, Score.InUnit]
    · rw [pySum, hsum, zero_add, Score.div_value]
      exact Score.inUnit_ratio (hlen ▸ hc)
  · trivial

theorem scoreVerdicts_of_not_list {reply : Json} (h : ∀ records, reply ≠ .arr records) :
    scoreVerdicts reply = .ok .nan := by
  cases reply <;> first | rfl | exact absurd rfl (h _)

theorem scoreVerdicts_obj_records {V : List (PyDict Json)}
    (hV : ∀ d ∈ V, ∀ v, PyDict.get? d "verdict" = some v → ∃ s, v = .str s) :
    scoreVerdicts (.arr (V.map .obj)) =
      .ok (if V.isEmpty then .nan
        else if ∀ d ∈ V, pyLower (verdictText d) = "yes" ∨ pyLower (verdictText d) = "no"
        then .value ((V.filter fun d => pyLower (verdictText d) = "yes").length / V.length)
        else .nan) := by
  simp only [scoreVerdicts, mapM_verdictScore_records hV, bind, Except.bind, pySum,
    List.length_map, foldl_verdictScoreMap, zero_add]
  cases V with
  | nil => rfl
  | cons d V => split_ifs <;> simp_all [pure, Except.pure]

/-- On verdict records, the score is the share lowering to `"yes"` when each lowers to
`"yes"` or `"no"`, and NaN otherwise or for none; a non-list reply is no verdicts. -/
theorem scoreVerdicts_records (V : List (PyDict Json))
    (hV : ∀ d ∈ V, ∀ v, PyDict.get? d "verdict" = some v → ∃ s, v = .str s) :
    (∀ reply : Json, (∀ records, reply ≠ .arr records) → scoreVerdicts reply = .ok .nan) ∧
    scoreVerdicts (.arr (V.map .obj)) =
      .ok (if V.isEmpty then .nan
        else if ∀ d ∈ V, pyLower (verdictText d) = "yes" ∨ pyLower (verdictText d) = "no"
        then .value ((V.filter fun d => pyLower (verdictText d) = "yes").length / V.length)
        else .nan) ∧
    (∀ score, scoreVerdicts (.arr (V.map .obj)) = .ok score → score.InUnit) :=
  ⟨fun _ => scoreVerdicts_of_not_list, scoreVerdicts_obj_records hV, fun _ => scoreVerdicts_inUnit⟩

def yesNoRecords : List (PyDict Json) := [[("verdict", .str "Yes")], [("verdict", .str "no")]]

theorem yesNoRecords_verdicts_str :
    ∀ d ∈ yesNoRecords, ∀ v, PyDict.get? d "verdict" = some v → ∃ s, v = .str s := by
  intro d hd v hv
  simp only [yesNoRecords, List.mem_cons, List.mem_singleton, List.not_mem_nil, or_false] at hd
  rcases hd with rfl | rfl <;> cases hv <;> exact ⟨_, rfl⟩

theorem scoreVerdicts_records_yes_no :
    (∀ d ∈ yesNoRecords, ∀ v, PyDict.get? d "verdict" = some v → ∃ s, v = .str s) ∧
    (∀ reply : Json, (∀ records, reply ≠ .arr records) → scoreVerdicts reply = .ok .nan) ∧
    scoreVerdicts (.arr (yesNoRecords.map .obj)) = .ok (.value (1 / 2)) ∧
    (∀ score, scoreVerdicts (.arr (yesNoRecords.map .obj)) = .ok score → score.InUnit) :=
  have ⟨hlist, hscore, hunit⟩ := scoreVerdicts_records yesNoRecords yesNoRecords_verdicts_str
  ⟨yesNoRecords_verdicts_str, hlist, hscore.trans rfl, hunit⟩

/-- `[{"verdict": "Yes"}, {"verdict": "Maybe"}]` scores NaN, not `1 / 2`. -/
theorem scoreVerdicts_unrecognised_verdict :
    scoreVerdicts (.arr [.obj [("verdict", .str "Yes")], .obj [("verdict", .str "Maybe")]]) =
      .ok .nan ∧
    scoreVerdicts (.arr [.obj [("verdict", .str "Yes")], .obj [("verdict", .str "Maybe")]]) ≠
      .ok (.value (1 / 2)) := by
  have h : scoreVerdicts (.arr [.obj [("verdict", .str "Yes")], .obj [("verdict", .str "Maybe")]])
      = .ok .nan := rfl
  exact ⟨h, fun h' => by cases h'.symm.trans h⟩

/-- Whatever `ascore` returns, from any trace, is the verdict score of a value the loader
returned: a parse of some text, or the loader's failure marker. -/
theorem ascore_returns_scoreVerdicts (llm : Option (BaseRagasLLM Prompt))
    (jsonLoader : JsonLoader) (dataRow : PyDict Json) :
    Returns (fun score => ∃ reply, (reply = jsonLoader.failureMarker ∨
        ∃ text, jsonLoader.findJson text = some reply) ∧ scoreVerdicts reply = .ok score)
      (ascore llm jsonLoader dataRow) := by
  cases llm with
  | none => exact returns_throw _
  | some llm =>
      unfold ascore
      iterate 11 (apply returns_bind; intro _)
      exact returns_bind_of (jsonLoader.safeLoad_returns llm .json _ _ _) fun reply hreply =>
        returns_ofExcept fun _ hs => ⟨reply, hreply, hs⟩

theorem faithfulness_inUnit (llm : Option (BaseRagasLLM Prompt)) (jsonLoader : JsonLoader)
    (dataRow : PyDict Json) : Returns Score.InUnit (ascore llm jsonLoader dataRow) :=
  fun s score s' hrun =>
    let ⟨_, _, hs⟩ := ascore_returns_scoreVerdicts llm jsonLoader dataRow s score s' hrun
    scoreVerdicts_inUnit hs

/-- At most `12 + 12 r` calls per row, each the extraction prompt, the verification prompt
once the contexts are joined, or a repair prompt for a text with no JSON. -/
theorem faithfulness_sends (llm : BaseLanguageModel Prompt) (jsonLoader : JsonLoader)
    (dataRow : PyDict Json) :
    Sends (12 + 12 * jsonLoader.maxRetries) (fun c => ∃ question answer contexts,
        PyDict.get? dataRow "question" = some question ∧
        PyDict.get? dataRow "answer" = some answer ∧
        PyDict.get? dataRow "contexts" = some contexts ∧
        (c = attemptCall llm (.longFormAnswer question answer) 1 none ∨
          ∃ context, pyJoin "\n" contexts = .ok context ∧
            ((∃ statements, c = attemptCall llm (.nliStatements context statements) 1 none) ∨
              ∃ text, jsonLoader.findJson text = none ∧ c = attemptCall llm (.json text) 1 none)))
      (ascore (some (LangchainLLMWrapper.toBaseRagasLLM ⟨llm⟩)) jsonLoader dataRow) := by
  unfold ascore
  refine sends_ofExcept_bind fun q hq => sends_ofExcept_bind fun a ha =>
    sends_ofExcept_bind fun ctx hc => ?_
  rw [PyDict.getItem_eq_ok] at hq ha hc
  refine sends_mono (by omega : 6 + (6 * jsonLoader.maxRetries + (6 + (6 * jsonLoader.maxRetries
    + 0))) ≤ 12 + 12 * jsonLoader.maxRetries) ?_
  refine sends_bind (sends_weaken (sends_retry_generateWith llm _ _ 1 _ none)
    fun c hc' => ⟨q, a, ctx, hq, ha, hc, .inl hc'⟩) fun _ => ?_
  refine sends_ofExcept_bind fun context hjoin => sends_ofExcept_bind fun _ _ => ?_
  refine sends_bind (sends_weaken (jsonLoader.safeLoad_sends llm .json _ _ _)
    fun c hc' => ⟨q, a, ctx, hq, ha, hc, .inr ⟨context, hjoin, .inr hc'⟩⟩) fun _ => ?_
  refine sends_ofExcept_bind fun _ _ => sends_ofExcept_bind fun _ _ => ?_
  refine sends_bind (sends_weaken (sends_retry_generateWith llm _ _ 1 _ none)
    fun c hc' => ⟨q, a, ctx, hq, ha, hc, .inr ⟨context, hjoin, .inl ⟨_, hc'⟩⟩⟩) fun _ => ?_
  refine sends_ofExcept_bind fun _ _ => ?_
  exact sends_bind (sends_weaken (jsonLoader.safeLoad_sends llm .json _ _ _)
    fun c hc' => ⟨q, a, ctx, hq, ha, hc, .inr ⟨context, hjoin, .inr hc'⟩⟩) fun _ =>
    sends_ofExcept _

/-- With both replies loading, `ascore` makes exactly the two calls and scores the loaded
verdicts. -/
theorem ascore_scores_loaded_verdicts (llm : BaseLanguageModel Prompt) (jsonLoader : JsonLoader)
    {dataRow : PyDict Json} {question answer : Json} {contexts : List String}
    (hq : PyDict.get? dataRow "question" = some question)
    (ha : PyDict.get? dataRow "answer" = some answer)
    (hc : PyDict.get? dataRow "contexts" = some (.arr (contexts.map .str)))
    {extraction verification : String} {d : PyDict Json} {statements : List Json}
    {V : List (PyDict Json)}
    (hext : Answers llm.generatePrompt (attemptCall llm (.longFormAnswer question answer) 1 none)
      extraction)
    (hextracted : jsonLoader.findJson extraction = some (.obj d))
    (hstatements : PyDict.get? d "statements" = some (.arr statements)) (hne : statements ≠ [])
    (hverify : Answers llm.generatePrompt
      (attemptCall llm (.nliStatements ("\n".intercalate contexts) statements) 1 none)
      verification)
    (hverdicts : jsonLoader.findJson verification = some (.arr (V.map .obj)))
    (hV : ∀ d ∈ V, ∀ v, PyDict.get? d "verdict" = some v → ∃ s, v = .str s)
    (s : List (ProviderCall Prompt)) :
    (ascore (some (LangchainLLMWrapper.toBaseRagasLLM ⟨llm⟩)) jsonLoader dataRow).run.run s =
      (.ok (if V.isEmpty then .nan
        else if ∀ d ∈ V, pyLower (verdictText d) = "yes" ∨ pyLower (verdictText d) = "no"
        then .value ((V.filter fun d => pyLower (verdictText d) = "yes").length / V.length)
        else .nan),
        s ++ [attemptCall llm (.longFormAnswer question answer) 1 none,
          attemptCall llm (.nliStatements ("\n".intercalate contexts) statements) 1 none]) := by
  obtain ⟨r₁, hrun₁, htext₁⟩ := retry_generateWith_of_answers hext 1e-8 s
  obtain ⟨r₂, hrun₂, htext₂⟩ := retry_generateWith_of_answers hverify 1e-8
    (s ++ [attemptCall llm (.longFormAnswer question answer) 1 none])
  have hstmts : statementsOf (.obj d) = .ok (.arr statements) := by
    cases statements with
    | nil => exact absurd rfl hne
    | cons _ _ => simp [statementsOf, Json.get, hstatements, isEmptyList, bind, Except.bind,
        pure, Except.pure]
  simp only [ascore, run_bind, run_ofExcept, PyDict.getItem, hq, ha, hc, pure, Except.pure,
    LangchainLLMWrapper.toBaseRagasLLM, LangchainLLMWrapper.generateText, hrun₁, pyJoin_strs,
    htext₁, jsonLoader.safeLoad_of_findJson hextracted, hstmts, Json.iter, hrun₂, htext₂,
    jsonLoader.safeLoad_of_findJson hverdicts, scoreVerdicts_obj_records hV, List.append_assoc,
    List.singleton_append]

def scriptedReply : Provider Prompt := fun _ call =>
  .ok ⟨[[.plain (match call.prompts with
    | [.longFormAnswer _ _] => "E"
    | _ => "V")]], some [], none⟩

def scriptedModel : BaseLanguageModel Prompt :=
  ⟨[.other "ScriptedLLM"], scriptedReply, scriptedReply⟩

/-- A loader that finds two statements in `E` and the verdicts `Yes` and `no` in any other
text. -/
def scriptedLoader : JsonLoader :=
  ⟨fun text => if text = "E" then some (.obj [("statements", .arr [.str "s", .str "t"])])
    else some (.arr (yesNoRecords.map .obj)), .obj [], 2, false⟩

def scriptedRow : PyDict Json :=
  [("question", .str "q"), ("answer", .str "a"), ("contexts", .arr [.str "c"])]

theorem ascore_scores_loaded_verdicts_scripted :
    PyDict.get? scriptedRow "question" = some (.str "q") ∧
    PyDict.get? scriptedRow "answer" = some (.str "a") ∧
    PyDict.get? scriptedRow "contexts" = some (.arr (["c"].map .str)) ∧
    Answers scriptedModel.generatePrompt
      (attemptCall scriptedModel (.longFormAnswer (.str "q") (.str "a")) 1 none) "E" ∧
    scriptedLoader.findJson "E" = some (.obj [("statements", .arr [.str "s", .str "t"])]) ∧
    PyDict.get? [("statements", Json.arr [.str "s", .str "t"])] "statements" =
      some (.arr [.str "s", .str "t"]) ∧
    [Json.str "s", .str "t"] ≠ [] ∧
    Answers scriptedModel.generatePrompt
      (attemptCall scriptedModel (.nliStatements ("\n".intercalate ["c"]) [.str "s", .str "t"]) 1
        none) "V" ∧
    scriptedLoader.findJson "V" = some (.arr (yesNoRecords.map .obj)) ∧
    (∀ d ∈ yesNoRecords, ∀ v, PyDict.get? d "verdict" = some v → ∃ s, v = .str s) ∧
    (ascore (some (LangchainLLMWrapper.toBaseRagasLLM ⟨scriptedModel⟩)) scriptedLoader
        scriptedRow).run.run [] =
      (.ok (.value (1 / 2)),
        [attemptCall scriptedModel (.longFormAnswer (.str "q") (.str "a")) 1 none,
          attemptCall scriptedModel (.nliStatements "c" [.str "s", .str "t"]) 1 none]) := by
  have hext : Answers scriptedModel.generatePrompt
      (attemptCall scriptedModel (.longFormAnswer (.str "q") (.str "a")) 1 none) "E" :=
    fun _ => ⟨_, _, rfl, rfl, rfl⟩
  have hverify : Answers scriptedModel.generatePrompt
      (attemptCall scriptedModel (.nliStatements ("\n".intercalate ["c"]) [.str "s", .str "t"]) 1
        none) "V" :=
    fun _ => ⟨_, _, rfl, rfl, rfl⟩
  exact ⟨rfl, rfl, rfl, hext, rfl, rfl, List.cons_ne_nil _ _, hverify, rfl,
    yesNoRecords_verdicts_str,
    (@ascore_scores_loaded_verdicts scriptedModel scriptedLoader scriptedRow (.str "q") (.str "a")
      ["c"] rfl rfl rfl "E" "V" [("statements", .arr [.str "s", .str "t"])] [.str "s", .str "t"]
      yesNoRecords hext rfl rfl (List.cons_ne_nil _ _) hverify rfl yesNoRecords_verdicts_str
      []).trans rfl⟩

def listReply : Provider Prompt := fun _ call =>
  .ok ⟨call.prompts.map fun _ => [.plain "[]"], some [], none⟩

def listReplyModel : BaseLanguageModel Prompt := ⟨[.other "ListReplyLLM"], listReply, listReply⟩

def listReplyLlm : BaseRagasLLM Prompt := (LangchainLLMWrapper.mk listReplyModel).toBaseRagasLLM

def listLoader : JsonLoader := ⟨fun _ => some (.arr []), .obj [], 2, false⟩

/-- An extraction reply that loads to a list makes `ascore` raise `AttributeError` at
`.get("statements", [])`. -/
theorem ascore_list_reply_raises :
    ((ascore (some listReplyLlm) listLoader
      [("question", .str "q"), ("answer", .str "a"), ("contexts", .arr [.str "c"])]).run.run
        []).1 = .error (.noAttribute "list" "get") := rfl

/-- The contexts are joined only after the extraction call, so a join error comes after its one
to six attempts, unless the call itself raised `RetryError`. -/
theorem ascore_join_error_after_calls (llm : BaseLanguageModel Prompt) (jsonLoader : JsonLoader)
    {dataRow : PyDict Json} {question answer contexts : Json}
    (hq : PyDict.get? dataRow "question" = some question)
    (ha : PyDict.get? dataRow "answer" = some answer)
    (hc : PyDict.get? dataRow "contexts" = some contexts) {e : PyError}
    (hjoin : pyJoin "\n" contexts = .error e) (s : List (ProviderCall Prompt)) :
    ∃ calls, 1 ≤ calls ∧ calls ≤ 6 ∧
      (∀ e', ((LangchainLLMWrapper.generateText ⟨llm⟩ (.longFormAnswer question answer) 1 1e-8
        none).run.run s).1 = .error e' → ∃ e₀, e' = .retryError e₀) ∧
      (ascore (some (LangchainLLMWrapper.toBaseRagasLLM ⟨llm⟩)) jsonLoader dataRow).run.run s =
        (((LangchainLLMWrapper.generateText ⟨llm⟩ (.longFormAnswer question answer) 1 1e-8
            none).run.run s).1 >>= fun _ => .error e,
          s ++ List.replicate calls
            (attemptCall llm (.longFormAnswer question answer) 1 none)) := by
  obtain ⟨r, calls, h1, h6, herr, hrun⟩ := retry_outcome_bounds
    (generateWith_trace llm llm.generatePrompt (.longFormAnswer question answer) 1 1e-8 none) 5 s
  have hrun' : (LangchainLLMWrapper.generateText ⟨llm⟩ (.longFormAnswer question answer) 1 1e-8
      none).run.run s = (r, s ++ List.replicate calls
        (attemptCall llm (.longFormAnswer question answer) 1 none)) := hrun
  refine ⟨calls, h1, h6, by rw [hrun']; exact herr, ?_⟩
  simp only [ascore, run_bind, run_ofExcept, PyDict.getItem, hq, ha, hc, pure, Except.pure,
    LangchainLLMWrapper.toBaseRagasLLM, hrun']
  rcases r with e' | result
  · rfl
  · simp only [hjoin]
    rfl

def intContextRow : PyDict Json :=
  [("question", .str "q"), ("answer", .str "a"), ("contexts", .arr [.int 1])]

theorem ascore_join_error_after_calls_int_context :
    PyDict.get? intContextRow "question" = some (.str "q") ∧
    PyDict.get? intContextRow "answer" = some (.str "a") ∧
    PyDict.get? intContextRow "contexts" = some (.arr [.int 1]) ∧
    pyJoin "\n" (.arr [.int 1]) =
      .error (.typeError "sequence item 0: expected str instance, int found") ∧
    ∃ calls, 1 ≤ calls ∧ calls ≤ 6 ∧
      (∀ e', ((LangchainLLMWrapper.generateText ⟨listReplyModel⟩
        (.longFormAnswer (.str "q") (.str "a")) 1 1e-8 none).run.run []).1 = .error e' →
          ∃ e₀, e' = .retryError e₀) ∧
      (ascore (some (LangchainLLMWrapper.toBaseRagasLLM ⟨listReplyModel⟩)) listLoader
          intContextRow).run.run [] =
        (((LangchainLLMWrapper.generateText ⟨listReplyModel⟩
            (.longFormAnswer (.str "q") (.str "a")) 1 1e-8 none).run.run []).1 >>= fun _ =>
              .error (.typeError "sequence item 0: expected str instance, int found"),
          [] ++ List.replicate calls
            (attemptCall listReplyModel (.longFormAnswer (.str "q") (.str "a")) 1 none)) :=
  ⟨rfl, rfl, rfl, rfl, @ascore_join_error_after_calls listReplyModel listLoader
    intContextRow (.str "q") (.str "a") (.arr [.int 1]) rfl rfl rfl _ rfl []⟩

end Ragas.Faithfulness
