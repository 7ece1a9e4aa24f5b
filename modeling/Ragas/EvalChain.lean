import Ragas.Json

/-!
# The LangChain evaluator adapter

`RagasEvaluatorChain` (`ragas/langchain/evalchain.py`) scores one row through
`_call` and a batch through `evaluate`. Both validate their input against the
metric's evaluation mode with `_validate`. `_call` reads the question, the
answer and the page contents of the source documents from one input mapping,
and takes a document given as a dict by its `"page_content"` key. `evaluate`
validates the merged row `{**example, **prediction}`, but then reads the
question from the example alone, the answer and the documents from the
prediction alone, and every document's `page_content` attribute. It collects
contexts only in modes `qac` and `qc`, so in every other mode the contexts
column stays empty.

The metric's scoring is external: the metric is a parameter. So is pyarrow's
conversion inside `Dataset.from_dict`, which is not under src/: each column is
converted, and may be refused, before arrow checks that the columns have one
length. `ArrowConversion` carries the facts of it that the results use.
-/

namespace Ragas.EvalChain

inductive EvaluationMode where
  | qac
  | qa
  | qc
  | gc
  | ga
  | qga
  | qcg
  deriving DecidableEq, Repr

/-- Modelled from the spec: `EVALMODE_TO_COLUMNS` is not under src/. A mode lists the fields
it requires among question, answer, contexts and ground truth (§4.4). -/
def evalmodeToColumns : EvaluationMode → List String
  | .qac => ["question", "answer", "contexts"]
  | .qa => ["question", "answer"]
  | .qc => ["question", "contexts"]
  | .gc => ["ground_truth", "contexts"]
  | .ga => ["ground_truth", "answer"]
  | .qga => ["question", "ground_truth", "answer"]
  | .qcg => ["question", "contexts", "ground_truth"]

/-- A value of the adapter's input mappings: JSON data, a langchain `Document` with its page
content, or a list of values. -/
inductive Value where
  | json (j : Json)
  | document (pageContent : String)
  | list (items : List Value)
  deriving Repr

namespace Value

def typeName : Value → String
  | json j => j.typeName
  | document _ => "Document"
  | list _ => "list"

def iter : Value → Except PyError (List Value)
  | list items => pure items
  | json j => (j.iter).map (·.map json)
  | v => throw (.typeError ("'" ++ v.typeName ++ "' object is not iterable"))

def pageContent : Value → Except PyError Value
  | document c => pure (json (.str c))
  | v => throw (.noAttribute v.typeName "page_content")

end Value

/-- One row handed to the metric: `{"question": ..., "answer": ..., "contexts": ...}`. -/
structure Row where
  question : Value
  answer : Value
  contexts : Value
  deriving Repr

structure Metric where
  name : String
  evaluationMode : EvaluationMode
  scoreSingle : Row → Except PyError Score
  score : List Row → Except PyError (List Score)

/-- pyarrow's conversion of one column of `Dataset.from_dict`, which may raise. A column
keeps its length, and strings and lists of strings come back as they went in. -/
structure ArrowConversion where
  convert : List Value → Except PyError (List Value)
  length_convert : ∀ {column converted}, convert column = .ok converted →
    converted.length = column.length
  convert_strings : ∀ strs : List String,
    convert (strs.map fun s => .json (.str s)) = .ok (strs.map fun s => .json (.str s))
  convert_string_lists : ∀ strss : List (List String),
    convert (strss.map fun strs => .list (strs.map fun s => .json (.str s))) =
      .ok (strss.map fun strs => .list (strs.map fun s => .json (.str s)))

/-- A table whose columns arrow stores and reads back as they are. -/
def ArrowConversion.keep : ArrowConversion where
  convert := pure
  length_convert h := by cases h; rfl
  convert_strings _ := rfl
  convert_string_lists _ := rfl

namespace Metric

def validate (self : Metric) (input : PyDict Value)
    (questionKey predictionKey contextKey : String) :
    Except PyError Unit := do
  let requiredColumns := evalmodeToColumns self.evaluationMode
  if "question" ∈ requiredColumns ∧ (PyDict.get? input questionKey).isNone then
    throw (.valueError ("\"" ++ questionKey ++ "\" is required in each example" ++
      "for the metric[" ++ self.name ++ "] you have chosen."))
  if "answer" ∈ requiredColumns ∧ (PyDict.get? input predictionKey).isNone then
    throw (.valueError ("\"" ++ predictionKey ++ "\" is required in each prediction" ++
      "for the metric[" ++ self.name ++ "] you have chosen."))
  if "contexts" ∈ requiredColumns ∧ (PyDict.get? input contextKey).isNone then
    throw (.valueError ("\"" ++ contextKey ++ "\" is required in each prediction for the " ++
      "metric[" ++ self.name ++ "] you have chosen."))

/-- The page content of one source document in `_call`: a dict's `"page_content"`, any other
value's `page_content` attribute. -/
def documentContent : Value → Except PyError Value
  | .json (.obj d) => Value.json <$> PyDict.getItem d "page_content"
  | document => document.pageContent

def scoreSingleInput (self : Metric) (inputs : PyDict Value) : Except PyError Row := do
  self.validate inputs "query" "result" "source_documents"
  let contexts ← match PyDict.get? inputs "source_documents" with
    | some documents => do (← documents.iter).mapM documentContent
    | none => pure []
  let question ← PyDict.getItem inputs "query"
  let answer ← PyDict.getItem inputs "result"
  pure ⟨question, answer, .list contexts⟩

def call (self : Metric) (inputs : PyDict Value) : Except PyError (PyDict Score) := do
  let score ← self.scoreSingle (← self.scoreSingleInput inputs)
  pure [(self.name ++ "_score", score)]

/-- The loop of `evaluate` over the paired rows, building the three columns. -/
def evaluateColumns (self : Metric) (questionKey predictionKey contextKey : String) :
    List (PyDict Value × PyDict Value) →
      Except PyError (List Value × List Value × List (List Value))
  | [] => pure ([], [], [])
  | (exampleRow, prediction) :: rows => do
      self.validate (exampleRow ++ prediction) questionKey predictionKey contextKey
      let question ← PyDict.getItem exampleRow questionKey
      let answer ← PyDict.getItem prediction predictionKey
      let contexts ← if self.evaluationMode ∈ [.qac, .qc] then
          do pure [← (← (← PyDict.getItem prediction contextKey).iter).mapM Value.pageContent]
        else pure []
      let (questions, answers, contextss) ← self.evaluateColumns questionKey predictionKey
        contextKey rows
      pure (question :: questions, answer :: answers, contexts ++ contextss)

/-- `Dataset.from_dict`: each column in turn is converted, then every column must have the
length of the first. -/
def fromDict (arrow : ArrowConversion) (question answer : List Value)
    (contexts : List (List Value)) : Except PyError (List Row) := do
  let question ← arrow.convert question
  let answer ← arrow.convert answer
  let contexts ← arrow.convert (contexts.map .list)
  if answer.length ≠ question.length then
    throw (.valueError ("Column 1 named answer expected length " ++ toString question.length ++
      " but got length " ++ toString answer.length))
  else if contexts.length ≠ question.length then
    throw (.valueError ("Column 2 named contexts expected length " ++ toString question.length ++
      " but got length " ++ toString contexts.length))
  else pure (List.zipWith (fun qa c => Row.mk qa.1 qa.2 c) (question.zip answer) contexts)

def evaluateDataset (self : Metric) (arrow : ArrowConversion)
    (examples predictions : List (PyDict Value)) (questionKey predictionKey contextKey : String) :
    Except PyError (List Row) := do
  if examples.length ≠ predictions.length then
    throw (.valueError ("number of examples and predictions must be same. Got " ++
      "len(examples)=" ++ toString examples.length ++ " and len(predictions)=" ++
      toString predictions.length))
  let (question, answer, contexts) ← self.evaluateColumns questionKey predictionKey contextKey
    (examples.zip predictions)
  fromDict arrow question answer contexts

def evaluate (self : Metric) (arrow : ArrowConversion) (examples predictions : List (PyDict Value))
    (questionKey predictionKey contextKey : String) : Except PyError (List (PyDict Score)) := do
  let datasetWithScores ← self.score
    (← self.evaluateDataset arrow examples predictions questionKey predictionKey contextKey)
  pure (datasetWithScores.map fun score => [(self.name ++ "_score", score)])

theorem evaluateColumns_lengths (m : Metric) (questionKey predictionKey contextKey : String) :
    ∀ {rows : List (PyDict Value × PyDict Value)} {questions answers : List Value}
      {contexts : List (List Value)},
      m.evaluateColumns questionKey predictionKey contextKey rows =
        .ok (questions, answers, contexts) →
      questions.length = rows.length ∧ answers.length = rows.length ∧
        contexts.length = if m.evaluationMode ∈ [.qac, .qc] then rows.length else 0
  | [], _, _, _, h => by cases h; simp
  | (exampleRow, prediction) :: rows, _, _, _, h => by
      simp only [evaluateColumns] at h
      obtain ⟨_, -, h⟩ := bind_eq_ok.mp h
      obtain ⟨question, -, h⟩ := bind_eq_ok.mp h
      obtain ⟨answer, -, h⟩ := bind_eq_ok.mp h
      split_ifs at h with hmode
      -- the documents' contents are read only in a mode that has contexts
      on_goal 1 => iterate 3 (obtain ⟨_, -, h⟩ := bind_eq_ok.mp h)
      all_goals
        obtain ⟨_, hrow, h⟩ := bind_eq_ok.mp h
        cases hrow
        obtain ⟨⟨questions, answers, contexts⟩, hrows, h⟩ := bind_eq_ok.mp h
        cases h
        obtain ⟨hq, ha, hc⟩ := evaluateColumns_lengths m questionKey predictionKey contextKey hrows
        simp [hq, ha, hc, hmode, Nat.add_comm]

def qacMetric : Metric := ⟨"faithfulness", .qac, fun _ => pure (.value 1),
  fun rows => pure (rows.map fun _ => .value 1)⟩

/-- A dict document raises `AttributeError`, and a query given by the prediction `KeyError`,
before the dataset is built. -/
theorem evaluate_dict_document_raises :
    qacMetric.scoreSingleInput ([("query", .json (.str "q"))] ++ [("result", .json (.str "a")),
        ("source_documents", .list [.json (.obj [("page_content", .str "c")])])]) =
      .ok ⟨.json (.str "q"), .json (.str "a"), .list [.json (.str "c")]⟩ ∧
    (∀ arrow, qacMetric.evaluate arrow [[("query", .json (.str "q"))]]
        [[("result", .json (.str "a")),
          ("source_documents", .list [.json (.obj [("page_content", .str "c")])])]]
        "query" "result" "source_documents" = .error (.noAttribute "dict" "page_content")) ∧
    qacMetric.scoreSingleInput ([] ++ [("query", .json (.str "q")), ("result", .json (.str "a")),
        ("source_documents", .list [.document "c"])]) =
      .ok ⟨.json (.str "q"), .json (.str "a"), .list [.json (.str "c")]⟩ ∧
    ∀ arrow, qacMetric.evaluate arrow [[]] [[("query", .json (.str "q")),
        ("result", .json (.str "a")), ("source_documents", .list [.document "c"])]]
        "query" "result" "source_documents" = .error (.keyError "query") :=
  ⟨rfl, fun _ => rfl, rfl, fun _ => rfl⟩

/-- The example has the query, the prediction the result and its `Document` sources and no
query; the query and the result are strings. -/
def WellSplit (pair : PyDict Value × PyDict Value) : Prop :=
  (∃ q : String, PyDict.get? pair.1 "query" = some (.json (.str q))) ∧
    PyDict.get? pair.2 "query" = none ∧
    (∃ a : String, PyDict.get? pair.2 "result" = some (.json (.str a))) ∧
    ∃ contents : List String,
      PyDict.get? pair.2 "source_documents" = some (.list (contents.map .document))

theorem mapM_documents {read : Value → Except PyError Value}
    (hread : ∀ c, read (.document c) = .ok (.json (.str c))) (contents : List String) :
    (contents.map Value.document).mapM read = .ok (contents.map fun c => .json (.str c)) := by
  induction contents with
  | nil => rfl
  | cons c contents ih =>
      simp only [List.map_cons, List.mapM_cons, hread, ih]
      rfl

theorem scoreSingleInput_wellSplit (m : Metric) {pair : PyDict Value × PyDict Value}
    (h : WellSplit pair) :
    ∃ (q a : String) (contents : List String),
      PyDict.get? pair.1 "query" = some (.json (.str q)) ∧
      PyDict.get? pair.2 "result" = some (.json (.str a)) ∧
      PyDict.get? pair.2 "source_documents" = some (.list (contents.map .document)) ∧
      m.validate (pair.1 ++ pair.2) "query" "result" "source_documents" = .ok () ∧
      m.scoreSingleInput (pair.1 ++ pair.2) =
        .ok ⟨.json (.str q), .json (.str a), .list (contents.map fun c => .json (.str c))⟩ := by
  obtain ⟨⟨q, hq⟩, hpq, ⟨a, ha⟩, contents, hd⟩ := h
  have mq : PyDict.get? (pair.1 ++ pair.2) "query" = some (.json (.str q)) := by
    rw [PyDict.get?_append_of_none hpq, hq]
  have ma := PyDict.get?_append_of_get? (d := pair.1) ha
  have md := PyDict.get?_append_of_get? (d := pair.1) hd
  have hv : m.validate (pair.1 ++ pair.2) "query" "result" "source_documents" = .ok () := by
    simp [validate, mq, ma, md, pure, Except.pure, bind, Except.bind]
  refine ⟨q, a, contents, hq, ha, hd, hv, ?_⟩
  simp only [scoreSingleInput, hv, md, mq, ma, PyDict.getItem, Value.iter, bind, Except.bind,
    pure, Except.pure, @mapM_documents documentContent (fun _ => rfl)]

theorem evaluateColumns_wellSplit (m : Metric) (hmode : m.evaluationMode = .qac) :
    ∀ rows : List (PyDict Value × PyDict Value), (∀ pair ∈ rows, WellSplit pair) →
      ∃ (questions answers : List String) (contexts : List (List String)),
        m.evaluateColumns "query" "result" "source_documents" rows =
          .ok (questions.map (fun s => .json (.str s)), answers.map (fun s => .json (.str s)),
            contexts.map fun c => c.map fun s => .json (.str s)) ∧
        questions.length = rows.length ∧ answers.length = rows.length ∧
        contexts.length = rows.length ∧
        rows.mapM (fun pair => m.scoreSingleInput (pair.1 ++ pair.2)) =
          .ok (List.zipWith (fun qa c => Row.mk qa.1 qa.2 c)
            ((questions.map fun s => .json (.str s)).zip (answers.map fun s => .json (.str s)))
            (contexts.map fun c => .list (c.map fun s => .json (.str s))))
  | [], _ => ⟨[], [], [], rfl, rfl, rfl, rfl, rfl⟩
  | (e, p) :: rows, h => by
      obtain ⟨q, a, contents, hq, ha, hd, hv, hs⟩ :=
        scoreSingleInput_wellSplit m (h (e, p) (List.mem_cons_self _ _))
      obtain ⟨qs, as, cs, hcols, hql, hal, hcl, hmap⟩ :=
        evaluateColumns_wellSplit m hmode rows fun pair hp => h pair (List.mem_cons_of_mem _ hp)
      refine ⟨q :: qs, a :: as, contents :: cs, ?_, by simp [hql], by simp [hal], by simp [hcl], ?_⟩
      · have hmem : m.evaluationMode ∈ [EvaluationMode.qac, .qc] := by simp [hmode]
        simp only [evaluateColumns, hv, PyDict.getItem, hq, ha, hd, hmem, if_true, hcols,
          Value.iter, @mapM_documents Value.pageContent (fun _ => rfl), bind, Except.bind, pure,
          Except.pure, List.singleton_append, List.map_cons]
      · simp only [List.mapM_cons, hs, hmap, bind, Except.bind, pure, Except.pure]
        rfl

/-- On well-split pairs, the dataset `evaluate` builds is, row for row, what `_call` passes
to `score_single`. -/
theorem evaluateDataset_eq_scoreSingleInput (m : Metric) (hmode : m.evaluationMode = .qac)
    (arrow : ArrowConversion) (examples predictions : List (PyDict Value))
    (hlen : examples.length = predictions.length)
    (hsplit : ∀ pair ∈ examples.zip predictions, WellSplit pair) :
    m.evaluateDataset arrow examples predictions "query" "result" "source_documents" =
      (examples.zip predictions).mapM fun pair => m.scoreSingleInput (pair.1 ++ pair.2) := by
  obtain ⟨qs, as, cs, hcols, hql, hal, hcl, hmap⟩ := evaluateColumns_wellSplit m hmode _ hsplit
  have hcontexts : (cs.map fun c => c.map fun s => Value.json (.str s)).map Value.list =
      cs.map fun c => .list (c.map fun s => .json (.str s)) := by
    simp [Function.comp_def]
  rw [hmap]
  simp [evaluateDataset, hlen, hcols, fromDict, hcontexts, arrow.convert_strings,
    arrow.convert_string_lists, hql, hal, hcl, bind, Except.bind, pure, Except.pure]

def splitExample : PyDict Value := [("query", .json (.str "q"))]

def splitPrediction : PyDict Value :=
  [("result", .json (.str "a")), ("source_documents", .list [.document "c"])]

theorem evaluateDataset_eq_scoreSingleInput_example :
    qacMetric.evaluationMode = .qac ∧ [splitExample].length = [splitPrediction].length ∧
    (∀ pair ∈ [splitExample].zip [splitPrediction], WellSplit pair) ∧
    qacMetric.evaluateDataset .keep [splitExample] [splitPrediction] "query" "result"
        "source_documents" =
      ([splitExample].zip [splitPrediction]).mapM
        fun pair => qacMetric.scoreSingleInput (pair.1 ++ pair.2) := by
  have hsplit : ∀ pair ∈ [splitExample].zip [splitPrediction], WellSplit pair := by
    intro pair hp
    rw [List.mem_singleton.mp hp]
    exact ⟨⟨"q", rfl⟩, rfl, ⟨"a", rfl⟩, ["c"], rfl⟩
  exact ⟨rfl, rfl, hsplit, evaluateDataset_eq_scoreSingleInput qacMetric rfl .keep
    [splitExample] [splitPrediction] rfl hsplit⟩

/-- In a mode that reads no source documents, `evaluate` never scores: it raises arrow's
error on a column, at the latest that the empty contexts column is too short. -/
theorem evaluate_without_contexts (m : Metric) (hmode : m.evaluationMode ∉ [.qac, .qc])
    (arrow : ArrowConversion) (examples predictions : List (PyDict Value))
    (questionKey predictionKey contextKey : String)
    (hlen : examples.length = predictions.length) (hne : examples ≠ []) :
    m.evaluate arrow examples predictions questionKey predictionKey contextKey =
      (m.evaluateColumns questionKey predictionKey contextKey (examples.zip predictions) >>=
        fun columns => arrow.convert columns.1 >>= fun _ => arrow.convert columns.2.1 >>= fun _ =>
          throw (.valueError ("Column 2 named contexts expected length " ++
            toString examples.length ++ " but got length 0"))) := by
  have hpos : predictions.length ≠ 0 := hlen ▸ (List.length_pos.mpr hne).ne'
  have hempty : arrow.convert [] = .ok [] := arrow.convert_strings []
  simp only [evaluate, evaluateDataset, hlen, ne_eq, not_true_eq_false, if_false]
  rcases hcols : m.evaluateColumns questionKey predictionKey contextKey (examples.zip predictions)
    with e | ⟨questions, answers, contexts⟩
  · rfl
  obtain ⟨hq, ha, hc⟩ := evaluateColumns_lengths m questionKey predictionKey contextKey hcols
  rw [if_neg hmode, List.length_eq_zero] at hc
  subst hc
  simp only [List.length_zip, hlen, min_self] at hq ha
  simp only [bind, Except.bind, fromDict, List.map_nil, hempty]
  rcases hqc : arrow.convert questions with e | questions'
  · rfl
  rcases hac : arrow.convert answers with e | answers'
  · rfl
  have hq' := (arrow.length_convert hqc).trans hq
  have ha' := (arrow.length_convert hac).trans ha
  simp [hq', ha', hpos.symm, pure, Except.pure, throw, throwThe, MonadExceptOf.throw,
    show toString (0 : ℕ) = "0" from rfl, String.append_assoc]

def qcgMetric : Metric := ⟨"context_recall", .qcg, fun _ => pure (.value 1),
  fun rows => pure (rows.map fun _ => .value 1)⟩

theorem evaluate_without_contexts_qcg :
    qcgMetric.evaluationMode ∉ [.qac, .qc] ∧ [splitExample].length = [splitPrediction].length ∧
    [splitExample] ≠ [] ∧
    qcgMetric.evaluate .keep [splitExample] [splitPrediction] "query" "result"
        "source_documents" =
      (qcgMetric.evaluateColumns "query" "result" "source_documents"
          ([splitExample].zip [splitPrediction]) >>=
        fun columns => ArrowConversion.keep.convert columns.1 >>= fun _ =>
          ArrowConversion.keep.convert columns.2.1 >>= fun _ =>
            throw (.valueError ("Column 2 named contexts expected length " ++
              toString [splitExample].length ++ " but got length 0"))) :=
  ⟨by decide, rfl, List.cons_ne_nil _ _, evaluate_without_contexts qcgMetric (by decide) .keep
    [splitExample] [splitPrediction] "query" "result" "source_documents" rfl (List.cons_ne_nil _ _)⟩

end Metric

end Ragas.EvalChain
